import Conneg.MediaType.Basic

/-!
# Conneg.Proofs.ReadBack

Reading a media type back from its written form.

1. The lemmas on pieces mirror those of `Conneg.MediaType.Reader`: each piece is
   read from its own text followed by what ends it, and the rest is left.
2. `Spelling.read_write`: a well-formed spelling is read back as it is.
3. `parse_text`: a media type is read back from its text. So each media type is
   one that some text is read as, and what a text is read as depends only on the
   trimmed text.
-/

namespace Conneg.MediaType

open Text

/-! ## pieces -/

/-- A token is read up to the character that ends it. -/
theorem readToken_append {stop : Char} {missing : Fault} {t : List Char} (rest : List Char)
    (hne : t ≠ []) (ht : ∀ c ∈ t, isToken c = true) (hstop : isToken stop = false) :
    readToken stop missing (t ++ stop :: rest) = .ok (t, rest) := by
  unfold readToken
  rw [dropWhile_run ht hstop, takeWhile_run ht hstop]
  exact if_pos ⟨rfl, hne⟩

/-- A token is read up to the next `;`, or to the end of the text. -/
theorem readLast_append {t : List Char} {rest : Option (List Char)}
    (hne : rest.isSome → t ≠ []) (ht : ∀ c ∈ t, isToken c = true) :
    readLast (t ++ ending rest) = .ok (t, rest) := by
  unfold readLast
  cases rest with
  | none =>
    rw [ending_none, List.append_nil, dropWhile_all ht, takeWhile_all ht]
  | some rest =>
    have hstop : isToken ';' = false := by decide
    rw [ending_some, dropWhile_run ht hstop, takeWhile_run ht hstop]
    exact if_pos ⟨rfl, hne rfl⟩

/-- Spaces in front of something else are split off there. -/
theorem splitSpaces_replicate (n : Nat) {s : List Char} (hs : ∀ c ∈ s.head?, c ≠ ' ') :
    splitSpaces (List.replicate n ' ' ++ s) = (n, s) := by
  have hspaces : ∀ c ∈ List.replicate n ' ', (c == ' ') = true := by
    intro c hc
    rw [List.eq_of_mem_replicate hc]
    rfl
  unfold splitSpaces
  cases s with
  | nil =>
    rw [List.append_nil, takeWhile_all hspaces, dropWhile_all hspaces, List.length_replicate]
  | cons c s =>
    have hc : (c == ' ') = false := by simpa using hs c rfl
    rw [takeWhile_run hspaces hc, dropWhile_run hspaces hc, List.length_replicate]

/-- What ends a parameter is no space. -/
theorem head?_ending_ne_space (rest : Option (List Char)) :
    ∀ c ∈ (ending rest).head?, c ≠ ' ' := by
  intro c hc
  cases rest with
  | none => cases hc
  | some rest =>
    obtain rfl : ';' = c := by simpa using hc
    decide

/-- The spaces behind a closing quote are counted up to the next `;`. -/
theorem readGap_append (gap : Nat) (rest : Option (List Char)) :
    readGap (List.replicate gap ' ' ++ ending rest) = .ok (gap, rest) := by
  unfold readGap
  rw [splitSpaces_replicate gap (head?_ending_ne_space rest)]
  cases rest with
  | none => rfl
  | some rest => exact if_pos rfl

/-- A quoted text is read up to its closing quote. -/
theorem readQuotedText_append {t : List Char} {gap : Nat} (rest : List Char)
    (h : (ParamValue.quoted t gap).WellFormed) :
    readQuotedText (t ++ '"' :: rest) = .ok (t, rest) := by
  match t, h with
  | c :: t, ⟨hc, ht⟩ =>
    have hquote : isQuotedRest '"' = false := by decide
    rw [List.cons_append, readQuotedText, if_pos hc, dropWhile_run ht hquote,
      takeWhile_run ht hquote]
    exact if_pos rfl

/-! ## parameters -/

/-- A value without quotes does not start with one. -/
theorem head?_bare_ne_quote {t : List Char} (rest : Option (List Char))
    (ht : ∀ c ∈ t, isToken c = true) : (t ++ ending rest).head? ≠ some '"' := by
  intro h
  cases t with
  | nil =>
    cases rest with
    | none => simp at h
    | some rest => simp at h
  | cons c t =>
    obtain rfl : c = '"' := by simpa using h
    have := ht '"' List.mem_cons_self
    exact absurd this (by decide)

/-- A value is read up to what ends it. An empty one can only stand at the end. -/
theorem readValue_append {v : ParamValue} {rest : Option (List Char)} (h : v.WellFormed)
    (hne : rest.isSome → v ≠ .bare []) :
    readValue (v.write ++ ending rest) = .ok (v, rest) := by
  unfold readValue
  cases v with
  | bare t =>
    have hlast : readLast (t ++ ending rest) = .ok (t, rest) :=
      readLast_append (fun hr ht => hne hr (by rw [ht])) h
    rw [ParamValue.write, if_neg (head?_bare_ne_quote rest h), hlast]
    rfl
  | quoted t gap =>
    have hwrite : (ParamValue.quoted t gap).write ++ ending rest =
        '"' :: (t ++ '"' :: (List.replicate gap ' ' ++ ending rest)) := by
      simp [ParamValue.write]
    rw [hwrite, List.head?_cons, if_pos rfl, List.tail_cons, readQuotedText_append _ h, ok_bind]
    dsimp only
    rw [readGap_append]
    rfl

/-- A parameter is read up to what ends it. -/
theorem readParam_append {p : Param} {rest : Option (List Char)} (h : p.WellFormed)
    (hne : rest.isSome → p.value ≠ .bare []) :
    readParam (p.write ++ ending rest) = .ok (p, rest) := by
  have hhead : ∀ c ∈ (p.name ++ '=' :: (p.value.write ++ ending rest)).head?, c ≠ ' ' := by
    intro c hc
    obtain ⟨d, t, ht⟩ := List.exists_cons_of_ne_nil h.name_ne_nil
    obtain rfl : d = c := by simpa [ht] using hc
    have := h.name_token d (by simp [ht])
    rintro rfl
    exact absurd this (by decide)
  have hwrite : p.write ++ ending rest =
      List.replicate p.lead ' ' ++ (p.name ++ '=' :: (p.value.write ++ ending rest)) := by
    simp [Param.write]
  have hequal : isToken '=' = false := by decide
  unfold readParam
  rw [hwrite, splitSpaces_replicate _ hhead, readToken_append _ h.name_ne_nil h.name_token hequal,
    ok_bind]
  dsimp only
  rw [readValue_append h.value hne]
  rfl

/-! ## lists of parameters -/

/-- A parameter with no `;` behind it is the last one. -/
theorem readParams_last {s : List Char} {p : Param} (h : readParam s = .ok (p, none)) :
    readParams s = .ok ([p], false) := by
  cases s with
  | nil => cases h
  | cons c s =>
    rw [readParams]
    split
    · next h' => rw [h] at h'; cases h'
    · next h' => rw [h] at h'; cases h'; rfl
    · next h' => rw [h] at h'; cases h'

/-- Behind a `;` the parameters go on. -/
theorem readParams_more {s rest : List Char} {p : Param}
    (h : readParam s = .ok (p, some rest)) :
    readParams s = (readParams rest).map fun (ps, trailing) => (p :: ps, trailing) := by
  cases s with
  | nil => cases h
  | cons c s =>
    rw [readParams]
    split
    · next h' => rw [h] at h'; cases h'
    · next h' => rw [h] at h'; cases h'
    · next h' => rw [h] at h'; cases h'; rfl

/-- What stands behind the first `;`, if there is one. -/
def behindSemicolon : List Param → Bool → Option (List Char)
  | [], false => none
  | [], true => some []
  | p :: ps, trailing => some (p.write ++ ending (behindSemicolon ps trailing))

/-- With its `;` it is what is written behind the subtype. -/
theorem ending_behindSemicolon (ps : List Param) (trailing : Bool) :
    ending (behindSemicolon ps trailing) =
      writeParams ps ++ if trailing then [';'] else [] := by
  induction ps with
  | nil => cases trailing <;> rfl
  | cons p ps ih =>
    rw [behindSemicolon, ending_some, ih, writeParams, List.cons_append, List.cons_append,
      List.append_assoc]

/-- No `;` follows the subtype only if there are no parameters. -/
theorem behindSemicolon_eq_none {ps : List Param} {trailing : Bool}
    (h : behindSemicolon ps trailing = none) : ps = [] ∧ trailing = false := by
  cases ps with
  | nil =>
    cases trailing with
    | false => exact ⟨rfl, rfl⟩
    | true => cases h
  | cons p ps => cases h

/-- Only the last value may be empty, and only if no `;` follows it. -/
theorem ParamsWellFormed.value_ne_nil {p : Param} {ps : List Param} {trailing : Bool}
    (h : ParamsWellFormed trailing (p :: ps)) (hmore : (behindSemicolon ps trailing).isSome) :
    p.value ≠ .bare [] := by
  cases ps with
  | cons q ps => exact h.inner p List.mem_cons_self
  | nil =>
    cases trailing with
    | false => cases hmore
    | true => exact h.closed rfl p List.mem_cons_self

/-- Without their first one, parameters are still well formed. -/
theorem ParamsWellFormed.tail {p : Param} {ps : List Param} {trailing : Bool}
    (h : ParamsWellFormed trailing (p :: ps)) : ParamsWellFormed trailing ps where
  each := fun q hq => h.each q (List.mem_cons_of_mem _ hq)
  inner := by
    intro q hq
    cases ps with
    | nil => cases hq
    | cons r ps => exact h.inner q (List.mem_cons_of_mem _ hq)
  closed := fun ht q hq => h.closed ht q (List.mem_cons_of_mem _ hq)

/-- Parameters are read back one by one, the trailing `;` included. -/
theorem readParams_behindSemicolon {ps : List Param} {trailing : Bool} {s : List Char}
    (h : ParamsWellFormed trailing ps) (hs : behindSemicolon ps trailing = some s) :
    readParams s = .ok (ps, trailing) := by
  induction ps generalizing s with
  | nil =>
    cases trailing with
    | false => cases hs
    | true =>
      obtain rfl : [] = s := by simpa [behindSemicolon] using hs
      rw [readParams]
  | cons p ps ih =>
    obtain rfl : p.write ++ ending (behindSemicolon ps trailing) = s := by
      simpa [behindSemicolon] using hs
    have hp := readParam_append (h.each p List.mem_cons_self) h.value_ne_nil
    cases hrest : behindSemicolon ps trailing with
    | none =>
      rw [hrest] at hp
      obtain ⟨rfl, rfl⟩ := behindSemicolon_eq_none hrest
      exact readParams_last hp
    | some rest =>
      rw [hrest] at hp
      rw [readParams_more hp, ih h.tail hrest]
      rfl

/-! ## media types -/

/-- A well-formed spelling is read back as it is. -/
theorem Spelling.read_write {s : Spelling} (h : s.WellFormed) : Spelling.read s.write = .ok s := by
  have hslash : isToken '/' = false := by decide
  -- behind the subtype there is nothing, or a `;` with all that follows it
  have hwrite : s.write =
      s.type ++ '/' :: (s.subtype ++ ending (behindSemicolon s.params s.trailing)) := by
    rw [ending_behindSemicolon]
    simp [write, essence]
  have hsubtype : (behindSemicolon s.params s.trailing).isSome → s.subtype ≠ [] := by
    intro hmore
    refine h.subtype_ne_nil ?_
    cases hp : s.params with
    | cons p ps => exact .inl (List.cons_ne_nil p ps)
    | nil =>
      cases ht : s.trailing with
      | true => exact .inr rfl
      | false =>
        rw [hp, ht] at hmore
        cases hmore
  unfold read
  rw [hwrite, readToken_append _ h.type_ne_nil h.type_token hslash, ok_bind]
  dsimp only
  rw [readLast_append hsubtype h.subtype_token, ok_bind]
  dsimp only
  cases hrest : behindSemicolon s.params s.trailing with
  | none =>
    obtain ⟨hp, ht⟩ := behindSemicolon_eq_none hrest
    obtain ⟨type, subtype, params, trailing⟩ := s
    cases hp
    cases ht
    rfl
  | some rest =>
    dsimp only
    rw [readParams_behindSemicolon h.params hrest]
    rfl

/-- What a text is read as depends on what its trimmed text is read as. -/
theorem parse_of_read {s : String} {r : Spelling} (h : Spelling.read (trim s.toList) = .ok r) :
    ∃ m, parse s = .ok m ∧ m.spelling = r.normalise := by
  cases hp : parse s with
  | error e =>
    unfold parse at hp
    dsimp only at hp
    split at hp
    · next h' => rw [h] at h'; cases h'
    · cases hp
  | ok m =>
    refine ⟨m, rfl, ?_⟩
    unfold parse at hp
    dsimp only at hp
    split at hp
    · cases hp
    · next h' =>
      rw [h] at h'
      cases h'
      cases hp
      rfl

/-- A media type is known by its spelling. -/
theorem ext {m n : MediaType} (h : m.spelling = n.spelling) : m = n := by
  cases m
  cases n
  simp_all

/-- **Round trip.** A media type is read back from its text. -/
theorem parse_text (m : MediaType) : parse m.text = .ok m := by
  have hread : Spelling.read (trim m.text.toList) = .ok m.spelling := by
    rw [text, String.toList_ofList, trim_of_trimmed m.trimmed, Spelling.read_write m.wellFormed]
  obtain ⟨n, hn, hspelling⟩ := parse_of_read hread
  rw [hn, ext (hspelling.trans m.normal)]

end Conneg.MediaType
