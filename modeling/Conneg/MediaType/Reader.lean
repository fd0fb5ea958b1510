import Conneg.MediaType.Spelling
import Conneg.Steps
import Conneg.Text.Run

/-!
# Conneg.MediaType.Reader

Reading the written form of a media type.

1. `Spelling.read` follows the grammar from the front and never backtracks: the
   first character that cannot stand where it is found stops it, and so does a
   text that ends before a `/`, an `=` or a closing quote.
2. A `;` that ends the text is accepted, and so is an empty last value.
3. `read_sound`: what is read is well formed, and its text is exactly the text
   that was read.
-/

namespace Conneg.MediaType

open Text

/-- Why a text is no media type. -/
inductive Fault where
  /-- The text ends before the `/`. -/
  | missingSlash
  /-- The text ends before the `=` of a parameter. -/
  | missingEqual
  /-- The text ends inside quotes. -/
  | missingQuote
  /-- The first character of this remaining text cannot stand where it is. -/
  | unexpected (rest : List Char)
  deriving DecidableEq

/-! ## pieces -/

/-- Reads a token that is not empty and the character `stop` after it. -/
def readToken (stop : Char) (missing : Fault) (s : List Char) :
    Except Fault (List Char × List Char) :=
  match s.dropWhile isToken with
  | [] => .error missing
  | c :: rest =>
      if c = stop ∧ s.takeWhile isToken ≠ [] then .ok (s.takeWhile isToken, rest)
      else .error (.unexpected (c :: rest))

/-- Reads a token up to a `;`, or up to the end of the text, where it may be
empty. The rest is the text after the `;`, if there is one. -/
def readLast (s : List Char) : Except Fault (List Char × Option (List Char)) :=
  match s.dropWhile isToken with
  | [] => .ok (s.takeWhile isToken, none)
  | c :: rest =>
      if c = ';' ∧ s.takeWhile isToken ≠ [] then .ok (s.takeWhile isToken, some rest)
      else .error (.unexpected (c :: rest))

/-- Splits off the spaces in front. -/
def splitSpaces (s : List Char) : Nat × List Char :=
  ((s.takeWhile (· == ' ')).length, s.dropWhile (· == ' '))

/-- Reads the spaces after a closing quote, up to a `;` or the end of the text. -/
def readGap (s : List Char) : Except Fault (Nat × Option (List Char)) :=
  match splitSpaces s with
  | (gap, []) => .ok (gap, none)
  | (gap, c :: rest) =>
      if c = ';' then .ok (gap, some rest) else .error (.unexpected (c :: rest))

/-- Reads the text between quotes and the closing quote. -/
def readQuotedText : List Char → Except Fault (List Char × List Char)
  | [] => .error .missingQuote
  | c :: s =>
      if isQuotable c then
        match s.dropWhile isQuotedRest with
        | [] => .error .missingQuote
        | d :: rest =>
            if d = '"' then .ok (c :: s.takeWhile isQuotedRest, rest)
            else .error (.unexpected (d :: rest))
      else .error (.unexpected (c :: s))

/-! ## parameters -/

/-- Reads a value, quoted or not, and what ends it. -/
def readValue (s : List Char) : Except Fault (ParamValue × Option (List Char)) :=
  if s.head? = some '"' then do
    let (text, rest) ← readQuotedText s.tail
    let (gap, rest) ← readGap rest
    return (.quoted text gap, rest)
  else do
    let (text, rest) ← readLast s
    return (.bare text, rest)

/-- Reads a parameter from behind its `;`. -/
def readParam (s : List Char) : Except Fault (Param × Option (List Char)) := do
  let (name, rest) ← readToken '=' .missingEqual (splitSpaces s).2
  let (value, rest) ← readValue rest
  return (⟨(splitSpaces s).1, name, value⟩, rest)

/-! ## what the pieces read -/

/-- The text that ends a value: nothing, or a `;` and the rest. -/
def ending : Option (List Char) → List Char
  | none => []
  | some rest => ';' :: rest

@[simp] theorem ending_none : ending none = [] := rfl

@[simp] theorem ending_some (rest : List Char) : ending (some rest) = ';' :: rest := rfl

/-- A token is not empty, and the text is the token, the character that ends it and the
rest. -/
theorem readToken_sound {stop : Char} {missing : Fault} {s t rest : List Char}
    (h : readToken stop missing s = .ok (t, rest)) :
    t ≠ [] ∧ (∀ c ∈ t, isToken c = true) ∧ s = t ++ stop :: rest := by
  unfold readToken at h
  split at h
  · simp at h
  · next hd =>
    split at h
    · next hc =>
      obtain ⟨rfl, rfl⟩ := by simpa using h
      exact ⟨hc.2, fun _ => of_mem_takeWhile, (run_append_eq rfl (hc.1 ▸ hd)).symm⟩
    · simp at h

/-- What is read here is a token and what ends it. It is empty only at the end. -/
theorem readLast_sound {s t : List Char} {rest : Option (List Char)}
    (h : readLast s = .ok (t, rest)) :
    (rest.isSome → t ≠ []) ∧ (∀ c ∈ t, isToken c = true) ∧ s = t ++ ending rest := by
  unfold readLast at h
  split at h
  · next hd =>
    obtain ⟨rfl, rfl⟩ := by simpa using h
    exact ⟨by simp, fun _ => of_mem_takeWhile, (run_append_eq rfl hd).symm⟩
  · next hd =>
    split at h
    · next hc =>
      obtain ⟨rfl, rfl⟩ := by simpa using h
      exact ⟨fun _ => hc.2, fun _ => of_mem_takeWhile,
        by rw [ending_some, ← hc.1, run_append_eq rfl hd]⟩
    · simp at h

/-- Spaces that are split off and the rest make up the text. -/
theorem splitSpaces_append (s : List Char) :
    List.replicate (splitSpaces s).1 ' ' ++ (splitSpaces s).2 = s := by
  have h : s.takeWhile (· == ' ') = List.replicate (s.takeWhile (· == ' ')).length ' ' := by
    rw [List.eq_replicate_iff]
    exact ⟨rfl, fun c hc => by simpa using of_mem_takeWhile hc⟩
  unfold splitSpaces
  rw [← h, List.takeWhile_append_dropWhile]

/-- Nothing but spaces stands behind a closing quote. -/
theorem readGap_sound {s : List Char} {gap : Nat} {rest : Option (List Char)}
    (h : readGap s = .ok (gap, rest)) : s = List.replicate gap ' ' ++ ending rest := by
  have hs := splitSpaces_append s
  unfold readGap at h
  split at h
  · next hd =>
    obtain ⟨rfl, rfl⟩ := by simpa using h
    simpa [hd] using hs.symm
  · next hd =>
    split at h
    · next hc =>
      obtain ⟨rfl, rfl⟩ := by simpa using h
      simpa [hd, hc] using hs.symm
    · simp at h

/-- What is read between quotes can be quoted, with any gap behind it. -/
theorem readQuotedText_sound {s t rest : List Char} (h : readQuotedText s = .ok (t, rest)) :
    (∀ gap, (ParamValue.quoted t gap).WellFormed) ∧ s = t ++ '"' :: rest := by
  unfold readQuotedText at h
  split at h
  · simp at h
  · next c s =>
    split at h
    · next hq =>
      split at h
      · simp at h
      · next hd =>
        split at h
        · next hc =>
          obtain ⟨rfl, rfl⟩ := by simpa using h
          refine ⟨fun gap => ⟨hq, fun _ => of_mem_takeWhile⟩, ?_⟩
          rw [List.cons_append, run_append_eq rfl (hc ▸ hd)]
        · simp at h
    · simp at h

/-- A value that is read is well formed, and its text is what was read. -/
theorem readValue_sound {s : List Char} {v : ParamValue} {rest : Option (List Char)}
    (h : readValue s = .ok (v, rest)) :
    v.WellFormed ∧ (rest.isSome → v ≠ .bare []) ∧ s = v.write ++ ending rest := by
  unfold readValue at h
  split at h
  · next hs =>
    obtain ⟨⟨t, r⟩, ht, h⟩ := bind_eq_ok.1 h
    obtain ⟨⟨gap, r'⟩, hg, h⟩ := bind_eq_ok.1 h
    obtain ⟨rfl, rfl⟩ := by simpa [pure, Except.pure] using h
    obtain ⟨hwf, htail⟩ := readQuotedText_sound ht
    refine ⟨hwf gap, by simp, ?_⟩
    obtain ⟨u, rfl⟩ := List.head?_eq_some_iff.1 hs
    have := readGap_sound hg
    simp_all [ParamValue.write]
  · obtain ⟨⟨t, r⟩, ht, h⟩ := bind_eq_ok.1 h
    obtain ⟨rfl, rfl⟩ := by simpa [pure, Except.pure] using h
    obtain ⟨hne, htok, hs⟩ := readLast_sound ht
    exact ⟨htok, by simpa using hne, hs⟩

/-- A parameter that is read is well formed, and its text is what was read. -/
theorem readParam_sound {s : List Char} {p : Param} {rest : Option (List Char)}
    (h : readParam s = .ok (p, rest)) :
    p.WellFormed ∧ (rest.isSome → p.value ≠ .bare []) ∧ s = p.write ++ ending rest := by
  unfold readParam at h
  obtain ⟨⟨name, r⟩, hn, h⟩ := bind_eq_ok.1 h
  obtain ⟨⟨v, r'⟩, hv, h⟩ := bind_eq_ok.1 h
  obtain ⟨rfl, rfl⟩ := by simpa [pure, Except.pure] using h
  obtain ⟨hne, htok, hs⟩ := readToken_sound hn
  obtain ⟨hwf, hval, rfl⟩ := readValue_sound hv
  refine ⟨⟨hne, htok, hwf⟩, hval, ?_⟩
  conv => lhs; rw [← splitSpaces_append s, hs]
  simp [Param.write]

/-- A parameter takes its characters away, so reading one after another ends. -/
theorem length_of_readParam {s rest : List Char} {p : Param}
    (h : readParam s = .ok (p, some rest)) : rest.length < s.length := by
  rw [(readParam_sound h).2.2]
  simp
  omega

/-! ## whole texts -/

/-- Reads the parameters from behind a `;`, and whether a `;` ends the text. -/
def readParams (s : List Char) : Except Fault (List Param × Bool) :=
  match s with
  | [] => .ok ([], true)
  | c :: s =>
      match _h : readParam (c :: s) with
      | .error f => .error f
      | .ok (p, none) => .ok ([p], false)
      | .ok (p, some rest) => (readParams rest).map fun (ps, trailing) => (p :: ps, trailing)
termination_by s.length
decreasing_by exact length_of_readParam ‹_›

/-- Reads a media type as it is written. -/
def Spelling.read (s : List Char) : Except Fault Spelling := do
  let (type, rest) ← readToken '/' .missingSlash s
  let (subtype, rest) ← readLast rest
  match rest with
  | none => return ⟨type, subtype, [], false⟩
  | some rest =>
      let (params, trailing) ← readParams rest
      return ⟨type, subtype, params, trailing⟩

/-- Parameters that are read are well formed, and their text with the `;` in front is
what was read. -/
theorem readParams_sound {s : List Char} {ps : List Param} {trailing : Bool}
    (h : readParams s = .ok (ps, trailing)) :
    ParamsWellFormed trailing ps ∧
      ';' :: s = writeParams ps ++ if trailing then [';'] else [] := by
  fun_induction readParams s generalizing ps trailing with
  | case1 =>
    obtain ⟨rfl, rfl⟩ := by simpa using h
    exact ⟨paramsWellFormed_nil true, rfl⟩
  | case2 => simp at h
  | case3 c s p hp =>
    obtain ⟨rfl, rfl⟩ := by simpa using h
    obtain ⟨hwf, -, hs⟩ := readParam_sound hp
    exact ⟨paramsWellFormed_singleton hwf, by simp [hs, writeParams]⟩
  | case4 c s p rest hp ih =>
    obtain ⟨⟨qs, tr⟩, hr, he⟩ := map_eq_ok.1 h
    obtain ⟨rfl, rfl⟩ := by simpa using he
    obtain ⟨hwf, hne, hs⟩ := readParam_sound hp
    obtain ⟨hps, hrest⟩ := ih hr
    refine ⟨paramsWellFormed_cons hwf (hne rfl) hps, ?_⟩
    rw [hs, ending_some, hrest]
    simp [writeParams]

/-- What is read is well formed, and its text is the text that was read. -/
theorem Spelling.read_sound {s : List Char} {t : Spelling} (h : Spelling.read s = .ok t) :
    t.WellFormed ∧ t.write = s := by
  unfold read at h
  obtain ⟨⟨type, r⟩, ht, h1⟩ := bind_eq_ok.1 h
  obtain ⟨⟨subtype, r'⟩, hsub, h2⟩ := bind_eq_ok.1 h1
  obtain ⟨hne, htok, hs⟩ := readToken_sound ht
  obtain ⟨hsne, hstok, hr⟩ := readLast_sound hsub
  cases r' with
  | none =>
    obtain rfl := by simpa [pure, Except.pure] using h2
    exact ⟨⟨hne, htok, by simp, hstok, paramsWellFormed_nil false⟩,
      by simp [write, essence, writeParams, hs, hr]⟩
  | some rest =>
    obtain ⟨⟨ps, trailing⟩, hps, h3⟩ := bind_eq_ok.1 h2
    obtain rfl := by simpa [pure, Except.pure] using h3
    obtain ⟨hwf, hrest⟩ := readParams_sound hps
    refine ⟨⟨hne, htok, fun _ => hsne rfl, hstok, hwf⟩, ?_⟩
    simp [write, essence, ← hrest, hs, hr]

end Conneg.MediaType
