import Conneg.Codec.Bytes
import Conneg.Proofs.Conversion
import Conneg.Proofs.ReadBack
import Conneg.Proofs.Resolution

/-!
# Conneg.Proofs.Suffix

What the acceptance of a content type says about the texts.

1. Type and subtype stand in front of the first `;` of a text (`front_write`). Of
   the subtype only the part without its suffix is compared, so a front is taken
   apart into `unsuffixed` and `suffix` (`front_parts`).
2. Reading changes the letter case of the front and nothing else
   (`front_of_parse`), and media types are of one kind exactly if their
   texts agree up to the suffix (`sameKind_iff_unsuffixed`).
3. Main statement: `accepts_labelled`. A converter that reads the content type from
   its header lets a text through if it agrees with a supported one up to letter
   case, parameters and suffix. `accepts_other_suffix`: the suffix can be another one.
-/

namespace Conneg

open Text

namespace MediaType

/-! ## parts of a text -/

/-- The part of a text before its first `;`. -/
def front (s : List Char) : List Char := s.takeWhile (· != ';')

/-- The text up to its first `/`, and what follows without a suffix. -/
def cutSuffix (s : List Char) : List Char :=
  s.takeWhile (· != '/') ++ '/' :: withoutSuffix ((s.dropWhile (· != '/')).drop 1)

/-- Type and subtype of a text, without the suffix. -/
def unsuffixed (s : List Char) : List Char := cutSuffix (front s)

/-- The suffix of a text with its `+`; it is empty if there is none. -/
def suffix (s : List Char) : List Char := (front s).drop (unsuffixed s).length

/-! ## letter case -/

/-- Letter case can wait until a text is cut where the case makes no difference. -/
theorem takeWhile_lower {p : Char → Bool} (hp : ∀ c : Char, p c.toLower = p c) (s : List Char) :
    (lower s).takeWhile p = lower (s.takeWhile p) := by
  rw [lower, List.takeWhile_map]
  exact congrArg lower (congrArg (s.takeWhile ·) (funext hp))

theorem dropWhile_lower {p : Char → Bool} (hp : ∀ c : Char, p c.toLower = p c) (s : List Char) :
    (lower s).dropWhile p = lower (s.dropWhile p) := by
  rw [lower, List.dropWhile_map]
  exact congrArg lower (congrArg (s.dropWhile ·) (funext hp))

/-- The last `+` is found in any letter case. -/
theorem beforeLastPlus_lower (s : List Char) :
    beforeLastPlus (lower s) = (beforeLastPlus s).map lower := by
  induction s with
  | nil => rfl
  | cons c s ih =>
    rw [lower_cons, beforeLastPlus, beforeLastPlus, ih]
    cases beforeLastPlus s with
    | some t => rfl
    | none =>
      simp only [Option.map_none, toLower_eq_iff (d := '+') (by decide)]
      split <;> rfl

/-- A suffix is taken off alike in any letter case. -/
theorem withoutSuffix_lower (s : List Char) :
    withoutSuffix (lower s) = lower (withoutSuffix s) := by
  cases s with
  | nil => rfl
  | cons c s =>
    rw [lower_cons, withoutSuffix, withoutSuffix, beforeLastPlus_lower, lower_cons]
    cases beforeLastPlus s <;> rfl

/-- So type and subtype are cut alike. -/
theorem cutSuffix_lower (s : List Char) : cutSuffix (lower s) = lower (cutSuffix s) := by
  have hslash : ∀ c : Char, (c.toLower != '/') = (c != '/') := toLower_bne (by decide)
  have hdrop : ((lower s).dropWhile (· != '/')).drop 1 =
      lower ((s.dropWhile (· != '/')).drop 1) := by
    rw [dropWhile_lower hslash, lower, lower, List.map_drop]
  rw [cutSuffix, cutSuffix, takeWhile_lower hslash, hdrop, withoutSuffix_lower]
  simp

/-! ## taking a front apart -/

/-- All that cutting at the last `+` can do. -/
theorem beforeLastPlus_cases (s : List Char) :
    (beforeLastPlus s = none ∧ '+' ∉ s) ∨
      ∃ t u, beforeLastPlus s = some t ∧ s = t ++ '+' :: u ∧ '+' ∉ u := by
  induction s with
  | nil => exact .inl ⟨rfl, List.not_mem_nil⟩
  | cons c s ih =>
    rw [beforeLastPlus]
    obtain ⟨hs, hplus⟩ | ⟨t, u, hs, rfl, hplus⟩ := ih
    · rw [hs]
      by_cases hc : c = '+'
      · exact .inr ⟨[], s, if_pos hc, by rw [hc]; rfl, hplus⟩
      · exact .inl ⟨if_neg hc, by simp [Ne.symm hc, hplus]⟩
    · rw [hs]
      exact .inr ⟨c :: t, u, rfl, rfl, hplus⟩

/-- A suffix starts at the last `+` of a subtype that is not its first character. -/
inductive EndsInSuffix : (subtype base suffix : List Char) → Prop where
  | without {subtype : List Char} (h : '+' ∉ subtype.tail) : EndsInSuffix subtype subtype []
  | suffixed (c : Char) (base : List Char) {extension : List Char} (h : '+' ∉ extension) :
      EndsInSuffix (c :: base ++ '+' :: extension) (c :: base) ('+' :: extension)

theorem EndsInSuffix.append {subtype base ext : List Char} (h : EndsInSuffix subtype base ext) :
    base ++ ext = subtype := by
  cases h with
  | without => exact List.append_nil _
  | suffixed => rfl

/-- Every subtype is a base with a suffix, which may be empty. -/
theorem exists_endsInSuffix (subtype : List Char) :
    ∃ ext, EndsInSuffix subtype (withoutSuffix subtype) ext := by
  cases subtype with
  | nil => exact ⟨[], .without List.not_mem_nil⟩
  | cons c s =>
    rw [withoutSuffix]
    obtain ⟨hs, hplus⟩ | ⟨t, u, hs, rfl, hplus⟩ := beforeLastPlus_cases s
    · rw [hs]
      exact ⟨[], .without hplus⟩
    · rw [hs]
      exact ⟨'+' :: u, .suffixed c t hplus⟩

/-- A text is split at its first `/`. -/
theorem takeWhile_slash {type : List Char} (h : '/' ∉ type) (subtype : List Char) :
    (type ++ '/' :: subtype).takeWhile (· != '/') = type ∧
      (type ++ '/' :: subtype).dropWhile (· != '/') = '/' :: subtype := by
  have htype : ∀ c ∈ type, (c != '/') = true := by
    intro c hc
    rw [bne_iff_ne]
    rintro rfl
    exact h hc
  exact ⟨takeWhile_run htype rfl, dropWhile_run htype rfl⟩

/-- Cutting keeps the type and drops the suffix of the subtype. -/
theorem cutSuffix_append {type : List Char} (h : '/' ∉ type) (subtype : List Char) :
    cutSuffix (type ++ '/' :: subtype) = type ++ '/' :: withoutSuffix subtype := by
  obtain ⟨htake, hdrop⟩ := takeWhile_slash h subtype
  rw [cutSuffix, htake, hdrop, List.drop_succ_cons, List.drop_zero]

/-- The parts of a front with a `/` are type and subtype up to the suffix, and the
suffix. -/
theorem front_parts {s : List Char} (h : '/' ∈ front s) :
    ∃ type subtype base, '/' ∉ type ∧ front s = type ++ '/' :: subtype ∧
      unsuffixed s = type ++ '/' :: base ∧ EndsInSuffix subtype base (suffix s) := by
  obtain ⟨type, subtype, hfront, htype⟩ := List.eq_append_cons_of_mem h
  obtain ⟨ext, hext⟩ := exists_endsInSuffix subtype
  have hcut : unsuffixed s = type ++ '/' :: withoutSuffix subtype := by
    rw [unsuffixed, hfront, cutSuffix_append htype]
  have hwhole : front s = unsuffixed s ++ ext := by
    rw [hfront, hcut, List.append_assoc, List.cons_append, hext.append]
  have hsuffix : suffix s = ext := by rw [suffix, hwhole, List.drop_left]
  exact ⟨type, subtype, withoutSuffix subtype, htype, hfront, hcut, hsuffix ▸ hext⟩

/-- What is cut off a front is its suffix. -/
theorem unsuffixed_append_suffix {s : List Char} (h : '/' ∈ front s) :
    unsuffixed s ++ suffix s = front s := by
  obtain ⟨type, subtype, base, -, hfront, hcut, hext⟩ := front_parts h
  rw [hfront, hcut, ← hext.append, List.append_assoc, List.cons_append]

/-- Fronts agree exactly if both parts do. -/
theorem sameLetters_front_iff {s t : List Char} (hs : '/' ∈ front s) (ht : '/' ∈ front t) :
    sameLetters (front s) (front t) = true ↔
      sameLetters (unsuffixed s) (unsuffixed t) = true ∧
        sameLetters (suffix s) (suffix t) = true := by
  simp only [sameLetters_iff]
  constructor
  · intro h
    have hcut : lower (unsuffixed s) = lower (unsuffixed t) := by
      rw [unsuffixed, unsuffixed, ← cutSuffix_lower, ← cutSuffix_lower, h]
    -- parts that agree are of one length, so both suffixes start at the same place
    have hlength := congrArg List.length hcut
    rw [length_lower, length_lower] at hlength
    refine ⟨hcut, ?_⟩
    rw [suffix, suffix, lower, lower, List.map_drop, List.map_drop, hlength]
    exact congrArg (List.drop _) h
  · rintro ⟨hcut, hsuffix⟩
    rw [← unsuffixed_append_suffix hs, ← unsuffixed_append_suffix ht, lower_append, lower_append,
      hcut, hsuffix]

/-! ## the front of a media type -/

/-- The text of a media type up to its first `;` is type and subtype. -/
theorem front_write {s : Spelling} (h : s.WellFormed) : front s.write = s.essence := by
  have hessence : ∀ c ∈ s.essence, (c != ';') = true := by
    intro c hc
    have hsemicolon : isToken ';' = false := by decide
    rw [bne_iff_ne]
    rintro rfl
    rcases List.mem_append.1 hc with hc | hc
    · rw [h.type_token _ hc] at hsemicolon
      cases hsemicolon
    · rcases List.mem_cons.1 hc with hc | hc
      · cases hc
      · rw [h.subtype_token _ hc] at hsemicolon
        cases hsemicolon
  have hwrite : s.write = s.essence ++ ending (behindSemicolon s.params s.trailing) := by
    rw [ending_behindSemicolon, ← List.append_assoc]
    rfl
  rw [hwrite, front]
  cases behindSemicolon s.params s.trailing with
  | none => rw [ending_none, List.append_nil, takeWhile_all hessence]
  | some rest => exact takeWhile_run hessence rfl

/-- The first `/` of a media type stands behind the type. -/
theorem slash_not_mem_type {s : Spelling} (h : s.WellFormed) : '/' ∉ s.type := by
  intro hc
  have hslash : isToken '/' = false := by decide
  rw [h.type_token _ hc] at hslash
  cases hslash

/-- A written spelling is cut behind the base of its subtype. -/
theorem unsuffixed_write {s : Spelling} (h : s.WellFormed) :
    unsuffixed s.write = s.type ++ '/' :: withoutSuffix s.subtype := by
  rw [unsuffixed, front_write h, Spelling.essence, cutSuffix_append (slash_not_mem_type h)]

theorem slash_mem_front {s : Spelling} (h : s.WellFormed) : '/' ∈ front s.write := by
  rw [front_write h, Spelling.essence]
  simp

/-! ## comparing texts -/

/-- What a text is read as is written with the letter case of its normal form. -/
theorem read_of_parse {raw : String} {m : MediaType} (h : parse raw = .ok m) :
    ∃ r, Spelling.read (trim raw.toList) = .ok r ∧ m.spelling = r.normalise := by
  cases hr : Spelling.read (trim raw.toList) with
  | ok r =>
    obtain ⟨n, hn, hspelling⟩ := parse_of_read hr
    rw [h] at hn
    cases hn
    exact ⟨r, rfl, hspelling⟩
  | error fault =>
    unfold parse at h
    dsimp only at h
    split at h
    · cases h
    · next h' => rw [hr] at h'; cases h'

/-- A text that can be read has a media type. -/
theorem exists_of_isOk {raw : String} (h : (parse raw).isOk = true) : ∃ m, parse raw = .ok m := by
  cases hp : parse raw with
  | ok m => exact ⟨m, rfl⟩
  | error e =>
    rw [hp] at h
    cases h

/-- Reading changes only the letter case of the front. -/
theorem front_of_parse {raw : String} {m : MediaType} (h : parse raw = .ok m) :
    '/' ∈ front (trim raw.toList) ∧ front m.text.toList = lower (front (trim raw.toList)) := by
  obtain ⟨r, hr, hspelling⟩ := read_of_parse h
  obtain ⟨hwf, hwrite⟩ := Spelling.read_sound hr
  refine ⟨by rw [← hwrite]; exact slash_mem_front hwf, ?_⟩
  rw [text, String.toList_ofList, hspelling, front_write hwf.normalise, ← hwrite, front_write hwf]
  simp [Spelling.essence, Spelling.normalise]

theorem slash_mem_front_text (m : MediaType) : '/' ∈ front m.text.toList := by
  rw [text, String.toList_ofList]
  exact slash_mem_front m.wellFormed

/-- The text of a media type is cut behind the base of its subtype. -/
theorem unsuffixed_text (m : MediaType) :
    unsuffixed m.text.toList = m.spelling.type ++ '/' :: withoutSuffix m.spelling.subtype := by
  rw [text, String.toList_ofList, unsuffixed_write m.wellFormed]

/-- The text of a media type is in lowercase up to its first `;`. -/
theorem lower_unsuffixed_text (m : MediaType) :
    lower (unsuffixed m.text.toList) = unsuffixed m.text.toList := by
  rw [unsuffixed_text, lower_append, lower_cons, ← withoutSuffix_lower, m.lower_type,
    m.lower_subtype]
  rfl

/-- Media types are of one kind if their texts agree up to the suffix. -/
theorem sameKind_iff_unsuffixed {m n : MediaType} :
    m.sameKind n = true ↔
      sameLetters (unsuffixed m.text.toList) (unsuffixed n.text.toList) = true := by
  rw [sameLetters_iff, lower_unsuffixed_text, lower_unsuffixed_text, unsuffixed_text,
    unsuffixed_text, sameKind_iff, type, type, subtype, subtype, String.ofList_inj,
    String.ofList_inj]
  constructor
  · rintro ⟨htype, hsubtype⟩
    rw [htype, hsubtype]
  · intro h
    obtain ⟨hm, hm'⟩ := takeWhile_slash (slash_not_mem_type m.wellFormed)
      (withoutSuffix m.spelling.subtype)
    obtain ⟨hn, hn'⟩ := takeWhile_slash (slash_not_mem_type n.wellFormed)
      (withoutSuffix n.spelling.subtype)
    rw [h, hn] at hm
    rw [h, hn'] at hm'
    exact ⟨hm.symm, (List.cons.inj hm').2.symm⟩

end MediaType

namespace Converter

section

variable {c : Converter} {r : HeaderResolver} {h : HeaderMap} {raw : String} {m : MediaType}

/-- A text of a media type is accepted if a supported one is of its kind. -/
theorem accepts_text_iff (hr : c.resolver = some r.toResolver) (hne : c.supported ≠ [])
    (hraw : h.get? contentTypeName = some (.string raw)) (hparse : MediaType.parse raw = .ok m) :
    (c.accepts (some h)).value = true ↔ ∃ s ∈ c.supported, s.sameKind m = true := by
  have hlabelled : Labelled (contentEntry (some h)) m := ⟨raw, hraw, hparse⟩
  have hresolve : (c.resolve (some h)).value = some m := value_resolve_labelled hr hlabelled
  have hempty : c.supported.isEmpty = false := List.isEmpty_eq_false_iff.2 hne
  rw [value_accepts, hresolve, hempty, Bool.false_or, acceptsType, List.any_eq_true]

end

/-- **What acceptance says about the texts.** A converter with supported types that
reads the content type from its header accepts a text of a media type exactly if
that agrees with the text of a supported one in type and subtype without suffix.
Letter case, outer blanks and parameters play no part. Where the suffixes are the
same, agreeing means to agree on all that stands before the first `;`. -/
theorem accepts_labelled {c : Converter} {r : HeaderResolver} (hr : c.resolver = some r.toResolver)
    (hne : c.supported ≠ []) {h : HeaderMap} {raw : String}
    (hraw : h.get? contentTypeName = some (.string raw))
    (hparse : (MediaType.parse raw).isOk = true) :
    ((c.accepts (some h)).value = true ↔
        ∃ s ∈ c.supported, sameLetters (MediaType.unsuffixed s.text.toList)
          (MediaType.unsuffixed (trim raw.toList)) = true) ∧
      ((∀ s ∈ c.supported, sameLetters (MediaType.suffix s.text.toList)
          (MediaType.suffix (trim raw.toList)) = true) →
        ((c.accepts (some h)).value = true ↔
          ∃ s ∈ c.supported, sameLetters (MediaType.front s.text.toList)
            (MediaType.front (trim raw.toList)) = true)) := by
  obtain ⟨m, hparse⟩ := MediaType.exists_of_isOk hparse
  obtain ⟨hslash, hfront⟩ := MediaType.front_of_parse hparse
  have hunsuffixed : MediaType.unsuffixed m.text.toList =
      lower (MediaType.unsuffixed (trim raw.toList)) := by
    rw [MediaType.unsuffixed, hfront, MediaType.cutSuffix_lower]
    rfl
  have hiff : (c.accepts (some h)).value = true ↔
      ∃ s ∈ c.supported, sameLetters (MediaType.unsuffixed s.text.toList)
        (MediaType.unsuffixed (trim raw.toList)) = true := by
    simp only [accepts_text_iff hr hne hraw hparse, MediaType.sameKind_iff_unsuffixed, hunsuffixed,
      sameLetters_lower_right]
  refine ⟨hiff, fun hsuffix => ?_⟩
  rw [hiff]
  constructor
  · rintro ⟨s, hs, hkind⟩
    exact ⟨s, hs, (MediaType.sameLetters_front_iff s.slash_mem_front_text hslash).2
      ⟨hkind, hsuffix s hs⟩⟩
  · rintro ⟨s, hs, hsame⟩
    exact ⟨s, hs, ((MediaType.sameLetters_front_iff s.slash_mem_front_text hslash).1 hsame).1⟩

/-- Another letter case, a parameter and outer blanks make no difference. -/
theorem accepts_labelled_hal :
    let c : Converter := .ofTypes .bytes [.application "hal+json".toList (by decide)]
    let raw := " Application/HAL+Json; v=1 "
    let h := HeaderMap.empty.insert contentTypeName (.string raw)
    (∀ s ∈ c.supported, sameLetters (MediaType.suffix s.text.toList)
        (MediaType.suffix (trim raw.toList)) = true) ∧
      (c.accepts (some h)).value = true := by
  intro c raw h
  have hsuffix : ∀ s ∈ c.supported, sameLetters (MediaType.suffix s.text.toList)
      (MediaType.suffix (trim raw.toList)) = true := List.forall_mem_singleton.2 (by decide)
  have hparse : (MediaType.parse raw).isOk = true := by decide +kernel
  obtain ⟨-, hwhole⟩ := accepts_labelled (c := c) (h := h) rfl (List.cons_ne_nil _ _) rfl hparse
  exact ⟨hsuffix, (hwhole hsuffix).2 ⟨_, List.mem_singleton.2 rfl, by decide⟩⟩

/-- **The suffix can be another one.** A converter of one format lets another format
through whose media type differs in the suffix only. -/
theorem accepts_other_suffix :
    let c : Converter := .ofTypes .bytes [.application "hal+json".toList (by decide)]
    let raw := "application/hal+xml"
    let h := HeaderMap.empty.insert contentTypeName (.string raw)
    c.resolver = some (HeaderResolver.toResolver ⟨none⟩) ∧
      (MediaType.parse raw).isOk = true ∧
      (c.accepts (some h)).value = true ∧
      ¬ ∃ s ∈ c.supported, sameLetters (MediaType.front s.text.toList)
        (MediaType.front (trim raw.toList)) = true := by
  intro c raw h
  refine ⟨rfl, by decide +kernel, by decide +kernel, ?_⟩
  rintro ⟨s, hs, hsame⟩
  obtain rfl := List.mem_singleton.1 hs
  exact absurd hsame (by decide)

end Converter

end Conneg
