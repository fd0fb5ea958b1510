import Conneg.Text.Ascii
import Conneg.Text.Blank

/-!
# Conneg.MediaType.Spelling

The written form of a media type, kept without loss:

```
spelling = type "/" subtype *( ";" param ) [ ";" ]
param    = *" " name "=" value
value    = *token / quote 1*quotable quote *" "
```

1. A token is a letter, a digit or one of ``!#$%&'*+-.^_`|~``; type and names
   are not empty, and neither are subtype and unquoted values before a `;`.
2. Between quotes stands any character above U+001F except U+007F. There are no
   escapes, so a quote ends the text unless it is its first character.
3. `normalise` lowercases type, subtype, parameter names and the values of
   parameters named `charset`, and drops a last `;` that follows no parameter.
-/

namespace Conneg.MediaType

open Text

/-! ## characters -/

/-- Characters of types, subtypes, parameter names and unquoted values. -/
def isToken (c : Char) : Bool :=
  c.isAlphanum || "!#$%&'*+-.^_`|~".toList.contains c

/-- Characters that may stand between quotes. -/
def isQuotable (c : Char) : Bool := 31 < c.toNat && c.toNat != 127

/-- Characters that may stand between quotes after the first one. -/
def isQuotedRest (c : Char) : Bool := isQuotable c && c != '"'

/-- Tokens are ASCII text. -/
theorem toNat_lt_of_isToken {c : Char} (h : isToken c = true) : c.toNat < 128 := by
  rcases Bool.or_eq_true_iff.1 h with h | h
  · change ((decide (c.val ≥ 'A'.val ∧ c.val ≤ 'Z'.val) ||
      (decide (c.val ≥ 'a'.val) && decide (c.val ≤ 'z'.val))) ||
      (decide (c.val ≥ '0'.val) && decide (c.val ≤ '9'.val))) = true at h
    simp only [Bool.or_eq_true, Bool.and_eq_true, decide_eq_true_eq, UInt32.le_iff_toNat_le,
      ge_iff_le] at h
    have hz : 'Z'.val.toNat = 90 := rfl
    have hz' : 'z'.val.toNat = 122 := rfl
    have hn : '9'.val.toNat = 57 := rfl
    have hc : c.toNat = c.val.toNat := rfl
    omega
  · have key : ("!#$%&'*+-.^_`|~".toList.all fun d => d.toNat < 128) = true := by decide
    simpa using List.all_eq_true.1 key c (by simpa using h)

/-- A property of every ASCII token character holds of every token character. -/
theorem of_isToken {P : Char → Prop}
    (h : ∀ n : Fin 128, isToken (Char.ofNat n.val) = true → P (Char.ofNat n.val)) {c : Char}
    (hc : isToken c = true) : P c :=
  of_ascii (P := fun c => isToken c = true → P c) h (toNat_lt_of_isToken hc) hc

/-- No blank stands in a token. -/
theorem isBlank_of_isToken {c : Char} (h : isToken c = true) : isBlank c = false :=
  of_isToken (P := fun c => isBlank c = false) (by decide +kernel) h

/-! ## the tree -/

/-- A parameter value as written. -/
inductive ParamValue where
  /-- A value without quotes. -/
  | bare (text : List Char)
  /-- A value between quotes, and the number of spaces after the closing one. -/
  | quoted (text : List Char) (gap : Nat)
  deriving DecidableEq

/-- A parameter as written: spaces, name, `=` and value. -/
structure Param where
  lead : Nat
  name : List Char
  value : ParamValue
  deriving DecidableEq

/-- A media type as written; `trailing` tells whether a `;` ends the text. -/
structure Spelling where
  type : List Char
  subtype : List Char
  params : List Param
  trailing : Bool
  deriving DecidableEq

/-! ## text -/

/-- The value without its quotes. -/
def ParamValue.text : ParamValue → List Char
  | bare t => t
  | quoted t _ => t

/-- The value as it is written. -/
def ParamValue.write : ParamValue → List Char
  | bare t => t
  | quoted t gap => '"' :: t ++ '"' :: List.replicate gap ' '

def Param.write (p : Param) : List Char :=
  List.replicate p.lead ' ' ++ p.name ++ '=' :: p.value.write

/-- The parameters, each after a `;`. -/
def writeParams : List Param → List Char
  | [] => []
  | p :: ps => ';' :: p.write ++ writeParams ps

/-- Type and subtype, as they stand before the first `;`. -/
def Spelling.essence (s : Spelling) : List Char := s.type ++ '/' :: s.subtype

def Spelling.write (s : Spelling) : List Char :=
  s.essence ++ writeParams s.params ++ if s.trailing then [';'] else []

/-! ## normal form -/

/-- The parameter name that is compared with `charset`. -/
def charset : List Char := "charset".toList

def ParamValue.lower : ParamValue → ParamValue
  | bare t => bare (Text.lower t)
  | quoted t gap => quoted (Text.lower t) gap

@[simp] theorem lower_charset : Text.lower charset = charset := by decide

/-- The name in lowercase, and for `charset` the value too. -/
def Param.normalise (p : Param) : Param where
  lead := p.lead
  name := Text.lower p.name
  value := if Text.lower p.name = charset then p.value.lower else p.value

def Spelling.normalise (s : Spelling) : Spelling where
  type := Text.lower s.type
  subtype := Text.lower s.subtype
  params := s.params.map Param.normalise
  trailing := s.trailing && !s.params.isEmpty

/-! ## well-formed trees -/

def ParamValue.WellFormed : ParamValue → Prop
  | bare t => ∀ c ∈ t, isToken c = true
  | quoted [] _ => False
  | quoted (c :: t) _ => isQuotable c = true ∧ ∀ d ∈ t, isQuotedRest d = true

structure Param.WellFormed (p : Param) : Prop where
  name_ne_nil : p.name ≠ []
  name_token : ∀ c ∈ p.name, isToken c = true
  value : p.value.WellFormed

/-- The parameters can be written one after another: only the last one may have
an empty value, and only if no `;` follows it. -/
structure ParamsWellFormed (trailing : Bool) (ps : List Param) : Prop where
  each : ∀ p ∈ ps, p.WellFormed
  inner : ∀ p ∈ ps.dropLast, p.value ≠ .bare []
  closed : trailing = true → ∀ p ∈ ps, p.value ≠ .bare []

/-- The tree is one that its own text is read back as. -/
structure Spelling.WellFormed (s : Spelling) : Prop where
  type_ne_nil : s.type ≠ []
  type_token : ∀ c ∈ s.type, isToken c = true
  subtype_ne_nil : (s.params ≠ [] ∨ s.trailing = true) → s.subtype ≠ []
  subtype_token : ∀ c ∈ s.subtype, isToken c = true
  params : ParamsWellFormed s.trailing s.params

theorem paramsWellFormed_nil (trailing : Bool) : ParamsWellFormed trailing [] :=
  ⟨by simp, by simp, by simp⟩

/-- The only parameter may have an empty value. -/
theorem paramsWellFormed_singleton {p : Param} (h : p.WellFormed) :
    ParamsWellFormed false [p] :=
  ⟨by simpa using h, by simp, by simp⟩

/-- A parameter in front of others, or of a last `;`, needs a value. -/
theorem paramsWellFormed_cons {p : Param} {ps : List Param} {trailing : Bool}
    (h : p.WellFormed) (hne : p.value ≠ .bare []) (hps : ParamsWellFormed trailing ps) :
    ParamsWellFormed trailing (p :: ps) := by
  refine ⟨?_, ?_, ?_⟩
  · simpa using ⟨h, hps.each⟩
  · intro q hq
    cases ps with
    | nil => simp at hq
    | cons r ps =>
      rcases List.mem_cons.1 (by simpa using hq) with rfl | hq
      · exact hne
      · exact hps.inner q hq
  · intro ht q hq
    rcases List.mem_cons.1 hq with rfl | hq
    · exact hne
    · exact hps.closed ht q hq

/-! ## letter case keeps a tree well formed -/

/-- Letter case does not change what can stand in a token. -/
theorem isToken_toLower (c : Char) : isToken c.toLower = isToken c :=
  toLower_of_ascii (f := isToken) (by decide +kernel) c

theorem isQuotable_toLower (c : Char) : isQuotable c.toLower = isQuotable c :=
  toLower_of_ascii (f := isQuotable) (by decide +kernel) c

theorem isQuotedRest_toLower (c : Char) : isQuotedRest c.toLower = isQuotedRest c :=
  toLower_of_ascii (f := isQuotedRest) (by decide +kernel) c

/-- What letter case does not change of characters it does not change of texts. -/
theorem forall_lower {p : Char → Bool} (hp : ∀ c : Char, p c.toLower = p c) {s : List Char} :
    (∀ c ∈ lower s, p c = true) ↔ ∀ c ∈ s, p c = true := by
  simp [lower, hp]

/-- A value is as well formed in lowercase as it was. -/
@[simp] theorem ParamValue.wellFormed_lower {v : ParamValue} :
    v.lower.WellFormed ↔ v.WellFormed := by
  match v with
  | bare t => exact forall_lower isToken_toLower
  | quoted [] gap => exact Iff.rfl
  | quoted (c :: t) gap =>
    simp only [lower, lower_cons, WellFormed, isQuotable_toLower]
    rw [forall_lower isQuotedRest_toLower]

@[simp] theorem ParamValue.lower_eq_bare_nil {v : ParamValue} :
    v.lower = bare [] ↔ v = bare [] := by
  cases v <;> simp [lower]

@[simp] theorem Param.normalise_value_eq_bare_nil {p : Param} :
    p.normalise.value = .bare [] ↔ p.value = .bare [] := by
  unfold normalise
  by_cases h : lower p.name = charset <;> simp [h]

/-- Normal forms of parameters are well formed. -/
theorem Param.WellFormed.normalise {p : Param} (h : p.WellFormed) : p.normalise.WellFormed where
  name_ne_nil := by simpa [Param.normalise] using h.name_ne_nil
  name_token := (forall_lower isToken_toLower).2 h.name_token
  value := by
    unfold Param.normalise
    by_cases hc : lower p.name = charset <;> simp [hc, h.value]

/-- Normal forms are well formed. -/
theorem Spelling.WellFormed.normalise {s : Spelling} (h : s.WellFormed) :
    s.normalise.WellFormed where
  type_ne_nil := by simpa [Spelling.normalise] using h.type_ne_nil
  type_token := (forall_lower isToken_toLower).2 h.type_token
  subtype_ne_nil := by
    intro hs
    have : s.params ≠ [] := by
      rcases hs with hs | hs
      · simpa [Spelling.normalise] using hs
      · rintro hnil
        simp [Spelling.normalise, hnil] at hs
    simpa [Spelling.normalise] using h.subtype_ne_nil (.inl this)
  subtype_token := (forall_lower isToken_toLower).2 h.subtype_token
  params := by
    refine ⟨?_, ?_, ?_⟩
    · intro p hp
      obtain ⟨q, hq, rfl⟩ := List.mem_map.1 hp
      exact (h.params.each q hq).normalise
    · intro p hp
      have hp : p ∈ s.params.dropLast.map Param.normalise := by
        rwa [List.map_dropLast]
      obtain ⟨q, hq, rfl⟩ := List.mem_map.1 hp
      simpa using h.params.inner q hq
    · intro ht p hp
      obtain ⟨q, hq, rfl⟩ := List.mem_map.1 hp
      have : s.trailing = true := by simp_all [Spelling.normalise]
      simpa using h.params.closed this q hq

/-! ## normalising twice -/

@[simp] theorem ParamValue.lower_lower (v : ParamValue) : v.lower.lower = v.lower := by
  cases v <;> simp [lower]

@[simp] theorem Param.normalise_normalise (p : Param) : p.normalise.normalise = p.normalise := by
  unfold normalise
  by_cases h : lower p.name = charset <;> simp [h]

/-- A normal form is its own normal form. -/
@[simp] theorem Spelling.normalise_normalise (s : Spelling) :
    s.normalise.normalise = s.normalise := by
  simp [normalise, Function.comp_def]

/-! ## normalising and text -/

@[simp] theorem ParamValue.lower_write (v : ParamValue) :
    Text.lower v.lower.write = Text.lower v.write := by
  cases v <;> simp [lower, write]

/-- Of a parameter only letter case changes. -/
@[simp] theorem Param.lower_write_normalise (p : Param) :
    lower p.normalise.write = lower p.write := by
  unfold normalise
  by_cases h : lower p.name = charset <;> simp [h, write]

@[simp] theorem lower_writeParams_normalise (ps : List Param) :
    lower (writeParams (ps.map Param.normalise)) = lower (writeParams ps) := by
  induction ps with
  | nil => rfl
  | cons p ps ih => simp [writeParams, ih]

/-- Normalising changes letter case only, and a last `;` without parameters. -/
theorem Spelling.lower_write_normalise (s : Spelling) :
    lower s.normalise.write =
      lower (if s.params = [] then s.essence else s.write) := by
  by_cases h : s.params = []
  · simp [h, write, essence, normalise, writeParams]
  · have : s.params.isEmpty = false := by simpa using h
    simp [h, write, essence, normalise, this]

/-! ## normalising and outer blanks -/

/-- Type and subtype have no outer blanks. -/
theorem trimmed_essence {s : Spelling} (h : s.WellFormed) : Trimmed s.essence := by
  constructor
  · intro c hc
    obtain ⟨d, t, ht⟩ := List.exists_cons_of_ne_nil h.type_ne_nil
    obtain rfl : d = c := by simpa [Spelling.essence, ht] using hc
    exact isBlank_of_isToken (h.type_token d (by simp [ht]))
  · intro c hc
    have hlast : c ∈ ('/' :: s.subtype).getLast? := by
      simpa [Spelling.essence, List.getLast?_append] using hc
    rcases List.mem_cons.1 (List.mem_of_getLast? hlast) with rfl | hmem
    · decide
    · exact isBlank_of_isToken (h.subtype_token c hmem)

/-- A normal form has outer blanks only if the spelling has. -/
theorem trimmed_write_normalise {s : Spelling} (h : s.WellFormed) (ht : Trimmed s.write) :
    Trimmed s.normalise.write := by
  rw [← trimmed_lower, Spelling.lower_write_normalise, trimmed_lower]
  split
  · exact trimmed_essence h
  · exact ht

end Conneg.MediaType
