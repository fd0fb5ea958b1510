import Conneg.Codec.Text
import Conneg.Proofs.Configuration
import Conneg.Proofs.Conversion
import Conneg.Proofs.Resolution

/-!
# Conneg.Proofs.Decision

How a converter that is built from settings decides on a content type.

1. `Settings.build_eq`: settings are refused for one reason only, and otherwise
   describe one converter. Its resolver reads the header with the default of the
   settings, also when there is none.
2. `Settings.Admits` states the decision in terms of the settings and of the header
   value, case by case.
3. Main statement: `decides_by_settings`.
-/

namespace Conneg

namespace Settings

/-- The supported media types: those of the settings, or else the codec's own. -/
def types (codec : Codec) (s : Settings) : List MediaType := s.supported.getD codec.mediaTypes

/-- The converter that settings describe when they are not refused. -/
def described (codec : Codec) (s : Settings) : Converter where
  codec := codec
  supported := s.types codec
  resolver := some (HeaderResolver.toResolver ⟨s.defaultType⟩)
  strict := s.strict
  form := s.form

/-- The types contain one with type and subtype of this one. -/
def Supports (types : List MediaType) (type : MediaType) : Prop :=
  ∃ t ∈ types, t.type = type.type ∧ t.subtype = type.subtype

/-- When a content type entry is acceptable, for the supported types. A missing or
null one stands for the default, if there is a default. Other values are what they
say, or are acceptable to lenient settings only. -/
inductive Admits (s : Settings) (types : List MediaType) (entry : Option Json) : Prop where
  | byDefault {type : MediaType} (h : Unlabelled entry) (hd : s.defaultType = some type)
      (ht : Supports types type)
  | unlabelled (h : Unlabelled entry) (hd : s.defaultType = none) (hs : s.strict = false)
  | labelled {type : MediaType} (h : Labelled entry type) (ht : Supports types type)
  | unusable (h : Unusable entry) (hs : s.strict = false)

/-! ## building -/

/-- A default gives the converter another resolver, and nothing is refused so far. -/
theorem resolved_eq (codec : Codec) (s : Settings) :
    s.resolved codec = .ok { s.described codec with strict := false, form := .binary } := by
  obtain ⟨supported, strict, form, defaultType⟩ := s
  cases supported <;> cases defaultType <;> rfl

/-- Settings are refused only when they are strict with nothing to match. -/
theorem build_eq (codec : Codec) (s : Settings) :
    s.build codec =
      if s.strict = true ∧ s.types codec = [] then .error .strictWithoutTypes
      else .ok (s.described codec) := by
  unfold build
  rw [s.resolved_eq codec, ok_bind, Converter.withStrict]
  let c : Converter := { s.described codec with strict := false, form := .binary }
  obtain ⟨hs, ht, hc⟩ | ⟨-, -, hr, -⟩ | ⟨hb, hc⟩ := c.setStrict_cases s.strict
  · rw [hc, if_pos ⟨hs, ht⟩]
    rfl
  · cases hr
  · have hneg : ¬ (s.strict = true ∧ s.types codec = []) := fun h => (hb h.1).1 h.2
    rw [hc, if_neg hneg]
    rfl

/-! ## deciding -/

section

variable {codec : Codec} {s : Settings} {headers : Option HeaderMap} {type : MediaType}

/-- The resolver is asked unless everything is supported. -/
theorem value_accepts_described :
    ((s.described codec).accepts headers).value = true ↔
      s.types codec = [] ∨ (s.described codec).acceptsType
        (HeaderResolver.resolve ⟨s.defaultType⟩ headers).value = true := by
  have hgate : ((s.described codec).accepts headers).value =
      ((s.types codec).isEmpty || (s.described codec).acceptsType
        (HeaderResolver.resolve ⟨s.defaultType⟩ headers).value) :=
    (s.described codec).value_accepts headers
  rw [hgate, Bool.or_eq_true, List.isEmpty_iff]

/-- A content type that is resolved must be supported, strict or not. -/
theorem acceptsType_described_some :
    (s.described codec).acceptsType (some type) = true ↔ Supports (s.types codec) type :=
  Converter.acceptsType_some_iff

/-- Where none is resolved, only strict matching declines. -/
theorem acceptsType_described_none :
    (s.described codec).acceptsType none = true ↔ s.strict = false := by
  rw [Converter.acceptsType, Bool.not_eq_true']
  rfl

/-- What is resolved is acceptable where the settings admit the entry. -/
theorem acceptsType_resolved_iff :
    (s.described codec).acceptsType (HeaderResolver.resolve ⟨s.defaultType⟩ headers).value = true ↔
      s.Admits (s.types codec) (contentEntry headers) := by
  constructor
  · intro h
    -- the default counts for an entry that says nothing, and never for an unusable one
    obtain hu | ⟨type, hl⟩ | hx := entry_cases (contentEntry headers)
    · rw [HeaderResolver.resolve_unlabelled _ hu, Logged.value_pure] at h
      cases hd : s.defaultType with
      | none =>
        rw [hd] at h
        exact .unlabelled hu hd (acceptsType_described_none.1 h)
      | some type =>
        rw [hd] at h
        exact .byDefault hu hd (acceptsType_described_some.1 h)
    · rw [HeaderResolver.resolve_labelled _ hl, Logged.value_pure] at h
      exact .labelled hl (acceptsType_described_some.1 h)
    · obtain ⟨e, -, he⟩ := HeaderResolver.resolve_unusable ⟨s.defaultType⟩ hx
      rw [he] at h
      exact .unusable hx (acceptsType_described_none.1 h)
  · intro h
    cases h with
    | byDefault hu hd ht =>
      rw [HeaderResolver.resolve_unlabelled _ hu, Logged.value_pure, hd]
      exact acceptsType_described_some.2 ht
    | unlabelled hu hd hs =>
      rw [HeaderResolver.resolve_unlabelled _ hu, Logged.value_pure, hd]
      exact acceptsType_described_none.2 hs
    | labelled hl ht =>
      rw [HeaderResolver.resolve_labelled _ hl, Logged.value_pure]
      exact acceptsType_described_some.2 ht
    | unusable hx hs =>
      obtain ⟨e, -, he⟩ := HeaderResolver.resolve_unusable ⟨s.defaultType⟩ hx
      rw [he]
      exact acceptsType_described_none.2 hs

end

end Settings

namespace Converter

/-- **How a converter from settings decides**, for every codec. Settings are refused
exactly if they are strict and nothing is supported, and never for want of a
resolver. All others build a converter, which accepts headers exactly if nothing is
listed as supported or the settings admit their content type. One that is neither
null nor a text of a media type is resolved to none, whatever the default. -/
theorem decides_by_settings (codec : Codec) (s : Settings) :
    (∀ e, (ofSettings codec s).value = .error e ↔
        e = .strictWithoutTypes ∧ s.strict = true ∧ s.types codec = []) ∧
      (¬ (s.strict = true ∧ s.types codec = []) →
        ∃ c, (ofSettings codec s).value = .ok c ∧ ∀ headers : Option HeaderMap,
          ((c.accepts headers).value = true ↔
            s.types codec = [] ∨ s.Admits (s.types codec) (contentEntry headers)) ∧
          (Unusable (contentEntry headers) → (c.resolve headers).value = none)) := by
  rw [value_ofSettings, s.build_eq codec]
  constructor
  · intro e
    split
    · next hrefused =>
      constructor
      · intro he
        exact ⟨(Except.error.inj he).symm, hrefused⟩
      · rintro ⟨rfl, -⟩
        rfl
    · next hbuilt =>
      constructor
      · intro he
        cases he
      · rintro ⟨-, hrefused⟩
        exact absurd hrefused hbuilt
  · intro hbuilt
    refine ⟨s.described codec, if_neg hbuilt, fun headers => ⟨?_, fun hx => ?_⟩⟩
    · rw [Settings.value_accepts_described, Settings.acceptsType_resolved_iff]
    · obtain ⟨e, -, he⟩ := HeaderResolver.resolve_unusable ⟨s.defaultType⟩ hx
      exact congrArg Logged.value he

/-- Strict settings with a supported default. A null content type stands for the
default, and a number for nothing. With nothing supported they are refused. -/
theorem decides_by_settings_strict :
    let s : Settings := ⟨some [.applicationJson], true, .text, some .applicationJson⟩
    let unlabelled := HeaderMap.empty.insert contentTypeName .null
    let number := HeaderMap.empty.insert contentTypeName (.integer 42)
    (ofSettings .text { s with supported := some [] }).value = .error .strictWithoutTypes ∧
      ¬ (s.strict = true ∧ s.types .text = []) ∧
      ∃ c, (ofSettings .text s).value = .ok c ∧ (c.accepts (some unlabelled)).value = true ∧
        (c.accepts (some number)).value = false ∧ (c.resolve (some number)).value = none := by
  intro s unlabelled number
  obtain ⟨hrefused, -⟩ := decides_by_settings .text { s with supported := some [] }
  obtain ⟨-, hbuilt⟩ := decides_by_settings .text s
  have hne : ¬ (s.strict = true ∧ s.types .text = []) := by simp [s, Settings.types]
  obtain ⟨c, hc, hdecides⟩ := hbuilt hne
  have hunusable : Unusable (contentEntry (some number)) :=
    ⟨.integer 42, rfl, by simp [Json.integer], by simp [Json.integer]⟩
  refine ⟨(hrefused _).2 ⟨rfl, rfl, rfl⟩, hne, c, hc, ?_, ?_, (hdecides _).2 hunusable⟩
  · exact (hdecides _).1.2 (.inr (.byDefault (.inr rfl) rfl
      ⟨_, List.mem_singleton.2 rfl, rfl, rfl⟩))
  · rw [Bool.eq_false_iff, Ne, (hdecides _).1]
    rintro (hnil | hadmits)
    · cases hnil
    · cases hadmits with
      | byDefault hu => obtain hu | hu := hu <;> cases hu
      | unlabelled hu => obtain hu | hu := hu <;> cases hu
      | labelled hl => obtain ⟨raw, hraw, -⟩ := hl; cases hraw
      | unusable hx hs => cases hs

end Converter

end Conneg
