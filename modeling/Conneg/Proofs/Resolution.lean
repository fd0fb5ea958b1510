import Conneg.Converter.Basic

/-!
# Conneg.Proofs.Resolution

What the content type header resolves to.

1. A content type is missing or null (`Unlabelled`), the text of a media type
   (`Labelled`) or anything else (`Unusable`). `entry_cases`: there is nothing else.
2. The first resolves to the default, the second to that media type, and the third
   to none, with one warning. So the default stands for a missing content type only.
-/

namespace Conneg

/-- The content type entry of headers, if they have one. -/
def contentEntry (headers : Option HeaderMap) : Option Json := headers.bind (·.get? contentTypeName)

/-- There is no content type, or it is null. -/
def Unlabelled (entry : Option Json) : Prop := entry = none ∨ entry = some .null

/-- The content type is a text of this media type. -/
def Labelled (entry : Option Json) (type : MediaType) : Prop :=
  ∃ raw, entry = some (.string raw) ∧ MediaType.parse raw = .ok type

/-- The content type is neither null nor a text of a media type. -/
def Unusable (entry : Option Json) : Prop :=
  ∃ value, entry = some value ∧ value ≠ .null ∧
    ∀ raw type, value = .string raw → MediaType.parse raw ≠ .ok type

/-- All that a content type entry can be. -/
theorem entry_cases (entry : Option Json) :
    Unlabelled entry ∨ (∃ type, Labelled entry type) ∨ Unusable entry := by
  match entry with
  | none => exact .inl (.inl rfl)
  | some .null => exact .inl (.inr rfl)
  | some (.string raw) =>
    cases hp : MediaType.parse raw with
    | ok type => exact .inr (.inl ⟨type, raw, rfl, hp⟩)
    | error e =>
      refine .inr (.inr ⟨.string raw, rfl, by simp, ?_⟩)
      rintro raw' type ⟨⟩ hok
      rw [hp] at hok
      cases hok
  | some (.boolean _) | some (.number _) | some (.array _) | some (.object _) =>
    exact .inr (.inr ⟨_, rfl, by simp, by simp⟩)

/-- An entry that is missing or null says nothing, which is not unusable. -/
theorem Unlabelled.not_unusable {entry : Option Json} (h : Unlabelled entry) : ¬ Unusable entry := by
  rintro ⟨value, rfl, hnull, -⟩
  obtain hnone | hvalue := h
  · cases hnone
  · exact hnull (Option.some.inj hvalue)

/-- An entry that can be read is not unusable. -/
theorem Labelled.not_unusable {entry : Option Json} {type : MediaType} (h : Labelled entry type) :
    ¬ Unusable entry := by
  obtain ⟨raw, rfl, hparse⟩ := h
  rintro ⟨value, hvalue, -, hno⟩
  exact hno raw type (Option.some.inj hvalue).symm hparse

instance : DecidablePred Unusable := fun entry =>
  match entry with
  | none => isFalse (Unlabelled.not_unusable (.inl rfl))
  | some .null => isFalse (Unlabelled.not_unusable (.inr rfl))
  | some (.string raw) =>
      match hp : MediaType.parse raw with
      | .ok _ => isFalse (Labelled.not_unusable ⟨raw, rfl, hp⟩)
      | .error _ => isTrue ⟨.string raw, rfl, by simp, by rintro _ _ ⟨⟩; simp [hp]⟩
  | some (.boolean _) | some (.number _) | some (.array _) | some (.object _) =>
      isTrue ⟨_, rfl, by simp, by simp⟩

namespace HeaderResolver

variable (r : HeaderResolver) {headers : Option HeaderMap}

/-- Where the entry says nothing, the default is taken, and nothing is logged. -/
theorem resolve_unlabelled (h : Unlabelled (contentEntry headers)) :
    r.resolve headers = pure r.default? := by
  unfold contentEntry at h
  unfold resolve
  obtain hnone | hnull := h
  · rw [hnone]
  · rw [hnull]
    rfl

/-- Where the entry can be read, it is taken, and nothing is logged. -/
theorem resolve_labelled {type : MediaType} (h : Labelled (contentEntry headers) type) :
    r.resolve headers = pure (some type) := by
  obtain ⟨raw, hraw, hparse⟩ := h
  unfold contentEntry at hraw
  unfold resolve
  rw [hraw]
  simp only [resolveValue, hparse]

/-- What cannot be used is warned about and resolves to none, never to the default. -/
theorem resolve_unusable (h : Unusable (contentEntry headers)) :
    ∃ e, e.level = .warn ∧ r.resolve headers = ⟨none, [e]⟩ := by
  obtain ⟨value, hvalue, hnull, hno⟩ := h
  unfold contentEntry at hvalue
  unfold resolve
  rw [hvalue]
  cases value with
  | null => exact absurd rfl hnull
  | string raw =>
    cases hp : MediaType.parse raw with
    | ok type => exact absurd hp (hno raw type rfl)
    | error e =>
      refine ⟨.unreadableContentType e raw, rfl, ?_⟩
      simp only [resolveValue, hp]
      rfl
  | _ => exact ⟨.contentTypeNotText _, rfl, rfl⟩

end HeaderResolver

namespace Converter

variable {c : Converter} {r : HeaderResolver} {headers : Option HeaderMap} {type : MediaType}

/-- A converter that reads the content type from its header resolves like the header. -/
theorem resolve_of_header (hr : c.resolver = some r.toResolver) (headers : Option HeaderMap) :
    c.resolve headers = r.resolve headers := by
  rw [resolve, hr]
  rfl

/-- A converter that reads the content type from its header. -/
theorem resolve_labelled (hr : c.resolver = some r.toResolver)
    (h : Labelled (contentEntry headers) type) : c.resolve headers = pure (some type) := by
  rw [resolve, hr]
  exact r.resolve_labelled h

theorem value_resolve_labelled (hr : c.resolver = some r.toResolver)
    (h : Labelled (contentEntry headers) type) : (c.resolve headers).value = some type := by
  rw [resolve_labelled hr h, Logged.value_pure]

end Converter

end Conneg
