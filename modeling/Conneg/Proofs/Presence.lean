import Conneg.Codec.Text
import Conneg.Proofs.Acceptance
import Conneg.Proofs.HeaderFrame

/-!
# Conneg.Proofs.Presence

Which messages are made without a content type.

1. A resolver takes a content type for missing if it answers with its default, be it
   what it may; these are the entries that are missing or null
   (`unlabelled_iff_resolves_to_default`).
2. Filling in looks at the key alone: the entry of a message is the one that was given,
   null included, or else the default content type of the converter
   (`contentEntry_of_made`).
3. Main statement: `unlabelled_of_made_iff`. The two ways to see a missing content type
   come apart at null only, as `unlabelled_of_made_null` shows.
-/

namespace Conneg

variable {headers : Option HeaderMap}

/-- An entry is missing or null exactly if every resolver answers with its default. -/
theorem unlabelled_iff_resolves_to_default :
    Unlabelled (contentEntry headers) ↔
      ∀ default? : Option MediaType, (HeaderResolver.resolve ⟨default?⟩ headers).value = default? := by
  constructor
  · intro h default?
    rw [HeaderResolver.resolve_unlabelled _ h]
    rfl
  · intro h
    obtain hu | ⟨type, hl⟩ | hx := entry_cases (contentEntry headers)
    · exact hu
    · -- a content type that is read stays the answer without a default
      have hnone := h none
      rw [HeaderResolver.resolve_labelled _ hl] at hnone
      cases hnone
    · -- no default stands for one that cannot be read
      have hsome := h (some .textPlain)
      obtain ⟨e, -, he⟩ := HeaderResolver.resolve_unusable ⟨some .textPlain⟩ hx
      rw [he] at hsome
      cases hsome

namespace Converter

variable {c : Converter} {fresh : Stamp} {p : Payload} {headers : Option Headers} {m : Message}

/-- The content type entry of a message is the given one, or else the default content
type of the converter. -/
theorem contentEntry_of_made (h : (c.toMessage fresh p headers).value.outcome = .ok (some m)) :
    contentEntry (some m.headers.map) =
      (contentEntry (headers.map Headers.map)).or
        ((c.defaultContentType m.payload).map fun type => .string type.text) := by
  obtain ⟨-, -, hheaders⟩ := encoded_of_made h
  have hmap := Headers.map_complete fresh (c.defaultContentType m.payload) headers
  have hget := (Headers.entriesOf headers).get?_filled (c.defaultContentType m.payload)
    contentTypeName
  rw [if_pos rfl, Headers.get?_entriesOf] at hget
  rw [← hheaders] at hmap
  rw [contentEntry, Option.bind_some, hmap]
  exact hget

/-- **Which made messages are without a content type**, for every codec that leaves the
choice to the order of the supported types, and under whatever headers. A message that a
converter with supported types makes has a content type entry, and that is null exactly
if it was given and null. So a resolver takes the content type of the message for missing
exactly then. Where none was given, the resolver reads the first supported type. -/
theorem unlabelled_of_made_iff {r : HeaderResolver} (hr : c.resolver = some r.toResolver)
    (hne : c.supported ≠ [])
    (hcodec : c.codec.defaultContentType = fun _ supported => supported.head?)
    (h : (c.toMessage fresh p headers).value.outcome = .ok (some m)) :
    let given := contentEntry (headers.map Headers.map)
    let entry := contentEntry (some m.headers.map)
    (∃ value, entry = some value) ∧
      (entry = some .null ↔ given = some .null) ∧
      ((∀ default? : Option MediaType,
          (HeaderResolver.resolve ⟨default?⟩ (some m.headers.map)).value = default?) ↔
        given = some .null) ∧
      (given = none → ∃ type, c.supported.head? = some type ∧
        c.resolve (some m.headers.map) = pure (some type)) := by
  intro given entry
  obtain ⟨first, rest, hsupported⟩ := List.exists_cons_of_ne_nil hne
  have hhead : c.supported.head? = some first := by rw [hsupported, List.head?_cons]
  have hdefault : c.defaultContentType m.payload = some first := by
    rw [defaultContentType, hcodec]
    exact hhead
  have hentry : entry = given.or (some (.string first.text)) := by
    have hmade := contentEntry_of_made h
    rwa [hdefault] at hmade
  have hsome : ∃ value, entry = some value := by
    rw [hentry]
    cases given with
    | none => exact ⟨_, rfl⟩
    | some value => exact ⟨value, rfl⟩
  have hnull : entry = some .null ↔ given = some .null := by
    rw [hentry]
    cases given with
    | none => simp
    | some value => simp
  refine ⟨hsome, hnull, ?_, fun hnone => ⟨first, hhead, ?_⟩⟩
  · -- an entry that is there says nothing only if it is null
    obtain ⟨value, hvalue⟩ := hsome
    rw [← unlabelled_iff_resolves_to_default, ← hnull]
    exact or_iff_right fun hmissing => Option.some_ne_none value (hvalue.symm.trans hmissing)
  · have hlabelled : Labelled entry first :=
      ⟨first.text, by rw [hentry, hnone, Option.none_or], MediaType.parse_text first⟩
    exact resolve_labelled hr hlabelled

/-- Without headers, the first supported type is filled in and read back. A strict
converter with a default also takes a null content type, and hands it on. -/
theorem unlabelled_of_made_iff_strict :
    let c : Converter :=
      ⟨.text, [.textPlainUtf8, .textPlain], some (HeaderResolver.toResolver ⟨some .textPlain⟩),
        true, .binary⟩
    let blank : HeaderSet := ⟨0, HeaderMap.empty.insert contentTypeName .null⟩
    (∃ m, (c.toMessage 1 (.text "a") none).value.outcome = .ok (some m) ∧
        c.resolve (some m.headers.map) = pure (some .textPlainUtf8)) ∧
      ∃ m, (c.toMessage 1 (.text "a") (some (.frozen blank))).value.outcome = .ok (some m) ∧
        contentEntry (some m.headers.map) = some .null := by
  intro c blank
  have hbare : (c.toMessage 1 (.text "a") none).value.outcome =
      .ok (some ⟨.bytes [97], ⟨1, HeaderMap.empty.insert contentTypeName
        (.string "text/plain; charset=utf-8")⟩⟩) := by
    subst c
    rfl
  have hnull : (c.toMessage 1 (.text "a") (some (.frozen blank))).value.outcome =
      .ok (some ⟨.bytes [97], ⟨1, blank.map⟩⟩) := by
    subst c
    rfl
  obtain ⟨-, -, -, hfilled⟩ := unlabelled_of_made_iff rfl (List.cons_ne_nil _ _) rfl hbare
  obtain ⟨type, htype, hresolve⟩ := hfilled rfl
  cases htype
  obtain ⟨-, hkept, -, -⟩ := unlabelled_of_made_iff rfl (List.cons_ne_nil _ _) rfl hnull
  exact ⟨⟨_, hbare, hresolve⟩, ⟨_, hnull, hkept.2 rfl⟩⟩

/-- **A null content type is no content type to the resolver, and one to filling in**: it
stays in the message, which resolves like one without headers. -/
theorem unlabelled_of_made_null :
    let c : Converter := .ofCodec .text
    let blank : HeaderSet := ⟨0, HeaderMap.empty.insert contentTypeName .null⟩
    c.resolver = some (HeaderResolver.toResolver ⟨none⟩) ∧ c.supported ≠ [] ∧
      c.codec.defaultContentType = (fun _ supported => supported.head?) ∧
      ∃ m, (c.toMessage 1 (.text "a") (some (.frozen blank))).value.outcome = .ok (some m) ∧
        m.headers.map.get? contentTypeName = some .null ∧
        c.resolve (some m.headers.map) = c.resolve none := by
  intro c blank
  have hmade : (c.toMessage 1 (.text "a") (some (.frozen blank))).value.outcome =
      .ok (some ⟨.bytes [97], ⟨1, blank.map⟩⟩) := rfl
  exact ⟨rfl, List.cons_ne_nil _ _, rfl, _, hmade, rfl, rfl⟩

end Converter

end Conneg
