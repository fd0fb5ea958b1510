import Conneg.Converter.Conversion

/-!
# Conneg.Proofs.Filling

Filling in a content type, said on header maps.

`HeaderMap.filled` adds a content type to a map that has no `contentType` entry
and keeps every other map (`filled_cases`). `map_complete`: these are the entries of a
message, whichever way its headers are given, and `get?_filled` looks each of them up.
-/

namespace Conneg

/-- The map with a content type, if one is given and the map has none. -/
def HeaderMap.filled (h : HeaderMap) : Option MediaType → HeaderMap
  | none => h
  | some m => if h.contains contentTypeName then h else h.insert contentTypeName (.string m.text)

namespace HeaderMap

theorem contains_eq_false_iff {h : HeaderMap} {name : String} :
    h.contains name = false ↔ h.get? name = none := by
  rw [contains, Option.isSome_eq_false_iff, Option.isNone_iff_eq_none]

variable {h : HeaderMap} {type : Option MediaType}

/-- A map with a content type is kept. -/
theorem filled_of_contains (hc : h.contains contentTypeName = true) : h.filled type = h := by
  cases type with
  | none => rfl
  | some m => rw [filled, if_pos hc]

theorem filled_of_not_contains {m : MediaType} (hc : h.contains contentTypeName = false) :
    h.filled (some m) = h.insert contentTypeName (.string m.text) := by
  rw [filled, hc]
  rfl

/-- Only the content type can be another one, and only where there was none. -/
theorem get?_filled (h : HeaderMap) (type : Option MediaType) (name : String) :
    (h.filled type).get? name =
      if name = contentTypeName then
        (h.get? contentTypeName).or (type.map fun m => .string m.text)
      else h.get? name := by
  cases hc : h.contains contentTypeName with
  | true =>
    obtain ⟨v, hv⟩ := contains_iff.1 hc
    rw [filled_of_contains hc, hv, Option.some_or]
    split
    · next hname => rw [hname, hv]
    · rfl
  | false =>
    have hnone := contains_eq_false_iff.1 hc
    cases type with
    | none =>
      rw [filled, hnone]
      split
      · next hname => rw [hname, hnone]; rfl
      · rfl
    | some m =>
      rw [filled_of_not_contains hc, get?_insert, hnone]
      rfl

/-- Filling in keeps a map, or adds a content type that it has not. -/
theorem filled_cases (h : HeaderMap) (type : Option MediaType) :
    (h.filled type = h ∧ ∀ m, type = some m → h.contains contentTypeName = true) ∨
      ∃ m, type = some m ∧ h.contains contentTypeName = false ∧
        h.filled type = h.insert contentTypeName (.string m.text) ∧ h.filled type ≠ h := by
  cases type with
  | none => exact .inl ⟨rfl, by simp⟩
  | some m =>
    cases hc : h.contains contentTypeName with
    | true => exact .inl ⟨filled_of_contains hc, fun _ _ => rfl⟩
    | false =>
      have hfilled := filled_of_not_contains (m := m) hc
      refine .inr ⟨m, rfl, rfl, hfilled, fun heq => ?_⟩
      have hget : (h.filled (some m)).get? contentTypeName = some (.string m.text) := by
        rw [hfilled, get?_insert, if_pos rfl]
      rw [heq, contains_eq_false_iff.1 hc] at hget
      cases hget

end HeaderMap

namespace Headers

/-- What filling in a content type does to the entries. -/
theorem map_fillContentType (a : HeaderAccessor) (fresh : Stamp) (type : Option MediaType) :
    (fillContentType a fresh type).map = a.map.filled type := by
  cases type with
  | none => rfl
  | some m => exact a.map_setIfAbsent fresh contentTypeName (.string m.text)

/-- The entries of a message; none given are no entries. -/
theorem map_complete (fresh : Stamp) (type : Option MediaType) (headers : Option Headers) :
    (complete fresh type headers).1.map = ((headers.map Headers.map).getD .empty).filled type := by
  match headers with
  | none => exact map_fillContentType (.ofMap fresh .empty) fresh type
  | some (.frozen h) => exact map_fillContentType (.ofMap fresh h.map) fresh type
  | some (.accessor a) => exact map_fillContentType a fresh type

/-- Frozen headers stay with the caller as they are. -/
theorem complete_frozen (fresh : Stamp) (type : Option MediaType) (h : HeaderSet) :
    (complete fresh type (some (.frozen h))).2 = some (.frozen h) := rfl

/-- An accessor holds the headers of the message afterwards. -/
theorem complete_accessor (fresh : Stamp) (type : Option MediaType) (a : HeaderAccessor) :
    (complete fresh type (some (.accessor a))).2 =
      some (.accessor ⟨(complete fresh type (some (.accessor a))).1⟩) := rfl

end Headers

end Conneg
