import Conneg.Json.Basic
import Conneg.MediaType.Basic

/-!
# Conneg.Header.Map

Header maps: JSON values under distinct names, in increasing order of names.

1. Every operation is known by what it does to `get?`, and maps with the same
   `get?` are equal (`HeaderMap.ext`).
2. `contentType?` is the media type that the `contentType` header holds, if it
   is a text that is one.
-/

namespace Conneg

/-- The name of the header that holds the content type. -/
def contentTypeName : String := "contentType"

/-- Header entries with increasing names. -/
structure HeaderMap where
  entries : List (String × Json)
  ordered : Entries.Ordered entries
  deriving DecidableEq

namespace HeaderMap

/-! ## operations -/

/-- The value of a header. -/
def get? (m : HeaderMap) (name : String) : Option Json := Entries.lookup name m.entries

/-- Whether a header is present. -/
def contains (m : HeaderMap) (name : String) : Bool := (m.get? name).isSome

def isEmpty (m : HeaderMap) : Bool := m.entries.isEmpty

/-- The number of headers. -/
def size (m : HeaderMap) : Nat := m.entries.length

/-- The map without headers. -/
def empty : HeaderMap := ⟨[], Entries.ordered_nil⟩

/-- Sets a header, replacing its value. -/
def insert (m : HeaderMap) (name : String) (value : Json) : HeaderMap :=
  ⟨Entries.insert name value m.entries, Entries.ordered_insert _ _ m.ordered⟩

/-- Removes a header. -/
def erase (m : HeaderMap) (name : String) : HeaderMap :=
  ⟨Entries.erase name m.entries, Entries.ordered_erase _ m.ordered⟩

/-- Sets every header of `source`. -/
def union (m source : HeaderMap) : HeaderMap :=
  ⟨Entries.insertAll m.entries source.entries, Entries.ordered_insertAll _ m.ordered⟩

/-- The map of a list of headers; of those with one name the last one counts. -/
def ofList (es : List (String × Json)) : HeaderMap :=
  ⟨Entries.insertAll [] es, Entries.ordered_insertAll _ Entries.ordered_nil⟩

/-- The map with its values in canonical form. -/
def canonical (m : HeaderMap) : HeaderMap :=
  ⟨Entries.mapValues Json.canonical m.entries, Entries.ordered_mapValues _ m.ordered⟩

/-- The media type in the `contentType` header, if it holds one. -/
def contentType? (m : HeaderMap) : Option MediaType := do
  let raw ← (← m.get? contentTypeName).string?
  (MediaType.parse raw).toOption

/-! ## laws -/

@[simp] theorem get?_empty (name : String) : empty.get? name = none := rfl

/-- Setting a header replaces its value and no other. -/
theorem get?_insert (m : HeaderMap) (k name : String) (value : Json) :
    (m.insert k value).get? name = if name = k then some value else m.get? name :=
  Entries.lookup_insert _ _ _ _

/-- Removing a header removes no other. -/
theorem get?_erase (m : HeaderMap) (k name : String) :
    (m.erase k).get? name = if name = k then none else m.get? name :=
  Entries.lookup_erase _ _ _

/-- Of two values for a header the one of the source stays. -/
theorem get?_union (m source : HeaderMap) (name : String) :
    (m.union source).get? name = (source.get? name).or (m.get? name) :=
  Entries.lookup_insertAll _ _ _ source.ordered

/-- Canonical form is that of every single value. -/
theorem get?_canonical (m : HeaderMap) (name : String) :
    m.canonical.get? name = (m.get? name).map Json.canonical :=
  Entries.lookup_mapValues _ _ _

/-- Maps with the same value for every name are equal. -/
theorem ext {m n : HeaderMap} (h : ∀ name, m.get? name = n.get? name) : m = n := by
  have := Entries.ext m.ordered n.ordered h
  cases m; cases n; simp_all

/-- A header with the value null is present. -/
theorem contains_iff {m : HeaderMap} {name : String} :
    m.contains name = true ↔ ∃ v, m.get? name = some v := by
  simp [contains, Option.isSome_iff_exists]

end HeaderMap

end Conneg
