import Conneg.Header.Map

/-!
# Conneg.Header.Accessor

Header sets and their accessors.

1. A header set is frozen: its entries never change. Its stamp is the identity
   of its storage, so sets with one stamp share their entries.
2. An accessor holds the set that it last wrote or started from. A snapshot is
   that set; it keeps its entries when the accessor goes on writing.
3. A step that changes the entries gives the accessor a set with the fresh stamp
   that the step is given. Setting a header counts as a change even if the value
   is the same; removing what is absent, filling what is present and copying
   nothing are none.
-/

namespace Conneg

/-- The identity of a storage of headers. -/
abbrev Stamp := Nat

/-- A frozen set of headers. -/
structure HeaderSet where
  stamp : Stamp
  map : HeaderMap
  deriving DecidableEq

namespace HeaderSet

/-- Whether two sets are one storage. -/
def sameStorage (a b : HeaderSet) : Bool := a.stamp == b.stamp

/-- Whether two sets have the same entries; signs of zeros make no difference. -/
def sameEntries (a b : HeaderSet) : Bool := a.map.canonical == b.map.canonical

end HeaderSet

/-- A set of headers under construction. -/
structure HeaderAccessor where
  /-- The current headers; the set shares its storage with the accessor. -/
  snapshot : HeaderSet
  deriving DecidableEq

namespace HeaderAccessor

/-- The current entries. -/
def map (a : HeaderAccessor) : HeaderMap := a.snapshot.map

/-- An accessor whose storage is new. -/
def ofMap (fresh : Stamp) (map : HeaderMap) : HeaderAccessor := ⟨⟨fresh, map⟩⟩

/-! ## writing -/

/-- Sets a header. -/
def set (a : HeaderAccessor) (fresh : Stamp) (name : String) (value : Json) : HeaderAccessor :=
  ofMap fresh (a.map.insert name value)

/-- Sets a header that is absent, and tells whether it was. -/
def setIfAbsent (a : HeaderAccessor) (fresh : Stamp) (name : String) (value : Json) :
    Bool × HeaderAccessor :=
  if a.map.contains name then (false, a) else (true, a.set fresh name value)

/-- Removes a header and gives its value. -/
def remove (a : HeaderAccessor) (fresh : Stamp) (name : String) : Option Json × HeaderAccessor :=
  match a.map.get? name with
  | none => (none, a)
  | some value => (some value, ofMap fresh (a.map.erase name))

/-- Sets every header of `source`. -/
def copy (a : HeaderAccessor) (fresh : Stamp) (source : HeaderMap) : HeaderAccessor :=
  if source.isEmpty then a else ofMap fresh (a.map.union source)

/-- Sets the content type. -/
def setContentType (a : HeaderAccessor) (fresh : Stamp) (type : MediaType) : HeaderAccessor :=
  a.set fresh contentTypeName (.string type.text)

/-! ## laws -/

@[simp] theorem map_ofMap (fresh : Stamp) (map : HeaderMap) : (ofMap fresh map).map = map := rfl

@[simp] theorem map_set (a : HeaderAccessor) (fresh : Stamp) (name : String) (value : Json) :
    (a.set fresh name value).map = a.map.insert name value := rfl

/-- A header that is present, whatever its value, is not set. -/
theorem map_setIfAbsent (a : HeaderAccessor) (fresh : Stamp) (name : String) (value : Json) :
    (a.setIfAbsent fresh name value).2.map =
      if a.map.contains name then a.map else a.map.insert name value := by
  unfold setIfAbsent
  split <;> rfl

/-- Removing erases the header, and changes no entry if it is absent. -/
theorem map_remove (a : HeaderAccessor) (fresh : Stamp) (name : String) :
    (a.remove fresh name).2.map = a.map.erase name := by
  unfold remove
  split
  · next h =>
    refine HeaderMap.ext fun k => ?_
    rw [HeaderMap.get?_erase]
    by_cases hk : k = name
    · simp [hk, h]
    · simp [hk]
  · rfl

/-- Copying joins the entries, and changes none if there is nothing to copy. -/
theorem map_copy (a : HeaderAccessor) (fresh : Stamp) (source : HeaderMap) :
    (a.copy fresh source).map = a.map.union source := by
  unfold copy
  split
  · next h =>
    have hnil : source.entries = [] := by simpa [HeaderMap.isEmpty] using h
    refine HeaderMap.ext fun k => ?_
    rw [HeaderMap.get?_union]
    simp [HeaderMap.get?, hnil]
  · rfl

end HeaderAccessor

/-- Headers given to a conversion: frozen ones are copied before anything is
added, and an accessor is written to in place. -/
inductive Headers where
  | frozen (headers : HeaderSet)
  | accessor (headers : HeaderAccessor)
  deriving DecidableEq

namespace Headers

/-- The entries. -/
def map : Headers → HeaderMap
  | frozen h => h.map
  | accessor a => a.map

end Headers

end Conneg
