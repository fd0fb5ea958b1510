import Conneg.Header.Accessor
import Mathlib.Logic.Function.Basic

/-!
# Conneg.Proofs.Storage

Header sets as storage that is shared and counted.

1. A `Heap` knows the entries and the number of holders of every storage. Entries last
   as long as somebody holds them (`Heap.entries_release`). To write, a holder first
   makes the storage its own (`Heap.own`): in place if nobody else holds it, and else
   in a copy.
2. `Sharing` is an accessor with the frozen sets that it has handed out. All of them
   are references into one heap; a frozen set can be dropped.
3. `Counted`: the number of holders of a storage is the number of references to it.
   Every step keeps it, so what is written in place is referred to by the accessor
   alone, and frozen sets keep their entries (`Counted.write`).
-/

namespace Conneg

open Function

/-! ## the heap -/

/-- Storages of header entries, with the number of their holders. -/
structure Heap where
  entries : Stamp → HeaderMap
  holders : Stamp → Nat
  /-- From here on, no storage has been used. -/
  next : Stamp

namespace Heap

/-- A heap without holders. -/
def empty : Heap := ⟨fun _ => .empty, fun _ => 0, 0⟩

/-- New storage, with one holder. -/
def alloc (h : Heap) (map : HeaderMap) : Stamp × Heap :=
  (h.next, ⟨update h.entries h.next map, update h.holders h.next 1, h.next + 1⟩)

/-- One holder more. -/
def retain (h : Heap) (s : Stamp) : Heap :=
  { h with holders := update h.holders s (h.holders s + 1) }

/-- One holder less; the last one takes the entries along. -/
def release (h : Heap) (s : Stamp) : Heap where
  entries := if h.holders s = 1 then update h.entries s .empty else h.entries
  holders := update h.holders s (h.holders s - 1)
  next := h.next

/-- Storage with the entries of `s` for a holder of `s` that is about to write. -/
def own (h : Heap) (s : Stamp) : Stamp × Heap :=
  if h.holders s = 1 then (s, h)
  else
    let copied := h.alloc (h.entries s)
    (copied.1, copied.2.release s)

/-- Other entries in the same storage. -/
def overwrite (h : Heap) (s : Stamp) (map : HeaderMap) : Heap :=
  { h with entries := update h.entries s map }

section

variable (h : Heap) (s : Stamp) (map : HeaderMap) {x : Stamp}

/-- New storage has one holder. -/
theorem holders_alloc :
    (h.alloc map).2.holders x = if x = h.next then 1 else h.holders x :=
  update_apply ..

/-- A storage that is retained has one holder more. -/
theorem holders_retain :
    (h.retain s).holders x = h.holders x + if s = x then 1 else 0 := by
  by_cases hx : s = x
  · simp [retain, hx]
  · simp [retain, hx, Ne.symm hx]

/-- A storage that is released has one holder less. -/
theorem holders_release :
    (h.release s).holders x = h.holders x - if s = x then 1 else 0 := by
  by_cases hx : s = x
  · simp [release, hx]
  · simp [release, hx, Ne.symm hx]

theorem entries_alloc_next : (h.alloc map).2.entries h.next = map := update_self ..

/-- New storage leaves the entries of all others alone. -/
theorem entries_alloc (hx : x ≠ h.next) : (h.alloc map).2.entries x = h.entries x :=
  update_of_ne hx ..

/-- Entries last as long as somebody holds them. -/
theorem entries_release (hx : 0 < (h.release s).holders x) :
    (h.release s).entries x = h.entries x := by
  unfold release
  by_cases hlast : h.holders s = 1
  · have hne : x ≠ s := by
      rintro rfl
      simp [holders_release, hlast] at hx
    simp [hlast, hne]
  · simp [hlast]

theorem entries_overwrite_self : (h.overwrite s map).entries s = map := update_self ..

/-- Only the storage that is written gets other entries. -/
theorem entries_overwrite (hx : x ≠ s) : (h.overwrite s map).entries x = h.entries x :=
  update_of_ne hx ..

end

end Heap

/-! ## an accessor and what it has handed out -/

/-- An accessor and the frozen sets that it has handed out, in order; one that was
dropped leaves its place empty. -/
structure Sharing where
  heap : Heap
  accessor : Stamp
  handed : List (Option Stamp)

namespace Sharing

/-- An accessor whose storage is new. -/
def start (map : HeaderMap) : Sharing :=
  let x := Heap.empty.alloc map
  ⟨x.2, x.1, []⟩

/-- The current entries. -/
def map (s : Sharing) : HeaderMap := s.heap.entries s.accessor

/-- Makes the storage of the accessor its own. -/
def own (s : Sharing) : Sharing :=
  let x := s.heap.own s.accessor
  ⟨x.2, x.1, s.handed⟩

/-- Changes the entries in storage of its own. -/
def write (s : Sharing) (f : HeaderMap → HeaderMap) : Sharing :=
  { s.own with heap := s.own.heap.overwrite s.own.accessor (f s.own.map) }

/-- Sets a header. -/
def set (s : Sharing) (name : String) (value : Json) : Sharing := s.write (·.insert name value)

/-- Sets a header that is absent, and tells whether it was. -/
def setIfAbsent (s : Sharing) (name : String) (value : Json) : Bool × Sharing :=
  if s.map.contains name then (false, s) else (true, s.set name value)

/-- Removes a header and gives its value. -/
def remove (s : Sharing) (name : String) : Option Json × Sharing :=
  if s.map.contains name then (s.own.map.get? name, s.write (·.erase name)) else (none, s)

/-- Sets every header of `source`. -/
def copy (s : Sharing) (source : HeaderMap) : Sharing :=
  if source.isEmpty then s else s.write (·.union source)

/-- Sets every header of a frozen set, which is read when the storage is owned. -/
def copyFrom (s : Sharing) (source : Stamp) : Sharing :=
  if (s.heap.entries source).isEmpty then s
  else s.write (·.union (s.own.heap.entries source))

/-- Sets the content type. -/
def setContentType (s : Sharing) (type : MediaType) : Sharing :=
  s.set contentTypeName (.string type.text)

/-- Hands out the current headers, in the storage of the accessor. -/
def freeze (s : Sharing) : Sharing :=
  { s with heap := s.heap.retain s.accessor, handed := s.handed ++ [some s.accessor] }

/-- The frozen set that was handed out at `n`, unless it was dropped. -/
def held? (s : Sharing) (n : Nat) : Option Stamp := (s.handed[n]?).join

/-- Drops the frozen set that was handed out at `n`. -/
def drop (s : Sharing) (n : Nat) (stamp : Stamp) : Sharing :=
  { s with heap := s.heap.release stamp, handed := s.handed.set n none }

/-! ## counting holders -/

/-- The holders of a storage are the references to it. -/
structure Counted (s : Sharing) : Prop where
  holders : ∀ x, s.heap.holders x = (some s.accessor :: s.handed).count (some x)
  used : ∀ x, some x ∈ some s.accessor :: s.handed → x < s.heap.next

/-- Of new storage the accessor is the only holder. -/
theorem counted_start (map : HeaderMap) : (start map).Counted := by
  refine ⟨fun x => ?_, fun x hx => ?_⟩
  · by_cases hx : x = 0
    · simp [start, Heap.empty, Heap.alloc, hx]
    · simp [start, Heap.empty, Heap.alloc, hx, Ne.symm hx]
  · simp_all [start, Heap.empty, Heap.alloc]

section

variable {s : Sharing}

/-- Either nobody else holds the storage, or it is copied. -/
theorem own_cases (s : Sharing) :
    (s.heap.holders s.accessor = 1 ∧ s.own = s) ∨
      (s.heap.holders s.accessor ≠ 1 ∧
        s.own = ⟨(s.heap.alloc s.map).2.release s.accessor, s.heap.next, s.handed⟩) := by
  unfold own Heap.own
  by_cases hone : s.heap.holders s.accessor = 1
  · simp [hone]
  · simp [hone, map, Heap.alloc]

/-- Nothing refers to storage that is not yet used. -/
theorem Counted.next_not_mem (h : s.Counted) : some s.heap.next ∉ some s.accessor :: s.handed :=
  fun hmem => Nat.lt_irrefl _ (h.used _ hmem)

theorem Counted.accessor_ne_next (h : s.Counted) : s.accessor ≠ s.heap.next :=
  Nat.ne_of_lt (h.used s.accessor List.mem_cons_self)

/-- The accessor is one more reference to its storage beside the frozen sets. -/
theorem count_references (s : Sharing) (x : Stamp) :
    (some s.accessor :: s.handed).count (some x) =
      s.handed.count (some x) + if s.accessor = x then 1 else 0 := by
  simp [List.count_cons]

/-- Owning the storage keeps the count: a copy is held by the accessor alone, and the
original loses one holder. -/
theorem Counted.own (h : s.Counted) : s.own.Counted := by
  obtain ⟨-, hown⟩ | ⟨-, hown⟩ := own_cases s
  · rw [hown]
    exact h
  · rw [hown]
    refine ⟨fun x => ?_, fun x hx => ?_⟩
    · rw [count_references, Heap.holders_release, Heap.holders_alloc, h.holders x,
        count_references]
      -- new storage has the accessor as its only reference, any other lost at most that one
      by_cases hnext : x = s.heap.next
      · subst hnext
        have hnone : s.handed.count (some s.heap.next) = 0 :=
          List.count_eq_zero.2 fun hmem => h.next_not_mem (List.mem_cons_of_mem _ hmem)
        simp [h.accessor_ne_next, hnone]
      · simp [hnext, Ne.symm hnext]
    · obtain hnext | hmem := List.mem_cons.1 hx
      · cases hnext
        exact Nat.lt_succ_self s.heap.next
      · exact Nat.lt_succ_of_lt (h.used x (List.mem_cons_of_mem _ hmem))

/-- What is referred to is held. -/
theorem Counted.holders_pos (h : s.Counted) {x : Stamp}
    (hx : some x ∈ some s.accessor :: s.handed) : 0 < s.heap.holders x := by
  rw [h.holders x]
  exact List.count_pos_iff.2 hx

/-- Owned storage has the entries from before. -/
theorem Counted.map_own (h : s.Counted) : s.own.map = s.map := by
  have hheld := h.own.holders_pos List.mem_cons_self
  obtain ⟨-, hown⟩ | ⟨-, hown⟩ := own_cases s
  · rw [hown]
  · rw [hown] at hheld ⊢
    exact (Heap.entries_release _ _ hheld).trans (Heap.entries_alloc_next ..)

/-- Nobody else holds owned storage. -/
theorem Counted.own_not_mem (h : s.Counted) : some s.own.accessor ∉ s.handed := by
  obtain ⟨hone, hown⟩ | ⟨-, hown⟩ := own_cases s
  · rw [hown]
    have hcount := h.holders s.accessor
    rw [hone, List.count_cons_self] at hcount
    exact List.count_eq_zero.1 (by omega)
  · rw [hown]
    intro hmem
    exact h.next_not_mem (List.mem_cons_of_mem _ hmem)

/-- Frozen sets keep their entries while the accessor takes storage of its own. -/
theorem Counted.entries_own (h : s.Counted) {x : Stamp} (hx : some x ∈ s.handed) :
    s.own.heap.entries x = s.heap.entries x := by
  obtain ⟨-, hown⟩ | ⟨-, hown⟩ := own_cases s
  · rw [hown]
  · have hne : x ≠ s.heap.next := Nat.ne_of_lt (h.used x (List.mem_cons_of_mem _ hx))
    have hmem : some x ∈ some s.own.accessor :: s.own.handed := by
      rw [hown]
      exact List.mem_cons_of_mem _ hx
    have hheld := h.own.holders_pos hmem
    rw [hown] at hheld ⊢
    exact (Heap.entries_release _ _ hheld).trans (Heap.entries_alloc _ _ hne)

/-! ## steps -/

/-- What is written is computed from the entries from before. -/
theorem Counted.map_write (h : s.Counted) (f : HeaderMap → HeaderMap) :
    (s.write f).map = f s.map := by
  rw [← h.map_own]
  exact Heap.entries_overwrite_self ..

/-- **Copy on write.** Writing keeps the count, and the frozen sets keep their entries:
none of them is in the storage that is written. -/
theorem Counted.write (h : s.Counted) (f : HeaderMap → HeaderMap) :
    (s.write f).Counted ∧ some (s.write f).accessor ∉ s.handed ∧
      ∀ x, some x ∈ s.handed → (s.write f).heap.entries x = s.heap.entries x := by
  have hnot := h.own_not_mem
  refine ⟨⟨h.own.holders, h.own.used⟩, hnot, fun x hx => ?_⟩
  have hne : x ≠ s.own.accessor := by
    rintro rfl
    exact hnot hx
  rw [← h.entries_own hx]
  exact Heap.entries_overwrite _ _ _ hne

/-- Freezing keeps the count, with one reference and one holder more. -/
theorem Counted.freeze (h : s.Counted) : s.freeze.Counted := by
  refine ⟨fun x => ?_, fun x hx => ?_⟩
  · have hcount : (s.handed ++ [some s.accessor]).count (some x) =
        s.handed.count (some x) + if s.accessor = x then 1 else 0 := by
      simp [List.count_append, List.count_singleton]
    have hholders : s.freeze.heap.holders x = _ := Heap.holders_retain s.heap s.accessor
    rw [hholders, h.holders x, count_references, count_references, Sharing.freeze, hcount]
  · obtain hx | hx := List.mem_cons.1 hx
    · exact h.used x (hx ▸ List.mem_cons_self)
    · obtain hx | hx := List.mem_append.1 hx
      · exact h.used x (List.mem_cons_of_mem _ hx)
      · exact h.used x (List.mem_singleton.1 hx ▸ List.mem_cons_self)

/-- What is held at a place is what was handed out there. -/
theorem held?_eq_some_iff {n : Nat} {x : Stamp} :
    s.held? n = some x ↔ s.handed[n]? = some (some x) := by
  rw [held?, Option.join_eq_some_iff]

/-- Dropping a frozen set keeps the count, and the sets that are left keep their
entries. -/
theorem Counted.drop (h : s.Counted) {n : Nat} {x : Stamp} (hn : s.held? n = some x) :
    (s.drop n x).Counted ∧
      ∀ y, some y ∈ some s.accessor :: s.handed.set n none →
        (s.drop n x).heap.entries y = s.heap.entries y := by
  obtain ⟨hlt, hget⟩ := List.getElem?_eq_some_iff.1 (held?_eq_some_iff.1 hn)
  have hcount (y : Stamp) : (some s.accessor :: s.handed.set n none).count (some y) =
      s.heap.holders y - if x = y then 1 else 0 := by
    have hpos : 0 < s.handed.count (some x) := List.count_pos_iff.2 (hget ▸ List.getElem_mem hlt)
    rw [h.holders y, List.count_cons, List.count_cons, List.count_set hlt, hget]
    by_cases hy : x = y
    · subst hy
      simp
      omega
    · simp [hy]
  have hdropped : (s.drop n x).Counted := by
    refine ⟨fun y => ?_, fun y hy => ?_⟩
    · exact (Heap.holders_release s.heap x).trans (hcount y).symm
    · obtain hy | hy := List.mem_cons.1 hy
      · exact h.used y (hy ▸ List.mem_cons_self)
      · obtain hy | hy := List.mem_or_eq_of_mem_set hy
        · exact h.used y (List.mem_cons_of_mem _ hy)
        · cases hy
  exact ⟨hdropped, fun y hy => Heap.entries_release s.heap x (hdropped.holders_pos hy)⟩

end

end Sharing

end Conneg
