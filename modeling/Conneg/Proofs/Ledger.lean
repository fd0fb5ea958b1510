import Conneg.Header.Accessor

/-!
# Conneg.Proofs.Ledger

A header map with immutable snapshots, and what it says about shared storage.

1. A `Ledger` has the current entries, says for each operation so far whether it
   wrote, and keeps a copy of the entries for each frozen set that was handed out. It
   knows nothing of storage.
2. A `View` is what can be seen of an accessor and the frozen sets that it has handed
   out: their entries, and which of them are one storage.
3. `Records`: a ledger is the record of a view. Two frozen sets are one storage
   exactly if nothing was written in between.
4. Whatever keeps, writes, freezes or drops on both sides keeps the relation
   (`Records.kept` and the lemmas after it). So a step is shown to be correct by saying
   which of these it is.
-/

namespace Conneg

/-! ## the ledger -/

/-- Some operation from the `i`-th on and before the `j`-th wrote. -/
def WroteBetween (history : List Bool) (i j : Nat) : Prop :=
  ∃ k, i ≤ k ∧ k < j ∧ history[k]? = some true

/-- Without an operation in between, nothing is written in between. -/
theorem not_wroteBetween_of_le {history : List Bool} {i j : Nat} (h : j ≤ i) :
    ¬ WroteBetween history i j := by
  rintro ⟨k, hik, hkj, -⟩
  omega

/-- What is done later does not change what was written between past operations. -/
theorem wroteBetween_append {history more : List Bool} {i j : Nat} (h : j ≤ history.length) :
    WroteBetween (history ++ more) i j ↔ WroteBetween history i j := by
  refine exists_congr fun k => and_congr_right fun _ => and_congr_right fun hkj => ?_
  rw [List.getElem?_append_left (Nat.lt_of_lt_of_le hkj h)]

/-- Up to one operation more, something was written if it was before or if that
operation writes. -/
theorem wroteBetween_concat {history : List Bool} {i : Nat} {wrote : Bool}
    (h : i ≤ history.length) :
    WroteBetween (history ++ [wrote]) i (history.length + 1) ↔
      WroteBetween history i history.length ∨ wrote = true := by
  constructor
  · rintro ⟨k, hik, hkj, hk⟩
    by_cases hlast : k = history.length
    · subst hlast
      simp at hk
      exact .inr hk
    · have hlt : k < history.length := by omega
      rw [List.getElem?_append_left hlt] at hk
      exact .inl ⟨k, hik, hlt, hk⟩
  · rintro (⟨k, hik, hkj, hk⟩ | rfl)
    · refine ⟨k, hik, by omega, ?_⟩
      rw [List.getElem?_append_left hkj, hk]
    · exact ⟨history.length, h, Nat.lt_succ_self _, by simp⟩

/-- The record of a frozen set: its entries, and the number of operations before it. -/
structure Taken where
  map : HeaderMap
  time : Nat

/-- A header map with the record of what was done to it and of its snapshots. -/
structure Ledger where
  map : HeaderMap
  /-- For every operation, whether it wrote. -/
  history : List Bool
  /-- What was handed out, in order; what was dropped leaves its place empty. -/
  handed : List (Option Taken)

namespace Ledger

/-- The record of new headers. -/
def start (map : HeaderMap) : Ledger := ⟨map, [], []⟩

/-- After an operation that wrote nothing. -/
def kept (l : Ledger) : Ledger := { l with history := l.history ++ [false] }

/-- After an operation that wrote. -/
def wrote (l : Ledger) (map : HeaderMap) : Ledger :=
  { l with map := map, history := l.history ++ [true] }

/-- Hands out the current entries. -/
def freeze (l : Ledger) : Ledger :=
  { l with handed := l.handed ++ [some ⟨l.map, l.history.length⟩] }

/-- The snapshot that was handed out at `n`, unless it was dropped. -/
def held? (l : Ledger) (n : Nat) : Option Taken := (l.handed[n]?).join

/-- Drops the snapshot that was handed out at `n`. -/
def drop (l : Ledger) (n : Nat) : Ledger := { l with handed := l.handed.set n none }

end Ledger

/-! ## the view -/

/-- The current headers of an accessor and the frozen sets that it has handed out. -/
structure View where
  accessor : HeaderSet
  handed : List (Option HeaderSet)

namespace View

/-- The current headers are handed out as they are, storage included. -/
def freeze (v : View) : View := { v with handed := v.handed ++ [some v.accessor] }

/-- The frozen set that was handed out at `n`, unless it was dropped. -/
def held? (v : View) (n : Nat) : Option HeaderSet := (v.handed[n]?).join

def drop (v : View) (n : Nat) : View := { v with handed := v.handed.set n none }

/-- The accessor gets new entries in storage that no frozen set is in; the frozen sets
are as they were. -/
structure Writes (v : View) (map : HeaderMap) (w : View) : Prop where
  map : w.accessor.map = map
  handed : w.handed = v.handed
  detached : ∀ set, some set ∈ v.handed → set.stamp ≠ w.accessor.stamp

end View

/-! ## recording -/

/-- A frozen set and its record, at the same place. -/
def Held (sets : List (Option HeaderSet)) (records : List (Option Taken)) (set : HeaderSet)
    (taken : Taken) : Prop :=
  ∃ n : Nat, sets[n]? = some (some set) ∧ records[n]? = some (some taken)

/-- The ledger is the record of the view. -/
structure Records (v : View) (l : Ledger) : Prop where
  /-- The current entries are the recorded ones. -/
  map : v.accessor.map = l.map
  /-- Each frozen set has the entries that it had when it was handed out. -/
  handed : v.handed.map (Option.map HeaderSet.map) = l.handed.map (Option.map Taken.map)
  past : ∀ taken, some taken ∈ l.handed → taken.time ≤ l.history.length
  /-- A frozen set is in the storage of the accessor exactly if nothing was written
  since. -/
  current : ∀ set taken, Held v.handed l.handed set taken →
    (set.sameStorage v.accessor = true ↔ ¬ WroteBetween l.history taken.time l.history.length)
  /-- Two frozen sets are one storage exactly if nothing was written in between. -/
  shared : ∀ set taken set' taken', Held v.handed l.handed set taken →
    Held v.handed l.handed set' taken' → taken.time ≤ taken'.time →
    (set.sameStorage set' = true ↔ ¬ WroteBetween l.history taken.time taken'.time)

/-- Sets are one storage if they have one stamp. -/
theorem sameStorage_iff {a b : HeaderSet} : a.sameStorage b = true ↔ a.stamp = b.stamp :=
  beq_iff_eq

namespace Held

variable {sets : List (Option HeaderSet)} {records : List (Option Taken)} {set a : HeaderSet}
  {taken b : Taken} {n : Nat}

theorem mem_left (h : Held sets records set taken) : some set ∈ sets := by
  obtain ⟨n, hset, -⟩ := h
  exact List.mem_of_getElem? hset

theorem mem_right (h : Held sets records set taken) : some taken ∈ records := by
  obtain ⟨n, -, htaken⟩ := h
  exact List.mem_of_getElem? htaken

/-- Behind what was held before there is only the set that is handed out now. -/
theorem of_append (hlength : sets.length = records.length)
    (h : Held (sets ++ [some a]) (records ++ [some b]) set taken) :
    Held sets records set taken ∨ set = a ∧ taken = b := by
  obtain ⟨n, hset, htaken⟩ := h
  by_cases hlt : n < sets.length
  · rw [List.getElem?_append_left hlt] at hset
    rw [List.getElem?_append_left (hlength ▸ hlt)] at htaken
    exact .inl ⟨n, hset, htaken⟩
  · have hn : n = sets.length := by
      have hbound := (List.getElem?_eq_some_iff.1 hset).1
      simp at hbound
      omega
    subst hn
    rw [hlength] at htaken
    simp at hset htaken
    exact .inr ⟨hset.symm, htaken.symm⟩

/-- What is held after a drop was held before it. -/
theorem of_set (h : Held (sets.set n none) (records.set n none) set taken) :
    Held sets records set taken := by
  obtain ⟨m, hset, htaken⟩ := h
  by_cases hm : n = m
  · subst hm
    simp [List.getElem?_set] at hset
  · rw [List.getElem?_set_ne hm] at hset htaken
    exact ⟨m, hset, htaken⟩

end Held

/-- New headers are recorded by a ledger in which nothing has happened. -/
theorem records_start (stamp : Stamp) (map : HeaderMap) :
    Records ⟨⟨stamp, map⟩, []⟩ (.start map) where
  map := rfl
  handed := rfl
  past _ h := absurd h List.not_mem_nil
  current _ _ h := absurd h.mem_left List.not_mem_nil
  shared _ _ _ _ h := absurd h.mem_left List.not_mem_nil

namespace Records

variable {v w : View} {l : Ledger} {map : HeaderMap}

/-- Every frozen set has its record, and dropped ones keep their places. -/
theorem length_eq (h : Records v l) : v.handed.length = l.handed.length := by
  simpa using congrArg List.length h.handed

/-- What is held is recorded, with its entries. -/
theorem held?_cases (h : Records v l) (n : Nat) :
    (v.held? n = none ∧ l.held? n = none) ∨
      ∃ set taken, v.held? n = some set ∧ l.held? n = some taken ∧ set.map = taken.map := by
  have hn : (v.held? n).map HeaderSet.map = (l.held? n).map Taken.map := by
    have hjoin := congrArg (fun maps => (maps[n]?).join) h.handed
    simp only [List.getElem?_map, Option.join_map_eq_map_join] at hjoin
    exact hjoin
  cases hset : v.held? n with
  | none =>
    rw [hset] at hn
    exact .inl ⟨rfl, Option.map_eq_none_iff.1 hn.symm⟩
  | some set =>
    rw [hset] at hn
    obtain ⟨taken, htaken, hmap⟩ := Option.map_eq_some_iff.1 hn.symm
    exact .inr ⟨set, taken, rfl, htaken, hmap.symm⟩

/-- An operation that leaves the view as it is writes nothing. -/
theorem kept (h : Records v l) : Records v l.kept where
  map := h.map
  handed := h.handed
  past taken ht := Nat.le_trans (h.past taken ht) (by simp [Ledger.kept])
  current set taken hheld := by
    have hhistory : l.kept.history.length = l.history.length + 1 := by simp [Ledger.kept]
    rw [hhistory, Ledger.kept, wroteBetween_concat (h.past taken hheld.mem_right)]
    simpa using h.current set taken hheld
  shared set taken set' taken' hheld hheld' hle := by
    rw [Ledger.kept, wroteBetween_append (h.past taken' hheld'.mem_right)]
    exact h.shared set taken set' taken' hheld hheld' hle

/-- After a write none of the frozen sets is in the storage of the accessor any more. -/
theorem wrote (h : Records v l) (hw : v.Writes map w) : Records w (l.wrote map) where
  map := hw.map
  handed := by
    rw [hw.handed]
    exact h.handed
  past taken ht := Nat.le_trans (h.past taken ht) (by simp [Ledger.wrote])
  current set taken hheld := by
    rw [hw.handed] at hheld
    have hdetached := hw.detached set hheld.mem_left
    have hhistory : (l.wrote map).history.length = l.history.length + 1 := by
      simp [Ledger.wrote]
    rw [hhistory, Ledger.wrote, wroteBetween_concat (h.past taken hheld.mem_right),
      sameStorage_iff]
    simp [hdetached]
  shared set taken set' taken' hheld hheld' hle := by
    rw [hw.handed] at hheld hheld'
    rw [Ledger.wrote, wroteBetween_append (h.past taken' hheld'.mem_right)]
    exact h.shared set taken set' taken' hheld hheld' hle

/-- The set handed out now is one storage with each that was handed out since the last
write. -/
theorem freeze (h : Records v l) : Records v.freeze l.freeze where
  map := h.map
  handed := by simp [View.freeze, Ledger.freeze, h.handed, h.map]
  past taken ht := by
    obtain ht | ht := List.mem_append.1 ht
    · exact h.past taken ht
    · cases List.mem_singleton.1 ht
      exact Nat.le_refl _
  current set taken hheld := by
    obtain hheld | ⟨rfl, rfl⟩ := hheld.of_append h.length_eq
    · exact h.current set taken hheld
    · exact iff_of_true (sameStorage_iff.2 rfl) (not_wroteBetween_of_le (Nat.le_refl _))
  shared set taken set' taken' hheld hheld' hle := by
    obtain hheld | ⟨rfl, rfl⟩ := hheld.of_append h.length_eq
    · obtain hheld' | ⟨rfl, rfl⟩ := hheld'.of_append h.length_eq
      · exact h.shared set taken set' taken' hheld hheld' hle
      · exact h.current set taken hheld
    · obtain hheld' | ⟨rfl, rfl⟩ := hheld'.of_append h.length_eq
      · -- nothing was done since the other one was handed out
        have hcurrent := (h.current set' taken' hheld').2 (not_wroteBetween_of_le hle)
        refine iff_of_true ?_ (not_wroteBetween_of_le (h.past taken' hheld'.mem_right))
        rw [sameStorage_iff] at hcurrent ⊢
        exact hcurrent.symm
      · exact iff_of_true (sameStorage_iff.2 rfl) (not_wroteBetween_of_le (Nat.le_refl _))

/-- A drop empties one place on both sides; the other sets and their storages stay. -/
theorem drop (h : Records v l) (n : Nat) : Records (v.drop n) (l.drop n) where
  map := h.map
  handed := by
    rw [View.drop, Ledger.drop, List.map_set, List.map_set, h.handed]
    rfl
  past taken ht := by
    obtain ht | ht := List.mem_or_eq_of_mem_set ht
    · exact h.past taken ht
    · cases ht
  current set taken hheld := h.current set taken hheld.of_set
  shared set taken set' taken' hheld hheld' := h.shared set taken set' taken' hheld.of_set hheld'.of_set

end Records

end Conneg
