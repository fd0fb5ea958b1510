import Conneg.Proofs.ByteOrder
import Conneg.Proofs.Edits

/-!
# Conneg.Proofs.Snapshots

An accessor is a header map with immutable snapshots.

1. `Sharing.Tracks` and `Construction.Tracks`: the ledger is the record of what is seen
   of shared storage, and of an accessor whose writes have fresh stamps. The first one
   rests on the count of holders, the second one on the bound of the stamps.
2. Each edit keeps the relation (`Sharing.Tracks.step`, `Construction.Tracks.step`): it
   keeps, writes, freezes or drops on both sides, and the answers are the same.
3. Main statement: `edits_refine`, for every list of edits.
-/

namespace Conneg

namespace Sharing

/-! ## shared storage -/

/-- What can be seen of shared storage. -/
def view (s : Sharing) : View where
  accessor := ⟨s.accessor, s.map⟩
  handed := s.handed.map (Option.map fun x => ⟨x, s.heap.entries x⟩)

section

variable {s : Sharing} {l : Ledger} {n : Nat} {x : Stamp}

/-- A frozen set is seen with the entries that the heap has for it. -/
theorem held?_view (s : Sharing) (n : Nat) :
    s.view.held? n = (s.held? n).map fun x => ⟨x, s.heap.entries x⟩ := by
  simp [View.held?, held?, view, Option.join_map_eq_map_join]

theorem mem_handed_of_held? (h : s.held? n = some x) : some x ∈ s.handed :=
  List.mem_of_getElem? (held?_eq_some_iff.1 h)

/-- Frozen sets look the same in heaps with the same entries for them. -/
theorem handed_congr {handed : List (Option Stamp)} {f g : Stamp → HeaderMap}
    (h : ∀ x, some x ∈ handed → f x = g x) :
    handed.map (Option.map fun x => (⟨x, f x⟩ : HeaderSet)) =
      handed.map (Option.map fun x => ⟨x, g x⟩) := by
  refine List.map_congr_left fun o ho => ?_
  cases o with
  | none => rfl
  | some x => rw [Option.map_some, Option.map_some, h x ho]

/-- Copy on write, as far as it can be seen: the accessor moves to storage of no frozen
set, and those look as before. -/
theorem Counted.view_write (h : s.Counted) (f : HeaderMap → HeaderMap) :
    s.view.Writes (f s.map) (s.write f).view := by
  obtain ⟨-, hnot, hentries⟩ := h.write f
  refine ⟨h.map_write f, handed_congr hentries, fun set hset => ?_⟩
  obtain ⟨o, ho, hset⟩ := List.mem_map.1 hset
  obtain ⟨x, rfl, rfl⟩ := Option.map_eq_some_iff.1 hset
  rintro rfl
  exact hnot ho

/-- One holder more is not seen; what is seen is the set handed out. -/
theorem view_freeze (s : Sharing) : s.freeze.view = s.view.freeze := by
  simp [view, freeze, View.freeze, map, Heap.retain]

/-- One holder less is not seen either: no set that is left loses its entries. -/
theorem Counted.view_drop (h : s.Counted) (hn : s.held? n = some x) :
    (s.drop n x).view = s.view.drop n := by
  obtain ⟨-, hentries⟩ := h.drop hn
  have hmap : (s.drop n x).map = s.map := hentries s.accessor List.mem_cons_self
  have hhanded := handed_congr fun y hy => hentries y (List.mem_cons_of_mem _ hy)
  unfold view View.drop
  rw [hmap]
  exact congrArg (View.mk _) (hhanded.trans List.map_set)

/-- The storage is counted, and the ledger is the record of what is seen. -/
structure Tracks (s : Sharing) (l : Ledger) : Prop where
  counted : s.Counted
  records : Records s.view l

namespace Tracks

/-- Storage with the accessor as its only holder is recorded by a new ledger. -/
theorem start (map : HeaderMap) : Tracks (start map) (.start map) := by
  refine ⟨counted_start map, ?_⟩
  have hview : (Sharing.start map).view = ⟨⟨0, map⟩, []⟩ := by
    simp [view, Sharing.start, Sharing.map, Heap.alloc, Heap.empty]
  rw [hview]
  exact records_start 0 map

/-- The current entries are the recorded ones. -/
theorem map_eq (h : Tracks s l) : s.map = l.map := h.records.map

theorem kept (h : Tracks s l) : Tracks s l.kept := ⟨h.counted, h.records.kept⟩

/-- Writing to storage of its own is writing in the ledger. -/
theorem write (h : Tracks s l) (f : HeaderMap → HeaderMap) :
    Tracks (s.write f) (l.wrote (f l.map)) := by
  have hview := h.counted.view_write f
  rw [h.map_eq] at hview
  exact ⟨(h.counted.write f).1, h.records.wrote hview⟩

/-- Retaining the current storage is handing out the current entries. -/
theorem freeze (h : Tracks s l) : Tracks s.freeze l.freeze := by
  refine ⟨h.counted.freeze, ?_⟩
  rw [view_freeze]
  exact h.records.freeze

/-- Releasing a frozen set is dropping its record. -/
theorem drop (h : Tracks s l) (hn : s.held? n = some x) : Tracks (s.drop n x) (l.drop n) := by
  refine ⟨(h.counted.drop hn).1, ?_⟩
  rw [h.counted.view_drop hn]
  exact h.records.drop n

/-- Copying writes, unless there is nothing to copy. -/
theorem copied (h : Tracks s l) (source : HeaderMap) : Tracks (s.copy source) (l.copied source) := by
  unfold copy Ledger.copied
  cases source.isEmpty with
  | true => exact h.kept
  | false => exact h.write (·.union source)

/-- What is copied from a frozen set are its entries: it is not in the storage that is
written. -/
theorem copyFrom_eq (h : Tracks s l) (hn : s.held? n = some x) :
    s.copyFrom x = s.copy (s.heap.entries x) := by
  unfold copyFrom copy
  rw [h.counted.entries_own (mem_handed_of_held? hn)]

/-- Filling in a content type writes if it changes the entries, and does nothing
otherwise. -/
theorem filled (h : Tracks s l) {type : Option MediaType} {map : HeaderMap}
    (hmap : map = l.map.filled type) :
    Tracks (s.fillContentType type) (if map = l.map then l.kept else l.wrote map) := by
  subst hmap
  obtain ⟨hsame, hc⟩ | ⟨m, rfl, hc, hfilled, hne⟩ := l.map.filled_cases type
  · rw [if_pos hsame]
    have hfill : s.fillContentType type = s := by
      cases type with
      | none => rfl
      | some m => rw [fillContentType, setIfAbsent, h.map_eq, if_pos (hc m rfl)]
    rw [hfill]
    exact h.kept
  · rw [if_neg hne, hfilled]
    have hfill : s.fillContentType (some m) = s.set contentTypeName (.string m.text) := by
      rw [fillContentType, setIfAbsent, h.map_eq, hc]
      rfl
    rw [hfill]
    exact h.write (·.insert contentTypeName (.string m.text))

/-- What is named by an edit is held on both sides or on neither. -/
theorem held?_cases (h : Tracks s l) (n : Nat) :
    (s.held? n = none ∧ l.held? n = none) ∨
      ∃ x taken, s.held? n = some x ∧ l.held? n = some taken ∧ s.heap.entries x = taken.map := by
  obtain ⟨hv, hl⟩ | ⟨set, taken, hv, hl, hmap⟩ := h.records.held?_cases n
  · rw [held?_view, Option.map_eq_none_iff] at hv
    exact .inl ⟨hv, hl⟩
  · rw [held?_view] at hv
    obtain ⟨x, hx, rfl⟩ := Option.map_eq_some_iff.1 hv
    exact .inr ⟨x, taken, hx, hl, hmap⟩

/-- A message is made of the filled in headers, which are then frozen. Without a message
the storage stays as it is. -/
theorem converted (h : Tracks s l) (t : MessageConverter) (p : Payload) :
    (s.toMessage t p).1 = (l.converted t p).1 ∧
      Tracks (s.toMessage t p).2 (l.converted t p).2 := by
  have hfollows := follows_toMessage s t p 0 0
  rw [h.map_eq] at hfollows
  unfold Ledger.converted
  generalize (t.toMessage 0 p (some (.frozen ⟨0, l.map⟩))).value.outcome = y at hfollows
  generalize s.toMessage t p = x at hfollows
  cases hfollows with
  | declined => exact ⟨rfl, h.kept⟩
  | failed e => exact ⟨rfl, h.kept⟩
  | made m type hmap =>
    rw [h.map_eq] at hmap
    exact ⟨rfl, (h.filled hmap).freeze⟩

/-- One edit. -/
theorem step (h : Tracks s l) (e : Edit) : Alike Tracks (s.step e) (l.step e) := by
  cases e with
  | set name value => exact .some ⟨rfl, h.write (·.insert name value)⟩
  | setIfAbsent name value =>
    rw [Sharing.step, Ledger.step, setIfAbsent, h.map_eq]
    cases l.map.contains name with
    | true => exact .some ⟨rfl, h.kept⟩
    | false => exact .some ⟨rfl, h.write (·.insert name value)⟩
  | remove name =>
    rw [Sharing.step, Ledger.step, remove, h.counted.map_own, h.map_eq]
    cases l.map.contains name with
    | true => exact .some ⟨rfl, h.write (·.erase name)⟩
    | false => exact .some ⟨rfl, h.kept⟩
  | copy source => exact .some ⟨rfl, h.copied source⟩
  | copyFrom n =>
    rw [Sharing.step, Ledger.step]
    obtain ⟨hs, hl⟩ | ⟨x, taken, hs, hl, hmap⟩ := h.held?_cases n
    · rw [hs, hl]
      exact .none
    · rw [hs, hl, Option.map_some, Option.map_some, h.copyFrom_eq hs, hmap]
      exact .some ⟨rfl, h.copied taken.map⟩
  | setContentType type => exact .some ⟨rfl, h.write (·.insert contentTypeName (.string type.text))⟩
  | freeze => exact .some ⟨rfl, h.kept.freeze⟩
  | toMessage t p => exact .some ⟨congrArg Answer.converted (h.converted t p).1, (h.converted t p).2⟩
  | drop n =>
    rw [Sharing.step, Ledger.step]
    obtain ⟨hs, hl⟩ | ⟨x, taken, hs, hl, -⟩ := h.held?_cases n
    · rw [hs, hl]
      exact .none
    · rw [hs, hl]
      exact .some ⟨rfl, h.kept.drop hs⟩

end Tracks

end

end Sharing

namespace Construction

/-! ## fresh stamps -/

/-- What can be seen of an accessor and what it has handed out. -/
def view (c : Construction) : View := ⟨c.accessor.snapshot, c.handed⟩

/-- All stamps in use are below the next one, and the ledger is the record of what is
seen. -/
structure Tracks (c : Construction) (l : Ledger) : Prop where
  accessor : c.accessor.snapshot.stamp < c.next
  handed : ∀ set, some set ∈ c.handed → set.stamp < c.next
  records : Records c.view l

section

variable {c : Construction} {l : Ledger} {n : Nat}

namespace Tracks

/-- Only the first stamp is in use. -/
theorem start (map : HeaderMap) : Tracks (start map) (.start map) where
  accessor := Nat.zero_lt_one
  handed _ h := absurd h List.not_mem_nil
  records := records_start 0 map

theorem map_eq (h : Tracks c l) : c.accessor.map = l.map := h.records.map

theorem kept (h : Tracks c l) : Tracks c l.kept where
  accessor := h.accessor
  handed := h.handed
  records := h.records.kept

/-- A step that was given a stamp and did not use it. -/
theorem update_self (h : Tracks c l) : Tracks (c.update c.accessor) l where
  accessor := Nat.lt_succ_of_lt h.accessor
  handed set hset := Nat.lt_succ_of_lt (h.handed set hset)
  records := h.records

/-- The next stamp is that of no frozen set, so a write with it is detached from all of
them. -/
theorem write (h : Tracks c l) (map : HeaderMap) :
    Tracks (c.update (.ofMap c.next map)) (l.wrote map) where
  accessor := Nat.lt_succ_self c.next
  handed set hset := Nat.lt_succ_of_lt (h.handed set hset)
  records := h.records.wrote ⟨rfl, rfl, fun set hset => Nat.ne_of_lt (h.handed set hset)⟩

/-- A frozen set has the stamp of the accessor, and no new one is used. -/
theorem freeze (h : Tracks c l) : Tracks (c.hand c.accessor.snapshot) l.freeze where
  accessor := h.accessor
  handed set hset := by
    obtain hset | hset := List.mem_append.1 hset
    · exact h.handed set hset
    · cases List.mem_singleton.1 hset
      exact h.accessor
  records := h.records.freeze

/-- Stamps are not used again, so dropping a set concerns its record alone. -/
theorem drop (h : Tracks c l) (n : Nat) :
    Tracks { c with handed := c.handed.set n none } (l.drop n) where
  accessor := h.accessor
  handed set hset := by
    obtain hset | hset := List.mem_or_eq_of_mem_set hset
    · exact h.handed set hset
    · cases hset
  records := h.records.drop n

theorem held?_cases (h : Tracks c l) (n : Nat) :
    (c.held? n = none ∧ l.held? n = none) ∨
      ∃ set taken, c.held? n = some set ∧ l.held? n = some taken ∧ set.map = taken.map :=
  h.records.held?_cases n

/-- Copying writes, unless there is nothing to copy; then the stamp given for it is not
used. -/
theorem copied (h : Tracks c l) (source : HeaderMap) :
    Tracks (c.update (c.accessor.copy c.next source)) (l.copied source) := by
  unfold HeaderAccessor.copy Ledger.copied
  rw [h.map_eq]
  cases source.isEmpty with
  | true => exact h.kept.update_self
  | false => exact h.write (l.map.union source)

/-- Filling in a content type writes if it changes the entries; otherwise the stamp is
not used. -/
theorem filled (h : Tracks c l) {type : Option MediaType} {map : HeaderMap}
    (hmap : map = l.map.filled type) :
    Tracks (c.update (Headers.fillContentType c.accessor c.next type))
      (if map = l.map then l.kept else l.wrote map) := by
  subst hmap
  obtain ⟨hsame, hc⟩ | ⟨m, rfl, hc, hfilled, hne⟩ := l.map.filled_cases type
  · rw [if_pos hsame]
    have hfill : Headers.fillContentType c.accessor c.next type = c.accessor := by
      cases type with
      | none => rfl
      | some m =>
        rw [Headers.fillContentType, HeaderAccessor.setIfAbsent, h.map_eq, if_pos (hc m rfl)]
    rw [hfill]
    exact h.kept.update_self
  · rw [if_neg hne, hfilled]
    have hfill : Headers.fillContentType c.accessor c.next (some m) =
        .ofMap c.next (l.map.insert contentTypeName (.string m.text)) := by
      rw [Headers.fillContentType, HeaderAccessor.setIfAbsent, HeaderAccessor.set, h.map_eq, hc]
      rfl
    rw [hfill]
    exact h.write (l.map.insert contentTypeName (.string m.text))

/-- The ledger converts under frozen headers. An accessor comes to the same and
afterwards holds the set of the message (`headerModes`), which is what the ledger hands
out. -/
theorem converted (h : Tracks c l) (t : MessageConverter) (p : Payload) :
    (c.convert t p).1 = (l.converted t p).1 ∧ Tracks (c.convert t p).2 (l.converted t p).2 := by
  have hmodes := t.headerModes (h := ⟨0, l.map⟩) (a := c.accessor) 0 c.next p h.map_eq
  -- errors and declining leave the accessor alone; otherwise it is what one leaf filled in
  obtain ⟨b, hheaders, hleaves⟩ := hmodes.leaves
  unfold convert Ledger.converted
  obtain ⟨e, hf, ha⟩ | ⟨hf, ha⟩ | ⟨m, m', hf, ha, hpayload, hmap⟩ :=
    Conversion.outcome_cases hmodes.answer
  · rw [ha] at hleaves
    subst hleaves
    simp only [hf, ha, hheaders]
    exact ⟨trivial, h.kept.update_self⟩
  · rw [ha] at hleaves
    subst hleaves
    simp only [hf, ha, hheaders]
    exact ⟨trivial, h.kept.update_self⟩
  · rw [ha] at hleaves
    simp only [hf, ha, hheaders, hpayload]
    refine ⟨trivial, ?_⟩
    have hanswers :
        (t.toMessage c.next p (some (.accessor c.accessor))).value.outcome ≠ .ok none := by
      simp [ha]
    obtain ⟨leaf, -, hleaf⟩ := MessageConverter.exists_leaf_of_made hanswers
    rw [← hleaf] at ha
    obtain ⟨-, -, hcomplete⟩ := Converter.encoded_of_made ha
    have hfilled : m.headers.map = l.map.filled (leaf.defaultContentType m'.payload) := by
      rw [hmap, hcomplete, Headers.map_complete, ← h.map_eq]
      rfl
    have hlast : b.snapshot = m'.headers := hleaves
    rw [hcomplete] at hlast ⊢
    obtain rfl : b = Headers.fillContentType c.accessor c.next _ :=
      congrArg HeaderAccessor.mk hlast
    exact (h.filled hfilled).freeze

/-- One edit. -/
theorem step (h : Tracks c l) (e : Edit) : Alike Tracks (c.step e) (l.step e) := by
  cases e with
  | set name value =>
    rw [Construction.step, Ledger.step, HeaderAccessor.set, h.map_eq]
    exact .some ⟨rfl, h.write (l.map.insert name value)⟩
  | setIfAbsent name value =>
    rw [Construction.step, Ledger.step, HeaderAccessor.setIfAbsent, HeaderAccessor.set, h.map_eq]
    cases l.map.contains name with
    | true => exact .some ⟨rfl, h.kept.update_self⟩
    | false => exact .some ⟨rfl, h.write (l.map.insert name value)⟩
  | remove name =>
    rw [Construction.step, Ledger.step, HeaderAccessor.remove, h.map_eq, HeaderMap.contains]
    cases l.map.get? name with
    | none => exact .some ⟨rfl, h.kept.update_self⟩
    | some value => exact .some ⟨rfl, h.write (l.map.erase name)⟩
  | copy source => exact .some ⟨rfl, h.copied source⟩
  | copyFrom n =>
    rw [Construction.step, Ledger.step]
    obtain ⟨hc, hl⟩ | ⟨set, taken, hc, hl, hmap⟩ := h.held?_cases n
    · rw [hc, hl]
      exact .none
    · rw [hc, hl, Option.map_some, Option.map_some, hmap]
      exact .some ⟨rfl, h.copied taken.map⟩
  | setContentType type =>
    rw [Construction.step, Ledger.step, HeaderAccessor.setContentType, HeaderAccessor.set, h.map_eq]
    exact .some ⟨rfl, h.write (l.map.insert contentTypeName (.string type.text))⟩
  | freeze => exact .some ⟨rfl, h.kept.freeze⟩
  | toMessage t p => exact .some ⟨congrArg Answer.converted (h.converted t p).1, (h.converted t p).2⟩
  | drop n =>
    rw [Construction.step, Ledger.step]
    obtain ⟨hc, hl⟩ | ⟨set, taken, hc, hl, -⟩ := h.held?_cases n
    · rw [hc, hl]
      exact .none
    · rw [hc, hl]
      exact .some ⟨rfl, h.kept.drop n⟩

end Tracks

end

end Construction

/-! ## refinement -/

/-- Edits refine those of a header map with immutable snapshots. -/
structure Refines {S : Type} (start : HeaderMap → S) (step : S → Edit → Option (Answer × S))
    (view : S → View) : Prop where
  /-- The same edits are possible, their answers are the same, and the ledger is the
  record of what is seen: of the current entries, of the entries of every frozen set,
  and of which sets are one storage. -/
  records : ∀ (map : HeaderMap) (es : List Edit),
    Alike (fun s l => Records (view s) l) (runEdits step es (start map))
      (runEdits Ledger.step es (.start map))
  /-- A frozen set keeps its entries, whatever is done later, until it is dropped. -/
  lasting : ∀ (map : HeaderMap) (es more : List Edit) (x y : List Answer × S),
    runEdits step es (start map) = some x → runEdits step more x.2 = some y →
    ∀ n set, (view x.2).held? n = some set →
      (view y.2).held? n = none ∨ ∃ set', (view y.2).held? n = some set' ∧ set'.map = set.map

/-- A relation to ledgers that every edit keeps. -/
theorem refines_of_step {S : Type} {R : S → Ledger → Prop} {start : HeaderMap → S}
    {step : S → Edit → Option (Answer × S)} {view : S → View}
    (hstart : ∀ map, R (start map) (.start map))
    (hstep : ∀ {s l}, R s l → ∀ e, Alike R (step s e) (l.step e))
    (hrecords : ∀ {s l}, R s l → Records (view s) l) : Refines start step view where
  records map es := by
    have hrun := runEdits_alike hstep es (hstart map)
    generalize runEdits step es (start map) = x at hrun
    generalize runEdits Ledger.step es (.start map) = y at hrun
    cases hrun with
    | none => exact .none
    | some h => exact .some ⟨h.1, hrecords h.2⟩
  lasting map es more x y hx hy n set hset := by
    -- what is held after each of the two runs is recorded, and records last
    have hfirst := runEdits_alike hstep es (hstart map)
    rw [hx] at hfirst
    generalize runEdits Ledger.step es (.start map) = l at hfirst
    cases hfirst with
    | @some _ l h =>
      have hlater := runEdits_alike hstep more h.2
      rw [hy] at hlater
      generalize hl : runEdits Ledger.step more l.2 = l' at hlater
      cases hlater with
      | @some _ l' h' =>
        obtain ⟨hnone, -⟩ | ⟨_, taken, hheld, htaken, hmap⟩ := (hrecords h.2).held?_cases n
        · rw [hset] at hnone
          cases hnone
        · rw [hset] at hheld
          cases hheld
          obtain ⟨hnone', -⟩ | ⟨set', taken', hset', htaken', hmap'⟩ :=
            (hrecords h'.2).held?_cases n
          · exact .inl hnone'
          · have hsame := Ledger.held?_of_lasts (Ledger.lasts_run hl) htaken htaken'
            refine .inr ⟨set', hset', ?_⟩
            rw [hmap', hsame, hmap]

/-- **An accessor is a header map with immutable snapshots**, for every initial map and
every list of edits, among them copying from frozen sets, making messages with any
tree of converters, and dropping frozen sets. This holds of storage that is shared,
counted and copied before it is written, and of accessors whose writes have fresh
stamps. In particular, two frozen sets that are held are one storage exactly if no edit
wrote in between. The map is known by its look-ups: setting overwrites, removing
removes, and of two values for a name the copied one stays. Its entries are listed in
the byte order of their names, each name once. -/
theorem edits_refine :
    Refines Sharing.start Sharing.step Sharing.view ∧
      Refines Construction.start Construction.step Construction.view ∧
      (∀ (m : HeaderMap) (k name : String) (value : Json),
        (m.insert k value).get? name = if name = k then some value else m.get? name) ∧
      (∀ (m : HeaderMap) (k name : String),
        (m.erase k).get? name = if name = k then none else m.get? name) ∧
      (∀ (m source : HeaderMap) (name : String),
        (m.union source).get? name = (source.get? name).or (m.get? name)) ∧
      ∀ m : HeaderMap, (m.entries.map fun e => Text.Utf8.encode e.1.toList).Pairwise (· < ·) :=
  ⟨refines_of_step Sharing.Tracks.start (fun h => h.step) (fun h => h.records),
    refines_of_step Construction.Tracks.start (fun h => h.step) (fun h => h.records),
    HeaderMap.get?_insert, HeaderMap.get?_erase, HeaderMap.get?_union, HeaderMap.pairwise_bytes⟩

/-- Storage that a frozen set is in is copied before it is written. Storage that nobody
else holds any more is written in place. -/
example :
    (runEdits Sharing.step
        [.freeze, .remove "priority", .freeze, .set "priority" .null, .freeze, .drop 2,
          .set "priority" (.boolean true), .freeze]
        (.start .empty)).map (fun x => x.2.handed) =
      some [some 0, some 0, none, some 1] := rfl

end Conneg
