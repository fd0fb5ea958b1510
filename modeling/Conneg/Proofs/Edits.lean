import Conneg.Proofs.Ledger
import Conneg.Proofs.SharedConversion

/-!
# Conneg.Proofs.Edits

What can be done with an accessor and with what it has handed out.

1. An `Edit` is one operation, or the dropping of a frozen set. Edits are done in
   shared storage (`Sharing.step`), with an accessor whose writes have fresh stamps
   (`Construction.step`), and in a ledger (`Ledger.step`).
2. `runEdits` does them one after another. Steps that are alike one by one are alike
   as runs (`runEdits_alike`).
3. No edit changes a snapshot of a ledger (`Ledger.lasts_run`).
-/

namespace Conneg

/-! ## edits -/

/-- What can be done with an accessor and with what it has handed out. -/
inductive Edit where
  | set (name : String) (value : Json)
  | setIfAbsent (name : String) (value : Json)
  | remove (name : String)
  | copy (source : HeaderMap)
  /-- Copies the frozen set that was handed out at `n`. -/
  | copyFrom (n : Nat)
  | setContentType (type : MediaType)
  /-- Hands out the current headers. -/
  | freeze
  /-- Makes a message; its headers are handed out. -/
  | toMessage (converter : MessageConverter) (p : Payload)
  /-- Drops the frozen set that was handed out at `n`. -/
  | drop (n : Nat)

/-- What an edit answers. -/
inductive Answer where
  | done
  | inserted (absent : Bool)
  | removed (value : Option Json)
  | converted (outcome : Except ConversionError (Option Payload))

/-- One edit in shared storage; it is impossible if it names a set that is not held. -/
def Sharing.step (s : Sharing) : Edit → Option (Answer × Sharing)
  | .set name value => some (.done, s.set name value)
  | .setIfAbsent name value =>
      let x := s.setIfAbsent name value
      some (.inserted x.1, x.2)
  | .remove name =>
      let x := s.remove name
      some (.removed x.1, x.2)
  | .copy source => some (.done, s.copy source)
  | .copyFrom n => (s.held? n).map fun x => (.done, s.copyFrom x)
  | .setContentType type => some (.done, s.setContentType type)
  | .freeze => some (.done, s.freeze)
  | .toMessage t p =>
      let x := s.toMessage t p
      some (.converted x.1, x.2)
  | .drop n => (s.held? n).map fun x => (.done, s.drop n x)

/-- An accessor, the next fresh stamp and the frozen sets that were handed out. -/
structure Construction where
  accessor : HeaderAccessor
  next : Stamp
  handed : List (Option HeaderSet)

namespace Construction

/-- A new accessor. -/
def start (map : HeaderMap) : Construction := ⟨.ofMap 0 map, 1, []⟩

/-- The accessor after a step that was given the next stamp. -/
def update (c : Construction) (a : HeaderAccessor) : Construction := ⟨a, c.next + 1, c.handed⟩

/-- Hands out a frozen set. -/
def hand (c : Construction) (set : HeaderSet) : Construction :=
  { c with handed := c.handed ++ [some set] }

def held? (c : Construction) (n : Nat) : Option HeaderSet := (c.handed[n]?).join

/-- Makes a message; its headers are handed out. -/
def convert (c : Construction) (t : MessageConverter) (p : Payload) :
    Except ConversionError (Option Payload) × Construction :=
  let x := (t.toMessage c.next p (some (.accessor c.accessor))).value
  let after := match x.headers with
    | some (.accessor a) => c.update a
    | _ => c
  match x.outcome with
  | .error e => (.error e, after)
  | .ok none => (.ok none, after)
  | .ok (some m) => (.ok (some m.payload), after.hand m.headers)

/-- One edit with an accessor. -/
def step (c : Construction) : Edit → Option (Answer × Construction)
  | .set name value => some (.done, c.update (c.accessor.set c.next name value))
  | .setIfAbsent name value =>
      let x := c.accessor.setIfAbsent c.next name value
      some (.inserted x.1, c.update x.2)
  | .remove name =>
      let x := c.accessor.remove c.next name
      some (.removed x.1, c.update x.2)
  | .copy source => some (.done, c.update (c.accessor.copy c.next source))
  | .copyFrom n => (c.held? n).map fun set => (.done, c.update (c.accessor.copy c.next set.map))
  | .setContentType type => some (.done, c.update (c.accessor.setContentType c.next type))
  | .freeze => some (.done, c.hand c.accessor.snapshot)
  | .toMessage t p =>
      let x := c.convert t p
      some (.converted x.1, x.2)
  | .drop n => (c.held? n).map fun _ => (.done, { c with handed := c.handed.set n none })

end Construction

namespace Ledger

/-- Copies a header map, which writes unless there is nothing to copy. -/
def copied (l : Ledger) (source : HeaderMap) : Ledger :=
  if source.isEmpty then l.kept else l.wrote (l.map.union source)

/-- Makes a message under frozen entries. The entries of the message are taken over,
which is writing if they are other ones. -/
def converted (l : Ledger) (t : MessageConverter) (p : Payload) :
    Except ConversionError (Option Payload) × Ledger :=
  match (t.toMessage 0 p (some (.frozen ⟨0, l.map⟩))).value.outcome with
  | .error e => (.error e, l.kept)
  | .ok none => (.ok none, l.kept)
  | .ok (some m) =>
      (.ok (some m.payload),
        (if m.headers.map = l.map then l.kept else l.wrote m.headers.map).freeze)

/-- One edit of a header map. -/
def step (l : Ledger) : Edit → Option (Answer × Ledger)
  | .set name value => some (.done, l.wrote (l.map.insert name value))
  | .setIfAbsent name value =>
      if l.map.contains name then some (.inserted false, l.kept)
      else some (.inserted true, l.wrote (l.map.insert name value))
  | .remove name =>
      if l.map.contains name then some (.removed (l.map.get? name), l.wrote (l.map.erase name))
      else some (.removed none, l.kept)
  | .copy source => some (.done, l.copied source)
  | .copyFrom n => (l.held? n).map fun taken => (.done, l.copied taken.map)
  | .setContentType type =>
      some (.done, l.wrote (l.map.insert contentTypeName (.string type.text)))
  | .freeze => some (.done, l.kept.freeze)
  | .toMessage t p =>
      let x := l.converted t p
      some (.converted x.1, x.2)
  | .drop n => (l.held? n).map fun _ => (.done, l.kept.drop n)

end Ledger

/-- Edits one after another, with their answers; nothing if one of them is impossible. -/
def runEdits {S : Type} (step : S → Edit → Option (Answer × S)) :
    List Edit → S → Option (List Answer × S)
  | [], s => some ([], s)
  | e :: es, s => do
      let x ← step s e
      let y ← runEdits step es x.2
      return (x.1 :: y.1, y.2)

/-- Both are impossible, or they answer the same and lead to related states. -/
def Alike {A S T : Type} (R : S → T → Prop) : Option (A × S) → Option (A × T) → Prop :=
  Option.Rel fun x y => x.1 = y.1 ∧ R x.2 y.2

/-- If each edit is alike on both sides, so are all of them together. -/
theorem runEdits_alike {S T : Type} {R : S → T → Prop} {f : S → Edit → Option (Answer × S)}
    {g : T → Edit → Option (Answer × T)} (hstep : ∀ {s t}, R s t → ∀ e, Alike R (f s e) (g t e))
    (es : List Edit) {s : S} {t : T} (h : R s t) : Alike R (runEdits f es s) (runEdits g es t) := by
  induction es generalizing s t with
  | nil => exact .some ⟨rfl, h⟩
  | cons e es ih =>
    have he := hstep h e
    unfold runEdits
    generalize f s e = x at he
    generalize g t e = y at he
    cases he with
    | none => exact .none
    | @some x y hxy =>
      obtain ⟨hanswer, hrest⟩ := hxy
      have hes := ih hrest
      dsimp only [Option.bind_eq_bind, Option.bind_some]
      generalize runEdits f es x.2 = x' at hes
      generalize runEdits g es y.2 = y' at hes
      cases hes with
      | none => exact .none
      | some hxy' =>
        obtain ⟨hanswers, hlast⟩ := hxy'
        refine .some ⟨?_, hlast⟩
        rw [hanswer, hanswers]

/-! ## snapshots of a ledger -/

/-- What was handed out stays where it is, unless it is dropped. -/
def Lasts {α : Type} (xs ys : List (Option α)) : Prop :=
  ∀ (n : Nat) (o : Option α), xs[n]? = some o → ys[n]? = some o ∨ ys[n]? = some none

namespace Lasts

variable {α : Type} {xs ys zs : List (Option α)}

theorem refl (xs : List (Option α)) : Lasts xs xs := fun _ _ h => .inl h

/-- What lasts twice in a row lasts, as what was dropped stays dropped. -/
theorem trans (h : Lasts xs ys) (h' : Lasts ys zs) : Lasts xs zs := by
  intro n o hn
  obtain hn | hn := h n o hn
  · exact h' n o hn
  · obtain hn | hn := h' n none hn
    · exact .inr hn
    · exact .inr hn

/-- Handing out more leaves all places as they are. -/
theorem append (xs more : List (Option α)) : Lasts xs (xs ++ more) := by
  intro n o hn
  rw [List.getElem?_append_left (List.getElem?_eq_some_iff.1 hn).1]
  exact .inl hn

/-- Dropping empties its own place only. -/
theorem drop (xs : List (Option α)) (m : Nat) : Lasts xs (xs.set m none) := by
  intro n o hn
  by_cases hm : m = n
  · subst hm
    exact .inr (List.getElem?_set_self (List.getElem?_eq_some_iff.1 hn).1)
  · rw [List.getElem?_set_ne hm]
    exact .inl hn

end Lasts

namespace Ledger

/-- Copying hands out nothing. -/
theorem handed_copied (l : Ledger) (source : HeaderMap) : (l.copied source).handed = l.handed := by
  unfold copied
  split <;> rfl

/-- Making a message hands out at most one more set, behind the others. -/
theorem lasts_converted (l : Ledger) (t : MessageConverter) (p : Payload) :
    Lasts l.handed (l.converted t p).2.handed := by
  unfold converted
  split
  · exact .refl _
  · exact .refl _
  · next m _ =>
    have hhanded : (if m.headers.map = l.map then l.kept else l.wrote m.headers.map).handed =
        l.handed := by
      split <;> rfl
    rw [Ledger.freeze, hhanded]
    exact .append _ _

/-- No edit changes a snapshot. -/
theorem lasts_step {l : Ledger} {e : Edit} {x : Answer × Ledger} (h : l.step e = some x) :
    Lasts l.handed x.2.handed := by
  cases e with
  | set name value | setContentType type =>
    cases h
    exact .refl _
  | setIfAbsent name value | remove name =>
    rw [step] at h
    split at h <;> cases h <;> exact .refl _
  | copy source =>
    cases h
    rw [handed_copied]
    exact .refl _
  | copyFrom n =>
    obtain ⟨taken, -, rfl⟩ := Option.map_eq_some_iff.1 h
    rw [handed_copied]
    exact .refl _
  | freeze =>
    cases h
    exact .append _ _
  | toMessage t p =>
    cases h
    exact lasts_converted l t p
  | drop n =>
    obtain ⟨taken, -, rfl⟩ := Option.map_eq_some_iff.1 h
    exact .drop _ n

/-- No list of edits changes a snapshot. -/
theorem lasts_run {es : List Edit} {l : Ledger} {x : List Answer × Ledger}
    (h : runEdits step es l = some x) : Lasts l.handed x.2.handed := by
  induction es generalizing l x with
  | nil =>
    cases h
    exact .refl _
  | cons e es ih =>
    obtain ⟨y, hy, h⟩ := Option.bind_eq_some_iff.1 h
    obtain ⟨z, hz, h⟩ := Option.bind_eq_some_iff.1 h
    cases h
    have hrest := ih hz
    exact (lasts_step hy).trans hrest

/-- A snapshot that is still held is the one that was handed out. -/
theorem held?_of_lasts {l l' : Ledger} {n : Nat} {taken taken' : Taken}
    (h : Lasts l.handed l'.handed) (hn : l.held? n = some taken) (hn' : l'.held? n = some taken') :
    taken' = taken := by
  obtain hlast | hlast := h n (some taken) (Option.join_eq_some_iff.1 hn)
  · rw [held?, hlast] at hn'
    exact (Option.some.inj hn').symm
  · rw [held?, hlast] at hn'
    cases hn'

end Ledger

end Conneg
