import Conneg.Codec.Text
import Conneg.Proofs.Filling
import Conneg.Proofs.Tree

/-!
# Conneg.Proofs.HeaderModes

Frozen headers and accessors come to the same.

1. `Conversion.answer` is what comes of a conversion apart from the identity of
   storage.
2. `Conversion.Leaves` states how a conversion leaves the accessor that it was
   given: with the set of the message if one was made, and else untouched.
3. Main statement: `toMessage_frozen_accessor`, for trees of any depth. The
   induction carries the relation `HeaderModes` between the two runs; it holds
   at the next delegate because one that declines has written nothing.
-/

namespace Conneg

namespace Conversion

/-- What comes of a conversion, apart from the identity of storage. -/
def answer (x : Conversion) : Except ConversionError (Option (Payload × HeaderMap)) :=
  x.outcome.map fun made => made.map fun m => (m.payload, m.headers.map)

/-- How a conversion leaves the accessor `a`. Equal sets have the same entries and
are one storage. -/
def Leaves (x : Conversion) (a : HeaderAccessor) : Prop :=
  ∃ b, x.headers = some (.accessor b) ∧
    match x.outcome with
    | .ok (some m) => b.snapshot = m.headers
    | .ok none | .error _ => b = a

/-- An answer leaves out the stamps and keeps whether a converter declined. -/
theorem answer_eq_declined {x : Conversion} : x.answer = .ok none ↔ x.outcome = .ok none := by
  unfold answer
  cases x.outcome with
  | error e => simp [Except.map]
  | ok made => cases made <;> simp [Except.map]

/-- Conversions that come to the same have the same outcome, but for the identity of
storage. -/
theorem outcome_cases {x y : Conversion} (h : x.answer = y.answer) :
    (∃ e, x.outcome = .error e ∧ y.outcome = .error e) ∨
      (x.outcome = .ok none ∧ y.outcome = .ok none) ∨
      ∃ m m', x.outcome = .ok (some m) ∧ y.outcome = .ok (some m') ∧
        m.payload = m'.payload ∧ m.headers.map = m'.headers.map := by
  unfold answer at h
  cases hx : x.outcome with
  | error e =>
    cases hy : y.outcome with
    | error e' => simp_all [Except.map]
    | ok made => simp_all [Except.map]
  | ok made =>
    cases hy : y.outcome with
    | error e' => simp_all [Except.map]
    | ok made' =>
      cases made <;> cases made' <;> simp_all [Except.map]

end Conversion

/-- Two runs that differ in the form of the headers alone: one is given the frozen
set `h`, the other one the accessor `a`. -/
structure HeaderModes (h : HeaderSet) (a : HeaderAccessor) (frozen accessor : Logged Conversion) :
    Prop where
  answer : frozen.value.answer = accessor.value.answer
  events : frozen.events = accessor.events
  headers : frozen.value.headers = some (.frozen h)
  leaves : accessor.value.Leaves a

section

variable {h : HeaderSet} {a : HeaderAccessor}

/-- One converter: the gate and the codec see the same entries, and filling in does
the same to them. -/
theorem Converter.headerModes (c : Converter) (f g : Stamp) (p : Payload) (hmap : a.map = h.map) :
    HeaderModes h a (c.toMessage f p (some (.frozen h)))
      (c.toMessage g p (some (.accessor a))) := by
  have hentries : (some (Headers.accessor a)).map Headers.map =
      (some (Headers.frozen h)).map Headers.map := congrArg some hmap
  have hevents : (c.toMessage f p (some (.frozen h))).events =
      (c.toMessage g p (some (.accessor a))).events := by
    rw [events_toMessage, events_toMessage, hentries]
  -- the gate and the codec see the same entries, so the second run follows the first one
  obtain ⟨hgate, hv⟩ | ⟨e, hgate, he, hv⟩ | ⟨encoded, hgate, he, hv⟩ :=
    c.toMessage_cases f p (some (.frozen h))
  · have hw : (c.toMessage g p (some (.accessor a))).value = ⟨.ok none, some (.accessor a)⟩ :=
      toMessage_declined (by rwa [hentries])
    refine ⟨?_, hevents, ?_, ?_⟩
    · rw [hv, hw]
      rfl
    · rw [hv]
    · rw [hw]
      exact ⟨a, rfl, rfl⟩
  · have hw : (c.toMessage g p (some (.accessor a))).value =
        ⟨.error (.encode e), some (.accessor a)⟩ :=
      toMessage_failed (by rwa [hentries]) (by rwa [hentries])
    refine ⟨?_, hevents, ?_, ?_⟩
    · rw [hv, hw]
      rfl
    · rw [hv]
    · rw [hw]
      exact ⟨a, rfl, rfl⟩
  · have hw : (c.toMessage g p (some (.accessor a))).value =
        let completed := Headers.complete g (c.defaultContentType encoded) (some (.accessor a))
        ⟨.ok (some ⟨encoded, completed.1⟩), completed.2⟩ :=
      toMessage_made (by rwa [hentries]) (by rwa [hentries])
    have hfilled : (Headers.complete f (c.defaultContentType encoded) (some (.frozen h))).1.map =
        (Headers.complete g (c.defaultContentType encoded) (some (.accessor a))).1.map := by
      rw [Headers.map_complete, Headers.map_complete, hentries]
    refine ⟨?_, hevents, ?_, ?_⟩
    · rw [hv, hw]
      exact congrArg (fun map => Except.ok (some (encoded, map))) hfilled
    · rw [hv]
      exact Headers.complete_frozen f (c.defaultContentType encoded) h
    · rw [hw]
      exact ⟨_, Headers.complete_accessor g (c.defaultContentType encoded) a, rfl⟩

/-- A tree of converters. -/
theorem MessageConverter.headerModes (t : MessageConverter) (f g : Stamp) (p : Payload)
    (hmap : a.map = h.map) :
    HeaderModes h a (t.toMessage f p (some (.frozen h)))
      (t.toMessage g p (some (.accessor a))) := by
  induction t with
  | single c =>
    rw [toMessage, toMessage]
    exact c.headerModes f g p hmap
  | composite ds ih =>
    rw [toMessage, toMessage]
    induction ds with
    | nil => exact ⟨rfl, rfl, rfl, a, rfl, rfl⟩
    | cons d ds ihds =>
      have hd := ih d List.mem_cons_self
      have hds := ihds fun d hd => ih d (List.mem_cons_of_mem _ hd)
      by_cases hdec : (d.toMessage f p (some (.frozen h))).value.outcome = .ok none
      · -- both runs go on to the next delegate with the headers they were given
        have hdec' : (d.toMessage g p (some (.accessor a))).value.outcome = .ok none := by
          rw [← Conversion.answer_eq_declined, ← hd.answer, Conversion.answer_eq_declined]
          exact hdec
        rw [firstToMessage_cons_declined (value_of_declined hdec),
          firstToMessage_cons_declined (value_of_declined hdec')]
        exact ⟨hds.answer, by rw [Logged.events_bind, Logged.events_bind, hd.events, hds.events],
          hds.headers, hds.leaves⟩
      · have hans : (d.toMessage g p (some (.accessor a))).value.outcome ≠ .ok none := by
          rw [ne_eq, ← Conversion.answer_eq_declined, ← hd.answer, Conversion.answer_eq_declined]
          exact hdec
        rw [firstToMessage_cons_answered hdec, firstToMessage_cons_answered hans]
        exact hd

end

/-- **Frozen headers and an accessor come to the same**, for every tree of
converters and every header map: the same payload under the same headers, the same
error, or nothing from both, with the same events. Frozen headers stay as they are.
An accessor stays as it is, storage included, unless a message is made; then it
holds the set of the message. -/
theorem toMessage_frozen_accessor (t : MessageConverter) (p : Payload) (h : HeaderMap)
    (s r f g : Stamp) :
    let frozen := t.toMessage f p (some (.frozen ⟨s, h⟩))
    let accessor := t.toMessage g p (some (.accessor (.ofMap r h)))
    frozen.value.answer = accessor.value.answer ∧
      frozen.events = accessor.events ∧
      frozen.value.headers = some (.frozen ⟨s, h⟩) ∧
      accessor.value.Leaves (.ofMap r h) := by
  intro frozen accessor
  have hmodes := t.headerModes (h := ⟨s, h⟩) (a := .ofMap r h) f g p rfl
  exact ⟨hmodes.answer, hmodes.events, hmodes.headers, hmodes.leaves⟩

/-- An accessor without a content type holds the one that was filled in, in the set of
the message. -/
example :
    let filled : HeaderSet :=
      ⟨1, HeaderMap.empty.insert contentTypeName (.string "text/plain; charset=utf-8")⟩
    ((MessageConverter.single (.ofCodec .text)).toMessage 1 (.text "a")
        (some (.accessor (.ofMap 0 .empty)))).value =
      ⟨.ok (some ⟨.bytes [97], filled⟩), some (.accessor ⟨filled⟩)⟩ :=
  rfl

end Conneg
