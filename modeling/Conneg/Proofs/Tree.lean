import Conneg.Converter.Composite
import Conneg.Proofs.Conversion

/-!
# Conneg.Proofs.Tree

Trees of converters, reduced to their leaves.

1. `MessageConverter.induction` is induction over trees of any depth: a composite
   inherits what holds of its delegates.
2. A tree that declines leaves the headers as they were (`value_of_declined`).
   So every delegate sees the headers that the whole tree was given.
3. `value_toMessage` and `value_fromMessage`: a tree answers like the first of
   its leaves, from left to right, that does not decline.
4. `value_fromMessage_of_codec`: where the leaves of interest share a codec, it
   makes no difference which of them answers.
-/

namespace Conneg

namespace Converter

/-- What decoding comes to, unless the converter declines. -/
def decoding? (c : Converter) (m : Message) (target : PayloadType) :
    Option (Except ConversionError (Option Payload)) :=
  match (c.fromMessage m target).value with
  | .ok none => none
  | answer => some answer

/-- What making a message comes to, unless the converter declines. -/
def conversion? (c : Converter) (fresh : Stamp) (p : Payload) (headers : Option Headers) :
    Option Conversion :=
  match (c.toMessage fresh p headers).value with
  | ⟨.ok none, _⟩ => none
  | answer => some answer

/-- A search for decodings passes over converters that decline. -/
theorem decoding?_eq_none_iff {c : Converter} {m : Message} {target : PayloadType} :
    c.decoding? m target = none ↔ (c.fromMessage m target).value = .ok none := by
  unfold decoding?
  split
  · next h => simp [h]
  · next h => simpa using h

/-- It stops at answers, which are values and errors. -/
theorem decoding?_eq_some_iff {c : Converter} {m : Message} {target : PayloadType}
    {answer : Except ConversionError (Option Payload)} :
    c.decoding? m target = some answer ↔
      answer ≠ .ok none ∧ (c.fromMessage m target).value = answer := by
  unfold decoding?
  split
  · next h =>
    constructor
    · intro hn
      cases hn
    · rintro ⟨hne, rfl⟩
      exact absurd h hne
  · next h =>
    constructor
    · intro hs
      cases hs
      exact ⟨h, rfl⟩
    · rintro ⟨-, rfl⟩
      rfl

/-- A search for conversions passes over converters that decline. -/
theorem conversion?_eq_none_iff {c : Converter} {fresh : Stamp} {p : Payload}
    {headers : Option Headers} :
    c.conversion? fresh p headers = none ↔
      (c.toMessage fresh p headers).value.outcome = .ok none := by
  unfold conversion?
  split
  · next h => simp [h]
  · next h =>
    constructor
    · intro hn
      cases hn
    · intro ho
      exact absurd (by rw [← ho]) (h (c.toMessage fresh p headers).value.headers)

/-- It stops at answers, and takes the headers along. -/
theorem conversion?_eq_some_iff {c : Converter} {fresh : Stamp} {p : Payload}
    {headers : Option Headers} {x : Conversion} :
    c.conversion? fresh p headers = some x ↔
      x.outcome ≠ .ok none ∧ (c.toMessage fresh p headers).value = x := by
  unfold conversion?
  split
  · next h =>
    constructor
    · intro hn
      cases hn
    · rintro ⟨hne, rfl⟩
      exact absurd (by rw [h]) hne
  · next h =>
    constructor
    · intro hs
      cases hs
      refine ⟨fun ho => ?_, rfl⟩
      exact absurd (by rw [← ho]) (h (c.toMessage fresh p headers).value.headers)
    · rintro ⟨-, rfl⟩
      rfl

end Converter

namespace MessageConverter

/-- Induction over trees of converters. -/
@[elab_as_elim, induction_eliminator]
theorem induction {motive : MessageConverter → Prop} (single : ∀ c, motive (single c))
    (composite : ∀ ds, (∀ d ∈ ds, motive d) → motive (composite ds)) (t : MessageConverter) :
    motive t :=
  match t with
  | .single c => single c
  | .composite ds => composite ds fun d _ => induction single composite d

mutual
/-- The single converters of a tree, from left to right. -/
def leaves : MessageConverter → List Converter
  | single c => [c]
  | composite delegates => leavesOfAll delegates

/-- The single converters of several trees. -/
def leavesOfAll : List MessageConverter → List Converter
  | [] => []
  | d :: ds => d.leaves ++ leavesOfAll ds
end

section

variable {d t : MessageConverter} {ds : List MessageConverter} {m : Message}
  {target : PayloadType} {fresh : Stamp} {p : Payload} {headers : Option Headers}

/-! ## asking the first delegate -/

/-- If the first delegate declines a message, the others are asked. -/
theorem firstFromMessage_cons_declined (h : (d.fromMessage m target).value = .ok none) :
    firstFromMessage (d :: ds) m target =
      (d.fromMessage m target >>= fun _ => firstFromMessage ds m target) := by
  rw [firstFromMessage]
  apply Logged.ext <;> simp [h]

/-- If it decodes or fails, nobody else is asked. -/
theorem firstFromMessage_cons_answered (h : (d.fromMessage m target).value ≠ .ok none) :
    firstFromMessage (d :: ds) m target = d.fromMessage m target := by
  rw [firstFromMessage]
  cases hv : (d.fromMessage m target).value with
  | error e => apply Logged.ext <;> simp [hv]
  | ok value =>
    cases value with
    | none => exact absurd hv h
    | some v => apply Logged.ext <;> simp [hv]

/-- If the first delegate declines a payload, the others are asked under the headers
that it leaves. -/
theorem firstToMessage_cons_declined {after : Option Headers}
    (h : (d.toMessage fresh p headers).value = ⟨.ok none, after⟩) :
    firstToMessage (d :: ds) fresh p headers =
      (d.toMessage fresh p headers >>= fun _ => firstToMessage ds fresh p after) := by
  rw [firstToMessage]
  apply Logged.ext <;> simp [h]

/-- If it makes a message or fails, nobody else is asked. -/
theorem firstToMessage_cons_answered
    (h : (d.toMessage fresh p headers).value.outcome ≠ .ok none) :
    firstToMessage (d :: ds) fresh p headers = d.toMessage fresh p headers := by
  rw [firstToMessage]
  obtain ⟨⟨outcome, after⟩, hv⟩ : ∃ x, (d.toMessage fresh p headers).value = x := ⟨_, rfl⟩
  rw [hv] at h
  cases outcome with
  | error e => apply Logged.ext <;> simp [hv]
  | ok made =>
    cases made with
    | none => exact absurd rfl h
    | some m => apply Logged.ext <;> simp [hv]

/-! ## declining -/

/-- Declining has no effect on the headers. -/
theorem value_of_declined (h : (t.toMessage fresh p headers).value.outcome = .ok none) :
    (t.toMessage fresh p headers).value = ⟨.ok none, headers⟩ := by
  induction t generalizing headers with
  | single c =>
    rw [toMessage] at h ⊢
    obtain ⟨-, hv⟩ | ⟨e, -, -, hv⟩ | ⟨encoded, -, -, hv⟩ := c.toMessage_cases fresh p headers
    · exact hv
    · rw [hv] at h
      cases h
    · rw [hv] at h
      cases h
  | composite ds ih =>
    rw [toMessage] at h ⊢
    induction ds with
    | nil => rfl
    | cons d ds ihds =>
      by_cases hd : (d.toMessage fresh p headers).value.outcome = .ok none
      · have hv := ih d List.mem_cons_self hd
        rw [firstToMessage_cons_declined hv] at h ⊢
        exact ihds (fun d hd => ih d (List.mem_cons_of_mem _ hd)) h
      · rw [firstToMessage_cons_answered hd] at h
        exact absurd h hd

/-! ## the first leaf that answers -/

/-- **Decoding is decoding with the first leaf that does not decline**, from left to
right. If every leaf declines, so does the tree. -/
theorem value_fromMessage (t : MessageConverter) (m : Message) (target : PayloadType) :
    (t.fromMessage m target).value =
      (t.leaves.findSome? fun c => c.decoding? m target).getD (.ok none) := by
  induction t with
  | single c =>
    rw [fromMessage, leaves, List.findSome?_singleton]
    cases hd : c.decoding? m target with
    | none => exact Converter.decoding?_eq_none_iff.1 hd
    | some answer => exact (Converter.decoding?_eq_some_iff.1 hd).2
  | composite ds ih =>
    rw [fromMessage, leaves]
    induction ds with
    | nil => rfl
    | cons d ds ihds =>
      have hd := ih d List.mem_cons_self
      have hds := ihds fun d hd => ih d (List.mem_cons_of_mem _ hd)
      rw [leavesOfAll, List.findSome?_append]
      cases hfirst : d.leaves.findSome? fun c => c.decoding? m target with
      | none =>
        rw [hfirst] at hd
        rw [firstFromMessage_cons_declined hd, Logged.value_bind, hds]
        rfl
      | some answer =>
        obtain ⟨c, -, hc⟩ := List.exists_of_findSome?_eq_some hfirst
        have hne := (Converter.decoding?_eq_some_iff.1 hc).1
        rw [hfirst] at hd
        rw [firstFromMessage_cons_answered (hd ▸ hne), hd]
        rfl

/-- **Making a message is making it with the first leaf that does not decline**, from
left to right and under the headers that the tree was given. -/
theorem value_toMessage (t : MessageConverter) (fresh : Stamp) (p : Payload)
    (headers : Option Headers) :
    (t.toMessage fresh p headers).value =
      (t.leaves.findSome? fun c => c.conversion? fresh p headers).getD ⟨.ok none, headers⟩ := by
  induction t with
  | single c =>
    rw [leaves, List.findSome?_singleton]
    cases hc : c.conversion? fresh p headers with
    | none =>
      refine value_of_declined ?_
      rw [toMessage]
      exact Converter.conversion?_eq_none_iff.1 hc
    | some x =>
      rw [toMessage]
      exact (Converter.conversion?_eq_some_iff.1 hc).2
  | composite ds ih =>
    rw [toMessage, leaves]
    induction ds with
    | nil => rfl
    | cons d ds ihds =>
      have hd := ih d List.mem_cons_self
      have hds := ihds fun d hd => ih d (List.mem_cons_of_mem _ hd)
      rw [leavesOfAll, List.findSome?_append]
      cases hfirst : d.leaves.findSome? fun c => c.conversion? fresh p headers with
      | none =>
        -- the headers are those of the tree again when the next delegate is asked
        rw [hfirst] at hd
        rw [firstToMessage_cons_declined hd, Logged.value_bind, hds]
        rfl
      | some x =>
        obtain ⟨c, -, hc⟩ := List.exists_of_findSome?_eq_some hfirst
        have hne := (Converter.conversion?_eq_some_iff.1 hc).1
        rw [hfirst] at hd
        rw [firstToMessage_cons_answered (hd ▸ hne), hd]
        rfl

/-- What a tree makes was made by one of its leaves. -/
theorem exists_leaf_of_made (h : (t.toMessage fresh p headers).value.outcome ≠ .ok none) :
    ∃ c ∈ t.leaves, (c.toMessage fresh p headers).value = (t.toMessage fresh p headers).value := by
  rw [value_toMessage] at h ⊢
  cases hfirst : t.leaves.findSome? fun c => c.conversion? fresh p headers with
  | none =>
    rw [hfirst] at h
    exact absurd rfl h
  | some x =>
    obtain ⟨c, hc, hx⟩ := List.exists_of_findSome?_eq_some hfirst
    exact ⟨c, hc, (Converter.conversion?_eq_some_iff.1 hx).2⟩

/-- Leaves that handle a type with one and the same codec decode like that codec, if
one of them is let through. Which of them it is makes no difference. -/
theorem value_fromMessage_of_codec {codec : Codec}
    (hcodec : ∀ c ∈ t.leaves, c.codec.supports target = true → c.codec = codec)
    (hgate : ∃ c ∈ t.leaves, (c.canDecode m target).value = true) :
    (t.fromMessage m target).value = (codec.decode m target).mapError .decode := by
  have hleaf : ∀ c ∈ t.leaves, (c.canDecode m target).value = true →
      (c.fromMessage m target).value = (codec.decode m target).mapError .decode := by
    intro c hc hg
    rw [Converter.fromMessage_decoded hg, hcodec c hc (Converter.canDecode_iff.1 hg).1]
  rw [value_fromMessage]
  cases hfirst : t.leaves.findSome? fun c => c.decoding? m target with
  | none =>
    obtain ⟨c, hc, hg⟩ := hgate
    have hnone := Converter.decoding?_eq_none_iff.1 (List.findSome?_eq_none_iff.1 hfirst c hc)
    rw [← hleaf c hc hg, hnone]
    rfl
  | some answer =>
    obtain ⟨c, hc, ha⟩ := List.exists_of_findSome?_eq_some hfirst
    obtain ⟨hne, hv⟩ := Converter.decoding?_eq_some_iff.1 ha
    cases hg : (c.canDecode m target).value with
    | false => exact absurd (hv.symm.trans (Converter.fromMessage_declined hg)) hne
    | true => exact hv.symm.trans (hleaf c hc hg)

end

end MessageConverter

end Conneg
