import Conneg.Codec.Counter
import Conneg.Service.Recorder
import Conneg.Service.Session

/-!
# Conneg.Proofs.Delivery

What reaches a service behind a converter, over every session.

1. `MessageConverter.sent` is what ought to arrive: the messages made of the
   envelopes, in the order of the calls. What does arrive is seen in sessions whose
   inner service is recorded (`Service.recorded`); sessions with and without the
   record show the same (`after_forget`).
2. `Session.Consistent` is the invariant. Every service has the converter of the
   layer, the record agrees with the calls so far, and each reply that is still
   to be answered fits its call (`ReplyTo`): it is a refusal, or the reply of the
   inner service to the message that was made for this very call. One operation
   keeps it (`Consistent.step`), and so do all (`Consistent.after`).
3. Main statement: `delivers_after`. In every session that operations lead to,
   the guarantees of `Session.Delivers` hold.
-/

namespace Conneg

/-! ## what is sent -/

namespace MessageConverter

/-- What converting an envelope comes to. -/
def converted (c : MessageConverter) (fresh : Stamp) (envelope : Message) :
    Except ConversionError (Option Message) :=
  (c.toMessage fresh envelope.payload (some (.frozen envelope.headers))).value.outcome

/-- The message made of an envelope, if one is. -/
def made? (c : MessageConverter) (fresh : Stamp) (envelope : Message) : Option Message :=
  match c.converted fresh envelope with
  | .ok made => made
  | .error _ => none

/-- The messages made of envelopes, in their order. Each envelope, converted or not,
takes the next stamp. -/
def sent (c : MessageConverter) (first : Stamp) (envelopes : List Message) : List Message :=
  (envelopes.zipIdx first).filterMap fun (envelope, fresh) => c.made? fresh envelope

end MessageConverter

/-- Why nothing is sent for an envelope, given what converting it comes to. -/
inductive Refusal : Except ConversionError (Option Message) → ConversionError → Prop where
  /-- No converter applied. -/
  | declined : Refusal (.ok none) .notConvertible
  | failed (e : ConversionError) : Refusal (.error e) e

/-- Converting an envelope comes to a message or to a refusal. -/
theorem made_or_refusal (x : Except ConversionError (Option Message)) :
    (∃ m, x = .ok (some m)) ∨ ∃ e, Refusal x e := by
  match x with
  | .ok (some m) => exact .inl ⟨m, rfl⟩
  | .ok none => exact .inr ⟨.notConvertible, .declined⟩
  | .error e => exact .inr ⟨e, .failed e⟩

/-- A refusal has one error. -/
theorem Refusal.unique {x : Except ConversionError (Option Message)} {e e' : ConversionError}
    (h : Refusal x e) (h' : Refusal x e') : e = e' := by
  cases h <;> cases h' <;> rfl

namespace MessageConverter

section

variable {c : MessageConverter} {fresh first : Stamp} {envelope m : Message}
  {e : ConversionError}

theorem made?_of_made (h : c.converted fresh envelope = .ok (some m)) :
    c.made? fresh envelope = some m := by
  rw [made?, h]

theorem made?_of_refusal (h : Refusal (c.converted fresh envelope) e) :
    c.made? fresh envelope = none := by
  unfold made?
  generalize c.converted fresh envelope = x at h
  cases h with
  | declined => rfl
  | failed => rfl

/-- What is made is what a service sends. -/
theorem value_outgoing_of_made (h : c.converted fresh envelope = .ok (some m)) :
    (c.outgoing fresh envelope).value = .ok m := by
  unfold converted at h
  unfold outgoing
  rw [Logged.value_bind, h]
  rfl

/-- A refusal is the error that the caller of a service sees. -/
theorem value_outgoing_of_refusal (h : Refusal (c.converted fresh envelope) e) :
    (c.outgoing fresh envelope).value = .error e := by
  unfold converted at h
  unfold outgoing
  rw [Logged.value_bind]
  generalize (c.toMessage fresh envelope.payload (some (.frozen envelope.headers))).value.outcome
    = x at h ⊢
  cases h with
  | declined => rfl
  | failed => rfl

/-- The stamps of later calls start behind those of the earlier ones. -/
theorem sent_append (c : MessageConverter) (first : Stamp) (es fs : List Message) :
    c.sent first (es ++ fs) = c.sent first es ++ c.sent (first + es.length) fs := by
  unfold sent
  rw [List.zipIdx_append, List.filterMap_append]

theorem sent_singleton (c : MessageConverter) (first : Stamp) (envelope : Message) :
    c.sent first [envelope] = (c.made? first envelope).toList := by
  cases h : c.made? first envelope <;> simp [sent, h]

/-- One more call sends at most one more message, after the others. -/
theorem sent_concat (c : MessageConverter) (first : Stamp) (es : List Message)
    (envelope : Message) :
    c.sent first (es ++ [envelope]) =
      c.sent first es ++ (c.made? (first + es.length) envelope).toList := by
  rw [sent_append, sent_singleton]

/-- A message stands behind those that were made before it. -/
theorem getElem?_sent {es : List Message} {n : Nat} (hn : es[n]? = some envelope)
    (h : c.converted (first + n) envelope = .ok (some m)) :
    (c.sent first es)[(c.sent first (es.take n)).length]? = some m := by
  have hlen : (es.take n).length = n :=
    List.length_take_of_le (Nat.le_of_lt (List.getElem?_eq_some_iff.mp hn).1)
  have htake : es.take (n + 1) = es.take n ++ [envelope] := by
    rw [List.take_add_one, hn]
    rfl
  have hsent : c.sent first es =
      c.sent first (es.take n) ++ m :: c.sent (first + (n + 1)) (es.drop (n + 1)) :=
    calc c.sent first es
      _ = c.sent first (es.take (n + 1) ++ es.drop (n + 1)) := by rw [List.take_append_drop]
      _ = c.sent first (es.take n) ++ (c.made? (first + n) envelope).toList ++
            c.sent (first + (n + 1)) (es.drop (n + 1)) := by
          rw [sent_append, htake, sent_concat, List.length_append, hlen]
          rfl
      _ = _ := by rw [made?_of_made h, Option.toList_some, List.append_assoc]; rfl
  rw [hsent, List.getElem?_append_right (Nat.le_refl _), Nat.sub_self]
  rfl

end

end MessageConverter

/-! ## one call -/

namespace Service

section

variable {State Request Reply Response Failure : Type} {c : MessageConverter}
  {service : Service State Message Reply Response Failure} {s : Outlet State}
  {envelope m : Message} {e : ConversionError}

/-- A message is passed on when it is made, before anyone asks for the answer. -/
theorem value_call_converting_of_made (h : c.converted s.next envelope = .ok (some m)) :
    ((converting c service).call s envelope).value =
      (.forwarded (service.call s.inner m).value.1,
        ⟨(service.call s.inner m).value.2, s.next + 1⟩) := by
  unfold converting
  dsimp only
  rw [Logged.value_bind, MessageConverter.value_outgoing_of_made h]
  rfl

/-- A call that is refused takes a stamp and leaves the inner service alone. -/
theorem value_call_converting_of_refusal (h : Refusal (c.converted s.next envelope) e) :
    ((converting c service).call s envelope).value =
      (.refused e, { s with next := s.next + 1 }) := by
  unfold converting
  dsimp only
  rw [Logged.value_bind, MessageConverter.value_outgoing_of_refusal h]
  rfl

end

end Service

/-! ## one operation -/

/-- Whether a reply fits a call: `outcome` is what converting its envelope came to, and
`position` is where its message stands in the record. -/
inductive ReplyTo {Reply : Type} (outcome : Except ConversionError (Option Message))
    (position : Nat) : CallReply (Nat × Reply) → Prop where
  | refused {e : ConversionError} (h : Refusal outcome e) : ReplyTo outcome position (.refused e)
  | forwarded {m : Message} (h : outcome = .ok (some m)) (reply : Reply) :
      ReplyTo outcome position (.forwarded (position, reply))

namespace Session

variable {State Reply Response Failure : Type}

section

variable {layer c : MessageConverter} {inner : Service State Message Reply Response Failure}
  {s : Session State Reply} {envelope m : Message} {e : ConversionError} {i n : Nat}

/-- Asking for readiness reaches the inner service, whichever service is asked. -/
theorem step_poll (hi : s.services[i]? = some c) :
    s.step layer inner (.poll i) =
      some (.readiness ((inner.poll s.outlet.inner).1.mapFailure .inner),
        { s with outlet.inner := (inner.poll s.outlet.inner).2 }) := by
  rw [step, hi]
  rfl

/-- A call that sends a message leaves the reply of the inner service. -/
theorem step_call_of_made (hi : s.services[i]? = some c)
    (h : c.converted s.outlet.next envelope = .ok (some m)) :
    s.step layer inner (.call i envelope) =
      some (.taken,
        { s with
          outlet := ⟨(inner.call s.outlet.inner m).value.2, s.outlet.next + 1⟩
          replies := s.replies ++
            [some (.forwarded (inner.call s.outlet.inner m).value.1)] }) := by
  rw [step, hi, Option.map_some, Service.value_call_converting_of_made h]

/-- A call that is refused leaves its error as the reply. -/
theorem step_call_of_refusal (hi : s.services[i]? = some c)
    (h : Refusal (c.converted s.outlet.next envelope) e) :
    s.step layer inner (.call i envelope) =
      some (.taken,
        { s with
          outlet.next := s.outlet.next + 1
          replies := s.replies ++ [some (.refused e)] }) := by
  rw [step, hi, Option.map_some, Service.value_call_converting_of_refusal h]

/-- An answer to a refused call is its error, and it is given once. -/
theorem step_ask_of_refused (hn : s.replies[n]? = some (some (.refused e))) :
    s.step layer inner (.ask n) =
      some (.answer (some (.error (.conversion e))),
        { s with replies := s.replies.set n none }) := by
  rw [step, hn]
  rfl

/-- Any other answer is that of the inner service. What is left of its reply can be
asked again. -/
theorem step_ask_of_forwarded {reply : Reply}
    (hn : s.replies[n]? = some (some (.forwarded reply))) :
    s.step layer inner (.ask n) =
      some (.answer ((inner.ask s.outlet.inner reply).1.answer?.map (·.mapError .inner)),
        { s with
          outlet.inner := (inner.ask s.outlet.inner reply).2
          replies := s.replies.set n
            ((inner.ask s.outlet.inner reply).1.reply?.map .forwarded) }) := by
  rw [step, hn, Option.join_some, Option.map_some]
  simp [Service.converting]

end

/-! ## forgetting the record -/

/-- The session without the record and the positions in it. -/
def forget (s : Session (Recorded State Message) (Nat × Reply)) : Session State Reply where
  outlet := ⟨s.outlet.inner.state, s.outlet.next⟩
  services := s.services
  replies := s.replies.map (·.map (CallReply.map Prod.snd))

section

variable {layer : MessageConverter} {inner : Service State Message Reply Response Failure}

/-- The record is not seen from outside: an operation shows the same without it. -/
theorem step_forget (s : Session (Recorded State Message) (Nat × Reply)) (op : Operation) :
    s.forget.step layer inner op =
      (s.step layer inner.recorded op).map fun x => (x.1, x.2.forget) := by
  have hservices : s.forget.services = s.services := rfl
  cases op with
  | layer => rfl
  | clone i => simp [step, forget, Function.comp_def]
  | poll i =>
      cases hi : s.services[i]? with
      | none => simp [step, hservices, hi]
      | some c =>
          rw [step_poll hi, step_poll (hservices ▸ hi), Service.recorded_poll]
          rfl
  | call i envelope =>
      cases hi : s.services[i]? with
      | none => simp [step, hservices, hi]
      | some c =>
          obtain ⟨m, hm⟩ | ⟨e, he⟩ := made_or_refusal (c.converted s.outlet.next envelope)
          · rw [step_call_of_made hi hm, step_call_of_made (s := s.forget) hi hm,
              Service.value_recorded_call]
            simp [forget, CallReply.map]
          · rw [step_call_of_refusal hi he, step_call_of_refusal (s := s.forget) hi he]
            simp [forget, CallReply.map]
  | ask n =>
      have hreplies : s.forget.replies[n]? = s.replies[n]?.map (·.map (CallReply.map Prod.snd)) :=
        List.getElem?_map ..
      match hn : s.replies[n]? with
      | none => simp [step, hreplies, hn]
      | some none => simp [step, hreplies, hn]
      | some (some (.refused e)) =>
          rw [hn] at hreplies
          rw [step_ask_of_refused hn, step_ask_of_refused hreplies]
          simp [forget, List.map_set]
      | some (some (.forwarded reply)) =>
          rw [hn] at hreplies
          rw [step_ask_of_forwarded hn, step_ask_of_forwarded hreplies, Service.recorded_ask]
          simp [forget, List.map_set, Function.comp_def, CallReply.map]

/-- Nor does a whole session show the record. -/
theorem after_forget (s : Session (Recorded State Message) (Nat × Reply)) (ops : List Operation) :
    s.forget.after layer inner ops = (s.after layer inner.recorded ops).map forget := by
  induction ops generalizing s with
  | nil => rfl
  | cons op ops ih =>
      rw [after, step_forget, after]
      cases s.step layer inner.recorded op with
      | none => rfl
      | some x => exact ih x.2

end

/-! ## the invariant -/

/-- What holds of a session all along, after calls with these envelopes. -/
structure Consistent (layer : MessageConverter) (first : Stamp) (calls : List Message)
    (s : Session (Recorded State Message) (Nat × Reply)) : Prop where
  services : ∀ c ∈ s.services, c = layer
  next : s.outlet.next = first + calls.length
  received : s.outlet.inner.received = layer.sent first calls
  length : s.replies.length = calls.length
  replies : ∀ n envelope reply, calls[n]? = some envelope → s.replies[n]? = some (some reply) →
    ReplyTo (layer.converted (first + n) envelope) (layer.sent first (calls.take n)).length reply

section

variable {layer : MessageConverter} {inner : Service State Message Reply Response Failure}
  {first : Stamp} {calls : List Message} {s s' : Session (Recorded State Message) (Nat × Reply)}
  {op : Operation} {seen : Seen Response (CallError Failure)}

/-- A session starts without services, calls and replies. -/
theorem consistent_opened (layer : MessageConverter) (start : State) (first : Stamp) :
    (opened ⟨start, []⟩ first : Session (Recorded State Message) (Nat × Reply)).Consistent
      layer first [] where
  services c hc := absurd hc List.not_mem_nil
  next := rfl
  received := rfl
  length := rfl
  replies n envelope reply hn := by cases hn

/-- Every service in a session is that of the layer. -/
theorem Consistent.getElem? (h : s.Consistent layer first calls) {i : Nat}
    (hi : i < s.services.length) : s.services[i]? = some layer := by
  rw [List.getElem?_eq_getElem hi, h.services _ (List.getElem_mem hi)]

/-- A call takes the next stamp, adds what was made to the record, and gives a reply. -/
theorem Consistent.with_call {envelope : Message} {reply : CallReply (Nat × Reply)}
    {o : Outlet (Recorded State Message)} (h : s.Consistent layer first calls)
    (hreceived : o.inner.received =
      s.outlet.inner.received ++ (layer.made? s.outlet.next envelope).toList)
    (hnext : o.next = s.outlet.next + 1)
    (hreply : ReplyTo (layer.converted s.outlet.next envelope)
      s.outlet.inner.received.length reply) :
    Consistent layer first (calls ++ [envelope])
      { s with outlet := o, replies := s.replies ++ [some reply] } where
  services := h.services
  next := by rw [hnext, h.next, List.length_append, List.length_singleton, Nat.add_assoc]
  received := by rw [hreceived, h.received, h.next, layer.sent_concat]
  length := by
    rw [List.length_append, List.length_append, h.length]
    rfl
  replies n envelope' reply' hn hr := by
    dsimp only at hr
    have hlt : n < (calls ++ [envelope]).length := (List.getElem?_eq_some_iff.mp hn).1
    rw [List.length_append, List.length_singleton] at hlt
    obtain hlt | rfl := Nat.lt_succ_iff_lt_or_eq.mp hlt
    · rw [List.getElem?_append_left hlt] at hn
      rw [List.getElem?_append_left (h.length ▸ hlt)] at hr
      rw [List.take_append_of_le_length (Nat.le_of_lt hlt)]
      exact h.replies n envelope' reply' hn hr
    · -- the new reply: all calls before it are those so far
      rw [List.getElem?_concat_length, Option.some.injEq] at hn
      rw [← h.length, List.getElem?_concat_length, Option.some.injEq, Option.some.injEq] at hr
      rw [List.take_left, ← hn, ← hr, ← h.next, ← h.received]
      exact hreply

/-- The outlet may change, but for the record and the stamp. -/
theorem Consistent.with_outlet (h : s.Consistent layer first calls)
    {o : Outlet (Recorded State Message)} (hreceived : o.inner.received = s.outlet.inner.received)
    (hnext : o.next = s.outlet.next) : Consistent layer first calls { s with outlet := o } where
  services := h.services
  next := hnext.trans h.next
  received := hreceived.trans h.received
  length := h.length
  replies := h.replies

/-- One more service of the layer changes nothing else. -/
theorem Consistent.with_service (h : s.Consistent layer first calls) :
    Consistent layer first calls { s with services := s.services ++ [layer] } where
  services c hc := by
    obtain hc | hc := List.mem_append.mp hc
    · exact h.services c hc
    · exact List.mem_singleton.mp hc
  next := h.next
  received := h.received
  length := h.length
  replies := h.replies

/-- A reply that was asked may be left to ask again, if what is left fits the call. -/
theorem Consistent.with_reply (h : s.Consistent layer first calls) {n : Nat}
    {reply : CallReply (Nat × Reply)} {left : Option (CallReply (Nat × Reply))}
    (hn : s.replies[n]? = some (some reply))
    (hleft : ∀ outcome position x, ReplyTo outcome position reply → left = some x →
      ReplyTo outcome position x) :
    Consistent layer first calls { s with replies := s.replies.set n left } where
  services := h.services
  next := h.next
  received := h.received
  length := (List.length_set ..).trans h.length
  replies k envelope x hk hx := by
    dsimp only at hx
    rw [List.getElem?_set] at hx
    by_cases hnk : n = k
    · subst hnk
      rw [if_pos rfl] at hx
      split at hx
      · exact hleft _ _ x (h.replies n envelope reply hk hn) (Option.some.inj hx)
      · cases hx
    · rw [if_neg hnk] at hx
      exact h.replies k envelope x hk hx

/-- **One operation.** -/
theorem Consistent.step (h : s.Consistent layer first calls)
    (hs : s.step layer inner.recorded op = some (seen, s')) :
    s'.Consistent layer first (calls ++ op.envelope?.toList) := by
  -- only a call adds to the list of envelopes
  have hsame {s₁ : Session (Recorded State Message) (Nat × Reply)}
      (h₁ : s₁.Consistent layer first calls) : s₁.Consistent layer first (calls ++ []) := by
    rw [List.append_nil]
    exact h₁
  cases op with
  | layer =>
      cases hs
      exact hsame h.with_service
  | clone i =>
      obtain ⟨c, hc, hx⟩ := Option.map_eq_some_iff.mp hs
      obtain rfl : c = layer := h.services c (List.mem_of_getElem? hc)
      cases hx
      exact hsame h.with_service
  | poll i =>
      obtain ⟨c, hc, -⟩ := Option.map_eq_some_iff.mp hs
      rw [step_poll hc] at hs
      cases hs
      exact hsame (h.with_outlet rfl rfl)
  | call i envelope =>
      obtain ⟨c, hc, -⟩ := Option.map_eq_some_iff.mp hs
      obtain rfl : c = layer := h.services c (List.mem_of_getElem? hc)
      obtain ⟨m, hm⟩ | ⟨e, he⟩ := made_or_refusal (c.converted s.outlet.next envelope)
      · rw [step_call_of_made hc hm] at hs
        cases hs
        exact h.with_call (by rw [MessageConverter.made?_of_made hm]; rfl) rfl (.forwarded hm _)
      · rw [step_call_of_refusal hc he] at hs
        cases hs
        refine h.with_call ?_ rfl (.refused he)
        rw [MessageConverter.made?_of_refusal he, Option.toList_none, List.append_nil]
  | ask n =>
      obtain ⟨reply, hreply, -⟩ := Option.map_eq_some_iff.mp hs
      rw [Option.join_eq_some_iff] at hreply
      cases reply with
      | refused e =>
          rw [step_ask_of_refused hreply] at hs
          cases hs
          exact hsame (h.with_reply hreply fun _ _ _ _ hleft => nomatch hleft)
      | forwarded reply =>
          obtain ⟨position, reply⟩ := reply
          rw [step_ask_of_forwarded hreply] at hs
          cases hs
          -- what is left keeps the position, so it fits the same call
          refine hsame ((h.with_reply hreply fun _ _ x hx hleft => ?_).with_outlet rfl rfl)
          rw [Service.recorded_ask, Progress.reply?_mapReply, Option.map_map] at hleft
          obtain ⟨left, -, rfl⟩ := Option.map_eq_some_iff.mp hleft
          cases hx with
          | forwarded hmade => exact .forwarded hmade left

/-- **All operations.** -/
theorem Consistent.after {ops : List Operation} (h : s.Consistent layer first calls)
    (hs : s.after layer inner.recorded ops = some s') :
    s'.Consistent layer first (calls ++ ops.filterMap Operation.envelope?) := by
  induction ops generalizing s calls with
  | nil =>
      cases hs
      rw [List.filterMap_nil, List.append_nil]
      exact h
  | cons op ops ih =>
      obtain ⟨⟨seen, s₁⟩, hstep, hs⟩ := Option.bind_eq_some_iff.mp hs
      have h₁ := ih (h.step hstep) hs
      rw [List.append_assoc] at h₁
      cases hop : op.envelope? <;> simpa [List.filterMap_cons, hop] using h₁

end

/-! ## what a session guarantees -/

/-- What holds in a session after calls with these envelopes, and what its next
operation does. -/
structure Delivers (layer : MessageConverter)
    (inner : Service State Message Reply Response Failure) (first : Stamp) (calls : List Message)
    (s : Session (Recorded State Message) (Nat × Reply)) : Prop where
  /-- The inner service received what was made of the envelopes, in the order of the calls
  and each message once. -/
  received : s.outlet.inner.received = layer.sent first calls
  /-- There is one reply for each call. -/
  replies : s.replies.length = calls.length
  /-- Each service is as ready as the inner service, and asking for it is asking that one. -/
  readiness : ∀ i < s.services.length,
    s.step layer inner.recorded (.poll i) =
      some (.readiness ((inner.poll s.outlet.inner.state).1.mapFailure .inner),
        { s with outlet.inner.state := (inner.poll s.outlet.inner.state).2 })
  /-- A message that is made is passed on in the call; its position comes with the reply. -/
  forwards : ∀ i < s.services.length, ∀ envelope m,
    layer.converted (first + calls.length) envelope = .ok (some m) →
    s.step layer inner.recorded (.call i envelope) =
      some (.taken,
        { s with
          outlet := ⟨⟨(inner.call s.outlet.inner.state m).value.2,
            s.outlet.inner.received ++ [m]⟩, s.outlet.next + 1⟩
          replies := s.replies ++ [some (.forwarded
            (s.outlet.inner.received.length, (inner.call s.outlet.inner.state m).value.1))] })
  /-- When none is made, the inner service stays as it is. -/
  refuses : ∀ i < s.services.length, ∀ envelope e,
    Refusal (layer.converted (first + calls.length) envelope) e →
    s.step layer inner.recorded (.call i envelope) =
      some (.taken,
        { s with outlet.next := s.outlet.next + 1, replies := s.replies ++ [some (.refused e)] })
  /-- A reply to a message that was passed on is the reply of the inner service to this very
  message. What the inner service answers to it is the answer, and if it does not answer yet,
  then what is left of its reply is asked later. -/
  answers : ∀ n envelope m reply, calls[n]? = some envelope →
    layer.converted (first + n) envelope = .ok (some m) → s.replies[n]? = some (some reply) →
    ∃ position own, reply = .forwarded (position, own) ∧
      position = (layer.sent first (calls.take n)).length ∧
      s.outlet.inner.received[position]? = some m ∧
      s.step layer inner.recorded (.ask n) =
        some (.answer ((inner.ask s.outlet.inner.state own).1.answer?.map (·.mapError .inner)),
          { s with
            outlet.inner.state := (inner.ask s.outlet.inner.state own).2
            replies := s.replies.set n ((inner.ask s.outlet.inner.state own).1.reply?.map
              fun left => .forwarded (position, left)) })
  /-- The reply to a refused call fails for the reason of the refusal, without the inner
  service. -/
  fails : ∀ n envelope e reply, calls[n]? = some envelope →
    Refusal (layer.converted (first + n) envelope) e → s.replies[n]? = some (some reply) →
    s.step layer inner.recorded (.ask n) =
      some (.answer (some (.error (.conversion e))), { s with replies := s.replies.set n none })

section

variable {layer : MessageConverter} {inner : Service State Message Reply Response Failure}
  {first : Stamp} {calls : List Message} {s : Session (Recorded State Message) (Nat × Reply)}

/-- The guarantees follow from the invariant and from what one operation does. -/
theorem Consistent.delivers (h : s.Consistent layer first calls) :
    s.Delivers layer inner first calls where
  received := h.received
  replies := h.length
  readiness i hi := step_poll (h.getElem? hi)
  forwards i hi envelope m hm := step_call_of_made (h.getElem? hi) (h.next ▸ hm)
  refuses i hi envelope e he := step_call_of_refusal (h.getElem? hi) (h.next ▸ he)
  answers n envelope m reply hn hm hreply := by
    have hfits := h.replies n envelope reply hn hreply
    cases hfits with
    | refused he =>
        rw [hm] at he
        cases he
    | forwarded _ own =>
        refine ⟨_, own, rfl, rfl, ?_, ?_⟩
        · rw [h.received]
          exact MessageConverter.getElem?_sent hn hm
        · rw [step_ask_of_forwarded hreply, Service.recorded_ask, Progress.answer?_mapReply,
            Progress.reply?_mapReply, Option.map_map]
          rfl
  fails n envelope e reply hn he hreply := by
    have hfits := h.replies n envelope reply hn hreply
    cases hfits with
    | refused he' =>
        obtain rfl := he'.unique he
        exact step_ask_of_refused hreply
    | forwarded hm own =>
        rw [hm] at he
        cases he

/-- **Delivery.** Whatever operations were done with any number of services, they can
be done as well with the inner service recorded: then it has received exactly what the
converter made, in the order of the calls, and every operation that may come next does
what it should. -/
theorem delivers_after {start : State} {ops : List Operation} {s : Session State Reply}
    (hs : (opened start first).after layer inner ops = some s) :
    ∃ r, (opened ⟨start, []⟩ first).after layer inner.recorded ops = some r ∧ r.forget = s ∧
      r.Delivers layer inner first (ops.filterMap Operation.envelope?) := by
  have hforget : ((opened ⟨start, []⟩ first).after layer inner.recorded ops).map forget =
      some s := by
    rw [← after_forget]
    exact hs
  obtain ⟨r, hr, rfl⟩ := Option.map_eq_some_iff.mp hforget
  exact ⟨r, hr, rfl, ((consistent_opened layer start first).after hr).delivers⟩

/-- Two services take turns at sending counters. The text and the zero are not passed
on; the zero fails with the error of its codec, when its reply is asked at last. -/
theorem delivers_after_counters :
    let layer : MessageConverter := .single (.ofCodec .counter)
    let recorder : Recorder := ⟨.failed .notReady, none⟩
    let bare : HeaderSet := ⟨9, .empty⟩
    let ops : List Operation := [.layer, .clone 0, .poll 1, .call 1 ⟨.uint32 7, bare⟩,
      .call 0 ⟨.text "a", bare⟩, .call 0 ⟨.uint32 0, bare⟩, .call 1 ⟨.uint32 8, bare⟩, .ask 3]
    ∃ r, (opened ⟨[], []⟩ 0).after layer recorder.service.recorded ops = some r ∧
      r.outlet.inner.received = [⟨.uint32 7, ⟨0, .empty⟩⟩, ⟨.uint32 8, ⟨3, .empty⟩⟩] ∧
      r.step layer recorder.service.recorded (.ask 2) =
        some (.answer (some (.error (.conversion (.encode (.other "zero is not a counter"))))),
          { r with replies := r.replies.set 2 none }) := by
  intro layer recorder bare ops
  have hs : ∃ s, (opened [] 0).after layer recorder.service ops = some s := by
    subst layer recorder ops bare
    exact ⟨_, rfl⟩
  obtain ⟨s, hs⟩ := hs
  obtain ⟨r, hr, -, hdelivers⟩ := delivers_after hs
  have hreply : r.replies[2]? =
      some (some (.refused (.encode (.other "zero is not a counter")))) := by
    subst layer recorder ops bare
    obtain rfl := Option.some.inj hr
    rfl
  have hrefused : Refusal (layer.converted 2 ⟨.uint32 0, bare⟩)
      (.encode (.other "zero is not a counter")) := by
    subst layer bare
    exact .failed _
  refine ⟨r, hr, ?_, hdelivers.fails 2 _ _ _ rfl hrefused hreply⟩
  rw [hdelivers.received]
  subst layer recorder ops bare
  rfl

end

end Session

end Conneg
