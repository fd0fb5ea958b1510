import Conneg.Service.Basic

/-!
# Conneg.Service.Session

Several services over one inner service, and what is done with them.

1. A layer makes services with its converter, and services are cloned. A service
   holds its converter; the inner service is one for all of them.
2. Services are polled and called in any order. Replies are numbered in the order
   of the calls, whichever services took these, and each is asked for its answer
   at any time, or never.
3. An operation is possible unless it names a service that was not made, or a
   reply that was not given or that has been answered.
-/

namespace Conneg

/-- What is done with the services of a session. -/
inductive Operation where
  /-- The layer makes a service. -/
  | layer
  | clone (service : Nat)
  | poll (service : Nat)
  | call (service : Nat) (envelope : Message)
  | ask (reply : Nat)

/-- The envelope that an operation sends. -/
def Operation.envelope? : Operation → Option Message
  | call _ envelope => some envelope
  | layer | clone _ | poll _ | ask _ => none

/-- What an operation shows. -/
inductive Seen (Response Failure : Type) where
  /-- There is one more service. -/
  | made
  | readiness (readiness : Readiness Failure)
  /-- There is one more reply. -/
  | taken
  /-- What a reply came to: its answer, if it has come. -/
  | answer (answer : Option (Except Failure Response))

/-- Services over one inner service, and the replies to their calls. -/
structure Session (State Reply : Type) where
  outlet : Outlet State
  /-- The converters of the services, in the order in which these were made. -/
  services : List MessageConverter
  /-- The replies in the order of the calls; nothing is left of one that was answered. -/
  replies : List (Option (CallReply Reply))

namespace Session

variable {State Reply Response Failure : Type}

/-- A session without services. -/
def opened (start : State) (first : Stamp) : Session State Reply := ⟨⟨start, first⟩, [], []⟩

/-- What an operation shows, and the session after it, if it is possible. -/
def step (layer : MessageConverter) (inner : Service State Message Reply Response Failure)
    (s : Session State Reply) :
    Operation → Option (Seen Response (CallError Failure) × Session State Reply)
  | .layer => some (.made, { s with services := s.services ++ [layer] })
  | .clone i => s.services[i]?.map fun c => (.made, { s with services := s.services ++ [c] })
  | .poll i =>
      s.services[i]?.map fun c =>
        let (readiness, outlet) := (Service.converting c inner).poll s.outlet
        (.readiness readiness, { s with outlet := outlet })
  | .call i envelope =>
      s.services[i]?.map fun c =>
        let (reply, outlet) := ((Service.converting c inner).call s.outlet envelope).value
        (.taken, { s with outlet := outlet, replies := s.replies ++ [some reply] })
  | .ask n =>
      s.replies[n]?.join.map fun reply =>
        let (progress, outlet) := (Service.converting layer inner).ask s.outlet reply
        (.answer progress.answer?,
          { s with outlet := outlet, replies := s.replies.set n progress.reply? })

/-- The session after operations one after another, if all of them are possible. -/
def after (layer : MessageConverter) (inner : Service State Message Reply Response Failure) :
    Session State Reply → List Operation → Option (Session State Reply)
  | s, [] => some s
  | s, op :: ops => (s.step layer inner op).bind fun x => after layer inner x.2 ops

end Session

end Conneg
