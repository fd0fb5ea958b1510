import Conneg.Json.Printer
import Conneg.Service.Basic

/-!
# Conneg.Service.Recorder

Services that record what they are sent.

1. `Service.recorded` is any service together with a record of its requests. Its
   replies tell the position of their request in the record.
2. A `Recorder` answers a message with the number of messages recorded so far. It
   can be set up to be never ready, or to reject messages with some header;
   rejected messages are recorded too.
-/

namespace Conneg

/-- The state of a service, and what the service was sent, in order. -/
structure Recorded (State Request : Type) where
  state : State
  received : List Request

/-- The service together with a record of its requests. -/
def Service.recorded {State Request Reply Response Failure : Type}
    (service : Service State Request Reply Response Failure) :
    Service (Recorded State Request) Request (Nat × Reply) Response Failure where
  poll s :=
    let (readiness, state) := service.poll s.state
    (readiness, { s with state := state })
  call s request := do
    let (reply, state) ← service.call s.state request
    return ((s.received.length, reply), ⟨state, s.received ++ [request]⟩)
  ask s reply :=
    let (progress, state) := service.ask s.state reply.2
    (progress.mapReply fun left => (reply.1, left), { s with state := state })

namespace Service

variable {State Request Reply Response Failure : Type}
  (service : Service State Request Reply Response Failure) (s : Recorded State Request)

/-- Asking for readiness is not recorded. -/
theorem recorded_poll :
    service.recorded.poll s =
      ((service.poll s.state).1, { s with state := (service.poll s.state).2 }) := rfl

/-- A request is recorded when it is taken, and the reply tells its position. -/
theorem value_recorded_call (request : Request) :
    (service.recorded.call s request).value =
      ((s.received.length, (service.call s.state request).value.1),
        ⟨(service.call s.state request).value.2, s.received ++ [request]⟩) := rfl

/-- A reply that is left to ask keeps its position. -/
theorem recorded_ask (reply : Nat × Reply) :
    service.recorded.ask s reply =
      ((service.ask s.state reply.2).1.mapReply fun left => (reply.1, left),
        { s with state := (service.ask s.state reply.2).2 }) := rfl

end Service

/-- Why a recorder fails. -/
inductive RecorderError where
  | notReady
  /-- The value of the header for which a message is rejected. -/
  | rejected (value : Json)
  deriving DecidableEq

def RecorderError.message : RecorderError → String
  | notReady => "inner is not ready"
  | rejected value => "rejected: " ++ value.compact

/-- What a recorder is set up to do. -/
structure Recorder where
  readiness : Readiness RecorderError
  /-- The header for which messages are rejected. -/
  reject : Option String

/-- A recorder as a service; its state is what it has recorded, in order. A reply
is the answer, which is known when a message is taken. -/
def Recorder.service (r : Recorder) :
    Service (List Message) Message (Except RecorderError Nat) Nat RecorderError where
  poll recorded := (r.readiness, recorded)
  call recorded m :=
    let recorded := recorded ++ [m]
    match r.reject.bind m.headers.map.get? with
    | some value => pure (.error (.rejected value), recorded)
    | none => pure (.ok recorded.length, recorded)
  ask recorded answer := (.answered answer, recorded)

end Conneg
