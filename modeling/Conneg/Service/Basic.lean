import Conneg.Converter.Composite

/-!
# Conneg.Service.Basic

Services that take requests one after another, and the conversion of what is
sent to them.

1. A service is a state machine: it tells whether it is ready, and takes a
   request at once. Its answer, a response or a failure, may come later: a call
   gives a reply, which is asked until it has an answer.
2. `converting` puts a converter in front of a service of messages. What it is
   sent is converted with its headers frozen, and the message that comes of it
   is passed on. Nothing is passed on when the conversion fails or no converter
   applies; both are failures of the call.
3. Readiness is that of the inner service.
-/

namespace Conneg

/-- Whether a service can take a request. -/
inductive Readiness (Failure : Type) where
  | ready
  | pending
  | failed (error : Failure)
  deriving DecidableEq

def Readiness.mapFailure {α β : Type} (f : α → β) : Readiness α → Readiness β
  | ready => ready
  | pending => pending
  | failed e => failed (f e)

/-- What a reply comes to when it is asked. -/
inductive Progress (Reply Response Failure : Type) where
  | answered (answer : Except Failure Response)
  /-- There is no answer yet; this reply is to be asked for it. -/
  | pending (reply : Reply)

namespace Progress

variable {Reply Response Failure : Type}

/-- The answer, if it has come. -/
def answer? : Progress Reply Response Failure → Option (Except Failure Response)
  | answered answer => some answer
  | pending _ => none

/-- The reply that is left to ask. -/
def reply? : Progress Reply Response Failure → Option Reply
  | answered _ => none
  | pending reply => some reply

/-- Changes the reply that is left. -/
def mapReply {Reply' : Type} (f : Reply → Reply') :
    Progress Reply Response Failure → Progress Reply' Response Failure
  | answered answer => answered answer
  | pending reply => pending (f reply)

/-- Changes what a failure is taken for. -/
def mapFailure {Failure' : Type} (f : Failure → Failure') :
    Progress Reply Response Failure → Progress Reply Response Failure'
  | answered answer => answered (answer.mapError f)
  | pending reply => pending reply

/-- What is done to a reply that is left does not concern the answer. -/
@[simp] theorem answer?_mapReply {Reply' : Type} (f : Reply → Reply')
    (x : Progress Reply Response Failure) : (x.mapReply f).answer? = x.answer? := by
  cases x <;> rfl

/-- There is a reply left exactly if there was one before. -/
@[simp] theorem reply?_mapReply {Reply' : Type} (f : Reply → Reply')
    (x : Progress Reply Response Failure) : (x.mapReply f).reply? = x.reply?.map f := by
  cases x <;> rfl

/-- A failure is taken for another, and a response stays as it is. -/
@[simp] theorem answer?_mapFailure {Failure' : Type} (f : Failure → Failure')
    (x : Progress Reply Response Failure) :
    (x.mapFailure f).answer? = x.answer?.map (·.mapError f) := by
  cases x <;> rfl

@[simp] theorem reply?_mapFailure {Failure' : Type} (f : Failure → Failure')
    (x : Progress Reply Response Failure) : (x.mapFailure f).reply? = x.reply? := by
  cases x <;> rfl

end Progress

/-- A service with states in `State`. -/
structure Service (State Request Reply Response Failure : Type) where
  /-- Asks whether a request can be taken. -/
  poll : State → Readiness Failure × State
  /-- Takes a request. -/
  call : State → Request → Logged (Reply × State)
  /-- Asks a reply for its answer. -/
  ask : State → Reply → Progress Reply Response Failure × State

/-- Why a call through a converter fails. -/
inductive CallError (Failure : Type) where
  /-- Nothing was passed on. -/
  | conversion (error : ConversionError)
  /-- The inner service failed. -/
  | inner (error : Failure)
  deriving DecidableEq

/-- The state behind a converter: that of the inner service, and the stamp of
the next headers. -/
structure Outlet (State : Type) where
  inner : State
  next : Stamp
  deriving DecidableEq

namespace MessageConverter

/-- The message that is sent for an envelope, or why there is none. -/
def outgoing (c : MessageConverter) (fresh : Stamp) (envelope : Message) :
    Logged (Except ConversionError Message) := do
  match (← c.toMessage fresh envelope.payload (some (.frozen envelope.headers))).outcome with
  | .ok (some m) => return .ok m
  | .ok none => return .error .notConvertible
  | .error e => return .error e

end MessageConverter

/-- The reply to a call through a converter. -/
inductive CallReply (Reply : Type) where
  /-- Nothing was passed on; the answer is there already. -/
  | refused (error : ConversionError)
  /-- The message was passed on, and the inner service gave this reply. -/
  | forwarded (reply : Reply)

/-- Changes the reply of the inner service. -/
def CallReply.map {α β : Type} (f : α → β) : CallReply α → CallReply β
  | refused e => refused e
  | forwarded reply => forwarded (f reply)

namespace Service

variable {State Reply Response Failure : Type}

/-- Passes on to a service what a converter makes of the envelopes it is sent. -/
def converting (c : MessageConverter) (service : Service State Message Reply Response Failure) :
    Service (Outlet State) Message (CallReply Reply) Response (CallError Failure) where
  poll s :=
    let (readiness, inner) := service.poll s.inner
    (readiness.mapFailure .inner, { s with inner := inner })
  call s envelope := do
    match ← c.outgoing s.next envelope with
    | .error e => return (.refused e, { s with next := s.next + 1 })
    | .ok m =>
        let (reply, inner) ← service.call s.inner m
        return (.forwarded reply, ⟨inner, s.next + 1⟩)
  ask s
    | .refused e => (.answered (.error (.conversion e)), s)
    | .forwarded reply =>
        let (progress, inner) := service.ask s.inner reply
        ((progress.mapReply .forwarded).mapFailure .inner, { s with inner := inner })

end Service

end Conneg
