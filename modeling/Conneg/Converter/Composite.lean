import Conneg.Converter.Conversion

/-!
# Conneg.Converter.Composite

Converters of converters.

1. A composite asks its delegates in order. The first one that answers with a
   value or an error gives the answer; then no other is asked.
2. A delegate that does not apply leaves the headers as they were, so each
   delegate sees the headers that the composite was given.
3. `decodeAs` adds the check that what was decoded is of the requested type.
-/

namespace Conneg

/-- A converter, or a list of converters that are asked in order. -/
inductive MessageConverter where
  | single (converter : Converter)
  | composite (delegates : List MessageConverter)

namespace MessageConverter

mutual
/-- Converts the payload of a message into a target type. -/
def fromMessage : MessageConverter → Message → PayloadType →
    Logged (Except ConversionError (Option Payload))
  | single c, m, target => c.fromMessage m target
  | composite delegates, m, target => firstFromMessage delegates m target

/-- Asks converters in order to decode a message. -/
def firstFromMessage : List MessageConverter → Message → PayloadType →
    Logged (Except ConversionError (Option Payload))
  | [], _, _ => do
      Logged.log .messageNotAccepted
      return .ok none
  | d :: ds, m, target => do
      match ← d.fromMessage m target with
      | .ok none => firstFromMessage ds m target
      | answer => return answer
end

mutual
/-- Makes a message of a payload. -/
def toMessage : MessageConverter → Stamp → Payload → Option Headers → Logged Conversion
  | single c, fresh, p, headers => c.toMessage fresh p headers
  | composite delegates, fresh, p, headers => firstToMessage delegates fresh p headers

/-- Offers a payload and its headers to converters in order. -/
def firstToMessage : List MessageConverter → Stamp → Payload → Option Headers →
    Logged Conversion
  | [], _, _, headers => do
      Logged.log .payloadNotAccepted
      return ⟨.ok none, headers⟩
  | d :: ds, fresh, p, headers => do
      match ← d.toMessage fresh p headers with
      | ⟨.ok none, headers⟩ => firstToMessage ds fresh p headers
      | answer => return answer
end

/-- A composite with one more delegate, asked after the others; a single
converter becomes the first delegate. -/
def append : MessageConverter → MessageConverter → MessageConverter
  | composite ds, d => composite (ds ++ [d])
  | single c, d => composite [single c, d]

/-- The composite that appending converters one after another builds. -/
def chain (ds : List MessageConverter) : MessageConverter := ds.foldl append (composite [])

/-- Appending one by one adds the delegates in their order. -/
theorem foldl_append_composite (ds es : List MessageConverter) :
    es.foldl append (composite ds) = composite (ds ++ es) := by
  induction es generalizing ds with
  | nil => simp
  | cons e es ih => simp [append, ih]

/-- A chain of appends is the composite of the list. -/
@[simp] theorem chain_eq_composite (ds : List MessageConverter) : chain ds = composite ds :=
  foldl_append_composite [] ds

/-- Converts the payload of a message into a target type, and makes sure that
the answer is of that type. -/
def decodeAs (c : MessageConverter) (m : Message) (target : PayloadType) :
    Logged (Except ConversionError (Option Payload)) := do
  match ← c.fromMessage m target with
  | .ok (some value) =>
      return if value.type = target then .ok (some value)
        else .error (.decode (.wrongType target))
  | answer => return answer

end MessageConverter

end Conneg
