import Conneg.Converter.Basic

/-!
# Conneg.Converter.Conversion

Converting with one converter.

1. A converter that does not apply answers with nothing, which is no error, and
   changes no headers. A codec's failure is an error of decoding or encoding.
2. An encoded payload goes into a message with the headers that were given.
   Where they have no content type, the default one is filled in: in place into
   an accessor, and into a copy of frozen headers.
3. A message made from an accessor shares its storage.
-/

namespace Conneg

/-- Why a conversion fails. -/
inductive ConversionError where
  /-- The codec failed to decode. -/
  | decode (error : CodecError)
  /-- The codec failed to encode. -/
  | encode (error : CodecError)
  /-- No converter accepted a payload that has to be converted. -/
  | notConvertible
  deriving DecidableEq

namespace ConversionError

def message (e : ConversionError) : String :=
  (match e with
    | decode error => "Decode error: " ++ error.message
    | encode error => "Encode error: " ++ error.message
    | notConvertible => "No converter accepted the payload") ++ "\n"

/-- The text of the codec's failure behind an error. -/
def source? : ConversionError → Option String
  | decode error | encode error => some error.message
  | notConvertible => none

end ConversionError

/-- The result of making a message: what comes of it, and the headers as the
caller holds them afterwards. -/
structure Conversion where
  outcome : Except ConversionError (Option Message)
  headers : Option Headers

namespace Headers

/-- Fills in a content type where there is none. -/
def fillContentType (a : HeaderAccessor) (fresh : Stamp) : Option MediaType → HeaderAccessor
  | none => a
  | some m => (a.setIfAbsent fresh contentTypeName (.string m.text)).2

/-- Completes headers with a content type: the headers of the message, and those
of the caller afterwards. -/
def complete (fresh : Stamp) (type : Option MediaType) :
    Option Headers → HeaderSet × Option Headers
  | some (accessor a) =>
      let filled := fillContentType a fresh type
      (filled.snapshot, some (accessor filled))
  | some (frozen h) =>
      ((fillContentType (.ofMap fresh h.map) fresh type).snapshot, some (frozen h))
  | none => ((fillContentType (.ofMap fresh .empty) fresh type).snapshot, none)

end Headers

namespace Converter

/-- Converts the payload of a message into a target type. -/
def fromMessage (c : Converter) (m : Message) (target : PayloadType) :
    Logged (Except ConversionError (Option Payload)) := do
  if ← c.canDecode m target then
    match c.codec.decode m target with
    | .ok value => return .ok value
    | .error e => return .error (.decode e)
  else
    Logged.log .messageDeclined
    return .ok none

/-- Makes a message of a payload. -/
def toMessage (c : Converter) (fresh : Stamp) (p : Payload) (headers : Option Headers) :
    Logged Conversion := do
  let entries := headers.map Headers.map
  if ← c.canEncode p entries then
    match c.codec.encode p entries c.form with
    | .error e => return ⟨.error (.encode e), headers⟩
    | .ok encoded =>
        let (completed, after) := Headers.complete fresh (c.defaultContentType encoded) headers
        return ⟨.ok (some ⟨encoded, completed⟩), after⟩
  else
    Logged.log .payloadDeclined
    return ⟨.ok none, headers⟩

end Converter

end Conneg
