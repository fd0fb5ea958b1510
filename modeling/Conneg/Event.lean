import Conneg.Json.Description
import Conneg.MediaType.Basic
import Conneg.SerializedForm

/-!
# Conneg.Event

Events that converters and resolvers log. Each is a cause; its level, message
and named fields are functions of it.
-/

namespace Conneg

open Text

/-- What is logged. -/
inductive Event where
  /-- A content type header holds a text that is no media type. -/
  | unreadableContentType (error : MediaType.ParseError) (raw : String)
  /-- A content type header holds a value that is neither a text nor null. -/
  | contentTypeNotText (value : Json)
  /-- A converter does not decode a message. -/
  | messageDeclined
  /-- A converter does not encode a payload. -/
  | payloadDeclined
  /-- No delegate of a composite decoded a message. -/
  | messageNotAccepted
  /-- No delegate of a composite encoded a payload. -/
  | payloadNotAccepted
  /-- A converter was built from settings. -/
  | configured (supported : List MediaType) (strict : Bool) (form : SerializedForm)
  deriving DecidableEq

/-- How grave an event is. -/
inductive Level where
  | warn
  | debug
  deriving DecidableEq

namespace Event

/-- Only content types that cannot be used are warned about. -/
def level : Event → Level
  | unreadableContentType _ _ | contentTypeNotText _ => .warn
  | _ => .debug

def message : Event → String
  | unreadableContentType _ _ => "Unparseable content type header"
  | contentTypeNotText _ => "Content type header is not a string"
  | messageDeclined => "Converter does not apply to message"
  | payloadDeclined => "Converter does not apply to payload"
  | messageNotAccepted => "No converter accepted the message"
  | payloadNotAccepted => "No converter accepted the payload"
  | configured _ _ _ => "Converter configured"

/-- A list of media types, each as a quoted text. -/
def describeTypes (ms : List MediaType) : String :=
  let each := ms.map fun m =>
    "MimeType(" ++ String.ofList (quote m.spelling.write) ++ ")"
  "[" ++ ", ".intercalate each ++ "]"

/-- The named fields. -/
def fields : Event → List (String × String)
  | unreadableContentType error raw => [("error", error.message), ("content_type", raw)]
  | contentTypeNotText value => [("value", value.description)]
  | configured supported strict form =>
      [("supported", describeTypes supported), ("strict", if strict then "true" else "false"),
        ("form", form.name)]
  | messageDeclined | payloadDeclined | messageNotAccepted | payloadNotAccepted => []

end Event

end Conneg
