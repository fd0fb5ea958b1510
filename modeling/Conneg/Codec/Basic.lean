import Conneg.Payload
import Conneg.SerializedForm
import Conneg.Text.Utf8

/-!
# Conneg.Codec.Basic

Codecs: the part of a converter that knows a format.

1. `supports` is asked with the target type before decoding and with the type of
   the payload before encoding.
2. `decode` gives nothing when a payload yields no value, which is no error.
3. `defaultContentType` is asked with the encoded payload; unless a codec says
   otherwise it is the first supported media type.
-/

namespace Conneg

/-- Why a codec fails. -/
inductive CodecError where
  /-- The content type names a character set that is not decoded. -/
  | unsupportedCharset (name : String)
  /-- The bytes are no UTF-8 text. -/
  | invalidText (error : Text.Utf8.Error)
  /-- The payload to encode is no text. -/
  | notText
  /-- The payload to encode is no byte vector. -/
  | notBytes
  /-- What was decoded is not of the requested type. -/
  | wrongType (target : PayloadType)
  /-- A failure with a text of the codec's own. -/
  | other (message : String)
  deriving DecidableEq

/-- The text of a codec's failure. -/
def CodecError.message : CodecError → String
  | unsupportedCharset name => "unsupported charset: " ++ name
  | invalidText e => e.message
  | notText => "payload is not a String"
  | notBytes => "payload is not a byte vector"
  | wrongType target => "decoded payload is not a " ++ target.name
  | other message => message

/-- The part of a converter that knows a format. -/
structure Codec where
  /-- The media types of the format, the preferred one first. -/
  mediaTypes : List MediaType
  /-- Whether values of a type are handled. -/
  supports : PayloadType → Bool
  /-- Turns the payload of a message into a value of the target type. -/
  decode : Message → PayloadType → Except CodecError (Option Payload)
  /-- Turns a value into its serialized form. -/
  encode : Payload → Option HeaderMap → SerializedForm → Except CodecError Payload
  /-- The content type of an encoded payload, given the supported types. -/
  defaultContentType : Payload → List MediaType → Option MediaType :=
    fun _ supported => supported.head?

end Conneg
