import Conneg.Codec.Basic

/-!
# Conneg.Codec.Text

The codec of texts.

1. A text payload is decoded as it is, and bytes are decoded as UTF-8; other
   payloads yield nothing.
2. Bytes are refused when the content type names a character set other than
   `utf-8` or `utf8`, in any letter case. Text payloads carry no character set.
3. A text is encoded as its UTF-8 bytes or, in text form, as it is.
-/

namespace Conneg.Codec

open Text

/-- Whether a character set is UTF-8. -/
def isUtf8 (charset : String) : Bool :=
  sameLetters charset.toList "utf-8".toList || sameLetters charset.toList "utf8".toList

/-- The character set that the content type of the headers names. -/
def charset? (headers : HeaderMap) : Option String :=
  headers.contentType?.bind (·.param? "charset")

/-- The text of UTF-8 bytes. -/
def decodeText (bs : List UInt8) : Except CodecError Payload :=
  match Utf8.decode bs with
  | .ok s => .ok (.text (String.ofList s))
  | .error e => .error (.invalidText e)

/-- Decodes bytes whose content type names this character set, or none. -/
def decodeWith (charset : Option String) (bs : List UInt8) : Except CodecError Payload :=
  match charset with
  | none => decodeText bs
  | some c => if isUtf8 c then decodeText bs else .error (.unsupportedCharset c)

/-- Texts, in UTF-8. -/
def text : Codec where
  mediaTypes := [.textPlainUtf8]
  supports t := t = .text
  decode m _ :=
    match m.payload with
    | .text s => .ok (some (.text s))
    | .bytes bs => (decodeWith (charset? m.headers.map) bs).map some
    | _ => .ok none
  encode p _ form :=
    match p, form with
    | .text s, .binary => .ok (.bytes (Utf8.encode s.toList))
    | .text s, .text => .ok (.text s)
    | _, _ => .error .notText

end Conneg.Codec
