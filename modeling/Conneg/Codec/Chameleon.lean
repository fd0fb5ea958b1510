import Conneg.Codec.Basic
import Conneg.Json.Printer

/-!
# Conneg.Codec.Chameleon

A codec whose answers hang on headers, target and form, so that it shows what a
converter passes to its codec.

1. Decoding yields nothing under a header `none`, for a boolean target whether
   the payload is a text, and otherwise the text `decoded`, whatever the target.
2. Encoding fails under a header `fail` and otherwise tells the number of
   headers: as a text, as one byte, or as a number for boolean payloads.
3. The content type of an encoded text is the last supported one.
-/

namespace Conneg.Codec

/-- A codec that reflects what it is given. -/
def chameleon : Codec where
  mediaTypes := [.application "x-chameleon".toList (by decide), .applicationJson]
  supports t := t = .text ∨ t = .uint32 ∨ t = .boolean
  decode m target :=
    if m.headers.map.contains "none" then .ok none
    else if target = .boolean then .ok (some (.boolean (m.payload.type = .text)))
    else .ok (some (.text "decoded"))
  encode p headers form :=
    match headers with
    | none => .ok (.text "no headers")
    | some headers =>
        match headers.get? "fail" with
        | some value => .error (.other ("fail: " ++ value.compact))
        | none =>
            match form, p with
            | .text, _ => .ok (.text (toString headers.size ++ " headers"))
            | .binary, .boolean _ => .ok (.uint64 (UInt64.ofNat headers.size))
            | .binary, _ => .ok (.bytes [UInt8.ofNat headers.size])
  defaultContentType p supported :=
    match p with
    | .text _ => supported.getLast?
    | .bytes _ => some .applicationOctetStream
    | _ => none

end Conneg.Codec
