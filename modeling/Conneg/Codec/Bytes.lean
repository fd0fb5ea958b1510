import Conneg.Codec.Basic

/-!
# Conneg.Codec.Bytes

The codec that passes bytes through, whatever the serialized form.
-/

namespace Conneg.Codec

/-- Bytes as they are. -/
def bytes : Codec where
  mediaTypes := [.applicationOctetStream]
  supports t := t = .bytes
  decode m _ :=
    match m.payload with
    | .bytes bs => .ok (some (.bytes bs))
    | _ => .ok none
  encode p _ _ :=
    match p with
    | .bytes bs => .ok (.bytes bs)
    | _ => .error .notBytes

end Conneg.Codec
