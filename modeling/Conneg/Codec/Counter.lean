import Conneg.Codec.Basic

/-!
# Conneg.Codec.Counter

A codec of counters: numbers of 32 bits that are passed through, zero excepted
when encoding. It names no media type of its own.
-/

namespace Conneg.Codec

/-- Counters as they are. -/
def counter : Codec where
  mediaTypes := []
  supports t := t = .uint32
  decode m _ :=
    match m.payload with
    | .uint32 n => .ok (some (.uint32 n))
    | _ => .ok none
  encode p _ _ :=
    match p with
    | .uint32 n =>
        if n = 0 then .error (.other "zero is not a counter") else .ok (.uint32 n)
    | _ => .error (.other "not a u32")

end Conneg.Codec
