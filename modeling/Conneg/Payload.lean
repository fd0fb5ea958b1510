import Conneg.Header.Accessor

/-!
# Conneg.Payload

Payloads and messages.

1. A payload is a value whose type is known only at run time. A static text is
   of another type than an owned one. Types without a constructor of their own
   are told apart by their names, so there is no last one.
2. A message is a payload with frozen headers.
-/

namespace Conneg

/-- The type of a payload, and the target of a conversion. -/
inductive PayloadType where
  | text
  | bytes
  | staticText
  | uint8
  | uint32
  | uint64
  | int64
  | float
  | boolean
  | unit
  /-- The type of this name, which is none of the others. -/
  | other (name : String)
  deriving DecidableEq

/-- The name of a type in diagnostics. -/
def PayloadType.name : PayloadType → String
  | text => "alloc::string::String"
  | bytes => "alloc::vec::Vec<u8>"
  | staticText => "&str"
  | uint8 => "u8"
  | uint32 => "u32"
  | uint64 => "u64"
  | int64 => "i64"
  | float => "f64"
  | boolean => "bool"
  | unit => "()"
  | other name => name

/-- A value whose type is known at run time. -/
inductive Payload where
  | text (s : String)
  | bytes (bs : List UInt8)
  | staticText (s : String)
  | uint8 (n : UInt8)
  | uint32 (n : UInt32)
  | uint64 (n : UInt64)
  | int64 (n : Int64)
  | float (x : Json.Number)
  | boolean (b : Bool)
  | unit
  /-- A value of the type of this name, known by its content. -/
  | other (name : String) (content : Json)
  deriving DecidableEq

/-- The type of a payload. -/
def Payload.type : Payload → PayloadType
  | text _ => .text
  | bytes _ => .bytes
  | staticText _ => .staticText
  | uint8 _ => .uint8
  | uint32 _ => .uint32
  | uint64 _ => .uint64
  | int64 _ => .int64
  | float _ => .float
  | boolean _ => .boolean
  | unit => .unit
  | other name _ => .other name

/-- The payload, if it is of the given type. -/
def Payload.as? (p : Payload) (target : PayloadType) : Option Payload :=
  if p.type = target then some p else none

/-- A payload with frozen headers. -/
structure Message where
  payload : Payload
  headers : HeaderSet
  deriving DecidableEq

end Conneg
