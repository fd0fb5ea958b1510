import Conneg.Json.Basic
import Conneg.Text.Hex

/-!
# Conneg.Json.Printer

JSON text without blanks.

1. Quotes, backslashes and control characters below U+0020 are escaped, with a
   short escape where JSON has one; every other character stands as it is.
2. Members are written in the order in which the value lists them.
-/

namespace Conneg.Json

open Text

/-- The written form of one character of a string. -/
def escapeChar (c : Char) : List Char :=
  if c == '"' then ['\\', '"']
  else if c == '\\' then ['\\', '\\']
  else if c == '\x08' then ['\\', 'b']
  else if c == '\t' then ['\\', 't']
  else if c == '\n' then ['\\', 'n']
  else if c == '\x0c' then ['\\', 'f']
  else if c == '\r' then ['\\', 'r']
  else if c.toNat < 0x10 then "\\u000".toList ++ hexLower c.toNat
  else if c.toNat < 0x20 then "\\u00".toList ++ hexLower c.toNat
  else [c]

/-- A string between quotes. -/
def writeString (s : String) : List Char := '"' :: s.toList.flatMap escapeChar ++ ['"']

mutual
/-- The compact text of a value. -/
def write : Json → List Char
  | null => "null".toList
  | boolean true => "true".toList
  | boolean false => "false".toList
  | number n => n.text
  | string s => writeString s
  | array items => '[' :: writeItems items ++ [']']
  | object members => '{' :: writeMembers members ++ ['}']

/-- The values of an array, separated by commas. -/
def writeItems : List Json → List Char
  | [] => []
  | [v] => write v
  | v :: w :: vs => write v ++ ',' :: writeItems (w :: vs)

/-- The members of an object, separated by commas. -/
def writeMembers : List (String × Json) → List Char
  | [] => []
  | [(k, v)] => writeString k ++ ':' :: write v
  | (k, v) :: e :: es => writeString k ++ ':' :: write v ++ ',' :: writeMembers (e :: es)
end

/-- The compact text of a value. -/
def compact (v : Json) : String := String.ofList v.write

end Conneg.Json
