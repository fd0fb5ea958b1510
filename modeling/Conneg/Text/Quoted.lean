import Conneg.Text.Hex
import Conneg.Text.Printable

/-!
# Conneg.Text.Quoted

Quoted text for diagnostics.

1. The text stands between double quotes; `"` and `\` inside it follow a `\`.
2. Tab, carriage return, line feed and NUL are written `\t`, `\r`, `\n`, `\0`.
3. Any other character that does not print on its own is written as its code
   point in hexadecimal, between `\u{` and `}`; the rest stands as it is.
-/

namespace Conneg.Text

/-- Whether a character stands for itself between quotes. -/
def standsForItself (c : Char) : Bool :=
  if c.toNat < 0x80 then 0x20 ≤ c.toNat && c != '\x7f' else isPrintable c

/-- The written form of one character between quotes. -/
def escapeChar (c : Char) : List Char :=
  if c == '"' then ['\\', '"']
  else if c == '\\' then ['\\', '\\']
  else if c == '\t' then ['\\', 't']
  else if c == '\r' then ['\\', 'r']
  else if c == '\n' then ['\\', 'n']
  else if c == '\x00' then ['\\', '0']
  else if standsForItself c then [c]
  else ['\\', 'u', '{'] ++ hexLower c.toNat ++ ['}']

/-- A text between double quotes. -/
def quote (s : List Char) : List Char := '"' :: s.flatMap escapeChar ++ ['"']

end Conneg.Text
