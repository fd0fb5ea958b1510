/-!
# Conneg.Text.Hex

Hexadecimal text of numbers, without padding.
-/

namespace Conneg.Text

/-- A number in lowercase hexadecimal, without padding. -/
def hexLower (n : Nat) : List Char := Nat.toDigits 16 n

/-- A number in uppercase hexadecimal, without padding. -/
def hexUpper (n : Nat) : List Char := (hexLower n).map Char.toUpper

end Conneg.Text
