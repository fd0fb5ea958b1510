import Conneg.Json.Double

/-!
# Conneg.Json.Number

Numbers of JSON values.

1. `1` and `1.0` are different numbers: one is an integer, the other a fraction.
   A fraction is its sign, the fewest digits that stand for it, without trailing
   zeros, and a power of ten.
2. `text` writes a fraction with a point when the point stands at most 16 places
   to the right and fewer than five places to the left of the first digit, and
   with an exponent and its sign otherwise. A whole fraction keeps one zero after
   the point.
3. Zero fractions differ in their sign, which `text` writes. As amounts they are
   one: `canonical` drops that sign and keeps every other number.
-/

namespace Conneg.Json

/-- A number: an integer, or digits times a power of ten with a sign. -/
inductive Number where
  | integer (n : Int)
  | decimal (negative : Bool) (digits : Nat) (exponent : Int)
  deriving DecidableEq

namespace Number

/-! ## from digits -/

/-- The number that a run of decimal digits stands for. -/
def ofDigits (ds : List Char) : Nat := ds.foldl (fun n d => 10 * n + (d.toNat - 48)) 0

/-- The fraction with these digits before and behind the point times a power of
ten; what is too small is zero, and what is too large is none. -/
def ofDecimal? (negative : Bool) (whole fraction : List Char) (exponent : Int) :
    Option Number := do
  let d ← Double.ofDigits? whole fraction exponent
  if d.mantissa = 0 then return decimal negative 0 0
  let (digits, exponent) ← d.shortest?
  return decimal negative digits exponent

/-- The number with these digits before the point: an integer from -2^63 to
2^64 - 1, or a fraction when it is larger or negative zero. -/
def ofInteger? (negative : Bool) (digits : List Char) : Option Number :=
  let n := ofDigits digits
  if negative then
    if 0 < n ∧ n ≤ Nat.pow 2 63 then some (integer (-n)) else ofDecimal? true digits [] 0
  else if n < Nat.pow 2 64 then some (integer n) else ofDecimal? false digits [] 0

/-! ## amounts -/

/-- The number without the sign of a zero. Numbers are the same amount of the
same kind exactly if these are equal. -/
def canonical : Number → Number
  | decimal _ 0 _ => decimal false 0 0
  | n => n

/-! ## text -/

/-- An integer in decimal digits. -/
def integerText (n : Int) : List Char :=
  if n < 0 then '-' :: Nat.toDigits 10 n.natAbs else Nat.toDigits 10 n.natAbs

/-- Digits times a power of ten, with a point at its place. -/
def positional (digits : List Char) (exponent : Int) : List Char :=
  let point := digits.length + exponent
  if 0 ≤ exponent then digits ++ List.replicate exponent.toNat '0' ++ ".0".toList
  else if 0 < point then digits.take point.toNat ++ '.' :: digits.drop point.toNat
  else "0.".toList ++ List.replicate (-point).toNat '0' ++ digits

/-- An integer in decimal digits after its sign. -/
def signedText (n : Int) : List Char := (if n < 0 then '-' else '+') :: Nat.toDigits 10 n.natAbs

/-- Digits times a power of ten, with a point after the first digit. -/
def scientific (digits : List Char) (exponent : Int) : List Char :=
  let tail := digits.drop 1
  digits.take 1 ++ (if tail = [] then [] else '.' :: tail) ++
    'e' :: signedText (digits.length + exponent - 1)

/-- A number as JSON text. -/
def text : Number → List Char
  | integer n => integerText n
  | decimal negative digits exponent =>
      let ds := Nat.toDigits 10 digits
      let point := ds.length + exponent
      (if negative then ['-'] else []) ++
        if -5 < point ∧ point ≤ 16 then positional ds exponent else scientific ds exponent

end Number

end Conneg.Json
