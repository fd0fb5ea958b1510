/-!
# Conneg.Json.Double

Fractions between decimal and binary digits.

1. `ofDigits?` is the fraction of 64 bits that is read from the digits before and
   behind a point times a power of ten. Of many digits the leading ones count,
   and each scaling rounds to the nearest fraction.
2. `shortest?` gives the fewest decimal digits that are nearer to a fraction
   than to any other, and of those the nearest ones; of two equally near ones
   the even one.
-/

namespace Conneg.Json

/-- The value `mantissa * 2 ^ exponent`. -/
structure Double where
  mantissa : Nat
  exponent : Int
  deriving DecidableEq

namespace Double

/-! ## from decimal digits -/

/-- A number followed by more digits, as many as keep it a number of 64 bits, and
the digits that are left. -/
def appendDigits (n : Nat) : List Char → Nat × List Char
  | [] => (n, [])
  | d :: ds =>
      let next := 10 * n + (d.toNat - 48)
      if next < Nat.pow 2 64 then appendDigits next ds else (n, d :: ds)

/-- The largest exponent of a power of ten. -/
def maxPower : Nat := 308

/-- A power of ten. -/
def power (n : Nat) : Float := Float.ofScientific 1 false n

/-- Multiplies by a power of ten, unless the product is too large. What is too
small is divided step by step. -/
def scale? (x : Float) (exponent : Int) : Option Float :=
  if x == 0 then some x
  else if exponent < -maxPower then scale? (x / power maxPower) (exponent + maxPower)
  else if exponent < 0 then some (x / power exponent.natAbs)
  else if exponent ≤ maxPower then
    let product := x * power exponent.natAbs
    if product.isFinite then some product else none
  else none
termination_by exponent.natAbs
decreasing_by simp only [maxPower] at *; omega

/-- The bit of a mantissa that is not written down. -/
def hidden : Nat := Nat.pow 2 52

/-- The value of a finite fraction without its sign. -/
def ofFloat (x : Float) : Double :=
  let bits := x.toBits.toNat
  let fraction := bits % hidden
  let field := bits / hidden % Nat.pow 2 11
  if field = 0 then ⟨fraction, -1074⟩ else ⟨hidden + fraction, (field : Int) - 1075⟩

/-- The fraction read from the digits before and behind the point times a power of
ten, unless it is too large. Digits that are left of the whole part still count
as places; a digit behind the point may fit where one of them did not. -/
def ofDigits? (whole fraction : List Char) (exponent : Int) : Option Double :=
  let (n, places) := appendDigits 0 whole
  let (n, rest) := appendDigits n fraction
  let exponent := exponent + places.length + rest.length - fraction.length
  (scale? n.toUInt64.toFloat exponent).map ofFloat

/-! ## to decimal digits -/

/-- Four times the mantissa of what lies half way to the neighbour below, which
is nearer at a power of two. -/
def lower (d : Double) : Nat :=
  4 * d.mantissa - if d.mantissa = hidden ∧ -1074 < d.exponent then 1 else 2

/-- Four times the mantissa of what lies half way to the neighbour above. -/
def upper (d : Double) : Nat := 4 * d.mantissa + 2

/-- The multiple of `10 ^ exponent` that is nearest to the value, if it is no
further from it than half way to a neighbour; a place exactly half way belongs
to the even mantissa. -/
def nearest? (d : Double) (exponent : Int) : Option Nat :=
  let unit := Nat.pow 2 (d.exponent - 2).toNat * Nat.pow 10 (-exponent).toNat
  let step := Nat.pow 2 (2 - d.exponent).toNat * Nat.pow 10 exponent.toNat
  let n := 4 * d.mantissa * unit / step
  let rest := 4 * d.mantissa * unit % step
  let around := if 2 * rest < step ∨ (2 * rest = step ∧ n % 2 = 0) then [n, n + 1] else [n + 1, n]
  around.find? fun n =>
    if d.mantissa % 2 = 0 then d.lower * unit ≤ n * step ∧ n * step ≤ d.upper * unit
    else d.lower * unit < n * step ∧ n * step < d.upper * unit

/-- The fewest digits that stand for a value other than zero, and the power of
ten after them. The search starts above the first digit; 17 digits are enough. -/
def shortest? (d : Double) : Option (Nat × Int) :=
  let start := (d.mantissa.log2 + d.exponent + 1) * 30103 / 100000 + 1
  (List.range 20).findSome? fun (i : Nat) => (d.nearest? (start - i)).map fun n => (n, start - i)

end Double

end Conneg.Json
