import Conneg.Json.Draft

/-!
# Conneg.Json.Reader

Reading JSON text.

1. `Draft.read` reads one value from the front of a text and gives the text
   after it. Numbers have no leading zeros, strings no raw control characters
   and no half of a surrogate pair.
2. `parse` reads a whole text: one value between blanks.
-/

namespace Conneg.Json

/-! ## characters -/

/-- Blanks between the parts of a JSON text. -/
def isBlank (c : Char) : Bool := c == ' ' || c == '\t' || c == '\n' || c == '\r'

def dropBlanks (s : List Char) : List Char := s.dropWhile isBlank

/-- The value of a hexadecimal digit. -/
def hexDigit? (c : Char) : Option Nat :=
  if '0' ≤ c ∧ c ≤ '9' then some (c.toNat - 48)
  else if 'a' ≤ c ∧ c ≤ 'f' then some (c.toNat - 87)
  else if 'A' ≤ c ∧ c ≤ 'F' then some (c.toNat - 55)
  else none

/-- The number that four hexadecimal digits stand for. -/
def hexUnit? (a b c d : Char) : Option Nat := do
  return (((← hexDigit? a) * 16 + (← hexDigit? b)) * 16 + (← hexDigit? c)) * 16 + (← hexDigit? d)

/-- The character that a backslash and this character stand for. -/
def unescape? (c : Char) : Option Char :=
  if c == '"' || c == '\\' || c == '/' then some c
  else if c == 'b' then some '\x08'
  else if c == 'f' then some '\x0c'
  else if c == 'n' then some '\n'
  else if c == 'r' then some '\r'
  else if c == 't' then some '\t'
  else none

/-- The character of two surrogates. -/
def ofSurrogates (high low : Nat) : Char :=
  Char.ofNat (0x10000 + (high - 0xD800) * 0x400 + (low - 0xDC00))

/-! ## strings -/

/-- Reads a string from behind its opening quote, up to the closing one. -/
def readString? : List Char → Option (List Char × List Char)
  | '"' :: s => some ([], s)
  | '\\' :: 'u' :: a :: b :: c :: d :: s =>
      match hexUnit? a b c d with
      | none => none
      | some u =>
          if 0xD800 ≤ u ∧ u < 0xDC00 then
            match s with
            | '\\' :: 'u' :: e :: f :: g :: h :: s =>
                match hexUnit? e f g h with
                | none => none
                | some v =>
                    if 0xDC00 ≤ v ∧ v < 0xE000 then
                      (readString? s).map fun (t, rest) => (ofSurrogates u v :: t, rest)
                    else none
            | _ => none
          else if 0xDC00 ≤ u ∧ u < 0xE000 then none
          else (readString? s).map fun (t, rest) => (Char.ofNat u :: t, rest)
  | '\\' :: c :: s =>
      match unescape? c with
      | none => none
      | some e => (readString? s).map fun (t, rest) => (e :: t, rest)
  | c :: s =>
      if c.toNat < 0x20 || c == '\\' then none
      else (readString? s).map fun (t, rest) => (c :: t, rest)
  | [] => none

/-! ## numbers -/

/-- Splits off the decimal digits in front. -/
def splitDigits (s : List Char) : List Char × List Char :=
  (s.takeWhile Char.isDigit, s.dropWhile Char.isDigit)

/-- Reads the point and the digits after it; without a point there are none. -/
def readFraction? (s : List Char) : Option (List Char × List Char) :=
  match s with
  | '.' :: s =>
      match splitDigits s with
      | ([], _) => none
      | (ds, rest) => some (ds, rest)
  | s => some ([], s)

/-- Splits off a sign; `true` stands for minus. -/
def splitSign : List Char → Bool × List Char
  | '-' :: s => (true, s)
  | '+' :: s => (false, s)
  | s => (false, s)

/-- Reads an exponent, if there is one. -/
def readExponent? (s : List Char) : Option (Option Int × List Char) :=
  match s with
  | c :: t =>
      if c == 'e' || c == 'E' then
        let (negative, t) := splitSign t
        match splitDigits t with
        | ([], _) => none
        | (ds, rest) =>
            let n : Int := Number.ofDigits ds
            some (some (if negative then -n else n), rest)
      else some (none, s)
  | [] => some (none, [])

/-- Reads a number. -/
def readNumber? (s : List Char) : Option (Number × List Char) := do
  let (negative, s) := match s with
    | '-' :: s => (true, s)
    | s => (false, s)
  let (whole, s) := splitDigits s
  if whole = [] ∨ (whole.head? = some '0' ∧ whole ≠ ['0']) then none
  let (fraction, s) ← readFraction? s
  let (exponent, s) ← readExponent? s
  let number ← if fraction = [] ∧ exponent = none then Number.ofInteger? negative whole
    else Number.ofDecimal? negative whole fraction (exponent.getD 0)
  return (number, s)

/-! ## values -/

mutual
/-- Reads a value; `fuel` bounds the number of steps. -/
def readValue (fuel : Nat) (s : List Char) : Draft × List Char :=
  match fuel with
  | 0 => (.malformed, s)
  | fuel + 1 =>
      match dropBlanks s with
      | 'n' :: 'u' :: 'l' :: 'l' :: s => (.null, s)
      | 't' :: 'r' :: 'u' :: 'e' :: s => (.boolean true, s)
      | 'f' :: 'a' :: 'l' :: 's' :: 'e' :: s => (.boolean false, s)
      | '"' :: s =>
          match readString? s with
          | some (t, rest) => (.string (String.ofList t), rest)
          | none => (.malformed, s)
      | '[' :: s =>
          match dropBlanks s with
          | ']' :: s => (.array [] true, s)
          | s =>
              let (items, closed, rest) := readItems fuel s
              (.array items closed, rest)
      | '{' :: s =>
          match dropBlanks s with
          | '}' :: s => (.object [] true, s)
          | s =>
              let (members, closed, rest) := readMembers fuel s
              (.object members closed, rest)
      | s =>
          match readNumber? s with
          | some (n, rest) => (.number n, rest)
          | none => (.malformed, s)

/-- Reads the items of an array, at least one, and its closing bracket. -/
def readItems (fuel : Nat) (s : List Char) : List Draft × Bool × List Char :=
  match fuel with
  | 0 => ([], false, s)
  | fuel + 1 =>
      let (item, s) := readValue fuel s
      if item.isWhole then
        match dropBlanks s with
        | ']' :: s => ([item], true, s)
        | ',' :: s =>
            let (items, closed, rest) := readItems fuel s
            (item :: items, closed, rest)
        | s => ([item], false, s)
      else ([item], false, s)

/-- Reads the members of an object, at least one, and its closing brace. -/
def readMembers (fuel : Nat) (s : List Char) : List (String × Draft) × Bool × List Char :=
  match fuel with
  | 0 => ([], false, s)
  | fuel + 1 =>
      match dropBlanks s with
      | '"' :: s =>
          match readString? s with
          | none => ([], false, s)
          | some (key, s) =>
              let key := String.ofList key
              match dropBlanks s with
              | ':' :: s =>
                  let (value, s) := readValue fuel s
                  if value.isWhole then
                    match dropBlanks s with
                    | '}' :: s => ([(key, value)], true, s)
                    | ',' :: s =>
                        let (members, closed, rest) := readMembers fuel s
                        ((key, value) :: members, closed, rest)
                    | s => ([(key, value)], false, s)
                  else ([(key, value)], false, s)
              | s => ([(key, .malformed)], false, s)
      | s => ([], false, s)
end

/-- Reads a value from the front of a text. Twice the length of the text bounds
the number of steps: each opens, ends or follows something of the text. -/
def Draft.read (s : List Char) : Draft × List Char := readValue (2 * s.length + 2) s

/-- The value of a whole text. -/
def parse (s : String) : Option Json :=
  let (draft, rest) := Draft.read s.toList
  if dropBlanks rest = [] then draft.value? else none

end Conneg.Json
