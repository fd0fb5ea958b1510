import Conneg.Entries
import Conneg.Json.Number

/-!
# Conneg.Json.Basic

JSON values. The members of an object stand in strictly increasing key order
(`Json.Ordered`), so equal objects are equal lists. Two values are the same apart
from signs of zeros exactly if they have one `Json.canonical` form.
-/

namespace Conneg

/-- A JSON value. -/
inductive Json where
  | null
  | boolean (b : Bool)
  | number (n : Json.Number)
  | string (s : String)
  | array (items : List Json)
  | object (members : List (String × Json))

namespace Json

/-! ## equality -/

mutual
/-- Decides equality of values. -/
def decEq : (a b : Json) → Decidable (a = b)
  | null, null => isTrue rfl
  | boolean a, boolean b => decidable_of_iff (a = b) (by simp)
  | number a, number b => decidable_of_iff (a = b) (by simp)
  | string a, string b => decidable_of_iff (a = b) (by simp)
  | array a, array b =>
      have := decEqItems a b
      decidable_of_iff (a = b) (by simp)
  | object a, object b =>
      have := decEqMembers a b
      decidable_of_iff (a = b) (by simp)
  | null, boolean _ | null, number _ | null, string _ | null, array _ | null, object _
  | boolean _, null | boolean _, number _ | boolean _, string _ | boolean _, array _
  | boolean _, object _ | number _, null | number _, boolean _ | number _, string _
  | number _, array _ | number _, object _ | string _, null | string _, boolean _
  | string _, number _ | string _, array _ | string _, object _ | array _, null
  | array _, boolean _ | array _, number _ | array _, string _ | array _, object _
  | object _, null | object _, boolean _ | object _, number _ | object _, string _
  | object _, array _ => isFalse (by simp)

/-- Decides equality of lists of values. -/
def decEqItems : (a b : List Json) → Decidable (a = b)
  | [], [] => isTrue rfl
  | [], _ :: _ => isFalse (by simp)
  | _ :: _, [] => isFalse (by simp)
  | x :: xs, y :: ys =>
      have := decEq x y
      have := decEqItems xs ys
      decidable_of_iff (x = y ∧ xs = ys) (by simp)

/-- Decides equality of lists of members. -/
def decEqMembers : (a b : List (String × Json)) → Decidable (a = b)
  | [], [] => isTrue rfl
  | [], _ :: _ => isFalse (by simp)
  | _ :: _, [] => isFalse (by simp)
  | (j, x) :: xs, (k, y) :: ys =>
      have := decEq x y
      have := decEqMembers xs ys
      decidable_of_iff ((j = k ∧ x = y) ∧ xs = ys) (by simp)
end

instance : DecidableEq Json := decEq

/-! ## ordered values -/

mutual
/-- The members of every object inside the value stand in key order. -/
def Ordered : Json → Prop
  | array items => OrderedItems items
  | object members => Entries.Ordered members ∧ OrderedMembers members
  | null | boolean _ | number _ | string _ => True

/-- Every value of the list is ordered. -/
def OrderedItems : List Json → Prop
  | [] => True
  | v :: vs => Ordered v ∧ OrderedItems vs

/-- Every member's value is ordered. -/
def OrderedMembers : List (String × Json) → Prop
  | [] => True
  | (_, v) :: es => Ordered v ∧ OrderedMembers es
end

/-! ## canonical form -/

mutual
/-- The value with every number inside in canonical form. -/
def canonical : Json → Json
  | number n => number n.canonical
  | array items => array (canonicalItems items)
  | object members => object (canonicalMembers members)
  | null => null
  | boolean b => boolean b
  | string s => string s

/-- The values of the list in canonical form. -/
def canonicalItems : List Json → List Json
  | [] => []
  | v :: vs => canonical v :: canonicalItems vs

/-- The members with their values in canonical form. -/
def canonicalMembers : List (String × Json) → List (String × Json)
  | [] => []
  | (k, v) :: es => (k, canonical v) :: canonicalMembers es
end

/-! ## parts -/

/-- The integer written without a fraction. -/
def integer (n : Int) : Json := number (.integer n)

/-- The text of a string value. -/
def string? : Json → Option String
  | string s => some s
  | _ => none

end Json

end Conneg
