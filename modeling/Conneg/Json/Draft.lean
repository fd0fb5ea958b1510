import Conneg.Json.Basic

/-!
# Conneg.Json.Draft

A JSON text as far as it can be read.

1. A draft holds what a reader meets in text order, so that the first problem
   of a text is found by walking its draft from the left, whether it is one of
   form or one of content.
2. Reading stops at the first error of form: in the place of a value stands
   `malformed`, and the arrays and objects around it are not `closed`.
3. `value?` gives the value of a draft without errors of form. Of members with
   one key the last one counts.
4. `ofJson` is the draft of a value: nothing is malformed, everything closed.
-/

namespace Conneg.Json

/-- A JSON text as far as it can be read. -/
inductive Draft where
  /-- No value can be read here. -/
  | malformed
  | null
  | boolean (b : Bool)
  | number (n : Number)
  | string (s : String)
  /-- The items up to the closing bracket, or up to an error of form. -/
  | array (items : List Draft) (closed : Bool)
  /-- The members up to the closing brace, or up to an error of form. -/
  | object (members : List (String × Draft)) (closed : Bool)

namespace Draft

/-- Whether reading got past this draft. -/
def isWhole : Draft → Bool
  | malformed => false
  | array _ closed | object _ closed => closed
  | null | boolean _ | number _ | string _ => true

/-! ## values -/

mutual
/-- The draft of a value. -/
def ofJson : Json → Draft
  | .null => null
  | .boolean b => boolean b
  | .number n => number n
  | .string s => string s
  | .array items => array (ofItems items) true
  | .object members => object (ofMembers members) true

/-- The drafts of values. -/
def ofItems : List Json → List Draft
  | [] => []
  | v :: vs => ofJson v :: ofItems vs

/-- The drafts of members. -/
def ofMembers : List (String × Json) → List (String × Draft)
  | [] => []
  | (k, v) :: es => (k, ofJson v) :: ofMembers es
end

mutual
/-- The value of a draft without errors of form. -/
def value? : Draft → Option Json
  | malformed => none
  | null => some .null
  | boolean b => some (.boolean b)
  | number n => some (.number n)
  | string s => some (.string s)
  | array items closed => if closed then (itemValues? items).map .array else none
  | object members closed => if closed then (memberValues? members).map .object else none

/-- The values of drafts. -/
def itemValues? : List Draft → Option (List Json)
  | [] => some []
  | d :: ds =>
      match d.value?, itemValues? ds with
      | some v, some vs => some (v :: vs)
      | _, _ => none

/-- The values of members, in key order. -/
def memberValues? : List (String × Draft) → Option (List (String × Json))
  | [] => some []
  | (k, d) :: es =>
      match d.value?, memberValues? es with
      | some v, some vs => some (if (Entries.lookup k vs).isSome then vs else Entries.insert k v vs)
      | _, _ => none
end

end Draft

end Conneg.Json
