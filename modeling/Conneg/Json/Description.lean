import Conneg.Json.Basic
import Conneg.Text.Quoted

/-!
# Conneg.Json.Description

The diagnostic text of a value: it names the kind of every value inside, as in
`Array [String("x"), Null]` and `Object {"a": Number(1)}`.
-/

namespace Conneg.Json

open Text

mutual
/-- Describes a value. -/
def describe : Json → List Char
  | null => "Null".toList
  | boolean b => "Bool(".toList ++ (if b then "true".toList else "false".toList) ++ [')']
  | number n => "Number(".toList ++ n.text ++ [')']
  | string s => "String(".toList ++ quote s.toList ++ [')']
  | array items => "Array [".toList ++ describeItems items ++ [']']
  | object members => "Object ".toList ++ '{' :: describeMembers members ++ ['}']

/-- Describes values, separated by commas. -/
def describeItems : List Json → List Char
  | [] => []
  | [v] => describe v
  | v :: w :: vs => describe v ++ ", ".toList ++ describeItems (w :: vs)

/-- Describes members, separated by commas. -/
def describeMembers : List (String × Json) → List Char
  | [] => []
  | [(k, v)] => quote k.toList ++ ": ".toList ++ describe v
  | (k, v) :: e :: es =>
      quote k.toList ++ ": ".toList ++ describe v ++ ", ".toList ++ describeMembers (e :: es)
end

/-- The diagnostic text of a value. -/
def description (v : Json) : String := String.ofList v.describe

end Conneg.Json
