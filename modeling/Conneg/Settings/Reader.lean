import Conneg.Json.Reader
import Conneg.Settings.Basic
import Conneg.Text.Quoted

/-!
# Conneg.Settings.Reader

Reading settings, media types and forms from JSON.

1. Settings are an object with fields of four names, each at most once, or an
   array of at most four values in the order of `Field`. Absent fields keep
   their initial value; `null` stands for none, where a field may be none.
2. Fields are read in the order in which the draft lists them, and the first
   error ends the reading: an unknown or repeated name before the value under
   it, and an error of form only when it is reached.
3. `ofJson` reads a value, whose fields stand in key order, and `ofText` a text.
   They differ in one point: a fifth value of an array is an error of its own
   in a value, and an error of form in a text.
-/

namespace Conneg

open Text

/-! ## errors -/

/-- The fields of settings, in the order of an array. -/
inductive Field where
  | supported
  | strict
  | form
  | defaultType
  deriving DecidableEq

namespace Field

def name : Field → String
  | supported => "supported_mime_types"
  | strict => "strict_content_type_match"
  | form => "serialized_form"
  | defaultType => "default_content_type"

/-- All fields, in order. -/
def all : List Field := [supported, strict, form, defaultType]

/-- The field of a name. -/
def ofName? (s : String) : Option Field := all.find? fun f => f.name == s

end Field

/-- What is expected in some place. -/
inductive Expected where
  | text
  | boolean
  | sequence
  | settings
  deriving DecidableEq

def Expected.description : Expected → String
  | text => "a string"
  | boolean => "a boolean"
  | sequence => "a sequence"
  | settings => "struct ConverterSettings"

/-- What is found in place of it. -/
inductive Found where
  | null
  | boolean (b : Bool)
  | number (n : Json.Number)
  | text (s : String)
  | sequence
  | map
  deriving DecidableEq

def Found.description : Found → String
  | null => "null"
  | boolean b => "boolean `" ++ (if b then "true" else "false") ++ "`"
  | number n =>
      (match n with
        | .integer _ => "integer `"
        | .decimal _ _ _ => "floating point `") ++ String.ofList n.text ++ "`"
  | text s => "string " ++ String.ofList (quote s.toList)
  | sequence => "sequence"
  | map => "map"

/-- Why JSON cannot be read as what it should be. -/
inductive DataError where
  /-- The text is no JSON text here. -/
  | malformed
  /-- A value of another kind. -/
  | unexpected (found : Found) (expected : Expected)
  /-- A field of another name. -/
  | unknownField (name : String)
  /-- A field that was read before. -/
  | duplicateField (field : Field)
  /-- An array of this many values, which are too many. -/
  | surplus (length : Nat)
  /-- A text that is no media type. -/
  | mediaType (error : MediaType.ParseError)
  /-- A text that names no form. -/
  | config (error : ConfigError)
  deriving DecidableEq

/-- The text of an error of content; an error of form has none. -/
def DataError.message? : DataError → Option String
  | malformed => none
  | unexpected found expected =>
      some ("invalid type: " ++ found.description ++ ", expected " ++ expected.description)
  | unknownField name =>
      let known := Field.all.map fun f => "`" ++ f.name ++ "`"
      some ("unknown field `" ++ name ++ "`, expected one of " ++ ", ".intercalate known)
  | duplicateField field => some ("duplicate field `" ++ field.name ++ "`")
  | surplus length =>
      some ("invalid length " ++ toString length ++ ", expected fewer elements in array")
  | mediaType error => some error.message
  | config error => some error.message

/-! ## single values -/

namespace Json.Draft

/-- The error of finding this where something else is expected. -/
def refuse {α : Type} (d : Draft) (expected : Expected) : Except DataError α :=
  match d with
  | malformed => .error .malformed
  | null => .error (.unexpected .null expected)
  | boolean b => .error (.unexpected (.boolean b) expected)
  | number n => .error (.unexpected (.number n) expected)
  | string s => .error (.unexpected (.text s) expected)
  | array _ _ => .error (.unexpected .sequence expected)
  | object _ _ => .error (.unexpected .map expected)

/-- Reads a text. -/
def text : Draft → Except DataError String
  | string s => .ok s
  | d => d.refuse .text

/-- Reads a truth value. -/
def truth : Draft → Except DataError Bool
  | boolean b => .ok b
  | d => d.refuse .boolean

/-- Reads a media type from its text. -/
def mediaType (d : Draft) : Except DataError MediaType := do
  match MediaType.parse (← d.text) with
  | .ok m => return m
  | .error e => throw (.mediaType e)

/-- Reads a serialized form from its name. -/
def form (d : Draft) : Except DataError SerializedForm := do
  match SerializedForm.parse (← d.text) with
  | .ok f => return f
  | .error e => throw (.config e)

/-- Reads a list of media types. -/
def mediaTypes : Draft → Except DataError (List MediaType)
  | array items closed => do
      let types ← items.mapM mediaType
      if closed then return types else throw .malformed
  | d => d.refuse .sequence

/-- Reads `null` as none. -/
def optional {α : Type} (read : Draft → Except DataError α) : Draft → Except DataError (Option α)
  | null => .ok none
  | d => some <$> read d

end Json.Draft

/-! ## settings -/

open Json (Draft)

namespace Settings

/-- Reads one field. -/
def readField (s : Settings) (d : Draft) : Field → Except DataError Settings
  | .supported => return { s with supported := ← d.optional Draft.mediaTypes }
  | .strict => return { s with strict := ← d.truth }
  | .form => return { s with form := ← d.form }
  | .defaultType => return { s with defaultType := ← d.optional Draft.mediaType }

/-- Reads members; `seen` lists the fields that were read before. -/
def readMembers (s : Settings) (seen : List Field) :
    List (String × Draft) → Except DataError Settings
  | [] => .ok s
  | (name, d) :: members =>
      match Field.ofName? name with
      | none => .error (.unknownField name)
      | some field =>
          if field ∈ seen then .error (.duplicateField field)
          else do readMembers (← s.readField d field) (field :: seen) members

/-- Reads values by position; those after the last field are left. -/
def readItems (s : Settings) : List Field → List Draft → Except DataError Settings
  | field :: fields, d :: items => do readItems (← s.readField d field) fields items
  | _, _ => .ok s

/-- Reads settings. -/
def ofDraft : Draft → Except DataError Settings
  | .object members closed => do
      let s ← initial.readMembers [] members
      if closed then return s else throw .malformed
  | .array items closed => do
      let s ← initial.readItems Field.all items
      if Field.all.length < items.length then throw (.surplus items.length)
      else if closed then return s else throw .malformed
  | d => d.refuse .settings

/-- Reads settings from a value. -/
def ofJson (v : Json) : Except DataError Settings := ofDraft (.ofJson v)

/-- Reads settings from a text. -/
def ofText (text : String) : Except DataError Settings :=
  let (draft, rest) := Draft.read text.toList
  match ofDraft draft with
  | .error (.surplus _) => .error .malformed
  | .error e => .error e
  | .ok s => if Json.dropBlanks rest = [] then .ok s else .error .malformed

end Settings

/-- Reads a media type from a value. -/
def MediaType.ofJson (v : Json) : Except DataError MediaType := (Draft.ofJson v).mediaType

/-- Reads a serialized form from a value. -/
def SerializedForm.ofJson (v : Json) : Except DataError SerializedForm := (Draft.ofJson v).form

end Conneg
