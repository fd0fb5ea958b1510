import Conneg.MediaType.Basic
import Conneg.SerializedForm
import Conneg.Text.Quoted

/-!
# Conneg.ConfigError

Why a configuration is refused. Each text ends with a line feed.
-/

namespace Conneg

open Text

/-- Why a configuration is refused. -/
inductive ConfigError where
  /-- Strict matching with an empty list of supported media types. -/
  | strictWithoutTypes
  /-- Strict matching without a resolver. -/
  | strictWithoutResolver
  /-- A text that names no serialized form. -/
  | invalidForm (value : String)
  /-- A text that is no media type. -/
  | invalidType (value : String) (error : MediaType.ParseError)
  deriving DecidableEq

namespace ConfigError

def message (e : ConfigError) : String :=
  (match e with
    | strictWithoutTypes =>
        "Strict match requires a non-empty list of supported MIME types"
    | strictWithoutResolver => "Strict match requires a content type resolver"
    | invalidForm value => "Serialized form must be binary or text: " ++ value
    | invalidType value error =>
        "Invalid MIME type " ++ String.ofList (quote value.toList) ++ ": " ++ error.message) ++ "\n"

/-- The text of the failure behind an error, if there is one. -/
def source? : ConfigError → Option String
  | invalidType _ error => some error.message
  | strictWithoutTypes | strictWithoutResolver | invalidForm _ => none

end ConfigError

/-- Reads a serialized form from a configuration text. -/
def SerializedForm.parse (s : String) : Except ConfigError SerializedForm :=
  match SerializedForm.parse? s with
  | some form => .ok form
  | none => .error (.invalidForm s)

/-- Reads a media type from a configuration text. -/
def MediaType.configured (s : String) : Except ConfigError MediaType :=
  match MediaType.parse s with
  | .ok m => .ok m
  | .error e => .error (.invalidType s e)

end Conneg
