import Conneg.Text.Ascii
import Conneg.Text.Blank

/-!
# Conneg.SerializedForm

The form in which a payload is serialized: bytes or text. A form is read from
one of its names; outer blanks and letter case do not count.
-/

namespace Conneg

open Text

/-- The preferred form of an encoded payload. -/
inductive SerializedForm where
  /-- Payloads of bytes; the default. -/
  | binary
  /-- Payloads of text. -/
  | text
  deriving DecidableEq

namespace SerializedForm

instance : Inhabited SerializedForm := ⟨binary⟩

/-- The name that is written. -/
def name : SerializedForm → String
  | binary => "binary"
  | text => "text"

/-- Reads a form from its name or from its other name, `bytes` or `string`. -/
def parse? (s : String) : Option SerializedForm :=
  let word := String.ofList (lower (trim s.toList))
  if word = "binary" ∨ word = "bytes" then some binary
  else if word = "text" ∨ word = "string" then some text
  else none

/-- A form is read from its name. -/
theorem parse?_name (f : SerializedForm) : parse? f.name = some f := by
  cases f <;> decide

end SerializedForm

end Conneg
