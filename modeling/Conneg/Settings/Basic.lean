import Conneg.Converter.Basic

/-!
# Conneg.Settings.Basic

Declarative settings of a converter.

1. Without a list of supported types, the codec's own are taken.
2. A default content type gives the converter a resolver with that default.
3. Settings are checked when a converter is built from them: strict matching of
   an empty list is refused.
4. Settings are compared field by field, and their media types loosely.
-/

namespace Conneg

/-- Settings of a converter. -/
structure Settings where
  /-- Supported media types; the codec's own when absent. -/
  supported : Option (List MediaType)
  /-- Whether messages whose content type cannot be resolved are refused. -/
  strict : Bool
  /-- The preferred form of encoded payloads. -/
  form : SerializedForm
  /-- The content type of messages without a content type header. -/
  defaultType : Option MediaType
  deriving DecidableEq

namespace Settings

/-- Nothing is set. -/
def initial : Settings := ⟨none, false, .binary, none⟩

instance : Inhabited Settings := ⟨initial⟩

/-- Settings that support the media types with these texts; the first text that
is none is an error. -/
def ofTypes (texts : List String) : Except ConfigError Settings := do
  let supported ← texts.mapM MediaType.configured
  return { initial with supported := some supported }

/-- The resolver that settings ask for, besides the one of every new converter. -/
def resolver? (s : Settings) : Option Resolver :=
  s.defaultType.map fun m => HeaderResolver.toResolver ⟨some m⟩

/-- Settings as a JSON object with all four fields. -/
def toJson (s : Settings) : Json :=
  let type : Option MediaType → Json := fun m => m.elim .null fun m => .string m.text
  .object
    [("default_content_type", type s.defaultType),
      ("serialized_form", .string s.form.name),
      ("strict_content_type_match", .boolean s.strict),
      ("supported_mime_types",
        s.supported.elim .null fun ms => .array (ms.map fun m => .string m.text))]

/-- Whether two values that may be missing compare: both are missing, or both are there
and compare. -/
def bothOrNeither {α : Type} (compare : α → α → Bool) : Option α → Option α → Bool
  | none, none => true
  | some a, some b => compare a b
  | none, some _ | some _, none => false

/-- Compares settings field by field, as loosely as `MediaType.looselyEq` compares their
media types. So it is not a symmetric comparison either. -/
def looselyEq (a b : Settings) : Bool :=
  bothOrNeither (fun ms ns => ms.isEqv ns MediaType.looselyEq) a.supported b.supported &&
    a.strict == b.strict && a.form == b.form &&
    bothOrNeither MediaType.looselyEq a.defaultType b.defaultType

/-- The converter that settings start from. -/
def start (codec : Codec) (s : Settings) : Converter :=
  match s.supported with
  | some types => .ofTypes codec types
  | none => .ofCodec codec

/-- That converter with the resolver that the settings ask for. -/
def resolved (codec : Codec) (s : Settings) : Except ConfigError Converter :=
  match s.resolver? with
  | some r => Converter.unlessRefused ((s.start codec).setResolver (some r))
  | none => .ok (s.start codec)

/-- The converter of a codec that settings describe, or why they are refused. -/
def build (codec : Codec) (s : Settings) : Except ConfigError Converter := do
  let c ← s.resolved codec
  let c ← c.withStrict s.strict
  return c.setForm s.form

end Settings

/-- Builds the converter that settings describe; only success is logged. -/
def Converter.ofSettings (codec : Codec) (s : Settings) : Logged (Except ConfigError Converter) :=
  match s.build codec with
  | .error e => pure (.error e)
  | .ok c => do
      Logged.log (.configured c.supported c.strict c.form)
      return .ok c

/-- What is logged when a converter is built does not concern the converter. -/
theorem Converter.value_ofSettings (codec : Codec) (s : Settings) :
    (ofSettings codec s).value = s.build codec := by
  unfold ofSettings
  cases s.build codec <;> rfl

end Conneg
