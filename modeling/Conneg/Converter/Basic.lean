import Conneg.Codec.Basic
import Conneg.ConfigError
import Conneg.Resolver

/-!
# Conneg.Converter.Basic

Converters: a codec with the settings of content negotiation.

1. A new converter has the codec's own media types or given ones, reads the
   content type from its header without a default, is lenient and binary.
2. Strict matching needs supported types and a resolver
   (`Converter.WellConfigured`). Enabling it without them is refused, and so is
   taking the resolver from a strict converter.
3. A content type is acceptable if nothing is listed as supported, or if it has
   type and subtype of a supported one. One that cannot be resolved is acceptable
   to lenient converters only.
-/

namespace Conneg

/-- A codec with the settings of content negotiation. -/
structure Converter where
  codec : Codec
  /-- Supported media types, the preferred one first; none stands for all. -/
  supported : List MediaType
  /-- Finds the content type of messages. -/
  resolver : Option Resolver
  /-- Whether a content type that cannot be resolved is refused. -/
  strict : Bool
  /-- The preferred form of encoded payloads. -/
  form : SerializedForm

namespace Converter

/-- Strict matching has something to match, and a way to find it. -/
def WellConfigured (c : Converter) : Prop :=
  c.strict = true → c.supported ≠ [] ∧ c.resolver.isSome = true

/-! ## construction -/

/-- A converter with the given supported media types. -/
def ofTypes (codec : Codec) (supported : List MediaType) : Converter where
  codec := codec
  supported := supported
  resolver := some (HeaderResolver.toResolver ⟨none⟩)
  strict := false
  form := .binary

/-- A converter with the codec's own media types. -/
def ofCodec (codec : Codec) : Converter := ofTypes codec codec.mediaTypes

/-! ## configuration

A setter changes a converter in place: it gives its answer together with the
converter as it is afterwards. A builder takes the converter, and gives it back
unless it refuses. -/

/-- Replaces the resolver, or takes it away. -/
def setResolver (c : Converter) (resolver : Option Resolver) :
    Except ConfigError Unit × Converter :=
  if resolver.isNone && c.strict then (.error .strictWithoutResolver, c)
  else (.ok (), { c with resolver := resolver })

/-- Replaces the resolver. -/
def withResolver (c : Converter) (resolver : Resolver) : Converter :=
  { c with resolver := some resolver }

/-- Turns strict matching on or off. -/
def setStrict (c : Converter) (strict : Bool) : Except ConfigError Unit × Converter :=
  if strict && c.supported.isEmpty then (.error .strictWithoutTypes, c)
  else if strict && c.resolver.isNone then (.error .strictWithoutResolver, c)
  else (.ok (), { c with strict := strict })

/-- Sets the preferred form of encoded payloads. -/
def setForm (c : Converter) (form : SerializedForm) : Converter := { c with form := form }

/-- The converter after a setter, unless the setter refused. -/
def unlessRefused : Except ConfigError Unit × Converter → Except ConfigError Converter
  | (.ok (), c) => .ok c
  | (.error e, _) => .error e

/-- The builder form of `setStrict`. -/
def withStrict (c : Converter) (strict : Bool) : Except ConfigError Converter :=
  unlessRefused (c.setStrict strict)

/-- The builder form of `setForm`. -/
def withForm (c : Converter) (form : SerializedForm) : Converter := { c with form := form }

/-- A builder gives the converter of its setter, if the setter succeeds. -/
theorem unlessRefused_eq_ok {x : Except ConfigError Unit × Converter} {c : Converter} :
    unlessRefused x = .ok c ↔ x = (.ok (), c) := by
  obtain ⟨answer, d⟩ := x
  cases answer <;> simp [unlessRefused]

/-- A builder fails with the error of its setter. -/
theorem unlessRefused_eq_error {x : Except ConfigError Unit × Converter} {e : ConfigError} :
    unlessRefused x = .error e ↔ x.1 = .error e := by
  obtain ⟨answer, d⟩ := x
  cases answer <;> simp [unlessRefused]

/-! ## what configuration keeps -/

/-- A new converter is lenient, so nothing is asked of it. -/
theorem wellConfigured_ofTypes (codec : Codec) (supported : List MediaType) :
    (ofTypes codec supported).WellConfigured := by
  simp [WellConfigured, ofTypes]

/-- A strict converter keeps a resolver. -/
theorem WellConfigured.setResolver {c : Converter} (resolver : Option Resolver)
    (h : c.WellConfigured) : (c.setResolver resolver).2.WellConfigured := by
  unfold Converter.setResolver
  split
  · exact h
  · next hn =>
    intro hs
    exact ⟨(h hs).1, by cases resolver <;> simp_all⟩

/-- Replacing the resolver does not take it away. -/
theorem WellConfigured.withResolver {c : Converter} (resolver : Resolver)
    (h : c.WellConfigured) : (c.withResolver resolver).WellConfigured :=
  fun hs => ⟨(h hs).1, rfl⟩

/-- Strict matching is turned on only where its needs are met. -/
theorem WellConfigured.setStrict {c : Converter} (strict : Bool) (h : c.WellConfigured) :
    (c.setStrict strict).2.WellConfigured := by
  unfold Converter.setStrict
  split
  · exact h
  · split
    · exact h
    · intro hs
      cases strict <;> simp_all [Option.isSome_iff_ne_none]

/-- The form has no part in matching. -/
theorem WellConfigured.setForm {c : Converter} (form : SerializedForm)
    (h : c.WellConfigured) : (c.setForm form).WellConfigured := h

theorem WellConfigured.withForm {c : Converter} (form : SerializedForm)
    (h : c.WellConfigured) : (c.withForm form).WellConfigured := h

/-! ## negotiation -/

/-- The content type of a message with these headers, if it is resolved. -/
def resolve (c : Converter) (headers : Option HeaderMap) : Logged (Option MediaType) :=
  match c.resolver with
  | none => pure none
  | some r => r.resolve headers

/-- Whether the resolved content type is acceptable. -/
def acceptsType (c : Converter) : Option MediaType → Bool
  | none => !c.strict
  | some m => c.supported.any (·.sameKind m)

/-- Whether the content type of a message with these headers is acceptable. The
resolver is not asked when every type is. -/
def accepts (c : Converter) (headers : Option HeaderMap) : Logged Bool :=
  if c.supported.isEmpty then pure true
  else return c.acceptsType (← c.resolve headers)

/-- Whether a message is decoded into a target type; the type is checked first. -/
def canDecode (c : Converter) (m : Message) (target : PayloadType) : Logged Bool :=
  if c.codec.supports target then c.accepts (some m.headers.map) else pure false

/-- Whether a payload is encoded under these headers; the type is checked first. -/
def canEncode (c : Converter) (p : Payload) (headers : Option HeaderMap) : Logged Bool :=
  if c.codec.supports p.type then c.accepts headers else pure false

/-- The content type that is given to an encoded payload. -/
def defaultContentType (c : Converter) (encoded : Payload) : Option MediaType :=
  c.codec.defaultContentType encoded c.supported

end Converter

end Conneg
