import Conneg.Header.Map
import Conneg.Logged

/-!
# Conneg.Resolver

Finding the content type of a message from its headers.

1. A resolver answers with a media type or with none; whether none is
   acceptable is for the converter to decide.
2. `HeaderResolver` reads the `contentType` header. A missing or null header
   gives the default. Any other value that is no text of a media type gives
   none, never the default, and is warned about.
-/

namespace Conneg

/-- A way to find the content type of a message from its headers, if it has any. -/
structure Resolver where
  resolve : Option HeaderMap → Logged (Option MediaType)

namespace Resolver

/-- Always the same answer. -/
def constant (answer : Option MediaType) : Resolver := ⟨fun _ => pure answer⟩

/-- Reads the media type that a header holds as text; all else gives none. -/
def ofHeader (name : String) : Resolver :=
  ⟨fun headers => pure do
    let raw ← (← (← headers).get? name).string?
    (MediaType.parse raw).toOption⟩

end Resolver

/-- Reads the `contentType` header, with a default for messages without one. -/
structure HeaderResolver where
  default? : Option MediaType
  deriving DecidableEq

namespace HeaderResolver

/-- What the value of a content type header stands for. -/
def resolveValue (r : HeaderResolver) : Json → Logged (Option MediaType)
  | .null => pure r.default?
  | .string raw =>
      match MediaType.parse raw with
      | .ok m => pure (some m)
      | .error e => do
          Logged.log (.unreadableContentType e raw)
          return none
  | value => do
      Logged.log (.contentTypeNotText value)
      return none

/-- The content type of a message with these headers. -/
def resolve (r : HeaderResolver) (headers : Option HeaderMap) : Logged (Option MediaType) :=
  match headers.bind (·.get? contentTypeName) with
  | none => pure r.default?
  | some value => r.resolveValue value

/-- The resolver as one among others. -/
def toResolver (r : HeaderResolver) : Resolver := ⟨r.resolve⟩

end HeaderResolver

end Conneg
