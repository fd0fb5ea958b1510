import Conneg.MediaType.Reader
import Conneg.Text.Hex
import Conneg.Text.Utf8

/-!
# Conneg.MediaType.Basic

Media types such as `text/plain; charset=utf-8`.

1. `parse` trims a text and reads it; the media type is the normal form of what
   was read, and `text` writes it.
2. `type` and `subtype` are the parts before the parameters. A suffix such as
   `+json` is no part of `subtype`: it starts at the last `+` that is not the
   first character.
3. `params` lists the parameters. When others follow a leading `charset=utf-8`,
   its value is given as the first five characters written, so a quoted one
   starts with the quote.
4. `sameKind` compares type and subtype only.
-/

namespace Conneg

open Text

/-- A media type: a spelling in normal form without outer blanks. -/
structure MediaType where
  spelling : MediaType.Spelling
  wellFormed : spelling.WellFormed
  normal : spelling.normalise = spelling
  trimmed : Trimmed spelling.write
  deriving DecidableEq

namespace MediaType

/-! ## from spellings -/

/-- The media type that a spelling stands for. -/
def ofSpelling (s : Spelling) (h : s.WellFormed) (ht : Trimmed s.write) : MediaType where
  spelling := s.normalise
  wellFormed := h.normalise
  normal := s.normalise_normalise
  trimmed := trimmed_write_normalise h ht

/-- The type of a media type is in lowercase, as all of a normal form is. -/
theorem lower_type (m : MediaType) : lower m.spelling.type = m.spelling.type :=
  congrArg Spelling.type m.normal

/-- The subtype of a media type is in lowercase, suffix included. -/
theorem lower_subtype (m : MediaType) : lower m.spelling.subtype = m.spelling.subtype :=
  congrArg Spelling.subtype m.normal

@[simp] theorem spelling_ofSpelling (s : Spelling) (h : s.WellFormed) (ht : Trimmed s.write) :
    (ofSpelling s h ht).spelling = s.normalise := rfl

/-- The media type `type/subtype` without parameters. -/
def plain (type subtype : List Char) (ht : type ≠ []) (htype : type.all isToken = true)
    (hsubtype : subtype.all isToken = true) : MediaType :=
  have h : Spelling.WellFormed ⟨type, subtype, [], false⟩ :=
    ⟨ht, List.all_eq_true.1 htype, by simp, List.all_eq_true.1 hsubtype,
      paramsWellFormed_nil false⟩
  ofSpelling ⟨type, subtype, [], false⟩ h
    (by simpa [Spelling.write, writeParams] using trimmed_essence h)

/-- The media type `application/subtype` without parameters. -/
def application (subtype : List Char) (h : subtype.all isToken = true) : MediaType :=
  plain "application".toList subtype (by decide) (by decide) h

/-- `application/json` -/
def applicationJson : MediaType := application "json".toList (by decide)

/-- `application/octet-stream` -/
def applicationOctetStream : MediaType := application "octet-stream".toList (by decide)

/-- `text/plain` -/
def textPlain : MediaType :=
  plain "text".toList "plain".toList (by decide) (by decide) (by decide)

/-- The parameter ` charset=utf-8`. -/
def charsetUtf8 : Param := ⟨1, charset, .bare "utf-8".toList⟩

theorem wellFormed_charsetUtf8 : charsetUtf8.WellFormed :=
  ⟨by decide, List.all_eq_true.1 (by decide),
    List.all_eq_true (l := "utf-8".toList) (p := isToken) |>.1 (by decide)⟩

/-- `text/plain; charset=utf-8` -/
def textPlainUtf8 : MediaType :=
  ofSpelling ⟨"text".toList, "plain".toList, [charsetUtf8], false⟩
    ⟨by decide, List.all_eq_true.1 (by decide), by decide, List.all_eq_true.1 (by decide),
      paramsWellFormed_singleton wellFormed_charsetUtf8⟩
    (trimmed_of_ends (c := 't') (d := '8') (by decide) (by decide) (by decide) (by decide))

/-! ## reading -/

/-- Why a text is no media type, in positions of its UTF-8 bytes. -/
inductive ParseError where
  | missingSlash
  | missingEqual
  | missingQuote
  /-- This byte, at this position, cannot stand where it is. -/
  | invalidToken (byte : UInt8) (position : Nat)
  deriving DecidableEq

/-- Says where in `text` a fault is, when the fault holds the text that remained. -/
def Fault.locate (text : List Char) : Fault → ParseError
  | missingSlash => .missingSlash
  | missingEqual => .missingEqual
  | missingQuote => .missingQuote
  | unexpected rest =>
      .invalidToken ((Utf8.encode rest).headD 0) (Utf8.size text - Utf8.size rest)

/-- Reads a media type from a text, whose outer blanks do not count. -/
def parse (s : String) : Except ParseError MediaType :=
  let text := trim s.toList
  match h : Spelling.read text with
  | .error fault => .error (fault.locate text)
  | .ok r =>
      .ok (ofSpelling r (Spelling.read_sound h).1
        (by rw [(Spelling.read_sound h).2]; exact trimmed_trim _))

/-- The text of a parse error. -/
def ParseError.message (e : ParseError) : String :=
  "mime parse error: " ++ match e with
    | missingSlash => "a slash (/) was missing between the type and subtype"
    | missingEqual => "an equals sign (=) was missing between a parameter and its value"
    | missingQuote => "a quote (\") was missing from a parameter value"
    | invalidToken byte position =>
        "an invalid token was encountered, " ++ String.ofList (hexUpper byte.toNat) ++
          " at position " ++ toString position

/-! ## parts -/

/-- The written media type. -/
def text (m : MediaType) : String := String.ofList m.spelling.write

/-- The type, such as `text`. -/
def type (m : MediaType) : String := String.ofList m.spelling.type

/-- The part of a text before its last `+`, if it has one. -/
def beforeLastPlus : List Char → Option (List Char)
  | [] => none
  | c :: s =>
      match beforeLastPlus s with
      | some t => some (c :: t)
      | none => if c = '+' then some [] else none

/-- A subtype without its suffix. -/
def withoutSuffix : List Char → List Char
  | [] => []
  | c :: s => c :: (beforeLastPlus s).getD s

/-- The subtype without its suffix, such as `plain`. -/
def subtype (m : MediaType) : String := String.ofList (withoutSuffix m.spelling.subtype)

/-- Whether the parameter is `charset=utf-8`, quoted or not, after one space. -/
def Param.isUtf8 (p : Param) : Bool :=
  p.lead == 1 && sameLetters p.name charset && sameLetters p.value.text "utf-8".toList

/-- Names and values of parameters. -/
def viewParams : List Param → List (List Char × List Char)
  | p :: q :: ps =>
      (p.name, if p.isUtf8 then p.value.write.take 5 else p.value.text) ::
        (q :: ps).map fun r => (r.name, r.value.text)
  | ps => ps.map fun r => (r.name, r.value.text)

/-- Names and values of the parameters, in order. -/
def params (m : MediaType) : List (String × String) :=
  (viewParams m.spelling.params).map fun (n, v) => (String.ofList n, String.ofList v)

/-- The value of the first parameter of that name; letter case does not count. -/
def param? (m : MediaType) (name : String) : Option String :=
  (m.params.find? fun p => sameLetters p.1.toList name.toList).map (·.2)

/-! ## comparing -/

/-- Whether two media types have the same type and subtype. Wildcards are plain
text, and parameters and suffixes do not count. -/
def sameKind (a b : MediaType) : Bool := a.type == b.type && a.subtype == b.subtype

/-- Parameters and suffixes have no part in the comparison. -/
theorem sameKind_iff {a b : MediaType} :
    a.sameKind b = true ↔ a.type = b.type ∧ a.subtype = b.subtype := by
  simp [sameKind]

@[simp] theorem sameKind_self (a : MediaType) : a.sameKind a = true := by
  simp [sameKind]

theorem sameKind_comm (a b : MediaType) : a.sameKind b = b.sameKind a := by
  simp [sameKind, Bool.beq_comm]

/-- A looser comparison than equality, and not a symmetric one. Without
parameters on the left, the texts agree up to letter case. So they do for a
left side whose only parameter is `charset=utf-8`, if the texts have one size.
Otherwise both have parameters, and type, subtype and the first parameter's
name are the same: values and further parameters do not count. -/
def looselyEq (a b : MediaType) : Bool :=
  let s := a.spelling
  let t := b.spelling
  match s.params with
  | [] => sameLetters s.write t.write
  | p :: ps =>
      if ps = [] ∧ p.isUtf8 ∧ Utf8.size s.write = Utf8.size t.write then
        sameLetters s.write t.write
      else
        s.essence == t.essence && t.params.head?.any fun q => p.name == q.name

end MediaType

end Conneg
