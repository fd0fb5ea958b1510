import Conneg.Codec.Text
import Conneg.Proofs.ReadBack

/-!
# Conneg.Proofs.Charset

The character set that headers name.

1. `HeaderMap.NamesCharset`: the content type is a text of a media type, and that
   media type has a `charset` parameter. This is what `Codec.charset?` finds.
2. `Codec.NamesUtf8`: the two names of UTF-8, in any letter case. Unless another
   character set is named (`Codec.utf8_or_foreign`), bytes are decoded as UTF-8.
3. A content type that was written names the character set of the media type that
   it was written from (`namesCharset_insert_iff`).
-/

namespace Conneg

open Text

/-- The content type of the headers names a character set. -/
def HeaderMap.NamesCharset (h : HeaderMap) (charset : String) : Prop :=
  ∃ raw type, h.get? contentTypeName = some (.string raw) ∧
    MediaType.parse raw = .ok type ∧ type.param? "charset" = some charset

namespace Codec

/-- A name of UTF-8. -/
def NamesUtf8 (charset : String) : Prop :=
  lower charset.toList = "utf-8".toList ∨ lower charset.toList = "utf8".toList

/-- The codec takes these two names for UTF-8, in any letter case, and no other one. -/
theorem isUtf8_iff {charset : String} : isUtf8 charset = true ↔ NamesUtf8 charset := by
  have hdash : lower "utf-8".toList = "utf-8".toList := by decide
  have hplain : lower "utf8".toList = "utf8".toList := by decide
  rw [isUtf8, Bool.or_eq_true, sameLetters_iff, sameLetters_iff, hdash, hplain, NamesUtf8]

theorem isUtf8_eq_false_iff {charset : String} :
    isUtf8 charset = false ↔ ¬ NamesUtf8 charset := by
  rw [← Bool.not_eq_true, isUtf8_iff]

/-- The codec finds the character set that the content type names. -/
theorem charset?_eq_some_iff {h : HeaderMap} {charset : String} :
    charset? h = some charset ↔ h.NamesCharset charset := by
  constructor
  · intro hc
    obtain ⟨type, htype, hparam⟩ := Option.bind_eq_some_iff.1 hc
    obtain ⟨value, hvalue, hraw⟩ := Option.bind_eq_some_iff.1 htype
    obtain ⟨raw, hstring, hparse⟩ := Option.bind_eq_some_iff.1 hraw
    cases value with
    | string s =>
      cases hstring
      cases hp : MediaType.parse raw with
      | error e =>
        rw [hp] at hparse
        cases hparse
      | ok type' =>
        rw [hp] at hparse
        cases hparse
        exact ⟨raw, type, hvalue, hp, hparam⟩
    | _ => cases hstring
  · rintro ⟨raw, type, hvalue, hparse, hparam⟩
    have htype : h.contentType? = some type := by
      unfold HeaderMap.contentType?
      rw [hvalue]
      show (MediaType.parse raw).toOption = some type
      rw [hparse]
      rfl
    rw [charset?, htype, Option.bind_some, hparam]

/-- Either no other character set than UTF-8 is named, or one is. -/
theorem utf8_or_foreign (h : HeaderMap) :
    (∀ charset, h.NamesCharset charset → NamesUtf8 charset) ∨
      ∃ charset, h.NamesCharset charset ∧ ¬ NamesUtf8 charset := by
  by_cases hutf8 : ∀ charset, h.NamesCharset charset → NamesUtf8 charset
  · exact .inl hutf8
  · obtain ⟨charset, hforeign⟩ := Classical.not_forall.1 hutf8
    exact .inr ⟨charset, Classical.not_imp.1 hforeign⟩

/-- Without another character set, bytes are decoded as UTF-8. -/
theorem decodeWith_of_utf8 {h : HeaderMap} {bs : List UInt8}
    (hutf8 : ∀ charset, h.NamesCharset charset → NamesUtf8 charset) :
    decodeWith (charset? h) bs = decodeText bs := by
  cases hc : charset? h with
  | none => rfl
  | some charset =>
    have hname := isUtf8_iff.2 (hutf8 charset (charset?_eq_some_iff.1 hc))
    rw [decodeWith, hname, if_pos rfl]

/-- Another character set is refused, and it is named in the error. -/
theorem decodeWith_of_foreign {h : HeaderMap} {bs : List UInt8} {charset : String}
    (hnamed : h.NamesCharset charset) (hother : ¬ NamesUtf8 charset) :
    decodeWith (charset? h) bs = .error (.unsupportedCharset charset) := by
  rw [charset?_eq_some_iff.2 hnamed, decodeWith, isUtf8_eq_false_iff.2 hother]
  rfl

end Codec

namespace HeaderMap

variable {h h' : HeaderMap} {charset : String} {type : MediaType}

/-- The character set depends on the content type alone. -/
theorem namesCharset_congr (heq : h.get? contentTypeName = h'.get? contentTypeName) :
    h.NamesCharset charset ↔ h'.NamesCharset charset := by
  unfold NamesCharset
  rw [heq]

/-- A content type that is set names the character set of its own parameter. -/
theorem namesCharset_insert_iff :
    (h.insert contentTypeName (.string type.text)).NamesCharset charset ↔
      type.param? "charset" = some charset := by
  have hget : (h.insert contentTypeName (.string type.text)).get? contentTypeName =
      some (.string type.text) := by
    rw [get?_insert, if_pos rfl]
  constructor
  · rintro ⟨raw, type', hraw, hparse, hparam⟩
    rw [hget] at hraw
    cases hraw
    rw [MediaType.parse_text] at hparse
    cases hparse
    exact hparam
  · intro hparam
    exact ⟨type.text, type, hget, MediaType.parse_text type, hparam⟩

end HeaderMap

end Conneg
