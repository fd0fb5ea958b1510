import Conneg.Header.Accessor
import Conneg.Proofs.JsonText
import Conneg.Proofs.ReadBack
import Conneg.Settings.Reader

/-!
# Conneg.Proofs.NormalForm

The text of a media type as its normal form: whoever reads the text gets the media
type back. The readers are those of plain texts, of JSON values, of JSON texts and of
the content type header.
-/

namespace Conneg

open Json (Draft)

/-- The text of a media type is read as that media type. -/
theorem MediaType.ofJson_text (m : MediaType) : ofJson (.string m.text) = .ok m := by
  rw [ofJson, Draft.ofJson, Draft.mediaType, Draft.text, ok_bind, parse_text]
  rfl

/-- A written JSON string is read back as a whole. -/
theorem Json.Draft.read_compact_string (s : String) :
    Draft.read (Json.compact (.string s)).toList = (.string s, []) := by
  have hread := Draft.read_write (v := .string s) trivial []
  rw [List.append_nil] at hread
  rw [Json.compact, String.toList_ofList, hread, Draft.ofJson]

/-- The content type header is the one that was set last. -/
theorem HeaderAccessor.contentType?_setContentType (a : HeaderAccessor) (fresh : Stamp)
    (m : MediaType) : (a.setContentType fresh m).map.contentType? = some m := by
  have hentry : (a.setContentType fresh m).map.get? contentTypeName = some (.string m.text) := by
    rw [setContentType, map_set, HeaderMap.get?_insert, if_pos rfl]
  rw [HeaderMap.contentType?, hentry, Option.bind_eq_bind, Option.bind_some, Json.string?,
    Option.bind_eq_bind, Option.bind_some, MediaType.parse_text]
  rfl

namespace MediaType

/-- **Normal form.** Every media type, wherever it comes from, is what its text is read
as: by the reader of media types, which so gives the same text, type, subtype and
parameters again, from a JSON string and its written form, and from the content type
header after it was set. -/
theorem text_normal_form (m : MediaType) :
    parse m.text = .ok m ∧
      ofJson (.string m.text) = .ok m ∧
      (∃ d, Draft.read (Json.compact (.string m.text)).toList = (d, []) ∧ d.mediaType = .ok m) ∧
      ∀ (a : HeaderAccessor) (fresh : Stamp),
        (a.setContentType fresh m).snapshot.map.contentType? = some m := by
  refine ⟨parse_text m, m.ofJson_text, ⟨.string m.text, ?_, m.ofJson_text⟩, ?_⟩
  · exact Draft.read_compact_string m.text
  · intro a fresh
    exact a.contentType?_setContentType fresh m

/-- A quoted `charset` in front of another parameter: its value is cut to five
characters, in the media type and in what its text is read as. -/
example :
    (parse "Text/Plain; Charset=\"UTF-8\"; Q=B").toOption.map (fun m => (m.text, m.params)) =
      some ("text/plain; charset=\"utf-8\"; q=B", [("charset", "\"utf-"), ("q", "B")]) := by
  decide +kernel

end MediaType

end Conneg
