import Conneg.Codec.Text
import Conneg.Proofs.LooseEquality

/-!
# Conneg.Proofs.Spellings

The spellings of one content type.

1. Texts are spelled alike if they agree, up to letter case, on what stands between
   outer blanks and the first `;` (`SpelledAlike`). The rest, parameters or not, is
   free.
2. Reading keeps the front of a text in lowercase, whatever follows it
   (`essence_of_parse`). So media types with texts that are spelled alike are of one
   kind (`SpelledAlike.kind_eq`).
3. Main statement: `accepts_any_spelling`.
-/

namespace Conneg

open Text

namespace MediaType

/-- The texts agree up to letter case on what stands before the first `;`, outer blanks
aside. -/
def SpelledAlike (raw raw' : String) : Prop :=
  sameLetters (front (trim raw.toList)) (front (trim raw'.toList)) = true

instance (raw raw' : String) : Decidable (SpelledAlike raw raw') :=
  inferInstanceAs (Decidable (_ = true))

/-- The parameters of a text leave no trace in the type and the subtype that are read. -/
theorem essence_of_parse {raw : String} {m : MediaType} (h : parse raw = .ok m) :
    m.spelling.essence = lower (front (trim raw.toList)) := by
  obtain ⟨-, hfront⟩ := front_of_parse h
  rwa [text, String.toList_ofList, front_write m.wellFormed] at hfront

/-- Texts that are spelled alike are read as media types of one kind. -/
theorem SpelledAlike.kind_eq {raw raw' : String} {m n : MediaType} (h : SpelledAlike raw raw')
    (hm : parse raw = .ok m) (hn : parse raw' = .ok n) : m.kind = n.kind := by
  apply kind_eq_of_essence
  rw [essence_of_parse hm, essence_of_parse hn]
  exact sameLetters_iff.1 h

end MediaType

namespace Converter

/-- Of a content type that is resolved, a decision reads the kind only. -/
theorem acceptsType_of_kind (c : Converter) {m n : MediaType} (h : m.kind = n.kind) :
    c.acceptsType (some m) = c.acceptsType (some n) := by
  rw [acceptsType_eq_kinds, acceptsType_eq_kinds, Option.map_some, Option.map_some, h]

/-- **Parameters, letter case and outer blanks never change a decision.** A converter that
reads the content type from its header, whatever it supports and whatever its default,
strict or not, decides alike on headers whose content types are spelled alike, if both
are texts of media types: it reads the same type and subtype of them, accepts both or
neither, and logs nothing. -/
theorem accepts_any_spelling {c : Converter} {r : HeaderResolver}
    (hr : c.resolver = some r.toResolver) {g h : HeaderMap} {raw raw' : String}
    (hg : g.get? contentTypeName = some (.string raw))
    (hh : h.get? contentTypeName = some (.string raw'))
    (hparse : (MediaType.parse raw).isOk = true) (hparse' : (MediaType.parse raw').isOk = true)
    (hspelled : MediaType.SpelledAlike raw raw') :
    (∃ m n, c.resolve (some g) = pure (some m) ∧ c.resolve (some h) = pure (some n) ∧
        m.type = n.type ∧ m.subtype = n.subtype) ∧
      c.accepts (some g) = c.accepts (some h) := by
  obtain ⟨m, hm⟩ := MediaType.exists_of_isOk hparse
  obtain ⟨n, hn⟩ := MediaType.exists_of_isOk hparse'
  have hkind : m.kind = n.kind := hspelled.kind_eq hm hn
  have hreadG : c.resolve (some g) = pure (some m) := resolve_labelled hr ⟨raw, hg, hm⟩
  have hreadH : c.resolve (some h) = pure (some n) := resolve_labelled hr ⟨raw', hh, hn⟩
  obtain ⟨htype, hsubtype⟩ := Prod.mk.inj hkind
  refine ⟨⟨m, n, hreadG, hreadH, htype, hsubtype⟩, ?_⟩
  rw [accepts, accepts, hreadG, hreadH, pure_bind, pure_bind, c.acceptsType_of_kind hkind]

/-- A quoted value with a `;` in it, a character set that is none and a `;` at the end. -/
theorem accepts_any_spelling_quoted :
    let c : Converter := { Converter.ofCodec .text with strict := true }
    let raw := "\u2003Text/PLAIN; note=\"a;b\"; charset=\"utf-\"\n"
    let raw' := "text/plain;"
    let g := HeaderMap.empty.insert contentTypeName (.string raw)
    let h := (HeaderMap.empty.insert "priority" .null).insert contentTypeName (.string raw')
    (MediaType.parse raw).isOk = true ∧ (MediaType.parse raw').isOk = true ∧
      MediaType.SpelledAlike raw raw' ∧
      c.accepts (some g) = c.accepts (some h) := by
  intro c raw raw' g h
  have hparse : (MediaType.parse raw).isOk = true := by decide +kernel
  have hparse' : (MediaType.parse raw').isOk = true := by decide +kernel
  have hspelled : MediaType.SpelledAlike raw raw' := by decide +kernel
  obtain ⟨-, haccepts⟩ :=
    accepts_any_spelling (c := c) (g := g) (h := h) rfl rfl rfl hparse hparse' hspelled
  exact ⟨hparse, hparse', hspelled, haccepts⟩

end Converter

end Conneg
