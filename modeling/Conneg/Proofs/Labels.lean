import Conneg.Proofs.Content
import Conneg.Proofs.HeaderFrame

/-!
# Conneg.Proofs.Labels

The character set that encoded texts are labelled with.

1. Texts are encoded as UTF-8, whatever the headers say.
2. The label is the one of the given content type. Where there is none, it is the one
   of the first supported media type of the leaf that answers (`namesCharset_filled`).
3. Main statement: `label_of_made`. So bytes are labelled as UTF-8 or not at all if
   neither the given headers nor a first supported media type name another character
   set, and `label_of_made_foreign` shows that both conditions are needed.
-/

namespace Conneg

open Text

/-- Filling in adds a label where there is no content type, and changes none. -/
theorem HeaderMap.namesCharset_filled {h : HeaderMap} {type? : Option MediaType}
    {charset : String} :
    (h.filled type?).NamesCharset charset ↔
      h.NamesCharset charset ∨ h.get? contentTypeName = none ∧
        ∃ type, type? = some type ∧ type.param? "charset" = some charset := by
  have hget := h.get?_filled type? contentTypeName
  rw [if_pos rfl] at hget
  cases hgiven : h.get? contentTypeName with
  | some value =>
    rw [hgiven, Option.some_or, ← hgiven] at hget
    rw [namesCharset_congr hget]
    constructor
    · exact .inl
    · rintro (hnamed | ⟨habsent, -⟩)
      · exact hnamed
      · cases habsent
  | none =>
    have hnot : ¬ h.NamesCharset charset := by
      rintro ⟨raw, type, hraw, -, -⟩
      rw [hgiven] at hraw
      cases hraw
    cases type? with
    | none =>
      constructor
      · intro hnamed
        exact absurd hnamed hnot
      · rintro (hnamed | ⟨-, type, htype, -⟩)
        · exact hnamed
        · cases htype
    | some type =>
      rw [filled_of_not_contains (contains_eq_false_iff.2 hgiven), namesCharset_insert_iff]
      constructor
      · intro hparam
        exact .inr ⟨rfl, type, rfl, hparam⟩
      · rintro (hnamed | ⟨-, type', htype, hparam⟩)
        · exact absurd hnamed hnot
        · cases htype
          exact hparam

namespace MessageConverter

/-- **How bytes are labelled** that a tree over converters of texts makes of a text,
for any supported types, form, strictness and resolvers: they are the UTF-8 bytes of
the text. Their content type names the character set that the given headers name. If
there is no content type, it names that of the first supported media type of the leaf
that answers first. So no other character set than UTF-8 is named unless the given
headers or the first supported media type of a leaf name it. -/
theorem label_of_made {t : MessageConverter} (hleaves : ∀ c ∈ t.leaves, c.codec = .text)
    {fresh : Stamp} {s : String} {headers : Option Headers} {m : Message} {bs : List UInt8}
    (h : (t.toMessage fresh (.text s) headers).value.outcome = .ok (some m))
    (hbytes : m.payload = .bytes bs) :
    let given := Headers.entriesOf headers
    bs = Utf8.encode s.toList ∧
      (∃ c, FirstAnswering (·.DeclinesPayload fresh (.text s) headers) t.leaves c) ∧
      (∀ c, FirstAnswering (·.DeclinesPayload fresh (.text s) headers) t.leaves c →
        ∀ charset, m.headers.map.NamesCharset charset ↔
          given.NamesCharset charset ∨ given.get? contentTypeName = none ∧
            ∃ type, c.supported.head? = some type ∧ type.param? "charset" = some charset) ∧
      ((∀ charset, given.NamesCharset charset → Codec.NamesUtf8 charset) →
        (∀ c ∈ t.leaves, ∀ type charset, c.supported.head? = some type →
          type.param? "charset" = some charset → Codec.NamesUtf8 charset) →
        ∀ charset, m.headers.map.NamesCharset charset → Codec.NamesUtf8 charset) := by
  intro given
  have hanswers : (t.toMessage fresh (.text s) headers).value.outcome ≠ .ok none := by simp [h]
  obtain ⟨first, hfirst⟩ := exists_first_of_made hanswers
  have hlabel : ∀ c, FirstAnswering (·.DeclinesPayload fresh (.text s) headers) t.leaves c →
      ∀ charset, m.headers.map.NamesCharset charset ↔
        given.NamesCharset charset ∨ given.get? contentTypeName = none ∧
          ∃ type, c.supported.head? = some type ∧ type.param? "charset" = some charset := by
    intro c hc charset
    have hfilled := (filled_of_first hc h).2
    rw [hleaves c hc.mem] at hfilled
    rw [hfilled]
    exact HeaderMap.namesCharset_filled
  refine ⟨?_, ⟨first, hfirst⟩, hlabel, fun hgiven hsupported charset hnamed => ?_⟩
  · have hencode := (filled_of_first hfirst h).1
    rw [hleaves first hfirst.mem, hbytes] at hencode
    obtain ⟨s', hs, htext | hutf8⟩ := Codec.text_encode_cases hencode
    · cases htext
    · cases hs
      cases hutf8
      rfl
  · obtain hgivenName | ⟨-, type, htype, hparam⟩ := (hlabel first hfirst charset).1 hnamed
    · exact hgiven charset hgivenName
    · exact hsupported first hfirst.mem type charset htype hparam

/-- Without given headers, the label is filled in and is that of the first leaf. -/
theorem label_of_made_filled :
    let t : MessageConverter := composite [single (.ofCodec .text), single (.ofTypes .text [])]
    ∃ m, (t.toMessage 1 (.text "é") none).value.outcome = .ok (some m) ∧
      m.payload = .bytes (Utf8.encode "é".toList) ∧
      m.headers.map.NamesCharset "utf-8" ∧
      ∀ charset, m.headers.map.NamesCharset charset → Codec.NamesUtf8 charset := by
  intro t
  have hleaves : ∀ c ∈ t.leaves, c.codec = .text :=
    List.forall_mem_cons.2 ⟨rfl, List.forall_mem_singleton.2 rfl⟩
  have hmade : (t.toMessage 1 (.text "é") none).value.outcome =
      .ok (some ⟨.bytes [0xC3, 0xA9], ⟨1, HeaderMap.empty.insert contentTypeName
        (.string "text/plain; charset=utf-8")⟩⟩) := by
    subst t
    rfl
  have hfirst : FirstAnswering (·.DeclinesPayload 1 (.text "é") none) t.leaves
      (.ofCodec .text) := by
    refine ⟨[], [.ofTypes .text []], rfl, fun d hd => absurd hd List.not_mem_nil, ?_⟩
    intro hdeclines
    cases hdeclines
  have hparam : MediaType.textPlainUtf8.param? "charset" = some "utf-8" := by decide +kernel
  have habsent : ∀ charset, ¬ (Headers.entriesOf none).NamesCharset charset := by
    rintro charset ⟨raw, type, hraw, -, -⟩
    cases hraw
  have hsupported : ∀ c ∈ t.leaves, ∀ type charset, c.supported.head? = some type →
      type.param? "charset" = some charset → Codec.NamesUtf8 charset := by
    refine List.forall_mem_cons.2 ⟨?_, List.forall_mem_singleton.2 ?_⟩
    · rintro type charset ⟨⟩ hcharset
      rw [hparam] at hcharset
      cases hcharset
      exact .inl (by decide)
    · rintro type charset ⟨⟩
  obtain ⟨hutf8, -, hlabel, hhonest⟩ := label_of_made hleaves hmade rfl
  refine ⟨_, hmade, congrArg Payload.bytes hutf8, ?_, ?_⟩
  · exact (hlabel _ hfirst "utf-8").2 (.inr ⟨rfl, .textPlainUtf8, rfl, hparam⟩)
  · exact hhonest (fun charset hnamed => absurd hnamed (habsent charset)) hsupported

/-- **UTF-8 bytes under the label of another character set**: a text is encoded under
a content type that the converter of texts itself refuses to decode. -/
theorem label_of_made_foreign :
    let t : MessageConverter := single (.ofCodec .text)
    let latin : HeaderSet :=
      ⟨0, HeaderMap.empty.insert contentTypeName (.string "text/plain; charset=iso-8859-1")⟩
    ∃ m, (t.toMessage 1 (.text "é") (some (.frozen latin))).value.outcome = .ok (some m) ∧
      m.payload = .bytes (Utf8.encode "é".toList) ∧
      m.headers.map.NamesCharset "iso-8859-1" ∧ ¬ Codec.NamesUtf8 "iso-8859-1" ∧
      (t.fromMessage m .text).value =
        .error (.decode (.unsupportedCharset "iso-8859-1")) := by
  intro t latin
  have hencodes : ((Converter.ofCodec .text).canEncode (.text "é") (some latin.map)).value =
      true := by decide +kernel
  have hcontains : latin.map.contains contentTypeName = true := rfl
  obtain ⟨m, hmade, hpayload, hmap⟩ : ∃ m : Message,
      (t.toMessage 1 (.text "é") (some (.frozen latin))).value.outcome = .ok (some m) ∧
        m.payload = .bytes (Utf8.encode "é".toList) ∧ m.headers.map = latin.map := by
    refine ⟨_, congrArg Conversion.outcome (Converter.toMessage_made hencodes rfl), rfl, ?_⟩
    rw [Headers.map_complete]
    exact HeaderMap.filled_of_contains hcontains
  have hnamed : m.headers.map.NamesCharset "iso-8859-1" := by
    rw [hmap]
    exact Codec.charset?_eq_some_iff.1 (by decide +kernel)
  have hother : ¬ Codec.NamesUtf8 "iso-8859-1" := by
    rintro (hdash | hplain)
    · exact absurd hdash (by decide)
    · exact absurd hplain (by decide)
  have hadmits : t.Admits m .text := by
    refine ⟨_, List.mem_singleton_self _, .text, ?_⟩
    rw [hmap]
    exact (Converter.canEncode_iff.1 hencodes).2
  have hleaves : ∀ c ∈ t.leaves, c.codec = .text ∨ c.codec = .bytes :=
    List.forall_mem_singleton.2 (.inl rfl)
  exact ⟨m, hmade, hpayload, hnamed, hother,
    value_fromMessage_of_admits hleaves hadmits (.foreign hpayload hnamed hother)⟩

end MessageConverter

end Conneg
