import Conneg.Codec.Bytes
import Conneg.Codec.Text
import Conneg.Proofs.Acceptance
import Conneg.Proofs.Charset
import Conneg.Proofs.Tree
import Conneg.Proofs.Utf8

/-!
# Conneg.Proofs.RoundTrip

Texts and bytes are decoded from the messages that are made of them.

1. `Codec.decode_encode`: one codec gives a value back from what it encoded, but
   for texts in bytes whose headers name a character set other than UTF-8
   (`ForeignCharset`).
2. The leaf that made a message lets the message through again, since it accepts
   what it makes. Other leaves may answer before it; as only the leaves of one
   codec handle the type of the value, they answer the same.
3. Main statement: `decodeAs_toMessage`, for trees of any depth over any settings
   of their leaves.
-/

namespace Conneg

open Text

/-! ## character sets -/

/-- The exception to the round trip: a text was encoded into bytes, under a content
type whose `charset` is not UTF-8. It is the value that `param?` gives. -/
structure ForeignCharset (v : Payload) (m : Message) (charset : String) : Prop where
  text : v.type = .text
  bytes : m.payload.type = .bytes
  named : ∃ raw type, m.headers.map.get? contentTypeName = some (.string raw) ∧
    MediaType.parse raw = .ok type ∧ type.param? "charset" = some charset
  foreign : lower charset.toList ≠ "utf-8".toList ∧ lower charset.toList ≠ "utf8".toList

namespace Codec

/-- A text is decoded from its UTF-8 bytes. -/
theorem decodeText_encode (s : String) : decodeText (Utf8.encode s.toList) = .ok (.text s) := by
  rw [decodeText, Utf8.decode_encode]
  simp only [String.ofList_toList]

end Codec

/-- The foreign character set of bytes is what the codec finds in the headers, unless
that is UTF-8. -/
theorem foreignCharset_iff {s : String} {bs : List UInt8} {headers : HeaderSet}
    {charset : String} :
    ForeignCharset (.text s) ⟨.bytes bs, headers⟩ charset ↔
      Codec.charset? headers.map = some charset ∧ Codec.isUtf8 charset = false := by
  rw [Codec.charset?_eq_some_iff, Codec.isUtf8_eq_false_iff, Codec.NamesUtf8, not_or]
  constructor
  · intro h
    exact ⟨h.named, h.foreign⟩
  · rintro ⟨hnamed, hforeign⟩
    exact ⟨rfl, rfl, hnamed, hforeign⟩

/-! ## one codec -/

namespace Codec

theorem text_supports_iff {target : PayloadType} :
    text.supports target = true ↔ target = .text := decide_eq_true_iff

theorem bytes_supports_iff {target : PayloadType} :
    bytes.supports target = true ↔ target = .bytes := decide_eq_true_iff

/-- Texts are encoded as themselves or as UTF-8, whatever the headers say. -/
theorem text_encode_cases {v encoded : Payload} {headers : Option HeaderMap}
    {form : SerializedForm} (h : text.encode v headers form = .ok encoded) :
    ∃ s, v = .text s ∧ (encoded = .text s ∨ encoded = .bytes (Utf8.encode s.toList)) := by
  cases v with
  | text s =>
    cases form with
    | binary =>
      cases h
      exact ⟨s, rfl, .inr rfl⟩
    | text =>
      cases h
      exact ⟨s, rfl, .inl rfl⟩
  | _ => cases h

/-- Bytes are encoded as themselves. -/
theorem bytes_encode_cases {v encoded : Payload} {headers : Option HeaderMap}
    {form : SerializedForm} (h : bytes.encode v headers form = .ok encoded) :
    ∃ bs, v = .bytes bs ∧ encoded = .bytes bs := by
  cases v with
  | bytes bs =>
    cases h
    exact ⟨bs, rfl, rfl⟩
  | _ => cases h

/-- A text is decoded from its UTF-8 bytes unless another character set is named. -/
theorem text_decode_bytes (s : String) (headers : HeaderSet) (target : PayloadType) :
    let m : Message := ⟨.bytes (Utf8.encode s.toList), headers⟩
    (∀ charset, ForeignCharset (.text s) m charset →
        text.decode m target = .error (.unsupportedCharset charset)) ∧
      ((¬ ∃ charset, ForeignCharset (.text s) m charset) →
        text.decode m target = .ok (some (.text s))) := by
  intro m
  have hdecode : text.decode m target =
      (decodeWith (charset? headers.map) (Utf8.encode s.toList)).map some := rfl
  rw [hdecode]
  constructor
  · intro charset hforeign
    rw [decodeWith_of_foreign hforeign.named (not_or.2 hforeign.foreign)]
    rfl
  · intro hnone
    obtain hutf8 | ⟨charset, hnamed, hother⟩ := utf8_or_foreign headers.map
    · rw [decodeWith_of_utf8 hutf8, decodeText_encode]
      rfl
    · exact absurd ⟨charset, rfl, rfl, hnamed, not_or.1 hother⟩ hnone

/-- What a codec of texts or of bytes encoded, it decodes, with one exception. -/
theorem decode_encode {codec : Codec} (hcodec : codec = text ∨ codec = bytes) {v : Payload}
    {m : Message} {headers : Option HeaderMap} {form : SerializedForm}
    (h : codec.encode v headers form = .ok m.payload) :
    (∀ charset, ForeignCharset v m charset →
        codec.decode m v.type = .error (.unsupportedCharset charset)) ∧
      ((¬ ∃ charset, ForeignCharset v m charset) →
        codec.decode m v.type = .ok (some v)) := by
  obtain ⟨payload, headers⟩ := m
  obtain rfl | rfl := hcodec
  · obtain ⟨s, rfl, rfl | rfl⟩ := text_encode_cases h
    · refine ⟨fun charset hforeign => ?_, fun _ => rfl⟩
      cases hforeign.bytes
    · exact text_decode_bytes s headers .text
  · obtain ⟨bs, rfl, rfl⟩ := bytes_encode_cases h
    refine ⟨fun charset hforeign => ?_, fun _ => rfl⟩
    cases hforeign.text

end Codec

/-! ## trees -/

namespace Converter

/-- A converter of texts or of bytes that reads the content type from its header, or
not at all. Supported types, strictness and form are free. -/
structure Plain (c : Converter) : Prop where
  codec : c.codec = .text ∨ c.codec = .bytes
  readsHeader : c.ReadsHeader

/-- No type is handled by both codecs. -/
theorem Plain.codec_eq {c d : Converter} {type : PayloadType} (hc : c.Plain) (hd : d.Plain)
    (hctype : c.codec.supports type = true) (hdtype : d.codec.supports type = true) :
    d.codec = c.codec := by
  obtain hct | hcb := hc.codec
  · obtain hdt | hdb := hd.codec
    · rw [hct, hdt]
    · rw [hct, Codec.text_supports_iff] at hctype
      rw [hdb, Codec.bytes_supports_iff, hctype] at hdtype
      cases hdtype
  · obtain hdt | hdb := hd.codec
    · rw [hcb, Codec.bytes_supports_iff] at hctype
      rw [hdt, Codec.text_supports_iff, hctype] at hdtype
      cases hdtype
    · rw [hcb, hdb]

/-- The default content type of such a converter is its first supported one. -/
theorem Plain.mem_supported {c : Converter} (hc : c.Plain) (encoded : Payload) :
    ∀ type ∈ c.defaultContentType encoded, type ∈ c.supported := by
  intro type htype
  have hhead : c.defaultContentType encoded = c.supported.head? := by
    unfold defaultContentType
    obtain h | h := hc.codec <;> rw [h] <;> rfl
  rw [hhead] at htype
  exact List.mem_of_mem_head? htype

end Converter

namespace MessageConverter

section

variable {t : MessageConverter} {m : Message} {target : PayloadType} {fresh : Stamp}
  {v : Payload} {headers : Option Headers}

/-- Errors pass the check of the type. -/
theorem value_decodeAs_of_error {e : ConversionError}
    (h : (t.fromMessage m target).value = .error e) :
    (t.decodeAs m target).value = .error e := by
  unfold decodeAs
  rw [Logged.value_bind, h]
  rfl

/-- So do values of the type that was asked for. -/
theorem value_decodeAs_of_some (h : (t.fromMessage m v.type).value = .ok (some v)) :
    (t.decodeAs m v.type).value = .ok (some v) := by
  unfold decodeAs
  rw [Logged.value_bind, h]
  simp

/-- The message is decoded like by the codec of the leaf that made it. -/
theorem fromMessage_toMessage (hplain : ∀ c ∈ t.leaves, c.Plain)
    (h : (t.toMessage fresh v headers).value.outcome = .ok (some m)) :
    ∃ codec form, (codec = Codec.text ∨ codec = Codec.bytes) ∧
      codec.encode v (headers.map Headers.map) form = .ok m.payload ∧
      (t.fromMessage m v.type).value = (codec.decode m v.type).mapError .decode := by
  have hne : (t.toMessage fresh v headers).value.outcome ≠ .ok none := by
    rw [h]
    intro hnone
    cases hnone
  obtain ⟨c, hc, hmade⟩ := exists_leaf_of_made hne
  rw [← hmade] at h
  obtain ⟨hgate, hencode, -⟩ := Converter.encoded_of_made h
  have hsupports := (Converter.canEncode_iff.1 hgate).1
  -- another leaf may decode what this one made, but it has the same codec
  have hagain : (c.canDecode m v.type).value = true :=
    Converter.canDecode_iff.2 ⟨hsupports,
      Converter.accepts_of_made (hplain c hc).readsHeader (hplain c hc).mem_supported h⟩
  refine ⟨c.codec, c.form, (hplain c hc).codec, hencode, ?_⟩
  exact value_fromMessage_of_codec
    (fun d hd hdtype => (hplain c hc).codec_eq (hplain d hd) hsupports hdtype)
    ⟨c, hc, hagain⟩

end

/-- **Round trip.** A tree over converters of texts and of bytes decodes a message
that it made of a value, into the type of the value, and gives the value back. The
one exception is a text in bytes whose content type names another character set;
there decoding fails and names it. -/
theorem decodeAs_toMessage {t : MessageConverter} (hplain : ∀ c ∈ t.leaves, c.Plain)
    {fresh : Stamp} {v : Payload} {headers : Option Headers} {m : Message}
    (h : (t.toMessage fresh v headers).value.outcome = .ok (some m)) :
    (∀ charset, ForeignCharset v m charset →
        ∃ e : CodecError, (t.decodeAs m v.type).value = .error (.decode e) ∧
          e.message = "unsupported charset: " ++ charset) ∧
      ((¬ ∃ charset, ForeignCharset v m charset) →
        (t.decodeAs m v.type).value = .ok (some v)) := by
  obtain ⟨codec, form, hcodec, hencode, hfrom⟩ := fromMessage_toMessage hplain h
  obtain ⟨hforeign, hback⟩ := Codec.decode_encode hcodec hencode
  constructor
  · intro charset hc
    refine ⟨.unsupportedCharset charset, value_decodeAs_of_error ?_, rfl⟩
    rw [hfrom, hforeign charset hc]
    rfl
  · intro hnone
    apply value_decodeAs_of_some
    rw [hfrom, hback hnone]
    rfl

/-- A nested tree with a strict leaf gives a text back. So does a tree that was given
no headers and filled in the content type, and a tree under headers that name another
character set does not. -/
theorem decodeAs_toMessage_nested :
    let bytes : MessageConverter := single (.ofCodec .bytes)
    let text : MessageConverter := single (.ofCodec .text)
    let strict : MessageConverter := single { Converter.ofCodec .text with strict := true }
    let any : MessageConverter := single (.ofTypes .text [])
    let typed : HeaderSet := ⟨0, HeaderMap.empty.insert contentTypeName (.string "text/plain")⟩
    let latin : HeaderSet :=
      ⟨0, HeaderMap.empty.insert contentTypeName (.string "text/plain;charset=latin1")⟩
    (∃ m, ((composite [bytes, composite [strict]]).toMessage 1 (.text "é")
          (some (.frozen typed))).value.outcome = .ok (some m) ∧
        ((composite [bytes, composite [strict]]).decodeAs m .text).value =
          .ok (some (.text "é"))) ∧
      (∃ m, ((composite [bytes, text]).toMessage 1 (.text "é") none).value.outcome =
            .ok (some m) ∧
          m.headers.map.get? contentTypeName = some (.string "text/plain; charset=utf-8") ∧
          ((composite [bytes, text]).decodeAs m .text).value = .ok (some (.text "é"))) ∧
      ∃ m e, ((composite [bytes, any]).toMessage 1 (.text "é")
          (some (.frozen latin))).value.outcome = .ok (some m) ∧
        ((composite [bytes, any]).decodeAs m .text).value = .error (.decode e) ∧
        e.message = "unsupported charset: latin1" := by
  intro bytes text strict any typed latin
  have hbytes : (Converter.ofCodec .bytes).Plain := ⟨.inr rfl, .inr ⟨_, rfl⟩⟩
  have htext : (Converter.ofCodec .text).Plain := ⟨.inl rfl, .inr ⟨_, rfl⟩⟩
  have hstrict : Converter.Plain { Converter.ofCodec .text with strict := true } :=
    ⟨.inl rfl, .inr ⟨_, rfl⟩⟩
  have hany : (Converter.ofTypes .text []).Plain := ⟨.inl rfl, .inr ⟨_, rfl⟩⟩
  have hleaves : ∀ c : Converter, c.Plain → ∀ d ∈ [Converter.ofCodec .bytes, c], d.Plain :=
    fun _ hc => List.forall_mem_cons.2 ⟨hbytes, List.forall_mem_singleton.2 hc⟩
  refine ⟨?_, ?_, ?_⟩
  · have hplain : ∀ c ∈ (composite [bytes, composite [strict]]).leaves, c.Plain :=
      hleaves _ hstrict
    have hmade : ((composite [bytes, composite [strict]]).toMessage 1 (.text "é")
        (some (.frozen typed))).value.outcome =
          .ok (some ⟨.bytes [0xC3, 0xA9], ⟨1, typed.map⟩⟩) := rfl
    refine ⟨_, hmade, (decodeAs_toMessage hplain hmade).2 ?_⟩
    rintro ⟨charset, hforeign⟩
    have hnone : Codec.charset? typed.map = none := rfl
    rw [(foreignCharset_iff.1 hforeign).1] at hnone
    cases hnone
  · have hplain : ∀ c ∈ (composite [bytes, text]).leaves, c.Plain :=
      hleaves _ htext
    let filled : HeaderMap :=
      HeaderMap.empty.insert contentTypeName (.string "text/plain; charset=utf-8")
    have hmade : ((composite [bytes, text]).toMessage 1 (.text "é") none).value.outcome =
        .ok (some ⟨.bytes [0xC3, 0xA9], ⟨1, filled⟩⟩) := rfl
    refine ⟨_, hmade, rfl, (decodeAs_toMessage hplain hmade).2 ?_⟩
    rintro ⟨charset, hforeign⟩
    obtain ⟨hnamed, hother⟩ := foreignCharset_iff.1 hforeign
    have hutf8 : Codec.charset? filled = some "utf-8" := by decide +kernel
    cases hutf8.symm.trans hnamed
    exact absurd hother (by decide)
  · have hplain : ∀ c ∈ (composite [bytes, any]).leaves, c.Plain :=
      hleaves _ hany
    have hmade : ((composite [bytes, any]).toMessage 1 (.text "é")
        (some (.frozen latin))).value.outcome =
          .ok (some ⟨.bytes [0xC3, 0xA9], ⟨1, latin.map⟩⟩) := rfl
    have hforeign : ForeignCharset (.text "é") ⟨.bytes [0xC3, 0xA9], ⟨1, latin.map⟩⟩ "latin1" :=
      foreignCharset_iff.2 ⟨by decide +kernel, by decide⟩
    obtain ⟨e, he, hmessage⟩ := (decodeAs_toMessage hplain hmade).1 "latin1" hforeign
    exact ⟨_, e, hmade, he, hmessage⟩

end MessageConverter

end Conneg
