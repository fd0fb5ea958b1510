import Conneg.Proofs.FirstLeaf
import Conneg.Proofs.RoundTrip

/-!
# Conneg.Proofs.Content

Trees of converters of texts and of bytes decode by what the message holds.

1. `Reads` says what a message reads as, for each target type, without a word about
   converters. `reads_iff`: it is what the codec of the target type decodes, so a
   message reads as one thing only.
2. A tree decodes if one of its leaves has the codec of the target type and accepts
   the headers (`MessageConverter.Admits`). The other leaves give no answer, and all
   that answer give the same one.
3. Main statement: `fromMessage_by_content`.
-/

namespace Conneg

open Text

/-! ## what a message reads as -/

/-- What the payload and the headers of a message stand for, as a value of the target
type. Texts and bytes are read as themselves. Bytes are a text if they are its UTF-8
bytes, unless another character set is named. -/
inductive Reads (m : Message) : PayloadType → Except CodecError (Option Payload) → Prop where
  | bytes {bs : List UInt8} (payload : m.payload = .bytes bs) :
      Reads m .bytes (.ok (some (.bytes bs)))
  | noBytes (payload : m.payload.type ≠ .bytes) : Reads m .bytes (.ok none)
  | text {s : String} (payload : m.payload = .text s) : Reads m .text (.ok (some (.text s)))
  | decoded {s : String} (payload : m.payload = .bytes (Utf8.encode s.toList))
      (utf8 : ∀ charset, m.headers.map.NamesCharset charset → Codec.NamesUtf8 charset) :
      Reads m .text (.ok (some (.text s)))
  | foreign {bs : List UInt8} {charset : String} (payload : m.payload = .bytes bs)
      (named : m.headers.map.NamesCharset charset) (other : ¬ Codec.NamesUtf8 charset) :
      Reads m .text (.error (.unsupportedCharset charset))
  | malformed {bs : List UInt8} {e : Utf8.Error} (payload : m.payload = .bytes bs)
      (utf8 : ∀ charset, m.headers.map.NamesCharset charset → Codec.NamesUtf8 charset)
      (failed : Utf8.decode bs = .error e) : Reads m .text (.error (.invalidText e))
  | noText (text : m.payload.type ≠ .text) (bytes : m.payload.type ≠ .bytes) :
      Reads m .text (.ok none)

/-- A value that a message reads as is of the target type. -/
theorem Reads.type_eq {m : Message} {target : PayloadType} {v : Payload}
    (h : Reads m target (.ok (some v))) : v.type = target := by
  cases h <;> rfl

namespace Codec

/-- The codec of texts or of bytes that handles a type. -/
inductive Handles : Codec → PayloadType → Prop where
  | text : Handles text .text
  | bytes : Handles bytes .bytes

theorem Handles.supports {codec : Codec} {target : PayloadType} (h : codec.Handles target) :
    codec.supports target = true := by
  cases h <;> rfl

/-- No two codecs handle one type. -/
theorem Handles.unique {codec codec' : Codec} {target : PayloadType} (h : codec.Handles target)
    (h' : codec'.Handles target) : codec = codec' := by
  cases h <;> cases h' <;> rfl

/-- Each of the two codecs supports its own type only. -/
theorem handles_of_supports {codec : Codec} (hcodec : codec = text ∨ codec = bytes)
    {target : PayloadType} (h : codec.supports target = true) : codec.Handles target := by
  obtain rfl | rfl := hcodec
  · rw [text_supports_iff.1 h]
    exact .text
  · rw [bytes_supports_iff.1 h]
    exact .bytes

/-! ## what a codec decodes -/

section

variable {m : Message} {bs : List UInt8} {target : PayloadType}

theorem text_decode_of_text {s : String} (hpayload : m.payload = .text s) :
    text.decode m target = .ok (some (.text s)) := by
  simp only [text, hpayload]

/-- Bytes are decoded as the character set in the headers says. -/
theorem text_decode_of_bytes (hpayload : m.payload = .bytes bs) :
    text.decode m target = (decodeWith (charset? m.headers.map) bs).map some := by
  simp only [text, hpayload]

/-- The codec of texts has no answer to other payloads. -/
theorem text_decode_of_other (htext : m.payload.type ≠ .text) (hbytes : m.payload.type ≠ .bytes) :
    text.decode m target = .ok none := by
  cases hp : m.payload with
  | text s =>
    rw [hp] at htext
    exact absurd rfl htext
  | bytes bs =>
    rw [hp] at hbytes
    exact absurd rfl hbytes
  | _ => simp only [text, hp]

theorem bytes_decode_of_bytes (hpayload : m.payload = .bytes bs) :
    bytes.decode m target = .ok (some (.bytes bs)) := by
  simp only [bytes, hpayload]

/-- The codec of bytes has no answer to anything else. -/
theorem bytes_decode_of_other (hbytes : m.payload.type ≠ .bytes) :
    bytes.decode m target = .ok none := by
  cases hp : m.payload with
  | bytes bs =>
    rw [hp] at hbytes
    exact absurd rfl hbytes
  | _ => simp only [bytes, hp]

/-- Every message reads as something, and the codec of the target type decodes it. -/
theorem reads_decode {codec : Codec} (h : codec.Handles target) :
    Reads m target (codec.decode m target) := by
  cases h with
  | text =>
    cases hp : m.payload with
    | text s =>
      rw [text_decode_of_text hp]
      exact .text hp
    | bytes bs =>
      rw [text_decode_of_bytes hp]
      obtain hutf8 | ⟨charset, hnamed, hother⟩ := utf8_or_foreign m.headers.map
      · rw [decodeWith_of_utf8 hutf8, decodeText]
        cases hd : Utf8.decode bs with
        | error e => exact .malformed hp hutf8 hd
        | ok cs =>
          refine .decoded ?_ hutf8
          rw [hp, String.toList_ofList, Utf8.decode_eq_ok_iff.1 hd]
      · rw [decodeWith_of_foreign hnamed hother]
        exact .foreign hp hnamed hother
    | _ =>
      have htext : m.payload.type ≠ .text := by simp [hp, Payload.type]
      have hbytes : m.payload.type ≠ .bytes := by simp [hp, Payload.type]
      rw [text_decode_of_other htext hbytes]
      exact .noText htext hbytes
  | bytes =>
    cases hp : m.payload with
    | bytes bs =>
      rw [bytes_decode_of_bytes hp]
      exact .bytes hp
    | _ =>
      have hbytes : m.payload.type ≠ .bytes := by simp [hp, Payload.type]
      rw [bytes_decode_of_other hbytes]
      exact .noBytes hbytes

/-- A message reads as what the codec of the target type decodes, and as nothing else. -/
theorem reads_iff {codec : Codec} (h : codec.Handles target)
    {answer : Except CodecError (Option Payload)} :
    Reads m target answer ↔ answer = codec.decode m target := by
  constructor
  · intro hreads
    cases h with
    | text =>
      cases hreads with
      | text hp => rw [text_decode_of_text hp]
      | decoded hp hutf8 =>
        rw [text_decode_of_bytes hp, decodeWith_of_utf8 hutf8, decodeText_encode]
        rfl
      | foreign hp hnamed hother =>
        rw [text_decode_of_bytes hp, decodeWith_of_foreign hnamed hother]
        rfl
      | malformed hp hutf8 hfailed =>
        rw [text_decode_of_bytes hp, decodeWith_of_utf8 hutf8, decodeText, hfailed]
        rfl
      | noText htext hbytes => rw [text_decode_of_other htext hbytes]
    | bytes =>
      cases hreads with
      | bytes hp => rw [bytes_decode_of_bytes hp]
      | noBytes hbytes => rw [bytes_decode_of_other hbytes]
  · rintro rfl
    exact reads_decode h

end

end Codec

/-! ## trees -/

namespace MessageConverter

/-- A leaf of the codec of the target type accepts the headers of the message. -/
def Admits (t : MessageConverter) (m : Message) (target : PayloadType) : Prop :=
  ∃ c ∈ t.leaves, c.codec.Handles target ∧ (c.accepts (some m.headers.map)).value = true

section

variable {t : MessageConverter} {m : Message} {target : PayloadType}

/-- Without a leaf for the target type that accepts the headers, the answer is
nothing. -/
theorem value_fromMessage_of_not_admits
    (hleaves : ∀ c ∈ t.leaves, c.codec = .text ∨ c.codec = .bytes)
    (h : ¬ t.Admits m target) : (t.fromMessage m target).value = .ok none := by
  apply value_fromMessage_of_all
  intro c hc
  apply Converter.fromMessage_declined
  rw [Bool.eq_false_iff]
  intro hgate
  obtain ⟨hsupports, haccepts⟩ := Converter.canDecode_iff.1 hgate
  exact h ⟨c, hc, Codec.handles_of_supports (hleaves c hc) hsupports, haccepts⟩

/-- With such a leaf, the answer is what the message reads as. -/
theorem value_fromMessage_of_admits
    (hleaves : ∀ c ∈ t.leaves, c.codec = .text ∨ c.codec = .bytes)
    (h : t.Admits m target) {answer : Except CodecError (Option Payload)}
    (hreads : Reads m target answer) :
    (t.fromMessage m target).value = answer.mapError .decode := by
  obtain ⟨c, hc, hhandles, haccepts⟩ := h
  rw [(Codec.reads_iff hhandles).1 hreads]
  refine value_fromMessage_of_codec (fun d hd hsupports => ?_)
    ⟨c, hc, Converter.canDecode_iff.2 ⟨hhandles.supports, haccepts⟩⟩
  exact (Codec.handles_of_supports (hleaves d hd) hsupports).unique hhandles

/-- Where values are of the target type, the check of it changes nothing. -/
theorem decodeAs_eq (h : ∀ v, (t.fromMessage m target).value = .ok (some v) → v.type = target) :
    t.decodeAs m target = t.fromMessage m target := by
  unfold decodeAs
  cases hv : (t.fromMessage m target).value with
  | error e => apply Logged.ext <;> simp [hv]
  | ok value =>
    cases value with
    | none => apply Logged.ext <;> simp [hv]
    | some v => apply Logged.ext <;> simp [hv, h v hv]

end

/-- **What is decoded depends on the message and the target type alone**, for every
tree over converters of texts and of bytes with any resolvers and settings. A message
reads as exactly one thing (`Reads`), and that is the answer if a leaf of the target
type's codec accepts the headers. Otherwise, the answer is nothing. So two trees that
both have such a leaf, or both have none, give the same answer, whatever the order, the
nesting, the form and the strictness of their leaves. A value is of the target type,
and the check of it in `decodeAs` never fails. -/
theorem fromMessage_by_content {t : MessageConverter}
    (hleaves : ∀ c ∈ t.leaves, c.codec = .text ∨ c.codec = .bytes) (m : Message)
    (target : PayloadType) :
    (¬ t.Admits m target → (t.fromMessage m target).value = .ok none) ∧
      (t.Admits m target → ∃ answer, (∀ a, Reads m target a ↔ a = answer) ∧
        (t.fromMessage m target).value = answer.mapError .decode) ∧
      (∀ v, (t.fromMessage m target).value = .ok (some v) → v.type = target) ∧
      t.decodeAs m target = t.fromMessage m target ∧
      ∀ u : MessageConverter, (∀ c ∈ u.leaves, c.codec = .text ∨ c.codec = .bytes) →
        (u.Admits m target ↔ t.Admits m target) →
        (u.fromMessage m target).value = (t.fromMessage m target).value := by
  -- any leaf that admits the message will do: what it reads as does not mention the leaf
  have hunique : t.Admits m target → ∃ answer, ∀ a, Reads m target a ↔ a = answer := by
    rintro ⟨c, -, hhandles, -⟩
    exact ⟨c.codec.decode m target, fun a => Codec.reads_iff hhandles⟩
  have htyped : ∀ v, (t.fromMessage m target).value = .ok (some v) → v.type = target := by
    intro v hv
    by_cases hadmits : t.Admits m target
    · obtain ⟨answer, hanswer⟩ := hunique hadmits
      have hreads := (hanswer answer).2 rfl
      rw [value_fromMessage_of_admits hleaves hadmits hreads] at hv
      cases answer with
      | error e => cases hv
      | ok value =>
        cases hv
        exact hreads.type_eq
    · rw [value_fromMessage_of_not_admits hleaves hadmits] at hv
      cases hv
  refine ⟨value_fromMessage_of_not_admits hleaves, fun hadmits => ?_, htyped,
    decodeAs_eq htyped, fun u huleaves hsame => ?_⟩
  · obtain ⟨answer, hanswer⟩ := hunique hadmits
    exact ⟨answer, hanswer,
      value_fromMessage_of_admits hleaves hadmits ((hanswer answer).2 rfl)⟩
  · by_cases hadmits : t.Admits m target
    · obtain ⟨answer, hanswer⟩ := hunique hadmits
      have hreads := (hanswer answer).2 rfl
      rw [value_fromMessage_of_admits hleaves hadmits hreads,
        value_fromMessage_of_admits huleaves (hsame.2 hadmits) hreads]
    · have hnot : ¬ u.Admits m target := fun h => hadmits (hsame.1 h)
      rw [value_fromMessage_of_not_admits hleaves hadmits,
        value_fromMessage_of_not_admits huleaves hnot]

/-- Bytes are read as a text by a strict leaf below a composite, and a lenient leaf of
bytes before it makes no difference. A tree of bytes alone does not read them so. -/
theorem fromMessage_by_content_nested :
    let bytes : MessageConverter := single (.ofCodec .bytes)
    let strict : MessageConverter := single { Converter.ofCodec .text with strict := true }
    let m : Message := ⟨.bytes [0xC3, 0xA9],
      ⟨0, HeaderMap.empty.insert contentTypeName (.string "text/plain;charset=UTF8")⟩⟩
    ((composite [bytes, composite [strict]]).fromMessage m .text).value =
        .ok (some (.text "é")) ∧
      ((composite [composite [strict], bytes]).fromMessage m .text).value =
        ((composite [bytes, composite [strict]]).fromMessage m .text).value ∧
      (bytes.fromMessage m .text).value = .ok none := by
  intro bytes strict m
  have hbytes : ∀ c ∈ bytes.leaves, c.codec = .text ∨ c.codec = .bytes :=
    List.forall_mem_singleton.2 (.inr rfl)
  have hmixed : ∀ c ∈ (composite [bytes, composite [strict]]).leaves,
      c.codec = .text ∨ c.codec = .bytes :=
    List.forall_mem_cons.2 ⟨.inr rfl, List.forall_mem_singleton.2 (.inl rfl)⟩
  have hswapped : ∀ c ∈ (composite [composite [strict], bytes]).leaves,
      c.codec = .text ∨ c.codec = .bytes :=
    List.forall_mem_cons.2 ⟨.inl rfl, List.forall_mem_singleton.2 (.inr rfl)⟩
  have haccepts : ({ Converter.ofCodec .text with strict := true }.accepts
      (some m.headers.map)).value = true := by decide +kernel
  have hadmits : (composite [bytes, composite [strict]]).Admits m .text :=
    ⟨_, List.mem_cons_of_mem _ List.mem_cons_self, .text, haccepts⟩
  have hswappedAdmits : (composite [composite [strict], bytes]).Admits m .text :=
    ⟨_, List.mem_cons_self, .text, haccepts⟩
  have hutf8 : ∀ charset, m.headers.map.NamesCharset charset → Codec.NamesUtf8 charset := by
    intro charset hnamed
    have hcharset : Codec.charset? m.headers.map = some "utf8" := by decide +kernel
    rw [← Codec.charset?_eq_some_iff, hcharset] at hnamed
    cases hnamed
    exact .inr (by decide)
  obtain ⟨-, hanswer, -, -, hsame⟩ := fromMessage_by_content hmixed m .text
  refine ⟨?_, hsame _ hswapped (iff_of_true hswappedAdmits hadmits), ?_⟩
  · obtain ⟨answer, hreads, hvalue⟩ := hanswer hadmits
    have hdecoded : Reads m .text (.ok (some (.text "é"))) := .decoded rfl hutf8
    rw [hvalue, ← (hreads _).1 hdecoded]
    rfl
  · refine (fromMessage_by_content hbytes m .text).1 ?_
    rintro ⟨c, hc, hhandles, -⟩
    cases List.mem_singleton.1 hc
    cases hhandles

end MessageConverter

end Conneg
