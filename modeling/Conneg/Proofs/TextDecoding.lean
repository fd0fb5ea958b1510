import Conneg.Proofs.Content

/-!
# Conneg.Proofs.TextDecoding

Bytes as the codec of texts decodes them.

1. If the headers name another character set than UTF-8, bytes are refused, whatever
   they are. Otherwise they are decoded as UTF-8, and only the headers' character set
   matters for that.
2. Bytes are those of a text, or decoding them fails behind the longest text in front
   (`decodeText_cases`). So they give a text or an error (`text_decode_bytes_cases`).
3. Main statement: `text_decodes_exactly_utf8`.
-/

namespace Conneg.Codec

open Text

variable {m : Message} {bs : List UInt8} {target : PayloadType}

/-! ## by character set -/

/-- Where no other character set is named, bytes are decoded as UTF-8. -/
theorem text_decode_of_utf8 (hpayload : m.payload = .bytes bs)
    (hutf8 : ∀ charset, m.headers.map.NamesCharset charset → NamesUtf8 charset) :
    text.decode m target = (decodeText bs).map some := by
  rw [text_decode_of_bytes hpayload, decodeWith_of_utf8 hutf8]

theorem text_decode_of_foreign (hpayload : m.payload = .bytes bs) {charset : String}
    (hnamed : m.headers.map.NamesCharset charset) (hother : ¬ NamesUtf8 charset) :
    text.decode m target = .error (.unsupportedCharset charset) := by
  rw [text_decode_of_bytes hpayload, decodeWith_of_foreign hnamed hother]
  rfl

/-! ## what UTF-8 is decoded to -/

/-- Bytes are those of a text, or decoding them fails behind the longest text in front. -/
theorem decodeText_cases (bs : List UInt8) :
    (∃ s : String, Utf8.encode s.toList = bs) ∨
      ∃ e, decodeText bs = .error (.invalidText e) ∧ Utf8.LongestText bs e.index := by
  cases hdecode : Utf8.decode bs with
  | ok cs =>
    refine .inl ⟨String.ofList cs, ?_⟩
    rw [String.toList_ofList]
    exact Utf8.decode_eq_ok_iff.1 hdecode
  | error e =>
    refine .inr ⟨e, ?_, Utf8.longestText_of_decode hdecode⟩
    rw [decodeText, hdecode]

/-- Then the bytes of a text give the text. -/
theorem text_decode_encoded {s : String} (hpayload : m.payload = .bytes (Utf8.encode s.toList))
    (hutf8 : ∀ charset, m.headers.map.NamesCharset charset → NamesUtf8 charset) :
    text.decode m target = .ok (some (.text s)) := by
  rw [text_decode_of_utf8 hpayload hutf8, decodeText_encode]
  rfl

/-- Bytes of no text fail where their longest text in front ends. -/
theorem text_decode_of_not_text (hpayload : m.payload = .bytes bs)
    (hutf8 : ∀ charset, m.headers.map.NamesCharset charset → NamesUtf8 charset)
    (hno : ∀ s, Utf8.encode s ≠ bs) :
    ∃ e, text.decode m target = .error (.invalidText e) ∧ Utf8.LongestText bs e.index := by
  obtain ⟨s, hs⟩ | ⟨e, herror, hlongest⟩ := decodeText_cases bs
  · exact absurd hs (hno s.toList)
  · refine ⟨e, ?_, hlongest⟩
    rw [text_decode_of_utf8 hpayload hutf8, herror]
    rfl

/-- Bytes that are decoded at all are those of the text they are decoded as. -/
theorem text_decode_bytes_cases (hpayload : m.payload = .bytes bs) :
    (∃ e, text.decode m target = .error e) ∨
      ∃ s : String, Utf8.encode s.toList = bs ∧ text.decode m target = .ok (some (.text s)) := by
  obtain hutf8 | ⟨charset, hnamed, hother⟩ := utf8_or_foreign m.headers.map
  · obtain ⟨s, rfl⟩ | ⟨e, herror, -⟩ := decodeText_cases bs
    · exact .inr ⟨s, rfl, text_decode_encoded hpayload hutf8⟩
    · refine .inl ⟨.invalidText e, ?_⟩
      rw [text_decode_of_utf8 hpayload hutf8, herror]
      rfl
  · exact .inl ⟨_, text_decode_of_foreign hpayload hnamed hother⟩

/-- **Bytes are decoded as UTF-8 and as nothing else.** A text is decoded only from its own
bytes, which are those that it is encoded as, and bytes always give a text or an error. They
are refused if another character set than UTF-8 is named. Otherwise every text is decoded
from its bytes, and bytes of no text fail at an index that is the length of their longest
front that is a text. -/
theorem text_decodes_exactly_utf8 (bs : List UInt8) (headers : HeaderSet) (target : PayloadType) :
    let answer := text.decode ⟨.bytes bs, headers⟩ target
    (∀ v, answer = .ok (some v) → ∃ s, v = .text s ∧ Utf8.encode s.toList = bs ∧
        ∀ given, text.encode v given .binary = .ok (.bytes bs)) ∧
      answer ≠ .ok none ∧
      (∀ charset, headers.map.NamesCharset charset → ¬ NamesUtf8 charset →
        answer = .error (.unsupportedCharset charset)) ∧
      ((∀ charset, headers.map.NamesCharset charset → NamesUtf8 charset) →
        (∀ s, Utf8.encode s.toList = bs → answer = .ok (some (.text s))) ∧
          ((∀ s, Utf8.encode s ≠ bs) → ∃ e, answer = .error (.invalidText e) ∧
            Utf8.LongestText bs e.index ∧
            ∃ what, (CodecError.invalidText e).message =
              what ++ " from index " ++ toString e.index)) := by
  intro answer
  have hcases : (∃ e, answer = .error e) ∨
      ∃ s : String, Utf8.encode s.toList = bs ∧ answer = .ok (some (.text s)) :=
    text_decode_bytes_cases rfl
  refine ⟨fun v hv => ?_, fun hnone => ?_,
    fun charset hnamed hother => text_decode_of_foreign rfl hnamed hother,
    fun hutf8 => ⟨?_, fun hno => ?_⟩⟩
  · obtain ⟨e, herror⟩ | ⟨s, rfl, htext⟩ := hcases
    · cases herror.symm.trans hv
    · cases htext.symm.trans hv
      exact ⟨s, rfl, rfl, fun _ => rfl⟩
  · obtain ⟨e, herror⟩ | ⟨s, -, htext⟩ := hcases
    · cases herror.symm.trans hnone
    · cases htext.symm.trans hnone
  · rintro s rfl
    exact text_decode_encoded rfl hutf8
  · have hfailed : ∃ e, answer = .error (.invalidText e) ∧ Utf8.LongestText bs e.index :=
      text_decode_of_not_text rfl hutf8 hno
    obtain ⟨e, herror, hlongest⟩ := hfailed
    exact ⟨e, herror, hlongest, e.message_eq⟩

end Conneg.Codec
