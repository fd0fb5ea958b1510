import Conneg.Codec.Text
import Conneg.Proofs.Conversion
import Conneg.Proofs.Filling
import Conneg.Proofs.ReadBack
import Conneg.Proofs.Resolution

/-!
# Conneg.Proofs.Acceptance

Converters that read the content type from its header accept what they make.

1. `Converter.ReadsHeader`: there is no resolver, or one that reads the header.
2. A content type that is filled in was written from a supported one, and is read
   back as that one. So filling in keeps headers acceptable (`accepts_filled`).
3. `accepts_of_made`: the headers of a message that was made are acceptable.
4. Main statement: `accepts_own_messages`. The only condition on the codec is that
   the content types it gives are supported (`Codec.DefaultsToSupported`).
-/

namespace Conneg

namespace HeaderResolver

/-- What is resolved depends on the content type header alone. -/
theorem resolve_congr (r : HeaderResolver) {headers headers' : Option HeaderMap}
    (h : headers.bind (·.get? contentTypeName) = headers'.bind (·.get? contentTypeName)) :
    r.resolve headers = r.resolve headers' := by
  unfold resolve
  rw [h]

end HeaderResolver

namespace Converter

/-- The content type is read from its header, or not at all. -/
def ReadsHeader (c : Converter) : Prop :=
  c.resolver = none ∨ ∃ r : HeaderResolver, c.resolver = some r.toResolver

section

variable {c : Converter} {headers : Option HeaderMap} {type : Option MediaType}

/-- Headers are alike acceptable if every resolver answers alike. -/
theorem ReadsHeader.accepts_of_resolve (hc : c.ReadsHeader) {headers' : Option HeaderMap}
    (h : ∀ r : HeaderResolver, (r.resolve headers).value = (r.resolve headers').value) :
    (c.accepts headers).value = (c.accepts headers').value := by
  have hresolve : (c.resolve headers).value = (c.resolve headers').value := by
    unfold resolve
    obtain hr | ⟨r, hr⟩ := hc
    · rw [hr]
    · rw [hr]
      exact h r
  rw [value_accepts, value_accepts, hresolve]

/-- What is acceptable depends on the content type header alone. -/
theorem ReadsHeader.accepts_congr (hc : c.ReadsHeader) {headers' : Option HeaderMap}
    (h : headers.bind (·.get? contentTypeName) = headers'.bind (·.get? contentTypeName)) :
    (c.accepts headers).value = (c.accepts headers').value :=
  hc.accepts_of_resolve fun r => congrArg Logged.value (r.resolve_congr h)

/-- The converter accepts what it writes. -/
theorem ReadsHeader.accepts_written (hc : c.ReadsHeader) {h : HeaderMap} {m : MediaType}
    (hm : h.get? contentTypeName = some (.string m.text)) (hsupported : m ∈ c.supported)
    (ha : (c.accepts headers).value = true) : (c.accepts (some h)).value = true := by
  obtain hr | ⟨r, hr⟩ := hc
  · have hnone : ∀ headers', (c.resolve headers').value = none := by
      intro headers'
      unfold resolve
      rw [hr]
      rfl
    rw [value_accepts, hnone] at ha ⊢
    exact ha
  · have hlabelled : Labelled (contentEntry (some h)) m := ⟨m.text, hm, MediaType.parse_text m⟩
    have hresolve : (c.resolve (some h)).value = some m := value_resolve_labelled hr hlabelled
    have hany : c.supported.any (·.sameKind m) = true :=
      List.any_eq_true.2 ⟨m, hsupported, MediaType.sameKind_self m⟩
    rw [value_accepts, hresolve, acceptsType, hany, Bool.or_true]

/-- Filling in a supported content type keeps headers acceptable. -/
theorem ReadsHeader.accepts_filled (hc : c.ReadsHeader)
    (htype : ∀ m ∈ type, m ∈ c.supported) (h : (c.accepts headers).value = true) :
    (c.accepts (some ((headers.getD .empty).filled type))).value = true := by
  have hget := (headers.getD .empty).get?_filled type contentTypeName
  rw [if_pos rfl] at hget
  have hgetD : (headers.getD .empty).get? contentTypeName =
      headers.bind (·.get? contentTypeName) := by
    cases headers <;> rfl
  rw [hgetD] at hget
  have hkept (hsame : ((headers.getD .empty).filled type).get? contentTypeName =
      headers.bind (·.get? contentTypeName)) :
      (c.accepts (some ((headers.getD .empty).filled type))).value = true := by
    have hsome : (some ((headers.getD .empty).filled type)).bind (·.get? contentTypeName) =
        headers.bind (·.get? contentTypeName) := hsame
    rw [hc.accepts_congr hsome]
    exact h
  -- the content type is another one only where none was given and there is one to fill in
  cases hgiven : headers.bind (·.get? contentTypeName) with
  | some v =>
    rw [hgiven, Option.some_or, ← hgiven] at hget
    exact hkept hget
  | none =>
    rw [hgiven, Option.none_or] at hget
    cases type with
    | none =>
      rw [Option.map_none, ← hgiven] at hget
      exact hkept hget
    | some m => exact hc.accepts_written hget (htype m rfl) h

end

/-- **What a converter makes, it accepts.** A message that was made has headers that
the converter finds acceptable, if its codec gives supported content types only. -/
theorem accepts_of_made {c : Converter} {fresh : Stamp} {p : Payload} {headers : Option Headers}
    {m : Message} (hc : c.ReadsHeader)
    (hdefault : ∀ encoded, ∀ type ∈ c.defaultContentType encoded, type ∈ c.supported)
    (h : (c.toMessage fresh p headers).value.outcome = .ok (some m)) :
    (c.accepts (some m.headers.map)).value = true := by
  obtain ⟨hgate, -, hheaders⟩ := encoded_of_made h
  rw [hheaders, Headers.map_complete]
  exact hc.accepts_filled (hdefault m.payload) (canEncode_iff.1 hgate).2

end Converter

/-! ## its own messages -/

/-- The codec gives an encoded payload a supported content type or none. -/
def Codec.DefaultsToSupported (codec : Codec) : Prop :=
  ∀ (encoded : Payload) (supported : List MediaType),
    ∀ type ∈ codec.defaultContentType encoded supported, type ∈ supported

/-- So do codecs that leave the choice to the order of the supported types. -/
theorem Codec.defaultsToSupported_of_head {codec : Codec}
    (h : codec.defaultContentType = fun _ supported => supported.head?) :
    codec.DefaultsToSupported := by
  intro encoded supported type htype
  rw [h] at htype
  exact List.mem_of_mem_head? htype

namespace Converter

/-- **A converter accepts its own messages**, strict or lenient, whatever it supports
and under whatever headers the message was made: it finds their content type
acceptable, and so it decodes them into every type that its codec supports. -/
theorem accepts_own_messages {c : Converter} {fresh : Stamp} {p : Payload}
    {headers : Option Headers} {m : Message} (hc : c.ReadsHeader)
    (hcodec : c.codec.DefaultsToSupported)
    (h : (c.toMessage fresh p headers).value.outcome = .ok (some m)) :
    (c.accepts (some m.headers.map)).value = true ∧
      ∀ target, (c.canDecode m target).value = c.codec.supports target := by
  have haccepts := accepts_of_made hc (fun encoded => hcodec encoded c.supported) h
  refine ⟨haccepts, fun target => ?_⟩
  rw [Bool.eq_iff_iff, canDecode_iff]
  exact and_iff_left haccepts

/-- A strict converter whose resolver takes messages without a content type for
another spelling of the supported one. -/
theorem accepts_own_messages_strict :
    let json : MediaType := .application "hal+json".toList (by decide)
    let xml : MediaType := .application "hal+xml".toList (by decide)
    let c : Converter := ⟨.text, [json], some (HeaderResolver.toResolver ⟨some xml⟩), true, .text⟩
    ∃ m, (c.toMessage 1 (.text "a") none).value.outcome = .ok (some m) ∧
      m.headers.map.get? contentTypeName = some (.string "application/hal+json") ∧
      (c.accepts (some m.headers.map)).value = true ∧
      (c.canDecode m .text).value = true := by
  intro json xml c
  have hmade : (c.toMessage 1 (.text "a") none).value.outcome =
      .ok (some ⟨.text "a",
        ⟨1, HeaderMap.empty.insert contentTypeName (.string "application/hal+json")⟩⟩) := by
    subst c xml json
    rfl
  obtain ⟨haccepts, hdecodes⟩ :=
    accepts_own_messages (.inr ⟨_, rfl⟩) (Codec.defaultsToSupported_of_head rfl) hmade
  exact ⟨_, hmade, rfl, haccepts, hdecodes .text⟩

end Converter

end Conneg
