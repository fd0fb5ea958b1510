import Conneg.Codec.Text
import Conneg.Proofs.Configuration
import Conneg.Proofs.Conversion
import Conneg.Proofs.RoundTrip

/-!
# Conneg.Proofs.Strict

What strict matching guarantees, whatever the codec and the resolver.

1. A strict converter that is well configured lets through only what resolves
   to a supported content type (`resolvesToSupported_of_accepts`).
2. Where the headers resolve, strictness makes no difference at all, neither to
   answers nor to headers nor to what is logged (`accepts_lenient`).
3. Main statement: `strict_guarantee`, over every converter that configuration
   reaches.
-/

namespace Conneg.Converter

/-- The resolver finds this content type in the headers. -/
def Resolves (c : Converter) (headers : Option HeaderMap) (type : MediaType) : Prop :=
  ∃ r, c.resolver = some r ∧ (r.resolve headers).value = some type

/-- The resolver finds a content type that is supported, in type and subtype. -/
def ResolvesToSupported (c : Converter) (headers : Option HeaderMap) : Prop :=
  ∃ type, c.Resolves headers type ∧
    ∃ s ∈ c.supported, s.type = type.type ∧ s.subtype = type.subtype

/-- The same converter with strict matching off. -/
def lenient (c : Converter) : Converter := { c with strict := false }

section

variable {c : Converter} {headers : Option HeaderMap}

/-! ## resolving -/

/-- Resolving is what the resolver of the converter does, if it has one. -/
theorem value_resolve_eq_some_iff {type : MediaType} :
    (c.resolve headers).value = some type ↔ c.Resolves headers type := by
  unfold resolve Resolves
  cases hr : c.resolver with
  | none => simp
  | some r => simp

/-! ## the strict gate -/

/-- Nothing else is let through. Without the invariant an empty list of supported
types would let everything through. -/
theorem resolvesToSupported_of_accepts (hc : c.WellConfigured) (hs : c.strict = true)
    (h : (c.accepts headers).value = true) : c.ResolvesToSupported headers := by
  have hne : c.supported.isEmpty = false := by
    rw [List.isEmpty_eq_false_iff]
    exact (hc hs).1
  rw [value_accepts, hne, Bool.false_or] at h
  cases hr : (c.resolve headers).value with
  | none =>
    rw [hr, acceptsType, hs] at h
    cases h
  | some type =>
    rw [hr] at h
    exact ⟨type, value_resolve_eq_some_iff.1 hr, acceptsType_some_iff.1 h⟩

/-- What does not resolve is not let through. -/
theorem accepts_eq_false_of_strict (hc : c.WellConfigured) (hs : c.strict = true)
    (h : ¬ ∃ type, c.Resolves headers type) : (c.accepts headers).value = false := by
  cases ha : (c.accepts headers).value with
  | false => rfl
  | true =>
    obtain ⟨type, htype, -⟩ := resolvesToSupported_of_accepts hc hs ha
    exact absurd ⟨type, htype⟩ h

/-! ## the lenient twin -/

/-- Strictness makes a difference only where nothing is resolved. -/
theorem accepts_lenient (h : ∃ type, c.Resolves headers type) :
    c.lenient.accepts headers = c.accepts headers := by
  obtain ⟨type, htype⟩ := h
  have hr := value_resolve_eq_some_iff.2 htype
  have hl : (c.lenient.resolve headers).value = some type := hr
  unfold accepts
  show (if c.supported.isEmpty then _ else _) = (if c.supported.isEmpty then _ else _)
  cases c.supported.isEmpty with
  | true => rfl
  | false =>
    apply Logged.ext
    · simp only [Bool.false_eq_true, if_false, Logged.value_bind, Logged.value_pure, hr, hl]
      rfl
    · rfl

/-- The gates of the twins are the same for messages whose headers resolve. -/
theorem canDecode_lenient {m : Message} {target : PayloadType}
    (h : ∃ type, c.Resolves (some m.headers.map) type) :
    c.lenient.canDecode m target = c.canDecode m target := by
  unfold canDecode
  rw [accepts_lenient h]
  rfl

theorem canEncode_lenient {p : Payload} (h : ∃ type, c.Resolves headers type) :
    c.lenient.canEncode p headers = c.canEncode p headers := by
  unfold canEncode
  rw [accepts_lenient h]
  rfl

/-- So is what the twins decode, and what they log. -/
theorem fromMessage_lenient {m : Message} {target : PayloadType}
    (h : ∃ type, c.Resolves (some m.headers.map) type) :
    c.lenient.fromMessage m target = c.fromMessage m target := by
  unfold fromMessage
  rw [canDecode_lenient h]
  rfl

/-- So is what they make, down to the headers that the caller holds. -/
theorem toMessage_lenient {fresh : Stamp} {p : Payload} {headers : Option Headers}
    (h : ∃ type, c.Resolves (headers.map Headers.map) type) :
    c.lenient.toMessage fresh p headers = c.toMessage fresh p headers := by
  unfold toMessage
  dsimp only
  rw [canEncode_lenient h]
  rfl

end

/-! ## the guarantee -/

/-- **What strict matching guarantees**, for every codec, every resolver and every
run of configuration. A strict converter answers with a value or an error only
where the headers resolve to a supported content type. Where they resolve, it is
no different from its lenient twin, down to the headers that the caller holds
afterwards and the events that are logged. Where they do not, it declines and
leaves the caller's headers as they were. -/
theorem strict_guarantee {codec : Codec} {types : List MediaType} {c : Converter}
    (h : Reached codec types c) (hs : c.strict = true) :
    (∀ (m : Message) (target : PayloadType),
        ((c.fromMessage m target).value ≠ .ok none →
          c.ResolvesToSupported (some m.headers.map)) ∧
        ((∃ type, c.Resolves (some m.headers.map) type) →
          c.fromMessage m target = c.lenient.fromMessage m target) ∧
        ((¬ ∃ type, c.Resolves (some m.headers.map) type) →
          (c.fromMessage m target).value = .ok none)) ∧
      ∀ (fresh : Stamp) (p : Payload) (headers : Option Headers),
        ((c.toMessage fresh p headers).value.outcome ≠ .ok none →
          c.ResolvesToSupported (headers.map Headers.map)) ∧
        ((∃ type, c.Resolves (headers.map Headers.map) type) →
          c.toMessage fresh p headers = c.lenient.toMessage fresh p headers) ∧
        ((¬ ∃ type, c.Resolves (headers.map Headers.map) type) →
          (c.toMessage fresh p headers).value = ⟨.ok none, headers⟩) := by
  have hc := h.configured.wellConfigured
  constructor
  · intro m target
    refine ⟨fun hne => ?_, fun hr => (fromMessage_lenient hr).symm, fun hr => ?_⟩
    · apply resolvesToSupported_of_accepts hc hs
      cases ha : (c.accepts (some m.headers.map)).value with
      | true => rfl
      | false => exact absurd (fromMessage_of_not_accepts ha) hne
    · exact fromMessage_of_not_accepts (accepts_eq_false_of_strict hc hs hr)
  · intro fresh p headers
    refine ⟨fun hne => ?_, fun hr => (toMessage_lenient hr).symm, fun hr => ?_⟩
    · apply resolvesToSupported_of_accepts hc hs
      cases ha : (c.accepts (headers.map Headers.map)).value with
      | true => rfl
      | false =>
        rw [toMessage_of_not_accepts ha] at hne
        exact absurd rfl hne
    · exact toMessage_of_not_accepts (accepts_eq_false_of_strict hc hs hr)

/-- A strict converter of texts, once without a content type and once under one
that resolves. In both directions it declines the former; under the latter it
answers as its lenient twin does, with a message and with the text of it. -/
theorem strict_guarantee_text :
    let c : Converter := { ofCodec .text with strict := true }
    let typed : HeaderSet := ⟨0, HeaderMap.empty.insert contentTypeName (.string "text/plain")⟩
    let made : Message := ⟨.bytes [97], ⟨1, typed.map⟩⟩
    let untyped : Message := ⟨.bytes [97], ⟨1, .empty⟩⟩
    Reached .text [.textPlainUtf8] c ∧ c.strict = true ∧
      ((c.toMessage 1 (.text "a") none).value = ⟨.ok none, none⟩ ∧
        (c.toMessage 1 (.text "a") (some (.frozen typed))).value.outcome = .ok (some made) ∧
        c.ResolvesToSupported (some typed.map) ∧
        c.toMessage 1 (.text "a") (some (.frozen typed)) =
          c.lenient.toMessage 1 (.text "a") (some (.frozen typed))) ∧
      (c.fromMessage untyped .text).value = .ok none ∧
      (c.fromMessage made .text).value = .ok (some (.text "a")) ∧
      c.ResolvesToSupported (some made.headers.map) ∧
      c.fromMessage made .text = c.lenient.fromMessage made .text := by
  intro c typed made untyped
  have hc : Reached .text [.textPlainUtf8] c := .call (.setStrict true) .ofCodec rfl
  obtain ⟨hfrom, hto⟩ := strict_guarantee hc rfl
  have hnone : ¬ ∃ type, c.Resolves none type := by
    rintro ⟨type, r, hr, htype⟩
    cases hr
    cases htype
  have hempty : ¬ ∃ type, c.Resolves (some .empty) type := by
    rintro ⟨type, r, hr, htype⟩
    cases hr
    cases htype
  have hresolved : c.Resolves (some typed.map) .textPlain := ⟨_, rfl, rfl⟩
  have hmade : (c.toMessage 1 (.text "a") (some (.frozen typed))).value.outcome =
      .ok (some made) := rfl
  have hdecode : c.codec.decode made .text = .ok (some (.text "a")) :=
    congrArg (·.map some) (Codec.decodeText_encode "a")
  have hread : (c.fromMessage made .text).value = .ok (some (.text "a")) := by
    rw [fromMessage_decoded (by decide +kernel), hdecode]
    rfl
  refine ⟨hc, rfl, ⟨?_, hmade, ?_, ?_⟩, ?_, hread, ?_, ?_⟩
  · exact (hto 1 (.text "a") none).2.2 hnone
  · exact (hto 1 (.text "a") (some (.frozen typed))).1 (by simp [hmade])
  · exact (hto 1 (.text "a") (some (.frozen typed))).2.1 ⟨_, hresolved⟩
  · exact (hfrom untyped .text).2.2 hempty
  · exact (hfrom made .text).1 (by simp [hread])
  · exact (hfrom made .text).2.1 ⟨_, hresolved⟩

end Conneg.Converter
