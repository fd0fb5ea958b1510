import Conneg.Converter.Conversion

/-!
# Conneg.Proofs.Conversion

What one converter comes to, said by its gate and its codec.

1. The gate lets through what has a type of the codec and an acceptable content
   type (`canDecode_iff`, `canEncode_iff`).
2. What is not let through is answered with nothing, and the headers are left
   alone. What is let through is answered with what the codec does.
3. `toMessage_cases` lists all that making a message can do; what holds of
   every conversion is proved from it without opening `toMessage` again.
-/

namespace Conneg.Converter

section

variable {c : Converter} {m : Message} {target : PayloadType} {fresh : Stamp} {p : Payload}
  {headers : Option Headers}

/-! ## the gate -/

/-- The gate for messages looks at the target type and the content type. -/
theorem canDecode_iff :
    (c.canDecode m target).value = true ↔
      c.codec.supports target = true ∧ (c.accepts (some m.headers.map)).value = true := by
  unfold canDecode
  cases c.codec.supports target <;> simp

/-- The gate for payloads looks at their type and at the content type in the given
headers. -/
theorem canEncode_iff {headers : Option HeaderMap} :
    (c.canEncode p headers).value = true ↔
      c.codec.supports p.type = true ∧ (c.accepts headers).value = true := by
  unfold canEncode
  cases c.codec.supports p.type <;> simp

/-- What is acceptable, given what the resolver answers. -/
theorem value_accepts (c : Converter) (headers : Option HeaderMap) :
    (c.accepts headers).value =
      (c.supported.isEmpty || c.acceptsType (c.resolve headers).value) := by
  unfold accepts
  cases c.supported.isEmpty <;> simp

/-- What is acceptable among content types that are resolved. -/
theorem acceptsType_some_iff {type : MediaType} :
    c.acceptsType (some type) = true ↔
      ∃ s ∈ c.supported, s.type = type.type ∧ s.subtype = type.subtype := by
  simp only [acceptsType, List.any_eq_true, MediaType.sameKind_iff]

/-! ## decoding -/

/-- What is not let through is answered with nothing. -/
theorem fromMessage_declined (h : (c.canDecode m target).value = false) :
    (c.fromMessage m target).value = .ok none := by
  simp [fromMessage, h]

theorem fromMessage_of_not_accepts (h : (c.accepts (some m.headers.map)).value = false) :
    (c.fromMessage m target).value = .ok none := by
  apply fromMessage_declined
  rw [Bool.eq_false_iff]
  intro hgate
  rw [(canDecode_iff.1 hgate).2] at h
  cases h

/-- What is let through is answered as the codec answers, errors wrapped. -/
theorem fromMessage_decoded (h : (c.canDecode m target).value = true) :
    (c.fromMessage m target).value = (c.codec.decode m target).mapError .decode := by
  unfold fromMessage
  rw [Logged.value_bind, if_pos h]
  cases c.codec.decode m target with
  | error e => rfl
  | ok value => rfl

/-- Only declining is logged here; the gate may log more before. -/
theorem events_fromMessage (c : Converter) (m : Message) (target : PayloadType) :
    (c.fromMessage m target).events =
      (c.canDecode m target).events ++
        if (c.canDecode m target).value then [] else [.messageDeclined] := by
  unfold fromMessage
  cases h : (c.canDecode m target).value with
  | false => simp [h]
  | true => cases c.codec.decode m target <;> simp [h]

/-! ## encoding -/

/-- What is not let through leaves the headers as they were. -/
theorem toMessage_declined (h : (c.canEncode p (headers.map Headers.map)).value = false) :
    (c.toMessage fresh p headers).value = ⟨.ok none, headers⟩ := by
  simp [toMessage, h]

theorem toMessage_of_not_accepts (h : (c.accepts (headers.map Headers.map)).value = false) :
    (c.toMessage fresh p headers).value = ⟨.ok none, headers⟩ := by
  apply toMessage_declined
  rw [Bool.eq_false_iff]
  intro hgate
  rw [(canEncode_iff.1 hgate).2] at h
  cases h

/-- A codec that fails leaves the headers as they were, too. -/
theorem toMessage_failed {e : CodecError}
    (h : (c.canEncode p (headers.map Headers.map)).value = true)
    (he : c.codec.encode p (headers.map Headers.map) c.form = .error e) :
    (c.toMessage fresh p headers).value = ⟨.error (.encode e), headers⟩ := by
  simp [toMessage, h, he]

/-- A message holds what the codec encoded, under headers completed for that. -/
theorem toMessage_made {encoded : Payload}
    (h : (c.canEncode p (headers.map Headers.map)).value = true)
    (he : c.codec.encode p (headers.map Headers.map) c.form = .ok encoded) :
    (c.toMessage fresh p headers).value =
      let completed := Headers.complete fresh (c.defaultContentType encoded) headers
      ⟨.ok (some ⟨encoded, completed.1⟩), completed.2⟩ := by
  simp [toMessage, h, he]

/-- All that making a message can do. -/
theorem toMessage_cases (c : Converter) (fresh : Stamp) (p : Payload) (headers : Option Headers) :
    ((c.canEncode p (headers.map Headers.map)).value = false ∧
        (c.toMessage fresh p headers).value = ⟨.ok none, headers⟩) ∨
      (∃ e, (c.canEncode p (headers.map Headers.map)).value = true ∧
        c.codec.encode p (headers.map Headers.map) c.form = .error e ∧
        (c.toMessage fresh p headers).value = ⟨.error (.encode e), headers⟩) ∨
      ∃ encoded, (c.canEncode p (headers.map Headers.map)).value = true ∧
        c.codec.encode p (headers.map Headers.map) c.form = .ok encoded ∧
        (c.toMessage fresh p headers).value =
          let completed := Headers.complete fresh (c.defaultContentType encoded) headers
          ⟨.ok (some ⟨encoded, completed.1⟩), completed.2⟩ := by
  cases h : (c.canEncode p (headers.map Headers.map)).value with
  | false => exact .inl ⟨rfl, toMessage_declined h⟩
  | true =>
    cases he : c.codec.encode p (headers.map Headers.map) c.form with
    | error e => exact .inr (.inl ⟨e, rfl, rfl, toMessage_failed h he⟩)
    | ok encoded => exact .inr (.inr ⟨encoded, rfl, rfl, toMessage_made h he⟩)

/-- A message is made of what the gate lets through and the codec encodes, and its
headers are the given ones, completed. -/
theorem encoded_of_made (h : (c.toMessage fresh p headers).value.outcome = .ok (some m)) :
    (c.canEncode p (headers.map Headers.map)).value = true ∧
      c.codec.encode p (headers.map Headers.map) c.form = .ok m.payload ∧
      m.headers = (Headers.complete fresh (c.defaultContentType m.payload) headers).1 := by
  obtain ⟨-, hv⟩ | ⟨e, -, -, hv⟩ | ⟨encoded, hgate, he, hv⟩ := c.toMessage_cases fresh p headers
  · rw [hv] at h
    cases h
  · rw [hv] at h
    cases h
  · rw [hv] at h
    cases h
    exact ⟨hgate, he, rfl⟩

/-- Only declining is logged here; the gate may log more before. -/
theorem events_toMessage (c : Converter) (fresh : Stamp) (p : Payload)
    (headers : Option Headers) :
    (c.toMessage fresh p headers).events =
      (c.canEncode p (headers.map Headers.map)).events ++
        if (c.canEncode p (headers.map Headers.map)).value then [] else [.payloadDeclined] := by
  unfold toMessage
  cases h : (c.canEncode p (headers.map Headers.map)).value with
  | false => simp [h]
  | true => cases he : c.codec.encode p (headers.map Headers.map) c.form <;> simp [h, he]

end

end Conneg.Converter
