import Conneg.Proofs.HeaderFrame
import Conneg.Proofs.HeaderModes
import Conneg.Proofs.RoundTrip

/-!
# Conneg.Proofs.Noninterference

Of the headers, only the content type has a part in conversions of texts and of bytes.

1. `HeaderMap.AgreeOn`: two maps have the same entry under a name. Maps that agree on
   the content type resolve to the same and name the same character set.
2. So a converter gates and decodes alike under both maps, and it encodes without a look
   at them. Filling in changes neither where they agree nor where they differ
   (`agreeOn_filled_iff`).
3. `OutcomesMatch` relates what comes of two runs. A tree passes it on from its leaves, as
   the same leaf answers first in both runs (`outcomesMatch_of_leaves`).
4. Main statement: `depends_on_content_type`.
-/

namespace Conneg

/-- The canonical form changes numbers only, so strings stay the same. -/
theorem Json.string?_canonical (v : Json) : v.canonical.string? = v.string? := by
  cases v <;> simp only [Json.canonical, Json.string?]

/-! ## maps that agree -/

namespace HeaderMap

/-- The maps have the same value under the name, or both have none. Signs of zeros make no
difference. -/
def AgreeOn (g h : HeaderMap) (name : String) : Prop :=
  (g.get? name).map Json.canonical = (h.get? name).map Json.canonical

instance (g h : HeaderMap) (name : String) : Decidable (g.AgreeOn h name) :=
  inferInstanceAs (Decidable (_ = _))

variable {g h : HeaderMap}

/-- Filling in keeps agreement and difference in every entry. -/
theorem agreeOn_filled_iff (hagree : g.AgreeOn h contentTypeName) (type : Option MediaType)
    (name : String) : (g.filled type).AgreeOn (h.filled type) name ↔ g.AgreeOn h name := by
  by_cases hname : name = contentTypeName
  · rw [hname]
    refine iff_of_true ?_ hagree
    unfold AgreeOn at hagree ⊢
    rw [get?_filled, get?_filled, if_pos rfl, if_pos rfl, Option.map_or, Option.map_or, hagree]
  · unfold AgreeOn
    rw [get?_filled, get?_filled, if_neg hname, if_neg hname]

/-- Maps that agree on the content type have the same media type. -/
theorem AgreeOn.contentType?_eq (hagree : g.AgreeOn h contentTypeName) :
    g.contentType? = h.contentType? := by
  have htext : ∀ m : HeaderMap, m.contentType? =
      ((m.get? contentTypeName).map Json.canonical).bind fun v =>
        v.string?.bind fun raw => (MediaType.parse raw).toOption := by
    intro m
    unfold contentType?
    cases m.get? contentTypeName with
    | none => rfl
    | some v =>
      rw [Option.map_some, Option.bind_some, v.string?_canonical]
      rfl
  rw [htext, htext, hagree]

/-- They name the same character set. -/
theorem AgreeOn.charset?_eq (hagree : g.AgreeOn h contentTypeName) :
    Codec.charset? g = Codec.charset? h := by
  rw [Codec.charset?, Codec.charset?, hagree.contentType?_eq]

/-- The same content type is resolved. What is warned about may differ in signs of
zeros. -/
theorem AgreeOn.value_resolve_eq (hagree : g.AgreeOn h contentTypeName) (r : HeaderResolver) :
    (r.resolve (some g)).value = (r.resolve (some h)).value := by
  have hcanonical : ∀ v : Json, (r.resolveValue v.canonical).value = (r.resolveValue v).value := by
    intro v
    cases v <;> simp only [Json.canonical] <;> rfl
  have hresolve : ∀ m : HeaderMap, (r.resolve (some m)).value =
      ((m.get? contentTypeName).map Json.canonical).elim r.default? fun v =>
        (r.resolveValue v).value := by
    intro m
    unfold HeaderResolver.resolve
    rw [Option.bind_some]
    cases m.get? contentTypeName with
    | none => rfl
    | some v => exact (hcanonical v).symm
  rw [hresolve, hresolve, hagree]

end HeaderMap

/-! ## one converter -/

namespace Converter

section

variable {c : Converter} {g h : HeaderMap} {x y : Option Headers} {p : Payload}

/-- What resolves the header alone accepts both or neither. -/
theorem ReadsHeader.accepts_agree (hc : c.ReadsHeader) (hagree : g.AgreeOn h contentTypeName) :
    (c.accepts (some g)).value = (c.accepts (some h)).value :=
  hc.accepts_of_resolve hagree.value_resolve_eq

/-- No headers are acceptable like headers without entries. -/
theorem ReadsHeader.accepts_entriesOf (hc : c.ReadsHeader) (x : Option Headers) :
    (c.accepts (x.map Headers.map)).value = (c.accepts (some (Headers.entriesOf x))).value :=
  hc.accepts_congr (Headers.get?_entriesOf x contentTypeName).symm

/-- The gate for messages is open for both or for neither. -/
theorem Plain.canDecode_agree (hc : c.Plain) (hagree : g.AgreeOn h contentTypeName) (s s' : Stamp)
    (target : PayloadType) :
    (c.canDecode ⟨p, ⟨s, g⟩⟩ target).value = (c.canDecode ⟨p, ⟨s', h⟩⟩ target).value := by
  rw [Bool.eq_iff_iff, canDecode_iff, canDecode_iff, hc.readsHeader.accepts_agree hagree]

/-- The gate for payloads as well, and missing headers count as empty ones. -/
theorem Plain.canEncode_agree (hc : c.Plain)
    (hagree : (Headers.entriesOf x).AgreeOn (Headers.entriesOf y) contentTypeName) :
    (c.canEncode p (x.map Headers.map)).value = (c.canEncode p (y.map Headers.map)).value := by
  rw [Bool.eq_iff_iff, canEncode_iff, canEncode_iff, hc.readsHeader.accepts_entriesOf x,
    hc.readsHeader.accepts_entriesOf y, hc.readsHeader.accepts_agree hagree]

/-- Decoding looks at the character set at most. -/
theorem Plain.decode_agree (hc : c.Plain) (hagree : g.AgreeOn h contentTypeName) (s s' : Stamp)
    (target : PayloadType) :
    c.codec.decode ⟨p, ⟨s, g⟩⟩ target = c.codec.decode ⟨p, ⟨s', h⟩⟩ target := by
  obtain hcodec | hcodec := hc.codec
  · rw [hcodec]
    simp only [Codec.text, hagree.charset?_eq]
  · rw [hcodec]
    rfl

/-- Encoding does not look at headers. -/
theorem Plain.encode_eq (hc : c.Plain) (headers headers' : Option HeaderMap)
    (form : SerializedForm) : c.codec.encode p headers form = c.codec.encode p headers' form := by
  obtain hcodec | hcodec := hc.codec <;> rw [hcodec] <;> rfl

/-- A single converter decodes alike under both. -/
theorem Plain.fromMessage_agree (hc : c.Plain) (hagree : g.AgreeOn h contentTypeName)
    (s s' : Stamp) (target : PayloadType) :
    (c.fromMessage ⟨p, ⟨s, g⟩⟩ target).value = (c.fromMessage ⟨p, ⟨s', h⟩⟩ target).value := by
  have hgate := hc.canDecode_agree (p := p) hagree s s' target
  cases hg : (c.canDecode ⟨p, ⟨s, g⟩⟩ target).value with
  | false => rw [fromMessage_declined hg, fromMessage_declined (hgate.symm.trans hg)]
  | true =>
    rw [fromMessage_decoded hg, fromMessage_decoded (hgate.symm.trans hg),
      hc.decode_agree hagree s s' target]

end

end Converter

/-! ## outcomes of two runs -/

/-- What comes of two runs is the same but for the headers of the messages, and these are
related by `E`: they agree where the given ones do, or they are equal if the entries that
were given are. -/
inductive OutcomesMatch (E : HeaderMap → HeaderMap → Prop) :
    (outcome outcome' : Except ConversionError (Option Message)) → Prop where
  | declined : OutcomesMatch E (.ok none) (.ok none)
  | failed (e : ConversionError) : OutcomesMatch E (.error e) (.error e)
  | made (p : Payload) {s s' : HeaderSet} (h : E s.map s'.map) :
      OutcomesMatch E (.ok (some ⟨p, s⟩)) (.ok (some ⟨p, s'⟩))

section

variable {E : HeaderMap → HeaderMap → Prop} {x y : Option Headers}

/-- Where one run declines, so does the other. -/
theorem OutcomesMatch.declined_iff {o o' : Except ConversionError (Option Message)}
    (h : OutcomesMatch E o o') : o = .ok none ↔ o' = .ok none := by
  cases h <;> simp

theorem OutcomesMatch.answer_eq {r r' : Conversion} (h : OutcomesMatch Eq r.outcome r'.outcome) :
    r.answer = r'.answer := by
  obtain ⟨outcome, after⟩ := r
  obtain ⟨outcome', after'⟩ := r'
  unfold Conversion.answer
  cases h with
  | declined => rfl
  | failed e => rfl
  | made p hmap => exact congrArg (fun map => Except.ok (some (p, map))) hmap

/-- Two runs of one converter match if the headers agree on the content type and are
related once they are filled in. -/
theorem Converter.Plain.outcomesMatch {c : Converter} (hc : c.Plain)
    (hagree : (Headers.entriesOf x).AgreeOn (Headers.entriesOf y) contentTypeName)
    (hfilled : ∀ type, E ((Headers.entriesOf x).filled type) ((Headers.entriesOf y).filled type))
    (fresh fresh' : Stamp) (p : Payload) :
    OutcomesMatch E (c.toMessage fresh p x).value.outcome
      (c.toMessage fresh' p y).value.outcome := by
  have hgate := hc.canEncode_agree (p := p) hagree
  have hencode := hc.encode_eq (p := p) (x.map Headers.map) (y.map Headers.map) c.form
  obtain ⟨hg, hv⟩ | ⟨e, hg, he, hv⟩ | ⟨encoded, hg, he, hv⟩ := c.toMessage_cases fresh p x
  · rw [hv, toMessage_declined (hgate.symm.trans hg)]
    exact .declined
  · rw [hv, toMessage_failed (hgate.symm.trans hg) (hencode.symm.trans he)]
    exact .failed _
  · rw [hv, toMessage_made (hgate.symm.trans hg) (hencode.symm.trans he)]
    refine .made encoded ?_
    rw [Headers.map_complete, Headers.map_complete]
    exact hfilled _

/-! ## trees -/

namespace MessageConverter

variable {t : MessageConverter}

/-- Trees whose leaves decode two messages alike decode them alike. -/
theorem value_fromMessage_congr {m m' : Message} {target : PayloadType}
    (h : ∀ c ∈ t.leaves, (c.fromMessage m target).value = (c.fromMessage m' target).value) :
    (t.fromMessage m target).value = (t.fromMessage m' target).value := by
  have hdeclines : ∀ c ∈ t.leaves, c.DeclinesMessage m target ↔ c.DeclinesMessage m' target := by
    intro c hc
    rw [Converter.DeclinesMessage, Converter.DeclinesMessage, h c hc]
  obtain ⟨c, hc⟩ | hall := firstAnswering_or_all (·.DeclinesMessage m target) t.leaves
  · rw [value_fromMessage_of_first hc, value_fromMessage_of_first (hc.congr hdeclines), h c hc.mem]
  · rw [value_fromMessage_of_all hall,
      value_fromMessage_of_all fun c hc => (hdeclines c hc).1 (hall c hc)]

/-- Two runs of a tree match if those of its leaves do. -/
theorem outcomesMatch_of_leaves {fresh fresh' : Stamp} {p : Payload}
    (h : ∀ c ∈ t.leaves, OutcomesMatch E (c.toMessage fresh p x).value.outcome
      (c.toMessage fresh' p y).value.outcome) :
    OutcomesMatch E (t.toMessage fresh p x).value.outcome
      (t.toMessage fresh' p y).value.outcome := by
  have hdeclines : ∀ c ∈ t.leaves,
      c.DeclinesPayload fresh p x ↔ c.DeclinesPayload fresh' p y :=
    fun c hc => (h c hc).declined_iff
  obtain ⟨c, hc⟩ | hall := firstAnswering_or_all (·.DeclinesPayload fresh p x) t.leaves
  · rw [value_toMessage_of_first hc, value_toMessage_of_first (hc.congr hdeclines)]
    exact h c hc.mem
  · rw [value_toMessage_of_all hall,
      value_toMessage_of_all fun c hc => (hdeclines c hc).1 (hall c hc)]
    exact .declined

/-- **Only the content type influences negotiation**, for every tree over converters of
texts and of bytes that read the content type from its header or not at all. Headers that
agree on it are acceptable to the same leaves, and messages with one payload under them
are decoded alike. One payload under both, however they are given, is declined by both
runs, fails with one error, or is encoded into one payload; then the headers of the two
messages agree exactly where the given ones do. No headers come to the same as headers
without entries. -/
theorem depends_on_content_type (hplain : ∀ c ∈ t.leaves, c.Plain) {g h : HeaderMap}
    (hagree : g.AgreeOn h contentTypeName) :
    (∀ c ∈ t.leaves, (c.accepts (some g)).value = (c.accepts (some h)).value) ∧
      (∀ (p : Payload) (s s' : Stamp) (target : PayloadType),
        (t.fromMessage ⟨p, ⟨s, g⟩⟩ target).value = (t.fromMessage ⟨p, ⟨s', h⟩⟩ target).value) ∧
      (∀ (p : Payload) (fresh fresh' : Stamp) (x y : Option Headers),
        Headers.entriesOf x = g → Headers.entriesOf y = h →
          OutcomesMatch (fun a b => ∀ name, a.AgreeOn b name ↔ g.AgreeOn h name)
            (t.toMessage fresh p x).value.outcome (t.toMessage fresh' p y).value.outcome) ∧
      ∀ (p : Payload) (fresh fresh' : Stamp) (x : Headers), x.map = .empty →
        (t.toMessage fresh p none).value.answer =
          (t.toMessage fresh' p (some x)).value.answer := by
  refine ⟨fun c hc => (hplain c hc).readsHeader.accepts_agree hagree, fun p s s' target => ?_,
    fun p fresh fresh' x y hx hy => ?_, fun p fresh fresh' x hx => ?_⟩
  · exact value_fromMessage_congr fun c hc => (hplain c hc).fromMessage_agree hagree s s' target
  · subst hx hy
    exact outcomesMatch_of_leaves fun c hc =>
      (hplain c hc).outcomesMatch hagree (HeaderMap.agreeOn_filled_iff hagree) fresh fresh' p
  · -- both runs start from no entries, so that equality can be carried along
    have hempty : Headers.entriesOf none = Headers.entriesOf (some x) := hx.symm
    refine OutcomesMatch.answer_eq (outcomesMatch_of_leaves fun c hc => ?_)
    refine (hplain c hc).outcomesMatch ?_ (fun type => ?_) fresh fresh' p
    · rw [hempty]
      rfl
    · rw [hempty]

end MessageConverter

end

/-- A strict leaf decides alike under two maps that have nothing in common but the content
type, which names a character set that bytes are not decoded from. -/
theorem MessageConverter.depends_on_content_type_latin :
    let strict : Converter := { Converter.ofCodec .text with strict := true }
    let t : MessageConverter := composite [single (.ofCodec .bytes), composite [single strict]]
    let latin := HeaderMap.empty.insert contentTypeName (.string "text/plain; charset=latin1")
    let g := latin.insert "priority" (.integer 1)
    let h := latin.insert "trace" .null
    g.AgreeOn h contentTypeName ∧ ¬ g.AgreeOn h "trace" ∧
      (strict.accepts (some g)).value = (strict.accepts (some h)).value ∧
      (t.fromMessage ⟨.bytes [97], ⟨0, g⟩⟩ .text).value =
        (t.fromMessage ⟨.bytes [97], ⟨1, h⟩⟩ .text).value ∧
      OutcomesMatch (fun a b => ∀ name, a.AgreeOn b name ↔ g.AgreeOn h name)
        (t.toMessage 2 (.text "a") (some (.frozen ⟨0, g⟩))).value.outcome
        (t.toMessage 3 (.text "a") (some (.accessor (.ofMap 1 h)))).value.outcome ∧
      (t.toMessage 4 (.text "a") none).value.answer =
        (t.toMessage 5 (.text "a") (some (.frozen ⟨0, .empty⟩))).value.answer := by
  intro strict t latin g h
  have hbytes : (Converter.ofCodec .bytes).Plain := ⟨.inr rfl, .inr ⟨_, rfl⟩⟩
  have hstrict : strict.Plain := ⟨.inl rfl, .inr ⟨_, rfl⟩⟩
  have hplain : ∀ c ∈ t.leaves, c.Plain := by
    simpa [t, leaves, leavesOfAll] using ⟨hbytes, hstrict⟩
  have hagree : g.AgreeOn h contentTypeName := by decide +kernel
  have hother : ¬ g.AgreeOn h "trace" := by decide +kernel
  obtain ⟨haccepts, hdecoded, hmade, hbare⟩ := depends_on_content_type hplain hagree
  exact ⟨hagree, hother, haccepts strict (by simp [t, leaves, leavesOfAll]), hdecoded _ 0 1 _,
    hmade _ 2 3 (some (.frozen ⟨0, g⟩)) (some (.accessor (.ofMap 1 h))) rfl rfl,
    hbare _ 4 5 (.frozen ⟨0, .empty⟩) rfl⟩

end Conneg
