import Conneg.Codec.Counter
import Conneg.Proofs.FirstLeaf
import Conneg.Proofs.RoundTrip
import Mathlib.Data.List.Pairwise

/-!
# Conneg.Proofs.Order

The order of delegates, where no two of them handle the same type.

1. A converter declines what its codec does not handle, whatever the content type
   (`declinesMessage_of_not_supports`, `declinesPayload_of_not_supports`).
2. A tree in which all leaves but one decline answers like that one
   (`value_fromMessage_of_only`, `value_toMessage_of_only`).
3. Main statement: `order_makes_no_difference`. Of delegates that share no type, at
   most one is concerned with a conversion, and it answers wherever it stands.
-/

namespace Conneg

namespace Converter

/-- No type is handled by both converters. -/
def SharesNoType (c d : Converter) : Prop :=
  ∀ type, ¬ (c.codec.supports type = true ∧ d.codec.supports type = true)

theorem SharesNoType.symm {c d : Converter} (h : c.SharesNoType d) : d.SharesNoType c :=
  fun type hboth => h type hboth.symm

instance : Std.Symm SharesNoType := ⟨fun _ _ => SharesNoType.symm⟩

section

variable {c : Converter} {m : Message} {target : PayloadType} {fresh : Stamp} {p : Payload}
  {headers : Option Headers}

/-! ## types that a codec does not handle -/

/-- A converter declines to decode into types that are not of its codec. -/
theorem declinesMessage_of_not_supports (h : c.codec.supports target ≠ true) :
    c.DeclinesMessage m target := by
  apply fromMessage_declined
  rw [Bool.eq_false_iff]
  exact fun hgate => h (canDecode_iff.1 hgate).1

/-- It declines to encode payloads of such types, too. -/
theorem declinesPayload_of_not_supports (h : c.codec.supports p.type ≠ true) :
    c.DeclinesPayload fresh p headers := by
  have hgate : (c.canEncode p (headers.map Headers.map)).value = false := by
    rw [Bool.eq_false_iff]
    exact fun hgate => h (canEncode_iff.1 hgate).1
  exact congrArg Conversion.outcome (toMessage_declined hgate)

end

end Converter

namespace MessageConverter

section

variable {t u : MessageConverter} {c : Converter} {m : Message} {target : PayloadType}
  {fresh : Stamp} {p : Payload} {headers : Option Headers}

/-! ## one leaf that is concerned -/

/-- Where all other leaves decline, it does not matter where the one leaf stands. -/
theorem value_fromMessage_of_only (hc : c ∈ t.leaves)
    (hothers : ∀ d ∈ t.leaves, d ≠ c → d.DeclinesMessage m target) :
    (t.fromMessage m target).value = (c.fromMessage m target).value := by
  obtain ⟨d, hd⟩ | hall := firstAnswering_or_all (·.DeclinesMessage m target) t.leaves
  · have hdc : d = c := Classical.byContradiction fun hne =>
      hd.not_declines (hothers d hd.mem hne)
    rw [value_fromMessage_of_first hd, hdc]
  · have hdeclines : (c.fromMessage m target).value = .ok none := hall c hc
    rw [value_fromMessage_of_all hall, hdeclines]

/-- Nor does it matter for making a message: declining leaves the headers alone. -/
theorem value_toMessage_of_only (hc : c ∈ t.leaves)
    (hothers : ∀ d ∈ t.leaves, d ≠ c → d.DeclinesPayload fresh p headers) :
    (t.toMessage fresh p headers).value = (c.toMessage fresh p headers).value := by
  obtain ⟨d, hd⟩ | hall := firstAnswering_or_all (·.DeclinesPayload fresh p headers) t.leaves
  · have hdc : d = c := Classical.byContradiction fun hne =>
      hd.not_declines (hothers d hd.mem hne)
    rw [value_toMessage_of_first hd, hdc]
  · have hdeclines : ((single c).toMessage fresh p headers).value = ⟨.ok none, headers⟩ :=
      value_of_declined (by rw [toMessage]; exact hall c hc)
    rw [toMessage] at hdeclines
    rw [value_toMessage_of_all hall, hdeclines]

/-! ## leaves that share no type -/

/-- No two leaves handle the same type. -/
def Separate (t : MessageConverter) : Prop := t.leaves.Pairwise Converter.SharesNoType

/-- Whether types are shared does not depend on the order. -/
theorem Separate.of_perm (h : t.Separate) (hperm : t.leaves.Perm u.leaves) : u.Separate :=
  (hperm.pairwise_iff Converter.SharesNoType.symm).1 h

/-- What one leaf handles, no other one does. -/
theorem Separate.not_supports (h : t.Separate) {d : Converter} (hc : c ∈ t.leaves)
    (hd : d ∈ t.leaves) (hne : d ≠ c) (hsupports : c.codec.supports target = true) :
    d.codec.supports target ≠ true := by
  have hshare : d.SharesNoType c := List.Pairwise.forall h hd hc hne
  exact fun hboth => hshare target ⟨hboth, hsupports⟩

/-- The leaf for the target type answers for the tree. -/
theorem Separate.value_fromMessage (h : t.Separate) (hc : c ∈ t.leaves)
    (hsupports : c.codec.supports target = true) :
    (t.fromMessage m target).value = (c.fromMessage m target).value :=
  value_fromMessage_of_only hc fun _ hd hne =>
    Converter.declinesMessage_of_not_supports (h.not_supports hc hd hne hsupports)

/-- The leaf for the type of the payload answers for the tree. -/
theorem Separate.value_toMessage (h : t.Separate) (hc : c ∈ t.leaves)
    (hsupports : c.codec.supports p.type = true) :
    (t.toMessage fresh p headers).value = (c.toMessage fresh p headers).value :=
  value_toMessage_of_only hc fun _ hd hne =>
    Converter.declinesPayload_of_not_supports (h.not_supports hc hd hne hsupports)

/-- A tree without a leaf for the target type declines. -/
theorem value_fromMessage_of_none (h : ¬ ∃ c ∈ t.leaves, c.codec.supports target = true) :
    (t.fromMessage m target).value = .ok none :=
  value_fromMessage_of_all fun c hc =>
    Converter.declinesMessage_of_not_supports fun hsupports => h ⟨c, hc, hsupports⟩

/-- A tree without a leaf for the type of the payload declines. -/
theorem value_toMessage_of_none (h : ¬ ∃ c ∈ t.leaves, c.codec.supports p.type = true) :
    (t.toMessage fresh p headers).value = ⟨.ok none, headers⟩ :=
  value_toMessage_of_all fun c hc =>
    Converter.declinesPayload_of_not_supports fun hsupports => h ⟨c, hc, hsupports⟩

/-- Trees with the same leaves in any order answer alike, if no two leaves handle the
same type. -/
theorem Separate.sameAnswers (h : t.Separate) (hperm : t.leaves.Perm u.leaves) :
    SameAnswers t u := by
  have hu : u.Separate := h.of_perm hperm
  have hleaf : ∀ type, (∃ c ∈ u.leaves, c.codec.supports type = true) →
      ∃ c ∈ t.leaves, c.codec.supports type = true := fun type ⟨c, hc, hsupports⟩ =>
    ⟨c, hperm.mem_iff.2 hc, hsupports⟩
  constructor
  · intro m target
    by_cases hconcerned : ∃ c ∈ t.leaves, c.codec.supports target = true
    · obtain ⟨c, hc, hsupports⟩ := hconcerned
      rw [h.value_fromMessage hc hsupports, hu.value_fromMessage (hperm.mem_iff.1 hc) hsupports]
    · rw [value_fromMessage_of_none hconcerned,
        value_fromMessage_of_none fun hnone => hconcerned (hleaf target hnone)]
  · intro fresh p headers
    by_cases hconcerned : ∃ c ∈ t.leaves, c.codec.supports p.type = true
    · obtain ⟨c, hc, hsupports⟩ := hconcerned
      rw [h.value_toMessage hc hsupports, hu.value_toMessage (hperm.mem_iff.1 hc) hsupports]
    · rw [value_toMessage_of_none hconcerned,
        value_toMessage_of_none fun hnone => hconcerned (hleaf p.type hnone)]

/-! ## lists of converters -/

/-- A list of converters is the leaves of its composite. -/
theorem leaves_composite_map_single (cs : List Converter) :
    (composite (cs.map single)).leaves = cs := by
  rw [leaves]
  induction cs with
  | nil => rfl
  | cons c cs ih => rw [List.map_cons, leavesOfAll, leaves, ih, List.singleton_append]

end

/-- **The order of delegates makes no difference** where no two of them handle the same
type, whatever their codecs, resolvers and settings. Composites of the same converters
in any order answer alike, down to the headers that the caller holds afterwards. The
one converter that handles the type in question, if there is one, gives the answer that
it gives on its own; without it, the composite declines and leaves the headers alone. -/
theorem order_makes_no_difference {cs : List Converter}
    (hseparate : cs.Pairwise Converter.SharesNoType) :
    (∀ ds : List Converter, cs.Perm ds →
        SameAnswers (composite (cs.map single)) (composite (ds.map single))) ∧
      (∀ c ∈ cs, ∀ (m : Message) (target : PayloadType), c.codec.supports target = true →
        ((composite (cs.map single)).fromMessage m target).value =
          (c.fromMessage m target).value) ∧
      (∀ c ∈ cs, ∀ (fresh : Stamp) (p : Payload) (headers : Option Headers),
        c.codec.supports p.type = true →
          ((composite (cs.map single)).toMessage fresh p headers).value =
            (c.toMessage fresh p headers).value) ∧
      (∀ (m : Message) (target : PayloadType),
        (¬ ∃ c ∈ cs, c.codec.supports target = true) →
          ((composite (cs.map single)).fromMessage m target).value = .ok none) ∧
      ∀ (fresh : Stamp) (p : Payload) (headers : Option Headers),
        (¬ ∃ c ∈ cs, c.codec.supports p.type = true) →
          ((composite (cs.map single)).toMessage fresh p headers).value =
            ⟨.ok none, headers⟩ := by
  have hleaves := leaves_composite_map_single cs
  have h : (composite (cs.map single)).Separate := by
    rw [Separate, hleaves]
    exact hseparate
  refine ⟨fun ds hperm => ?_, fun c hc m target => ?_, fun c hc fresh p headers => ?_,
    fun m target hnone => ?_, fun fresh p headers hnone => ?_⟩
  · refine h.sameAnswers ?_
    rw [hleaves, leaves_composite_map_single ds]
    exact hperm
  · exact h.value_fromMessage (hleaves.symm ▸ hc)
  · exact h.value_toMessage (hleaves.symm ▸ hc)
  · exact value_fromMessage_of_none (hleaves.symm ▸ hnone)
  · exact value_toMessage_of_none (hleaves.symm ▸ hnone)

/-- A counter that is no counter fails alike first and last, and a strict converter of
texts leaves bytes to the converter behind it. -/
theorem order_makes_no_difference_counter :
    let text : Converter := { Converter.ofCodec .text with strict := true }
    let bytes : Converter := .ofCodec .bytes
    let counter : Converter := .ofCodec .counter
    let a : HeaderAccessor := .ofMap 0 (HeaderMap.empty.insert "priority" .null)
    [text, bytes, counter].Pairwise Converter.SharesNoType ∧
      SameAnswers (composite [single text, single bytes, single counter])
        (composite [single counter, single text, single bytes]) ∧
      ((composite [single text, single bytes, single counter]).toMessage 1 (.uint32 0)
          (some (.accessor a))).value =
        ⟨.error (.encode (.other "zero is not a counter")), some (.accessor a)⟩ ∧
      ((composite [single text, single bytes, single counter]).fromMessage
          ⟨.bytes [0xFF], a.snapshot⟩ .bytes).value = .ok (some (.bytes [0xFF])) := by
  intro text bytes counter a
  have hcounter : ∀ {type}, counter.codec.supports type = true → type = .uint32 :=
    fun h => decide_eq_true_iff.1 h
  have htextBytes : text.SharesNoType bytes := fun type ⟨htext, hbytes⟩ => by
    rw [Codec.text_supports_iff.1 htext] at hbytes
    exact absurd hbytes (by decide)
  have htextCounter : text.SharesNoType counter := fun type ⟨htext, hnumber⟩ => by
    rw [hcounter hnumber] at htext
    exact absurd htext (by decide)
  have hbytesCounter : bytes.SharesNoType counter := fun type ⟨hbytes, hnumber⟩ => by
    rw [hcounter hnumber] at hbytes
    exact absurd hbytes (by decide)
  have hseparate : [text, bytes, counter].Pairwise Converter.SharesNoType := by
    simp [htextBytes, htextCounter, hbytesCounter]
  obtain ⟨hsame, hdecoded, hmade, -, -⟩ := order_makes_no_difference hseparate
  have hperm : ([text, bytes] ++ [counter]).Perm ([counter] ++ [text, bytes]) :=
    List.perm_append_comm
  exact ⟨hseparate, hsame _ hperm, hmade counter (by simp) 1 (.uint32 0) (some (.accessor a)) rfl,
    hdecoded bytes (by simp) ⟨.bytes [0xFF], a.snapshot⟩ .bytes rfl⟩

end MessageConverter

end Conneg
