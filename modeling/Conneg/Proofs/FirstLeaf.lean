import Conneg.Codec.Counter
import Conneg.Codec.Text
import Conneg.Proofs.Tree

/-!
# Conneg.Proofs.FirstLeaf

A tree of converters answers like the first of its leaves that does not decline.

1. `FirstAnswering` picks that leaf: those before it decline, and it does not.
   Each leaf is judged by what it answers on its own, under the headers that the
   tree was given. Either there is such a leaf or all of them decline
   (`firstAnswering_or_all`).
2. An error is the codec's failure, wrapped once by the leaf and by nothing above
   it (`error_of_fromMessage`, `error_of_toMessage`).
3. Main statement: `answers_like_first_leaf`. As only the leaves count, nesting
   and the way in which a composite is built make no difference.
-/

namespace Conneg

/-! ## the first leaf that answers -/

/-- `c` is the first of the converters that does not decline. -/
def FirstAnswering (declines : Converter → Prop) (cs : List Converter) (c : Converter) : Prop :=
  ∃ before after, cs = before ++ c :: after ∧ (∀ d ∈ before, declines d) ∧ ¬ declines c

section

variable {declines : Converter → Prop} {cs : List Converter} {c : Converter}

/-- Some converter is the first to answer, or all of them decline. -/
theorem firstAnswering_or_all (declines : Converter → Prop) (cs : List Converter) :
    (∃ c, FirstAnswering declines cs c) ∨ ∀ c ∈ cs, declines c := by
  induction cs with
  | nil => exact .inr fun c hc => absurd hc List.not_mem_nil
  | cons d ds ih =>
    by_cases hd : declines d
    · obtain ⟨c, before, after, hds, hbefore, hc⟩ | hall := ih
      · have hskip : ∀ x ∈ d :: before, declines x := List.forall_mem_cons.2 ⟨hd, hbefore⟩
        exact .inl ⟨c, d :: before, after, by rw [hds, List.cons_append], hskip, hc⟩
      · exact .inr (List.forall_mem_cons.2 ⟨hd, hall⟩)
    · exact .inl ⟨d, [], ds, rfl, fun x hx => absurd hx List.not_mem_nil, hd⟩

theorem FirstAnswering.mem (h : FirstAnswering declines cs c) : c ∈ cs := by
  obtain ⟨before, after, rfl, -, -⟩ := h
  exact List.mem_append_right before List.mem_cons_self

theorem FirstAnswering.not_declines (h : FirstAnswering declines cs c) : ¬ declines c := by
  obtain ⟨-, -, -, -, hc⟩ := h
  exact hc

/-- It depends on what the converters of the list decline, and on nothing else. -/
theorem FirstAnswering.congr {declines' : Converter → Prop}
    (hdeclines : ∀ d ∈ cs, declines d ↔ declines' d) (h : FirstAnswering declines cs c) :
    FirstAnswering declines' cs c := by
  obtain ⟨before, after, rfl, hbefore, hc⟩ := h
  have hmem : c ∈ before ++ c :: after := List.mem_append_right before List.mem_cons_self
  refine ⟨before, after, rfl, fun d hd => ?_, mt (hdeclines c hmem).2 hc⟩
  exact (hdeclines d (List.mem_append_left _ hd)).1 (hbefore d hd)

/-- A search that fails where converters decline stops at the first that answers. -/
theorem FirstAnswering.findSome?_eq {β : Type} {f : Converter → Option β}
    (hf : ∀ d, f d = none ↔ declines d) (h : FirstAnswering declines cs c) :
    cs.findSome? f = f c := by
  obtain ⟨before, after, rfl, hbefore, hc⟩ := h
  have hskip : before.findSome? f = none :=
    List.findSome?_eq_none_iff.2 fun d hd => (hf d).2 (hbefore d hd)
  rw [List.findSome?_append, hskip, Option.none_or, List.findSome?_cons]
  cases hfc : f c with
  | none => exact absurd ((hf c).1 hfc) hc
  | some b => rfl

end

/-! ## declining -/

namespace Converter

/-- The converter does not decode the message into the target type. -/
def DeclinesMessage (m : Message) (target : PayloadType) (c : Converter) : Prop :=
  (c.fromMessage m target).value = .ok none

/-- The converter makes no message of the payload under the headers. -/
def DeclinesPayload (fresh : Stamp) (p : Payload) (headers : Option Headers) (c : Converter) :
    Prop :=
  (c.toMessage fresh p headers).value.outcome = .ok none

instance (m : Message) (target : PayloadType) : DecidablePred (DeclinesMessage m target) :=
  fun _ => decidable_of_iff _ decoding?_eq_none_iff

instance (fresh : Stamp) (p : Payload) (headers : Option Headers) :
    DecidablePred (DeclinesPayload fresh p headers) :=
  fun _ => decidable_of_iff _ conversion?_eq_none_iff

section

variable {c : Converter} {m : Message} {target : PayloadType} {fresh : Stamp} {p : Payload}
  {headers : Option Headers} {e : ConversionError}

/-- A decoding error is the codec's failure. -/
theorem error_of_fromMessage (h : (c.fromMessage m target).value = .error e) :
    ∃ failure, c.codec.decode m target = .error failure ∧ e = .decode failure := by
  cases hgate : (c.canDecode m target).value with
  | false =>
    rw [fromMessage_declined hgate] at h
    cases h
  | true =>
    rw [fromMessage_decoded hgate] at h
    cases hd : c.codec.decode m target with
    | ok value =>
      rw [hd] at h
      cases h
    | error failure =>
      rw [hd] at h
      exact ⟨failure, rfl, (Except.error.inj h).symm⟩

/-- An encoding error is the codec's failure, and the headers are left alone. -/
theorem error_of_toMessage (h : (c.toMessage fresh p headers).value.outcome = .error e) :
    ∃ failure, c.codec.encode p (headers.map Headers.map) c.form = .error failure ∧
      (c.toMessage fresh p headers).value = ⟨.error (.encode failure), headers⟩ := by
  obtain ⟨-, hv⟩ | ⟨failure, -, he, hv⟩ | ⟨encoded, -, -, hv⟩ := c.toMessage_cases fresh p headers
  · rw [hv] at h
    cases h
  · exact ⟨failure, he, hv⟩
  · rw [hv] at h
    cases h

end

end Converter

namespace MessageConverter

section

variable {t u : MessageConverter} {c : Converter} {m : Message} {target : PayloadType}
  {fresh : Stamp} {p : Payload} {headers : Option Headers}

/-! ## trees -/

/-- A tree decodes as its first leaf that answers does on its own. -/
theorem value_fromMessage_of_first
    (h : FirstAnswering (·.DeclinesMessage m target) t.leaves c) :
    (t.fromMessage m target).value = (c.fromMessage m target).value := by
  have hfind := h.findSome?_eq (f := (·.decoding? m target)) fun d =>
    Converter.decoding?_eq_none_iff
  obtain ⟨-, -, -, -, hc⟩ := h
  rw [value_fromMessage, hfind]
  cases hd : c.decoding? m target with
  | none => exact absurd (Converter.decoding?_eq_none_iff.1 hd) hc
  | some answer => exact (Converter.decoding?_eq_some_iff.1 hd).2.symm

/-- A tree declines a message that all its leaves decline. -/
theorem value_fromMessage_of_all (h : ∀ c ∈ t.leaves, c.DeclinesMessage m target) :
    (t.fromMessage m target).value = .ok none := by
  have hfind : t.leaves.findSome? (fun c => c.decoding? m target) = none :=
    List.findSome?_eq_none_iff.2 fun c hc => Converter.decoding?_eq_none_iff.2 (h c hc)
  rw [value_fromMessage, hfind]
  rfl

/-- A tree makes what its first leaf that answers makes under the headers of the
tree. -/
theorem value_toMessage_of_first
    (h : FirstAnswering (·.DeclinesPayload fresh p headers) t.leaves c) :
    (t.toMessage fresh p headers).value = (c.toMessage fresh p headers).value := by
  have hfind := h.findSome?_eq (f := (·.conversion? fresh p headers)) fun d =>
    Converter.conversion?_eq_none_iff
  obtain ⟨-, -, -, -, hc⟩ := h
  rw [value_toMessage, hfind]
  cases hd : c.conversion? fresh p headers with
  | none => exact absurd (Converter.conversion?_eq_none_iff.1 hd) hc
  | some x => exact (Converter.conversion?_eq_some_iff.1 hd).2.symm

/-- A tree whose leaves all decline gives the headers back as they were. -/
theorem value_toMessage_of_all (h : ∀ c ∈ t.leaves, c.DeclinesPayload fresh p headers) :
    (t.toMessage fresh p headers).value = ⟨.ok none, headers⟩ := by
  have hfind : t.leaves.findSome? (fun c => c.conversion? fresh p headers) = none :=
    List.findSome?_eq_none_iff.2 fun c hc => Converter.conversion?_eq_none_iff.2 (h c hc)
  rw [value_toMessage, hfind]
  rfl

/-- A tree that does not decline has a leaf that answers first. -/
theorem exists_first_of_decoded (h : (t.fromMessage m target).value ≠ .ok none) :
    ∃ c, FirstAnswering (·.DeclinesMessage m target) t.leaves c := by
  obtain hfirst | hall := firstAnswering_or_all (·.DeclinesMessage m target) t.leaves
  · exact hfirst
  · exact absurd (value_fromMessage_of_all hall) h

/-- If a tree does not decline a payload, some leaf is the first that answers. -/
theorem exists_first_of_made (h : (t.toMessage fresh p headers).value.outcome ≠ .ok none) :
    ∃ c, FirstAnswering (·.DeclinesPayload fresh p headers) t.leaves c := by
  obtain hfirst | hall := firstAnswering_or_all (·.DeclinesPayload fresh p headers) t.leaves
  · exact hfirst
  · rw [value_toMessage_of_all hall] at h
    exact absurd rfl h

/-- A tree declines exactly if all its leaves do. -/
theorem value_fromMessage_eq_none_iff :
    (t.fromMessage m target).value = .ok none ↔ ∀ c ∈ t.leaves, c.DeclinesMessage m target := by
  refine ⟨fun h => ?_, value_fromMessage_of_all⟩
  obtain ⟨c, hc⟩ | hall := firstAnswering_or_all (·.DeclinesMessage m target) t.leaves
  · exact absurd ((value_fromMessage_of_first hc).symm.trans h) hc.not_declines
  · exact hall

/-- A tree makes nothing of a payload exactly if none of its leaves does. -/
theorem outcome_toMessage_eq_none_iff :
    (t.toMessage fresh p headers).value.outcome = .ok none ↔
      ∀ c ∈ t.leaves, c.DeclinesPayload fresh p headers := by
  refine ⟨fun h => ?_, fun hall => by rw [value_toMessage_of_all hall]⟩
  obtain ⟨c, hc⟩ | hall := firstAnswering_or_all (·.DeclinesPayload fresh p headers) t.leaves
  · have hleaf := congrArg Conversion.outcome (value_toMessage_of_first hc)
    exact absurd (hleaf.symm.trans h) hc.not_declines
  · exact hall

/-! ## nesting -/

/-- The leaves of several trees stand in the order of the trees. -/
theorem leavesOfAll_append (ds es : List MessageConverter) :
    leavesOfAll (ds ++ es) = leavesOfAll ds ++ leavesOfAll es := by
  induction ds with
  | nil => rfl
  | cons d ds ih => rw [List.cons_append, leavesOfAll, leavesOfAll, ih, List.append_assoc]

/-- The delegates of a composite within a composite can stand in its place. -/
theorem leaves_splice (before ds after : List MessageConverter) :
    (composite (before ++ composite ds :: after)).leaves =
      (composite (before ++ ds ++ after)).leaves := by
  simp only [leaves, leavesOfAll_append, leavesOfAll, List.append_assoc]

/-- The two trees give the same answers, down to the headers that the caller holds
afterwards. -/
structure SameAnswers (t u : MessageConverter) : Prop where
  fromMessage : ∀ (m : Message) (target : PayloadType),
    (t.fromMessage m target).value = (u.fromMessage m target).value
  toMessage : ∀ (fresh : Stamp) (p : Payload) (headers : Option Headers),
    (t.toMessage fresh p headers).value = (u.toMessage fresh p headers).value

/-- Only the leaves count. -/
theorem sameAnswers_of_leaves (h : t.leaves = u.leaves) : SameAnswers t u where
  fromMessage m target := by rw [value_fromMessage, value_fromMessage, h]
  toMessage fresh p headers := by rw [value_toMessage, value_toMessage, h]

end

/-- **A tree answers like its first leaf that does not decline**, from left to right,
whatever the codecs, the resolvers and the depth. Each leaf is judged under the
message or the headers that the tree was given. An error is the failure of that
leaf's codec, wrapped once. If all leaves decline, so does the tree, and the
caller's headers are as they were. A composite in a composite answers like its
delegates in its place, and appending converters one by one builds the same
composite as listing them. -/
theorem answers_like_first_leaf (t : MessageConverter) :
    (∀ (m : Message) (target : PayloadType),
        (∀ c, FirstAnswering (·.DeclinesMessage m target) t.leaves c →
          (t.fromMessage m target).value = (c.fromMessage m target).value) ∧
        ((∀ c ∈ t.leaves, c.DeclinesMessage m target) →
          (t.fromMessage m target).value = .ok none) ∧
        ∀ e, (t.fromMessage m target).value = .error e →
          ∃ c failure, FirstAnswering (·.DeclinesMessage m target) t.leaves c ∧
            c.codec.decode m target = .error failure ∧ e = .decode failure) ∧
      (∀ (fresh : Stamp) (p : Payload) (headers : Option Headers),
        (∀ c, FirstAnswering (·.DeclinesPayload fresh p headers) t.leaves c →
          (t.toMessage fresh p headers).value = (c.toMessage fresh p headers).value) ∧
        ((∀ c ∈ t.leaves, c.DeclinesPayload fresh p headers) →
          (t.toMessage fresh p headers).value = ⟨.ok none, headers⟩) ∧
        ∀ e, (t.toMessage fresh p headers).value.outcome = .error e →
          ∃ c failure, FirstAnswering (·.DeclinesPayload fresh p headers) t.leaves c ∧
            c.codec.encode p (headers.map Headers.map) c.form = .error failure ∧
            (t.toMessage fresh p headers).value = ⟨.error (.encode failure), headers⟩) ∧
      (∀ u : MessageConverter, t.leaves = u.leaves → SameAnswers t u) ∧
      (∀ before ds after : List MessageConverter,
        SameAnswers (composite (before ++ composite ds :: after))
          (composite (before ++ ds ++ after))) ∧
      ∀ ds es : List MessageConverter, es.foldl append (composite ds) = composite (ds ++ es) := by
  refine ⟨fun m target => ⟨fun c => value_fromMessage_of_first, value_fromMessage_of_all, ?_⟩,
    fun fresh p headers => ⟨fun c => value_toMessage_of_first, value_toMessage_of_all, ?_⟩,
    fun u => sameAnswers_of_leaves,
    fun before ds after => sameAnswers_of_leaves (leaves_splice before ds after),
    foldl_append_composite⟩
  · intro e he
    have hanswers : (t.fromMessage m target).value ≠ .ok none := by simp [he]
    obtain ⟨c, hc⟩ := exists_first_of_decoded hanswers
    have hleaf := value_fromMessage_of_first hc
    rw [he] at hleaf
    obtain ⟨failure, hfailure, rfl⟩ := Converter.error_of_fromMessage hleaf.symm
    exact ⟨c, failure, hc, hfailure, rfl⟩
  · intro e he
    have hanswers : (t.toMessage fresh p headers).value.outcome ≠ .ok none := by simp [he]
    obtain ⟨c, hc⟩ := exists_first_of_made hanswers
    have hleaf := value_toMessage_of_first hc
    rw [hleaf] at he ⊢
    obtain ⟨failure, hfailure, hvalue⟩ := Converter.error_of_toMessage he
    exact ⟨c, failure, hc, hfailure, hvalue⟩

/-- Behind a converter that does not handle counters, the first of two that do gives
the answers, also if it fails. -/
theorem answers_like_first_leaf_counter :
    let text : MessageConverter := single (.ofCodec .text)
    let counter : MessageConverter := single (.ofCodec .counter)
    let t : MessageConverter := composite [text, composite [composite [], counter], counter]
    let a : HeaderAccessor := .ofMap 0 (HeaderMap.empty.insert "priority" .null)
    (t.fromMessage ⟨.uint32 7, a.snapshot⟩ .uint32).value = .ok (some (.uint32 7)) ∧
      (t.toMessage 1 (.uint32 0) (some (.accessor a))).value =
        ⟨.error (.encode (.other "zero is not a counter")), some (.accessor a)⟩ := by
  intro text counter t a
  have hleaves : t.leaves = [.ofCodec .text] ++ .ofCodec .counter :: [.ofCodec .counter] := rfl
  obtain ⟨hfrom, hto, -⟩ := answers_like_first_leaf t
  constructor
  · have hfirst : FirstAnswering (·.DeclinesMessage ⟨.uint32 7, a.snapshot⟩ .uint32) t.leaves
        (.ofCodec .counter) := by
      refine ⟨[.ofCodec .text], [.ofCodec .counter], hleaves, ?_, ?_⟩
      · exact List.forall_mem_singleton.2 rfl
      · intro hdeclines
        cases hdeclines
    exact (hfrom _ _).1 _ hfirst
  · have hfirst : FirstAnswering (·.DeclinesPayload 1 (.uint32 0) (some (.accessor a))) t.leaves
        (.ofCodec .counter) := by
      refine ⟨[.ofCodec .text], [.ofCodec .counter], hleaves, ?_, ?_⟩
      · exact List.forall_mem_singleton.2 rfl
      · intro hdeclines
        cases hdeclines
    exact (hto _ _ _).1 _ hfirst

end MessageConverter

end Conneg
