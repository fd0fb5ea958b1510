import Conneg.Codec.Bytes
import Conneg.Codec.Counter
import Conneg.Codec.Text
import Conneg.Proofs.FirstLeaf
import Conneg.Proofs.Resolution

/-!
# Conneg.Proofs.Warnings

How often a conversion warns about the content type.

1. Codecs log nothing, and declining is no warning. So a converter warns like its
   resolver, which it asks once if it `negotiates` and not at all if it does not
   (`warnings_fromMessage`, `warnings_toMessage`).
2. A tree asks its leaves up to the first that answers (`consulted`). What it warns
   about is what these leaves warn about, in order (`eq_flatMap_consulted`); the
   composites above them add nothing.
3. Main statement: `warns_once_per_leaf`. Each consulted leaf that negotiates warns once
   about a content type that it cannot use, and nothing else is warned about.
-/

namespace Conneg

/-! ## warnings -/

namespace Logged

variable {α β : Type}

/-- The warnings among the events, in order. -/
def warnings (x : Logged α) : List Event := x.events.filter (·.level = .warn)

@[simp] theorem warnings_pure (a : α) : (pure a : Logged α).warnings = [] := rfl

/-- Warnings come in the order of the steps. -/
@[simp] theorem warnings_bind (x : Logged α) (f : α → Logged β) :
    (x >>= f).warnings = x.warnings ++ (f x.value).warnings := by
  simp [warnings]

@[simp] theorem warnings_map (x : Logged α) (f : α → β) : (f <$> x).warnings = x.warnings := by
  simp [warnings]

/-- What is logged where a gate is shut is no warning, if its level says so. -/
theorem warnings_eq_of_events {x : Logged α} {gate : Logged Bool} {e : Event}
    (he : e.level = .debug) (h : x.events = gate.events ++ if gate.value then [] else [e]) :
    x.warnings = gate.warnings := by
  unfold warnings
  rw [h, List.filter_append]
  cases gate.value <;> simp [he]

end Logged

/-- A resolver that reads the header warns once about what it cannot use. -/
theorem HeaderResolver.length_warnings_resolve (r : HeaderResolver) (headers : Option HeaderMap) :
    (r.resolve headers).warnings.length = if Unusable (contentEntry headers) then 1 else 0 := by
  obtain hu | ⟨type, hl⟩ | hx := entry_cases (contentEntry headers)
  · rw [r.resolve_unlabelled hu, if_neg hu.not_unusable]
    rfl
  · rw [r.resolve_labelled hl, if_neg hl.not_unusable]
    rfl
  · obtain ⟨e, hwarn, he⟩ := r.resolve_unusable hx
    rw [he, if_pos hx]
    simp [Logged.warnings, hwarn]

/-! ## one converter -/

namespace Converter

/-- The content type matters for values of a type: the codec handles them, and not every
content type is acceptable. -/
def negotiates (c : Converter) (type : PayloadType) : Bool :=
  c.codec.supports type && !c.supported.isEmpty

/-- The gate asks the resolver once, or not at all. -/
theorem warnings_gate (c : Converter) (type : PayloadType) (headers : Option HeaderMap) :
    (if c.codec.supports type then c.accepts headers else pure false).warnings =
      if c.negotiates type then (c.resolve headers).warnings else [] := by
  unfold accepts negotiates
  cases c.codec.supports type <;> cases c.supported.isEmpty <;> simp

/-- Decoding warns like the gate, as codecs log nothing and declining is no warning. -/
theorem warnings_fromMessage (c : Converter) (m : Message) (target : PayloadType) :
    (c.fromMessage m target).warnings =
      if c.negotiates target then (c.resolve (some m.headers.map)).warnings else [] := by
  rw [Logged.warnings_eq_of_events rfl (c.events_fromMessage m target)]
  exact c.warnings_gate target (some m.headers.map)

/-- Making a message warns like the gate. -/
theorem warnings_toMessage (c : Converter) (fresh : Stamp) (p : Payload)
    (headers : Option Headers) :
    (c.toMessage fresh p headers).warnings =
      if c.negotiates p.type then (c.resolve (headers.map Headers.map)).warnings else [] := by
  rw [Logged.warnings_eq_of_events rfl (c.events_toMessage fresh p headers)]
  exact c.warnings_gate p.type (headers.map Headers.map)

/-- A resolver that reads the header is heard once about what it cannot use, if it is
asked. -/
theorem length_warnings_of_header {c : Converter} {r : HeaderResolver}
    (hr : c.resolver = some r.toResolver) (type : PayloadType) (headers : Option HeaderMap) :
    (if c.negotiates type then (c.resolve headers).warnings else []).length =
      if Unusable (contentEntry headers) ∧ c.negotiates type then 1 else 0 := by
  rw [resolve_of_header hr]
  have hlength := r.length_warnings_resolve headers
  cases c.negotiates type with
  | false => simp
  | true => simpa using hlength

end Converter

/-! ## the leaves that are asked -/

/-- The converters that are asked in turn: those that decline, up to the first that
answers, and that one. -/
def consulted (declines : Converter → Prop) [DecidablePred declines] :
    List Converter → List Converter
  | [] => []
  | c :: cs => if declines c then c :: consulted declines cs else [c]

section

variable {declines : Converter → Prop} [DecidablePred declines] {cs : List Converter}

theorem consulted_singleton (c : Converter) : consulted declines [c] = [c] := by
  simp [consulted]

/-- After converters that decline the search goes on. -/
theorem consulted_append_of_all (h : ∀ c ∈ cs, declines c) (ds : List Converter) :
    consulted declines (cs ++ ds) = cs ++ consulted declines ds := by
  induction cs with
  | nil => rfl
  | cons c cs ih =>
    obtain ⟨hc, hcs⟩ := List.forall_mem_cons.1 h
    rw [List.cons_append, consulted, if_pos hc, ih hcs, List.cons_append]

/-- If all decline, all are asked. -/
theorem consulted_of_all (h : ∀ c ∈ cs, declines c) : consulted declines cs = cs := by
  simpa [consulted] using consulted_append_of_all h []

/-- A converter that answers is the last one that is asked. -/
theorem consulted_of_first {before after : List Converter} {c : Converter}
    (hbefore : ∀ d ∈ before, declines d) (hc : ¬ declines c) :
    consulted declines (before ++ c :: after) = before ++ [c] := by
  rw [consulted_append_of_all hbefore, consulted, if_neg hc]

/-- Behind converters one of which answers, none is asked. -/
theorem consulted_append_of_first (h : ¬ ∀ c ∈ cs, declines c) (ds : List Converter) :
    consulted declines (cs ++ ds) = consulted declines cs := by
  obtain ⟨c, before, after, rfl, hbefore, hc⟩ | hall := firstAnswering_or_all declines cs
  · rw [List.append_assoc, List.cons_append, consulted_of_first hbefore hc,
      consulted_of_first hbefore hc]
  · exact absurd hall h

/-- Those that are asked are the first ones. -/
theorem consulted_isPrefix (cs : List Converter) : consulted declines cs <+: cs := by
  induction cs with
  | nil => exact List.prefix_rfl
  | cons c cs ih =>
    rw [consulted]
    split
    · exact (List.prefix_cons_inj c).2 ih
    · exact List.prefix_append [c] cs

end

namespace MessageConverter

/-- What is gathered from delegates in order, up to the first that answers, is what is
gathered from the leaves that are asked. -/
theorem eq_flatMap_consulted {declines : Converter → Prop} [DecidablePred declines]
    (all : MessageConverter → List Event) (own : Converter → List Event)
    (hsingle : ∀ c, all (single c) = own c) (hnil : all (composite []) = [])
    (hdeclined : ∀ d ds, (∀ c ∈ d.leaves, declines c) →
      all (composite (d :: ds)) = all d ++ all (composite ds))
    (hanswered : ∀ d ds, (¬ ∀ c ∈ d.leaves, declines c) → all (composite (d :: ds)) = all d)
    (t : MessageConverter) : all t = (consulted declines t.leaves).flatMap own := by
  induction t with
  | single c => rw [hsingle, leaves, consulted_singleton, List.flatMap_singleton]
  | composite ds ih =>
    induction ds with
    | nil => exact hnil
    | cons d ds ihds =>
      have hd := ih d List.mem_cons_self
      have hds := ihds fun d hd => ih d (List.mem_cons_of_mem _ hd)
      rw [leaves] at hds ⊢
      rw [leavesOfAll]
      by_cases hall : ∀ c ∈ d.leaves, declines c
      · rw [hdeclined d ds hall, hd, hds, consulted_append_of_all hall, consulted_of_all hall,
          List.flatMap_append]
      · rw [hanswered d ds hall, hd, consulted_append_of_first hall]

/-- The warnings of decoding are those of the leaves that are asked. -/
theorem warnings_fromMessage (t : MessageConverter) (m : Message) (target : PayloadType) :
    (t.fromMessage m target).warnings =
      (consulted (·.DeclinesMessage m target) t.leaves).flatMap fun c =>
        (c.fromMessage m target).warnings := by
  refine eq_flatMap_consulted (fun t => (t.fromMessage m target).warnings) _
    (fun c => by rw [fromMessage]) rfl (fun d ds hall => ?_) (fun d ds hall => ?_) t
  · rw [fromMessage, fromMessage, firstFromMessage_cons_declined (value_fromMessage_of_all hall),
      Logged.warnings_bind]
  · rw [fromMessage, firstFromMessage_cons_answered (mt value_fromMessage_eq_none_iff.1 hall)]

/-- The warnings of making a message are those of the leaves that are asked. -/
theorem warnings_toMessage (t : MessageConverter) (fresh : Stamp) (p : Payload)
    (headers : Option Headers) :
    (t.toMessage fresh p headers).warnings =
      (consulted (·.DeclinesPayload fresh p headers) t.leaves).flatMap fun c =>
        (c.toMessage fresh p headers).warnings := by
  refine eq_flatMap_consulted (fun t => (t.toMessage fresh p headers).warnings) _
    (fun c => by rw [toMessage]) rfl (fun d ds hall => ?_) (fun d ds hall => ?_) t
  · rw [toMessage, toMessage, firstToMessage_cons_declined (value_toMessage_of_all hall),
      Logged.warnings_bind]
  · rw [toMessage, firstToMessage_cons_answered (mt outcome_toMessage_eq_none_iff.1 hall)]

end MessageConverter

/-! ## one warning for each leaf -/

/-- What a conversion warns about under a content type entry. `asked` are the leaves that
are asked about values of the type, and `own` gives the warnings of the conversion that a
leaf would do on its own. -/
structure WarnsOncePerLeaf (entry : Option Json) (type : PayloadType) (asked : List Converter)
    (own : Converter → List Event) (warnings : List Event) : Prop where
  /-- Every warning is one of a leaf that was asked, in the order of the leaves. -/
  from_asked : warnings = asked.flatMap own
  /-- A leaf that negotiates warns once about an entry that it cannot use. There are no
  other warnings. -/
  own_length : ∀ c ∈ asked, (own c).length =
    if Unusable entry ∧ c.negotiates type then 1 else 0
  /-- There are as many warnings as there are such leaves. -/
  length_eq : warnings.length =
    if Unusable entry then asked.countP (·.negotiates type) else 0

/-- Where each one that negotiates warns once, the warnings are as many as those. -/
theorem length_flatMap_of_once {own : Converter → List Event} {warns : Prop} [Decidable warns]
    {negotiates : Converter → Bool} {asked : List Converter}
    (h : ∀ c ∈ asked, (own c).length = if warns ∧ negotiates c then 1 else 0) :
    (asked.flatMap own).length = if warns then asked.countP negotiates else 0 := by
  induction asked with
  | nil => simp
  | cons c cs ih =>
    obtain ⟨hc, hcs⟩ := List.forall_mem_cons.1 h
    rw [List.flatMap_cons, List.length_append, hc, ih hcs, List.countP_cons]
    by_cases hw : warns <;> simp [hw, Nat.add_comm]

/-- The number of warnings follows from what each leaf does on its own. -/
theorem WarnsOncePerLeaf.of_own {entry : Option Json} {type : PayloadType}
    {asked : List Converter} {own : Converter → List Event} {warnings : List Event}
    (hfrom : warnings = asked.flatMap own)
    (hown : ∀ c ∈ asked, (own c).length = if Unusable entry ∧ c.negotiates type then 1 else 0) :
    WarnsOncePerLeaf entry type asked own warnings where
  from_asked := hfrom
  own_length := hown
  length_eq := by rw [hfrom, length_flatMap_of_once hown]

namespace MessageConverter

/-- **One warning for each leaf that cannot use the content type**, for every tree whose
leaves read it from its header, whatever their codecs and settings. Of the leaves that are
asked, up to the first that answers, each one whose codec handles the type and that has
supported media types warns exactly once if there is a content type that is neither null
nor a text of a media type. Nothing else is warned about: no other leaf, no composite, and
no content type that is missing, null or read. So what is malformed is never passed over
in silence where it counts as unresolved. -/
theorem warns_once_per_leaf {t : MessageConverter}
    (hreads : ∀ c ∈ t.leaves, ∃ r : HeaderResolver, c.resolver = some r.toResolver) :
    (∀ (m : Message) (target : PayloadType),
        WarnsOncePerLeaf (contentEntry (some m.headers.map)) target
          (consulted (·.DeclinesMessage m target) t.leaves)
          (fun c => (c.fromMessage m target).warnings) (t.fromMessage m target).warnings) ∧
      (∀ (fresh : Stamp) (p : Payload) (headers : Option Headers),
        WarnsOncePerLeaf (contentEntry (headers.map Headers.map)) p.type
          (consulted (·.DeclinesPayload fresh p headers) t.leaves)
          (fun c => (c.toMessage fresh p headers).warnings)
          (t.toMessage fresh p headers).warnings) ∧
      ∀ c ∈ t.leaves, ∀ headers : Option HeaderMap, Unusable (contentEntry headers) →
        (c.resolve headers).value = none ∧ (c.resolve headers).warnings.length = 1 := by
  refine ⟨fun m target => ?_, fun fresh p headers => ?_, fun c hc headers hunusable => ?_⟩
  · refine .of_own (warnings_fromMessage t m target) fun c hc => ?_
    obtain ⟨r, hr⟩ := hreads c ((consulted_isPrefix t.leaves).mem hc)
    rw [c.warnings_fromMessage, Converter.length_warnings_of_header hr]
  · refine .of_own (warnings_toMessage t fresh p headers) fun c hc => ?_
    obtain ⟨r, hr⟩ := hreads c ((consulted_isPrefix t.leaves).mem hc)
    rw [c.warnings_toMessage, Converter.length_warnings_of_header hr]
  · obtain ⟨r, hr⟩ := hreads c hc
    obtain ⟨e, -, he⟩ := r.resolve_unusable hunusable
    rw [Converter.resolve_of_header hr]
    exact ⟨by rw [he], by rw [r.length_warnings_resolve, if_pos hunusable]⟩

/-- Under a text that is no media type, converters of bytes and of counters and the strict
one of texts are asked before a lenient one answers, and a second one is not asked. So
there are two warnings for a text and none for a counter, which has nothing to compare
with. Without headers there is nothing to warn about. -/
theorem warns_once_per_leaf_strict :
    let strict : Converter := { Converter.ofCodec .text with strict := true }
    let lenient : Converter := .ofCodec .text
    let t : MessageConverter := composite [single (.ofCodec .bytes),
      composite [single strict, single (.ofCodec .counter)], single lenient, single lenient]
    let broken : HeaderMap := HeaderMap.empty.insert contentTypeName (.string "???")
    (∀ c ∈ t.leaves, ∃ r : HeaderResolver, c.resolver = some r.toResolver) ∧
      Unusable (contentEntry (some broken)) ∧
      (t.fromMessage ⟨.text "a", ⟨0, broken⟩⟩ .text).warnings.length = 2 ∧
      (t.toMessage 1 (.text "a") (some (.accessor (.ofMap 0 broken)))).warnings.length = 2 ∧
      (t.toMessage 1 (.uint32 7) (some (.frozen ⟨0, broken⟩))).warnings.length = 0 ∧
      (t.toMessage 1 (.text "a") none).warnings.length = 0 ∧
      (strict.resolve (some broken)).value = none ∧
      (strict.resolve (some broken)).warnings.length = 1 := by
  intro strict lenient t broken
  have hreads : ∀ c ∈ t.leaves, ∃ r : HeaderResolver, c.resolver = some r.toResolver := by
    have hheader : ∃ r : HeaderResolver, some (HeaderResolver.toResolver ⟨none⟩) =
        some r.toResolver := ⟨⟨none⟩, rfl⟩
    simpa [t, leaves, leavesOfAll] using ⟨hheader, hheader, hheader, hheader⟩
  have hunusable : Unusable (contentEntry (some broken)) := by decide +kernel
  obtain ⟨hfrom, hto, hleaf⟩ := warns_once_per_leaf hreads
  exact ⟨hreads, hunusable,
    (hfrom ⟨.text "a", ⟨0, broken⟩⟩ .text).length_eq.trans (by decide +kernel),
    (hto 1 (.text "a") (some (.accessor (.ofMap 0 broken)))).length_eq.trans (by decide +kernel),
    (hto 1 (.uint32 7) (some (.frozen ⟨0, broken⟩))).length_eq.trans (by decide +kernel),
    (hto 1 (.text "a") none).length_eq.trans (by decide +kernel),
    hleaf strict (by simp [t, leaves, leavesOfAll]) (some broken) hunusable⟩

end MessageConverter

end Conneg
