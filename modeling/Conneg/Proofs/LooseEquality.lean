import Conneg.Proofs.Decision
import Conneg.Proofs.Suffix

/-!
# Conneg.Proofs.LooseEquality

Settings that compare as equal negotiate alike.

1. The comparison of media types looks at texts, at sizes and at the name of one
   parameter, and is not symmetric. Whichever way two media types pass it, their
   types and subtypes are the same (`essence_eq_of_looselyEq`), suffixes included.
2. All that a decision reads of a media type is its kind (`MediaType.kind`). So kinds
   are what is carried through lists and defaults (`map_kind_of_isEqv`,
   `map_kind_resolve`), and converters with the same kinds decide alike
   (`value_accepts_of_kinds`).
3. Main statement: `negotiates_alike`.
-/

namespace Conneg

open Text

/-! ## media types -/

namespace MediaType

/-- What negotiation reads of a media type: its type and its subtype. -/
def kind (m : MediaType) : String × String := (m.type, m.subtype)

/-- Being of the same kind is having the same kind. -/
theorem sameKind_eq_kind (m n : MediaType) : m.sameKind n = (m.kind == n.kind) := by
  rw [Bool.eq_iff_iff, sameKind_iff, beq_iff_eq, kind, kind, Prod.mk.injEq]

/-- A media type is in lowercase up to its first `;`. -/
theorem lower_essence (m : MediaType) : lower m.spelling.essence = m.spelling.essence := by
  rw [Spelling.essence, lower_append, lower_cons, m.lower_type, m.lower_subtype]
  rfl

/-- Texts that agree up to letter case agree on type and subtype, which stand in front. -/
theorem essence_eq_of_sameLetters {m n : MediaType}
    (h : sameLetters m.spelling.write n.spelling.write = true) :
    m.spelling.essence = n.spelling.essence := by
  have hfront : ∀ o : MediaType, o.spelling.essence = front (lower o.spelling.write) := by
    intro o
    rw [front, takeWhile_lower (toLower_bne (by decide)), ← front, front_write o.wellFormed,
      o.lower_essence]
  rw [hfront m, hfront n, sameLetters_iff.1 h]

/-- In each of the ways in which media types compare as equal, type and subtype are the
same. -/
theorem essence_eq_of_looselyEq {m n : MediaType} (h : m.looselyEq n = true) :
    m.spelling.essence = n.spelling.essence := by
  unfold looselyEq at h
  dsimp only at h
  split at h
  · exact essence_eq_of_sameLetters h
  · split at h
    · exact essence_eq_of_sameLetters h
    · exact beq_iff_eq.1 (Bool.and_eq_true_iff.1 h).1

/-- The kind of a media type can be read off what stands in front of its parameters. -/
theorem kind_eq_of_essence {m n : MediaType} (h : m.spelling.essence = n.spelling.essence) :
    m.kind = n.kind := by
  obtain ⟨hm, hm'⟩ := takeWhile_slash (slash_not_mem_type m.wellFormed) m.spelling.subtype
  obtain ⟨hn, hn'⟩ := takeWhile_slash (slash_not_mem_type n.wellFormed) n.spelling.subtype
  rw [← Spelling.essence, h, Spelling.essence, hn] at hm
  rw [← Spelling.essence, h, Spelling.essence, hn'] at hm'
  rw [kind, kind, type, type, subtype, subtype, hm, (List.cons.inj hm').2]

/-- Media types that compare as equal are of one kind. -/
theorem kind_eq_of_looselyEq {m n : MediaType} (h : m.looselyEq n = true) : m.kind = n.kind :=
  kind_eq_of_essence (essence_eq_of_looselyEq h)

/-- The kinds of lists that compare as equal are the same, one by one. -/
theorem map_kind_of_isEqv {ms ns : List MediaType} (h : ms.isEqv ns looselyEq = true) :
    ms.map kind = ns.map kind := by
  induction ms generalizing ns with
  | nil =>
    cases ns with
    | nil => rfl
    | cons n ns => cases h
  | cons m ms ih =>
    cases ns with
    | nil => cases h
    | cons n ns =>
      obtain ⟨hhead, htail⟩ := Bool.and_eq_true_iff.1 h
      rw [List.map_cons, List.map_cons, kind_eq_of_looselyEq hhead, ih htail]

end MediaType

/-! ## decisions -/

open MediaType (kind)

/-- The kind that is resolved depends on the kind of the default alone. -/
theorem HeaderResolver.map_kind_resolve {r r' : HeaderResolver}
    (h : r.default?.map kind = r'.default?.map kind) (headers : Option HeaderMap) :
    (r.resolve headers).value.map kind = (r'.resolve headers).value.map kind := by
  obtain hu | ⟨type, hl⟩ | hx := entry_cases (contentEntry headers)
  · rw [r.resolve_unlabelled hu, r'.resolve_unlabelled hu]
    exact h
  · rw [r.resolve_labelled hl, r'.resolve_labelled hl]
  · obtain ⟨e, -, he⟩ := r.resolve_unusable hx
    obtain ⟨e', -, he'⟩ := r'.resolve_unusable hx
    rw [he, he']

namespace Converter

/-- What is acceptable, said on kinds. -/
theorem acceptsType_eq_kinds (c : Converter) (answer : Option MediaType) :
    c.acceptsType answer =
      match answer.map kind with
      | none => !c.strict
      | some k => (c.supported.map kind).contains k := by
  cases answer with
  | none => rfl
  | some m =>
    have hany : (c.supported.any fun s => s.sameKind m) = (c.supported.map kind).contains m.kind := by
      rw [List.contains_eq_any_beq, List.any_map]
      congr 1
      funext s
      rw [MediaType.sameKind_eq_kind, Bool.beq_comm]
      rfl
    exact hany

/-- Converters with the same kinds and the same strictness decide alike. -/
theorem value_accepts_of_kinds {c d : Converter} {headers : Option HeaderMap}
    (hsupported : c.supported.map kind = d.supported.map kind) (hstrict : c.strict = d.strict)
    (hresolve : (c.resolve headers).value.map kind = (d.resolve headers).value.map kind) :
    (c.accepts headers).value = (d.accepts headers).value := by
  have hempty : c.supported.isEmpty = d.supported.isEmpty := by
    have hmap := congrArg List.isEmpty hsupported
    rwa [List.isEmpty_map, List.isEmpty_map] at hmap
  rw [value_accepts, value_accepts, acceptsType_eq_kinds, acceptsType_eq_kinds, hempty, hresolve,
    hsupported, hstrict]

end Converter

/-! ## settings -/

namespace Settings

section

variable {a b : Settings}

/-- What compared values share, compared values that may be missing share too. -/
theorem map_eq_of_bothOrNeither {α β : Type} {compare : α → α → Bool} (f : α → β)
    (hf : ∀ x y, compare x y = true → f x = f y) {o o' : Option α}
    (h : bothOrNeither compare o o' = true) : o.map f = o'.map f := by
  cases o with
  | none =>
    cases o' with
    | none => rfl
    | some y => cases h
  | some x =>
    cases o' with
    | none => cases h
    | some y => exact congrArg some (hf x y h)

/-- All that settings that compare as equal have in common. -/
theorem fields_of_looselyEq (h : a.looselyEq b = true) :
    bothOrNeither (fun ms ns => ms.isEqv ns MediaType.looselyEq) a.supported b.supported = true ∧
      a.strict = b.strict ∧ a.form = b.form ∧
      bothOrNeither MediaType.looselyEq a.defaultType b.defaultType = true := by
  simpa only [looselyEq, Bool.and_eq_true_iff, beq_iff_eq, and_assoc] using h

/-- Both or neither leave the supported types to the codec. -/
theorem map_kind_types (h : a.looselyEq b = true) (codec : Codec) :
    (a.types codec).map kind = (b.types codec).map kind := by
  have hsupported : a.supported.map (List.map kind) = b.supported.map (List.map kind) :=
    map_eq_of_bothOrNeither (List.map kind) (fun _ _ => MediaType.map_kind_of_isEqv)
      (fields_of_looselyEq h).1
  unfold types
  rw [← Option.getD_map (List.map kind), ← Option.getD_map (List.map kind), hsupported]

/-- The default content types of settings that compare as equal are of one kind. -/
theorem map_kind_defaultType (h : a.looselyEq b = true) :
    a.defaultType.map kind = b.defaultType.map kind :=
  map_eq_of_bothOrNeither kind (fun _ _ => MediaType.kind_eq_of_looselyEq)
    (fields_of_looselyEq h).2.2.2

/-- What is acceptable to the one is acceptable to the other. -/
theorem value_accepts_described_of_looselyEq (h : a.looselyEq b = true) (codec : Codec)
    (headers : Option HeaderMap) :
    ((a.described codec).accepts headers).value = ((b.described codec).accepts headers).value :=
  Converter.value_accepts_of_kinds (map_kind_types h codec) (fields_of_looselyEq h).2.1
    (HeaderResolver.map_kind_resolve (map_kind_defaultType h) headers)

/-- **Settings that compare as equal negotiate alike**, for every codec: either both are
refused with the same error, or both build a converter, and the two converters accept
the same headers. What is compared of media types is enough for that: those that
compare as equal are of one kind, whatever else differs in their texts. -/
theorem negotiates_alike :
    (∀ (codec : Codec) (a b : Settings), a.looselyEq b = true →
        (∃ e, (Converter.ofSettings codec a).value = .error e ∧
          (Converter.ofSettings codec b).value = .error e) ∨
        ∃ c d, (Converter.ofSettings codec a).value = .ok c ∧
          (Converter.ofSettings codec b).value = .ok d ∧
          ∀ headers, (c.accepts headers).value = (d.accepts headers).value) ∧
      ∀ m n : MediaType, m.looselyEq n = true → m.sameKind n = true := by
  refine ⟨fun codec a b h => ?_, fun m n h => ?_⟩
  · have hrefused : (a.strict = true ∧ a.types codec = []) ↔
        (b.strict = true ∧ b.types codec = []) := by
      have hnil := congrArg (· = []) (map_kind_types h codec)
      simp only [List.map_eq_nil_iff] at hnil
      rw [(fields_of_looselyEq h).2.1, hnil]
    rw [Converter.value_ofSettings, Converter.value_ofSettings, a.build_eq codec,
      b.build_eq codec]
    by_cases ha : a.strict = true ∧ a.types codec = []
    · rw [if_pos ha, if_pos (hrefused.1 ha)]
      exact .inl ⟨_, rfl, rfl⟩
    · rw [if_neg ha, if_neg (mt hrefused.2 ha)]
      exact .inr ⟨_, _, rfl, rfl, value_accepts_described_of_looselyEq h codec⟩
  · rw [MediaType.sameKind_eq_kind, beq_iff_eq]
    exact MediaType.kind_eq_of_looselyEq h

end

/-- Types that differ in their character sets compare as equal in one direction only. -/
theorem negotiates_alike_charsets :
    ∃ ascii, MediaType.parse "text/plain; charset=ascii" = .ok ascii ∧
      let a : Settings := ⟨some [ascii], true, .binary, some .textPlainUtf8⟩
      let b : Settings := ⟨some [.textPlainUtf8], true, .binary, some .textPlainUtf8⟩
      a.looselyEq b = true ∧ b.looselyEq a = false ∧
        MediaType.looselyEq ascii .textPlainUtf8 = true ∧
        MediaType.sameKind ascii .textPlainUtf8 = true ∧
        ∃ c d, (Converter.ofSettings .text a).value = .ok c ∧
          (Converter.ofSettings .text b).value = .ok d ∧
          ∀ headers, (c.accepts headers).value = (d.accepts headers).value := by
  have hcompare : (MediaType.parse "text/plain; charset=ascii").toOption.map
      (fun m => (m.looselyEq .textPlainUtf8, MediaType.textPlainUtf8.looselyEq m)) =
        some (true, false) := by decide +kernel
  have hself : MediaType.textPlainUtf8.looselyEq .textPlainUtf8 = true := by decide
  cases hparse : MediaType.parse "text/plain; charset=ascii" with
  | error e =>
    rw [hparse] at hcompare
    cases hcompare
  | ok ascii =>
    rw [hparse] at hcompare
    obtain ⟨hto, hfrom⟩ := Prod.mk.inj (Option.some.inj hcompare)
    obtain ⟨hsettings, htypes⟩ := negotiates_alike
    refine ⟨ascii, rfl, ?_⟩
    intro a b
    have hab : a.looselyEq b = true := by
      simp [a, b, looselyEq, bothOrNeither, List.isEqv, hto, hself]
    have hba : b.looselyEq a = false := by
      simp [a, b, looselyEq, bothOrNeither, List.isEqv, hfrom]
    refine ⟨hab, hba, hto, htypes _ _ hto, ?_⟩
    obtain ⟨e, he, -⟩ | hbuilt := hsettings .text a b hab
    · rw [Converter.value_ofSettings, a.build_eq] at he
      cases he
    · exact hbuilt

end Settings

end Conneg
