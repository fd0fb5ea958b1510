import Conneg.Proofs.NormalForm

/-!
# Conneg.Proofs.SettingsReadBack

Settings are read back from what they are written as.

1. Settings are written as an object with the four fields in some order or as an
   array in the order of the fields (`WrittenAs`).
2. Reading a field copies it (`readField_fieldJson`), and reading several copies them
   one after the other (`readMembers_member`, `readItems_fieldJson`). Once every field
   is copied, nothing is left of the initial settings (`copyAll_eq`).
3. Main statement: `reads_back`.
-/

namespace Conneg

open Json (Draft)

namespace Settings

/-! ## written settings -/

/-- A field's value. -/
def fieldJson (s : Settings) : Field → Json
  | .supported => s.supported.elim .null fun ms => .array (ms.map fun m => .string m.text)
  | .strict => .boolean s.strict
  | .form => .string s.form.name
  | .defaultType => s.defaultType.elim .null fun m => .string m.text

/-- A field's name and value. -/
def member (s : Settings) (f : Field) : String × Json := (f.name, s.fieldJson f)

/-- The ways to write settings. -/
inductive WrittenAs (s : Settings) : Json → Prop where
  /-- By name, in some order. -/
  | object {fields : List Field} (h : fields.Perm Field.all) :
      WrittenAs s (.object (fields.map s.member))
  /-- By position. -/
  | array : WrittenAs s (.array (Field.all.map s.fieldJson))

/-- The fields are written in the order of their names. -/
theorem toJson_eq (s : Settings) :
    s.toJson = .object ([.defaultType, .form, .strict, .supported].map s.member) :=
  rfl

/-- No field is written as a number. -/
theorem numberFree_fieldJson (s : Settings) (f : Field) : (s.fieldJson f).NumberFree := by
  cases f with
  | supported =>
    cases hs : s.supported with
    | none => simp [fieldJson, hs, Json.NumberFree]
    | some ms => simp [fieldJson, hs, Json.NumberFree, Json.numberFreeItems_iff]
  | strict => trivial
  | form => trivial
  | defaultType => cases hd : s.defaultType <;> simp [fieldJson, hd, Json.NumberFree]

/-- Settings are written without numbers, as an object and as an array. -/
theorem WrittenAs.numberFree {s : Settings} {v : Json} (h : s.WrittenAs v) : v.NumberFree := by
  cases h with
  | object =>
    rw [Json.NumberFree, Json.numberFreeMembers_iff]
    intro e he
    obtain ⟨f, -, rfl⟩ := List.mem_map.1 he
    exact s.numberFree_fieldJson f
  | array =>
    rw [Json.NumberFree, Json.numberFreeItems_iff]
    intro v hv
    obtain ⟨f, -, rfl⟩ := List.mem_map.1 hv
    exact s.numberFree_fieldJson f

/-! ## copying fields -/

/-- These settings with one field of others. -/
def copy (t s : Settings) : Field → Settings
  | .supported => { t with supported := s.supported }
  | .strict => { t with strict := s.strict }
  | .form => { t with form := s.form }
  | .defaultType => { t with defaultType := s.defaultType }

/-- These settings with several fields of others. -/
def copyAll (t s : Settings) (fields : List Field) : Settings :=
  fields.foldl (fun t f => t.copy s f) t

/-- Two settings have one field in common. -/
def Agree (t s : Settings) : Field → Prop
  | .supported => t.supported = s.supported
  | .strict => t.strict = s.strict
  | .form => t.form = s.form
  | .defaultType => t.defaultType = s.defaultType

/-- Settings that agree in every field are the same. -/
theorem eq_of_agree {t s : Settings} (h : ∀ f, Agree t s f) : t = s := by
  obtain ⟨supported, strict, form, defaultType⟩ := t
  obtain rfl : supported = s.supported := h .supported
  obtain rfl : strict = s.strict := h .strict
  obtain rfl : form = s.form := h .form
  obtain rfl : defaultType = s.defaultType := h .defaultType
  rfl

/-- A field that is copied is that of the source. -/
theorem agree_copy (t s : Settings) (f : Field) : Agree (t.copy s f) s f := by
  cases f <;> rfl

/-- Copying another field loses nothing. -/
theorem Agree.copy {t s : Settings} {f : Field} (h : Agree t s f) (g : Field) :
    Agree (t.copy s g) s f := by
  cases g <;> cases f <;> first | exact h | rfl

/-- Of several fields each one that is copied is that of the source. -/
theorem agree_copyAll {t s : Settings} {f : Field} {fields : List Field}
    (h : f ∈ fields ∨ Agree t s f) : Agree (t.copyAll s fields) s f := by
  induction fields generalizing t with
  | nil =>
    obtain h | h := h
    · cases h
    · exact h
  | cons g fields ih =>
    refine ih ?_
    obtain hmem | hagree := h
    · obtain rfl | hmem := List.mem_cons.1 hmem
      · exact .inr (agree_copy t s f)
      · exact .inl hmem
    · exact .inr (hagree.copy g)

/-- When every field is copied, the settings are those copied from. -/
theorem copyAll_eq {t s : Settings} {fields : List Field} (h : ∀ f, f ∈ fields) :
    t.copyAll s fields = s :=
  eq_of_agree fun f => agree_copyAll (.inl (h f))

end Settings

theorem Field.mem_all (f : Field) : f ∈ Field.all := by cases f <;> decide

theorem Field.nodup_all : Field.all.Nodup := by decide

theorem Field.ofName?_name (f : Field) : Field.ofName? f.name = some f := by cases f <;> decide

/-! ## reading -/

namespace Json.Draft

/-- Texts of media types are read as their list. -/
theorem mediaTypes_texts (ms : List MediaType) :
    mediaTypes (.ofJson (.array (ms.map fun m => .string m.text))) = .ok ms := by
  have hitems : (ofItems (ms.map fun m => .string m.text)).mapM mediaType = .ok ms := by
    induction ms with
    | nil => rfl
    | cons m ms ih =>
      have hm : (ofJson (.string m.text)).mediaType = .ok m := m.ofJson_text
      rw [List.map_cons, ofItems, List.mapM_cons, hm, ok_bind, ih]
      rfl
  rw [ofJson, mediaTypes, hitems]
  rfl

/-- A form is read from its own name. -/
theorem form_name (f : SerializedForm) : form (string f.name) = .ok f := by
  rw [form, text, ok_bind, SerializedForm.parse, f.parse?_name]
  rfl

/-- What can be read back can be read back where it may be missing, unless it is
written as null itself. -/
theorem optional_elim {α : Type} {read : Draft → Except DataError α} {write : α → Json}
    (hread : ∀ a, read (.ofJson (write a)) = .ok a) (hnull : ∀ a, ofJson (write a) ≠ null)
    (o : Option α) : optional read (.ofJson (o.elim .null write)) = .ok o := by
  cases o with
  | none => rfl
  | some a =>
    rw [Option.elim_some, optional, hread]
    · rfl
    · exact hnull a

end Json.Draft

namespace Settings

/-- Reading a field copies it. -/
theorem readField_fieldJson (t s : Settings) (f : Field) :
    t.readField (.ofJson (s.fieldJson f)) f = .ok (t.copy s f) := by
  cases f with
  | supported =>
    have hread := Draft.optional_elim Draft.mediaTypes_texts (fun ms => by simp [Draft.ofJson])
      s.supported
    rw [readField, fieldJson, hread]
    rfl
  | strict => rfl
  | form =>
    rw [readField, fieldJson, Draft.ofJson, Draft.form_name]
    rfl
  | defaultType =>
    have hread := Draft.optional_elim MediaType.ofJson_text (fun m => by simp [Draft.ofJson])
      s.defaultType
    rw [readField, fieldJson, hread]
    rfl

/-- Members of different fields are copied one after the other. -/
theorem readMembers_member (t s : Settings) {seen fields : List Field} (hnodup : fields.Nodup)
    (hseen : ∀ f ∈ fields, f ∉ seen) :
    t.readMembers seen (Draft.ofMembers (fields.map s.member)) = .ok (t.copyAll s fields) := by
  induction fields generalizing t seen with
  | nil => rfl
  | cons f fields ih =>
    obtain ⟨hf, hfields⟩ := List.nodup_cons.1 hnodup
    have hnew : ∀ g ∈ fields, g ∉ f :: seen := by
      intro g hg hmem
      obtain rfl | hold := List.mem_cons.1 hmem
      · exact hf hg
      · exact hseen g (List.mem_cons_of_mem f hg) hold
    rw [List.map_cons, member, Draft.ofMembers, readMembers, Field.ofName?_name]
    dsimp only
    rw [if_neg (hseen f List.mem_cons_self), readField_fieldJson, ok_bind, ih _ hfields hnew]
    rfl

/-- So are values in the order of the fields. -/
theorem readItems_fieldJson (t s : Settings) (fields : List Field) :
    t.readItems fields (Draft.ofItems (fields.map s.fieldJson)) = .ok (t.copyAll s fields) := by
  induction fields generalizing t with
  | nil => rfl
  | cons f fields ih =>
    rw [List.map_cons, Draft.ofItems, readItems, readField_fieldJson, ok_bind, ih]
    rfl

/-- Settings are read back from each value that they are written as. -/
theorem WrittenAs.ofJson_eq {s : Settings} {v : Json} (h : s.WrittenAs v) : ofJson v = .ok s := by
  cases h with
  | object hperm =>
    have hmem : ∀ f, f ∈ _ := fun f => hperm.mem_iff.2 f.mem_all
    have hread := initial.readMembers_member s (hperm.nodup_iff.2 Field.nodup_all)
      fun f _ => List.not_mem_nil (a := f)
    rw [copyAll_eq hmem] at hread
    rw [ofJson, Draft.ofJson, ofDraft, hread]
    rfl
  | array =>
    have hread := initial.readItems_fieldJson s Field.all
    rw [copyAll_eq Field.mem_all] at hread
    rw [ofJson, Draft.ofJson, ofDraft, hread]
    rfl

/-- They are read back from the text of such a value, too. -/
theorem WrittenAs.ofText_eq {s : Settings} {v : Json} (h : s.WrittenAs v) :
    ofText v.compact = .ok s := by
  have hread : Draft.read v.compact.toList = (.ofJson v, []) := by
    rw [Json.compact, String.toList_ofList]
    simpa using Draft.read_write h.numberFree []
  have hdraft : ofDraft (.ofJson v) = .ok s := h.ofJson_eq
  rw [ofText, hread]
  dsimp only
  rw [hdraft]
  rfl

/-- **Settings are read back.** They are written as an object with exactly the four
fields. From it, from an object with the fields in another order and from an array with
the fields by position they are read as they were, both as a value and as a text. So
they are written the same again, and the same converter is built or refused. -/
theorem reads_back (s : Settings) :
    (∃ fields : List Field, fields.Perm Field.all ∧ s.toJson = .object (fields.map s.member)) ∧
      ∀ v, s.WrittenAs v → ofJson v = .ok s ∧ ofText v.compact = .ok s ∧
        toJson <$> ofJson v = .ok s.toJson ∧
        ∀ codec, Converter.ofSettings codec <$> ofJson v = .ok (Converter.ofSettings codec s) := by
  constructor
  · exact ⟨[.defaultType, .form, .strict, .supported], by decide, s.toJson_eq⟩
  · intro v hv
    have hvalue : ofJson v = .ok s := hv.ofJson_eq
    refine ⟨hvalue, hv.ofText_eq, ?_, fun codec => ?_⟩
    · rw [hvalue]
      rfl
    · rw [hvalue]
      rfl

/-- Nothing is supported, which is not the same as no list. -/
theorem reads_back_nothing_supported :
    let s : Settings := ⟨some [], true, .text, some .textPlainUtf8⟩
    s.WrittenAs (.array (Field.all.map s.fieldJson)) ∧
      ofText "[[],true,\"text\",\"text/plain; charset=utf-8\"]" = .ok s ∧
      ofJson s.toJson = .ok s := by
  intro s
  obtain ⟨⟨fields, hperm, hobject⟩, hread⟩ := s.reads_back
  have htext : (Json.array (Field.all.map s.fieldJson)).compact =
      "[[],true,\"text\",\"text/plain; charset=utf-8\"]" := by decide +kernel
  refine ⟨.array, ?_, ?_⟩
  · rw [← htext]
    exact (hread _ .array).2.1
  · rw [hobject]
    exact (hread _ (.object hperm)).1

end Settings

end Conneg
