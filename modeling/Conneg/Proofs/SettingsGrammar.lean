import Conneg.Proofs.SettingsReadBack
import Mathlib.Data.List.Forall2

/-!
# Conneg.Proofs.SettingsGrammar

The JSON values that settings are read from.

1. A value lists its members by name or by position (`Listing`), and a member is well
   formed if its field admits its value (`Field.Admits`). Nothing here mentions a reader.
2. `readField_eq_ok_iff`: reading a field copies it from settings that hold its value
   (`Holds`). So reading members changes the fields that they give, and keeps the other
   ones (`Update`, `readMembers_eq_ok_iff`).
3. Main statement: `reads_exactly`. Values of this grammar are read, no other ones are,
   and what is read holds the given values and the initial ones for what is missing.
-/

namespace Conneg

open Text
open Json (Draft)

/-! ## the grammar -/

/-- The media type is read from the value, which is a text of it. -/
def MediaType.ReadFrom (m : MediaType) (v : Json) : Prop :=
  ∃ raw, v = .string raw ∧ parse raw = .ok m

/-- The media types are read from the items of the value one by one. -/
def MediaType.AllReadFrom (types : List MediaType) (v : Json) : Prop :=
  ∃ items, v = .array items ∧ List.Forall₂ ReadFrom types items

/-- What may be missing is read from the value, or is missing and the value null. -/
def OptionalFrom {α : Type} (ReadFrom : α → Json → Prop) : Option α → Json → Prop
  | none, v => v = .null
  | some a, v => ReadFrom a v

namespace SerializedForm

/-- The word of a text that names a form: without outer blanks, in lowercase. -/
def word (raw : String) : String := String.ofList (lower (trim raw.toList))

/-- The names of a form. -/
def names : SerializedForm → List String
  | binary => ["binary", "bytes"]
  | text => ["text", "string"]

end SerializedForm

/-- The values that a field admits. -/
def Field.Admits : Field → Json → Prop
  | supported, v => v = .null ∨
      ∃ items, v = .array items ∧ ∀ item ∈ items, ∃ m : MediaType, m.ReadFrom item
  | strict, v => ∃ b, v = .boolean b
  | form, v => ∃ raw, v = .string raw ∧ ∃ f : SerializedForm, SerializedForm.word raw ∈ f.names
  | defaultType, v => v = .null ∨ ∃ m : MediaType, m.ReadFrom v

namespace Settings

/-- The members that a value lists: those of an object, or values by position, which are
at most as many as there are fields. -/
inductive Listing : Json → List (String × Json) → Prop where
  | byName (members : List (String × Json)) : Listing (.object members) members
  | byPosition {items : List Json} (h : items.length ≤ Field.all.length) :
      Listing (.array items) ((Field.all.map Field.name).zip items)

/-- The settings have what the value says in one field. -/
def Holds (s : Settings) : Field → Json → Prop
  | .supported, v => OptionalFrom MediaType.AllReadFrom s.supported v
  | .strict, v => v = .boolean s.strict
  | .form, v => ∃ raw, v = .string raw ∧ SerializedForm.word raw ∈ s.form.names
  | .defaultType, v => OptionalFrom MediaType.ReadFrom s.defaultType v

/-- The settings `s` are `t` but for the members, each of which gives one field. -/
structure Update (t : Settings) (members : List (String × Json)) (s : Settings) : Prop where
  distinct : (members.map Prod.fst).Nodup
  given : ∀ e ∈ members, ∃ f : Field, e.1 = f.name ∧ s.Holds f e.2
  kept : ∀ f : Field, f.name ∉ members.map Prod.fst → Agree s t f

end Settings

/-! ## reading single values -/

/-- Fields have different names. -/
theorem Field.name_injective {f g : Field} (h : f.name = g.name) : f = g := by
  have hf := f.ofName?_name
  rw [h, g.ofName?_name] at hf
  exact (Option.some.inj hf).symm

/-- A field is found under its own name only. -/
theorem Field.ofName?_eq_some_iff {name : String} {f : Field} :
    ofName? name = some f ↔ name = f.name := by
  constructor
  · intro h
    have hname := List.find?_some h
    exact (eq_of_beq hname).symm
  · rintro rfl
    exact f.ofName?_name

/-- A text is read as the form whose name its word is. No word names both. -/
theorem SerializedForm.parse?_eq_some_iff {raw : String} {f : SerializedForm} :
    parse? raw = some f ↔ word raw ∈ f.names := by
  have hdisjoint : ∀ w ∈ names binary, w ∉ names text := by decide
  rw [parse?]
  split
  · next h =>
    have hbinary : word raw ∈ names binary := by simpa [names, word] using h
    cases f with
    | binary => exact iff_of_true rfl hbinary
    | text => exact iff_of_false (fun h => nomatch h) (hdisjoint _ hbinary)
  · next h =>
    have hbinary : word raw ∉ names binary := by simpa [names, word] using h
    split
    · next h =>
      have htext : word raw ∈ names text := by simpa [names, word] using h
      cases f with
      | binary => exact iff_of_false (fun h => nomatch h) hbinary
      | text => exact iff_of_true rfl htext
    · next h =>
      have htext : word raw ∉ names text := by simpa [names, word] using h
      cases f with
      | binary => exact iff_of_false (fun h => nomatch h) hbinary
      | text => exact iff_of_false (fun h => nomatch h) htext

/-- A list is read if each of its items is, and then into what those are read into. -/
theorem mapM_eq_ok_iff {ε α β : Type} {f : α → Except ε β} {xs : List α} {ys : List β} :
    xs.mapM f = .ok ys ↔ List.Forall₂ (fun x y => f x = .ok y) xs ys := by
  induction xs generalizing ys with
  | nil =>
    rw [List.forall₂_nil_left_iff]
    exact ⟨fun h => (Except.ok.inj h).symm, fun h => congrArg Except.ok h.symm⟩
  | cons x xs ih =>
    rw [List.mapM_cons, List.forall₂_cons_left_iff, bind_eq_ok]
    constructor
    · rintro ⟨y, hy, h⟩
      obtain ⟨ys, hys, h⟩ := bind_eq_ok.1 h
      exact ⟨y, ys, hy, ih.1 hys, (Except.ok.inj h).symm⟩
    · rintro ⟨y, ys, hy, hys, rfl⟩
      refine ⟨y, hy, ?_⟩
      rw [ih.2 hys]
      rfl

/-- A list of related values exists if each value has one that is related to it. -/
theorem exists_forall₂_iff {α β : Type} {R : α → β → Prop} {ys : List β} :
    (∃ xs, List.Forall₂ R xs ys) ↔ ∀ y ∈ ys, ∃ x, R x y := by
  induction ys with
  | nil => exact iff_of_true ⟨[], .nil⟩ fun _ h => absurd h List.not_mem_nil
  | cons y ys ih =>
    rw [List.forall_mem_cons, ← ih]
    constructor
    · rintro ⟨_, h⟩
      obtain ⟨x, xs, hx, hxs, -⟩ := List.forall₂_cons_right_iff.1 h
      exact ⟨⟨x, hx⟩, xs, hxs⟩
    · rintro ⟨⟨x, hx⟩, xs, hxs⟩
      exact ⟨x :: xs, .cons hx hxs⟩

namespace Json.Draft

mutual
/-- Different values have different drafts. -/
theorem ofJson_injective {v w : Json} (h : ofJson v = ofJson w) : v = w := by
  match v, w with
  | .null, .null => rfl
  | .boolean _, .boolean _ | .number _, .number _ | .string _, .string _ => simpa [ofJson] using h
  | .array vs, .array ws =>
    rw [ofJson, ofJson, Draft.array.injEq] at h
    rw [ofItems_injective h.1]
  | .object es, .object fs =>
    rw [ofJson, ofJson, Draft.object.injEq] at h
    rw [ofMembers_injective h.1]

/-- The drafts of lists tell the lists apart. -/
theorem ofItems_injective {vs ws : List Json} (h : ofItems vs = ofItems ws) : vs = ws := by
  match vs, ws with
  | [], [] => rfl
  | v :: vs, w :: ws =>
    rw [ofItems, ofItems, List.cons.injEq] at h
    rw [ofJson_injective h.1, ofItems_injective h.2]

/-- The drafts of members tell the members apart. -/
theorem ofMembers_injective {es fs : List (String × Json)} (h : ofMembers es = ofMembers fs) :
    es = fs := by
  match es, fs with
  | [], [] => rfl
  | (k, v) :: es, (l, w) :: fs =>
    rw [ofMembers, ofMembers, List.cons.injEq, Prod.mk.injEq] at h
    rw [h.1.1, ofJson_injective h.1.2, ofMembers_injective h.2]
end

theorem length_ofItems (vs : List Json) : (ofItems vs).length = vs.length := by
  induction vs with
  | nil => rfl
  | cons v vs ih => rw [ofItems, List.length_cons, List.length_cons, ih]

theorem text_eq_ok_iff {d : Draft} {raw : String} : d.text = .ok raw ↔ d = string raw := by
  cases d <;> simp [text, refuse]

theorem truth_eq_ok_iff {d : Draft} {b : Bool} : d.truth = .ok b ↔ d = boolean b := by
  cases d <;> simp [truth, refuse]

/-- A media type is read from drafts of the strings that it is read from. -/
theorem mediaType_eq_ok_iff {d : Draft} {m : MediaType} :
    d.mediaType = .ok m ↔ ∃ v, d = ofJson v ∧ m.ReadFrom v := by
  rw [mediaType, bind_eq_ok]
  constructor
  · rintro ⟨raw, htext, h⟩
    cases hparse : MediaType.parse raw with
    | ok m' =>
      rw [hparse] at h
      cases h
      exact ⟨.string raw, text_eq_ok_iff.1 htext, raw, rfl, hparse⟩
    | error e =>
      rw [hparse] at h
      cases h
  · rintro ⟨v, rfl, raw, rfl, hparse⟩
    refine ⟨raw, rfl, ?_⟩
    rw [hparse]
    rfl

/-- A form is read from the drafts of strings that name it. -/
theorem form_eq_ok_iff {d : Draft} {f : SerializedForm} :
    d.form = .ok f ↔ ∃ raw, d = string raw ∧ SerializedForm.word raw ∈ f.names := by
  have hparse : ∀ raw, SerializedForm.parse raw = .ok f ↔ SerializedForm.word raw ∈ f.names := by
    intro raw
    rw [← SerializedForm.parse?_eq_some_iff, SerializedForm.parse]
    cases SerializedForm.parse? raw <;> simp
  rw [form, bind_eq_ok]
  refine exists_congr fun raw => and_congr text_eq_ok_iff ?_
  rw [← hparse]
  cases SerializedForm.parse raw with
  | ok g => constructor <;> rintro ⟨⟩ <;> rfl
  | error e => constructor <;> rintro ⟨⟩

/-- Texts of media types are read one by one. -/
theorem mapM_mediaType_eq_ok_iff {ds : List Draft} {types : List MediaType} :
    ds.mapM mediaType = .ok types ↔
      ∃ items, ds = ofItems items ∧ List.Forall₂ MediaType.ReadFrom types items := by
  rw [mapM_eq_ok_iff]
  constructor
  · intro h
    induction h with
    | nil => exact ⟨[], rfl, .nil⟩
    | cons hd _ ih =>
      obtain ⟨v, rfl, hv⟩ := mediaType_eq_ok_iff.1 hd
      obtain ⟨items, rfl, hitems⟩ := ih
      exact ⟨v :: items, rfl, .cons hv hitems⟩
  · rintro ⟨items, rfl, h⟩
    induction h with
    | nil => exact .nil
    | cons hv _ ih => exact .cons (mediaType_eq_ok_iff.2 ⟨_, rfl, hv⟩) ih

/-- Media types are read from drafts of the arrays that they are read from. -/
theorem mediaTypes_eq_ok_iff {d : Draft} {types : List MediaType} :
    d.mediaTypes = .ok types ↔ ∃ v, d = ofJson v ∧ MediaType.AllReadFrom types v := by
  constructor
  · intro h
    cases d with
    | array ds closed =>
      obtain ⟨read, hread, hclosed⟩ := bind_eq_ok.1 h
      obtain ⟨items, rfl, hitems⟩ := mapM_mediaType_eq_ok_iff.1 hread
      cases closed with
      | true =>
        cases hclosed
        exact ⟨.array items, rfl, items, rfl, hitems⟩
      | false => cases hclosed
    | _ => cases h
  · rintro ⟨v, rfl, items, rfl, hitems⟩
    rw [ofJson, mediaTypes, mapM_mediaType_eq_ok_iff.2 ⟨items, rfl, hitems⟩]
    rfl

/-- What may be missing is read from null as missing, and from anything else as
given. -/
theorem optional_eq_ok_iff {α : Type} {read : Draft → Except DataError α}
    {ReadFrom : α → Json → Prop} (hread : ∀ d a, read d = .ok a ↔ ∃ v, d = ofJson v ∧ ReadFrom a v)
    (hnull : ∀ a, ¬ ReadFrom a .null) {d : Draft} {o : Option α} :
    optional read d = .ok o ↔ ∃ v, d = ofJson v ∧ OptionalFrom ReadFrom o v := by
  by_cases hd : d = null
  · subst hd
    cases o with
    | none => exact iff_of_true rfl ⟨.null, rfl, rfl⟩
    | some a =>
      constructor
      · rintro ⟨⟩
      · rintro ⟨v, hv, ha⟩
        cases v with
        | null => exact absurd ha (hnull a)
        | _ => cases hv
  · have hsome : optional read d = (read d).map some := by
      rw [optional]
      · rfl
      · exact hd
    rw [hsome, map_eq_ok]
    cases o with
    | none =>
      constructor
      · rintro ⟨a, -, ⟨⟩⟩
      · rintro ⟨v, rfl, rfl⟩
        exact absurd rfl hd
    | some a =>
      have hexists : (∃ b, read d = .ok b ∧ some b = some a) ↔ read d = .ok a := by simp
      exact hexists.trans (hread d a)

theorem optional_mediaTypes_eq_ok_iff {d : Draft} {o : Option (List MediaType)} :
    d.optional mediaTypes = .ok o ↔
      ∃ v, d = ofJson v ∧ OptionalFrom MediaType.AllReadFrom o v :=
  optional_eq_ok_iff (fun _ _ => mediaTypes_eq_ok_iff) fun _ ⟨_, h, _⟩ => nomatch h

theorem optional_mediaType_eq_ok_iff {d : Draft} {o : Option MediaType} :
    d.optional mediaType = .ok o ↔ ∃ v, d = ofJson v ∧ OptionalFrom MediaType.ReadFrom o v :=
  optional_eq_ok_iff (fun _ _ => mediaType_eq_ok_iff) fun _ ⟨_, h, _⟩ => nomatch h

end Json.Draft

/-! ## reading fields -/

namespace Settings

/-- What a field holds depends on that field alone. -/
theorem Agree.holds_iff {s t : Settings} {f : Field} (h : Agree s t f) (v : Json) :
    s.Holds f v ↔ t.Holds f v := by
  cases f with
  | supported => rw [Holds, Holds, show s.supported = t.supported from h]
  | strict => rw [Holds, Holds, show s.strict = t.strict from h]
  | form => rw [Holds, Holds, show s.form = t.form from h]
  | defaultType => rw [Holds, Holds, show s.defaultType = t.defaultType from h]

theorem Agree.symm {s t : Settings} {f : Field} (h : Agree s t f) : Agree t s f := by
  cases f <;> exact Eq.symm h

theorem Agree.trans {s t u : Settings} {f : Field} (h : Agree s t f) (h' : Agree t u f) :
    Agree s u f := by
  cases f <;> exact Eq.trans h h'

theorem agree_refl (s : Settings) (f : Field) : Agree s s f := by
  cases f <;> rfl

/-- Copying one field changes no other one. -/
theorem agree_copy_of_ne (t s : Settings) {f g : Field} (h : g ≠ f) : Agree (t.copy s f) t g := by
  cases f <;> cases g <;> first | exact absurd rfl h | rfl

/-- Reading a field copies it from settings that hold the value. -/
theorem readField_eq_ok_iff {t t' : Settings} {d : Draft} {f : Field} :
    t.readField d f = .ok t' ↔ ∃ v s, d = .ofJson v ∧ Holds s f v ∧ t' = t.copy s f := by
  cases f with
  | supported =>
    rw [readField, bind_eq_ok]
    constructor
    · rintro ⟨types, htypes, h⟩
      obtain ⟨v, rfl, hv⟩ := Draft.optional_mediaTypes_eq_ok_iff.1 htypes
      cases h
      exact ⟨v, { t with supported := types }, rfl, hv, rfl⟩
    · rintro ⟨v, s, rfl, hv, rfl⟩
      exact ⟨s.supported, Draft.optional_mediaTypes_eq_ok_iff.2 ⟨v, rfl, hv⟩, rfl⟩
  | strict =>
    rw [readField, bind_eq_ok]
    constructor
    · rintro ⟨b, hb, h⟩
      obtain rfl := Draft.truth_eq_ok_iff.1 hb
      cases h
      exact ⟨.boolean b, { t with strict := b }, rfl, rfl, rfl⟩
    · rintro ⟨v, s, rfl, rfl, rfl⟩
      exact ⟨s.strict, rfl, rfl⟩
  | form =>
    rw [readField, bind_eq_ok]
    constructor
    · rintro ⟨form, hform, h⟩
      obtain ⟨raw, rfl, hraw⟩ := Draft.form_eq_ok_iff.1 hform
      cases h
      exact ⟨.string raw, { t with form }, rfl, ⟨raw, rfl, hraw⟩, rfl⟩
    · rintro ⟨v, s, rfl, ⟨raw, rfl, hraw⟩, rfl⟩
      exact ⟨s.form, Draft.form_eq_ok_iff.2 ⟨raw, rfl, hraw⟩, rfl⟩
  | defaultType =>
    rw [readField, bind_eq_ok]
    constructor
    · rintro ⟨type, htype, h⟩
      obtain ⟨v, rfl, hv⟩ := Draft.optional_mediaType_eq_ok_iff.1 htype
      cases h
      exact ⟨v, { t with defaultType := type }, rfl, hv, rfl⟩
    · rintro ⟨v, s, rfl, hv, rfl⟩
      exact ⟨s.defaultType, Draft.optional_mediaType_eq_ok_iff.2 ⟨v, rfl, hv⟩, rfl⟩

/-! ## reading members -/

/-- Without members nothing changes. -/
theorem update_nil_iff {t s : Settings} : t.Update [] s ↔ s = t := by
  constructor
  · exact fun h => eq_of_agree fun f => h.kept f List.not_mem_nil
  · rintro rfl
    exact ⟨List.nodup_nil, fun _ h => absurd h List.not_mem_nil, fun f _ => agree_refl s f⟩

/-- One member more copies its field before the other members change theirs. -/
theorem update_cons_iff {t t' : Settings} {name : String} {v : Json}
    {members : List (String × Json)} :
    t.Update ((name, v) :: members) t' ↔ ∃ f s, name = f.name ∧ f.name ∉ members.map Prod.fst ∧
      Holds s f v ∧ (t.copy s f).Update members t' := by
  constructor
  · rintro ⟨hdistinct, hgiven, hkept⟩
    rw [List.map_cons, List.nodup_cons] at hdistinct
    obtain ⟨f, rfl, hf⟩ := hgiven (_, v) List.mem_cons_self
    -- the settings after all members hold the first value, so the field can be copied from them
    refine ⟨f, t', rfl, hdistinct.1, hf, hdistinct.2,
      fun e he => hgiven e (List.mem_cons_of_mem _ he), fun g hg => ?_⟩
    by_cases hgf : g = f
    · subst hgf
      exact Agree.symm (agree_copy t t' g)
    · have hnew : g.name ∉ f.name :: members.map Prod.fst := by
        rw [List.mem_cons]
        exact fun h => h.elim (fun h => hgf (Field.name_injective h)) hg
      exact (hkept g hnew).trans (Agree.symm (agree_copy_of_ne t t' hgf))
  · rintro ⟨f, s, rfl, hf, hv, hdistinct, hgiven, hkept⟩
    refine ⟨List.nodup_cons.2 ⟨hf, hdistinct⟩, fun e he => ?_, fun g hg => ?_⟩
    · obtain rfl | he := List.mem_cons.1 he
      · exact ⟨f, rfl, (((hkept f hf).trans (agree_copy t s f)).holds_iff v).2 hv⟩
      · exact hgiven e he
    · rw [List.map_cons, List.mem_cons, not_or] at hg
      have hgf : g ≠ f := fun h => hg.1 (congrArg Field.name h)
      exact (hkept g hg.2).trans (agree_copy_of_ne t s hgf)

/-- So one step of a reader copies a field as well. -/
theorem readField_bind_eq_ok_iff {t t' : Settings} {d : Draft} {f : Field}
    {next : Settings → Except DataError Settings} :
    t.readField d f >>= next = .ok t' ↔
      ∃ v s, d = .ofJson v ∧ Holds s f v ∧ next (t.copy s f) = .ok t' := by
  rw [bind_eq_ok]
  constructor
  · rintro ⟨u, hu, h⟩
    obtain ⟨v, s, hd, hv, rfl⟩ := readField_eq_ok_iff.1 hu
    exact ⟨v, s, hd, hv, h⟩
  · rintro ⟨v, s, hd, hv, h⟩
    exact ⟨t.copy s f, readField_eq_ok_iff.2 ⟨v, s, hd, hv, rfl⟩, h⟩

/-- A first member gives a field that was not given before; the others change what is
then at hand. -/
theorem readMembers_cons_eq_ok_iff {t t' : Settings} {seen : List Field} {name : String}
    {d : Draft} {ds : List (String × Draft)} :
    t.readMembers seen ((name, d) :: ds) = .ok t' ↔ ∃ f v s, name = f.name ∧ f ∉ seen ∧
      d = .ofJson v ∧ Holds s f v ∧ (t.copy s f).readMembers (f :: seen) ds = .ok t' := by
  rw [readMembers]
  constructor
  · intro h
    cases hname : Field.ofName? name with
    | none =>
      rw [hname] at h
      cases h
    | some f =>
      rw [hname] at h
      dsimp only at h
      split at h
      · cases h
      · next hseen =>
        obtain ⟨v, s, hv⟩ := readField_bind_eq_ok_iff.1 h
        exact ⟨f, v, s, Field.ofName?_eq_some_iff.1 hname, hseen, hv⟩
  · rintro ⟨f, v, s, rfl, hseen, hv⟩
    rw [f.ofName?_name]
    dsimp only
    rw [if_neg hseen]
    exact readField_bind_eq_ok_iff.2 ⟨v, s, hv⟩

/-- Members are read when each gives a field that was not given before. -/
theorem readMembers_eq_ok_iff {t t' : Settings} {seen : List Field} {ds : List (String × Draft)} :
    t.readMembers seen ds = .ok t' ↔ ∃ members, ds = Draft.ofMembers members ∧
      (∀ f ∈ seen, f.name ∉ members.map Prod.fst) ∧ t.Update members t' := by
  induction ds generalizing t seen with
  | nil =>
    constructor
    · rintro ⟨⟩
      exact ⟨[], rfl, fun _ _ => List.not_mem_nil, update_nil_iff.2 rfl⟩
    · rintro ⟨members, hmembers, -, h⟩
      cases members with
      | nil =>
        rw [update_nil_iff.1 h]
        rfl
      | cons => cases hmembers
  | cons entry ds ih =>
    obtain ⟨name, d⟩ := entry
    rw [readMembers_cons_eq_ok_iff]
    constructor
    · rintro ⟨f, v, s, rfl, hseen, rfl, hv, h⟩
      obtain ⟨members, rfl, hnew, h⟩ := ih.1 h
      -- the field just read is one of those seen, so no later member gives it
      have hf := hnew f List.mem_cons_self
      refine ⟨(f.name, v) :: members, rfl, fun g hg => ?_, update_cons_iff.2 ⟨f, s, rfl, hf, hv, h⟩⟩
      rw [List.map_cons, List.mem_cons, not_or]
      refine ⟨fun hname => hseen ?_, hnew g (List.mem_cons_of_mem f hg)⟩
      rwa [← Field.name_injective hname]
    · rintro ⟨members, hmembers, hseen, h⟩
      obtain - | ⟨⟨name', v⟩, members⟩ := members
      · cases hmembers
      · cases hmembers
        obtain ⟨f, s, rfl, hf, hv, h⟩ := update_cons_iff.1 h
        refine ⟨f, v, s, rfl, fun hmem => hseen f hmem List.mem_cons_self, rfl, hv,
          ih.2 ⟨members, rfl, fun g hg => ?_, h⟩⟩
        obtain rfl | hg := List.mem_cons.1 hg
        · exact hf
        · exact fun hmem => hseen g hg (List.mem_cons_of_mem _ hmem)

/-- A name of a value by position is that of a field. -/
theorem mem_of_mem_names_zip {f : Field} {fields : List Field} (items : List Json)
    (h : f.name ∈ ((fields.map Field.name).zip items).map Prod.fst) : f ∈ fields := by
  obtain ⟨⟨name, v⟩, he, hname⟩ := List.mem_map.1 h
  obtain ⟨g, hg, rfl⟩ := List.mem_map.1 (List.of_mem_zip he).1
  rwa [← Field.name_injective hname]

/-- Values by position are read like members under the names of the fields. -/
theorem readItems_eq_ok_iff {t t' : Settings} {fields : List Field} {ds : List Draft}
    (hnodup : fields.Nodup) (hlength : ds.length ≤ fields.length) :
    t.readItems fields ds = .ok t' ↔ ∃ items, ds = Draft.ofItems items ∧
      t.Update ((fields.map Field.name).zip items) t' := by
  induction ds generalizing t fields with
  | nil =>
    have hread : t.readItems fields [] = .ok t := by cases fields <;> rfl
    rw [hread]
    constructor
    · rintro ⟨⟩
      exact ⟨[], rfl, by rw [List.zip_nil_right, update_nil_iff]⟩
    · rintro ⟨items, hitems, h⟩
      cases items with
      | nil =>
        rw [List.zip_nil_right, update_nil_iff] at h
        rw [h]
      | cons => cases hitems
  | cons d ds ih =>
    cases fields with
    | nil => cases hlength
    | cons f fields =>
      obtain ⟨hf, hfields⟩ := List.nodup_cons.1 hnodup
      have hshorter : ds.length ≤ fields.length := Nat.le_of_succ_le_succ hlength
      rw [readItems, readField_bind_eq_ok_iff]
      constructor
      · rintro ⟨v, s, rfl, hv, h⟩
        obtain ⟨items, rfl, hupdate⟩ := (ih hfields hshorter).1 h
        -- no field has two positions
        have hnew := fun hmem => hf (mem_of_mem_names_zip items hmem)
        exact ⟨v :: items, rfl, update_cons_iff.2 ⟨f, s, rfl, hnew, hv, hupdate⟩⟩
      · rintro ⟨items, hitems, h⟩
        cases items with
        | nil => cases hitems
        | cons v items =>
          cases hitems
          obtain ⟨g, s, hname, -, hv, h⟩ := update_cons_iff.1 h
          obtain rfl := Field.name_injective hname
          exact ⟨v, s, rfl, hv, (ih hfields hshorter).2 ⟨items, rfl, h⟩⟩

/-! ## reading settings -/

/-- Settings are read from the drafts of values that list members. -/
theorem ofDraft_eq_ok_iff {d : Draft} {s : Settings} :
    ofDraft d = .ok s ↔
      ∃ v members, d = .ofJson v ∧ Listing v members ∧ initial.Update members s := by
  constructor
  · intro h
    cases d with
    | object ds closed =>
      obtain ⟨u, hu, hend⟩ := bind_eq_ok.1 h
      obtain ⟨members, rfl, -, hupdate⟩ := readMembers_eq_ok_iff.1 hu
      split at hend
      · next hclosed =>
        subst hclosed
        cases hend
        exact ⟨.object members, members, rfl, .byName members, hupdate⟩
      · cases hend
    | array ds closed =>
      obtain ⟨u, hu, hend⟩ := bind_eq_ok.1 h
      split at hend
      · cases hend
      · next hlength =>
        obtain ⟨items, rfl, hupdate⟩ :=
          (readItems_eq_ok_iff Field.nodup_all (Nat.le_of_not_lt hlength)).1 hu
        split at hend
        · next hclosed =>
          subst hclosed
          cases hend
          rw [Draft.length_ofItems] at hlength
          exact ⟨.array items, _, rfl, .byPosition (Nat.le_of_not_lt hlength), hupdate⟩
        · cases hend
    | _ => cases h
  · rintro ⟨v, members, rfl, hlist, hupdate⟩
    cases hlist with
    | byName =>
      have hread : initial.readMembers [] (Draft.ofMembers members) = .ok s :=
        readMembers_eq_ok_iff.2 ⟨members, rfl, fun _ h => absurd h List.not_mem_nil, hupdate⟩
      rw [Draft.ofJson, ofDraft, hread]
      rfl
    | @byPosition items hlength =>
      rw [← Draft.length_ofItems] at hlength
      have hread : initial.readItems Field.all (Draft.ofItems items) = .ok s :=
        (readItems_eq_ok_iff Field.nodup_all hlength).2 ⟨items, rfl, hupdate⟩
      rw [Draft.ofJson, ofDraft, hread, ok_bind, if_neg (Nat.not_lt.2 hlength)]
      rfl

/-- Settings are read from values that list members, as the initial ones updated with
these. -/
theorem ofJson_eq_ok_iff {v : Json} {s : Settings} :
    ofJson v = .ok s ↔ ∃ members, Listing v members ∧ initial.Update members s := by
  rw [ofJson, ofDraft_eq_ok_iff]
  constructor
  · rintro ⟨w, members, hdraft, h⟩
    rw [Draft.ofJson_injective hdraft]
    exact ⟨members, h⟩
  · rintro ⟨members, h⟩
    exact ⟨v, members, rfl, h⟩

/-! ## what is read -/

/-- Something is read from null in any case. -/
theorem exists_optionalFrom_iff {α : Type} {ReadFrom : α → Json → Prop} {v : Json} :
    (∃ o, OptionalFrom ReadFrom o v) ↔ v = .null ∨ ∃ a, ReadFrom a v := by
  constructor
  · rintro ⟨_ | a, h⟩
    · exact .inl h
    · exact .inr ⟨a, h⟩
  · rintro (h | ⟨a, h⟩)
    · exact ⟨none, h⟩
    · exact ⟨some a, h⟩

/-- An array gives media types if each of its items gives one. -/
theorem exists_allReadFrom_iff {v : Json} :
    (∃ types, MediaType.AllReadFrom types v) ↔
      ∃ items, v = .array items ∧ ∀ item ∈ items, ∃ m : MediaType, m.ReadFrom item := by
  simp only [MediaType.AllReadFrom, ← exists_forall₂_iff]
  rw [exists_comm]
  exact exists_congr fun items => exists_and_left

/-- A field admits the values that some settings hold in it. -/
theorem admits_iff {f : Field} {v : Json} : f.Admits v ↔ ∃ s, Holds s f v := by
  cases f with
  | supported =>
    rw [Field.Admits, ← exists_allReadFrom_iff, ← exists_optionalFrom_iff]
    constructor
    · exact fun ⟨o, h⟩ => ⟨{ initial with supported := o }, h⟩
    · exact fun ⟨s, h⟩ => ⟨s.supported, h⟩
  | strict =>
    constructor
    · exact fun ⟨b, h⟩ => ⟨{ initial with strict := b }, h⟩
    · exact fun ⟨s, h⟩ => ⟨s.strict, h⟩
  | form =>
    constructor
    · exact fun ⟨raw, h, form, hform⟩ => ⟨{ initial with form }, raw, h, hform⟩
    · exact fun ⟨s, raw, h, hform⟩ => ⟨raw, h, s.form, hform⟩
  | defaultType =>
    rw [Field.Admits, ← exists_optionalFrom_iff]
    constructor
    · exact fun ⟨o, h⟩ => ⟨{ initial with defaultType := o }, h⟩
    · exact fun ⟨s, h⟩ => ⟨s.defaultType, h⟩

/-- Members of different fields that admit them can be given to all settings. -/
theorem exists_update {members : List (String × Json)} (hdistinct : (members.map Prod.fst).Nodup)
    (hadmits : ∀ e ∈ members, ∃ f : Field, e.1 = f.name ∧ f.Admits e.2) (t : Settings) :
    ∃ s, t.Update members s := by
  induction members generalizing t with
  | nil => exact ⟨t, update_nil_iff.2 rfl⟩
  | cons e members ih =>
    obtain ⟨hnew, hdistinct⟩ := List.nodup_cons.1 hdistinct
    obtain ⟨f, hname, hf⟩ := hadmits e List.mem_cons_self
    obtain ⟨u, hu⟩ := admits_iff.1 hf
    obtain ⟨s, hs⟩ := ih hdistinct (fun e he => hadmits e (List.mem_cons_of_mem _ he)) (t.copy u f)
    rw [hname] at hnew
    exact ⟨s, update_cons_iff.2 ⟨f, u, hname, hnew, hu, hs⟩⟩

/-- A value in key order lists no name twice. -/
theorem Listing.nodup {v : Json} {members : List (String × Json)} (h : Listing v members)
    (hv : v.Ordered) : (members.map Prod.fst).Nodup := by
  cases h with
  | byName =>
    refine List.Pairwise.map _ ?_ hv.1
    exact fun a b hlt => Std.ne_of_lt hlt
  | byPosition =>
    have hnames : (Field.all.map Field.name).Nodup := by decide
    rw [List.zip_eq_zip_take_min, List.map_fst_zip (by simp)]
    exact hnames.sublist (List.take_sublist _ _)

/-- **The grammar of settings.** Settings are read from a value exactly if it is an object
or an array of at most four values, every name in it is that of a field, and that field
admits what stands there. They are the settings that hold every given value, in the given
order, and the initial value of every field that is not given. -/
theorem reads_exactly {v : Json} (hv : v.Ordered) :
    ((∃ s, ofJson v = .ok s) ↔ ∃ members, Listing v members ∧
      ∀ e ∈ members, ∃ f : Field, e.1 = f.name ∧ f.Admits e.2) ∧
    ∀ s, ofJson v = .ok s ↔ ∃ members, Listing v members ∧
      (∀ e ∈ members, ∃ f : Field, e.1 = f.name ∧ s.Holds f e.2) ∧
      ∀ f : Field, f.name ∉ members.map Prod.fst → Agree s initial f := by
  constructor
  · constructor
    · rintro ⟨s, hs⟩
      obtain ⟨members, hlist, hupdate⟩ := ofJson_eq_ok_iff.1 hs
      refine ⟨members, hlist, fun e he => ?_⟩
      obtain ⟨f, hname, hf⟩ := hupdate.given e he
      exact ⟨f, hname, admits_iff.2 ⟨s, hf⟩⟩
    · rintro ⟨members, hlist, hadmits⟩
      obtain ⟨s, hs⟩ := exists_update (hlist.nodup hv) hadmits initial
      exact ⟨s, ofJson_eq_ok_iff.2 ⟨members, hlist, hs⟩⟩
  · intro s
    rw [ofJson_eq_ok_iff]
    constructor
    · exact fun ⟨members, hlist, hupdate⟩ => ⟨members, hlist, hupdate.given, hupdate.kept⟩
    · exact fun ⟨members, hlist, hgiven, hkept⟩ =>
        ⟨members, hlist, hlist.nodup hv, hgiven, hkept⟩

/-- Blanks and capitals around the name of a form are no part of it, a list keeps what it
lists, and null is no truth value. -/
theorem reads_exactly_by_name :
    let given := [("serialized_form", Json.string " String\n"),
      ("supported_mime_types", .array [.string MediaType.textPlainUtf8.text])]
    let null := [("strict_content_type_match", Json.null)]
    (Json.object given).Ordered ∧
      ofJson (.object given) = .ok ⟨some [.textPlainUtf8], false, .text, none⟩ ∧
      (Json.object null).Ordered ∧ ¬ ∃ s, ofJson (.object null) = .ok s := by
  intro given null
  have hgiven : (Json.object given).Ordered := by
    refine ⟨?_, trivial, ⟨trivial, trivial⟩, trivial⟩
    simp only [given]
    decide
  have hnull : (Json.object null).Ordered := ⟨List.pairwise_singleton _ _, trivial, trivial⟩
  refine ⟨hgiven, ?_, hnull, ?_⟩
  · refine ((reads_exactly hgiven).2 _).2 ⟨given, .byName given, fun e he => ?_, fun f hf => ?_⟩
    · simp only [given, List.mem_cons, List.not_mem_nil, or_false] at he
      obtain rfl | rfl := he
      · exact ⟨.form, rfl, _, rfl, by decide⟩
      · exact ⟨.supported, rfl, _, rfl, .cons ⟨_, rfl, MediaType.parse_text _⟩ .nil⟩
    · cases f with
      | supported => exact absurd (by decide) hf
      | form => exact absurd (by decide) hf
      | strict => rfl
      | defaultType => rfl
  · rw [(reads_exactly hnull).1]
    rintro ⟨members, hlist, hadmits⟩
    cases hlist
    obtain ⟨f, hname, hf⟩ := hadmits _ List.mem_cons_self
    obtain rfl := Field.name_injective (g := .strict) hname.symm
    obtain ⟨b, hb⟩ := hf
    cases hb

end Settings

end Conneg
