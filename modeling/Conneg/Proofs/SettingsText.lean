import Conneg.Proofs.SettingsGrammar

/-!
# Conneg.Proofs.SettingsText

Settings are read from a text exactly as from the value it is a text of.

1. A text with numbers in it is not read as a draft without numbers
   (`numberFree_of_readValue`), and there are none in what settings are read from
   (`ofDraft_plain`). So a value and its texts are read as the same settings, or neither
   is (`ofText_eq_ok_iff`).
2. The order of the members of an object does not matter, since each of them changes a
   field of its own (`Rearranged.ofJson_eq_ok_iff`).
3. A list of texts of media types is read like the only field of an object
   (`ofTypes_eq_ok_iff`).
4. Main statement: `readers_agree`.
-/

namespace Conneg

namespace Json

/-! ## texts with numbers -/

section

variable {s t : List Char}

/-- Where a number starts, no other value is read. -/
theorem readValue_number (fuel : Nat) {c : Char} (s : List Char) (hc : StartsNumber c) :
    (readValue fuel (c :: s)).1 = .malformed ∨ ∃ n, (readValue fuel (c :: s)).1 = .number n := by
  cases fuel with
  | zero => exact .inl rfl
  | succ fuel =>
    rw [readValue, dropBlanks_cons hc.isBlank_eq_false]
    split
    case h_7 =>
      split
      · exact .inr ⟨_, rfl⟩
      · exact .inl rfl
    -- all other kinds of values start with a character of their own
    all_goals
      next h => exact absurd (List.cons.inj h).1 (hc.ne (by decide))

/-- Whatever becomes of a list, its first item is read as a value. -/
theorem readItems_head (fuel : Nat) (s : List Char) :
    ∃ ds, (readItems (fuel + 1) s).1 = (readValue fuel s).1 :: ds := by
  rw [readItems]
  dsimp only
  split
  · split <;> exact ⟨_, rfl⟩
  · exact ⟨_, rfl⟩

/-- Whatever becomes of an object, its first member is read, if its key is. -/
theorem readMembers_head (fuel : Nat) {k : List Char} (hk : readString? s = some (k, ':' :: t)) :
    ∃ ds, (readMembers (fuel + 1) ('"' :: s)).1 =
      (String.ofList k, (readValue fuel t).1) :: ds := by
  rw [readMembers, dropBlanks_cons (by decide)]
  have hcolon : dropBlanks (':' :: t) = ':' :: t := dropBlanks_cons (by decide) t
  simp only [hk, hcolon]
  split
  · split <;> exact ⟨_, rfl⟩
  · exact ⟨_, rfl⟩

end

mutual
/-- If a value is read from its text as a draft without numbers, there are none in it.
What follows a value is reached when there are no numbers in the value itself. -/
theorem numberFree_of_readValue {v : Json} {t : List Char} (ht : CompactText v t) (fuel : Nat)
    (rest : List Char) (hfuel : 2 * t.length ≤ fuel) {x : Json} (hx : NumberFree x)
    (h : (readValue fuel (t ++ rest)).1 = .ofJson x) : NumberFree v := by
  match ht with
  | .null | .booleanTrue | .booleanFalse | .string _ => trivial
  | .number hn =>
    obtain ⟨c, u, rfl, hc⟩ := hn.eq_cons
    rw [List.cons_append] at h
    obtain hread | ⟨n, hread⟩ := readValue_number fuel (u ++ rest) hc
    · rw [hread] at h
      cases x <;> cases h
    · rw [hread] at h
      cases x with
      | number => exact hx.elim
      | _ => cases h
  | .array .nil => trivial
  | @CompactText.array (v :: vs) t hvs =>
    rw [List.length_cons, List.length_append, List.length_singleton] at hfuel
    obtain ⟨fuel, rfl⟩ : ∃ n, fuel = n + 1 := ⟨fuel - 1, by omega⟩
    have hitems := numberFreeItems_of_readItems hvs fuel rest (by omega)
    obtain ⟨c, u, rfl, hblank, hend⟩ := hvs.eq_cons
    rw [List.cons_append, List.append_assoc, List.cons_append,
      readValue_array hblank hend rfl] at h
    cases x with
    | array xs => exact hitems xs hx (Draft.array.inj h).1
    | _ => cases h
  | .object .nil => trivial
  | @CompactText.object (e :: es) t hes =>
    rw [List.length_cons, List.length_append, List.length_singleton] at hfuel
    obtain ⟨fuel, rfl⟩ : ∃ n, fuel = n + 1 := ⟨fuel - 1, by omega⟩
    have hmembers := numberFreeMembers_of_readMembers hes fuel rest (by omega)
    obtain ⟨u, rfl⟩ := hes.eq_cons
    rw [List.cons_append, List.append_assoc, List.cons_append, readValue_object rfl] at h
    cases x with
    | object xs => exact hmembers xs hx (Draft.object.inj h).1
    | _ => cases h

/-- Items that are read as drafts without numbers hold none. The first one is free of
them, so it is read to its end, and the others are reached. -/
theorem numberFreeItems_of_readItems {vs : List Json} {t : List Char} (ht : ItemsText vs t)
    (fuel : Nat) (rest : List Char) (hfuel : 2 * t.length + 1 ≤ fuel) (xs : List Json)
    (hxs : NumberFreeItems xs)
    (h : (readItems fuel (t ++ ']' :: rest)).1 = Draft.ofItems xs) : NumberFreeItems vs := by
  obtain ⟨fuel, rfl⟩ : ∃ n, fuel = n + 1 := ⟨fuel - 1, by omega⟩
  match ht with
  | .nil => trivial
  | .last (v := v) hv =>
    obtain ⟨ds, hds⟩ := readItems_head fuel (t ++ ']' :: rest)
    rw [hds] at h
    cases xs with
    | nil => cases h
    | cons x xs =>
      have hfirst := (List.cons.inj h).1
      exact ⟨numberFree_of_readValue hv fuel _ (by omega) hxs.1 hfirst, trivial⟩
  | .more (t := t) (u := u) hv hvs =>
    rw [List.length_append, List.length_cons] at hfuel
    rw [List.append_assoc, List.cons_append] at h
    obtain ⟨ds, hds⟩ := readItems_head fuel (t ++ ',' :: (u ++ ']' :: rest))
    cases xs with
    | nil =>
      rw [hds] at h
      cases h
    | cons x xs =>
      have hfirst := (List.cons.inj (hds.symm.trans h)).1
      -- only now the first item is known to be read to its end
      have hfree := numberFree_of_readValue hv fuel _ (by omega) hxs.1 hfirst
      have hread := readValue_text hv fuel (',' :: (u ++ ']' :: rest)) hfree (by omega)
      rw [readItems_more (Draft.isWhole_ofJson _) hread rfl] at h
      have hmore := (List.cons.inj h).2
      exact ⟨hfree, numberFreeItems_of_readItems hvs fuel rest (by omega) xs hxs.2 hmore⟩

/-- Members that are read as drafts without numbers hold none, by the same argument
behind each key. -/
theorem numberFreeMembers_of_readMembers {es : List (String × Json)} {t : List Char}
    (ht : MembersText es t) (fuel : Nat) (rest : List Char) (hfuel : 2 * t.length + 1 ≤ fuel)
    (xs : List (String × Json)) (hxs : NumberFreeMembers xs)
    (h : (readMembers fuel (t ++ '}' :: rest)).1 = Draft.ofMembers xs) :
    NumberFreeMembers es := by
  obtain ⟨fuel, rfl⟩ : ∃ n, fuel = n + 1 := ⟨fuel - 1, by omega⟩
  match ht with
  | .nil => trivial
  | .last (s := s) (t := t) hk hv =>
    rw [List.length_cons, List.length_append, List.length_cons] at hfuel
    have hkey := hk.readString?_append (':' :: (t ++ '}' :: rest))
    obtain ⟨ds, hds⟩ := readMembers_head fuel hkey
    rw [List.cons_append, List.append_assoc, List.cons_append, hds] at h
    cases xs with
    | nil => cases h
    | cons x xs =>
      have hfirst := congrArg Prod.snd (List.cons.inj h).1
      exact ⟨numberFree_of_readValue hv fuel _ (by omega) hxs.1 hfirst, trivial⟩
  | .more (s := s) (t := t) (u := u) hk hv hes =>
    rw [List.length_cons, List.length_append, List.length_cons, List.length_append,
      List.length_cons] at hfuel
    have hkey := hk.readString?_append (':' :: (t ++ ',' :: (u ++ '}' :: rest)))
    obtain ⟨ds, hds⟩ := readMembers_head fuel hkey
    rw [List.cons_append, List.append_assoc, List.cons_append, List.append_assoc,
      List.cons_append] at h
    cases xs with
    | nil =>
      rw [hds] at h
      cases h
    | cons x xs =>
      have hfirst := congrArg Prod.snd (List.cons.inj (hds.symm.trans h)).1
      have hfree := numberFree_of_readValue hv fuel _ (by omega) hxs.1 hfirst
      have hread := readValue_text hv fuel (',' :: (u ++ '}' :: rest)) hfree (by omega)
      rw [readMembers_more hkey (Draft.isWhole_ofJson _) hread rfl] at h
      have hmore := (List.cons.inj h).2
      exact ⟨hfree, numberFreeMembers_of_readMembers hes fuel rest (by omega) xs hxs.2 hmore⟩
end

/-! ## drafts without numbers -/

/-- A draft without errors of form and without numbers. -/
def Draft.Plain (d : Draft) : Prop := ∃ v, NumberFree v ∧ d = .ofJson v

/-- The draft of a value is without numbers if the value is. -/
theorem Draft.plain_ofJson_iff {v : Json} : (Draft.ofJson v).Plain ↔ NumberFree v := by
  constructor
  · rintro ⟨w, hw, h⟩
    rwa [Draft.ofJson_injective h]
  · exact fun h => ⟨v, h, rfl⟩

/-- A text of a value without numbers is read as its draft, with nothing left. -/
theorem Draft.read_text {v : Json} {t : List Char} (ht : CompactText v t) (h : NumberFree v) :
    Draft.read t = (.ofJson v, []) := by
  have hread := readValue_text ht (2 * t.length + 2) [] h (by omega)
  rwa [List.append_nil] at hread

/-- No draft without numbers is read from a text that holds some. -/
theorem Draft.numberFree_of_plain_read {v : Json} {t : List Char} (ht : CompactText v t)
    (h : (Draft.read t).1.Plain) : NumberFree v := by
  obtain ⟨x, hx, hread⟩ := h
  refine numberFree_of_readValue ht (2 * t.length + 2) [] (by omega) hx ?_
  rwa [List.append_nil]

end Json

/-! ## texts of settings -/

open Json (Draft)

/-- A media type is read from a string. -/
theorem MediaType.ReadFrom.numberFree {m : MediaType} {v : Json} (h : m.ReadFrom v) :
    v.NumberFree := by
  obtain ⟨raw, rfl, -⟩ := h
  trivial

/-- Media types are read from an array of strings. -/
theorem MediaType.AllReadFrom.numberFree {types : List MediaType} {v : Json}
    (h : AllReadFrom types v) : v.NumberFree := by
  obtain ⟨items, rfl, hitems⟩ := h
  refine Json.numberFreeItems_iff.2 fun item hitem => ?_
  obtain ⟨m, hm⟩ := exists_forall₂_iff.1 ⟨types, hitems⟩ item hitem
  exact hm.numberFree

/-- What stands for a missing value is null, and null is no number. -/
theorem OptionalFrom.numberFree {α : Type} {ReadFrom : α → Json → Prop} {o : Option α} {v : Json}
    (h : OptionalFrom ReadFrom o v) (hread : ∀ a, ReadFrom a v → v.NumberFree) :
    v.NumberFree := by
  cases o with
  | none =>
    obtain rfl : v = .null := h
    trivial
  | some a => exact hread a h

namespace Settings

/-- No field holds a value with numbers in it. -/
theorem Holds.numberFree {s : Settings} {f : Field} {v : Json} (h : s.Holds f v) :
    v.NumberFree := by
  cases f with
  | supported => exact OptionalFrom.numberFree h fun _ => MediaType.AllReadFrom.numberFree
  | strict =>
    obtain rfl : v = .boolean s.strict := h
    trivial
  | form =>
    obtain ⟨raw, rfl, -⟩ := h
    trivial
  | defaultType => exact OptionalFrom.numberFree h fun _ => MediaType.ReadFrom.numberFree

/-- Numbers in a value would be in one of the members that it lists. -/
theorem Listing.numberFree {v : Json} {members : List (String × Json)} (h : Listing v members)
    (hmembers : ∀ e ∈ members, e.2.NumberFree) : v.NumberFree := by
  cases h with
  | byName => exact Json.numberFreeMembers_iff.2 hmembers
  | @byPosition items hlength =>
    have hall : items = ((Field.all.map Field.name).zip items).map Prod.snd :=
      (List.map_snd_zip (by rwa [List.length_map])).symm
    refine Json.numberFreeItems_iff.2 fun item hitem => ?_
    rw [hall] at hitem
    obtain ⟨e, he, rfl⟩ := List.mem_map.1 hitem
    exact hmembers e he

/-- Settings are read from drafts without numbers only. -/
theorem ofDraft_plain {d : Draft} {s : Settings} (h : ofDraft d = .ok s) : d.Plain := by
  obtain ⟨v, members, hd, hlist, hupdate⟩ := ofDraft_eq_ok_iff.1 h
  refine ⟨v, hlist.numberFree fun e he => ?_, hd⟩
  obtain ⟨f, -, hf⟩ := hupdate.given e he
  exact hf.numberFree

/-- The settings of a text are those of the draft it is read as, when nothing is left. -/
theorem ofText_eq_ok_iff_ofDraft {t : List Char} {s : Settings} :
    ofText (String.ofList t) = .ok s ↔
      ofDraft (Draft.read t).1 = .ok s ∧ Json.dropBlanks (Draft.read t).2 = [] := by
  rw [ofText, String.toList_ofList]
  dsimp only
  cases ofDraft (Draft.read t).1 with
  | error e => cases e <;> simp
  | ok u =>
    dsimp only
    split
    · next h => simp [h]
    · next h => simp [h]

/-- **A text of a value is read like the value.** -/
theorem ofText_eq_ok_iff {v : Json} {t : List Char} (ht : Json.CompactText v t) {s : Settings} :
    ofText (String.ofList t) = .ok s ↔ ofJson v = .ok s := by
  rw [ofText_eq_ok_iff_ofDraft]
  constructor
  · rintro ⟨h, -⟩
    have hfree := Draft.numberFree_of_plain_read ht (ofDraft_plain h)
    rwa [Draft.read_text ht hfree] at h
  · intro h
    have hfree := Draft.plain_ofJson_iff.1 (ofDraft_plain h)
    rw [Draft.read_text ht hfree]
    exact ⟨h, rfl⟩

end Settings

/-! ## members in any order -/

namespace Json

/-- Members of the same key whose values are related. -/
inductive SameKey (R : Json → Json → Prop) : String × Json → String × Json → Prop where
  | mk {k : String} {v w : Json} (h : R v w) : SameKey R (k, v) (k, w)

/-- The second value is the first one with the members of every object in some order. -/
inductive Rearranged : Json → Json → Prop where
  | null : Rearranged null null
  | boolean (b : Bool) : Rearranged (boolean b) (boolean b)
  | number (n : Number) : Rearranged (number n) (number n)
  | string (s : String) : Rearranged (string s) (string s)
  | array {vs ws : List Json} (h : List.Forall₂ Rearranged vs ws) :
      Rearranged (array vs) (array ws)
  | object {es fs gs : List (String × Json)} (h : List.Forall₂ (SameKey Rearranged) es fs)
      (hperm : fs.Perm gs) : Rearranged (object es) (object gs)

/-- Members that are related one by one have the same keys. -/
theorem map_fst_eq_of_sameKey {R : Json → Json → Prop} {es fs : List (String × Json)}
    (h : List.Forall₂ (SameKey R) es fs) : es.map Prod.fst = fs.map Prod.fst := by
  induction h with
  | nil => rfl
  | cons h _ ih =>
    cases h
    rw [List.map_cons, List.map_cons, ih]

/-- Related values stay related when they are named by position. -/
theorem sameKey_zip {R : Json → Json → Prop} (names : List String) {vs ws : List Json}
    (h : List.Forall₂ R vs ws) : List.Forall₂ (SameKey R) (names.zip vs) (names.zip ws) := by
  induction h generalizing names with
  | nil =>
    rw [List.zip_nil_right]
    exact .nil
  | cons h _ ih =>
    cases names with
    | nil => exact .nil
    | cons name names => exact .cons (.mk h) (ih names)

end Json

open Json (Rearranged SameKey)

/-- Rearranging leaves a string as it is, and so the media type. -/
theorem MediaType.readFrom_congr {v w : Json} (h : v.Rearranged w) (m : MediaType) :
    m.ReadFrom v ↔ m.ReadFrom w := by
  cases h with
  | array | object => constructor <;> rintro ⟨_, ⟨⟩, _⟩
  | _ => rfl

theorem MediaType.forall₂_readFrom_congr {vs ws : List Json} (h : List.Forall₂ Rearranged vs ws)
    (types : List MediaType) :
    List.Forall₂ ReadFrom types vs ↔ List.Forall₂ ReadFrom types ws := by
  induction h generalizing types with
  | nil => rfl
  | cons h _ ih =>
    rw [List.forall₂_cons_right_iff, List.forall₂_cons_right_iff]
    simp only [readFrom_congr h, ih]

/-- Rearranging leaves the items of an array in their order. -/
theorem MediaType.allReadFrom_congr {v w : Json} (h : v.Rearranged w) (types : List MediaType) :
    AllReadFrom types v ↔ AllReadFrom types w := by
  cases h with
  | array h => simp only [AllReadFrom, Json.array.injEq, exists_eq_left', forall₂_readFrom_congr h]
  | object => constructor <;> rintro ⟨_, ⟨⟩, _⟩
  | _ => rfl

/-- Rearranging leaves null as it is. -/
theorem OptionalFrom.congr {α : Type} {ReadFrom : α → Json → Prop} {v w : Json}
    (h : v.Rearranged w) (hread : ∀ a, ReadFrom a v ↔ ReadFrom a w) (o : Option α) :
    OptionalFrom ReadFrom o v ↔ OptionalFrom ReadFrom o w := by
  cases o with
  | none => cases h <;> simp [OptionalFrom]
  | some a => exact hread a

namespace Settings

/-- No field looks at the order of members inside its value. -/
theorem holds_congr {v w : Json} (h : v.Rearranged w) (s : Settings) (f : Field) :
    s.Holds f v ↔ s.Holds f w := by
  cases f with
  | supported => exact OptionalFrom.congr h (MediaType.allReadFrom_congr h) s.supported
  | strict => cases h <;> simp [Holds]
  | form => cases h <;> simp [Holds]
  | defaultType => exact OptionalFrom.congr h (MediaType.readFrom_congr h) s.defaultType

/-- Rearranging inside the values of members makes no difference to the settings. -/
theorem update_congr {t s : Settings} {es fs : List (String × Json)}
    (h : List.Forall₂ (SameKey Rearranged) es fs) : t.Update es s ↔ t.Update fs s := by
  induction h generalizing t with
  | nil => rfl
  | cons h hes ih =>
    cases h with
    | mk h => simp only [update_cons_iff, Json.map_fst_eq_of_sameKey hes, holds_congr h, ih]

/-- Nor does the order of the members, since each of them gives another field. -/
theorem Update.perm {t s : Settings} {es fs : List (String × Json)} (h : t.Update es s)
    (hperm : es.Perm fs) : t.Update fs s := by
  have hnames := hperm.map Prod.fst
  refine ⟨hnames.nodup_iff.1 h.distinct, fun e he => h.given e (hperm.mem_iff.2 he), ?_⟩
  exact fun f hf => h.kept f fun hmem => hf (hnames.mem_iff.1 hmem)

/-- An object lists its own members. -/
theorem ofJson_object_eq_ok_iff {members : List (String × Json)} {s : Settings} :
    ofJson (.object members) = .ok s ↔ initial.Update members s := by
  rw [ofJson_eq_ok_iff]
  constructor
  · rintro ⟨_, ⟨⟩, h⟩
    exact h
  · exact fun h => ⟨members, .byName members, h⟩

/-- An array lists members by position, as many as there are fields at most. -/
theorem ofJson_array_eq_ok_iff {items : List Json} {s : Settings} :
    ofJson (.array items) = .ok s ↔ items.length ≤ Field.all.length ∧
      initial.Update ((Field.all.map Field.name).zip items) s := by
  rw [ofJson_eq_ok_iff]
  constructor
  · rintro ⟨members, hlist, h⟩
    cases hlist with
    | byPosition hlength => exact ⟨hlength, h⟩
  · exact fun ⟨hlength, h⟩ => ⟨_, .byPosition hlength, h⟩

/-- **The order of members does not matter.** -/
theorem ofJson_congr {v w : Json} (h : v.Rearranged w) {s : Settings} :
    ofJson v = .ok s ↔ ofJson w = .ok s := by
  cases h with
  | array h =>
    rw [ofJson_array_eq_ok_iff, ofJson_array_eq_ok_iff, h.length_eq,
      update_congr (Json.sameKey_zip _ h)]
  | object h hperm =>
    rw [ofJson_object_eq_ok_iff, ofJson_object_eq_ok_iff, update_congr h]
    exact ⟨fun h => h.perm hperm, fun h => h.perm hperm.symm⟩
  | _ => rfl

/-! ## texts of media types -/

/-- A text from the configuration is read as a JSON string of it is. -/
theorem configured_eq_ok_iff {raw : String} {m : MediaType} :
    MediaType.configured raw = .ok m ↔ m.ReadFrom (.string raw) := by
  have hread : m.ReadFrom (.string raw) ↔ MediaType.parse raw = .ok m := by
    simp [MediaType.ReadFrom]
  rw [hread, MediaType.configured]
  cases MediaType.parse raw <;> simp

/-- Several texts from the configuration are read as an array of them is. -/
theorem mapM_configured_eq_ok_iff {texts : List String} {types : List MediaType} :
    texts.mapM MediaType.configured = .ok types ↔
      List.Forall₂ MediaType.ReadFrom types (texts.map .string) := by
  rw [mapM_eq_ok_iff, List.forall₂_map_right_iff]
  simp only [configured_eq_ok_iff]
  exact ⟨List.Forall₂.flip, List.Forall₂.flip⟩

/-- A list of texts is read like an object whose only field is the supported types. -/
theorem ofTypes_eq_ok_iff {texts : List String} {s : Settings} :
    ofTypes texts = .ok s ↔
      ofJson (.object [(Field.supported.name, .array (texts.map .string))]) = .ok s := by
  rw [ofJson_object_eq_ok_iff, update_cons_iff, ofTypes, bind_eq_ok]
  constructor
  · rintro ⟨types, htypes, h⟩
    cases h
    refine ⟨.supported, { initial with supported := some types }, rfl, List.not_mem_nil,
      ⟨_, rfl, mapM_configured_eq_ok_iff.1 htypes⟩, update_nil_iff.2 rfl⟩
  · rintro ⟨f, u, hname, -, hu, h⟩
    obtain rfl := Field.name_injective (g := .supported) hname.symm
    rw [update_nil_iff.1 h]
    obtain ⟨supported, strict, form, defaultType⟩ := u
    cases supported with
    | none => cases hu
    | some types =>
      obtain ⟨_, ⟨⟩, htypes⟩ := hu
      exact ⟨types, mapM_configured_eq_ok_iff.2 htypes, rfl⟩

/-- **The readers of settings agree.** A text of a value without blanks, with the members
of objects in any order, is read as the same settings as the value, and if one is refused,
so is the other. The same holds of a list of media types and of an object that sets
nothing but this list. -/
theorem readers_agree :
    (∀ (v w : Json) (t : List Char), v.Rearranged w → w.CompactText t →
      ∀ s, ofText (String.ofList t) = .ok s ↔ ofJson v = .ok s) ∧
    ∀ texts s, ofTypes texts = .ok s ↔
      ofJson (.object [(Field.supported.name, .array (texts.map .string))]) = .ok s := by
  constructor
  · intro v w t hw ht s
    rw [ofText_eq_ok_iff ht, ofJson_congr hw]
  · exact fun texts s => ofTypes_eq_ok_iff

/-- An escaped letter, and members that stand in another order than those of the value. -/
theorem readers_agree_escaped :
    let strict := (Field.strict.name, Json.boolean true)
    let form := (Field.form.name, Json.string "text")
    let text := "\x7b\"strict_content_type_match\":true,\"serialized_form\":\"te\\u0078t\"\x7d"
    (Json.object [form, strict]).Rearranged (.object [strict, form]) ∧
      (Json.object [strict, form]).CompactText text.toList ∧
      ofJson (.object [form, strict]) = .ok ⟨none, true, .text, none⟩ ∧
      ofText text = .ok ⟨none, true, .text, none⟩ := by
  intro strict form text
  have hrearranged : (Json.object [form, strict]).Rearranged (.object [strict, form]) :=
    .object (.cons (.mk (.string _)) (.cons (.mk (.boolean _)) .nil)) (.swap strict form [])
  have htext : (Json.object [strict, form]).CompactText text.toList := by
    have ht : Json.Escaped 't' ['t'] := .plain (by decide) (by decide) (by decide)
    have he : Json.Escaped 'e' ['e'] := .plain (by decide) (by decide) (by decide)
    have hx : Json.Escaped 'x' ['\\', 'u', '0', '0', '7', '8'] := .unit (by decide)
    have hvalue : Json.CompactText (.string "text") _ :=
      .string (.cons ht (.cons he (.cons hx (.cons ht .nil))))
    have hmembers := Json.MembersText.more (Json.stringText_escaped Field.strict.name.toList)
      .booleanTrue (.last (Json.stringText_escaped Field.form.name.toList) hvalue)
    obtain ⟨t, hobject, rfl⟩ : ∃ t, (Json.object [strict, form]).CompactText t ∧ t = text.toList :=
      ⟨_, .object hmembers, by
        simp only [text]
        decide +kernel⟩
    exact hobject
  have hvalue : ofJson (.object [form, strict]) = .ok ⟨none, true, .text, none⟩ := by
    decide +kernel
  refine ⟨hrearranged, htext, hvalue, ?_⟩
  have hread := (readers_agree.1 _ _ _ hrearranged htext _).2 hvalue
  rwa [String.ofList_toList] at hread

end Settings

end Conneg
