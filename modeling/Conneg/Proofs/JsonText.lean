import Conneg.Json.Printer
import Conneg.Json.Reader

/-!
# Conneg.Proofs.JsonText

JSON texts without blanks are read back, whatever follows them.

1. A character of a string is written in one of four ways (`Escaped`), and each of
   them is read as that character, so a text of a string is read back.
2. `CompactText` relates values to their texts, whose strings may be escaped in any way.
   One of them is the text that is written (`compactText_write`).
3. A text of a value without numbers is read as its draft (`readValue_text`), and so is
   what is written (`read_write`). The fuel that suffices for a text is linear in its
   length; items and members need one step more than their values.
-/

namespace Conneg.Json

open Text

/-! ## strings -/

/-- The ways to write a character of a string: as it is, by a short escape, by its number
of four hexadecimal digits, or by those of two surrogates. -/
inductive Escaped (c : Char) : List Char → Prop where
  | plain (hcontrol : ¬ c.toNat < 0x20) (hquote : c ≠ '"') (hback : c ≠ '\\') : Escaped c [c]
  | short {e : Char} (hu : e ≠ 'u') (h : unescape? e = some c) : Escaped c ['\\', e]
  | unit {c₁ c₂ c₃ c₄ : Char} (h : hexUnit? c₁ c₂ c₃ c₄ = some c.toNat) :
      Escaped c ['\\', 'u', c₁, c₂, c₃, c₄]
  | pair {c₁ c₂ c₃ c₄ d₁ d₂ d₃ d₄ : Char} {u v : Nat} (hhigh : hexUnit? c₁ c₂ c₃ c₄ = some u)
      (hu : 0xD800 ≤ u ∧ u < 0xDC00) (hlow : hexUnit? d₁ d₂ d₃ d₄ = some v)
      (hv : 0xDC00 ≤ v ∧ v < 0xE000)
      (hc : c.toNat = 0x10000 + (u - 0xD800) * 0x400 + (v - 0xDC00)) :
      Escaped c ['\\', 'u', c₁, c₂, c₃, c₄, '\\', 'u', d₁, d₂, d₃, d₄]

/-- The texts of a string behind its opening quote. -/
inductive StringText : List Char → List Char → Prop where
  | nil : StringText [] ['"']
  | cons {c : Char} {s t u : List Char} (hc : Escaped c t) (hs : StringText s u) :
      StringText (c :: s) (t ++ u)

/-- A number below 16 has one hexadecimal digit. -/
theorem hexLower_digit : ∀ n < 0x10, ∃ d, hexLower n = [d] ∧ hexUnit? '0' '0' '0' d = some n := by
  intro n hn
  have hall : ∀ n < 0x10, hexLower n = [(hexLower n).headD '0'] ∧
      hexUnit? '0' '0' '0' ((hexLower n).headD '0') = some n := by decide
  exact ⟨_, hall n hn⟩

/-- A number from 16 to 31 has two, of which the first one is `1`. -/
theorem hexLower_pair :
    ∀ n < 0x20, ¬ n < 0x10 → ∃ d, hexLower n = ['1', d] ∧ hexUnit? '0' '0' '1' d = some n := by
  intro n hn hlow
  have hall : ∀ n < 0x20, ¬ n < 0x10 → hexLower n = ['1', (hexLower n).getLastD '0'] ∧
      hexUnit? '0' '0' '1' ((hexLower n).getLastD '0') = some n := by decide
  exact ⟨_, hall n hn hlow⟩

/-- Every character is written in one of these ways. -/
theorem escaped_escapeChar (c : Char) : Escaped c (escapeChar c) := by
  by_cases hquote : c = '"'
  · subst hquote
    exact .short (e := '"') (by decide) (by decide)
  by_cases hback : c = '\\'
  · subst hback
    exact .short (e := '\\') (by decide) (by decide)
  unfold escapeChar
  rw [if_neg (by simpa using hquote), if_neg (by simpa using hback)]
  -- five control characters have a short escape
  iterate 5
    split
    · next h =>
      obtain rfl := eq_of_beq h
      exact .short (by decide) (by decide)
  split
  · next h =>
    obtain ⟨d, hd, hu⟩ := hexLower_digit c.toNat h
    rw [hd]
    exact .unit hu
  · next h =>
    split
    · next hcontrol =>
      obtain ⟨d, hd, hu⟩ := hexLower_pair c.toNat hcontrol h
      rw [hd]
      exact .unit hu
    · next hcontrol => exact .plain hcontrol hquote hback

/-- A written character is read as it is. -/
theorem Escaped.readString?_append {c : Char} {w s t rest : List Char} (h : Escaped c w)
    (hs : readString? s = some (t, rest)) : readString? (w ++ s) = some (c :: t, rest) := by
  cases h with
  | plain hcontrol hquote hback =>
    have hno : ¬ (decide (c.toNat < 0x20) || c == '\\') = true := by simp [hcontrol, hback]
    rw [List.singleton_append, readString?, if_neg hno, hs]
    · rfl
    · exact hquote
    · exact fun _ _ _ _ _ h => absurd h hback
    · exact fun _ _ h => absurd h hback
  | short hu hc =>
    rw [List.cons_append, List.cons_append, List.nil_append, readString?, hc, hs]
    · rfl
    · exact fun _ _ _ _ _ h => absurd h hu
  | unit hc =>
    -- the number of a character is not that of a surrogate
    have hvalid : c.toNat < 0xD800 ∨ 0xDFFF < c.toNat ∧ c.toNat < 0x110000 := c.valid
    have hhigh : ¬ (0xD800 ≤ c.toNat ∧ c.toNat < 0xDC00) := by omega
    have hsecond : ¬ (0xDC00 ≤ c.toNat ∧ c.toNat < 0xE000) := by omega
    repeat rw [List.cons_append]
    rw [List.nil_append, readString?, hc, hs]
    dsimp only
    rw [if_neg hhigh, if_neg hsecond, Char.ofNat_toNat]
    rfl
  | @pair c₁ c₂ c₃ c₄ d₁ d₂ d₃ d₄ u v hhigh hu hlow hv hc =>
    have hchar : ofSurrogates u v = c := by rw [ofSurrogates, ← hc, Char.ofNat_toNat]
    repeat rw [List.cons_append]
    rw [List.nil_append, readString?, hhigh]
    dsimp only
    rw [if_pos hu]
    simp only [hlow, if_pos hv, hs, hchar, Option.map_some]

/-- A string is read from its text, up to the closing quote. -/
theorem StringText.readString?_append {s t : List Char} (h : StringText s t) (rest : List Char) :
    readString? (t ++ rest) = some (s, rest) := by
  induction h with
  | nil => rw [List.singleton_append, readString?]
  | cons hc _ ih =>
    rw [List.append_assoc]
    exact hc.readString?_append ih

/-- One text of a string is the written one, with each character escaped on its own. -/
theorem stringText_escaped (s : List Char) : StringText s (s.flatMap escapeChar ++ ['"']) := by
  induction s with
  | nil => exact .nil
  | cons c s ih =>
    rw [List.flatMap_cons, List.append_assoc]
    exact .cons (escaped_escapeChar c) ih

/-! ## texts of values -/

/-- The texts of a number: the one that is written, and all that are read as it. -/
def NumberText (n : Number) (t : List Char) : Prop := t = n.text ∨ readNumber? t = some (n, [])

mutual
/-- The texts of a value without blanks, with the members of objects in their order. -/
inductive CompactText : Json → List Char → Prop where
  | null : CompactText null "null".toList
  | booleanTrue : CompactText (boolean true) "true".toList
  | booleanFalse : CompactText (boolean false) "false".toList
  | number {n : Number} {t : List Char} (h : NumberText n t) : CompactText (number n) t
  | string {s : String} {t : List Char} (h : StringText s.toList t) :
      CompactText (string s) ('"' :: t)
  | array {vs : List Json} {t : List Char} (h : ItemsText vs t) :
      CompactText (array vs) ('[' :: (t ++ [']']))
  | object {es : List (String × Json)} {t : List Char} (h : MembersText es t) :
      CompactText (object es) ('{' :: (t ++ ['}']))

/-- The texts of the values of an array, separated by commas. -/
inductive ItemsText : List Json → List Char → Prop where
  | nil : ItemsText [] []
  | last {v : Json} {t : List Char} (hv : CompactText v t) : ItemsText [v] t
  | more {v w : Json} {vs : List Json} {t u : List Char} (hv : CompactText v t)
      (hvs : ItemsText (w :: vs) u) : ItemsText (v :: w :: vs) (t ++ ',' :: u)

/-- The texts of the members of an object, separated by commas. -/
inductive MembersText : List (String × Json) → List Char → Prop where
  | nil : MembersText [] []
  | last {k : String} {v : Json} {s t : List Char} (hk : StringText k.toList s)
      (hv : CompactText v t) : MembersText [(k, v)] ('"' :: (s ++ ':' :: t))
  | more {k : String} {v : Json} {e : String × Json} {es : List (String × Json)}
      {s t u : List Char} (hk : StringText k.toList s) (hv : CompactText v t)
      (hes : MembersText (e :: es) u) :
      MembersText ((k, v) :: e :: es) ('"' :: (s ++ ':' :: (t ++ ',' :: u)))
end

mutual
/-- What is written is a text of the value. -/
theorem compactText_write (v : Json) : CompactText v v.write := by
  match v with
  | .null => exact .null
  | .boolean true => exact .booleanTrue
  | .boolean false => exact .booleanFalse
  | .number n => exact .number (.inl rfl)
  | .string s => exact .string (stringText_escaped s.toList)
  | .array vs => exact .array (itemsText_writeItems vs)
  | .object es => exact .object (membersText_writeMembers es)

/-- Items are written as a text of them. -/
theorem itemsText_writeItems (vs : List Json) : ItemsText vs (writeItems vs) := by
  match vs with
  | [] => exact .nil
  | [v] => exact .last (compactText_write v)
  | v :: w :: vs => exact .more (compactText_write v) (itemsText_writeItems (w :: vs))

/-- Members are written as a text of them. -/
theorem membersText_writeMembers (es : List (String × Json)) :
    MembersText es (writeMembers es) := by
  match es with
  | [] => exact .nil
  | [(k, v)] =>
    have h := MembersText.last (stringText_escaped k.toList) (compactText_write v)
    exact h
  | (k, v) :: e :: es =>
    have h := MembersText.more (stringText_escaped k.toList) (compactText_write v)
      (membersText_writeMembers (e :: es))
    rw [writeMembers, writeString, List.append_assoc]
    exact h
end

/-! ## values without numbers -/

mutual
/-- The value holds no numbers. -/
def NumberFree : Json → Prop
  | null | boolean _ | string _ => True
  | number _ => False
  | array items => NumberFreeItems items
  | object members => NumberFreeMembers members

/-- No value of the list holds numbers. -/
def NumberFreeItems : List Json → Prop
  | [] => True
  | v :: vs => NumberFree v ∧ NumberFreeItems vs

/-- No member's value holds numbers. -/
def NumberFreeMembers : List (String × Json) → Prop
  | [] => True
  | (_, v) :: es => NumberFree v ∧ NumberFreeMembers es
end

theorem numberFreeItems_iff {vs : List Json} : NumberFreeItems vs ↔ ∀ v ∈ vs, NumberFree v := by
  induction vs with
  | nil => simp [NumberFreeItems]
  | cons v vs ih => simp [NumberFreeItems, ih]

theorem numberFreeMembers_iff {es : List (String × Json)} :
    NumberFreeMembers es ↔ ∀ e ∈ es, NumberFree e.2 := by
  induction es with
  | nil => simp [NumberFreeMembers]
  | cons e es ih => simp [NumberFreeMembers, ih]

/-! ## texts of numbers -/

/-- A sign or a digit. -/
def StartsNumber (c : Char) : Prop := c = '-' ∨ c.isDigit = true

/-- Characters that are neither a sign nor a digit start no number. -/
theorem StartsNumber.ne {c d : Char} (h : StartsNumber c) (hd : d ≠ '-' ∧ d.isDigit = false) :
    c ≠ d := by
  rintro rfl
  obtain hsign | hdigit := h
  · exact hd.1 hsign
  · exact Bool.false_ne_true (hd.2.symm.trans hdigit)

/-- A number does not start with a blank. -/
theorem StartsNumber.isBlank_eq_false {c : Char} (h : StartsNumber c) : isBlank c = false := by
  have hspace : c ≠ ' ' := h.ne (by decide)
  have htab : c ≠ '\t' := h.ne (by decide)
  have hline : c ≠ '\n' := h.ne (by decide)
  have hreturn : c ≠ '\r' := h.ne (by decide)
  simp [isBlank, hspace, htab, hline, hreturn]

/-- A natural number has a first digit. -/
theorem toDigits_eq_cons (n : Nat) : ∃ d ds, Nat.toDigits 10 n = d :: ds ∧ StartsNumber d := by
  obtain ⟨d, ds, h⟩ := List.exists_cons_of_ne_nil (Nat.toDigits_ne_nil (n := n) (b := 10))
  have hmem : d ∈ Nat.toDigits 10 n := by simp [h]
  exact ⟨d, ds, h, .inr (Nat.isDigit_of_mem_toDigits (b := 10) (by decide) (by decide) hmem)⟩

/-- Wherever the decimal point goes, a digit comes first. -/
theorem positional_eq_cons {d : Char} (ds : List Char) (exponent : Int) (hd : StartsNumber d) :
    ∃ c t, Number.positional (d :: ds) exponent = c :: t ∧ StartsNumber c := by
  rw [Number.positional]
  split
  · exact ⟨d, _, rfl, hd⟩
  · split
    · next hpoint =>
      obtain ⟨n, hn⟩ : ∃ n, ((d :: ds).length + exponent).toNat = n + 1 :=
        Nat.exists_eq_add_one.2 (by omega)
      rw [hn]
      exact ⟨d, _, rfl, hd⟩
    · exact ⟨'0', _, rfl, .inr (by decide)⟩

/-- What is written for a number starts with a sign or a digit. -/
theorem Number.text_eq_cons (n : Number) : ∃ c t, n.text = c :: t ∧ StartsNumber c := by
  cases n with
  | integer n =>
    obtain ⟨d, ds, h, hd⟩ := toDigits_eq_cons n.natAbs
    rw [text, integerText, h]
    split
    · exact ⟨'-', d :: ds, rfl, .inl rfl⟩
    · exact ⟨d, ds, rfl, hd⟩
  | decimal negative digits exponent =>
    obtain ⟨d, ds, h, hd⟩ := toDigits_eq_cons digits
    cases negative with
    | true => exact ⟨'-', _, rfl, .inl rfl⟩
    | false =>
      rw [text, h, if_neg Bool.false_ne_true, List.nil_append]
      split
      · exact positional_eq_cons ds exponent hd
      · exact ⟨d, _, rfl, hd⟩

/-- No number is read from what starts otherwise. -/
theorem readNumber?_eq_none {c : Char} (s : List Char) (h : ¬ StartsNumber c) :
    readNumber? (c :: s) = none := by
  obtain ⟨hsign, hdigit⟩ := not_or.1 h
  have hdigits : splitDigits (c :: s) = ([], c :: s) := by
    simp [splitDigits, hdigit]
  rw [readNumber?, hdigits]
  · rfl
  · exact fun _ h => hsign (List.cons.inj h).1

/-- Each text of a number starts with a sign or a digit. -/
theorem NumberText.eq_cons {n : Number} {t : List Char} (h : NumberText n t) :
    ∃ c u, t = c :: u ∧ StartsNumber c := by
  obtain rfl | h := h
  · exact n.text_eq_cons
  · cases t with
    | nil => cases h
    | cons c t =>
      refine ⟨c, t, rfl, Classical.not_not.1 fun hc => ?_⟩
      rw [readNumber?_eq_none t hc] at h
      cases h

/-! ## reading one step -/

section

variable {fuel : Nat} {s rest : List Char}

theorem dropBlanks_cons {c : Char} (h : isBlank c = false) (s : List Char) :
    dropBlanks (c :: s) = c :: s := by
  rw [dropBlanks, List.dropWhile_cons, h]
  rfl

/-- One step into a string. -/
theorem readValue_string {t : List Char} (h : readString? s = some (t, rest)) :
    readValue (fuel + 1) ('"' :: s) = (.string (String.ofList t), rest) := by
  rw [readValue, dropBlanks_cons (by decide)]
  simp [h]

/-- One step into an array that is not empty. -/
theorem readValue_array {c : Char} {items : List Draft} {closed : Bool} (hc : isBlank c = false)
    (hend : c ≠ ']') (h : readItems fuel (c :: s) = (items, closed, rest)) :
    readValue (fuel + 1) ('[' :: c :: s) = (.array items closed, rest) := by
  rw [readValue, dropBlanks_cons (by decide)]
  simp [dropBlanks_cons hc, hend, h]

/-- One step into an object that is not empty. -/
theorem readValue_object {members : List (String × Draft)} {closed : Bool}
    (h : readMembers fuel ('"' :: s) = (members, closed, rest)) :
    readValue (fuel + 1) ('{' :: '"' :: s) = (.object members closed, rest) := by
  rw [readValue, dropBlanks_cons (by decide)]
  simp [dropBlanks_cons, isBlank, h]

/-- The last item is followed by the closing bracket. -/
theorem readItems_last {d : Draft} (hd : d.isWhole = true)
    (h : readValue fuel s = (d, ']' :: rest)) : readItems (fuel + 1) s = ([d], true, rest) := by
  rw [readItems, h]
  simp [hd, dropBlanks_cons, isBlank]

/-- Behind a comma the items go on. -/
theorem readItems_more {d : Draft} {t : List Char} {items : List Draft} {closed : Bool}
    (hd : d.isWhole = true) (h : readValue fuel s = (d, ',' :: t))
    (ht : readItems fuel t = (items, closed, rest)) :
    readItems (fuel + 1) s = (d :: items, closed, rest) := by
  rw [readItems, h]
  simp [hd, dropBlanks_cons, isBlank, ht]

/-- The last member is followed by the closing brace. -/
theorem readMembers_last {k t : List Char} {d : Draft} (hk : readString? s = some (k, ':' :: t))
    (hd : d.isWhole = true) (h : readValue fuel t = (d, '}' :: rest)) :
    readMembers (fuel + 1) ('"' :: s) = ([(String.ofList k, d)], true, rest) := by
  rw [readMembers, dropBlanks_cons (by decide)]
  simp [hk, h, hd, dropBlanks_cons, isBlank]

/-- Behind a comma the members go on. -/
theorem readMembers_more {k t u : List Char} {d : Draft} {members : List (String × Draft)}
    {closed : Bool} (hk : readString? s = some (k, ':' :: t)) (hd : d.isWhole = true)
    (h : readValue fuel t = (d, ',' :: u)) (hu : readMembers fuel u = (members, closed, rest)) :
    readMembers (fuel + 1) ('"' :: s) = ((String.ofList k, d) :: members, closed, rest) := by
  rw [readMembers, dropBlanks_cons (by decide)]
  simp [hk, h, hd, dropBlanks_cons, isBlank, hu]

end

/-! ## reading back -/

/-- The draft of a value is closed where it ends. -/
theorem Draft.isWhole_ofJson (v : Json) : (Draft.ofJson v).isWhole = true := by
  cases v <;> rfl

/-- A text of a value starts neither with a blank nor like the end of an array. -/
theorem CompactText.eq_cons {v : Json} {t : List Char} (h : CompactText v t) :
    ∃ c u, t = c :: u ∧ isBlank c = false ∧ c ≠ ']' := by
  cases h with
  | number h =>
    obtain ⟨c, u, rfl, hc⟩ := h.eq_cons
    exact ⟨c, u, rfl, hc.isBlank_eq_false, hc.ne (by decide)⟩
  | _ => exact ⟨_, _, rfl, by decide, by decide⟩

/-- Items do not start like the end of an array. -/
theorem ItemsText.eq_cons {v : Json} {vs : List Json} {t : List Char} (h : ItemsText (v :: vs) t) :
    ∃ c u, t = c :: u ∧ isBlank c = false ∧ c ≠ ']' := by
  cases h with
  | last hv => exact hv.eq_cons
  | more hv =>
    obtain ⟨c, u, rfl, hc⟩ := hv.eq_cons
    exact ⟨c, _, rfl, hc⟩

/-- Members start with the quote of a key. -/
theorem MembersText.eq_cons {e : String × Json} {es : List (String × Json)} {t : List Char}
    (h : MembersText (e :: es) t) : ∃ u, t = '"' :: u := by
  cases h <;> exact ⟨_, rfl⟩

mutual
/-- A value is read from its text, whatever follows it. Each step of the reader takes one
unit of fuel, and there are two for each character: the brackets around items or members
pay for the step into them, and the comma behind one pays for the step to the next. -/
theorem readValue_text {v : Json} {t : List Char} (ht : CompactText v t) (fuel : Nat)
    (rest : List Char) (h : NumberFree v) (hfuel : 2 * t.length ≤ fuel) :
    readValue fuel (t ++ rest) = (.ofJson v, rest) := by
  obtain ⟨fuel, rfl⟩ : ∃ n, fuel = n + 1 := by
    obtain ⟨c, u, rfl, -⟩ := ht.eq_cons
    rw [List.length_cons] at hfuel
    exact ⟨fuel - 1, by omega⟩
  match ht with
  | .null | .booleanTrue | .booleanFalse => rfl
  | .number _ => exact h.elim
  | .string (s := s) hs =>
    rw [List.cons_append, readValue_string (hs.readString?_append rest), String.ofList_toList]
    rw [Draft.ofJson]
  | .array .nil => rfl
  | @CompactText.array (v :: vs) t hvs =>
    rw [List.length_cons, List.length_append, List.length_singleton] at hfuel
    have hread := readItems_text hvs fuel rest (List.cons_ne_nil v vs) h (by omega)
    obtain ⟨c, u, rfl, hblank, hend⟩ := hvs.eq_cons
    rw [List.cons_append, List.append_assoc]
    exact readValue_array hblank hend hread
  | .object .nil => rfl
  | @CompactText.object (e :: es) t hes =>
    rw [List.length_cons, List.length_append, List.length_singleton] at hfuel
    have hread := readMembers_text hes fuel rest (List.cons_ne_nil e es) h (by omega)
    obtain ⟨u, rfl⟩ := hes.eq_cons
    rw [List.cons_append, List.append_assoc]
    exact readValue_object hread

/-- The items of an array are read up to its end. -/
theorem readItems_text {vs : List Json} {t : List Char} (ht : ItemsText vs t) (fuel : Nat)
    (rest : List Char) (hne : vs ≠ []) (h : NumberFreeItems vs)
    (hfuel : 2 * t.length + 1 ≤ fuel) :
    readItems fuel (t ++ ']' :: rest) = (Draft.ofItems vs, true, rest) := by
  obtain ⟨fuel, rfl⟩ : ∃ n, fuel = n + 1 := ⟨fuel - 1, by omega⟩
  match ht with
  | .nil => exact absurd rfl hne
  | .last hv =>
    have hlast := readValue_text hv fuel (']' :: rest) h.1 (by omega)
    exact readItems_last (Draft.isWhole_ofJson _) hlast
  | .more (t := t) (u := u) hv hvs =>
    rw [List.length_append, List.length_cons] at hfuel
    have hfirst := readValue_text hv fuel (',' :: (u ++ ']' :: rest)) h.1 (by omega)
    have hmore := readItems_text hvs fuel rest (List.cons_ne_nil _ _) h.2 (by omega)
    rw [List.append_assoc, List.cons_append]
    exact readItems_more (Draft.isWhole_ofJson _) hfirst hmore

/-- The members of an object are read up to its end. -/
theorem readMembers_text {es : List (String × Json)} {t : List Char} (ht : MembersText es t)
    (fuel : Nat) (rest : List Char) (hne : es ≠ []) (h : NumberFreeMembers es)
    (hfuel : 2 * t.length + 1 ≤ fuel) :
    readMembers fuel (t ++ '}' :: rest) = (Draft.ofMembers es, true, rest) := by
  obtain ⟨fuel, rfl⟩ : ∃ n, fuel = n + 1 := ⟨fuel - 1, by omega⟩
  match ht with
  | .nil => exact absurd rfl hne
  | .last (s := s) (t := t) hk hv =>
    rw [List.length_cons, List.length_append, List.length_cons] at hfuel
    have hkey := hk.readString?_append (':' :: (t ++ '}' :: rest))
    have hfirst := readValue_text hv fuel ('}' :: rest) h.1 (by omega)
    rw [List.cons_append, List.append_assoc, List.cons_append,
      readMembers_last hkey (Draft.isWhole_ofJson _) hfirst, String.ofList_toList]
    rfl
  | .more (s := s) (t := t) (u := u) hk hv hes =>
    rw [List.length_cons, List.length_append, List.length_cons, List.length_append,
      List.length_cons] at hfuel
    have hkey := hk.readString?_append (':' :: (t ++ ',' :: (u ++ '}' :: rest)))
    have hfirst := readValue_text hv fuel (',' :: (u ++ '}' :: rest)) h.1 (by omega)
    have hmore := readMembers_text hes fuel rest (List.cons_ne_nil _ _) h.2 (by omega)
    rw [List.cons_append, List.append_assoc, List.cons_append, List.append_assoc,
      List.cons_append, readMembers_more hkey (Draft.isWhole_ofJson _) hfirst hmore,
      String.ofList_toList]
    rfl
end

/-- **Read back.** A written value without numbers is read back as its draft. -/
theorem Draft.read_write {v : Json} (h : NumberFree v) (rest : List Char) :
    Draft.read (v.write ++ rest) = (.ofJson v, rest) := by
  refine readValue_text (compactText_write v) _ rest h ?_
  rw [List.length_append]
  omega

end Conneg.Json
