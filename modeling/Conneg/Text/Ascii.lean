/-!
# Conneg.Text.Ascii

Letter case over ASCII.

1. `lower` maps the letters `A` to `Z` to `a` to `z` and keeps every other
   character, so it never changes a length or a UTF-8 size.
2. Characters that are no letters, such as separators, are the lowercase form of
   themselves alone (`toLower_eq_iff`).
3. `sameLetters` compares two texts after `lower`.
-/

namespace Conneg.Text

/-- Lowercases the letters `A` to `Z` and keeps every other character. -/
def lower (s : List Char) : List Char := s.map Char.toLower

/-- Whether two texts agree when the case of ASCII letters is ignored. -/
def sameLetters (s t : List Char) : Bool := lower s == lower t

/-! ## `lower` -/

@[simp] theorem lower_nil : lower [] = [] := rfl

@[simp] theorem lower_cons (c : Char) (s : List Char) :
    lower (c :: s) = c.toLower :: lower s := rfl

/-- Texts are put in lowercase piece by piece. -/
@[simp] theorem lower_append (s t : List Char) : lower (s ++ t) = lower s ++ lower t := by
  simp [lower]

@[simp] theorem length_lower (s : List Char) : (lower s).length = s.length := by
  simp [lower]

@[simp] theorem lower_eq_nil {s : List Char} : lower s = [] ↔ s = [] := by
  simp [lower]

/-- What holds of the 128 ASCII characters one by one holds of each of them. -/
theorem of_ascii {P : Char → Prop} (h : ∀ n : Fin 128, P (Char.ofNat n.val)) {c : Char}
    (hc : c.toNat < 128) : P c := by
  simpa using h ⟨c.toNat, hc⟩

/-- Characters outside ASCII keep their case. -/
theorem toLower_of_not_ascii {c : Char} (hc : ¬ c.toNat < 128) : c.toLower = c := by
  unfold Char.toLower
  split
  · next h =>
    have h1 : c.val.toNat ≤ 'Z'.val.toNat := UInt32.le_iff_toNat_le.1 h.2
    exact absurd (Nat.lt_of_le_of_lt h1 (by decide)) hc
  · rfl

/-- A property that a letter shares with its lowercase form throughout ASCII is
one that letter case never changes. -/
theorem toLower_of_ascii {α : Type} {f : Char → α}
    (h : ∀ n : Fin 128, f (Char.ofNat n.val).toLower = f (Char.ofNat n.val)) (c : Char) :
    f c.toLower = f c := by
  by_cases hc : c.toNat < 128
  · exact of_ascii (P := fun c => f c.toLower = f c) h hc
  · rw [toLower_of_not_ascii hc]

/-- A lowercase letter is not changed again. -/
theorem toLower_toLower (c : Char) : c.toLower.toLower = c.toLower :=
  toLower_of_ascii (f := Char.toLower) (by decide +kernel) c

/-- Lowercase texts stay as they are. -/
@[simp] theorem lower_lower (s : List Char) : lower (lower s) = lower s := by
  rw [lower, lower, List.map_map]
  exact List.map_congr_left fun c _ => toLower_toLower c

/-! ## characters that are no letters -/

/-- Only letters have another case, and it leads to letters. -/
theorem isAlpha_of_toLower_ne {c : Char} (h : c.toLower ≠ c) :
    c.isAlpha = true ∧ c.toLower.isAlpha = true := by
  by_cases hc : c.toNat < 128
  · exact of_ascii (P := fun c => c.toLower ≠ c → c.isAlpha = true ∧ c.toLower.isAlpha = true)
      (by decide +kernel) hc h
  · exact absurd (toLower_of_not_ascii hc) h

/-- A character that is no letter is the lowercase form of itself alone. -/
theorem toLower_eq_iff {c d : Char} (hd : d.isAlpha = false) : c.toLower = d ↔ c = d := by
  by_cases h : c.toLower = c
  · rw [h]
  · obtain ⟨hc, hlower⟩ := isAlpha_of_toLower_ne h
    refine iff_of_false ?_ ?_
    · rintro rfl
      exact Bool.eq_false_iff.1 hd hlower
    · rintro rfl
      exact Bool.eq_false_iff.1 hd hc

/-- So letter case does not move the place where a text is cut at such a character. -/
theorem toLower_bne {d : Char} (hd : d.isAlpha = false) (c : Char) :
    (c.toLower != d) = (c != d) := by
  rw [Bool.eq_iff_iff, bne_iff_ne, bne_iff_ne, ne_eq, toLower_eq_iff hd]

/-! ## `sameLetters` -/

/-- Texts agree up to letter case if they are the same in lowercase. -/
theorem sameLetters_iff {s t : List Char} : sameLetters s t = true ↔ lower s = lower t := by
  simp [sameLetters]

@[simp] theorem sameLetters_self (s : List Char) : sameLetters s s = true := by
  simp [sameLetters]

/-- The letter case of neither side counts. -/
@[simp] theorem sameLetters_lower_left (s t : List Char) :
    sameLetters (lower s) t = sameLetters s t := by
  simp [sameLetters]

@[simp] theorem sameLetters_lower_right (s t : List Char) :
    sameLetters s (lower t) = sameLetters s t := by
  simp [sameLetters]

end Conneg.Text
