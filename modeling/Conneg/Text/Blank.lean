import Conneg.Text.Ascii

/-!
# Conneg.Text.Blank

Blank characters and trimming.

1. `isBlank` is the Unicode property `White_Space`: the controls U+0009 to
   U+000D, the space, U+0085, U+00A0 and the wider spaces and separators.
   U+200B, U+FEFF and U+001C to U+001F are not blank.
2. `trim` removes the blanks at both ends and nothing else.
-/

namespace Conneg.Text

/-- The Unicode property `White_Space`. -/
def isBlank (c : Char) : Bool :=
  let n := c.toNat
  (9 ≤ n && n ≤ 13) || n == 0x20 || n == 0x85 || n == 0xA0 || n == 0x1680 ||
    (0x2000 ≤ n && n ≤ 0x200A) || n == 0x2028 || n == 0x2029 || n == 0x202F ||
    n == 0x205F || n == 0x3000

/-- Removes the blanks at the end. -/
def trimEnd (s : List Char) : List Char := (s.reverse.dropWhile isBlank).reverse

/-- Removes the blanks at both ends. -/
def trim (s : List Char) : List Char := trimEnd (s.dropWhile isBlank)

/-- Blanks have no letter case. -/
theorem isBlank_toLower (c : Char) : isBlank c.toLower = isBlank c :=
  toLower_of_ascii (f := isBlank) (by decide +kernel) c

/-! ## texts without outer blanks -/

/-- The text does not start with a blank and does not end with one. -/
def Trimmed (s : List Char) : Prop :=
  (∀ c ∈ s.head?, isBlank c = false) ∧ ∀ c ∈ s.getLast?, isBlank c = false

/-- Only the first and the last character count. -/
theorem trimmed_of_ends {s : List Char} {c d : Char} (hs : s.head? = some c)
    (ht : s.getLast? = some d) (hc : isBlank c = false) (hd : isBlank d = false) : Trimmed s := by
  simp [Trimmed, hs, ht, hc, hd]

theorem dropWhile_isBlank_of_head {s : List Char} (h : ∀ c ∈ s.head?, isBlank c = false) :
    s.dropWhile isBlank = s := by
  cases s with
  | nil => rfl
  | cons c s => simp [h c (by simp)]

theorem trimEnd_of_getLast {s : List Char} (h : ∀ c ∈ s.getLast?, isBlank c = false) :
    trimEnd s = s := by
  unfold trimEnd
  rw [dropWhile_isBlank_of_head (by simpa [List.head?_reverse] using h), List.reverse_reverse]

/-- A trimmed text is its own trim. -/
theorem trim_of_trimmed {s : List Char} (h : Trimmed s) : trim s = s := by
  unfold trim
  rw [dropWhile_isBlank_of_head h.1, trimEnd_of_getLast h.2]

/-- What is left behind blanks in front does not start with one. -/
theorem head?_dropWhile_isBlank (s : List Char) :
    ∀ c ∈ (s.dropWhile isBlank).head?, isBlank c = false := by
  induction s with
  | nil => simp
  | cons c s ih =>
    by_cases h : isBlank c = true
    · simpa [h] using ih
    · simp [h]

/-- What trimming leaves at the end is no blank. -/
theorem getLast?_trimEnd (s : List Char) : ∀ c ∈ (trimEnd s).getLast?, isBlank c = false := by
  unfold trimEnd
  rw [List.getLast?_reverse]
  exact head?_dropWhile_isBlank _

/-- Trimming the end only shortens the text. -/
theorem exists_trimEnd_append (s : List Char) : ∃ t, trimEnd s ++ t = s := by
  obtain ⟨t, ht⟩ := List.dropWhile_suffix (l := s.reverse) isBlank
  refine ⟨t.reverse, ?_⟩
  rw [trimEnd, ← List.reverse_append, ht, List.reverse_reverse]

/-- Trimming leaves no blank at either end. -/
theorem trimmed_trim (s : List Char) : Trimmed (trim s) := by
  refine ⟨?_, getLast?_trimEnd _⟩
  intro c hc
  obtain ⟨t, ht⟩ := exists_trimEnd_append (s.dropWhile isBlank)
  apply head?_dropWhile_isBlank s
  rw [← ht]
  unfold trim at hc
  cases h : trimEnd (s.dropWhile isBlank) with
  | nil => simp [h] at hc
  | cons d u => simpa [h] using hc

/-- Letter case does not change whether a text is trimmed. -/
theorem trimmed_lower {s : List Char} : Trimmed (lower s) ↔ Trimmed s := by
  simp [Trimmed, lower, isBlank_toLower]

end Conneg.Text
