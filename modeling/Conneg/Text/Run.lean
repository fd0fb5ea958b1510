/-!
# Conneg.Text.Run

Runs: the longest front of a text whose characters share a property, and what
follows it.

1. A run holds characters with the property only (`of_mem_takeWhile`).
2. A text of such characters, followed by nothing or by one without the
   property, is split exactly there (`takeWhile_run`, `dropWhile_run`).
-/

namespace Conneg.Text

variable {p : Char → Bool}

theorem of_mem_takeWhile {s : List Char} {c : Char} (h : c ∈ s.takeWhile p) : p c = true :=
  List.all_eq_true.1 List.all_takeWhile c h

/-- If all characters have the property, the run is the whole text. -/
theorem takeWhile_all {s : List Char} (h : ∀ c ∈ s, p c = true) : s.takeWhile p = s := by
  simpa using @List.takeWhile_append_of_pos _ p s [] h

theorem dropWhile_all {s : List Char} (h : ∀ c ∈ s, p c = true) : s.dropWhile p = [] := by
  simpa using @List.dropWhile_append_of_pos _ p s [] h

/-- A run stops at the first character without the property. -/
theorem takeWhile_run {s : List Char} {c : Char} {rest : List Char}
    (h : ∀ d ∈ s, p d = true) (hc : p c = false) : (s ++ c :: rest).takeWhile p = s := by
  rw [List.takeWhile_append_of_pos h]
  simp [hc]

/-- That character and all that follows are left. -/
theorem dropWhile_run {s : List Char} {c : Char} {rest : List Char}
    (h : ∀ d ∈ s, p d = true) (hc : p c = false) :
    (s ++ c :: rest).dropWhile p = c :: rest := by
  rw [List.dropWhile_append_of_pos h]
  simp [hc]

/-- A run and what follows it make up the text. -/
theorem run_append_eq {s t rest : List Char} (ht : s.takeWhile p = t)
    (hd : s.dropWhile p = rest) : t ++ rest = s := by
  rw [← ht, ← hd, List.takeWhile_append_dropWhile]

end Conneg.Text
