/-!
# Conneg.Entries

Lists of keys and values in strictly increasing key order.

1. Keys are compared as strings, code point by code point, which is also the
   order of their UTF-8 bytes.
2. `insert` replaces the value of a key that is present, `erase` removes a key.
3. Ordered lists are equal as soon as they give the same value for every key
   (`ext`).
-/

namespace Conneg.Entries

variable {α : Type}

/-- The keys increase strictly, so none occurs twice. -/
def Ordered (es : List (String × α)) : Prop := es.Pairwise fun a b => a.1 < b.1

instance (es : List (String × α)) : Decidable (Ordered es) :=
  inferInstanceAs (Decidable (es.Pairwise fun a b => a.1 < b.1))

def lookup (key : String) : List (String × α) → Option α
  | [] => none
  | (k, v) :: es => if key = k then some v else lookup key es

/-- Puts an entry at its place, replacing one with the same key. -/
def insert (key : String) (value : α) : List (String × α) → List (String × α)
  | [] => [(key, value)]
  | (k, v) :: es =>
      if key = k then (key, value) :: es
      else if key < k then (key, value) :: (k, v) :: es
      else (k, v) :: insert key value es

/-- Removes the entry of a key. -/
def erase (key : String) (es : List (String × α)) : List (String × α) :=
  es.filter fun e => e.1 ≠ key

/-- Inserts entries one after another, so a later one wins. -/
def insertAll (es : List (String × α)) (new : List (String × α)) : List (String × α) :=
  new.foldl (fun es e => insert e.1 e.2 es) es

/-- Replaces every value. -/
def mapValues (f : α → α) (es : List (String × α)) : List (String × α) :=
  es.map fun e => (e.1, f e.2)

/-! ## lookup -/

@[simp] theorem lookup_nil (key : String) : lookup key ([] : List (String × α)) = none := rfl

theorem lookup_cons (key k : String) (v : α) (es : List (String × α)) :
    lookup key ((k, v) :: es) = if key = k then some v else lookup key es := rfl

/-- Inserting overwrites one name and leaves the others alone. -/
theorem lookup_insert (key k : String) (v : α) (es : List (String × α)) :
    lookup key (insert k v es) = if key = k then some v else lookup key es := by
  fun_induction insert k v es <;> grind [lookup]

/-- Erasing takes one name away and leaves the others alone. -/
theorem lookup_erase (key k : String) (es : List (String × α)) :
    lookup key (erase k es) = if key = k then none else lookup key es := by
  induction es with
  | nil => simp [erase]
  | cons e es ih =>
    obtain ⟨k', v⟩ := e
    by_cases h : k' = k <;> grind [lookup, erase]

/-- Changing all values keeps the names. -/
theorem lookup_mapValues (key : String) (f : α → α) (es : List (String × α)) :
    lookup key (mapValues f es) = (lookup key es).map f := by
  induction es with
  | nil => rfl
  | cons e es ih =>
    obtain ⟨k, v⟩ := e
    by_cases h : key = k <;> grind [lookup, mapValues]

/-- Of two values for a name the new one stays. -/
theorem lookup_insertAll (key : String) (es new : List (String × α)) (h : Ordered new) :
    lookup key (insertAll es new) = (lookup key new).or (lookup key es) := by
  unfold insertAll
  induction new generalizing es with
  | nil => simp
  | cons e new ih =>
    obtain ⟨k, v⟩ := e
    obtain ⟨hlt, hnew⟩ := List.pairwise_cons.1 h
    rw [List.foldl_cons, ih _ hnew, lookup_insert, lookup_cons]
    by_cases hk : key = k
    · subst hk
      have : lookup key new = none := by
        clear ih hnew h
        induction new with
        | nil => rfl
        | cons e new ih =>
          have h1 := hlt e List.mem_cons_self
          have h2 : key ≠ e.1 := fun he => String.lt_irrefl _ (he ▸ h1)
          rw [lookup_cons, if_neg h2]
          exact ih fun e he => hlt e (List.mem_cons_of_mem _ he)
      simp [this]
    · simp [hk]

/-! ## order -/

@[simp] theorem ordered_nil : Ordered ([] : List (String × α)) := List.Pairwise.nil

/-- Inserting adds no other entry. -/
theorem mem_insert {key : String} {value : α} {es : List (String × α)} {e : String × α}
    (h : e ∈ insert key value es) : e = (key, value) ∨ e ∈ es := by
  fun_induction insert key value es <;> grind

/-- Inserting keeps the names increasing, so no name is listed twice. -/
theorem ordered_insert (key : String) (value : α) {es : List (String × α)} (h : Ordered es) :
    Ordered (insert key value es) := by
  fun_induction insert key value es with
  | case1 => exact List.pairwise_singleton _ _
  | case2 => exact List.pairwise_cons.2 (List.pairwise_cons.1 h)
  | case3 k v es hne hlt =>
    obtain ⟨hk, _⟩ := List.pairwise_cons.1 h
    refine List.pairwise_cons.2 ⟨fun e he => ?_, h⟩
    rcases List.mem_cons.1 he with rfl | he
    · exact hlt
    · exact String.lt_trans hlt (hk e he)
  | case4 k v es hne hlt ih =>
    obtain ⟨hk, hes⟩ := List.pairwise_cons.1 h
    refine List.pairwise_cons.2 ⟨fun e he => ?_, ih hes⟩
    rcases mem_insert he with rfl | he
    · exact Std.lt_of_le_of_ne (Std.not_lt.1 hlt) (Ne.symm hne)
    · exact hk e he

theorem ordered_erase (key : String) {es : List (String × α)} (h : Ordered es) :
    Ordered (erase key es) :=
  List.Pairwise.filter _ h

theorem ordered_mapValues (f : α → α) {es : List (String × α)} (h : Ordered es) :
    Ordered (mapValues f es) :=
  List.pairwise_map.2 h

/-- Entries inserted one by one, in any order, stay in the order of names. -/
theorem ordered_insertAll {es : List (String × α)} (new : List (String × α)) (h : Ordered es) :
    Ordered (insertAll es new) := by
  unfold insertAll
  induction new generalizing es with
  | nil => exact h
  | cons e new ih => exact ih (ordered_insert _ _ h)

/-! ## extensionality -/

/-- A name before all others is not among them. -/
theorem lookup_eq_none_of_lt {key : String} {es : List (String × α)}
    (h : ∀ e ∈ es, key < e.1) : lookup key es = none := by
  induction es with
  | nil => rfl
  | cons e es ih =>
    have h1 := h e List.mem_cons_self
    have h2 : key ≠ e.1 := fun he => String.lt_irrefl _ (he ▸ h1)
    rw [lookup_cons, if_neg h2]
    exact ih fun e he => h e (List.mem_cons_of_mem _ he)

/-- An ordered list gives nothing for keys before its first one. -/
theorem lookup_eq_none_of_lt_head {key k : String} {v : α} {es : List (String × α)}
    (h : Ordered ((k, v) :: es)) (hk : key < k) : lookup key ((k, v) :: es) = none :=
  lookup_eq_none_of_lt fun e he => by
    rcases List.mem_cons.1 he with rfl | he
    · exact hk
    · exact String.lt_trans hk ((List.pairwise_cons.1 h).1 e he)

/-- Ordered lists with the same value for every key are equal. -/
theorem ext {es fs : List (String × α)} (hes : Ordered es) (hfs : Ordered fs)
    (h : ∀ key, lookup key es = lookup key fs) : es = fs := by
  induction es generalizing fs with
  | nil =>
    cases fs with
    | nil => rfl
    | cons f fs =>
      obtain ⟨k, v⟩ := f
      simpa [lookup_cons] using h k
  | cons e es ih =>
    obtain ⟨k, v⟩ := e
    cases fs with
    | nil => simpa [lookup_cons] using h k
    | cons f fs =>
      obtain ⟨k', v'⟩ := f
      -- the smaller one of two different first names would be missing on the other side
      rcases Std.lt_trichotomy k k' with hlt | rfl | hlt
      · simpa [lookup_cons, lookup_eq_none_of_lt_head hfs hlt] using h k
      · obtain rfl : v = v' := by simpa [lookup_cons] using h k
        have htail : ∀ key, lookup key es = lookup key fs := fun key => by
          by_cases hk : key = k
          · subst hk
            rw [lookup_eq_none_of_lt (List.pairwise_cons.1 hes).1,
              lookup_eq_none_of_lt (List.pairwise_cons.1 hfs).1]
          · simpa [lookup_cons, hk] using h key
        rw [ih (List.pairwise_cons.1 hes).2 (List.pairwise_cons.1 hfs).2 htail]
      · simpa [lookup_cons, lookup_eq_none_of_lt_head hes hlt] using (h k').symm

end Conneg.Entries
