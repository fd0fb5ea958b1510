import Conneg.Steps
import Conneg.Text.Utf8

/-!
# Conneg.Proofs.Utf8

Decoding the UTF-8 bytes of a text gives the text back, and no other bytes are
decoded.

1. A lead byte that encodes the high bits of a character is read as those bits,
   with the range that its first continuation byte keeps (`lead?_two` and the
   lemmas beside it).
2. `readChar_utf8EncodeChar`: one character is read from its bytes, whatever
   follows them.
3. `decode_encode`: so is a whole text, from any index on.
4. `readChar_eq_ok`: what is read as a character are its bytes. So bytes are decoded
   exactly if they are those of a text (`decode_eq_ok_iff`).
5. `longestText_of_decode`: all other bytes are an error, whose index is the length of
   the longest front that is a text.
-/

namespace Conneg.Text.Utf8

/-! ## bytes -/

/-- A byte below 0x80 is a character of its own. -/
theorem lead?_one {n : Nat} (h : n < 0x80) :
    lead? (UInt8.ofNat n) = some ⟨n, 0, 0x80, 0xBF⟩ := by
  have key : ∀ n : Fin 0x80, lead? (UInt8.ofNat n) = some ⟨n, 0, 0x80, 0xBF⟩ := by decide
  exact key ⟨n, h⟩

/-- The bytes from 0xC2 on lead two; those before would be overlong. -/
theorem lead?_two {n : Nat} (h : n < 0x20) (hlow : 2 ≤ n) :
    lead? (UInt8.ofNat (n + 0xC0)) = some ⟨n, 1, 0x80, 0xBF⟩ := by
  have key : ∀ n : Fin 0x20, 2 ≤ n.val →
      lead? (UInt8.ofNat (n + 0xC0)) = some ⟨n, 1, 0x80, 0xBF⟩ := by decide
  exact key ⟨n, h⟩ hlow

/-- E0 and ED narrow the range: no overlong forms, no surrogates. -/
theorem lead?_three {n : Nat} (h : n < 0x10) :
    lead? (UInt8.ofNat (n + 0xE0)) =
      some ⟨n, 2, if n = 0 then 0xA0 else 0x80, if n = 0xD then 0x9F else 0xBF⟩ := by
  have key : ∀ n : Fin 0x10, lead? (UInt8.ofNat (n + 0xE0)) =
      some ⟨n, 2, if n.val = 0 then 0xA0 else 0x80, if n.val = 0xD then 0x9F else 0xBF⟩ := by
    decide
  exact key ⟨n, h⟩

/-- F0 and F4 narrow the range: no overlong forms, nothing above U+10FFFF. -/
theorem lead?_four {n : Nat} (h : n < 5) :
    lead? (UInt8.ofNat (n + 0xF0)) =
      some ⟨n, 3, if n = 0 then 0x90 else 0x80, if n = 4 then 0x8F else 0xBF⟩ := by
  have key : ∀ n : Fin 5, lead? (UInt8.ofNat (n + 0xF0)) =
      some ⟨n, 3, if n.val = 0 then 0x90 else 0x80, if n.val = 4 then 0x8F else 0xBF⟩ := by
    decide
  exact key ⟨n, h⟩

/-- A continuation byte within the range gives six bits more. -/
theorem readTail_cons {code seen n k : Nat} {low high : UInt8} {bs : List UInt8} (hk : k < 0x40)
    (hlow : low.toNat ≤ k + 0x80) (hhigh : k + 0x80 ≤ high.toNat) :
    readTail code seen low high (n + 1) (UInt8.ofNat (k + 0x80) :: bs) =
      readTail (code * 64 + k) (seen + 1) 0x80 0xBF n bs := by
  have hb : (UInt8.ofNat (k + 0x80)).toNat = k + 0x80 := by
    rw [UInt8.toNat_ofNat']
    omega
  have hrange : low ≤ UInt8.ofNat (k + 0x80) ∧ UInt8.ofNat (k + 0x80) ≤ high := by
    rw [UInt8.le_iff_toNat_le, UInt8.le_iff_toNat_le, hb]
    exact ⟨hlow, hhigh⟩
  rw [readTail, if_pos hrange, hb, Nat.add_sub_cancel]

/-- A continuation byte after the first one always is within the range. -/
theorem readTail_cons_full {code seen n k : Nat} {bs : List UInt8} (hk : k < 0x40) :
    readTail code seen 0x80 0xBF (n + 1) (UInt8.ofNat (k + 0x80) :: bs) =
      readTail (code * 64 + k) (seen + 1) 0x80 0xBF n bs := by
  have hlow : (0x80 : UInt8).toNat = 0x80 := rfl
  have hhigh : (0xBF : UInt8).toNat = 0xBF := rfl
  exact readTail_cons hk (by omega) (by omega)

/-! ## characters -/

/-- What a lead byte and the bytes after it are read as. -/
theorem readChar_of_lead {b : UInt8} {bs rest : List UInt8} {l : Lead} {c : Char}
    (hl : lead? b = some l)
    (ht : readTail l.bits 1 l.low l.high l.count bs = .ok (c.toNat, rest)) :
    readChar b bs = .ok (c, rest) := by
  unfold readChar
  rw [hl]
  simp only [ht, Char.ofNat_toNat]

/-- Characters are no surrogates, and end at U+10FFFF. -/
theorem toNat_range (c : Char) :
    c.toNat < 0xD800 ∨ (0xDFFF < c.toNat ∧ c.toNat < 0x110000) := c.valid

/-- One character is read from its bytes; the bytes after it are left. -/
theorem readChar_utf8EncodeChar (c : Char) (rest : List UInt8) :
    ∃ b bs, String.utf8EncodeChar c = b :: bs ∧ readChar b (bs ++ rest) = .ok (c, rest) := by
  have hrange := toNat_range c
  have hval : c.val.toNat = c.toNat := rfl
  -- that a code point is no surrogate and not too large bounds its second byte
  fun_cases String.utf8EncodeChar c with
  | case1 v h =>
    refine ⟨_, _, rfl, readChar_of_lead (lead?_one (n := v) (by omega)) ?_⟩
    rfl
  | case2 v h1 h2 =>
    have hlead := lead?_two (n := v / 64 % 0x20) (by omega) (by omega)
    refine ⟨_, _, rfl, readChar_of_lead hlead ?_⟩
    rw [List.cons_append, readTail_cons_full (by omega), List.nil_append, readTail]
    have hcode : v / 64 % 0x20 * 64 + v % 0x40 = c.toNat := by omega
    rw [hcode]
  | case3 v h1 h2 h3 =>
    have hlead := lead?_three (n := v / 4096 % 0x10) (by omega)
    refine ⟨_, _, rfl, readChar_of_lead hlead ?_⟩
    have hlow : (if v / 4096 % 0x10 = 0 then 0xA0 else 0x80 : UInt8).toNat ≤
        v / 64 % 0x40 + 0x80 := by
      split
      · show 0xA0 ≤ v / 64 % 0x40 + 0x80
        omega
      · exact Nat.le_add_left 0x80 _
    have hhigh : v / 64 % 0x40 + 0x80 ≤
        (if v / 4096 % 0x10 = 0xD then 0x9F else 0xBF : UInt8).toNat := by
      split
      · show v / 64 % 0x40 + 0x80 ≤ 0x9F
        omega
      · show v / 64 % 0x40 + 0x80 ≤ 0xBF
        omega
    rw [List.cons_append, readTail_cons (by omega) hlow hhigh, List.cons_append,
      readTail_cons_full (by omega), List.nil_append, readTail]
    have hcode : (v / 4096 % 0x10 * 64 + v / 64 % 0x40) * 64 + v % 0x40 = c.toNat := by omega
    rw [hcode]
  | case4 v h1 h2 h3 =>
    have hlead := lead?_four (n := v / 262144 % 0x08) (by omega)
    refine ⟨_, _, rfl, readChar_of_lead hlead ?_⟩
    have hlow : (if v / 262144 % 0x08 = 0 then 0x90 else 0x80 : UInt8).toNat ≤
        v / 4096 % 0x40 + 0x80 := by
      split
      · show 0x90 ≤ v / 4096 % 0x40 + 0x80
        omega
      · exact Nat.le_add_left 0x80 _
    have hhigh : v / 4096 % 0x40 + 0x80 ≤
        (if v / 262144 % 0x08 = 4 then 0x8F else 0xBF : UInt8).toNat := by
      split
      · show v / 4096 % 0x40 + 0x80 ≤ 0x8F
        omega
      · show v / 4096 % 0x40 + 0x80 ≤ 0xBF
        omega
    rw [List.cons_append, readTail_cons (by omega) hlow hhigh, List.cons_append,
      readTail_cons_full (by omega), List.cons_append, readTail_cons_full (by omega),
      List.nil_append, readTail]
    have hcode : ((v / 262144 % 0x08 * 64 + v / 4096 % 0x40) * 64 + v / 64 % 0x40) * 64 +
        v % 0x40 = c.toNat := by omega
    rw [hcode]

/-! ## texts -/

/-- At every index, the bytes of a text are read as the text. -/
theorem decodeFrom_encode (index : Nat) (s : List Char) :
    decodeFrom index (encode s) = .ok s := by
  induction s generalizing index with
  | nil => exact decodeFrom_nil index
  | cons c s ih =>
    obtain ⟨b, bs, hc, hread⟩ := readChar_utf8EncodeChar c (encode s)
    rw [encode_cons, hc, List.cons_append, decodeFrom_cons_ok hread, ih]
    rfl

/-- **Round trip.** The UTF-8 bytes of a text are decoded as the text. -/
theorem decode_encode (s : List Char) : decode (encode s) = .ok s :=
  decodeFrom_encode 0 s

/-! ## what is decoded -/

/-- The lead bytes, by the number of continuation bytes that they announce. -/
theorem lead?_cases {b : UInt8} {l : Lead} (h : lead? b = some l) :
    (∃ n, n < 0x80 ∧ b = UInt8.ofNat n) ∨
      (∃ n, 2 ≤ n ∧ n < 0x20 ∧ b = UInt8.ofNat (n + 0xC0)) ∨
      (∃ n, n < 0x10 ∧ b = UInt8.ofNat (n + 0xE0)) ∨
      ∃ n, n < 5 ∧ b = UInt8.ofNat (n + 0xF0) := by
  have key : ∀ n : Fin 0x100, lead? (UInt8.ofNat n) ≠ none →
      n.val < 0x80 ∨ 0xC2 ≤ n.val ∧ n.val < 0xF5 := by decide +kernel
  have hof : ∀ k n, n + k = b.toNat → b = UInt8.ofNat (n + k) := by
    intro k n hn
    rw [hn, UInt8.ofNat_toNat]
  have hne : lead? (UInt8.ofNat b.toNat) ≠ none := by
    rw [UInt8.ofNat_toNat, h]
    exact Option.some_ne_none l
  have hrange : b.toNat < 0x80 ∨ 0xC2 ≤ b.toNat ∧ b.toNat < 0xF5 := key ⟨b.toNat, b.toNat_lt⟩ hne
  obtain hone | ⟨hlow, hhigh⟩ := hrange
  · exact .inl ⟨b.toNat, hone, UInt8.ofNat_toNat.symm⟩
  · by_cases htwo : b.toNat < 0xE0
    · exact .inr (.inl ⟨b.toNat - 0xC0, by omega, by omega, hof 0xC0 _ (by omega)⟩)
    · by_cases hthree : b.toNat < 0xF0
      · exact .inr (.inr (.inl ⟨b.toNat - 0xE0, by omega, hof 0xE0 _ (by omega)⟩))
      · exact .inr (.inr (.inr ⟨b.toNat - 0xF0, by omega, hof 0xF0 _ (by omega)⟩))

/-- A byte that continues a character adds six bits to its code point. -/
theorem readTail_succ_ok {code seen n code' : Nat} {low high : UInt8} {bs rest : List UInt8}
    (hcont : 0x80 ≤ low.toNat)
    (h : readTail code seen low high (n + 1) bs = .ok (code', rest)) :
    ∃ k bs', bs = UInt8.ofNat (k + 0x80) :: bs' ∧ low.toNat ≤ k + 0x80 ∧
      k + 0x80 ≤ high.toNat ∧
      readTail (code * 64 + k) (seen + 1) 0x80 0xBF n bs' = .ok (code', rest) := by
  cases bs with
  | nil => cases h
  | cons b bs =>
    rw [readTail] at h
    split at h
    · next hrange =>
      have hb : b.toNat - 0x80 + 0x80 = b.toNat :=
        Nat.sub_add_cancel (Nat.le_trans hcont hrange.1)
      refine ⟨b.toNat - 0x80, bs, ?_, ?_, ?_, h⟩
      · rw [hb, UInt8.ofNat_toNat]
      · rw [hb]
        exact hrange.1
      · rw [hb]
        exact hrange.2
    · cases h

/-- Past the second byte any six bits can follow. -/
theorem readTail_succ_full {code seen n code' : Nat} {bs rest : List UInt8}
    (h : readTail code seen 0x80 0xBF (n + 1) bs = .ok (code', rest)) :
    ∃ k bs', bs = UInt8.ofNat (k + 0x80) :: bs' ∧ k < 0x40 ∧
      readTail (code * 64 + k) (seen + 1) 0x80 0xBF n bs' = .ok (code', rest) := by
  have hcont : 0x80 ≤ (0x80 : UInt8).toNat := Nat.le_refl 0x80
  obtain ⟨k, bs', hbs, -, hhigh, hrest⟩ := readTail_succ_ok hcont h
  have hk : k + 0x80 ≤ 0xBF := hhigh
  exact ⟨k, bs', hbs, by omega, hrest⟩

/-- A character that is read is the one of the code point in its bytes. -/
theorem readChar_ok {b : UInt8} {bs rest : List UInt8} {c : Char} {l : Lead}
    (hl : lead? b = some l) (h : readChar b bs = .ok (c, rest)) :
    ∃ code, readTail l.bits 1 l.low l.high l.count bs = .ok (code, rest) ∧
      c = Char.ofNat code := by
  unfold readChar at h
  rw [hl] at h
  dsimp only at h
  split at h
  · next code rest' ht =>
    cases h
    exact ⟨code, ht, rfl⟩
  · cases h

/-- Code points that are no surrogates are those of characters. -/
theorem toNat_ofNat {n : Nat} (h : n < 0xD800 ∨ (0xDFFF < n ∧ n < 0x110000)) :
    (Char.ofNat n).val.toNat = n := by
  have hvalid : n.isValidChar := h
  rw [Char.ofNat, dif_pos hvalid]
  rfl

/-- A character is read from its own UTF-8 bytes and from no other ones. -/
theorem readChar_eq_ok {b : UInt8} {bs rest : List UInt8} {c : Char}
    (h : readChar b bs = .ok (c, rest)) : b :: bs = String.utf8EncodeChar c ++ rest := by
  obtain ⟨l, hl⟩ : ∃ l, lead? b = some l := by
    cases hl : lead? b with
    | none =>
      rw [readChar, hl] at h
      cases h
    | some l => exact ⟨l, rfl⟩
  -- one case for each number of bytes: they put the code point together six bits at a time,
  -- and encoding takes it apart into the same bits
  obtain ⟨n, hn, rfl⟩ | ⟨n, hlow, hn, rfl⟩ | ⟨n, hn, rfl⟩ | ⟨n, hn, rfl⟩ := lead?_cases hl
  · obtain ⟨code, ht, rfl⟩ := readChar_ok (lead?_one hn) h
    cases ht
    have hcode := toNat_ofNat (n := n) (by omega)
    rw [String.utf8EncodeChar, hcode, if_pos (by omega), List.singleton_append]
  · obtain ⟨code, ht, rfl⟩ := readChar_ok (lead?_two hn hlow) h
    obtain ⟨k, bs', rfl, hk, ht⟩ := readTail_succ_full ht
    cases ht
    have hcode := toNat_ofNat (n := n * 64 + k) (by omega)
    have hbits : (n * 64 + k) / 64 % 32 = n := by omega
    have hlast : (n * 64 + k) % 64 = k := by omega
    rw [String.utf8EncodeChar, hcode, if_neg (by omega), if_pos (by omega), hbits, hlast]
    rfl
  · obtain ⟨code, ht, rfl⟩ := readChar_ok (lead?_three hn) h
    have hcont : 0x80 ≤ (if n = 0 then 0xA0 else 0x80 : UInt8).toNat := by split <;> decide
    have hfull : (if n = 0xD then 0x9F else 0xBF : UInt8).toNat ≤ 0xBF := by split <;> decide
    obtain ⟨j, bs', rfl, hlow, hhigh, ht⟩ := readTail_succ_ok hcont ht
    obtain ⟨k, bs', rfl, hk, ht⟩ := readTail_succ_full ht
    cases ht
    have hj : j + 0x80 ≤ 0xBF := Nat.le_trans hhigh hfull
    -- the narrowed range of the second byte keeps out overlong forms and surrogates
    have hoverlong : n = 0 → 0xA0 ≤ j + 0x80 := by
      intro hn
      rw [if_pos hn] at hlow
      exact hlow
    have hsurrogate : n = 0xD → j + 0x80 ≤ 0x9F := by
      intro hn
      rw [if_pos hn] at hhigh
      exact hhigh
    have hcode := toNat_ofNat (n := (n * 64 + j) * 64 + k) (by omega)
    have hbits : ((n * 64 + j) * 64 + k) / 4096 % 16 = n := by omega
    have hmiddle : ((n * 64 + j) * 64 + k) / 64 % 64 = j := by omega
    have hlast : ((n * 64 + j) * 64 + k) % 64 = k := by omega
    rw [String.utf8EncodeChar, hcode, if_neg (by omega), if_neg (by omega), if_pos (by omega),
      hbits, hmiddle, hlast]
    rfl
  · obtain ⟨code, ht, rfl⟩ := readChar_ok (lead?_four hn) h
    have hcont : 0x80 ≤ (if n = 0 then 0x90 else 0x80 : UInt8).toNat := by split <;> decide
    have hfull : (if n = 4 then 0x8F else 0xBF : UInt8).toNat ≤ 0xBF := by split <;> decide
    obtain ⟨i, bs', rfl, hlow, hhigh, ht⟩ := readTail_succ_ok hcont ht
    obtain ⟨j, bs', rfl, hj, ht⟩ := readTail_succ_full ht
    obtain ⟨k, bs', rfl, hk, ht⟩ := readTail_succ_full ht
    cases ht
    have hi : i + 0x80 ≤ 0xBF := Nat.le_trans hhigh hfull
    have hoverlong : n = 0 → 0x90 ≤ i + 0x80 := by
      intro hn
      rw [if_pos hn] at hlow
      exact hlow
    have hlimit : n = 4 → i + 0x80 ≤ 0x8F := by
      intro hn
      rw [if_pos hn] at hhigh
      exact hhigh
    have hcode := toNat_ofNat (n := ((n * 64 + i) * 64 + j) * 64 + k) (by omega)
    have hbits : (((n * 64 + i) * 64 + j) * 64 + k) / 262144 % 8 = n := by omega
    have hfirst : (((n * 64 + i) * 64 + j) * 64 + k) / 4096 % 64 = i := by omega
    have hsecond : (((n * 64 + i) * 64 + j) * 64 + k) / 64 % 64 = j := by omega
    have hthird : (((n * 64 + i) * 64 + j) * 64 + k) % 64 = k := by omega
    rw [String.utf8EncodeChar, hcode, if_neg (by omega), if_neg (by omega), if_neg (by omega),
      hbits, hfirst, hsecond, hthird]
    rfl

/-- Bytes that are decoded are those of the text. -/
theorem encode_of_decodeFrom {index : Nat} {bs : List UInt8} {s : List Char}
    (h : decodeFrom index bs = .ok s) : encode s = bs := by
  fun_induction decodeFrom index bs generalizing s with
  | case1 =>
    cases h
    rfl
  | case2 => cases h
  | case3 index b bs c rest hread ih =>
    cases hrest : decodeFrom (index + c.utf8Size) rest with
    | error e =>
      rw [hrest] at h
      cases h
    | ok t =>
      rw [hrest] at h
      cases h
      rw [encode_cons, ih hrest, ← readChar_eq_ok hread]

/-- **What is decoded.** Bytes are decoded as a text exactly if they are its UTF-8
bytes; all other bytes are an error. -/
theorem decode_eq_ok_iff {bs : List UInt8} {s : List Char} :
    decode bs = .ok s ↔ encode s = bs := by
  constructor
  · exact encode_of_decodeFrom
  · rintro rfl
    exact decode_encode s

/-! ## where decoding stops -/

/-- The bytes start with a text in UTF-8 of this length, and with no longer one. -/
structure LongestText (bs : List UInt8) (length : Nat) : Prop where
  text : ∃ s, encode s <+: bs ∧ (encode s).length = length
  longest : ∀ s, encode s <+: bs → (encode s).length ≤ length

/-- Where a text stands in front, its first character is read. -/
theorem readChar_of_prefix {c : Char} {s : List Char} {b : UInt8} {bs : List UInt8}
    (h : encode (c :: s) <+: b :: bs) :
    ∃ rest, readChar b bs = .ok (c, rest) ∧ encode s <+: rest := by
  obtain ⟨behind, hbehind⟩ := h
  obtain ⟨lead, tail, hc, hread⟩ := readChar_utf8EncodeChar c (encode s ++ behind)
  rw [encode_cons, hc, List.append_assoc, List.cons_append, List.cons.injEq] at hbehind
  obtain ⟨rfl, rfl⟩ := hbehind
  exact ⟨encode s ++ behind, hread, List.prefix_append _ _⟩

/-- Where no character is read, the longest text in front is empty. -/
theorem LongestText.of_unread {b : UInt8} {bs : List UInt8} {f : Fault}
    (h : readChar b bs = .error f) : LongestText (b :: bs) 0 where
  text := ⟨[], List.nil_prefix, rfl⟩
  longest := by
    intro s hs
    cases s with
    | nil => exact Nat.le_refl 0
    | cons c s =>
      obtain ⟨rest, hread, -⟩ := readChar_of_prefix hs
      rw [h] at hread
      cases hread

/-- Behind a character that is read, the longest text goes on. -/
theorem LongestText.of_read {b : UInt8} {bs rest : List UInt8} {c : Char} {n : Nat}
    (hread : readChar b bs = .ok (c, rest)) (h : LongestText rest n) :
    LongestText (b :: bs) (c.utf8Size + n) where
  text := by
    obtain ⟨s, hs, hlength⟩ := h.text
    refine ⟨c :: s, ?_, ?_⟩
    · rw [readChar_eq_ok hread, encode_cons]
      exact (List.prefix_append_right_inj _).2 hs
    · rw [encode_cons, List.length_append, String.length_utf8EncodeChar, hlength]
  longest := by
    intro s hs
    cases s with
    | nil => exact Nat.zero_le _
    | cons c' s =>
      obtain ⟨rest', hread', hs⟩ := readChar_of_prefix hs
      rw [hread] at hread'
      cases hread'
      rw [encode_cons, List.length_append, String.length_utf8EncodeChar]
      exact Nat.add_le_add_left (h.longest s hs) _

/-- Decoding stops behind the longest text in front, from any index on. -/
theorem longestText_of_decodeFrom {index : Nat} {bs : List UInt8} {e : Error}
    (h : decodeFrom index bs = .error e) : ∃ n, e.index = index + n ∧ LongestText bs n := by
  fun_induction decodeFrom index bs with
  | case1 => cases h
  | case2 index b bs f hread =>
    cases h
    exact ⟨0, rfl, .of_unread hread⟩
  | case3 index b bs c rest hread ih =>
    obtain ⟨n, hindex, hlongest⟩ := ih (map_eq_error.1 h)
    exact ⟨c.utf8Size + n, by rw [hindex, Nat.add_assoc], .of_read hread hlongest⟩

/-- **Where decoding stops.** The index of an error is the length of the longest front that
is a text in UTF-8. -/
theorem longestText_of_decode {bs : List UInt8} {e : Error} (h : decode bs = .error e) :
    LongestText bs e.index := by
  obtain ⟨n, hindex, hlongest⟩ := longestText_of_decodeFrom h
  rw [hindex, Nat.zero_add]
  exact hlongest

/-- The text of an error ends with its index. -/
theorem Error.message_eq (e : Error) :
    ∃ what, e.message = what ++ " from index " ++ toString e.index := by
  obtain ⟨index, fault⟩ := e
  cases fault with
  | incomplete => exact ⟨"incomplete utf-8 byte sequence", rfl⟩
  | invalid n =>
    have hbytes : " bytes from index " = " bytes" ++ " from index " := by decide
    refine ⟨"invalid utf-8 sequence of " ++ toString n ++ " bytes", ?_⟩
    simp only [message, hbytes, String.append_assoc]

end Conneg.Text.Utf8
