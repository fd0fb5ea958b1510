import Conneg.Header.Map
import Conneg.Text.Utf8

/-!
# Conneg.Proofs.ByteOrder

The order of texts is the order of their UTF-8 bytes.

1. `utf8EncodeChar_lt`: the bytes of a smaller character differ from those of a larger
   one, and the first byte that differs is smaller. More continuation bytes are
   announced by a larger lead byte.
2. `encode_lt_encode`: so the bytes of texts are in the order of the texts.
3. The headers of a map are in the byte order of their names
   (`HeaderMap.pairwise_bytes`).
-/

namespace Conneg.Text.Utf8

/-! ## bytes -/

section

variable {xs ys : List UInt8}

/-- The first byte that differs decides. -/
theorem cons_lt_of_lt {m n : Nat} (hn : n < 0x100) (h : m < n) :
    UInt8.ofNat m :: xs < UInt8.ofNat n :: ys := by
  have hbyte : UInt8.ofNat m < UInt8.ofNat n := by
    rw [UInt8.lt_iff_toNat_lt, UInt8.toNat_ofNat', UInt8.toNat_ofNat']
    omega
  exact List.cons_lt_cons_iff.2 (.inl hbyte)

/-- Equal first bytes leave it to the others. -/
theorem cons_lt_of_eq {b : UInt8} (h : xs < ys) : b :: xs < b :: ys :=
  List.cons_lt_cons_iff.2 (.inr ⟨rfl, h⟩)

end

/-- The first bytes that differ are in the order of the characters. -/
theorem utf8EncodeChar_lt {c d : Char} (h : c < d) (xs ys : List UInt8) :
    String.utf8EncodeChar c ++ xs < String.utf8EncodeChar d ++ ys := by
  have hlt : c.val.toNat < d.val.toNat := h
  have hc := c.valid
  have hd := d.valid
  -- more bytes start with a greater one; of as many bytes, the first six bits that differ decide
  fun_cases String.utf8EncodeChar c with
  | case1 v hv =>
    fun_cases String.utf8EncodeChar d with
    | case1 w hw => exact cons_lt_of_lt (by omega) (by omega)
    | case2 w => exact cons_lt_of_lt (by omega) (by omega)
    | case3 w => exact cons_lt_of_lt (by omega) (by omega)
    | case4 w => exact cons_lt_of_lt (by omega) (by omega)
  | case2 v h1 h2 =>
    fun_cases String.utf8EncodeChar d with
    | case1 w => omega
    | case2 w =>
      obtain hlead | ⟨hlead, hlast⟩ : v / 64 % 0x20 < w / 64 % 0x20 ∨
          v / 64 % 0x20 = w / 64 % 0x20 ∧ v % 0x40 < w % 0x40 := by omega
      · exact cons_lt_of_lt (by omega) (by omega)
      · rw [hlead]
        exact cons_lt_of_eq (cons_lt_of_lt (by omega) (by omega))
    | case3 w => exact cons_lt_of_lt (by omega) (by omega)
    | case4 w => exact cons_lt_of_lt (by omega) (by omega)
  | case3 v h1 h2 h3 =>
    fun_cases String.utf8EncodeChar d with
    | case1 w => omega
    | case2 w => omega
    | case3 w =>
      obtain hlead | ⟨hlead, hmiddle | ⟨hmiddle, hlast⟩⟩ :
          v / 4096 % 0x10 < w / 4096 % 0x10 ∨ v / 4096 % 0x10 = w / 4096 % 0x10 ∧
            (v / 64 % 0x40 < w / 64 % 0x40 ∨
              v / 64 % 0x40 = w / 64 % 0x40 ∧ v % 0x40 < w % 0x40) := by omega
      · exact cons_lt_of_lt (by omega) (by omega)
      · rw [hlead]
        exact cons_lt_of_eq (cons_lt_of_lt (by omega) (by omega))
      · rw [hlead, hmiddle]
        exact cons_lt_of_eq (cons_lt_of_eq (cons_lt_of_lt (by omega) (by omega)))
    | case4 w => exact cons_lt_of_lt (by omega) (by omega)
  | case4 v h1 h2 h3 =>
    fun_cases String.utf8EncodeChar d with
    | case1 w => omega
    | case2 w => omega
    | case3 w => omega
    | case4 w =>
      obtain hlead | ⟨hlead, hfirst | ⟨hfirst, hsecond | ⟨hsecond, hlast⟩⟩⟩ :
          v / 262144 % 0x08 < w / 262144 % 0x08 ∨ v / 262144 % 0x08 = w / 262144 % 0x08 ∧
            (v / 4096 % 0x40 < w / 4096 % 0x40 ∨ v / 4096 % 0x40 = w / 4096 % 0x40 ∧
              (v / 64 % 0x40 < w / 64 % 0x40 ∨
                v / 64 % 0x40 = w / 64 % 0x40 ∧ v % 0x40 < w % 0x40)) := by
        have hv : v / 262144 = v / 4096 / 64 := (Nat.div_div_eq_div_mul v 4096 64).symm
        have hw : w / 262144 = w / 4096 / 64 := (Nat.div_div_eq_div_mul w 4096 64).symm
        have hv' : v / 4096 = v / 64 / 64 := (Nat.div_div_eq_div_mul v 64 64).symm
        have hw' : w / 4096 = w / 64 / 64 := (Nat.div_div_eq_div_mul w 64 64).symm
        have hvlead : v / 262144 % 0x08 = v / 262144 := by omega
        have hwlead : w / 262144 % 0x08 = w / 262144 := by omega
        omega
      · exact cons_lt_of_lt (by omega) (by omega)
      · rw [hlead]
        exact cons_lt_of_eq (cons_lt_of_lt (by omega) (by omega))
      · rw [hlead, hfirst]
        exact cons_lt_of_eq (cons_lt_of_eq (cons_lt_of_lt (by omega) (by omega)))
      · rw [hlead, hfirst, hsecond]
        exact cons_lt_of_eq (cons_lt_of_eq (cons_lt_of_eq (cons_lt_of_lt (by omega) (by omega))))

/-- A common front does not change the order. -/
theorem append_lt_append {xs ys : List UInt8} (front : List UInt8) (h : xs < ys) :
    front ++ xs < front ++ ys := by
  induction front with
  | nil => exact h
  | cons b front ih => exact cons_lt_of_eq ih

/-- **Byte order.** Texts are in the order of their UTF-8 bytes. -/
theorem encode_lt_encode {s t : List Char} (h : s < t) : encode s < encode t := by
  induction s generalizing t with
  | nil =>
    cases t with
    | nil => exact absurd h (List.lt_irrefl [])
    | cons d t =>
      obtain ⟨b, bs, hd⟩ : ∃ b bs, String.utf8EncodeChar d = b :: bs := by
        fun_cases String.utf8EncodeChar d <;> exact ⟨_, _, rfl⟩
      rw [encode_cons, hd]
      exact List.Lex.nil
  | cons c s ih =>
    cases t with
    | nil => cases h
    | cons d t =>
      rw [encode_cons, encode_cons]
      obtain hlt | ⟨rfl, hlt⟩ := List.cons_lt_cons_iff.1 h
      · exact utf8EncodeChar_lt hlt _ _
      · exact append_lt_append _ (ih hlt)

end Conneg.Text.Utf8

namespace Conneg.HeaderMap

open Text

/-- The bytes of the names increase, so no name occurs twice. -/
theorem pairwise_bytes (m : HeaderMap) :
    (m.entries.map fun e => Utf8.encode e.1.toList).Pairwise (· < ·) := by
  rw [List.pairwise_map]
  refine m.ordered.imp fun h => ?_
  exact Utf8.encode_lt_encode h

end Conneg.HeaderMap
