/-!
# Conneg.Text.Utf8

UTF-8 over lists of bytes.

1. A character is a lead byte and up to three continuation bytes. `lead?` gives
   for a lead byte the bits it carries, the number of continuation bytes, and
   the range of the first of them: E0, ED, F0 and F4 narrow it, which excludes
   overlong forms, surrogates and values above U+10FFFF.
2. `decode` reads characters from the front. At the first index where none
   can be read it says why: the bytes end inside a character, or so many
   bytes from there on cannot start one.
3. `encode` writes the characters one after another.
-/

namespace Conneg.Text.Utf8

/-! ## encoding -/

/-- The UTF-8 bytes of a text. -/
def encode (s : List Char) : List UInt8 := s.flatMap String.utf8EncodeChar

/-- The number of UTF-8 bytes of a text. -/
def size : List Char → Nat
  | [] => 0
  | c :: s => c.utf8Size + size s

@[simp] theorem encode_nil : encode [] = [] := rfl

@[simp] theorem encode_cons (c : Char) (s : List Char) :
    encode (c :: s) = String.utf8EncodeChar c ++ encode s := by
  simp [encode]

/-- Texts are encoded one after another. -/
@[simp] theorem encode_append (s t : List Char) : encode (s ++ t) = encode s ++ encode t := by
  simp [encode]

/-- The size of a text is the number of its bytes. -/
@[simp] theorem length_encode (s : List Char) : (encode s).length = size s := by
  induction s with
  | nil => rfl
  | cons c s ih => simp [size, ih]

/-! ## decoding -/

/-- Why no character can be read at an index. -/
inductive Fault where
  /-- The bytes end inside a character. -/
  | incomplete
  /-- This many bytes are no start of a character. -/
  | invalid (length : Nat)
  deriving DecidableEq

/-- A decoding error: the length of the longest prefix that is valid, and what
is wrong after it. -/
structure Error where
  index : Nat
  fault : Fault
  deriving DecidableEq

/-- What a lead byte announces: its own bits, the number of continuation bytes
and the range of the first of them. -/
structure Lead where
  bits : Nat
  count : Nat
  low : UInt8
  high : UInt8
  deriving DecidableEq

/-- Reads a lead byte; continuation bytes, C0, C1 and F5 to FF are none. -/
def lead? (b : UInt8) : Option Lead :=
  if b < 0x80 then some ⟨b.toNat, 0, 0x80, 0xBF⟩
  else if b < 0xC2 then none
  else if b < 0xE0 then some ⟨b.toNat - 0xC0, 1, 0x80, 0xBF⟩
  else if b = 0xE0 then some ⟨0, 2, 0xA0, 0xBF⟩
  else if b = 0xED then some ⟨0xD, 2, 0x80, 0x9F⟩
  else if b < 0xF0 then some ⟨b.toNat - 0xE0, 2, 0x80, 0xBF⟩
  else if b = 0xF0 then some ⟨0, 3, 0x90, 0xBF⟩
  else if b < 0xF4 then some ⟨b.toNat - 0xF0, 3, 0x80, 0xBF⟩
  else if b = 0xF4 then some ⟨4, 3, 0x80, 0x8F⟩
  else none

/-- Reads `count` continuation bytes after `seen` bytes of the same character,
the first of them between `low` and `high`. -/
def readTail (code seen : Nat) (low high : UInt8) :
    (count : Nat) → List UInt8 → Except Fault (Nat × List UInt8)
  | 0, bs => .ok (code, bs)
  | _ + 1, [] => .error .incomplete
  | n + 1, b :: bs =>
      if low ≤ b ∧ b ≤ high then
        readTail (code * 64 + (b.toNat - 0x80)) (seen + 1) 0x80 0xBF n bs
      else .error (.invalid seen)

/-- Reads the character that starts with the lead byte `b`. -/
def readChar (b : UInt8) (bs : List UInt8) : Except Fault (Char × List UInt8) :=
  match lead? b with
  | none => .error (.invalid 1)
  | some l =>
      match readTail l.bits 1 l.low l.high l.count bs with
      | .ok (code, rest) => .ok (Char.ofNat code, rest)
      | .error f => .error f

/-- Reading on adds no bytes. -/
theorem length_of_readTail {code seen : Nat} {low high : UInt8} {n : Nat} {bs rest : List UInt8}
    {code' : Nat} (h : readTail code seen low high n bs = .ok (code', rest)) :
    rest.length ≤ bs.length := by
  fun_induction readTail code seen low high n bs with
  | case1 => simp_all
  | case2 => simp at h
  | case3 code seen low high n b bs hb ih => exact Nat.le_succ_of_le (ih h)
  | case4 => simp at h

/-- A character takes its first byte and leaves at most the others. -/
theorem length_of_readChar {b : UInt8} {bs rest : List UInt8} {c : Char}
    (h : readChar b bs = .ok (c, rest)) : rest.length ≤ bs.length := by
  unfold readChar at h
  split at h
  · simp at h
  · split at h
    · next heq =>
      simp only [Except.ok.injEq, Prod.mk.injEq] at h
      exact h.2 ▸ length_of_readTail heq
    · simp at h

/-- Decodes from the byte at `index` on. -/
def decodeFrom (index : Nat) (bytes : List UInt8) : Except Error (List Char) :=
  match bytes with
  | [] => .ok []
  | b :: bs =>
      match _h : readChar b bs with
      | .error f => .error ⟨index, f⟩
      | .ok (c, rest) => (decodeFrom (index + c.utf8Size) rest).map (c :: ·)
termination_by bytes.length
decreasing_by exact Nat.lt_succ_of_le (length_of_readChar ‹_›)

/-- The text whose UTF-8 bytes are given, or the first error. -/
def decode (bytes : List UInt8) : Except Error (List Char) := decodeFrom 0 bytes

/-- The text of a decoding error. -/
def Error.message (e : Error) : String :=
  match e.fault with
  | .incomplete => "incomplete utf-8 byte sequence from index " ++ toString e.index
  | .invalid n =>
      "invalid utf-8 sequence of " ++ toString n ++ " bytes from index " ++ toString e.index

/-! ## reading by cases -/

@[simp] theorem decodeFrom_nil (index : Nat) : decodeFrom index [] = .ok [] := by
  rw [decodeFrom]

/-- Behind a character decoding goes on, and positions count its bytes. -/
theorem decodeFrom_cons_ok {index : Nat} {b : UInt8} {bs rest : List UInt8} {c : Char}
    (h : readChar b bs = .ok (c, rest)) :
    decodeFrom index (b :: bs) = (decodeFrom (index + c.utf8Size) rest).map (c :: ·) := by
  rw [decodeFrom]
  split
  · next h' => rw [h] at h'; cases h'
  · next h' => rw [h] at h'; cases h'; rfl

end Conneg.Text.Utf8
