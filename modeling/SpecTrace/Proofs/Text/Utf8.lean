import Mathlib.Tactic.IntervalCases
import SpecTrace.Text.Utf8

/-! The bytes of a text are decoded to the text they came from. -/

namespace SpecTrace.Utf8

/-- A byte that is small enough keeps its value; the bound is spelled out for linear arithmetic. -/
private theorem toNat_ofNat {n : Nat} (small : n < 256) : (UInt8.ofNat n).toNat = n :=
  UInt8.toNat_ofNat_of_lt' small

/-- Decoding goes on with the next byte. -/
theorem decodeFrom_cons (state : Utf8State) (b : UInt8) (rest : List UInt8) :
    decodeFrom state (b :: rest) =
      (step state b.toNat).1 ++ decodeFrom (step state b.toNat).2 rest := by
  cases state <;> rfl

/-- A byte in range continues a character. -/
theorem step_inside {wanted low high code b : Nat} (range : low ≤ b ∧ b ≤ high) :
    step (.inside wanted low high code) b =
      if wanted ≤ 1 then ([some (Char.ofNat (code * 64 + (b - 0x80)))], .idle)
      else ([], .inside (wanted - 1) 0x80 0xBF (code * 64 + (b - 0x80))) := by
  simp [step, range]

/-- The last byte of a character adds its bits to those before. -/
theorem decodeFrom_last {low high code bits : Nat} (range : low ≤ bits + 0x80 ∧ bits + 0x80 ≤ high)
    (small : bits < 64) (rest : List UInt8) :
    decodeFrom (.inside 1 low high code) (UInt8.ofNat (bits + 0x80) :: rest) =
      some (Char.ofNat (code * 64 + bits)) :: decodeFrom .idle rest := by
  -- The byte is in range, and no other byte is wanted.
  rw [decodeFrom_cons, toNat_ofNat (by omega), step_inside range]
  simp

/-- Every other byte after the first adds its bits and leaves one byte less to come. -/
theorem decodeFrom_inner {wanted low high code bits : Nat}
    (range : low ≤ bits + 0x80 ∧ bits + 0x80 ≤ high) (small : bits < 64) (rest : List UInt8) :
    decodeFrom (.inside (wanted + 2) low high code) (UInt8.ofNat (bits + 0x80) :: rest) =
      decodeFrom (.inside (wanted + 1) 0x80 0xBF (code * 64 + bits)) rest := by
  -- The byte is in range, and the next one may be any byte that continues a character.
  rw [decodeFrom_cons, toNat_ofNat (by omega), step_inside range]
  simp

/-- The first of two bytes. -/
theorem first_two {bits : Nat} (range : 2 ≤ bits ∧ bits < 32) :
    first (bits + 0xC0) = ([], .inside 1 0x80 0xBF bits) := by
  unfold first
  rw [if_neg (by omega), if_pos (by omega), Nat.add_sub_cancel]

/-- The first of three bytes narrows the range of the second, so that neither a shorter spelling
nor a surrogate can follow. -/
theorem first_three {bits : Nat} (small : bits < 16) :
    first (bits + 0xE0) =
      ([], .inside 2 (if bits = 0 then 0xA0 else 0x80) (if bits = 13 then 0x9F else 0xBF) bits) := by
  -- Sixteen first bytes, each checked against the ranges that the decoder tests.
  interval_cases bits <;> rfl

/-- The first of four bytes narrows the range of the second, so that neither a shorter spelling
nor a number beyond the last character can follow. -/
theorem first_four {bits : Nat} (small : bits < 5) :
    first (bits + 0xF0) =
      ([], .inside 3 (if bits = 0 then 0x90 else 0x80) (if bits = 4 then 0x8F else 0xBF) bits) := by
  -- Five first bytes, each checked against the ranges that the decoder tests.
  interval_cases bits <;> rfl

/-- The bytes of a character are decoded to it. -/
theorem decodeFrom_char (c : Char) (rest : List UInt8) :
    decodeFrom .idle (String.utf8EncodeChar c ++ rest) = some c :: decodeFrom .idle rest := by
  have valid : c.toNat < 0xD800 ∨ 0xDFFF < c.toNat ∧ c.toNat < 0x110000 := c.valid
  have same : Char.ofNat c.toNat = c := Char.ofNat_toNat c
  have value : c.val.toNat = c.toNat := rfl
  unfold String.utf8EncodeChar
  simp only [value]
  generalize c.toNat = v at valid same
  -- One case for each number of bytes.
  split
  · rename_i one
    rw [List.singleton_append, decodeFrom_cons, toNat_ofNat (by omega)]
    simp [step, first, show v < 128 by omega, same]
  · rename_i notOne
    split
    · rename_i two
      -- The first byte is at least the third of its range, since one byte would not do.
      have high : v / 64 % 32 = v / 64 := by omega
      rw [high, List.cons_append, List.singleton_append, decodeFrom_cons, toNat_ofNat (by omega)]
      simp only [step]
      rw [first_two (by omega), List.nil_append, decodeFrom_last (by omega) (by omega)]
      rw [show v / 64 * 64 + v % 64 = v by omega, same]
    · rename_i notTwo
      split
      · rename_i three
        -- The second byte is in its narrow range: two bytes would not do, and no surrogate occurs.
        have high : v / 4096 % 16 = v / 4096 := by omega
        rw [high]
        simp only [List.cons_append, List.nil_append]
        rw [decodeFrom_cons, toNat_ofNat (by omega)]
        simp only [step]
        rw [first_three (by omega), List.nil_append, decodeFrom_inner (by split <;> split <;> omega)
          (by omega), decodeFrom_last (by omega) (by omega)]
        rw [show (v / 4096 * 64 + v / 64 % 64) * 64 + v % 64 = v by omega, same]
      · -- The second byte is in its narrow range, since there is a last character.
        have high : v / 262144 % 8 = v / 262144 := by omega
        rw [high]
        simp only [List.cons_append, List.nil_append]
        rw [decodeFrom_cons, toNat_ofNat (by omega)]
        simp only [step]
        rw [first_four (by omega), List.nil_append, decodeFrom_inner (by split <;> split <;> omega)
          (by omega), decodeFrom_inner (by omega) (by omega), decodeFrom_last (by omega) (by omega)]
        rw [show ((v / 262144 * 64 + v / 4096 % 64) * 64 + v / 64 % 64) * 64 + v % 64 = v by omega,
          same]

/-- The bytes of a text are decoded to it, without a mark. -/
theorem decode_encode (text : List Char) : decode (encode text) = text.map some := by
  unfold decode encode
  -- One character after the other, each from between characters.
  induction text with
  | nil => rfl
  | cons c rest ih => rw [List.flatMap_cons, decodeFrom_char, ih, List.map_cons]

/-- Only the one byte of an ASCII character is below the first byte of longer encodings. -/
theorem eq_of_mem_utf8EncodeChar {c : Char} {b : UInt8} (member : b ∈ String.utf8EncodeChar c)
    (ascii : b.toNat < 0x80) : String.utf8EncodeChar c = [b] ∧ c.toNat = b.toNat := by
  have valid : c.toNat < 0xD800 ∨ 0xDFFF < c.toNat ∧ c.toNat < 0x110000 := c.valid
  have value : c.val.toNat = c.toNat := rfl
  unfold String.utf8EncodeChar at member ⊢
  simp only [value] at member ⊢
  generalize c.toNat = v at valid member ⊢
  -- All bytes of a longer encoding have their highest bit.
  split_ifs at member ⊢ with one two three
  · rw [List.mem_singleton] at member
    subst member
    exact ⟨rfl, by simp; omega⟩
  all_goals
    simp only [List.mem_cons, List.not_mem_nil, or_false] at member
    rcases member with rfl | rfl | rfl | rfl <;> simp at ascii <;> omega

end SpecTrace.Utf8
