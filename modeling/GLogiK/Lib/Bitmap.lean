import Mathlib.Data.Nat.Bitwise
import Mathlib.Data.UInt

/-!
# Bitmaps

Bytes that hold one bit after another, the most significant bit of each byte first. A bitmap whose
rows fill whole bytes is such a row of bits.
-/

namespace Bitmap

variable {data : List UInt8} {i p k : ℕ}

/-- Bit `p` of the bytes. -/
def bitAt (data : List UInt8) (p : ℕ) : Bool := (data.getD (p / 8) 0).toNat.testBit (7 - p % 8)

/-- A number that is stored in a byte. -/
lemma testBit_toNat_ofNat (n k : ℕ) :
    (UInt8.ofNat n).toNat.testBit k = (decide (k < 8) && n.testBit k) := by
  rw [UInt8.toNat_ofNat']
  exact Nat.testBit_mod_two_pow n 8 k

/-- There are eight bits in a byte. -/
lemma testBit_byte_of_le (b : UInt8) (hk : 8 ≤ k) : b.toNat.testBit k = false :=
  Nat.testBit_lt_two_pow (b.toNat_lt.trans_le (Nat.pow_le_pow_right (by decide) hk))

lemma bitAt_modify (f : UInt8 → UInt8) (hi : i < data.length) :
    bitAt (data.modify i f) p =
      if p / 8 = i then (f (data.getD i 0)).toNat.testBit (7 - p % 8) else bitAt data p := by
  rw [bitAt, List.getD_eq_getElem?_getD, List.getElem?_modify]
  by_cases hp : p / 8 = i
  · rw [if_pos hp, hp, List.getElem?_eq_getElem hi, List.getD_eq_getElem data 0 hi]
    simp
  · rw [if_neg hp, bitAt, List.getD_eq_getElem?_getD]
    simp [Ne.symm hp]

/-! ### Bytes that are changed -/

lemma bitAt_modify_const (m : ℕ) (hi : i < data.length) :
    bitAt (data.modify i fun _ => .ofNat m) p =
      if p / 8 = i then m.testBit (7 - p % 8) else bitAt data p := by
  have hbit : 7 - p % 8 < 8 := by omega
  rw [bitAt_modify _ hi, testBit_toNat_ofNat, decide_eq_true hbit, Bool.true_and]

lemma bitAt_modify_and (m : ℕ) (hi : i < data.length) :
    bitAt (data.modify i fun byte => .ofNat (byte.toNat &&& m)) p =
      (bitAt data p && (decide (p / 8 ≠ i) || m.testBit (7 - p % 8))) := by
  have hbit : 7 - p % 8 < 8 := by omega
  rw [bitAt_modify _ hi, testBit_toNat_ofNat, decide_eq_true hbit, Bool.true_and, Nat.testBit_and]
  by_cases hp : p / 8 = i
  · rw [if_pos hp, bitAt, hp, decide_eq_false (not_not_intro rfl), Bool.false_or]
  · rw [if_neg hp, decide_eq_true hp, Bool.true_or, Bool.and_true]

lemma bitAt_modify_or (m : ℕ) (hi : i < data.length) :
    bitAt (data.modify i fun byte => .ofNat (byte.toNat ||| m)) p =
      (bitAt data p || (decide (p / 8 = i) && m.testBit (7 - p % 8))) := by
  have hbit : 7 - p % 8 < 8 := by omega
  rw [bitAt_modify _ hi, testBit_toNat_ofNat, decide_eq_true hbit, Bool.true_and, Nat.testBit_or]
  by_cases hp : p / 8 = i
  · rw [if_pos hp, bitAt, hp, decide_eq_true rfl, Bool.true_and]
  · rw [if_neg hp, decide_eq_false hp, Bool.false_and, Bool.or_false]
/-! ### Columns of bits -/

/-- The lowest bits of numbers, one above another. -/
def packBits (f : ℕ → ℕ) (n : ℕ) : ℕ :=
  ((List.range n).map fun k => (f k &&& 1) <<< k).foldl (· ||| ·) 0

lemma testBit_packBits (f : ℕ → ℕ) (n k : ℕ) :
    (packBits f n).testBit k = (decide (k < n) && (f k).testBit 0) := by
  induction n with
  | zero => simp [packBits]
  | succ n ih =>
    have hstep : packBits f (n + 1) = packBits f n ||| (f n &&& 1) <<< n := by
      simp [packBits, List.range_succ]
    rw [hstep, Nat.testBit_lor, ih, Nat.testBit_shiftLeft]
    rcases lt_trichotomy k n with hlt | rfl | hgt
    · simp [hlt, Nat.lt_succ_of_lt hlt, not_le.mpr hlt]
    · simp
    · have hone : (f n &&& 1).testBit (k - n) = false := by
        rw [Nat.and_one_is_mod]
        exact Nat.testBit_lt_two_pow
          ((Nat.mod_lt _ Nat.two_pos).trans_le (Nat.le_self_pow (Nat.sub_ne_zero_of_lt hgt) 2))
      rw [hone, Bool.and_false, Bool.or_false, decide_eq_false hgt.not_gt,
        decide_eq_false (Nat.not_lt.mpr hgt), Bool.false_and]

end Bitmap
