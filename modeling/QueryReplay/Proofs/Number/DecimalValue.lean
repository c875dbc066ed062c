import Mathlib.Data.Rat.Floor
import QueryReplay.Number.Decimal

/-!
# The number that a decimal stands for

This file reads a decimal as a rational number, and cuts rational numbers
toward zero.  Division of integers that leaves out the remainder cuts their
quotient toward zero, so the integer part of a decimal is the number that it
stands for, cut toward zero.
-/

namespace QueryReplay

/-! ## Cutting toward zero -/

/-- A rational number without what stands behind the point. -/
def towardZero (q : ℚ) : ℤ :=
  if 0 ≤ q then ⌊q⌋ else ⌈q⌉

theorem towardZero_intCast (i : ℤ) : towardZero i = i := by
  rw [towardZero, Int.floor_intCast, Int.ceil_intCast, ite_self]

theorem towardZero_div (n : ℤ) {m : ℕ} (hm : 0 < m) : towardZero (n / m) = n.tdiv m := by
  have hm' : (0 : ℚ) < m := Nat.cast_pos.mpr hm
  by_cases hn : 0 ≤ n
  · have hq : (0 : ℚ) ≤ n / m := div_nonneg (Int.cast_nonneg hn) hm'.le
    rw [towardZero, if_pos hq, Rat.floor_intCast_div_natCast, Int.tdiv_eq_ediv_of_nonneg hn]
  · have hneg : n < 0 := not_le.mp hn
    have hq : ¬(0 : ℚ) ≤ n / m := not_le.mpr (div_neg_of_neg_of_pos (Int.cast_lt_zero.mpr hneg) hm')
    have hflip : n.tdiv m = -((-n).tdiv m) := by rw [Int.neg_tdiv, neg_neg]
    rw [towardZero, if_neg hq, Rat.ceil_intCast_div_natCast, hflip,
      Int.tdiv_eq_ediv_of_nonneg (by omega)]

/-- Cutting twice is cutting once by the product. -/
theorem tdiv_tdiv (n : ℤ) (a b : ℕ) : (n.tdiv a).tdiv b = n.tdiv (a * b) := by
  obtain ⟨k, rfl | rfl⟩ := n.eq_nat_or_neg
  · rw [← Int.ofNat_tdiv, ← Int.ofNat_tdiv, Nat.div_div_eq_div_mul, Int.ofNat_tdiv, Nat.cast_mul]
  · rw [Int.neg_tdiv, Int.neg_tdiv, Int.neg_tdiv, ← Int.ofNat_tdiv, ← Int.ofNat_tdiv,
      Nat.div_div_eq_div_mul, Int.ofNat_tdiv, Nat.cast_mul]

namespace Decimal

/-- The rational number that a decimal stands for. -/
def toRat (d : Decimal) : ℚ :=
  d.unscaled / 10 ^ d.scale

theorem towardZero_toRat (d : Decimal) : towardZero d.toRat = d.truncate := by
  have h := towardZero_div d.unscaled (Nat.pow_pos (n := d.scale) (show 0 < 10 by decide))
  push_cast at h
  exact h

end Decimal

end QueryReplay
