import Mathlib.Algebra.Order.Field.Power
import Mathlib.Tactic.Ring
import QueryReplay.Proofs.Number.DecimalValue
import QueryReplay.Proofs.Text.Numeral

/-!
# The number that a double stands for

This file reads a finite double as a rational number: a signed multiple of a
power of two.  The quotient of naturals that the integer part is taken from is
that number, whichever side of zero the exponent lies on, so the integer part
of a finite double is the number that it stands for, cut toward zero.  Doubles
whose exponent has all its bits set stand for no number.

A double has 53 digits of base two, so one with many more in front of the point
ends in zeros there.
-/

namespace QueryReplay

theorem towardZero_neg (q : ℚ) : towardZero (-q) = -towardZero q := by
  rcases lt_trichotomy q 0 with hneg | rfl | hpos
  · rw [towardZero, if_pos (neg_nonneg.mpr hneg.le), towardZero, if_neg (not_le.mpr hneg),
      Int.floor_neg]
  · rfl
  · rw [towardZero, if_neg (not_le.mpr (neg_neg_of_pos hpos)), towardZero, if_pos hpos.le,
      Int.ceil_neg]

namespace Binary64

/-- The rational number that the bits of a double stand for, if it is finite. -/
def toRat? (x : Binary64) : Option ℚ :=
  match x.reading with
  | .finite negative coefficient exponent =>
    some ((if negative then -1 else 1) * (coefficient * (2 : ℚ) ^ exponent))
  | _ => none

/-- Doubles with all bits of the exponent set are infinite or no numbers, and the others are
finite. -/
theorem toRat?_eq_none_iff {x : Binary64} : x.toRat? = none ↔ x.exponentField = 2047 := by
  have hreading : ∀ r, x.reading = r → (x.toRat? = none ↔
      ∀ negative coefficient exponent, r ≠ .finite negative coefficient exponent) := by
    rintro r rfl
    unfold toRat?
    cases x.reading with
    | finite negative coefficient exponent => simp
    | infinite negative => simp
    | nan => simp
  rw [hreading _ rfl, reading]
  split_ifs with hsmall hlarge hfraction
  · simp [hsmall]
  · simp [hlarge]
  · simp [hlarge]
  · simp [hlarge]

/-- A power of two moves to the side of the quotient where its exponent is not negative. -/
theorem two_zpow_eq (exponent : ℤ) :
    (2 : ℚ) ^ exponent = ((2 ^ exponent.toNat : ℕ) : ℚ) / ((2 ^ (-exponent).toNat : ℕ) : ℚ) := by
  have htwo : (2 : ℚ) ≠ 0 := by norm_num
  push_cast
  rw [← zpow_natCast, ← zpow_natCast, ← zpow_sub₀ htwo]
  congr 1
  omega

theorem towardZero_mul_zpow (coefficient : ℕ) (exponent : ℤ) :
    towardZero (coefficient * (2 : ℚ) ^ exponent) = wholePart coefficient exponent := by
  have hden : 0 < 2 ^ (-exponent).toNat := Nat.pow_pos (by decide)
  have hcut := towardZero_div ((coefficient * 2 ^ exponent.toNat : ℕ) : ℤ) hden
  rw [← Int.ofNat_tdiv, Int.cast_natCast] at hcut
  rw [two_zpow_eq, ← mul_div_assoc, ← Nat.cast_mul]
  exact hcut

/-- The integer part of a finite double is its number, cut toward zero. -/
theorem truncate?_eq (x : Binary64) : x.truncate? = x.toRat?.map towardZero := by
  unfold truncate? toRat?
  cases x.reading with
  | finite negative coefficient exponent =>
      have hcut := towardZero_mul_zpow coefficient exponent
      cases negative with
      | false => simp [Numeral.withSign, hcut]
      | true => simp [Numeral.withSign, towardZero_neg, hcut]
  | infinite negative => rfl
  | nan => rfl

/-! ## Large doubles -/

theorem coefficient_lt {x : Binary64} {negative : Bool} {coefficient : ℕ} {exponent : ℤ}
    (h : x.reading = .finite negative coefficient exponent) : coefficient < 2 ^ 53 := by
  have hfraction : x.fractionField < 2 ^ 52 := Nat.mod_lt _ (by decide)
  unfold reading at h
  split_ifs at h
  · cases h
    omega
  · cases h
    omega

/-- Beyond `2 ^ 127` the exponent is so large that nothing is cut off, and that the last bits are
not set. -/
theorem dvd_wholePart {coefficient : ℕ} {exponent : ℤ} (hcoefficient : coefficient < 2 ^ 53)
    (hlarge : 2 ^ 127 ≤ wholePart coefficient exponent) :
    2 ^ 64 ∣ wholePart coefficient exponent := by
  have hexponent : 74 < exponent.toNat := by
    by_contra hsmall
    have hpower : 2 ^ exponent.toNat ≤ 2 ^ 74 :=
      Nat.pow_le_pow_right (by decide) (not_lt.mp hsmall)
    have hbound : wholePart coefficient exponent < 2 ^ 127 := by
      calc wholePart coefficient exponent
          ≤ coefficient * 2 ^ exponent.toNat := Nat.div_le_self _ _
        _ ≤ coefficient * 2 ^ 74 := Nat.mul_le_mul_left _ hpower
        _ < 2 ^ 53 * 2 ^ 74 := Nat.mul_lt_mul_of_pos_right hcoefficient (by decide)
        _ = 2 ^ 127 := by decide
    exact absurd hlarge (not_le.mpr hbound)
  have hwhole : wholePart coefficient exponent = coefficient * 2 ^ exponent.toNat := by
    rw [wholePart, show (-exponent).toNat = 0 by omega, pow_zero, Nat.div_one]
  rw [hwhole]
  exact Dvd.dvd.mul_left (pow_dvd_pow 2 (by omega)) coefficient

/-- The integer part of a large double is a multiple of `2 ^ 64`. -/
theorem dvd_towardZero_of_large {x : Binary64} {q : ℚ} (hq : x.toRat? = some q)
    (hlarge : 2 ^ 127 ≤ (towardZero q).natAbs) : 2 ^ 64 ∣ towardZero q := by
  have htruncate : x.truncate? = some (towardZero q) := by
    rw [truncate?_eq, hq, Option.map_some]
  unfold truncate? at htruncate
  split at htruncate
  next negative coefficient exponent hreading =>
    have hwhole : (towardZero q).natAbs = wholePart coefficient exponent := by
      rw [← Option.some.inj htruncate, Numeral.natAbs_withSign]
    rw [hwhole] at hlarge
    have hdvd := dvd_wholePart (coefficient_lt hreading) hlarge
    rw [← hwhole] at hdvd
    exact Int.natCast_dvd.mpr hdvd
  next => cases htruncate

end Binary64

end QueryReplay
