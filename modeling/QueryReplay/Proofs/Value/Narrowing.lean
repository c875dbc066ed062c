import QueryReplay.Proofs.Number.BinaryValue
import QueryReplay.Proofs.Number.DecimalOrigins

/-!
# Numbers read as integers of fixed width

An integer, a decimal or a finite double stands for an exact number.  Read as
an integer of 64 or 32 bits, it is this number cut toward zero and then reduced
to the width, with as many bits of two's complement kept as there is room for.
What kind of value carries the number makes no difference.

On the way the integer part has to fit sixteen bytes.  Integers and decimals
always do.  A double that does not is moved to the nearest integer that fits
before it is reduced.  Below `-2 ^ 127` this changes nothing, since the last
bits of so large a double are not set, and neither are those of `-2 ^ 127`.
From `2 ^ 127` on it does: such doubles are read as `-1`.
-/

namespace QueryReplay.Value

open Decimal (Fits)

/-- The exact number that an integer, a decimal or a finite double stands for. -/
def number? : Value → Option ℚ
  | .int32 i => some i.toInt
  | .int64 i => some i.toInt
  | .decimal d => some d.toRat
  | .float64 x => x.toRat?
  | _ => none

/-- Read as an integer of 64 or of 32 bits, the value is the integer of that width that differs
from `n` by a multiple of `2 ^ 64` or `2 ^ 32`. -/
def NarrowsTo (v : Value) (n : ℤ) : Prop :=
  ∃ (i : Int64) (j : Int32), v.coerce .int64 = .ok (.int64 i) ∧ i.toInt = n.bmod (2 ^ 64) ∧
    v.coerce .int32 = .ok (.int32 j) ∧ j.toInt = n.bmod (2 ^ 32)

/-! ## The nearest integer that fits -/

theorem clamp_of_fits {i : ℤ} (h : Fits i) : clamp i = i := by
  obtain ⟨hlow, hhigh⟩ := h
  unfold clamp
  omega

theorem clamp_of_ge {i : ℤ} (h : 2 ^ 127 ≤ i) : clamp i = 2 ^ 127 - 1 := by
  unfold clamp
  omega

theorem clamp_of_lt {i : ℤ} (h : i < -2 ^ 127) : clamp i = -2 ^ 127 := by
  unfold clamp
  omega

/-! ## The integer part of a number -/

/-- Integers and decimals have an integer part that fits. -/
theorem fits_of_number {v : Value} {q : ℚ} (hv : v.WellFormed) (hq : v.number? = some q)
    (hexact : ∀ x, v ≠ .float64 x) : Fits (towardZero q) := by
  cases v with
  | int32 i =>
      cases hq
      rw [towardZero_intCast]
      exact fits_int32 i
  | int64 i =>
      cases hq
      rw [towardZero_intCast]
      exact fits_int64 i
  | decimal d =>
      cases hq
      rw [Decimal.towardZero_toRat]
      exact Int128.fits_tdiv_ten_pow hv.2 d.scale
  | float64 x => exact absurd rfl (hexact x)
  | _ => cases hq

/-- The integer part of a value is its number, cut toward zero and moved to where it fits. -/
theorem integer?_of_number {v : Value} {q : ℚ} (hv : v.WellFormed) (hq : v.number? = some q) :
    v.integer? = some (clamp (towardZero q)) := by
  have hexact : (∀ x, v ≠ .float64 x) → clamp (towardZero q) = towardZero q :=
    fun h => clamp_of_fits (fits_of_number hv hq h)
  cases v with
  | float64 x =>
      have hx : x.toRat? = some q := hq
      rw [integer?, Binary64.truncate?_eq, hx]
      rfl
  | int32 i =>
      cases hq
      rw [hexact (by simp), towardZero_intCast, integer?]
  | int64 i =>
      cases hq
      rw [hexact (by simp), towardZero_intCast, integer?]
  | decimal d =>
      cases hq
      rw [hexact (by simp), Decimal.towardZero_toRat, integer?]
  | _ => cases hq

theorem coerce_int64_of_integer? {v : Value} {n : ℤ} (h : v.integer? = some n) :
    v.coerce .int64 = .ok (.int64 (Int64.ofInt n)) := by
  rw [coerce, as?, int64?, h]
  rfl

theorem coerce_int32_of_integer? {v : Value} {n : ℤ} (h : v.integer? = some n) :
    v.coerce .int32 = .ok (.int32 (Int32.ofInt n)) := by
  rw [coerce, as?, int32?, h]
  rfl

/-- A value with an integer part is narrowed as every integer is that agrees with it to 64 bits. -/
theorem narrowsTo_of_integer? {v : Value} {n m : ℤ} (h : v.integer? = some n)
    (hlong : n.bmod (2 ^ 64) = m.bmod (2 ^ 64)) : v.NarrowsTo m := by
  have hshort : n.bmod (2 ^ 32) = m.bmod (2 ^ 32) := by
    have hdvd : 2 ^ 32 ∣ 2 ^ 64 := pow_dvd_pow 2 (by decide)
    rw [← Int.bmod_bmod_of_dvd hdvd, hlong, Int.bmod_bmod_of_dvd hdvd]
  exact ⟨_, _, coerce_int64_of_integer? h, Int64.toInt_ofInt.trans hlong,
    coerce_int32_of_integer? h, Int32.toInt_ofInt.trans hshort⟩

/-- Integers that one value is narrowed to agree to 64 bits. -/
theorem NarrowsTo.bmod_eq {v : Value} {n m : ℤ} (hn : v.NarrowsTo n) (hm : v.NarrowsTo m) :
    n.bmod (2 ^ 64) = m.bmod (2 ^ 64) := by
  obtain ⟨i, _, hi, hin, _⟩ := hn
  obtain ⟨j, _, hj, hjm, _⟩ := hm
  rw [hi] at hj
  cases hj
  exact hin.symm.trans hjm

/-- Infinities and NaNs have no integer part. -/
theorem integer?_of_exponentField {x : Binary64} (h : x.exponentField = 2047) :
    (float64 x).integer? = none := by
  rw [integer?, Binary64.truncate?_eq, Binary64.toRat?_eq_none_iff.mpr h]
  rfl

/-! ## Narrowing -/

/-- Only doubles have integer parts that do not fit, and those end in zeros. -/
theorem dvd_of_not_fits {v : Value} {q : ℚ} (hv : v.WellFormed) (hq : v.number? = some q)
    (h : ¬Fits (towardZero q)) : 2 ^ 64 ∣ towardZero q := by
  by_cases hfloat : ∃ x, v = .float64 x
  · obtain ⟨x, rfl⟩ := hfloat
    apply Binary64.dvd_towardZero_of_large (x := x) hq
    unfold Fits at h
    omega
  · exact absurd (fits_of_number hv hq (not_exists.mp hfloat)) h

theorem narrowsTo_of_lt {v : Value} {q : ℚ} (hv : v.WellFormed) (hq : v.number? = some q)
    (h : towardZero q < 2 ^ 127) : v.NarrowsTo (towardZero q) := by
  have hinteger := integer?_of_number hv hq
  by_cases hfits : Fits (towardZero q)
  · rw [clamp_of_fits hfits] at hinteger
    exact narrowsTo_of_integer? hinteger rfl
  · -- The nearest integer that fits ends in zeros too.
    have hsmall : towardZero q < -2 ^ 127 := not_le.mp fun hlow => hfits ⟨hlow, h⟩
    rw [clamp_of_lt hsmall] at hinteger
    apply narrowsTo_of_integer? hinteger
    rw [Int.bmod_eq_zero_of_dvd (dvd_of_not_fits hv hq hfits)]
    decide

theorem narrowsTo_of_ge {v : Value} {q : ℚ} (hv : v.WellFormed) (hq : v.number? = some q)
    (h : 2 ^ 127 ≤ towardZero q) : v.NarrowsTo (-1) := by
  have hinteger := integer?_of_number hv hq
  rw [clamp_of_ge h] at hinteger
  exact narrowsTo_of_integer? hinteger (by decide)

/-- What narrows to `-1` does not narrow to an integer that ends in zeros. -/
theorem not_narrowsTo_of_ge {v : Value} {q : ℚ} (hv : v.WellFormed) (hq : v.number? = some q)
    (h : 2 ^ 127 ≤ towardZero q) : ¬v.NarrowsTo (towardZero q) := by
  intro hnarrow
  have hfits : ¬Fits (towardZero q) := fun hfits => absurd hfits.2 (not_lt.mpr h)
  have hsame := hnarrow.bmod_eq (narrowsTo_of_ge hv hq h)
  rw [Int.bmod_eq_zero_of_dvd (dvd_of_not_fits hv hq hfits)] at hsame
  exact absurd hsame (by decide)

/-- A number is read as an integer of 64 or 32 bits by cutting it toward zero and reducing the
integer to the width, exactly if the integer is less than `2 ^ 127`, as it is for all integers and
decimals.  A double that is not less is read as `-1`.  So it matters which number a value stands
for, and not which kind of value it is.  Infinities and NaNs are refused. -/
theorem narrowing_cuts_and_wraps (v : Value) (hv : v.WellFormed) :
    (∀ q, v.number? = some q →
      (v.NarrowsTo (towardZero q) ↔ towardZero q < 2 ^ 127) ∧
        ((∀ x, v ≠ .float64 x) → towardZero q < 2 ^ 127) ∧
          (2 ^ 127 ≤ towardZero q → v.NarrowsTo (-1)) ∧
            ∀ w : Value, w.WellFormed → w.number? = some q →
              v.coerce .int64 = w.coerce .int64 ∧ v.coerce .int32 = w.coerce .int32) ∧
      ∀ x : Binary64, v = .float64 x → x.exponentField = 2047 →
        v.coerce .int64 = .error (.typeMismatch .float64 .int64) ∧
          v.coerce .int32 = .error (.typeMismatch .float64 .int32) := by
  constructor
  · intro q hq
    refine ⟨⟨?_, narrowsTo_of_lt hv hq⟩, ?_, narrowsTo_of_ge hv hq, ?_⟩
    · intro hnarrow
      by_contra hlarge
      exact not_narrowsTo_of_ge hv hq (not_lt.mp hlarge) hnarrow
    · intro hexact
      exact (fits_of_number hv hq hexact).2
    · intro w hw hwq
      have hvinteger := integer?_of_number hv hq
      have hwinteger := integer?_of_number hw hwq
      constructor
      · rw [coerce_int64_of_integer? hvinteger, coerce_int64_of_integer? hwinteger]
      · rw [coerce_int32_of_integer? hvinteger, coerce_int32_of_integer? hwinteger]
  · rintro x rfl hx
    have hnone := integer?_of_exponentField hx
    constructor
    · rw [coerce, as?, int64?, hnone]
      rfl
    · rw [coerce, as?, int32?, hnone]
      rfl

/-- The least double above zero whose integer part does not fit, `2 ^ 127`. -/
def leastUnfit : Value :=
  .float64 ⟨0x47E0000000000000⟩

theorem number?_leastUnfit : leastUnfit.number? = some (2 ^ 127) := by
  have hreading : (Binary64.mk 0x47E0000000000000).reading = .finite false (2 ^ 52) 75 := by
    decide
  rw [leastUnfit, number?, Binary64.toRat?, hreading]
  norm_num

theorem towardZero_leastUnfit : towardZero (2 ^ 127) = 2 ^ 127 := by
  have hcut := towardZero_intCast (2 ^ 127)
  push_cast at hcut
  exact hcut

/-- A negative decimal loses its places, a double that does not fit all of its bits, and infinity
is refused. -/
theorem negativeDecimal_narrowed :
    ((decimal ⟨-2999, 3⟩).WellFormed ∧ (decimal ⟨-2999, 3⟩).NarrowsTo (-2)) ∧
      (leastUnfit.number? = some (2 ^ 127) ∧ leastUnfit.NarrowsTo (-1)) ∧
        (int64 (-2)).coerce .int32 = (decimal ⟨-2, 0⟩).coerce .int32 ∧
          (float64 (.infinity true)).coerce .int64 = .error (.typeMismatch .float64 .int64) := by
  have hformed : (decimal ⟨-2999, 3⟩).WellFormed := by decide
  have hcut : towardZero (Decimal.toRat ⟨-2999, 3⟩) = -2 := by
    rw [Decimal.towardZero_toRat]
    decide
  obtain ⟨hiff, hless, _, _⟩ := (narrowing_cuts_and_wraps (decimal ⟨-2999, 3⟩) hformed).1 _ rfl
  have hdecimal := hiff.mpr (hless (by simp))
  rw [hcut] at hdecimal
  obtain ⟨_, _, hlarge, _⟩ := (narrowing_cuts_and_wraps leastUnfit trivial).1 _ number?_leastUnfit
  have hwhole : (int64 (-2)).number? = (decimal ⟨-2, 0⟩).number? := by
    simp [number?, Decimal.toRat]
  obtain ⟨_, _, _, hsame⟩ := (narrowing_cuts_and_wraps (int64 (-2)) trivial).1 _ rfl
  refine ⟨⟨hformed, hdecimal⟩, ⟨number?_leastUnfit, hlarge ?_⟩,
    (hsame _ (by decide) hwhole.symm).2,
    ((narrowing_cuts_and_wraps (float64 (.infinity true)) trivial).2 _ rfl (by decide)).1⟩
  rw [towardZero_leastUnfit]

/-- Beyond the integers that fit, the integer part is not reduced but replaced. -/
theorem leastUnfit_not_wrapped :
    leastUnfit.number? = some (2 ^ 127) ∧ leastUnfit.coerce .int64 = .ok (.int64 (-1)) ∧
      leastUnfit.coerce .int32 = .ok (.int32 (-1)) ∧
        ¬∀ (v : Value) (q : ℚ), v.WellFormed → v.number? = some q →
          v.NarrowsTo (towardZero q) := by
  have hread : leastUnfit.coerce .int64 = .ok (.int64 (-1)) := by decide
  refine ⟨number?_leastUnfit, hread, by decide, ?_⟩
  intro hall
  obtain ⟨i, _, hi, hreduced, _⟩ := hall leastUnfit _ trivial number?_leastUnfit
  rw [hread] at hi
  cases hi
  rw [towardZero_leastUnfit] at hreduced
  exact absurd hreduced (by decide)

end QueryReplay.Value
