import QueryReplay.Proofs.Calendar.Epoch
import QueryReplay.Proofs.Number.DecimalSteps

/-!
# Another scale is an exact cut

This file reads a change of scale on the numbers that decimals stand for.  With
`s` places, a decimal is left with as many units of its last place as the number
has, cut toward zero.  More places cut nothing off, so the way back is exact.
Fewer places leave an integer no further from zero than before, which always
has room, and fewer places in two steps are fewer places in one.
-/

namespace QueryReplay.Decimal

open Int128

/-! ## Units of a place -/

theorem toRat_mul_of_le {d : Decimal} {s : Nat} (h : d.scale ≤ s) :
    d.toRat * 10 ^ s = ((d.unscaled * 10 ^ (s - d.scale) : Int) : ℚ) := by
  have hsplit : (10 : ℚ) ^ s = 10 ^ d.scale * 10 ^ (s - d.scale) := by
    rw [← pow_add, Nat.add_sub_of_le h]
  have hpower : (10 : ℚ) ^ d.scale ≠ 0 := pow_ne_zero _ (by norm_num)
  rw [toRat, hsplit, ← mul_assoc, div_mul_cancel₀ _ hpower]
  push_cast
  rfl

theorem toRat_mul_of_ge {d : Decimal} {s : Nat} (h : s ≤ d.scale) :
    d.toRat * 10 ^ s = d.unscaled / ((10 ^ (d.scale - s) : ℕ) : ℚ) := by
  have hsplit : (10 : ℚ) ^ d.scale = 10 ^ (d.scale - s) * 10 ^ s := by
    rw [← pow_add, Nat.sub_add_cancel h]
  have hpower : (10 : ℚ) ^ s ≠ 0 := pow_ne_zero _ (by norm_num)
  rw [toRat, hsplit, div_mul_eq_mul_div, mul_div_mul_right _ _ hpower]
  push_cast
  rfl

theorem units_of_le {d : Decimal} {s : Nat} (h : d.scale ≤ s) :
    towardZero (d.toRat * 10 ^ s) = d.unscaled * 10 ^ (s - d.scale) := by
  rw [toRat_mul_of_le h, towardZero_intCast]

theorem units_of_ge {d : Decimal} {s : Nat} (h : s ≤ d.scale) :
    towardZero (d.toRat * 10 ^ s) = d.unscaled.tdiv (10 ^ (d.scale - s)) := by
  rw [toRat_mul_of_ge h, towardZero_div _ (Nat.pow_pos (by decide))]
  push_cast
  rfl

/-! ## Changing the scale -/

/-- Whichever way the scale changes, the integer is the number of units of the new last place. -/
theorem rescale?_eq (d : Decimal) (s : Nat) :
    d.rescale? s = ofParts? (towardZero (d.toRat * 10 ^ s)) s := by
  by_cases hle : d.scale ≤ s
  · rw [rescale?_of_le hle, units_of_le hle]
  · have hlt : s < d.scale := not_le.mp hle
    by_cases hmax : s ≤ maxScale
    · rw [rescale?_of_lt hlt hmax, units_of_ge hlt.le]
    · rw [rescale?, if_pos (not_le.mp hmax), ofParts?_of_maxScale_lt (not_le.mp hmax)]

theorem rescale?_eq_some_iff {d e : Decimal} {s : Nat} :
    d.rescale? s = some e ↔ s ≤ maxScale ∧ Fits (towardZero (d.toRat * 10 ^ s)) ∧
      e = ⟨towardZero (d.toRat * 10 ^ s), s⟩ := by
  rw [rescale?_eq, ofParts?, Option.ite_none_right_eq_some, Option.some_inj, and_assoc,
    eq_comm (a := e)]

/-- Fewer places always have room. -/
theorem rescale?_of_ge {d : Decimal} (hd : d.WellFormed) {s : Nat} (h : s ≤ d.scale) :
    d.rescale? s = some ⟨d.unscaled.tdiv (10 ^ (d.scale - s)), s⟩ := by
  apply rescale?_eq_some_iff.mpr
  rw [units_of_ge h]
  exact ⟨h.trans hd.1, fits_tdiv_ten_pow hd.2 _, rfl⟩

/-- Fewer places in two steps are fewer places in one. -/
theorem rescale?_bind_rescale? {d : Decimal} (hd : d.WellFormed) {a b : Nat} (hba : b ≤ a)
    (had : a ≤ d.scale) : (d.rescale? a).bind (·.rescale? b) = d.rescale? b := by
  have hformed : (⟨d.unscaled.tdiv (10 ^ (d.scale - a)), a⟩ : Decimal).WellFormed :=
    ⟨had.trans hd.1, fits_tdiv_ten_pow hd.2 _⟩
  have hpowers : (10 : Int) ^ (d.scale - a) * 10 ^ (a - b) = 10 ^ (d.scale - b) := by
    rw [← pow_add, tsub_add_tsub_cancel had hba]
  have htwice := tdiv_tdiv d.unscaled (10 ^ (d.scale - a)) (10 ^ (a - b))
  push_cast at htwice
  rw [hpowers] at htwice
  rw [rescale?_of_ge hd had, Option.bind_some, rescale?_of_ge hformed hba,
    rescale?_of_ge hd (hba.trans had), htwice]

/-- More places can be taken away again. -/
theorem rescale?_rescale?_back {d e : Decimal} {s : Nat} (h : d.scale ≤ s)
    (he : d.rescale? s = some e) : e.rescale? d.scale = some d := by
  obtain ⟨hscale, hfits, rfl⟩ := rescale?_eq_some_iff.mp he
  have hpower : (10 : Int) ^ (s - d.scale) ≠ 0 := pow_ne_zero _ (by decide)
  rw [rescale?_of_ge ⟨hscale, hfits⟩ h, units_of_le h, Int.mul_tdiv_cancel _ hpower]

/-- A decimal takes another scale exactly if that is in range and the units of the new last
place, cut toward zero, have room; they are the new integer.  So fewer places always have room,
and are the same in two steps as in one; more places can be taken away again.  The integer part
is the number that the decimal stands for, cut toward zero, and the power of ten to divide by is
always there. -/
theorem rescale_cuts_exactly {d : Decimal} (hd : d.WellFormed) :
    (∀ s e, d.rescale? s = some e ↔ s ≤ maxScale ∧ Fits (towardZero (d.toRat * 10 ^ s)) ∧
      e = ⟨towardZero (d.toRat * 10 ^ s), s⟩) ∧
      (∀ s, s ≤ d.scale → ∃ e, d.rescale? s = some e) ∧
        (∀ a b, b ≤ a → a ≤ d.scale → (d.rescale? a).bind (·.rescale? b) = d.rescale? b) ∧
          (∀ s e, d.scale ≤ s → d.rescale? s = some e → e.rescale? d.scale = some d) ∧
            d.truncate = towardZero d.toRat ∧
              power? 10 d.scale = some (10 ^ d.scale) ∧
                truncateSteps d = .ok (towardZero d.toRat) := by
  refine ⟨fun s e => rescale?_eq_some_iff, ?_, ?_, ?_, (towardZero_toRat d).symm,
    power?_ten hd.1, ?_⟩
  · intro s hs
    exact ⟨_, rescale?_of_ge hd hs⟩
  · intro a b hba had
    exact rescale?_bind_rescale? hd hba had
  · intro s e hs he
    exact rescale?_rescale?_back hs he
  · rw [towardZero_toRat]
    exact truncateSteps_eq hd

/-- A negative number loses its last two places. -/
theorem negative_cut_exactly :
    (⟨-12999, 3⟩ : Decimal).WellFormed ∧
      (⟨-12999, 3⟩ : Decimal).rescale? 1 = some ⟨-129, 1⟩ ∧
        ((⟨-12999, 3⟩ : Decimal).rescale? 1).bind (·.rescale? 0) = some ⟨-12, 0⟩ ∧
          (⟨-12999, 3⟩ : Decimal).rescale? 39 = none ∧
            truncateSteps ⟨-12999, 3⟩ = .ok (-12) := by
  have hformed : (⟨-12999, 3⟩ : Decimal).WellFormed := by decide
  obtain ⟨_, _, htwice, _, hcut, _, hsteps⟩ := rescale_cuts_exactly hformed
  refine ⟨hformed, by decide, ?_, by decide, ?_⟩
  · rw [htwice 1 0 (by decide) (by decide)]
    decide
  · rw [hsteps, ← hcut]
    rfl

end QueryReplay.Decimal
