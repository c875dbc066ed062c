import QueryReplay.Number.DecimalSteps
import QueryReplay.Proofs.Number.DecimalText

/-!
# No step on decimals leaves its range

This file shows that the operations on decimals in range can be carried out in
integers of fixed width: no step faults, and the outcome is the exact one.  All
of it comes down to three facts.  The power of ten of a scale in range has room
and is not zero, a quotient by it has room because it is no larger than what is
divided, and a number read from digits has room on both sides of zero.
-/

namespace QueryReplay

open Numeral

theorem Word.sub_of_le {a b : Nat} (h : b ≤ a) : Word.sub a b = .ok (a - b) :=
  if_pos h

namespace Int128

open Decimal (Fits maxScale)

theorem inRange?_of_fits {i : Int} (h : Fits i) : inRange? i = some i :=
  if_pos h

theorem inRange?_eq_some_iff {i j : Int} : inRange? i = some j ↔ Fits i ∧ i = j :=
  Option.ite_none_right_eq_some.trans (and_congr_right' Option.some_inj)

theorem inRange?_eq_none_iff {i : Int} : inRange? i = none ↔ ¬Fits i := by
  rw [inRange?, ite_eq_right_iff]
  exact ⟨fun h hfits => Option.some_ne_none i (h hfits), fun h hfits => absurd hfits h⟩

theorem fits_ten_pow {n : Nat} (h : n ≤ maxScale) : Fits (10 ^ n) := by
  have hpos : (0 : Int) < 10 ^ n := Int.pow_pos (by decide)
  have hle : (10 : Int) ^ n ≤ 10 ^ 38 := by
    exact_mod_cast Nat.pow_le_pow_right (show 0 < 10 by decide) h
  have hlimit : (10 : Int) ^ 38 < 2 ^ 127 := by decide
  constructor
  · omega
  · exact hle.trans_lt hlimit

/-- The power of ten of a scale in range has room. -/
theorem power?_ten {n : Nat} (h : n ≤ maxScale) : power? 10 n = some (10 ^ n) :=
  inRange?_of_fits (fits_ten_pow h)

/-- A quotient by a natural number is no further from zero than what is divided. -/
theorem fits_tdiv {i : Int} (h : Fits i) (m : Nat) : Fits (i.tdiv m) := by
  obtain ⟨hlow, hhigh⟩ := h
  have habs := Int.natAbs_tdiv_le_natAbs i m
  by_cases hi : 0 ≤ i
  · constructor
    · omega
    · omega
  · have hsign : 0 ≤ (-i).tdiv m := Int.tdiv_nonneg (by omega) (Int.natCast_nonneg m)
    rw [Int.neg_tdiv] at hsign
    constructor
    · omega
    · omega

theorem fits_tdiv_ten_pow {i : Int} (h : Fits i) (n : Nat) : Fits (i.tdiv (10 ^ n)) := by
  have hquotient := fits_tdiv h (10 ^ n)
  push_cast at hquotient
  exact hquotient

theorem divide_ten_pow {i : Int} (h : Fits i) (n : Nat) :
    divide i (10 ^ n) = .ok (i.tdiv (10 ^ n)) := by
  have hne : (10 : Int) ^ n ≠ 0 := (Int.pow_pos (by decide)).ne'
  rw [divide, if_neg hne, if_pos (fits_tdiv_ten_pow h n)]
  rfl

end Int128

namespace Decimal

open Int128

/-- The integer part is found without faults, and never by leaving the power of ten out. -/
theorem truncateSteps_eq {d : Decimal} (h : d.WellFormed) :
    truncateSteps d = .ok d.truncate := by
  rw [truncateSteps, power?_ten h.1, Option.elim_some, divide_ten_pow h.2, truncate]

theorem new?_eq_ofParts? {i : Int} (h : Fits i) (scale : Nat) :
    new? i scale = ofParts? i scale := by
  by_cases hscale : scale ≤ maxScale
  · rw [new?, if_pos hscale, ofParts?, if_pos ⟨hscale, h⟩]
  · rw [new?, if_neg hscale, ofParts?, if_neg fun hboth => hscale hboth.1]

theorem bind_new?_inRange? (i : Int) (scale : Nat) :
    (inRange? i).bind (new? · scale) = ofParts? i scale := by
  by_cases hi : Fits i
  · rw [inRange?_of_fits hi, Option.bind_some, new?_eq_ofParts? hi]
  · rw [inRange?_eq_none_iff.mpr hi, ofParts?, if_neg fun hboth => hi hboth.2]
    rfl

theorem ofParts?_of_maxScale_lt {i : Int} {scale : Nat} (h : maxScale < scale) :
    ofParts? i scale = none :=
  if_neg fun hboth => absurd hboth.1 (not_le.mpr h)

theorem rescale?_of_le {d : Decimal} {scale : Nat} (h : d.scale ≤ scale) :
    d.rescale? scale = ofParts? (d.unscaled * 10 ^ (scale - d.scale)) scale := by
  by_cases hmax : maxScale < scale
  · rw [rescale?, if_pos hmax, ofParts?_of_maxScale_lt hmax]
  · rw [rescale?, if_neg hmax, if_pos h]

theorem rescale?_of_lt {d : Decimal} {scale : Nat} (h : scale < d.scale) (hmax : scale ≤ maxScale) :
    d.rescale? scale = ofParts? (d.unscaled.tdiv (10 ^ (d.scale - scale))) scale := by
  rw [rescale?, if_neg (not_lt.mpr hmax), if_neg (not_le.mpr h)]

private theorem ok_bind {α β : Type} (a : α) (next : α → Except StepFault β) :
    (Except.ok a >>= next) = next a :=
  rfl

/-- Another scale is found without faults, whatever scale is asked for. -/
theorem rescaleSteps_eq {d : Decimal} (h : d.WellFormed) (scale : Nat) :
    rescaleSteps d scale = .ok (d.rescale? scale) := by
  by_cases hle : d.scale ≤ scale
  · rw [rescaleSteps, if_pos hle, Word.sub_of_le hle, rescale?_of_le hle, ok_bind]
    simp only [product?, bind_new?_inRange?]
    cases hpower : power? 10 (scale - d.scale) with
    | none =>
        -- Only a power of ten beyond the greatest scale has no room.
        have hmax : maxScale < scale := by
          by_contra hscale
          rw [power?_ten ((Nat.sub_le _ _).trans (not_lt.mp hscale))] at hpower
          cases hpower
        rw [ofParts?_of_maxScale_lt hmax]
        rfl
    | some factor =>
        obtain ⟨_, rfl⟩ := inRange?_eq_some_iff.mp hpower
        rfl
  · have hlt : scale < d.scale := not_le.mp hle
    rw [rescaleSteps, if_neg hle, Word.sub_of_le hlt.le, ok_bind,
      rescale?_of_lt hlt (hlt.le.trans h.1), power?_ten ((Nat.sub_le _ _).trans h.1),
      Option.elim_some, divide_ten_pow h.2, ok_bind, ← new?_eq_ofParts? (fits_tdiv_ten_pow h.2 _)]
    rfl

/-! ## Printing -/

theorem padSteps_eq {n scale : Nat} (h : scale ≤ maxScale) :
    padSteps (digits n) scale = .ok (padded (scale + 1) n) := by
  by_cases hshort : (digits n).length ≤ scale
  · have hroom : scale - (digits n).length + 1 < 2 ^ 64 := by
      unfold maxScale at h
      omega
    have hzeros : scale - (digits n).length + 1 = scale + 1 - (digits n).length := by omega
    rw [padSteps, if_pos hshort, Word.sub_of_le hshort, ok_bind, Word.add, if_pos hroom, hzeros]
    rfl
  · rw [padSteps, if_neg hshort, padded_of_le (not_le.mp hshort)]
    rfl

theorem cutSteps_eq {ds : List Char} {scale : Nat} (h : scale ≤ ds.length) :
    cutSteps ds scale = .ok (ds.take (ds.length - scale), ds.drop (ds.length - scale)) := by
  rw [cutSteps, Word.sub_of_le h, ok_bind, if_pos (Nat.sub_le _ _)]
  rfl

/-- The text is found without faults: the zeros to put in front and the place of the point are
never less than nothing, and the digits are never cut behind their end. -/
theorem charsSteps_eq {d : Decimal} (h : d.scale ≤ maxScale) : charsSteps d = .ok d.chars := by
  have hsign : (if (Parts.ofDecimal d).negative then ['-'] else []) =
      if d.unscaled < 0 then ['-'] else [] := by
    simp [Parts.ofDecimal]
  have hplaces := length_fraction_ofDecimal d
  rw [chars_eq_printed, charsSteps, Parts.printed, hsign]
  by_cases hscale : d.scale = 0
  · have hfraction : (Parts.ofDecimal d).fraction = [] :=
      List.length_eq_zero_iff.mp (hplaces.trans hscale)
    have hpadded : d.paddedDigits = digits d.unscaled.natAbs := by
      rw [paddedDigits, hscale]
      exact padded_of_le (List.length_pos_iff.mpr (digits_ne_nil _))
    have hdigits := digits_ofDecimal d
    rw [Parts.digits, hfraction, List.append_nil, hpadded] at hdigits
    rw [if_pos hscale, if_pos hfraction, List.append_nil, hdigits]
    rfl
  · have hfraction : (Parts.ofDecimal d).fraction ≠ [] := by
      apply List.ne_nil_of_length_pos
      omega
    have hcut := cutSteps_eq (scale_lt_length_paddedDigits d).le
    rw [if_neg hscale, if_neg hfraction, padSteps_eq h, ok_bind]
    rw [paddedDigits] at hcut
    rw [hcut, ok_bind]
    rfl

/-! ## Reading -/

theorem fits_natCast_iff {n : Nat} : Fits n ↔ n < 2 ^ 127 := by
  constructor
  · rintro ⟨_, hhigh⟩
    omega
  · intro hroom
    constructor
    · omega
    · omega

theorem fits_neg_natCast {n : Nat} (h : n < 2 ^ 127) : Fits (-(n : Int)) := by
  constructor
  · omega
  · omega

/-- A number whose digits have room also has room with a minus. -/
theorem withSign_steps_eq {n : Nat} (h : n < 2 ^ 127) (negative : Bool) :
    Int128.withSign negative n = .ok (Numeral.withSign negative n) := by
  cases negative with
  | false => rfl
  | true =>
      show negate n = _
      rw [negate, if_pos (fits_neg_natCast h)]
      rfl

theorem fits_withSign {n : Nat} (h : n < 2 ^ 127) (negative : Bool) :
    Fits (Numeral.withSign negative n) := by
  cases negative with
  | false => exact fits_natCast_iff.mpr h
  | true => exact fits_neg_natCast h

theorem ofDigits?_of_lt {ds : List Char} (h : value ds < 2 ^ 127) :
    ofDigits? ds = some (value ds : Int) :=
  inRange?_of_fits (fits_natCast_iff.mpr h)

theorem ofDigits?_of_le {ds : List Char} (h : 2 ^ 127 ≤ value ds) : ofDigits? ds = none :=
  inRange?_eq_none_iff.mpr fun hfits => absurd (fits_natCast_iff.mp hfits) (not_lt.mpr h)

/-- The steps look at the parts of a text.  The check that there is any digit stands first, so
that zero never has to stand in for none. -/
theorem ofCharsSteps_eq_ite (cs : List Char) : ofCharsSteps cs =
    if isNumeral (Parts.ofChars cs).digits = true ∧ (Parts.ofChars cs).fraction.length < 2 ^ 32 then
      (ofDigits? (Parts.ofChars cs).digits).elim (.ok none) fun magnitude =>
        Int128.withSign (Parts.ofChars cs).negative magnitude >>= fun unscaled =>
          .ok (new? unscaled (Parts.ofChars cs).fraction.length)
    else .ok none := by
  obtain ⟨p, hp⟩ : ∃ p, Parts.ofChars cs = p := ⟨_, rfl⟩
  have hsteps : ofCharsSteps cs =
      if (p.whole.isEmpty && p.fraction.isEmpty) = true then .ok none
      else if (!p.digits.all Char.isDigit) = true then .ok none
      else if 2 ^ 32 ≤ p.fraction.length then .ok none
      else (if p.digits.isEmpty then some 0 else ofDigits? p.digits).elim (.ok none)
        fun magnitude => Int128.withSign p.negative magnitude >>=
          fun unscaled => .ok (new? unscaled p.fraction.length) := by
    rw [← hp]
    rfl
  have hempty : (p.whole.isEmpty && p.fraction.isEmpty) = p.digits.isEmpty := by
    rw [Bool.eq_iff_iff]
    simp [Parts.digits]
  have hnumeral : isNumeral p.digits = (!p.digits.isEmpty && p.digits.all Char.isDigit) := rfl
  rw [hsteps, hempty, hp, hnumeral]
  cases p.digits.isEmpty with
  | true => simp
  | false =>
      cases p.digits.all Char.isDigit with
      | false => simp
      | true =>
          by_cases hscale : 2 ^ 32 ≤ p.fraction.length
          · simp [hscale]
          · simp [hscale, not_le.mp hscale]

/-- A text is read without faults, whatever it is. -/
theorem ofCharsSteps_eq (cs : List Char) : ofCharsSteps cs = .ok (ofChars? cs) := by
  have hparts := @ofChars?_eq_some_iff_parts cs
  rw [ofCharsSteps_eq_ite]
  generalize Parts.ofChars cs = p at hparts ⊢
  have hnone (h : isNumeral p.digits = true → ¬p.InRange) : ofChars? cs = none := by
    rw [Option.eq_none_iff_forall_ne_some]
    intro d hd
    obtain ⟨hnumeral, hrange, _⟩ := hparts.mp hd
    exact h hnumeral hrange
  by_cases hread : isNumeral p.digits = true ∧ p.fraction.length < 2 ^ 32
  · rw [if_pos hread]
    by_cases hroom : value p.digits < 2 ^ 127
    · rw [ofDigits?_of_lt hroom, Option.elim_some, withSign_steps_eq hroom, ok_bind]
      by_cases hscale : p.fraction.length ≤ maxScale
      · rw [hparts.mpr ⟨hread.1, ⟨hscale, hroom⟩, rfl⟩, new?, if_pos hscale]
        rfl
      · rw [new?, if_neg hscale, hnone fun _ hrange => hscale hrange.scale_le]
    · rw [ofDigits?_of_le (not_lt.mp hroom), Option.elim_none,
        hnone fun _ hrange => hroom hrange.magnitude_lt]
  · have hfew : ¬2 ^ 32 ≤ maxScale := by decide
    rw [if_neg hread, hnone]
    intro hnumeral hrange
    have hmany : ¬p.fraction.length < 2 ^ 32 := fun hlt => hread ⟨hnumeral, hlt⟩
    exact hfew ((not_lt.mp hmany).trans hrange.scale_le)

end Decimal

end QueryReplay
