import QueryReplay.Proofs.Number.DecimalText
import QueryReplay.Proofs.Value.Narrowing

/-!
# Integers read from text

A text is read as an integer in one of two ways.  A sign and digits are taken for
an integer, if it fits sixteen bytes.  All else is read as a decimal, which is cut
toward zero.  Each way accepts texts that the other does not: the first one the
integer `-2 ^ 127`, whose digits have no room in a decimal, and the second one all
texts with a point.

This file says which texts are accepted in the one way or the other, without
reference to the readers.  Both take a text apart in the same way, so a text that
both accept is read as the same integer, and it makes no difference which of them
is asked first.
-/

namespace QueryReplay

open Decimal (Parts Fits)

/-! ## Texts without a point -/

namespace Numeral

theorem Sign.no_point {negative : Bool} {sign : List Char} (h : Sign negative sign) :
    '.' ∉ sign := by
  cases h with
  | unwritten => decide
  | plus => decide
  | minus => decide

theorem no_point_of_isNumeral {cs : List Char} (h : isNumeral cs = true) : '.' ∉ cs :=
  fun hpoint => absurd ((isNumeral_iff.mp h).2 '.' hpoint) (by decide)

theorem int?_eq_some_iff {cs : List Char} {i : Int} :
    int? cs = some i ↔ isNumeral (signed cs).2 = true ∧
      withSign (signed cs).1 (value (signed cs).2) = i := by
  have hread : int? cs = (value? (signed cs).2).map (withSign (signed cs).1) := rfl
  rw [hread, value?]
  by_cases hnumeral : isNumeral (signed cs).2 = true
  · simp [hnumeral]
  · simp [hnumeral]

end Numeral

namespace Decimal.Parts

open Numeral

/-- A text without a point is a sign and the digits before the point. -/
theorem Spell.exists_sign_of_no_point {p : Parts} {cs : List Char} (h : p.Spell cs)
    (hpoint : '.' ∉ cs) :
    p.fraction = [] ∧ ∃ sign, Sign p.negative sign ∧ cs = sign ++ p.whole := by
  obtain ⟨negative, whole, fraction⟩ := p
  obtain ⟨sign, body, hsign, hbody, rfl⟩ := h.layout
  cases hbody with
  | plain => exact ⟨rfl, sign, hsign, rfl⟩
  | point =>
      exact absurd (List.mem_append_right sign (List.mem_append_right whole List.mem_cons_self))
        hpoint

/-- The parts of a text without a point stand for an integer. -/
theorem Spell.toRat_of_no_point {p : Parts} {cs : List Char} (h : p.Spell cs)
    (hpoint : '.' ∉ cs) : p.toRat = p.decimal.unscaled := by
  have hscale : p.decimal.scale = 0 := congrArg List.length (h.exists_sign_of_no_point hpoint).1
  rw [← toRat_decimal, Decimal.toRat, hscale, pow_zero, div_one]

end Decimal.Parts

namespace Value

open Numeral

/-- A text is read as an integer at once exactly if it can be taken apart and has no point. -/
theorem int?_eq_some_iff_parts {cs : List Char} {i : Int} :
    int? cs = some i ↔ ∃ p : Parts, p.Spell cs ∧ '.' ∉ cs ∧ p.decimal.unscaled = i := by
  rw [int?_eq_some_iff]
  constructor
  · rintro ⟨hnumeral, rfl⟩
    obtain ⟨sign, hsign, hcs⟩ := exists_sign cs
    have hdigits : Parts.digits ⟨(signed cs).1, (signed cs).2, []⟩ = (signed cs).2 :=
      List.append_nil _
    refine ⟨⟨(signed cs).1, (signed cs).2, []⟩, ⟨?_, sign, _, hsign, .plain _, hcs⟩, ?_, ?_⟩
    · rw [hdigits]
      exact hnumeral
    · rw [hcs, List.mem_append]
      exact not_or.mpr ⟨hsign.no_point, no_point_of_isNumeral hnumeral⟩
    · rw [Parts.decimal, hdigits]
  · rintro ⟨p, hp, hpoint, rfl⟩
    obtain ⟨hfraction, sign, hsign, hcs⟩ := hp.exists_sign_of_no_point hpoint
    have hdigits : p.digits = p.whole := by
      rw [Parts.digits, hfraction, List.append_nil]
    have hnumeral := hp.isNumeral
    rw [hdigits] at hnumeral
    have hsigned : signed cs = (p.negative, p.whole) := by
      rw [hcs]
      refine signed_append hsign ?_
      exact (Parts.Pointed.plain p.whole).head?_ne_sign
        (by rw [List.append_nil]; exact (isNumeral_iff.mp hnumeral).2)
    rw [hsigned]
    exact ⟨hnumeral, by rw [Parts.decimal, hdigits]⟩

/-! ## Both ways to read an integer -/

/-- A text that is an integer and a decimal is the same number either way. -/
theorem truncate_of_int? {cs : List Char} {i : Int} {d : Decimal} (hint : int? cs = some i)
    (hdecimal : Decimal.ofChars? cs = some d) : d.truncate = i := by
  obtain ⟨p, hp, hpoint, rfl⟩ := int?_eq_some_iff_parts.mp hint
  obtain ⟨p', hp', -, rfl⟩ := Decimal.ofChars?_eq_some_iff.mp hdecimal
  obtain rfl : p = p' := hp.ofChars_eq.symm.trans hp'.ofChars_eq
  rw [← Decimal.towardZero_toRat, Parts.toRat_decimal, hp.toRat_of_no_point hpoint,
    towardZero_intCast]

/-- It makes no difference in which of the two ways a text is read first. -/
theorem integerOfText?_eq_some_iff_either {s : String} {n : Int} :
    integerOfText? s = some n ↔
      (int? (Text.stripped s.toList) = some n ∧ Fits n) ∨
        ∃ d, Decimal.ofChars? (Text.stripped s.toList) = some d ∧ d.truncate = n := by
  unfold integerOfText?
  generalize Text.stripped s.toList = cs
  dsimp only
  cases hint : int? cs with
  | none => simp
  | some i =>
      by_cases hfits : Fits i
      · simp only [if_pos hfits, Option.some_inj]
        constructor
        · rintro rfl
          exact Or.inl ⟨rfl, hfits⟩
        · rintro (⟨hn, _⟩ | ⟨d, hd, hn⟩)
          · exact hn
          · exact (truncate_of_int? hint hd).symm.trans hn
      · simp only [if_neg hfits, Option.map_eq_some_iff, Option.some_inj]
        constructor
        · exact Or.inr
        · rintro (⟨rfl, hn⟩ | hd)
          · exact absurd hn hfits
          · exact hd

/-! ## Texts that stand for numbers -/

/-- The text stands for the number: between blanks it is a sign or none and digits with at most one
point.  Without a point the number fits sixteen bytes, or else there are not too many places and all
digits together fit. -/
def WritesNumber (s : String) (q : ℚ) : Prop :=
  ∃ (core : List Char) (p : Parts), Text.BetweenBlanks core s.toList ∧ p.Spell core ∧
    p.toRat = q ∧ (('.' ∉ core ∧ -2 ^ 127 ≤ q ∧ q < 2 ^ 127) ∨ p.InRange)

theorem fits_iff_of_no_point {p : Parts} {cs : List Char} (h : p.Spell cs) (hpoint : '.' ∉ cs) :
    Fits p.decimal.unscaled ↔ -2 ^ 127 ≤ p.toRat ∧ p.toRat < 2 ^ 127 := by
  rw [h.toRat_of_no_point hpoint, Fits]
  norm_cast

theorem writesNumber_iff {s : String} {q : ℚ} :
    WritesNumber s q ↔ ∃ p : Parts, p.Spell (Text.stripped s.toList) ∧ p.toRat = q ∧
      (('.' ∉ Text.stripped s.toList ∧ Fits p.decimal.unscaled) ∨ p.InRange) := by
  constructor
  · rintro ⟨core, p, hbetween, hp, rfl, hrange⟩
    rw [hbetween.stripped_eq (Text.trimmed_of_no_blanks hp.no_blanks)]
    refine ⟨p, hp, rfl, hrange.imp_left ?_⟩
    exact fun ⟨hpoint, hfits⟩ => ⟨hpoint, (fits_iff_of_no_point hp hpoint).mpr hfits⟩
  · rintro ⟨p, hp, rfl, hrange⟩
    refine ⟨_, p, Text.betweenBlanks_stripped s.toList, hp, rfl, hrange.imp_left ?_⟩
    exact fun ⟨hpoint, hfits⟩ => ⟨hpoint, (fits_iff_of_no_point hp hpoint).mp hfits⟩

theorem integerOfText?_eq_some_iff {s : String} {n : Int} :
    integerOfText? s = some n ↔ ∃ q, WritesNumber s q ∧ towardZero q = n := by
  simp only [integerOfText?_eq_some_iff_either, writesNumber_iff]
  constructor
  · rintro (⟨hint, hfits⟩ | ⟨d, hd, rfl⟩)
    · obtain ⟨p, hp, hpoint, rfl⟩ := int?_eq_some_iff_parts.mp hint
      refine ⟨p.toRat, ⟨p, hp, rfl, Or.inl ⟨hpoint, hfits⟩⟩, ?_⟩
      rw [hp.toRat_of_no_point hpoint, towardZero_intCast]
    · obtain ⟨p, hp, hrange, rfl⟩ := Decimal.ofChars?_eq_some_iff.mp hd
      refine ⟨p.toRat, ⟨p, hp, rfl, Or.inr hrange⟩, ?_⟩
      rw [← Parts.toRat_decimal, Decimal.towardZero_toRat]
  · rintro ⟨q, ⟨p, hp, rfl, ⟨hpoint, hfits⟩ | hrange⟩, rfl⟩
    · left
      rw [hp.toRat_of_no_point hpoint, towardZero_intCast]
      exact ⟨int?_eq_some_iff_parts.mpr ⟨p, hp, hpoint, rfl⟩, hfits⟩
    · right
      refine ⟨p.decimal, Decimal.ofChars?_eq_some_iff.mpr ⟨p, hp, hrange, rfl⟩, ?_⟩
      rw [← Parts.toRat_decimal, Decimal.towardZero_toRat]

/-! ## Narrowing -/

theorem narrowsTo_of_writesNumber {s : String} {q : ℚ} (h : WritesNumber s q) :
    (text s).NarrowsTo (towardZero q) :=
  narrowsTo_of_integer? (integerOfText?_eq_some_iff.mpr ⟨q, h, rfl⟩) rfl

theorem coerce_of_integer?_eq_none {v : Value} (h : v.integer? = none) :
    v.coerce .int64 = .error (.typeMismatch v.kind .int64) ∧
      v.coerce .int32 = .error (.typeMismatch v.kind .int32) := by
  constructor
  · rw [coerce, as?, int64?, h]
    rfl
  · rw [coerce, as?, int32?, h]
    rfl

theorem coerce_of_not_writesNumber {s : String} (h : ¬∃ q, WritesNumber s q) :
    (text s).coerce .int64 = .error (.typeMismatch .text .int64) ∧
      (text s).coerce .int32 = .error (.typeMismatch .text .int32) := by
  refine coerce_of_integer?_eq_none (Option.eq_none_iff_forall_ne_some.mpr fun n hn => h ?_)
  obtain ⟨q, hq, -⟩ := integerOfText?_eq_some_iff.mp hn
  exact ⟨q, hq⟩

/-- A text that is read as a decimal stands for the number that the decimal stands for. -/
theorem writesNumber_of_coerce_decimal {s : String} {d : Decimal}
    (h : (text s).coerce .decimal = .ok (.decimal d)) : WritesNumber s d.toRat := by
  have hread : Decimal.ofText? s = some d := by
    rw [coerce, as?, decimal?] at h
    cases hd : Decimal.ofText? s with
    | none =>
        rw [hd] at h
        cases h
    | some e =>
        rw [hd] at h
        cases h
        rfl
  obtain ⟨core, hbetween, p, hp, hrange, rfl⟩ := Decimal.ofText?_eq_some_iff.mp hread
  exact ⟨core, p, hbetween, hp, (Parts.toRat_decimal p).symm, Or.inr hrange⟩

/-- A text is read as an integer of 64 or of 32 bits exactly if it stands for a number, which is
then cut toward zero and reduced to the width; every other text is refused.  So a text that is read
as a decimal is read as the integer part of the decimal. -/
theorem integers_of_text (s : String) :
    (((∃ i, (text s).coerce .int64 = .ok (.int64 i)) ↔ ∃ q, WritesNumber s q) ∧
        ((∃ j, (text s).coerce .int32 = .ok (.int32 j)) ↔ ∃ q, WritesNumber s q)) ∧
      (∀ q, WritesNumber s q → (text s).NarrowsTo (towardZero q)) ∧
        ((¬∃ q, WritesNumber s q) →
          (text s).coerce .int64 = .error (.typeMismatch .text .int64) ∧
            (text s).coerce .int32 = .error (.typeMismatch .text .int32)) ∧
          ∀ d, (text s).coerce .decimal = .ok (.decimal d) → (text s).NarrowsTo d.truncate := by
  refine ⟨⟨⟨?_, ?_⟩, ?_, ?_⟩, fun q => narrowsTo_of_writesNumber, coerce_of_not_writesNumber, ?_⟩
  · rintro ⟨i, hi⟩
    by_contra hnone
    rw [(coerce_of_not_writesNumber hnone).1] at hi
    cases hi
  · rintro ⟨q, hq⟩
    obtain ⟨i, _, hi, _⟩ := narrowsTo_of_writesNumber hq
    exact ⟨i, hi⟩
  · rintro ⟨j, hj⟩
    by_contra hnone
    rw [(coerce_of_not_writesNumber hnone).2] at hj
    cases hj
  · rintro ⟨q, hq⟩
    obtain ⟨_, j, _, _, hj, _⟩ := narrowsTo_of_writesNumber hq
    exact ⟨j, hj⟩
  · intro d hd
    rw [← Decimal.towardZero_toRat]
    exact narrowsTo_of_writesNumber (writesNumber_of_coerce_decimal hd)

theorem least_writesNumber :
    WritesNumber "-170141183460469231731687303715884105728" (-2 ^ 127) := by
  have hspell : (⟨true, "170141183460469231731687303715884105728".toList, []⟩ : Parts).Spell
      "-170141183460469231731687303715884105728".toList :=
    ⟨by decide, ['-'], _, Sign.minus, .plain _, rfl⟩
  have hpoint : '.' ∉ "-170141183460469231731687303715884105728".toList := by decide
  have hvalue : (⟨true, "170141183460469231731687303715884105728".toList, []⟩ : Parts).toRat =
      -2 ^ 127 := by
    rw [hspell.toRat_of_no_point hpoint,
      show Int.cast (Decimal.unscaled _) = ((-2 ^ 127 : ℤ) : ℚ) from congrArg _ (by decide)]
    norm_num
  exact ⟨_, _, ⟨[], [], List.forall_mem_nil _, List.forall_mem_nil _, by rw [List.append_nil]; rfl⟩,
    hspell, hvalue, Or.inl ⟨hpoint, by norm_num, by norm_num⟩⟩

/-- A decimal between blanks, the least integer, which is no decimal, and an integer that does not
fit. -/
theorem least_read_as_integer :
    ((text " +12.99").coerce .decimal = .ok (.decimal ⟨1299, 2⟩) ∧
        (text " +12.99").NarrowsTo 12) ∧
      (WritesNumber "-170141183460469231731687303715884105728" (-2 ^ 127) ∧
          (text "-170141183460469231731687303715884105728").NarrowsTo (towardZero (-2 ^ 127))) ∧
        (¬∃ q, WritesNumber "170141183460469231731687303715884105728" q) ∧
          (text "170141183460469231731687303715884105728").coerce .int64 =
            .error (.typeMismatch .text .int64) := by
  have hdecimal : (text " +12.99").coerce .decimal = .ok (.decimal ⟨1299, 2⟩) := by
    have hread : Decimal.ofText? " +12.99" = some ⟨1299, 2⟩ := by decide +kernel
    rw [coerce, as?, decimal?, hread]
    rfl
  have hnone : ¬∃ q, WritesNumber "170141183460469231731687303715884105728" q := by
    have hread : integerOfText? "170141183460469231731687303715884105728" = none := by
      decide +kernel
    rintro ⟨q, hq⟩
    have hsome := integerOfText?_eq_some_iff.mpr ⟨q, hq, rfl⟩
    rw [hread] at hsome
    cases hsome
  exact ⟨⟨hdecimal, (integers_of_text _).2.2.2 _ hdecimal⟩,
    ⟨least_writesNumber, (integers_of_text _).2.1 _ least_writesNumber⟩,
    hnone, ((integers_of_text _).2.2.1 hnone).1⟩

end Value

end QueryReplay
