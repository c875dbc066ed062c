import QueryReplay.Proofs.Number.BigEndian
import QueryReplay.Proofs.Number.DecimalValue
import QueryReplay.Proofs.Text.Blank
import QueryReplay.Proofs.Text.Numeral
import QueryReplay.Value.Coercion

/-!
# Decimals as text

This file says, without reference to the reader or the printer, which texts
spell a decimal and how a decimal is printed.  A text is taken apart into its
sign, the digits before the point and the digits behind it; these parts stand
for a decimal, and for a rational number.

The reader accepts exactly the texts whose parts are in range.  The digits are
read before the sign, so they have to stay below `2 ^ 127` on both sides of
zero.  The printer writes the one text that has no superfluous zeros.  Together
they give back every decimal but those with the least integer, whose digits
have no room.
-/

namespace QueryReplay.Decimal

open Numeral

/-! ## The parts of a text -/

/-- A text taken apart: its sign, the digits before the point and the digits behind it. -/
structure Parts where
  negative : Bool
  whole : List Char
  fraction : List Char

namespace Parts

/-- All digits, without the point. -/
def digits (p : Parts) : List Char :=
  p.whole ++ p.fraction

/-- The decimal with these digits, and with as many places as there are behind the point. -/
def decimal (p : Parts) : Decimal :=
  ⟨withSign p.negative (value p.digits), p.fraction.length⟩

/-- The rational number with these digits before and behind the point. -/
def toRat (p : Parts) : ℚ :=
  (if p.negative then -1 else 1) *
    (value p.whole + value p.fraction / 10 ^ p.fraction.length)

/-- The ways to put a point between digits.  Where none stand behind it, it may be left out. -/
inductive Pointed : List Char → List Char → List Char → Prop where
  | plain (whole : List Char) : Pointed whole [] whole
  | point (whole fraction : List Char) : Pointed whole fraction (whole ++ '.' :: fraction)

/-- The text consists of these parts: a sign or none, and digits with at most one point. -/
structure Spell (p : Parts) (cs : List Char) : Prop where
  isNumeral : isNumeral p.digits = true
  layout : ∃ sign body, Sign p.negative sign ∧ Pointed p.whole p.fraction body ∧ cs = sign ++ body

/-- The digits behind the point are not too many, and all digits together are not too large. -/
structure InRange (p : Parts) : Prop where
  scale_le : p.fraction.length ≤ maxScale
  magnitude_lt : value p.digits < 2 ^ 127

end Parts

/-- The text spells the decimal. -/
def Spells (cs : List Char) (d : Decimal) : Prop :=
  ∃ p : Parts, p.Spell cs ∧ p.InRange ∧ p.decimal = d

/-! ## Reading -/

namespace Parts

/-- The parts that the reader looks at. -/
def ofChars (cs : List Char) : Parts where
  negative := (signed cs).1
  whole := (signed cs).2.takeWhile (· != '.')
  fraction := ((signed cs).2.dropWhile (· != '.')).drop 1

theorem pointed_split (body : List Char) :
    Pointed (body.takeWhile (· != '.')) ((body.dropWhile (· != '.')).drop 1) body := by
  induction body with
  | nil => exact Pointed.plain []
  | cons c body ih =>
      by_cases hc : c = '.'
      · subst hc
        exact Pointed.point [] body
      · have hne : (c != '.') = true := bne_iff_ne.mpr hc
        rw [List.takeWhile_cons, List.dropWhile_cons, if_pos hne, if_pos hne]
        generalize body.takeWhile (· != '.') = whole at ih ⊢
        generalize (body.dropWhile (· != '.')).drop 1 = fraction at ih ⊢
        cases ih with
        | plain => exact Pointed.plain (c :: body)
        | point => exact Pointed.point (c :: whole) fraction

/-- Digits in front of a point are found again. -/
theorem Pointed.split_eq {whole fraction body : List Char} (h : Pointed whole fraction body)
    (hwhole : ∀ c ∈ whole, c.isDigit = true) :
    body.takeWhile (· != '.') = whole ∧ (body.dropWhile (· != '.')).drop 1 = fraction := by
  have hno : ∀ c ∈ whole, (c != '.') = true := by
    intro c hc
    apply bne_iff_ne.mpr
    rintro rfl
    exact absurd (hwhole '.' hc) (by decide)
  cases h with
  | plain =>
      rw [List.takeWhile_eq_self_iff.mpr hno, List.dropWhile_eq_nil_iff.mpr hno]
      exact ⟨rfl, rfl⟩
  | point =>
      rw [List.takeWhile_append_of_pos hno, List.dropWhile_append_of_pos hno]
      exact ⟨List.append_nil _, rfl⟩

theorem Pointed.mem_cases {whole fraction body : List Char} (h : Pointed whole fraction body)
    {c : Char} (hc : c ∈ body) : c ∈ whole ++ fraction ∨ c = '.' := by
  cases h with
  | plain => exact Or.inl (List.mem_append_left _ hc)
  | point =>
      rcases List.mem_append.mp hc with hwhole | htail
      · exact Or.inl (List.mem_append_left _ hwhole)
      · rcases List.mem_cons.mp htail with hpoint | hfraction
        · exact Or.inr hpoint
        · exact Or.inl (List.mem_append_right _ hfraction)

/-- Digits with a point among them start with no sign. -/
theorem Pointed.head?_ne_sign {whole fraction body : List Char} (h : Pointed whole fraction body)
    (hdigits : ∀ c ∈ whole ++ fraction, c.isDigit = true) :
    ∀ c ∈ body.head?, c ≠ '-' ∧ c ≠ '+' := by
  intro c hc
  rcases h.mem_cases (List.mem_of_mem_head? hc) with hmem | rfl
  · have hdigit := hdigits c hmem
    constructor
    · rintro rfl
      exact absurd hdigit (by decide)
    · rintro rfl
      exact absurd hdigit (by decide)
  · decide

/-- A text has only one way to be taken apart, which is the reader's. -/
theorem Spell.ofChars_eq {p : Parts} {cs : List Char} (h : p.Spell cs) : ofChars cs = p := by
  obtain ⟨_, hdigits⟩ := isNumeral_iff.mp h.isNumeral
  obtain ⟨sign, body, hsign, hbody, rfl⟩ := h.layout
  have hsigned := signed_append hsign (hbody.head?_ne_sign hdigits)
  obtain ⟨hwhole, hfraction⟩ :=
    hbody.split_eq fun c hc => hdigits c (List.mem_append_left _ hc)
  rw [ofChars, hsigned, hwhole, hfraction]

theorem spell_ofChars {cs : List Char} (h : isNumeral (ofChars cs).digits = true) :
    (ofChars cs).Spell cs := by
  obtain ⟨sign, hsign, hcs⟩ := exists_sign cs
  exact ⟨h, sign, (signed cs).2, hsign, pointed_split _, hcs⟩

end Parts

/-- The parts that are looked at decide what is read. -/
theorem ofChars?_eq_some_iff_parts {cs : List Char} {d : Decimal} :
    ofChars? cs = some d ↔ isNumeral (Parts.ofChars cs).digits = true ∧
      (Parts.ofChars cs).InRange ∧ (Parts.ofChars cs).decimal = d := by
  have hread : ofChars? cs = if (isNumeral (Parts.ofChars cs).digits &&
      decide ((Parts.ofChars cs).fraction.length ≤ maxScale) &&
        decide (value (Parts.ofChars cs).digits < 2 ^ 127)) = true
      then some (Parts.ofChars cs).decimal else none := rfl
  rw [hread, Option.ite_none_right_eq_some, Bool.and_eq_true, Bool.and_eq_true,
    decide_eq_true_eq, decide_eq_true_eq, Option.some_inj]
  constructor
  · rintro ⟨⟨⟨hnumeral, hscale⟩, hmagnitude⟩, hd⟩
    exact ⟨hnumeral, ⟨hscale, hmagnitude⟩, hd⟩
  · rintro ⟨hnumeral, hrange, hd⟩
    exact ⟨⟨⟨hnumeral, hrange.scale_le⟩, hrange.magnitude_lt⟩, hd⟩

theorem ofChars?_eq_some_iff {cs : List Char} {d : Decimal} :
    ofChars? cs = some d ↔ Spells cs d := by
  rw [ofChars?_eq_some_iff_parts]
  constructor
  · rintro ⟨hnumeral, hrange, hd⟩
    exact ⟨Parts.ofChars cs, Parts.spell_ofChars hnumeral, hrange, hd⟩
  · rintro ⟨p, hp, hrange, rfl⟩
    rw [hp.ofChars_eq]
    exact ⟨hp.isNumeral, hrange, rfl⟩

theorem Parts.Spell.no_blanks {p : Parts} {cs : List Char} (h : p.Spell cs) :
    ∀ c ∈ cs, Text.isBlank c = false := by
  obtain ⟨_, hdigits⟩ := isNumeral_iff.mp h.isNumeral
  obtain ⟨sign, body, hsign, hbody, rfl⟩ := h.layout
  intro c hc
  rcases List.mem_append.mp hc with hmem | hmem
  · exact hsign.no_blanks c hmem
  · rcases hbody.mem_cases hmem with hdigit | rfl
    · exact Text.isBlank_of_isDigit (hdigits c hdigit)
    · decide

/-- What is read is a spelling between blanks. -/
theorem ofText?_eq_some_iff {s : String} {d : Decimal} :
    ofText? s = some d ↔ ∃ core, Text.BetweenBlanks core s.toList ∧ Spells core d := by
  rw [ofText?, ofChars?_eq_some_iff]
  constructor
  · intro h
    exact ⟨_, Text.betweenBlanks_stripped s.toList, h⟩
  · rintro ⟨core, hbetween, p, hp, hrest⟩
    rw [hbetween.stripped_eq (Text.trimmed_of_no_blanks hp.no_blanks)]
    exact ⟨p, hp, hrest⟩

theorem parse_eq_ok_iff {s : String} {d : Decimal} :
    parse s = .ok d ↔ ofText? s = some d := by
  unfold parse
  cases ofText? s with
  | some e => simp
  | none => simp

theorem parse_eq_error {s : String} (h : ofText? s = none) :
    parse s = .error (.typeMismatch .text .decimal) := by
  rw [parse, h]

/-! ## Printing -/

namespace Parts

/-- The parts as they are printed: a minus or no sign, and a point only before digits. -/
def printed (p : Parts) : List Char :=
  (if p.negative then ['-'] else []) ++
    (p.whole ++ if p.fraction = [] then [] else '.' :: p.fraction)

/-- Digits only, at least one of them before the point, and no superfluous zero in front. -/
structure Canonical (p : Parts) : Prop where
  isDigit : ∀ c ∈ p.digits, c.isDigit = true
  whole_ne_nil : p.whole ≠ []
  whole_of_zero : p.whole.head? = some '0' → p.whole = ['0']

/-- The parts that the printer writes. -/
def ofDecimal (d : Decimal) : Parts where
  negative := decide (d.unscaled < 0)
  whole := d.paddedDigits.take (d.paddedDigits.length - d.scale)
  fraction := d.paddedDigits.drop (d.paddedDigits.length - d.scale)

/-- Parts stand for the same number as their decimal. -/
theorem toRat_decimal (p : Parts) : p.decimal.toRat = p.toRat := by
  have hpower : (10 : ℚ) ^ p.fraction.length ≠ 0 := pow_ne_zero _ (by norm_num)
  have hvalue : (value p.digits : ℚ) =
      value p.whole * 10 ^ p.fraction.length + value p.fraction := by
    rw [digits, value_append]
    push_cast
    rfl
  have hsign : ((withSign p.negative (value p.digits) : ℤ) : ℚ) =
      (if p.negative then -1 else 1) * value p.digits := by
    cases p.negative with
    | false => simp [withSign]
    | true => simp [withSign]
  show ((withSign p.negative (value p.digits) : ℤ) : ℚ) / 10 ^ p.fraction.length = p.toRat
  rw [hsign, hvalue, toRat, mul_div_assoc, add_div, mul_div_cancel_right₀ _ hpower]

theorem spell_printed {p : Parts} (h : p.Canonical) : p.Spell p.printed := by
  have hne : p.digits ≠ [] := fun hnil => h.whole_ne_nil (List.append_eq_nil_iff.mp hnil).1
  refine ⟨isNumeral_iff.mpr ⟨hne, h.isDigit⟩, _, _, ?_, ?_, rfl⟩
  · cases p.negative with
    | false => exact Sign.unwritten
    | true => exact Sign.minus
  · by_cases hfraction : p.fraction = []
    · rw [if_pos hfraction, hfraction, List.append_nil]
      exact Pointed.plain p.whole
    · rw [if_neg hfraction]
      exact Pointed.point p.whole p.fraction

end Parts

open Parts

theorem scale_lt_length_paddedDigits (d : Decimal) : d.scale < d.paddedDigits.length := by
  rw [paddedDigits, length_padded]
  omega

theorem digits_ofDecimal (d : Decimal) : (ofDecimal d).digits = d.paddedDigits :=
  List.take_append_drop _ _

theorem length_fraction_ofDecimal (d : Decimal) : (ofDecimal d).fraction.length = d.scale := by
  have hlength := scale_lt_length_paddedDigits d
  rw [ofDecimal, List.length_drop]
  omega

theorem decimal_ofDecimal (d : Decimal) : (ofDecimal d).decimal = d := by
  rw [Parts.decimal, digits_ofDecimal, length_fraction_ofDecimal, paddedDigits, value_padded]
  exact congrArg (fun i => (⟨i, d.scale⟩ : Decimal)) (withSign_natAbs d.unscaled)

theorem canonical_ofDecimal (d : Decimal) : (ofDecimal d).Canonical where
  isDigit := by
    rw [digits_ofDecimal]
    exact fun c hc => isDigit_of_mem_padded hc
  whole_ne_nil := by
    have hlength := scale_lt_length_paddedDigits d
    apply List.ne_nil_of_length_pos
    rw [ofDecimal, List.length_take]
    omega
  whole_of_zero := by
    intro hzero
    have hlength := scale_lt_length_paddedDigits d
    rw [ofDecimal, List.head?_take, if_neg (by omega)] at hzero
    -- Either zeros fill the places, or the digits start with a zero and have no places.
    have hone : d.paddedDigits.length - d.scale = 1 := by
      by_cases hshort : (digits d.unscaled.natAbs).length ≤ d.scale
      · rw [paddedDigits, length_padded]
        omega
      · have hdigits : padded (d.scale + 1) d.unscaled.natAbs = digits d.unscaled.natAbs :=
          padded_of_le (not_le.mp hshort)
        rw [paddedDigits, hdigits] at hzero ⊢
        rw [digits_of_head?_zero hzero] at hshort ⊢
        rw [List.length_singleton] at hshort ⊢
        omega
    rw [ofDecimal, hone, List.take_one, hzero]
    rfl

theorem chars_eq_printed (d : Decimal) : d.chars = (ofDecimal d).printed := by
  have hbody : (if d.scale = 0 then d.paddedDigits else
      d.paddedDigits.take (d.paddedDigits.length - d.scale) ++
        '.' :: d.paddedDigits.drop (d.paddedDigits.length - d.scale)) =
      (ofDecimal d).whole ++
        if (ofDecimal d).fraction = [] then [] else '.' :: (ofDecimal d).fraction := by
    have hplaces := length_fraction_ofDecimal d
    by_cases hscale : d.scale = 0
    · have hempty : (ofDecimal d).fraction = [] :=
        List.length_eq_zero_iff.mp (hplaces.trans hscale)
      rw [if_pos hscale, if_pos hempty, List.append_nil, ofDecimal, hscale, Nat.sub_zero,
        List.take_length]
    · have hsome : (ofDecimal d).fraction ≠ [] := by
        apply List.ne_nil_of_length_pos
        omega
      rw [if_neg hscale, if_neg hsome]
      rfl
  rw [printed, ← hbody, chars]
  by_cases hneg : d.unscaled < 0
  · simp [ofDecimal, hneg]
  · simp [ofDecimal, hneg]

theorem toList_text (d : Decimal) : d.text.toList = d.chars :=
  String.toList_ofList

/-! ## Reading what is printed -/

theorem spell_chars (d : Decimal) : (ofDecimal d).Spell d.chars := by
  rw [chars_eq_printed]
  exact spell_printed (canonical_ofDecimal d)

/-- What is printed spells the decimal and no other, and only if its digits have room. -/
theorem spells_chars_iff {d e : Decimal} :
    Spells d.chars e ↔ e = d ∧ d.scale ≤ maxScale ∧ d.unscaled.natAbs < 2 ^ 127 := by
  have hmagnitude : value (ofDecimal d).digits = d.unscaled.natAbs := by
    rw [digits_ofDecimal, paddedDigits, value_padded]
  constructor
  · rintro ⟨p, hp, hrange, rfl⟩
    have hparts : p = ofDecimal d := hp.ofChars_eq.symm.trans (spell_chars d).ofChars_eq
    subst hparts
    refine ⟨decimal_ofDecimal d, ?_, ?_⟩
    · rw [← length_fraction_ofDecimal d]
      exact hrange.scale_le
    · rw [← hmagnitude]
      exact hrange.magnitude_lt
  · rintro ⟨rfl, hscale, hroom⟩
    refine ⟨ofDecimal e, spell_chars e, ⟨?_, ?_⟩, decimal_ofDecimal e⟩
    · rw [length_fraction_ofDecimal]
      exact hscale
    · rw [hmagnitude]
      exact hroom

theorem ofText?_text_eq_some_iff {d e : Decimal} :
    ofText? d.text = some e ↔ e = d ∧ d.scale ≤ maxScale ∧ d.unscaled.natAbs < 2 ^ 127 := by
  have hstripped : Text.stripped d.chars = d.chars :=
    (Text.trimmed_of_no_blanks (spell_chars d).no_blanks).stripped_eq
  rw [ofText?, toList_text, hstripped, ofChars?_eq_some_iff, spells_chars_iff]

theorem ofText?_text {d : Decimal} (h : d.WellFormed) (hleast : d.unscaled ≠ -2 ^ 127) :
    ofText? d.text = some d := by
  obtain ⟨hscale, hlow, hhigh⟩ := h
  exact ofText?_text_eq_some_iff.mpr ⟨rfl, hscale, by omega⟩

theorem ofText?_text_of_least {d : Decimal} (hleast : d.unscaled = -2 ^ 127) :
    ofText? d.text = none := by
  rw [Option.eq_none_iff_forall_ne_some]
  intro e he
  obtain ⟨_, _, hroom⟩ := ofText?_text_eq_some_iff.mp he
  rw [hleast] at hroom
  exact absurd hroom (by decide)

/-- A decimal in range is read back from its text unless its integer is the least one.  The
digits of that one have no room without their sign, and its text is refused. -/
theorem text_read_back {d : Decimal} (h : d.WellFormed) :
    (d.unscaled ≠ -2 ^ 127 → parse d.text = .ok d) ∧
      (d.unscaled = -2 ^ 127 → parse d.text = .error (.typeMismatch .text .decimal)) := by
  constructor
  · intro hleast
    exact parse_eq_ok_iff.mpr (ofText?_text h hleast)
  · intro hleast
    exact parse_eq_error (ofText?_text_of_least hleast)

/-- The greatest integer with as many places as there may be. -/
theorem greatest_read_back :
    (⟨2 ^ 127 - 1, 38⟩ : Decimal).WellFormed ∧
      parse (⟨2 ^ 127 - 1, 38⟩ : Decimal).text = .ok ⟨2 ^ 127 - 1, 38⟩ := by
  have hformed : (⟨2 ^ 127 - 1, 38⟩ : Decimal).WellFormed := by decide
  exact ⟨hformed, (text_read_back hformed).1 (by decide)⟩

/-- Not every decimal in range is read back from its text. -/
theorem least_not_read_back :
    ofParts? (-2 ^ 127) 0 = some ⟨-2 ^ 127, 0⟩ ∧
      (⟨-2 ^ 127, 0⟩ : Decimal).text = "-170141183460469231731687303715884105728" ∧
        parse "-170141183460469231731687303715884105728" =
          .error (.typeMismatch .text .decimal) ∧
          ¬∀ d : Decimal, d.WellFormed → parse d.text = .ok d := by
  have htext : (⟨-2 ^ 127, 0⟩ : Decimal).text = "-170141183460469231731687303715884105728" := by
    decide +kernel
  have hrefused : parse "-170141183460469231731687303715884105728" =
      .error (.typeMismatch .text .decimal) := by
    rw [← htext]
    exact parse_eq_error (ofText?_text_of_least rfl)
  refine ⟨by decide, htext, hrefused, ?_⟩
  intro hall
  have hread := hall ⟨-2 ^ 127, 0⟩ (by decide)
  rw [htext, hrefused] at hread
  cases hread

/-! ## The exact grammar -/

/-- A text is read as a decimal exactly if it spells the decimal between blanks, and every other
text is refused.  A decimal is printed with a minus exactly if it is negative, with no superfluous
zeros before the point, and with exactly its places behind the point, which is left out where
there are none; and what is printed stands for exactly the number that the decimal stands for. -/
theorem text_exact :
    (∀ s d, parse s = .ok d ↔ ∃ core, Text.BetweenBlanks core s.toList ∧ Spells core d) ∧
      (∀ s, (¬∃ core d, Text.BetweenBlanks core s.toList ∧ Spells core d) →
        parse s = .error (.typeMismatch .text .decimal)) ∧
        ∀ d : Decimal, ∃ p : Parts, d.text = String.ofList p.printed ∧ p.Canonical ∧
          (p.negative = true ↔ d.unscaled < 0) ∧ p.fraction.length = d.scale ∧
            p.toRat = d.toRat := by
  refine ⟨?_, ?_, ?_⟩
  · intro s d
    rw [parse_eq_ok_iff, ofText?_eq_some_iff]
  · intro s hnone
    apply parse_eq_error
    rw [Option.eq_none_iff_forall_ne_some]
    intro d hd
    obtain ⟨core, hcore⟩ := ofText?_eq_some_iff.mp hd
    exact hnone ⟨core, d, hcore⟩
  · intro d
    refine ⟨ofDecimal d, ?_, canonical_ofDecimal d, decide_eq_true_iff,
      length_fraction_ofDecimal d, ?_⟩
    · rw [text, chars_eq_printed]
    · rw [← toRat_decimal, decimal_ofDecimal]

/-- A half with a spare digit on either side, between blanks, and a text with two points. -/
theorem spareHalf_exact :
    parse " +00.50\t" = .ok ⟨50, 2⟩ ∧
      parse "1.2.3" = .error (.typeMismatch .text .decimal) ∧
        (Error.typeMismatch .text .decimal).message = "类型不匹配: 无法将 STRING 转换为 Decimal" := by
  have hspell : (⟨false, ['0', '0'], ['5', '0']⟩ : Parts).Spell "+00.50".toList :=
    ⟨by decide, ['+'], "00.50".toList, Sign.plus, Parts.Pointed.point _ _, rfl⟩
  have hbetween : Text.BetweenBlanks "+00.50".toList " +00.50\t".toList :=
    ⟨[' '], ['\t'], List.forall_mem_singleton.mpr (by decide),
      List.forall_mem_singleton.mpr (by decide), rfl⟩
  have hnone : ofText? "1.2.3" = none := by decide +kernel
  refine ⟨(text_exact.1 _ _).mpr ⟨_, hbetween, _, hspell, ⟨by decide, by decide⟩, rfl⟩,
    text_exact.2.1 _ ?_, by decide⟩
  rintro ⟨core, d, hcore⟩
  have hsome := ofText?_eq_some_iff.mpr ⟨core, hcore⟩
  rw [hnone] at hsome
  cases hsome

end QueryReplay.Decimal
