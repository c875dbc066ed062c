import QueryReplay.Number.Power
import QueryReplay.Text.Blank
import QueryReplay.Text.Numeral

/-!
# Numerals and their numbers

This file relates strings of digits to the numbers that they stand for.  The
digits of a number stand for the number, zeros in front of them do not count,
and a string that is cut in two stands for the sum of its parts, the first one
shifted by the places of the second.  Digits at the start of a text end where
the first other character stands.

The digits of a number have no zero in front, unless the number is zero.
-/

namespace QueryReplay.Numeral

/-! ## Strings of digits -/

theorem isNumeral_iff {cs : List Char} :
    isNumeral cs = true ↔ cs ≠ [] ∧ ∀ c ∈ cs, c.isDigit = true := by
  simp [isNumeral]

theorem value_append (xs ys : List Char) :
    value (xs ++ ys) = value xs * 10 ^ ys.length + value ys := by
  rw [value, value, value, Nat.ofDigitChars_append, Nat.ofDigitChars_eq_ofDigitChars_zero,
    Nat.mul_comm]

theorem value_replicate_zero (count : Nat) : value (List.replicate count '0') = 0 := by
  rw [value, Nat.ofDigitChars_replicate_zero, Nat.mul_zero]

/-! ## The digits of a number -/

theorem value_digits (n : Nat) : value (digits n) = n :=
  Nat.ofDigitChars_ten_toDigits

theorem digits_ne_nil (n : Nat) : digits n ≠ [] :=
  Nat.toDigits_ne_nil

theorem isDigit_of_mem_digits {n : Nat} {c : Char} (h : c ∈ digits n) : c.isDigit = true :=
  Nat.isDigit_of_mem_toDigits (by decide) (by decide) h

private theorem digits_eq_if (n : Nat) :
    digits n = if n < 10 then [n.digitChar] else digits (n / 10) ++ [(n % 10).digitChar] :=
  Nat.toDigits_eq_if (by decide)

/-- The first digit is a zero only where it is the only one. -/
theorem digits_of_head?_zero {n : Nat} (h : (digits n).head? = some '0') : digits n = ['0'] := by
  induction n using Nat.strongRecOn with
  | ind n ih =>
      by_cases hsmall : n < 10
      · rw [digits_eq_if, if_pos hsmall] at h ⊢
        exact congrArg (fun c => [c]) (Option.some.inj h)
      · -- The first digits are those of a smaller number, which is not zero.
        rw [digits_eq_if, if_neg hsmall, List.head?_append] at h
        have hfirst : (digits (n / 10)).head? = some '0' := by
          cases hhead : (digits (n / 10)).head? with
          | none => exact absurd (List.head?_eq_none_iff.mp hhead) (digits_ne_nil _)
          | some c =>
              rw [hhead] at h
              exact h
        have hzero := value_digits (n / 10)
        rw [ih (n / 10) (by omega) hfirst] at hzero
        have hquotient : (0 : Nat) = n / 10 := hzero
        omega

/-! ## Zeros in front -/

theorem length_padded (width n : Nat) :
    (padded width n).length = max width (digits n).length := by
  rw [padded, List.length_append, List.length_replicate]
  omega

theorem value_padded (width n : Nat) : value (padded width n) = n := by
  rw [padded, value_append, value_replicate_zero, Nat.zero_mul, Nat.zero_add, value_digits]

theorem isDigit_of_mem_padded {width n : Nat} {c : Char} (h : c ∈ padded width n) :
    c.isDigit = true := by
  rcases List.mem_append.mp h with hzero | hdigit
  · rw [List.eq_of_mem_replicate hzero]
    rfl
  · exact isDigit_of_mem_digits hdigit

theorem padded_of_le {width n : Nat} (h : width ≤ (digits n).length) :
    padded width n = digits n := by
  rw [padded, Nat.sub_eq_zero_of_le h, List.replicate_zero, List.nil_append]

theorem length_padded_of_lt {width n : Nat} (hpos : 0 < width) (hn : n < 10 ^ width) :
    (padded width n).length = width := by
  rw [length_padded]
  exact Nat.max_eq_left ((Nat.length_toDigits_le_iff (by decide) hpos).mpr hn)

/-! ## Digits at the start of a text -/

/-- No digit stands at the start of the text. -/
def NoDigitAhead (cs : List Char) : Prop :=
  ∀ c ∈ cs.head?, c.isDigit = false

theorem noDigitAhead_nil : NoDigitAhead [] := by
  intro c hc
  cases hc

theorem noDigitAhead_cons {c : Char} (h : c.isDigit = false) (cs : List Char) :
    NoDigitAhead (c :: cs) := by
  intro d hd
  cases hd
  exact h

theorem takeWhile_isDigit_append {ds rest : List Char} (hdigits : ∀ c ∈ ds, c.isDigit = true)
    (hrest : NoDigitAhead rest) : (ds ++ rest).takeWhile Char.isDigit = ds := by
  rw [List.takeWhile_append_of_pos hdigits]
  cases rest with
  | nil => exact List.append_nil ds
  | cons c rest =>
      have hc : ¬c.isDigit = true := ne_true_of_eq_false (hrest c rfl)
      rw [List.takeWhile_cons_of_neg hc, List.append_nil]

/-! ## Signs -/

/-- The ways to write a sign.  The flag says whether it is a minus. -/
inductive Sign : Bool → List Char → Prop where
  | unwritten : Sign false []
  | plus : Sign false ['+']
  | minus : Sign true ['-']

theorem Sign.no_blanks {negative : Bool} {sign : List Char} (h : Sign negative sign) :
    ∀ c ∈ sign, Text.isBlank c = false := by
  cases h with
  | unwritten => exact List.forall_mem_nil _
  | plus => exact List.forall_mem_singleton.mpr (by decide)
  | minus => exact List.forall_mem_singleton.mpr (by decide)

theorem exists_sign (cs : List Char) :
    ∃ sign, Sign (signed cs).1 sign ∧ cs = sign ++ (signed cs).2 := by
  fun_cases signed cs with
  | case1 cs => exact ⟨['-'], Sign.minus, rfl⟩
  | case2 cs => exact ⟨['+'], Sign.plus, rfl⟩
  | case3 cs => exact ⟨[], Sign.unwritten, rfl⟩

/-- A text that starts with no sign is found again behind any sign. -/
theorem signed_append {negative : Bool} {sign body : List Char} (h : Sign negative sign)
    (hbody : ∀ c ∈ body.head?, c ≠ '-' ∧ c ≠ '+') : signed (sign ++ body) = (negative, body) := by
  cases h with
  | minus => rfl
  | plus => rfl
  | unwritten =>
      cases body with
      | nil => rfl
      | cons c body =>
          obtain ⟨hminus, hplus⟩ := hbody c rfl
          rw [List.nil_append]
          unfold signed
          split
          · rename_i heq
            exact absurd (List.cons.inj heq).1 hminus
          · rename_i heq
            exact absurd (List.cons.inj heq).1 hplus
          · rfl

theorem withSign_natAbs (i : Int) : withSign (decide (i < 0)) i.natAbs = i := by
  by_cases hneg : i < 0
  · rw [decide_eq_true hneg, withSign, if_pos rfl]
    omega
  · rw [decide_eq_false hneg, withSign, if_neg Bool.false_ne_true]
    omega

theorem natAbs_withSign (negative : Bool) (magnitude : Nat) :
    (withSign negative magnitude).natAbs = magnitude := by
  cases negative with
  | false => exact Int.natAbs_natCast magnitude
  | true => exact (Int.natAbs_neg _).trans (Int.natAbs_natCast magnitude)

/-- An integer is read back from its digits. -/
theorem int?_ofInt (i : Int) : int? (ofInt i) = some i := by
  have hvalue : value? (digits i.natAbs) = some i.natAbs := by
    have hnumeral : isNumeral (digits i.natAbs) = true :=
      isNumeral_iff.mpr ⟨digits_ne_nil _, fun _ => isDigit_of_mem_digits⟩
    rw [value?, if_pos hnumeral, value_digits]
  have hunsigned : ∀ c ∈ (digits i.natAbs).head?, c ≠ '-' ∧ c ≠ '+' := by
    intro c hc
    have hdigit := isDigit_of_mem_digits (List.mem_of_mem_head? hc)
    constructor
    · rintro rfl
      exact absurd hdigit (by decide)
    · rintro rfl
      exact absurd hdigit (by decide)
  have hsigned : signed (ofInt i) = (decide (i < 0), digits i.natAbs) := by
    by_cases hneg : i < 0
    · rw [ofInt, if_pos hneg, decide_eq_true hneg]
      exact signed_append Sign.minus hunsigned
    · rw [ofInt, if_neg hneg, decide_eq_false hneg]
      exact signed_append Sign.unwritten hunsigned
  simp only [int?, hsigned, hvalue, Option.map_some, withSign_natAbs]

end QueryReplay.Numeral
