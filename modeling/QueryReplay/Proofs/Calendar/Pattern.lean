import QueryReplay.Calendar.Pattern
import QueryReplay.Proofs.Text.Blank
import QueryReplay.Proofs.Text.Numeral

/-!
# Patterns read what they write

This file follows the parts of a pattern through a text.  Each part is read
back from what it writes, wherever the text behind it cannot be taken for more
of the part: a year with a sign and a fraction have no fixed number of digits,
and a gap takes all blanks.  By induction on the pattern, all parts together
read back the numbers that they wrote and leave what follows untouched.

So a text that goes on behind what a pattern has written is refused, and a
pattern that cannot read the start of a text reads nothing of it.
-/

namespace QueryReplay.Calendar

open Numeral Text

/-! ## Numbers at the start of a text -/

/-- Digits are read as a number if they are as many as may be, or no digit follows them. -/
theorem number?_append {most : Nat} {ds rest : List Char} (hne : ds ≠ [])
    (hdigits : ∀ c ∈ ds, c.isDigit = true)
    (hend : ds.length = most ∨ (ds.length ≤ most ∧ NoDigitAhead rest)) :
    number? most (ds ++ rest) = some (value ds, rest) := by
  have htaken : ((ds ++ rest).take most).takeWhile Char.isDigit = ds := by
    rcases hend with hlength | ⟨hlength, hrest⟩
    · rw [← hlength, List.take_left]
      exact List.takeWhile_eq_self_iff.mpr hdigits
    · rw [List.take_append, List.take_of_length_le hlength]
      apply takeWhile_isDigit_append hdigits
      intro c hc
      rw [List.head?_take] at hc
      split at hc
      · cases hc
      · exact hrest c hc
  have hsome : ds.isEmpty = false := List.isEmpty_eq_false_iff.mpr hne
  rw [number?, htaken, hsome, if_neg Bool.false_ne_true, List.drop_left]

/-- Where no digit stands, no number is read. -/
theorem number?_of_noDigitAhead {most : Nat} {cs : List Char} (h : NoDigitAhead cs) :
    number? most cs = none := by
  have hnothing : (cs.take most).takeWhile Char.isDigit = [] := by
    cases cs with
    | nil => rw [List.take_nil, List.takeWhile_nil]
    | cons c cs =>
        cases most with
        | zero => rfl
        | succ most =>
            rw [List.take_succ_cons, List.takeWhile_cons_of_neg (by simp [h c rfl])]
  rw [number?, hnothing, List.isEmpty_nil, if_pos rfl]

theorem padded_ne_nil {width : Nat} (hpos : 0 < width) (n : Nat) : padded width n ≠ [] := by
  apply List.ne_nil_of_length_pos
  rw [length_padded]
  omega

/-- A number that is written with all the digits that may be read is read back from any text. -/
theorem number?_padded {most n : Nat} (hpos : 0 < most) (hn : n < 10 ^ most) (rest : List Char) :
    number? most (padded most n ++ rest) = some (n, rest) := by
  rw [number?_append (padded_ne_nil hpos n) (fun _ => isDigit_of_mem_padded)
    (Or.inl (length_padded_of_lt hpos hn)), value_padded]

theorem no_blank_ahead_padded {width : Nat} (hpos : 0 < width) (n : Nat) (rest : List Char) :
    ∀ c ∈ (padded width n ++ rest).head?, isBlank c = false := by
  intro c hc
  rw [List.head?_append, List.head?_eq_some_head (padded_ne_nil hpos n), Option.some_or,
    ← List.head?_eq_some_head] at hc
  exact isBlank_of_isDigit (isDigit_of_mem_padded (List.mem_of_mem_head? hc))

theorem shortNumber?_padded {n : Nat} (hn : n < 100) (rest : List Char) :
    shortNumber? (padded 2 n ++ rest) = some (n, rest) := by
  rw [shortNumber?, dropBlanks_eq_self (no_blank_ahead_padded (by decide) n rest)]
  exact number?_padded (by decide) hn rest

/-! ## Years -/

/-- A sign stands for itself in front of a year. -/
theorem year?_sign {cs : List Char} (negative : Bool) :
    year? ((if negative then '-' else '+') :: cs) =
      (number? cs.length cs).map fun (n, rest) => (withSign negative n, rest) := by
  cases negative with
  | false => rfl
  | true => rfl

/-- A year that starts with a digit has up to four of them. -/
theorem year?_of_digit {c : Char} (hc : c.isDigit = true) (cs : List Char) :
    year? (c :: cs) = (number? 4 (c :: cs)).map fun (n, rest) => ((n : Int), rest) := by
  have hhead : ∀ d ∈ (c :: cs).head?, isBlank d = false := by
    intro d hd
    cases hd
    exact isBlank_of_isDigit hc
  rw [year?, dropBlanks_eq_self hhead]
  split
  · rename_i heq
    rw [(List.cons.inj heq).1] at hc
    exact absurd hc (by decide)
  · rename_i heq
    rw [(List.cons.inj heq).1] at hc
    exact absurd hc (by decide)
  · rfl

theorem year?_padded {width n : Nat} (hpos : 0 < width) {rest : List Char}
    (hend : (padded width n).length = 4 ∨
      ((padded width n).length ≤ 4 ∧ NoDigitAhead rest)) :
    year? (padded width n ++ rest) = some ((n : Int), rest) := by
  obtain ⟨c, cs, hcs⟩ := List.exists_cons_of_ne_nil (padded_ne_nil hpos n)
  have hdigits : ∀ d ∈ padded width n, d.isDigit = true := fun _ => isDigit_of_mem_padded
  have hread := number?_append (padded_ne_nil hpos n) hdigits hend
  have hc : c.isDigit = true := hdigits c (by rw [hcs]; exact List.mem_cons_self)
  rw [value_padded, hcs, List.cons_append] at hread
  rw [hcs, List.cons_append, year?_of_digit hc, hread]
  rfl

/-- A year with a sign is read as far as there are digits. -/
theorem year?_sign_padded (negative : Bool) (n : Nat) {rest : List Char}
    (hrest : NoDigitAhead rest) :
    year? ((if negative then '-' else '+') :: (padded 4 n ++ rest)) =
      some (withSign negative n, rest) := by
  have hlength : (padded 4 n).length ≤ (padded 4 n ++ rest).length := by
    rw [List.length_append]
    exact Nat.le_add_right _ _
  rw [year?_sign, number?_append (padded_ne_nil (by decide) n)
    (fun _ => isDigit_of_mem_padded) (Or.inr ⟨hlength, hrest⟩), value_padded]
  rfl

/-- The digits of a year of four digits, and of any other year. -/
theorem yearDigits_cases (year : Int) :
    (∃ n : Nat, year = n ∧ n < 10 ^ 4 ∧ yearDigits year = padded 4 n) ∨
      ∃ negative, year = withSign negative year.natAbs ∧
        yearDigits year = (if negative then '-' else '+') :: padded 4 year.natAbs := by
  by_cases hshort : 0 ≤ year ∧ year ≤ 9999
  · refine Or.inl ⟨year.toNat, by omega, by omega, ?_⟩
    rw [yearDigits, if_pos hshort]
  · refine Or.inr ⟨decide (year < 0), (withSign_natAbs year).symm, ?_⟩
    rw [yearDigits, if_neg hshort]
    simp only [decide_eq_true_eq]

theorem year?_yearDigits (year : Int) {rest : List Char} (hrest : NoDigitAhead rest) :
    year? (yearDigits year ++ rest) = some (year, rest) := by
  rcases yearDigits_cases year with ⟨n, hyear, hn, hdigits⟩ | ⟨negative, hyear, hdigits⟩
  · rw [hdigits, hyear]
    exact year?_padded (by decide) (Or.inl (length_padded_of_lt (by decide) hn))
  · rw [hdigits, List.cons_append, year?_sign_padded negative _ hrest, ← hyear]

/-! ## Fractions -/

/-- The fraction of a second takes all digits behind its point. -/
theorem fraction?_point {width m : Nat} (hpos : 0 < width) (hwidth : width ≤ 9)
    (hm : m < 10 ^ width) {rest : List Char} (hrest : NoDigitAhead rest) :
    fraction? ('.' :: (padded width m ++ rest)) = some (m * 10 ^ (9 - width), rest) := by
  have hlength := length_padded_of_lt hpos hm
  have hdigits : (padded width m ++ rest).takeWhile Char.isDigit = padded width m :=
    takeWhile_isDigit_append (fun _ => isDigit_of_mem_padded) hrest
  have hsome : (padded width m).isEmpty = false :=
    List.isEmpty_eq_false_iff.mpr (padded_ne_nil hpos m)
  have hfirst : (padded width m).take 9 = padded width m :=
    List.take_of_length_le (by omega)
  simp only [fraction?, hdigits, hsome, hfirst, if_neg Bool.false_ne_true, value_padded, hlength,
    List.drop_left' hlength]

theorem fraction?_fractionDigits {nanos : Nat} (hn : nanos < 10 ^ 9) {rest : List Char}
    (hdigit : NoDigitAhead rest) (hpoint : ∀ c ∈ rest.head?, c ≠ '.') :
    fraction? (fractionDigits nanos ++ rest) = some (nanos, rest) := by
  unfold fractionDigits
  split
  · rename_i hzero
    subst hzero
    rw [List.nil_append, fraction?]
    rintro cs rfl
    exact absurd rfl (hpoint '.' rfl)
  · split
    · -- Three digits, for whole thousandths.
      rename_i hmillis
      rw [List.cons_append, fraction?_point (by decide) (by decide) (by omega) hdigit]
      rw [show nanos / 1000000 * 10 ^ (9 - 3) = nanos by omega]
    · split
      · rename_i hmicros
        rw [List.cons_append, fraction?_point (by decide) (by decide) (by omega) hdigit]
        rw [show nanos / 1000 * 10 ^ (9 - 6) = nanos by omega]
      · rw [List.cons_append, fraction?_point (by decide) (by decide) hn hdigit]
        rw [show nanos * 10 ^ (9 - 9) = nanos by omega]

/-! ## Parts -/

/-- Numbers that a clock and a calendar show: months, days, hours, minutes and seconds with at
most two digits, and less than a second of nanoseconds. -/
structure Fields.InRange (f : Fields) : Prop where
  month_lt : f.month < 100
  day_lt : f.day < 100
  hour_lt : f.hour < 100
  minute_lt : f.minute < 100
  second_lt : f.second < 100
  nanos_lt : f.nanos < 10 ^ 9

/-- The fields with the number that a part stands for taken from `g`. -/
def Part.copy (g f : Fields) : Part → Fields
  | .year => { f with year := g.year }
  | .month => { f with month := g.month }
  | .day => { f with day := g.day }
  | .hour => { f with hour := g.hour }
  | .minute => { f with minute := g.minute }
  | .second => { f with second := g.second }
  | .fraction => { f with nanos := g.nanos }
  | .gap => f
  | .mark _ => f

/-- What follows a part cannot be taken for more of it. -/
def Part.EndsBefore (rest : List Char) : Part → Prop
  | .year => NoDigitAhead rest
  | .fraction => NoDigitAhead rest ∧ ∀ c ∈ rest.head?, c ≠ '.'
  | .gap => ∀ c ∈ rest.head?, isBlank c = false
  | _ => True

theorem Part.read?_write {g f : Fields} (hg : g.InRange) {part : Part} {rest : List Char}
    (hrest : part.EndsBefore rest) :
    part.read? f (part.write g ++ rest) = some (part.copy g f, rest) := by
  cases part with
  | year => exact congrArg (Option.map _) (year?_yearDigits g.year hrest)
  | month => exact congrArg (Option.map _) (shortNumber?_padded hg.month_lt rest)
  | day => exact congrArg (Option.map _) (shortNumber?_padded hg.day_lt rest)
  | hour => exact congrArg (Option.map _) (shortNumber?_padded hg.hour_lt rest)
  | minute => exact congrArg (Option.map _) (shortNumber?_padded hg.minute_lt rest)
  | second => exact congrArg (Option.map _) (shortNumber?_padded hg.second_lt rest)
  | fraction =>
      exact congrArg (Option.map _) (fraction?_fractionDigits hg.nanos_lt hrest.1 hrest.2)
  | gap =>
      have hblank : ∀ c ∈ [' '], isBlank c = true := List.forall_mem_singleton.mpr (by decide)
      have hrest' : dropBlanks rest = rest := dropBlanks_eq_self hrest
      rw [read?, write, dropBlanks_append hblank, hrest']
      rfl
  | mark c => exact if_pos rfl

/-! ## Patterns -/

namespace Pattern

/-- The fields with the numbers that the parts stand for taken from `g`. -/
def copy (g f : Fields) (p : Pattern) : Fields :=
  p.foldl (fun f part => part.copy g f) f

/-- Each part is followed by what cannot be taken for more of it. -/
def Separated (g : Fields) (rest : List Char) : Pattern → Prop
  | [] => True
  | part :: p => part.EndsBefore (write p g ++ rest) ∧ Separated g rest p

/-- A pattern reads back what it has written, and leaves what follows. -/
theorem readFrom?_write {g : Fields} (hg : g.InRange) {p : Pattern} {rest : List Char}
    (hp : Separated g rest p) (f : Fields) :
    readFrom? f (write p g ++ rest) p = some (copy g f p, rest) := by
  induction p generalizing f with
  | nil => rfl
  | cons part p ih =>
      have hwrite : write (part :: p) g = part.write g ++ write p g := List.flatMap_cons
      rw [hwrite, List.append_assoc, readFrom?, Part.read?_write hg hp.1]
      exact ih hp.2 (part.copy g f)

theorem readFrom?_append (f : Fields) (cs : List Char) (p q : Pattern) :
    readFrom? f cs (p ++ q) =
      (readFrom? f cs p).bind fun (f, rest) => readFrom? f rest q := by
  induction p generalizing f cs with
  | nil => rfl
  | cons part p ih =>
      rw [List.cons_append, readFrom?, readFrom?]
      cases part.read? f cs with
      | none => rfl
      | some read => exact ih read.1 read.2

theorem write_append (p q : Pattern) (g : Fields) : write (p ++ q) g = write p g ++ write q g :=
  List.flatMap_append

/-- A text that is written by the pattern alone is read back. -/
theorem read?_write {g : Fields} (hg : g.InRange) {p : Pattern} (hp : Separated g [] p) :
    read? p (write p g) = some (copy g {} p) := by
  have hread := readFrom?_write hg hp {}
  rw [List.append_nil] at hread
  rw [read?, hread]

/-- A text that goes on behind the pattern is refused. -/
theorem read?_of_rest {g : Fields} (hg : g.InRange) {p : Pattern} {rest : List Char}
    (hp : Separated g rest p) (hne : rest ≠ []) : read? p (write p g ++ rest) = none := by
  obtain ⟨c, cs, rfl⟩ := List.exists_cons_of_ne_nil hne
  rw [read?, readFrom?_write hg hp]

/-- A pattern whose start cannot be read reads nothing. -/
theorem read?_of_start {p q : Pattern} {cs : List Char} (h : readFrom? {} cs p = none) :
    read? (p ++ q) cs = none := by
  rw [read?, readFrom?_append, h]
  rfl

end Pattern

end QueryReplay.Calendar
