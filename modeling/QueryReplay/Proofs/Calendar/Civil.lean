import QueryReplay.Proofs.Calendar.Epoch

/-!
# Dates by year, month and day, and times by the clock

This file shows that a date is found again by its year, month and day of the
month, and a time of day by what a clock shows.  The mean length of a year
places a date within one year of the right one, on either side of year 1, and
the two corrections of that guess leave the year that the date lies in.  Leap
seconds are the seconds 60 of a clock.
-/

namespace QueryReplay

namespace Date

/-! ## Years -/

theorem yearStart_succ (year : Int) :
    yearStart (year + 1) = yearStart year + if isLeapYear year then 366 else 365 := by
  simp only [yearStart, isLeapYear, Bool.and_eq_true, Bool.or_eq_true, beq_iff_eq, bne_iff_ne]
  split
  · omega
  · omega

theorem yearStart_mono {a b : Int} (h : a ≤ b) : yearStart a ≤ yearStart b := by
  simp only [yearStart]
  omega

/-- A date lies in its year. -/
theorem days_in_year (d : Date) : yearStart d.year < d.days ∧ d.days ≤ yearStart (d.year + 1) := by
  simp only [year]
  split
  · -- The guess is one year late.
    simp only [yearStart] at *
    omega
  · split
    · -- The guess is one year early.
      simp only [yearStart] at *
      omega
    · exact ⟨not_le.mp ‹_›, not_lt.mp ‹_›⟩

theorem WellFormed.year_range {d : Date} (h : d.WellFormed) :
    minYear ≤ d.year ∧ d.year ≤ maxYear := by
  obtain ⟨hlow, hhigh⟩ := h
  obtain ⟨hstart, hend⟩ := days_in_year d
  constructor
  · by_contra hbefore
    have hle := yearStart_mono (show d.year + 1 ≤ minYear by omega)
    omega
  · by_contra hbehind
    have hle := yearStart_mono (show maxYear + 1 ≤ d.year by omega)
    omega

/-! ## Months -/

theorem monthStart_succ (leap : Bool) {month : Nat} (hfirst : 1 ≤ month) (hlast : month ≤ 12) :
    monthStart leap (month + 1) = monthStart leap month + monthLength leap month := by
  have hall : ∀ leap : Bool, ∀ month : Fin 12,
      monthStart leap (month.val + 2) =
        monthStart leap (month.val + 1) + monthLength leap (month.val + 1) := by decide
  have hmonth := hall leap ⟨month - 1, by omega⟩
  rwa [show month - 1 + 2 = month + 1 by omega, show month - 1 + 1 = month by omega] at hmonth

/-- A day that starts by the end of month `last` lies in the month that is found from there
down. -/
theorem day_in_month (leap : Bool) {day last : Nat} (hday : 0 < day)
    (hend : day ≤ monthStart leap (last + 1)) :
    (1 ≤ monthOf leap day last ∧ monthOf leap day last ≤ last) ∧
      monthStart leap (monthOf leap day last) < day ∧
        day ≤ monthStart leap (monthOf leap day last + 1) := by
  induction last with
  | zero =>
      have hnothing : monthStart leap 1 = 0 := by
        cases leap with
        | false => rfl
        | true => rfl
      rw [hnothing] at hend
      exact absurd hend (not_le.mpr hday)
  | succ last ih =>
      rw [monthOf]
      split
      · rename_i hstart
        exact ⟨⟨Nat.le_add_left 1 last, le_refl _⟩, hstart, hend⟩
      · rename_i hbefore
        obtain ⟨⟨hfirst, hlast⟩, hmonth⟩ := ih (not_lt.mp hbefore)
        exact ⟨⟨hfirst, hlast.trans (Nat.le_succ last)⟩, hmonth⟩

/-! ## Year, month and day -/

/-- The number of a date in its year, counted from 1. -/
theorem exists_dayOfYear (d : Date) :
    ∃ day : Nat, (d.days - yearStart d.year).toNat = day ∧ d.days = yearStart d.year + day ∧
      0 < day ∧ day ≤ monthStart (isLeapYear d.year) 13 := by
  obtain ⟨hstart, hend⟩ := days_in_year d
  have hlength : (monthStart (isLeapYear d.year) 13 : Int) =
      if isLeapYear d.year then 366 else 365 := by
    cases isLeapYear d.year with
    | false => rfl
    | true => rfl
  rw [yearStart_succ, ← hlength] at hend
  refine ⟨_, rfl, ?_, ?_, ?_⟩
  · omega
  · omega
  · omega

/-- A date is the day that its year, month and day of the month name. -/
theorem ofCivil?_civil {d : Date} (h : d.WellFormed) : ofCivil? d.civil = some d := by
  obtain ⟨hminYear, hmaxYear⟩ := h.year_range
  obtain ⟨day, hday, hdays, hfirstDay, hlastDay⟩ := exists_dayOfYear d
  obtain ⟨⟨hfirst, hlast⟩, hstart, hend⟩ := day_in_month (isLeapYear d.year) hfirstDay hlastDay
  rw [monthStart_succ _ hfirst hlast] at hend
  simp only [civil, ofCivil?, hday]
  generalize monthOf (isLeapYear d.year) day 12 = month at *
  have hdayFirst : 1 ≤ day - monthStart (isLeapYear d.year) month := by omega
  have hdayLast : day - monthStart (isLeapYear d.year) month ≤
      monthLength (isLeapYear d.year) month := by omega
  rw [if_pos ⟨hminYear, hmaxYear, hfirst, hlast, hdayFirst, hdayLast⟩]
  have hsum : yearStart d.year + monthStart (isLeapYear d.year) month +
      (day - monthStart (isLeapYear d.year) month : Nat) = d.days := by omega
  rw [hsum]

/-- Months and days have at most two digits. -/
theorem ofCivil?_eq_some {c : CivilDate} {d : Date} (h : ofCivil? c = some d) :
    c.month ≤ 12 ∧ c.day ≤ 31 := by
  rw [ofCivil?, Option.ite_none_right_eq_some] at h
  obtain ⟨⟨_, _, _, hmonth, _, hday⟩, _⟩ := h
  refine ⟨hmonth, hday.trans ?_⟩
  rw [monthLength]
  split_ifs <;> omega

end Date

namespace TimeOfDay

theorem clock_le {t : TimeOfDay} (h : t.WellFormed) :
    t.hour ≤ 23 ∧ t.minute ≤ 59 ∧ t.second ≤ 60 := by
  obtain ⟨hseconds, hnanos, hleap⟩ := h
  unfold daySeconds at hseconds
  unfold secondNanos at hnanos hleap
  unfold hour minute second secondNanos
  omega

/-- A time is the one that its clock shows. -/
theorem ofClock?_clock {t : TimeOfDay} (h : t.WellFormed) :
    ofClock? t.hour t.minute t.second t.subsecond = some t := by
  obtain ⟨hhour, hminute, hsecond⟩ := clock_le h
  obtain ⟨hseconds, hnanos, hleap⟩ := id h
  unfold daySeconds at hseconds
  unfold secondNanos at hnanos hleap
  have hclock : ¬(23 < t.hour ∨ 59 < t.minute ∨ 60 < t.second) := by omega
  rw [ofClock?, if_neg hclock]
  split
  · -- Second 60 is shown in a leap second only.
    rename_i hsixty
    unfold second secondNanos at hsixty
    apply ofParts?_eq_some_iff.mpr
    unfold hour minute subsecond secondNanos
    refine ⟨⟨?_, ?_⟩, h⟩
    · omega
    · omega
  · rename_i hplain
    unfold second secondNanos at hplain
    apply ofParts?_eq_some_iff.mpr
    unfold hour minute second subsecond secondNanos
    refine ⟨⟨?_, ?_⟩, h⟩
    · omega
    · omega

end TimeOfDay

end QueryReplay
