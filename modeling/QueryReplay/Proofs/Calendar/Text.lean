import Mathlib.Data.List.Basic
import QueryReplay.Proofs.Calendar.Civil
import QueryReplay.Proofs.Calendar.Pattern

/-!
# Dates and times are read back from their texts

This file shows that timestamps, dates and times of day are read back from
their texts, over the whole calendar and with leap seconds.  The text of one of
them is never read as another: a date in front of a time leaves the time over,
a date alone has no time behind it, and a time starts like no date.
-/

namespace QueryReplay.Calendar

open Numeral Text

/-! ## What is written has no blanks but its gaps -/

/-- The part writes no blank. -/
def Part.Inked : Part → Prop
  | .gap => False
  | .mark c => isBlank c = false
  | _ => True

instance : (part : Part) → Decidable part.Inked
  | .gap => inferInstanceAs (Decidable False)
  | .mark c => inferInstanceAs (Decidable (isBlank c = false))
  | .year | .month | .day | .hour | .minute | .second | .fraction =>
    inferInstanceAs (Decidable True)

theorem no_blanks_padded (width n : Nat) : ∀ c ∈ padded width n, isBlank c = false :=
  fun _ hc => isBlank_of_isDigit (isDigit_of_mem_padded hc)

theorem no_blanks_yearDigits (year : Int) : ∀ c ∈ yearDigits year, isBlank c = false := by
  intro c hc
  rcases yearDigits_cases year with ⟨n, _, _, hdigits⟩ | ⟨negative, _, hdigits⟩
  · rw [hdigits] at hc
    exact no_blanks_padded 4 n c hc
  · rw [hdigits] at hc
    rcases List.mem_cons.mp hc with rfl | hc
    · cases negative with
      | false => decide
      | true => decide
    · exact no_blanks_padded 4 _ c hc

theorem no_blanks_fractionDigits (nanos : Nat) :
    ∀ c ∈ fractionDigits nanos, isBlank c = false := by
  have hpoint : ∀ width n, ∀ c ∈ '.' :: padded width n, isBlank c = false := by
    intro width n
    exact List.forall_mem_cons.mpr ⟨by decide, no_blanks_padded width n⟩
  unfold fractionDigits
  split_ifs
  · exact List.forall_mem_nil _
  · exact hpoint 3 _
  · exact hpoint 6 _
  · exact hpoint 9 _

theorem Part.no_blanks_write (g : Fields) {part : Part} (h : part.Inked) :
    ∀ c ∈ part.write g, isBlank c = false := by
  cases part with
  | year => exact no_blanks_yearDigits g.year
  | fraction => exact no_blanks_fractionDigits g.nanos
  | gap => exact h.elim
  | mark c => exact List.forall_mem_singleton.mpr h
  | _ => exact no_blanks_padded 2 _

theorem Pattern.no_blanks_write (g : Fields) {p : Pattern} (h : ∀ part ∈ p, part.Inked) :
    ∀ c ∈ write p g, isBlank c = false := by
  intro c hc
  obtain ⟨part, hpart, hc⟩ := List.mem_flatMap.mp hc
  exact Part.no_blanks_write g (h part hpart) c hc

/-! ## The patterns of dates and times -/

theorem separated_date (g : Fields) (rest : List Char) :
    Pattern.Separated g rest datePattern :=
  ⟨noDigitAhead_cons (by decide) _, trivial, trivial, trivial, trivial, trivial⟩

theorem separated_time (g : Fields) : Pattern.Separated g [] timePattern := by
  refine ⟨trivial, trivial, trivial, trivial, trivial, ⟨noDigitAhead_nil, ?_⟩, trivial⟩
  intro c hc
  cases hc

theorem write_timestamp (g : Fields) :
    timestampPattern.write g = datePattern.write g ++ ([' '] ++ timePattern.write g) :=
  Pattern.write_append datePattern (.gap :: timePattern) g

theorem separated_timestamp (g : Fields) : Pattern.Separated g [] timestampPattern := by
  have hgap : Part.EndsBefore (timePattern.write g ++ []) .gap := by
    have hhour : timePattern.write g ++ [] = padded 2 g.hour ++ (':' :: padded 2 g.minute ++
        (':' :: padded 2 g.second ++ fractionDigits g.nanos)) := by
      simp [timePattern, minutePattern, Pattern.write, Part.write]
    rw [hhour]
    exact no_blank_ahead_padded (by decide) g.hour _
  exact ⟨noDigitAhead_cons (by decide) _, trivial, trivial, trivial, trivial, hgap,
    separated_time g⟩

theorem no_blanks_write_date (g : Fields) : ∀ c ∈ datePattern.write g, isBlank c = false :=
  Pattern.no_blanks_write g (by decide)

theorem no_blanks_write_time (g : Fields) : ∀ c ∈ timePattern.write g, isBlank c = false :=
  Pattern.no_blanks_write g (by decide)

theorem write_date_ne_nil (g : Fields) : datePattern.write g ≠ [] := by
  intro h
  have hmark : '-' ∈ datePattern.write g :=
    List.mem_flatMap.mpr ⟨.mark '-', by decide, List.mem_singleton_self '-'⟩
  rw [h] at hmark
  cases hmark

theorem write_time_ne_nil (g : Fields) : timePattern.write g ≠ [] := by
  intro h
  have hmark : ':' ∈ timePattern.write g :=
    List.mem_flatMap.mpr ⟨.mark ':', by decide, List.mem_singleton_self ':'⟩
  rw [h] at hmark
  cases hmark

theorem trimmed_write_timestamp (g : Fields) : Trimmed (timestampPattern.write g) := by
  rw [write_timestamp]
  exact trimmed_append (no_blanks_write_date g) (no_blanks_write_time g) (write_date_ne_nil g)
    (write_time_ne_nil g) [' ']

/-! ## Dates and times are told apart -/

theorem Part.read?_mark_of_ne (f : Fields) {c d : Char} (h : c ≠ d) (cs : List Char) :
    (Part.mark c).read? f (d :: cs) = none :=
  if_neg h

/-- No date is read off a text that starts with an hour and a colon. -/
theorem readFrom?_date_of_hour (f : Fields) {hour : Nat} (h : hour < 100) (rest : List Char) :
    Pattern.readFrom? f (padded 2 hour ++ ':' :: rest) datePattern = none := by
  have hlength : (padded 2 hour).length = 2 := length_padded_of_lt (by decide) h
  have hyear : year? (padded 2 hour ++ ':' :: rest) = some ((hour : Int), ':' :: rest) :=
    year?_padded (by decide) (Or.inr ⟨by omega, noDigitAhead_cons (by decide) rest⟩)
  have hread : Part.year.read? f (padded 2 hour ++ ':' :: rest) =
      some ({ f with year := hour }, ':' :: rest) := congrArg (Option.map _) hyear
  rw [datePattern, Pattern.readFrom?, hread]
  rfl

/-- A number of two digits leaves the third of four. -/
theorem exists_shortNumber?_padded_four {n : Nat} (hn : n < 10 ^ 4) (rest : List Char) :
    ∃ m c cs, c.isDigit = true ∧ shortNumber? (padded 4 n ++ rest) = some (m, c :: cs) := by
  have hlength : (padded 4 n).length = 4 := length_padded_of_lt (by decide) hn
  have hdigits : ∀ c ∈ padded 4 n, c.isDigit = true := fun _ => isDigit_of_mem_padded
  rw [shortNumber?, dropBlanks_eq_self (no_blank_ahead_padded (by decide) n rest)]
  obtain ⟨a, b, c, d, hfour⟩ := List.length_eq_four.mp hlength
  rw [hfour] at hdigits ⊢
  obtain ⟨ha, hb, hc, _⟩ : a.isDigit = true ∧ b.isDigit = true ∧ c.isDigit = true ∧
      d.isDigit = true := by simpa using hdigits
  have hfront : ∀ e ∈ [a, b], e.isDigit = true := by simp [ha, hb]
  exact ⟨value [a, b], c, d :: rest, hc,
    number?_append (List.cons_ne_nil a [b]) hfront (Or.inl rfl)⟩

/-- No number of two digits stands at a sign. -/
theorem shortNumber?_sign (negative : Bool) (cs : List Char) :
    shortNumber? ((if negative then '-' else '+') :: cs) = none := by
  have hsign : ∀ negative : Bool, isBlank (if negative then '-' else '+') = false ∧
      Char.isDigit (if negative then '-' else '+') = false := by decide
  obtain ⟨hblank, hdigit⟩ := hsign negative
  have hhead : ∀ c ∈ ((if negative then '-' else '+') :: cs).head?, isBlank c = false := by
    intro c hc
    cases hc
    exact hblank
  rw [shortNumber?, dropBlanks_eq_self hhead]
  exact number?_of_noDigitAhead (noDigitAhead_cons hdigit cs)

/-- An hour and a colon are not read off a text that starts with a year. -/
theorem readFrom?_minute_of_year (f : Fields) (year : Int) (rest : List Char) :
    Pattern.readFrom? f (yearDigits year ++ rest) minutePattern = none := by
  rcases yearDigits_cases year with ⟨n, _, hn, hdigits⟩ | ⟨negative, _, hdigits⟩
  · -- Of four digits the hour takes two, and the colon meets the third.
    obtain ⟨m, c, cs, hc, hshort⟩ := exists_shortNumber?_padded_four hn rest
    have hcolon : ':' ≠ c := by
      rintro rfl
      exact absurd hc (by decide)
    have hread : Part.hour.read? f (padded 4 n ++ rest) = some ({ f with hour := m }, c :: cs) :=
      congrArg (Option.map _) hshort
    rw [hdigits, minutePattern, Pattern.readFrom?, hread]
    simp only [Pattern.readFrom?, Part.read?_mark_of_ne _ hcolon]
  · have hread : Part.hour.read? f ((if negative then '-' else '+') ::
        (padded 4 year.natAbs ++ rest)) = none :=
      congrArg (Option.map _) (shortNumber?_sign negative _)
    rw [hdigits, List.cons_append, minutePattern, Pattern.readFrom?, hread]

/-! ## The numbers of a date and a time -/

theorem inRange_ofTimestamp {t : Timestamp} (h : t.WellFormed) :
    (Fields.ofTimestamp t).InRange := by
  obtain ⟨hmonth, hday⟩ := Date.ofCivil?_eq_some (Date.ofCivil?_civil h.1)
  obtain ⟨hhour, hminute, hsecond⟩ := TimeOfDay.clock_le h.2
  have hnanos : t.time.subsecond < 1000000000 := Nat.mod_lt _ (by decide)
  constructor
  · exact lt_of_le_of_lt hmonth (by decide)
  · exact lt_of_le_of_lt hday (by decide)
  · exact lt_of_le_of_lt hhour (by decide)
  · exact lt_of_le_of_lt hminute (by decide)
  · exact lt_of_le_of_lt hsecond (by decide)
  · exact hnanos

end QueryReplay.Calendar

namespace QueryReplay

open Calendar Text

/-! ## Timestamps -/

namespace Timestamp

theorem toList_text (t : Timestamp) :
    t.text.toList = timestampPattern.write (.ofTimestamp t) :=
  String.toList_ofList

theorem stripped_text (t : Timestamp) :
    stripped t.text.toList = timestampPattern.write (.ofTimestamp t) := by
  rw [toList_text]
  exact (trimmed_write_timestamp _).stripped_eq

theorem timestamp?_ofTimestamp {t : Timestamp} (h : t.WellFormed) :
    (Fields.ofTimestamp t).timestamp? = some t := by
  have hdate : (Fields.ofTimestamp t).date? = some t.date := Date.ofCivil?_civil h.1
  have htime : (Fields.ofTimestamp t).time? = some t.time := TimeOfDay.ofClock?_clock h.2
  rw [Fields.timestamp?, hdate, htime]

/-- A timestamp is read back from its text. -/
theorem ofText?_text {t : Timestamp} (h : t.WellFormed) : ofText? t.text = some t := by
  have hread : timestampPattern.read? (timestampPattern.write (.ofTimestamp t)) =
      some (Fields.ofTimestamp t) :=
    Pattern.read?_write (inRange_ofTimestamp h) (separated_timestamp _)
  simp only [ofText?, stripped_text, hread, Option.bind_some, timestamp?_ofTimestamp h,
    Option.some_or]

/-- A text whose date cannot be read is no timestamp. -/
theorem ofText?_of_no_date {s : String}
    (h : Pattern.readFrom? {} (stripped s.toList) datePattern = none) : ofText? s = none := by
  have hpattern : ∀ p, Pattern.read? (datePattern ++ p) (stripped s.toList) = none :=
    fun p => Pattern.read?_of_start h
  rw [ofText?]
  simp only [timestampPattern, hpattern, Option.bind_none, Option.none_or]

end Timestamp

/-! ## Dates -/

namespace Date

theorem toList_text (d : Date) :
    d.text.toList = datePattern.write (.ofTimestamp (.startOfDay d)) :=
  String.toList_ofList

theorem stripped_text (d : Date) :
    stripped d.text.toList = datePattern.write (.ofTimestamp (.startOfDay d)) := by
  rw [toList_text]
  exact (trimmed_of_no_blanks (no_blanks_write_date _)).stripped_eq

theorem wellFormed_startOfDay {d : Date} (h : d.WellFormed) :
    (Timestamp.startOfDay d).WellFormed :=
  ⟨h, show TimeOfDay.midnight.WellFormed by decide⟩

/-- A date is read back from its text. -/
theorem ofText?_text {d : Date} (h : d.WellFormed) : ofText? d.text = some d := by
  have hg := inRange_ofTimestamp (wellFormed_startOfDay h)
  rw [ofText?, stripped_text, Pattern.read?_write hg (separated_date _ [])]
  exact ofCivil?_civil h

/-- A text whose date cannot be read is no date. -/
theorem ofText?_of_no_date {s : String}
    (h : Pattern.readFrom? {} (stripped s.toList) datePattern = none) : ofText? s = none := by
  rw [ofText?, Pattern.read?, h]
  rfl

/-- The time of a timestamp is left over behind its date. -/
theorem ofText?_timestamp_text {t : Timestamp} (h : t.WellFormed) : ofText? t.text = none := by
  have hstripped : stripped t.text.toList = datePattern.write (.ofTimestamp t) ++
      ([' '] ++ timePattern.write (.ofTimestamp t)) := by
    rw [Timestamp.stripped_text, write_timestamp]
  have hrest : [' '] ++ timePattern.write (.ofTimestamp t) ≠ [] := List.cons_ne_nil _ _
  rw [ofText?, hstripped, Pattern.read?_of_rest (inRange_ofTimestamp h) (separated_date _ _) hrest]
  rfl

end Date

/-- No time stands behind a date. -/
theorem Timestamp.ofText?_date_text {d : Date} (h : d.WellFormed) : ofText? d.text = none := by
  have hg := inRange_ofTimestamp (Date.wellFormed_startOfDay h)
  have hread := Pattern.readFrom?_write hg (separated_date _ []) {}
  rw [List.append_nil] at hread
  have hpattern : ∀ p, (∀ f, Pattern.readFrom? f [] p = none) →
      Pattern.read? (datePattern ++ p) (stripped d.text.toList) = none := by
    intro p hp
    rw [Date.stripped_text, Pattern.read?, Pattern.readFrom?_append, hread]
    simp only [Option.bind_some, hp]
  have hspace := hpattern (.gap :: timePattern) fun _ => rfl
  have hletter := hpattern (.mark 'T' :: timePattern) fun _ => rfl
  have hshort := hpattern (.gap :: minutePattern) fun _ => rfl
  rw [ofText?]
  simp only [timestampPattern, hspace, hletter, hshort, Option.bind_none, Option.none_or]

/-! ## Times of day -/

namespace TimeOfDay

/-- The first day, on which a time stands in for its timestamp. -/
theorem wellFormed_firstDay {t : TimeOfDay} (h : t.WellFormed) :
    (Timestamp.mk ⟨1⟩ t).WellFormed :=
  ⟨show (Date.mk 1).WellFormed by decide, h⟩

theorem toList_text (t : TimeOfDay) :
    t.text.toList = timePattern.write (.ofTimestamp ⟨⟨1⟩, t⟩) :=
  String.toList_ofList

theorem stripped_text (t : TimeOfDay) :
    stripped t.text.toList = timePattern.write (.ofTimestamp ⟨⟨1⟩, t⟩) := by
  rw [toList_text]
  exact (trimmed_of_no_blanks (no_blanks_write_time _)).stripped_eq

/-- A time is read back from its text. -/
theorem ofText?_text {t : TimeOfDay} (h : t.WellFormed) : ofText? t.text = some t := by
  have hread : timePattern.read? (stripped t.text.toList) =
      some (Pattern.copy (.ofTimestamp ⟨⟨1⟩, t⟩) {} timePattern) := by
    rw [stripped_text]
    exact Pattern.read?_write (inRange_ofTimestamp (wellFormed_firstDay h)) (separated_time _)
  have htime : (Pattern.copy (.ofTimestamp ⟨⟨1⟩, t⟩) {} timePattern).time? = some t :=
    ofClock?_clock h
  simp only [ofText?, hread, Option.bind_some, htime, Option.some_or]

/-- A text whose hour and minute cannot be read is no time. -/
theorem ofText?_of_no_minute {s : String}
    (h : Pattern.readFrom? {} (stripped s.toList) minutePattern = none) : ofText? s = none := by
  have hpattern : ∀ p, Pattern.read? (minutePattern ++ p) (stripped s.toList) = none :=
    fun p => Pattern.read?_of_start h
  have hminute : Pattern.read? minutePattern (stripped s.toList) = none := hpattern []
  rw [ofText?]
  simp only [timePattern, hpattern, hminute, Option.bind_none, Option.none_or]

/-- A text that starts with a year is no time. -/
theorem ofText?_of_year {s : String} {year : Int} {rest : List Char}
    (h : stripped s.toList = yearDigits year ++ rest) : ofText? s = none := by
  apply ofText?_of_no_minute
  rw [h]
  exact readFrom?_minute_of_year {} year rest

theorem ofText?_date_text (d : Date) : ofText? d.text = none :=
  ofText?_of_year (Date.stripped_text d)

theorem ofText?_timestamp_text (t : Timestamp) : ofText? t.text = none :=
  ofText?_of_year (Timestamp.stripped_text t)

/-- No date is read off the text of a time. -/
theorem no_date_text {t : TimeOfDay} (h : t.WellFormed) :
    Pattern.readFrom? {} (stripped t.text.toList) datePattern = none := by
  rw [stripped_text]
  exact readFrom?_date_of_hour {} (inRange_ofTimestamp (wellFormed_firstDay h)).hour_lt _

end TimeOfDay

theorem Timestamp.ofText?_time_text {t : TimeOfDay} (h : t.WellFormed) : ofText? t.text = none :=
  ofText?_of_no_date (TimeOfDay.no_date_text h)

theorem Date.ofText?_time_text {t : TimeOfDay} (h : t.WellFormed) : ofText? t.text = none :=
  ofText?_of_no_date (TimeOfDay.no_date_text h)

end QueryReplay
