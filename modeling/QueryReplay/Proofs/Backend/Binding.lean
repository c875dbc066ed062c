import QueryReplay.Proofs.Backend.Storage
import QueryReplay.Proofs.Calendar.Text

/-!
# Parameters are read back from the columns that match them

A parameter is bound as the native value that stands for it, decimals, dates and
times as text.  This file shows that a column of the same type reads the value
back from there, with every bit of a double and every place of a decimal.  A
decimal with the least integer, whose text no decimal is read from, comes back
as text.  A time in a leap second that does not follow a second 59 is out of
range here, since its text is that of another time.
-/

namespace QueryReplay

/-- The column has the type of the value, and declares either no places that decimals could have
or those that the decimal has.  Null matches every column. -/
def Column.Matches (c : Column) : Value → Prop
  | .null => True
  | .bool _ => c.type = .boolean
  | .int32 _ => c.type = .integer
  | .int64 _ => c.type = .bigint
  | .float64 _ => c.type = .double
  | .decimal d => c.type = .decimal ∧
      (c.scale.toInt ≤ 0 ∨ (Decimal.maxScale : Int) < c.scale.toInt ∨ c.scale.toInt = d.scale)
  | .text _ => c.type = .varchar
  | .timestamp _ => c.type = .timestamp
  | .date _ => c.type = .date
  | .time _ => c.type = .time
  | .bytes _ => c.type = .blob

namespace Native

variable {c : Column}

/-! ## Each kind of value -/

theorem toValue_ofValue_bool (htype : c.type = .boolean) (b : Bool) :
    (ofValue (.bool b)).toValue c = .ok (.bool b) := by
  apply toValue_of_declaredInteger?
  rw [declaredInteger?, htype]
  cases b with
  | false => rfl
  | true => rfl

theorem toValue_ofValue_int32 (htype : c.type = .integer) (i : Int32) :
    (ofValue (.int32 i)).toValue c = .ok (.int32 i) := by
  have hroom : Int32.minValue.toInt ≤ i.toInt64.toInt ∧
      i.toInt64.toInt ≤ Int32.maxValue.toInt := by
    rw [Int32.toInt_toInt64, Int32.toInt_minValue, Int32.toInt_maxValue]
    exact ⟨i.le_toInt, Int.le_sub_one_of_lt i.toInt_lt⟩
  apply toValue_of_declaredInteger?
  simp only [declaredInteger?, htype, if_pos hroom, Int32.toInt32_toInt64]

theorem toValue_ofValue_int64 (htype : c.type = .bigint) (i : Int64) :
    (ofValue (.int64 i)).toValue c = .ok (.int64 i) := by
  apply toValue_of_declaredInteger?
  rw [declaredInteger?, htype]

theorem toValue_ofValue_float64 (htype : c.type = .double) (x : Binary64) :
    (ofValue (.float64 x)).toValue c = .ok (.float64 x) := by
  rw [ofValue, toValue, declaredReal?, htype, Option.getD_some]

theorem toValue_ofValue_text (htype : c.type = .varchar) (s : String) :
    (ofValue (.text s)).toValue c = .ok (.text s) := by
  apply toValue_of_declaredText?
  rw [declaredText?, htype]

theorem toValue_ofValue_decimal {d : Decimal} (hd : d.WellFormed) (hleast : d.unscaled ≠ -2 ^ 127)
    (hmatches : c.Matches (.decimal d)) : (ofValue (.decimal d)).toValue c = .ok (.decimal d) := by
  obtain ⟨htype, hplaces⟩ := hmatches
  have hparse : Decimal.parse d.text = .ok d :=
    Decimal.parse_eq_ok_iff.mpr (Decimal.ofText?_text hd hleast)
  have hcut : d.cutTo c.scale.toInt = d := by
    rcases hplaces with hnone | hmany | hsame
    · exact Decimal.cutTo_of_not_mem (Or.inl hnone) d
    · exact Decimal.cutTo_of_not_mem (Or.inr hmany) d
    · rw [hsame]
      exact Decimal.cutTo_scale d
  rw [ofValue, toValue_of_denotes htype (.text hparse), hcut]

/-- No decimal is read from the text of one with the least integer, so that the text is left. -/
theorem toValue_ofValue_least (htype : c.type = .decimal) {d : Decimal}
    (hleast : d.unscaled = -2 ^ 127) :
    (ofValue (.decimal d)).toValue c = .ok (.text d.text) := by
  rw [ofValue, toValue_text, declaredText?, htype, Decimal.ofText?_text_of_least hleast,
    Option.map_none, Option.getD_none]

theorem toValue_ofValue_timestamp (htype : c.type = .timestamp) {t : Timestamp} (h : t.WellFormed) :
    (ofValue (.timestamp t)).toValue c = .ok (.timestamp t) := by
  apply toValue_of_declaredText?
  rw [declaredText?, htype, Timestamp.ofText?_text h, Option.map_some]

theorem toValue_ofValue_date (htype : c.type = .date) {d : Date} (h : d.WellFormed) :
    (ofValue (.date d)).toValue c = .ok (.date d) := by
  apply toValue_of_declaredText?
  rw [declaredText?, htype, Date.ofText?_text h, Option.map_some]

theorem toValue_ofValue_time (htype : c.type = .time) {t : TimeOfDay} (h : t.WellFormed) :
    (ofValue (.time t)).toValue c = .ok (.time t) := by
  apply toValue_of_declaredText?
  rw [declaredText?, htype, TimeOfDay.ofText?_text h, Option.map_some]

/-! ## All kinds together -/

/-- A value is read back from the native value that it is bound as, by every column that matches
it, unless it is a decimal with the least integer.  Such a decimal is read as its text. -/
theorem ofValue_read_back {v : Value} (hv : v.WellFormed) (hmatches : c.Matches v) :
    ((∀ d, v = .decimal d → d.unscaled ≠ -2 ^ 127) → (ofValue v).toValue c = .ok v) ∧
      ∀ d, v = .decimal d → d.unscaled = -2 ^ 127 →
        (ofValue v).toValue c = .ok (.text d.text) := by
  constructor
  · intro hleast
    cases v with
    | null => rfl
    | bool b => exact toValue_ofValue_bool hmatches b
    | int32 i => exact toValue_ofValue_int32 hmatches i
    | int64 i => exact toValue_ofValue_int64 hmatches i
    | float64 x => exact toValue_ofValue_float64 hmatches x
    | decimal d => exact toValue_ofValue_decimal hv (hleast d rfl) hmatches
    | text s => exact toValue_ofValue_text hmatches s
    | timestamp t => exact toValue_ofValue_timestamp hmatches hv
    | date d => exact toValue_ofValue_date hmatches hv
    | time t => exact toValue_ofValue_time hmatches hv
    | bytes b => rfl
  · rintro d rfl hleast
    exact toValue_ofValue_least hmatches.1 hleast

/-- A column of a type, with places if it is one of decimals. -/
def columnOf (type : ColumnType) (places : Int32) : Column :=
  ⟨"x", "x", 1, type, type.name, .unknown, 0, places⟩

/-- Half of a leap second in a year before year 0. -/
def oldLeapSecond : Value :=
  .timestamp ⟨⟨-400⟩, ⟨86399, 1500000000⟩⟩

/-- Half of an old leap second, a small negative number and a double that is no number are read
back, and the decimal that is left out comes back as a text. -/
theorem odd_parameters_read :
    (oldLeapSecond.WellFormed ∧ (columnOf .timestamp 0).Matches oldLeapSecond ∧
      ofValue oldLeapSecond = .text (Utf8.encode "-0001-11-27 23:59:60.500") ∧
        toValue (columnOf .timestamp 0) (ofValue oldLeapSecond) = .ok oldLeapSecond) ∧
      ((columnOf .decimal 3).Matches (.decimal ⟨-5, 3⟩) ∧
        toValue (columnOf .decimal 3) (ofValue (.decimal ⟨-5, 3⟩)) = .ok (.decimal ⟨-5, 3⟩)) ∧
        toValue (columnOf .double 0) (ofValue (.float64 ⟨0x7FF0000000000001⟩)) =
          .ok (.float64 ⟨0x7FF0000000000001⟩) ∧
          toValue (columnOf .decimal 0) (ofValue (.decimal ⟨-2 ^ 127, 0⟩)) =
            .ok (.text "-170141183460469231731687303715884105728") := by
  have hformed : oldLeapSecond.WellFormed := by decide
  have hplaces : (columnOf .decimal 3).Matches (.decimal ⟨-5, 3⟩) :=
    ⟨rfl, Or.inr (Or.inr (by decide))⟩
  have htext : (⟨-2 ^ 127, 0⟩ : Decimal).text = "-170141183460469231731687303715884105728" := by
    decide +kernel
  have hleap := ofValue_read_back (c := columnOf .timestamp 0) hformed rfl
  have hsmall := ofValue_read_back (v := .decimal ⟨-5, 3⟩) (by decide) hplaces
  have hdouble := ofValue_read_back (c := columnOf .double 0)
    (v := .float64 ⟨0x7FF0000000000001⟩) trivial rfl
  have hleast := ofValue_read_back (c := columnOf .decimal 0) (v := .decimal ⟨-2 ^ 127, 0⟩)
    (by decide) ⟨rfl, Or.inl (by decide)⟩
  refine ⟨⟨hformed, rfl, by decide +kernel, hleap.1 ?_⟩, ⟨hplaces, hsmall.1 ?_⟩, hdouble.1 ?_, ?_⟩
  · intro d hd
    cases hd
  · intro d hd
    cases hd
    decide
  · intro d hd
    cases hd
  · rw [← htext]
    exact hleast.2 _ rfl rfl

/-- Half of a leap second behind a second 5. -/
def oddTime : Value :=
  .time ⟨5, 1500000000⟩

/-- A time in a leap second behind another second than 59 has no text of its own.  It is bound as
the text of the second that follows, and is read back as that. -/
theorem oddTime_read_later :
    oddTime.Held ∧ (columnOf .time 0).Matches oddTime ∧
      ofValue oddTime = .text (Utf8.encode "00:00:06.500") ∧
        toValue (columnOf .time 0) (ofValue oddTime) = .ok (.time ⟨6, 500000000⟩) ∧
          ¬∀ (c : Column) (v : Value), v.Held → c.Matches v →
            (∀ d, v = .decimal d → d.unscaled ≠ -2 ^ 127) → (ofValue v).toValue c = .ok v := by
  have hheld : oddTime.Held := ⟨by decide, by decide⟩
  have hlater : toValue (columnOf .time 0) (ofValue oddTime) = .ok (.time ⟨6, 500000000⟩) := by
    decide +kernel
  refine ⟨hheld, rfl, by decide +kernel, hlater, ?_⟩
  intro hall
  have hread := hall (columnOf .time 0) oddTime hheld rfl (by rintro d ⟨⟩)
  rw [hlater] at hread
  cases hread

end Native

end QueryReplay
