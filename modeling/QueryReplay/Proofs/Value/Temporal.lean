import QueryReplay.Proofs.Calendar.Text
import QueryReplay.Value.Coercion

/-!
# Dates and times read as one another, from values and from texts

A timestamp, a date or a time can be shown as text, and the text read as a
timestamp, a date or a time in turn.  This file shows that the detour through
the text never matters: the text is read as each of the three exactly as the
value itself is, and it is refused where the value is.

Texts are tried in an order that depends on what is asked for.  The order does
not matter either, since each text is accepted by only one of the three readers.
-/

namespace QueryReplay.Value

/-- The value is a timestamp, a date or a time of day. -/
def IsTemporal (v : Value) : Prop :=
  v.kind = .timestamp ∨ v.kind = .date ∨ v.kind = .time

/-- The value is read as both values are: it is the same for both, or neither has it. -/
def ReadAlike (v w : Value) (target : Target) : Prop :=
  (∃ u, v.coerce target = .ok u ∧ w.coerce target = .ok u) ∨
    (v.coerce target = .error (.typeMismatch v.kind target) ∧
      w.coerce target = .error (.typeMismatch w.kind target))

/-- What dates and times are read as here. -/
def temporalTargets : List Target :=
  [.timestamp, .date, .time]

theorem coerce_of_as? {v u : Value} {target : Target} (h : v.as? target = some u) :
    v.coerce target = .ok u := by
  rw [coerce, h]

theorem coerce_of_as?_eq_none {v : Value} {target : Target} (h : v.as? target = none) :
    v.coerce target = .error (.typeMismatch v.kind target) := by
  rw [coerce, h]

theorem readAlike_of_as?_eq {v w : Value} {target : Target} (h : w.as? target = v.as? target) :
    ReadAlike v w target := by
  cases hv : v.as? target with
  | none => exact Or.inr ⟨coerce_of_as?_eq_none hv, coerce_of_as?_eq_none (h.trans hv)⟩
  | some u => exact Or.inl ⟨u, coerce_of_as? hv, coerce_of_as? (h.trans hv)⟩

/-! ## Texts of the three kinds -/

theorem timestamp_text_as? {t : Timestamp} (h : t.WellFormed) :
    ∀ target ∈ temporalTargets, (text t.text).as? target = (timestamp t).as? target := by
  have htimestamp := Timestamp.ofText?_text h
  have hdate := Date.ofText?_timestamp_text h
  have htime := TimeOfDay.ofText?_timestamp_text t
  intro target htarget
  simp only [temporalTargets, List.mem_cons, List.not_mem_nil, or_false] at htarget
  rcases htarget with rfl | rfl | rfl
  · simp only [as?, timestamp?, htimestamp, Option.some_or]
  · simp only [as?, date?, hdate, htimestamp, Option.none_or, Option.map_some]
  · simp only [as?, time?, htime, htimestamp, Option.none_or, Option.map_some]

theorem date_text_as? {d : Date} (h : d.WellFormed) :
    ∀ target ∈ temporalTargets, (text d.text).as? target = (date d).as? target := by
  have htimestamp := Timestamp.ofText?_date_text h
  have hdate := Date.ofText?_text h
  have htime := TimeOfDay.ofText?_date_text d
  intro target htarget
  simp only [temporalTargets, List.mem_cons, List.not_mem_nil, or_false] at htarget
  rcases htarget with rfl | rfl | rfl
  · simp only [as?, timestamp?, htimestamp, hdate, Option.none_or, Option.map_some]
  · simp only [as?, date?, hdate, Option.some_or]
  · simp only [as?, time?, htime, htimestamp, Option.none_or, Option.map_none]

theorem time_text_as? {t : TimeOfDay} (h : t.WellFormed) :
    ∀ target ∈ temporalTargets, (text t.text).as? target = (time t).as? target := by
  have htimestamp := Timestamp.ofText?_time_text h
  have hdate := Date.ofText?_time_text h
  have htime := TimeOfDay.ofText?_text h
  intro target htarget
  simp only [temporalTargets, List.mem_cons, List.not_mem_nil, or_false] at htarget
  rcases htarget with rfl | rfl | rfl
  · simp only [as?, timestamp?, htimestamp, hdate, Option.none_or, Option.map_none]
  · simp only [as?, date?, hdate, htimestamp, Option.none_or, Option.map_none]
  · simp only [as?, time?, htime, Option.some_or]

/-- The text of a date or time is read as the date or time itself is. -/
theorem display_as? {v : Value} (hv : v.WellFormed) (htemporal : v.IsTemporal) :
    ∀ target ∈ temporalTargets, (text v.display).as? target = v.as? target := by
  cases v with
  | timestamp t => exact timestamp_text_as? hv
  | date d => exact date_text_as? hv
  | time t => exact time_text_as? hv
  | _ => rcases htemporal with hkind | hkind | hkind <;> cases hkind

theorem coerce_text_of_isTemporal {v : Value} (htemporal : v.IsTemporal) :
    v.coerce .text = .ok (.text v.display) := by
  apply coerce_of_as?
  cases v with
  | timestamp t => rfl
  | date d => rfl
  | time t => rfl
  | _ => rcases htemporal with hkind | hkind | hkind <;> cases hkind

/-! ## The detour through the text -/

/-- A timestamp, a date or a time has a text, and the text is read as a timestamp, as a date and
as a time as the value is, with the same outcome or the same lack of one.  The texts of all
timestamps, dates and times are read back, and each is refused by the two readers of the other
kinds. -/
theorem temporal_text_commutes :
    (∀ v : Value, v.WellFormed → v.IsTemporal →
      ∃ s, v.coerce .text = .ok (.text s) ∧
        ∀ target ∈ temporalTargets, ReadAlike v (.text s) target) ∧
      (∀ t : Timestamp, t.WellFormed → Timestamp.ofText? t.text = some t ∧
        Date.ofText? t.text = none ∧ TimeOfDay.ofText? t.text = none) ∧
        (∀ d : Date, d.WellFormed → Date.ofText? d.text = some d ∧
          Timestamp.ofText? d.text = none ∧ TimeOfDay.ofText? d.text = none) ∧
          ∀ t : TimeOfDay, t.WellFormed → TimeOfDay.ofText? t.text = some t ∧
            Timestamp.ofText? t.text = none ∧ Date.ofText? t.text = none := by
  refine ⟨?_, ?_, ?_, ?_⟩
  · intro v hv htemporal
    refine ⟨v.display, coerce_text_of_isTemporal htemporal, ?_⟩
    intro target htarget
    exact readAlike_of_as?_eq (display_as? hv htemporal target htarget)
  · intro t ht
    exact ⟨Timestamp.ofText?_text ht, Date.ofText?_timestamp_text ht,
      TimeOfDay.ofText?_timestamp_text t⟩
  · intro d hd
    exact ⟨Date.ofText?_text hd, Timestamp.ofText?_date_text hd, TimeOfDay.ofText?_date_text d⟩
  · intro t ht
    exact ⟨TimeOfDay.ofText?_text ht, Timestamp.ofText?_time_text ht, Date.ofText?_time_text ht⟩

/-- Half of a leap second, in a year before year 0. -/
theorem leapSecond_text_commutes :
    (timestamp ⟨⟨-400⟩, ⟨86399, 1500000000⟩⟩).WellFormed ∧
      (timestamp ⟨⟨-400⟩, ⟨86399, 1500000000⟩⟩).coerce .text =
        .ok (.text "-0001-11-27 23:59:60.500") ∧
        (text "-0001-11-27 23:59:60.500").coerce .time = .ok (.time ⟨86399, 1500000000⟩) ∧
          (date ⟨-400⟩).coerce .text = .ok (.text "-0001-11-27") ∧
            (text "-0001-11-27").coerce .time = .error (.typeMismatch .text .time) := by
  have hformed : (timestamp ⟨⟨-400⟩, ⟨86399, 1500000000⟩⟩).WellFormed := by decide
  have hdate : (date ⟨-400⟩).WellFormed := by decide
  have htext : (timestamp ⟨⟨-400⟩, ⟨86399, 1500000000⟩⟩).coerce .text =
      .ok (.text "-0001-11-27 23:59:60.500") := by decide +kernel
  have hdateText : (date ⟨-400⟩).coerce .text = .ok (.text "-0001-11-27") := by decide +kernel
  obtain ⟨s, hs, halike⟩ := temporal_text_commutes.1 _ hformed (Or.inl rfl)
  obtain ⟨s', hs', halike'⟩ := temporal_text_commutes.1 _ hdate (Or.inr (Or.inl rfl))
  rw [htext] at hs
  rw [hdateText] at hs'
  cases hs
  cases hs'
  refine ⟨hformed, htext, ?_, hdateText, ?_⟩
  · rcases halike .time (by decide) with ⟨u, hu, hread⟩ | ⟨hmismatch, _⟩
    · cases hu
      exact hread
    · cases hmismatch
  · rcases halike' .time (by decide) with ⟨u, hu, _⟩ | ⟨_, hmismatch⟩
    · cases hu
    · exact hmismatch

end QueryReplay.Value
