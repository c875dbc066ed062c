import QueryReplay.Calendar.Timestamp
import QueryReplay.Proofs.Number.BigEndian

/-!
# Dates and times in numbers

This file relates dates, times of day and timestamps to the numbers that they
are stored as.  Each constructor from numbers succeeds exactly on the numbers
of a value in range, and the numbers of a value in range fit the bytes that
are set aside for them.
-/

namespace QueryReplay

open BigEndian

theorem Date.ofDays?_eq_some_iff {days : Int} {d : Date} :
    ofDays? days = some d ↔ d.days = days ∧ d.WellFormed := by
  unfold ofDays?
  constructor
  · intro h
    split at h
    · cases h
      exact ⟨rfl, ‹_›⟩
    · cases h
  · rintro ⟨rfl, hd⟩
    exact if_pos hd

theorem TimeOfDay.ofParts?_eq_some_iff {seconds nanos : Nat} {t : TimeOfDay} :
    ofParts? seconds nanos = some t ↔
      (t.seconds = seconds ∧ t.nanos = nanos) ∧ t.WellFormed := by
  unfold ofParts?
  constructor
  · intro h
    split at h
    · cases h
      exact ⟨⟨rfl, rfl⟩, ‹_›⟩
    · cases h
  · rintro ⟨⟨rfl, rfl⟩, ht⟩
    exact if_pos ht

/-- Seconds since 1970 split into the day and the second of the day in only one way. -/
theorem Timestamp.epochSeconds_eq_iff {t : Timestamp} {seconds : Int}
    (h : t.time.seconds < TimeOfDay.daySeconds) :
    t.epochSeconds = seconds ↔
      t.date.days = seconds / 86400 + epochDay ∧
        t.time.seconds = (seconds % 86400).toNat := by
  unfold TimeOfDay.daySeconds at h
  unfold epochSeconds epochDay
  omega

theorem Timestamp.ofEpoch?_eq_some_iff {seconds : Int} {nanos : Nat} {t : Timestamp} :
    ofEpoch? seconds nanos = some t ↔
      (t.epochSeconds = seconds ∧ t.time.nanos = nanos) ∧ t.WellFormed := by
  constructor
  · intro h
    unfold ofEpoch? at h
    split at h
    next date time hdate htime =>
      cases h
      obtain ⟨hdays, hdate'⟩ := Date.ofDays?_eq_some_iff.mp hdate
      obtain ⟨⟨hseconds, hnanos⟩, htime'⟩ := TimeOfDay.ofParts?_eq_some_iff.mp htime
      exact ⟨⟨(epochSeconds_eq_iff htime'.1).mpr ⟨hdays, hseconds⟩, hnanos⟩, hdate', htime'⟩
    next => cases h
  · rintro ⟨⟨hseconds, hnanos⟩, hdate, htime⟩
    obtain ⟨hdays, hrest⟩ := (epochSeconds_eq_iff htime.1).mp hseconds
    have hd : Date.ofDays? (seconds / 86400 + epochDay) = some t.date :=
      Date.ofDays?_eq_some_iff.mpr ⟨hdays, hdate⟩
    have ht : TimeOfDay.ofParts? (seconds % 86400).toNat nanos = some t.time :=
      TimeOfDay.ofParts?_eq_some_iff.mpr ⟨⟨hrest, hnanos⟩, htime⟩
    unfold ofEpoch?
    rw [hd, ht]

/-- A time that is out of range is not put together from its numbers. -/
theorem TimeOfDay.ofParts?_eq_none {t : TimeOfDay} (h : ¬t.WellFormed) :
    ofParts? t.seconds t.nanos = none :=
  if_neg h

theorem Timestamp.ofEpoch?_eq_none {t : Timestamp} (hheld : t.time.Held)
    (h : ¬t.time.WellFormed) : ofEpoch? t.epochSeconds t.time.nanos = none := by
  obtain ⟨-, hseconds⟩ := (epochSeconds_eq_iff hheld.1).mp rfl
  unfold ofEpoch?
  rw [← hseconds, TimeOfDay.ofParts?_eq_none h]
  split
  next htime => cases htime
  next => rfl

/-- The calendar ends long before the numbers of days do. -/
theorem Date.WellFormed.days_range {d : Date} (h : d.WellFormed) :
    -100000000 ≤ d.days ∧ d.days ≤ 100000000 := by
  have hmin : -100000000 ≤ yearStart minYear := by decide
  have hmax : yearStart (maxYear + 1) ≤ 100000000 := by decide
  have hlow := h.1
  have hhigh := h.2
  omega

theorem Date.WellFormed.fitsSigned {d : Date} (h : d.WellFormed) :
    FitsSigned 4 d.days := by
  have hrange := h.days_range
  unfold FitsSigned
  norm_num
  omega

theorem Timestamp.fitsSigned_epochSeconds {t : Timestamp} (hdate : t.date.WellFormed)
    (htime : t.time.Held) : FitsSigned 8 t.epochSeconds := by
  have hdays := hdate.days_range
  have hseconds := htime.1
  unfold TimeOfDay.daySeconds at hseconds
  unfold FitsSigned epochSeconds epochDay
  norm_num
  omega

theorem TimeOfDay.Held.seconds_lt {t : TimeOfDay} (h : t.Held) : t.seconds < 256 ^ 4 := by
  have hseconds := h.1
  unfold daySeconds at hseconds
  omega

theorem TimeOfDay.Held.nanos_lt {t : TimeOfDay} (h : t.Held) : t.nanos < 256 ^ 4 := by
  have hnanos := h.2
  unfold secondNanos at hnanos
  omega

theorem TimeOfDay.WellFormed.held {t : TimeOfDay} (h : t.WellFormed) : t.Held :=
  ⟨h.1, h.2.1⟩

theorem Decimal.ofParts?_eq_some_iff {unscaled : Int} {scale : Nat} {d : Decimal} :
    ofParts? unscaled scale = some d ↔
      (d.unscaled = unscaled ∧ d.scale = scale) ∧ d.WellFormed := by
  unfold ofParts?
  constructor
  · intro h
    split at h
    · cases h
      exact ⟨⟨rfl, rfl⟩, ‹_›⟩
    · cases h
  · rintro ⟨⟨rfl, rfl⟩, hd⟩
    exact if_pos hd

theorem Decimal.WellFormed.scale_lt {d : Decimal} (h : d.WellFormed) :
    d.scale < 256 ^ 4 := by
  have hscale := h.1
  unfold maxScale at hscale
  omega

end QueryReplay
