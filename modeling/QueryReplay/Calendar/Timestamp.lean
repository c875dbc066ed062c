import QueryReplay.Calendar.Date
import QueryReplay.Calendar.TimeOfDay

/-!
# Timestamps

A timestamp is a date and a time of day, without a zone. Counted from the
start of 1970 it is a number of seconds and nanoseconds.
-/

namespace QueryReplay

/-- A date and a time of day. -/
structure Timestamp where
  date : Date
  time : TimeOfDay
deriving DecidableEq, Repr

namespace Timestamp

/-- The day number of 1970-01-01. -/
def epochDay : Int := 719163

/-- A timestamp whose date and time are in range, its leap second behind a second 59. -/
def WellFormed (t : Timestamp) : Prop :=
  t.date.WellFormed ∧ t.time.WellFormed

instance (t : Timestamp) : Decidable t.WellFormed :=
  inferInstanceAs (Decidable (_ ∧ _))

/-- The seconds since the start of 1970, leap seconds not counted. -/
def epochSeconds (t : Timestamp) : Int :=
  (t.date.days - epochDay) * 86400 + t.time.seconds

/-- The timestamp of a number of seconds and nanoseconds since the start of 1970. -/
def ofEpoch? (seconds : Int) (nanos : Nat) : Option Timestamp :=
  match Date.ofDays? (seconds / 86400 + epochDay),
      TimeOfDay.ofParts? (seconds % 86400).toNat nanos with
  | some date, some time => some ⟨date, time⟩
  | _, _ => none

/-- The timestamp of a number of milliseconds since the start of 1970. -/
def ofEpochMillis? (millis : Int) : Option Timestamp :=
  ofEpoch? (millis / 1000) ((millis % 1000).toNat * 1000000)

/-- The start of a day. -/
def startOfDay (d : Date) : Timestamp :=
  ⟨d, .midnight⟩

end Timestamp

end QueryReplay
