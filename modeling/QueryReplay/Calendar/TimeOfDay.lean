/-!
# Times of day

A time is the second of the day and the nanoseconds since that second began.
A leap second belongs to the second before it: its nanoseconds run from one
thousand million on.  A time can be held in a leap second behind any second.  If
it is put together from numbers or read off a clock, it can only be in one behind
a second 59; in any other, a clock shows the second that follows.
-/

namespace QueryReplay

/-- A time of day. -/
structure TimeOfDay where
  /-- The seconds since midnight. -/
  seconds : Nat
  /-- The nanoseconds within the second; from `10 ^ 9` on, within the leap second behind it. -/
  nanos : Nat
deriving DecidableEq, Repr

namespace TimeOfDay

/-- The nanoseconds of a second. -/
def secondNanos : Nat := 1000000000

def daySeconds : Nat := 86400

/-- A time within the day, perhaps in a leap second behind any of its seconds. -/
def Held (t : TimeOfDay) : Prop :=
  t.seconds < daySeconds ∧ t.nanos < 2 * secondNanos

instance (t : TimeOfDay) : Decidable t.Held :=
  inferInstanceAs (Decidable (_ ∧ _))

/-- A time within the day, whose leap second, if any, follows a second 59. Not every time that can
be held is of this kind. -/
def WellFormed (t : TimeOfDay) : Prop :=
  t.seconds < daySeconds ∧ t.nanos < 2 * secondNanos
    ∧ (secondNanos ≤ t.nanos → t.seconds % 60 = 59)

instance (t : TimeOfDay) : Decidable t.WellFormed :=
  inferInstanceAs (Decidable (_ ∧ _))

def midnight : TimeOfDay := ⟨0, 0⟩

/-- The time with these seconds and nanoseconds, if they are in range. -/
def ofParts? (seconds nanos : Nat) : Option TimeOfDay :=
  if (TimeOfDay.mk seconds nanos).WellFormed then some ⟨seconds, nanos⟩ else none

/-- The time that a clock shows. Second 60 is the leap second behind second 59. -/
def ofClock? (hour minute second nanos : Nat) : Option TimeOfDay :=
  if 23 < hour ∨ 59 < minute ∨ 60 < second then none
  else if second = 60 then ofParts? (3600 * hour + 60 * minute + 59) (secondNanos + nanos)
  else ofParts? (3600 * hour + 60 * minute + second) nanos

def hour (t : TimeOfDay) : Nat := t.seconds / 3600

def minute (t : TimeOfDay) : Nat := t.seconds / 60 % 60

/-- The second on the clock, 60 in a leap second. -/
def second (t : TimeOfDay) : Nat := t.seconds % 60 + t.nanos / secondNanos

/-- The nanoseconds since the second on the clock began. -/
def subsecond (t : TimeOfDay) : Nat := t.nanos % secondNanos

end TimeOfDay

end QueryReplay
