import QueryReplay.Number.Decimal
import QueryReplay.Calendar.Pattern

/-!
# Typed values

A cell of a result, or a parameter of a query. Each value carries its own
kind, so the integers `1` of 32 and of 64 bits differ, and so do decimals of
different scale. Doubles are compared by their bits.
-/

namespace QueryReplay

/-- A typed value. -/
inductive Value where
  | null
  | bool (b : Bool)
  | int32 (i : Int32)
  | int64 (i : Int64)
  | float64 (x : Binary64)
  | decimal (d : Decimal)
  | text (s : String)
  | timestamp (t : Timestamp)
  | date (d : Date)
  | time (t : TimeOfDay)
  | bytes (b : List UInt8)
deriving DecidableEq, Repr

namespace Value

/-- The kinds of values. -/
inductive Kind where
  | null | bool | int32 | int64 | float64 | decimal | text | timestamp | date | time | bytes
deriving DecidableEq, Repr

def Kind.name : Kind → String
  | .null => "NULL"
  | .bool => "BOOL"
  | .int32 => "INT32"
  | .int64 => "INT64"
  | .float64 => "FLOAT64"
  | .decimal => "DECIMAL"
  | .text => "STRING"
  | .timestamp => "TIMESTAMP"
  | .date => "DATE"
  | .time => "TIME"
  | .bytes => "BYTES"

def kind : Value → Kind
  | .null => .null
  | .bool _ => .bool
  | .int32 _ => .int32
  | .int64 _ => .int64
  | .float64 _ => .float64
  | .decimal _ => .decimal
  | .text _ => .text
  | .timestamp _ => .timestamp
  | .date _ => .date
  | .time _ => .time
  | .bytes _ => .bytes

def isNull (v : Value) : Bool :=
  v == .null

/-- The words for the two truth values. -/
def boolText (b : Bool) : String :=
  if b then "true" else "false"

def intText (i : Int) : String :=
  String.ofList (Numeral.ofInt i)

/-- The text that shows a value. -/
def display : Value → String
  | .null => "NULL"
  | .bool b => boolText b
  | .int32 i => intText i.toInt
  | .int64 i => intText i.toInt
  | .float64 x => x.text
  | .decimal d => d.text
  | .text s => s
  | .timestamp t => t.text
  | .date d => d.text
  | .time t => t.text
  | .bytes b => s!"<{b.length} bytes>"

/-- A value as it can be held: its decimal or date is in range, and its time within the day. -/
def Held : Value → Prop
  | .decimal d => d.WellFormed
  | .timestamp t => t.date.WellFormed ∧ t.time.Held
  | .date d => d.WellFormed
  | .time t => t.Held
  | _ => True

/-- A value whose decimal, date or time is in range. A value that is held may be out of it in one
way: by a time in a leap second behind a second other than 59. -/
def WellFormed : Value → Prop
  | .decimal d => d.WellFormed
  | .timestamp t => t.WellFormed
  | .date d => d.WellFormed
  | .time t => t.WellFormed
  | _ => True

instance : (v : Value) → Decidable v.WellFormed
  | .decimal d => inferInstanceAs (Decidable d.WellFormed)
  | .timestamp t => inferInstanceAs (Decidable t.WellFormed)
  | .date d => inferInstanceAs (Decidable d.WellFormed)
  | .time t => inferInstanceAs (Decidable t.WellFormed)
  | .null | .bool _ | .int32 _ | .int64 _ | .float64 _ | .text _ | .bytes _ =>
    inferInstanceAs (Decidable True)

end Value

end QueryReplay
