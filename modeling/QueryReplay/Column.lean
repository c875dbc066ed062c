/-!
# Columns

The description of a result column: its names, its declared type and whether
it may hold null. Names keep the case they were declared with.
-/

namespace QueryReplay

/-- The declared type of a column. -/
inductive ColumnType where
  | boolean | integer | bigint | double | decimal | varchar | timestamp | date | time | blob
  /-- No declared type: values keep the class they are stored with. -/
  | unknown
deriving DecidableEq, Repr

namespace ColumnType

/-- The number that stands for a type in a stored result. -/
def tag : ColumnType → UInt8
  | .unknown => 0
  | .boolean => 1
  | .integer => 2
  | .bigint => 3
  | .double => 4
  | .decimal => 5
  | .varchar => 6
  | .timestamp => 7
  | .date => 8
  | .time => 9
  | .blob => 10

def all : List ColumnType :=
  [.unknown, .boolean, .integer, .bigint, .double, .decimal, .varchar, .timestamp, .date, .time,
   .blob]

def ofTag? (t : UInt8) : Option ColumnType :=
  all.find? (·.tag == t)

def name : ColumnType → String
  | .boolean => "Boolean"
  | .integer => "Integer"
  | .bigint => "BigInt"
  | .double => "Double"
  | .decimal => "Decimal"
  | .varchar => "Varchar"
  | .timestamp => "Timestamp"
  | .date => "Date"
  | .time => "Time"
  | .blob => "Blob"
  | .unknown => "Unknown"

end ColumnType

/-- Whether a column may hold null. -/
inductive Nullability where
  | noNulls | nullable | unknown
deriving DecidableEq, Repr

namespace Nullability

/-- The number that stands for a nullability in a stored result. -/
def tag : Nullability → UInt8
  | .noNulls => 0
  | .nullable => 1
  | .unknown => 2

def ofTag? (t : UInt8) : Option Nullability :=
  [noNulls, nullable, unknown].find? (·.tag == t)

end Nullability

/-- The description of a column. -/
structure Column where
  /-- The name as declared. -/
  name : String
  /-- The name shown, such as an alias. -/
  label : String
  /-- The place of the column, counted from one. -/
  ordinal : Nat
  type : ColumnType
  /-- The text of the declared type, such as `DECIMAL(10,2)`. -/
  typeName : String
  nullability : Nullability
  /-- The digits of a decimal column in all. -/
  precision : UInt32
  /-- The digits of a decimal column behind the point. -/
  scale : Int32
deriving DecidableEq, Repr

namespace Column

/-- The ordinal of the first column with that label, or else of the first with that name. -/
def find? (columns : List Column) (name : String) : Option Nat :=
  match columns.find? (·.label == name) with
  | some c => some c.ordinal
  | none => (columns.find? (·.name == name)).map (·.ordinal)

end Column

end QueryReplay
