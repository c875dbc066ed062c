import QueryReplay.ResultSet

/-!
# Cursors

A cursor walks over the rows of a result, once and forward. It starts before
the first row; behind the last one it stays. A value can only be read on a
row.
-/

namespace QueryReplay

/-- Where a cursor stands. -/
inductive Position where
  | beforeFirst
  /-- On the row with that index, counted from zero. -/
  | onRow (index : Nat)
  | afterLast
deriving DecidableEq, Repr

namespace Position

/-- The next position in a result of `rows` rows. -/
def next (rows : Nat) : Position → Position
  | .beforeFirst => if 0 < rows then .onRow 0 else .afterLast
  | .onRow index => if index + 1 < rows then .onRow (index + 1) else .afterLast
  | .afterLast => .afterLast

end Position

/-- A cursor over a result in memory. -/
structure Cursor where
  result : ResultSet
  position : Position
deriving DecidableEq, Repr

namespace Cursor

/-- A cursor before the first row. -/
def start (r : ResultSet) : Cursor :=
  ⟨r, .beforeFirst⟩

/-- Moves on by one row. -/
def advance (c : Cursor) : Cursor :=
  { c with position := c.position.next c.result.rows.length }

/-- Whether the cursor stands on a row. -/
def isOnRow (c : Cursor) : Bool :=
  match c.position with
  | .onRow _ => true
  | _ => false

/-- The number of the row, counted from one. -/
def rowNumber? (c : Cursor) : Option Nat :=
  match c.position with
  | .onRow index => some (index + 1)
  | _ => none

/-- The cell of a row in a column counted from one. -/
def cell (columns : Nat) (row : Row) (ordinal : Nat) : Except Error Value :=
  if ordinal = 0 ∨ columns < ordinal then .error (.ordinalNotFound ordinal columns)
  else
    match row[ordinal - 1]? with
    | some v => .ok v
    | none => .error (.ordinalNotFound ordinal columns)

/-- The value in a column of the current row. -/
def value (c : Cursor) (ordinal : Nat) : Except Error Value :=
  match c.position with
  | .beforeFirst => .error .beforeFirstRow
  | .afterLast => .error .afterLastRow
  | .onRow index => cell c.result.columns.length (c.result.rows.getD index []) ordinal

end Cursor

/-- The ordinal of the column with that label or name. -/
def findColumn (columns : List Column) (name : String) : Except Error Nat :=
  match Column.find? columns name with
  | some ordinal => .ok ordinal
  | none => .error (.columnNotFound name)

end QueryReplay
