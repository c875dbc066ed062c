import QueryReplay.Error

/-!
# Result sets

The columns of a query and its rows in order. Every row is as wide as there
are columns, and a result without columns has no rows.
-/

namespace QueryReplay

/-- One row of a result. -/
abbrev Row := List Value

/-- Columns and rows. -/
structure ResultSet where
  columns : List Column
  rows : List Row
deriving DecidableEq, Repr

namespace ResultSet

/-- Whether a row fits the columns. -/
def rowDefect? (columns : Nat) (row : Row) : Option Corruption :=
  if columns = 0 then some .rowWithoutColumns
  else if row.length ≠ columns then some (.rowWidth row.length columns)
  else none

/-- The result of columns and rows, or the defect of the first row that does not fit. -/
def ofRows (columns : List Column) (rows : List Row) : Except Error ResultSet :=
  match rows.findSome? (rowDefect? columns.length) with
  | some defect => .error (.corrupt defect)
  | none => .ok ⟨columns, rows⟩

/-- A column as it is stored: at its place, and with digits only if it is a decimal. -/
def storedColumn (ordinal : Nat) (c : Column) : Column :=
  if c.type = .decimal then { c with ordinal }
  else { c with ordinal, precision := 0, scale := 0 }

/-- The columns as they are stored, counted from `ordinal`. -/
def storedColumns (ordinal : Nat) : List Column → List Column
  | [] => []
  | c :: cs => storedColumn ordinal c :: storedColumns (ordinal + 1) cs

/-- The result as it comes back from storage: columns are counted from one, and only decimal
columns keep their digits. -/
def stored (r : ResultSet) : ResultSet :=
  { r with columns := storedColumns 1 r.columns }

end ResultSet

end QueryReplay
