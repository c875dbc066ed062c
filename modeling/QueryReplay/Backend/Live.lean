import QueryReplay.Backend.Native
import QueryReplay.Cursor
import QueryReplay.Value.Coercion

/-!
# Live cursors

A database hands its rows over while they are read. A native cursor turns
each row into values as it is reached; a scripted one may fail at any row or
cell. Callers see either kind, or a cursor over a kept result, as one type.
-/

namespace QueryReplay

/-- A cursor over rows as a database stores them. -/
structure NativeCursor where
  columns : List Column
  /-- The rows ahead. -/
  pending : List (List Native)
  /-- The values of the current row. -/
  current : Option Row
  /-- Whether the cursor has been moved. -/
  started : Bool
deriving DecidableEq, Repr

namespace NativeCursor

/-- A cursor before the first row. -/
def start (columns : List Column) (rows : List (List Native)) : NativeCursor :=
  ⟨columns, rows, none, false⟩

/-- The values of a native row, or the error of the first one that has none. -/
def rowValues (columns : List Column) (row : List Native) : Except Error Row :=
  (row.zip columns).mapM fun (n, c) => n.toValue c

/-- Moves on by one row. A row that cannot be read is passed over with its error. -/
def advance (c : NativeCursor) : Except Error Bool × NativeCursor :=
  match c.pending with
  | [] => (.ok false, { c with current := none, started := true })
  | row :: rest =>
    match rowValues c.columns row with
    | .ok values => (.ok true, { c with pending := rest, current := some values, started := true })
    | .error e => (.error e, { c with pending := rest, current := none, started := true })

/-- The value in a column of the current row. -/
def value (c : NativeCursor) (ordinal : Nat) : Except Error Value :=
  match c.current with
  | some row => Cursor.cell c.columns.length row ordinal
  | none => .error (if c.started then .afterLastRow else .beforeFirstRow)

end NativeCursor

/-- A row that a scripted database hands over: a failure, or cells that may fail. -/
abbrev ScriptedRow := Except Error (List (Except Error Value))

/-- A cursor over scripted rows. -/
structure ScriptedCursor where
  columns : List Column
  /-- The rows ahead. -/
  pending : List ScriptedRow
  /-- The cells of the current row. -/
  current : Option (List (Except Error Value))

namespace ScriptedCursor

/-- A cursor before the first row. -/
def start (columns : List Column) (rows : List ScriptedRow) : ScriptedCursor :=
  ⟨columns, rows, none⟩

/-- Moves on by one row. -/
def advance (c : ScriptedCursor) : Except Error Bool × ScriptedCursor :=
  match c.pending with
  | [] => (.ok false, { c with current := none })
  | .ok cells :: rest => (.ok true, { c with pending := rest, current := some cells })
  | .error e :: rest => (.error e, { c with pending := rest, current := none })

/-- The error of a cell that is not there. -/
def noValue : Error :=
  .backend (.scripted "no value")

/-- The cell of the current row at a place counted from one, whatever the columns are. -/
def value (c : ScriptedCursor) (ordinal : Nat) : Except Error Value :=
  match c.current, ordinal with
  | some cells, place + 1 => cells.getD place (.error noValue)
  | _, _ => .error noValue

end ScriptedCursor

/-- A cursor of any kind. -/
inductive ResultCursor where
  | captured (c : Cursor)
  | native (c : NativeCursor)
  | scripted (c : ScriptedCursor)

namespace ResultCursor

def columns : ResultCursor → List Column
  | .captured c => c.result.columns
  | .native c => c.columns
  | .scripted c => c.columns

/-- Moves on by one row and says whether there was one. -/
def advance : ResultCursor → Except Error Bool × ResultCursor
  | .captured c => (.ok c.advance.isOnRow, .captured c.advance)
  | .native c => (c.advance.1, .native c.advance.2)
  | .scripted c => (c.advance.1, .scripted c.advance.2)

/-- The value in a column of the current row. -/
def value : ResultCursor → Nat → Except Error Value
  | .captured c => c.value
  | .native c => c.value
  | .scripted c => c.value

/-- The value in a column of the current row, read as asked for. -/
def get (c : ResultCursor) (ordinal : Nat) (r : Value.Request) : Except Error Value :=
  match c.value ordinal with
  | .ok v => v.read r
  | .error e => .error e

/-- The value in the column of that label or name, read as asked for. -/
def getNamed (c : ResultCursor) (name : String) (r : Value.Request) : Except Error Value :=
  match findColumn c.columns name with
  | .ok ordinal => c.get ordinal r
  | .error e => .error e

/-- The number of rows that are ahead at most. -/
def ahead : ResultCursor → Nat
  | .captured c => c.result.rows.length
  | .native c => c.pending.length
  | .scripted c => c.pending.length

/-- The values of the current row in all columns, or the first error among them. -/
def row (c : ResultCursor) : Except Error Row :=
  (List.range' 1 c.columns.length).mapM c.value

/-- Reads the rows ahead onto `done` in reverse, each passed through `accept`, up to the first
error. -/
def collectOnto (accept : Row → Except Error Row) (done : List Row) :
    Nat → ResultCursor → Except Error (List Row)
  | 0, _ => .ok done.reverse
  | steps + 1, c =>
    match c.advance with
    | (.error e, _) => .error e
    | (.ok false, _) => .ok done.reverse
    | (.ok true, c) =>
      match c.row.bind accept with
      | .error e => .error e
      | .ok row => collectOnto accept (row :: done) steps c

/-- The rows ahead, each passed through `accept`, or the first error. -/
def collect (c : ResultCursor) (accept : Row → Except Error Row) : Except Error (List Row) :=
  collectOnto accept [] (c.ahead + 1) c

/-- The columns and the rows ahead, or the first error. -/
def drain (c : ResultCursor) : Except Error ResultSet :=
  (c.collect .ok).map fun rows => ⟨c.columns, rows⟩

/-- Refuses a row that does not fit the columns of a kept result. -/
def fitting (columns : Nat) (row : Row) : Except Error Row :=
  match ResultSet.rowDefect? columns row with
  | some defect => .error (.corrupt defect)
  | none => .ok row

/-- The result to keep: the columns and the rows ahead, or the first error. -/
def capture (c : ResultCursor) : Except Error ResultSet :=
  (c.collect (fitting c.columns.length)).map fun rows => ⟨c.columns, rows⟩

end ResultCursor

end QueryReplay
