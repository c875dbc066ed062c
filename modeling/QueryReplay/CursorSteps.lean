import QueryReplay.Backend.Live

/-!
# Cursors step by step

Reading from a kept result as it is carried out: the current row is taken from
the rows by its index, and the cell from the row by the index of its column.
An index outside a list is a fault. Everything else that a cursor can be asked
for goes without an index.
-/

namespace QueryReplay

/-- An index that lies outside a list. -/
structure IndexFault where
  index : Nat
  length : Nat
deriving DecidableEq, Repr

/-- The item of a list at an index, which must lie inside. -/
def itemAt {α : Type} (items : List α) (index : Nat) : Except IndexFault α :=
  match items[index]? with
  | some item => .ok item
  | none => .error ⟨index, items.length⟩

/-- What a cursor over a kept result can be asked for. -/
inductive WalkCall where
  | advance
  | value (ordinal : Nat)
  | findColumn (name : String)
  | get (ordinal : Nat) (request : Value.Request)
  | getNamed (name : String) (request : Value.Request)
  | rowNumber
deriving DecidableEq, Repr

/-- What it answers. -/
inductive WalkAnswer where
  | moved (onRow : Bool)
  | value (outcome : Except Error Value)
  | ordinal (outcome : Except Error Nat)
  | number (row : Option Nat)

namespace Cursor

/-- The index of a column counted from one. -/
def columnIndex (columns ordinal : Nat) : Except Error Nat :=
  if ordinal = 0 ∨ columns < ordinal then .error (.ordinalNotFound ordinal columns)
  else .ok (ordinal - 1)

def valueSteps (c : Cursor) (ordinal : Nat) : Except IndexFault (Except Error Value) :=
  match c.position with
  | .beforeFirst => .ok (.error .beforeFirstRow)
  | .afterLast => .ok (.error .afterLastRow)
  | .onRow index => do
    let row ← itemAt c.result.rows index
    match columnIndex c.result.columns.length ordinal with
    | .error e => return .error e
    | .ok place => return .ok (← itemAt row place)

/-- The value in a column of the current row, read as asked for. -/
def getSteps (c : Cursor) (ordinal : Nat) (request : Value.Request) :
    Except IndexFault (Except Error Value) := do
  match ← c.valueSteps ordinal with
  | .ok v => return v.read request
  | .error e => return .error e

def getNamedSteps (c : Cursor) (name : String) (request : Value.Request) :
    Except IndexFault (Except Error Value) :=
  match findColumn c.result.columns name with
  | .ok ordinal => c.getSteps ordinal request
  | .error e => .ok (.error e)

/-- The answer of a cursor, and the cursor behind it. -/
def answerSteps (c : Cursor) : WalkCall → Except IndexFault (WalkAnswer × Cursor)
  | .advance => .ok (.moved c.advance.isOnRow, c.advance)
  | .value ordinal => do return (.value (← c.valueSteps ordinal), c)
  | .findColumn name => .ok (.ordinal (findColumn c.result.columns name), c)
  | .get ordinal request => do return (.value (← c.getSteps ordinal request), c)
  | .getNamed name request => do return (.value (← c.getNamedSteps name request), c)
  | .rowNumber => .ok (.number c.rowNumber?, c)

/-- The answers to calls one after another, and the cursor behind them. -/
def walkSteps (c : Cursor) : List WalkCall → Except IndexFault (List WalkAnswer × Cursor)
  | [] => .ok ([], c)
  | call :: calls => do
    let (answer, next) ← c.answerSteps call
    let (answers, last) ← walkSteps next calls
    return (answer :: answers, last)

end Cursor

end QueryReplay
