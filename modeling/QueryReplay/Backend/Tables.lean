import QueryReplay.Backend.Affinity
import QueryReplay.Backend.Declared
import QueryReplay.Backend.Live

/-!
# Databases of tables

Tables with declared columns, and rows under ascending row numbers. A
statement on one table either selects rows or inserts, updates or deletes one;
what a statement means is given as a plan.
-/

namespace QueryReplay

/-- A column of a table. -/
structure TableColumn where
  name : String
  declaration : String
  notNull : Bool
deriving DecidableEq, Repr

/-- A table and its rows, each under its number, in ascending order. -/
structure Table where
  name : String
  columns : List TableColumn
  rows : List (Nat × List Native)
deriving DecidableEq, Repr

/-- The tables of a database, and the number of rows that the last change concerned. -/
structure Database where
  tables : List Table
  changes : Nat
deriving DecidableEq, Repr

/-- A column of a selection: one of the table, or a literal. -/
inductive SelectItem where
  | column (name : String) (label : Option String)
  | literal (v : Value) (label : String)
deriving DecidableEq, Repr

/-- What a statement means. -/
inductive Plan where
  /-- The rows of a table, or one row of literals; or only the row whose number is the
  parameter. -/
  | select (table : Option String) (items : List SelectItem) (byRowNumber : Bool)
  /-- A new row of that many parameters. -/
  | insert (table : String) (count : Nat)
  /-- The first parameter into a column of the row whose number is the second. -/
  | update (table column : String)
  /-- Without the row whose number is the parameter. -/
  | delete (table : String)
deriving DecidableEq, Repr

namespace Plan

def parameters : Plan → Nat
  | .select _ _ byRowNumber => if byRowNumber then 1 else 0
  | .insert _ count => count
  | .update _ _ => 2
  | .delete _ => 1

end Plan

/-- What a statement gives: rows, or the number of rows that it changed. -/
inductive StatementResult where
  | rows (columns : List Column) (rows : List (List Native))
  | changed (count : Nat)

namespace Table

/-- Whether two names are the same but for ASCII case. -/
def sameName (a b : String) : Bool :=
  Text.lower a.toList == Text.lower b.toList

/-- The place of a column, counted from zero. -/
def columnIndex? (t : Table) (name : String) : Option Nat :=
  t.columns.findIdx? (sameName ·.name name)

/-- The number of the next row. -/
def nextRowNumber (t : Table) : Nat :=
  t.rows.foldl (fun n r => max n r.1) 0 + 1

/-- Values as the columns store them, or a fault where a null is not allowed. -/
def storedRow (t : Table) (values : List Native) : Except BackendFault (List Native) :=
  (values.zip t.columns).mapM fun (v, c) =>
    if v = .null ∧ c.notNull then .error (.engine s!"NOT NULL constraint failed: {t.name}.{c.name}")
    else .ok ((Affinity.ofDeclaration c.declaration).store v)

/-- The table with a new row. -/
def insert (t : Table) (values : List Native) : Except BackendFault Table :=
  match t.storedRow values with
  | .ok row => .ok { t with rows := t.rows ++ [(t.nextRowNumber, row)] }
  | .error fault => .error fault

/-- Whether a row has the number that a parameter stands for. -/
def hasNumber (parameter : Native) (row : Nat × List Native) : Bool :=
  match Affinity.toNumber parameter with
  | .integer i => i.toInt == row.1
  | _ => false

/-- A row of a selection, and the description of its columns. -/
def selectColumn (t : Table) (ordinal : Nat) : SelectItem → Column
  | .column name label =>
    match t.columns.find? (sameName ·.name name) with
    | some c =>
      DeclaredType.column (label.getD c.name)
        (if c.declaration.isEmpty then none else some c.declaration) ordinal
        (if c.notNull then .noNulls else .nullable)
    | none => DeclaredType.column (label.getD name) none ordinal .unknown
  | .literal _ label => DeclaredType.column label none ordinal .unknown

/-- The value of a selected column in a row. -/
def selectValue (t : Table) (row : List Native) : SelectItem → Native
  | .column name _ => ((t.columnIndex? name).bind (row[·]?)).getD .null
  | .literal v _ => Native.ofValue v

end Table

namespace Database

/-- The native form of a parameter; a NaN is bound as null. -/
def bind (v : Value) : Native :=
  match Native.ofValue v with
  | .real x => if x.isNaN then .null else .real x
  | n => n

def table? (d : Database) (name : String) : Option Table :=
  d.tables.find? (Table.sameName ·.name name)

/-- The database with a table replaced by another of the same name. -/
def replace (d : Database) (t : Table) (changes : Nat) : Database :=
  { tables := d.tables.map fun u => if Table.sameName u.name t.name then t else u, changes }

/-- The fault of a table that is not there. -/
def noTable (name : String) : BackendFault :=
  .engine s!"no such table: {name}"

/-- A table without columns that holds one row, to select literals from. -/
def oneRow : Table :=
  ⟨"", [], [(1, [])]⟩

/-- The table that a plan is about, or why the plan cannot be prepared. -/
def prepare (d : Database) (p : Plan) : Except BackendFault Table :=
  let find (name : String) : Except BackendFault Table :=
    match d.table? name with
    | some t => .ok t
    | none => .error (noTable name)
  match p with
  | .select none _ _ => .ok oneRow
  | .select (some name) items _ =>
    match find name with
    | .error fault => .error fault
    | .ok t =>
      let known : SelectItem → Bool
        | .column c _ => (t.columnIndex? c).isSome
        | .literal _ _ => true
      if items.all known then .ok t else .error (.engine "no such column")
  | .insert name count =>
    match find name with
    | .error fault => .error fault
    | .ok t =>
      if t.columns.length = count then .ok t
      else .error (.engine s!"table {name} has another number of columns")
  | .update name column =>
    match find name with
    | .error fault => .error fault
    | .ok t => if (t.columnIndex? column).isSome then .ok t else .error (.engine "no such column")
  | .delete name => find name

/-- Runs a prepared plan on its table. -/
def run (d : Database) (t : Table) (p : Plan) (parameters : List Native) :
    Except BackendFault (StatementResult × Database) :=
  match p with
  | .select _ items byRowNumber =>
    let kept := if byRowNumber then t.rows.filter (Table.hasNumber (parameters.headD .null))
      else t.rows
    let columns := items.zipIdx.map fun (item, i) => t.selectColumn (i + 1) item
    .ok (.rows columns (kept.map fun r => items.map (t.selectValue r.2)), d)
  | .insert _ _ =>
    match t.insert parameters with
    | .ok t => .ok (.changed 1, d.replace t 1)
    | .error fault => .error fault
  | .update _ column =>
    let value := parameters.headD .null
    let hit := t.rows.filter (Table.hasNumber (parameters.getD 1 .null))
    match t.columns.find? (Table.sameName ·.name column), t.columnIndex? column with
    | some c, some index =>
      if hit.isEmpty then .ok (.changed 0, d.replace t 0)
      else if value = .null ∧ c.notNull then
        .error (.engine s!"NOT NULL constraint failed: {t.name}.{c.name}")
      else
        let stored := (Affinity.ofDeclaration c.declaration).store value
        let rows := t.rows.map fun r =>
          if Table.hasNumber (parameters.getD 1 .null) r then (r.1, r.2.set index stored) else r
        .ok (.changed hit.length, d.replace { t with rows } hit.length)
    | _, _ => .error (.engine "no such column")
  | .delete _ =>
    let hit := t.rows.filter (Table.hasNumber (parameters.headD .null))
    let rows := t.rows.filter fun r => !Table.hasNumber (parameters.headD .null) r
    .ok (.changed hit.length, d.replace { t with rows } hit.length)

/-- Prepares a plan, binds its parameters and runs it. Binding stops at the first parameter too
many. -/
def statement (d : Database) (p : Plan) (parameters : List Value) :
    Except BackendFault (StatementResult × Database) :=
  match d.prepare p with
  | .error fault => .error fault
  | .ok t =>
    if parameters.length ≠ p.parameters then
      .error (.parameterCount (min parameters.length (p.parameters + 1)) p.parameters)
    else d.run t p (parameters.map bind)

/-- Runs a statement for its rows. One that changes rows gives none. -/
def query (d : Database) (p : Plan) (parameters : List Value) :
    Except BackendFault ResultCursor × Database :=
  match d.statement p parameters with
  | .error fault => (.error fault, d)
  | .ok (.rows columns rows, d) => (.ok (.native (.start columns rows)), d)
  | .ok (.changed _, d) => (.ok (.native (.start [] [])), d)

/-- Runs a statement for the number of rows that it changes. One that gives rows is refused; one
that selects none leaves the number of the last change. -/
def execute (d : Database) (p : Plan) (parameters : List Value) :
    Except BackendFault Nat × Database :=
  match d.statement p parameters with
  | .error fault => (.error fault, d)
  | .ok (.rows _ rows, d) =>
    (if rows.isEmpty then .ok d.changes else .error (.engine "the statement returned rows"), d)
  | .ok (.changed count, d) => (.ok count, d)

/-- The database with a new table whose rows are inserted one by one. -/
def create (d : Database) (name : String) (columns : List TableColumn) (rows : List (List Value)) :
    Except BackendFault Database := do
  let t ← rows.foldlM (fun t row => t.insert (row.map bind)) (Table.mk name columns [])
  return { tables := d.tables ++ [t], changes := if rows.isEmpty then d.changes else 1 }

end Database

end QueryReplay
