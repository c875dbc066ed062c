import QueryReplay.Backend.Live

/-!
# Scripted databases

A database that answers from a list: the first answer to the same statement,
and to equal parameters if it names any.
-/

namespace QueryReplay

/-- What a scripted database answers to a query. -/
inductive ScriptedAnswer where
  | fail (text : String)
  | rows (columns : List Column) (rows : List ScriptedRow)

/-- What a scripted database answers to a change. -/
inductive ScriptedCount where
  | fail (text : String)
  | count (rows : Nat)

/-- An answer, and the statement and parameters that it belongs to. -/
structure ScriptedCase (α : Type) where
  statement : String
  /-- The parameters, or nothing if any will do. -/
  parameters : Option (List Value)
  answer : α

/-- The answers of a scripted database. -/
structure Script where
  queries : List (ScriptedCase ScriptedAnswer)
  updates : List (ScriptedCase ScriptedCount)

namespace Script

/-- The first answer that belongs to a statement and its parameters. -/
def find? {α : Type} (cases : List (ScriptedCase α)) (statement : String)
    (parameters : List Value) : Option α :=
  (cases.find? fun c =>
    c.statement == statement && c.parameters.all (· == parameters)).map (·.answer)

/-- The fault of a statement without an answer. -/
def unanswered : BackendFault :=
  .scripted "no response"

def query (s : Script) (statement : String) (parameters : List Value) :
    Except BackendFault ResultCursor :=
  match find? s.queries statement parameters with
  | some (.rows columns rows) => .ok (.scripted (.start columns rows))
  | some (.fail text) => .error (.scripted text)
  | none => .error unanswered

/-- The number of rows that a change concerns. -/
def execute (s : Script) (statement : String) (parameters : List Value) :
    Except BackendFault Nat :=
  match find? s.updates statement parameters with
  | some (.count rows) => .ok rows
  | some (.fail text) => .error (.scripted text)
  | none => .error unanswered

end Script

end QueryReplay
