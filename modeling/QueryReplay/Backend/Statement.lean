import QueryReplay.Backend.Script
import QueryReplay.Backend.Tables

/-!
# Statements and engines

A statement is known by its text. What it means to a database of tables is
given as a plan; a scripted database goes by the text alone.
-/

namespace QueryReplay

/-- A statement. -/
structure Statement where
  text : String
  /-- What the statement means to a database of tables, if it means anything. -/
  plan : Option Plan
deriving DecidableEq, Repr

namespace Database

/-- The fault of a statement that means nothing. -/
def meaningless : BackendFault :=
  .engine "the statement has no meaning"

/-- Runs a statement for its rows. -/
def answer (d : Database) (s : Statement) (parameters : List Value) :
    Except BackendFault ResultCursor × Database :=
  match s.plan with
  | some plan => d.query plan parameters
  | none => (.error meaningless, d)

/-- Runs a statement for the number of rows that it changes. -/
def apply (d : Database) (s : Statement) (parameters : List Value) :
    Except BackendFault Nat × Database :=
  match s.plan with
  | some plan => d.execute plan parameters
  | none => (.error meaningless, d)

end Database

end QueryReplay
