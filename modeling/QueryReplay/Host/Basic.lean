import QueryReplay.Backend.Statement
import QueryReplay.Log.Event
import QueryReplay.Store.FileTree
import QueryReplay.Store.Memory
import QueryReplay.Store.Unreliable

/-!
# Hosts

A host is all that connections have in common: files, stores in memory,
databases, and the events that have been told to the log.
-/

namespace QueryReplay

/-- What answers statements. -/
inductive Engine where
  | scripted (script : Script)
  /-- A database of tables, by its number, and the location it was opened at. -/
  | tables (database : Nat) (location : String)

/-- A connection to a database, and how often it has been asked. -/
structure Backend where
  engine : Engine
  isClosed : Bool
  queries : Nat
  updates : Nat

namespace Backend

/-- A new connection. -/
def opened (e : Engine) : Backend :=
  ⟨e, false, 0, 0⟩

/-- The text that names a database. -/
def describe (b : Backend) : String :=
  match b.engine with
  | .scripted _ => "script"
  | .tables _ location => s!"sqlite:{location}"

end Backend

/-- All that connections have in common. -/
structure Host where
  files : FileTree
  memory : Registry
  unreliable : List (String × UnreliableStore)
  databases : List Database
  /-- The numbers of the databases that are kept in files. -/
  locations : List (Place × Nat)
  backends : List Backend
  /-- What has been told to the log, the latest first. -/
  events : List Log.Event

namespace Host

/-- A host with files and nothing else. -/
def withFiles (t : FileTree) : Host where
  files := t
  memory := .empty
  unreliable := []
  databases := []
  locations := []
  backends := []
  events := []

/-- Tells the log that something happened. -/
def log (e : Log.Event) (h : Host) : Host :=
  { h with events := e :: h.events }

end Host

end QueryReplay
