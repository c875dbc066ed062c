import QueryReplay.Store.Entries
import QueryReplay.Error

/-!
# Unreliable stores

A store that fails to read or to write whenever it is told to. A failure
leaves its entries alone.
-/

namespace QueryReplay

/-- A store in memory that may fail. -/
structure UnreliableStore where
  entries : Entries
  failsToRead : Bool
  failsToWrite : Bool
deriving DecidableEq, Repr

namespace UnreliableStore

def empty : UnreliableStore :=
  ⟨[], false, false⟩

/-- The path in the errors of every such store. -/
def path : String := "/flaky"

/-- The text that names every such store. -/
def describe : String := "flaky"

/-- The bytes under a key. -/
def get (s : UnreliableStore) (k : Key) : Except Error (Option (List UInt8)) :=
  if s.failsToRead then .error (.store path (.other "flaky read")) else .ok (s.entries.get? k)

/-- Puts bytes under a key. -/
def put (s : UnreliableStore) (k : Key) (b : List UInt8) : Except Error UnreliableStore :=
  if s.failsToWrite then .error (.store path (.other "flaky write"))
  else .ok { s with entries := s.entries.put k b }

end UnreliableStore

end QueryReplay
