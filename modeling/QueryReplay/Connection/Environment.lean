import QueryReplay.Backend.Statement
import QueryReplay.Log.Event

/-!
# Environments

What a connection works with: one store, one database and the log, in a world
whose states are of some type. Every operation leads from a state to an outcome
and a state.
-/

namespace QueryReplay

/-- A store, a database and the log in a world with states `σ`. -/
structure Environment (σ : Type) where
  /-- The bytes under a key of the store. -/
  get : Key → σ → Except Error (Option (List UInt8)) × σ
  /-- Puts bytes under a key of the store. -/
  put : Key → List UInt8 → σ → Except Error Unit × σ
  /-- Runs a statement for its rows. -/
  query : Statement → List Value → σ → Except Error ResultCursor × σ
  /-- Runs a statement for the number of rows that it changes. -/
  execute : Statement → List Value → σ → Except Error Nat × σ
  /-- Tells the log that something happened. -/
  log : Log.Event → σ → σ
  /-- The text that names the store in the log. -/
  storeName : String

end QueryReplay
