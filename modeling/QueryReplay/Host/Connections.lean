import QueryReplay.Connection.Prepared
import QueryReplay.Host.Backends
import QueryReplay.Host.Stores

/-!
# Connections of a host

A connection joins a store and a database of the host.
-/

namespace QueryReplay

/-- An open connection. -/
structure OpenConnection where
  connection : Connection
  target : StoreTarget
  store : OpenStore
  /-- The number of the database connection. -/
  backend : Nat
deriving DecidableEq, Repr

namespace OpenConnection

/-- What the connection works with. -/
def environment (c : OpenConnection) : Environment Host where
  get := Host.getEntry c.store
  put := Host.putEntry c.store
  query := Host.askRows c.backend
  execute := Host.askCount c.backend
  log := Host.log
  storeName := c.store.describe

def query (c : OpenConnection) (q : Statement) (parameters : List Value) (h : Host) :
    Except Error ResultCursor × Host :=
  c.connection.query c.environment q parameters h

/-- Runs a change. -/
def update (c : OpenConnection) (q : Statement) (parameters : List Value) (h : Host) :
    Except Error Nat × Host :=
  Connection.update c.environment q parameters h

end OpenConnection

namespace Host

/-- A connection between a database and the store at a target. -/
def join (backend : Nat) (target : StoreTarget) (connection : Connection) (h : Host) :
    Except Error OpenConnection × Host :=
  match openStore target h with
  | (.ok store, h) => (.ok ⟨connection, target, store, backend⟩, h)
  | (.error e, h) => (.error e, h)

/-- The connection that settings describe. The target is read first, then the database is opened
and then the store. -/
def connect (s : Settings) (h : Host) : Except Error OpenConnection × Host :=
  match s.target with
  | .error e => (.error e, h)
  | .ok target =>
    match openBackend s.driver s.backendUrl h with
    | (.error e, h) => (.error e, h)
    | (.ok backend, h) => join backend target ⟨s.active, s.onStoreError⟩ h

end Host

end QueryReplay
