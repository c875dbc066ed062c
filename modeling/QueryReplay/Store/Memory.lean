import QueryReplay.Store.Entries

/-!
# Stores in memory

A store in memory has a name and its entries. Stores opened under one name
are one store for as long as the name stays registered; a store outlives its
registration for those who hold it.
-/

namespace QueryReplay

/-- A store in memory. -/
structure MemoryStore where
  name : String
  entries : Entries
deriving DecidableEq, Repr

/-- All stores in memory, each known by its number, and the numbers of the registered names. -/
structure Registry where
  stores : List MemoryStore
  names : List (String × Nat)
deriving DecidableEq, Repr

namespace Registry

/-- No stores at all. -/
def empty : Registry := ⟨[], []⟩

/-- A new store that has no registered name. -/
def create (r : Registry) (name : String) : Nat × Registry :=
  (r.stores.length, { r with stores := r.stores ++ [⟨name, []⟩] })

/-- The store registered under a name, new if there is none yet. -/
def named (r : Registry) (name : String) : Nat × Registry :=
  match r.names.lookup name with
  | some id => (id, r)
  | none =>
    let (id, r) := r.create name
    (id, { r with names := (name, id) :: r.names })

def isRegistered (r : Registry) (name : String) : Bool :=
  (r.names.lookup name).isSome

/-- Drops the registration of a name. The store itself stays. -/
def unregister (r : Registry) (name : String) : Registry :=
  { r with names := r.names.filter (·.1 != name) }

def nameOf (r : Registry) (id : Nat) : String :=
  ((r.stores[id]?).map (·.name)).getD ""

def entries (r : Registry) (id : Nat) : Entries :=
  ((r.stores[id]?).map (·.entries)).getD []

/-- The registry with other entries in a store. -/
def setEntries (r : Registry) (id : Nat) (e : Entries) : Registry :=
  { r with stores := r.stores.modify id fun s => { s with entries := e } }

/-- The bytes under a key of a store. -/
def get? (r : Registry) (id : Nat) (k : Key) : Option (List UInt8) :=
  (r.entries id).get? k

/-- Puts bytes under a key of a store. -/
def put (r : Registry) (id : Nat) (k : Key) (b : List UInt8) : Registry :=
  r.setEntries id ((r.entries id).put k b)

/-- Removes a key from a store, and says whether it was there. -/
def remove (r : Registry) (id : Nat) (k : Key) : Bool × Registry :=
  ((r.entries id).contains k, r.setEntries id ((r.entries id).erase k))

/-- Removes all keys from a store. -/
def clear (r : Registry) (id : Nat) : Registry :=
  r.setEntries id []

/-- The number of keys in a store. -/
def size (r : Registry) (id : Nat) : Nat :=
  (r.entries id).length

/-- The text that names a store in memory. -/
def describe (name : String) : String :=
  s!"mem:{name}"

end Registry

end QueryReplay
