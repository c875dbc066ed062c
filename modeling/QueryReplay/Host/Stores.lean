import QueryReplay.Config.Target
import QueryReplay.Host.Basic
import QueryReplay.Store.Directory

/-!
# Stores of a host

A store is opened by its target: stores at one path, and stores in memory of
one name, share their entries.
-/

namespace QueryReplay

/-- An open store. -/
inductive OpenStore where
  | directory (s : DirectoryStore)
  /-- A store in memory, by its number, and its name. -/
  | memory (id : Nat) (name : String)
  | unreliable (name : String)
deriving DecidableEq, Repr

namespace OpenStore

def describe : OpenStore → String
  | .directory s => s.describe
  | .memory _ name => Registry.describe name
  | .unreliable _ => UnreliableStore.describe

end OpenStore

namespace Host

/-- The unreliable store of a name, empty if there is none yet. -/
def unreliableStore (h : Host) (name : String) : UnreliableStore :=
  (h.unreliable.lookup name).getD .empty

/-- The host with another unreliable store of a name. -/
def setUnreliable (h : Host) (name : String) (s : UnreliableStore) : Host :=
  { h with unreliable := (name, s) :: h.unreliable.filter (·.1 != name) }

def openStore (target : StoreTarget) (h : Host) : Except Error OpenStore × Host :=
  match target with
  | .directory path =>
    match DirectoryStore.openAt h.files path with
    | (.ok s, files) => (.ok (.directory s), log (.storeOpened s.describe) { h with files })
    | (.error e, files) => (.error e, { h with files })
  | .memory name =>
    let (id, memory) := h.memory.named name
    (.ok (.memory id name), log (.storeOpened (Registry.describe name)) { h with memory })

def getEntry (store : OpenStore) (k : Key) (h : Host) : Except Error (Option (List UInt8)) × Host :=
  match store with
  | .directory s => (s.get h.files k, h)
  | .memory id _ => (.ok (h.memory.get? id k), h)
  | .unreliable name => ((h.unreliableStore name).get k, h)

def putEntry (store : OpenStore) (k : Key) (b : List UInt8) (h : Host) : Except Error Unit × Host :=
  match store with
  | .directory s =>
    match s.put h.files k b with
    | .ok files => (.ok (), log (.entryWritten (s.entryPath k) b.length) { h with files })
    | .error e => (.error e, h)
  | .memory id _ => (.ok (), { h with memory := h.memory.put id k b })
  | .unreliable name =>
    match (h.unreliableStore name).put k b with
    | .ok s => (.ok (), h.setUnreliable name s)
    | .error e => (.error e, h)

end Host

end QueryReplay
