import Mathlib.Data.Finmap
import QueryReplay.Proofs.Key.Order
import QueryReplay.Proofs.Simulation
import QueryReplay.Proofs.Store.Entries
import QueryReplay.Store.Directory

/-!
# What stores can be asked for

A finite map from keys to byte strings says what a store should answer: what
was put last under a key is found there until it is removed.  A store in memory
can also be emptied and counted, and one in a directory can list its keys.  The
store in memory is compared with the map here.
-/

namespace QueryReplay

/-- Byte strings under finitely many keys. -/
abbrev FiniteMap := Finmap fun _ : Key => List UInt8

/-- What every store can be asked for. -/
inductive EntryCall where
  | put (k : Key) (b : List UInt8)
  | get (k : Key)
  | remove (k : Key)
deriving DecidableEq, Repr

inductive MemoryCall where
  | entry (call : EntryCall)
  | clear
  | size
deriving DecidableEq, Repr

/-- What can be asked for where any number of stores share a directory. -/
inductive DirectoryCall where
  /-- One more store is opened. -/
  | opened (root : String)
  | entry (s : DirectoryStore) (call : EntryCall)
  | keys (s : DirectoryStore)
deriving DecidableEq, Repr

inductive StoreAnswer where
  | done
  | found (b : Option (List UInt8))
  | removed (present : Bool)
  | size (n : Nat)
  | keys (ks : List Key)
deriving DecidableEq, Repr

/-! ## Finite maps -/

namespace FiniteMap

def entryAnswer (m : FiniteMap) : EntryCall → StoreAnswer × FiniteMap
  | .put k b => (.done, m.insert k b)
  | .get k => (.found (m.lookup k), m)
  | .remove k => (.removed (m.lookup k).isSome, m.erase k)

def memoryAnswer (m : FiniteMap) : MemoryCall → StoreAnswer × FiniteMap
  | .entry call => m.entryAnswer call
  | .clear => (.done, ∅)
  | .size => (.size m.keys.card, m)

/-- It makes no difference which of the stores is asked. -/
def directoryAnswer (m : FiniteMap) : DirectoryCall → StoreAnswer × FiniteMap
  | .opened _ => (.done, m)
  | .entry _ call => m.entryAnswer call
  | .keys _ => (.keys m.keys.sort, m)

variable {m : FiniteMap} {k l : Key}

theorem lookup_insert_eq (m : FiniteMap) (k l : Key) (b : List UInt8) :
    (m.insert k b).lookup l = if l = k then some b else m.lookup l := by
  by_cases hl : l = k
  · rw [hl, if_pos rfl, Finmap.lookup_insert]
  · rw [if_neg hl, Finmap.lookup_insert_of_ne m hl]

theorem lookup_erase_eq (m : FiniteMap) (k l : Key) :
    (m.erase k).lookup l = if l = k then none else m.lookup l := by
  by_cases hl : l = k
  · rw [hl, if_pos rfl, Finmap.lookup_erase]
  · rw [if_neg hl, Finmap.lookup_erase_ne hl]

theorem erase_of_lookup_eq_none (hnone : m.lookup k = none) : m.erase k = m := by
  apply Finmap.ext_lookup
  intro l
  rw [lookup_erase_eq]
  by_cases hl : l = k
  · rw [if_pos hl, hl, hnone]
  · rw [if_neg hl]

/-- The keys are those of the map, each of them once. -/
def Enumerates (ks : List Key) (m : FiniteMap) : Prop :=
  ks.Nodup ∧ ks.toFinset = m.keys

namespace Enumerates

variable {ks : List Key}

theorem nil : Enumerates [] ∅ :=
  ⟨List.nodup_nil, rfl⟩

theorem mem_iff (h : Enumerates ks m) : l ∈ ks ↔ l ∈ m := by
  rw [← List.mem_toFinset, h.2, Finmap.mem_keys]

theorem insert (h : Enumerates ks m) (k : Key) (b : List UInt8) :
    Enumerates (k :: ks.filter (· != k)) (m.insert k b) := by
  constructor
  · refine List.nodup_cons.mpr ⟨?_, h.1.filter _⟩
    intro hmem
    simpa using (List.mem_filter.mp hmem).2
  · ext l
    rw [List.mem_toFinset, Finmap.mem_keys, Finmap.mem_insert, List.mem_cons, List.mem_filter,
      h.mem_iff, bne_iff_ne]
    by_cases hl : l = k
    · simp [hl]
    · simp [hl]

theorem erase (h : Enumerates ks m) (k : Key) :
    Enumerates (ks.filter (· != k)) (m.erase k) := by
  refine ⟨h.1.filter _, ?_⟩
  ext l
  rw [List.mem_toFinset, Finmap.mem_keys, Finmap.mem_erase, List.mem_filter, h.mem_iff,
    bne_iff_ne, and_comm]

theorem length_eq (h : Enumerates ks m) : ks.length = m.keys.card := by
  rw [← h.2, List.toFinset_card_of_nodup h.1]

theorem sorted_eq (h : Enumerates ks m) : Key.sorted ks = m.keys.sort := by
  rw [Key.sorted_eq_sort h.1, h.2]

end Enumerates

end FiniteMap

/-! ## Stores in memory -/

namespace Registry

def entryAnswer (id : Nat) (r : Registry) : EntryCall → StoreAnswer × Registry
  | .put k b => (.done, r.put id k b)
  | .get k => (.found (r.get? id k), r)
  | .remove k => (.removed (r.remove id k).1, (r.remove id k).2)

/-- The answer of the store with that number, and all stores behind it. -/
def memoryAnswer (id : Nat) (r : Registry) : MemoryCall → StoreAnswer × Registry
  | .entry call => r.entryAnswer id call
  | .clear => (.done, r.clear id)
  | .size => (.size (r.size id), r)

/-- The store with that number is there, and has the entries of the map. -/
structure Represents (id : Nat) (r : Registry) (m : FiniteMap) : Prop where
  present : id < r.stores.length
  lookup (k : Key) : r.get? id k = m.lookup k
  keys : FiniteMap.Enumerates ((r.entries id).map Prod.fst) m

namespace Represents

variable {id : Nat} {r : Registry} {m : FiniteMap}

theorem of_entries_eq_nil (hid : id < r.stores.length) (hempty : r.entries id = []) :
    Represents id r ∅ := by
  refine ⟨hid, fun k => ?_, ?_⟩
  · rw [get?, hempty, Finmap.lookup_empty]
    rfl
  · rw [hempty]
    exact FiniteMap.Enumerates.nil

theorem map_fst_erase (e : Entries) (k : Key) :
    (e.erase k).map Prod.fst = (e.map Prod.fst).filter (· != k) := by
  rw [Entries.erase, List.filter_map]
  rfl

theorem put (h : Represents id r m) (k : Key) (b : List UInt8) :
    Represents id (r.put id k b) (m.insert k b) := by
  refine ⟨?_, fun l => ?_, ?_⟩
  · rw [Registry.put, length_setEntries]
    exact h.present
  · rw [get?_put h.present, h.lookup, FiniteMap.lookup_insert_eq]
  · rw [Registry.put, entries_setEntries h.present, Entries.put, List.map_cons, map_fst_erase]
    exact h.keys.insert k b

theorem remove (h : Represents id r m) (k : Key) :
    Represents id (r.remove id k).2 (m.erase k) := by
  refine ⟨?_, fun l => ?_, ?_⟩
  · rw [Registry.remove, length_setEntries]
    exact h.present
  · rw [get?_remove h.present, h.lookup, FiniteMap.lookup_erase_eq]
  · rw [Registry.remove, entries_setEntries h.present, map_fst_erase]
    exact h.keys.erase k

theorem clear (h : Represents id r m) : Represents id (r.clear id) ∅ := by
  refine of_entries_eq_nil ?_ (entries_setEntries h.present [])
  rw [Registry.clear, length_setEntries]
  exact h.present

end Represents

theorem entryAnswer_eq {id : Nat} {r : Registry} {m : FiniteMap} (h : Represents id r m)
    (call : EntryCall) :
    (r.entryAnswer id call).1 = (m.entryAnswer call).1 ∧
      Represents id (r.entryAnswer id call).2 (m.entryAnswer call).2 := by
  cases call with
  | put k b => exact ⟨rfl, h.put k b⟩
  | get k => exact ⟨congrArg StoreAnswer.found (h.lookup k), h⟩
  | remove k =>
      refine ⟨?_, h.remove k⟩
      show StoreAnswer.removed (r.get? id k).isSome = _
      rw [h.lookup]
      rfl

theorem simulates_finiteMap (id : Nat) :
    Simulates (memoryAnswer id) FiniteMap.memoryAnswer (fun _ => True) (fun _ => True)
      (Represents id) := by
  intro r m call h _ _
  cases call with
  | entry call => exact entryAnswer_eq h call
  | clear => exact ⟨rfl, h.clear⟩
  | size =>
      refine ⟨?_, h⟩
      have hsize := h.keys.length_eq
      rw [List.length_map] at hsize
      exact congrArg StoreAnswer.size hsize

end Registry

end QueryReplay
