import QueryReplay.Host.Stores
import QueryReplay.Proofs.Store.Directory

/-!
# Shelves

Several open stores may keep their entries in one place: stores in memory of
one number, stores whose paths lead to one directory, however they are spelled,
and unreliable stores of one name.  Such a place is called a shelf here.  A
shelf is a finite map from keys to bytes for all stores that work on it, and
nothing but putting and removing entries changes it.
-/

namespace QueryReplay

/-- Where the entries of a store are kept. -/
inductive Shelf where
  | directory (place : Place)
  | memory (id : Nat)
  | unreliable (name : String)
deriving DecidableEq

namespace Host

/-- Where a store keeps its entries, if it is there. -/
def shelf? (store : OpenStore) (h : Host) : Option Shelf :=
  match store with
  | .directory s =>
    match h.files.follow [] (FilePath.parts s.root) with
    | .ok p => some (.directory p)
    | .error _ => none
  | .memory id _ => if id < h.memory.stores.length then some (.memory id) else none
  | .unreliable name => some (.unreliable name)

/-- The bytes under a key on a shelf. -/
def entryAt (shelf : Shelf) (k : Key) (h : Host) : Option (List UInt8) :=
  match shelf with
  | .directory p => h.files.contentAt (p ++ [DirectoryStore.entryName k])
  | .memory id => h.memory.get? id k
  | .unreliable name => (h.unreliableStore name).entries.get? k

/-- The store keeps its entries on the shelf, and neither reading nor writing an entry fails. -/
structure Keeps (shelf : Shelf) (store : OpenStore) (h : Host) : Prop where
  shelf_eq : h.shelf? store = some shelf
  gets (k : Key) : ∃ found, (getEntry store k h).1 = .ok found
  puts (k : Key) (b : List UInt8) : (putEntry store k b h).1 = .ok ()

variable {shelf : Shelf} {store : OpenStore} {h h' h'' : Host}

/-! ## Stores that work -/

theorem keeps_directory_iff {s : DirectoryStore} :
    h.Keeps shelf (.directory s) ↔ ∃ p, shelf = .directory p ∧ s.WorksAt h.files p := by
  constructor
  · rintro ⟨hshelf, _, hputs⟩
    unfold shelf? at hshelf
    cases hleads : h.files.follow [] (FilePath.parts s.root) with
    | error fault =>
        simp only [hleads] at hshelf
        cases hshelf
    | ok p =>
        simp only [hleads] at hshelf
        refine ⟨p, (Option.some.inj hshelf).symm, DirectoryStore.worksAt_iff.mpr ⟨hleads, ?_⟩⟩
        intro k b
        have hput := hputs k b
        unfold putEntry at hput
        cases hfiles : s.put h.files k b with
        | error e =>
            simp only [hfiles] at hput
            cases hput
        | ok files => exact ⟨files, rfl⟩
  · rintro ⟨p, rfl, hworks⟩
    refine ⟨?_, fun k => ⟨_, hworks.get_eq k⟩, fun k b => ?_⟩
    · simp only [shelf?, hworks.leads]
    · simp only [putEntry, hworks.put_eq k b]

theorem keeps_memory_iff {id : Nat} {name : String} :
    h.Keeps shelf (.memory id name) ↔ shelf = .memory id ∧ id < h.memory.stores.length := by
  constructor
  · rintro ⟨hshelf, _, _⟩
    unfold shelf? at hshelf
    by_cases hid : id < h.memory.stores.length
    · simp only [if_pos hid] at hshelf
      exact ⟨(Option.some.inj hshelf).symm, hid⟩
    · simp only [if_neg hid] at hshelf
      cases hshelf
  · rintro ⟨rfl, hid⟩
    exact ⟨if_pos hid, fun k => ⟨_, rfl⟩, fun k b => rfl⟩

theorem keeps_unreliable_iff {name : String} :
    h.Keeps shelf (.unreliable name) ↔ shelf = .unreliable name ∧
      (h.unreliableStore name).failsToRead = false ∧
        (h.unreliableStore name).failsToWrite = false := by
  constructor
  · rintro ⟨hshelf, hgets, hputs⟩
    refine ⟨(Option.some.inj hshelf).symm, ?_, ?_⟩
    · obtain ⟨found, hget⟩ := hgets ⟨Vector.replicate 32 0⟩
      cases hreads : (h.unreliableStore name).failsToRead with
      | false => rfl
      | true => simp [getEntry, UnreliableStore.get, hreads] at hget
    · have hput := hputs ⟨Vector.replicate 32 0⟩ []
      cases hwrites : (h.unreliableStore name).failsToWrite with
      | false => rfl
      | true => simp [putEntry, UnreliableStore.put, hwrites] at hput
  · rintro ⟨rfl, hreads, hwrites⟩
    refine ⟨rfl, fun k => ⟨(h.unreliableStore name).entries.get? k, ?_⟩, fun k b => ?_⟩
    · simp [getEntry, UnreliableStore.get, hreads]
    · simp [putEntry, UnreliableStore.put, hwrites]

/-- Reading from a store that works finds what is on its shelf and changes nothing. -/
theorem Keeps.getEntry_eq (hkeeps : h.Keeps shelf store) (k : Key) :
    getEntry store k h = (.ok (h.entryAt shelf k), h) := by
  cases store with
  | directory s =>
      obtain ⟨p, rfl, hworks⟩ := keeps_directory_iff.mp hkeeps
      simp only [getEntry, entryAt, hworks.get_eq k]
  | memory id name =>
      obtain ⟨rfl, _⟩ := keeps_memory_iff.mp hkeeps
      rfl
  | unreliable name =>
      obtain ⟨rfl, hreads, _⟩ := keeps_unreliable_iff.mp hkeeps
      simp [getEntry, entryAt, UnreliableStore.get, hreads]

/-! ## Hosts that agree on a shelf -/

/-- Another host in which the shelf is as it was, and is kept by the stores that kept it. -/
structure Leaves (shelf : Shelf) (h h' : Host) : Prop where
  entry (l : Key) : h'.entryAt shelf l = h.entryAt shelf l
  keeps (store : OpenStore) (hkeeps : h.Keeps shelf store) : h'.Keeps shelf store

namespace Leaves

theorem trans (hfirst : Leaves shelf h h') (hnext : Leaves shelf h' h'') : Leaves shelf h h'' :=
  ⟨fun l => (hnext.entry l).trans (hfirst.entry l),
    fun store hkeeps => hnext.keeps store (hfirst.keeps store hkeeps)⟩

/-- What happens to databases, connections and the log does not concern any shelf. -/
theorem of_eq (hfiles : h'.files = h.files) (hmemory : h'.memory = h.memory)
    (hunreliable : h'.unreliable = h.unreliable) : Leaves shelf h h' := by
  constructor
  · intro l
    cases shelf with
    | directory p => simp only [entryAt, hfiles]
    | memory id => simp only [entryAt, hmemory]
    | unreliable name => simp only [entryAt, unreliableStore, hunreliable]
  · intro store hkeeps
    cases store with
    | directory s =>
        rw [keeps_directory_iff, hfiles]
        exact keeps_directory_iff.mp hkeeps
    | memory id name =>
        rw [keeps_memory_iff, hmemory]
        exact keeps_memory_iff.mp hkeeps
    | unreliable name =>
        rw [keeps_unreliable_iff, unreliableStore, hunreliable]
        exact keeps_unreliable_iff.mp hkeeps

end Leaves

/-- Another host in which only what is under one key of the shelf has changed. -/
structure Changes (shelf : Shelf) (k : Key) (found : Option (List UInt8)) (h h' : Host) :
    Prop where
  entry (l : Key) : h'.entryAt shelf l = if l = k then found else h.entryAt shelf l
  keeps (store : OpenStore) (hkeeps : h.Keeps shelf store) : h'.Keeps shelf store

theorem Leaves.trans_changes {k : Key} {found : Option (List UInt8)}
    (hfirst : Leaves shelf h h') (hnext : Changes shelf k found h' h'') :
    Changes shelf k found h h'' := by
  refine ⟨fun l => ?_, fun store hkeeps => hnext.keeps store (hfirst.keeps store hkeeps)⟩
  rw [hnext.entry l, hfirst.entry l]

theorem Changes.trans_leaves {k : Key} {found : Option (List UInt8)}
    (hfirst : Changes shelf k found h h') (hnext : Leaves shelf h' h'') :
    Changes shelf k found h h'' :=
  ⟨fun l => (hnext.entry l).trans (hfirst.entry l),
    fun store hkeeps => hnext.keeps store (hfirst.keeps store hkeeps)⟩

theorem keeps_of_sameDirectories {p : Place}
    (hsame : FileTree.SameDirectories h.files h'.files)
    (hkeeps : h.Keeps (.directory p) store) : h'.Keeps (.directory p) store := by
  cases store with
  | directory s =>
      obtain ⟨q, hq, hworks⟩ := keeps_directory_iff.mp hkeeps
      exact keeps_directory_iff.mpr ⟨q, hq, hworks.of_sameDirectories hsame⟩
  | memory id name => cases (keeps_memory_iff.mp hkeeps).1
  | unreliable name => cases (keeps_unreliable_iff.mp hkeeps).1

theorem keeps_of_length_eq {id : Nat}
    (hlength : h'.memory.stores.length = h.memory.stores.length)
    (hkeeps : h.Keeps (.memory id) store) : h'.Keeps (.memory id) store := by
  cases store with
  | directory s =>
      obtain ⟨p, hp, _⟩ := keeps_directory_iff.mp hkeeps
      cases hp
  | memory id' name =>
      obtain ⟨hid, hlt⟩ := keeps_memory_iff.mp hkeeps
      exact keeps_memory_iff.mpr ⟨hid, hlength ▸ hlt⟩
  | unreliable name => cases (keeps_unreliable_iff.mp hkeeps).1

theorem keeps_of_flags_eq {name : String}
    (hreads : (h'.unreliableStore name).failsToRead = (h.unreliableStore name).failsToRead)
    (hwrites : (h'.unreliableStore name).failsToWrite = (h.unreliableStore name).failsToWrite)
    (hkeeps : h.Keeps (.unreliable name) store) : h'.Keeps (.unreliable name) store := by
  cases store with
  | directory s =>
      obtain ⟨p, hp, _⟩ := keeps_directory_iff.mp hkeeps
      cases hp
  | memory id name' => cases (keeps_memory_iff.mp hkeeps).1
  | unreliable name' =>
      obtain ⟨hname, hflags⟩ := keeps_unreliable_iff.mp hkeeps
      cases hname
      exact keeps_unreliable_iff.mpr
        ⟨rfl, hreads.trans hflags.1, hwrites.trans hflags.2⟩

theorem unreliableStore_setUnreliable (h : Host) (name other : String) (s : UnreliableStore) :
    (h.setUnreliable name s).unreliableStore other =
      if other = name then s else h.unreliableStore other := by
  unfold unreliableStore setUnreliable
  rw [lookup_replace]
  by_cases hname : other = name
  · rw [if_pos hname, if_pos hname]
    rfl
  · rw [if_neg hname, if_neg hname]

/-- To put an entry changes this entry only. -/
theorem Keeps.putEntry_changes (hkeeps : h.Keeps shelf store) (k : Key) (b : List UInt8) :
    Changes shelf k (some b) h (putEntry store k b h).2 := by
  cases store with
  | directory s =>
      obtain ⟨p, rfl, hworks⟩ := keeps_directory_iff.mp hkeeps
      have hput : (putEntry (.directory s) k b h).2.files =
          h.files.set (p ++ [DirectoryStore.entryName k]) (.file b) := by
        simp only [putEntry, hworks.put_eq k b]
        rfl
      constructor
      · intro l
        rw [entryAt, hput, FileTree.contentAt_set (by simp)]
        simp only [DirectoryStore.entry_eq_iff]
        rfl
      · intro store' hkeeps'
        refine keeps_of_sameDirectories ?_ hkeeps'
        rw [hput]
        exact hworks.sameDirectories_put k b
  | memory id name =>
      obtain ⟨rfl, hid⟩ := keeps_memory_iff.mp hkeeps
      constructor
      · exact fun l => Registry.get?_put hid k l b
      · intro store' hkeeps'
        exact keeps_of_length_eq (Registry.length_setEntries _ _ _) hkeeps'
  | unreliable name =>
      obtain ⟨rfl, _, hwrites⟩ := keeps_unreliable_iff.mp hkeeps
      have hput : (putEntry (.unreliable name) k b h).2 = h.setUnreliable name
          { h.unreliableStore name with entries := (h.unreliableStore name).entries.put k b } := by
        simp [putEntry, UnreliableStore.put, hwrites]
      rw [hput]
      constructor
      · intro l
        rw [entryAt, unreliableStore_setUnreliable, if_pos rfl]
        exact Entries.get?_put _ k l b
      · intro store' hkeeps'
        have hstore := unreliableStore_setUnreliable h name name
          { h.unreliableStore name with entries := (h.unreliableStore name).entries.put k b }
        rw [if_pos rfl] at hstore
        exact keeps_of_flags_eq (by rw [hstore]) (by rw [hstore]) hkeeps'

/-! ## Removing entries -/

/-- Removes a key from a store, if it was there. Unreliable stores cannot do that. -/
def removeEntry (store : OpenStore) (k : Key) (h : Host) : Host :=
  match store with
  | .directory s =>
    match s.remove h.files k with
    | .ok (_, files) => { h with files }
    | .error _ => h
  | .memory id _ => { h with memory := (h.memory.remove id k).2 }
  | .unreliable _ => h

/-- To remove an entry leaves only this entry missing. -/
theorem Keeps.removeEntry_entry (hkeeps : h.Keeps shelf store) {k l : Key} (hne : l ≠ k) :
    (removeEntry store k h).entryAt shelf l = h.entryAt shelf l := by
  cases store with
  | directory s =>
      obtain ⟨p, rfl, hworks⟩ := keeps_directory_iff.mp hkeeps
      have hplace : ¬p ++ [DirectoryStore.entryName l] = p ++ [DirectoryStore.entryName k] :=
        fun heq => hne (DirectoryStore.entry_eq_iff.mp heq)
      cases hfound : h.files.contentAt (p ++ [DirectoryStore.entryName k]) with
      | none => simp only [removeEntry, hworks.remove_eq k, hfound]
      | some content =>
          simp only [removeEntry, hworks.remove_eq k, hfound, entryAt]
          rw [FileTree.contentAt_erase (by simp), if_neg hplace]
  | memory id name =>
      obtain ⟨rfl, hid⟩ := keeps_memory_iff.mp hkeeps
      have hget := Registry.get?_remove hid k l
      rwa [if_neg hne] at hget
  | unreliable name => rfl

theorem Keeps.removeEntry_keeps (hkeeps : h.Keeps shelf store) (k : Key) {store' : OpenStore}
    (hkeeps' : h.Keeps shelf store') : (removeEntry store k h).Keeps shelf store' := by
  cases store with
  | directory s =>
      obtain ⟨p, rfl, hworks⟩ := keeps_directory_iff.mp hkeeps
      cases hfound : h.files.contentAt (p ++ [DirectoryStore.entryName k]) with
      | none =>
          simp only [removeEntry, hworks.remove_eq k, hfound]
          exact hkeeps'
      | some content =>
          simp only [removeEntry, hworks.remove_eq k, hfound]
          exact keeps_of_sameDirectories (FileTree.sameDirectories_erase (hworks.free k)) hkeeps'
  | memory id name =>
      obtain ⟨rfl, _⟩ := keeps_memory_iff.mp hkeeps
      exact keeps_of_length_eq (Registry.length_setEntries _ _ _) hkeeps'
  | unreliable name => exact hkeeps'

end Host

end QueryReplay
