import QueryReplay.Proofs.Connection.Outcomes
import QueryReplay.Proofs.Connection.Views

/-!
# The stores of a host may be relied on

All stores of a host do what connections rely on, also while they fail: a
directory that takes no new files, a path that is too long or an unreliable
store leave their entries as they are.  It is enough that the place where the
entries are kept is there.
-/

namespace QueryReplay

open FilePath

namespace Host

/-- The store keeps its entries on the shelf, and the place of the shelf is there.  Reading and
writing may fail. -/
def Stands (shelf : Shelf) (store : OpenStore) (h : Host) : Prop :=
  match store with
  | .directory s => ∃ p, shelf = .directory p ∧ h.files.follow [] (parts s.root) = .ok p ∧
      h.files.node? p = some .directory
  | .memory id _ => shelf = .memory id ∧ id < h.memory.stores.length
  | .unreliable name => shelf = .unreliable name

/-- What some stores that share a shelf show of it. -/
def shelfView (shelf : Shelf) (stores : List OpenStore) : StoreView Host where
  inPlace h := ∀ store ∈ stores, h.Stands shelf store
  entry h k := h.entryAt shelf k

variable {shelf : Shelf} {stores : List OpenStore} {store : OpenStore} {h h' : Host}

theorem shelfView_entry (shelf : Shelf) (stores : List OpenStore) (h : Host) (k : Key) :
    (shelfView shelf stores).entry h k = h.entryAt shelf k :=
  rfl

theorem SameStores.same_view (hsame : SameStores h h') (shelf : Shelf)
    (stores : List OpenStore) : (shelfView shelf stores).Same h h' := by
  constructor
  · intro hplace store hstore
    have hstands := hplace store hstore
    cases store with
    | directory s =>
        unfold Stands
        rw [hsame.files]
        exact hstands
    | memory id name =>
        unfold Stands
        rw [hsame.memory]
        exact hstands
    | unreliable name => exact hstands
  · funext k
    exact (hsame.leaves shelf).entry k

theorem getEntry_snd (store : OpenStore) (k : Key) (h : Host) : (getEntry store k h).2 = h := by
  cases store with
  | directory s => rfl
  | memory id name => rfl
  | unreliable name => rfl

/-! ## Reading -/

theorem entryAt_of_getEntry (hstands : h.Stands shelf store) {k : Key}
    {found : Option (List UInt8)} (hget : (getEntry store k h).1 = .ok found) :
    h.entryAt shelf k = found := by
  cases store with
  | directory s =>
      obtain ⟨p, rfl, hleads, hnode⟩ := hstands
      exact DirectoryStore.contentAt_of_get hleads hnode hget
  | memory id name =>
      obtain ⟨rfl, -⟩ := hstands
      exact Except.ok.inj hget
  | unreliable name =>
      cases hstands
      simp only [getEntry, UnreliableStore.get] at hget
      split at hget
      · cases hget
      · exact Except.ok.inj hget

/-! ## Writing -/

theorem stands_of_sameDirectories (hsame : FileTree.SameDirectories h.files h'.files)
    (hmemory : h'.memory = h.memory) (hstands : h.Stands shelf store) :
    h'.Stands shelf store := by
  cases store with
  | directory s =>
      obtain ⟨p, hshelf, hleads, hnode⟩ := hstands
      exact ⟨p, hshelf, hsame.keeps.follow_eq_ok hleads, (hsame p).mp hnode⟩
  | memory id name =>
      unfold Stands
      rw [hmemory]
      exact hstands
  | unreliable name => exact hstands

/-- Whether a put fails or not, the shelf stays where it is. -/
theorem stands_putEntry (hstands : h.Stands shelf store) (k : Key) (b : List UInt8)
    {other : OpenStore} (hother : h.Stands shelf other) :
    (putEntry store k b h).2.Stands shelf other := by
  cases store with
  | directory s =>
      obtain ⟨p, rfl, hleads, -⟩ := hstands
      cases hput : s.put h.files k b with
      | error e =>
          simp only [putEntry, hput]
          exact hother
      | ok files =>
          obtain ⟨hfree, rfl⟩ := DirectoryStore.set_of_put hleads hput
          simp only [putEntry, hput]
          exact stands_of_sameDirectories (FileTree.sameDirectories_set hfree b) rfl hother
  | memory id name =>
      cases other with
      | directory s => exact hother
      | memory id' name' =>
          refine ⟨hother.1, ?_⟩
          show id' < (h.memory.put id k b).stores.length
          rw [Registry.put, Registry.length_setEntries]
          exact hother.2
      | unreliable name' => exact hother
  | unreliable name =>
      cases hput : (h.unreliableStore name).put k b with
      | error e =>
          simp only [putEntry, hput]
          exact hother
      | ok s =>
          simp only [putEntry, hput]
          cases other with
          | directory s' => exact hother
          | memory id' name' => exact hother
          | unreliable name' => exact hother

/-- A put that fails changes nothing, and one that does not changes one entry. -/
theorem entryAt_putEntry (hstands : h.Stands shelf store) (k : Key) (b : List UInt8) :
    (fun l => (putEntry store k b h).2.entryAt shelf l) =
        Function.update (fun l => h.entryAt shelf l) k (some b) ∨
      (fun l => (putEntry store k b h).2.entryAt shelf l) = (fun l => h.entryAt shelf l) ∧
        (putEntry store k b h).1 ≠ .ok () := by
  cases store with
  | directory s =>
      obtain ⟨p, rfl, hleads, -⟩ := hstands
      cases hput : s.put h.files k b with
      | error e =>
          simp only [putEntry, hput]
          exact Or.inr ⟨trivial, by simp⟩
      | ok files =>
          obtain ⟨-, rfl⟩ := DirectoryStore.set_of_put hleads hput
          simp only [putEntry, hput]
          left
          funext l
          show (h.files.set _ _).contentAt _ = _
          rw [FileTree.contentAt_set (by simp), Function.update_apply]
          simp only [DirectoryStore.entry_eq_iff]
          rfl
  | memory id name =>
      obtain ⟨rfl, hid⟩ := hstands
      left
      funext l
      rw [Function.update_apply]
      exact Registry.get?_put hid k l b
  | unreliable name =>
      cases hstands
      cases hput : (h.unreliableStore name).put k b with
      | error e =>
          simp only [putEntry, hput]
          exact Or.inr ⟨trivial, by simp⟩
      | ok s =>
          simp only [putEntry, hput]
          left
          funext l
          rw [Function.update_apply]
          show ((h.setUnreliable name s).unreliableStore name).entries.get? l = _
          rw [unreliableStore_setUnreliable, if_pos rfl, UnreliableStore.entries_of_put hput,
            Entries.get?_put]
          rfl

end Host

/-- Whatever store a connection has, connections that share its shelf may rely on it. -/
theorem OpenConnection.serves (c : OpenConnection) (shelf : Shelf) {stores : List OpenStore}
    (hstore : c.store ∈ stores) : c.environment.Serves (Host.shelfView shelf stores) where
  log e h := by
    have hsame : Host.SameStores h (h.log e) := ⟨rfl, rfl, rfl⟩
    exact hsame.same_view shelf stores
  query q parameters h := (Host.sameStores_askRows c.backend q parameters h).same_view shelf stores
  execute q parameters h :=
    (Host.sameStores_askCount c.backend q parameters h).same_view shelf stores
  get k h := by
    show (Host.shelfView shelf stores).Same h (Host.getEntry c.store k h).2
    rw [Host.getEntry_snd]
    exact StoreView.Same.refl _ h
  found hplace hget := Host.entryAt_of_getEntry (hplace c.store hstore) hget
  put_inPlace k b := by
    intro h hplace other hother
    exact Host.stands_putEntry (hplace c.store hstore) k b (hplace other hother)
  put_entry k b := by
    intro h hplace
    exact Host.entryAt_putEntry (hplace c.store hstore) k b

end QueryReplay
