import QueryReplay.Proofs.Connection.Outcomes

/-!
# What a put leaves alone

A put into a store changes one entry of one shelf, or nothing at all.  This
holds of every store in every state, also of one that fails, of one whose place
is missing and of one that shares its place with others.  Where the shelves of
all stores are does not change.
-/

namespace QueryReplay

namespace Host

variable {shelf : Shelf} {store : OpenStore} {h h' h'' : Host}

/-! ## The same stores -/

namespace SameStores

theorem refl (h : Host) : SameStores h h :=
  ⟨rfl, rfl, rfl⟩

theorem trans (hfirst : SameStores h h') (hnext : SameStores h' h'') : SameStores h h'' :=
  ⟨hnext.files.trans hfirst.files, hnext.memory.trans hfirst.memory,
    hnext.unreliable.trans hfirst.unreliable⟩

theorem entryAt_eq (hsame : SameStores h h') (shelf : Shelf) (k : Key) :
    h'.entryAt shelf k = h.entryAt shelf k :=
  (hsame.leaves shelf).entry k

theorem shelf?_eq (hsame : SameStores h h') (store : OpenStore) :
    h'.shelf? store = h.shelf? store := by
  cases store with
  | directory s => simp only [shelf?, hsame.files]
  | memory id name => simp only [shelf?, hsame.memory]
  | unreliable name => rfl

end SameStores

theorem OnlyLogs.sameStores (honly : h.OnlyLogs h') : SameStores h h' := by
  rw [honly]
  exact ⟨rfl, rfl, rfl⟩

/-! ## Puts -/

theorem shelf?_of_sameDirectories (hsame : FileTree.SameDirectories h.files h'.files)
    (s : DirectoryStore) : h'.shelf? (.directory s) = h.shelf? (.directory s) := by
  cases hfollow : h.files.follow [] (FilePath.parts s.root) with
  | ok p => simp only [shelf?, hfollow, hsame.keeps.follow_eq_ok hfollow]
  | error fault =>
      cases hfollow' : h'.files.follow [] (FilePath.parts s.root) with
      | ok p =>
          rw [hsame.symm.keeps.follow_eq_ok hfollow'] at hfollow
          cases hfollow
      | error fault' => simp only [shelf?, hfollow, hfollow']

/-- Whether a put fails or not, every shelf stays where it is. -/
theorem shelf?_putEntry (store : OpenStore) (k : Key) (b : List UInt8) (h : Host)
    (other : OpenStore) : (putEntry store k b h).2.shelf? other = h.shelf? other := by
  cases store with
  | directory s =>
      cases hput : s.put h.files k b with
      | error e => simp only [putEntry, hput]
      | ok files =>
          simp only [putEntry, hput]
          cases other with
          | directory s' =>
              exact shelf?_of_sameDirectories (DirectoryStore.sameDirectories_of_put hput) s'
          | memory id name => rfl
          | unreliable name => rfl
  | memory id name =>
      cases other with
      | directory s' => rfl
      | memory id' name' =>
          simp only [shelf?, putEntry, Registry.put, Registry.length_setEntries]
      | unreliable name' => rfl
  | unreliable name =>
      cases hput : (h.unreliableStore name).put k b with
      | error e => simp only [putEntry, hput]
      | ok s =>
          simp only [putEntry, hput]
          cases other with
          | directory s' => rfl
          | memory id' name' => rfl
          | unreliable name' => rfl

/-- What a put can change. -/
def Wrote (store : OpenStore) (shelf : Shelf) (k l : Key) (b : List UInt8) (h h' : Host) : Prop :=
  l = k ∧ h.shelf? store = some shelf ∧ h'.entryAt shelf l = some b

theorem entryAt_putEntry_directory {s : DirectoryStore} {k : Key} {b : List UInt8}
    {files : FileTree} (hput : s.put h.files k b = .ok files) (shelf : Shelf) (l : Key) :
    { h with files }.entryAt shelf l = h.entryAt shelf l ∨
      Wrote (.directory s) shelf k l b h { h with files } := by
  obtain ⟨-, q, hplace, -, rfl⟩ := DirectoryStore.put_eq_ok_iff.mp hput
  obtain ⟨here, hleads, rfl⟩ :=
    FileTree.place_join_eq_ok (DirectoryStore.isName_entryName k) hplace
  cases shelf with
  | memory id => exact Or.inl rfl
  | unreliable name => exact Or.inl rfl
  | directory p =>
      have hcontent := FileTree.contentAt_set (t := h.files) (DirectoryStore.entry_ne_nil here k) b
        (p ++ [DirectoryStore.entryName l])
      by_cases hplaces : p ++ [DirectoryStore.entryName l] = here ++ [DirectoryStore.entryName k]
      · obtain ⟨rfl, hname⟩ := List.append_inj' hplaces rfl
        rw [if_pos hplaces] at hcontent
        refine Or.inr ⟨DirectoryStore.entryName_inj (List.singleton_inj.mp hname), ?_, hcontent⟩
        simp only [shelf?, hleads]
      · rw [if_neg hplaces] at hcontent
        exact Or.inl hcontent

theorem entryAt_putEntry_memory (id : Nat) (name : String) (k : Key) (b : List UInt8) (h : Host)
    (shelf : Shelf) (l : Key) :
    { h with memory := h.memory.put id k b }.entryAt shelf l = h.entryAt shelf l ∨
      Wrote (.memory id name) shelf k l b h { h with memory := h.memory.put id k b } := by
  cases shelf with
  | directory p => exact Or.inl rfl
  | unreliable name => exact Or.inl rfl
  | memory other =>
      show (h.memory.put id k b).get? other l = h.memory.get? other l ∨ _
      by_cases hother : other = id
      · subst hother
        by_cases hthere : other < h.memory.stores.length
        · have hget := Registry.get?_put hthere k l b
          by_cases hl : l = k
          · rw [if_pos hl] at hget
            exact Or.inr ⟨hl, if_pos hthere, hget⟩
          · rw [if_neg hl] at hget
            exact Or.inl hget
        · rw [Registry.put, Registry.setEntries_of_le (Nat.not_lt.mp hthere)]
          exact Or.inl rfl
      · left
        unfold Registry.get? Registry.put
        rw [Registry.entries_setEntries_of_ne hother]

theorem entryAt_putEntry_unreliable {name : String} {k : Key} {b : List UInt8}
    {s : UnreliableStore} (hput : (h.unreliableStore name).put k b = .ok s) (shelf : Shelf)
    (l : Key) :
    (h.setUnreliable name s).entryAt shelf l = h.entryAt shelf l ∨
      Wrote (.unreliable name) shelf k l b h (h.setUnreliable name s) := by
  cases shelf with
  | directory p => exact Or.inl rfl
  | memory id => exact Or.inl rfl
  | unreliable other =>
      have hstore := unreliableStore_setUnreliable h name other s
      by_cases hother : other = name
      · subst hother
        rw [if_pos rfl] at hstore
        have hget : (h.setUnreliable other s).entryAt (.unreliable other) l =
            if l = k then some b else h.entryAt (.unreliable other) l := by
          rw [entryAt, hstore, UnreliableStore.entries_of_put hput, Entries.get?_put]
          rfl
        by_cases hl : l = k
        · rw [if_pos hl] at hget
          exact Or.inr ⟨hl, rfl, hget⟩
        · rw [if_neg hl] at hget
          exact Or.inl hget
      · left
        rw [if_neg hother] at hstore
        rw [entryAt, entryAt, hstore]

/-- A put writes the entry under its key on its own shelf, or changes no entry at all. -/
theorem entryAt_putEntry_cases (store : OpenStore) (k : Key) (b : List UInt8) (h : Host)
    (shelf : Shelf) (l : Key) :
    (putEntry store k b h).2.entryAt shelf l = h.entryAt shelf l ∨
      Wrote store shelf k l b h (putEntry store k b h).2 := by
  cases store with
  | directory s =>
      cases hput : s.put h.files k b with
      | error e =>
          simp only [putEntry, hput]
          exact Or.inl trivial
      | ok files =>
          simp only [putEntry, hput]
          exact entryAt_putEntry_directory hput shelf l
  | memory id name => exact entryAt_putEntry_memory id name k b h shelf l
  | unreliable name =>
      cases hput : (h.unreliableStore name).put k b with
      | error e =>
          simp only [putEntry, hput]
          exact Or.inl trivial
      | ok s =>
          simp only [putEntry, hput]
          exact entryAt_putEntry_unreliable hput shelf l

end Host

end QueryReplay
