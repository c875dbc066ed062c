import QueryReplay.Proofs.Store.Directory
import QueryReplay.Store.Replacement

/-!
# Entries are replaced as a whole or not at all

While an entry is replaced, the tree has one file more than before, at a path
where nothing stood.  This is kept by every step until the file is moved, and
such a file can always be dropped, which gives back the tree as it was.  To move
it is to write its bytes to the path of the entry in the tree as it was.

So whatever goes wrong, an entry is replaced by exactly the bytes that were put
while everything else stays, or the tree is as before.  The error names the
directory if no new file can be made, and the path of the entry if the new file
cannot be moved there.
-/

namespace QueryReplay

open FilePath

namespace FileTree

variable {t u : FileTree} {path target : String} {content : List UInt8}

/-! ## Trees with one more file -/

/-- The tree has one file more than another, at a path where nothing stood. -/
def HasNew (t u : FileTree) (path : String) (content : List UInt8) : Prop :=
  ∃ p, t.place path = .ok p ∧ t.node? p = none ∧ u = t.set p (.file content)

theorem ne_nil_of_node?_eq_none {p : Place} (h : t.node? p = none) : p ≠ [] := by
  rintro rfl
  cases h

theorem erase_of_node?_eq_none {p : Place} (h : t.node? p = none) : t.erase p = t := by
  have hp : ¬p.isEmpty = true := fun hempty =>
    ne_nil_of_node?_eq_none h (List.isEmpty_iff.mp hempty)
  rw [node?, if_neg hp, List.lookup_eq_none_iff] at h
  refine List.filter_eq_self.mpr fun entry hentry => ?_
  have hne := h entry hentry
  rw [bne_iff_ne] at hne ⊢
  exact hne.symm

theorem set_set (t : FileTree) (p : Place) (old new : FileNode) :
    (t.set p old).set p new = t.set p new := by
  simp [set, List.filter_filter]

theorem erase_set (t : FileTree) (p : Place) (node : FileNode) :
    (t.set p node).erase p = t.erase p := by
  simp [set, erase, List.filter_filter]

theorem createFile_eq_ok_iff : t.createFile path = .ok u ↔ HasNew t u path [] := by
  unfold createFile HasNew
  cases t.place path with
  | error fault => simp
  | ok p =>
      cases hnode : t.node? p with
      | none => simp [hnode, eq_comm (a := u)]
      | some node => simp [hnode]

namespace HasNew

/-- The path of the new file leads to it. -/
theorem place_eq (h : HasNew t u path content) :
    ∃ p, t.place path = .ok p ∧ t.node? p = none ∧ u = t.set p (.file content) ∧
      u.place path = .ok p ∧ u.node? p = some (.file content) := by
  obtain ⟨p, hplace, hnone, rfl⟩ := h
  have hfree : t.node? p ≠ some .directory := by
    rw [hnone]
    exact nofun
  refine ⟨p, hplace, hnone, rfl, (sameDirectories_set hfree content).keeps.place_eq_ok hplace, ?_⟩
  rw [node?_set (ne_nil_of_node?_eq_none hnone), if_pos rfl]

theorem writeFile (h : HasNew t u path content) (b : List UInt8) :
    ∃ v, u.writeFile path b = .ok v ∧ HasNew t v path b := by
  obtain ⟨p, hplace, hnone, rfl, hthere, hnode⟩ := h.place_eq
  refine ⟨t.set p (.file b), writeFile_eq_ok_iff.mpr ⟨p, hthere, ?_, ?_⟩, p, hplace, hnone, rfl⟩
  · rw [hnode]
    exact nofun
  · rw [set_set]

theorem readFile (h : HasNew t u path content) : u.readFile path = .ok content := by
  obtain ⟨p, -, -, -, hthere, hnode⟩ := h.place_eq
  simp only [FileTree.readFile, hthere, hnode]

/-- Without the new file, the tree is as it was. -/
theorem removeFile (h : HasNew t u path content) : u.removeFile path = .ok t := by
  obtain ⟨p, -, hnone, hset, hthere, hnode⟩ := h.place_eq
  simp only [FileTree.removeFile, hthere, hnode]
  rw [hset, erase_set, erase_of_node?_eq_none hnone]

theorem dropFile (h : HasNew t u path content) : u.dropFile path = t := by
  rw [FileTree.dropFile, h.removeFile]

/-- To move the new file is to write its bytes in the tree as it was. -/
theorem moveFile (h : HasNew t u path content) (target : String) :
    u.moveFile path target = t.writeFile target content := by
  rw [FileTree.moveFile, h.readFile, h.removeFile]

theorem fillFile_none (h : HasNew t u path content) (b : List UInt8) :
    ∃ v, u.fillFile path b none = (.ok (), v) ∧ HasNew t v path b := by
  obtain ⟨v, hwrite, hnew⟩ := h.writeFile b
  refine ⟨v, ?_, hnew⟩
  simp only [fillFile, hwrite]

theorem fillFile_some (h : HasNew t u path content) (b : List UInt8) (written : Nat)
    (fault : IoFault) :
    ∃ v, u.fillFile path b (some (written, fault)) = (.error fault, v) ∧
      HasNew t v path (b.take written) := by
  obtain ⟨v, hwrite, hnew⟩ := h.writeFile (b.take written)
  refine ⟨v, ?_, hnew⟩
  simp only [fillFile, hwrite]

end HasNew

end FileTree

namespace DirectoryStore

variable {s : DirectoryStore} {t u : FileTree} {draws : List String} {path : String} {k : Key}
  {b : List UInt8} {mishaps : Mishaps} {fault : IoFault}

/-! ## New files -/

theorem hasNew_of_createDrawn (h : s.createDrawn t draws = .ok (path, u)) :
    (∃ drawn ∈ draws, path = s.drawnPath drawn) ∧ t.HasNew u path [] := by
  induction draws with
  | nil => cases h
  | cons drawn draws ih =>
      rw [createDrawn] at h
      split at h
      · next v hcreate =>
        cases h
        exact ⟨⟨drawn, List.mem_cons_self, rfl⟩, FileTree.createFile_eq_ok_iff.mp hcreate⟩
      · obtain ⟨⟨other, hother, hpath⟩, hnew⟩ := ih h
        exact ⟨⟨other, List.mem_cons_of_mem drawn hother, hpath⟩, hnew⟩
      · cases h

theorem hasNew_of_createNew {mishap : Option IoFault}
    (h : s.createNew t draws mishap = .ok (path, u)) :
    (∃ drawn ∈ draws, path = s.drawnPath drawn) ∧ t.HasNew u path [] := by
  cases mishap with
  | none => exact hasNew_of_createDrawn h
  | some fault => cases h

/-- The tree with bytes written to the path of an entry, unless a file cannot be moved there. -/
def landed (s : DirectoryStore) (t : FileTree) (k : Key) (b : List UInt8) :
    Option IoFault → Except IoFault FileTree
  | none => t.writeFile (s.entryPath k) b
  | some fault => .error fault

theorem moveNew_of_hasNew (h : t.HasNew u path b) (k : Key) (mishap : Option IoFault) :
    s.moveNew u path k mishap = s.landed t k b mishap := by
  cases mishap with
  | none => exact h.moveFile _
  | some fault => rfl

/-! ## The ends of a replacement -/

theorem replace_of_createNew_error (h : s.createNew t draws mishaps.creating = .error fault) :
    s.replace t draws mishaps k b = (.error (.store s.root fault), t) := by
  rw [replace, h]

theorem replace_of_writing {written : Nat}
    (h : s.createNew t draws mishaps.creating = .ok (path, u))
    (hwriting : mishaps.writing = some (written, fault)) :
    s.replace t draws mishaps k b = (.error (.store path fault), t) := by
  obtain ⟨v, hfill, hnew⟩ := (hasNew_of_createNew h).2.fillFile_some b written fault
  simp only [replace, h, hwriting, hfill, hnew.dropFile]

theorem replace_of_syncing (h : s.createNew t draws mishaps.creating = .ok (path, u))
    (hwriting : mishaps.writing = none) (hsyncing : mishaps.syncing = some fault) :
    s.replace t draws mishaps k b = (.error (.store path fault), t) := by
  obtain ⟨v, hfill, hnew⟩ := (hasNew_of_createNew h).2.fillFile_none b
  simp only [replace, h, hwriting, hfill, hsyncing, hnew.dropFile]

theorem replace_of_moving (h : s.createNew t draws mishaps.creating = .ok (path, u))
    (hwriting : mishaps.writing = none) (hsyncing : mishaps.syncing = none) :
    s.replace t draws mishaps k b =
      match s.landed t k b mishaps.moving with
      | .ok v => (.ok (), v)
      | .error fault => (.error (.store (s.entryPath k) fault), t) := by
  obtain ⟨v, hfill, hnew⟩ := (hasNew_of_createNew h).2.fillFile_none b
  have hmove := moveNew_of_hasNew (s := s) hnew k mishaps.moving
  cases hlanded : s.landed t k b mishaps.moving with
  | ok w =>
      rw [hlanded] at hmove
      simp only [replace, h, hwriting, hfill, hsyncing, hmove]
  | error fault =>
      rw [hlanded] at hmove
      simp only [replace, h, hwriting, hfill, hsyncing, hmove, hnew.dropFile]

/-- The bytes stand in the file of the entry, and nothing else has changed. -/
def Replaced (s : DirectoryStore) (t u : FileTree) (k : Key) (b : List UInt8) : Prop :=
  s.get u k = .ok (some b) ∧
    ∃ p, t.place (s.entryPath k) = .ok p ∧
      ∀ q, u.node? q = if q = p then some (.file b) else t.node? q

theorem replaced_of_writeFile (h : t.writeFile (s.entryPath k) b = .ok u) :
    s.Replaced t u k b := by
  obtain ⟨p, hplace, hfree, rfl⟩ := FileTree.writeFile_eq_ok_iff.mp h
  have hnode := FileTree.node?_set (t := t) (FileTree.ne_nil_of_node?_ne hfree) (.file b)
  refine ⟨?_, p, hplace, hnode⟩
  have hthere := (FileTree.sameDirectories_set hfree b).keeps.place_eq_ok hplace
  simp only [get, FileTree.readFile, hthere, hnode, if_pos]

theorem replaced_of_landed {mishap : Option IoFault} (h : s.landed t k b mishap = .ok u) :
    s.Replaced t u k b := by
  cases mishap with
  | none => exact replaced_of_writeFile h
  | some fault => cases h

/-- An entry is replaced, or the error names the directory, the new file or the entry and the tree
is as it was. -/
theorem replaced_or_kept (s : DirectoryStore) (t : FileTree) (draws : List String)
    (mishaps : Mishaps) (k : Key) (b : List UInt8) :
    (∃ u, s.replace t draws mishaps k b = (.ok (), u) ∧ s.Replaced t u k b) ∨
      ∃ path fault, s.replace t draws mishaps k b = (.error (.store path fault), t) ∧
        (path = s.root ∨ path = s.entryPath k ∨ ∃ drawn ∈ draws, path = s.drawnPath drawn) := by
  cases hcreate : s.createNew t draws mishaps.creating with
  | error fault =>
      exact Or.inr ⟨s.root, fault, replace_of_createNew_error hcreate, Or.inl rfl⟩
  | ok made =>
      obtain ⟨path, u⟩ := made
      have hdrawn := (hasNew_of_createNew hcreate).1
      cases hwriting : mishaps.writing with
      | some mishap =>
          exact Or.inr ⟨path, mishap.2, replace_of_writing hcreate hwriting, Or.inr (Or.inr hdrawn)⟩
      | none =>
          cases hsyncing : mishaps.syncing with
          | some fault =>
              exact Or.inr ⟨path, fault, replace_of_syncing hcreate hwriting hsyncing,
                Or.inr (Or.inr hdrawn)⟩
          | none =>
              rw [replace_of_moving hcreate hwriting hsyncing]
              cases hlanded : s.landed t k b mishaps.moving with
              | ok v => exact Or.inl ⟨v, rfl, replaced_of_landed hlanded⟩
              | error fault => exact Or.inr ⟨s.entryPath k, fault, rfl, Or.inr (Or.inl rfl)⟩

/-- An error in moving the new file names the entry. -/
theorem replace_of_moveNew_error {v : FileTree}
    (h : s.createNew t draws mishaps.creating = .ok (path, u))
    (hfill : u.fillFile path b mishaps.writing = (.ok (), v)) (hsyncing : mishaps.syncing = none)
    (hmove : s.moveNew v path k mishaps.moving = .error fault) :
    s.replace t draws mishaps k b = (.error (.store (s.entryPath k) fault), t) := by
  have hnew := (hasNew_of_createNew h).2
  cases hwriting : mishaps.writing with
  | some mishap =>
      obtain ⟨w, hfailed, -⟩ := hnew.fillFile_some b mishap.1 mishap.2
      rw [hwriting, hfailed] at hfill
      cases hfill
  | none =>
      obtain ⟨w, hfilled, hnew⟩ := hnew.fillFile_none b
      rw [hwriting, hfilled] at hfill
      cases hfill
      rw [moveNew_of_hasNew hnew] at hmove
      rw [replace_of_moving h hwriting hsyncing, hmove]

end DirectoryStore

end QueryReplay
