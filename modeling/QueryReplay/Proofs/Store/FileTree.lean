import QueryReplay.Proofs.Store.Entries
import QueryReplay.Proofs.Store.FilePath
import QueryReplay.Store.FileTree

/-!
# Following paths in changing trees

Where a path leads depends on the directories of a tree only.  Writing and
removing files leaves the directories alone, so the same paths lead to the same
places afterwards, and only what stands at one place has changed.
-/

namespace QueryReplay.FileTree

open FilePath

/-! ## What stands at a place -/

theorem node?_set {t : FileTree} {p : Place} (hp : p ≠ []) (n : FileNode) (q : Place) :
    (t.set p n).node? q = if q = p then some n else t.node? q := by
  cases q with
  | nil => rw [if_neg hp.symm]; rfl
  | cons name q => exact lookup_replace t p (name :: q) n

theorem node?_erase {t : FileTree} {p : Place} (hp : p ≠ []) (q : Place) :
    (t.erase p).node? q = if q = p then none else t.node? q := by
  cases q with
  | nil => rw [if_neg hp.symm]; rfl
  | cons name q => exact lookup_filter_ne t p (name :: q)

/-- At the top there is a directory, so what is not a directory stands elsewhere. -/
theorem ne_nil_of_node?_ne {t : FileTree} {p : Place} (h : t.node? p ≠ some .directory) :
    p ≠ [] := by
  rintro rfl
  exact h rfl

/-! ## Trees with the same directories -/

/-- Two trees that differ in files only. -/
def SameDirectories (t u : FileTree) : Prop :=
  ∀ p, t.node? p = some .directory ↔ u.node? p = some .directory

theorem SameDirectories.symm {t u : FileTree} (h : SameDirectories t u) : SameDirectories u t :=
  fun p => (h p).symm

theorem SameDirectories.trans {t u v : FileTree} (htu : SameDirectories t u)
    (huv : SameDirectories u v) : SameDirectories t v :=
  fun p => (htu p).trans (huv p)

/-- It is enough that the trees agree but for one place, where neither has a directory. -/
theorem sameDirectories_of_off {t u : FileTree} {p : Place} (ht : t.node? p ≠ some .directory)
    (hu : u.node? p ≠ some .directory) (hoff : ∀ q, q ≠ p → u.node? q = t.node? q) :
    SameDirectories t u := by
  intro q
  by_cases hq : q = p
  · rw [hq]
    exact ⟨fun h => absurd h ht, fun h => absurd h hu⟩
  · rw [hoff q hq]

theorem sameDirectories_set {t : FileTree} {p : Place} (hp : t.node? p ≠ some .directory)
    (content : List UInt8) : SameDirectories t (t.set p (.file content)) := by
  have hnode := node?_set (t := t) (ne_nil_of_node?_ne hp) (.file content)
  refine sameDirectories_of_off hp ?_ fun q hq => ?_
  · rw [hnode, if_pos rfl]
    exact nofun
  · rw [hnode, if_neg hq]

theorem sameDirectories_erase {t : FileTree} {p : Place} (hp : t.node? p ≠ some .directory) :
    SameDirectories t (t.erase p) := by
  have hnode := node?_erase (t := t) (ne_nil_of_node?_ne hp)
  refine sameDirectories_of_off hp ?_ fun q hq => ?_
  · rw [hnode, if_pos rfl]
    exact nofun
  · rw [hnode, if_neg hq]

theorem step_eq_ok_iff {t : FileTree} {here next : Place} {part : String} :
    t.step here part = .ok next ↔ t.node? here = some .directory ∧
      (if part = "." then here = next
        else if part = ".." then here.dropLast = next
        else ¬maxNameBytes < part.utf8ByteSize ∧ here ++ [part] = next) := by
  unfold step
  cases hnode : t.node? here with
  | none => simp
  | some node =>
      cases node with
      | file content => simp
      | directory =>
          by_cases hdot : part = "."
          · simp [hdot]
          · by_cases hdots : part = ".."
            · simp [hdots]
            · by_cases hlong : maxNameBytes < part.utf8ByteSize
              · simp [hdot, hdots, hlong]
              · simp [hdot, hdots, hlong]

theorem follow_cons_eq_ok_iff {t : FileTree} {here place : Place} {part : String}
    {rest : List String} :
    t.follow here (part :: rest) = .ok place ↔
      ∃ next, t.step here part = .ok next ∧ t.follow next rest = .ok place := by
  rw [follow]
  cases t.step here part with
  | ok next => simp
  | error fault => simp

theorem follow_append_eq_ok_iff {t : FileTree} {here place : Place} {front rest : List String} :
    t.follow here (front ++ rest) = .ok place ↔
      ∃ next, t.follow here front = .ok next ∧ t.follow next rest = .ok place := by
  induction front generalizing here with
  | nil => simp [follow]
  | cons part front ih =>
      simp only [List.cons_append, follow_cons_eq_ok_iff, ih]
      constructor
      · rintro ⟨next, hstep, mid, hfront, hrest⟩
        exact ⟨mid, ⟨next, hstep, hfront⟩, hrest⟩
      · rintro ⟨mid, ⟨next, hstep, hfront⟩, hrest⟩
        exact ⟨next, hstep, mid, hfront, hrest⟩

theorem follow_append_of_ok {t : FileTree} {here next : Place} {front : List String}
    (hfront : t.follow here front = .ok next) (rest : List String) :
    t.follow here (front ++ rest) = t.follow next rest := by
  induction front generalizing here with
  | nil =>
      cases hfront
      rfl
  | cons part front ih =>
      obtain ⟨mid, hstep, hmid⟩ := follow_cons_eq_ok_iff.mp hfront
      rw [List.cons_append, follow, hstep]
      exact ih hmid

/-- Every directory of the one tree is a directory of the other. -/
def KeepsDirectories (t u : FileTree) : Prop :=
  ∀ p, t.node? p = some .directory → u.node? p = some .directory

theorem SameDirectories.keeps {t u : FileTree} (h : SameDirectories t u) :
    KeepsDirectories t u :=
  fun p => (h p).mp

namespace KeepsDirectories

variable {t u : FileTree}

theorem step_eq_ok (h : KeepsDirectories t u) {here next : Place} {part : String}
    (hstep : t.step here part = .ok next) : u.step here part = .ok next := by
  obtain ⟨hnode, hnext⟩ := step_eq_ok_iff.mp hstep
  exact step_eq_ok_iff.mpr ⟨h here hnode, hnext⟩

/-- A path that leads somewhere goes on leading to the same place. -/
theorem follow_eq_ok (h : KeepsDirectories t u) {here place : Place} {parts : List String}
    (hfollow : t.follow here parts = .ok place) : u.follow here parts = .ok place := by
  induction parts generalizing here with
  | nil => exact hfollow
  | cons part rest ih =>
      obtain ⟨next, hstep, hrest⟩ := follow_cons_eq_ok_iff.mp hfollow
      exact follow_cons_eq_ok_iff.mpr ⟨next, h.step_eq_ok hstep, ih hrest⟩

theorem place_eq_ok (h : KeepsDirectories t u) {path : String} {p : Place}
    (hplace : t.place path = .ok p) : u.place path = .ok p := by
  unfold place at hplace ⊢
  cases hfault : fault? path with
  | some fault =>
      rw [hfault] at hplace
      cases hplace
  | none =>
      rw [hfault] at hplace
      exact h.follow_eq_ok hplace

end KeepsDirectories

/-! ## Making directories -/

theorem isDirectory_iff {t : FileTree} {parts : List String} :
    t.isDirectory parts = true ↔
      ∃ p, t.follow [] parts = .ok p ∧ t.node? p = some .directory := by
  unfold isDirectory
  cases t.follow [] parts with
  | error fault => simp
  | ok p => simp

theorem keepsDirectories_set_directory (t : FileTree) {p : Place} (hp : p ≠ []) :
    KeepsDirectories t (t.set p .directory) := by
  intro q hq
  rw [node?_set hp]
  split
  · rfl
  · exact hq

theorem isDirectory_of_makeDirectory {t u : FileTree} {parts : List String}
    (hmake : t.makeDirectory parts = .ok u) : u.isDirectory parts = true := by
  unfold makeDirectory at hmake
  cases hfollow : t.follow [] parts with
  | error fault =>
      simp only [hfollow] at hmake
      cases hmake
  | ok p =>
      simp only [hfollow] at hmake
      by_cases hthere : (t.node? p).isSome = true
      · rw [if_pos hthere] at hmake
        cases hmake
      · rw [if_neg hthere] at hmake
        cases hmake
        have hp : p ≠ [] := by
          rintro rfl
          exact hthere rfl
        have hkeeps := keepsDirectories_set_directory t hp
        refine isDirectory_iff.mpr ⟨p, hkeeps.follow_eq_ok hfollow, ?_⟩
        rw [node?_set hp, if_pos rfl]

theorem isDirectory_of_ensureDirectory {t u : FileTree} {parts : List String}
    (hensure : t.ensureDirectory parts = (.ok (), u)) : u.isDirectory parts = true := by
  unfold ensureDirectory at hensure
  cases hmake : t.makeDirectory parts with
  | ok made =>
      simp only [hmake] at hensure
      cases hensure
      exact isDirectory_of_makeDirectory hmake
  | error fault =>
      simp only [hmake] at hensure
      by_cases hthere : t.isDirectory parts = true
      · rw [if_pos hthere] at hensure
        cases hensure
        exact hthere
      · rw [if_neg hthere] at hensure
        cases hensure

theorem ensureDirectory_of_isDirectory {t : FileTree} {parts : List String}
    (hthere : t.isDirectory parts = true) : t.ensureDirectory parts = (.ok (), t) := by
  obtain ⟨p, hfollow, hnode⟩ := isDirectory_iff.mp hthere
  have hmake : t.makeDirectory parts = .error .alreadyExists := by
    simp only [makeDirectory, hfollow, hnode]
    exact if_pos rfl
  simp only [ensureDirectory, hmake, if_pos hthere]

/-- Where all directories of a path could be made, the path leads to one. -/
theorem isDirectory_of_makeDirectories {t u : FileTree} {path : String}
    (hmake : t.makeDirectories path = (.ok (), u)) : u.isDirectory (parts path) = true := by
  unfold makeDirectories at hmake
  cases hfault : fault? path with
  | some fault =>
      simp only [hfault] at hmake
      cases hmake
  | none =>
      simp only [hfault, lineage, makeLineage] at hmake
      split at hmake
      · next hmissing =>
        split at hmake
        · exact isDirectory_of_ensureDirectory hmake
        · next hfailed => exact absurd hmake (hfailed _)
      · exact isDirectory_of_ensureDirectory hmake

/-- A directory that is there is not made again. -/
theorem makeDirectories_of_isDirectory {t : FileTree} {path : String}
    (hthere : t.isDirectory (parts path) = true) :
    t.makeDirectories path =
      match fault? path with
      | some fault => (.error fault, t)
      | none => (.ok (), t) := by
  unfold makeDirectories
  cases hfault : fault? path with
  | some fault => rfl
  | none =>
      simp only [lineage, makeLineage]
      rw [ensureDirectory_of_isDirectory hthere]

/-! ## Names in a directory -/

/-- A path to a name in a directory leads to the name behind the place of the directory. -/
theorem place_join_eq_ok {t : FileTree} {base name : String} {p : Place} (hname : IsName name)
    (h : t.place (join base name) = .ok p) :
    ∃ here, t.follow [] (parts base) = .ok here ∧ p = here ++ [name] := by
  unfold place at h
  cases hfault : fault? (join base name) with
  | some fault =>
      rw [hfault] at h
      cases h
  | none =>
      rw [hfault, steps_join hname] at h
      obtain ⟨here, hbase, hlast⟩ := follow_append_eq_ok_iff.mp h
      obtain ⟨next, hstep, hend⟩ := follow_cons_eq_ok_iff.mp hlast
      obtain ⟨_, hnext⟩ := step_eq_ok_iff.mp hstep
      rw [if_neg hname.ne_dot, if_neg hname.ne_dots] at hnext
      refine ⟨here, hbase, ?_⟩
      rw [hnext.2]
      exact (Except.ok.inj hend).symm

/-- A path that can be used, also with the name of an entry behind it. -/
structure HasRoom (path : String) : Prop where
  no_nul : '\x00' ∉ path.toList
  short : path.utf8ByteSize + 71 ≤ maxBytes

instance (path : String) : Decidable (HasRoom path) :=
  decidable_of_iff ('\x00' ∉ path.toList ∧ path.utf8ByteSize + 71 ≤ maxBytes)
    ⟨fun h => ⟨h.1, h.2⟩, fun h => ⟨h.no_nul, h.short⟩⟩

theorem fault?_eq_none_iff {path : String} :
    fault? path = none ↔ '\x00' ∉ path.toList ∧ path.utf8ByteSize ≤ maxBytes := by
  simp only [fault?, String.contains_char_eq, decide_eq_true_eq]
  by_cases hnul : '\x00' ∈ path.toList
  · simp [hnul]
  · by_cases hlong : maxBytes < path.utf8ByteSize
    · simp [hnul, hlong]
    · simp [hnul, hlong, Nat.not_lt.mp hlong]

theorem HasRoom.fault?_eq_none {path : String} (h : HasRoom path) : fault? path = none :=
  fault?_eq_none_iff.mpr ⟨h.no_nul, Nat.le_of_add_right_le h.short⟩

theorem HasRoom.fault?_join {base name : String} (h : HasRoom base) (hname : IsName name)
    (hnul : '\x00' ∉ name.toList) (hshort : name.utf8ByteSize ≤ 70) :
    fault? (join base name) = none := by
  obtain ⟨between, hbetween, hjoin⟩ := exists_join_eq_append hname base
  have hslash : '\x00' ∉ between.toList ∧ between.utf8ByteSize ≤ 1 := by
    rcases hbetween with rfl | rfl
    · decide
    · decide
  rw [hjoin, fault?_eq_none_iff]
  constructor
  · rw [String.toList_append, String.toList_append, List.mem_append, List.mem_append]
    rintro (hbase | hfront | hend)
    · exact h.no_nul hbase
    · exact hslash.1 hfront
    · exact hnul hend
  · rw [String.utf8ByteSize_append, String.utf8ByteSize_append]
    have hroom := h.short
    omega

theorem place_join_of_leads {t : FileTree} {base name : String} {p : Place} (hname : IsName name)
    (hshort : name.utf8ByteSize ≤ maxNameBytes) (hleads : t.follow [] (parts base) = .ok p)
    (hnode : t.node? p = some .directory) (hfault : fault? (join base name) = none) :
    t.place (join base name) = .ok (p ++ [name]) := by
  simp only [place, hfault, steps_join hname]
  rw [follow_append_of_ok hleads]
  simp only [follow, step, hnode, if_neg hname.ne_dot, if_neg hname.ne_dots,
    if_neg (Nat.not_lt.mpr hshort)]

/-! ## Files -/

/-- What can be read at a place. -/
def contentAt (t : FileTree) (p : Place) : Option (List UInt8) :=
  match t.node? p with
  | some (.file content) => some content
  | _ => none

theorem contentAt_set {t : FileTree} {p : Place} (hp : p ≠ []) (content : List UInt8)
    (q : Place) :
    (t.set p (.file content)).contentAt q = if q = p then some content else t.contentAt q := by
  unfold contentAt
  rw [node?_set hp]
  by_cases hq : q = p
  · rw [if_pos hq, if_pos hq]
  · rw [if_neg hq, if_neg hq]

theorem contentAt_erase {t : FileTree} {p : Place} (hp : p ≠ []) (q : Place) :
    (t.erase p).contentAt q = if q = p then none else t.contentAt q := by
  unfold contentAt
  rw [node?_erase hp]
  by_cases hq : q = p
  · rw [if_pos hq, if_pos hq]
  · rw [if_neg hq, if_neg hq]

theorem readFile_of_place {t : FileTree} {path : String} {p : Place}
    (hplace : t.place path = .ok p) (hnode : t.node? p ≠ some .directory) :
    t.readFile path =
      match t.contentAt p with
      | some content => .ok content
      | none => .error .notFound := by
  cases h : t.node? p with
  | none => simp only [readFile, contentAt, hplace, h]
  | some node =>
      cases node with
      | file content => simp only [readFile, contentAt, hplace, h]
      | directory => exact absurd h hnode

theorem writeFile_eq_ok_iff {t u : FileTree} {path : String} {content : List UInt8} :
    t.writeFile path content = .ok u ↔
      ∃ p, t.place path = .ok p ∧ t.node? p ≠ some .directory ∧
        u = t.set p (.file content) := by
  rw [writeFile]
  cases hplace : t.place path with
  | error fault => simp
  | ok p =>
      cases hnode : t.node? p with
      | none => simp [hnode, eq_comm]
      | some node =>
          cases node with
          | directory => simp [hnode]
          | file old => simp [hnode, eq_comm]

/-- What is written to a file is read from it. -/
theorem readFile_of_writeFile {t u : FileTree} {path : String} {content : List UInt8}
    (h : t.writeFile path content = .ok u) : u.readFile path = .ok content := by
  obtain ⟨p, hplace, hfree, rfl⟩ := writeFile_eq_ok_iff.mp h
  have hthere := (sameDirectories_set hfree content).keeps.place_eq_ok hplace
  have hnode := node?_set (t := t) (ne_nil_of_node?_ne hfree) (.file content) p
  rw [if_pos rfl] at hnode
  simp only [readFile, hthere, hnode]

end QueryReplay.FileTree
