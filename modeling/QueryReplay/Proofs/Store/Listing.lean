import QueryReplay.Proofs.Key.Order
import QueryReplay.Proofs.Store.Directory

/-!
# The keys that a directory lists

A store in a directory finds its keys by reading the names of all files there.
The name made for a key is read back as this key.  Other names may stand for a
key too, so what is listed are the keys of the entries only as long as every
name that stands for a key is the one made for it.  A directory in which no
name stands for a key is a good start, and to put and remove entries keeps this.
-/

namespace QueryReplay

open FilePath

namespace FileTree

/-! ## Names in a directory -/

/-- The names of all that stands in a directory. -/
def namesIn (t : FileTree) (p : Place) : List String :=
  t.filterMap fun (q, _) => nameIn? p q

theorem nameIn?_eq_some_iff {p q : Place} {name : String} :
    nameIn? p q = some name ↔ q = p ++ [name] := by
  unfold nameIn?
  constructor
  · intro hname
    split at hname
    · next hdirectory =>
      rw [← hdirectory]
      exact (List.dropLast_append_getLast? name hname).symm
    · cases hname
  · rintro rfl
    rw [List.dropLast_concat, if_pos rfl, List.getLast?_concat]

theorem namesIn_cons_of_some {t : FileTree} {p q : Place} {name : String} {node : FileNode}
    (hname : nameIn? p q = some name) :
    namesIn ((q, node) :: t) p = name :: t.namesIn p :=
  List.filterMap_cons_some hname

theorem namesIn_cons_of_none {t : FileTree} {p q : Place} {node : FileNode}
    (hname : nameIn? p q = none) : namesIn ((q, node) :: t) p = t.namesIn p :=
  List.filterMap_cons_none hname

theorem namesIn_erase (t : FileTree) (p : Place) (name : String) :
    (t.erase (p ++ [name])).namesIn p = (t.namesIn p).filter (· != name) := by
  induction t with
  | nil => rfl
  | cons entry t ih =>
      obtain ⟨q, node⟩ := entry
      by_cases hq : q = p ++ [name]
      · have herase : FileTree.erase ((q, node) :: t) (p ++ [name]) =
            FileTree.erase t (p ++ [name]) :=
          List.filter_cons_of_neg (by simpa using hq)
        rw [herase, ih, namesIn_cons_of_some (nameIn?_eq_some_iff.mpr hq),
          List.filter_cons_of_neg (by simp)]
      · have herase : FileTree.erase ((q, node) :: t) (p ++ [name]) =
            (q, node) :: FileTree.erase t (p ++ [name]) :=
          List.filter_cons_of_pos (by simpa using hq)
        rw [herase]
        cases hname : nameIn? p q with
        | none => rw [namesIn_cons_of_none hname, namesIn_cons_of_none hname, ih]
        | some other =>
            have hother : other ≠ name := by
              rintro rfl
              exact hq (nameIn?_eq_some_iff.mp hname)
            rw [namesIn_cons_of_some hname, namesIn_cons_of_some hname, ih,
              List.filter_cons_of_pos (by simpa using hother)]

theorem namesIn_set (t : FileTree) (p : Place) (name : String) (node : FileNode) :
    (t.set (p ++ [name]) node).namesIn p = name :: (t.namesIn p).filter (· != name) := by
  rw [← namesIn_erase]
  exact namesIn_cons_of_some (nameIn?_eq_some_iff.mpr rfl)

theorem mem_namesIn_of_node? {t : FileTree} {p : Place} {name : String} {node : FileNode}
    (hnode : t.node? (p ++ [name]) = some node) : name ∈ t.namesIn p := by
  have hnonempty : ¬(p ++ [name]).isEmpty = true := by simp
  rw [node?, if_neg hnonempty] at hnode
  obtain ⟨front, rest, rfl, -⟩ := List.lookup_eq_some_iff.mp hnode
  have hmem : (p ++ [name], node) ∈ front ++ (p ++ [name], node) :: rest :=
    List.mem_append_right front List.mem_cons_self
  exact List.mem_filterMap.mpr ⟨_, hmem, nameIn?_eq_some_iff.mpr rfl⟩

/-- A path leads to the same place if it asks for a directory there. -/
theorem place_of_leads {t : FileTree} {p q : Place} {path : String}
    (hleads : t.follow [] (parts path) = .ok p) (hplace : t.place path = .ok q) : q = p := by
  unfold place at hplace
  cases hfault : fault? path with
  | some fault =>
      rw [hfault] at hplace
      cases hplace
  | none =>
      rw [hfault, steps] at hplace
      by_cases hslash : endsInSlash path = true
      · rw [if_pos hslash] at hplace
        obtain ⟨next, hfront, hdot⟩ := follow_append_eq_ok_iff.mp hplace
        obtain ⟨here, hstep, hend⟩ := follow_cons_eq_ok_iff.mp hdot
        obtain ⟨-, hnext⟩ := step_eq_ok_iff.mp hstep
        rw [if_pos rfl] at hnext
        rw [hleads] at hfront
        cases hfront
        cases hend
        exact hnext.symm
      · rw [if_neg hslash, hleads] at hplace
        exact (Except.ok.inj hplace).symm

theorem names_of_list {t : FileTree} {p : Place} {path : String} {names : List String}
    (hleads : t.follow [] (parts path) = .ok p) (hlist : t.list path = .ok names) :
    names = t.namesIn p := by
  unfold list directory at hlist
  cases hplace : t.place path with
  | error fault =>
      simp only [hplace] at hlist
      cases hlist
  | ok q =>
      obtain rfl := place_of_leads hleads hplace
      simp only [hplace] at hlist
      cases hnode : t.node? q with
      | none =>
          simp only [hnode] at hlist
          cases hlist
      | some node =>
          cases node with
          | file content =>
              simp only [hnode] at hlist
              cases hlist
          | directory =>
              simp only [hnode] at hlist
              exact (Except.ok.inj hlist).symm

/-- A directory can be listed by every path that leads there and can be used. -/
theorem list_of_leads {t : FileTree} {p : Place} {path : String}
    (hleads : t.follow [] (parts path) = .ok p) (hnode : t.node? p = some .directory)
    (hfault : fault? path = none) : t.list path = .ok (t.namesIn p) := by
  have hplace : t.place path = .ok p := by
    simp only [place, hfault, steps]
    split
    · rw [follow_append_of_ok hleads]
      simp only [follow, step, hnode, if_true]
    · exact hleads
  simp only [list, directory, hplace, hnode]
  rfl

end FileTree

namespace DirectoryStore

/-! ## Keys of names -/

theorem keyOfName?_entryName (k : Key) : keyOfName? (entryName k) = some k := by
  have hsplit : splitExtension (entryName k) = (k.hex.toList, some extension.toList) := by
    have hname : (entryName k).toList = k.hex.toList ++ '.' :: extension.toList := by
      rw [entryName, String.toList_append, String.toList_append, List.append_assoc]
      rfl
    have hstem : k.hex.toList ≠ [] := List.ne_nil_of_length_pos (k.length_hex ▸ Nat.succ_pos 63)
    exact splitExtension_of_toList hname hstem (by decide)
  simp only [keyOfName?, hsplit, if_true, String.ofList_toList, Key.ofHex?_hex]

/-- The keys that the names in a directory stand for. -/
def keysIn (t : FileTree) (p : Place) : List Key :=
  (t.namesIn p).filterMap keyOfName?

/-- Every name in the directory that stands for a key is the one made for it. -/
def NamesAreMade (t : FileTree) (p : Place) : Prop :=
  ∀ name ∈ t.namesIn p, ∀ k, keyOfName? name = some k → name = entryName k

variable {t : FileTree} {p : Place}

theorem filterMap_keyOfName?_filter {names : List String}
    (hmade : ∀ name ∈ names, ∀ k, keyOfName? name = some k → name = entryName k) (k : Key) :
    (names.filter (· != entryName k)).filterMap keyOfName? =
      (names.filterMap keyOfName?).filter (· != k) := by
  induction names with
  | nil => rfl
  | cons name names ih =>
      obtain ⟨hname, hnames⟩ := List.forall_mem_cons.mp hmade
      have hrest := ih hnames
      by_cases hk : name = entryName k
      · have hread : keyOfName? name = some k := hk ▸ keyOfName?_entryName k
        rw [List.filter_cons_of_neg (by simpa using hk), hrest,
          List.filterMap_cons_some hread, List.filter_cons_of_neg (by simp)]
      · rw [List.filter_cons_of_pos (by simpa using hk)]
        cases hread : keyOfName? name with
        | none => rw [List.filterMap_cons_none hread, List.filterMap_cons_none hread, hrest]
        | some l =>
            have hl : l ≠ k := by
              rintro rfl
              exact hk (hname l hread)
            rw [List.filterMap_cons_some hread, List.filterMap_cons_some hread, hrest,
              List.filter_cons_of_pos (by simpa using hl)]

theorem keysIn_set (hmade : NamesAreMade t p) (k : Key) (node : FileNode) :
    keysIn (t.set (p ++ [entryName k]) node) p = k :: (keysIn t p).filter (· != k) := by
  unfold keysIn
  rw [FileTree.namesIn_set, List.filterMap_cons_some (keyOfName?_entryName k),
    filterMap_keyOfName?_filter hmade]

theorem keysIn_erase (hmade : NamesAreMade t p) (k : Key) :
    keysIn (t.erase (p ++ [entryName k])) p = (keysIn t p).filter (· != k) := by
  unfold keysIn
  rw [FileTree.namesIn_erase, filterMap_keyOfName?_filter hmade]

namespace NamesAreMade

theorem of_keysIn_eq_nil (hnone : keysIn t p = []) : NamesAreMade t p := by
  intro name hname k hread
  have hmem : k ∈ keysIn t p := List.mem_filterMap.mpr ⟨name, hname, hread⟩
  rw [hnone] at hmem
  cases hmem

theorem set (hmade : NamesAreMade t p) (k : Key) (node : FileNode) :
    NamesAreMade (t.set (p ++ [entryName k]) node) p := by
  intro name hname l hread
  rw [FileTree.namesIn_set] at hname
  rcases List.mem_cons.mp hname with rfl | hold
  · rw [keyOfName?_entryName] at hread
    rw [Option.some.inj hread]
  · exact hmade name (List.mem_filter.mp hold).1 l hread

theorem erase (hmade : NamesAreMade t p) (k : Key) :
    NamesAreMade (t.erase (p ++ [entryName k])) p := by
  intro name hname l hread
  rw [FileTree.namesIn_erase] at hname
  exact hmade name (List.mem_filter.mp hname).1 l hread

end NamesAreMade

theorem mem_keysIn_of_node? {k : Key} {node : FileNode}
    (hnode : t.node? (p ++ [entryName k]) = some node) : k ∈ keysIn t p :=
  List.mem_filterMap.mpr ⟨entryName k, FileTree.mem_namesIn_of_node? hnode, keyOfName?_entryName k⟩

theorem keys_eq_of_ok {s : DirectoryStore} {ks : List Key}
    (hleads : t.follow [] (parts s.root) = .ok p) (hkeys : s.keys t = .ok ks) :
    ks = Key.sorted (keysIn t p) := by
  unfold keys at hkeys
  cases hlist : t.list s.root with
  | error fault =>
      simp only [hlist] at hkeys
      cases hkeys
  | ok names =>
      obtain rfl := FileTree.names_of_list hleads hlist
      simp only [hlist] at hkeys
      exact (Except.ok.inj hkeys).symm

theorem keys_of_leads {s : DirectoryStore} (hleads : t.follow [] (parts s.root) = .ok p)
    (hnode : t.node? p = some .directory) (hfault : fault? s.root = none) :
    s.keys t = .ok (Key.sorted (keysIn t p)) := by
  simp only [keys, FileTree.list_of_leads hleads hnode hfault]
  rfl

end DirectoryStore

end QueryReplay
