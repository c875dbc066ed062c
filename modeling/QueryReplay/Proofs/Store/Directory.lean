import QueryReplay.Proofs.Store.FileTree
import QueryReplay.Proofs.Text.Hex
import QueryReplay.Store.Directory

/-!
# Stores in a directory are finite maps

A store in a directory works when new files and all entry files can be made
where they belong.  Then its entries are the contents of the files that are
named for the keys.  Different keys have different names, so to put or remove
one entry changes no other, and the store goes on working.
-/

namespace QueryReplay.DirectoryStore

open FilePath FileTree

/-! ## Names of entries -/

/-- The name of the file for a key. -/
def entryName (k : Key) : String :=
  k.hex ++ "." ++ extension

theorem toList_entryName (k : Key) :
    (entryName k).toList = Hex.digits k.bytes.toList ++ ".cache".toList := by
  rw [entryName, String.toList_append, String.toList_append, Key.hex, Hex.encode,
    String.toList_ofList, List.append_assoc]
  rfl

theorem entryName_inj {k l : Key} (h : entryName k = entryName l) : k = l := by
  have hchars := congrArg String.toList h
  rw [toList_entryName, toList_entryName] at hchars
  exact Key.hex_inj (congrArg String.ofList (List.append_cancel_right hchars))

theorem isName_entryName (k : Key) : IsName (entryName k) := by
  have hlength : 6 ≤ (entryName k).toList.length := by
    rw [toList_entryName, List.length_append]
    exact Nat.le_add_left _ _
  have hne (short : String) (hshort : short.toList.length < 6) : entryName k ≠ short := by
    rintro rfl
    exact absurd hshort (Nat.not_lt.mpr hlength)
  refine ⟨hne "" (by decide), ?_, hne "." (by decide), hne ".." (by decide)⟩
  rw [toList_entryName, List.mem_append]
  rintro (hdigit | hextension)
  · exact absurd (Hex.isDigit_of_mem_digits hdigit) (by decide)
  · exact absurd hextension (by decide)

theorem no_nul_entryName (k : Key) : '\x00' ∉ (entryName k).toList := by
  rw [toList_entryName, List.mem_append]
  rintro (hdigit | hextension)
  · exact absurd (Hex.isDigit_of_mem_digits hdigit) (by decide)
  · exact absurd hextension (by decide)

theorem utf8ByteSize_entryName (k : Key) : (entryName k).utf8ByteSize = 70 := by
  have hhex : k.hex.utf8ByteSize = 64 := by
    rw [Key.hex, Hex.encode, Hex.utf8ByteSize_ofList fun _ => Hex.isDigit_of_mem_digits,
      Hex.length_digits, Vector.length_toList]
  have hextension : extension.utf8ByteSize = 5 := rfl
  have hpoint : ".".utf8ByteSize = 1 := rfl
  rw [entryName, String.utf8ByteSize_append, String.utf8ByteSize_append, hhex, hpoint, hextension]

/-! ## Working stores -/

/-- The store keeps its entries at a place, and new files and all entry files can be made. -/
structure WorksAt (s : DirectoryStore) (t : FileTree) (p : Place) : Prop where
  leads : t.follow [] (parts s.root) = .ok p
  newFile : ∃ q, t.place s.newFilePath = .ok q
  entry (k : Key) : t.place (s.entryPath k) = .ok (p ++ [entryName k])
  free (k : Key) : t.node? (p ++ [entryName k]) ≠ some .directory

variable {s : DirectoryStore} {t u : FileTree} {p : Place}

theorem put_eq_ok_iff {k : Key} {b : List UInt8} :
    s.put t k b = .ok u ↔ (∃ q, t.place s.newFilePath = .ok q) ∧
      ∃ q, t.place (s.entryPath k) = .ok q ∧ t.node? q ≠ some .directory ∧
        u = t.set q (.file b) := by
  rw [put, ← writeFile_eq_ok_iff]
  cases t.place s.newFilePath with
  | error fault => simp
  | ok q =>
      cases t.writeFile (s.entryPath k) b with
      | error fault => simp
      | ok v => simp

theorem sameDirectories_of_put {k : Key} {b : List UInt8} (hput : s.put t k b = .ok u) :
    SameDirectories t u := by
  obtain ⟨-, q, -, hfree, rfl⟩ := put_eq_ok_iff.mp hput
  exact sameDirectories_set hfree b

/-- A store works if its path leads to a place and nothing that is put fails. -/
theorem worksAt_iff :
    s.WorksAt t p ↔
      t.follow [] (parts s.root) = .ok p ∧ ∀ k b, ∃ u, s.put t k b = .ok u := by
  constructor
  · intro h
    exact ⟨h.leads, fun k b => ⟨_, put_eq_ok_iff.mpr
      ⟨h.newFile, p ++ [entryName k], h.entry k, h.free k, rfl⟩⟩⟩
  · rintro ⟨hleads, hputs⟩
    have hentry (k : Key) : t.place (s.entryPath k) = .ok (p ++ [entryName k]) ∧
        t.node? (p ++ [entryName k]) ≠ some .directory := by
      obtain ⟨u, hput⟩ := hputs k []
      obtain ⟨_, q, hplace, hfree, _⟩ := put_eq_ok_iff.mp hput
      obtain ⟨here, hhere, rfl⟩ := place_join_eq_ok (isName_entryName k) hplace
      rw [hleads] at hhere
      cases hhere
      exact ⟨hplace, hfree⟩
    obtain ⟨u, hput⟩ := hputs ⟨Vector.replicate 32 0⟩ []
    exact ⟨hleads, (put_eq_ok_iff.mp hput).1, fun k => (hentry k).1, fun k => (hentry k).2⟩

namespace WorksAt

theorem of_sameDirectories (h : s.WorksAt t p) (hsame : SameDirectories t u) :
    s.WorksAt u p := by
  obtain ⟨q, hnew⟩ := h.newFile
  exact ⟨hsame.keeps.follow_eq_ok h.leads, ⟨q, hsame.keeps.place_eq_ok hnew⟩,
    fun k => hsame.keeps.place_eq_ok (h.entry k), fun k hk => h.free k ((hsame _).mpr hk)⟩

theorem get_eq (h : s.WorksAt t p) (k : Key) :
    s.get t k = .ok (t.contentAt (p ++ [entryName k])) := by
  rw [get, readFile_of_place (h.entry k) (h.free k)]
  cases t.contentAt (p ++ [entryName k]) with
  | some content => rfl
  | none => rfl

theorem put_eq (h : s.WorksAt t p) (k : Key) (b : List UInt8) :
    s.put t k b = .ok (t.set (p ++ [entryName k]) (.file b)) :=
  put_eq_ok_iff.mpr ⟨h.newFile, _, h.entry k, h.free k, rfl⟩

theorem remove_eq (h : s.WorksAt t p) (k : Key) :
    s.remove t k =
      match t.contentAt (p ++ [entryName k]) with
      | some _ => .ok (true, t.erase (p ++ [entryName k]))
      | none => .ok (false, t) := by
  have hfree := h.free k
  cases hnode : t.node? (p ++ [entryName k]) with
  | none => simp only [remove, removeFile, contentAt, h.entry k, hnode]
  | some node =>
      cases node with
      | file content => simp only [remove, removeFile, contentAt, h.entry k, hnode]
      | directory => exact absurd hnode hfree

theorem sameDirectories_put (h : s.WorksAt t p) (k : Key) (b : List UInt8) :
    SameDirectories t (t.set (p ++ [entryName k]) (.file b)) :=
  sameDirectories_set (h.free k) b

end WorksAt

/-! ## Stores whose directory is there -/

theorem place_entryPath_of_fault?_eq_none (hleads : t.follow [] (parts s.root) = .ok p)
    (hnode : t.node? p = some .directory) {k : Key} (hfault : fault? (s.entryPath k) = none) :
    t.place (s.entryPath k) = .ok (p ++ [entryName k]) :=
  place_join_of_leads (isName_entryName k) (utf8ByteSize_entryName k ▸ by decide) hleads hnode
    hfault

/-- In a directory that is there, the path of an entry leads to the entry, unless the path itself
cannot be used. -/
theorem place_entryPath (hleads : t.follow [] (parts s.root) = .ok p)
    (hnode : t.node? p = some .directory) (k : Key) :
    t.place (s.entryPath k) = .ok (p ++ [entryName k]) ∨
      ∃ fault, t.place (s.entryPath k) = .error fault ∧ fault ≠ .notFound := by
  cases hfault : fault? (s.entryPath k) with
  | none => exact Or.inl (place_entryPath_of_fault?_eq_none hleads hnode hfault)
  | some fault =>
      refine Or.inr ⟨fault, ?_, ?_⟩
      · simp only [FileTree.place, hfault]
      · rintro rfl
        unfold fault? at hfault
        split at hfault
        · cases hfault
        · split at hfault
          · cases hfault
          · cases hfault

/-- A store works in a directory that is there, if no directory stands for an entry and the path
leaves room for the names. -/
theorem worksAt_of_hasRoom (hleads : t.follow [] (parts s.root) = .ok p)
    (hnode : t.node? p = some .directory) (hroom : HasRoom s.root)
    (hfree : ∀ k, t.node? (p ++ [entryName k]) ≠ some .directory) : s.WorksAt t p := by
  refine ⟨hleads, ?_, fun k => ?_, hfree⟩
  · have hname : IsName ".entry-000000.tmp" := by constructor <;> decide
    exact ⟨_, place_join_of_leads hname (by decide) hleads hnode
      (hroom.fault?_join hname (by decide) (by decide))⟩
  · exact place_entryPath_of_fault?_eq_none hleads hnode (hroom.fault?_join (isName_entryName k)
      (no_nul_entryName k) (Nat.le_of_eq (utf8ByteSize_entryName k)))

/-- What a store reads without failing is what stands there. -/
theorem contentAt_of_get (hleads : t.follow [] (parts s.root) = .ok p)
    (hnode : t.node? p = some .directory) {k : Key} {found : Option (List UInt8)}
    (hget : s.get t k = .ok found) : t.contentAt (p ++ [entryName k]) = found := by
  unfold get FileTree.readFile at hget
  rcases place_entryPath hleads hnode k with hplace | ⟨fault, hplace, hfault⟩
  · rw [hplace] at hget
    unfold FileTree.contentAt
    cases hentry : t.node? (p ++ [entryName k]) with
    | none =>
        simp only [hentry] at hget
        exact Except.ok.inj hget
    | some node =>
        cases node with
        | file content =>
            simp only [hentry] at hget
            exact Except.ok.inj hget
        | directory =>
            simp only [hentry] at hget
            cases hget
  · rw [hplace] at hget
    cases fault with
    | notFound => exact absurd rfl hfault
    | _ => cases hget

/-- What a store writes without failing stands in the file of the entry. -/
theorem set_of_put (hleads : t.follow [] (parts s.root) = .ok p) {k : Key} {b : List UInt8}
    (hput : s.put t k b = .ok u) :
    t.node? (p ++ [entryName k]) ≠ some .directory ∧
      u = t.set (p ++ [entryName k]) (.file b) := by
  obtain ⟨-, q, hplace, hfree, hset⟩ := put_eq_ok_iff.mp hput
  obtain ⟨here, hhere, rfl⟩ := FileTree.place_join_eq_ok (isName_entryName k) hplace
  rw [hleads] at hhere
  cases hhere
  exact ⟨hfree, hset⟩

/-- What a store removes without failing is the file of the entry, if there is one. -/
theorem erase_of_remove (hleads : t.follow [] (parts s.root) = .ok p)
    (hnode : t.node? p = some .directory) {k : Key} {present : Bool}
    (hremove : s.remove t k = .ok (present, u)) :
    present = (t.contentAt (p ++ [entryName k])).isSome ∧
      u = if present then t.erase (p ++ [entryName k]) else t := by
  unfold remove FileTree.removeFile at hremove
  rcases place_entryPath hleads hnode k with hplace | ⟨fault, hplace, hfault⟩
  · rw [hplace] at hremove
    unfold FileTree.contentAt
    cases hentry : t.node? (p ++ [entryName k]) with
    | none =>
        simp only [hentry] at hremove
        cases hremove
        exact ⟨rfl, rfl⟩
    | some node =>
        cases node with
        | file content =>
            simp only [hentry] at hremove
            cases hremove
            exact ⟨rfl, rfl⟩
        | directory =>
            simp only [hentry] at hremove
            cases hremove
  · rw [hplace] at hremove
    cases fault with
    | notFound => exact absurd rfl hfault
    | _ => cases hremove

theorem entry_ne_nil (p : Place) (k : Key) : p ++ [entryName k] ≠ [] :=
  List.append_ne_nil_of_right_ne_nil p (List.cons_ne_nil _ _)

/-- Entries of different keys stand at different places. -/
theorem entry_eq_iff {k l : Key} : p ++ [entryName k] = p ++ [entryName l] ↔ k = l := by
  constructor
  · intro h
    exact entryName_inj (List.singleton_inj.mp (List.append_cancel_left h))
  · rintro rfl
    rfl

/-! ## Opening -/

/-- A store that was opened stands in a directory. -/
theorem leads_of_openAt {root : String} (hopen : openAt t root = (.ok s, u)) :
    s.root = root ∧ ∃ p, u.follow [] (parts root) = .ok p ∧ u.node? p = some .directory := by
  unfold openAt at hopen
  split at hopen
  · next hmake =>
    cases hopen
    exact ⟨rfl, isDirectory_iff.mp (isDirectory_of_makeDirectories hmake)⟩
  · cases hopen

/-- To open a store in a directory that is there changes nothing, and only a path that cannot be
used fails. -/
theorem openAt_of_leads {root : String} (hleads : t.follow [] (parts root) = .ok p)
    (hnode : t.node? p = some .directory) :
    openAt t root =
      match fault? root with
      | some fault => (.error (.store root fault), t)
      | none => (.ok ⟨root⟩, t) := by
  unfold openAt
  rw [makeDirectories_of_isDirectory (isDirectory_iff.mpr ⟨p, hleads, hnode⟩)]
  cases fault? root with
  | some fault => rfl
  | none => rfl

end QueryReplay.DirectoryStore
