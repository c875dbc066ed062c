import QueryReplay.Proofs.Store.FiniteMap
import QueryReplay.Proofs.Store.Listing

/-!
# Stores answer like a finite map

Any number of stores may stand in one directory, opened by whatever paths lead
there.  As long as nothing else touches the directory and no call fails, they
all answer like one finite map, which is empty if no key was listed at first.
What else stands in the directory is not seen.  With the store in memory this
makes one statement: nobody who puts, gets and removes can tell which of the
two kinds of stores he has got, and both do what a finite map does.
-/

namespace QueryReplay

open FilePath FileTree

/-- The path of the directory that is asked for. -/
def DirectoryCall.root : DirectoryCall → String
  | .opened root => root
  | .entry s _ => s.root
  | .keys s => s.root

namespace DirectoryStore

/-! ## Asking stores in a directory -/

/-- The answer of a store, and all files behind it. -/
def entryAnswer (s : DirectoryStore) (t : FileTree) :
    EntryCall → Except Error StoreAnswer × FileTree
  | .put k b =>
    match s.put t k b with
    | .ok u => (.ok .done, u)
    | .error e => (.error e, t)
  | .get k => ((s.get t k).map .found, t)
  | .remove k =>
    match s.remove t k with
    | .ok (present, u) => (.ok (.removed present), u)
    | .error e => (.error e, t)

def answer (t : FileTree) : DirectoryCall → Except Error StoreAnswer × FileTree
  | .opened root => ((openAt t root).1.map fun _ => .done, (openAt t root).2)
  | .entry s call => s.entryAnswer t call
  | .keys s => ((s.keys t).map .keys, t)

/-! ## Directories that hold a map -/

/-- A directory has the entries of a map, and lists their keys. -/
structure Holds (p : Place) (t : FileTree) (m : FiniteMap) : Prop where
  directory : t.node? p = some .directory
  content (k : Key) : t.contentAt (p ++ [entryName k]) = m.lookup k
  made : NamesAreMade t p
  keys : FiniteMap.Enumerates (keysIn t p) m

variable {p : Place} {t t₀ : FileTree} {m : FiniteMap} {s : DirectoryStore} {k : Key}

namespace Holds

theorem free (h : Holds p t m) (k : Key) : t.node? (p ++ [entryName k]) ≠ some .directory := by
  intro hnode
  have hcontent := h.content k
  have hmem := h.keys.mem_iff.mp (mem_keysIn_of_node? hnode)
  rw [FileTree.contentAt, hnode] at hcontent
  exact Finmap.lookup_eq_none.mp hcontent.symm hmem

/-- A directory in which no name stands for a key holds nothing. -/
theorem of_keysIn_eq_nil (hdirectory : t.node? p = some .directory) (hnone : keysIn t p = []) :
    Holds p t ∅ := by
  refine ⟨hdirectory, fun k => ?_, .of_keysIn_eq_nil hnone, hnone ▸ .nil⟩
  unfold FileTree.contentAt
  cases hnode : t.node? (p ++ [entryName k]) with
  | none => rfl
  | some node =>
      have hmem := mem_keysIn_of_node? hnode
      rw [hnone] at hmem
      cases hmem

theorem set (h : Holds p t m) (k : Key) (b : List UInt8) :
    Holds p (t.set (p ++ [entryName k]) (.file b)) (m.insert k b) := by
  have hdirectory := (FileTree.sameDirectories_set (h.free k) b p).mp h.directory
  refine ⟨hdirectory, fun l => ?_, h.made.set k _, ?_⟩
  · rw [FileTree.contentAt_set (entry_ne_nil p k), h.content, FiniteMap.lookup_insert_eq]
    simp only [entry_eq_iff]
  · rw [keysIn_set h.made]
    exact h.keys.insert k b

theorem erase (h : Holds p t m) (k : Key) :
    Holds p (t.erase (p ++ [entryName k])) (m.erase k) := by
  have hdirectory := (FileTree.sameDirectories_erase (h.free k) p).mp h.directory
  refine ⟨hdirectory, fun l => ?_, h.made.erase k, ?_⟩
  · rw [FileTree.contentAt_erase (entry_ne_nil p k), h.content, FiniteMap.lookup_erase_eq]
    simp only [entry_eq_iff]
  · rw [keysIn_erase h.made]
    exact h.keys.erase k

end Holds

/-! ## Calls that do not fail -/

theorem put_eq_finiteMap (h : Holds p t m) (hleads : t.follow [] (parts s.root) = .ok p)
    {b : List UInt8} {u : FileTree} (hput : s.put t k b = .ok u) :
    FileTree.SameDirectories t u ∧ Holds p u (m.insert k b) := by
  obtain ⟨-, rfl⟩ := set_of_put hleads hput
  exact ⟨sameDirectories_of_put hput, h.set k b⟩

theorem remove_eq_finiteMap (h : Holds p t m) (hleads : t.follow [] (parts s.root) = .ok p)
    {present : Bool} {u : FileTree} (hremove : s.remove t k = .ok (present, u)) :
    present = (m.lookup k).isSome ∧ FileTree.SameDirectories t u ∧ Holds p u (m.erase k) := by
  obtain ⟨hpresent, rfl⟩ := erase_of_remove hleads h.directory hremove
  rw [h.content] at hpresent
  refine ⟨hpresent, ?_⟩
  cases hlookup : m.lookup k with
  | none =>
      rw [hlookup] at hpresent
      rw [if_neg (by simp [hpresent]), FiniteMap.erase_of_lookup_eq_none hlookup]
      exact ⟨fun _ => Iff.rfl, h⟩
  | some b =>
      rw [hlookup] at hpresent
      rw [if_pos (by simp [hpresent])]
      exact ⟨FileTree.sameDirectories_erase (h.free k), h.erase k⟩

theorem entryAnswer_eq (h : Holds p t m) (hleads : t.follow [] (parts s.root) = .ok p)
    (call : EntryCall) {a : StoreAnswer} (hanswer : (s.entryAnswer t call).1 = .ok a) :
    a = (m.entryAnswer call).1 ∧ FileTree.SameDirectories t (s.entryAnswer t call).2 ∧
      Holds p (s.entryAnswer t call).2 (m.entryAnswer call).2 := by
  cases call with
  | put k b =>
      cases hput : s.put t k b with
      | error e =>
          simp only [entryAnswer, hput] at hanswer
          cases hanswer
      | ok u =>
          simp only [entryAnswer, hput] at hanswer ⊢
          cases hanswer
          exact ⟨rfl, put_eq_finiteMap h hleads hput⟩
  | get k =>
      refine ⟨?_, fun _ => Iff.rfl, h⟩
      cases hget : s.get t k with
      | error e =>
          simp only [entryAnswer, hget] at hanswer
          cases hanswer
      | ok found =>
          simp only [entryAnswer, hget] at hanswer
          cases hanswer
          rw [← contentAt_of_get hleads h.directory hget, h.content]
          rfl
  | remove k =>
      cases hremove : s.remove t k with
      | error e =>
          simp only [entryAnswer, hremove] at hanswer
          cases hanswer
      | ok removed =>
          obtain ⟨present, u⟩ := removed
          simp only [entryAnswer, hremove] at hanswer ⊢
          cases hanswer
          obtain ⟨rfl, hafter⟩ := remove_eq_finiteMap h hleads hremove
          exact ⟨rfl, hafter⟩

theorem answer_eq (h : Holds p t m) {call : DirectoryCall}
    (hleads : t.follow [] (parts call.root) = .ok p) {a : StoreAnswer}
    (hanswer : (answer t call).1 = .ok a) :
    a = (m.directoryAnswer call).1 ∧ FileTree.SameDirectories t (answer t call).2 ∧
      Holds p (answer t call).2 (m.directoryAnswer call).2 := by
  cases call with
  | opened root =>
      have hopen : openAt t root = _ := openAt_of_leads hleads h.directory
      cases hfault : fault? root with
      | some fault =>
          simp only [answer, hopen, hfault] at hanswer
          cases hanswer
      | none =>
          simp only [answer, hopen, hfault] at hanswer ⊢
          cases hanswer
          exact ⟨rfl, fun _ => Iff.rfl, h⟩
  | entry s call => exact entryAnswer_eq h hleads call hanswer
  | keys s =>
      refine ⟨?_, fun _ => Iff.rfl, h⟩
      cases hkeys : s.keys t with
      | error e =>
          simp only [answer, hkeys] at hanswer
          cases hanswer
      | ok ks =>
          simp only [answer, hkeys] at hanswer
          cases hanswer
          rw [keys_eq_of_ok hleads hkeys, h.keys.sorted_eq]
          rfl

/-! ## Calls that cannot fail -/

theorem exists_entryAnswer (hworks : s.WorksAt t p) (call : EntryCall) :
    ∃ a, (s.entryAnswer t call).1 = .ok a := by
  cases call with
  | put k b =>
      simp only [entryAnswer, hworks.put_eq]
      exact ⟨_, rfl⟩
  | get k =>
      simp only [entryAnswer, hworks.get_eq]
      exact ⟨_, rfl⟩
  | remove k =>
      simp only [entryAnswer, hworks.remove_eq]
      cases t.contentAt (p ++ [entryName k]) with
      | none => exact ⟨_, rfl⟩
      | some b => exact ⟨_, rfl⟩

/-- By a path that leaves room for the names of entries, no call fails. -/
theorem exists_answer (h : Holds p t m) {call : DirectoryCall}
    (hleads : t.follow [] (parts call.root) = .ok p) (hroom : HasRoom call.root) :
    ∃ a, (answer t call).1 = .ok a := by
  cases call with
  | opened root =>
      have hfault : fault? root = none := hroom.fault?_eq_none
      have hopen : openAt t root = _ := openAt_of_leads hleads h.directory
      simp only [answer, hopen, hfault]
      exact ⟨_, rfl⟩
  | entry s call =>
      exact exists_entryAnswer (worksAt_of_hasRoom hleads h.directory hroom h.free) call
  | keys s =>
      have hkeys : s.keys t = _ := keys_of_leads hleads h.directory hroom.fault?_eq_none
      simp only [answer, hkeys]
      exact ⟨_, rfl⟩

/-! ## Runs -/

/-- The calls that lead to one place, as long as none of them fails. -/
theorem simulates_finiteMap (t₀ : FileTree) (p : Place) :
    Simulates answer (fun m call => (.ok (m.directoryAnswer call).1, (m.directoryAnswer call).2))
      (fun call => t₀.follow [] (parts call.root) = .ok p) (fun a => ∃ b, a = .ok b)
      (fun t m => FileTree.SameDirectories t₀ t ∧ Holds p t m) := by
  rintro t m call ⟨hsame, hholds⟩ hasked ⟨a, hanswer⟩
  obtain ⟨rfl, hsame', hafter⟩ := answer_eq hholds (hsame.keeps.follow_eq_ok hasked) hanswer
  exact ⟨hanswer, hsame.trans hsame', hafter⟩

/-- The calls that lead to one place by paths that leave room for the names of entries. -/
theorem simulates_finiteMap_of_hasRoom (t₀ : FileTree) (p : Place) :
    Simulates answer (fun m call => (.ok (m.directoryAnswer call).1, (m.directoryAnswer call).2))
      (fun call => t₀.follow [] (parts call.root) = .ok p ∧ HasRoom call.root) (fun _ => True)
      (fun t m => FileTree.SameDirectories t₀ t ∧ Holds p t m) := by
  rintro t m call hrelated ⟨hasked, hroom⟩ -
  have hleads := hrelated.1.keeps.follow_eq_ok hasked
  exact simulates_finiteMap t₀ p t m call hrelated hasked (exists_answer hrelated.2 hleads hroom)

theorem keysIn_eq_nil_of_keys (hleads : t.follow [] (parts s.root) = .ok p)
    (hkeys : s.keys t = .ok []) : keysIn t p = [] := by
  have hsorted := Key.sorted_perm (keysIn t p)
  rw [← keys_eq_of_ok hleads hkeys] at hsorted
  exact List.nil_perm.mp hsorted

end DirectoryStore

/-- A store in memory that is empty answers to every sequence of calls what the empty map answers.
So does an empty directory, through any number of stores that were opened there by any paths and
that nothing but these calls comes between: as long as no call fails, and no call fails where all
paths leave room for the names of entries. -/
theorem stores_answer_like_finiteMap :
    (∀ (r : Registry) (id : Nat) (calls : List MemoryCall),
      id < r.stores.length → r.entries id = [] →
        (interview (Registry.memoryAnswer id) r calls).1 =
          (interview FiniteMap.memoryAnswer ∅ calls).1) ∧
    ∀ (t₀ t : FileTree) (root : String) (s : DirectoryStore) (p : Place)
        (calls : List DirectoryCall),
      DirectoryStore.openAt t₀ root = (.ok s, t) → t.follow [] (parts root) = .ok p →
      s.keys t = .ok [] → (∀ call ∈ calls, t.follow [] (parts call.root) = .ok p) →
      (∀ answer ∈ (interview DirectoryStore.answer t calls).1, ∃ a, answer = .ok a) ∨
        (∀ call ∈ calls, HasRoom call.root) →
        (interview DirectoryStore.answer t calls).1 =
          (interview FiniteMap.directoryAnswer ∅ calls).1.map .ok := by
  constructor
  · intro r id calls hid hempty
    exact ((Registry.simulates_finiteMap id).interview_eq (.of_entries_eq_nil hid hempty)
      (fun _ _ => trivial) fun _ _ => trivial).1
  · intro t₀ t root s p calls hopen hleads hkeys hcalls hfine
    obtain ⟨rfl, q, hq, hdirectory⟩ := DirectoryStore.leads_of_openAt hopen
    rw [hleads] at hq
    cases hq
    have hholds : DirectoryStore.Holds p t ∅ :=
      .of_keysIn_eq_nil hdirectory (DirectoryStore.keysIn_eq_nil_of_keys hleads hkeys)
    have hrelated : FileTree.SameDirectories t t ∧ DirectoryStore.Holds p t ∅ :=
      ⟨fun _ => Iff.rfl, hholds⟩
    rw [← interview_map]
    rcases hfine with hanswers | hroom
    · exact ((DirectoryStore.simulates_finiteMap t p).interview_eq hrelated hcalls hanswers).1
    · exact ((DirectoryStore.simulates_finiteMap_of_hasRoom t p).interview_eq hrelated
        (fun call hcall => ⟨hcalls call hcall, hroom call hcall⟩) fun _ _ => trivial).1

/-! ## A directory with other files -/

def zerosKey : Key := ⟨Vector.replicate 32 0⟩

def onesKey : Key := ⟨Vector.replicate 32 1⟩

/-- A new file was left behind in the directory, and somebody keeps notes there. -/
def sharedFiles : FileTree :=
  [(["entries"], .directory), (["entries", ".entry-a1B2c3.tmp"], .file [7]),
    (["entries", "notes.txt"], .file [])]

def sharedCalls : List DirectoryCall :=
  [.opened "./entries/", .entry ⟨"entries"⟩ (.put onesKey [7]),
    .entry ⟨"./entries/"⟩ (.put zerosKey []), .entry ⟨"entries/../entries"⟩ (.get onesKey),
    .keys ⟨"./entries/"⟩, .entry ⟨"entries"⟩ (.remove onesKey),
    .entry ⟨"./entries/"⟩ (.remove onesKey), .entry ⟨"entries"⟩ (.get zerosKey)]

theorem directoryAnswer_sharedCalls :
    (interview FiniteMap.directoryAnswer ∅ sharedCalls).1 =
      [.done, .done, .done, .found (some [7]), .keys [zerosKey, onesKey], .removed true,
        .removed false, .found (some [])] := by
  have hkeys : (((∅ : FiniteMap).insert onesKey [7]).insert zerosKey []).keys =
      {zerosKey, onesKey} := by decide +kernel
  have hsort : ({zerosKey, onesKey} : Finset Key).sort = [zerosKey, onesKey] := by
    rw [Finset.sort_insert _ (by decide) (by decide), Finset.sort_singleton]
  simp only [sharedCalls, interview, FiniteMap.directoryAnswer, FiniteMap.entryAnswer, hkeys, hsort]
  rfl

theorem sharedFiles_answer_like_finiteMap :
    (interview (Registry.memoryAnswer 0) (Registry.empty.create "sums").2
        [.entry (.put onesKey []), .entry (.get onesKey), .size, .clear, .size,
          .entry (.remove onesKey)]).1 =
      [.done, .found (some []), .size 1, .done, .size 0, .removed false] ∧
    DirectoryStore.openAt sharedFiles "entries" = (.ok ⟨"entries"⟩, sharedFiles) ∧
    DirectoryStore.keys ⟨"entries"⟩ sharedFiles = .ok [] ∧
    (interview DirectoryStore.answer sharedFiles sharedCalls).1 =
      [.ok .done, .ok .done, .ok .done, .ok (.found (some [7])), .ok (.keys [zerosKey, onesKey]),
        .ok (.removed true), .ok (.removed false), .ok (.found (some []))] := by
  have hleads : sharedFiles.follow [] (parts "entries") = .ok ["entries"] := by decide +kernel
  have hdirectory : sharedFiles.node? ["entries"] = some .directory := by decide
  have hfault : fault? "entries" = none := HasRoom.fault?_eq_none (by decide)
  have hopen : DirectoryStore.openAt sharedFiles "entries" = (.ok ⟨"entries"⟩, sharedFiles) := by
    rw [DirectoryStore.openAt_of_leads hleads hdirectory, hfault]
  have hkeys : DirectoryStore.keys ⟨"entries"⟩ sharedFiles = .ok [] := by
    rw [DirectoryStore.keys_of_leads hleads hdirectory hfault]
    decide +kernel
  have hcalls : ∀ call ∈ sharedCalls,
      sharedFiles.follow [] (parts call.root) = .ok ["entries"] := by decide +kernel
  have hroom : ∀ call ∈ sharedCalls, HasRoom call.root := by decide +kernel
  obtain ⟨hmemory, hdirectories⟩ := stores_answer_like_finiteMap
  refine ⟨?_, hopen, hkeys, ?_⟩
  · rw [hmemory (Registry.empty.create "sums").2 0 _ (by decide) rfl]
    decide +kernel
  · rw [hdirectories _ _ _ _ _ _ hopen hleads hkeys hcalls (Or.inr hroom),
      directoryAnswer_sharedCalls]
    rfl

end QueryReplay
