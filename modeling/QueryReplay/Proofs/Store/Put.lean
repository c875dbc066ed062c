import QueryReplay.Proofs.Store.Replacement

/-!
# Putting does not depend on drawn names

All names that can be drawn for a new file have one length.  So the paths to
them fail alike, and it does not depend on the drawn names whether a new file
can be made, as long as one of them is not taken.  Step by step an entry is then
replaced as it is by `put`, which knows of one name only.

Whether a tree takes an entry is decided by what stands at the path of the
directory and at the path of the entry.  A missing directory and a file in its
place are found when the new file is made, and a directory in the place of the
entry when the new file is moved.
-/

namespace QueryReplay

open FilePath

namespace FileTree

variable {t : FileTree} {path : String}

/-! ## How paths fail -/

/-- That something is there already is no error of a path, but of making it. -/
theorem step_ne_alreadyExists {here : Place} {part : String} :
    t.step here part ≠ .error .alreadyExists := by
  unfold step
  cases t.node? here with
  | none => exact nofun
  | some node =>
      cases node with
      | file content => exact nofun
      | directory =>
          dsimp only
          repeat' split
          all_goals exact nofun

theorem follow_ne_alreadyExists {here : Place} {steps : List String} :
    t.follow here steps ≠ .error .alreadyExists := by
  induction steps generalizing here with
  | nil => exact nofun
  | cons part rest ih =>
      rw [follow]
      cases hstep : t.step here part with
      | ok next => exact ih
      | error fault =>
          intro h
          obtain rfl : fault = .alreadyExists := Except.error.inj h
          exact step_ne_alreadyExists hstep

theorem place_ne_alreadyExists : t.place path ≠ .error .alreadyExists := by
  unfold place
  cases hfault : fault? path with
  | none => exact follow_ne_alreadyExists
  | some fault =>
      intro h
      obtain rfl : fault = .alreadyExists := Except.error.inj h
      unfold fault? at hfault
      repeat' split at hfault
      all_goals cases hfault

theorem follow_append_of_error {here : Place} {front : List String} {fault : IoFault}
    (hfront : t.follow here front = .error fault) (rest : List String) :
    t.follow here (front ++ rest) = .error fault := by
  induction front generalizing here with
  | nil => cases hfront
  | cons part front ih =>
      rw [follow] at hfront
      rw [List.cons_append, follow]
      cases hstep : t.step here part with
      | ok next =>
          rw [hstep] at hfront
          exact ih hfront
      | error earlier =>
          rw [hstep] at hfront
          exact hfront

/-! ## Paths to names of one length -/

theorem fault?_append_congr {a b : String} (hnula : '\x00' ∉ a.toList) (hnulb : '\x00' ∉ b.toList)
    (hsize : a.utf8ByteSize = b.utf8ByteSize) (front : String) :
    fault? (front ++ a) = fault? (front ++ b) := by
  simp only [fault?, String.contains_char_eq, String.toList_append, List.mem_append, hnula, hnulb,
    String.utf8ByteSize_append, hsize]

theorem fault?_join_congr {a b : String} (ha : IsName a) (hb : IsName b)
    (hnula : '\x00' ∉ a.toList) (hnulb : '\x00' ∉ b.toList)
    (hsize : a.utf8ByteSize = b.utf8ByteSize) (base : String) :
    fault? (join base a) = fault? (join base b) := by
  unfold join
  rw [if_neg ha.not_from_top, if_neg hb.not_from_top]
  split
  · exact fault?_append_congr hnula hnulb hsize base
  · exact fault?_append_congr hnula hnulb hsize (base ++ "/")

/-- The path to a name in a directory fails if the path of the directory does, and otherwise with
what the path of a missing directory, of a file or of too long a name fails with. -/
theorem place_join {base name : String} (hname : IsName name) :
    t.place (join base name) =
      match fault? (join base name), t.follow [] (parts base) with
      | some fault, _ => .error fault
      | none, .error fault => .error fault
      | none, .ok p =>
        match t.node? p with
        | none => .error .notFound
        | some (.file _) => .error .notADirectory
        | some .directory =>
          if maxNameBytes < name.utf8ByteSize then .error .nameTooLong else .ok (p ++ [name]) := by
  unfold place
  cases fault? (join base name) with
  | some fault => rfl
  | none =>
      rw [steps_join hname]
      dsimp only
      cases hbase : t.follow [] (parts base) with
      | error fault => exact follow_append_of_error hbase [name]
      | ok p =>
          rw [follow_append_of_ok hbase, follow, step]
          cases hnode : t.node? p with
          | none => simp only [hnode]
          | some node =>
              cases node with
              | file content => simp only [hnode]
              | directory =>
                  simp only [hnode, if_neg hname.ne_dot, if_neg hname.ne_dots]
                  by_cases hlong : maxNameBytes < name.utf8ByteSize
                  · simp only [if_pos hlong]
                  · simp only [if_neg hlong, follow]

/-- The paths to two names of one length in a directory fail alike. -/
theorem place_join_eq_error_iff {base a b : String} {fault : IoFault} (ha : IsName a)
    (hb : IsName b) (hnula : '\x00' ∉ a.toList) (hnulb : '\x00' ∉ b.toList)
    (hsize : a.utf8ByteSize = b.utf8ByteSize) :
    t.place (join base a) = .error fault ↔ t.place (join base b) = .error fault := by
  rw [place_join ha, place_join hb, fault?_join_congr ha hb hnula hnulb hsize base, hsize]
  cases fault? (join base b) with
  | some earlier => rfl
  | none =>
      cases t.follow [] (parts base) with
      | error earlier => rfl
      | ok p =>
          cases hnode : t.node? p with
          | none => simp only [hnode]
          | some node =>
              cases node with
              | file content => simp only [hnode]
              | directory =>
                  simp only [hnode]
                  by_cases hlong : maxNameBytes < b.utf8ByteSize
                  · rw [if_pos hlong, if_pos hlong]
                  · simp only [if_neg hlong, reduceCtorEq]

end FileTree

namespace DirectoryStore

variable {s : DirectoryStore} {t : FileTree} {draws : List String} {k : Key} {b : List UInt8}
  {fault : IoFault}

/-! ## Drawn names -/

/-- What can be drawn: six bytes that can stand in a name. -/
structure IsDraw (drawn : String) : Prop where
  six : drawn.utf8ByteSize = 6
  no_slash : '/' ∉ drawn.toList
  no_nul : '\x00' ∉ drawn.toList

instance (drawn : String) : Decidable (IsDraw drawn) :=
  decidable_of_iff
    (drawn.utf8ByteSize = 6 ∧ '/' ∉ drawn.toList ∧ '\x00' ∉ drawn.toList)
    ⟨fun h => ⟨h.1, h.2.1, h.2.2⟩, fun h => ⟨h.six, h.no_slash, h.no_nul⟩⟩

/-- The name of a new file. -/
def drawnName (drawn : String) : String :=
  ".entry-" ++ drawn ++ ".tmp"

theorem not_mem_drawnName {c : Char} {drawn : String} (hfront : c ∉ ".entry-".toList)
    (hdrawn : c ∉ drawn.toList) (hend : c ∉ ".tmp".toList) : c ∉ (drawnName drawn).toList := by
  rw [drawnName, String.toList_append, String.toList_append, List.mem_append, List.mem_append]
  exact not_or.mpr ⟨not_or.mpr ⟨hfront, hdrawn⟩, hend⟩

namespace IsDraw

variable {drawn : String}

theorem utf8ByteSize_drawnName (h : IsDraw drawn) : (drawnName drawn).utf8ByteSize = 17 := by
  have hfront : ".entry-".utf8ByteSize = 7 := rfl
  have hend : ".tmp".utf8ByteSize = 4 := rfl
  rw [drawnName, String.utf8ByteSize_append, String.utf8ByteSize_append, h.six, hfront, hend]

theorem isName_drawnName (h : IsDraw drawn) : FilePath.IsName (drawnName drawn) := by
  have hne (short : String) (hshort : short.utf8ByteSize < 17) : drawnName drawn ≠ short := by
    rintro rfl
    exact Nat.ne_of_lt hshort h.utf8ByteSize_drawnName
  exact ⟨hne "" (by decide), not_mem_drawnName (by decide) h.no_slash (by decide),
    hne "." (by decide), hne ".." (by decide)⟩

theorem no_nul_drawnName (h : IsDraw drawn) : '\x00' ∉ (drawnName drawn).toList :=
  not_mem_drawnName (by decide) h.no_nul (by decide)

end IsDraw

/-- The name that `put` makes a new file under is one of those that can be drawn. -/
theorem drawnPath_zeros (s : DirectoryStore) : s.drawnPath "000000" = s.newFilePath := by
  have hname : ".entry-" ++ "000000" ++ ".tmp" = ".entry-000000.tmp" := by decide
  rw [drawnPath, hname, newFilePath]

theorem place_drawnPath_eq_error_iff {drawn : String} (h : IsDraw drawn) :
    t.place (s.drawnPath drawn) = .error fault ↔ t.place s.newFilePath = .error fault := by
  have hzeros : IsDraw "000000" := by decide
  rw [← drawnPath_zeros]
  exact FileTree.place_join_eq_error_iff h.isName_drawnName hzeros.isName_drawnName
    h.no_nul_drawnName hzeros.no_nul_drawnName
    (h.utf8ByteSize_drawnName.trans hzeros.utf8ByteSize_drawnName.symm)

theorem exists_place_drawnPath {drawn : String} (h : IsDraw drawn)
    (hnew : ∃ p, t.place s.newFilePath = .ok p) : ∃ p, t.place (s.drawnPath drawn) = .ok p := by
  cases hplace : t.place (s.drawnPath drawn) with
  | ok p => exact ⟨p, rfl⟩
  | error fault =>
      obtain ⟨p, hp⟩ := hnew
      rw [(place_drawnPath_eq_error_iff h).mp hplace] at hp
      cases hp

/-- Nothing stands at the path of a new file with the drawn name. -/
def Untaken (s : DirectoryStore) (t : FileTree) (drawn : String) : Prop :=
  ∀ p, t.place (s.drawnPath drawn) = .ok p → t.node? p = none

/-- A directory that takes no new file fails at the first drawn name. -/
theorem createDrawn_of_error (hdraws : ∀ drawn ∈ draws, IsDraw drawn) (hsome : draws ≠ [])
    (hnew : t.place s.newFilePath = .error fault) : s.createDrawn t draws = .error fault := by
  cases draws with
  | nil => exact absurd rfl hsome
  | cons drawn draws =>
      have hplace := (place_drawnPath_eq_error_iff (hdraws drawn List.mem_cons_self)).mpr hnew
      have hfault : fault ≠ .alreadyExists := by
        rintro rfl
        exact FileTree.place_ne_alreadyExists hplace
      have hcreate : t.createFile (s.drawnPath drawn) = .error fault := by
        simp only [FileTree.createFile, hplace]
      cases fault with
      | alreadyExists => exact absurd rfl hfault
      | _ => simp only [createDrawn, hcreate]

/-- A new file can be made as soon as a name is drawn that is not taken. -/
theorem exists_createDrawn (hdraws : ∀ drawn ∈ draws, IsDraw drawn)
    (huntaken : ∃ drawn ∈ draws, s.Untaken t drawn)
    (hnew : ∃ p, t.place s.newFilePath = .ok p) :
    ∃ path u, s.createDrawn t draws = .ok (path, u) := by
  induction draws with
  | nil =>
      obtain ⟨drawn, hdrawn, _⟩ := huntaken
      cases hdrawn
  | cons drawn draws ih =>
      obtain ⟨p, hplace⟩ := exists_place_drawnPath (hdraws drawn List.mem_cons_self) hnew
      cases hnode : t.node? p with
      | none =>
          have hcreate : t.createFile (s.drawnPath drawn) = .ok (t.set p (.file [])) :=
            FileTree.createFile_eq_ok_iff.mpr ⟨p, hplace, hnode, rfl⟩
          exact ⟨_, _, by rw [createDrawn, hcreate]⟩
      | some node =>
          -- the name is taken, so the one that is not was drawn later
          have hcreate : t.createFile (s.drawnPath drawn) = .error .alreadyExists := by
            simp only [FileTree.createFile, hplace, hnode, Option.isSome_some, if_pos]
          have hlater : ∃ later ∈ draws, s.Untaken t later := by
            obtain ⟨other, hother, hfree⟩ := huntaken
            rcases List.mem_cons.mp hother with rfl | hother
            · rw [hfree p hplace] at hnode
              cases hnode
            · exact ⟨other, hother, hfree⟩
          rw [createDrawn, hcreate]
          exact ih (fun other hother => hdraws other (List.mem_cons_of_mem drawn hother)) hlater

/-- If nothing goes wrong but what the tree is the reason for, the steps do what `put` does,
whatever names are drawn. -/
theorem replace_eq_put (hdraws : ∀ drawn ∈ draws, IsDraw drawn)
    (huntaken : ∃ drawn ∈ draws, s.Untaken t drawn) :
    s.replace t draws .none k b =
      match s.put t k b with
      | .ok u => (.ok (), u)
      | .error e => (.error e, t) := by
  cases hnew : t.place s.newFilePath with
  | error fault =>
      have hsome : draws ≠ [] := by
        rintro rfl
        obtain ⟨drawn, hdrawn, _⟩ := huntaken
        cases hdrawn
      have hcreate : s.createNew t draws Mishaps.none.creating = .error fault :=
        createDrawn_of_error hdraws hsome hnew
      rw [replace_of_createNew_error hcreate, put, hnew]
  | ok p =>
      obtain ⟨path, u, hcreate⟩ := exists_createDrawn hdraws huntaken ⟨p, hnew⟩
      have hcreate : s.createNew t draws Mishaps.none.creating = .ok (path, u) := hcreate
      rw [replace_of_moving hcreate rfl rfl, put, hnew]
      simp only [landed, Mishaps.none]
      cases t.writeFile (s.entryPath k) b with
      | ok v => rfl
      | error fault => rfl

/-! ## Which trees take an entry -/

theorem place_newFilePath (hroom : FileTree.HasRoom s.root) :
    t.place s.newFilePath =
      match t.follow [] (parts s.root) with
      | .error fault => .error fault
      | .ok p =>
        match t.node? p with
        | none => .error .notFound
        | some (.file _) => .error .notADirectory
        | some .directory => .ok (p ++ [".entry-000000.tmp"]) := by
  have hname : IsName ".entry-000000.tmp" := by constructor <;> decide
  have hshort : ¬maxNameBytes < ".entry-000000.tmp".utf8ByteSize := by decide
  rw [newFilePath, FileTree.place_join hname, hroom.fault?_join hname (by decide) (by decide)]
  simp only [if_neg hshort]
  cases t.follow [] (parts s.root) with
  | error fault => rfl
  | ok p => rfl

/-- A missing directory and a file in its place are errors of the directory, and a directory in the
place of the entry is an error of the entry.  In all other trees the bytes are put. -/
theorem put_of_hasRoom (hroom : FileTree.HasRoom s.root) :
    s.put t k b =
      match t.follow [] (parts s.root) with
      | .error fault => .error (.store s.root fault)
      | .ok p =>
        match t.node? p with
        | none => .error (.store s.root .notFound)
        | some (.file _) => .error (.store s.root .notADirectory)
        | some .directory =>
          if t.node? (p ++ [entryName k]) = some .directory then
            .error (.store (s.entryPath k) .isADirectory)
          else .ok (t.set (p ++ [entryName k]) (.file b)) := by
  rw [put, place_newFilePath hroom]
  cases hleads : t.follow [] (parts s.root) with
  | error fault => rfl
  | ok p =>
      cases hnode : t.node? p with
      | none => simp only [hnode]
      | some node =>
          cases node with
          | file content => simp only [hnode]
          | directory =>
              have hentry := place_entryPath_of_fault?_eq_none hleads hnode
                (hroom.fault?_join (isName_entryName k) (no_nul_entryName k)
                  (Nat.le_of_eq (utf8ByteSize_entryName k)))
              simp only [hnode, FileTree.writeFile, hentry]
              cases hthere : t.node? (p ++ [entryName k]) with
              | none => rfl
              | some node =>
                  cases node with
                  | file content => rfl
                  | directory => rfl

theorem exists_put_iff (hroom : FileTree.HasRoom s.root) :
    (∃ u, s.put t k b = .ok u) ↔
      ∃ p, t.follow [] (parts s.root) = .ok p ∧ t.node? p = some .directory ∧
        t.node? (p ++ [entryName k]) ≠ some .directory := by
  rw [put_of_hasRoom hroom]
  cases t.follow [] (parts s.root) with
  | error fault => simp
  | ok p =>
      cases hnode : t.node? p with
      | none => simp [hnode]
      | some node =>
          cases node with
          | file content => simp [hnode]
          | directory =>
              by_cases hentry : t.node? (p ++ [entryName k]) = some .directory
              · simp [hnode, hentry]
              · simp [hnode, hentry]

/-- The bytes are put and nothing else changes, or the error names the directory or the entry. -/
theorem put_replaced_or_error (s : DirectoryStore) (t : FileTree) (k : Key) (b : List UInt8) :
    (∃ u, s.put t k b = .ok u ∧ s.Replaced t u k b) ∨
      ∃ fault, s.put t k b = .error (.store s.root fault) ∨
        s.put t k b = .error (.store (s.entryPath k) fault) := by
  rw [put]
  cases t.place s.newFilePath with
  | error fault => exact Or.inr ⟨fault, Or.inl rfl⟩
  | ok p =>
      cases hwrite : t.writeFile (s.entryPath k) b with
      | ok u => exact Or.inl ⟨u, rfl, replaced_of_writeFile hwrite⟩
      | error fault => exact Or.inr ⟨fault, Or.inr rfl⟩

/-- Whatever goes wrong, an entry is replaced as a whole and nothing else changes, or the tree is as
it was.  The error names the directory if no new file can be made, and the entry if the new file
cannot be moved.  If nothing goes wrong but what the tree is the reason for, this is what `put`
does, and it succeeds in a directory where no directory stands for the entry. -/
theorem replaced_whole_or_not_at_all (s : DirectoryStore) (t : FileTree) (k : Key)
    (b : List UInt8) :
    (∀ draws mishaps,
      ((∃ u, s.replace t draws mishaps k b = (.ok (), u) ∧ s.Replaced t u k b) ∨
          ∃ path fault, s.replace t draws mishaps k b = (.error (.store path fault), t)) ∧
        (∀ fault, s.createNew t draws mishaps.creating = .error fault →
          s.replace t draws mishaps k b = (.error (.store s.root fault), t)) ∧
        ∀ path u v fault, s.createNew t draws mishaps.creating = .ok (path, u) →
          u.fillFile path b mishaps.writing = (.ok (), v) → mishaps.syncing = none →
            s.moveNew v path k mishaps.moving = .error fault →
              s.replace t draws mishaps k b = (.error (.store (s.entryPath k) fault), t)) ∧
      ((∃ u, s.put t k b = .ok u ∧ s.Replaced t u k b) ∨
        ∃ fault, s.put t k b = .error (.store s.root fault) ∨
          s.put t k b = .error (.store (s.entryPath k) fault)) ∧
      (∀ draws, (∀ drawn ∈ draws, IsDraw drawn) → (∃ drawn ∈ draws, s.Untaken t drawn) →
        s.replace t draws .none k b =
          match s.put t k b with
          | .ok u => (.ok (), u)
          | .error e => (.error e, t)) ∧
      (FileTree.HasRoom s.root →
        ((∃ u, s.put t k b = .ok u) ↔
          ∃ p, t.follow [] (parts s.root) = .ok p ∧ t.node? p = some .directory ∧
            t.node? (p ++ [entryName k]) ≠ some .directory)) := by
  refine ⟨fun draws mishaps => ⟨?_, ?_, ?_⟩, put_replaced_or_error s t k b,
    fun draws => replace_eq_put, exists_put_iff⟩
  · rcases replaced_or_kept s t draws mishaps k b with hdone | ⟨path, fault, hkept, -⟩
    · exact Or.inl hdone
    · exact Or.inr ⟨path, fault, hkept⟩
  · exact fun fault => replace_of_createNew_error
  · exact fun path u v fault => replace_of_moveNew_error

/-- A directory with one entry and a file that has the name of a new one. -/
def crowded : FileTree :=
  [(["entries"], .directory), (["entries", ".entry-aaaaaa.tmp"], .file []),
    (["entries", entryName ⟨Vector.replicate 32 0⟩], .file [7])]

theorem follow_crowded : crowded.follow [] (parts "entries") = .ok ["entries"] := by
  rw [parts_name (by constructor <;> decide)]
  rfl

theorem untaken_crowded : Untaken ⟨"entries"⟩ crowded "bbbbbb" := by
  have hname : IsName (drawnName "bbbbbb") := IsDraw.isName_drawnName (by decide)
  intro p hplace
  obtain ⟨here, hhere, rfl⟩ := FileTree.place_join_eq_ok hname hplace
  rw [follow_crowded] at hhere
  obtain rfl := Except.ok.inj hhere
  decide +kernel

/-- The entry is replaced under the second name that is drawn.  If the new file cannot be moved, all
is as before. -/
theorem crowded_replaced :
    ((∀ drawn ∈ ["aaaaaa", "bbbbbb"], IsDraw drawn) ∧
        (∃ drawn ∈ ["aaaaaa", "bbbbbb"], Untaken ⟨"entries"⟩ crowded drawn) ∧
          FileTree.HasRoom "entries") ∧
      (∃ u, replace ⟨"entries"⟩ crowded ["aaaaaa", "bbbbbb"] .none ⟨Vector.replicate 32 0⟩ [1, 2] =
          (.ok (), u) ∧ Replaced ⟨"entries"⟩ crowded u ⟨Vector.replicate 32 0⟩ [1, 2]) ∧
        replace ⟨"entries"⟩ crowded ["aaaaaa", "bbbbbb"]
          ⟨none, none, none, some (.other "Read-only file system (os error 30)")⟩
          ⟨Vector.replicate 32 0⟩ [1, 2] =
            (.error (.store (entryPath ⟨"entries"⟩ ⟨Vector.replicate 32 0⟩)
              (.other "Read-only file system (os error 30)")), crowded) := by
  have hdraws : ∀ drawn ∈ ["aaaaaa", "bbbbbb"], IsDraw drawn := by decide
  have huntaken : ∃ drawn ∈ ["aaaaaa", "bbbbbb"], Untaken ⟨"entries"⟩ crowded drawn :=
    ⟨"bbbbbb", by decide, untaken_crowded⟩
  have hroom : FileTree.HasRoom "entries" := by decide
  obtain ⟨hends, -, hput, htakes⟩ :=
    replaced_whole_or_not_at_all ⟨"entries"⟩ crowded ⟨Vector.replicate 32 0⟩ [1, 2]
  obtain ⟨u, hu⟩ := (htakes hroom).mpr ⟨["entries"], follow_crowded, by decide, by decide +kernel⟩
  have hdone := hput _ hdraws huntaken
  rw [hu] at hdone
  refine ⟨⟨hdraws, huntaken, hroom⟩, ⟨u, hdone, ?_⟩, ?_⟩
  · rcases (hends ["aaaaaa", "bbbbbb"] .none).1 with ⟨v, hv, hreplaced⟩ | ⟨path, fault, hkept⟩
    · rw [hdone] at hv
      obtain rfl := congrArg Prod.snd hv
      exact hreplaced
    · rw [hdone] at hkept
      cases hkept
  · obtain ⟨path, v, hcreate⟩ := exists_createDrawn hdraws huntaken
      (put_eq_ok_iff.mp hu).1
    obtain ⟨w, hfill, -⟩ := (hasNew_of_createDrawn hcreate).2.fillFile_none [1, 2]
    exact (hends _ ⟨none, none, none, some (.other _)⟩).2.2 path v w _ hcreate hfill rfl rfl

end DirectoryStore

end QueryReplay
