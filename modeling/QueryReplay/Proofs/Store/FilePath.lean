import QueryReplay.Store.FilePath

/-!
# Paths to names in a directory

A name behind the path of a directory is one more part of the path, whatever
the path of the directory looks like: empty, with slashes at its end or with
dots.  So all paths into one directory lead the same way up to their last part.
-/

namespace QueryReplay.FilePath

/-- A name that can stand for a file: not empty, without slashes, and not all dots. -/
structure IsName (name : String) : Prop where
  ne_empty : name ≠ ""
  no_slash : '/' ∉ name.toList
  ne_dot : name ≠ "."
  ne_dots : name ≠ ".."

theorem IsName.not_from_top {name : String} (h : IsName name) :
    ¬(name.toList.head? == some '/') = true := by
  rw [beq_iff_eq]
  exact fun heq => h.no_slash (List.mem_of_head? heq)

theorem toList_slash : "/".toList = ['/'] := by decide

theorem parts_append_slash (base name : String) :
    parts (base ++ "/" ++ name) = parts base ++ parts name := by
  unfold parts
  rw [String.toList_append, String.toList_append, toList_slash, List.append_assoc,
    List.singleton_append, List.splitOn_append_cons_of_beq _ _ (beq_self_eq_true _),
    List.map_append, List.filter_append]

theorem parts_name {name : String} (h : IsName name) : parts name = [name] := by
  unfold parts
  rw [List.splitOn_eq_singleton h.no_slash, List.map_singleton, String.ofList_toList]
  exact List.filter_cons_of_pos (by simpa using h.ne_empty)

theorem endsInSlash_iff {path : String} :
    endsInSlash path = true ↔ ∃ front, path = front ++ "/" := by
  unfold endsInSlash
  rw [beq_iff_eq, List.getLast?_eq_some_iff]
  constructor
  · rintro ⟨front, hfront⟩
    refine ⟨String.ofList front, String.toList_inj.mp ?_⟩
    rw [hfront, String.toList_append, String.toList_ofList, toList_slash]
  · rintro ⟨front, rfl⟩
    exact ⟨front.toList, by rw [String.toList_append, toList_slash]⟩

/-- Whatever stands between them, a name behind a directory is a text behind a text. -/
theorem exists_join_eq (base name : String) : ∃ front, join base name = front ++ name := by
  unfold join
  split
  · exact ⟨"", String.empty_append.symm⟩
  · split
    · exact ⟨base, rfl⟩
    · exact ⟨base ++ "/", rfl⟩

/-- A name that is not a path of its own stands behind the directory. -/
theorem exists_join_eq_append {name : String} (h : IsName name) (base : String) :
    ∃ between, (between = "" ∨ between = "/") ∧ join base name = base ++ (between ++ name) := by
  unfold join
  rw [if_neg h.not_from_top]
  split
  · exact ⟨"", Or.inl rfl, by rw [String.empty_append]⟩
  · exact ⟨"/", Or.inr rfl, String.append_assoc⟩

theorem parts_empty : parts "" = [] := by
  simp [parts]

/-- The parts of a path to a name in a directory. -/
theorem parts_join {name : String} (h : IsName name) (base : String) :
    parts (join base name) = parts base ++ [name] := by
  unfold join
  rw [if_neg h.not_from_top]
  by_cases hbase : (base.isEmpty || endsInSlash base) = true
  · rw [if_pos hbase]
    rcases Bool.or_eq_true_iff.mp hbase with hempty | hslash
    · rw [String.isEmpty_iff.mp hempty, String.empty_append, parts_name h, parts_empty]
      rfl
    · obtain ⟨front, rfl⟩ := endsInSlash_iff.mp hslash
      have hfront : parts (front ++ "/") = parts front := by
        have happend := parts_append_slash front ""
        rwa [String.append_empty, parts_empty, List.append_nil] at happend
      rw [parts_append_slash, parts_name h, hfront]
  · rw [if_neg hbase, parts_append_slash, parts_name h]

/-- A path to a name does not ask for a directory. -/
theorem steps_join {name : String} (h : IsName name) (base : String) :
    steps (join base name) = parts base ++ [name] := by
  have hend : ¬endsInSlash (join base name) = true := by
    obtain ⟨front, hfront⟩ := exists_join_eq base name
    have hname : name.toList ≠ [] := fun hnil => h.ne_empty (String.toList_eq_nil_iff.mp hnil)
    rw [hfront, endsInSlash, beq_iff_eq, String.toList_append, List.getLast?_append,
      List.getLast?_eq_some_getLast hname]
    intro hslash
    exact h.no_slash (Option.some.inj hslash ▸ List.getLast_mem hname)
  rw [steps, if_neg hend, parts_join h]

/-- The last point of a name stands in front of its extension, unless nothing stands before it. -/
theorem splitExtension_of_toList {name : String} {stem ext : List Char}
    (hname : name.toList = stem ++ '.' :: ext) (hstem : stem ≠ []) (hext : '.' ∉ ext) :
    splitExtension name = (stem, some ext) := by
  have hbehind : ((name.toList.reverse.takeWhile (· != '.')).reverse) = ext := by
    have hpoints : ∀ c ∈ ext.reverse, (c != '.') = true := by
      intro c hc
      rw [bne_iff_ne]
      rintro rfl
      exact hext (List.mem_reverse.mp hc)
    rw [hname, List.reverse_append, List.reverse_cons, List.append_assoc,
      List.takeWhile_append_of_pos hpoints]
    simp
  have hfront : name.toList.take (name.toList.length - ext.length - 1) = stem := by
    have hlength : name.toList.length - ext.length - 1 = stem.length := by
      rw [hname, List.length_append, List.length_cons]
      omega
    rw [hlength, hname, List.take_left]
  have hsplit : ¬(ext.length = name.toList.length ∨ stem.isEmpty = true) := by
    rw [hname, List.length_append, List.length_cons, List.isEmpty_iff]
    rintro (hlength | hnil)
    · omega
    · exact hstem hnil
  unfold splitExtension
  simp only [hbehind, hfront, if_neg hsplit]

end QueryReplay.FilePath
