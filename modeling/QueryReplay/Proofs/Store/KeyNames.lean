import Mathlib.Data.List.TakeWhile
import QueryReplay.Proofs.Key.Spelling
import QueryReplay.Proofs.Store.Listing

/-!
# Which keys a directory lists

A store in a directory finds its keys by reading the names of all that stands
there, whoever put it there.  A name stands for a key if it has the extension of
entries and its stem is read as the key.  The directory lists each key as often
as names stand for it, in ascending order.

So every entry is listed.  The keys of the entries are all that is listed, each
of them once, exactly if no name but the one made for a key stands for it.
Names with capital digits or plus signs do, so a directory in which someone has
put such a name lists a key that has no entry, or lists the key of an entry
twice.
-/

namespace QueryReplay

open FilePath

/-! ## Extensions -/

/-- A name has the extension that stands behind its last point. -/
theorem FilePath.splitExtension_eq_iff {name : String} {stem ext : List Char} :
    splitExtension name = (stem, some ext) ↔
      name.toList = stem ++ '.' :: ext ∧ stem ≠ [] ∧ '.' ∉ ext := by
  constructor
  · intro h
    have hcut : name.toList = (name.toList.reverse.dropWhile (· != '.')).reverse ++
        (name.toList.reverse.takeWhile (· != '.')).reverse := by
      rw [← List.reverse_append, List.takeWhile_append_dropWhile, List.reverse_reverse]
    have hno : '.' ∉ (name.toList.reverse.takeWhile (· != '.')).reverse := by
      intro hmem
      exact absurd (List.mem_takeWhile_imp (List.mem_reverse.mp hmem)) (by decide)
    simp only [splitExtension] at h
    generalize (name.toList.reverse.takeWhile (· != '.')).reverse = behind at h hcut hno
    split at h
    · cases h
    · next hsplit =>
      obtain ⟨hlength, hnonempty⟩ := not_or.mp hsplit
      obtain ⟨hfront, hbehind⟩ := Prod.mk.inj h
      obtain rfl := Option.some.inj hbehind
      cases hdrop : name.toList.reverse.dropWhile (· != '.') with
      | nil =>
          rw [hdrop] at hcut
          exact absurd (congrArg List.length hcut).symm hlength
      | cons c d =>
          -- What is in front of the extension ends with a point.
          have hhead := List.head?_dropWhile_not (· != '.') name.toList.reverse
          rw [hdrop] at hhead
          have hpoint : c = '.' := by simpa using hhead
          rw [hdrop, hpoint, List.reverse_cons, List.append_assoc, List.singleton_append] at hcut
          have hstem : stem = d.reverse := by
            rw [← hfront, hcut, List.length_append, List.length_cons]
            exact List.take_left' (by omega)
          refine ⟨hstem ▸ hcut, fun hnil => hnonempty ?_, hno⟩
          rw [hfront, hnil]
          rfl
  · rintro ⟨hname, hstem, hext⟩
    exact splitExtension_of_toList hname hstem hext

/-! ## Places -/

namespace FileTree

variable {t : FileTree} {p : Place}

/-- Each place is there once. -/
def Distinct (t : FileTree) : Prop :=
  (t.map Prod.fst).Nodup

instance (t : FileTree) : Decidable t.Distinct :=
  inferInstanceAs (Decidable (List.Nodup _))

/-- To put something at a place keeps every place there once. -/
theorem Distinct.set (h : t.Distinct) (p : Place) (n : FileNode) : (t.set p n).Distinct := by
  have hrest : ((t.filter (·.1 != p)).map Prod.fst).Nodup :=
    h.sublist (List.filter_sublist.map Prod.fst)
  refine List.nodup_cons.mpr ⟨fun hmem => ?_, hrest⟩
  obtain ⟨entry, hentry, hplace⟩ := List.mem_map.mp hmem
  exact bne_iff_ne.mp (List.mem_filter.mp hentry).2 hplace

theorem Distinct.erase (h : t.Distinct) (p : Place) : (t.erase p).Distinct :=
  h.sublist (List.filter_sublist.map Prod.fst)

theorem Distinct.nodup_namesIn (h : t.Distinct) (p : Place) : (t.namesIn p).Nodup := by
  have hnames : t.namesIn p = (t.map Prod.fst).filterMap (nameIn? p) := by
    rw [List.filterMap_map]
    rfl
  rw [hnames]
  refine h.filterMap fun q r name hq hr => ?_
  rw [nameIn?_eq_some_iff.mp hq, nameIn?_eq_some_iff.mp hr]

theorem mem_namesIn_iff {name : String} :
    name ∈ t.namesIn p ↔ t.node? (p ++ [name]) ≠ none := by
  constructor
  · intro hmem hnone
    obtain ⟨⟨q, node⟩, hq, hname⟩ := List.mem_filterMap.mp hmem
    obtain rfl := nameIn?_eq_some_iff.mp hname
    have hnonempty : ¬(p ++ [name]).isEmpty = true := by simp
    rw [node?, if_neg hnonempty, List.lookup_eq_none_iff] at hnone
    exact absurd (hnone _ hq) (by simp)
  · intro hsome
    obtain ⟨node, hnode⟩ := Option.ne_none_iff_exists'.mp hsome
    exact mem_namesIn_of_node? hnode

end FileTree

/-! ## Keys -/

namespace DirectoryStore

variable {s : DirectoryStore} {t : FileTree} {p : Place} {k : Key}

/-- The name has the extension of entries, and its stem is read as the key. -/
def StandsFor (name : String) (k : Key) : Prop :=
  ∃ stem, name = stem ++ "." ++ extension ∧ Hex.canonical stem.toList = k.hex.toList

theorem keyOfName?_eq_some_iff {name : String} : keyOfName? name = some k ↔ StandsFor name k := by
  constructor
  · intro h
    unfold keyOfName? at h
    split at h
    · next stem ext hsplit =>
      split at h
      · next hext =>
        obtain ⟨hname, -, -⟩ := splitExtension_eq_iff.mp hsplit
        refine ⟨String.ofList stem, String.toList_inj.mp ?_, Key.ofHex?_eq_some_iff.mp h⟩
        rw [hname, hext, String.toList_append, String.toList_append, String.toList_ofList,
          List.append_assoc]
        rfl
      · cases h
    · cases h
  · rintro ⟨stem, rfl, hstem⟩
    have hlength : stem.toList.length = 64 := by
      rw [← Hex.length_canonical, hstem, Key.length_hex]
    have hsplit : splitExtension (stem ++ "." ++ extension) =
        (stem.toList, some extension.toList) := by
      refine splitExtension_eq_iff.mpr ⟨?_, ?_, by decide⟩
      · rw [String.toList_append, String.toList_append, List.append_assoc]
        rfl
      · exact List.ne_nil_of_length_pos (by omega)
    simp only [keyOfName?, hsplit, if_true, String.ofList_toList, Key.ofHex?_eq_some_iff.mpr hstem]

instance (name : String) (k : Key) : Decidable (StandsFor name k) :=
  decidable_of_iff _ keyOfName?_eq_some_iff

theorem standsFor_entryName (k : Key) : StandsFor (entryName k) k :=
  keyOfName?_eq_some_iff.mp (keyOfName?_entryName k)

theorem mem_keysIn_iff : k ∈ keysIn t p ↔ ∃ name ∈ t.namesIn p, StandsFor name k := by
  simp only [keysIn, List.mem_filterMap, keyOfName?_eq_some_iff]

theorem count_keysIn (k : Key) :
    (keysIn t p).count k = (t.namesIn p).countP fun name => decide (StandsFor name k) := by
  rw [keysIn, List.count_filterMap]
  refine List.countP_congr fun name _ => ?_
  rw [beq_iff_eq, decide_eq_true_iff, keyOfName?_eq_some_iff]

/-! ## Listings -/

/-- Nothing comes twice out of a list without repetition if nothing comes out for two of it. -/
theorem nodup_filterMap_iff {α β : Type} {f : α → Option β} {xs : List α} (hxs : xs.Nodup) :
    (xs.filterMap f).Nodup ↔ ∀ x ∈ xs, ∀ y ∈ xs, ∀ b, f x = some b → f y = some b → x = y := by
  rw [List.Nodup, List.pairwise_filterMap]
  constructor
  · intro h x hx y hy b hb hb'
    by_contra hne
    have hsymm : Std.Symm fun x y => ∀ b, f x = some b → ∀ b', f y = some b' → b ≠ b' :=
      ⟨fun x y hxy b hb b' hb' => (hxy b' hb' b hb).symm⟩
    exact h.forall hx hy hne b hb b hb' rfl
  · intro h
    refine hxs.imp_of_mem fun hx hy hne b hb b' hb' hsame => ?_
    exact hne (h _ hx _ hy b hb (hsame ▸ hb'))

theorem pairwise_lt_sorted_iff {ks : List Key} :
    (Key.sorted ks).Pairwise (· < ·) ↔ ks.Nodup := by
  rw [← (Key.sorted_perm ks).nodup_iff]
  constructor
  · exact fun h => h.imp fun hlt => hlt.ne
  · exact fun h => ((Key.pairwise_sorted ks).and h).imp fun hle => lt_of_le_of_ne hle.1 hle.2

/-- Each key is listed once and has an entry exactly if only the names made for keys stand for
them. -/
theorem lists_entries_iff (hdistinct : t.Distinct) :
    ((Key.sorted (keysIn t p)).Pairwise (· < ·) ∧
        ∀ k, k ∈ Key.sorted (keysIn t p) ↔ t.node? (p ++ [entryName k]) ≠ none) ↔
      ∀ name k, t.node? (p ++ [name]) ≠ none → StandsFor name k → name = entryName k := by
  simp only [pairwise_lt_sorted_iff, (Key.sorted_perm _).mem_iff, ← FileTree.mem_namesIn_iff]
  rw [keysIn, nodup_filterMap_iff (hdistinct.nodup_namesIn p), ← keysIn]
  simp only [keyOfName?_eq_some_iff]
  constructor
  · rintro ⟨honce, hentry⟩ name k hname hstands
    have hmade := (hentry k).mp (mem_keysIn_iff.mpr ⟨name, hname, hstands⟩)
    exact honce name hname _ hmade k hstands (standsFor_entryName k)
  · intro hmade
    constructor
    · intro name hname other hother k hstands hstands'
      rw [hmade name k hname hstands, hmade other k hother hstands']
    · intro k
      constructor
      · intro hk
        obtain ⟨name, hname, hstands⟩ := mem_keysIn_iff.mp hk
        exact hmade name k hname hstands ▸ hname
      · exact fun hname => mem_keysIn_iff.mpr ⟨_, hname, standsFor_entryName k⟩

/-- A store lists the keys in ascending order, each as often as names in its directory stand for
it.  Every entry is listed, and whatever can be got.  What is listed are the keys of the entries,
each of them once, exactly if no other name than the one made for a key stands for the key. -/
theorem keys_listed (hleads : t.follow [] (parts s.root) = .ok p)
    (hnode : t.node? p = some .directory) (hfault : fault? s.root = none)
    (hdistinct : t.Distinct) :
    ∃ ks, s.keys t = .ok ks ∧ ks.Pairwise (· ≤ ·) ∧
      (∀ k, ks.count k = (t.namesIn p).countP fun name => decide (StandsFor name k)) ∧
        (∀ k, t.node? (p ++ [entryName k]) ≠ none → k ∈ ks) ∧
          (∀ k b, s.get t k = .ok (some b) → k ∈ ks) ∧
            ((ks.Pairwise (· < ·) ∧ ∀ k, k ∈ ks ↔ t.node? (p ++ [entryName k]) ≠ none) ↔
              ∀ name k, t.node? (p ++ [name]) ≠ none → StandsFor name k →
                name = entryName k) := by
  have hentry (k : Key) (hk : t.node? (p ++ [entryName k]) ≠ none) :
      k ∈ Key.sorted (keysIn t p) := by
    rw [(Key.sorted_perm _).mem_iff, mem_keysIn_iff]
    exact ⟨_, FileTree.mem_namesIn_iff.mpr hk, standsFor_entryName k⟩
  refine ⟨_, keys_of_leads hleads hnode hfault, Key.pairwise_sorted _, fun k => ?_, hentry,
    fun k b hget => hentry k fun hnone => ?_, lists_entries_iff hdistinct⟩
  · rw [(Key.sorted_perm _).count_eq, count_keysIn]
  · have hcontent := contentAt_of_get hleads hnode hget
    rw [FileTree.contentAt, hnone] at hcontent
    cases hcontent

/-- The key whose bytes all have capital digits. -/
def lettersKey : Key := ⟨Vector.replicate 32 0xAA⟩

/-- The key that pairs of a plus sign and a digit are read as. -/
def plusKey : Key := ⟨Vector.replicate 32 0x0F⟩

/-- A directory with one entry, a file that has the name of the entry in capitals, and a file with
plus signs in its name. -/
def strangers : FileTree :=
  [(["entries"], .directory),
    (["entries", "aaaaaaaaaaaaaaaaaaaaaaaaaaaaaaaaaaaaaaaaaaaaaaaaaaaaaaaaaaaaaaaa.cache"],
      .file [7]),
    (["entries", "AAAAAAAAAAAAAAAAAAAAAAAAAAAAAAAAAAAAAAAAAAAAAAAAAAAAAAAAAAAAAAAA.cache"],
      .file []),
    (["entries", Key.plusPairs ++ ".cache"], .file [])]

theorem follow_strangers : strangers.follow [] (parts "entries") = .ok ["entries"] := by
  decide +kernel

theorem keysIn_strangers :
    keysIn strangers ["entries"] = [lettersKey, lettersKey, plusKey] := by
  decide +kernel

/-- The entry is listed twice. -/
theorem strangers_listed :
    (strangers.node? ["entries"] = some .directory ∧ fault? "entries" = none ∧
        strangers.Distinct) ∧
      ∃ ks, keys ⟨"entries"⟩ strangers = .ok ks ∧ lettersKey ∈ ks ∧ ks.count lettersKey = 2 := by
  have hnode : strangers.node? ["entries"] = some .directory := by decide
  have hfault : fault? "entries" = none := FileTree.HasRoom.fault?_eq_none (by decide)
  have hdistinct : strangers.Distinct := by decide +kernel
  obtain ⟨ks, hkeys, _, hcount, hentry, _⟩ :=
    keys_listed (s := ⟨"entries"⟩) follow_strangers hnode hfault hdistinct
  refine ⟨⟨hnode, hfault, hdistinct⟩, ks, hkeys, hentry lettersKey (by decide +kernel), ?_⟩
  rw [hcount, ← count_keysIn, keysIn_strangers]
  decide

/-- Not all that is listed is an entry, and not all is listed once. -/
theorem strangers_not_entries :
    keys ⟨"entries"⟩ strangers = .ok [plusKey, lettersKey, lettersKey] ∧
      get ⟨"entries"⟩ strangers plusKey = .ok none ∧
        ¬∀ (s : DirectoryStore) (t : FileTree) (p : Place),
          t.follow [] (parts s.root) = .ok p → t.node? p = some .directory →
            fault? s.root = none → t.Distinct →
              ∃ ks, s.keys t = .ok ks ∧ ks.Pairwise (· < ·) ∧
                ∀ k, k ∈ ks ↔ t.node? (p ++ [entryName k]) ≠ none := by
  have hnode : strangers.node? ["entries"] = some .directory := by decide
  have hroom : FileTree.HasRoom "entries" := by decide
  have hkeys : keys ⟨"entries"⟩ strangers = .ok [plusKey, lettersKey, lettersKey] := by
    have hperm : (Key.sorted [lettersKey, lettersKey, plusKey]).Perm
        [plusKey, lettersKey, lettersKey] :=
      (Key.sorted_perm _).trans (by decide)
    have hsorted : Key.sorted [lettersKey, lettersKey, plusKey] =
        [plusKey, lettersKey, lettersKey] :=
      hperm.eq_of_pairwise' (Key.pairwise_sorted _) (by decide)
    rw [keys_of_leads follow_strangers hnode hroom.fault?_eq_none, keysIn_strangers,
      hsorted]
  have hnone : get ⟨"entries"⟩ strangers plusKey = .ok none := by
    have hplace := place_entryPath_of_fault?_eq_none (s := ⟨"entries"⟩) follow_strangers hnode
      (hroom.fault?_join (isName_entryName plusKey) (no_nul_entryName plusKey)
        (utf8ByteSize_entryName plusKey).le)
    have hfree : strangers.node? (["entries"] ++ [entryName plusKey]) = none := by decide +kernel
    rw [get, FileTree.readFile, hplace]
    simp only [hfree]
  refine ⟨hkeys, hnone, fun hall => ?_⟩
  obtain ⟨ks, hks, hascending, -⟩ := hall ⟨"entries"⟩ strangers _ follow_strangers hnode
    hroom.fault?_eq_none (by decide +kernel)
  rw [hkeys] at hks
  obtain rfl := Except.ok.inj hks
  exact absurd hascending (by decide)

end DirectoryStore

end QueryReplay
