import QueryReplay.Config.Target
import QueryReplay.Proofs.Text.Search

/-!
# Targets and their URLs

A target has one URL without blanks at its ends: what all targets of its kind
start with, and then its path or name as it is.  This file proves that these
URLs, between any blanks, are all that is read as a target, and that each is
read as the target that it is written for.

Blanks are dropped once, before the parts are told apart.  So a path or a name
may start with a blank, which is then kept, but it cannot be all blanks.
-/

namespace QueryReplay.StoreTarget

/-! ## The parts of a URL -/

/-- What the URL of a target of this kind starts with. -/
def front : StoreTarget → List Char
  | .directory _ => scheme ++ directoryMark
  | .memory _ => scheme ++ memoryMark

/-- The path or the name of a target. -/
def place : StoreTarget → List Char
  | .directory path => path.toList
  | .memory name => name.toList

/-- What the URLs of targets start with. -/
def fronts : List (List Char) :=
  ["jdbc:cache:file:".toList, "jdbc:cache:mem:".toList]

/-- A text that starts like the URL of a target and does not end there. -/
def NamesTarget (core : List Char) : Prop :=
  ∃ front ∈ fronts, front <+: core ∧ front.length < core.length

instance (core : List Char) : Decidable (NamesTarget core) :=
  inferInstanceAs (Decidable (∃ front ∈ fronts, _))

theorem toList_url (t : StoreTarget) : t.url.toList = t.front ++ t.place := by
  cases t with
  | directory path => exact String.toList_ofList
  | memory name => exact String.toList_ofList

theorem mem_fronts_iff {start : List Char} :
    start ∈ fronts ↔ ∃ t : StoreTarget, t.front = start := by
  constructor
  · intro h
    rcases List.mem_cons.mp h with rfl | h
    · exact ⟨.directory "", rfl⟩
    · obtain rfl := List.mem_singleton.mp h
      exact ⟨.memory "", rfl⟩
  · rintro ⟨t, rfl⟩
    cases t with
    | directory path => exact List.mem_cons_self
    | memory name => exact List.mem_cons_of_mem _ List.mem_cons_self

/-- Every place makes a target of a kind. -/
theorem exists_front_place (t : StoreTarget) (rest : List Char) :
    ∃ u : StoreTarget, u.front = t.front ∧ u.place = rest := by
  cases t with
  | directory path => exact ⟨.directory (String.ofList rest), rfl, String.toList_ofList⟩
  | memory name => exact ⟨.memory (String.ofList rest), rfl, String.toList_ofList⟩

theorem namesTarget_iff {core : List Char} :
    NamesTarget core ↔ ∃ t : StoreTarget, t.place ≠ [] ∧ core = t.url.toList := by
  constructor
  · rintro ⟨start, hstart, ⟨rest, rfl⟩, hlonger⟩
    obtain ⟨t, rfl⟩ := mem_fronts_iff.mp hstart
    obtain ⟨u, hfront, rfl⟩ := exists_front_place t rest
    refine ⟨u, ?_, ?_⟩
    · rintro hnothing
      rw [hnothing, List.append_nil] at hlonger
      exact lt_irrefl _ hlonger
    · rw [toList_url, hfront]
  · rintro ⟨t, hplace, rfl⟩
    rw [toList_url]
    refine ⟨t.front, mem_fronts_iff.mpr ⟨t, rfl⟩, List.prefix_append _ _, ?_⟩
    rw [List.length_append]
    exact Nat.lt_add_of_pos_right (List.length_pos_iff.mpr hplace)

/-! ## Reading a URL -/

/-- A path or a name is taken as it is, unless it is empty. -/
private theorem unless_empty_eq_ok_iff {rest : List Char} {e : Error} {t u : StoreTarget} :
    (if rest.isEmpty then .error e else .ok u) = (.ok t : Except Error StoreTarget) ↔
      rest ≠ [] ∧ u = t := by
  by_cases h : rest.isEmpty = true
  · rw [if_pos h]
    exact iff_of_false nofun fun hsome => hsome.1 (List.isEmpty_iff.mp h)
  · rw [if_neg h, Except.ok.injEq, and_iff_right (mt List.isEmpty_iff.mpr h)]

theorem stripped_of_ofUrl {url : String} {t : StoreTarget} (h : ofUrl url = .ok t) :
    t.place ≠ [] ∧ Text.stripped url.toList = t.url.toList := by
  unfold ofUrl at h
  split at h
  · cases h
  next rest hscheme =>
  rw [toList_url, Text.behind?_eq_some_iff.mp hscheme]
  split at h
  · next path hmark =>
    obtain ⟨hsome, rfl⟩ := unless_empty_eq_ok_iff.mp h
    rw [Text.behind?_eq_some_iff.mp hmark, place, front, String.toList_ofList, List.append_assoc]
    exact ⟨hsome, rfl⟩
  · split at h
    · next name hmark =>
      obtain ⟨hsome, rfl⟩ := unless_empty_eq_ok_iff.mp h
      rw [Text.behind?_eq_some_iff.mp hmark, place, front, String.toList_ofList, List.append_assoc]
      exact ⟨hsome, rfl⟩
    · cases h

theorem ofUrl_of_stripped {url : String} {t : StoreTarget} (hplace : t.place ≠ [])
    (h : Text.stripped url.toList = t.url.toList) : ofUrl url = .ok t := by
  rw [toList_url] at h
  cases t with
  | directory path =>
      have hscheme : Text.behind? scheme (Text.stripped url.toList)
          = some (directoryMark ++ path.toList) := by
        rw [h, front, List.append_assoc]
        exact Text.behind?_append _ _
      simp only [ofUrl, hscheme, Text.behind?_append]
      exact unless_empty_eq_ok_iff.mpr ⟨hplace, congrArg directory String.ofList_toList⟩
  | memory name =>
      have hscheme : Text.behind? scheme (Text.stripped url.toList)
          = some (memoryMark ++ name.toList) := by
        rw [h, front, List.append_assoc]
        exact Text.behind?_append _ _
      -- The two marks already differ in their first characters.
      have hother : Text.behind? directoryMark (memoryMark ++ name.toList) = none := rfl
      simp only [ofUrl, hscheme, hother, Text.behind?_append]
      exact unless_empty_eq_ok_iff.mpr ⟨hplace, congrArg memory String.ofList_toList⟩

/-- A URL is read as a target exactly if between its blanks stands the URL of the target, and the
path or name in it is not empty. -/
theorem ofUrl_eq_ok_iff {url : String} {t : StoreTarget} :
    ofUrl url = .ok t ↔ t.place ≠ [] ∧ Text.stripped url.toList = t.url.toList :=
  ⟨stripped_of_ofUrl, fun h => ofUrl_of_stripped h.1 h.2⟩

theorem exists_ofUrl_iff {url : String} :
    (∃ t, ofUrl url = .ok t) ↔ NamesTarget (Text.stripped url.toList) := by
  simp only [ofUrl_eq_ok_iff, namesTarget_iff]

/-- A URL is refused as a wrong setting. -/
theorem exists_config_of_ofUrl_eq_error {url : String} {e : Error} (h : ofUrl url = .error e) :
    ∃ fault, e = .config fault := by
  unfold ofUrl at h
  split at h
  · cases h
    exact ⟨_, rfl⟩
  · split at h
    · split at h <;> cases h
      exact ⟨_, rfl⟩
    · split at h
      · split at h <;> cases h
        exact ⟨_, rfl⟩
      · cases h
        exact ⟨_, rfl⟩

/-- What is written for a target that was read is the URL without the blanks around it. -/
theorem url_of_ofUrl {url : String} {t : StoreTarget} (h : ofUrl url = .ok t) :
    t.url = Text.strip url := by
  rw [Text.strip, (ofUrl_eq_ok_iff.mp h).2, String.ofList_toList]

theorem ofUrl_url_of_ofUrl {url : String} {t : StoreTarget} (h : ofUrl url = .ok t) :
    ofUrl t.url = .ok t := by
  obtain ⟨hplace, hstripped⟩ := ofUrl_eq_ok_iff.mp h
  refine ofUrl_eq_ok_iff.mpr ⟨hplace, ?_⟩
  rw [← hstripped]
  exact (Text.trimmed_stripped url.toList).stripped_eq

/-- Two URLs are read as the same target exactly if they differ only in the blanks around them. -/
theorem eq_iff_of_ofUrl {url other : String} {t u : StoreTarget} (ht : ofUrl url = .ok t)
    (hu : ofUrl other = .ok u) :
    t = u ↔ ∃ core, Text.BetweenBlanks core url.toList ∧ Text.BetweenBlanks core other.toList := by
  obtain ⟨hplace, hstripped⟩ := ofUrl_eq_ok_iff.mp ht
  rw [← Text.stripped_eq_stripped_iff]
  constructor
  · intro hsame
    rw [hstripped, hsame, (ofUrl_eq_ok_iff.mp hu).2]
  · intro hsame
    have hread : ofUrl other = .ok t := ofUrl_eq_ok_iff.mpr ⟨hplace, hsame ▸ hstripped⟩
    exact Except.ok.inj (hread.symm.trans hu)

/-- A URL is read as a target exactly if what stands between its blanks starts like the URL of a
directory or of a store in memory and does not end there; every other one is refused as a wrong
setting.  What is written for the target is what stands between the blanks, and is read as the same
target.  So URLs name the same target exactly if they differ only in the blanks around them. -/
theorem urls_read_and_written (url : String) :
    ((∃ t, ofUrl url = .ok t) ↔ NamesTarget (Text.stripped url.toList)) ∧
      (¬NamesTarget (Text.stripped url.toList) → ∃ fault, ofUrl url = .error (.config fault)) ∧
        (∀ t, ofUrl url = .ok t → t.url = Text.strip url ∧ ofUrl t.url = .ok t) ∧
          ∀ other t u, ofUrl url = .ok t → ofUrl other = .ok u →
            (t = u ↔ ∃ core, Text.BetweenBlanks core url.toList ∧
              Text.BetweenBlanks core other.toList) := by
  refine ⟨exists_ofUrl_iff, fun hnone => ?_, fun t ht => ⟨url_of_ofUrl ht, ofUrl_url_of_ofUrl ht⟩,
    fun other t u => eq_iff_of_ofUrl⟩
  cases hread : ofUrl url with
  | ok t => exact absurd (exists_ofUrl_iff.mp ⟨t, hread⟩) hnone
  | error e =>
      obtain ⟨fault, rfl⟩ := exists_config_of_ofUrl_eq_error hread
      exact ⟨fault, rfl⟩

/-- A URL between blanks, of a store in memory whose name starts with one. -/
def spacedUrl : String :=
  "\u3000jdbc:cache:mem: a\u00A0b\t\n"

/-- The blanks in the name are kept.  A name of blanks alone is none. -/
theorem spacedUrl_read_and_written :
    (ofUrl spacedUrl = .ok (.memory " a\u00A0b") ∧ NamesTarget (Text.stripped spacedUrl.toList) ∧
        (memory " a\u00A0b").url = Text.strip spacedUrl ∧
          ofUrl (memory " a\u00A0b").url = .ok (.memory " a\u00A0b")) ∧
      (¬NamesTarget (Text.stripped "jdbc:cache:mem: \t".toList) ∧
        ∃ fault, ofUrl "jdbc:cache:mem: \t" = .error (.config fault)) ∧
        (ofUrl "jdbc:cache:mem:a\u00A0b" = .ok (.memory "a\u00A0b") ∧
          ¬∃ core, Text.BetweenBlanks core spacedUrl.toList ∧
            Text.BetweenBlanks core "jdbc:cache:mem:a\u00A0b".toList) := by
  have hread : ofUrl spacedUrl = .ok (.memory " a\u00A0b") := by decide
  have hother : ofUrl "jdbc:cache:mem:a\u00A0b" = .ok (.memory "a\u00A0b") := by decide
  have hnone : ¬NamesTarget (Text.stripped "jdbc:cache:mem: \t".toList) := by decide
  obtain ⟨hnames, -, hwritten, hsame⟩ := urls_read_and_written spacedUrl
  refine ⟨⟨hread, hnames.mp ⟨_, hread⟩, hwritten _ hread⟩,
    ⟨hnone, (urls_read_and_written "jdbc:cache:mem: \t").2.1 hnone⟩, hother, fun hcore => ?_⟩
  exact absurd ((hsame _ _ _ hread hother).mpr hcore) (by decide)

end QueryReplay.StoreTarget
