import QueryReplay.Config.Load
import QueryReplay.Proofs.Config.Json
import QueryReplay.Proofs.Store.FileTree
import QueryReplay.Proofs.Text.Utf8

/-!
# Settings survive being written as JSON

Settings are written as a table of fields, the directory of the log only if
there is one.  Read again, each field is found under its name and each choice
under the name it is written with, and the missing directory is the default.
What is left to check is what all settings are checked for, and that holds of
everything that was ever read from a file or from properties.
-/

namespace QueryReplay

/-! ## Choices by name -/

theorem Log.Level.ofName?_name (level : Level) : ofName? level.name = some level := by
  cases level <;> rfl

theorem Log.Format.ofName?_name (format : Format) : ofName? format.name = some format := by
  cases format <;> rfl

theorem Log.Output.ofName?_name (output : Output) : ofName? output.name = some output := by
  cases output <;> rfl

theorem StorePolicy.ofName?_name (policy : StorePolicy) :
    ofName? policy.name = some policy := by
  cases policy <;> rfl

/-! ## Settings in tables of fields -/

namespace Json

/-- The fields that are written for the settings of a log. -/
def logFields (s : Log.Settings) : List (String × Document) :=
  [("level", .text s.level.name), ("format", .text s.format.name),
    ("output", .text s.output.name)]
  ++ match s.directory with
    | some path => [("file_path", .text path)]
    | none => []

/-- The fields that are written for the settings of a connection. -/
def settingsFields (s : Settings) : List (String × Document) :=
  [("url", .text s.url), ("backend_url", .text s.backendUrl), ("driver", .text s.driver),
    ("active", .bool s.active), ("on_store_error", .text s.onStoreError.name),
    ("log", tableOf (logFields s.log))]

theorem readsField_text (name content : String) :
    ReadsField (name, .text content) (field name (quote content)) :=
  ⟨quote content, rfl, reads_quote content⟩

theorem reads_ofLogSettings (s : Log.Settings) :
    Reads (tableOf (logFields s)) (ofLogSettings s) := by
  apply reads_braces
  refine .cons (readsField_text _ _) <| .cons (readsField_text _ _) <|
    .cons (readsField_text _ _) ?_
  cases s.directory with
  | none => exact .nil
  | some path => exact .cons (readsField_text _ _) .nil

theorem reads_ofSettings (s : Settings) : Reads (tableOf (settingsFields s)) (ofSettings s) := by
  apply reads_braces
  exact .cons (readsField_text _ _) <| .cons (readsField_text _ _) <|
    .cons (readsField_text _ _) <| .cons ⟨_, rfl, reads_ofBool _⟩ <|
    .cons (readsField_text _ _) <| .cons ⟨_, rfl, reads_ofLogSettings _⟩ .nil

theorem logSettings?_logFields (s : Log.Settings) :
    Document.logSettings? dialect (tableOf (logFields s)) = some s := by
  have hfields : (tableOf (logFields s)).fields? dialect
      ["level", "format", "output", "file_path"] = some (logFields s) := by
    obtain ⟨level, format, output, directory⟩ := s
    cases directory with
    | none => rfl
    | some path => rfl
  rw [Document.logSettings?, hfields]
  obtain ⟨level, format, output, directory⟩ := s
  cases directory with
  | none =>
      simp [logFields, Document.fieldOr, List.lookup_cons, Document.choice?,
        Log.Level.ofName?_name, Log.Format.ofName?_name, Log.Output.ofName?_name]
  | some path =>
      simp [logFields, Document.fieldOr, List.lookup_cons, Document.choice?,
        Log.Level.ofName?_name, Log.Format.ofName?_name, Log.Output.ofName?_name,
        Document.optionalText?]

theorem settings?_settingsFields (s : Settings) :
    Document.settings? dialect (tableOf (settingsFields s)) = some s := by
  have hfields : (tableOf (settingsFields s)).fields? dialect
      ["url", "backend_url", "driver", "active", "on_store_error", "log"]
        = some (settingsFields s) := rfl
  rw [Document.settings?, hfields]
  simp [settingsFields, Document.fieldOr, List.lookup_cons, Document.text?, Document.bool?,
    Document.choice?, StorePolicy.ofName?_name, logSettings?_logFields]

/-- All settings are read back from what is written for them. -/
theorem settings?_ofSettings (s : Settings) : settings? (ofSettings s) = some s := by
  rw [settings?, (reads_ofSettings s).document?_eq]
  exact settings?_settingsFields s

end Json

/-! ## Checked settings -/

namespace Settings

/-- What all settings are checked for: the URL names a target, and the URL of the database is not
blank. -/
structure Valid (s : Settings) : Prop where
  names_target : ∃ target, StoreTarget.ofUrl s.url = .ok target
  not_blank : ∃ c ∈ s.backendUrl.toList, Text.isBlank c = false

theorem validated_eq_ok_iff {s r : Settings} : s.validated = .ok r ↔ s.Valid ∧ r = s := by
  have hblank : (Text.stripped s.backendUrl.toList).isEmpty = true ↔
      ¬∃ c ∈ s.backendUrl.toList, Text.isBlank c = false := by
    rw [List.isEmpty_iff, Text.stripped_eq_nil_iff]
    simp
  rw [validated, target]
  cases htarget : StoreTarget.ofUrl s.url with
  | error e =>
      refine iff_of_false nofun ?_
      rintro ⟨⟨⟨target, hok⟩, -⟩, -⟩
      rw [htarget] at hok
      cases hok
  | ok target =>
      by_cases hempty : (Text.stripped s.backendUrl.toList).isEmpty = true
      · simp only [if_pos hempty]
        exact iff_of_false nofun fun h => hblank.mp hempty h.1.not_blank
      · simp only [if_neg hempty, Except.ok.injEq]
        have hvalid : s.Valid := ⟨⟨target, htarget⟩, not_not.mp (mt hblank.mpr hempty)⟩
        rw [and_iff_right hvalid]
        exact eq_comm

/-- Whatever settings come out, they are valid. -/
def GivesValid (x : Except Error Settings) : Prop :=
  ∀ s, x = .ok s → s.Valid

theorem givesValid_error (e : Error) : GivesValid (.error e) := by
  intro s hs
  cases hs

theorem givesValid_validated (s : Settings) : GivesValid s.validated := by
  intro r h
  obtain ⟨hvalid, rfl⟩ := validated_eq_ok_iff.mp h
  exact hvalid

theorem GivesValid.bind {α : Type} {f : α → Except Error Settings} (h : ∀ a, GivesValid (f a))
    (x : Except Error α) : GivesValid (x >>= f) := by
  intro s hs
  cases x with
  | error e => cases hs
  | ok a => exact h a s hs

theorem givesValid_load (t : FileTree) (path : String) : GivesValid (load t path) := by
  unfold load
  split
  · exact givesValid_error _
  · split
    · exact givesValid_error _
    · split
      · exact givesValid_validated _
      · exact givesValid_error _

theorem givesValid_ofProperties (url : String) (properties : List (String × String)) :
    GivesValid (ofProperties url properties) := by
  unfold ofProperties
  dsimp only
  split
  · exact givesValid_error _
  · -- A property is read or has a default, and the settings are checked behind all of them.
    split
    all_goals
      refine GivesValid.bind (fun active => ?_) _
      split
      all_goals exact GivesValid.bind (fun policy => givesValid_validated _) _

/-! ## Settings files -/

/-- What is written for valid settings is loaded as these settings, from a file of that kind. -/
theorem load_of_writeFile {s : Settings} {t u : FileTree} {path : String} (hvalid : s.Valid)
    (hextension : (FilePath.splitExtension (FilePath.fileName path)).2 = some "json".toList)
    (hwrite : t.writeFile path (Utf8.encode (String.ofList (Json.ofSettings s))) = .ok u) :
    load u path = .ok s := by
  have htext : u.readText path = .ok (String.ofList (Json.ofSettings s)) := by
    rw [FileTree.readText, FileTree.readFile_of_writeFile hwrite]
    simp only [Utf8.decode?_encode]
  have hformat : SettingsFormat.ofFileName? (FilePath.fileName path) = some .json := by
    unfold SettingsFormat.ofFileName?
    split
    · next extension hsplit =>
      rw [hsplit] at hextension
      rw [Option.some.inj hextension]
      rfl
    · next hsplit =>
      rw [hsplit] at hextension
      cases hextension
  have hsettings : SettingsFormat.json.settings? (String.ofList (Json.ofSettings s)).toList
      = some s := by
    rw [String.toList_ofList]
    exact Json.settings?_ofSettings s
  simp only [load, htext, hformat, hsettings]
  exact validated_eq_ok_iff.mpr ⟨hvalid, rfl⟩

/-- Valid settings that are written as JSON to a file of that kind are loaded from it as they were,
whatever characters are in their texts.  Settings that were loaded from any file are valid, and so
are settings from properties. -/
theorem survive_json (s : Settings) (t : FileTree) (path : String) :
    (s.Valid →
      (FilePath.splitExtension (FilePath.fileName path)).2 = some "json".toList →
      ∀ u, t.writeFile path (Utf8.encode (String.ofList (Json.ofSettings s))) = .ok u →
        load u path = .ok s) ∧
    (load t path = .ok s → s.Valid) ∧
    ∀ url properties, ofProperties url properties = .ok s → s.Valid :=
  ⟨fun hvalid hextension _ hwrite => load_of_writeFile hvalid hextension hwrite,
    givesValid_load t path s, fun url properties => givesValid_ofProperties url properties s⟩

/-- Settings with quotes, backslashes and control characters in their texts. -/
def hostile : Settings where
  url := " jdbc:cache:mem:\"\\\u0000\n"
  backendUrl := "\t\u001F\u007F😀"
  driver := "\u2028\",\"active\":true"
  active := false
  onStoreError := .degrade
  log := { level := .trace, format := .json, output := .both, directory := some "\u0008\u000C" }

theorem hostile_survives_json :
    load [(["s.json"], .file (Utf8.encode (String.ofList (Json.ofSettings hostile))))] "s.json"
        = .ok hostile ∧
      hostile.Valid ∧
        ∃ s, ofProperties hostile.url [(urlProperty, hostile.backendUrl)] = .ok s ∧ s.Valid := by
  have hvalid : hostile.Valid := ⟨⟨_, rfl⟩, '😀', by decide, by decide⟩
  have hplace : FileTree.place [] "s.json" = .ok ["s.json"] := by
    have hfault : FilePath.fault? "s.json" = none :=
      FileTree.fault?_eq_none_iff.mpr ⟨by decide, by decide⟩
    rw [FileTree.place, hfault]
    rfl
  have hload := (survive_json hostile [] "s.json").1 hvalid (by decide) _
    (FileTree.writeFile_eq_ok_iff.mpr ⟨["s.json"], hplace, by decide, rfl⟩)
  exact ⟨hload, (survive_json hostile _ "s.json").2.1 hload, _, rfl,
    (survive_json _ [] "s.json").2.2 hostile.url [(urlProperty, hostile.backendUrl)] rfl⟩

end Settings

end QueryReplay
