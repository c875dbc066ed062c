import QueryReplay.Config.Json
import QueryReplay.Config.Toml
import QueryReplay.Store.FileTree
import QueryReplay.Text.Utf8

/-!
# Settings files

A settings file is read as the extension of its name says, after its content
is known to be text.
-/

namespace QueryReplay

/-- A format of settings files. -/
inductive SettingsFormat where
  | toml | json
deriving DecidableEq, Repr

namespace SettingsFormat

/-- The format of a file name, by exactly its extension. -/
def ofFileName? (name : String) : Option SettingsFormat :=
  match FilePath.splitExtension name with
  | (_, some extension) =>
    if extension = "toml".toList then some toml
    else if extension = "json".toList then some json
    else none
  | (_, none) => none

def settings? : SettingsFormat → List Char → Option Settings
  | toml, cs => Toml.settings? cs
  | json, cs => Json.settings? cs

end SettingsFormat

namespace FileTree

def readText (t : FileTree) (path : String) : Except IoFault String :=
  match t.readFile path with
  | .error fault => .error fault
  | .ok content =>
    match Utf8.decode? content with
    | some s => .ok s
    | none => .error .invalidText

end FileTree

def Settings.load (t : FileTree) (path : String) : Except Error Settings :=
  match t.readText path with
  | .error fault => .error (.store path fault)
  | .ok content =>
    match SettingsFormat.ofFileName? (FilePath.fileName path) with
    | none => .error (.config (.unknownFormat path))
    | some format =>
      match format.settings? content.toList with
      | some settings => settings.validated
      | none => .error (.config .unreadable)

end QueryReplay
