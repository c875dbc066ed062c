import QueryReplay.Config.Target
import QueryReplay.Log.Level

/-!
# Settings

The settings of a connection: where results are kept, which database is
asked, whether results are replayed at all, what happens when keeping them
fails, and how events are logged. They come from a URL and properties, or from
a file.
-/

namespace QueryReplay

/-- What a connection does when its store fails or holds a broken entry. -/
inductive StorePolicy where
  /-- The query fails. -/
  | fail
  /-- The query goes on without the store. -/
  | degrade
deriving DecidableEq, Repr

namespace StorePolicy

def name : StorePolicy → String
  | .fail => "fail"
  | .degrade => "degrade"

def ofName? (s : String) : Option StorePolicy :=
  [fail, degrade].find? (·.name == s)

/-- The policy of that name between blanks and in any case. -/
def ofText (s : String) : Except Error StorePolicy :=
  let word := String.ofList (Text.lower (Text.stripped s.toList))
  match ofName? word with
  | some p => .ok p
  | none => .error (.config (.unknownPolicy word))

end StorePolicy

namespace Log

/-- The form of log lines. -/
inductive Format where
  | text | json
deriving DecidableEq, Repr

def Format.name : Format → String
  | .text => "text"
  | .json => "json"

def Format.ofName? (s : String) : Option Format :=
  [text, json].find? (·.name == s)

/-- Where log lines go. -/
inductive Output where
  | console | file | both
deriving DecidableEq, Repr

def Output.name : Output → String
  | .console => "console"
  | .file => "file"
  | .both => "both"

def Output.ofName? (s : String) : Option Output :=
  [console, file, both].find? (·.name == s)

/-- The settings of the log. -/
structure Settings where
  level : Level := .info
  format : Format := .text
  output : Output := .console
  /-- The directory of log files. -/
  directory : Option String := none
deriving DecidableEq, Repr

end Log

/-- The settings of a connection. -/
structure Settings where
  /-- The URL of the place where results are kept. -/
  url : String
  /-- The URL of the database. -/
  backendUrl : String
  driver : String := "sqlite"
  /-- Whether results are kept and replayed. -/
  active : Bool := true
  onStoreError : StorePolicy := .fail
  log : Log.Settings := {}
deriving DecidableEq, Repr

namespace Settings

/-- The place where results are kept. -/
def target (s : Settings) : Except Error StoreTarget :=
  StoreTarget.ofUrl s.url

/-- The settings, if their URL names a target and the URL of the database is not blank. -/
def validated (s : Settings) : Except Error Settings :=
  match s.target with
  | .error e => .error e
  | .ok _ =>
    if (Text.stripped s.backendUrl.toList).isEmpty then .error (.config .missingBackendUrl)
    else .ok s

/-- The property that holds the URL of the database. -/
def urlProperty : String := "cache.driver.url"

def driverProperty : String := "cache.driver.class"

/-- The property that switches replaying on or off. -/
def activeProperty : String := "cache.driver.active"

def policyProperty : String := "cache.driver.on_store_error"

/-- A switch: a word or a digit between blanks and in any case. -/
def switchOfText (property text : String) : Except Error Bool :=
  let word := String.ofList (Text.lower (Text.stripped text.toList))
  if word = "true" ∨ word = "1" ∨ word = "yes" then .ok true
  else if word = "false" ∨ word = "0" ∨ word = "no" then .ok false
  else .error (.config (.badSwitch property word))

def ofProperties (url : String) (properties : List (String × String)) : Except Error Settings := do
  let backendUrl := Text.strip ((properties.lookup urlProperty).getD "")
  if backendUrl.isEmpty then throw (.config (.missingProperty urlProperty))
  let base : Settings := { url, backendUrl }
  let driver := ((properties.lookup driverProperty).map Text.strip).getD base.driver
  let active ← match properties.lookup activeProperty with
    | some text => switchOfText activeProperty text
    | none => pure base.active
  let onStoreError ← match properties.lookup policyProperty with
    | some text => StorePolicy.ofText text
    | none => pure base.onStoreError
  validated { base with driver, active, onStoreError }

end Settings

end QueryReplay
