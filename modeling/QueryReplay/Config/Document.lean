import QueryReplay.Config.Settings

/-!
# Settings in documents

A settings file is a document of texts, switches, lists and tables. A group
of settings is a table of named fields, or a list of them in order. Fields
that are not known are passed over, if that can be; one that is missing has a
default, or else the document is refused. Items behind the last field of a
list are not looked at.
-/

namespace QueryReplay

/-- The content of a settings file. -/
inductive Document where
  | null
  | bool (b : Bool)
  | text (s : String)
  /-- Anything that no setting can be read from, such as a number. -/
  | scalar
  /-- A number without a value. It cannot even be passed over. -/
  | unreadable
  | list (items : List Document)
  /-- Fields in order; a key that is not Unicode text has no name. -/
  | table (fields : List (Option String × Document))

namespace Document

/-- What differs between the formats of settings files. -/
structure Dialect where
  /-- Whether a list may hold more items than there are fields. -/
  allowsSurplus : Bool
  /-- What stands for nothing behind a choice that is written as the key of a table. -/
  isNothing : Document → Bool

mutual

/-- Whether a document can be passed over. -/
def isReadable : Document → Bool
  | .unreadable => false
  | .list items => areReadable items
  | .table fields => haveReadable fields
  | _ => true

/-- Whether all items of a list can be passed over. -/
def areReadable : List Document → Bool
  | [] => true
  | item :: items => isReadable item && areReadable items

/-- Whether all fields of a table can be passed over. -/
def haveReadable : List (Option String × Document) → Bool
  | [] => true
  | (_, content) :: fields => isReadable content && haveReadable fields

end

/-- Whether the fields of a table that have a name among these have it alone, and all others can
be passed over. -/
def areRegular (names : List String) (fields : List (Option String × Document)) : Bool :=
  fields.all (fun (name, content) =>
      name.any fun name => names.contains name || content.isReadable)
    && names.all fun name => decide ((fields.filter (·.1 == some name)).length ≤ 1)

/-- The fields of a group of settings by name. -/
def fields? (d : Dialect) (names : List String) : Document → Option (List (String × Document))
  | .table fields =>
    if areRegular names fields then
      some (names.filterMap fun name => (fields.lookup (some name)).map fun v => (name, v))
    else none
  | .list items =>
    if names.length < items.length && !d.allowsSurplus then none else some (names.zip items)
  | _ => none

def text? : Document → Option String
  | .text s => some s
  | _ => none

def bool? : Document → Option Bool
  | .bool b => some b
  | _ => none

def optionalText? : Document → Option (Option String)
  | .null => some none
  | .text s => some (some s)
  | _ => none

/-- A choice: its name, or a table with its name as the only key and nothing behind it. -/
def choice? {α : Type} (d : Dialect) (ofName? : String → Option α) : Document → Option α
  | .text s => ofName? s
  | .table [(some name, nothing)] => if d.isNothing nothing then ofName? name else none
  | _ => none

/-- The field of a name read by `read?`, or a default if there is none. -/
def fieldOr {α : Type} (fields : List (String × Document)) (name : String)
    (read? : Document → Option α) (default : α) : Option α :=
  match fields.lookup name with
  | some v => read? v
  | none => some default

def logSettings? (d : Dialect) (doc : Document) : Option Log.Settings := do
  let fields ← doc.fields? d ["level", "format", "output", "file_path"]
  return {
    level := ← fieldOr fields "level" (choice? d Log.Level.ofName?) .info
    format := ← fieldOr fields "format" (choice? d Log.Format.ofName?) .text
    output := ← fieldOr fields "output" (choice? d Log.Output.ofName?) .console
    directory := ← fieldOr fields "file_path" optionalText? none }

def settings? (d : Dialect) (doc : Document) : Option Settings := do
  let fields ← doc.fields? d ["url", "backend_url", "driver", "active", "on_store_error", "log"]
  return {
    url := ← (fields.lookup "url").bind text?
    backendUrl := ← (fields.lookup "backend_url").bind text?
    driver := ← fieldOr fields "driver" text? "sqlite"
    active := ← fieldOr fields "active" bool? true
    onStoreError := ← fieldOr fields "on_store_error" (choice? d StorePolicy.ofName?) .fail
    log := ← fieldOr fields "log" (logSettings? d) {} }

end Document

end QueryReplay
