import QueryReplay.Config.Document

/-!
# Tables in TOML

A text builds its tables bit by bit: headers open tables, and keys of several
names reach into them. What may still be added to a table depends on how it
came to be. A value is closed once it is written.
-/

namespace QueryReplay.Toml

/-- How a table came to be. -/
inductive Origin where
  /-- By a header of its own. -/
  | header
  /-- On the way to the last name of a header. -/
  | passage
  /-- On the way to the last name of a key. -/
  | key
deriving DecidableEq, Repr

/-- What stands under a name. -/
inductive Node where
  | value (content : Document)
  | table (origin : Origin) (fields : List (String × Node))
  /-- Tables under one name, each opened by a header. -/
  | tables (elements : List (List (String × Node)))

/-- What stands in a table, in order. -/
abbrev Fields := List (String × Node)

namespace Fields

/-- The fields with a node put under a name, in the place of the one that was there. -/
def put (fs : Fields) (name : String) (n : Node) : Fields :=
  if (fs.lookup name).isSome then fs.map fun f => if f.1 = name then (name, n) else f
  else fs ++ [(name, n)]

/-- The fields with those at the end of a header's path changed. The path leads through tables
and through the last of several tables; what is missing on it is made. -/
def change (f : Fields → Option Fields) : List String → Fields → Option Fields
  | [], fs => f fs
  | name :: path, fs =>
    match fs.lookup name with
    | none => (change f path []).map fun inner => fs.put name (.table .passage inner)
    | some (.table origin inner) =>
      (change f path inner).map fun inner => fs.put name (.table origin inner)
    | some (.tables elements) =>
      match elements.getLast? with
      | none => none
      | some last =>
        (change f path last).map fun inner => fs.put name (.tables (elements.dropLast ++ [inner]))
    | some (.value _) => none

/-- Opens a table of that name, unless it has been opened before. -/
def openTable (name : String) (fs : Fields) : Option Fields :=
  match fs.lookup name with
  | none => some (fs.put name (.table .header []))
  | some (.table .passage inner) => some (fs.put name (.table .header inner))
  | some _ => none

/-- Opens one more of the tables of that name. -/
def openElement (name : String) (fs : Fields) : Option Fields :=
  match fs.lookup name with
  | none => some (fs.put name (.tables [[]]))
  | some (.tables elements) => some (fs.put name (.tables (elements ++ [[]])))
  | some _ => none

/-- The fields with a value under a key that is not there yet. The names in front of the last
lead through tables without a header of their own, and the table that takes the value is one
that keys have made. -/
def assign (content : Document) : List String → Fields → Option Fields
  | [], _ => none
  | [name], fs => if (fs.lookup name).isSome then none else some (fs.put name (.value content))
  | name :: next :: path, fs =>
    match fs.lookup name with
    | none => (assign content (next :: path) []).map fun inner => fs.put name (.table .key inner)
    | some (.table origin inner) =>
      if origin = .header ∨ (origin = .passage ∧ path.isEmpty) then none
      else (assign content (next :: path) inner).map fun inner => fs.put name (.table origin inner)
    | some (.tables elements) =>
      match elements.getLast? with
      | none => none
      | some last =>
        if path.isEmpty then none
        else
          (assign content (next :: path) last).map fun inner =>
            fs.put name (.tables (elements.dropLast ++ [inner]))
    | some (.value _) => none

end Fields

mutual

/-- The content under a name. -/
def Node.content : Node → Document
  | .value d => d
  | .table _ fs => .table (fieldContents fs)
  | .tables elements => .list (elementContents elements)

/-- The fields of a table as content. -/
def fieldContents : List (String × Node) → List (Option String × Document)
  | [] => []
  | f :: fs => (some f.1, f.2.content) :: fieldContents fs

/-- Tables as content. -/
def elementContents : List (List (String × Node)) → List Document
  | [] => []
  | fs :: rest => .table (fieldContents fs) :: elementContents rest

end

end QueryReplay.Toml
