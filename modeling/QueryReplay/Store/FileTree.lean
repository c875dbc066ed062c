import QueryReplay.Error
import QueryReplay.Store.FilePath

/-!
# File trees

Files and directories by place. A path is followed part by part and leads on
only from a directory, also where two dots lead back. Reading, writing and
removing do all they say, or fail and change nothing. Making directories may
fail after it has made some of those on the way.
-/

namespace QueryReplay

/-- The names on the way from the top. -/
abbrev Place := List String

/-- What stands at a place. -/
inductive FileNode where
  | directory
  | file (content : List UInt8)
deriving DecidableEq, Repr

/-- All that stands below the top directory, each place at most once. -/
abbrev FileTree := List (Place × FileNode)

namespace FilePath

/-- How many bytes a name may have. -/
def maxNameBytes : Nat := 255

/-- How many bytes a path may have. -/
def maxBytes : Nat := 4095

/-- What is wrong with a path wherever it leads. -/
def fault? (path : String) : Option IoFault :=
  if path.contains '\x00' then some .nulByte
  else if maxBytes < path.utf8ByteSize then some .nameTooLong
  else none

end FilePath

namespace FileTree

/-- What stands at a place. At the top there is always a directory. -/
def node? (t : FileTree) (p : Place) : Option FileNode :=
  if p.isEmpty then some .directory else t.lookup p

/-- Where one more part of a path leads. -/
def step (t : FileTree) (here : Place) (part : String) : Except IoFault Place :=
  match t.node? here with
  | none => .error .notFound
  | some (.file _) => .error .notADirectory
  | some .directory =>
    if part = "." then .ok here
    else if part = ".." then .ok here.dropLast
    else if FilePath.maxNameBytes < part.utf8ByteSize then .error .nameTooLong
    else .ok (here ++ [part])

/-- Where the parts of a path lead. There need not be anything at the last of them. -/
def follow (t : FileTree) (here : Place) : List String → Except IoFault Place
  | [] => .ok here
  | part :: rest =>
    match t.step here part with
    | .ok next => follow t next rest
    | .error fault => .error fault

/-- The place of a path. -/
def place (t : FileTree) (path : String) : Except IoFault Place :=
  match FilePath.fault? path with
  | some fault => .error fault
  | none => t.follow [] (FilePath.steps path)

/-- The tree with a node put at a place. -/
def set (t : FileTree) (p : Place) (n : FileNode) : FileTree :=
  (p, n) :: t.filter (·.1 != p)

/-- The tree without what stands at a place. -/
def erase (t : FileTree) (p : Place) : FileTree :=
  t.filter (·.1 != p)

/-- Whether the parts of a path lead to a directory. -/
def isDirectory (t : FileTree) (parts : List String) : Bool :=
  match t.follow [] parts with
  | .ok p => t.node? p == some .directory
  | .error _ => false

def makeDirectory (t : FileTree) (parts : List String) : Except IoFault FileTree :=
  match t.follow [] parts with
  | .ok p => if (t.node? p).isSome then .error .alreadyExists else .ok (t.set p .directory)
  | .error fault => .error fault

/-- Makes one directory, or finds that it is there. -/
def ensureDirectory (t : FileTree) (parts : List String) : Except IoFault Unit × FileTree :=
  match t.makeDirectory parts with
  | .ok t => (.ok (), t)
  | .error fault => (if t.isDirectory parts then .ok () else .error fault, t)

/-- Makes the first directory of a lineage, and those behind it as far as one is missing. -/
def makeLineage (t : FileTree) : List (List String) → Except IoFault Unit × FileTree
  | [] => (.ok (), t)
  | parts :: above =>
    match t.ensureDirectory parts with
    | (.error .notFound, _) =>
      match makeLineage t above with
      | (.ok (), t) => t.ensureDirectory parts
      | failed => failed
    | done => done

/-- Makes the directory of a path, and those on the way to it that are missing. -/
def makeDirectories (t : FileTree) (path : String) : Except IoFault Unit × FileTree :=
  match FilePath.fault? path with
  | some fault => (.error fault, t)
  | none => t.makeLineage (FilePath.lineage path)

def readFile (t : FileTree) (path : String) : Except IoFault (List UInt8) :=
  match t.place path with
  | .error fault => .error fault
  | .ok p =>
    match t.node? p with
    | some (.file content) => .ok content
    | some .directory => .error .isADirectory
    | none => .error .notFound

/-- Writes a file as a whole: one that was there is replaced. -/
def writeFile (t : FileTree) (path : String) (content : List UInt8) : Except IoFault FileTree :=
  match t.place path with
  | .error fault => .error fault
  | .ok p =>
    match t.node? p with
    | some .directory => .error .isADirectory
    | _ => .ok (t.set p (.file content))

def removeFile (t : FileTree) (path : String) : Except IoFault FileTree :=
  match t.place path with
  | .error fault => .error fault
  | .ok p =>
    match t.node? p with
    | some (.file _) => .ok (t.erase p)
    | some .directory => .error .isADirectory
    | none => .error .notFound

/-- The name of a place that lies directly in a directory. -/
def nameIn? (directory p : Place) : Option String :=
  if p.dropLast = directory then p.getLast? else none

/-- The place of a directory. -/
def directory (t : FileTree) (path : String) : Except IoFault Place :=
  match t.place path with
  | .error fault => .error fault
  | .ok p =>
    match t.node? p with
    | some .directory => .ok p
    | some (.file _) => .error .notADirectory
    | none => .error .notFound

/-- The names in a directory. -/
def list (t : FileTree) (path : String) : Except IoFault (List String) :=
  match t.directory path with
  | .ok p => .ok (t.filterMap fun (q, _) => nameIn? p q)
  | .error fault => .error fault

/-- Removes a directory and all that stands in it. -/
def removeTree (t : FileTree) (path : String) : Except IoFault FileTree :=
  match t.directory path with
  | .ok p => .ok (t.filter fun (q, _) => !p.isPrefixOf q)
  | .error fault => .error fault

end FileTree

end QueryReplay
