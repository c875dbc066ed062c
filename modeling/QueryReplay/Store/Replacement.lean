import QueryReplay.Store.Directory

/-!
# Entries replaced step by step

An entry is put in four steps. A new file is made in the directory of the
store, under a name with drawn characters, and if the name is taken others are
drawn. The bytes are written to this file and brought to the disk, and the file
is moved to the path of the entry. Each step may fail, also for reasons that do
not show in the tree. From then on no further step is tried, and the new file
is dropped.
-/

namespace QueryReplay

/-- What goes wrong with the steps, whatever the tree looks like. -/
structure Mishaps where
  /-- The directory takes no new file. -/
  creating : Option IoFault
  /-- Not all bytes can be written, but so many of them. -/
  writing : Option (Nat × IoFault)
  /-- The bytes cannot be brought to the disk. -/
  syncing : Option IoFault
  /-- The new file cannot be moved. -/
  moving : Option IoFault
deriving DecidableEq, Repr

/-- Nothing goes wrong but what the tree is the reason for. -/
def Mishaps.none : Mishaps :=
  ⟨.none, .none, .none, .none⟩

namespace FileTree

/-- Makes an empty file at a path where nothing stands. -/
def createFile (t : FileTree) (path : String) : Except IoFault FileTree :=
  match t.place path with
  | .error fault => .error fault
  | .ok p => if (t.node? p).isSome then .error .alreadyExists else .ok (t.set p (.file []))

/-- Writes bytes to a file, or the first few of them if the rest cannot be written. -/
def fillFile (t : FileTree) (path : String) (content : List UInt8)
    (mishap : Option (Nat × IoFault)) : Except IoFault Unit × FileTree :=
  match mishap with
  | none =>
    match t.writeFile path content with
    | .ok t => (.ok (), t)
    | .error fault => (.error fault, t)
  | some (written, fault) =>
    match t.writeFile path (content.take written) with
    | .ok t => (.error fault, t)
    | .error fault => (.error fault, t)

/-- Moves a file to a path. A file that was there is replaced, and a directory is not. -/
def moveFile (t : FileTree) (source target : String) : Except IoFault FileTree :=
  match t.readFile source, t.removeFile source with
  | .ok content, .ok rest => rest.writeFile target content
  | .error fault, _ => .error fault
  | _, .error fault => .error fault

/-- The tree without the file at a path, if there is one. -/
def dropFile (t : FileTree) (path : String) : FileTree :=
  match t.removeFile path with
  | .ok t => t
  | .error _ => t

end FileTree

namespace DirectoryStore

/-- The path of a new file with drawn characters in its name. -/
def drawnPath (s : DirectoryStore) (drawn : String) : String :=
  FilePath.join s.root (".entry-" ++ drawn ++ ".tmp")

/-- Makes a new file under the first drawn name that is not taken. -/
def createDrawn (s : DirectoryStore) (t : FileTree) :
    List String → Except IoFault (String × FileTree)
  | [] => .error (.other "too many temporary files exist")
  | drawn :: draws =>
    match t.createFile (s.drawnPath drawn) with
    | .ok t => .ok (s.drawnPath drawn, t)
    | .error .alreadyExists => createDrawn s t draws
    | .error fault => .error fault

/-- Makes the new file, unless the directory takes none. -/
def createNew (s : DirectoryStore) (t : FileTree) (draws : List String) (mishap : Option IoFault) :
    Except IoFault (String × FileTree) :=
  match mishap with
  | none => s.createDrawn t draws
  | some fault => .error fault

/-- Moves the new file to the path of an entry. -/
def moveNew (s : DirectoryStore) (t : FileTree) (path : String) (k : Key)
    (mishap : Option IoFault) : Except IoFault FileTree :=
  match mishap with
  | none => t.moveFile path (s.entryPath k)
  | some fault => .error fault

/-- Puts bytes under a key step by step. -/
def replace (s : DirectoryStore) (t : FileTree) (draws : List String) (mishaps : Mishaps) (k : Key)
    (b : List UInt8) : Except Error Unit × FileTree :=
  match s.createNew t draws mishaps.creating with
  | .error fault => (.error (.store s.root fault), t)
  | .ok (path, t) =>
    match t.fillFile path b mishaps.writing with
    | (.error fault, t) => (.error (.store path fault), t.dropFile path)
    | (.ok (), t) =>
      match mishaps.syncing with
      | some fault => (.error (.store path fault), t.dropFile path)
      | none =>
        match s.moveNew t path k mishaps.moving with
        | .ok t => (.ok (), t)
        | .error fault => (.error (.store (s.entryPath k) fault), t.dropFile path)

end DirectoryStore

end QueryReplay
