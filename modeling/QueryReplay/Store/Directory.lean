import QueryReplay.Key
import QueryReplay.Store.FileTree

/-!
# Stores in a directory

A store in a directory keeps each entry in a file that is named for its key.
Other files in the directory are left alone. An entry is replaced as a whole
or not at all.
-/

namespace QueryReplay

/-- A store in a directory, given by the path of the directory. -/
structure DirectoryStore where
  root : String
deriving DecidableEq, Repr

namespace DirectoryStore

/-- The extension of entry files. -/
def extension : String := "cache"

/-- The path of the file for a key. -/
def entryPath (s : DirectoryStore) (k : Key) : String :=
  FilePath.join s.root (k.hex ++ "." ++ extension)

/-- The path that a new file has until it takes the place of the old one. -/
def newFilePath (s : DirectoryStore) : String :=
  FilePath.join s.root ".entry-000000.tmp"

/-- Opens the store in a directory, which is made if it is missing. -/
def openAt (t : FileTree) (root : String) : Except Error DirectoryStore × FileTree :=
  match t.makeDirectories root with
  | (.ok (), t) => (.ok ⟨root⟩, t)
  | (.error fault, t) => (.error (.store root fault), t)

/-- The bytes under a key. -/
def get (s : DirectoryStore) (t : FileTree) (k : Key) : Except Error (Option (List UInt8)) :=
  match t.readFile (s.entryPath k) with
  | .ok content => .ok (some content)
  | .error .notFound => .ok none
  | .error fault => .error (.store (s.entryPath k) fault)

/-- Puts bytes under a key. The new file is made beside the old one and then takes its place, so
a directory that cannot take a new file fails first. -/
def put (s : DirectoryStore) (t : FileTree) (k : Key) (b : List UInt8) : Except Error FileTree :=
  match t.place s.newFilePath with
  | .error fault => .error (.store s.root fault)
  | .ok _ =>
    match t.writeFile (s.entryPath k) b with
    | .ok t => .ok t
    | .error fault => .error (.store (s.entryPath k) fault)

/-- Removes a key, and says whether it was there. -/
def remove (s : DirectoryStore) (t : FileTree) (k : Key) : Except Error (Bool × FileTree) :=
  match t.removeFile (s.entryPath k) with
  | .ok t => .ok (true, t)
  | .error .notFound => .ok (false, t)
  | .error fault => .error (.store (s.entryPath k) fault)

def keyOfName? (name : String) : Option Key :=
  match FilePath.splitExtension name with
  | (stem, some ext) => if ext = extension.toList then Key.ofHex? (String.ofList stem) else none
  | (_, none) => none

/-- The keys that the names in the directory stand for, in ascending order. -/
def keys (s : DirectoryStore) (t : FileTree) : Except Error (List Key) :=
  match t.list s.root with
  | .ok names => .ok (Key.sorted (names.filterMap keyOfName?))
  | .error fault => .error (.store s.root fault)

def describe (s : DirectoryStore) : String :=
  s!"file:{s.root}"

end DirectoryStore

end QueryReplay
