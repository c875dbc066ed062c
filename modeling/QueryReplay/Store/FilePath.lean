/-!
# File paths

A path is a text of parts with slashes between them. Empty parts stand for
nothing, a dot for the directory itself, and two dots for the one above it.
-/

namespace QueryReplay.FilePath

/-- The parts of a path. -/
def parts (path : String) : List String :=
  ((path.toList.splitOn '/').map String.ofList).filter (· != "")

def endsInSlash (path : String) : Bool :=
  path.toList.getLast? == some '/'

/-- The parts of a path to what is there already: a slash at the end asks for a directory. -/
def steps (path : String) : List String :=
  if endsInSlash path then parts path ++ ["."] else parts path

/-- A path with a name behind it. A name that starts at the top stands for itself. -/
def join (base name : String) : String :=
  if name.toList.head? == some '/' then name
  else if base.isEmpty || endsInSlash base then base ++ name
  else base ++ "/" ++ name

/-- The parts that are left when each pair of dots takes back the part before it. -/
def straightened (path : String) : List String :=
  (parts path).foldl (fun done part =>
    if part = "." then done
    else if part = ".." then done.dropLast
    else done ++ [part]) []

/-- For parts in reverse, the parts of each directory on the way, the nearest first. Dots at the
end are left out. -/
def above : List String → List (List String)
  | [] => []
  | part :: rest =>
    if part = "." then above rest else (rest.dropWhile (· == ".")).reverse :: above rest

/-- The parts of a path and of each directory on the way to it, the nearest first. -/
def lineage (path : String) : List (List String) :=
  parts path :: above (parts path).reverse

/-- Characters in reverse without the slashes, and the dots behind slashes, that they start
with. -/
def bare : List Char → List Char
  | '/' :: rest => bare rest
  | '.' :: '/' :: rest => bare rest
  | cs => cs

def fileName (path : String) : String :=
  String.ofList ((bare path.toList.reverse).takeWhile (· != '/')).reverse

/-- The path of the directory that a path lies in, if it names one. -/
def parent? (path : String) : Option String :=
  let behind := bare path.toList.reverse
  let front := behind.dropWhile (· != '/')
  let parent := (bare front).reverse
  if !parent.isEmpty then some (String.ofList parent)
  else if front.isEmpty || behind.isEmpty then none
  else some "/"

/-- The part of a file name in front of its last point, and the part behind it. A point at the
start does not count. -/
def splitExtension (name : String) : List Char × Option (List Char) :=
  let cs := name.toList
  let behind := (cs.reverse.takeWhile (· != '.')).reverse
  let front := cs.take (cs.length - behind.length - 1)
  if behind.length = cs.length ∨ front.isEmpty then (cs, none) else (front, some behind)

end QueryReplay.FilePath
