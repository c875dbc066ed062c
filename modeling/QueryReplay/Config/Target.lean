import QueryReplay.Error
import QueryReplay.Text.Search

/-!
# Store targets

A URL names the place where results are kept: a directory, or a store in
memory of some name.
-/

namespace QueryReplay

/-- The place where results are kept. -/
inductive StoreTarget where
  | directory (path : String)
  | memory (name : String)
deriving DecidableEq, Repr

namespace StoreTarget

/-- What the URL of every target starts with. -/
def scheme : List Char := "jdbc:cache:".toList

/-- What follows the scheme for a directory. -/
def directoryMark : List Char := "file:".toList

/-- What follows the scheme for a store in memory. -/
def memoryMark : List Char := "mem:".toList

/-- The target that a URL between blanks names. -/
def ofUrl (url : String) : Except Error StoreTarget :=
  match Text.behind? scheme (Text.stripped url.toList) with
  | none => .error (.config (.foreignUrl url))
  | some rest =>
    match Text.behind? directoryMark rest with
    | some path =>
      if path.isEmpty then .error (.config .missingDirectory)
      else .ok (.directory (String.ofList path))
    | none =>
      match Text.behind? memoryMark rest with
      | some name =>
        if name.isEmpty then .error (.config .missingStoreName)
        else .ok (.memory (String.ofList name))
      | none => .error (.config (.unknownTarget url))

def url : StoreTarget → String
  | .directory path => String.ofList (scheme ++ directoryMark ++ path.toList)
  | .memory name => String.ofList (scheme ++ memoryMark ++ name.toList)

end StoreTarget

end QueryReplay
