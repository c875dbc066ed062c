import QueryReplay.Backend.NumberText
import QueryReplay.Text.Search

/-!
# Column affinity

The class in which a column prefers to store its values. Text that is a
number becomes one in a numeric column, and a number in a text column becomes
text; what has no such form is stored as it is.
-/

namespace QueryReplay

/-- The class that a column prefers. -/
inductive Affinity where
  | integer | text | blob | real | numeric
deriving DecidableEq, Repr

namespace Affinity

/-- The affinity of a declared type, by the first word that occurs in it. -/
def ofDeclaration (declaration : String) : Affinity :=
  let cs := Text.upper declaration.toList
  let has (word : String) : Bool := Text.occursIn word.toList cs
  if has "INT" then .integer
  else if has "CHAR" || has "CLOB" || has "TEXT" then .text
  else if has "BLOB" || cs.isEmpty then .blob
  else if has "REAL" || has "FLOA" || has "DOUB" then .real
  else .numeric

/-- A value as a numeric column stores it. -/
def toNumber : Native → Native
  | .text bytes => (NumberText.number? bytes).getD (.text bytes)
  | .real x => NumberText.preferInteger x
  | n => n

/-- A value as a column of that affinity stores it. -/
def store : Affinity → Native → Native
  | .integer, n => toNumber n
  | .numeric, n => toNumber n
  | .real, n =>
    match toNumber n with
    | .integer i => .real (.ofInt i.toInt)
    | n => n
  | .text, .integer i => .text (Utf8.encode (Value.intText i.toInt))
  | .text, .real x => .text (Utf8.encode x.text)
  | .text, n => n
  | .blob, n => n

end Affinity

end QueryReplay
