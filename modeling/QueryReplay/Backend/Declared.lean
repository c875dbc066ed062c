import QueryReplay.Column
import QueryReplay.Number.Power
import QueryReplay.Text.Blank
import QueryReplay.Text.DecimalDigit
import QueryReplay.Text.Numeral
import QueryReplay.Text.Search

/-!
# Declared column types

A database keeps the type of a column as the text it was declared with. The
text of a decimal gives its digits; all other types go by the words that
occur in it, the first that matches.
-/

namespace QueryReplay

/-- A column type with the digits of a decimal in all and behind the point. -/
structure DeclaredType where
  type : ColumnType
  precision : Nat
  scale : Nat
deriving DecidableEq, Repr

namespace DeclaredType

/-- A number at the start of a text between blanks, of digits of any script. -/
def digitRun? (cs : List Char) : Option (List Char × List Char) :=
  let cs := Text.dropBlanks cs
  let ds := cs.takeWhile Text.isDecimalDigit
  if ds.isEmpty then none else some (ds, Text.dropBlanks (cs.dropWhile Text.isDecimalDigit))

/-- The digits in parentheses behind the name of a decimal type: one number, or two with a comma
between them. -/
def digitArguments? (cs : List Char) : Option (List Char × List Char) :=
  match Text.dropBlanks cs with
  | '(' :: cs =>
    match digitRun? cs with
    | some (precision, ')' :: _) => some (precision, [])
    | some (precision, ',' :: cs) =>
      match digitRun? cs with
      | some (scale, ')' :: _) => some (precision, scale)
      | _ => none
    | _ => none
  | _ => none

/-- The names of decimal types. -/
def decimalNames : List (List Char) :=
  ["DECIMAL".toList, "NUMERIC".toList, "NUMBER".toList]

/-- The digits of a decimal type. -/
def decimalArguments? (declaration : List Char) : Option (List Char × List Char) :=
  decimalNames.findSome? fun name =>
    (Text.behind? name declaration).bind digitArguments?

/-- The number that digits stand for, or zero if it exceeds the limit or is not written in
ASCII. -/
def numberUpTo (limit : Nat) (ds : List Char) : Nat :=
  match Numeral.value? ds with
  | some n => if n ≤ limit then n else 0
  | none => 0

/-- The words that tell the type of a column, in the order in which they are looked for. -/
def ofWords (declaration : List Char) : ColumnType :=
  let has (word : String) : Bool := Text.occursIn word.toList declaration
  let starts (word : String) : Bool := word.toList.isPrefixOf declaration
  if has "BOOL" then .boolean
  else if starts "DECIMAL" || starts "NUMERIC" then .decimal
  else if has "TIMESTAMP" || has "DATETIME" then .timestamp
  else if has "DATE" then .date
  else if has "TIME" then .time
  else if has "BIGINT" || has "INT8" then .bigint
  else if has "INT" then .integer
  else if has "CHAR" || has "CLOB" || has "TEXT" then .varchar
  else if has "BLOB" then .blob
  else if has "REAL" || has "FLOA" || has "DOUB" then .double
  else .unknown

def ofText (declaration : String) : DeclaredType :=
  let cs := Text.upper (Text.stripped declaration.toList)
  match decimalArguments? cs with
  | some (precision, scale) =>
    ⟨.decimal, numberUpTo (2 ^ 32 - 1) precision, numberUpTo (2 ^ 31 - 1) scale⟩
  | none => ⟨ofWords cs, 0, 0⟩

/-- The type of a column that may lack a declaration. -/
def ofText? : Option String → DeclaredType
  | some declaration => ofText declaration
  | none => ⟨.unknown, 0, 0⟩

/-- The description of a result column. -/
def column (name : String) (declaration : Option String) (ordinal : Nat)
    (nullability : Nullability) : Column :=
  let t := ofText? declaration
  { name, label := name, ordinal, type := t.type, typeName := declaration.getD "", nullability,
    precision := UInt32.ofNat t.precision, scale := Int32.ofNat t.scale }

end DeclaredType

end QueryReplay
