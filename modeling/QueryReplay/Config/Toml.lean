import QueryReplay.Config.Toml.Quoted
import QueryReplay.Config.Toml.Scalar
import QueryReplay.Config.Toml.Tree

/-!
# Settings as TOML

A text of lines: headers that open tables, and keys with values. A value may
be a list or a table in braces, both over several lines.
-/

namespace QueryReplay.Toml

/-- Whether a character may occur in a key without quotes. -/
def isKeyChar (c : Char) : Bool :=
  c.isAlphanum || c == '_' || c == '-'

/-- The text without the blanks at its start. -/
def skip (cs : List Char) : List Char :=
  cs.dropWhile isBlank

/-- What follows the end of a line, with or without a comment before it. -/
def behindLine? (cs : List Char) : Option (List Char) :=
  let rest := match skip cs with
    | '#' :: rest => rest.dropWhile isPlain
    | rest => rest
  if rest.isEmpty then some [] else (newline? rest).map (·.2)

/-- The text without the blanks, newlines and comments at its start. -/
def skipLines : Nat → List Char → List Char
  | 0, cs => cs
  | fuel + 1, cs =>
    match skipBreaks cs with
    | '#' :: rest => skipLines fuel (rest.dropWhile isPlain)
    | rest => rest

/-- A key of one name, and what follows it. -/
def name? (cs : List Char) : Option (String × List Char) :=
  match cs with
  | [] => none
  | c :: _ =>
    if c = '"' ∨ c = '\'' then lineText? cs
    else
      let run := cs.takeWhile isKeyChar
      if run.isEmpty then none else some (String.ofList run, cs.drop run.length)

/-- How many names a key may have. -/
def maxNames : Nat := 80

/-- Names with points between them, and what follows them and any blanks. -/
def names? : Nat → List Char → Option (List String × List Char)
  | 0, _ => none
  | fuel + 1, cs =>
    match name? (skip cs) with
    | none => none
    | some (name, rest) =>
      match skip rest with
      | '.' :: rest => (names? fuel rest).map fun (names, rest) => (name :: names, rest)
      | rest => some ([name], rest)

/-- A key, and what follows it and any blanks. -/
def key? (cs : List Char) : Option (List String × List Char) :=
  match names? cs.length cs with
  | some (names, rest) => if names.length ≤ maxNames then some (names, rest) else none
  | none => none

/-- The key in front of a character, and what follows that character. -/
def keyBefore? (mark : Char) (cs : List Char) : Option (List String × List Char) :=
  match key? cs with
  | some (names, c :: rest) => if c = mark then some (names, rest) else none
  | _ => none

/-- How deep lists and tables inside values may lie in each other. -/
def maxDepth : Nat := 80

mutual

/-- A value behind any blanks, and what follows it; lists and tables in it lie in each other at
most `depth` deep. -/
def value? : Nat → Nat → List Char → Option (Document × List Char)
  | 0, _, _ => none
  | fuel + 1, depth, cs =>
    match skip cs with
    | [] => none
    | c :: rest =>
      if c = '[' then if depth = 0 then none else items? fuel (depth - 1) [] rest
      else if c = '\x7b' then
        if depth = 0 then none else pairs? fuel (depth - 1) [] rest
      else if c = '"' ∨ c = '\'' then (text? (c :: rest)).map fun (s, rest) => (.text s, rest)
      else scalar? (c :: rest)

/-- The items of a list up to its bracket, onto `done` in reverse. -/
def items? : Nat → Nat → List Document → List Char → Option (Document × List Char)
  | 0, _, _, _ => none
  | fuel + 1, depth, done, cs =>
    match skipLines cs.length cs with
    | ']' :: rest => some (.list done.reverse, rest)
    | cs =>
      match value? fuel depth cs with
      | none => none
      | some (v, rest) =>
        match skipLines rest.length rest with
        | ',' :: rest => items? fuel depth (v :: done) rest
        | ']' :: rest => some (.list (v :: done).reverse, rest)
        | _ => none

/-- The keys and values of a table up to its brace, onto the fields before. -/
def pairs? : Nat → Nat → Fields → List Char → Option (Document × List Char)
  | 0, _, _, _ => none
  | fuel + 1, depth, fields, cs =>
    match skipLines cs.length cs with
    | '\x7d' :: rest => some (.table (fieldContents fields), rest)
    | cs =>
      match pair? fuel depth fields cs with
      | none => none
      | some (fields, rest) =>
        match skipLines rest.length rest with
        | ',' :: rest => pairs? fuel depth fields rest
        | '\x7d' :: rest => some (.table (fieldContents fields), rest)
        | _ => none

/-- A key and its value on any lines, added to the fields before, and what follows them. -/
def pair? : Nat → Nat → Fields → List Char → Option (Fields × List Char)
  | 0, _, _, _ => none
  | fuel + 1, depth, fields, cs =>
    match key? cs with
    | none => none
    | some (names, rest) =>
      match skipLines rest.length rest with
      | '=' :: rest =>
        match value? fuel depth (skipLines rest.length rest) with
        | none => none
        | some (v, rest) => (fields.assign v names).map fun fields => (fields, rest)
      | _ => none

end

/-- What a line does to the tables: the tables then, the path of the table that is open, and the
lines behind. -/
def line? (root : Fields) (path : List String) (cs : List Char) :
    Option (Fields × List String × List Char) :=
  match cs with
  | '[' :: '[' :: cs => do
    let (names, rest) ← keyBefore? ']' cs
    let rest ← Text.behind? [']'] rest
    let rest ← behindLine? rest
    let root ← root.change (Fields.openElement (names.getLast?.getD "")) names.dropLast
    return (root, names, rest)
  | '[' :: cs => do
    let (names, rest) ← keyBefore? ']' cs
    let rest ← behindLine? rest
    let root ← root.change (Fields.openTable (names.getLast?.getD "")) names.dropLast
    return (root, names, rest)
  | cs => do
    let (names, rest) ← keyBefore? '=' cs
    let (v, rest) ← value? (cs.length + 1) maxDepth rest
    let rest ← behindLine? rest
    let root ← root.change (Fields.assign v names) path
    return (root, path, rest)

/-- The tables after all lines. -/
def lines? : Nat → Fields → List String → List Char → Option Fields
  | 0, _, _, _ => none
  | fuel + 1, root, path, cs =>
    match skip cs with
    | [] => some root
    | cs =>
      match behindLine? cs with
      | some rest => lines? fuel root path rest
      | none =>
        match line? root path cs with
        | some (root, path, rest) => lines? fuel root path rest
        | none => none

/-- The content of a TOML text, with or without a byte order mark. -/
def document? (cs : List Char) : Option Document :=
  let cs := if cs.head? = some (Char.ofNat 0xFEFF) then cs.tail else cs
  (lines? (cs.length + 1) [] [] cs).map fun root => .table (fieldContents root)

/-- In TOML a list of fields may go on behind the last field, and an empty table or list stands
for nothing. -/
def dialect : Document.Dialect where
  allowsSurplus := true
  isNothing
    | .table [] => true
    | .list [] => true
    | _ => false

def settings? (cs : List Char) : Option Settings :=
  (document? cs).bind (Document.settings? dialect)

end QueryReplay.Toml
