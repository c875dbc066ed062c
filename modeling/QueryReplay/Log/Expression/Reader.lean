import QueryReplay.Log.Expression.Basic
import QueryReplay.Text.Alphanumeric
import QueryReplay.Text.Blank
import QueryReplay.Text.Hex
import QueryReplay.Text.Search

/-!
# Reading regular expressions

An expression stands between braces, so none closes within it, and braces that
count repetitions never come in pairs. Where blanks stand for nothing they may
also be left between the marks of an escape, a group or a set.
-/

namespace QueryReplay.Log

/-- The text without the blanks and comments at its start, from within a comment or not. -/
def dropComments (inComment : Bool) : List Char → List Char
  | [] => []
  | c :: cs =>
    if inComment then dropComments (c != '\n') cs
    else if Text.isBlank c then dropComments false cs
    else if c = '#' then dropComments true cs
    else c :: cs

/-- The text from its next mark on. -/
def skip (isSpaced : Bool) (cs : List Char) : List Char :=
  if isSpaced then dropComments false cs else cs

/-- The next mark of a text, even one in a comment. -/
def glimpse (isSpaced : Bool) (cs : List Char) : Option Char :=
  if isSpaced then
    match Text.dropBlanks cs with
    | '#' :: cs => (Text.dropBlanks cs).head?
    | cs => cs.head?
  else cs.head?

namespace Switch

def ofChar? : Char → Option Switch
  | 'i' => some caseless
  | 'm' => some manyLines
  | 's' => some dotMatchesAll
  | 'U' => some lazy
  | 'u' => some unicode
  | 'R' => some anyLineEnd
  | 'x' => some spaced
  | _ => none

end Switch

/-- The switches that a word stands for: those before a minus sign are on, and those behind it
off. None may occur twice, and a minus sign must have some behind it. -/
def Switches.ofWord? (word : List Char) : Option Switches := do
  let onWord := word.takeWhile (· != '-')
  let offWord := word.drop onWord.length
  let on ← onWord.mapM Switch.ofChar?
  let off ← (offWord.drop 1).mapM Switch.ofChar?
  if offWord ≠ ['-'] ∧ (on ++ off).Nodup then some ⟨on, off⟩ else none

/-- The character that `count` hexadecimal digits number, behind the number read so far, and what
follows them. -/
def hexadecimal? (isSpaced : Bool) (n : Nat) : Nat → List Char → Option (Char × List Char)
  | 0, cs => if n.isValidChar then some (Char.ofNat n, cs) else none
  | count + 1, cs =>
    match skip isSpaced cs with
    | [] => none
    | c :: cs => (Hex.digitValue? c).bind fun d => hexadecimal? isSpaced (16 * n + d) count cs

/-- The letters of the Unicode categories. -/
def categoryLetters : List Char :=
  ['c', 'l', 'm', 'n', 'p', 's', 'z']

/-- The names of the sets that are written between colons. -/
def setNames : List (List Char) :=
  ["alnum".toList, "alpha".toList, "ascii".toList, "blank".toList, "cntrl".toList,
   "digit".toList, "graph".toList, "lower".toList, "print".toList, "punct".toList,
   "space".toList, "upper".toList, "word".toList, "xdigit".toList]

/-- The character of a one-letter escape. -/
def controlEscape? : Char → Option Char
  | 'a' => some (Char.ofNat 0x07)
  | 'f' => some (Char.ofNat 0x0C)
  | 't' => some '\t'
  | 'n' => some '\n'
  | 'r' => some '\r'
  | 'v' => some (Char.ofNat 0x0B)
  | _ => none

/-- What an escape stands for, and what follows it. -/
def escape? (isSpaced : Bool) : List Char → Option (Expression × List Char)
  | [] => none
  | c :: cs =>
    let digits (count : Nat) := (hexadecimal? isSpaced 0 count cs).map fun (d, rest) =>
      (.letter ⟨d, count == 2⟩, rest)
    if c = 'x' then digits 2
    else if c = 'u' then digits 4
    else if c = 'U' then digits 8
    else if c = 'p' ∨ c = 'P' then
      match skip isSpaced cs with
      | [] => none
      | d :: rest =>
        if categoryLetters.contains d.toLower then some (.members .category, rest) else none
    else if ['d', 's', 'w', 'D', 'S', 'W'].contains c then
      some (.members (.kind c.isUpper), cs)
    else if ['A', 'z'].contains c then some (.edge, cs)
    else if ['b', 'B', '<', '>'].contains c then some (.wordEdge, cs)
    else if c.isAlphanum then (controlEscape? c).map fun d => (.letter ⟨d, false⟩, cs)
    else if c.toNat < 0x80 then some (.letter ⟨c, false⟩, cs)
    else none

namespace Members

/-- The members of a set that an expression stands for within it. -/
def ofExpression? : Expression → Option Members
  | .letter l => some (letter l)
  | .members m => some m
  | _ => none

/-- A character or an escape within a set, and what follows it. -/
def item? (isSpaced : Bool) : List Char → Option (Members × List Char)
  | [] => none
  | '\\' :: cs => (escape? isSpaced cs).bind fun (e, rest) => (ofExpression? e).map (·, rest)
  | c :: cs => some (letter ⟨c, false⟩, cs)

/-- The range between two characters, in ascending order. -/
def range? : Members → Members → Option Members
  | letter first, letter last => if first.char ≤ last.char then some (range first last) else none
  | _, _ => none

/-- An item or a range of characters, and what follows it. A minus sign before a closing bracket
or another minus sign makes no range. -/
def run? (isSpaced : Bool) (cs : List Char) : Option (Members × List Char) := do
  let (first, rest) ← item? isSpaced cs
  match skip isSpaced rest with
  | '-' :: behind =>
    if [some ']', some '-'].contains (glimpse isSpaced behind) then some (first, '-' :: behind)
    else
      let (last, rest) ← item? isSpaced (skip isSpaced behind)
      (range? first last).map (·, rest)
  | rest => some (first, rest)

/-- A set with a name between colons, behind its opening bracket, and what follows it. -/
def named? : List Char → Option (Members × List Char)
  | ':' :: cs =>
    let (isNegated, cs) :=
      match cs with
      | '^' :: cs => (true, cs)
      | cs => (false, cs)
    let name := cs.takeWhile (· != ':')
    if setNames.contains name then
      (Text.behind? [':', ']'] (cs.drop name.length)).map (named isNegated, ·)
    else none
  | _ => none

/-- Whether the members behind an opening bracket are those that are left out, and what follows
the mark for that. -/
def negation (isSpaced : Bool) (cs : List Char) : Bool × List Char :=
  match skip isSpaced cs with
  | '^' :: cs => (true, skip isSpaced cs)
  | cs => (false, cs)

/-- The minus signs at the start of a set, which stand for themselves, and what follows them. -/
def leadingSigns (isSpaced : Bool) : Nat → List Char → List Members × List Char
  | fuel + 1, '-' :: cs =>
    let (signs, rest) := leadingSigns isSpaced fuel (skip isSpaced cs)
    (letter ⟨'-', false⟩ :: signs, rest)
  | _, cs => ([], cs)

/-- What stands for itself at the start of a set only, and what follows it: minus signs, or a
closing bracket. -/
def leading (isSpaced : Bool) (cs : List Char) : List Members × List Char :=
  match cs with
  | ']' :: cs => ([letter ⟨']', false⟩], cs)
  | cs => leadingSigns isSpaced cs.length cs

/-- What an operator makes of what stands on its left, if there is one, and the parts behind it,
in reverse. -/
def close (left : Option Members) (parts : List Members) : Members :=
  let right := ofParts parts.reverse
  left.elim right (combined · right)

/-- The members of a set up to its closing bracket, and what follows that: behind what stands to
the left of the last operator, and behind the parts since then, in reverse. -/
def readFrom? (isSpaced : Bool) :
    Nat → Option Members → List Members → List Char → Option (Members × List Char)
  | 0, _, _, _ => none
  | fuel + 1, left, parts, cs =>
    match skip isSpaced cs with
    | [] => none
    | ']' :: rest => some (close left parts, rest)
    | '&' :: '&' :: rest | '-' :: '-' :: rest | '~' :: '~' :: rest =>
      readFrom? isSpaced fuel (some (close left parts)) [] rest
    | '[' :: rest =>
      match named? rest with
      | some (m, rest) => readFrom? isSpaced fuel left (m :: parts) rest
      | none =>
        let (isNegated, rest) := negation isSpaced rest
        let (first, rest) := leading isSpaced rest
        (readFrom? isSpaced fuel none first.reverse rest).bind fun (inner, rest) =>
          readFrom? isSpaced fuel left (brackets isNegated inner :: parts) rest
    | cs => (run? isSpaced cs).bind fun (m, rest) => readFrom? isSpaced fuel left (m :: parts) rest

/-- A set behind its opening bracket, and what follows it. -/
def read? (isSpaced : Bool) (cs : List Char) : Option (Members × List Char) :=
  let (isNegated, rest) := negation isSpaced cs
  let (first, rest) := leading isSpaced rest
  (readFrom? isSpaced (rest.length + 1) none first.reverse rest).map fun (inner, rest) =>
    (brackets isNegated inner, rest)

end Members

namespace Expression

/-- What counts where a part of an expression is read. -/
structure Scope where
  isSpaced : Bool
  /-- The names that groups have been given so far. -/
  names : List (List Char)
deriving DecidableEq, Repr

/-- What an opening parenthesis is about. -/
inductive Opening where
  | directive (s : Switches)
  /-- A group with switches of its own, and the names given with it. -/
  | group (s : Switches) (names : List (List Char))
deriving DecidableEq, Repr

/-- The scope behind some switches. -/
def Scope.apply (scope : Scope) (s : Switches) : Scope :=
  { scope with isSpaced := s.apply .spaced scope.isSpaced }

/-- Whether a name may start with a character. -/
def isNameStart (c : Char) : Bool :=
  c == '_' || Text.isAlphabetic c

/-- Whether a name may go on with a character. -/
def isNameLetter (c : Char) : Bool :=
  c == '_' || c == '.' || c == '[' || c == ']' || Text.isAlphanumeric c

/-- The name of a group, which no other group has, and what follows the mark that ends it. -/
def name? (names : List (List Char)) (cs : List Char) : Option (List Char × List Char) :=
  let name := cs.takeWhile (· != '>')
  match name, cs.drop name.length with
  | first :: others, '>' :: rest =>
    if isNameStart first && others.all isNameLetter && !names.contains name then some (name, rest)
    else none
  | _, _ => none

/-- The switches of a group or a directive, and what follows the mark that ends them. -/
def switches? (names : List (List Char)) (cs : List Char) : Option (Opening × List Char) :=
  let word := cs.takeWhile fun c => c != ':' && c != ')'
  match cs.drop word.length with
  | ':' :: rest => (Switches.ofWord? word).map fun s => (.group s names, rest)
  | ')' :: rest =>
    if word.isEmpty then none else (Switches.ofWord? word).map fun s => (.directive s, rest)
  | _ => none

/-- What an opening parenthesis is about, and what follows. -/
def opening? (scope : Scope) (cs : List Char) : Option (Opening × List Char) :=
  let named (cs : List Char) := (name? scope.names cs).map fun (name, rest) =>
    (.group Switches.untouched (name :: scope.names), rest)
  match skip scope.isSpaced cs with
  | '?' :: 'P' :: '<' :: cs | '?' :: '<' :: cs => named cs
  | '?' :: cs => switches? scope.names cs
  | cs => some (.group Switches.untouched scope.names, cs)

/-- A character, an escape or a set, and what follows it. -/
def item? (isSpaced : Bool) : List Char → Option (Expression × List Char)
  | [] => none
  | '[' :: cs => (Members.read? isSpaced cs).map fun (m, rest) => (members m, rest)
  | '\\' :: cs => escape? isSpaced cs
  | '.' :: cs => some (any, cs)
  | '^' :: cs | '$' :: cs => some (edge, cs)
  | '\x7b' :: _ => none
  | c :: cs => some (letter ⟨c, false⟩, cs)

/-- The parts with the last of them repeated. A directive cannot be. -/
def repeatLast? : List Expression → Option (List Expression)
  | [] | switches _ :: _ => none
  | e :: parts => some (repeated e :: parts)

/-- The text behind the mark of a repetition that takes as little as it can. -/
def dropLazy : List Char → List Char
  | '?' :: cs => cs
  | cs => cs

/-- The expression that alternatives and the parts of the last of them make, each in reverse. -/
def close (branches parts : List Expression) : Expression :=
  ofBranches (ofParts parts.reverse :: branches).reverse

/-- An expression up to the parenthesis that closes it or to the end of the text, the names of all
groups so far, and what follows: behind some alternatives and some parts, in reverse. -/
def readFrom? : Nat → Scope → List Expression → List Expression → List Char →
    Option (Expression × List (List Char) × List Char)
  | 0, _, _, _, _ => none
  | fuel + 1, scope, branches, parts, cs =>
    match skip scope.isSpaced cs with
    | [] => some (close branches parts, scope.names, [])
    | ')' :: rest => some (close branches parts, scope.names, ')' :: rest)
    | '|' :: rest => readFrom? fuel scope (ofParts parts.reverse :: branches) [] rest
    | '?' :: rest | '*' :: rest | '+' :: rest =>
      (repeatLast? parts).bind fun parts => readFrom? fuel scope branches parts (dropLazy rest)
    | '(' :: rest =>
      match opening? scope rest with
      | some (.directive s, rest) =>
        readFrom? fuel (scope.apply s) branches (switches s :: parts) rest
      | some (.group s names, rest) =>
        match readFrom? fuel ({ scope with names }.apply s) [] [] rest with
        | some (e, names, ')' :: rest) =>
          readFrom? fuel { scope with names } branches (group s e :: parts) rest
        | _ => none
      | none => none
    | cs =>
      (item? scope.isSpaced cs).bind fun (e, rest) =>
        readFrom? fuel scope branches (e :: parts) rest

def ofText? (cs : List Char) : Option Expression :=
  match readFrom? (cs.length + 1) ⟨false, []⟩ [] [] cs with
  | some (e, _, []) => some e
  | _ => none

end Expression

end QueryReplay.Log
