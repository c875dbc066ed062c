/-!
# Regular expressions

What a regular expression is made of, and which ones can be matched. None may
be nested too deeply. One that gives up Unicode may only speak of ASCII, and
one that does not may not ask where words begin and end.
-/

namespace QueryReplay.Log

/-- A way of reading that an expression can switch on and off. -/
inductive Switch where
  | caseless
  | manyLines
  | dotMatchesAll
  | lazy
  | unicode
  | anyLineEnd
  /-- Blanks stand for nothing, and comments may follow a number sign. -/
  | spaced
deriving DecidableEq, Repr

/-- What a group or a directive switches on and off. -/
structure Switches where
  on : List Switch
  off : List Switch
deriving DecidableEq, Repr

/-- A character that stands for itself. -/
structure Letter where
  char : Char
  /-- Whether it is written as a byte of two hexadecimal digits. -/
  isByte : Bool
deriving DecidableEq, Repr

/-- The members of a set of characters. -/
inductive Members where
  | nothing
  | letter (l : Letter)
  | range (first last : Letter)
  /-- A set with a name between colons, or all but that set. -/
  | named (isNegated : Bool)
  /-- Digits, blanks or word characters, or all but these. -/
  | kind (isNegated : Bool)
  /-- A Unicode category, or all but it. -/
  | category
  | union (parts : List Members)
  /-- What an operator makes of two sets. -/
  | combined (left right : Members)
  | brackets (isNegated : Bool) (inner : Members)
deriving Repr

/-- A regular expression. -/
inductive Expression where
  | empty
  | switches (s : Switches)
  | letter (l : Letter)
  | any
  /-- The start or end of a line or of the text. -/
  | edge
  /-- A place where a word starts or ends, or where none does. -/
  | wordEdge
  | members (m : Members)
  | repeated (e : Expression)
  | group (s : Switches) (e : Expression)
  | sequence (es : List Expression)
  | choice (es : List Expression)
deriving Repr

namespace Switches

/-- No switch is touched. -/
def untouched : Switches :=
  ⟨[], []⟩

/-- Whether a way of reading is on, if it was on or off before. -/
def apply (s : Switches) (w : Switch) (before : Bool) : Bool :=
  s.on.contains w || (before && !s.off.contains w)

end Switches

def Letter.isAscii (l : Letter) : Bool :=
  l.char.toNat < 0x80

namespace Members

mutual

/-- How deeply a set is nested. -/
def depth : Members → Nat
  | union parts => depthOfAll parts + 1
  | combined left right => max left.depth right.depth + 1
  | brackets _ inner => inner.depth + 1
  | _ => 0

/-- How deeply the deepest of some sets is nested. -/
def depthOfAll : List Members → Nat
  | [] => 0
  | m :: ms => max m.depth (depthOfAll ms)

end

mutual

/-- Whether a set is one of ASCII characters. All but such a set is none. -/
def isAscii : Members → Bool
  | nothing => true
  | letter l => l.isAscii
  | range first last => first.isAscii && last.isAscii
  | named isNegated | kind isNegated => !isNegated
  | category => false
  | union parts => areAscii parts
  | combined left right => left.isAscii && right.isAscii
  | brackets isNegated inner => !isNegated && inner.isAscii

/-- Whether all of some sets are sets of ASCII characters. -/
def areAscii : List Members → Bool
  | [] => true
  | m :: ms => m.isAscii && areAscii ms

end

/-- The set of what stands between two operators. -/
def ofParts : List Members → Members
  | [] => nothing
  | [m] => m
  | ms => union ms

end Members

namespace Expression

mutual

/-- How deeply an expression is nested. -/
def depth : Expression → Nat
  | members m => m.depth
  | repeated e | group _ e => e.depth + 1
  | sequence es | choice es => depthOfAll es + 1
  | _ => 0

/-- How deeply the deepest of some expressions is nested. -/
def depthOfAll : List Expression → Nat
  | [] => 0
  | e :: es => max e.depth (depthOfAll es)

end

mutual

/-- Whether Unicode is on behind an expression that can be matched, if it is on or off before. -/
def unicodeBehind? (isUnicode : Bool) : Expression → Option Bool
  | empty | edge => some isUnicode
  | switches s => some (s.apply .unicode isUnicode)
  | letter l => if isUnicode || !l.isByte || l.isAscii then some isUnicode else none
  | any => if isUnicode then some isUnicode else none
  | wordEdge => if isUnicode then none else some isUnicode
  | members m => if isUnicode || m.isAscii then some isUnicode else none
  | repeated e => e.unicodeBehind? isUnicode
  | group s e => (e.unicodeBehind? (s.apply .unicode isUnicode)).map fun _ => isUnicode
  | sequence es | choice es => unicodeBehindAll? isUnicode es

/-- Whether Unicode is on behind a list of expressions that can be matched. -/
def unicodeBehindAll? (isUnicode : Bool) : List Expression → Option Bool
  | [] => some isUnicode
  | e :: es => (e.unicodeBehind? isUnicode).bind fun isUnicode => unicodeBehindAll? isUnicode es

end

/-- How deeply an expression may be nested. -/
def maxDepth : Nat := 250

/-- Whether an expression can be matched. -/
def isMatchable (e : Expression) : Bool :=
  e.depth ≤ maxDepth && (e.unicodeBehind? true).isSome

/-- The expression that parts in a row make. -/
def ofParts : List Expression → Expression
  | [] => empty
  | [e] => e
  | es => sequence es

/-- The expression that alternatives make. -/
def ofBranches : List Expression → Expression
  | [e] => e
  | es => choice es

end Expression

end QueryReplay.Log
