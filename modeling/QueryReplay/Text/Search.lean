/-!
# Parts of texts

Prefixes, infixes, parts by their number of bytes, and ASCII case.
-/

namespace QueryReplay.Text

/-- Whether a text occurs within another. -/
def occursIn (part : List Char) : List Char → Bool
  | [] => part.isEmpty
  | c :: cs => part.isPrefixOf (c :: cs) || occursIn part cs

/-- The text behind a prefix, if it starts with that prefix. -/
def behind? : List Char → List Char → Option (List Char)
  | [], cs => some cs
  | _ :: _, [] => none
  | p :: ps, c :: cs => if p = c then behind? ps cs else none

/-- The number of bytes of a text in UTF-8. -/
def bytes : List Char → Nat
  | [] => 0
  | c :: cs => c.utf8Size + bytes cs

/-- The text without its first bytes. A character that they reach into is left out as a whole. -/
def behindBytes : Nat → List Char → List Char
  | 0, cs => cs
  | _, [] => []
  | n, c :: cs => behindBytes (n - c.utf8Size) cs

/-- The first bytes of a text. A character that reaches beyond them is left out as a whole. -/
def withinBytes (n : Nat) : List Char → List Char
  | [] => []
  | c :: cs => if c.utf8Size ≤ n then c :: withinBytes (n - c.utf8Size) cs else []

/-- The text with the letters `a` to `z` in upper case. -/
def upper (cs : List Char) : List Char :=
  cs.map Char.toUpper

/-- The text with the letters `A` to `Z` in lower case. -/
def lower (cs : List Char) : List Char :=
  cs.map Char.toLower

end QueryReplay.Text
