/-!
# White space

The characters with the Unicode property `White_Space`, and texts stripped of
them. Numbers, dates and settings are all read from stripped text.
-/

namespace QueryReplay.Text

/-- Whether a character has the Unicode property `White_Space`. -/
def isBlank (c : Char) : Bool :=
  let n := c.toNat
  (0x09 ≤ n && n ≤ 0x0D) || n == 0x20 || n == 0x85 || n == 0xA0 || n == 0x1680
    || (0x2000 ≤ n && n ≤ 0x200A) || n == 0x2028 || n == 0x2029 || n == 0x202F
    || n == 0x205F || n == 0x3000

/-- The text without the blanks at its start. -/
def dropBlanks (cs : List Char) : List Char :=
  cs.dropWhile isBlank

def dropBlanksEnd (cs : List Char) : List Char :=
  (cs.reverse.dropWhile isBlank).reverse

/-- The text without the blanks on either side. -/
def stripped (cs : List Char) : List Char :=
  dropBlanksEnd (dropBlanks cs)

/-- The string without the blanks on either side. -/
def strip (s : String) : String :=
  String.ofList (stripped s.toList)

end QueryReplay.Text
