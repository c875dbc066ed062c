/-!
# Decimal numerals

Strings of the digits `0` to `9` as natural numbers, and integers with an
optional sign.
-/

namespace QueryReplay.Numeral

/-- The digits of a number, without superfluous leading zeros. -/
def digits (n : Nat) : List Char :=
  Nat.toDigits 10 n

/-- The number that a string of digits stands for. -/
def value (ds : List Char) : Nat :=
  Nat.ofDigitChars 10 ds 0

/-- Whether a text is a non-empty string of digits. -/
def isNumeral (cs : List Char) : Bool :=
  !cs.isEmpty && cs.all Char.isDigit

/-- The number that a text stands for, if it is a non-empty string of digits. -/
def value? (cs : List Char) : Option Nat :=
  if isNumeral cs then some (value cs) else none

/-- An optional sign, and what follows it. The flag says whether the sign is a minus. -/
def signed : List Char → Bool × List Char
  | '-' :: cs => (true, cs)
  | '+' :: cs => (false, cs)
  | cs => (false, cs)

def withSign (negative : Bool) (magnitude : Nat) : Int :=
  if negative then -(magnitude : Int) else magnitude

/-- The integer that an optional sign and a string of digits stand for. -/
def int? (cs : List Char) : Option Int :=
  let (negative, body) := signed cs
  (value? body).map (withSign negative)

/-- The digits of an integer behind a minus if it is negative. -/
def ofInt (i : Int) : List Char :=
  if i < 0 then '-' :: digits i.natAbs else digits i.natAbs

/-- The number with at least `width` digits, filled up with zeros in front. -/
def padded (width n : Nat) : List Char :=
  let ds := digits n
  List.replicate (width - ds.length) '0' ++ ds

end QueryReplay.Numeral
