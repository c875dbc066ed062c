import QueryReplay.Text.Blank
import QueryReplay.Number.Shortest

/-!
# Decimals

Fixed-point numbers: an integer and the number of its digits that stand
behind the point. A decimal keeps its scale, so `1.0` and `1.00` differ.
-/

namespace QueryReplay

/-- The number `unscaled / 10 ^ scale`. -/
structure Decimal where
  /-- All digits, read as one integer. -/
  unscaled : Int
  /-- How many of the digits stand behind the point. -/
  scale : Nat
deriving DecidableEq, Repr

namespace Decimal

/-- The largest scale: that many digits always fit sixteen bytes. -/
def maxScale : Nat := 38

/-- Whether an integer fits two's complement of sixteen bytes. -/
def Fits (i : Int) : Prop :=
  -2 ^ 127 ≤ i ∧ i < 2 ^ 127

instance (i : Int) : Decidable (Fits i) :=
  inferInstanceAs (Decidable (_ ∧ _))

/-- A decimal whose scale and integer are in range. -/
def WellFormed (d : Decimal) : Prop :=
  d.scale ≤ maxScale ∧ Fits d.unscaled

instance (d : Decimal) : Decidable d.WellFormed :=
  inferInstanceAs (Decidable (_ ∧ _))

/-- The decimal of an integer and a scale, if both are in range. -/
def ofParts? (unscaled : Int) (scale : Nat) : Option Decimal :=
  if scale ≤ maxScale ∧ Fits unscaled then some ⟨unscaled, scale⟩ else none

def ofInt (i : Int) : Decimal :=
  ⟨i, 0⟩

/-- The integer part, cut toward zero. -/
def truncate (d : Decimal) : Int :=
  d.unscaled.tdiv (10 ^ d.scale)

/-- The decimal with another scale, if it fits. Digits that lose their place are cut off. -/
def rescale? (d : Decimal) (scale : Nat) : Option Decimal :=
  if maxScale < scale then none
  else if d.scale ≤ scale then ofParts? (d.unscaled * 10 ^ (scale - d.scale)) scale
  else ofParts? (d.unscaled.tdiv (10 ^ (d.scale - scale))) scale

/-- The digits of a decimal, with at least one in front of the point. -/
def paddedDigits (d : Decimal) : List Char :=
  Numeral.padded (d.scale + 1) d.unscaled.natAbs

/-- The characters of a decimal: a sign if it is negative, and a point if it has a scale. -/
def chars (d : Decimal) : List Char :=
  let ds := d.paddedDigits
  let split := ds.length - d.scale
  let body := if d.scale = 0 then ds else ds.take split ++ '.' :: ds.drop split
  if d.unscaled < 0 then '-' :: body else body

def text (d : Decimal) : String :=
  String.ofList d.chars

/-- Reads an optional sign and digits with at most one point among them. -/
def ofChars? (cs : List Char) : Option Decimal :=
  let (negative, body) := Numeral.signed cs
  let whole := body.takeWhile (· != '.')
  let fraction := (body.dropWhile (· != '.')).drop 1
  let ds := whole ++ fraction
  if Numeral.isNumeral ds && decide (fraction.length ≤ maxScale)
      && decide (Numeral.value ds < 2 ^ 127) then
    some ⟨Numeral.withSign negative (Numeral.value ds), fraction.length⟩
  else none

/-- Reads a decimal between blanks. -/
def ofText? (s : String) : Option Decimal :=
  ofChars? (Text.stripped s.toList)

/-- The decimal that a finite double's shortest text spells, if it fits. -/
def ofBinary64? (x : Binary64) : Option Decimal :=
  ofText? x.text

/-- The double nearest to a decimal. -/
def toBinary64 (d : Decimal) : Binary64 :=
  (Binary64.ofText? d.chars).getD (Binary64.quietNaN false)

end Decimal

end QueryReplay
