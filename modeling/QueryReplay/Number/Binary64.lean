import QueryReplay.Number.Power
import QueryReplay.Text.Numeral

/-!
# Double-precision numbers

A double is its 64 bits: two doubles are equal when their bits are, so a NaN
equals itself and the two zeros differ. A finite double is a signed multiple
of a power of two, and all arithmetic here is exact on that reading.
-/

namespace QueryReplay

/-- A double-precision number, given by its bits. -/
structure Binary64 where
  /-- Sign, eleven bits of exponent and 52 bits of fraction. -/
  bits : UInt64
deriving DecidableEq, Repr

namespace Binary64

/-- What the bits of a double stand for. -/
inductive Reading where
  /-- The number `coefficient * 2 ^ exponent`, or its negative. -/
  | finite (negative : Bool) (coefficient : Nat) (exponent : Int)
  | infinite (negative : Bool)
  | nan
deriving DecidableEq, Repr

def signBit (x : Binary64) : Bool :=
  x.bits.toNat / 2 ^ 63 == 1

/-- The eleven bits of the exponent. -/
def exponentField (x : Binary64) : Nat :=
  x.bits.toNat / 2 ^ 52 % 2 ^ 11

/-- The 52 bits of the fraction. -/
def fractionField (x : Binary64) : Nat :=
  x.bits.toNat % 2 ^ 52

/-- The number, infinity or NaN that the bits stand for. -/
def reading (x : Binary64) : Reading :=
  if x.exponentField = 0 then
    .finite x.signBit x.fractionField (-1074)
  else if x.exponentField = 2047 then
    if x.fractionField = 0 then .infinite x.signBit else .nan
  else
    .finite x.signBit (x.fractionField + 2 ^ 52) ((x.exponentField : Int) - 1075)

/-- Whether the double stands for zero, of either sign. -/
def isZero (x : Binary64) : Bool :=
  match x.reading with
  | .finite _ coefficient _ => coefficient == 0
  | _ => false

/-- Whether the double stands for no number at all. -/
def isNaN (x : Binary64) : Bool :=
  x.reading == .nan

/-- `coefficient * 2 ^ exponent` without the digits behind the point. -/
def wholePart (coefficient : Nat) (exponent : Int) : Nat :=
  coefficient * 2 ^ exponent.toNat / 2 ^ (-exponent).toNat

/-- The integer part of a finite double, cut toward zero. -/
def truncate? (x : Binary64) : Option Int :=
  match x.reading with
  | .finite negative coefficient exponent =>
    some (Numeral.withSign negative (wholePart coefficient exponent))
  | _ => none

/-- The integer that a finite double is equal to, if there is one. -/
def int? (x : Binary64) : Option Int :=
  match x.reading with
  | .finite negative coefficient exponent =>
    let whole := wholePart coefficient exponent
    if whole * 2 ^ (-exponent).toNat = coefficient * 2 ^ exponent.toNat then
      some (Numeral.withSign negative whole)
    else none
  | _ => none

/-- The bits of a sign and a magnitude. -/
def ofFields (negative : Bool) (magnitude : Nat) : Binary64 :=
  ⟨UInt64.ofNat (if negative then 2 ^ 63 + magnitude else magnitude)⟩

/-- The infinity of a sign. -/
def infinity (negative : Bool) : Binary64 :=
  ofFields negative (2047 * 2 ^ 52)

/-- The quiet NaN without a payload, of a sign. -/
def quietNaN (negative : Bool) : Binary64 :=
  ofFields negative (2047 * 2 ^ 52 + 2 ^ 51)

/-- The nearest integer to `num / den`, of two equally near ones the even one. -/
def roundHalfEven (num den : Nat) : Nat :=
  let quotient := num / den
  let twice := 2 * (num % den)
  if den < twice ∨ (twice = den ∧ quotient % 2 = 1) then quotient + 1 else quotient

/-- The double nearest to `num / den`, of two equally near ones the one with an even fraction.

With `step` the distance of neighbouring doubles around the quotient, the quotient is rounded
to a multiple of `step`; the bits of the result are then that multiple plus one more binade for
each doubling of `step`. -/
def ofRatio (negative : Bool) (num den : Nat) : Binary64 :=
  if num = 0 then ofFields negative 0 else
  let scale : Int := (Nat.log2 num : Int) - Nat.log2 den - 53
  let multiple (step : Int) : Nat :=
    roundHalfEven (num * 2 ^ (-step).toNat) (den * 2 ^ step.toNat)
  let tooFine := 2 ^ 53 * (den * 2 ^ scale.toNat) ≤ num * 2 ^ (-scale).toNat
  let step := max (if tooFine then scale + 1 else scale) (-1074)
  let magnitude := (step + 1074).toNat * 2 ^ 52 + multiple step
  if 2047 * 2 ^ 52 ≤ magnitude then infinity negative else ofFields negative magnitude

/-- The double nearest to an integer. -/
def ofInt (i : Int) : Binary64 :=
  ofRatio (decide (i < 0)) i.natAbs 1

end Binary64

end QueryReplay
