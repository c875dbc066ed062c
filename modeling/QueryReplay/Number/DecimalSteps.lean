import QueryReplay.Number.Decimal

/-!
# Decimals step by step

The operations on decimals as they are carried out in integers of fixed width.
Lengths and scales are unsigned words, and the integer of a decimal is two's
complement of sixteen bytes. A step whose exact result has no room is a fault.
Steps with a question mark look for that themselves and give no result instead,
which is no fault.
-/

namespace QueryReplay

/-- Why a step cannot be carried out. -/
inductive StepFault where
  /-- The exact result has no room. -/
  | outOfRange
  | divisionByZero
  /-- A text is cut behind its end. -/
  | cutOutside
deriving DecidableEq, Repr

/-! ## Steps -/

namespace Word

/-- The sum of two unsigned words of so many bits. -/
def add (bits a b : Nat) : Except StepFault Nat :=
  if a + b < 2 ^ bits then pure (a + b) else throw .outOfRange

/-- The difference of two unsigned words. -/
def sub (a b : Nat) : Except StepFault Nat :=
  if b ≤ a then pure (a - b) else throw .outOfRange

end Word

namespace Int128

open Decimal (Fits)

def inRange? (i : Int) : Option Int :=
  if Fits i then some i else none

def product? (i j : Int) : Option Int :=
  inRange? (i * j)

def power? (base : Int) (exponent : Nat) : Option Int :=
  inRange? (base ^ exponent)

/-- The number of a string of digits. -/
def ofDigits? (ds : List Char) : Option Int :=
  inRange? (Numeral.value ds)

def negate (i : Int) : Except StepFault Int :=
  if Fits (-i) then pure (-i) else throw .outOfRange

/-- The integer of a sign and a magnitude. -/
def withSign (negative : Bool) (magnitude : Int) : Except StepFault Int :=
  if negative then negate magnitude else pure magnitude

/-- The quotient, cut toward zero. -/
def divide (i j : Int) : Except StepFault Int :=
  if j = 0 then throw .divisionByZero
  else if Fits (i.tdiv j) then pure (i.tdiv j)
  else throw .outOfRange

end Int128

/-! ## Operations -/

namespace Decimal

/-- The decimal of an integer that has room, if the scale is in range. -/
def new? (unscaled : Int) (scale : Nat) : Option Decimal :=
  if scale ≤ maxScale then some ⟨unscaled, scale⟩ else none

/-- The integer part. Zero stands in where the power of ten has no room. -/
def truncateSteps (d : Decimal) : Except StepFault Int :=
  (Int128.power? 10 d.scale).elim (pure 0) fun divisor => Int128.divide d.unscaled divisor

/-- The decimal with another scale. -/
def rescaleSteps (d : Decimal) (scale : Nat) : Except StepFault (Option Decimal) :=
  if d.scale ≤ scale then do
    let places ← Word.sub scale d.scale
    pure <| (Int128.power? 10 places).bind fun factor =>
      (Int128.product? d.unscaled factor).bind fun product => new? product scale
  else do
    let places ← Word.sub d.scale scale
    (Int128.power? 10 places).elim (pure none) fun divisor => do
      let quotient ← Int128.divide d.unscaled divisor
      pure (new? quotient scale)

/-- Digits with zeros in front, so that one stands before the point. -/
def padSteps (ds : List Char) (scale : Nat) : Except StepFault (List Char) :=
  if ds.length ≤ scale then do
    let missing ← Word.sub scale ds.length
    let zeros ← Word.add 64 missing 1
    pure (List.replicate zeros '0' ++ ds)
  else pure ds

/-- Digits cut in two, the last `scale` of them on their own. -/
def cutSteps (ds : List Char) (scale : Nat) : Except StepFault (List Char × List Char) := do
  let split ← Word.sub ds.length scale
  if split ≤ ds.length then pure (ds.take split, ds.drop split) else throw .cutOutside

/-- The characters of a decimal. -/
def charsSteps (d : Decimal) : Except StepFault (List Char) :=
  let ds := Numeral.digits d.unscaled.natAbs
  let sign := if d.unscaled < 0 then ['-'] else []
  if d.scale = 0 then pure (sign ++ ds)
  else do
    let padded ← padSteps ds d.scale
    let (whole, fraction) ← cutSteps padded d.scale
    pure (sign ++ (whole ++ '.' :: fraction))

/-- Reads an optional sign and digits with at most one point among them. The digits are read
before the sign. -/
def ofCharsSteps (cs : List Char) : Except StepFault (Option Decimal) :=
  let (negative, body) := Numeral.signed cs
  let whole := body.takeWhile (· != '.')
  let fraction := (body.dropWhile (· != '.')).drop 1
  let ds := whole ++ fraction
  if whole.isEmpty && fraction.isEmpty then pure none
  else if !ds.all Char.isDigit then pure none
  else if 2 ^ 32 ≤ fraction.length then pure none
  else (if ds.isEmpty then some 0 else Int128.ofDigits? ds).elim (pure none) fun magnitude => do
    let unscaled ← Int128.withSign negative magnitude
    pure (new? unscaled fraction.length)

end Decimal

end QueryReplay
