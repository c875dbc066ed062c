import QueryReplay.Number.Binary64

/-!
# Extended precision

Positive numbers with 64 significant bits and any exponent. A product is the
exact one rounded once, of two equally near numbers to the even one.
-/

namespace QueryReplay

/-- The number `coefficient * 2 ^ exponent`, with at most 64 significant bits. -/
structure Extended where
  coefficient : Nat
  exponent : Int
deriving DecidableEq, Repr

namespace Extended

/-- The number nearest to `num / den`. -/
def ofRatio (num den : Nat) : Extended :=
  if num = 0 then ⟨0, 0⟩ else
  let scale : Int := (Nat.log2 num : Int) - Nat.log2 den - 64
  let tooFine := 2 ^ 64 * (den * 2 ^ scale.toNat) ≤ num * 2 ^ (-scale).toNat
  let step := if tooFine then scale + 1 else scale
  ⟨Binary64.roundHalfEven (num * 2 ^ (-step).toNat) (den * 2 ^ step.toNat), step⟩

/-- The product, rounded. -/
def mul (a b : Extended) : Extended :=
  let product := ofRatio (a.coefficient * b.coefficient) 1
  { product with exponent := product.exponent + a.exponent + b.exponent }

/-- The number nearest to a power of ten. -/
def tenTo (e : Int) : Extended :=
  ofRatio (10 ^ e.toNat) (10 ^ (-e).toNat)

/-- The number times `factor`, over and over. -/
def timesOften (factor : Extended) : Nat → Extended → Extended
  | 0, x => x
  | n + 1, x => timesOften factor n (x.mul factor)

/-- The number times `10 ^ e`, by hundreds, then tens, then single powers of ten. -/
def scaled (x : Extended) (e : Int) : Extended :=
  let unit (n : Int) : Int := if e < 0 then -n else n
  let places := e.natAbs
  timesOften (tenTo (unit 1)) (places % 10)
    (timesOften (tenTo (unit 10)) (places / 10 % 10)
      (timesOften (tenTo (unit 100)) (places / 100) x))

/-- The nearest double, with a sign; a number above all doubles becomes an infinity. -/
def toBinary64 (negative : Bool) (x : Extended) : Binary64 :=
  let num := x.coefficient * 2 ^ x.exponent.toNat
  let den := 2 ^ (-x.exponent).toNat
  if (2 ^ 53 - 1) * 2 ^ 971 * den < num then .infinity negative else .ofRatio negative num den

end Extended

end QueryReplay
