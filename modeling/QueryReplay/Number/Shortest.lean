import QueryReplay.Number.Binary64

/-!
# Doubles as decimal text

A finite double is written with the fewest digits that read back to it, the
nearest such number, and of two equally near ones the larger. The text never
has an exponent. Reading a decimal text gives the nearest double.
-/

namespace QueryReplay.Binary64

/-- The decimals that read back to `coefficient * 2 ^ exponent`, in quarters of that power. -/
structure Neighbourhood where
  low : Nat
  centre : Nat
  high : Nat
  /-- Whether the two ends belong to it. -/
  closed : Bool

/-- The half-way points on either side of a double. At a power of two the doubles below lie
twice as close. -/
def neighbourhood (coefficient : Nat) (exponent : Int) : Neighbourhood where
  low := if coefficient = 2 ^ 52 ∧ -1074 < exponent then 4 * coefficient - 1
    else 4 * coefficient - 2
  centre := 4 * coefficient
  high := 4 * coefficient + 2
  closed := coefficient % 2 == 0

/-- The exponent `k` with `10 ^ (k - 1) ≤ num / den < 10 ^ k`. -/
def decimalExponent (num den : Nat) : Int :=
  if den ≤ num then (Numeral.digits (num / den)).length
  else 1 - ((Numeral.digits ((den - 1) / num)).length : Int)

/-- The multiple of `10 ^ exponent` to write a double with: one of the two around it, if that
reads back to the double. -/
def gridPoint? (n : Neighbourhood) (unit : Int) (exponent : Int) : Option Nat :=
  let num := 2 ^ unit.toNat * 10 ^ (-exponent).toNat
  let den := 2 ^ (-unit).toNat * 10 ^ exponent.toNat
  let below := n.centre * num / den
  let above := below + 1
  let contains (d : Nat) : Bool :=
    if n.closed then n.low * num ≤ d * den && d * den ≤ n.high * num
    else n.low * num < d * den && d * den < n.high * num
  if contains below then
    if contains above && n.centre * num - below * den ≥ above * den - n.centre * num then
      some above
    else some below
  else if contains above then some above
  else none

/-- The first grid, from `places` digits on, that has a point to write the double with. -/
def firstGridPoint (n : Neighbourhood) (unit : Int) (top : Int) : Nat → Nat → Nat × Int
  | 0, places => (n.centre, top - places)
  | fuel + 1, places =>
    match gridPoint? n unit (top - places) with
    | some d => (d, top - places)
    | none => firstGridPoint n unit top fuel (places + 1)

/-- The shortest decimal `d * 10 ^ e` that reads back to `coefficient * 2 ^ exponent`.
Seventeen digits always do. -/
def shortest (coefficient : Nat) (exponent : Int) : Nat × Int :=
  let unit := exponent - 2
  let top := decimalExponent (4 * coefficient * 2 ^ unit.toNat) (2 ^ (-unit).toNat)
  firstGridPoint (neighbourhood coefficient exponent) unit top 17 1

/-- The number `d * 10 ^ exponent` without an exponent in its text. -/
def positional (d : Nat) (exponent : Int) : List Char :=
  if 0 ≤ exponent then
    Numeral.digits d ++ List.replicate exponent.toNat '0'
  else
    let places := (-exponent).toNat
    let ds := Numeral.padded (places + 1) d
    ds.take (ds.length - places) ++ '.' :: ds.drop (ds.length - places)

/-- The decimal without trailing zeros behind the point. -/
def dropTrailingZeros : Nat → Nat → Int → Nat × Int
  | 0, d, e => (d, e)
  | fuel + 1, d, e => if e < 0 ∧ d % 10 = 0 then dropTrailingZeros fuel (d / 10) (e + 1) else (d, e)

def text (x : Binary64) : String :=
  match x.reading with
  | .nan => "NaN"
  | .infinite negative => if negative then "-inf" else "inf"
  | .finite negative coefficient exponent =>
    let magnitude :=
      if coefficient = 0 then ['0']
      else
        let (d, e) := shortest coefficient exponent
        let (d, e) := dropTrailingZeros 17 d e
        positional d e
    String.ofList (if negative then '-' :: magnitude else magnitude)

/-- The double nearest to `m * 10 ^ exponent`. Beyond four hundred places on either side of the
point the answer is an infinity or a zero, and no large power is formed. -/
def ofDecimal (negative : Bool) (m : Nat) (exponent : Int) : Binary64 :=
  let top : Int := (Numeral.digits m).length + exponent
  if m = 0 ∨ top < -400 then ofFields negative 0
  else if 400 < top then infinity negative
  else ofRatio negative (m * 10 ^ exponent.toNat) (10 ^ (-exponent).toNat)

/-- The exponent behind a mantissa: nothing, or `e` and an integer. -/
def exponent? : List Char → Option Int
  | [] => some 0
  | c :: cs => if c = 'e' ∨ c = 'E' then Numeral.int? cs else none

/-- Reads a decimal number: digits with at most one point among them, at least one digit, and an
optional exponent; or a word for infinity or NaN in any case. A sign may stand in front. -/
def ofText? (cs : List Char) : Option Binary64 :=
  let (negative, body) := Numeral.signed cs
  let word := String.ofList (body.map Char.toLower)
  if word = "inf" ∨ word = "infinity" then some (infinity negative)
  else if word = "nan" then some (quietNaN negative)
  else
    let whole := body.takeWhile Char.isDigit
    let rest := body.dropWhile Char.isDigit
    let (fraction, rest) :=
      match rest with
      | '.' :: rest => (rest.takeWhile Char.isDigit, rest.dropWhile Char.isDigit)
      | _ => ([], rest)
    if whole.isEmpty && fraction.isEmpty then none
    else
      (exponent? rest).map fun e =>
        ofDecimal negative (Numeral.value (whole ++ fraction)) (e - fraction.length)

end QueryReplay.Binary64
