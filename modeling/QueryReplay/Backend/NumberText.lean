import QueryReplay.Backend.Native
import QueryReplay.Number.Extended

/-!
# Numbers in stored text

A text that spells a number becomes an integer or a double when a numeric
column stores it. The double is made from the first digits, as many as 64 bits
hold, and from powers of ten in extended precision; so it may miss the double
nearest to the text by one place.
-/

namespace QueryReplay.NumberText

/-- The spaces that may surround a number. -/
def isSpace (c : Char) : Bool :=
  c == ' ' || (0x09 ≤ c.toNat && c.toNat ≤ 0x0D)

/-- The number `significand * 10 ^ exponent`, or its negative. -/
structure Scientific where
  negative : Bool
  significand : Nat
  exponent : Int
deriving DecidableEq, Repr

/-- A significand from here on takes no more digits. -/
def full : Nat := (2 ^ 64 - 10) / 10

/-- The significand with digits behind it, and the number of digits that it does not take. -/
def takeDigits (significand : Nat) : List Char → Nat × Nat
  | [] => (significand, 0)
  | c :: rest =>
    if significand < full then takeDigits (significand * 10 + Numeral.value [c]) rest
    else (significand, rest.length + 1)

/-- The greatest exponent that is told from a greater one. -/
def farExponent : Nat := 20000

/-- The exponent behind a mantissa: nothing, or `e` and an integer. -/
def exponent? (cs : List Char) : Option Int :=
  (Binary64.exponent? cs).map fun e => max (-farExponent) (min farExponent e)

/-- The number that a text without spaces around it spells. -/
def scientific? (cs : List Char) : Option Scientific :=
  let (negative, body) := Numeral.signed cs
  let whole := body.takeWhile Char.isDigit
  let rest := body.dropWhile Char.isDigit
  let (fraction, rest) :=
    match rest with
    | '.' :: rest => (rest.takeWhile Char.isDigit, rest.dropWhile Char.isDigit)
    | _ => ([], rest)
  if whole.isEmpty && fraction.isEmpty then none
  else
    (exponent? rest).map fun e =>
      let (significand, dropped) := takeDigits 0 whole
      let (significand, ignored) := takeDigits significand fraction
      ⟨negative, significand, e + dropped - (fraction.length - ignored : Nat)⟩

/-- Moves powers of ten from the exponent into the significand while 64 bits hold it. -/
def absorb : Nat → Nat → Int → Nat × Int
  | 0, s, e => (s, e)
  | fuel + 1, s, e =>
    if 0 < e ∧ s < (2 ^ 64 - 1) / 10 then absorb fuel (s * 10) (e - 1)
    else if e < 0 ∧ s % 10 = 0 then absorb fuel (s / 10) (e + 1)
    else (s, e)

/-- The double that a number is stored as. -/
def Scientific.toBinary64 (x : Scientific) : Binary64 :=
  if x.significand = 0 then .ofFields x.negative 0
  else
    let (s, e) := absorb 20 x.significand x.exponent
    if e = 0 then .ofRatio x.negative s 1
    else ((Extended.ofRatio s 1).scaled e).toBinary64 x.negative

/-- A double as an integer if it is equal to one strictly between the limits of 64 bits. -/
def preferInteger (x : Binary64) : Native :=
  match x.int? with
  | some i => if -2 ^ 63 < i ∧ i < 2 ^ 63 - 1 then .integer (Int64.ofInt i) else .real x
  | none => .real x

/-- The number that a text spells, between any spaces. -/
def number? (bytes : List UInt8) : Option Native :=
  let cs := bytes.map fun b => Char.ofNat b.toNat
  let cs := ((cs.dropWhile isSpace).reverse.dropWhile isSpace).reverse
  match Numeral.int? cs, scientific? cs with
  | some i, some x =>
    if -2 ^ 63 ≤ i ∧ i < 2 ^ 63 then some (.integer (Int64.ofInt i))
    else some (preferInteger x.toBinary64)
  | none, some x => some (preferInteger x.toBinary64)
  | _, none => none

end QueryReplay.NumberText
