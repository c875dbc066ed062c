/-!
# Hexadecimal text

Bytes as pairs of lower-case hexadecimal digits. Reading takes both cases; a
pair may also be a plus sign and one digit, which then stands for itself.
-/

namespace QueryReplay.Hex

/-- The lower-case digit of a number below sixteen. -/
def digit (n : Nat) : Char :=
  Char.ofNat (if n < 10 then 0x30 + n else 0x57 + n)

/-- The number that a digit of either case stands for. -/
def digitValue? (c : Char) : Option Nat :=
  if '0' ≤ c && c ≤ '9' then some (c.toNat - 0x30)
  else if 'a' ≤ c && c ≤ 'f' then some (c.toNat - 0x57)
  else if 'A' ≤ c && c ≤ 'F' then some (c.toNat - 0x37)
  else none

/-- The digits of a byte string, high half of each byte first. -/
def digits (bytes : List UInt8) : List Char :=
  bytes.flatMap fun b => [digit (b.toNat / 16), digit (b.toNat % 16)]

def encode (bytes : List UInt8) : String :=
  String.ofList (digits bytes)

/-- The byte that a pair of characters stands for. -/
def pairValue? (high low : Char) : Option UInt8 :=
  if high = '+' then (digitValue? low).map UInt8.ofNat
  else
    match digitValue? high, digitValue? low with
    | some h, some l => some (UInt8.ofNat (16 * h + l))
    | _, _ => none

/-- Reads pairs of characters onto `done` in reverse. -/
def decodeOnto (done : List UInt8) : List Char → Option (List UInt8)
  | [] => some done.reverse
  | [_] => none
  | high :: low :: rest =>
    match pairValue? high low with
    | some b => decodeOnto (b :: done) rest
    | none => none

/-- The bytes that a hexadecimal text stands for. -/
def decode? (s : String) : Option (List UInt8) :=
  decodeOnto [] s.toList

end QueryReplay.Hex
