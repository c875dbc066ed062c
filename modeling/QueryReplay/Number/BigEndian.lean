import QueryReplay.Number.Power

/-!
# Numbers as bytes

Natural numbers in a fixed number of bytes, most significant byte first, and
integers in two's complement, also in their shortest form.
-/

namespace QueryReplay.BigEndian

/-- The low `width` bytes of a number, most significant first. -/
def encode : Nat → Nat → List UInt8
  | 0, _ => []
  | width + 1, n => UInt8.ofNat (n / 256 ^ width) :: encode width n

/-- The number that bytes stand for, most significant first. -/
def decode (bytes : List UInt8) : Nat :=
  bytes.foldl (fun n b => 256 * n + b.toNat) 0

/-- An integer in two's complement of `width` bytes. -/
def encodeSigned (width : Nat) (i : Int) : List UInt8 :=
  encode width (i % (256 ^ width : Nat)).toNat

/-- The integer that bytes stand for in two's complement. -/
def decodeSigned (bytes : List UInt8) : Int :=
  let n := decode bytes
  if 2 * n < 256 ^ bytes.length then n else (n : Int) - (256 ^ bytes.length : Nat)

/-- Drops leading bytes that only repeat the sign of the byte behind them. -/
def dropSignBytes : List UInt8 → List UInt8
  | a :: b :: rest =>
    if (a = 0x00 ∧ b < 0x80) ∨ (a = 0xFF ∧ 0x80 ≤ b) then dropSignBytes (b :: rest)
    else a :: b :: rest
  | bytes => bytes

/-- The shortest two's complement of an integer of at most sixteen bytes. -/
def shortest (i : Int) : List UInt8 :=
  dropSignBytes (encodeSigned 16 i)

end QueryReplay.BigEndian
