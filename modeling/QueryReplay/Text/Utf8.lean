/-!
# UTF-8

Texts as bytes and back. Reading refuses surrogates, overlong forms and code
points above U+10FFFF, and reports where and how far the first bad sequence
reaches.
-/

namespace QueryReplay.Utf8

/-- The first defect of a byte string that is not UTF-8. -/
inductive Fault where
  /-- A sequence of `length` bytes at `index` can never become a character. -/
  | invalid (length index : Nat)
  /-- The bytes end in the middle of a character that starts at `index`. -/
  | incomplete (index : Nat)
deriving DecidableEq, Repr

/-- The wording of a defect. -/
def Fault.message : Fault → String
  | .invalid length index => s!"invalid utf-8 sequence of {length} bytes from index {index}"
  | .incomplete index => s!"incomplete utf-8 byte sequence from index {index}"

def encodeChar (c : Char) : List UInt8 :=
  let n := c.toNat
  if n < 0x80 then [UInt8.ofNat n]
  else if n < 0x800 then [UInt8.ofNat (0xC0 + n / 0x40), UInt8.ofNat (0x80 + n % 0x40)]
  else if n < 0x10000 then
    [UInt8.ofNat (0xE0 + n / 0x1000), UInt8.ofNat (0x80 + n / 0x40 % 0x40),
     UInt8.ofNat (0x80 + n % 0x40)]
  else
    [UInt8.ofNat (0xF0 + n / 0x40000), UInt8.ofNat (0x80 + n / 0x1000 % 0x40),
     UInt8.ofNat (0x80 + n / 0x40 % 0x40), UInt8.ofNat (0x80 + n % 0x40)]

def encode (s : String) : List UInt8 :=
  s.toList.flatMap encodeChar

/-- Whether a byte continues a character. -/
def isContinuation (b : UInt8) : Bool :=
  0x80 ≤ b && b < 0xC0

/-- Whether `second` may follow the lead byte `lead` of a character of three or four bytes: it
must continue the character and keep its code point in range. -/
def allowsSecond (lead second : UInt8) : Bool :=
  isContinuation second
    && (lead != 0xE0 || 0xA0 ≤ second)
    && (lead != 0xED || second < 0xA0)
    && (lead != 0xF0 || 0x90 ≤ second)
    && (lead != 0xF4 || second < 0x90)

/-- The six bits that a continuation byte carries. -/
def payload (b : UInt8) : Nat :=
  b.toNat - 0x80

/-- Reads the characters of a byte string from position `index` on, onto `done` in reverse. -/
def decodeFrom (index : Nat) (done : List Char) : List UInt8 → Except Fault (List Char)
  | [] => .ok done.reverse
  | a :: rest =>
    if a < 0x80 then
      decodeFrom (index + 1) (Char.ofNat a.toNat :: done) rest
    else if a < 0xC2 || 0xF5 ≤ a then
      .error (.invalid 1 index)
    else
      match rest with
      | [] => .error (.incomplete index)
      | b :: rest =>
        if a < 0xE0 then
          if isContinuation b then
            decodeFrom (index + 2)
              (Char.ofNat ((a.toNat - 0xC0) * 0x40 + payload b) :: done) rest
          else .error (.invalid 1 index)
        else if allowsSecond a b then
          match rest with
          | [] => .error (.incomplete index)
          | c :: rest =>
            if isContinuation c then
              if a < 0xF0 then
                decodeFrom (index + 3)
                  (Char.ofNat ((a.toNat - 0xE0) * 0x1000 + payload b * 0x40 + payload c)
                    :: done) rest
              else
                match rest with
                | [] => .error (.incomplete index)
                | d :: rest =>
                  if isContinuation d then
                    decodeFrom (index + 4)
                      (Char.ofNat ((a.toNat - 0xF0) * 0x40000 + payload b * 0x1000
                        + payload c * 0x40 + payload d) :: done) rest
                  else .error (.invalid 3 index)
            else .error (.invalid 2 index)
        else .error (.invalid 1 index)

/-- The text that a byte string spells, or its first defect. -/
def decode (bytes : List UInt8) : Except Fault String :=
  (decodeFrom 0 [] bytes).map String.ofList

/-- The text that a byte string spells, if it spells one. -/
def decode? (bytes : List UInt8) : Option String :=
  (decode bytes).toOption

end QueryReplay.Utf8
