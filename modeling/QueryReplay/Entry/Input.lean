import QueryReplay.Number.BigEndian
import QueryReplay.Entry.Corruption

/-!
# Reading bytes

A reader takes bytes off an input and fails with a defect where they do not
suffice or make no sense. The input remembers how far it has been read.
-/

namespace QueryReplay.Entry

/-- The bytes still to be read, and how many have been read before them. -/
structure Input where
  offset : Nat
  rest : List UInt8
deriving DecidableEq, Repr

/-- A step that reads some bytes. -/
abbrev Reader (α : Type) := StateT Input (Except Corruption) α

namespace Reader

/-- Takes that many bytes. -/
def take (count : Nat) : Reader (List UInt8) := fun input =>
  let taken := input.rest.take count
  if taken.length = count then .ok (taken, ⟨input.offset + count, input.rest.drop count⟩)
  else .error (.truncated input.offset count input.rest.length)

/-- Refuses the input. -/
def fail {α : Type} (defect : Corruption) : Reader α :=
  throw defect

/-- What an option holds, or a defect. -/
def require {α : Type} (defect : Corruption) : Option α → Reader α
  | some a => pure a
  | none => fail defect

/-- The number of bytes that are left. -/
def remaining : Reader Nat := fun input =>
  .ok (input.rest.length, input)

/-- A natural number of that many bytes. -/
def nat (width : Nat) : Reader Nat := do
  return BigEndian.decode (← take width)

/-- An integer of that many bytes. -/
def int (width : Nat) : Reader Int := do
  return BigEndian.decodeSigned (← take width)

def byte : Reader UInt8 := do
  return UInt8.ofNat (← nat 1)

/-- A byte string behind its length. -/
def bytes : Reader (List UInt8) := do
  take (← nat 8)

/-- A text behind the number of its bytes. -/
def text : Reader String := do
  match Utf8.decode (← bytes) with
  | .ok s => pure s
  | .error fault => fail (.badText fault)

/-- Reads `count` items one after another, onto `done` in reverse. -/
def repeatOnto {α : Type} (item : Reader α) (done : List α) : Nat → Reader (List α)
  | 0 => pure done.reverse
  | count + 1 => do
    let a ← item
    repeatOnto item (a :: done) count

/-- Reads `count` items one after another. -/
def repeated {α : Type} (count : Nat) (item : Reader α) : Reader (List α) :=
  repeatOnto item [] count

end Reader

end QueryReplay.Entry
