import QueryReplay.Entry.Input
import QueryReplay.Entry.Writer

/-!
# Reading stored results

The reader accepts a stored result in either form and nothing else: bytes that
are cut off, left over or out of range are refused, with the first defect met.
-/

namespace QueryReplay.Entry

open Reader

def getBool : Reader Value := do
  let b ← byte
  if b = 0 then pure (.bool false)
  else if b = 1 then pure (.bool true)
  else fail (.badBool b)

/-- A decimal, in two's complement of one to sixteen bytes. -/
def getDecimal : Reader Value := do
  let scale ← nat 4
  let length ← byte
  if length = 0 ∨ 16 < length then fail (.badDecimalLength length)
  let unscaled ← int length.toNat
  let d ← require (.badDecimalScale scale) (Decimal.ofParts? unscaled scale)
  return .decimal d

def getTimestamp : Reader Value := do
  let seconds ← int 8
  let nanos ← nat 4
  let t ← require .timestampOutOfRange (Timestamp.ofEpoch? seconds nanos)
  return .timestamp t

def getDate : Reader Value := do
  let days ← int 4
  let d ← require .dateOutOfRange (Date.ofDays? days)
  return .date d

def getTime : Reader Value := do
  let seconds ← nat 4
  let nanos ← nat 4
  let t ← require .timeOutOfRange (TimeOfDay.ofParts? seconds nanos)
  return .time t

/-- A value behind the tag of its kind. -/
def getValue : Reader Value := do
  let tag ← byte
  match tag with
  | 0 => pure .null
  | 1 => getBool
  | 2 => return .int32 (Int32.ofInt (← int 4))
  | 3 => return .int64 (Int64.ofInt (← int 8))
  | 4 => return .float64 ⟨UInt64.ofNat (← nat 8)⟩
  | 5 => getDecimal
  | 6 => return .text (← text)
  | 7 => getTimestamp
  | 8 => getDate
  | 9 => getTime
  | 10 => return .bytes (← bytes)
  | _ => fail (.unknownValueTag tag)

/-- The eight bits of a byte, the lowest first. -/
def bitsOfByte (b : UInt8) : List Bool :=
  (List.range 8).map fun i => b.toNat.testBit i

/-- The values of a row, given which are null, onto `done` in reverse. -/
def getCells (done : List Value) : List Bool → Reader Row
  | [] => pure done.reverse
  | true :: nulls => getCells (.null :: done) nulls
  | false :: nulls => do
    let v ← getValue
    if v.isNull then fail .unannouncedNull
    getCells (v :: done) nulls

/-- A row of `columns` values. A result without columns has no rows. -/
def getRow (columns : Nat) : Reader Row := do
  let bits := (← take (bitmapLength columns)).flatMap bitsOfByte
  if (bits.drop columns).any id then fail .strayNullBit
  let row ← getCells [] (bits.take columns)
  if columns = 0 then fail .rowWithoutColumns
  return row

/-- The description of a column. Its place is not stored. -/
def getColumn : Reader Column := do
  let name ← text
  let label ← text
  let tag ← byte
  let type ← require (.unknownTypeTag tag) (ColumnType.ofTag? tag)
  let typeName ← text
  let nullTag ← byte
  let nullability ← require (.unknownNullabilityTag nullTag) (Nullability.ofTag? nullTag)
  if type = .decimal then
    let precision := UInt32.ofNat (← nat 4)
    let scale := Int32.ofInt (← int 4)
    return ⟨name, label, 0, type, typeName, nullability, precision, scale⟩
  else
    return ⟨name, label, 0, type, typeName, nullability, 0, 0⟩

/-- The mark, the version and the columns, counted from one. -/
def getHeader : Reader (List Column) := do
  if (← take 4) ≠ magic then fail .badMagic
  let v ← byte
  if v ≠ version then fail (.unknownVersion v)
  let columns ← repeated (← nat 4) getColumn
  return ResultSet.storedColumns 1 columns

/-- The rows of a stream up to its end mark, onto `done` in reverse. Each row takes at least its
mark, so as many steps as there are bytes suffice; behind the last byte the mark is missing. -/
def getStreamedRows (columns : Nat) (done : List Row) : Nat → Reader (List Row)
  | 0 => fun input => .error (.truncated input.offset 1 input.rest.length)
  | steps + 1 => do
    let mark ← byte
    if mark = rowMark then
      let row ← getRow columns
      getStreamedRows columns (row :: done) steps
    else if mark = endMark then pure done.reverse
    else fail (.badRowMark mark)

/-- The number of rows and the rows. Each row takes at least its null bits, so a number of rows
that the input cannot hold is refused before any row is read. -/
def getRows (columns : Nat) : Reader (List Row) := do
  let count ← nat 8
  let left ← remaining
  if count = streamedRowCount then getStreamedRows columns [] left
  else
    if left < count * bitmapLength columns then fail (.impossibleRowCount count)
    repeated count (getRow columns)

/-- A stored result that reaches to the end of the input. -/
def getResult : Reader ResultSet := do
  let columns ← getHeader
  let rows ← getRows columns.length
  let left ← remaining
  if left ≠ 0 then fail (.trailingBytes left)
  return ⟨columns, rows⟩

/-- The result that bytes stand for, or their first defect. -/
def decodeResult (b : List UInt8) : Except Corruption ResultSet :=
  (getResult.run ⟨0, b⟩).map (·.1)

end QueryReplay.Entry
