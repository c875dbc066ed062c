import QueryReplay.Number.BigEndian
import QueryReplay.ResultSet

/-!
# Writing results as bytes

A stored result starts with a mark and a version, then lists its columns, the
number of rows and the rows. Texts and byte strings stand behind their length,
and every value behind the tag of its kind. A row starts with one bit per
column that says which values are null; those are not written.

Where the number of rows is not known at the start, the largest number stands
in its place, a byte 1 stands in front of each row and a byte 0 behind the
last.
-/

namespace QueryReplay.Entry

open BigEndian

/-- The mark at the start of a stored result. -/
def magic : List UInt8 := [0x53, 0x51, 0x4C, 0x43]

def version : UInt8 := 2

/-- The number that stands for an unknown number of rows. -/
def streamedRowCount : Nat := 2 ^ 64 - 1

/-- The byte in front of a streamed row. -/
def rowMark : UInt8 := 1

/-- The byte behind the last streamed row. -/
def endMark : UInt8 := 0

/-- A byte string behind its length. -/
def putBytes (b : List UInt8) : List UInt8 :=
  encode 8 b.length ++ b

/-- A text behind the number of its bytes. -/
def putText (s : String) : List UInt8 :=
  putBytes (Utf8.encode s)

/-- A decimal: its scale and its digits in the shortest two's complement. -/
def putDecimal (d : Decimal) : List UInt8 :=
  let digits := shortest d.unscaled
  encode 4 d.scale ++ encode 1 digits.length ++ digits

/-- A value behind the tag of its kind. -/
def putValue : Value → List UInt8
  | .null => [0]
  | .bool b => [1, if b then 1 else 0]
  | .int32 i => 2 :: encodeSigned 4 i.toInt
  | .int64 i => 3 :: encodeSigned 8 i.toInt
  | .float64 x => 4 :: encode 8 x.bits.toNat
  | .decimal d => 5 :: putDecimal d
  | .text s => 6 :: putText s
  | .timestamp t => 7 :: (encodeSigned 8 t.epochSeconds ++ encode 4 t.time.nanos)
  | .date d => 8 :: encodeSigned 4 d.days
  | .time t => 9 :: (encode 4 t.seconds ++ encode 4 t.nanos)
  | .bytes b => 10 :: putBytes b

/-- The byte of up to eight bits, the first the lowest. -/
def byteOfBits : List Bool → Nat
  | [] => 0
  | b :: bs => b.toNat + 2 * byteOfBits bs

/-- Bits in bytes of eight, the last filled up with zeros. -/
def packBits (bits : List Bool) : List UInt8 :=
  if bits.isEmpty then []
  else UInt8.ofNat (byteOfBits (bits.take 8)) :: packBits (bits.drop 8)
termination_by bits.length
decreasing_by
  cases bits with
  | nil => contradiction
  | cons => simp only [List.drop_succ_cons, List.length_drop, List.length_cons]; omega

/-- The bytes that hold one bit for each of `n` columns. -/
def bitmapLength (n : Nat) : Nat :=
  (n + 7) / 8

/-- A row: its null bits, and its values but for the nulls. -/
def putRow (row : Row) : List UInt8 :=
  packBits (row.map Value.isNull) ++ (row.filter (!·.isNull)).flatMap putValue

/-- The description of a column, with digits only for decimals. -/
def putColumn (c : Column) : List UInt8 :=
  putText c.name ++ putText c.label ++ c.type.tag :: putText c.typeName ++ c.nullability.tag ::
    if c.type = .decimal then encode 4 c.precision.toNat ++ encodeSigned 4 c.scale.toInt else []

/-- The mark, the version and the columns. -/
def putHeader (columns : List Column) : List UInt8 :=
  magic ++ version :: encode 4 columns.length ++ columns.flatMap putColumn

/-- A result with its number of rows. -/
def encodeResult (r : ResultSet) : List UInt8 :=
  putHeader r.columns ++ encode 8 r.rows.length ++ r.rows.flatMap putRow

/-- A row of a stream, behind its mark. -/
def putStreamedRow (row : Row) : List UInt8 :=
  rowMark :: putRow row

/-- A result as a stream of rows. -/
def encodeStream (r : ResultSet) : List UInt8 :=
  putHeader r.columns ++ encode 8 streamedRowCount ++ r.rows.flatMap putStreamedRow ++ [endMark]

/-- A stream that is being written: the number of columns, and the bytes so far. -/
structure Stream where
  columns : Nat
  written : List UInt8
deriving DecidableEq, Repr

namespace Stream

/-- A stream that has only its header. -/
def start (columns : List Column) : Stream :=
  ⟨columns.length, putHeader columns ++ encode 8 streamedRowCount⟩

/-- Adds a row. One of another width is refused and leaves the stream as it is. -/
def put (s : Stream) (row : Row) : Except Error Stream :=
  if row.length ≠ s.columns then .error (.corrupt (.rowWidth row.length s.columns))
  else .ok { s with written := s.written ++ putStreamedRow row }

/-- All bytes, once the end mark is written. -/
def finish (s : Stream) : List UInt8 :=
  s.written ++ [endMark]

end Stream

end QueryReplay.Entry
