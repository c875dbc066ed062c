import QueryReplay.Error

/-!
# Values as a database stores them

A database stores each value in one of five classes, whatever the column
declares. Read back, a value takes the declared type of its column where it
can stand for one, and else the type of its class.
-/

namespace QueryReplay

/-- A value as a database stores it. -/
inductive Native where
  | null
  | integer (i : Int64)
  | real (x : Binary64)
  /-- The bytes of a text, which need not be UTF-8. -/
  | text (bytes : List UInt8)
  | blob (bytes : List UInt8)
deriving DecidableEq, Repr

namespace Native

/-- The native form of a parameter. Decimals, dates and times are bound as text. -/
def ofValue : Value → Native
  | .null => .null
  | .bool b => .integer (if b then 1 else 0)
  | .int32 i => .integer i.toInt64
  | .int64 i => .integer i
  | .float64 x => .real x
  | .decimal d => .text (Utf8.encode d.text)
  | .text s => .text (Utf8.encode s)
  | .timestamp t => .text (Utf8.encode t.text)
  | .date d => .text (Utf8.encode d.text)
  | .time t => .text (Utf8.encode t.text)
  | .bytes b => .blob b

/-- A decimal with the places that its column declares, if it declares any and the decimal fits
them. -/
def aligned (scale : Int32) (d : Decimal) : Decimal :=
  if 0 < scale then (d.rescale? scale.toInt.toNat).getD d else d

/-- The truth value of a text in a boolean column. -/
def boolOfText? (s : String) : Option Bool :=
  let word := Text.strip s
  if word = "1" ∨ word = "true" ∨ word = "TRUE" then some true
  else if word = "0" ∨ word = "false" ∨ word = "FALSE" then some false
  else none

/-- The value of an integer in a column of a declared type. -/
def declaredInteger? (c : Column) (i : Int64) : Option Value :=
  match c.type with
  | .boolean => some (.bool (i != 0))
  | .integer =>
    if Int32.minValue.toInt ≤ i.toInt ∧ i.toInt ≤ Int32.maxValue.toInt then some (.int32 i.toInt32)
    else some (.int64 i)
  | .bigint => some (.int64 i)
  | .double => some (.float64 (.ofInt i.toInt))
  | .decimal => some (.decimal (aligned c.scale (.ofInt i.toInt)))
  | .varchar => some (.text (Value.intText i.toInt))
  | .timestamp => (Timestamp.ofEpochMillis? i.toInt).map .timestamp
  | .date => (Timestamp.ofEpochMillis? i.toInt).map fun t => .date t.date
  | _ => none

/-- The value of a floating-point number in a column of a declared type. -/
def declaredReal? (c : Column) (x : Binary64) : Option Value :=
  match c.type with
  | .double => some (.float64 x)
  | .decimal => (Decimal.ofBinary64? x).map fun d => .decimal (aligned c.scale d)
  | .varchar => some (.text x.text)
  | _ => none

/-- The value of a text in a column of a declared type. -/
def declaredText? (c : Column) (s : String) : Option Value :=
  match c.type with
  | .boolean => (boolOfText? s).map .bool
  | .decimal => (Decimal.ofText? s).map fun d => .decimal (aligned c.scale d)
  | .varchar => some (.text s)
  | .timestamp => (Timestamp.ofText? s).map .timestamp
  | .date => (Date.ofText? s).map .date
  | .time => (TimeOfDay.ofText? s).map .time
  | _ => none

/-- The value that a native value stands for in a column. Only a text that is not UTF-8 stands
for none. -/
def toValue (c : Column) : Native → Except Error Value
  | .null => .ok .null
  | .integer i => .ok ((declaredInteger? c i).getD (.int64 i))
  | .real x => .ok ((declaredReal? c x).getD (.float64 x))
  | .text b =>
    match Utf8.decode? b with
    | some s => .ok ((declaredText? c s).getD (.text s))
    | none => .error (.unsupportedText c.name c.type)
  | .blob b => .ok (.bytes b)

end Native

end QueryReplay
