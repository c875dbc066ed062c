import QueryReplay.Error

/-!
# Reading values as a type

A value can be read as another type where that has one meaning. Numbers are
cut toward zero and then reduced to the width asked for; texts are parsed.
Null can only be read as an optional value.
-/

namespace QueryReplay

/-- Reads a decimal between blanks, or says that the text is none. -/
def Decimal.parse (s : String) : Except Error Decimal :=
  match ofText? s with
  | some d => .ok d
  | none => .error (.typeMismatch .text .decimal)

namespace Value

/-- The nearest integer that fits two's complement of sixteen bytes. -/
def clamp (i : Int) : Int :=
  max (-2 ^ 127) (min i (2 ^ 127 - 1))

/-- The integer of a text: an integer that fits sixteen bytes, or the integer part of a
decimal. -/
def integerOfText? (s : String) : Option Int :=
  let cs := Text.stripped s.toList
  match Numeral.int? cs with
  | some i => if Decimal.Fits i then some i else (Decimal.ofChars? cs).map Decimal.truncate
  | none => (Decimal.ofChars? cs).map Decimal.truncate

/-- The integer part of a value that has one. -/
def integer? : Value → Option Int
  | .bool b => some b.toNat
  | .int32 i => some i.toInt
  | .int64 i => some i.toInt
  | .float64 x => x.truncate?.map clamp
  | .decimal d => some d.truncate
  | .text s => integerOfText? s
  | _ => none

def int64? (v : Value) : Option Int64 :=
  v.integer?.map Int64.ofInt

def int32? (v : Value) : Option Int32 :=
  v.integer?.map Int32.ofInt

def float64? : Value → Option Binary64
  | .bool b => some (.ofInt b.toNat)
  | .int32 i => some (.ofInt i.toInt)
  | .int64 i => some (.ofInt i.toInt)
  | .float64 x => some x
  | .decimal d => some d.toBinary64
  | .text s => Binary64.ofText? (Text.stripped s.toList)
  | _ => none

/-- The truth value of a text: a digit, or a word in any case. -/
def boolOfText? (s : String) : Option Bool :=
  let word := String.ofList ((Text.stripped s.toList).map Char.toLower)
  if word = "1" ∨ word = "true" then some true
  else if word = "0" ∨ word = "false" then some false
  else none

/-- The value as a truth value. All numbers but zero are true. -/
def bool? : Value → Option Bool
  | .bool b => some b
  | .int32 i => some (i != 0)
  | .int64 i => some (i != 0)
  | .float64 x => some (!x.isZero)
  | .decimal d => some (d.unscaled != 0)
  | .text s => boolOfText? s
  | _ => none

def text? : Value → Option String
  | .null => none
  | .bytes _ => none
  | v => some v.display

def bytes? : Value → Option (List UInt8)
  | .bytes b => some b
  | .text s => some (Utf8.encode s)
  | _ => none

def decimal? : Value → Option Decimal
  | .bool b => some (.ofInt b.toNat)
  | .int32 i => some (.ofInt i.toInt)
  | .int64 i => some (.ofInt i.toInt)
  | .float64 x => Decimal.ofBinary64? x
  | .decimal d => some d
  | .text s => Decimal.ofText? s
  | _ => none

/-- The value as a timestamp. A date stands for its midnight. -/
def timestamp? : Value → Option Timestamp
  | .timestamp t => some t
  | .date d => some (.startOfDay d)
  | .text s => (Timestamp.ofText? s).or ((Date.ofText? s).map .startOfDay)
  | _ => none

/-- The value as a date. A timestamp stands for its date. -/
def date? : Value → Option Date
  | .date d => some d
  | .timestamp t => some t.date
  | .text s => (Date.ofText? s).or ((Timestamp.ofText? s).map (·.date))
  | _ => none

/-- The value as a time of day. A timestamp stands for its time. -/
def time? : Value → Option TimeOfDay
  | .time t => some t
  | .timestamp t => some t.time
  | .text s => (TimeOfDay.ofText? s).or ((Timestamp.ofText? s).map (·.time))
  | _ => none

/-- The value read as a type, as a value of that type. -/
def as? (v : Value) : Target → Option Value
  | .int64 => v.int64?.map .int64
  | .int32 => v.int32?.map .int32
  | .float64 => v.float64?.map .float64
  | .bool => v.bool?.map .bool
  | .text => v.text?.map .text
  | .bytes => v.bytes?.map .bytes
  | .decimal => v.decimal?.map .decimal
  | .timestamp => v.timestamp?.map .timestamp
  | .date => v.date?.map .date
  | .time => v.time?.map .time

/-- How a value is asked for. -/
inductive Request where
  /-- The value as it is. -/
  | asIs
  /-- The value read as a type. -/
  | required (target : Target)
  /-- Null, or the value read as a type. -/
  | optional (target : Target)
deriving DecidableEq, Repr

/-- Reads a value as a type, or says that it has no such meaning. -/
def coerce (v : Value) (target : Target) : Except Error Value :=
  match v.as? target with
  | some w => .ok w
  | none => .error (.typeMismatch v.kind target)

def read (v : Value) : Request → Except Error Value
  | .asIs => .ok v
  | .required target => v.coerce target
  | .optional target => if v.isNull then .ok .null else v.coerce target

end Value

end QueryReplay
