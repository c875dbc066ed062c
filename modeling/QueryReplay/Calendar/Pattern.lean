import QueryReplay.Text.Blank
import QueryReplay.Text.Numeral
import QueryReplay.Calendar.Timestamp
import QueryReplay.Number.Power

/-!
# Dates and times as text

A pattern lists the parts of a date or time in the order of its text. The
same pattern writes and reads. Reading is looser: numbers may have fewer
digits and blanks in front, and the fraction of a second may be missing.
-/

namespace QueryReplay.Calendar

/-- One part of a date or time in text. -/
inductive Part where
  | year
  | month
  | day
  | hour
  | minute
  | second
  /-- A point and the digits of the nanoseconds, or nothing. -/
  | fraction
  /-- A space; in reading any number of blanks. -/
  | gap
  /-- A character that stands for itself. -/
  | mark (c : Char)
deriving DecidableEq, Repr

/-- The numbers of a date and time as they stand in text. -/
structure Fields where
  year : Int := 0
  month : Nat := 0
  day : Nat := 0
  hour : Nat := 0
  minute : Nat := 0
  second : Nat := 0
  nanos : Nat := 0
deriving DecidableEq, Repr

/-- The parts of a text in order. -/
abbrev Pattern := List Part

/-- Year, month and day with dashes between them. -/
def datePattern : Pattern :=
  [.year, .mark '-', .month, .mark '-', .day]

/-- Hour and minute with a colon between them. -/
def minutePattern : Pattern :=
  [.hour, .mark ':', .minute]

/-- Hour, minute and second with colons between them, and the fraction. -/
def timePattern : Pattern :=
  minutePattern ++ [.mark ':', .second, .fraction]

/-- A date and a time with a space between them. -/
def timestampPattern : Pattern :=
  datePattern ++ .gap :: timePattern

/-- The digits of a year: four from year 0 to 9999, elsewhere a sign and at least four. -/
def yearDigits (year : Int) : List Char :=
  if 0 ≤ year ∧ year ≤ 9999 then Numeral.padded 4 year.toNat
  else (if year < 0 then '-' else '+') :: Numeral.padded 4 year.natAbs

/-- Nothing for zero, else a point and three, six or nine digits, the fewest that are exact. -/
def fractionDigits (nanos : Nat) : List Char :=
  if nanos = 0 then []
  else if nanos % 1000000 = 0 then '.' :: Numeral.padded 3 (nanos / 1000000)
  else if nanos % 1000 = 0 then '.' :: Numeral.padded 6 (nanos / 1000)
  else '.' :: Numeral.padded 9 nanos

def Part.write (f : Fields) : Part → List Char
  | .year => yearDigits f.year
  | .month => Numeral.padded 2 f.month
  | .day => Numeral.padded 2 f.day
  | .hour => Numeral.padded 2 f.hour
  | .minute => Numeral.padded 2 f.minute
  | .second => Numeral.padded 2 f.second
  | .fraction => fractionDigits f.nanos
  | .gap => [' ']
  | .mark c => [c]

def Pattern.write (p : Pattern) (f : Fields) : List Char :=
  p.flatMap (Part.write f)

/-- A number of one to `most` digits, and what follows it. -/
def number? (most : Nat) (cs : List Char) : Option (Nat × List Char) :=
  let ds := (cs.take most).takeWhile Char.isDigit
  if ds.isEmpty then none else some (Numeral.value ds, cs.drop ds.length)

/-- A number of one or two digits behind any blanks. -/
def shortNumber? (cs : List Char) : Option (Nat × List Char) :=
  number? 2 (Text.dropBlanks cs)

/-- A year behind any blanks: up to four digits, or a sign and any number of them. -/
def year? (cs : List Char) : Option (Int × List Char) :=
  match Text.dropBlanks cs with
  | '-' :: cs => (number? cs.length cs).map fun (n, rest) => (-(n : Int), rest)
  | '+' :: cs => (number? cs.length cs).map fun (n, rest) => ((n : Int), rest)
  | cs => (number? 4 cs).map fun (n, rest) => ((n : Int), rest)

/-- Behind a point, the nanoseconds that the first nine digits stand for; further digits are
skipped. Without a point, nothing is read. -/
def fraction? (cs : List Char) : Option (Nat × List Char) :=
  match cs with
  | '.' :: cs =>
    let ds := cs.takeWhile Char.isDigit
    if ds.isEmpty then none
    else
      let first := ds.take 9
      some (Numeral.value first * 10 ^ (9 - first.length), cs.drop ds.length)
  | cs => some (0, cs)

/-- Reads one part into the fields, and gives what follows it. -/
def Part.read? (f : Fields) (cs : List Char) : Part → Option (Fields × List Char)
  | .year => (year? cs).map fun (n, rest) => ({ f with year := n }, rest)
  | .month => (shortNumber? cs).map fun (n, rest) => ({ f with month := n }, rest)
  | .day => (shortNumber? cs).map fun (n, rest) => ({ f with day := n }, rest)
  | .hour => (shortNumber? cs).map fun (n, rest) => ({ f with hour := n }, rest)
  | .minute => (shortNumber? cs).map fun (n, rest) => ({ f with minute := n }, rest)
  | .second => (shortNumber? cs).map fun (n, rest) => ({ f with second := n }, rest)
  | .fraction => (fraction? cs).map fun (n, rest) => ({ f with nanos := n }, rest)
  | .gap => some (f, Text.dropBlanks cs)
  | .mark c =>
    match cs with
    | d :: rest => if c = d then some (f, rest) else none
    | [] => none

/-- Reads the parts of a pattern in turn. -/
def Pattern.readFrom? (f : Fields) (cs : List Char) : Pattern → Option (Fields × List Char)
  | [] => some (f, cs)
  | part :: p =>
    match part.read? f cs with
    | some (f, rest) => readFrom? f rest p
    | none => none

/-- Reads a text that the pattern covers to its end. -/
def Pattern.read? (p : Pattern) (cs : List Char) : Option Fields :=
  match Pattern.readFrom? {} cs p with
  | some (f, []) => some f
  | _ => none

def Fields.date? (f : Fields) : Option Date :=
  Date.ofCivil? ⟨f.year, f.month, f.day⟩

def Fields.time? (f : Fields) : Option TimeOfDay :=
  TimeOfDay.ofClock? f.hour f.minute f.second f.nanos

def Fields.timestamp? (f : Fields) : Option Timestamp :=
  match f.date?, f.time? with
  | some date, some time => some ⟨date, time⟩
  | _, _ => none

def Fields.ofTimestamp (t : Timestamp) : Fields :=
  let c := t.date.civil
  { year := c.year, month := c.month, day := c.day, hour := t.time.hour,
    minute := t.time.minute, second := t.time.second, nanos := t.time.subsecond }

end QueryReplay.Calendar

namespace QueryReplay

open Calendar

/-- The text of a timestamp, such as `2020-01-15 08:30:00.5`. -/
def Timestamp.text (t : Timestamp) : String :=
  String.ofList (timestampPattern.write (.ofTimestamp t))

/-- The text of a date, such as `2020-01-15`. -/
def Date.text (d : Date) : String :=
  String.ofList (datePattern.write (.ofTimestamp ⟨d, .midnight⟩))

/-- The text of a time, such as `08:30:00`. -/
def TimeOfDay.text (t : TimeOfDay) : String :=
  String.ofList (timePattern.write (.ofTimestamp ⟨⟨1⟩, t⟩))

/-- Reads a timestamp: a date and a time apart or with a `T` between them, or a date and a time
without seconds. -/
def Timestamp.ofText? (s : String) : Option Timestamp :=
  let cs := Text.stripped s.toList
  let read (p : Pattern) : Option Timestamp := (p.read? cs).bind Fields.timestamp?
  (read timestampPattern).or <| (read (datePattern ++ .mark 'T' :: timePattern)).or <|
    read (datePattern ++ .gap :: minutePattern)

def Date.ofText? (s : String) : Option Date :=
  (datePattern.read? (Text.stripped s.toList)).bind Fields.date?

/-- Reads a time, with seconds or without. -/
def TimeOfDay.ofText? (s : String) : Option TimeOfDay :=
  let cs := Text.stripped s.toList
  let read (p : Pattern) : Option TimeOfDay := (p.read? cs).bind Fields.time?
  (read timePattern).or (read minutePattern)

end QueryReplay
