import QueryReplay.Calendar.Date
import QueryReplay.Config.Document
import QueryReplay.Number.Shortest
import QueryReplay.Text.Hex

/-!
# Scalars in TOML

Switches, integers, floating-point numbers, and dates and times. No setting
is a number or a date, so only the form of these counts, and whether a number
has a value at all.
-/

namespace QueryReplay.Toml

/-- Whether a character may occur in a scalar without quotes. -/
def isScalarChar (c : Char) : Bool :=
  c.isAlphanum || c == '+' || c == '-' || c == '_' || c == '.' || c == ':'

/-- Digits with single underscores between some of them, without the underscores. -/
def ungrouped? (isDigit : Char → Bool) : List Char → Option (List Char)
  | [] => none
  | [c] => if isDigit c then some [c] else none
  | c :: '_' :: rest => if isDigit c then (ungrouped? isDigit rest).map (c :: ·) else none
  | c :: rest => if isDigit c then (ungrouped? isDigit rest).map (c :: ·) else none

/-- Whether digits are written without needless zeros in front. -/
def isShort (ds : List Char) : Bool :=
  ds.length == 1 || ds.head? != some '0'

/-- Whether a number is in the range of integers. -/
def inRange (i : Int) : Bool :=
  decide (-2 ^ 127 ≤ i ∧ i < 2 ^ 128)

/-- A number as content. -/
def number (hasValue : Bool) : Document :=
  if hasValue then .scalar else .unreadable

/-- The content of a decimal integer. -/
def integer? (cs : List Char) : Option Document :=
  let (negative, body) := Numeral.signed cs
  match ungrouped? Char.isDigit body with
  | some ds =>
    if isShort ds then some (number (inRange (Numeral.withSign negative (Numeral.value ds))))
    else none
  | none => none

/-- The base that a letter behind a zero stands for. -/
def base? (c : Char) : Option Nat :=
  if c = 'x' then some 16 else if c = 'o' then some 8 else if c = 'b' then some 2 else none

/-- Whether a character is a digit of a base. -/
def isDigitOf (base : Nat) (c : Char) : Bool :=
  (Hex.digitValue? c).any (· < base)

/-- The number that digits of a base stand for. -/
def valueIn (base : Nat) (ds : List Char) : Nat :=
  ds.foldl (fun n c => n * base + (Hex.digitValue? c).getD 0) 0

/-- The content of an integer in base sixteen, eight or two, which has no sign. One without digits
has no value. -/
def basedInteger? : List Char → Option Document
  | '0' :: letter :: body =>
    match base? letter with
    | none => none
    | some base =>
      if body.isEmpty then some .unreadable
      else (ungrouped? (isDigitOf base) body).map fun ds => number (inRange (valueIn base ds))
  | _ => none

/-- Whether a text is digits, possibly in groups. -/
def isGrouped (cs : List Char) : Bool :=
  (ungrouped? Char.isDigit cs).isSome

/-- The text in front of the first character that `stop` holds of, and what follows that
character, if there is one. -/
def cut (stop : Char → Bool) (cs : List Char) : List Char × Option (List Char) :=
  let front := cs.takeWhile (!stop ·)
  match cs.drop front.length with
  | [] => (front, none)
  | _ :: behind => (front, some behind)

/-- Whether the double nearest to a decimal number is finite. -/
def isFinite (cs : List Char) : Bool :=
  match Binary64.ofText? (cs.filter (· != '_')) with
  | none => false
  | some x =>
    match x.reading with
    | .infinite _ => false
    | _ => true

/-- Whether a text has the form of a decimal number with a fraction, an exponent or both. -/
def isDecimal (cs : List Char) : Bool :=
  let (mantissa, exponent) := cut (fun c => c == 'e' || c == 'E') cs
  let (whole, fraction) := cut (· == '.') mantissa
  (exponent.isSome || fraction.isSome)
    && (ungrouped? Char.isDigit whole).any isShort
    && fraction.all isGrouped
    && exponent.all (fun e => isGrouped (Numeral.signed e).2)

/-- The content of a floating-point number: a word or a decimal number. -/
def float? (cs : List Char) : Option Document :=
  let body := (Numeral.signed cs).2
  if body = "inf".toList ∨ body = "nan".toList then some .scalar
  else if isDecimal body then some (number (isFinite cs))
  else none

/-- What follows a date. -/
def behindDate? : List Char → Option (List Char)
  | y1 :: y2 :: y3 :: y4 :: '-' :: m1 :: m2 :: '-' :: d1 :: d2 :: rest =>
    match Numeral.value? [y1, y2, y3, y4], Numeral.value? [m1, m2], Numeral.value? [d1, d2] with
    | some year, some month, some day =>
      (Date.ofCivil? ⟨year, month, day⟩).map fun _ => rest
    | _, _, _ => none
  | _ => none

/-- What follows a fraction of a second, if there is one. -/
def behindFraction? : List Char → Option (List Char)
  | '.' :: cs =>
    let rest := cs.dropWhile Char.isDigit
    if rest.length = cs.length then none else some rest
  | cs => some cs

/-- What follows hours and minutes. -/
def behindMinutes? : List Char → Option (List Char)
  | h1 :: h2 :: ':' :: m1 :: m2 :: rest =>
    match Numeral.value? [h1, h2], Numeral.value? [m1, m2] with
    | some hours, some minutes => if hours < 24 ∧ minutes < 60 then some rest else none
    | _, _ => none
  | _ => none

/-- What follows a time of day, which may have seconds. A minute may have a leap second. -/
def behindTime? (cs : List Char) : Option (List Char) :=
  match behindMinutes? cs with
  | some (':' :: s1 :: s2 :: rest) =>
    match Numeral.value? [s1, s2] with
    | some seconds => if seconds ≤ 60 then behindFraction? rest else none
    | none => none
  | behind => behind

/-- The distance of a time from universal time, if it is given. -/
def isOffset : List Char → Bool
  | [] => true
  | [c] => c == 'Z' || c == 'z'
  | sign :: cs => (sign == '+' || sign == '-') && behindMinutes? cs == some []

/-- A date, a time of day, or both with or without an offset. -/
def isMoment (cs : List Char) : Bool :=
  match behindDate? cs with
  | some [] => true
  | some (mark :: rest) =>
    (mark == 'T' || mark == 't' || mark == ' ') && (behindTime? rest).any isOffset
  | none => behindTime? cs == some []

/-- A date or time as content: a table whose one field means nothing to any reader. -/
def moment : Document :=
  .table [(some "", .scalar)]

/-- The content of a scalar without quotes. -/
def scalarOf? (cs : List Char) : Option Document :=
  if cs = "true".toList then some (.bool true)
  else if cs = "false".toList then some (.bool false)
  else if isMoment cs then some moment
  else integer? cs <|> basedInteger? cs <|> float? cs

/-- The characters of a scalar without quotes, and what follows them. A time may stand behind a
date and a space. -/
def scalarRun (cs : List Char) : List Char × List Char :=
  let run := cs.takeWhile isScalarChar
  match cs.drop run.length with
  | ' ' :: c :: rest =>
    if behindDate? run = some [] ∧ c.isDigit then
      let time := (c :: rest).takeWhile isScalarChar
      (run ++ ' ' :: time, (c :: rest).drop time.length)
    else (run, ' ' :: c :: rest)
  | rest => (run, rest)

/-- A scalar without quotes, and what follows it. -/
def scalar? (cs : List Char) : Option (Document × List Char) :=
  let (run, rest) := scalarRun cs
  (scalarOf? run).map fun d => (d, rest)

end QueryReplay.Toml
