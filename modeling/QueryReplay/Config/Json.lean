import QueryReplay.Config.Document
import QueryReplay.Text.Hex

/-!
# Settings as JSON

Settings are written as one line of JSON, with the fields in a fixed order.
Reading takes any JSON text. A text whose escapes spell half a surrogate pair
is no text, but may stand where nothing is read from it.
-/

namespace QueryReplay.Json

/-- The digits that escape a control character. -/
def controlEscape (n : Nat) : List Char :=
  ['\\', 'u', '0', '0', Hex.digit (n / 16), Hex.digit (n % 16)]

/-- A character inside quotes. -/
def escape (c : Char) : List Char :=
  if c = '"' then ['\\', '"']
  else if c = '\\' then ['\\', '\\']
  else if c.toNat = 0x08 then ['\\', 'b']
  else if c.toNat = 0x09 then ['\\', 't']
  else if c.toNat = 0x0A then ['\\', 'n']
  else if c.toNat = 0x0C then ['\\', 'f']
  else if c.toNat = 0x0D then ['\\', 'r']
  else if c.toNat < 0x20 then controlEscape c.toNat
  else [c]

def quote (s : String) : List Char :=
  '"' :: s.toList.flatMap escape ++ ['"']

/-- Written fields in braces with commas between them. -/
def braces (fields : List (List Char)) : List Char :=
  '\x7b' :: (fields.intersperse [',']).flatten ++ ['\x7d']

/-- A field: its name in quotes, a colon and its value. -/
def field (name : String) (value : List Char) : List Char :=
  quote name ++ ':' :: value

def ofBool (b : Bool) : List Char :=
  (if b then "true" else "false").toList

/-- The settings of the log as JSON; without a directory there is no field for it. -/
def ofLogSettings (s : Log.Settings) : List Char :=
  braces <|
    [field "level" (quote s.level.name), field "format" (quote s.format.name),
      field "output" (quote s.output.name)]
    ++ match s.directory with
      | some path => [field "file_path" (quote path)]
      | none => []

/-- The settings of a connection as JSON. -/
def ofSettings (s : Settings) : List Char :=
  braces
    [field "url" (quote s.url), field "backend_url" (quote s.backendUrl),
      field "driver" (quote s.driver), field "active" (ofBool s.active),
      field "on_store_error" (quote s.onStoreError.name), field "log" (ofLogSettings s.log)]

/-- The blanks between the parts of a JSON text. -/
def isBlank (c : Char) : Bool :=
  c == ' ' || c == '\t' || c == '\n' || c == '\r'

/-- The text without the blanks at its start. -/
def skip (cs : List Char) : List Char :=
  cs.dropWhile isBlank

/-- The number that four hexadecimal digits stand for, and what follows them. -/
def unit? : List Char → Option (Nat × List Char)
  | a :: b :: c :: d :: rest =>
    match Hex.digitValue? a, Hex.digitValue? b, Hex.digitValue? c, Hex.digitValue? d with
    | some a, some b, some c, some d => some (((a * 16 + b) * 16 + c) * 16 + d, rest)
    | _, _, _, _ => none
  | _ => none

/-- The second half of a surrogate pair, if it follows as an escape. -/
def lowSurrogate? : List Char → Option (Nat × List Char)
  | '\\' :: 'u' :: cs =>
    match unit? cs with
    | some (n, rest) => if 0xDC00 ≤ n ∧ n < 0xE000 then some (n, rest) else none
    | none => none
  | _ => none

/-- The character of a one-letter escape. -/
def letterEscape? (c : Char) : Option Char :=
  if c = '"' ∨ c = '\\' ∨ c = '/' then some c
  else if c = 'b' then some (Char.ofNat 0x08)
  else if c = 't' then some '\t'
  else if c = 'n' then some '\n'
  else if c = 'f' then some (Char.ofNat 0x0C)
  else if c = 'r' then some '\r'
  else none

/-- The character that an escape spells, or nothing for half a surrogate pair, and what follows
it. -/
def escaped? : List Char → Option (Option Char × List Char)
  | [] => none
  | 'u' :: cs =>
    match unit? cs with
    | none => none
    | some (n, rest) =>
      if 0xD800 ≤ n ∧ n < 0xDC00 then
        match lowSurrogate? rest with
        | some (low, rest) =>
          some (some (Char.ofNat (0x10000 + (n - 0xD800) * 0x400 + (low - 0xDC00))), rest)
        | none => some (none, rest)
      else if 0xDC00 ≤ n ∧ n < 0xE000 then some (none, rest)
      else some (some (Char.ofNat n), rest)
  | c :: rest => (letterEscape? c).map fun d => (some d, rest)

/-- The characters up to the closing quote, `done` being those before in reverse, and what
follows. There are no characters if an escape spelled none. -/
def string? : Nat → Option (List Char) → List Char → Option (Option (List Char) × List Char)
  | 0, _, _ => none
  | _, _, [] => none
  | fuel + 1, done, c :: rest =>
    if c = '"' then some (done.map List.reverse, rest)
    else if c = '\\' then
      match escaped? rest with
      | some (d, rest) =>
        string? fuel (match done, d with
          | some cs, some d => some (d :: cs)
          | _, _ => none) rest
      | none => none
    else if c.toNat < 0x20 then none
    else string? fuel (done.map (c :: ·)) rest

/-- The text behind an opening quote, and what follows it. -/
def text? (cs : List Char) : Option (Option String × List Char) :=
  (string? (cs.length + 1) (some []) cs).map fun (s, rest) => (s.map String.ofList, rest)

/-- What follows one or more digits. -/
def digits? (cs : List Char) : Option (List Char) :=
  let rest := cs.dropWhile Char.isDigit
  if rest.length = cs.length then none else some rest

/-- What follows a fraction, if there is one. -/
def fraction? : List Char → Option (List Char)
  | '.' :: cs => digits? cs
  | cs => some cs

/-- What follows an exponent, if there is one. -/
def exponent? : List Char → Option (List Char)
  | c :: cs =>
    if c = 'e' ∨ c = 'E' then
      match cs with
      | '+' :: cs => digits? cs
      | '-' :: cs => digits? cs
      | cs => digits? cs
    else some (c :: cs)
  | [] => some []

/-- What follows a number. -/
def number? (cs : List Char) : Option (List Char) :=
  let body := match cs with
    | '-' :: cs => cs
    | cs => cs
  let rest? := match body with
    | '0' :: rest => some rest
    | _ => digits? body
  (rest?.bind fraction?).bind exponent?

mutual

/-- A value behind any blanks, and what follows it. -/
def value? : Nat → List Char → Option (Document × List Char)
  | 0, _ => none
  | fuel + 1, cs =>
    match skip cs with
    | [] => none
    | c :: rest =>
      if c = '"' then
        (text? rest).map fun (s, rest) =>
          ((match s with
            | some s => .text s
            | none => .scalar), rest)
      else if c = '[' then
        match skip rest with
        | ']' :: rest => some (.list [], rest)
        | rest => (items? fuel [] rest).map fun (xs, rest) => (.list xs, rest)
      else if c = '\x7b' then
        match skip rest with
        | '\x7d' :: rest => some (.table [], rest)
        | rest => (members? fuel [] rest).map fun (fs, rest) => (.table fs, rest)
      else if c = 't' then (Text.behind? "rue".toList rest).map fun rest => (.bool true, rest)
      else if c = 'f' then (Text.behind? "alse".toList rest).map fun rest => (.bool false, rest)
      else if c = 'n' then (Text.behind? "ull".toList rest).map fun rest => (.null, rest)
      else (number? (c :: rest)).map fun rest => (.scalar, rest)

/-- The items of a list up to its bracket, onto `done` in reverse. -/
def items? : Nat → List Document → List Char → Option (List Document × List Char)
  | 0, _, _ => none
  | fuel + 1, done, cs =>
    match value? fuel cs with
    | none => none
    | some (v, rest) =>
      match skip rest with
      | ',' :: rest => items? fuel (v :: done) rest
      | ']' :: rest => some ((v :: done).reverse, rest)
      | _ => none

/-- The fields of a table up to its brace, onto `done` in reverse. -/
def members? : Nat → List (Option String × Document) → List Char →
    Option (List (Option String × Document) × List Char)
  | 0, _, _ => none
  | fuel + 1, done, cs =>
    match skip cs with
    | '"' :: rest =>
      match text? rest with
      | none => none
      | some (name, rest) =>
        match skip rest with
        | ':' :: rest =>
          match value? fuel rest with
          | none => none
          | some (v, rest) =>
            match skip rest with
            | ',' :: rest => members? fuel ((name, v) :: done) rest
            | '\x7d' :: rest => some (((name, v) :: done).reverse, rest)
            | _ => none
        | _ => none
    | _ => none

end

/-- The content of a JSON text. -/
def document? (cs : List Char) : Option Document :=
  match value? (cs.length + 1) cs with
  | some (d, rest) => if (skip rest).isEmpty then some d else none
  | none => none

/-- In JSON a list of fields holds no more than there are, and null stands for nothing. -/
def dialect : Document.Dialect where
  allowsSurplus := false
  isNothing
    | .null => true
    | _ => false

def settings? (cs : List Char) : Option Settings :=
  (document? cs).bind (Document.settings? dialect)

end QueryReplay.Json
