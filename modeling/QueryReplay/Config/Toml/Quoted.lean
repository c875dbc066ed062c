import QueryReplay.Text.Hex

/-!
# Quoted texts in TOML

Four kinds of quotes: with or without escapes, on one line or over several.
Over several lines one or two quotes may stand anywhere, also just before the
closing three, and a newline behind the opening three is left out.
-/

namespace QueryReplay.Toml

/-- Whether a character may stand for itself on a line. -/
def isPlain (c : Char) : Bool :=
  c == '\t' || (0x20 ≤ c.toNat && c.toNat != 0x7F)

/-- Blanks within a line. -/
def isBlank (c : Char) : Bool :=
  c == ' ' || c == '\t'

/-- A newline, and what follows it. -/
def newline? : List Char → Option (List Char × List Char)
  | '\n' :: rest => some (['\n'], rest)
  | '\r' :: '\n' :: rest => some (['\r', '\n'], rest)
  | _ => none

/-- The text without the blanks and newlines at its start. -/
def skipBreaks : List Char → List Char
  | ' ' :: rest => skipBreaks rest
  | '\t' :: rest => skipBreaks rest
  | '\n' :: rest => skipBreaks rest
  | '\r' :: '\n' :: rest => skipBreaks rest
  | rest => rest

/-- The character that `count` hexadecimal digits number, and what follows them. -/
def numbered? (count : Nat) (cs : List Char) : Option (Char × List Char) :=
  match (cs.take count).mapM Hex.digitValue? with
  | none => none
  | some ds =>
    let n := ds.foldl (fun n d => n * 16 + d) 0
    if ds.length = count ∧ n.isValidChar then some (Char.ofNat n, cs.drop count) else none

/-- The character of a one-letter escape. -/
def letterEscape? (c : Char) : Option Char :=
  if c = '"' ∨ c = '\\' then some c
  else if c = 'b' then some (Char.ofNat 0x08)
  else if c = 't' then some '\t'
  else if c = 'n' then some '\n'
  else if c = 'f' then some (Char.ofNat 0x0C)
  else if c = 'r' then some '\r'
  else if c = 'e' then some (Char.ofNat 0x1B)
  else none

/-- The character that an escape stands for, and what follows it. -/
def escaped? : List Char → Option (Char × List Char)
  | [] => none
  | 'x' :: rest => numbered? 2 rest
  | 'u' :: rest => numbered? 4 rest
  | 'U' :: rest => numbered? 8 rest
  | c :: rest => (letterEscape? c).map fun d => (d, rest)

/-- The text up to a closing double quote on the same line, `done` being what comes before in
reverse. -/
def escapedText? : Nat → List Char → List Char → Option (String × List Char)
  | 0, _, _ => none
  | _, _, [] => none
  | fuel + 1, done, c :: rest =>
    if c = '"' then some (String.ofList done.reverse, rest)
    else if c = '\\' then
      match escaped? rest with
      | some (d, rest) => escapedText? fuel (d :: done) rest
      | none => none
    else if isPlain c then escapedText? fuel (c :: done) rest
    else none

/-- The text up to a closing single quote on the same line. -/
def literalText? (cs : List Char) : Option (String × List Char) :=
  let body := cs.takeWhile fun c => isPlain c && c != '\''
  match cs.drop body.length with
  | '\'' :: rest => some (String.ofList body, rest)
  | _ => none

/-- What follows the end of a line and all blanks and newlines behind it. -/
def joined? (cs : List Char) : Option (List Char) :=
  (newline? (cs.dropWhile isBlank)).map fun (_, rest) => skipBreaks rest

/-- The text up to three closing quotes, `done` being what comes before in reverse. Between
double quotes there are escapes, and one at the end of a line joins it with the next. -/
def textOverLines? (quote : Char) : Nat → List Char → List Char → Option (String × List Char)
  | 0, _, _ => none
  | _, _, [] => none
  | fuel + 1, done, c :: rest =>
    if c = quote then
      let run := c :: rest.takeWhile (· == quote)
      let behind := rest.drop (run.length - 1)
      if run.length < 3 then textOverLines? quote fuel (run ++ done) behind
      else if run.length ≤ 5 then some (String.ofList (done.reverse ++ run.drop 3), behind)
      else none
    else if c = '\\' ∧ quote = '"' then
      match escaped? rest with
      | some (d, rest) => textOverLines? quote fuel (d :: done) rest
      | none =>
        match joined? rest with
        | some rest => textOverLines? quote fuel done rest
        | none => none
    else if isPlain c then textOverLines? quote fuel (c :: done) rest
    else
      match newline? (c :: rest) with
      | some (line, rest) => textOverLines? quote fuel (line.reverse ++ done) rest
      | none => none

/-- What follows a newline, if there is one at the start. -/
def behindNewline (cs : List Char) : List Char :=
  match newline? cs with
  | some (_, rest) => rest
  | none => cs

/-- A quoted text on one line, and what follows it. -/
def lineText? : List Char → Option (String × List Char)
  | '"' :: rest => escapedText? (rest.length + 1) [] rest
  | '\'' :: rest => literalText? rest
  | _ => none

/-- A quoted text of any kind, and what follows it. -/
def text? : List Char → Option (String × List Char)
  | '"' :: '"' :: '"' :: rest => textOverLines? '"' (rest.length + 1) [] (behindNewline rest)
  | '\'' :: '\'' :: '\'' :: rest => textOverLines? '\'' (rest.length + 1) [] (behindNewline rest)
  | cs => lineText? cs

end QueryReplay.Toml
