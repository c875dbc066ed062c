import QueryReplay.Log.Event
import QueryReplay.Log.Expression.Reader
import QueryReplay.Number.Shortest
import QueryReplay.Text.Alphanumeric
import QueryReplay.Text.Numeral

/-!
# Log filters

A filter is a list of directives with commas between them. A directive names
the start of a source, fields that an event must have, or both, and a level.
Of those that are about an event the most specific one decides: it lets
through what is at least as grave as its level. Directives about spans of time
let nothing through, since there are none here.
-/

namespace QueryReplay.Log

/-- The greatest rank that is let through of the events with certain fields, from sources whose
names start with a text. -/
structure Directive where
  source : List Char
  fields : List String
  rank : Nat
deriving DecidableEq, Repr

/-- Directives in the order in which they were given. -/
structure Filter where
  directives : List Directive
deriving DecidableEq, Repr

namespace Directive

/-- The rank that a number stands for. -/
def rankOfNumber? (word : List Char) : Option Nat :=
  let digits := match word with
    | '+' :: digits => digits
    | digits => digits
  (Numeral.value? digits).bind fun n => if n ≤ Level.trace.rank then some n else none

/-- The rank that a word stands for, in any case. -/
def rankOfName? (word : List Char) : Option Nat :=
  let word := Text.lower word
  if word = "off".toList then some 0
  else (Level.all.find? fun level => word = level.name.toList).map Level.rank

/-- The rank that a word or a number stands for. -/
def rank? (word : List Char) : Option Nat :=
  rankOfNumber? word <|> rankOfName? word

/-- The rank of a level that is given, or else that of the least grave one. -/
def rankOr? (word : List Char) : Option Nat :=
  if word.isEmpty then some Level.trace.rank else rank? word

/-- Whether a directive may start with a character. -/
def isStart (c : Char) : Bool :=
  Text.isAlphanumeric c || c == '_' || c == ':' || c == '-'

/-- Whether a value of a field is a number or an expression that can be matched. -/
def isValue (cs : List Char) : Bool :=
  (Binary64.ofText? cs).isSome || (Expression.ofText? cs).any Expression.isMatchable

/-- Whether a text is about a field: its name, and a value if an equals sign stands behind it. What
follows a second equals sign does not count. -/
def isField (cs : List Char) : Bool :=
  match cs.dropWhile (· != '=') with
  | _ :: value => isValue (value.takeWhile (· != '='))
  | [] => true

/-- The text that stands in `whole` as far from its start as `part` stands behind `before`. -/
def shifted (whole before part : List Char) : List Char :=
  Text.withinBytes (Text.bytes part) (Text.behindBytes (Text.bytes before) whole)

/-- The level at the end of a directive, which a text makes as far from its start as what stands
behind `before`. -/
def levelBehind? (whole before : List Char) : Option Nat :=
  rankOr? (Text.behindBytes (Text.bytes before) whole)

/-- A directive, if it is about events, with a source and what stands in brackets behind it. -/
def ofBrackets? (whole source cs : List Char) : Option (Option Directive) := do
  let opened := source ++ ['[']
  let span := cs.takeWhile fun c => c != ']' && c != '\x7b'
  let (field, closed, rest) ← match cs.drop span.length with
    | ']' :: rest => some ([], opened ++ span ++ [']'], rest)
    | '\x7b' :: rest =>
      let opened := opened ++ span ++ ['\x7b']
      let field := rest.takeWhile (· != '\x7d')
      let text := shifted whole opened field
      if !field.isEmpty && isField text then
        (Text.behind? ['\x7d', ']'] (rest.drop field.length)).map fun rest =>
          (text, opened ++ field ++ ['\x7d', ']'], rest)
      else none
    | _ => none
  let rank ← match rest with
    | [] => some Level.trace.rank
    | '=' :: _ => levelBehind? whole (closed ++ ['='])
    | _ => none
  if span.isEmpty && !field.isEmpty && !field.contains '=' then
    return some ⟨shifted whole [] source, [String.ofList field], rank⟩
  else return none

/-- A directive, if it is about events: a level for all sources, or a source and a level, which is
the least grave one if it is left out. Its parts are told apart in the text without the blanks
around it, but then stand in the whole text, as far from its start. -/
def ofText? (whole : List Char) : Option (Option Directive) :=
  let body := Text.stripped whole
  let source := body.takeWhile fun c => c != '=' && c != '['
  if body.head?.any fun c => isStart c || c == '[' then
    match body.drop source.length with
    | '[' :: rest => ofBrackets? whole source rest
    | '=' :: _ =>
      (levelBehind? whole (source ++ ['='])).map fun rank =>
        some ⟨shifted whole [] source, [], rank⟩
    | _ =>
      match rank? whole with
      | some rank => some (some ⟨[], [], rank⟩)
      | none => some (some ⟨whole, [], Level.trace.rank⟩)
  else none

/-- Whether a directive is about an event. -/
def concerns (d : Directive) (e : Event) : Bool :=
  d.source.isPrefixOf e.source.toList
    && d.fields.all fun name => name == "message" || e.fields.any (·.1 == name)

/-- Whether a directive is more specific than another: by its source, by the number of its fields,
and last by their names. -/
def isNarrower (a b : Directive) : Bool :=
  if a.source.length ≠ b.source.length then b.source.length < a.source.length
  else if a.fields.length ≠ b.fields.length then b.fields.length < a.fields.length
  else decide (b.fields < a.fields)

end Directive

namespace Filter

/-- The filter that lets through the events of this program up to a level. -/
def atLevel (level : Level) : Filter :=
  ⟨[⟨"sqlcache".toList, [], level.rank⟩]⟩

/-- The filter that a text stands for. One without directives lets through errors only. -/
def ofText? (s : String) : Option Filter :=
  let parts := (s.splitOn ",").filter (· != "")
  if parts.isEmpty then some ⟨[⟨[], [], Level.error.rank⟩]⟩
  else (parts.mapM fun part => Directive.ofText? part.toList).map fun ds => ⟨ds.filterMap id⟩

/-- The directive that decides on an event: of those that are about it the most specific, and the
last of these. -/
def deciding? (f : Filter) (e : Event) : Option Directive :=
  (f.directives.filter (·.concerns e)).foldl
    (fun best d => some (best.elim d fun b => if b.isNarrower d then b else d)) none

/-- Whether an event is let through. -/
def allows (f : Filter) (e : Event) : Bool :=
  (f.deciding? e).any (e.level.rank ≤ ·.rank)

end Filter

end QueryReplay.Log
