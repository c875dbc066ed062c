import QueryReplay.Digest.Sha256
import QueryReplay.Entry.Writer
import QueryReplay.Text.Hex

/-!
# Keys

A result is kept under the digest of its query: the text of the statement and
the parameters in order. Both stand behind their lengths, so no two queries
have the same digested bytes. As text a key is 64 hexadecimal digits.
-/

namespace QueryReplay

/-- The key of a query. -/
structure Key where
  bytes : Vector UInt8 32
deriving DecidableEq, Repr

namespace Key

/-- What the digested bytes of every query start with. -/
def domain : List UInt8 := Utf8.encode "sqlcache/v1"

/-- A parameter as it is digested, behind the number of its bytes. -/
def parameterBytes (v : Value) : List UInt8 :=
  Entry.putBytes (Entry.putValue v)

/-- The bytes of a query that are digested. -/
def queryBytes (statement : String) (parameters : List Value) : List UInt8 :=
  domain ++ Entry.putText statement ++ BigEndian.encode 4 parameters.length
    ++ parameters.flatMap parameterBytes

/-- The key of a statement and its parameters. -/
def ofQuery (statement : String) (parameters : List Value) : Key :=
  ⟨Sha256.digest (queryBytes statement parameters)⟩

/-- The key as 64 lower-case hexadecimal digits. -/
def hex (k : Key) : String :=
  Hex.encode k.bytes.toList

/-- The key that 64 hexadecimal digits stand for. -/
def ofHex? (s : String) : Option Key :=
  if s.toList.length = 64 then
    match Hex.decode? s with
    | some b => if h : b.toArray.size = 32 then some ⟨⟨b.toArray, h⟩⟩ else none
    | none => none
  else none

/-- Whether the bytes of one key come before those of another, by the first byte that
differs. -/
def before (a b : Key) : Bool :=
  decide (a.bytes.toList < b.bytes.toList)

/-- The keys in ascending order. -/
def sorted (keys : List Key) : List Key :=
  keys.mergeSort fun a b => !b.before a

/-- Drops each key that equals the one before it. -/
def dropRepeats : List Key → List Key
  | a :: b :: rest => if a = b then dropRepeats (b :: rest) else a :: dropRepeats (b :: rest)
  | keys => keys

/-- The text of a key in logs. -/
def debugText (k : Key) : String :=
  s!"CacheKey({k.hex})"

end Key

end QueryReplay
