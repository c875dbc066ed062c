import QueryReplay.Key

/-!
# Entries

A finite map from keys to byte strings: each key has the bytes last put under
it.
-/

namespace QueryReplay

/-- Byte strings under keys, each key at most once. -/
abbrev Entries := List (Key × List UInt8)

namespace Entries

/-- The bytes under a key. -/
def get? (e : Entries) (k : Key) : Option (List UInt8) :=
  e.lookup k

/-- The entries without a key. -/
def erase (e : Entries) (k : Key) : Entries :=
  e.filter (·.1 != k)

/-- The entries with bytes put under a key. -/
def put (e : Entries) (k : Key) (b : List UInt8) : Entries :=
  (k, b) :: e.erase k

def contains (e : Entries) (k : Key) : Bool :=
  (e.get? k).isSome

end Entries

end QueryReplay
