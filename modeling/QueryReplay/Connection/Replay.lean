import QueryReplay.Connection.Environment
import QueryReplay.Entry.Decoder

/-!
# Replay

A connection answers a query from its store if the result has been kept
there, and else captures the whole result from the database, keeps it and
answers from the copy. A failure of the database is passed on and nothing is
kept. What happens when the store fails or holds a broken entry is a matter of
policy.
-/

namespace QueryReplay

/-- How a connection works. -/
structure Connection where
  /-- Whether results are kept and replayed. -/
  active : Bool := true
  onStoreError : StorePolicy := .fail
deriving DecidableEq, Repr

namespace Connection

variable {σ : Type}

/-- Passes an error of the store on, or goes on without the store after a warning. -/
def tolerate (c : Connection) (env : Environment σ) (trouble : Log.Trouble) (k : Key) (e : Error)
    (s : σ) : Except Error Unit × σ :=
  match c.onStoreError with
  | .fail => (.error e, s)
  | .degrade => (.ok (), env.log (.troubled trouble k env.storeName e) s)

/-- The result under a key of the store. There is none if the store fails or the entry is broken
and the connection tolerates that. -/
def lookup (c : Connection) (env : Environment σ) (k : Key) (s : σ) :
    Except Error (Option ResultSet) × σ :=
  match env.get k s with
  | (.ok none, s) => (.ok none, env.log (.missed k) s)
  | (.ok (some b), s) =>
    match Entry.decodeResult b with
    | .ok r => (.ok (some r), s)
    | .error defect =>
      let (outcome, s) := c.tolerate env .corrupt k (.corrupt defect) s
      (outcome.map fun _ => none, s)
  | (.error e, s) =>
    let (outcome, s) := c.tolerate env .unreadable k e s
    (outcome.map fun _ => none, s)

/-- Reads the whole result of a query from the database. -/
def capture (env : Environment σ) (q : Statement) (parameters : List Value) (s : σ) :
    Except Error ResultSet × σ :=
  match env.query q parameters s with
  | (.ok live, s) => (live.capture, s)
  | (.error e, s) => (.error e, s)

/-- Keeps a result under a key of the store. -/
def keep (c : Connection) (env : Environment σ) (k : Key) (r : ResultSet) (s : σ) :
    Except Error Unit × σ :=
  let entry := Entry.encodeResult r
  match env.put k entry s with
  | (.ok (), s) => (.ok (), env.log (.captured k r.rows.length entry.length) s)
  | (.error e, s) => c.tolerate env .unwritable k e s

/-- The result of a query: the one that was kept under its key, or else a new one, which is kept
from then on. -/
def replay (c : Connection) (env : Environment σ) (q : Statement) (parameters : List Value)
    (s : σ) : Except Error ResultSet × σ :=
  let k := Key.ofQuery q.text parameters
  match c.lookup env k (env.log (.keyDerived k parameters.length) s) with
  | (.error e, s) => (.error e, s)
  | (.ok (some r), s) => (.ok r, env.log (.replayed k r.rows.length) s)
  | (.ok none, s) =>
    match capture env q parameters s with
    | (.error e, s) => (.error e, s)
    | (.ok r, s) =>
      match c.keep env k r s with
      | (.error e, s) => (.error e, s)
      | (.ok (), s) => (.ok r, s)

/-- Answers a query: by replay if the connection is active, and else with the cursor of the
database itself. -/
def query (c : Connection) (env : Environment σ) (q : Statement) (parameters : List Value)
    (s : σ) : Except Error ResultCursor × σ :=
  if c.active then
    match c.replay env q parameters s with
    | (.ok r, s) => (.ok (.captured (.start r)), s)
    | (.error e, s) => (.error e, s)
  else env.query q parameters s

/-- Runs a change, which the store has no part in. -/
def update (env : Environment σ) (q : Statement) (parameters : List Value) (s : σ) :
    Except Error Nat × σ :=
  env.execute q parameters s

end Connection

end QueryReplay
