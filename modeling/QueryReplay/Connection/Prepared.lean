import QueryReplay.Connection.Replay

/-!
# Prepared statements

A prepared statement keeps the values bound to its parameters. Parameters are
counted from one, and there are as many as the greatest index that was bound.
-/

namespace QueryReplay

/-- A statement and the values bound to its parameters. -/
structure PreparedStatement where
  statement : Statement
  bindings : List (Option Value)
deriving DecidableEq, Repr

namespace PreparedStatement

/-- A statement without any bound parameters. -/
def prepare (q : Statement) : PreparedStatement :=
  ⟨q, []⟩

def bind (p : PreparedStatement) (index : Nat) (v : Value) : Except Error PreparedStatement :=
  match index with
  | 0 => .error (.parameter .indexZero)
  | place + 1 =>
    let room := p.bindings ++ List.replicate (index - p.bindings.length) none
    .ok { p with bindings := room.set place (some v) }

/-- Drops all bound values. -/
def clear (p : PreparedStatement) : PreparedStatement :=
  { p with bindings := [] }

/-- The values from the parameter `index` on, or the first one that is not bound. -/
def boundFrom (index : Nat) : List (Option Value) → Except Error (List Value)
  | [] => .ok []
  | none :: _ => .error (.parameter (.unbound index))
  | some v :: rest => (boundFrom (index + 1) rest).map (v :: ·)

/-- The values of all parameters, or the first one that is not bound. -/
def parameters (p : PreparedStatement) : Except Error (List Value) :=
  boundFrom 1 p.bindings

variable {σ : Type}

def query (p : PreparedStatement) (c : Connection) (env : Environment σ) (s : σ) :
    Except Error ResultCursor × σ :=
  match p.parameters with
  | .ok values => c.query env p.statement values s
  | .error e => (.error e, s)

/-- Runs the statement as a change. -/
def update (p : PreparedStatement) (env : Environment σ) (s : σ) : Except Error Nat × σ :=
  match p.parameters with
  | .ok values => Connection.update env p.statement values s
  | .error e => (.error e, s)

end PreparedStatement

end QueryReplay
