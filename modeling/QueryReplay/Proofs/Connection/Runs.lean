import QueryReplay.Proofs.Connection.Views

/-!
# Runs of connections

Any number of connections may take turns on one store, each with a database
and a log of its own, while the world changes behind their backs.  The calls of
all of them are written down in one list.  A step either is a replay, or it
neither reads nor writes the store; whatever holds of runs is proved from that.
-/

namespace QueryReplay

variable {σ : Type}

/-- What is done next: something with a connection, or something to the world. -/
inductive Action (σ : Type) where
  | query (c : Connection) (env : Environment σ) (q : Statement) (parameters : List Value)
  | update (env : Environment σ) (q : Statement) (parameters : List Value)
  | queryPrepared (c : Connection) (env : Environment σ) (p : PreparedStatement)
  | updatePrepared (env : Environment σ) (p : PreparedStatement)
  /-- Databases, logs and whatever else there is change by themselves. -/
  | change (f : σ → σ)

/-- What comes back. -/
inductive Answer where
  | rows (outcome : Except Error ResultCursor)
  | count (outcome : Except Error Nat)
  | nothing

namespace Action

/-- The answer to an action, and the world and the calls behind it. -/
def run (w : σ × List Call) : Action σ → Answer × σ × List Call
  | .query c env q parameters =>
    let answered := c.query env.recorded q parameters w
    (.rows answered.1, answered.2)
  | .update env q parameters =>
    let answered := Connection.update env.recorded q parameters w
    (.count answered.1, answered.2)
  | .queryPrepared c env p =>
    let answered := p.query c env.recorded w
    (.rows answered.1, answered.2)
  | .updatePrepared env p =>
    let answered := p.update env.recorded w
    (.count answered.1, answered.2)
  | .change f => (.nothing, f w.1, w.2)

/-- The answers to actions one after another, and the world and the calls behind them. -/
def runAll (w : σ × List Call) : List (Action σ) → List Answer × σ × List Call
  | [] => ([], w)
  | a :: actions =>
    let answered := a.run w
    let rest := runAll answered.2 actions
    (answered.1 :: rest.1, rest.2)

/-- The action is one of a connection on the store that is seen, or leaves that store alone. -/
def Over (view : StoreView σ) : Action σ → Prop
  | .query _ env _ _ => env.Serves view
  | .update env _ _ => env.Serves view
  | .queryPrepared _ env _ => env.Serves view
  | .updatePrepared env _ => env.Serves view
  | .change f => ∀ s, view.Same s (f s)

/-! ## What a step can do -/

/-- What a step does on a store, and which calls it makes for that. -/
inductive Effect (view : StoreView σ) (w : σ × List Call) : σ × List Call → Prop where
  /-- The store is neither read nor written. -/
  | apart {s' : σ} {calls : List Call} (hsame : view.Same w.1 s')
      (hunread : ∀ k found, Call.get k found ∉ calls) : Effect view w (s', w.2 ++ calls)
  | replay {c : Connection} {env : Environment σ} {q : Statement} {parameters : List Value}
      {outcome : Except Error ResultSet} {s' : σ} {calls : List Call} (hserves : env.Serves view)
      (hcourse : Connection.Course c env q parameters w.1 outcome s' calls) :
      Effect view w (s', w.2 ++ calls)

variable {view : StoreView σ} {env : Environment σ} {a : Action σ}

theorem Effect.of_same {w : σ × List Call} {s' : σ} (hsame : view.Same w.1 s') :
    Effect view w (s', w.2) := by
  have hunread : ∀ k found, Call.get k found ∉ ([] : List Call) := fun _ _ => List.not_mem_nil
  simpa only [List.append_nil] using Effect.apart hsame hunread

theorem query_effect (hserves : env.Serves view) (c : Connection) (q : Statement)
    (parameters : List Value) (w : σ × List Call) :
    Effect view w (c.query env.recorded q parameters w).2 := by
  by_cases hactive : c.active = true
  · obtain ⟨calls, hcourse⟩ := Connection.exists_course c env q parameters w.1
    rw [Connection.query_of_active hactive, hcourse.replay_recorded]
    exact .replay hserves hcourse
  · rw [Connection.query_of_inactive hactive]
    refine .apart (hserves.query q parameters w.1) ?_
    intro k found hmem
    cases List.mem_singleton.mp hmem

theorem update_effect (hserves : env.Serves view) (q : Statement) (parameters : List Value)
    (w : σ × List Call) : Effect view w (Connection.update env.recorded q parameters w).2 := by
  refine .apart (hserves.execute q parameters w.1) ?_
  intro k found hmem
  cases List.mem_singleton.mp hmem

theorem run_effect (hover : a.Over view) (w : σ × List Call) : Effect view w (a.run w).2 := by
  cases a with
  | query c env q parameters => exact query_effect hover c q parameters w
  | update env q parameters => exact update_effect hover q parameters w
  | queryPrepared c env p =>
      show Effect view w (p.query c env.recorded w).2
      unfold PreparedStatement.query
      cases p.parameters with
      | ok values => exact query_effect hover c p.statement values w
      | error e => exact .of_same (StoreView.Same.refl view w.1)
  | updatePrepared env p =>
      show Effect view w (p.update env.recorded w).2
      unfold PreparedStatement.update
      cases p.parameters with
      | ok values => exact update_effect hover p.statement values w
      | error e => exact .of_same (StoreView.Same.refl view w.1)
  | change f => exact .of_same (hover w.1)

/-! ## Calls are only ever added -/

theorem prefix_query (c : Connection) (env : Environment σ) (q : Statement)
    (parameters : List Value) (w : σ × List Call) :
    w.2 <+: (c.query env.recorded q parameters w).2.2 := by
  obtain ⟨s, before⟩ := w
  rw [Connection.query_recorded]
  exact List.prefix_append before _

theorem prefix_run (a : Action σ) (w : σ × List Call) : w.2 <+: (a.run w).2.2 := by
  cases a with
  | query c env q parameters => exact prefix_query c env q parameters w
  | update env q parameters => exact List.prefix_append w.2 _
  | queryPrepared c env p =>
      show w.2 <+: (p.query c env.recorded w).2.2
      unfold PreparedStatement.query
      cases p.parameters with
      | ok values => exact prefix_query c env p.statement values w
      | error e => exact List.prefix_rfl
  | updatePrepared env p =>
      show w.2 <+: (p.update env.recorded w).2.2
      unfold PreparedStatement.update
      cases p.parameters with
      | ok values => exact List.prefix_append w.2 _
      | error e => exact List.prefix_rfl
  | change f => exact List.prefix_rfl

theorem prefix_runAll (actions : List (Action σ)) (w : σ × List Call) :
    w.2 <+: (runAll w actions).2.2 := by
  induction actions generalizing w with
  | nil => exact List.prefix_rfl
  | cons a actions ih => exact (prefix_run a w).trans (ih (a.run w).2)

end Action

end QueryReplay
