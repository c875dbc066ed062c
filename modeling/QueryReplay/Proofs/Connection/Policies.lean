import QueryReplay.Proofs.Connection.Atomicity
import QueryReplay.Proofs.Connection.Provenance

/-!
# What the policy decides

The policy of a connection only matters when its store is in trouble: when a
get or a put fails, or an entry that has been got cannot be read.  Without that,
a query takes the same course under both policies, and so does a whole run.  In
trouble a connection that does not tolerate it passes the error on at once.
-/

namespace QueryReplay

variable {σ : Type}

/-- The store has failed in the call, or has given an entry that cannot be read. -/
def Call.Troubled : Call → Prop
  | .get _ found => Connection.obstacle? found ≠ none
  | .put _ _ done => done ≠ .ok ()
  | .query _ _ _ => False
  | .execute _ _ _ => False

def Untroubled (calls : List Call) : Prop :=
  ∀ call ∈ calls, ¬call.Troubled

theorem Untroubled.mono {before after : List Call} (hclear : Untroubled after)
    (hgrown : before <+: after) : Untroubled before :=
  fun call hmem => hclear call (hgrown.subset hmem)

namespace Connection

variable {c c' : Connection} {env : Environment σ} {view : StoreView σ} {q : Statement}
  {parameters : List Value} {s : σ}

/-! ## Courses without trouble -/

theorem keep_eq_of_put_ok {k : Key} {r : ResultSet}
    (hput : (env.put k (Entry.encodeResult r) s).1 = .ok ()) (c c' : Connection) :
    c.keep env k r s = c'.keep env k r s := by
  have hdone : env.put k (Entry.encodeResult r) s = (.ok (), _) := Prod.ext hput rfl
  rw [keep_of_put_ok hdone, keep_of_put_ok hdone]

/-- A course without trouble is open to connections of any policy. -/
theorem Course.of_untroubled {outcome : Except Error ResultSet} {s' : σ} {calls : List Call}
    (hcourse : Course c env q parameters s outcome s' calls) (hclear : Untroubled calls)
    (c' : Connection) : Course c' env q parameters s outcome s' calls := by
  have hlookups {rest : List Call} (hget : Untroubled (.get (Key.ofQuery q.text parameters)
      (env.get (Key.ofQuery q.text parameters) (derived env q parameters s)).1 :: rest)) :
      c.lookup env (Key.ofQuery q.text parameters) (derived env q parameters s) =
        c'.lookup env (Key.ofQuery q.text parameters) (derived env q parameters s) :=
    lookup_eq_of_no_obstacle (not_not.mp (hget _ List.mem_cons_self)) c'
  cases hcourse with
  | replayed hget hdecode => exact .replayed hget hdecode
  | refused hlookup => exact .refused ((hlookups hclear).symm.trans hlookup)
  | broken hlookup hcapture => exact .broken ((hlookups hclear).symm.trans hlookup) hcapture
  | captured hlookup hcapture hkeep =>
      have hput := not_not.mp (hclear _ (List.mem_cons_of_mem _ (List.mem_cons_of_mem _
        List.mem_cons_self)))
      refine .captured ((hlookups hclear).symm.trans hlookup) hcapture ?_
      rw [keep_eq_of_put_ok hput c' c, hkeep]

/-- Without trouble, another policy makes no difference. -/
theorem query_recorded_of_untroubled {w : σ × List Call}
    (hclear : Untroubled (c.query env.recorded q parameters w).2.2) (policy : StorePolicy) :
    { c with onStoreError := policy }.query env.recorded q parameters w =
      c.query env.recorded q parameters w := by
  by_cases hactive : c.active = true
  · obtain ⟨calls, hcourse⟩ := exists_course c env q parameters w.1
    have hreplay := hcourse.replay_recorded w.2
    rw [query_of_active hactive, hreplay] at hclear
    have hclear' : Untroubled calls :=
      fun call hmem => hclear call (List.mem_append_right w.2 hmem)
    have hcourse' := hcourse.of_untroubled hclear' { c with onStoreError := policy }
    have hactive' : { c with onStoreError := policy }.active = true := hactive
    rw [query_of_active hactive, query_of_active hactive', hreplay, hcourse'.replay_recorded]
  · have hactive' : ¬{ c with onStoreError := policy }.active = true := hactive
    rw [query_of_inactive hactive, query_of_inactive hactive']

theorem query_of_untroubled (hclear : Untroubled (c.calls env q parameters s))
    (policy : StorePolicy) :
    { c with onStoreError := policy }.query env q parameters s = c.query env q parameters s ∧
      { c with onStoreError := policy }.calls env q parameters s = c.calls env q parameters s := by
  have hsame := query_recorded_of_untroubled (w := (s, [])) hclear policy
  rw [query_recorded, query_recorded] at hsame
  simp only [List.nil_append, Prod.mk.injEq] at hsame
  obtain ⟨houtcome, hafter, hcalls⟩ := hsame
  exact ⟨Prod.ext houtcome hafter, hcalls⟩

end Connection

theorem PreparedStatement.query_recorded_of_untroubled {c : Connection} {env : Environment σ}
    {p : PreparedStatement} {w : σ × List Call}
    (hclear : Untroubled (p.query c env.recorded w).2.2) (policy : StorePolicy) :
    p.query { c with onStoreError := policy } env.recorded w = p.query c env.recorded w := by
  unfold PreparedStatement.query at hclear ⊢
  cases hvalues : p.parameters with
  | ok values =>
      rw [hvalues] at hclear
      exact Connection.query_recorded_of_untroubled hclear policy
  | error e => rfl

/-! ## Runs without trouble -/

namespace Action

/-- The same action, with connections of that policy. -/
def withPolicy (policy : StorePolicy) : Action σ → Action σ
  | .query c env q parameters => .query { c with onStoreError := policy } env q parameters
  | .queryPrepared c env p => .queryPrepared { c with onStoreError := policy } env p
  | .update env q parameters => .update env q parameters
  | .updatePrepared env p => .updatePrepared env p
  | .change f => .change f

theorem run_withPolicy (policy : StorePolicy) {a : Action σ} {w : σ × List Call}
    (hclear : Untroubled (a.run w).2.2) : (a.withPolicy policy).run w = a.run w := by
  cases a with
  | query c env q parameters =>
      have hsame := Connection.query_recorded_of_untroubled hclear policy
      simp only [withPolicy, run, hsame]
  | update env q parameters => rfl
  | queryPrepared c env p =>
      have hsame := PreparedStatement.query_recorded_of_untroubled hclear policy
      simp only [withPolicy, run, hsame]
  | updatePrepared env p => rfl
  | change f => rfl

theorem runAll_withPolicy (policy : StorePolicy) {actions : List (Action σ)} {w : σ × List Call}
    (hclear : Untroubled (runAll w actions).2.2) :
    runAll w (actions.map (withPolicy policy)) = runAll w actions := by
  induction actions generalizing w with
  | nil => rfl
  | cons a actions ih =>
      have hstep := run_withPolicy policy (hclear.mono (prefix_runAll actions (a.run w).2))
      have hrest := ih hclear
      simp only [List.map_cons, runAll, hstep, hrest]

end Action

/-! ## In trouble -/

namespace Connection

variable {c : Connection} {env : Environment σ} {view : StoreView σ} {q : Statement}
  {parameters : List Value} {s : σ}

/-- What stands in the way of reading an entry is what the query fails with. -/
theorem query_of_obstacle (hactive : c.active = true) (hfail : c.onStoreError = .fail)
    {e : Error} (hobstacle : obstacle?
      (env.get (Key.ofQuery q.text parameters) (derived env q parameters s)).1 = some e) :
    c.query env q parameters s = (.error e,
        (env.get (Key.ofQuery q.text parameters) (derived env q parameters s)).2) ∧
      c.calls env q parameters s = [.get (Key.ofQuery q.text parameters)
        (env.get (Key.ofQuery q.text parameters) (derived env q parameters s)).1] := by
  have hlookup := lookup_of_fail hfail hobstacle
  exact ⟨query_of_fail hactive hfail hobstacle,
    calls_of_replay_recorded hactive (replay_recorded_of_lookup_error hlookup [])⟩

theorem keep_of_fail (hfail : c.onStoreError = .fail) {k : Key} {r : ResultSet} {e : Error}
    (hput : (env.put k (Entry.encodeResult r) s).1 = .error e) :
    (c.keep env k r s).1 = .error e := by
  have hdone : env.put k (Entry.encodeResult r) s = (.error e, _) := Prod.ext hput rfl
  rw [keep_of_put_error hdone, tolerate_of_fail hfail]

/-- A put that fails has been tried with what one query to the database has given, and its error
is what the query fails with. -/
theorem query_of_put_error (hactive : c.active = true) (hfail : c.onStoreError = .fail)
    {k : Key} {b : List UInt8} {e : Error}
    (hput : Call.put k b (.error e) ∈ c.calls env q parameters s) :
    (c.query env q parameters s).1 = .error e ∧ ∃ live,
      c.calls env q parameters s = [.get k (.ok none), .query q parameters live,
        .put k b (.error e)] := by
  obtain ⟨outcome, hcourse, houtcome⟩ := course_of_active hactive env q parameters s
  rw [houtcome]
  generalize c.calls env q parameters s = calls at hput hcourse ⊢
  generalize (c.query env q parameters s).2 = after at hcourse
  cases hcourse with
  | replayed hget hdecode => simp at hput
  | refused hlookup => simp at hput
  | broken hlookup hcapture => simp at hput
  | @captured r looked captured _ done hlookup hcapture hkeep =>
      simp only [List.mem_cons, Call.put.injEq, reduceCtorEq, List.not_mem_nil, or_false,
        false_or] at hput
      obtain ⟨rfl, rfl, herror⟩ := hput
      have hdone := keep_of_fail hfail herror.symm
      rw [hkeep] at hdone
      obtain rfl := hdone
      rw [get_of_lookup_none hfail hlookup, ← herror]
      exact ⟨rfl, _, rfl⟩

/-! ## Both policies -/

/-- Without trouble an active query has the same answer, leaves the same world and makes the same
calls under both policies, and so does every run.  In trouble, a query that does not tolerate it
fails with the very error: before it asks the database and without a change of the store if an
entry cannot be got or read, and after one query to the database if a put fails. -/
theorem policies_differ_only_in_trouble (hserves : env.Serves view) (q : Statement)
    (parameters : List Value) (s : σ) :
    let under (policy : StorePolicy) : Connection := ⟨true, policy⟩
    let k := Key.ofQuery q.text parameters
    let found := (env.get k (derived env q parameters s)).1
    (∀ policy policy', Untroubled ((under policy).calls env q parameters s) →
        (under policy').query env q parameters s = (under policy).query env q parameters s ∧
          (under policy').calls env q parameters s = (under policy).calls env q parameters s) ∧
      (∀ e, obstacle? found = some e →
          ((under .fail).query env q parameters s).1 = .error e ∧
            (under .fail).calls env q parameters s = [.get k found] ∧
              view.Same s ((under .fail).query env q parameters s).2) ∧
        (∀ k' b e, Call.put k' b (.error e) ∈ (under .fail).calls env q parameters s →
            ((under .fail).query env q parameters s).1 = .error e ∧ ∃ live,
              (under .fail).calls env q parameters s = [.get k' (.ok none),
                .query q parameters live, .put k' b (.error e)]) ∧
          ∀ (actions : List (Action σ)) policy, Untroubled (Action.runAll (s, []) actions).2.2 →
            Action.runAll (s, []) (actions.map (.withPolicy policy)) =
              Action.runAll (s, []) actions := by
  intro under k found
  refine ⟨fun policy policy' hclear => query_of_untroubled hclear policy', fun e hobstacle => ?_,
    fun k' b e hput => query_of_put_error rfl rfl hput,
    fun actions policy hclear => Action.runAll_withPolicy policy hclear⟩
  obtain ⟨hquery, hcalls⟩ := query_of_obstacle (c := under .fail) rfl rfl hobstacle
  rw [hquery]
  exact ⟨rfl, hcalls, (hserves.same_derived q parameters s).trans (hserves.get k _)⟩

/-- A host whose store can be read but not written, and whose database has one row. -/
def unwritableHost : Host :=
  { Host.withFiles [] with
    unreliable := [("s", ⟨[], false, true⟩)]
    backends := [.opened (.scripted ⟨[⟨pairs.text, none,
      .rows lineLostCursor.columns [.ok [.ok (.int32 1), .ok (.int32 2)]]⟩], []⟩)] }

/-- The error of that store. -/
def unwritable : Error :=
  .store UnreliableStore.path (.other "flaky write")

theorem calls_unwritableHost :
    (⟨true, .fail⟩ : Connection).calls patient.environment pairs [] unwritableHost =
      [.get (Key.ofQuery pairs.text []) (.ok none),
        .query pairs [] (.ok (.scripted (.start lineLostCursor.columns
          [.ok [.ok (.int32 1), .ok (.int32 2)]]))),
        .put (Key.ofQuery pairs.text [])
          (Entry.encodeResult ⟨lineLostCursor.columns, [[.int32 1, .int32 2]]⟩)
          (.error unwritable)] :=
  rfl

/-- The run on the scripted host is the same under every policy.  On a broken entry the policies
part, and so they do where a capture cannot be put. -/
theorem sevenRun_any_policy :
    (∀ policy, Action.runAll (OpenConnection.scriptedHost, [])
        (sevenRun.map (.withPolicy policy)) =
          Action.runAll (OpenConnection.scriptedHost, []) sevenRun) ∧
      let k := Key.ofQuery pairs.text []
      let h := brokenEntryHost k (.fail "offline")
      ((⟨true, .fail⟩ : Connection).query patient.environment pairs [] h).1 =
          .error (.corrupt (.truncated 0 4 1)) ∧
        (⟨true, .fail⟩ : Connection).calls patient.environment pairs [] h =
          [.get k (.ok (some [0x53]))] ∧
          ((⟨true, .fail⟩ : Connection).query patient.environment pairs [] unwritableHost).1 =
            .error unwritable ∧
            ∃ live b, (⟨true, .fail⟩ : Connection).calls patient.environment pairs []
              unwritableHost = [.get k (.ok none), .query pairs [] live,
                .put k b (.error unwritable)] := by
  have hclear : Untroubled (Action.runAll (OpenConnection.scriptedHost, []) sevenRun).2.2 := by
    rw [calls_sevenRun]
    intro call hmem
    simp only [List.mem_cons, List.not_mem_nil, or_false] at hmem
    rcases hmem with rfl | rfl | rfl
    · exact not_not.mpr rfl
    · exact id
    · exact not_not.mpr rfl
  have hmemory := (sharing .fail).serves (.memory 0) (List.mem_singleton_self (sharing .fail).store)
  have hunreliable := patient.serves (.unreliable "s") (List.mem_singleton_self patient.store)
  constructor
  · intro policy
    exact (policies_differ_only_in_trouble hmemory selectN [] _).2.2.2 sevenRun policy hclear
  · intro k h
    have hget : (patient.environment.get k (derived patient.environment pairs [] h)).1 =
        .ok (some [0x53]) := congrArg Prod.fst (get_brokenEntryDerived k _)
    have hobstacle : obstacle?
        (patient.environment.get k (derived patient.environment pairs [] h)).1 =
          some (.corrupt (.truncated 0 4 1)) := by
      rw [hget]
      exact obstacle?_broken
    obtain ⟨hfails, hcalls, -⟩ :=
      (policies_differ_only_in_trouble hunreliable pairs [] h).2.1 _ hobstacle
    have hput : Call.put k (Entry.encodeResult ⟨lineLostCursor.columns, [[.int32 1, .int32 2]]⟩)
        (.error unwritable) ∈
          (⟨true, .fail⟩ : Connection).calls patient.environment pairs [] unwritableHost := by
      rw [calls_unwritableHost]
      exact List.mem_cons_of_mem _ (List.mem_cons_of_mem _ List.mem_cons_self)
    obtain ⟨hunput, live, htried⟩ :=
      (policies_differ_only_in_trouble hunreliable pairs [] unwritableHost).2.2.1 _ _ _ hput
    rw [hcalls, hget]
    exact ⟨hfails, rfl, hunput, live, _, htried⟩

end Connection

end QueryReplay
