import QueryReplay.Proofs.Connection.Degrading
import QueryReplay.Proofs.Connection.Policies

/-!
# Capturing is not seen

A connection that keeps results and one that does not are compared at the same
database.  Where the store has no entry, both answer with cursors that have the
same columns and yield the same rows, provided that there are columns or no
rows and that trouble with the store is absent or tolerated.  The cursors may
be of different kinds: one is that of the database itself, with whatever its
rows hold behind the last column, and the other walks over what was captured.
-/

namespace QueryReplay

variable {σ : Type}

/-- The database answers as it would if nothing had been told to the log or got from the store. -/
structure Environment.Apart (env : Environment σ) : Prop where
  log (e : Log.Event) (q : Statement) (parameters : List Value) (s : σ) :
    (env.query q parameters (env.log e s)).1 = (env.query q parameters s).1
  get (k : Key) (q : Statement) (parameters : List Value) (s : σ) :
    (env.query q parameters (env.get k s).2).1 = (env.query q parameters s).1

/-! ## Hosts -/

namespace Host

theorem ask_log {α : Type} (b : Backend) (ofScript : Script → Except BackendFault α)
    (ofDatabase : Database → Except BackendFault α × Database) (e : Log.Event) (h : Host) :
    (ask b ofScript ofDatabase (h.log e)).1 = (ask b ofScript ofDatabase h).1 := by
  unfold ask
  by_cases hclosed : b.isClosed = true
  · rw [if_pos hclosed, if_pos hclosed]
  · rw [if_neg hclosed, if_neg hclosed]
    cases b.engine with
    | scripted script => rfl
    | tables id location => rfl

theorem askRows_log (id : Nat) (e : Log.Event) (q : Statement) (parameters : List Value)
    (h : Host) : (askRows id q parameters (h.log e)).1 = (askRows id q parameters h).1 := by
  have hbackends : (h.log e).backends = h.backends := rfl
  unfold askRows
  rw [hbackends]
  cases h.backends[id]? with
  | none => rfl
  | some b =>
      exact ask_log b (·.query q.text parameters) (·.answer q parameters) e
        (h.setBackend id { b with queries := b.queries + 1 })

end Host

/-- Databases of a host take no notice of its log and of its stores. -/
theorem OpenConnection.apart (c : OpenConnection) : c.environment.Apart where
  log e q parameters h := Host.askRows_log c.backend e q parameters h
  get k q parameters h := by
    show (Host.askRows c.backend q parameters (Host.getEntry c.store k h).2).1 = _
    rw [Host.getEntry_snd]
    rfl

namespace Connection

variable {c c' : Connection} {env env' : Environment σ} {view : StoreView σ} {q : Statement}
  {parameters : List Value} {s : σ}

/-! ## What the database is asked -/

theorem query_tolerate (hapart : env.Apart) (c : Connection) (trouble : Log.Trouble) (k : Key)
    (e : Error) (s : σ) :
    (env.query q parameters (c.tolerate env trouble k e s).2).1 = (env.query q parameters s).1 := by
  cases hpolicy : c.onStoreError with
  | fail => rw [tolerate_of_fail hpolicy]
  | degrade =>
      rw [tolerate_of_degrade hpolicy]
      exact hapart.log _ q parameters s

/-- A lookup, whatever comes of it, does not change the answer of the database. -/
theorem query_lookup (hapart : env.Apart) (c : Connection) (k : Key) (q : Statement)
    (parameters : List Value) (s : σ) :
    (env.query q parameters (c.lookup env k s).2).1 = (env.query q parameters s).1 := by
  have hget := hapart.get k q parameters s
  rcases found_cases (env.get k s).1 with hnothing | ⟨r, hresult⟩ | ⟨e, hobstacle⟩
  · rw [lookup_of_nothing hnothing]
    exact (hapart.log _ q parameters _).trans hget
  · rw [lookup_of_isResult hresult]
    exact hget
  · rw [lookup_of_obstacle hobstacle]
    exact (query_tolerate hapart c _ k e _).trans hget

theorem query_of_lookup (hapart : env.Apart) {found : Except Error (Option ResultSet)} {looked : σ}
    (hlookup : c.lookup env (Key.ofQuery q.text parameters) (derived env q parameters s) =
      (found, looked)) :
    (env.query q parameters looked).1 = (env.query q parameters s).1 := by
  have hlooked := query_lookup hapart c (Key.ofQuery q.text parameters) q parameters
    (derived env q parameters s)
  rw [hlookup] at hlooked
  exact hlooked.trans (hapart.log _ q parameters s)

/-! ## One query -/

/-- Without an entry, a query that tolerates trouble is answered with what can be captured. -/
theorem query_of_capture_of_degrade (hapart : env.Apart) (hactive : c.active = true)
    (hdegrade : c.onStoreError = .degrade)
    (hnone : ∀ r,
      ¬IsResult (env.get (Key.ofQuery q.text parameters) (derived env q parameters s)).1 r)
    {live : ResultCursor} (hlive : (env.query q parameters s).1 = .ok live) {r : ResultSet}
    (hcapture : live.capture = .ok r) :
    (c.query env q parameters s).1 = .ok (.captured (.start r)) := by
  have hlookup : c.lookup env (Key.ofQuery q.text parameters) (derived env q parameters s) =
      (.ok none, _) := Prod.ext (lookup_of_degrade hdegrade hnone) rfl
  have hasked := (query_of_lookup hapart hlookup).trans hlive
  rw [query_of_degrade hactive hdegrade hnone, capture_fst_of_live hasked, hcapture]
  rfl

theorem query_of_capture (hapart : env.Apart) (hactive : c.active = true)
    (hpolicy : c.onStoreError = .degrade ∨ Untroubled (c.calls env q parameters s))
    (hnone : ∀ r,
      ¬IsResult (env.get (Key.ofQuery q.text parameters) (derived env q parameters s)).1 r)
    {live : ResultCursor} (hlive : (env.query q parameters s).1 = .ok live) {r : ResultSet}
    (hcapture : live.capture = .ok r) :
    (c.query env q parameters s).1 = .ok (.captured (.start r)) := by
  rcases hpolicy with hdegrade | hclear
  · exact query_of_capture_of_degrade hapart hactive hdegrade hnone hlive hcapture
  · -- Without trouble, the query is that of a connection which tolerates it.
    have hsame := (query_of_untroubled hclear .degrade).1
    rw [← hsame]
    exact query_of_capture_of_degrade (c := { c with onStoreError := .degrade }) hapart hactive
      rfl hnone hlive hcapture

theorem not_isResult_of_entry_none (hserves : env.Serves view) (hplace : view.inPlace s)
    (hentry : view.entry s (Key.ofQuery q.text parameters) = none) (r : ResultSet) :
    ¬IsResult (env.get (Key.ofQuery q.text parameters) (derived env q parameters s)).1 r := by
  rintro ⟨b, hget, -⟩
  rw [hserves.entry_of_get hplace hget] at hentry
  cases hentry

/-- An active query that has asked the database is answered with what was captured. -/
theorem exists_live_of_query (hapart : env.Apart) (hactive : c.active = true)
    {cursor : ResultCursor} (hquery : (c.query env q parameters s).1 = .ok cursor)
    {answer : Except Error ResultCursor}
    (hasked : .query q parameters answer ∈ c.calls env q parameters s) :
    ∃ live r, (env.query q parameters s).1 = .ok live ∧ live.capture = .ok r ∧
      cursor = .captured (.start r) := by
  obtain ⟨outcome, hcourse, houtcome⟩ := course_of_active hactive env q parameters s
  rw [houtcome] at hquery
  generalize c.calls env q parameters s = calls at hasked hcourse
  generalize (c.query env q parameters s).2 = after at hcourse
  cases hcourse with
  | replayed hget hdecode => simp at hasked
  | refused hlookup => simp at hasked
  | broken hlookup hcapture => cases hquery
  | @captured r looked captured _ done hlookup hcapture hkeep =>
      obtain ⟨live, hlive, hr⟩ := exists_of_capture (congrArg Prod.fst hcapture)
      refine ⟨live, r, (query_of_lookup hapart hlookup).symm.trans hlive, hr, ?_⟩
      cases done with
      | error e => cases hquery
      | ok _ => exact (Except.ok.inj hquery).symm

/-! ## Connections that keep nothing -/

/-- A run of such a connection asks the database once for each query, and nothing else. -/
theorem runAll_of_inactive (hinactive : ¬c.active = true) (env : Environment σ)
    (queries : List (Statement × List Value)) (w : σ × List Call) :
    ∃ calls, (Action.runAll w (queries.map fun query => .query c env query.1 query.2)).2.2 =
        w.2 ++ calls ∧
      List.Forall₂ (fun query call => ∃ answer, call = .query query.1 query.2 answer)
        queries calls := by
  induction queries generalizing w with
  | nil => exact ⟨[], (List.append_nil w.2).symm, .nil⟩
  | cons query queries ih =>
      obtain ⟨s, before⟩ := w
      have hstep : ((Action.query c env query.1 query.2).run (s, before)).2.2 =
          before ++ [.query query.1 query.2 (env.query query.1 query.2 s).1] := by
        show (c.query env.recorded query.1 query.2 (s, before)).2.2 = _
        rw [query_recorded, calls_of_inactive hinactive]
      obtain ⟨calls, hrun, hcalls⟩ := ih ((Action.query c env query.1 query.2).run (s, before)).2
      refine ⟨.query query.1 query.2 (env.query query.1 query.2 s).1 :: calls, ?_,
        .cons ⟨_, rfl⟩ hcalls⟩
      rw [List.map_cons, Action.runAll, hrun, hstep, List.append_assoc, List.singleton_append]

/-! ## Both connections -/

/-- Where the store has no entry, an active query yields what the cursor of the database does,
with the same columns and nothing more.  This holds if all rows can be read, if there are columns
or no rows, and if trouble with the store is absent or tolerated.  Whenever an active query has
asked the database and is answered, the database has answered with a cursor of the same columns
that yields the same rows.  An inactive connection asks the database once for each query, and
neither reads nor writes its store. -/
theorem capture_transparent (hserves : env.Serves view) (hapart : env.Apart)
    (hsame : env'.query = env.query) (hactive : c.active = true)
    (hinactive : ¬c'.active = true) (q : Statement) (parameters : List Value) (s : σ) :
    let direct := (c'.query env' q parameters s).1
    let answer := (c.query env q parameters s).1
    (∀ live rows, direct = .ok live → live.Yields rows → (live.columns ≠ [] ∨ rows = []) →
        view.inPlace s → view.entry s (Key.ofQuery q.text parameters) = none →
        (c.onStoreError = .degrade ∨ Untroubled (c.calls env q parameters s)) →
        ∃ cursor, answer = .ok cursor ∧ cursor.columns = live.columns ∧
          ∀ rows', cursor.Yields rows' ↔ rows' = rows) ∧
      (∀ cursor asked, answer = .ok cursor →
        .query q parameters asked ∈ c.calls env q parameters s →
        ∃ live rows, direct = .ok live ∧ live.columns = cursor.columns ∧
          cursor.Yields rows ∧ live.Yields rows) ∧
        c'.calls env' q parameters s = [.query q parameters direct] ∧
          ∀ queries : List (Statement × List Value),
            List.Forall₂ (fun query call => ∃ asked, call = .query query.1 query.2 asked) queries
              (Action.runAll (s, []) (queries.map fun query =>
                .query c' env' query.1 query.2)).2.2 := by
  intro direct answer
  have hdirect : direct = (env.query q parameters s).1 := by
    show (c'.query env' q parameters s).1 = _
    rw [query_of_inactive hinactive, hsame]
  refine ⟨?_, ?_, ?_, ?_⟩
  · intro live rows hlive hyields hwide hplace hentry hpolicy
    have hnone := not_isResult_of_entry_none hserves hplace hentry
    have hcapture : live.capture = .ok ⟨live.columns, rows⟩ :=
      ResultCursor.capture_eq_ok_iff.mpr ⟨rfl, hyields, hwide⟩
    have hrect := ResultCursor.rectangular_of_capture hcapture
    have hkept := ResultCursor.yields_start hrect
    refine ⟨.captured (.start ⟨live.columns, rows⟩), ?_, rfl, fun rows' => ?_⟩
    · exact query_of_capture hapart hactive hpolicy hnone (hdirect.symm.trans hlive) hcapture
    · constructor
      · exact hkept.eq
      · rintro rfl
        exact hkept
  · intro cursor asked hanswer hasked
    obtain ⟨live, r, hlive, hcapture, rfl⟩ := exists_live_of_query hapart hactive hanswer hasked
    obtain ⟨hcolumns, hyields, -⟩ := ResultCursor.capture_eq_ok_iff.mp hcapture
    exact ⟨live, r.rows, hdirect.trans hlive, hcolumns.symm,
      ResultCursor.yields_start (ResultCursor.rectangular_of_capture hcapture), hyields⟩
  · rw [hdirect, calls_of_inactive hinactive, hsame]
  · intro queries
    obtain ⟨calls, hrun, hcalls⟩ := runAll_of_inactive hinactive env' queries (s, [])
    rw [hrun]
    exact hcalls

/-! ## A database that gives too much, and a store that gives nothing -/

/-- One column, and rows with more cells than that, one of which fails. -/
def wideCursor : ScriptedCursor :=
  .start [⟨"n", "n", 1, .integer, "INT", .unknown, 0, 0⟩]
    [.ok [.ok (.int32 1), .error lineLost], .ok [.ok .null, .ok (.int32 2), .ok .null]]

theorem wideCursor_yields :
    (ResultCursor.scripted wideCursor).Yields [[.int32 1], [.null]] := by
  have hfirst : (ResultCursor.scripted wideCursor.advance.2).Shows [.int32 1] :=
    List.Forall₂.cons rfl .nil
  have hsecond : (ResultCursor.scripted wideCursor.advance.2.advance.2).Shows [.null] :=
    List.Forall₂.cons rfl .nil
  exact .row rfl hfirst (.row rfl hsecond (.done rfl))

/-- A host whose store fails to read and to write. -/
def deafHost : Host :=
  { Host.withFiles [] with
    unreliable := [("s", ⟨[], true, true⟩)]
    backends := [.opened (.scripted
      ⟨[⟨pairs.text, none, .rows wideCursor.columns wideCursor.pending⟩], []⟩)] }

/-- The cells behind the column are not seen, nor is the trouble with the store. -/
theorem deafHost_transparent :
    ((⟨false, .fail⟩ : Connection).query patient.environment pairs [] deafHost).1 =
        .ok (.scripted wideCursor) ∧
      ∃ cursor, (patient.connection.query patient.environment pairs [] deafHost).1 = .ok cursor ∧
        cursor.columns = wideCursor.columns ∧
          ∀ rows, cursor.Yields rows ↔ rows = [[.int32 1], [.null]] := by
  have hserves := patient.serves (.unreliable "s") (List.mem_singleton_self patient.store)
  have hplace : (Host.shelfView (.unreliable "s") [patient.store]).inPlace deafHost := by
    intro store hstore
    rw [List.mem_singleton.mp hstore]
    rfl
  have hactive : patient.connection.active = true := rfl
  have hinactive : ¬(⟨false, .fail⟩ : Connection).active = true := Bool.false_ne_true
  have hdirect : ((⟨false, .fail⟩ : Connection).query patient.environment pairs []
      deafHost).1 = .ok (.scripted wideCursor) := rfl
  have hsame := (capture_transparent hserves patient.apart rfl hactive hinactive pairs []
    deafHost).1
  refine ⟨hdirect, hsame _ _ hdirect wideCursor_yields (Or.inl ?_) hplace rfl (Or.inl rfl)⟩
  exact List.cons_ne_nil _ _

end Connection

end QueryReplay
