import QueryReplay.Proofs.Connection.Provenance
import QueryReplay.Proofs.Host.Frames

/-!
# What a request does to stores and databases

Whatever is asked of a connection, it gets at most one entry, then asks the
database at most once, and then puts at most one entry, under the key of the
query and with the result that the database has just given.  From the calls of
a request it can be told what it leaves alone: every entry under another key,
every other store, and all stores if the connection keeps nothing.  So a store
of which no connection in a run keeps results is never changed.
-/

namespace QueryReplay

variable {σ : Type}

/-! ## Requests -/

/-- What can be asked of a connection. -/
inductive Request where
  | query (q : Statement) (parameters : List Value)
  | queryPrepared (p : PreparedStatement)
  | update (q : Statement) (parameters : List Value)
  | updatePrepared (p : PreparedStatement)
deriving DecidableEq, Repr

namespace Request

def isUpdate : Request → Bool
  | .query _ _ => false
  | .queryPrepared _ => false
  | .update _ _ => true
  | .updatePrepared _ => true

/-- The statement with the values of all parameters, or the first one without a value. -/
def submission : Request → Except Error (Statement × List Value)
  | .query q parameters => .ok (q, parameters)
  | .queryPrepared p => p.parameters.map fun values => (p.statement, values)
  | .update q parameters => .ok (q, parameters)
  | .updatePrepared p => p.parameters.map fun values => (p.statement, values)

/-- What comes back, and the world behind it. -/
def perform (request : Request) (c : Connection) (env : Environment σ) (s : σ) : Answer × σ :=
  match request with
  | .query q parameters =>
    let answered := c.query env q parameters s
    (.rows answered.1, answered.2)
  | .queryPrepared p =>
    let answered := p.query c env s
    (.rows answered.1, answered.2)
  | .update q parameters =>
    let answered := Connection.update env q parameters s
    (.count answered.1, answered.2)
  | .updatePrepared p =>
    let answered := p.update env s
    (.count answered.1, answered.2)

/-- The request as something that is done with a connection while its calls are written down. -/
def action (request : Request) (c : Connection) (env : Environment σ) : Action σ :=
  match request with
  | .query q parameters => .query c env q parameters
  | .queryPrepared p => .queryPrepared c env p
  | .update q parameters => .update env q parameters
  | .updatePrepared p => .updatePrepared env p

/-- The calls of a request, in order. -/
def calls (request : Request) (c : Connection) (env : Environment σ) (s : σ) : List Call :=
  ((request.action c env).run (s, [])).2.2

variable {request : Request} {c : Connection} {env : Environment σ} {s : σ} {q : Statement}
  {parameters : List Value}

/-! ## The kinds of requests -/

/-- A request without a value for every parameter is refused before anything is called. -/
theorem run_of_unbound {e : Error} (hunbound : request.submission = .error e) (c : Connection)
    (env : Environment σ) (s : σ) :
    (request.perform c env s).2 = s ∧ ∀ before,
      (request.action c env).run (s, before) = ((request.perform c env s).1, s, before) := by
  cases request with
  | query q parameters => cases hunbound
  | update q parameters => cases hunbound
  | queryPrepared p =>
      cases hvalues : p.parameters with
      | ok values =>
          simp only [submission, hvalues] at hunbound
          cases hunbound
      | error e =>
          simp only [perform, action, Action.run, PreparedStatement.query, hvalues]
          exact ⟨trivial, fun _ => trivial⟩
  | updatePrepared p =>
      cases hvalues : p.parameters with
      | ok values =>
          simp only [submission, hvalues] at hunbound
          cases hunbound
      | error e =>
          simp only [perform, action, Action.run, PreparedStatement.update, hvalues]
          exact ⟨trivial, fun _ => trivial⟩

/-- With all values, a prepared query is the query of its statement. -/
theorem run_of_query (hbound : request.submission = .ok (q, parameters))
    (hquery : request.isUpdate = false) (c : Connection) (env : Environment σ) (s : σ) :
    (request.perform c env s).2 = (c.query env q parameters s).2 ∧ ∀ before,
      (request.action c env).run (s, before) = ((request.perform c env s).1,
        (c.query env q parameters s).2, before ++ c.calls env q parameters s) := by
  cases request with
  | query q' parameters' =>
      cases hbound
      refine ⟨rfl, fun before => ?_⟩
      simp only [perform, action, Action.run, Connection.query_recorded]
  | queryPrepared p =>
      cases hvalues : p.parameters with
      | error e =>
          simp only [submission, hvalues] at hbound
          cases hbound
      | ok values =>
          simp only [submission, hvalues] at hbound
          cases hbound
          simp only [perform, action, Action.run, PreparedStatement.query, hvalues,
            Connection.query_recorded]
          exact ⟨trivial, fun _ => trivial⟩
  | update q' parameters' => cases hquery
  | updatePrepared p => cases hquery

/-- With all values, a prepared change is the change of its statement. -/
theorem run_of_update (hbound : request.submission = .ok (q, parameters))
    (hupdate : request.isUpdate = true) (c : Connection) (env : Environment σ) (s : σ) :
    (request.perform c env s).2 = (env.execute q parameters s).2 ∧ ∀ before,
      (request.action c env).run (s, before) = ((request.perform c env s).1,
        (env.execute q parameters s).2,
        before ++ [.execute q parameters (env.execute q parameters s).1]) := by
  cases request with
  | query q' parameters' => cases hupdate
  | queryPrepared p => cases hupdate
  | update q' parameters' =>
      cases hbound
      exact ⟨rfl, fun before => rfl⟩
  | updatePrepared p =>
      cases hvalues : p.parameters with
      | error e =>
          simp only [submission, hvalues] at hbound
          cases hbound
      | ok values =>
          simp only [submission, hvalues] at hbound
          cases hbound
          simp only [perform, action, Action.run, PreparedStatement.update, hvalues]
          exact ⟨rfl, fun _ => rfl⟩

theorem cases_submission (request : Request) :
    (∃ e, request.submission = .error e) ∨
      (∃ q parameters, request.submission = .ok (q, parameters) ∧ request.isUpdate = true) ∨
        ∃ q parameters, request.submission = .ok (q, parameters) ∧ request.isUpdate = false := by
  cases hsubmission : request.submission with
  | error e => exact Or.inl ⟨e, rfl⟩
  | ok submitted =>
      obtain ⟨q, parameters⟩ := submitted
      cases request.isUpdate with
      | true => exact Or.inr (Or.inl ⟨q, parameters, rfl, rfl⟩)
      | false => exact Or.inr (Or.inr ⟨q, parameters, rfl, rfl⟩)

theorem calls_of_unbound {e : Error} (hunbound : request.submission = .error e) :
    request.calls c env s = [] := by
  rw [calls, (run_of_unbound hunbound c env s).2]

theorem calls_of_update (hbound : request.submission = .ok (q, parameters))
    (hupdate : request.isUpdate = true) :
    request.calls c env s = [.execute q parameters (env.execute q parameters s).1] := by
  rw [calls, (run_of_update hbound hupdate c env s).2]
  rfl

theorem calls_of_query (hbound : request.submission = .ok (q, parameters))
    (hquery : request.isUpdate = false) :
    request.calls c env s = c.calls env q parameters s := by
  rw [calls, (run_of_query hbound hquery c env s).2]
  rfl

/-- To write down the calls of a request changes nothing but what is written. -/
theorem run_action (request : Request) (c : Connection) (env : Environment σ) (s : σ)
    (before : List Call) :
    (request.action c env).run (s, before) =
      ((request.perform c env s).1, (request.perform c env s).2,
        before ++ request.calls c env s) := by
  rcases request.cases_submission with ⟨e, hunbound⟩ | ⟨q, parameters, hbound, hupdate⟩ |
    ⟨q, parameters, hbound, hquery⟩
  · obtain ⟨hafter, hrun⟩ := run_of_unbound hunbound c env s
    rw [hrun, hafter, calls_of_unbound hunbound, List.append_nil]
  · obtain ⟨hafter, hrun⟩ := run_of_update hbound hupdate c env s
    rw [hrun, hafter, calls_of_update hbound hupdate]
  · obtain ⟨hafter, hrun⟩ := run_of_query hbound hquery c env s
    rw [hrun, hafter, calls_of_query hbound hquery]

/-! ## Bounds -/

/-- What stands in a list of calls lets a query do without the database: an entry that can be
read, or an obstacle that is not tolerated. -/
def Settled (c : Connection) (calls : List Call) : Prop :=
  ∃ k found, .get k found ∈ calls ∧
    ((∃ r, Connection.IsResult found r) ∨
      c.onStoreError = .fail ∧ ∃ e, Connection.obstacle? found = some e)

/-- The calls of a request, and what it leaves of the world. -/
structure Bounded (request : Request) (c : Connection) (env : Environment σ) (s after : σ)
    (calls : List Call) : Prop where
  unbound {e : Error} (hunbound : request.submission = .error e) : calls = [] ∧ after = s
  update {q : Statement} {parameters : List Value}
    (hbound : request.submission = .ok (q, parameters)) (hupdate : request.isUpdate = true) :
    calls = [.execute q parameters (env.execute q parameters s).1] ∧
      after = (env.execute q parameters s).2
  query {q : Statement} {parameters : List Value}
    (hbound : request.submission = .ok (q, parameters)) (hquery : request.isUpdate = false) :
    ∃ found live b done,
      calls.Sublist [.get (Key.ofQuery q.text parameters) found, .query q parameters live,
        .put (Key.ofQuery q.text parameters) b done] ∧
      (c.active = true → .get (Key.ofQuery q.text parameters) found ∈ calls) ∧
      (¬c.active = true → calls = [.query q parameters live])
  put {k : Key} {b : List UInt8} {done : Except Error Unit} (hput : .put k b done ∈ calls) :
    c.active = true ∧ ∃ q parameters live r, request.submission = .ok (q, parameters) ∧
      k = Key.ofQuery q.text parameters ∧ .query q parameters (.ok live) ∈ calls ∧
        live.capture = .ok r ∧ b = Entry.encodeResult r
  unasked : (∀ q parameters live, .query q parameters live ∉ calls) ↔
    request.isUpdate = true ∨ (∃ e, request.submission = .error e) ∨ Settled c calls

end Request

namespace Connection

variable {c : Connection} {env : Environment σ} {q : Statement} {parameters : List Value}
  {s s' : σ} {outcome : Except Error ResultSet} {calls : List Call}

theorem not_settled_calls {looked : σ}
    (hlookup : c.lookup env (Key.ofQuery q.text parameters) (derived env q parameters s) =
      (.ok none, looked))
    (hgets : ∀ k found, .get k found ∈ calls →
      found = (env.get (Key.ofQuery q.text parameters) (derived env q parameters s)).1) :
    ¬Request.Settled c calls := by
  obtain ⟨hresult, hobstacle⟩ := not_settled_of_lookup_none hlookup
  rintro ⟨k, found, hmem, ⟨r, hfound⟩ | ⟨hfail, e, hfound⟩⟩
  · exact hresult r (hgets k found hmem ▸ hfound)
  · exact hobstacle e hfail (hgets k found hmem ▸ hfound)

namespace Course

/-- An active query gets its entry, may then ask the database, and may then put what it has. -/
theorem sublist (hcourse : Course c env q parameters s outcome s' calls) :
    ∃ found live b done,
      calls.Sublist [.get (Key.ofQuery q.text parameters) found, .query q parameters live,
        .put (Key.ofQuery q.text parameters) b done] ∧
      .get (Key.ofQuery q.text parameters) found ∈ calls := by
  cases hcourse with
  | replayed hget hdecode =>
      exact ⟨_, .error .afterLastRow, [], .ok (),
        List.Sublist.cons_cons _ (List.nil_sublist _), List.mem_cons_self⟩
  | refused hlookup =>
      exact ⟨_, .error .afterLastRow, [], .ok (),
        List.Sublist.cons_cons _ (List.nil_sublist _), List.mem_cons_self⟩
  | broken hlookup hcapture =>
      exact ⟨_, _, [], .ok (),
        List.Sublist.cons_cons _ (List.Sublist.cons_cons _ (List.nil_sublist _)),
        List.mem_cons_self⟩
  | captured hlookup hcapture hkeep =>
      exact ⟨_, _, _, _, List.Sublist.refl _, List.mem_cons_self⟩

theorem put_mem (hcourse : Course c env q parameters s outcome s' calls) {k : Key}
    {b : List UInt8} {done : Except Error Unit} (hput : .put k b done ∈ calls) :
    ∃ live r, k = Key.ofQuery q.text parameters ∧ .query q parameters (.ok live) ∈ calls ∧
      live.capture = .ok r ∧ b = Entry.encodeResult r := by
  cases hcourse with
  | replayed hget hdecode => simp at hput
  | refused hlookup => simp at hput
  | broken hlookup hcapture => simp at hput
  | captured hlookup hcapture hkeep =>
      obtain ⟨live, hlive, hr⟩ := exists_of_capture (congrArg Prod.fst hcapture)
      simp only [List.mem_cons, reduceCtorEq, Call.put.injEq, List.not_mem_nil, false_or,
        or_false] at hput
      obtain ⟨rfl, rfl, -⟩ := hput
      refine ⟨live, _, rfl, ?_, hr, rfl⟩
      rw [hlive]
      exact List.mem_cons_of_mem _ List.mem_cons_self

/-- The database is not asked exactly if the entry, or what is in its way, settles the query. -/
theorem unasked_iff (hcourse : Course c env q parameters s outcome s' calls) :
    (∀ q' parameters' live, .query q' parameters' live ∉ calls) ↔ Request.Settled c calls := by
  cases hcourse with
  | replayed hget hdecode =>
      refine iff_of_true (by simp) ⟨_, _, List.mem_cons_self, Or.inl ⟨_, _, rfl, hdecode⟩⟩
  | refused hlookup =>
      obtain ⟨hfail, hobstacle⟩ := obstacle_of_lookup_error hlookup
      exact iff_of_true (by simp) ⟨_, _, List.mem_cons_self, Or.inr ⟨hfail, _, hobstacle⟩⟩
  | broken hlookup hcapture =>
      refine iff_of_false (fun hnone => hnone _ _ _ (List.mem_cons_of_mem _ List.mem_cons_self)) ?_
      exact not_settled_calls hlookup (by simp)
  | captured hlookup hcapture hkeep =>
      refine iff_of_false (fun hnone => hnone _ _ _ (List.mem_cons_of_mem _ List.mem_cons_self)) ?_
      exact not_settled_calls hlookup (by simp)

end Course

end Connection

namespace Request

variable {request : Request} {c : Connection} {env : Environment σ} {s : σ} {q : Statement}
  {parameters : List Value}

theorem not_settled_singleton {asked : Except Error ResultCursor} :
    ¬Settled c [.query q parameters asked] := by
  rintro ⟨k, found, hmem, -⟩
  cases List.mem_singleton.mp hmem

/-! ## Every request is bounded -/

theorem bounded_of_unbound {e : Error} (hunbound : request.submission = .error e) :
    Bounded request c env s (request.perform c env s).2 (request.calls c env s) := by
  rw [calls_of_unbound hunbound, (run_of_unbound hunbound c env s).1]
  refine ⟨fun _ => ⟨rfl, rfl⟩, fun hbound => ?_, fun hbound => ?_, fun hput => ?_, ?_⟩
  · rw [hunbound] at hbound
    cases hbound
  · rw [hunbound] at hbound
    cases hbound
  · exact absurd hput List.not_mem_nil
  · exact iff_of_true (fun _ _ _ => List.not_mem_nil) (Or.inr (Or.inl ⟨e, hunbound⟩))

theorem bounded_of_update (hbound : request.submission = .ok (q, parameters))
    (hupdate : request.isUpdate = true) :
    Bounded request c env s (request.perform c env s).2 (request.calls c env s) := by
  rw [calls_of_update hbound hupdate, (run_of_update hbound hupdate c env s).1]
  refine ⟨fun hunbound => ?_, fun hbound' _ => ?_, fun _ hquery => ?_, fun hput => ?_, ?_⟩
  · rw [hbound] at hunbound
    cases hunbound
  · rw [hbound] at hbound'
    cases hbound'
    exact ⟨rfl, rfl⟩
  · rw [hupdate] at hquery
    cases hquery
  · cases List.mem_singleton.mp hput
  · exact iff_of_true (by simp) (Or.inl hupdate)

theorem bounded_of_query (hbound : request.submission = .ok (q, parameters))
    (hquery : request.isUpdate = false) :
    Bounded request c env s (request.perform c env s).2 (request.calls c env s) := by
  rw [calls_of_query hbound hquery]
  have hbranch : (request.isUpdate = true ∨ (∃ e, request.submission = .error e) ∨
      Settled c (c.calls env q parameters s)) ↔ Settled c (c.calls env q parameters s) := by
    rw [hquery, hbound]
    simp
  refine ⟨fun hunbound => ?_, fun _ hupdate => ?_, fun hbound' _ => ?_, fun hput => ?_, ?_⟩
  · rw [hbound] at hunbound
    cases hunbound
  · rw [hquery] at hupdate
    cases hupdate
  · rw [hbound] at hbound'
    cases hbound'
    by_cases hactive : c.active = true
    · obtain ⟨outcome, hcourse, -⟩ := Connection.course_of_active hactive env q parameters s
      obtain ⟨found, live, b, done, hsublist, hget⟩ := hcourse.sublist
      exact ⟨found, live, b, done, hsublist, fun _ => hget,
        fun hinactive => absurd hactive hinactive⟩
    · rw [Connection.calls_of_inactive hactive]
      exact ⟨.ok none, _, [], .ok (),
        List.Sublist.cons _ (List.Sublist.cons_cons _ (List.nil_sublist _)),
        fun h => absurd h hactive, fun _ => rfl⟩
  · by_cases hactive : c.active = true
    · obtain ⟨outcome, hcourse, -⟩ := Connection.course_of_active hactive env q parameters s
      obtain ⟨live, r, hwritten⟩ := hcourse.put_mem hput
      exact ⟨hactive, q, parameters, live, r, hbound, hwritten⟩
    · rw [Connection.calls_of_inactive hactive] at hput
      cases List.mem_singleton.mp hput
  · rw [hbranch]
    by_cases hactive : c.active = true
    · obtain ⟨outcome, hcourse, -⟩ := Connection.course_of_active hactive env q parameters s
      exact hcourse.unasked_iff
    · rw [Connection.calls_of_inactive hactive]
      exact iff_of_false (fun hnone => hnone _ _ _ List.mem_cons_self) not_settled_singleton

/-- What a request may call, and what it may change, for every connection in every world. -/
theorem bounded (request : Request) (c : Connection) (env : Environment σ) (s : σ) :
    Bounded request c env s (request.perform c env s).2 (request.calls c env s) := by
  rcases request.cases_submission with ⟨e, hunbound⟩ | ⟨q, parameters, hbound, hupdate⟩ |
    ⟨q, parameters, hbound, hquery⟩
  · exact bounded_of_unbound hunbound
  · exact bounded_of_update hbound hupdate
  · exact bounded_of_query hbound hquery

end Request

/-! ## Stores of a host -/

namespace OpenConnection

open Host (SameStores)

variable {c : OpenConnection} {h h' : Host} {q : Statement} {parameters : List Value}

theorem sameStores_lookup (c : OpenConnection) (k : Key) (h : Host) :
    SameStores h (c.connection.lookup c.environment k h).2 := by
  have hget : (c.environment.get k h).2 = h := Host.getEntry_snd c.store k h
  rcases Connection.found_cases (c.environment.get k h).1 with
    hnothing | ⟨r, hresult⟩ | ⟨e, hobstacle⟩
  · rw [Connection.lookup_of_nothing hnothing, hget]
    exact (Host.onlyLogs_log _ h).sameStores
  · rw [Connection.lookup_of_isResult hresult, hget]
    exact .refl h
  · rw [Connection.lookup_of_obstacle hobstacle, hget]
    exact (onlyLogs_tolerate c _ k e h).sameStores

theorem sameStores_looked {found : Except Error (Option ResultSet)}
    (hlookup : c.connection.lookup c.environment (Key.ofQuery q.text parameters)
      (Connection.derived c.environment q parameters h) = (found, h')) : SameStores h h' := by
  have hlooked := sameStores_lookup c (Key.ofQuery q.text parameters)
    (Connection.derived c.environment q parameters h)
  rw [hlookup] at hlooked
  exact (Host.onlyLogs_log _ h).sameStores.trans hlooked

theorem sameStores_capture {captured : Except Error ResultSet}
    (hcapture : Connection.capture c.environment q parameters h = (captured, h')) :
    SameStores h h' := by
  have hasked := Connection.capture_snd c.environment q parameters h
  rw [hcapture] at hasked
  change h' = _ at hasked
  rw [hasked]
  exact Host.sameStores_askRows c.backend q parameters h

/-- To keep a result is to put its entry, and to tell the log. -/
theorem sameStores_keep (c : OpenConnection) (k : Key) (r : ResultSet) (h : Host) :
    SameStores (Host.putEntry c.store k (Entry.encodeResult r) h).2
      (c.connection.keep c.environment k r h).2 := by
  cases hput : c.environment.put k (Entry.encodeResult r) h with
  | mk done kept =>
      have hkept : (Host.putEntry c.store k (Entry.encodeResult r) h).2 = kept :=
        congrArg Prod.snd hput
      cases done with
      | ok _ =>
          rw [Connection.keep_of_put_ok hput, hkept]
          exact (Host.onlyLogs_log _ kept).sameStores
      | error e =>
          rw [Connection.keep_of_put_error hput, hkept]
          exact (onlyLogs_tolerate c _ k e kept).sameStores

/-- The stores behind some calls are those before them, or those behind the one put among them. -/
def StoresFollow (c : OpenConnection) (h h' : Host) (calls : List Call) : Prop :=
  SameStores h h' ∨ ∃ captured k b done, .put k b done ∈ calls ∧ SameStores h captured ∧
    SameStores (Host.putEntry c.store k b captured).2 h'

theorem storesFollow_of_course {outcome : Except Error ResultSet} {calls : List Call}
    (hcourse : Connection.Course c.connection c.environment q parameters h outcome h' calls) :
    StoresFollow c h h' calls := by
  cases hcourse with
  | replayed hget hdecode =>
      have hlooked := sameStores_looked (Connection.lookup_of_entry hget hdecode)
      exact Or.inl (hlooked.trans (Host.onlyLogs_log _ _).sameStores)
  | refused hlookup => exact Or.inl (sameStores_looked hlookup)
  | broken hlookup hcapture =>
      exact Or.inl ((sameStores_looked hlookup).trans (sameStores_capture hcapture))
  | @captured r looked captured kept done hlookup hcapture hkeep =>
      have hkept := sameStores_keep c (Key.ofQuery q.text parameters) r captured
      rw [hkeep] at hkept
      exact Or.inr ⟨captured, _, _, _, List.mem_cons_of_mem _ (List.mem_cons_of_mem _
        List.mem_cons_self), (sameStores_looked hlookup).trans (sameStores_capture hcapture), hkept⟩

theorem storesFollow (c : OpenConnection) (request : Request) (h : Host) :
    StoresFollow c h (request.perform c.connection c.environment h).2
      (request.calls c.connection c.environment h) := by
  rcases request.cases_submission with ⟨e, hunbound⟩ | ⟨q, parameters, hbound, hupdate⟩ |
    ⟨q, parameters, hbound, hquery⟩
  · rw [(Request.run_of_unbound hunbound _ _ h).1]
    exact Or.inl (.refl h)
  · rw [(Request.run_of_update hbound hupdate _ _ h).1]
    exact Or.inl (Host.sameStores_askCount c.backend q parameters h)
  · rw [(Request.run_of_query hbound hquery _ _ h).1, Request.calls_of_query hbound hquery]
    by_cases hactive : c.connection.active = true
    · obtain ⟨outcome, hcourse, -⟩ :=
        Connection.course_of_active hactive c.environment q parameters h
      exact storesFollow_of_course hcourse
    · rw [Connection.query_of_inactive hactive]
      exact Or.inl (Host.sameStores_askRows c.backend q parameters h)

/-! ## What is left alone -/

theorem shelf?_perform (c : OpenConnection) (request : Request) (h : Host) (store : OpenStore) :
    (request.perform c.connection c.environment h).2.shelf? store = h.shelf? store := by
  rcases storesFollow c request h with hsame | ⟨captured, k, b, done, -, hbefore, hafter⟩
  · exact hsame.shelf?_eq store
  · rw [hafter.shelf?_eq, Host.shelf?_putEntry, hbefore.shelf?_eq]

/-- An entry that is not what it was stands on the shelf of the connection, and was put there. -/
theorem entryAt_perform (c : OpenConnection) (request : Request) (h : Host) (shelf : Shelf)
    (l : Key) :
    (request.perform c.connection c.environment h).2.entryAt shelf l = h.entryAt shelf l ∨
      h.shelf? c.store = some shelf ∧ ∃ b done,
        .put l b done ∈ request.calls c.connection c.environment h ∧
          (request.perform c.connection c.environment h).2.entryAt shelf l = some b := by
  rcases storesFollow c request h with hsame | ⟨captured, k, b, done, hput, hbefore, hafter⟩
  · exact Or.inl (hsame.entryAt_eq shelf l)
  · rw [hafter.entryAt_eq]
    rcases Host.entryAt_putEntry_cases c.store k b captured shelf l with
      hleft | ⟨rfl, hshelf, hwritten⟩
    · rw [hleft]
      exact Or.inl (hbefore.entryAt_eq shelf l)
    · rw [hbefore.shelf?_eq] at hshelf
      exact Or.inr ⟨hshelf, b, done, hput, hwritten⟩

end OpenConnection

/-! ## Runs -/

namespace Action

/-- The action is a request of a connection that keeps nothing on the shelf, or concerns no store
at all. -/
def Spares (shelf : Shelf) (h : Host) (a : Action Host) : Prop :=
  (∃ (c : OpenConnection) (request : Request),
      a = request.action c.connection c.environment ∧
        (c.connection.active = true → h.shelf? c.store ≠ some shelf)) ∨
    ∃ f, a = .change f ∧ ∀ h', Host.SameStores h' (f h')

variable {shelf : Shelf} {start : Host} {a : Action Host}

theorem run_spares (hspares : a.Spares shelf start) {w : Host × List Call}
    (hshelves : ∀ store, w.1.shelf? store = start.shelf? store) :
    (∀ l, (a.run w).2.1.entryAt shelf l = w.1.entryAt shelf l) ∧
      ∀ store, (a.run w).2.1.shelf? store = start.shelf? store := by
  obtain ⟨h, before⟩ := w
  rcases hspares with ⟨c, request, rfl, hother⟩ | ⟨f, rfl, hsame⟩
  · rw [Request.run_action]
    refine ⟨fun l => ?_, fun store => (c.shelf?_perform request h store).trans (hshelves store)⟩
    rcases c.entryAt_perform request h shelf l with hleft | ⟨hshelf, b, done, hput, -⟩
    · exact hleft
    · obtain ⟨hactive, -⟩ := (request.bounded c.connection c.environment h).put hput
      exact absurd ((hshelves c.store).symm.trans hshelf) (hother hactive)
  · exact ⟨(hsame h).entryAt_eq shelf,
      fun store => ((hsame h).shelf?_eq store).trans (hshelves store)⟩

theorem runAll_spares {actions : List (Action Host)} (hspares : ∀ a ∈ actions, a.Spares shelf start)
    {w : Host × List Call} (hshelves : ∀ store, w.1.shelf? store = start.shelf? store) (l : Key) :
    (runAll w actions).2.1.entryAt shelf l = w.1.entryAt shelf l := by
  induction actions generalizing w with
  | nil => rfl
  | cons a actions ih =>
      obtain ⟨ha, hactions⟩ := List.forall_mem_cons.mp hspares
      obtain ⟨hentry, hnext⟩ := run_spares ha hshelves
      rw [runAll, ih hactions hnext, hentry]

end Action

/-- A request does what its bound says, in whatever state the world is and whatever fails there,
and to write down its calls does not change it.  On a host, an entry that is not what it was before
a request stands on the shelf of the connection and was put there in this request; so entries under
other keys and on other shelves are left alone.  In a run, no entry of a shelf changes as long as
every connection that keeps results keeps them elsewhere. -/
theorem effects_bounded :
    (∀ (σ : Type) (c : Connection) (env : Environment σ) (request : Request) (s : σ)
        (before : List Call),
      (request.action c env).run (s, before) =
          ((request.perform c env s).1, (request.perform c env s).2,
            before ++ request.calls c env s) ∧
        request.Bounded c env s (request.perform c env s).2 (request.calls c env s)) ∧
    (∀ (c : OpenConnection) (request : Request) (h : Host) (shelf : Shelf) (l : Key),
      let after := (request.perform c.connection c.environment h).2
      (after.entryAt shelf l = h.entryAt shelf l ∨
        h.shelf? c.store = some shelf ∧ ∃ b done,
          .put l b done ∈ request.calls c.connection c.environment h ∧
            after.entryAt shelf l = some b) ∧
      (h.shelf? c.store ≠ some shelf ∨ (∀ q parameters,
          request.submission = .ok (q, parameters) → Key.ofQuery q.text parameters ≠ l) →
        after.entryAt shelf l = h.entryAt shelf l)) ∧
    ∀ (shelf : Shelf) (h : Host) (actions : List (Action Host)) (before : List Call),
      (∀ a ∈ actions, a.Spares shelf h) →
      ∀ l, (Action.runAll (h, before) actions).2.1.entryAt shelf l = h.entryAt shelf l := by
  refine ⟨fun σ c env request s before => ?_, fun c request h shelf l => ?_, ?_⟩
  · exact ⟨request.run_action c env s before, request.bounded c env s⟩
  · have hentry := c.entryAt_perform request h shelf l
    refine ⟨hentry, fun hother => ?_⟩
    rcases hentry with hleft | ⟨hshelf, b, done, hput, -⟩
    · exact hleft
    · obtain ⟨-, q, parameters, live, r, hbound, rfl, -⟩ :=
        (request.bounded c.connection c.environment h).put hput
      rcases hother with hother | hkeys
      · exact absurd hshelf hother
      · exact absurd rfl (hkeys q parameters hbound)
  · intro shelf h actions before hspares l
    exact Action.runAll_spares hspares (fun _ => rfl) l

/-! ## A store that nobody keeps results in -/

/-- The store of the scripted host and another one, which has an entry that cannot be read. -/
def quietHost : Host :=
  { OpenConnection.scriptedHost with
    memory := ⟨[⟨"shared", []⟩, ⟨"quiet", [(Key.ofQuery selectN.text [], [0x53])]⟩],
      [("shared", 0), ("quiet", 1)]⟩ }

def quiet : OpenConnection :=
  ⟨⟨false, .fail⟩, .memory "quiet", .memory 1 "quiet", 0⟩

def quietRun : List (Action Host) :=
  [(Request.query selectN []).action (sharing .fail).connection (sharing .fail).environment,
    (Request.query selectN []).action quiet.connection quiet.environment,
    (Request.updatePrepared (.prepare selectN)).action quiet.connection quiet.environment,
    .change fun h => { h with backends := [] }]

theorem quietRun_spares : ∀ a ∈ quietRun, a.Spares (.memory 1) quietHost := by
  intro a ha
  simp only [quietRun, List.mem_cons, List.not_mem_nil, or_false] at ha
  rcases ha with rfl | rfl | rfl | rfl
  · exact Or.inl ⟨sharing .fail, _, rfl, fun _ => by decide⟩
  · exact Or.inl ⟨quiet, _, rfl, fun hactive => absurd hactive (by decide)⟩
  · exact Or.inl ⟨quiet, _, rfl, fun hactive => absurd hactive (by decide)⟩
  · exact Or.inr ⟨_, rfl, fun h => ⟨rfl, rfl, rfl⟩⟩

theorem quietHost_effects_bounded :
    (Request.query selectN []).calls (sharing .fail).connection (sharing .fail).environment
        quietHost =
      [.get (Key.ofQuery selectN.text []) (.ok none),
        .query selectN [] (.ok (.scripted (.start sevenRow.columns [.ok [.ok (.int32 7)]]))),
        .put (Key.ofQuery selectN.text []) (Entry.encodeResult sevenRow) (.ok ())] ∧
    (∀ l, Key.ofQuery selectN.text [] ≠ l →
      ((Request.query selectN []).perform (sharing .fail).connection (sharing .fail).environment
        quietHost).2.entryAt (.memory 0) l = quietHost.entryAt (.memory 0) l) ∧
    (Request.queryPrepared ⟨selectN, [none]⟩).calls (sharing .fail).connection
        (sharing .fail).environment quietHost = [] ∧
    ∀ l, (Action.runAll (quietHost, []) quietRun).2.1.entryAt (.memory 1) l =
      quietHost.entryAt (.memory 1) l := by
  obtain ⟨hrequest, hframe, hrun⟩ := effects_bounded
  refine ⟨rfl, fun l hl => ?_, ?_, hrun (.memory 1) quietHost quietRun [] quietRun_spares⟩
  · refine (hframe (sharing .fail) (.query selectN []) quietHost (.memory 0) l).2 (Or.inr ?_)
    rintro q parameters hbound
    cases hbound
    exact hl
  · exact ((hrequest Host (sharing .fail).connection (sharing .fail).environment
      (.queryPrepared ⟨selectN, [none]⟩) quietHost []).2.unbound rfl).1

end QueryReplay
