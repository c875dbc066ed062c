import QueryReplay.Connection.Prepared
import QueryReplay.Proofs.Connection.Parts

/-!
# Calls of a connection

What a connection asks of its store and of its database, and what they answer,
can be written down while the connection works.  Nothing else changes by this:
the outcome and the world that is left are those of the connection when nobody
looks on.  So whatever is said about calls is said about the connection itself.
-/

namespace QueryReplay

/-- Something that a store or a database was asked for, with the answer. -/
inductive Call where
  | get (k : Key) (found : Except Error (Option (List UInt8)))
  | put (k : Key) (b : List UInt8) (done : Except Error Unit)
  | query (q : Statement) (parameters : List Value) (live : Except Error ResultCursor)
  | execute (q : Statement) (parameters : List Value) (changed : Except Error Nat)

variable {σ : Type}

/-- The same environment with its calls written down, each behind those before it. -/
def Environment.recorded (env : Environment σ) : Environment (σ × List Call) where
  get k w := ((env.get k w.1).1, (env.get k w.1).2, w.2 ++ [.get k (env.get k w.1).1])
  put k b w := ((env.put k b w.1).1, (env.put k b w.1).2, w.2 ++ [.put k b (env.put k b w.1).1])
  query q parameters w := ((env.query q parameters w.1).1, (env.query q parameters w.1).2,
    w.2 ++ [.query q parameters (env.query q parameters w.1).1])
  execute q parameters w := ((env.execute q parameters w.1).1, (env.execute q parameters w.1).2,
    w.2 ++ [.execute q parameters (env.execute q parameters w.1).1])
  log e w := (env.log e w.1, w.2)
  storeName := env.storeName

namespace Connection

variable {c : Connection} {env : Environment σ} {q : Statement} {parameters : List Value}
  {s : σ} {before : List Call}

/-- The calls of a query, in order. -/
def calls (c : Connection) (env : Environment σ) (q : Statement) (parameters : List Value)
    (s : σ) : List Call :=
  (c.query env.recorded q parameters (s, [])).2.2

/-! ## The parts of a query, written down -/

theorem tolerate_recorded (trouble : Log.Trouble) (k : Key) (e : Error) :
    c.tolerate env.recorded trouble k e (s, before) =
      ((c.tolerate env trouble k e s).1, (c.tolerate env trouble k e s).2, before) := by
  cases hpolicy : c.onStoreError with
  | fail => rw [tolerate_of_fail hpolicy, tolerate_of_fail hpolicy]
  | degrade =>
      rw [tolerate_of_degrade hpolicy, tolerate_of_degrade hpolicy]
      rfl

theorem lookup_recorded (c : Connection) (env : Environment σ) (k : Key) (s : σ)
    (before : List Call) :
    c.lookup env.recorded k (s, before) =
      ((c.lookup env k s).1, (c.lookup env k s).2, before ++ [.get k (env.get k s).1]) := by
  have hget : env.recorded.get k (s, before) =
      ((env.get k s).1, (env.get k s).2, before ++ [.get k (env.get k s).1]) := rfl
  have hfound : (env.recorded.get k (s, before)).1 = (env.get k s).1 := rfl
  rcases found_cases (env.get k s).1 with hnothing | ⟨r, hresult⟩ | ⟨e, hobstacle⟩
  · rw [lookup_of_nothing hnothing, lookup_of_nothing (hfound.trans hnothing), hget]
    rfl
  · have hresult' : IsResult (env.recorded.get k (s, before)).1 r := hfound ▸ hresult
    rw [lookup_of_isResult hresult, lookup_of_isResult hresult', hget]
  · have hobstacle' : obstacle? (env.recorded.get k (s, before)).1 = some e := hfound ▸ hobstacle
    rw [lookup_of_obstacle hobstacle, lookup_of_obstacle hobstacle', hget, tolerate_recorded]

theorem capture_recorded :
    capture env.recorded q parameters (s, before) =
      ((capture env q parameters s).1, (capture env q parameters s).2,
        before ++ [.query q parameters (env.query q parameters s).1]) := by
  have hquery : env.recorded.query q parameters (s, before) =
      ((env.query q parameters s).1, (env.query q parameters s).2,
        before ++ [.query q parameters (env.query q parameters s).1]) := rfl
  cases hlive : env.query q parameters s with
  | mk live asked =>
      rw [hlive] at hquery
      cases live with
      | error e => rw [capture_of_query_error hlive, capture_of_query_error hquery]
      | ok live => rw [capture_of_live hlive, capture_of_live hquery]

theorem keep_recorded (k : Key) (r : ResultSet) :
    c.keep env.recorded k r (s, before) =
      ((c.keep env k r s).1, (c.keep env k r s).2,
        before ++ [.put k (Entry.encodeResult r) (env.put k (Entry.encodeResult r) s).1]) := by
  have hput : env.recorded.put k (Entry.encodeResult r) (s, before) =
      ((env.put k (Entry.encodeResult r) s).1, (env.put k (Entry.encodeResult r) s).2,
        before ++ [.put k (Entry.encodeResult r) (env.put k (Entry.encodeResult r) s).1]) := rfl
  cases hdone : env.put k (Entry.encodeResult r) s with
  | mk done kept =>
      rw [hdone] at hput
      cases done with
      | ok _ =>
          rw [keep_of_put_ok hdone, keep_of_put_ok hput]
          rfl
      | error e => rw [keep_of_put_error hdone, keep_of_put_error hput, tolerate_recorded]

/-! ## The ways through a query -/

/-- How an active query comes to its result: what it answers, the world that it leaves, and its
calls. -/
inductive Course (c : Connection) (env : Environment σ) (q : Statement) (parameters : List Value)
    (s : σ) : Except Error ResultSet → σ → List Call → Prop where
  /-- The store has an entry that can be read. -/
  | replayed {b : List UInt8} {r : ResultSet} {looked : σ}
      (hget : env.get (Key.ofQuery q.text parameters) (derived env q parameters s) =
        (.ok (some b), looked))
      (hdecode : Entry.decodeResult b = .ok r) :
      Course c env q parameters s (.ok r)
        (env.log (.replayed (Key.ofQuery q.text parameters) r.rows.length) looked)
        [.get (Key.ofQuery q.text parameters) (.ok (some b))]
  /-- The lookup fails. -/
  | refused {e : Error} {looked : σ}
      (hlookup : c.lookup env (Key.ofQuery q.text parameters) (derived env q parameters s) =
        (.error e, looked)) :
      Course c env q parameters s (.error e) looked
        [.get (Key.ofQuery q.text parameters)
          (env.get (Key.ofQuery q.text parameters) (derived env q parameters s)).1]
  /-- Nothing is found, and the database fails. -/
  | broken {e : Error} {looked captured : σ}
      (hlookup : c.lookup env (Key.ofQuery q.text parameters) (derived env q parameters s) =
        (.ok none, looked))
      (hcapture : capture env q parameters looked = (.error e, captured)) :
      Course c env q parameters s (.error e) captured
        [.get (Key.ofQuery q.text parameters)
            (env.get (Key.ofQuery q.text parameters) (derived env q parameters s)).1,
          .query q parameters (env.query q parameters looked).1]
  /-- Nothing is found, and what the database gives is put into the store, or should be. -/
  | captured {r : ResultSet} {looked captured kept : σ} {done : Except Error Unit}
      (hlookup : c.lookup env (Key.ofQuery q.text parameters) (derived env q parameters s) =
        (.ok none, looked))
      (hcapture : capture env q parameters looked = (.ok r, captured))
      (hkeep : c.keep env (Key.ofQuery q.text parameters) r captured = (done, kept)) :
      Course c env q parameters s (done.map fun _ => r) kept
        [.get (Key.ofQuery q.text parameters)
            (env.get (Key.ofQuery q.text parameters) (derived env q parameters s)).1,
          .query q parameters (env.query q parameters looked).1,
          .put (Key.ofQuery q.text parameters) (Entry.encodeResult r)
            (env.put (Key.ofQuery q.text parameters) (Entry.encodeResult r) captured).1]

section Written

variable {looked captured kept : σ}

theorem lookup_derived_recorded {found : Except Error (Option ResultSet)}
    (hlookup : c.lookup env (Key.ofQuery q.text parameters) (derived env q parameters s) =
      (found, looked)) (before : List Call) :
    c.lookup env.recorded (Key.ofQuery q.text parameters)
        (derived env.recorded q parameters (s, before)) =
      (found, looked, before ++ [.get (Key.ofQuery q.text parameters)
        (env.get (Key.ofQuery q.text parameters) (derived env q parameters s)).1]) := by
  have hderived : derived env.recorded q parameters (s, before) =
      (derived env q parameters s, before) := rfl
  rw [hderived, lookup_recorded, hlookup]

theorem replay_recorded_of_found {b : List UInt8} {r : ResultSet}
    (hget : env.get (Key.ofQuery q.text parameters) (derived env q parameters s) =
      (.ok (some b), looked)) (hdecode : Entry.decodeResult b = .ok r) (before : List Call) :
    c.replay env.recorded q parameters (s, before) =
      (.ok r, env.log (.replayed (Key.ofQuery q.text parameters) r.rows.length) looked,
        before ++ [.get (Key.ofQuery q.text parameters) (.ok (some b))]) := by
  have hlookup : c.lookup env (Key.ofQuery q.text parameters) (derived env q parameters s) =
      (.ok (some r), looked) := lookup_of_entry hget hdecode
  rw [replay_of_found (lookup_derived_recorded hlookup before), hget]
  rfl

theorem replay_recorded_of_lookup_error {e : Error}
    (hlookup : c.lookup env (Key.ofQuery q.text parameters) (derived env q parameters s) =
      (.error e, looked)) (before : List Call) :
    c.replay env.recorded q parameters (s, before) =
      (.error e, looked, before ++ [.get (Key.ofQuery q.text parameters)
        (env.get (Key.ofQuery q.text parameters) (derived env q parameters s)).1]) :=
  replay_of_lookup_error (lookup_derived_recorded hlookup before)

theorem replay_recorded_of_capture_error {e : Error}
    (hlookup : c.lookup env (Key.ofQuery q.text parameters) (derived env q parameters s) =
      (.ok none, looked))
    (hcapture : capture env q parameters looked = (.error e, captured)) (before : List Call) :
    c.replay env.recorded q parameters (s, before) =
      (.error e, captured, before ++ [.get (Key.ofQuery q.text parameters)
          (env.get (Key.ofQuery q.text parameters) (derived env q parameters s)).1,
        .query q parameters (env.query q parameters looked).1]) := by
  rw [replay_of_capture_error (lookup_derived_recorded hlookup before)
    (by rw [capture_recorded, hcapture]), List.append_assoc]
  rfl

theorem replay_recorded_of_captured {r : ResultSet} {done : Except Error Unit}
    (hlookup : c.lookup env (Key.ofQuery q.text parameters) (derived env q parameters s) =
      (.ok none, looked))
    (hcapture : capture env q parameters looked = (.ok r, captured))
    (hkeep : c.keep env (Key.ofQuery q.text parameters) r captured = (done, kept))
    (before : List Call) :
    c.replay env.recorded q parameters (s, before) =
      (done.map fun _ => r, kept, before ++ [.get (Key.ofQuery q.text parameters)
          (env.get (Key.ofQuery q.text parameters) (derived env q parameters s)).1,
        .query q parameters (env.query q parameters looked).1,
        .put (Key.ofQuery q.text parameters) (Entry.encodeResult r)
          (env.put (Key.ofQuery q.text parameters) (Entry.encodeResult r) captured).1]) := by
  rw [replay_of_captured (lookup_derived_recorded hlookup before)
    (by rw [capture_recorded, hcapture]) (by rw [keep_recorded, hkeep]), List.append_assoc,
    List.append_assoc]
  rfl

end Written

/-- What is written down of a course are its calls. -/
theorem Course.replay_recorded {outcome : Except Error ResultSet} {s' : σ} {calls : List Call}
    (hcourse : Course c env q parameters s outcome s' calls) (before : List Call) :
    c.replay env.recorded q parameters (s, before) = (outcome, s', before ++ calls) := by
  cases hcourse with
  | replayed hget hdecode => exact replay_recorded_of_found hget hdecode before
  | refused hlookup => exact replay_recorded_of_lookup_error hlookup before
  | broken hlookup hcapture => exact replay_recorded_of_capture_error hlookup hcapture before
  | captured hlookup hcapture hkeep =>
      exact replay_recorded_of_captured hlookup hcapture hkeep before

/-- Every replay takes a course. -/
theorem exists_course (c : Connection) (env : Environment σ) (q : Statement)
    (parameters : List Value) (s : σ) :
    ∃ calls, Course c env q parameters s (c.replay env q parameters s).1
      (c.replay env q parameters s).2 calls := by
  cases hlookup : c.lookup env (Key.ofQuery q.text parameters) (derived env q parameters s) with
  | mk found looked =>
      cases found with
      | error e =>
          rw [replay_of_lookup_error hlookup]
          exact ⟨_, .refused hlookup⟩
      | ok found =>
          cases found with
          | some r =>
              obtain ⟨⟨b, hget, hdecode⟩, rfl⟩ := isResult_of_lookup hlookup
              rw [replay_of_found hlookup]
              exact ⟨_, .replayed (Prod.ext hget rfl) hdecode⟩
          | none =>
              cases hcapture : capture env q parameters looked with
              | mk outcome captured =>
                  cases outcome with
                  | error e =>
                      rw [replay_of_capture_error hlookup hcapture]
                      exact ⟨_, .broken hlookup hcapture⟩
                  | ok r =>
                      cases hkeep : c.keep env (Key.ofQuery q.text parameters) r captured with
                      | mk done kept =>
                          rw [replay_of_captured hlookup hcapture hkeep]
                          exact ⟨_, .captured hlookup hcapture hkeep⟩

/-! ## The whole query -/

/-- To write down the calls of a query changes nothing but what is written. -/
theorem query_recorded (c : Connection) (env : Environment σ) (q : Statement)
    (parameters : List Value) (s : σ) (before : List Call) :
    c.query env.recorded q parameters (s, before) =
      ((c.query env q parameters s).1, (c.query env q parameters s).2,
        before ++ c.calls env q parameters s) := by
  unfold calls
  by_cases hactive : c.active = true
  · obtain ⟨calls, hcourse⟩ := exists_course c env q parameters s
    rw [query_of_active hactive, query_of_active hactive, query_of_active hactive,
      hcourse.replay_recorded, hcourse.replay_recorded]
    rfl
  · rw [query_of_inactive hactive, query_of_inactive hactive, query_of_inactive hactive]
    rfl

theorem calls_of_replay_recorded (hactive : c.active = true) {outcome : Except Error ResultSet}
    {s' : σ} {calls : List Call}
    (hreplay : c.replay env.recorded q parameters (s, []) = (outcome, s', calls)) :
    c.calls env q parameters s = calls := by
  unfold Connection.calls
  rw [query_of_active hactive, hreplay]

/-- An active query takes a course, and answers with the result at its end. -/
theorem course_of_active (hactive : c.active = true) (env : Environment σ) (q : Statement)
    (parameters : List Value) (s : σ) :
    ∃ outcome : Except Error ResultSet,
      Course c env q parameters s outcome (c.query env q parameters s).2
          (c.calls env q parameters s) ∧
        (c.query env q parameters s).1 = outcome.map fun r => .captured (.start r) := by
  obtain ⟨calls, hcourse⟩ := exists_course c env q parameters s
  rw [calls_of_replay_recorded hactive (hcourse.replay_recorded []), query_of_active hactive]
  exact ⟨_, hcourse, rfl⟩

/-- An inactive query asks the database and does nothing else. -/
theorem calls_of_inactive (hinactive : ¬c.active = true) (env : Environment σ) (q : Statement)
    (parameters : List Value) (s : σ) :
    c.calls env q parameters s = [.query q parameters (env.query q parameters s).1] := by
  unfold calls
  rw [query_of_inactive hinactive]
  rfl

/-- The query is answered with that result, and all it does is to get it from the store. -/
structure Replays (c : Connection) (env : Environment σ) (q : Statement) (parameters : List Value)
    (s : σ) (r : ResultSet) : Prop where
  outcome : (c.query env q parameters s).1 = .ok (.captured (.start r))
  calls : ∃ b, c.calls env q parameters s = [.get (Key.ofQuery q.text parameters) (.ok (some b))]

theorem replays_of_isResult (hactive : c.active = true) {r : ResultSet}
    (hfound : IsResult (env.get (Key.ofQuery q.text parameters) (derived env q parameters s)).1 r) :
    c.Replays env q parameters s r := by
  have hlookup := lookup_of_isResult (c := c) hfound
  obtain ⟨b, hget, hdecode⟩ := hfound
  have hcourse : Course c env q parameters s _ _ _ := .replayed (Prod.ext hget rfl) hdecode
  constructor
  · rw [query_of_active hactive, replay_of_found hlookup]
    rfl
  · exact ⟨b, calls_of_replay_recorded hactive (hcourse.replay_recorded [])⟩

/-- A query is answered from the store only if what the store gives can be read. -/
theorem isResult_of_replays (hactive : c.active = true) {r : ResultSet}
    (hreplays : c.Replays env q parameters s r) :
    IsResult (env.get (Key.ofQuery q.text parameters) (derived env q parameters s)).1 r := by
  obtain ⟨outcome, hcourse, houtcome⟩ := course_of_active hactive env q parameters s
  obtain ⟨b, hcalls⟩ := hreplays.calls
  rw [hreplays.outcome] at houtcome
  generalize c.calls env q parameters s = calls at hcourse hcalls
  generalize (c.query env q parameters s).2 = after at hcourse
  cases hcourse with
  | replayed hget hdecode =>
      cases houtcome
      exact ⟨_, congrArg Prod.fst hget, hdecode⟩
  | refused hlookup => cases houtcome
  | broken hlookup hcapture => cases houtcome
  | captured hlookup hcapture hkeep => simp at hcalls

end Connection

end QueryReplay
