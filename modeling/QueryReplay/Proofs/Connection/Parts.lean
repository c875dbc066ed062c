import QueryReplay.Connection.Replay
import QueryReplay.Proofs.Backend.Collect

/-!
# The parts of a query

A query looks its result up, captures it and keeps it.  Each part has few ends,
and which of them it comes to depends only on what the store or the database
has answered and on the policy.  What is proved of queries is put together from
these lemmas; the parts themselves are not taken apart again.
-/

namespace QueryReplay

namespace Connection

variable {σ : Type} {c : Connection} {env : Environment σ} {q : Statement}
  {parameters : List Value} {s : σ}

/-! ## Trouble, captures and puts -/

theorem tolerate_of_fail (hfail : c.onStoreError = .fail) (env : Environment σ)
    (trouble : Log.Trouble) (k : Key) (e : Error) (s : σ) :
    c.tolerate env trouble k e s = (.error e, s) := by
  unfold tolerate
  rw [hfail]

theorem tolerate_of_degrade (hdegrade : c.onStoreError = .degrade) (env : Environment σ)
    (trouble : Log.Trouble) (k : Key) (e : Error) (s : σ) :
    c.tolerate env trouble k e s = (.ok (), env.log (.troubled trouble k env.storeName e) s) := by
  unfold tolerate
  rw [hdegrade]

theorem capture_of_query_error {asked : σ} {e : Error}
    (hquery : env.query q parameters s = (.error e, asked)) :
    capture env q parameters s = (.error e, asked) := by
  unfold capture
  rw [hquery]

theorem capture_of_live {asked : σ} {live : ResultCursor}
    (hquery : env.query q parameters s = (.ok live, asked)) :
    capture env q parameters s = (live.capture, asked) := by
  unfold capture
  rw [hquery]

/-- What is captured comes from a cursor that the database has opened. -/
theorem exists_of_capture {r : ResultSet} (hcapture : (capture env q parameters s).1 = .ok r) :
    ∃ live, (env.query q parameters s).1 = .ok live ∧ live.capture = .ok r := by
  unfold capture at hcapture
  split at hcapture
  next live _ hquery => exact ⟨live, congrArg Prod.fst hquery, hcapture⟩
  next => cases hcapture

theorem rectangular_of_capture {r : ResultSet}
    (hcapture : (capture env q parameters s).1 = .ok r) : r.Rectangular := by
  obtain ⟨live, -, hlive⟩ := exists_of_capture hcapture
  exact ResultCursor.rectangular_of_capture hlive

/-- A capture leaves the world that the database leaves. -/
theorem capture_snd (env : Environment σ) (q : Statement) (parameters : List Value) (s : σ) :
    (capture env q parameters s).2 = (env.query q parameters s).2 := by
  cases hquery : env.query q parameters s with
  | mk live asked =>
      cases live with
      | error e => rw [capture_of_query_error hquery]
      | ok live => rw [capture_of_live hquery]

theorem keep_of_put_ok {k : Key} {r : ResultSet} {kept : σ}
    (hput : env.put k (Entry.encodeResult r) s = (.ok (), kept)) :
    c.keep env k r s =
      (.ok (), env.log (.captured k r.rows.length (Entry.encodeResult r).length) kept) := by
  unfold keep
  simp only [hput]

theorem keep_of_put_error {k : Key} {r : ResultSet} {kept : σ} {e : Error}
    (hput : env.put k (Entry.encodeResult r) s = (.error e, kept)) :
    c.keep env k r s = c.tolerate env .unwritable k e kept := by
  unfold keep
  simp only [hput]

/-! ## Lookups -/

/-- What stands in the way of reading what a store has given: its own failure, or the defect of
the entry. -/
def obstacle? : Except Error (Option (List UInt8)) → Option Error
  | .ok none => none
  | .ok (some b) =>
    match Entry.decodeResult b with
    | .ok _ => none
    | .error defect => some (.corrupt defect)
  | .error e => some e

/-- The word for an obstacle in the log. -/
def obstacleTrouble : Except Error (Option (List UInt8)) → Log.Trouble
  | .ok _ => .corrupt
  | .error _ => .unreadable

/-- What a store has given is an entry that can be read, and is that result. -/
def IsResult (found : Except Error (Option (List UInt8))) (r : ResultSet) : Prop :=
  ∃ b, found = .ok (some b) ∧ Entry.decodeResult b = .ok r

theorem obstacle?_eq_none_iff {found : Except Error (Option (List UInt8))} :
    obstacle? found = none ↔ found = .ok none ∨ ∃ r, IsResult found r := by
  unfold obstacle? IsResult
  cases found with
  | error e => simp
  | ok entry =>
      cases entry with
      | none => simp
      | some b =>
          cases hdecode : Entry.decodeResult b with
          | ok r => simp [hdecode]
          | error defect => simp [hdecode]

theorem obstacle?_of_broken {b : List UInt8} {defect : Corruption}
    (hbroken : Entry.decodeResult b = .error defect) :
    obstacle? (.ok (some b)) = some (.corrupt defect) := by
  simp only [obstacle?, hbroken]

/-- What a store gives is nothing, a result, or an obstacle. -/
theorem found_cases (found : Except Error (Option (List UInt8))) :
    found = .ok none ∨ (∃ r, IsResult found r) ∨ ∃ e, obstacle? found = some e := by
  cases hobstacle : obstacle? found with
  | none =>
      rcases obstacle?_eq_none_iff.mp hobstacle with hnothing | hresult
      · exact Or.inl hnothing
      · exact Or.inr (Or.inl hresult)
  | some e => exact Or.inr (Or.inr ⟨e, rfl⟩)

section Found

variable {k : Key} {looked : σ}

theorem lookup_of_nothing (hnothing : (env.get k s).1 = .ok none) :
    c.lookup env k s = (.ok none, env.log (.missed k) (env.get k s).2) := by
  unfold lookup
  rw [show env.get k s = (.ok none, (env.get k s).2) from Prod.ext hnothing rfl]

theorem lookup_of_isResult {r : ResultSet} (hresult : IsResult (env.get k s).1 r) :
    c.lookup env k s = (.ok (some r), (env.get k s).2) := by
  obtain ⟨b, hget, hdecode⟩ := hresult
  unfold lookup
  rw [show env.get k s = (.ok (some b), (env.get k s).2) from Prod.ext hget rfl]
  simp only [hdecode]

theorem lookup_of_entry {b : List UInt8} {r : ResultSet}
    (hget : env.get k s = (.ok (some b), looked)) (hdecode : Entry.decodeResult b = .ok r) :
    c.lookup env k s = (.ok (some r), looked) := by
  rw [lookup_of_isResult ⟨b, congrArg Prod.fst hget, hdecode⟩, hget]

theorem lookup_of_obstacle {e : Error} (hobstacle : obstacle? (env.get k s).1 = some e) :
    c.lookup env k s =
      ((c.tolerate env (obstacleTrouble (env.get k s).1) k e (env.get k s).2).1.map fun _ => none,
        (c.tolerate env (obstacleTrouble (env.get k s).1) k e (env.get k s).2).2) := by
  unfold lookup
  cases hfound : env.get k s with
  | mk found looked =>
      rw [hfound] at hobstacle
      cases found with
      | error e' =>
          cases hobstacle
          rfl
      | ok entry =>
          cases entry with
          | none => cases hobstacle
          | some b =>
              cases hdecode : Entry.decodeResult b with
              | ok r =>
                  simp only [obstacle?, hdecode] at hobstacle
                  cases hobstacle
              | error defect =>
                  simp only [obstacle?, hdecode] at hobstacle
                  cases hobstacle
                  simp only [hdecode]
                  rfl

/-- An obstacle is what a lookup fails with if it is not tolerated. -/
theorem lookup_of_fail (hfail : c.onStoreError = .fail) {e : Error}
    (hobstacle : obstacle? (env.get k s).1 = some e) :
    c.lookup env k s = (.error e, (env.get k s).2) := by
  rw [lookup_of_obstacle hobstacle, tolerate_of_fail hfail]
  rfl

/-- Whatever stands in the way, a lookup that tolerates it finds nothing and goes on. -/
theorem lookup_of_degrade (hdegrade : c.onStoreError = .degrade)
    (hnone : ∀ r, ¬IsResult (env.get k s).1 r) :
    (c.lookup env k s).1 = .ok none := by
  rcases found_cases (env.get k s).1 with hnothing | ⟨r, hresult⟩ | ⟨e, hobstacle⟩
  · rw [lookup_of_nothing hnothing]
  · exact absurd hresult (hnone r)
  · rw [lookup_of_obstacle hobstacle, tolerate_of_degrade hdegrade]
    rfl

/-- Without an obstacle a lookup does not depend on the policy. -/
theorem lookup_eq_of_no_obstacle (hclear : obstacle? (env.get k s).1 = none) (c' : Connection) :
    c.lookup env k s = c'.lookup env k s := by
  rcases obstacle?_eq_none_iff.mp hclear with hnothing | ⟨r, hresult⟩
  · rw [lookup_of_nothing hnothing, lookup_of_nothing hnothing]
  · rw [lookup_of_isResult hresult, lookup_of_isResult hresult]

/-- A result is found only where there is one. -/
theorem isResult_of_lookup {r : ResultSet} (hlookup : c.lookup env k s = (.ok (some r), looked)) :
    IsResult (env.get k s).1 r ∧ (env.get k s).2 = looked := by
  rcases found_cases (env.get k s).1 with hnothing | ⟨r', hresult⟩ | ⟨e, hobstacle⟩
  · rw [lookup_of_nothing hnothing] at hlookup
    cases hlookup
  · rw [lookup_of_isResult hresult] at hlookup
    cases hlookup
    exact ⟨hresult, rfl⟩
  · rw [lookup_of_obstacle hobstacle] at hlookup
    have hnever := congrArg Prod.fst hlookup
    cases htolerated : (c.tolerate env (obstacleTrouble (env.get k s).1) k e (env.get k s).2).1 with
    | ok _ =>
        rw [htolerated] at hnever
        cases hnever
    | error e' =>
        rw [htolerated] at hnever
        cases hnever

/-- If nothing is tolerated, a lookup finds nothing only where there is nothing. -/
theorem get_of_lookup_none (hfail : c.onStoreError = .fail)
    (hlookup : c.lookup env k s = (.ok none, looked)) : (env.get k s).1 = .ok none := by
  rcases found_cases (env.get k s).1 with hnothing | ⟨r, hresult⟩ | ⟨e, hobstacle⟩
  · exact hnothing
  · rw [lookup_of_isResult hresult] at hlookup
    cases hlookup
  · rw [lookup_of_fail hfail hobstacle] at hlookup
    cases hlookup

/-- A lookup fails only with an obstacle that is not tolerated. -/
theorem obstacle_of_lookup_error {e : Error} (hlookup : c.lookup env k s = (.error e, looked)) :
    c.onStoreError = .fail ∧ obstacle? (env.get k s).1 = some e := by
  rcases found_cases (env.get k s).1 with hnothing | ⟨r, hresult⟩ | ⟨e', hobstacle⟩
  · rw [lookup_of_nothing hnothing] at hlookup
    cases hlookup
  · rw [lookup_of_isResult hresult] at hlookup
    cases hlookup
  · cases hpolicy : c.onStoreError with
    | fail =>
        rw [lookup_of_fail hpolicy hobstacle] at hlookup
        cases hlookup
        exact ⟨rfl, hobstacle⟩
    | degrade =>
        rw [lookup_of_obstacle hobstacle, tolerate_of_degrade hpolicy] at hlookup
        cases hlookup

/-- Where a lookup finds nothing and goes on, there was no result and nothing it could fail with. -/
theorem not_settled_of_lookup_none (hlookup : c.lookup env k s = (.ok none, looked)) :
    (∀ r, ¬IsResult (env.get k s).1 r) ∧
      ∀ e, c.onStoreError = .fail → obstacle? (env.get k s).1 ≠ some e := by
  constructor
  · intro r hresult
    rw [lookup_of_isResult hresult] at hlookup
    cases hlookup
  · intro e hfail hobstacle
    rw [lookup_of_fail hfail hobstacle] at hlookup
    cases hlookup

end Found

/-! ## The ways through a replay -/

section Ways

variable {looked captured kept : σ}

/-- The world in which a query looks for its result. -/
def derived (env : Environment σ) (q : Statement) (parameters : List Value) (s : σ) : σ :=
  env.log (.keyDerived (Key.ofQuery q.text parameters) parameters.length) s

theorem replay_of_found {r : ResultSet}
    (hlookup : c.lookup env (Key.ofQuery q.text parameters) (derived env q parameters s) =
      (.ok (some r), looked)) :
    c.replay env q parameters s =
      (.ok r, env.log (.replayed (Key.ofQuery q.text parameters) r.rows.length) looked) := by
  unfold derived at hlookup
  simp only [replay, hlookup]

theorem replay_of_lookup_error {e : Error}
    (hlookup : c.lookup env (Key.ofQuery q.text parameters) (derived env q parameters s) =
      (.error e, looked)) :
    c.replay env q parameters s = (.error e, looked) := by
  unfold derived at hlookup
  simp only [replay, hlookup]

theorem replay_of_capture_error {e : Error}
    (hlookup : c.lookup env (Key.ofQuery q.text parameters) (derived env q parameters s) =
      (.ok none, looked))
    (hcapture : capture env q parameters looked = (.error e, captured)) :
    c.replay env q parameters s = (.error e, captured) := by
  unfold derived at hlookup
  simp only [replay, hlookup, hcapture]

theorem replay_of_captured {r : ResultSet} {done : Except Error Unit}
    (hlookup : c.lookup env (Key.ofQuery q.text parameters) (derived env q parameters s) =
      (.ok none, looked))
    (hcapture : capture env q parameters looked = (.ok r, captured))
    (hkeep : c.keep env (Key.ofQuery q.text parameters) r captured = (done, kept)) :
    c.replay env q parameters s = (done.map fun _ => r, kept) := by
  unfold derived at hlookup
  cases done with
  | ok _ => simp only [replay, hlookup, hcapture, hkeep, Except.map]
  | error e => simp only [replay, hlookup, hcapture, hkeep, Except.map]

/-- An active query answers from memory with what replay gives. -/
theorem query_of_active (hactive : c.active = true) (env : Environment σ) (q : Statement)
    (parameters : List Value) (s : σ) :
    c.query env q parameters s =
      (((c.replay env q parameters s).1.map fun r => .captured (.start r)),
        (c.replay env q parameters s).2) := by
  unfold query
  rw [if_pos hactive]
  obtain ⟨outcome, s'⟩ := c.replay env q parameters s
  cases outcome with
  | ok r => rfl
  | error e => rfl

/-- What stands in the way of reading an entry is what a query fails with if it is not tolerated. -/
theorem query_of_fail (hactive : c.active = true) (hfail : c.onStoreError = .fail) {e : Error}
    (hobstacle : obstacle?
      (env.get (Key.ofQuery q.text parameters) (derived env q parameters s)).1 = some e) :
    c.query env q parameters s = (.error e,
      (env.get (Key.ofQuery q.text parameters) (derived env q parameters s)).2) := by
  rw [query_of_active hactive, replay_of_lookup_error (lookup_of_fail hfail hobstacle)]
  rfl

theorem query_of_inactive (hactive : ¬c.active = true) (env : Environment σ) (q : Statement)
    (parameters : List Value) (s : σ) :
    c.query env q parameters s = env.query q parameters s :=
  if_neg hactive

end Ways

end Connection

end QueryReplay
