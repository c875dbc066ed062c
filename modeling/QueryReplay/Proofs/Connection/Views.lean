import Mathlib.Logic.Function.Basic
import QueryReplay.Proofs.Connection.Calls

/-!
# What a query does to the entries of its store

Connections of any kind may work on one store.  What they rely on is said here
of any environment: only puts change entries, a read that succeeds gives what
is there, and a put that fails has either been done or not.  Both reads and puts
may fail at any time.  The effect of a query on the entries follows part by
part: all parts but the last leave them alone, and the last one puts what has
been captured under the key of the query.
-/

namespace QueryReplay

variable {σ : Type}

/-- What is seen of a store in a world: whether it is in its place, and the bytes under each
key. -/
structure StoreView (σ : Type) where
  inPlace : σ → Prop
  entry : σ → Key → Option (List UInt8)

/-- Another world in which the store is as it was. -/
structure StoreView.Same (view : StoreView σ) (s s' : σ) : Prop where
  inPlace (hplace : view.inPlace s) : view.inPlace s'
  entry : view.entry s' = view.entry s

/-- The store of an environment is the one that is seen. -/
structure Environment.Serves (env : Environment σ) (view : StoreView σ) : Prop where
  log (e : Log.Event) (s : σ) : view.Same s (env.log e s)
  query (q : Statement) (parameters : List Value) (s : σ) :
    view.Same s (env.query q parameters s).2
  execute (q : Statement) (parameters : List Value) (s : σ) :
    view.Same s (env.execute q parameters s).2
  get (k : Key) (s : σ) : view.Same s (env.get k s).2
  found {k : Key} {s : σ} {found : Option (List UInt8)} (hplace : view.inPlace s)
    (hget : (env.get k s).1 = .ok found) : view.entry s k = found
  put_inPlace (k : Key) (b : List UInt8) {s : σ} (hplace : view.inPlace s) :
    view.inPlace (env.put k b s).2
  /-- A put is done as a whole or not at all. -/
  put_entry (k : Key) (b : List UInt8) {s : σ} (hplace : view.inPlace s) :
    view.entry (env.put k b s).2 = Function.update (view.entry s) k (some b) ∨
      view.entry (env.put k b s).2 = view.entry s ∧ (env.put k b s).1 ≠ .ok ()

namespace StoreView.Same

variable {view : StoreView σ} {s s' s'' : σ}

theorem refl (view : StoreView σ) (s : σ) : view.Same s s :=
  ⟨id, rfl⟩

theorem trans (hfirst : view.Same s s') (hnext : view.Same s' s'') : view.Same s s'' :=
  ⟨fun hplace => hnext.inPlace (hfirst.inPlace hplace), hnext.entry.trans hfirst.entry⟩

end StoreView.Same

namespace Environment.Serves

variable {env : Environment σ} {view : StoreView σ} {c : Connection} {q : Statement}
  {parameters : List Value} {s : σ}

/-! ## Parts that leave the entries alone -/

theorem same_derived (hserves : env.Serves view) (q : Statement) (parameters : List Value)
    (s : σ) : view.Same s (Connection.derived env q parameters s) :=
  hserves.log _ s

theorem same_tolerate (hserves : env.Serves view) (c : Connection) (trouble : Log.Trouble)
    (k : Key) (e : Error) (s : σ) : view.Same s (c.tolerate env trouble k e s).2 := by
  cases hpolicy : c.onStoreError with
  | fail =>
      rw [Connection.tolerate_of_fail hpolicy]
      exact StoreView.Same.refl view s
  | degrade =>
      rw [Connection.tolerate_of_degrade hpolicy]
      exact hserves.log _ s

theorem same_lookup (hserves : env.Serves view) (c : Connection) (k : Key) (s : σ) :
    view.Same s (c.lookup env k s).2 := by
  have hget := hserves.get k s
  rcases Connection.found_cases (env.get k s).1 with hnothing | ⟨r, hresult⟩ | ⟨e, hobstacle⟩
  · rw [Connection.lookup_of_nothing hnothing]
    exact hget.trans (hserves.log _ _)
  · rw [Connection.lookup_of_isResult hresult]
    exact hget
  · rw [Connection.lookup_of_obstacle hobstacle]
    exact hget.trans (hserves.same_tolerate c _ k e _)

theorem same_capture (hserves : env.Serves view) (q : Statement) (parameters : List Value)
    (s : σ) : view.Same s (Connection.capture env q parameters s).2 := by
  rw [Connection.capture_snd]
  exact hserves.query q parameters s

/-! ## Keeping a result -/

theorem keep_same_put (hserves : env.Serves view) (c : Connection) (k : Key) (r : ResultSet)
    (s : σ) : view.Same (env.put k (Entry.encodeResult r) s).2 (c.keep env k r s).2 := by
  cases hput : env.put k (Entry.encodeResult r) s with
  | mk done kept =>
      cases done with
      | ok _ =>
          rw [Connection.keep_of_put_ok hput]
          exact hserves.log _ kept
      | error e =>
          rw [Connection.keep_of_put_error hput]
          exact hserves.same_tolerate c _ k e kept

theorem keep_inPlace (hserves : env.Serves view) (c : Connection) (k : Key) (r : ResultSet)
    (hplace : view.inPlace s) : view.inPlace (c.keep env k r s).2 :=
  (hserves.keep_same_put c k r s).inPlace (hserves.put_inPlace k _ hplace)

theorem keep_entry_of_ok (hserves : env.Serves view) (c : Connection) {k : Key} {r : ResultSet}
    (hplace : view.inPlace s) (hput : (env.put k (Entry.encodeResult r) s).1 = .ok ()) :
    view.entry (c.keep env k r s).2 =
      Function.update (view.entry s) k (some (Entry.encodeResult r)) := by
  rw [(hserves.keep_same_put c k r s).entry]
  rcases hserves.put_entry k (Entry.encodeResult r) hplace with hdone | ⟨-, hfailed⟩
  · exact hdone
  · exact absurd hput hfailed

/-- To keep a result changes at most the entry under its key. -/
theorem keep_entry_cases (hserves : env.Serves view) (c : Connection) (k : Key) (r : ResultSet)
    (hplace : view.inPlace s) :
    view.entry (c.keep env k r s).2 = view.entry s ∨
      view.entry (c.keep env k r s).2 =
        Function.update (view.entry s) k (some (Entry.encodeResult r)) := by
  rw [(hserves.keep_same_put c k r s).entry]
  rcases hserves.put_entry k (Entry.encodeResult r) hplace with hdone | ⟨hnothing, -⟩
  · exact Or.inr hdone
  · exact Or.inl hnothing

/-! ## Courses -/

variable {outcome : Except Error ResultSet} {s' : σ} {calls : List Call}

/-- What a query gets is what was there before. -/
theorem entry_of_get (hserves : env.Serves view) (hplace : view.inPlace s) {k : Key}
    {found : Option (List UInt8)}
    (hget : (env.get k (Connection.derived env q parameters s)).1 = .ok found) :
    view.entry s k = found := by
  have hsame := hserves.same_derived q parameters s
  rw [← hsame.entry]
  exact hserves.found (hsame.inPlace hplace) hget

theorem found_of_course (hserves : env.Serves view) (hplace : view.inPlace s)
    (hcourse : Connection.Course c env q parameters s outcome s' calls) {k : Key}
    {found : Option (List UInt8)} (hmem : Call.get k (.ok found) ∈ calls) :
    view.entry s k = found := by
  -- Every course has one get, and begins with it.
  cases hcourse with
  | replayed hget hdecode =>
      simp only [List.mem_singleton, Call.get.injEq, Except.ok.injEq] at hmem
      obtain ⟨rfl, rfl⟩ := hmem
      exact hserves.entry_of_get hplace (congrArg Prod.fst hget)
  | refused hlookup =>
      simp only [List.mem_singleton, Call.get.injEq] at hmem
      obtain ⟨rfl, hfound⟩ := hmem
      exact hserves.entry_of_get hplace hfound.symm
  | broken hlookup hcapture =>
      simp only [List.mem_cons, Call.get.injEq, reduceCtorEq, List.not_mem_nil, or_false] at hmem
      obtain ⟨rfl, hfound⟩ := hmem
      exact hserves.entry_of_get hplace hfound.symm
  | captured hlookup hcapture hkeep =>
      simp only [List.mem_cons, Call.get.injEq, reduceCtorEq, List.not_mem_nil, or_false] at hmem
      obtain ⟨rfl, hfound⟩ := hmem
      exact hserves.entry_of_get hplace hfound.symm

theorem same_of_lookup (hserves : env.Serves view) {found : Except Error (Option ResultSet)}
    {looked : σ} (hlookup : c.lookup env (Key.ofQuery q.text parameters)
      (Connection.derived env q parameters s) = (found, looked)) : view.Same s looked := by
  have hlooked := hserves.same_lookup c (Key.ofQuery q.text parameters)
    (Connection.derived env q parameters s)
  rw [hlookup] at hlooked
  exact (hserves.same_derived q parameters s).trans hlooked

theorem same_of_capture (hserves : env.Serves view) {captured : σ}
    (hcapture : Connection.capture env q parameters s = (outcome, captured)) :
    view.Same s captured := by
  have hcaptured := hserves.same_capture q parameters s
  rw [hcapture] at hcaptured
  exact hcaptured

/-- A replay leaves the store as it was, or all that changes is the entry under its key, which
becomes what it has captured. -/
theorem same_or_update_of_course (hserves : env.Serves view) (hplace : view.inPlace s)
    (hcourse : Connection.Course c env q parameters s outcome s' calls) :
    view.Same s s' ∨ view.inPlace s' ∧ ∃ looked r,
      (Connection.capture env q parameters looked).1 = .ok r ∧
        Call.query q parameters (env.query q parameters looked).1 ∈ calls ∧
          view.entry s' = Function.update (view.entry s) (Key.ofQuery q.text parameters)
            (some (Entry.encodeResult r)) := by
  cases hcourse with
  | replayed hget hdecode =>
      have hlooked := hserves.same_of_lookup (c := c)
        (Connection.lookup_of_entry hget hdecode)
      exact Or.inl (hlooked.trans (hserves.log _ _))
  | refused hlookup => exact Or.inl (hserves.same_of_lookup hlookup)
  | broken hlookup hcapture =>
      exact Or.inl ((hserves.same_of_lookup hlookup).trans (hserves.same_of_capture hcapture))
  | @captured r looked captured kept done hlookup hcapture hkeep =>
      have hcaptured := (hserves.same_of_lookup hlookup).trans (hserves.same_of_capture hcapture)
      have hkept := hserves.keep_inPlace c (Key.ofQuery q.text parameters) r
        (hcaptured.inPlace hplace)
      have hentry := hserves.keep_entry_cases c (Key.ofQuery q.text parameters) r
        (hcaptured.inPlace hplace)
      rw [hkeep] at hkept hentry
      rw [hcaptured.entry] at hentry
      rcases hentry with hunchanged | hupdated
      · exact Or.inl ⟨fun _ => hkept, hunchanged⟩
      · refine Or.inr ⟨hkept, looked, r, by rw [hcapture], ?_, hupdated⟩
        exact List.mem_cons_of_mem _ List.mem_cons_self

end Environment.Serves

end QueryReplay
