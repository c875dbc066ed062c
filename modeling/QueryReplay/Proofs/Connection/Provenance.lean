import QueryReplay.Proofs.Backend.Failure
import QueryReplay.Proofs.Connection.Runs
import QueryReplay.Proofs.Connection.Stability
import QueryReplay.Proofs.Entry.Rereading
import QueryReplay.Proofs.Host.Serving

/-!
# Where entries come from

As long as nobody but connections writes to a store, each of its entries is
there from the beginning, or it is a result that a database has delivered as a
whole to a query with that key.  This is an invariant of every step, whatever
fails on the way.  So in a store that was empty at first no entry is ever
broken, as long as the results delivered fit the stored form, and an answer from
the store is a result that has been delivered.
-/

namespace QueryReplay

variable {σ : Type} {view : StoreView σ}

/-- Among the calls is one in which a database has opened a cursor for a query with that key,
and all the rows of the cursor can be read and are that result. -/
def Delivered (calls : List Call) (k : Key) (r : ResultSet) : Prop :=
  ∃ q parameters live, Call.query q parameters (.ok live) ∈ calls ∧
    Key.ofQuery q.text parameters = k ∧ live.drain = .ok r ∧ r.Rectangular

theorem Delivered.mono {before after : List Call} {k : Key} {r : ResultSet}
    (hdelivered : Delivered before k r) (hsub : before ⊆ after) : Delivered after k r := by
  obtain ⟨q, parameters, live, hmem, hkey, hdrain, hrect⟩ := hdelivered
  exact ⟨q, parameters, live, hsub hmem, hkey, hdrain, hrect⟩

theorem Delivered.rectangular {calls : List Call} {k : Key} {r : ResultSet}
    (hdelivered : Delivered calls k r) : r.Rectangular := by
  obtain ⟨q, parameters, live, -, -, -, hrect⟩ := hdelivered
  exact hrect

/-- What is captured has been delivered. -/
theorem delivered_of_capture {env : Environment σ} {q : Statement} {parameters : List Value}
    {s : σ} {r : ResultSet} {calls : List Call}
    (hcapture : (Connection.capture env q parameters s).1 = .ok r)
    (hmem : Call.query q parameters (env.query q parameters s).1 ∈ calls) :
    Delivered calls (Key.ofQuery q.text parameters) r := by
  obtain ⟨live, hlive, hr⟩ := Connection.exists_of_capture hcapture
  rw [hlive] at hmem
  exact ⟨q, parameters, live, hmem, rfl, ResultCursor.drain_of_capture hr,
    ResultCursor.rectangular_of_capture hr⟩

/-- What is written for a result is a hit if the result fits the stored form. -/
theorem Connection.replays_of_written {c : Connection} (hactive : c.active = true)
    {env : Environment σ} {q : Statement} {parameters : List Value} {s : σ} {r : ResultSet}
    (hget : (env.get (Key.ofQuery q.text parameters) (derived env q parameters s)).1 =
      .ok (some (Entry.encodeResult r)))
    (hrect : r.Rectangular) (hstorable : r.Storable) :
    c.Replays env q parameters s r.stored :=
  replays_of_isResult hactive ⟨_, hget, Entry.decodeResult_encodeResult hrect hstorable⟩

/-! ## The invariant -/

/-- What is found under a key is the old entry, or what is written for a delivered result. -/
def Explained (base : Option (List UInt8)) (calls : List Call) (k : Key)
    (found : Option (List UInt8)) : Prop :=
  found = base ∨ ∃ r, Delivered calls k r ∧ found = some (Entry.encodeResult r)

/-- The store is in its place, and all that is or was found in it is explained by its first
entries and the calls. -/
structure Accounted (view : StoreView σ) (base : Key → Option (List UInt8)) (w : σ × List Call) :
    Prop where
  inPlace : view.inPlace w.1
  entry (k : Key) : Explained (base k) w.2 k (view.entry w.1 k)
  found {k : Key} {found : Option (List UInt8)} (hget : Call.get k (.ok found) ∈ w.2) :
    Explained (base k) w.2 k found

variable {base : Key → Option (List UInt8)} {w : σ × List Call}

theorem Explained.mono {before after : List Call} {k : Key}
    {old found : Option (List UInt8)} (hexplained : Explained old before k found)
    (hsub : before ⊆ after) : Explained old after k found := by
  rcases hexplained with hold | ⟨r, hdelivered, hfound⟩
  · exact Or.inl hold
  · exact Or.inr ⟨r, hdelivered.mono hsub, hfound⟩

/-- Neither a step apart from the store nor a get loses anything. -/
theorem Accounted.of_same (haccounted : Accounted view base w) {s' : σ} {calls : List Call}
    (hsame : view.Same w.1 s')
    (hread : ∀ {k found}, Call.get k (.ok found) ∈ calls → view.entry w.1 k = found) :
    Accounted view base (s', w.2 ++ calls) := by
  have hsub : w.2 ⊆ w.2 ++ calls := List.subset_append_left w.2 calls
  constructor
  · exact hsame.inPlace haccounted.inPlace
  · intro k
    rw [hsame.entry]
    exact (haccounted.entry k).mono hsub
  · intro k found hget
    rcases List.mem_append.mp hget with hold | hnew
    · exact (haccounted.found hold).mono hsub
    · rw [← hread hnew]
      exact (haccounted.entry k).mono hsub

/-- A replay puts nothing but what has been delivered to it. -/
theorem Accounted.of_course (haccounted : Accounted view base w) {c : Connection}
    {env : Environment σ} {q : Statement} {parameters : List Value}
    {outcome : Except Error ResultSet} {s' : σ} {calls : List Call} (hserves : env.Serves view)
    (hcourse : Connection.Course c env q parameters w.1 outcome s' calls) :
    Accounted view base (s', w.2 ++ calls) := by
  have hplace := haccounted.inPlace
  have hread {k : Key} {found : Option (List UInt8)} (hget : Call.get k (.ok found) ∈ calls) :
      view.entry w.1 k = found := hserves.found_of_course hplace hcourse hget
  rcases hserves.same_or_update_of_course hplace hcourse with
    hsame | ⟨hkept, looked, r, hcapture, hasked, hupdated⟩
  · exact haccounted.of_same hsame hread
  · have hbefore : Accounted view base (w.1, w.2 ++ calls) :=
      haccounted.of_same (StoreView.Same.refl view w.1) hread
    refine ⟨hkept, fun k => ?_, hbefore.found⟩
    rw [hupdated]
    by_cases hkey : k = Key.ofQuery q.text parameters
    · subst hkey
      rw [Function.update_self]
      have hdelivered := delivered_of_capture hcapture (List.mem_append_right w.2 hasked)
      exact Or.inr ⟨r, hdelivered, rfl⟩
    · rw [Function.update_of_ne hkey]
      exact hbefore.entry k

theorem Accounted.run (haccounted : Accounted view base w) {a : Action σ} (hover : a.Over view) :
    Accounted view base (a.run w).2 := by
  have heffect := Action.run_effect hover w
  generalize (a.run w).2 = after at heffect ⊢
  cases heffect with
  | apart hsame hunread =>
      apply haccounted.of_same hsame
      intro k found hget
      exact absurd hget (hunread k (.ok found))
  | replay hserves hcourse => exact haccounted.of_course hserves hcourse

theorem Accounted.runAll (haccounted : Accounted view base w) {actions : List (Action σ)}
    (hover : ∀ a ∈ actions, a.Over view) : Accounted view base (Action.runAll w actions).2 := by
  induction actions generalizing w with
  | nil => exact haccounted
  | cons a actions ih =>
      have hstep := haccounted.run (hover a List.mem_cons_self)
      exact ih hstep fun a' ha' => hover a' (List.mem_cons_of_mem a ha')

/-- A run explains all entries by those at its beginning and by what is delivered in it. -/
theorem accounted_runAll {s : σ} (hplace : view.inPlace s) {actions : List (Action σ)}
    (hover : ∀ a ∈ actions, a.Over view) :
    Accounted view (view.entry s) (Action.runAll (s, []) actions).2 := by
  have hstart : Accounted view (view.entry s) (s, []) :=
    ⟨hplace, fun _ => Or.inl rfl, fun hget => absurd hget List.not_mem_nil⟩
  exact hstart.runAll hover

/-! ## Stores that were empty -/

/-- If a store is empty at first, and is written by connections only, then whatever they and
their databases do and however they fail, each entry is what is written for a result that has
been delivered to a query with its key, and so is all that has been found on the way.  It can be
read if that result fits the stored form; then an active query that finds it answers with the
result in its stored form.  From an entry nothing else is ever answered. -/
theorem entries_delivered {s : σ} (hplace : view.inPlace s) (hempty : ∀ k, view.entry s k = none)
    {actions : List (Action σ)} (hover : ∀ a ∈ actions, a.Over view) :
    let w := (Action.runAll (s, []) actions).2
    (∀ k b, view.entry w.1 k = some b ∨ Call.get k (.ok (some b)) ∈ w.2 →
        ∃ r, Delivered w.2 k r ∧ b = Entry.encodeResult r ∧
          (r.Storable → Entry.decodeResult b = .ok r.stored)) ∧
      ∀ (c : Connection) (env : Environment σ) (q : Statement) (parameters : List Value),
        c.active = true → env.Serves view →
        (∀ b, (env.get (Key.ofQuery q.text parameters)
              (Connection.derived env q parameters w.1)).1 = .ok (some b) →
            ∃ r, Delivered w.2 (Key.ofQuery q.text parameters) r ∧ b = Entry.encodeResult r ∧
              (r.Storable → c.Replays env q parameters w.1 r.stored)) ∧
          ∀ r', c.Replays env q parameters w.1 r' →
            ∃ r, Delivered w.2 (Key.ofQuery q.text parameters) r ∧
              (r.Writable → r' = r.stored) := by
  intro w
  have haccounted : Accounted view (view.entry s) w := accounted_runAll hplace hover
  have hsource {k : Key} {b : List UInt8} (hexplained : Explained (view.entry s k) w.2 k (some b)) :
      ∃ r, Delivered w.2 k r ∧ b = Entry.encodeResult r := by
    rcases hexplained with hold | ⟨r, hdelivered, hfound⟩
    · rw [hempty] at hold
      cases hold
    · exact ⟨r, hdelivered, Option.some.inj hfound⟩
  have hentry {k : Key} {b : List UInt8} (hfound : view.entry w.1 k = some b) :
      ∃ r, Delivered w.2 k r ∧ b = Entry.encodeResult r :=
    hsource (hfound ▸ haccounted.entry k)
  refine ⟨fun k b hfound => ?_, fun c env q parameters hactive hserves => ⟨?_, ?_⟩⟩
  · have hwritten : ∃ r, Delivered w.2 k r ∧ b = Entry.encodeResult r :=
      hfound.elim hentry fun hget => hsource (haccounted.found hget)
    obtain ⟨r, hdelivered, rfl⟩ := hwritten
    exact ⟨r, hdelivered, rfl, Entry.decodeResult_encodeResult hdelivered.rectangular⟩
  · intro b hget
    obtain ⟨r, hdelivered, rfl⟩ := hentry (hserves.entry_of_get haccounted.inPlace hget)
    exact ⟨r, hdelivered, rfl, Connection.replays_of_written hactive hget hdelivered.rectangular⟩
  · intro r' hreplays
    obtain ⟨b, hget, hread⟩ := Connection.isResult_of_replays hactive hreplays
    obtain ⟨r, hdelivered, rfl⟩ := hentry (hserves.entry_of_get haccounted.inPlace hget)
    refine ⟨r, hdelivered, fun hwritable => ?_⟩
    rw [Entry.decodeResult_encodeResult_of_writable hwritable hdelivered.rectangular] at hread
    exact (ResultSet.eq_stored_of_reread hread).2

/-! ## Two connections on one store -/

open OpenConnection (scriptedHost)

/-- What the scripted database has to give. -/
def sevenRow : ResultSet :=
  ⟨[⟨"n", "n", 5, .integer, "INT", .unknown, 0, 0⟩], [[.int32 7]]⟩

/-- One connection asks the database, and then the database is gone. -/
def sevenRun : List (Action Host) :=
  [.query (sharing .fail).connection (sharing .fail).environment selectN [],
    .change fun h => { h with backends := [] }]

theorem sevenRun_over : ∀ a ∈ sevenRun,
    a.Over (Host.shelfView (.memory 0) [(sharing .fail).store]) := by
  intro a ha
  rcases List.mem_cons.mp ha with rfl | ha
  · exact (sharing .fail).serves (.memory 0) List.mem_cons_self
  · rw [List.mem_singleton.mp ha]
    intro h
    have hsame : Host.SameStores h { h with backends := [] } := ⟨rfl, rfl, rfl⟩
    exact hsame.same_view _ _

theorem calls_sevenRun : (Action.runAll (scriptedHost, []) sevenRun).2.2 =
    [.get (Key.ofQuery selectN.text []) (.ok none),
      .query selectN [] (.ok (.scripted (.start sevenRow.columns [.ok [.ok (.int32 7)]]))),
      .put (Key.ofQuery selectN.text []) (Entry.encodeResult sevenRow) (.ok ())] :=
  rfl

theorem delivered_sevenRun {k : Key} {r : ResultSet}
    (hdelivered : Delivered (Action.runAll (scriptedHost, []) sevenRun).2.2 k r) :
    r = sevenRow := by
  obtain ⟨q, parameters, live, hmem, -, hdrain, -⟩ := hdelivered
  rw [calls_sevenRun] at hmem
  simp only [List.mem_cons, Call.query.injEq, Except.ok.injEq, reduceCtorEq, List.not_mem_nil,
    or_false, false_or] at hmem
  obtain ⟨-, -, rfl⟩ := hmem
  exact (Except.ok.inj hdrain).symm

theorem get_sevenRun (e : Log.Event) : ((sharing .degrade).environment.get
    (Key.ofQuery selectN.text []) ((Action.runAll (scriptedHost, []) sevenRun).2.1.log e)).1 =
      .ok (some (Entry.encodeResult sevenRow)) := by
  have hmemory : ((Action.runAll (scriptedHost, []) sevenRun).2.1.log e).memory =
      scriptedHost.memory.put 0 (Key.ofQuery selectN.text []) (Entry.encodeResult sevenRow) := rfl
  show Except.ok (Registry.get? (Host.memory _) 0 _) = _
  rw [hmemory, Registry.get?_put (show 0 < scriptedHost.memory.stores.length by decide),
    if_pos rfl]

theorem writable_sevenRow : sevenRow.Writable := by
  refine ⟨by decide, by decide, by decide, fun row hrow v hv => ?_⟩
  obtain rfl := List.mem_singleton.mp hrow
  obtain rfl := List.mem_singleton.mp hv
  trivial

/-- The other connection still gives what the database has delivered, and can give nothing else. -/
theorem sevenRun_replayed :
    let w := (Action.runAll (scriptedHost, []) sevenRun).2
    let c := sharing .degrade
    c.connection.Replays c.environment selectN [] w.1 sevenRow.stored ∧
      ∀ r', c.connection.Replays c.environment selectN [] w.1 r' → r' = sevenRow.stored := by
  intro w c
  have hplace : (Host.shelfView (.memory 0) [(sharing .fail).store]).inPlace scriptedHost := by
    intro store hstore
    rw [List.mem_singleton.mp hstore]
    exact ⟨rfl, Nat.one_pos⟩
  have hempty : ∀ k, (Host.shelfView (.memory 0) [(sharing .fail).store]).entry scriptedHost k =
      none := fun _ => rfl
  have hserves := c.serves (.memory 0) (List.mem_singleton_self (sharing .fail).store)
  obtain ⟨hhits, honly⟩ := (entries_delivered hplace hempty sevenRun_over).2 c.connection _ selectN
    [] rfl hserves
  constructor
  · obtain ⟨r, hdelivered, -, hreplays⟩ := hhits _ (get_sevenRun _)
    rw [delivered_sevenRun hdelivered] at hreplays
    exact hreplays (by decide)
  · intro r' hreplays
    obtain ⟨r, hdelivered, hstored⟩ := honly r' hreplays
    rw [delivered_sevenRun hdelivered] at hstored
    exact hstored writable_sevenRow

/-- A query that comes to a broken entry in the course of a run fails with its defect, if it does
not tolerate it. -/
theorem OpenConnection.rows_of_broken {shelf : Shelf} {c : OpenConnection} {q : Statement}
    {parameters : List Value} {w : Host × List Call} {b : List UInt8} {defect : Corruption}
    (hactive : c.connection.active = true) (hfail : c.connection.onStoreError = .fail)
    (hkeeps : w.1.Keeps shelf c.store)
    (hentry : w.1.entryAt shelf (Key.ofQuery q.text parameters) = some b)
    (hbroken : Entry.decodeResult b = .error defect) :
    ((Action.query c.connection c.environment q parameters).run w).1 =
      .rows (.error (.corrupt defect)) := by
  obtain ⟨h, before⟩ := w
  have hquery : (c.connection.query c.environment q parameters h).1 = .error (.corrupt defect) :=
    query_of_broken hactive hfail hkeeps hentry hbroken
  simp only [Action.run, Connection.query_recorded, hquery]

/-- One connection asks a database that gives a time in an odd leap second. -/
def oddSecondQuery : Action Host :=
  .query (sharing .fail).connection (sharing .fail).environment selectN []

theorem delivered_oddSecondQuery :
    Delivered (Action.runAll (oddSecondHost, []) [oddSecondQuery]).2.2
      (Key.ofQuery selectN.text []) Entry.oddSecond := by
  have hcalls : (Action.runAll (oddSecondHost, []) [oddSecondQuery]).2.2 =
      [.get (Key.ofQuery selectN.text []) (.ok none),
        .query selectN [] (.ok (.scripted (.start Entry.oddSecond.columns
          [.ok [.ok (.time ⟨5, 1500000000⟩)]]))),
        .put (Key.ofQuery selectN.text []) (Entry.encodeResult Entry.oddSecond) (.ok ())] := rfl
  rw [hcalls]
  exact ⟨selectN, [], _, List.mem_cons_of_mem _ List.mem_cons_self, rfl, rfl, by decide⟩

/-- What is written for a delivered result is not always an entry that can be read.  Here the only
entry of a store that was empty is broken, and the lookup of the next query comes to it. -/
theorem oddSecondQuery_leaves_broken_entry :
    let view := Host.shelfView (.memory 0) [(sharing .fail).store]
    let k := Key.ofQuery selectN.text []
    let w := (Action.runAll (oddSecondHost, []) [oddSecondQuery]).2
    (view.inPlace oddSecondHost ∧ (∀ l, view.entry oddSecondHost l = none) ∧
      oddSecondQuery.Over view) ∧
      Delivered w.2 k Entry.oddSecond ∧ Entry.oddSecond.Writable ∧
        view.entry w.1 k = some (Entry.encodeResult Entry.oddSecond) ∧
          Entry.decodeResult (Entry.encodeResult Entry.oddSecond) = .error .timeOutOfRange ∧
            (oddSecondQuery.run w).1 = .rows (.error (.corrupt .timeOutOfRange)) := by
  intro view k w
  have hplace : view.inPlace oddSecondHost := by
    intro store hstore
    rw [List.mem_singleton.mp hstore]
    exact ⟨rfl, Nat.one_pos⟩
  have hrun : w.1 = ((sharing .fail).query selectN [] oddSecondHost).2 :=
    congrArg (fun answered => answered.2.1)
      (Connection.query_recorded _ _ selectN [] oddSecondHost [])
  have hentry : w.1.entryAt (.memory 0) k = some (Entry.encodeResult Entry.oddSecond) :=
    hrun ▸ entryAt_query_oddSecondHost
  have hkeeps : w.1.Keeps (.memory 0) (sharing .fail).store := hrun ▸ keeps_query_oddSecondHost
  have hseen : view.entry w.1 k = some (Entry.encodeResult Entry.oddSecond) :=
    (Host.shelfView_entry _ _ w.1 k).trans hentry
  have hbroken := Entry.decodeResult_encodeResult_oddSecond
  exact ⟨⟨hplace, fun _ => rfl, (sharing .fail).serves (.memory 0) List.mem_cons_self⟩,
    delivered_oddSecondQuery, Entry.writable_oddSecond, hseen, hbroken,
    OpenConnection.rows_of_broken rfl rfl hkeeps hentry hbroken⟩

end QueryReplay
