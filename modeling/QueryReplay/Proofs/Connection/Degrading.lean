import QueryReplay.Proofs.Connection.Atomicity
import QueryReplay.Proofs.Connection.Provenance

/-!
# Connections that go on without their store

A connection that tolerates errors of its store fails only if the database
does.  Whatever bytes the store has, and whether it can be read and written or
not, the answer is the entry if it can be read and else what is captured.  A
capture takes the place of the missing or broken entry.  From then on every get
that succeeds finds what a database has delivered, and is a hit for connections of
either policy if that fits the stored form.
-/

namespace QueryReplay

namespace Connection

variable {σ : Type} {c : Connection} {env : Environment σ} {view : StoreView σ}
  {q : Statement} {parameters : List Value} {s : σ} {r : ResultSet}

/-! ## The answer -/

/-- Whether a put succeeds or not makes no difference to a connection that tolerates it. -/
theorem keep_of_degrade (hdegrade : c.onStoreError = .degrade) (env : Environment σ) (k : Key)
    (r : ResultSet) (s : σ) : (c.keep env k r s).1 = .ok () := by
  cases hput : env.put k (Entry.encodeResult r) s with
  | mk done kept =>
      cases done with
      | ok _ => rw [keep_of_put_ok hput]
      | error e => rw [keep_of_put_error hput, tolerate_of_degrade hdegrade]

/-- Without an entry that can be read, the answer is what is captured. -/
theorem query_of_degrade (hactive : c.active = true) (hdegrade : c.onStoreError = .degrade)
    (hnone : ∀ r,
      ¬IsResult (env.get (Key.ofQuery q.text parameters) (derived env q parameters s)).1 r) :
    (c.query env q parameters s).1 =
      (capture env q parameters (c.lookup env (Key.ofQuery q.text parameters)
        (derived env q parameters s)).2).1.map fun r => .captured (.start r) := by
  have hlookup : c.lookup env (Key.ofQuery q.text parameters) (derived env q parameters s) =
      (.ok none, _) := Prod.ext (lookup_of_degrade hdegrade hnone) rfl
  rw [query_of_active hactive]
  cases hcapture : capture env q parameters (c.lookup env (Key.ofQuery q.text parameters)
      (derived env q parameters s)).2 with
  | mk outcome captured =>
      cases outcome with
      | error e => rw [replay_of_capture_error hlookup hcapture]
      | ok r =>
          have hkeep : c.keep env (Key.ofQuery q.text parameters) r captured = (.ok (), _) :=
            Prod.ext (keep_of_degrade hdegrade env _ r captured) rfl
          rw [replay_of_captured hlookup hcapture hkeep]
          rfl

/-- So only the error of a capture is passed on. -/
theorem capture_error_of_degrade (hactive : c.active = true) (hdegrade : c.onStoreError = .degrade)
    {e : Error} (herror : (c.query env q parameters s).1 = .error e) :
    (capture env q parameters (c.lookup env (Key.ofQuery q.text parameters)
      (derived env q parameters s)).2).1 = .error e := by
  have hnone (r : ResultSet) (hfound : IsResult
      (env.get (Key.ofQuery q.text parameters) (derived env q parameters s)).1 r) : False := by
    have houtcome := (replays_of_isResult hactive hfound).outcome
    rw [herror] at houtcome
    cases houtcome
  rw [query_of_degrade hactive hdegrade hnone] at herror
  cases hcapture : (capture env q parameters (c.lookup env (Key.ofQuery q.text parameters)
      (derived env q parameters s)).2).1 with
  | error e' =>
      rw [hcapture] at herror
      cases herror
      rfl
  | ok r =>
      rw [hcapture] at herror
      cases herror

/-! ## Healing -/

/-- What has been captured and put is the entry afterwards. -/
theorem entry_of_put (hserves : env.Serves view) (hactive : c.active = true)
    (hplace : view.inPlace s) {looked captured : σ}
    (hlookup : c.lookup env (Key.ofQuery q.text parameters) (derived env q parameters s) =
      (.ok none, looked))
    (hcapture : capture env q parameters looked = (.ok r, captured))
    (hput : (env.put (Key.ofQuery q.text parameters) (Entry.encodeResult r) captured).1 =
      .ok ()) :
    view.inPlace (c.query env q parameters s).2 ∧
      view.entry (c.query env q parameters s).2 (Key.ofQuery q.text parameters) =
        some (Entry.encodeResult r) := by
  have hcaptured : view.inPlace captured :=
    ((hserves.same_of_lookup hlookup).trans (hserves.same_of_capture hcapture)).inPlace hplace
  have hkept := hserves.keep_inPlace c (Key.ofQuery q.text parameters) r hcaptured
  have hentry := hserves.keep_entry_of_ok c hcaptured hput
  cases hkeep : c.keep env (Key.ofQuery q.text parameters) r captured with
  | mk done kept =>
      rw [hkeep] at hkept hentry
      rw [query_of_active hactive, replay_of_captured hlookup hcapture hkeep]
      refine ⟨hkept, ?_⟩
      rw [hentry, Function.update_self]

/-- As long as only connections write to the store, a key that has an entry keeps one.  Every get
that succeeds finds it or what is written for a result that has been delivered since, and is a hit
if that result fits the stored form. -/
theorem replays_of_entry (hplace : view.inPlace s) {k : Key} (hrect : r.Rectangular)
    (hentry : view.entry s k = some (Entry.encodeResult r)) {actions : List (Action σ)}
    (hover : ∀ a ∈ actions, a.Over view) (hactive : c.active = true) (hserves : env.Serves view)
    (hkey : Key.ofQuery q.text parameters = k) {found : Option (List UInt8)} :
    let w := (Action.runAll (s, []) actions).2
    (env.get k (derived env q parameters w.1)).1 = .ok found →
      ∃ r', (r' = r ∨ Delivered w.2 k r') ∧ found = some (Entry.encodeResult r') ∧
        (r'.Storable → c.Replays env q parameters w.1 r'.stored) := by
  intro w hget
  subst hkey
  have haccounted : Accounted view (view.entry s) w := accounted_runAll hplace hover
  have hfound := hserves.entry_of_get haccounted.inPlace hget
  rcases haccounted.entry (Key.ofQuery q.text parameters) with hold | ⟨r', hdelivered, hnew⟩
  · rw [hold, hentry] at hfound
    subst hfound
    exact ⟨r, Or.inl rfl, rfl, replays_of_written hactive hget hrect⟩
  · rw [hnew] at hfound
    subst hfound
    exact ⟨r', Or.inr hdelivered, rfl, replays_of_written hactive hget hdelivered.rectangular⟩

/-- A query that tolerates its store fails only with the error of a capture.  It answers with the
entry if that can be got and read, and otherwise with what it captures.  If that can be put, it is
the entry from then on: whatever connections do next, every get that succeeds for a query of the
same text and parameters finds it, or what has been delivered and put in its place since.  If what
it finds fits the stored form, the query is a hit under either policy. -/
theorem degrade_serves_and_heals (hactive : c.active = true) (hdegrade : c.onStoreError = .degrade)
    (env : Environment σ) (q : Statement) (parameters : List Value) (s : σ) :
    let k := Key.ofQuery q.text parameters
    let found := (env.get k (derived env q parameters s)).1
    let captured := capture env q parameters (c.lookup env k (derived env q parameters s)).2
    let after := (c.query env q parameters s).2
    (∀ e, (c.query env q parameters s).1 = .error e → captured.1 = .error e) ∧
      (∀ r, IsResult found r → c.Replays env q parameters s r) ∧
        ((∀ r, ¬IsResult found r) →
          (c.query env q parameters s).1 = captured.1.map (fun r => .captured (.start r)) ∧
            ∀ (view : StoreView σ) r, env.Serves view → view.inPlace s → captured.1 = .ok r →
              (env.put k (Entry.encodeResult r) captured.2).1 = .ok () →
              view.entry after k = some (Entry.encodeResult r) ∧
                ∀ actions : List (Action σ), (∀ a ∈ actions, a.Over view) →
                  let w := (Action.runAll (after, []) actions).2
                  ∀ (c' : Connection) (env' : Environment σ) (q' : Statement) found',
                    c'.active = true → env'.Serves view → q'.text = q.text →
                    (env'.get k (derived env' q' parameters w.1)).1 = .ok found' →
                    ∃ r', (r' = r ∨ Delivered w.2 k r') ∧
                      found' = some (Entry.encodeResult r') ∧
                        (r'.Storable → c'.Replays env' q' parameters w.1 r'.stored)) := by
  intro k found captured after
  refine ⟨fun e herror => capture_error_of_degrade hactive hdegrade herror,
    fun r hfound => replays_of_isResult hactive hfound, fun hnone => ?_⟩
  refine ⟨query_of_degrade hactive hdegrade hnone, ?_⟩
  intro view r hserves hplace hcapture hput
  obtain ⟨hafter, hentry⟩ := entry_of_put hserves hactive hplace
    (Prod.ext (lookup_of_degrade hdegrade hnone) rfl) (Prod.ext hcapture rfl) hput
  refine ⟨hentry, ?_⟩
  intro actions hover w c' env' q' found' hactive' hserves' htext hget
  exact replays_of_entry hafter (rectangular_of_capture hcapture) hentry hover hactive' hserves'
    (by rw [htext]) hget

/-! ## A broken entry that heals -/

/-- A row that takes the place of a broken entry. -/
def onePair : ResultSet :=
  ⟨lineLostCursor.columns, [[.int32 1, .int32 2]]⟩

theorem not_isResult_brokenEntryDerived (k : Key) (answer : ScriptedAnswer) (r : ResultSet) :
    ¬IsResult (patient.environment.get k (brokenEntryDerived k answer)).1 r := by
  intro hresult
  have hclear := obstacle?_eq_none_iff.mpr (Or.inr ⟨r, hresult⟩)
  rw [get_brokenEntryDerived, obstacle?_broken] at hclear
  cases hclear

/-- A query leaves the store of that host working. -/
theorem get_after_brokenEntryHost (k : Key) (answer : ScriptedAnswer) :
    let after := (patient.connection.query patient.environment pairs []
      (brokenEntryHost k answer)).2
    (patient.environment.get k (derived patient.environment pairs [] after)).1 =
      .ok (after.entryAt (.unreliable "s") k) := by
  intro after
  have hkeeps : (brokenEntryHost k answer).Keeps (.unreliable "s") patient.store :=
    Host.keeps_unreliable_iff.mpr ⟨rfl, rfl, rfl⟩
  have hkept : after.Keeps (.unreliable "s") patient.store :=
    OpenConnection.keeps_query rfl hkeeps pairs [] hkeeps
  have hleaves : Host.Leaves (.unreliable "s") after
      (derived patient.environment pairs [] after) := (Host.onlyLogs_log _ after).leaves _
  rw [← hleaves.entry]
  exact congrArg Prod.fst ((hleaves.keeps _ hkept).getEntry_eq k)

/-- The broken entry is replaced, and a connection that does not tolerate broken entries can read
the new one. -/
theorem brokenEntryHost_healed :
    let k := Key.ofQuery pairs.text []
    let h := brokenEntryHost k (.rows onePair.columns [.ok [.ok (.int32 1), .ok (.int32 2)]])
    let after := (patient.connection.query patient.environment pairs [] h).2
    h.entryAt (.unreliable "s") k = some [0x53] ∧
      after.entryAt (.unreliable "s") k = some (Entry.encodeResult onePair) ∧
        (⟨true, .fail⟩ : Connection).Replays patient.environment pairs [] after onePair.stored := by
  intro k h after
  have hserves := patient.serves (.unreliable "s") (List.mem_singleton_self patient.store)
  have hplace : (Host.shelfView (.unreliable "s") [patient.store]).inPlace h := by
    intro store hstore
    rw [List.mem_singleton.mp hstore]
    rfl
  have hlookup : patient.connection.lookup patient.environment k
      (derived patient.environment pairs [] h) = _ := lookup_brokenEntryDerived k _
  have hcapture : (capture patient.environment pairs [] (patient.connection.lookup
      patient.environment k (derived patient.environment pairs [] h)).2).1 = .ok onePair := by
    rw [hlookup]
    rfl
  have hput : (patient.environment.put k (Entry.encodeResult onePair)
      (capture patient.environment pairs [] (patient.connection.lookup patient.environment k
        (derived patient.environment pairs [] h)).2).2).1 = .ok () := by
    rw [hlookup]
    rfl
  obtain ⟨hentry, hlater⟩ :=
    ((degrade_serves_and_heals (c := patient.connection) rfl rfl patient.environment pairs []
      h).2.2 (not_isResult_brokenEntryDerived k _)).2 _ onePair hserves hplace hcapture hput
  have hnext := hlater [] fun a ha => absurd ha List.not_mem_nil
  simp only [Action.runAll] at hnext
  obtain ⟨r', hr', -, hreplays⟩ :=
    hnext ⟨true, .fail⟩ patient.environment pairs _ rfl hserves rfl (get_after_brokenEntryHost k _)
  rw [Host.shelfView_entry] at hentry
  rcases hr' with rfl | ⟨_, _, _, hmem, _⟩
  · exact ⟨entryAt_brokenEntryHost k _, hentry, hreplays (by decide)⟩
  · cases hmem

/-- A time in an odd leap second, as a database gives it. -/
def oddSecondAnswer : ScriptedAnswer :=
  .rows Entry.oddSecond.columns [.ok [.ok (.time ⟨5, 1500000000⟩)]]

/-- Not every capture that has been put heals the entry.  This one takes the place of the broken
entry and is broken itself, so that no query is answered from it. -/
theorem brokenEntryHost_not_healed :
    let k := Key.ofQuery pairs.text []
    let h := brokenEntryHost k oddSecondAnswer
    let after := (patient.connection.query patient.environment pairs [] h).2
    h.entryAt (.unreliable "s") k = some [0x53] ∧
      (patient.connection.query patient.environment pairs [] h).1 =
        .ok (.captured (.start Entry.oddSecond)) ∧ Entry.oddSecond.Writable ∧
        after.entryAt (.unreliable "s") k = some (Entry.encodeResult Entry.oddSecond) ∧
          (patient.environment.get k (derived patient.environment pairs [] after)).1 =
            .ok (some (Entry.encodeResult Entry.oddSecond)) ∧
            ∀ policy r,
              ¬(⟨true, policy⟩ : Connection).Replays patient.environment pairs [] after r := by
  intro k h after
  have hlookup : patient.connection.lookup patient.environment k
      (derived patient.environment pairs [] h) = _ := lookup_brokenEntryDerived k _
  have hcapture : (capture patient.environment pairs [] (patient.connection.lookup
      patient.environment k (derived patient.environment pairs [] h)).2).1 =
        .ok Entry.oddSecond := by
    rw [hlookup]
    rfl
  have hanswer : (patient.connection.query patient.environment pairs [] h).1 =
      .ok (.captured (.start Entry.oddSecond)) := by
    rw [query_of_degrade rfl rfl (not_isResult_brokenEntryDerived k _), hcapture]
    rfl
  have hkeeps : h.Keeps (.unreliable "s") patient.store :=
    Host.keeps_unreliable_iff.mpr ⟨rfl, rfl, rfl⟩
  have hnone (r : ResultSet) : ¬h.HasResult (.unreliable "s") k r := by
    rintro ⟨b, hfound, hdecode⟩
    rw [entryAt_brokenEntryHost] at hfound
    cases hfound
    rw [decodeResult_broken] at hdecode
    cases hdecode
  have hentry : after.entryAt (.unreliable "s") k = some (Entry.encodeResult Entry.oddSecond) :=
    OpenConnection.entryAt_of_answer rfl hkeeps hnone hanswer
  have hget : (patient.environment.get k (derived patient.environment pairs [] after)).1 =
      .ok (some (Entry.encodeResult Entry.oddSecond)) := by
    rw [get_after_brokenEntryHost, hentry]
  refine ⟨entryAt_brokenEntryHost k _, hanswer, Entry.writable_oddSecond, hentry, hget, ?_⟩
  intro policy r hreplays
  obtain ⟨b, hfound, hdecode⟩ := isResult_of_replays rfl hreplays
  cases hfound.symm.trans hget
  rw [Entry.decodeResult_encodeResult_oddSecond] at hdecode
  cases hdecode

end Connection

end QueryReplay
