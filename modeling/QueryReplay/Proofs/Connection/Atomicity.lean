import QueryReplay.Proofs.Backend.Failure
import QueryReplay.Proofs.Host.Serving

/-!
# Failures of the database leave no trace in the store

A query that finds nothing asks the database, once.  If the database fails, at
once or while its rows are read, the query fails with the same error whatever
its policy is, and nothing is put into the store.  So a broken entry that has
been met on the way stays as it is.
-/

namespace QueryReplay

namespace Connection

variable {σ : Type} {c : Connection} {env : Environment σ} {view : StoreView σ}
  {q : Statement} {parameters : List Value} {s looked : σ}

/-- The query fails with that error. It has asked the store once and then the database once, and
has left all entries as they were. -/
structure FailsAtomically (c : Connection) (env : Environment σ) (view : StoreView σ)
    (q : Statement) (parameters : List Value) (s : σ) (e : Error) : Prop where
  outcome : (c.query env q parameters s).1 = .error e
  calls : ∃ found live, c.calls env q parameters s =
    [.get (Key.ofQuery q.text parameters) found, .query q parameters live]
  entry : view.entry (c.query env q parameters s).2 = view.entry s

theorem capture_fst_of_live {live : ResultCursor}
    (hquery : (env.query q parameters s).1 = .ok live) :
    (capture env q parameters s).1 = live.capture := by
  rw [capture_of_live (Prod.ext hquery rfl)]

/-- A query that finds nothing passes an error of the capture on and does nothing more. -/
theorem failsAtomically_of_capture (hserves : env.Serves view) (hactive : c.active = true)
    (hreaches : c.lookup env (Key.ofQuery q.text parameters) (derived env q parameters s) =
      (.ok none, looked)) {e : Error}
    (hcapture : (capture env q parameters looked).1 = .error e) :
    FailsAtomically c env view q parameters s e := by
  have hall : capture env q parameters looked = (.error e, _) := Prod.ext hcapture rfl
  have hreplay := replay_of_capture_error hreaches hall
  constructor
  · rw [query_of_active hactive, hreplay]
    rfl
  · have hwritten := replay_recorded_of_capture_error hreaches hall []
    exact ⟨_, _, calls_of_replay_recorded hactive hwritten⟩
  · rw [query_of_active hactive, hreplay]
    exact ((hserves.same_of_lookup hreaches).trans (hserves.same_of_capture hall)).entry

/-- A query that reaches the database fails with the error of the database, unchanged and with
nothing put, if the statement cannot be run, if a cursor with columns breaks on the way, or if
a cursor cannot be moved to its first row.  A first row without columns is refused in the same
way, and then what comes behind it is not seen. -/
theorem database_failure_atomic (hserves : env.Serves view) (hactive : c.active = true)
    (hreaches : c.lookup env (Key.ofQuery q.text parameters) (derived env q parameters s) =
      (.ok none, looked)) :
    (∀ e, (env.query q parameters looked).1 = .error e →
        FailsAtomically c env view q parameters s e) ∧
      ∀ live, (env.query q parameters looked).1 = .ok live →
        (∀ e, live.columns ≠ [] → live.BreaksWith e →
            FailsAtomically c env view q parameters s e) ∧
          (∀ e next, live.advance = (.error e, next) →
            FailsAtomically c env view q parameters s e) ∧
            ∀ next, live.columns = [] → live.advance = (.ok true, next) →
              FailsAtomically c env view q parameters s (.corrupt .rowWithoutColumns) := by
  constructor
  · intro e hquery
    apply failsAtomically_of_capture hserves hactive hreaches
    rw [capture_of_query_error (Prod.ext hquery rfl)]
  · intro live hquery
    have hcapture := capture_fst_of_live hquery
    refine ⟨fun e hwide hbreaks => ?_, fun e next hmoved => ?_, fun next hnone hmoved => ?_⟩
    · apply failsAtomically_of_capture hserves hactive hreaches
      rw [hcapture]
      exact ResultCursor.capture_of_breaksWith hbreaks hwide
    · apply failsAtomically_of_capture hserves hactive hreaches
      rw [hcapture]
      exact ResultCursor.capture_of_advance_error hmoved
    · apply failsAtomically_of_capture hserves hactive hreaches
      rw [hcapture]
      exact ResultCursor.capture_of_no_columns hnone hmoved

/-! ## A database that fails half way -/

/-- The failure of a scripted cell or row. -/
def lineLost : Error :=
  .backend (.scripted "line lost")

/-- A cursor that fails in the second column of its second row. -/
def lineLostCursor : ScriptedCursor :=
  .start [⟨"n", "n", 1, .integer, "INT", .unknown, 0, 0⟩,
      ⟨"m", "m", 2, .integer, "INT", .unknown, 0, 0⟩]
    [.ok [.ok (.int32 1), .ok (.int32 2)], .ok [.ok (.int32 3), .error lineLost]]

theorem lineLostCursor_breaksWith :
    (ResultCursor.scripted lineLostCursor).BreaksWith lineLost := by
  refine .later rfl ?_ (.value rfl (show 1 ≤ 2 by decide) (by decide) ?_ rfl)
  · intro o hpos hle
    obtain rfl | rfl : o = 1 ∨ o = 2 := by
      have hle' : o ≤ 2 := hle
      omega
    · exact ⟨.int32 1, rfl⟩
    · exact ⟨.int32 2, rfl⟩
  · intro o hpos hlt
    obtain rfl : o = 1 := by omega
    exact ⟨.int32 3, rfl⟩

def pairs : Statement :=
  ⟨"SELECT n, m", none⟩

/-- A host whose store has a broken entry under a key, and whose database has one answer. -/
def brokenEntryHost (k : Key) (answer : ScriptedAnswer) : Host :=
  { Host.withFiles [] with
    unreliable := [("s", ⟨[(k, [0x53])], false, false⟩)]
    backends := [.opened (.scripted ⟨[⟨pairs.text, none, answer⟩], []⟩)] }

/-- A connection of that host which goes on when its store fails. -/
def patient : OpenConnection :=
  ⟨⟨true, .degrade⟩, .memory "s", .unreliable "s", 0⟩

/-- That host when a query looks for its result. -/
def brokenEntryDerived (k : Key) (answer : ScriptedAnswer) : Host :=
  derived patient.environment pairs [] (brokenEntryHost k answer)

theorem get_brokenEntryDerived (k : Key) (answer : ScriptedAnswer) :
    patient.environment.get k (brokenEntryDerived k answer) =
      (.ok (some [0x53]), brokenEntryDerived k answer) := by
  simp [brokenEntryDerived, derived, OpenConnection.environment, patient, Host.getEntry,
    Host.unreliableStore, UnreliableStore.get, brokenEntryHost, Host.log, Entries.get?]

theorem decodeResult_broken : Entry.decodeResult [0x53] = .error (.truncated 0 4 1) := by
  decide

theorem obstacle?_broken : obstacle? (.ok (some [0x53])) = some (.corrupt (.truncated 0 4 1)) :=
  obstacle?_of_broken decodeResult_broken

theorem lookup_brokenEntryDerived (k : Key) (answer : ScriptedAnswer) :
    patient.connection.lookup patient.environment k (brokenEntryDerived k answer) =
      (.ok none, (brokenEntryDerived k answer).log
        (.troubled .corrupt k "flaky" (.corrupt (.truncated 0 4 1)))) := by
  have hget := get_brokenEntryDerived k answer
  have hobstacle : obstacle?
      (patient.environment.get k (brokenEntryDerived k answer)).1 =
        some (.corrupt (.truncated 0 4 1)) := by
    rw [hget]
    exact obstacle?_broken
  rw [lookup_of_obstacle hobstacle, tolerate_of_degrade rfl, hget]
  rfl

theorem entryAt_brokenEntryHost (k : Key) (answer : ScriptedAnswer) :
    (brokenEntryHost k answer).entryAt (.unreliable "s") k = some [0x53] := by
  simp [Host.entryAt, brokenEntryHost, Host.unreliableStore, Entries.get?]

theorem query_brokenEntryDerived (k : Key) (columns : List Column) (rows : List ScriptedRow)
    (e : Log.Event) :
    (patient.environment.query pairs [] ((brokenEntryDerived k (.rows columns rows)).log e)).1 =
      .ok (.scripted (.start columns rows)) :=
  rfl

/-- The failure of the second row is passed on, and the broken entry is still there. -/
theorem brokenEntryHost_line_lost :
    let h := brokenEntryHost (Key.ofQuery pairs.text [])
      (.rows lineLostCursor.columns lineLostCursor.pending)
    h.entryAt (.unreliable "s") (Key.ofQuery pairs.text []) = some [0x53] ∧
      FailsAtomically patient.connection patient.environment
        (Host.shelfView (.unreliable "s") [patient.store]) pairs [] h lineLost := by
  have hreaches := lookup_brokenEntryDerived (Key.ofQuery pairs.text [])
    (.rows lineLostCursor.columns lineLostCursor.pending)
  have hlive := query_brokenEntryDerived (Key.ofQuery pairs.text []) lineLostCursor.columns
    lineLostCursor.pending
    (.troubled .corrupt (Key.ofQuery pairs.text []) "flaky" (.corrupt (.truncated 0 4 1)))
  have hatomic := (database_failure_atomic
    (patient.serves (.unreliable "s") (List.mem_singleton_self patient.store)) rfl hreaches).2
    _ hlive
  exact ⟨entryAt_brokenEntryHost _ _,
    hatomic.1 lineLost (by decide) lineLostCursor_breaksWith⟩

/-- A cursor without columns that fails behind its first row. -/
def rowlessCursor : ScriptedCursor :=
  .start [] [.ok [], .error lineLost]

theorem rowlessCursor_breaksWith :
    (ResultCursor.scripted rowlessCursor).BreaksWith lineLost := by
  refine .later rfl ?_ (.advance rfl)
  intro o hpos hle
  exact absurd (Nat.le_trans hpos hle) (by decide)

/-- Without columns the failure behind the first row is not the one that is passed on. -/
theorem rowlessCursor_refused :
    let h := brokenEntryHost (Key.ofQuery pairs.text [])
      (.rows rowlessCursor.columns rowlessCursor.pending)
    (∃ looked, patient.connection.lookup patient.environment (Key.ofQuery pairs.text [])
        (derived patient.environment pairs [] h) = (.ok none, looked) ∧
      (patient.environment.query pairs [] looked).1 = .ok (.scripted rowlessCursor)) ∧
      (ResultCursor.scripted rowlessCursor).BreaksWith lineLost ∧
        (patient.connection.query patient.environment pairs [] h).1 =
          .error (.corrupt .rowWithoutColumns) ∧
          Error.corrupt .rowWithoutColumns ≠ lineLost := by
  have hreaches := lookup_brokenEntryDerived (Key.ofQuery pairs.text [])
    (.rows rowlessCursor.columns rowlessCursor.pending)
  have hlive := query_brokenEntryDerived (Key.ofQuery pairs.text []) rowlessCursor.columns
    rowlessCursor.pending
    (.troubled .corrupt (Key.ofQuery pairs.text []) "flaky" (.corrupt (.truncated 0 4 1)))
  have hcapture := (capture_fst_of_live hlive).trans (ResultCursor.capture_of_no_columns rfl rfl)
  have hfails := failsAtomically_of_capture
    (patient.serves (.unreliable "s") (List.mem_singleton_self patient.store)) rfl hreaches
    hcapture
  exact ⟨⟨_, hreaches, hlive⟩, rowlessCursor_breaksWith, hfails.outcome, by decide⟩

end Connection

end QueryReplay
