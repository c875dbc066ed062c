import QueryReplay.Proofs.Connection.Outcomes

/-!
# Replay is stable

Connections that share a shelf may run in any order while their databases
change, fail or are closed.  An entry that can be read is never written again,
because a query that finds it does not write, and every other query writes
under another key.  So from the first answer to a query on, all connections
give the same answer to it, as long as nobody else writes or removes its entry.
Only an answer that does not fit the stored form is never given again: one with a
time in a leap second behind a second other than 59.
-/

namespace QueryReplay

/-! ## Steps -/

/-- What may happen between two queries. -/
inductive Step where
  | query (c : OpenConnection) (q : Statement) (parameters : List Value)
  | update (c : OpenConnection) (q : Statement) (parameters : List Value)
  /-- Databases and the connections to them are left in another state. -/
  | disturb (databases : List Database) (locations : List (Place × Nat)) (backends : List Backend)
  /-- An entry is written by somebody else than a connection. -/
  | put (store : OpenStore) (k : Key) (b : List UInt8)
  | remove (store : OpenStore) (k : Key)

namespace Step

/-- The host after a step. -/
def run (h : Host) : Step → Host
  | .query c q parameters => (c.query q parameters h).2
  | .update c q parameters => (c.update q parameters h).2
  | .disturb databases locations backends => { h with databases, locations, backends }
  | .put store k b => (Host.putEntry store k b h).2
  | .remove store k => Host.removeEntry store k h

/-- The host after steps one after another. -/
def runAll (h : Host) (steps : List Step) : Host :=
  steps.foldl run h

/-- The step is one of connections on the shelf, or writes or removes an entry of the shelf
directly, but not the one under that key. -/
def Spares (shelf : Shelf) (k : Key) (h : Host) : Step → Prop
  | .query c _ _ => h.Keeps shelf c.store
  | .update _ _ _ => True
  | .disturb _ _ _ => True
  | .put store l _ => h.Keeps shelf store ∧ l ≠ k
  | .remove store l => h.Keeps shelf store ∧ l ≠ k

end Step

namespace Host

/-- Another host in which the entry under a key of the shelf is as it was, and the shelf is kept
by the stores that kept it. -/
structure LeavesEntry (shelf : Shelf) (k : Key) (h h' : Host) : Prop where
  entry : h'.entryAt shelf k = h.entryAt shelf k
  keeps (store : OpenStore) (hkeeps : h.Keeps shelf store) : h'.Keeps shelf store

variable {shelf : Shelf} {k : Key} {h h' h'' : Host}

namespace LeavesEntry

theorem refl (shelf : Shelf) (k : Key) (h : Host) : LeavesEntry shelf k h h :=
  ⟨rfl, fun _ hkeeps => hkeeps⟩

theorem trans (hfirst : LeavesEntry shelf k h h') (hnext : LeavesEntry shelf k h' h'') :
    LeavesEntry shelf k h h'' :=
  ⟨hnext.entry.trans hfirst.entry,
    fun store hkeeps => hnext.keeps store (hfirst.keeps store hkeeps)⟩

end LeavesEntry

theorem Leaves.leavesEntry (hleaves : Leaves shelf h h') (k : Key) : LeavesEntry shelf k h h' :=
  ⟨hleaves.entry k, hleaves.keeps⟩

theorem Changes.leavesEntry {l : Key} {found : Option (List UInt8)}
    (hchanges : Changes shelf l found h h') (hne : l ≠ k) : LeavesEntry shelf k h h' := by
  refine ⟨?_, hchanges.keeps⟩
  rw [hchanges.entry k, if_neg (Ne.symm hne)]

end Host

/-! ## One step -/

namespace Step

variable {shelf : Shelf} {k : Key} {r : ResultSet} {h start : Host}

/-- A query leaves every entry alone that can be read. -/
theorem query_leavesEntry {c : OpenConnection} (hkeeps : h.Keeps shelf c.store)
    (hhas : h.HasResult shelf k r) (q : Statement) (parameters : List Value) :
    Host.LeavesEntry shelf k h (c.query q parameters h).2 := by
  by_cases hactive : c.connection.active = true
  · by_cases hfound : ∃ r', h.HasResult shelf (Key.ofQuery q.text parameters) r'
    · obtain ⟨r', hhas'⟩ := hfound
      rw [OpenConnection.query_of_hasResult hactive hkeeps hhas']
      exact ((OpenConnection.onlyLogs_replayed _ _ _ h).leaves shelf).leavesEntry k
    · have hnone := not_exists.mp hfound
      rcases OpenConnection.query_of_not_hasResult hactive hkeeps hnone with
        ⟨_, _, hleaves⟩ | ⟨_, _, _, _, _, hchanges⟩
      · exact hleaves.leavesEntry k
      · refine hchanges.leavesEntry ?_
        rintro rfl
        exact hnone r hhas
  · have hlive : c.query q parameters h = Host.askRows c.backend q parameters h := if_neg hactive
    rw [hlive]
    exact (Host.leaves_askRows shelf c.backend q parameters h).leavesEntry k

/-- A step that spares a key leaves its entry alone if it can be read. -/
theorem run_leavesEntry {step : Step} (hspares : step.Spares shelf k h)
    (hhas : h.HasResult shelf k r) : Host.LeavesEntry shelf k h (step.run h) := by
  cases step with
  | query c q parameters => exact query_leavesEntry hspares hhas q parameters
  | update c q parameters =>
      exact (Host.leaves_askCount shelf c.backend q parameters h).leavesEntry k
  | disturb databases locations backends =>
      have hleaves : Host.Leaves shelf h { h with databases, locations, backends } :=
        Host.Leaves.of_eq rfl rfl rfl
      exact hleaves.leavesEntry k
  | put store l b => exact (hspares.1.putEntry_changes l b).leavesEntry hspares.2
  | remove store l =>
      exact ⟨hspares.1.removeEntry_entry hspares.2.symm,
        fun _ hkeeps => hspares.1.removeEntry_keeps l hkeeps⟩

/-- The conditions of a step last as long as the stores of the shelf work. -/
theorem Spares.of_keeps {step : Step} (hspares : step.Spares shelf k start)
    (hkeeps : ∀ store, start.Keeps shelf store → h.Keeps shelf store) :
    step.Spares shelf k h := by
  cases step with
  | query c q parameters => exact hkeeps _ hspares
  | update c q parameters => trivial
  | disturb databases locations backends => trivial
  | put store l b => exact ⟨hkeeps _ hspares.1, hspares.2⟩
  | remove store l => exact ⟨hkeeps _ hspares.1, hspares.2⟩

/-! ## Runs -/

theorem runAll_leavesEntry {steps : List Step}
    (hspares : ∀ step ∈ steps, step.Spares shelf k h) (hhas : h.HasResult shelf k r) :
    Host.LeavesEntry shelf k h (runAll h steps) := by
  induction steps generalizing h with
  | nil => exact Host.LeavesEntry.refl shelf k h
  | cons step steps ih =>
      obtain ⟨hstep, hsteps⟩ := List.forall_mem_cons.mp hspares
      have hfirst := run_leavesEntry hstep hhas
      have hrest := ih (fun later hlater => (hsteps later hlater).of_keeps hfirst.keeps)
        (hhas.of_entry_eq hfirst.entry)
      exact hfirst.trans hrest

end Step

namespace OpenConnection

variable {shelf : Shelf} {c : OpenConnection} {h : Host} {q : Statement}
  {parameters : List Value} {r : ResultSet}

/-! ## The first answer -/

/-- What an active query answers is read from its entry, or is captured and kept under its key
where no entry could be read. -/
theorem answer_cases (hactive : c.connection.active = true) (hkeeps : h.Keeps shelf c.store)
    {cursor : ResultCursor} (hanswer : (c.query q parameters h).1 = .ok cursor)
    (hdrain : cursor.drain = .ok r) :
    (h.HasResult shelf (Key.ofQuery q.text parameters) r ∧
        Host.Leaves shelf h (c.query q parameters h).2) ∨
      ∃ looked : Host, h.OnlyLogs looked ∧
        (Connection.capture c.environment q parameters looked).1 = .ok r ∧
          Host.Changes shelf (Key.ofQuery q.text parameters) (some (Entry.encodeResult r)) h
            (c.query q parameters h).2 := by
  by_cases hfound : ∃ r', h.HasResult shelf (Key.ofQuery q.text parameters) r'
  · obtain ⟨r', hhas⟩ := hfound
    rw [query_of_hasResult hactive hkeeps hhas] at hanswer ⊢
    cases hanswer
    rw [ResultCursor.drain_captured hhas.rectangular] at hdrain
    obtain rfl := Except.ok.inj hdrain
    exact Or.inl ⟨hhas, (onlyLogs_replayed _ _ _ h).leaves shelf⟩
  · rcases query_of_not_hasResult hactive hkeeps (not_exists.mp hfound) with
      ⟨e, herror, _⟩ | ⟨looked, r', hlooked, hcapture, hnew, hchanges⟩
    · rw [herror] at hanswer
      cases hanswer
    · rw [hnew] at hanswer
      cases hanswer
      rw [ResultCursor.drain_captured (Connection.rectangular_of_capture hcapture)] at hdrain
      obtain rfl := Except.ok.inj hdrain
      exact Or.inr ⟨looked, hlooked, hcapture, hchanges⟩

/-- An active query that answers leaves behind an entry that can be read as the answer in its
stored form. -/
theorem hasResult_of_answer (hactive : c.connection.active = true)
    (hkeeps : h.Keeps shelf c.store) {cursor : ResultCursor}
    (hanswer : (c.query q parameters h).1 = .ok cursor) (hdrain : cursor.drain = .ok r)
    (hstorable : r.Storable) :
    (c.query q parameters h).2.HasResult shelf (Key.ofQuery q.text parameters) r.stored ∧
      ∀ store, h.Keeps shelf store → (c.query q parameters h).2.Keeps shelf store := by
  rcases answer_cases hactive hkeeps hanswer hdrain with
    ⟨hhas, hleaves⟩ | ⟨looked, _, hcapture, hchanges⟩
  · rw [ResultSet.stored_eq_self_iff.mpr hhas.numbered]
    exact ⟨hhas.of_entry_eq (hleaves.entry _), hleaves.keeps⟩
  · have hentry : (c.query q parameters h).2.entryAt shelf (Key.ofQuery q.text parameters) =
        some (Entry.encodeResult r) := by
      rw [hchanges.entry, if_pos rfl]
    have hdecode := Entry.decodeResult_encodeResult
      (Connection.rectangular_of_capture hcapture) hstorable
    exact ⟨⟨Entry.encodeResult r, hentry, hdecode⟩, hchanges.keeps⟩

/-- An answer that comes from a database of tables is already in stored form. -/
theorem numbered_of_answer (hactive : c.connection.active = true)
    (hkeeps : h.Keeps shelf c.store) {cursor : ResultCursor} {b : Backend} {database : Nat}
    {location : String} (hbackend : h.backends[c.backend]? = some b)
    (hengine : b.engine = .tables database location)
    (hanswer : (c.query q parameters h).1 = .ok cursor) (hdrain : cursor.drain = .ok r) :
    r.Numbered := by
  rcases answer_cases hactive hkeeps hanswer hdrain with
    ⟨hhas, _⟩ | ⟨looked, hlooked, hcapture, _⟩
  · exact hhas.numbered
  · have hsame : looked.backends[c.backend]? = some b := by
      rw [hlooked.backends_eq, hbackend]
    exact numbered_of_capture hsame hengine hcapture

/-! ## All later answers -/

/-- Once a query has been answered on a shelf, with a result that fits the stored form, every
connection on the shelf gives the same rows with the columns in stored form, whatever has happened
since to connections, databases and other entries.  Only the log is told; the database is not asked,
and the store is not written.  If the columns were in stored form, as those of a database of tables
are, they are the same too. -/
theorem replay_stable {cursor : ResultCursor} (hactive : c.connection.active = true)
    (hkeeps : h.Keeps shelf c.store) (hanswer : (c.query q parameters h).1 = .ok cursor)
    (hdrain : cursor.drain = .ok r) (hstorable : r.Storable) {steps : List Step}
    (hsteps : ∀ step ∈ steps, step.Spares shelf (Key.ofQuery q.text parameters) h)
    {c' : OpenConnection} {q' : Statement} (hactive' : c'.connection.active = true)
    (hkeeps' : h.Keeps shelf c'.store) (htext : q'.text = q.text) :
    let later := Step.runAll (c.query q parameters h).2 steps
    (c'.query q' parameters later).1 = .ok (.captured (.start r.stored)) ∧
      (ResultCursor.captured (.start r.stored)).drain = .ok r.stored ∧
        (c'.query q' parameters later).2 =
          replayed (Key.ofQuery q.text parameters) parameters.length r.rows.length later ∧
          (r.Numbered → r.stored = r) ∧
            ∀ b database location, h.backends[c.backend]? = some b →
              b.engine = .tables database location → r.stored = r := by
  intro later
  obtain ⟨hhas, hkept⟩ := hasResult_of_answer hactive hkeeps hanswer hdrain hstorable
  have hrun : Host.LeavesEntry shelf (Key.ofQuery q.text parameters)
      (c.query q parameters h).2 later :=
    Step.runAll_leavesEntry (fun step hstep => (hsteps step hstep).of_keeps hkept) hhas
  have hlater := hhas.of_entry_eq hrun.entry
  have hlater' : later.HasResult shelf (Key.ofQuery q'.text parameters) r.stored := htext ▸ hlater
  have hquery := query_of_hasResult hactive' (hrun.keeps _ (hkept _ hkeeps')) hlater'
  refine ⟨by rw [hquery], ResultCursor.drain_captured hlater.rectangular, ?_,
    ResultSet.stored_eq_self_iff.mpr, fun b database location hbackend hengine => ?_⟩
  · rw [hquery, htext]
    rfl
  · exact ResultSet.stored_eq_self_iff.mpr
      (numbered_of_answer hactive hkeeps hbackend hengine hanswer hdrain)

/-- A host with one store in memory and one scripted database. -/
def scriptedHost : Host :=
  { Host.withFiles [] with
    memory := ⟨[⟨"shared", []⟩], [("shared", 0)]⟩
    backends := [.opened (.scripted
      ⟨[⟨"SELECT n", none, .rows [⟨"n", "n", 5, .integer, "INT", .unknown, 0, 0⟩]
        [.ok [.ok (.int32 7)]]⟩], []⟩)] }

/-- An answer outlives the database that gave it, also for a connection of another policy. -/
theorem scriptedHost_replays :
    let first : OpenConnection := ⟨⟨true, .fail⟩, .memory "shared", .memory 0 "shared", 0⟩
    let second : OpenConnection := ⟨⟨true, .degrade⟩, .memory "shared", .memory 0 "shared", 1⟩
    let later := Step.runAll (first.query ⟨"SELECT n", none⟩ [] scriptedHost).2
      [.disturb [] [] [], .query second ⟨"SELECT m", none⟩ []]
    (second.query ⟨"SELECT n", none⟩ [] later).1 = .ok (.captured (.start
      ⟨[⟨"n", "n", 1, .integer, "INT", .unknown, 0, 0⟩], [[.int32 7]]⟩)) := by
  intro first second later
  have hkeeps (c : OpenConnection) (hc : c.store = .memory 0 "shared") :
      scriptedHost.Keeps (.memory 0) c.store := by
    rw [hc]
    exact Host.keeps_memory_iff.mpr ⟨rfl, Nat.one_pos⟩
  have hsteps : ∀ step ∈ [Step.disturb [] [] [], .query second ⟨"SELECT m", none⟩ []],
      step.Spares (.memory 0) (Key.ofQuery "SELECT n" []) scriptedHost := by
    intro step hstep
    rcases List.mem_cons.mp hstep with rfl | hstep
    · trivial
    · rw [List.mem_singleton.mp hstep]
      exact hkeeps second rfl
  let r : ResultSet :=
    ⟨[⟨"n", "n", 5, .integer, "INT", .unknown, 0, 0⟩], [[.int32 7]]⟩
  have hstable := @replay_stable (.memory 0) first scriptedHost ⟨"SELECT n", none⟩ [] r
    (.captured (.start r)) rfl (hkeeps first rfl) rfl rfl (by decide) _ hsteps
    second ⟨"SELECT n", none⟩ rfl (hkeeps second rfl) rfl
  exact hstable.1

end OpenConnection

/-! ## An answer that is not given again -/

/-- A connection of the scripted host, by its policy. -/
def sharing (policy : StorePolicy) : OpenConnection :=
  ⟨⟨true, policy⟩, .memory "shared", .memory 0 "shared", 0⟩

def selectN : Statement :=
  ⟨"SELECT n", none⟩

/-- The scripted host with another database, which gives a time in an odd leap second. -/
def oddSecondHost : Host :=
  { OpenConnection.scriptedHost with
    backends := [.opened (.scripted ⟨[⟨selectN.text, none,
      .rows Entry.oddSecond.columns [.ok [.ok (.time ⟨5, 1500000000⟩)]]⟩], []⟩)] }

theorem keeps_oddSecondHost : oddSecondHost.Keeps (.memory 0) (sharing .fail).store :=
  Host.keeps_memory_iff.mpr ⟨rfl, Nat.one_pos⟩

theorem query_oddSecondHost :
    ((sharing .fail).query selectN [] oddSecondHost).1 =
      .ok (.captured (.start Entry.oddSecond)) :=
  rfl

theorem entryAt_query_oddSecondHost :
    ((sharing .fail).query selectN [] oddSecondHost).2.entryAt (.memory 0)
      (Key.ofQuery selectN.text []) = some (Entry.encodeResult Entry.oddSecond) := by
  have hnone (r : ResultSet) :
      ¬oddSecondHost.HasResult (.memory 0) (Key.ofQuery selectN.text []) r := by
    rintro ⟨b, hentry, -⟩
    cases hentry
  exact OpenConnection.entryAt_of_answer rfl keeps_oddSecondHost hnone query_oddSecondHost

theorem keeps_query_oddSecondHost :
    ((sharing .fail).query selectN [] oddSecondHost).2.Keeps (.memory 0) (sharing .fail).store :=
  OpenConnection.keeps_query rfl keeps_oddSecondHost selectN [] keeps_oddSecondHost

/-- An answer that is written without loss need not be given twice: the query that is asked again
fails with the defect of the entry that it has left behind itself. -/
theorem oddSecondHost_not_replayed :
    let c := sharing .fail
    let cursor : ResultCursor := .captured (.start Entry.oddSecond)
    let later := Step.runAll (c.query selectN [] oddSecondHost).2 []
    oddSecondHost.Keeps (.memory 0) c.store ∧
      (c.query selectN [] oddSecondHost).1 = .ok cursor ∧
        cursor.drain = .ok Entry.oddSecond ∧ Entry.oddSecond.Writable ∧
          (c.query selectN [] later).1 = .error (.corrupt .timeOutOfRange) ∧
            ¬∀ (shelf : Shelf) (c : OpenConnection) (h : Host) (q : Statement)
              (parameters : List Value) (cursor : ResultCursor) (r : ResultSet),
              c.connection.active = true → h.Keeps shelf c.store →
              (c.query q parameters h).1 = .ok cursor → cursor.drain = .ok r → r.Writable →
                (c.query q parameters (c.query q parameters h).2).1 =
                  .ok (.captured (.start r.stored)) := by
  intro c cursor later
  have hagain : (c.query selectN [] later).1 = .error (.corrupt .timeOutOfRange) :=
    OpenConnection.query_of_broken rfl rfl keeps_query_oddSecondHost entryAt_query_oddSecondHost
      Entry.decodeResult_encodeResult_oddSecond
  refine ⟨keeps_oddSecondHost, query_oddSecondHost, rfl, Entry.writable_oddSecond, hagain, ?_⟩
  intro hall
  have hstable := hall _ c oddSecondHost selectN [] cursor _ rfl keeps_oddSecondHost
    query_oddSecondHost rfl Entry.writable_oddSecond
  cases hagain.symm.trans hstable

end QueryReplay
