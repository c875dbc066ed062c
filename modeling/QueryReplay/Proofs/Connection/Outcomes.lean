import QueryReplay.Host.Connections
import QueryReplay.Proofs.Backend.Columns
import QueryReplay.Proofs.Connection.Parts
import QueryReplay.Proofs.Entry.RoundTrip
import QueryReplay.Proofs.Host.Shelves

/-!
# What a query can do

On a shelf that is read and written without failure, an active query does one
of three things.  It answers from an entry that can be read; or it fails and
leaves the shelf alone; or it answers with what it has captured and keeps that
under its own key, where no entry could be read before.
-/

namespace QueryReplay

variable {shelf : Shelf} {c : OpenConnection} {h : Host}

namespace Host

/-- The entry under a key of a shelf can be read, and is that result. -/
def HasResult (shelf : Shelf) (k : Key) (r : ResultSet) (h : Host) : Prop :=
  ∃ b, h.entryAt shelf k = some b ∧ Entry.decodeResult b = .ok r

theorem HasResult.of_entry_eq {h h' : Host} {k : Key} {r : ResultSet}
    (hhas : h.HasResult shelf k r) (hentry : h'.entryAt shelf k = h.entryAt shelf k) :
    h'.HasResult shelf k r := by
  obtain ⟨b, hfound, hdecode⟩ := hhas
  exact ⟨b, hentry.trans hfound, hdecode⟩

/-- Whatever can be read is spelled by some bytes. -/
theorem HasResult.spelling {k : Key} {r : ResultSet} (hhas : h.HasResult shelf k r) :
    ∃ b, Entry.Spelling r b := by
  obtain ⟨b, _, hdecode⟩ := hhas
  exact ⟨b, (Entry.decodeResult_eq_ok_iff_spelling.mp hdecode).1⟩

theorem HasResult.numbered {k : Key} {r : ResultSet} (hhas : h.HasResult shelf k r) :
    r.Numbered := by
  obtain ⟨b, hspelling⟩ := hhas.spelling
  exact hspelling.numbered

theorem HasResult.rectangular {k : Key} {r : ResultSet} (hhas : h.HasResult shelf k r) :
    r.Rectangular := by
  obtain ⟨b, hspelling⟩ := hhas.spelling
  exact hspelling.rectangular

/-! ## What leaves shelves alone -/

/-- Another host that differs only in what has been told to the log. -/
def OnlyLogs (h h' : Host) : Prop :=
  h' = { h with events := h'.events }

theorem onlyLogs_log (e : Log.Event) (h : Host) : h.OnlyLogs (h.log e) :=
  rfl

theorem OnlyLogs.trans {h h' h'' : Host} (hfirst : h.OnlyLogs h') (hnext : h'.OnlyLogs h'') :
    h.OnlyLogs h'' := by
  unfold OnlyLogs at *
  rw [hnext, hfirst]

theorem OnlyLogs.leaves {h h' : Host} (honly : h.OnlyLogs h') (shelf : Shelf) :
    Leaves shelf h h' := by
  rw [honly]
  exact Leaves.of_eq rfl rfl rfl

theorem OnlyLogs.backends_eq {h h' : Host} (honly : h.OnlyLogs h') : h'.backends = h.backends := by
  rw [honly]

/-- Another host with the same stores. -/
structure SameStores (h h' : Host) : Prop where
  files : h'.files = h.files
  memory : h'.memory = h.memory
  unreliable : h'.unreliable = h.unreliable

theorem SameStores.leaves {h h' : Host} (hsame : SameStores h h') (shelf : Shelf) :
    Leaves shelf h h' :=
  Leaves.of_eq hsame.files hsame.memory hsame.unreliable

theorem sameStores_ask {α : Type} (b : Backend) (ofScript : Script → Except BackendFault α)
    (ofDatabase : Database → Except BackendFault α × Database) (h : Host) :
    SameStores h (ask b ofScript ofDatabase h).2 := by
  unfold ask
  split
  · exact ⟨rfl, rfl, rfl⟩
  · split
    · exact ⟨rfl, rfl, rfl⟩
    · exact ⟨rfl, rfl, rfl⟩

theorem sameStores_askRows (id : Nat) (q : Statement) (parameters : List Value) (h : Host) :
    SameStores h (askRows id q parameters h).2 := by
  unfold askRows
  split
  · exact ⟨rfl, rfl, rfl⟩
  · next b _ =>
    have hask := sameStores_ask b (·.query q.text parameters) (·.answer q parameters)
      (h.setBackend id { b with queries := b.queries + 1 })
    exact ⟨hask.files, hask.memory, hask.unreliable⟩

theorem sameStores_askCount (id : Nat) (q : Statement) (parameters : List Value) (h : Host) :
    SameStores h (askCount id q parameters h).2 := by
  unfold askCount
  split
  · exact ⟨rfl, rfl, rfl⟩
  · next b _ =>
    have hask := sameStores_ask b (·.execute q.text parameters) (·.apply q parameters)
      (h.setBackend id { b with updates := b.updates + 1 })
    exact ⟨hask.files, hask.memory, hask.unreliable⟩

theorem leaves_askRows (shelf : Shelf) (id : Nat) (q : Statement) (parameters : List Value)
    (h : Host) : Leaves shelf h (askRows id q parameters h).2 :=
  (sameStores_askRows id q parameters h).leaves shelf

theorem leaves_askCount (shelf : Shelf) (id : Nat) (q : Statement) (parameters : List Value)
    (h : Host) : Leaves shelf h (askCount id q parameters h).2 :=
  (sameStores_askCount id q parameters h).leaves shelf

end Host

namespace OpenConnection

/-! ## The parts of a query -/

theorem onlyLogs_tolerate (c : OpenConnection) (trouble : Log.Trouble) (k : Key) (e : Error)
    (h : Host) : h.OnlyLogs (c.connection.tolerate c.environment trouble k e h).2 := by
  cases hpolicy : c.connection.onStoreError with
  | fail =>
      rw [Connection.tolerate_of_fail hpolicy]
      rfl
  | degrade =>
      rw [Connection.tolerate_of_degrade hpolicy]
      rfl

/-- An entry that can be read is found, and nothing else happens. -/
theorem lookup_of_hasResult (hkeeps : h.Keeps shelf c.store) {k : Key} {r : ResultSet}
    (hhas : h.HasResult shelf k r) :
    c.connection.lookup c.environment k h = (.ok (some r), h) := by
  obtain ⟨b, hentry, hdecode⟩ := hhas
  have hget : c.environment.get k h = (.ok (some b), h) := by
    rw [← hentry]
    exact hkeeps.getEntry_eq k
  exact Connection.lookup_of_entry hget hdecode

/-- Without an entry that can be read nothing is found, and only the log is told. -/
theorem lookup_of_not_hasResult (hkeeps : h.Keeps shelf c.store) {k : Key}
    (hnone : ∀ r, ¬h.HasResult shelf k r) :
    h.OnlyLogs (c.connection.lookup c.environment k h).2 ∧
      ((c.connection.lookup c.environment k h).1 = .ok none ∨
        ∃ e, (c.connection.lookup c.environment k h).1 = .error e) := by
  have hget : c.environment.get k h = (.ok (h.entryAt shelf k), h) := hkeeps.getEntry_eq k
  rcases Connection.found_cases (c.environment.get k h).1 with
    hnothing | ⟨r, b, hfound, hdecode⟩ | ⟨e, hobstacle⟩
  · rw [Connection.lookup_of_nothing hnothing, hget]
    exact ⟨rfl, Or.inl rfl⟩
  · rw [hget] at hfound
    exact absurd ⟨b, Except.ok.inj hfound, hdecode⟩ (hnone r)
  · rw [Connection.lookup_of_obstacle hobstacle, hget]
    refine ⟨onlyLogs_tolerate c _ k e h, ?_⟩
    cases (c.connection.tolerate c.environment _ k e h).1 with
    | ok _ => exact Or.inl rfl
    | error e => exact Or.inr ⟨e, rfl⟩

theorem leaves_capture (shelf : Shelf) (c : OpenConnection) (q : Statement)
    (parameters : List Value) (h : Host) :
    Host.Leaves shelf h (Connection.capture c.environment q parameters h).2 := by
  rw [Connection.capture_snd]
  exact Host.leaves_askRows shelf c.backend q parameters h

/-- What is captured from a database of tables has columns as they are stored. -/
theorem numbered_of_capture {q : Statement} {parameters : List Value} {r : ResultSet}
    {b : Backend} {database : Nat} {location : String}
    (hbackend : h.backends[c.backend]? = some b) (hengine : b.engine = .tables database location)
    (hcapture : (Connection.capture c.environment q parameters h).1 = .ok r) : r.Numbered := by
  obtain ⟨live, hlive, hr⟩ := Connection.exists_of_capture hcapture
  have hcolumns := Host.storedColumns_of_askRows hbackend hengine hlive
  rw [← ResultCursor.columns_of_capture hr] at hcolumns
  exact ResultSet.storedColumns_eq_self_iff.mp hcolumns

/-- What is captured is kept under its key, and nothing else on the shelf changes. -/
theorem keep_changes (hkeeps : h.Keeps shelf c.store) (k : Key) (r : ResultSet) :
    (c.connection.keep c.environment k r h).1 = .ok () ∧
      Host.Changes shelf k (some (Entry.encodeResult r)) h
        (c.connection.keep c.environment k r h).2 := by
  have hput : c.environment.put k (Entry.encodeResult r) h =
      (.ok (), (Host.putEntry c.store k (Entry.encodeResult r) h).2) :=
    Prod.ext (hkeeps.puts k _) rfl
  rw [Connection.keep_of_put_ok hput]
  exact ⟨rfl, (hkeeps.putEntry_changes k _).trans_leaves ((Host.onlyLogs_log _ _).leaves shelf)⟩

/-! ## The whole query -/

/-- The log entries that tell of an answer from the store, and nothing else. -/
def replayed (k : Key) (parameters rows : Nat) (h : Host) : Host :=
  (h.log (.keyDerived k parameters)).log (.replayed k rows)

theorem onlyLogs_replayed (k : Key) (parameters rows : Nat) (h : Host) :
    h.OnlyLogs (replayed k parameters rows h) :=
  rfl

theorem query_of_active (hactive : c.connection.active = true) (q : Statement)
    (parameters : List Value) (h : Host) :
    c.query q parameters h =
      (((c.connection.replay c.environment q parameters h).1.map fun r => .captured (.start r)),
        (c.connection.replay c.environment q parameters h).2) :=
  Connection.query_of_active hactive c.environment q parameters h

/-- An entry that can be read is the answer.  The database is not asked, and the store is not
written. -/
theorem query_of_hasResult (hactive : c.connection.active = true)
    (hkeeps : h.Keeps shelf c.store) {q : Statement} {parameters : List Value} {r : ResultSet}
    (hhas : h.HasResult shelf (Key.ofQuery q.text parameters) r) :
    c.query q parameters h = (.ok (.captured (.start r)),
      replayed (Key.ofQuery q.text parameters) parameters.length r.rows.length h) := by
  have hleaves : Host.Leaves shelf h (Connection.derived c.environment q parameters h) :=
    (Host.onlyLogs_log _ h).leaves shelf
  have hlookup := lookup_of_hasResult (hleaves.keeps _ hkeeps)
    (hhas.of_entry_eq (hleaves.entry _))
  rw [query_of_active hactive, Connection.replay_of_found hlookup]
  rfl

/-- A replay that finds nothing fails and leaves the shelf alone, or gives what it has captured
and keeps it. -/
theorem replay_of_missed (hkeeps : h.Keeps shelf c.store) {q : Statement}
    {parameters : List Value} {looked : Host} (hlooked : h.OnlyLogs looked)
    (hlookup : c.connection.lookup c.environment (Key.ofQuery q.text parameters)
      (Connection.derived c.environment q parameters h) = (.ok none, looked)) :
    (∃ e, (c.connection.replay c.environment q parameters h).1 = .error e ∧
        Host.Leaves shelf h (c.connection.replay c.environment q parameters h).2) ∨
      ∃ r, (Connection.capture c.environment q parameters looked).1 = .ok r ∧
        (c.connection.replay c.environment q parameters h).1 = .ok r ∧
          Host.Changes shelf (Key.ofQuery q.text parameters) (some (Entry.encodeResult r)) h
            (c.connection.replay c.environment q parameters h).2 := by
  have hcaptured := leaves_capture shelf c q parameters looked
  cases hcapture : Connection.capture c.environment q parameters looked with
  | mk outcome captured =>
      rw [hcapture] at hcaptured
      have hleft : Host.Leaves shelf h captured := (hlooked.leaves shelf).trans hcaptured
      cases outcome with
      | error e =>
          rw [Connection.replay_of_capture_error hlookup hcapture]
          exact Or.inl ⟨e, rfl, hleft⟩
      | ok r =>
          obtain ⟨hdone, hchanges⟩ :=
            keep_changes (hleft.keeps _ hkeeps) (Key.ofQuery q.text parameters) r
          cases hkeep : c.connection.keep c.environment (Key.ofQuery q.text parameters) r
              captured with
          | mk done kept =>
              rw [hkeep] at hdone hchanges
              obtain rfl := hdone
              rw [Connection.replay_of_captured hlookup hcapture hkeep]
              exact Or.inr ⟨r, rfl, rfl, hleft.trans_changes hchanges⟩

/-- Without an entry that can be read, an active query fails and leaves the shelf alone, or
answers with what it has captured and keeps it. -/
theorem query_of_not_hasResult (hactive : c.connection.active = true)
    (hkeeps : h.Keeps shelf c.store) {q : Statement} {parameters : List Value}
    (hnone : ∀ r, ¬h.HasResult shelf (Key.ofQuery q.text parameters) r) :
    (∃ e, (c.query q parameters h).1 = .error e ∧
        Host.Leaves shelf h (c.query q parameters h).2) ∨
      ∃ (looked : Host) (r : ResultSet), h.OnlyLogs looked ∧
        (Connection.capture c.environment q parameters looked).1 = .ok r ∧
          (c.query q parameters h).1 = .ok (.captured (.start r)) ∧
            Host.Changes shelf (Key.ofQuery q.text parameters) (some (Entry.encodeResult r)) h
              (c.query q parameters h).2 := by
  rw [query_of_active hactive]
  have hderived : h.OnlyLogs (Connection.derived c.environment q parameters h) :=
    Host.onlyLogs_log _ h
  have hnone' (r : ResultSet) : ¬(Connection.derived c.environment q parameters h).HasResult
      shelf (Key.ofQuery q.text parameters) r :=
    fun hhas => hnone r (hhas.of_entry_eq ((hderived.leaves shelf).entry _).symm)
  obtain ⟨hlogs, houtcome⟩ :=
    lookup_of_not_hasResult ((hderived.leaves shelf).keeps _ hkeeps) hnone'
  cases hlookup : c.connection.lookup c.environment (Key.ofQuery q.text parameters)
      (Connection.derived c.environment q parameters h) with
  | mk found looked =>
      rw [hlookup] at hlogs houtcome
      have hlooked : h.OnlyLogs looked := hderived.trans hlogs
      rcases houtcome with hmissing | ⟨e, herror⟩
      · obtain rfl := hmissing
        rcases replay_of_missed hkeeps hlooked hlookup with
          ⟨e, herror, hleaves⟩ | ⟨r, hcapture, hdone, hchanges⟩
        · exact Or.inl ⟨e, by rw [herror]; rfl, hleaves⟩
        · exact Or.inr ⟨looked, r, hlooked, hcapture, by rw [hdone]; rfl, hchanges⟩
      · obtain rfl := herror
        rw [Connection.replay_of_lookup_error hlookup]
        exact Or.inl ⟨e, rfl, hlooked.leaves shelf⟩

/-- A query that does not tolerate it fails with the defect of its entry. -/
theorem query_of_broken (hactive : c.connection.active = true)
    (hfail : c.connection.onStoreError = .fail) (hkeeps : h.Keeps shelf c.store) {q : Statement}
    {parameters : List Value} {b : List UInt8} {defect : Corruption}
    (hentry : h.entryAt shelf (Key.ofQuery q.text parameters) = some b)
    (hbroken : Entry.decodeResult b = .error defect) :
    (c.query q parameters h).1 = .error (.corrupt defect) := by
  have hleaves : Host.Leaves shelf h (Connection.derived c.environment q parameters h) :=
    (Host.onlyLogs_log _ h).leaves shelf
  have hget : (c.environment.get (Key.ofQuery q.text parameters)
      (Connection.derived c.environment q parameters h)).1 = .ok (some b) := by
    rw [← hentry, ← hleaves.entry]
    exact congrArg Prod.fst ((hleaves.keeps _ hkeeps).getEntry_eq _)
  have hobstacle := Connection.obstacle?_of_broken hbroken
  rw [← hget] at hobstacle
  exact congrArg Prod.fst (Connection.query_of_fail hactive hfail hobstacle)

/-- An answer that is not read from an entry is kept, whether it can be read again or not. -/
theorem entryAt_of_answer (hactive : c.connection.active = true) (hkeeps : h.Keeps shelf c.store)
    {q : Statement} {parameters : List Value} {r : ResultSet}
    (hnone : ∀ r, ¬h.HasResult shelf (Key.ofQuery q.text parameters) r)
    (hanswer : (c.query q parameters h).1 = .ok (.captured (.start r))) :
    (c.query q parameters h).2.entryAt shelf (Key.ofQuery q.text parameters) =
      some (Entry.encodeResult r) := by
  rcases query_of_not_hasResult hactive hkeeps hnone with
    ⟨e, herror, _⟩ | ⟨_, r', _, _, hnew, hchanges⟩
  · rw [herror] at hanswer
    cases hanswer
  · rw [hnew] at hanswer
    cases hanswer
    rw [hchanges.entry, if_pos rfl]

/-- After an active query the stores on the shelf work as before. -/
theorem keeps_query (hactive : c.connection.active = true) (hkeeps : h.Keeps shelf c.store)
    (q : Statement) (parameters : List Value) {store : OpenStore} (hstore : h.Keeps shelf store) :
    (c.query q parameters h).2.Keeps shelf store := by
  by_cases hfound : ∃ r, h.HasResult shelf (Key.ofQuery q.text parameters) r
  · obtain ⟨r, hhas⟩ := hfound
    rw [query_of_hasResult hactive hkeeps hhas]
    exact ((onlyLogs_replayed _ _ _ h).leaves shelf).keeps store hstore
  · rcases query_of_not_hasResult hactive hkeeps (not_exists.mp hfound) with
      ⟨_, _, hleaves⟩ | ⟨_, _, _, _, _, hchanges⟩
    · exact hleaves.keeps store hstore
    · exact hchanges.keeps store hstore

end OpenConnection

end QueryReplay
