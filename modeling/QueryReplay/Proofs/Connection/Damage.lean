import QueryReplay.Proofs.Connection.Atomicity

/-!
# Entries that are cut off or run on

The bytes of a stored result say themselves where they end, whatever follows.
So of two entries that can be read neither is the beginning of the other.  An
entry that has lost its end, or has got more bytes behind it, is refused as a
whole, and no connection finds a result in it.
-/

namespace QueryReplay

namespace Entry

variable {b : List UInt8} {r : ResultSet}

/-- Bytes behind a stored result are not read, and are its only defect. -/
theorem decodeResult_append (hread : decodeResult b = .ok r) {more : List UInt8}
    (hmore : more ≠ []) : decodeResult (b ++ more) = .error (.trailingBytes more.length) := by
  have hspelled : Spelling r b ∧ r.Sized := decodeResult_eq_ok_iff_spelling.mp hread
  have hrun : getResult.run ⟨0, b ++ more⟩ = .error (.trailingBytes more.length) := by
    rw [getResult_run_append hspelled more]
    exact atEnd_of_rest_ne_nil hmore
  unfold decodeResult
  rw [hrun]
  rfl

/-- The beginning of a stored result is not itself a stored result. -/
theorem decodeResult_of_cut (hread : decodeResult b = .ok r) {cut : List UInt8}
    (hcut : cut <+: b) (hne : cut ≠ b) : ∃ defect, decodeResult cut = .error defect := by
  obtain ⟨lost, rfl⟩ := hcut
  have hlost : lost ≠ [] := by
    intro hnil
    apply hne
    rw [hnil, List.append_nil]
  cases hshort : decodeResult cut with
  | error defect => exact ⟨defect, rfl⟩
  | ok r' =>
      have hlonger := decodeResult_append hshort hlost
      rw [hread] at hlonger
      cases hlonger

end Entry

namespace Connection

variable {σ : Type} {c : Connection} {env : Environment σ} {k : Key} {s : σ} {b : List UInt8}

/-- A lookup that comes to a broken entry fails with its defect, or finds nothing. -/
theorem lookup_of_broken {defect : Corruption} (hget : (env.get k s).1 = .ok (some b))
    (hbroken : Entry.decodeResult b = .error defect) :
    (c.lookup env k s).1 =
      match c.onStoreError with
      | .fail => .error (.corrupt defect)
      | .degrade => .ok none := by
  have hobstacle : obstacle? (env.get k s).1 = some (.corrupt defect) := by
    rw [hget]
    exact obstacle?_of_broken hbroken
  cases hpolicy : c.onStoreError with
  | fail => rw [lookup_of_fail hpolicy hobstacle]
  | degrade =>
      rw [lookup_of_obstacle hobstacle, tolerate_of_degrade hpolicy]
      rfl

/-- Bytes behind an entry that can be read are a defect, and so is each cut through it.  So a
connection whose store gives such an entry fails with the defect or goes on as if there were
none, and in no case finds a result. -/
theorem readable_entries_prefix_free {r : ResultSet} (hread : Entry.decodeResult b = .ok r) :
    (∀ more, more ≠ [] →
        Entry.decodeResult (b ++ more) = .error (.trailingBytes more.length)) ∧
      (∀ cut, cut <+: b → cut ≠ b → ∃ defect, Entry.decodeResult cut = .error defect) ∧
        ∀ damaged, damaged ≠ b → b <+: damaged ∨ damaged <+: b →
          ∃ defect, Entry.decodeResult damaged = .error defect ∧
            ∀ {σ : Type} (c : Connection) (env : Environment σ) (k : Key) (s : σ),
              (env.get k s).1 = .ok (some damaged) →
                (c.lookup env k s).1 =
                  match c.onStoreError with
                  | .fail => .error (.corrupt defect)
                  | .degrade => .ok none := by
  have hlonger (more : List UInt8) (hmore : more ≠ []) :
      Entry.decodeResult (b ++ more) = .error (.trailingBytes more.length) :=
    Entry.decodeResult_append hread hmore
  refine ⟨hlonger, fun cut => Entry.decodeResult_of_cut hread, ?_⟩
  intro damaged hne hdamaged
  have hbroken : ∃ defect, Entry.decodeResult damaged = .error defect := by
    rcases hdamaged with ⟨more, rfl⟩ | hcut
    · have hmore : more ≠ [] := by
        intro hnil
        apply hne
        rw [hnil, List.append_nil]
      exact ⟨_, hlonger more hmore⟩
    · exact Entry.decodeResult_of_cut hread hcut hne
  obtain ⟨defect, hdefect⟩ := hbroken
  refine ⟨defect, hdefect, ?_⟩
  intro σ c env k s hget
  exact lookup_of_broken hget hdefect

/-- The first byte of an entry is no entry, and an entry with a byte behind it is none either. -/
theorem paddedStream_prefix_free :
    Entry.decodeResult (Entry.paddedStream ++ [0]) = .error (.trailingBytes 1) ∧
      (∃ defect, Entry.decodeResult Entry.paddedStream.dropLast = .error defect) ∧
        ∀ k answer, (patient.connection.lookup patient.environment k
          (brokenEntryDerived k answer)).1 = .ok none := by
  have hread : Entry.decodeResult Entry.paddedStream =
      .ok ⟨[⟨"n", "n", 1, .decimal, "D", .noNulls, 9, 2⟩], [[.decimal ⟨5, 2⟩]]⟩ := by
    decide +kernel
  obtain ⟨hlonger, hcut, hlookup⟩ := readable_entries_prefix_free hread
  refine ⟨hlonger [0] (by decide), hcut _ (List.dropLast_prefix _) (by decide), ?_⟩
  intro k answer
  have hfirst : [0x53] <+: Entry.paddedStream := by decide
  obtain ⟨defect, -, hnone⟩ := hlookup [0x53] (by decide) (Or.inr hfirst)
  have hget := congrArg Prod.fst (get_brokenEntryDerived k answer)
  exact hnone patient.connection patient.environment k (brokenEntryDerived k answer) hget

end Connection

end QueryReplay
