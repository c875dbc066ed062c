import QueryReplay.Proofs.Entry.Results

/-!
# Stored results come back

A result that is written in the counted form is read back as the same result
in its stored form, if its numbers fit the places they are written in and its
times can be read.  Not every time that is written can be: one in a leap second
behind a second other than 59 is out of range for the reader.  So the unrestricted
statement that whatever is written is read back is false.  Below it is stated for
results that are `Storable`, and the grammar leaves such times out.
-/

namespace QueryReplay

/-- A result that is written without loss: its counts and lengths fit the bytes they stand in, and
its values can be held. -/
structure ResultSet.Writable (r : ResultSet) : Prop where
  columns_lt : r.columns.length < 2 ^ 32
  rows_lt : r.rows.length < Entry.streamedRowCount
  sized : r.Sized
  held : ∀ row ∈ r.rows, ∀ v ∈ row, v.Held

/-- A result that fits the stored form: its counts and lengths fit the bytes they stand in, and
its decimals, dates and times are in range.  Of those that are written without loss, it leaves out
the ones with a leap second behind a second other than 59. -/
structure ResultSet.Storable (r : ResultSet) : Prop where
  columns_lt : r.columns.length < 2 ^ 32
  rows_lt : r.rows.length < Entry.streamedRowCount
  sized : r.Sized
  wellFormed : ∀ row ∈ r.rows, ∀ v ∈ row, v.WellFormed

instance (r : ResultSet) : Decidable r.Storable :=
  decidable_of_iff (r.columns.length < 2 ^ 32 ∧ r.rows.length < Entry.streamedRowCount ∧
      r.Sized ∧ ∀ row ∈ r.rows, ∀ v ∈ row, v.WellFormed)
    ⟨fun ⟨hcolumns, hrows, hsized, hformed⟩ => ⟨hcolumns, hrows, hsized, hformed⟩,
      fun ⟨hcolumns, hrows, hsized, hformed⟩ => ⟨hcolumns, hrows, hsized, hformed⟩⟩

namespace Entry

/-! ## What is written -/

/-- The header and the rows in either form spell the result as it is stored. -/
theorem spelling_stored {r : ResultSet} (hrect : r.Rectangular) (h : r.Storable)
    {rest : List UInt8} (hrows : CountedRows r.rows rest ∨ StreamedRows r.rows rest) :
    Spelling r.stored (putHeader r.columns ++ rest) := by
  refine ⟨r.numbered_stored, ResultSet.rectangular_stored.mpr hrect, ?_, rest, ?_, hrows⟩
  · simpa [ResultSet.stored] using h.columns_lt
  · rw [ResultSet.putHeader_stored]

/-- Bytes that spell a result in either form are read as the result in its stored form. -/
theorem decodeResult_putHeader {r : ResultSet} (hrect : r.Rectangular) (h : r.Storable)
    {rest : List UInt8} (hrows : CountedRows r.rows rest ∨ StreamedRows r.rows rest) :
    decodeResult (putHeader r.columns ++ rest) = .ok r.stored :=
  decodeResult_eq_ok_iff_spelling.mpr
    ⟨spelling_stored hrect h hrows, ResultSet.sized_stored.mpr h.sized⟩

theorem decodeResult_encodeResult {r : ResultSet} (hrect : r.Rectangular) (h : r.Storable) :
    decodeResult (encodeResult r) = .ok r.stored := by
  have hbody : Series RowSpelling r.rows (r.rows.flatMap putRow) :=
    Series.flatMap fun row hrow => rowSpelling_putRow (h.wellFormed row hrow)
  rw [encodeResult, List.append_assoc]
  exact decodeResult_putHeader hrect h (Or.inl ⟨h.rows_lt, _, hbody, rfl⟩)

/-- A result made of columns and rows is read back from its bytes in stored form, with nothing
changed but the places of the columns and the digits of those that are not decimals.  So it comes
back as it is exactly if its columns are counted from one and only decimals have digits. -/
theorem encodeResult_round_trip {columns : List Column} {rows : List Row} {r : ResultSet}
    (hr : ResultSet.ofRows columns rows = .ok r) (h : r.Storable) :
    decodeResult (encodeResult r) = .ok r.stored ∧
      (decodeResult (encodeResult r) = .ok r ↔ r.Numbered) := by
  obtain ⟨_, hrect⟩ := ResultSet.ofRows_eq_ok_iff.mp hr
  have hback := decodeResult_encodeResult hrect h
  refine ⟨hback, ?_⟩
  rw [hback, ← ResultSet.stored_eq_self_iff]
  exact ⟨fun heq => Except.ok.inj heq, congrArg Except.ok⟩

/-- Two columns with the places they had before a join, and times up to a leap second. -/
def joinedTotals : ResultSet :=
  ⟨[⟨"price", "total", 4, .decimal, "DECIMAL(10,2)", .nullable, 10, 2⟩,
    ⟨"at", "at", 2, .timestamp, "TIMESTAMP", .noNulls, 6, 3⟩],
    [[.decimal ⟨-12850, 2⟩, .timestamp ⟨⟨736329⟩, ⟨86399, 1500000000⟩⟩],
      [.null, .timestamp ⟨⟨-15979⟩, ⟨0, 0⟩⟩]]⟩

theorem joinedTotals_round_trip :
    joinedTotals.Storable ∧
      decodeResult (encodeResult joinedTotals) = .ok joinedTotals.stored ∧
        decodeResult (encodeResult joinedTotals) ≠ .ok joinedTotals := by
  have hround := encodeResult_round_trip
    (show ResultSet.ofRows joinedTotals.columns joinedTotals.rows = .ok joinedTotals by decide)
    (show joinedTotals.Storable by decide)
  exact ⟨by decide, hround.1, fun hsame => absurd (hround.2.mp hsame) (by decide)⟩

/-! ## Everything that is accepted -/

/-- A byte string is accepted exactly if it stands for a result by the grammar, and then as that
result.  Every other byte string is refused as broken. -/
theorem decodeResult_accepts_exactly {b : List UInt8} (hb : b.length < 2 ^ 64) :
    (∀ r, decodeResult b = .ok r ↔ Spelling r b) ∧
      ((∀ r, ¬Spelling r b) → ∃ defect, decodeResult b = .error defect) := by
  have hexact (r : ResultSet) : decodeResult b = .ok r ↔ Spelling r b := by
    rw [decodeResult_eq_ok_iff_spelling]
    exact ⟨And.left, fun h => ⟨h, h.sized hb⟩⟩
  refine ⟨hexact, fun hnone => ?_⟩
  cases hdecode : decodeResult b with
  | ok r => exact absurd ((hexact r).mp hdecode) (hnone r)
  | error defect => exact ⟨defect, rfl⟩

/-- A stream of one row, whose decimal has one digit byte more than it needs. -/
def paddedStream : List UInt8 :=
  putHeader [⟨"n", "n", 1, .decimal, "D", .noNulls, 9, 2⟩] ++ List.replicate 8 0xFF ++
    [1, 0, 5, 0, 0, 0, 2, 2, 0, 5] ++ [0]

theorem paddedStream_accepted :
    paddedStream.length < 2 ^ 64 ∧
      Spelling ⟨[⟨"n", "n", 1, .decimal, "D", .noNulls, 9, 2⟩], [[.decimal ⟨5, 2⟩]]⟩
        paddedStream ∧
          ∃ defect, decodeResult (paddedStream ++ [0]) = .error defect := by
  have hpadded := (decodeResult_accepts_exactly (show paddedStream.length < 2 ^ 64 by decide)).1
  have hlonger :=
    decodeResult_accepts_exactly (show (paddedStream ++ [0]).length < 2 ^ 64 by decide)
  refine ⟨by decide, (hpadded _).mp (by decide +kernel), hlonger.2 fun r hr => ?_⟩
  have hrefused : decodeResult (paddedStream ++ [0]) = .error (.trailingBytes 1) := by
    decide +kernel
  rw [(hlonger.1 r).mpr hr] at hrefused
  cases hrefused

/-- A result whose only value is a time in a leap second behind a second 5. -/
def oddSecond : ResultSet :=
  ⟨[⟨"v", "v", 1, .unknown, "", .unknown, 0, 0⟩], [[.time ⟨5, 1500000000⟩]]⟩

theorem writable_oddSecond : oddSecond.Writable := by
  refine ⟨by decide, by decide, by decide, fun row hrow v hv => ?_⟩
  obtain rfl := List.mem_singleton.mp hrow
  obtain rfl := List.mem_singleton.mp hv
  exact ⟨by decide, by decide⟩

theorem decodeResult_encodeResult_oddSecond :
    decodeResult (encodeResult oddSecond) = .error .timeOutOfRange := by
  decide +kernel

/-- Not all bytes that are written are accepted.  The counted form of this result is as the writer
makes it, and only the range of times that the reader knows is against it. -/
theorem oddSecond_refused :
    oddSecond.Numbered ∧ oddSecond.Rectangular ∧ oddSecond.Writable ∧
      (encodeResult oddSecond).length < 2 ^ 64 ∧
        encodeResult oddSecond = putHeader oddSecond.columns ++
          (BigEndian.encode 8 1 ++ putRow [.time ⟨5, 1500000000⟩]) ∧
          decodeResult (encodeResult oddSecond) = .error .timeOutOfRange ∧
            ¬∀ r : ResultSet, r.Numbered → r.Rectangular → r.Writable →
              decodeResult (encodeResult r) = .ok r := by
  refine ⟨by decide, by decide, writable_oddSecond, by decide +kernel, by decide +kernel,
    decodeResult_encodeResult_oddSecond, ?_⟩
  intro hall
  have hread := hall oddSecond (by decide) (by decide) writable_oddSecond
  rw [decodeResult_encodeResult_oddSecond] at hread
  cases hread

end Entry

end QueryReplay
