import QueryReplay.Proofs.Entry.Rereading

/-!
# Streams hold the same results

A stream takes the rows that are as wide as it has columns and refuses all
others, in whatever order they are offered.  What has been taken is read back
just as if it had been counted first.  Only where there are no columns is there
a difference: the stream takes empty rows, and then cannot be read.
-/

namespace QueryReplay.Entry

open BigEndian Reader

/-! ## Offering rows -/

namespace Stream

/-- The answer to a row, and the stream that is left. -/
def offer (s : Stream) (row : Row) : Except Error Unit × Stream :=
  match s.put row with
  | .ok next => (.ok (), next)
  | .error e => (.error e, s)

/-- The stream that is left when rows are offered one after another. -/
def offerAll (s : Stream) : List Row → Stream
  | [] => s
  | row :: rows => offerAll (s.offer row).2 rows

variable {s : Stream} {row : Row}

theorem offer_of_fits (hwidth : row.length = s.columns) :
    s.offer row = (.ok (), { s with written := s.written ++ putStreamedRow row }) := by
  have hput : s.put row = .ok { s with written := s.written ++ putStreamedRow row } :=
    if_neg (not_not.mpr hwidth)
  unfold offer
  rw [hput]

theorem offer_of_misfits (hwidth : row.length ≠ s.columns) :
    s.offer row = (.error (.corrupt (.rowWidth row.length s.columns)), s) := by
  have hput : s.put row = .error (.corrupt (.rowWidth row.length s.columns)) := if_pos hwidth
  unfold offer
  rw [hput]

/-- A row is refused with nothing written exactly if it has another width. -/
theorem offer_eq_refused_iff :
    s.offer row = (.error (.corrupt (.rowWidth row.length s.columns)), s) ↔
      row.length ≠ s.columns := by
  constructor
  · intro hrefused hwidth
    rw [offer_of_fits hwidth] at hrefused
    cases congrArg Prod.fst hrefused
  · exact offer_of_misfits

/-- Of the rows that are offered those of the right width are written, in order. -/
theorem offerAll_eq (s : Stream) (rows : List Row) :
    s.offerAll rows = { s with
      written := s.written ++
        (rows.filter fun row => row.length = s.columns).flatMap putStreamedRow } := by
  induction rows generalizing s with
  | nil => simp [offerAll]
  | cons row rows ih =>
      by_cases hwidth : row.length = s.columns
      · rw [offerAll, offer_of_fits hwidth, ih]
        simp [hwidth]
      · rw [offerAll, offer_of_misfits hwidth, ih]
        simp [hwidth]

theorem finish_offerAll (columns : List Column) (rows : List Row) :
    ((start columns).offerAll rows).finish =
      encodeStream ⟨columns, rows.filter fun row => row.length = columns.length⟩ := by
  rw [offerAll_eq]
  rfl

end Stream

/-! ## Reading streams -/

/-- A stream is read as the result in its stored form, as a counted result is. -/
theorem decodeResult_encodeStream {r : ResultSet} (hrect : r.Rectangular) (h : r.Storable) :
    decodeResult (encodeStream r) = .ok r.stored := by
  have hbody : Series (fun row b => ∃ x, RowSpelling row x ∧ b = 1 :: x) r.rows
      (r.rows.flatMap putStreamedRow) :=
    Series.flatMap fun row hrow => ⟨putRow row, rowSpelling_putRow (h.wellFormed row hrow), rfl⟩
  have hrows : StreamedRows r.rows
      (encode 8 streamedRowCount ++ r.rows.flatMap putStreamedRow ++ [endMark]) :=
    ⟨_, hbody, rfl⟩
  have hbytes : encodeStream r = putHeader r.columns ++
      (encode 8 streamedRowCount ++ r.rows.flatMap putStreamedRow ++ [endMark]) := by
    simp only [encodeStream, List.append_assoc]
  rw [hbytes]
  exact decodeResult_putHeader hrect h (Or.inr hrows)

/-! ## Streams without columns -/

/-- Without columns, the mark of a row is already too much. -/
theorem run_getRows_zero (offset : Nat) (more : List UInt8) :
    (getRows 0).run ⟨offset, encode 8 streamedRowCount ++ rowMark :: more⟩ =
      .error .rowWithoutColumns := by
  have hcount : (nat 8).run ⟨offset, encode 8 streamedRowCount ++ rowMark :: more⟩ =
      .ok (streamedRowCount, ⟨offset + 8, rowMark :: more⟩) :=
    (exact_nat 8 _ _ _).mpr ⟨_, ⟨rfl, by decide⟩, rfl, rfl⟩
  have hmark : byte.run ⟨offset + 8, rowMark :: more⟩ =
      .ok (rowMark, ⟨offset + 8 + 1, more⟩) :=
    (exact_byte _ _ _).mpr ⟨_, rfl, rfl, rfl⟩
  have hrows : (getStreamedRows 0 [] (more.length + 1)).run ⟨offset + 8, rowMark :: more⟩ =
      .error .rowWithoutColumns := by
    rw [getStreamedRows, run_bind_of_ok hmark, if_pos rfl]
    exact run_bind_of_error (run_getRow_zero _)
  rw [getRows, run_bind_of_ok hcount]
  exact hrows

theorem decodeResult_encodeStream_of_no_columns {rows : List Row} (hrows : rows ≠ []) :
    decodeResult (encodeStream ⟨[], rows⟩) = .error .rowWithoutColumns := by
  obtain ⟨row, rest, rfl⟩ := List.exists_cons_of_ne_nil hrows
  let more := putRow row ++ (rest.flatMap putStreamedRow ++ [endMark])
  have hbytes : encodeStream ⟨[], row :: rest⟩ =
      putHeader [] ++ (encode 8 streamedRowCount ++ rowMark :: more) := by
    simp [encodeStream, putStreamedRow, more]
  have hheader : getHeader.run ⟨0, encodeStream ⟨[], row :: rest⟩⟩ =
      .ok ([], ⟨(putHeader []).length, encode 8 streamedRowCount ++ rowMark :: more⟩) :=
    (exact_getHeader _ _ _).mpr ⟨_, ⟨rfl, by decide, fun c hc => absurd hc List.not_mem_nil, rfl⟩,
      hbytes, (Nat.zero_add _).symm⟩
  have hrun : getResult.run ⟨0, encodeStream ⟨[], row :: rest⟩⟩ = .error .rowWithoutColumns := by
    rw [getResult, run_bind_of_ok hheader]
    exact run_bind_of_error (run_getRows_zero _ more)
  unfold decodeResult
  rw [hrun]
  rfl

/-! ## Any rows in any order -/

/-- However many rows have been offered, the next one is refused with nothing written if it has
another width, and else is written.  If there are columns, what has been taken is read from the
stream just as from the counted form.  It comes back in stored form if it fits that form; if it is
written without loss and still does not fit, both are refused with the same defect.  Without columns
the stream can be read only as long as no row has been taken. -/
theorem stream_agrees_with_counted (columns : List Column) (offered : List Row) :
    let s := (Stream.start columns).offerAll offered
    let r : ResultSet := ⟨columns, offered.filter fun row => row.length = columns.length⟩
    (∀ row : Row,
        (s.offer row = (.error (.corrupt (.rowWidth row.length columns.length)), s) ↔
          row.length ≠ columns.length) ∧
        (row.length = columns.length →
          s.offer row = (.ok (), { s with written := s.written ++ putStreamedRow row }))) ∧
      (columns ≠ [] → ResultSet.ofRows columns r.rows = .ok r ∧
        (r.Writable → decodeResult s.finish = r.reread ∧ decodeResult (encodeResult r) = r.reread ∧
          (r.reread = .ok r.stored ↔ r.Storable)) ∧
        (r.Storable → decodeResult s.finish = .ok r.stored ∧
          decodeResult (encodeResult r) = .ok r.stored)) ∧
        (columns = [] → (r.rows = [] → decodeResult s.finish = .ok ⟨[], []⟩) ∧
          (r.rows ≠ [] → decodeResult s.finish = .error .rowWithoutColumns)) := by
  intro s r
  have hcolumns : s.columns = columns.length := by
    show ((Stream.start columns).offerAll offered).columns = columns.length
    rw [Stream.offerAll_eq]
    rfl
  have hfinish : s.finish = encodeStream r := Stream.finish_offerAll columns offered
  refine ⟨fun row => ?_, fun hwide => ?_, fun hnone => ?_⟩
  · rw [← hcolumns]
    exact ⟨Stream.offer_eq_refused_iff, Stream.offer_of_fits⟩
  · have hrect : r.Rectangular := by
      apply ResultSet.rectangular_iff.mpr
      intro row hrow
      have hwidth := (List.mem_filter.mp hrow).2
      exact ⟨fun hzero => hwide (List.length_eq_zero_iff.mp hzero), of_decide_eq_true hwidth⟩
    rw [hfinish]
    refine ⟨ResultSet.ofRows_eq_ok_iff.mpr ⟨rfl, hrect⟩, fun hwritable => ?_, fun hstorable => ?_⟩
    · exact ⟨decodeResult_encodeStream_of_writable hwritable hrect,
        decodeResult_encodeResult_of_writable hwritable hrect, hwritable.reread_eq_ok_iff⟩
    · exact ⟨decodeResult_encodeStream hrect hstorable, decodeResult_encodeResult hrect hstorable⟩
  · have hr : encodeStream r = encodeStream ⟨[], r.rows⟩ := by rw [← hnone]
    rw [hfinish, hr]
    refine ⟨fun hempty => ?_, decodeResult_encodeStream_of_no_columns⟩
    rw [hempty]
    have hrect : (⟨[], []⟩ : ResultSet).Rectangular := by decide
    have hstorable : (⟨[], []⟩ : ResultSet).Storable := by decide
    exact decodeResult_encodeStream hrect hstorable

/-- Rows as wide as the columns of `joinedTotals`, among rows that are not. -/
def offeredPairs : List Row :=
  [[], [.null, .bool true], [.null], [.bool false, .null, .null], [.int32 7, .null]]

theorem offeredPairs_agree :
    let kept : ResultSet := ⟨joinedTotals.columns, [[.null, .bool true], [.int32 7, .null]]⟩
    kept.Storable ∧
      decodeResult ((Stream.start joinedTotals.columns).offerAll offeredPairs).finish =
        .ok kept.stored ∧
        decodeResult ((Stream.start []).offerAll offeredPairs).finish =
          .error .rowWithoutColumns ∧
          oddSecond.Writable ∧
            decodeResult ((Stream.start oddSecond.columns).offerAll oddSecond.rows).finish =
              oddSecond.reread := by
  intro kept
  have hkept : (offeredPairs.filter fun row => row.length = joinedTotals.columns.length) =
      kept.rows := by decide
  have hempty : (offeredPairs.filter fun row => row.length = ([] : List Column).length) ≠ [] := by
    decide
  have hstorable : kept.Storable := by decide
  have hwide := (stream_agrees_with_counted joinedTotals.columns offeredPairs).2.1
  have hnarrow := (stream_agrees_with_counted [] offeredPairs).2.2
  have hodd := (stream_agrees_with_counted oddSecond.columns oddSecond.rows).2.1
  rw [hkept] at hwide
  exact ⟨hstorable, ((hwide (by decide)).2.2 hstorable).1, (hnarrow rfl).2 hempty,
    writable_oddSecond, ((hodd (by decide)).2.1 writable_oddSecond).1⟩

/-- A stream takes a row with an odd leap second, but what it has written cannot be read then, no
more than the counted form. -/
theorem oddSecond_stream_refused :
    let s := (Stream.start oddSecond.columns).offerAll oddSecond.rows
    (∀ row ∈ oddSecond.rows, ((Stream.start oddSecond.columns).offer row) = (.ok (), s)) ∧
      ResultSet.ofRows oddSecond.columns oddSecond.rows = .ok oddSecond ∧
        decodeResult s.finish = .error .timeOutOfRange ∧
          decodeResult (encodeResult oddSecond) = .error .timeOutOfRange ∧
            ¬∀ (columns : List Column) (offered : List Row), columns ≠ [] →
              let r : ResultSet := ⟨columns, offered.filter fun row => row.length = columns.length⟩
              r.Writable →
                decodeResult ((Stream.start columns).offerAll offered).finish = .ok r.stored := by
  intro s
  have hrefused : decodeResult s.finish = .error .timeOutOfRange := by decide +kernel
  refine ⟨?_, by decide, hrefused, decodeResult_encodeResult_oddSecond, ?_⟩
  · intro row hrow
    obtain rfl := List.mem_singleton.mp hrow
    rfl
  · intro hall
    have hread := hall oddSecond.columns oddSecond.rows (by decide) writable_oddSecond
    rw [hrefused] at hread
    cases hread

end QueryReplay.Entry
