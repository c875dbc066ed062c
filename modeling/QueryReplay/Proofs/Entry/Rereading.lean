import QueryReplay.Proofs.Entry.RoundTrip

/-!
# What is read of a written result

The reader knows fewer times than can be held and written.  This file says what
it makes of any result that is written without loss, in either form: the result in
its stored form or, if one of its times is in a leap second behind a second other
than 59, the defect of the first such time.

To see this, a reader is followed along the bytes of something that is written.
Whatever comes behind them, it takes them off the input or stops at the defect
that they carry.  Where readers are put together, the first defect counts.
-/

namespace QueryReplay

/-! ## Times that are not read -/

/-- The defect that a value is refused with when it is read. -/
def Value.refusal? : Value → Option Corruption
  | .timestamp t => if t.WellFormed then none else some .timestampOutOfRange
  | .time t => if t.WellFormed then none else some .timeOutOfRange
  | _ => none

theorem Value.refusal?_eq_none_iff {v : Value} (h : v.Held) :
    v.refusal? = none ↔ v.WellFormed := by
  cases v with
  | timestamp t => simp [refusal?, WellFormed]
  | time t => simp [refusal?, WellFormed]
  | decimal d => exact iff_of_true rfl h
  | date d => exact iff_of_true rfl h
  | _ => exact iff_of_true rfl trivial

namespace ResultSet

variable {r : ResultSet}

/-- The defect of the first value, row by row, that is refused. -/
def refusal? (r : ResultSet) : Option Corruption :=
  r.rows.findSome? fun row => row.findSome? Value.refusal?

/-- What is read once the result has been written. -/
def reread (r : ResultSet) : Except Corruption ResultSet :=
  match r.refusal? with
  | none => .ok r.stored
  | some defect => .error defect

theorem Writable.refusal?_eq_none_iff (h : r.Writable) : r.refusal? = none ↔ r.Storable := by
  have hvalues : r.refusal? = none ↔ ∀ row ∈ r.rows, ∀ v ∈ row, v.WellFormed := by
    simp only [refusal?, List.findSome?_eq_none_iff]
    exact forall₂_congr fun row hrow => forall₂_congr fun v hv =>
      Value.refusal?_eq_none_iff (h.held row hrow v hv)
  rw [hvalues]
  exact ⟨fun hformed => ⟨h.columns_lt, h.rows_lt, h.sized, hformed⟩, Storable.wellFormed⟩

theorem eq_stored_of_reread {r' : ResultSet} (h : r.reread = .ok r') :
    r.refusal? = none ∧ r' = r.stored := by
  unfold reread at h
  split at h
  next hnone => exact ⟨hnone, (Except.ok.inj h).symm⟩
  next => cases h

/-- Of the results that are written without loss, those and only those come back that fit the
stored form. -/
theorem Writable.reread_eq_ok_iff (h : r.Writable) : r.reread = .ok r.stored ↔ r.Storable := by
  rw [← h.refusal?_eq_none_iff]
  constructor
  · exact fun hread => (eq_stored_of_reread hread).1
  · intro hnone
    rw [reread, hnone]

end ResultSet

namespace Entry

open BigEndian Reader

/-! ## Readers on what is written -/

namespace Reader

variable {α β : Type} {p : Reader α} {a : α} {b : List UInt8} {defect? : Option Corruption}

/-- On every input that starts with `b` the reader takes `b` off and gives `a`, unless it stops at
the defect. -/
def Meets (p : Reader α) (b : List UInt8) (a : α) (defect? : Option Corruption) : Prop :=
  ∀ offset rest, p.run ⟨offset, b ++ rest⟩ =
    match defect? with
    | none => .ok (a, ⟨offset + b.length, rest⟩)
    | some defect => .error defect

theorem Exact.meets {R : α → List UInt8 → Prop} (h : Exact p R) (hb : R a b) :
    Meets p b a none :=
  fun _ _ => (h _ _ _).mpr ⟨b, hb, rfl, rfl⟩

theorem meets_pure (a : α) : Meets (pure a) [] a none :=
  (exact_pure a).meets ⟨rfl, rfl⟩

theorem Meets.bind {f : α → Reader β} {c : β} {b' : List UInt8} {defect?' : Option Corruption}
    (hp : Meets p b a defect?) (hf : Meets (f a) b' c defect?') :
    Meets (p >>= f) (b ++ b') c (defect?.or defect?') := by
  intro offset rest
  have hfirst := hp offset (b' ++ rest)
  rw [List.append_assoc]
  cases defect? with
  | none =>
      rw [run_bind_of_ok hfirst, hf, List.length_append, Nat.add_assoc]
      rfl
  | some defect => exact run_bind_of_error hfirst

/-- A reader may be followed by one that takes nothing. -/
theorem Meets.bind_nil {f : α → Reader β} {c : β} (hp : Meets p b a defect?)
    (hf : Meets (f a) [] c none) : Meets (p >>= f) b c defect? := by
  have hread := hp.bind hf
  rwa [List.append_nil, Option.or_none] at hread

/-- A test that does not refuse the input makes no difference. -/
theorem Meets.guard {c : Prop} [Decidable c] {defect : Corruption} {f : Unit → Reader α}
    (hc : ¬c) (h : Meets p b a defect?) :
    Meets (if c then fail defect >>= f else p) b a defect? := by
  rwa [if_neg hc]

theorem findSome?_cons_eq_or {γ : Type} (f : α → Option γ) (a : α) (items : List α) :
    (a :: items).findSome? f = (f a).or (items.findSome? f) := by
  rw [← List.singleton_append, List.findSome?_append, List.findSome?_singleton]

theorem meets_repeatOnto {item : Reader α} {put : α → List UInt8} {defect? : α → Option Corruption}
    {items : List α} (h : ∀ a ∈ items, Meets item (put a) a (defect? a)) (done : List α) :
    Meets (repeatOnto item done items.length) (items.flatMap put) (done.reverse ++ items)
      (items.findSome? defect?) := by
  induction items generalizing done with
  | nil =>
      rw [List.append_nil]
      exact meets_pure done.reverse
  | cons a items ih =>
      obtain ⟨ha, hitems⟩ := List.forall_mem_cons.mp h
      have hrest := ih hitems (a :: done)
      rw [List.reverse_cons, List.append_assoc, List.singleton_append] at hrest
      rw [findSome?_cons_eq_or]
      exact ha.bind hrest

end Reader

/-! ## Values -/

/-- What cannot be put together is refused. -/
theorem Reader.meets_require {α γ : Type} {o : Option γ} (ho : o = none) (defect : Corruption)
    (f : γ → Reader α) (a : α) : Meets (require defect o >>= f) [] a (some defect) := by
  rw [ho]
  exact fun _ _ => rfl

theorem meets_getTimestamp {t : Timestamp} (hdate : t.date.WellFormed) (htime : t.time.Held)
    (hodd : ¬t.time.WellFormed) :
    Meets getTimestamp (encodeSigned 8 t.epochSeconds ++ encode 4 t.time.nanos) (.timestamp t)
      (some .timestampOutOfRange) := by
  have hseconds := Timestamp.fitsSigned_epochSeconds hdate htime
  rw [← List.append_nil (encode 4 t.time.nanos)]
  exact ((exact_int' 8).meets ⟨rfl, hseconds⟩).bind
    (((exact_nat 4).meets ⟨rfl, htime.nanos_lt⟩).bind
      (meets_require (Timestamp.ofEpoch?_eq_none htime hodd) _ _ _))

theorem meets_getTime {t : TimeOfDay} (h : t.Held) (hodd : ¬t.WellFormed) :
    Meets getTime (encode 4 t.seconds ++ encode 4 t.nanos) (.time t) (some .timeOutOfRange) := by
  rw [← List.append_nil (encode 4 t.nanos)]
  exact ((exact_nat 4).meets ⟨rfl, h.seconds_lt⟩).bind
    (((exact_nat 4).meets ⟨rfl, h.nanos_lt⟩).bind
      (meets_require (TimeOfDay.ofParts?_eq_none hodd) _ _ _))

theorem meets_getValue {v : Value} (h : v.Held) (hsized : v.Sized) :
    Meets getValue (putValue v) v v.refusal? := by
  by_cases hformed : v.WellFormed
  · rw [(Value.refusal?_eq_none_iff h).mpr hformed]
    exact exact_getValue.meets ⟨valueSpelling_putValue hformed, hsized⟩
  · cases v with
    | timestamp t =>
        have hodd : ¬t.time.WellFormed := fun htime => hformed ⟨h.1, htime⟩
        have hrefused : (Value.timestamp t).refusal? = some .timestampOutOfRange := if_neg hformed
        rw [hrefused]
        exact (exact_byte.meets rfl).bind (meets_getTimestamp h.1 h.2 hodd)
    | time t =>
        have hrefused : (Value.time t).refusal? = some .timeOutOfRange := if_neg hformed
        rw [hrefused]
        exact (exact_byte.meets rfl).bind (meets_getTime h hformed)
    | decimal d => exact absurd h hformed
    | date d => exact absurd h hformed
    | _ => exact absurd trivial hformed

/-! ## Rows -/

theorem meets_getCells {row : Row} (h : ∀ v ∈ row, v.Held ∧ v.Sized) (done : List Value) :
    Meets (getCells done (row.map Value.isNull)) ((row.filter (!·.isNull)).flatMap putValue)
      (done.reverse ++ row) (row.findSome? Value.refusal?) := by
  induction row generalizing done with
  | nil =>
      rw [List.append_nil]
      exact meets_pure done.reverse
  | cons v row ih =>
      obtain ⟨⟨hheld, hsized⟩, hrow⟩ := List.forall_mem_cons.mp h
      have hrest := ih hrow (v :: done)
      rw [List.reverse_cons, List.append_assoc, List.singleton_append] at hrest
      rw [findSome?_cons_eq_or, List.map_cons]
      cases hnull : v.isNull with
      | true =>
          obtain rfl : v = .null := eq_of_beq hnull
          exact hrest
      | false =>
          rw [List.filter_cons_of_pos (by simp [hnull]), List.flatMap_cons]
          exact (meets_getValue hheld hsized).bind (Meets.guard (by simp [hnull]) hrest)

theorem meets_getRow {columns : Nat} {row : Row} (hcolumns : columns ≠ 0)
    (hwidth : row.length = columns) (h : ∀ v ∈ row, v.Held ∧ v.Sized) :
    Meets (getRow columns) (putRow row) row (row.findSome? Value.refusal?) := by
  obtain ⟨hlength, hstray, hnulls⟩ := nullBits_iff.mpr
    ⟨(List.length_map Value.isNull).trans hwidth, rfl⟩
  have hcells := meets_getCells h []
  rw [← hnulls] at hcells
  exact ((exact_take (bitmapLength columns)).meets ⟨rfl, hlength⟩).bind
    (Meets.guard hstray (hcells.bind_nil (Meets.guard hcolumns (meets_pure row))))

/-- A row takes at least its null bits, whatever its values are. -/
theorem bitmapLength_le_length_putRow (row : Row) :
    bitmapLength row.length ≤ (putRow row).length := by
  rw [putRow, List.length_append, length_packBits, List.length_map]
  exact Nat.le_add_right _ _

theorem meets_getStreamedRows {columns : Nat} {defect? : Row → Option Corruption}
    {rows : List Row} (h : ∀ row ∈ rows, Meets (getRow columns) (putRow row) row (defect? row))
    (done : List Row) {steps : Nat} (hsteps : rows.length < steps) :
    Meets (getStreamedRows columns done steps) (rows.flatMap putStreamedRow ++ [endMark])
      (done.reverse ++ rows) (rows.findSome? defect?) := by
  induction rows generalizing done steps with
  | nil =>
      cases steps with
      | zero => cases hsteps
      | succ steps =>
          rw [List.append_nil]
          exact (exact_byte.meets rfl).bind (meets_pure done.reverse)
  | cons row rows ih =>
      cases steps with
      | zero => cases hsteps
      | succ steps =>
          obtain ⟨hrow, hrows⟩ := List.forall_mem_cons.mp h
          have hrest := ih hrows (row :: done) (Nat.lt_of_succ_lt_succ hsteps)
          rw [List.reverse_cons, List.append_assoc, List.singleton_append] at hrest
          rw [findSome?_cons_eq_or, List.flatMap_cons, List.append_assoc]
          exact (exact_byte.meets rfl).bind (hrow.bind hrest)

/-! ## Results -/

section Result

variable {r : ResultSet}

theorem meets_getRow_of_writable (h : r.Writable) (hrect : r.Rectangular) :
    ∀ row ∈ r.rows, Meets (getRow r.columns.length) (putRow row) row
      (row.findSome? Value.refusal?) := by
  intro row hrow
  obtain ⟨hcolumns, hwidth⟩ := ResultSet.rectangular_iff.mp hrect row hrow
  exact meets_getRow hcolumns hwidth fun v hv =>
    ⟨h.held row hrow v hv, h.sized.2 row hrow v hv⟩

theorem meets_getRows_counted (h : r.Writable) (hrect : r.Rectangular) :
    Meets (getRows r.columns.length) (encode 8 r.rows.length ++ r.rows.flatMap putRow) r.rows
      r.refusal? := by
  have hcount : r.rows.length < 256 ^ 8 := Nat.lt_of_lt_of_le h.rows_lt (by decide)
  -- What is left of the input is compared with the count, so what comes behind the rows matters.
  refine ((exact_nat 8).meets ⟨rfl, hcount⟩).bind fun offset rest => ?_
  have hroom : r.rows.length * bitmapLength r.columns.length ≤ (r.rows.flatMap putRow).length := by
    have hseries := Series.and_iff.mpr
      ⟨Series.eq_iff.mpr (rfl : r.rows.flatMap putRow = _), hrect.1⟩
    apply hseries.length_mul_le
    rintro row _ ⟨rfl, hwidth⟩
    rw [← hwidth]
    exact bitmapLength_le_length_putRow row
  have hfits : ¬(r.rows.flatMap putRow ++ rest).length <
      r.rows.length * bitmapLength r.columns.length := by
    rw [List.length_append]
    omega
  show (if r.rows.length = streamedRowCount then _ else _ : Reader (List Row)).run
    ⟨offset, r.rows.flatMap putRow ++ rest⟩ = _
  rw [if_neg h.rows_lt.ne]
  exact Meets.guard hfits (meets_repeatOnto (meets_getRow_of_writable h hrect) []) offset rest

theorem meets_getRows_streamed (h : r.Writable) (hrect : r.Rectangular) :
    Meets (getRows r.columns.length)
      (encode 8 streamedRowCount ++ (r.rows.flatMap putStreamedRow ++ [endMark])) r.rows
      r.refusal? := by
  refine ((exact_nat 8).meets ⟨rfl, by decide⟩).bind fun offset rest => ?_
  let input := r.rows.flatMap putStreamedRow ++ [endMark] ++ rest
  -- The bytes that are left bound the steps, and each row has its mark.
  have hsteps : r.rows.length < input.length := by
    have hmarks : r.rows.length ≤ (r.rows.flatMap putStreamedRow).length := by
      have hseries := Series.eq_iff.mpr (rfl : r.rows.flatMap putStreamedRow = _)
      rw [← Nat.mul_one r.rows.length]
      apply hseries.length_mul_le
      rintro row _ rfl
      exact Nat.le_add_left 1 _
    simp only [input, List.length_append, List.length_singleton]
    omega
  exact meets_getStreamedRows (meets_getRow_of_writable h hrect) [] hsteps offset rest

theorem meets_getOpenResult (h : r.Writable) {b : List UInt8}
    (hrows : Meets (getRows r.columns.length) b r.rows r.refusal?) :
    Meets getOpenResult (putHeader r.columns ++ b) r.stored r.refusal? := by
  have hheader : Meets getHeader (putHeader r.columns) r.stored.columns none := by
    apply exact_getHeader.meets
    refine ⟨ResultSet.storedColumns_storedColumns 1 1 r.columns, ?_,
      ResultSet.sized_storedColumns.mpr h.sized.1, (r.putHeader_stored).symm⟩
    simpa [ResultSet.stored] using h.columns_lt
  have hlength : r.stored.columns.length = r.columns.length :=
    ResultSet.length_storedColumns 1 r.columns
  rw [← hlength] at hrows
  exact hheader.bind (hrows.bind_nil (meets_pure r.stored))

/-- The whole input is taken, or its defect is met. -/
theorem decodeResult_of_meets {b : List UInt8} (h : Meets getOpenResult b r.stored r.refusal?) :
    decodeResult b = r.reread := by
  have hrun := h 0 []
  rw [List.append_nil] at hrun
  unfold decodeResult ResultSet.reread
  rw [getResult_eq]
  cases hrefusal : r.refusal? with
  | none =>
      rw [hrefusal] at hrun
      rw [run_bind_of_ok hrun, atEnd_of_rest_eq_nil rfl]
      rfl
  | some defect =>
      rw [hrefusal] at hrun
      rw [run_bind_of_error hrun]
      rfl

/-- A result that is written without loss is read in its stored form or, if it has a value that is
out of range, refused with the defect of the first. -/
theorem decodeResult_encodeResult_of_writable (h : r.Writable) (hrect : r.Rectangular) :
    decodeResult (encodeResult r) = r.reread := by
  rw [encodeResult, List.append_assoc]
  exact decodeResult_of_meets (meets_getOpenResult h (meets_getRows_counted h hrect))

/-- A stream is read as the same. -/
theorem decodeResult_encodeStream_of_writable (h : r.Writable) (hrect : r.Rectangular) :
    decodeResult (encodeStream r) = r.reread := by
  rw [encodeStream, List.append_assoc, List.append_assoc]
  exact decodeResult_of_meets (meets_getOpenResult h (meets_getRows_streamed h hrect))

end Result

example : oddSecond.reread = .error .timeOutOfRange := by decide

end Entry

end QueryReplay
