import QueryReplay.Proofs.Entry.Rows

/-!
# Results are read exactly

Here the parts are put together.  The header and the rows in either form are
read exactly, so the reader of whole results accepts the byte strings of the
grammar and no others, and what is written for a result is read back as the
result in its stored form.
-/

namespace QueryReplay.Entry

open BigEndian Reader

/-! ## The header -/

theorem exact_getHeader :
    Exact getHeader fun columns b => ResultSet.storedColumns 1 columns = columns ∧
      columns.length < 2 ^ 32 ∧ (∀ c ∈ columns, c.Sized) ∧ b = putHeader columns := by
  refine ((exact_take 4).bind fun mark => Exact.guard <| exact_byte.bind fun v => Exact.guard <|
    (exact_nat 4).bind fun count => (exact_repeated exact_getColumn count).bind fun columns =>
      exact_pure (ResultSet.storedColumns 1 columns)).congr fun columns b => ?_
  constructor
  · rintro ⟨_, _, _, ⟨rfl, _⟩, ⟨hmagic, v, _, _, rfl, ⟨hversion, _, _, _, ⟨rfl, hcount⟩,
      ⟨items, _, _, ⟨rfl, hitems⟩, ⟨rfl, rfl⟩, rfl⟩, rfl⟩, rfl⟩, rfl⟩
    obtain ⟨hitems, hcolumns⟩ := Series.and_iff.mp hitems
    obtain rfl := Series.eq_iff.mp hitems
    obtain rfl := not_not.mp hmagic
    obtain rfl := not_not.mp hversion
    refine ⟨ResultSet.storedColumns_storedColumns 1 1 items, ?_, ?_, ?_⟩
    · rwa [ResultSet.length_storedColumns]
    · exact ResultSet.sized_storedColumns.mpr fun c hc => (hcolumns c hc).2
    · simp [putHeader, ResultSet.flatMap_putColumn_storedColumns]
  · rintro ⟨hstored, hlength, hsized, rfl⟩
    -- The reader first has the columns without their places.
    let items := columns.map (ResultSet.storedColumn 0)
    have hitems : Series (fun c b => b = putColumn c ∧ ResultSet.storedColumn 0 c = c ∧ c.Sized)
        items (columns.flatMap putColumn) := by
      refine Series.and_iff.mpr ⟨Series.eq_iff.mpr ?_, fun c hc => ?_⟩
      · simp [items, List.flatMap_map, ResultSet.putColumn_storedColumn]
      · obtain ⟨c, hmem, rfl⟩ := List.mem_map.mp hc
        exact ⟨ResultSet.storedColumn_storedColumn 0 0 c,
          ResultSet.sized_storedColumn.mpr (hsized c hmem)⟩
    refine ⟨magic, _, _, ⟨rfl, rfl⟩, ⟨not_not.mpr rfl, version, _, _, rfl, ⟨not_not.mpr rfl,
      columns.length, _, _, ⟨rfl, hlength⟩, ⟨items, _, _, ⟨?_, hitems⟩, ⟨?_, rfl⟩, rfl⟩, rfl⟩,
        rfl⟩, ?_⟩
    · exact List.length_map _
    · rw [ResultSet.storedColumns_map_storedColumn, hstored]
    · simp [putHeader]

/-! ## Rows in either form -/

/-- One turn of the reader sees the end, or a row and then the rest. -/
theorem getStreamedRows_succ_eq_ok_iff {columns steps : Nat} {done rows : List Row}
    {input out : Input} :
    (getStreamedRows columns done (steps + 1)).run input = .ok (rows, out) ↔
      (rows = done.reverse ∧ input.Takes [0] out) ∨
        ∃ row x next, (RowSpelling row x ∧ Fitting columns row) ∧ input.Takes (1 :: x) next ∧
          (getStreamedRows columns (row :: done) steps).run next = .ok (rows, out) := by
  rw [getStreamedRows, run_bind_eq_ok]
  constructor
  · rintro ⟨mark, mid, hmark, hrest⟩
    obtain ⟨_, rfl, hmid⟩ := (exact_byte input mark mid).mp hmark
    by_cases hrow : mark = rowMark
    · rw [if_pos hrow, run_bind_eq_ok] at hrest
      obtain ⟨row, next, hread, hrest⟩ := hrest
      obtain ⟨x, hx, hnext⟩ := (exact_getRow columns mid row next).mp hread
      obtain rfl := hrow
      exact Or.inr ⟨row, x, next, hx, Input.takes_append.mpr ⟨mid, hmid, hnext⟩, hrest⟩
    · rw [if_neg hrow] at hrest
      by_cases hend : mark = endMark
      · rw [if_pos hend] at hrest
        cases hrest
        obtain rfl := hend
        exact Or.inl ⟨rfl, hmid⟩
      · rw [if_neg hend] at hrest
        cases hrest
  · rintro (⟨rfl, hout⟩ | ⟨row, x, next, hx, hnext, hrest⟩)
    · exact ⟨endMark, out, (exact_byte input endMark out).mpr ⟨_, rfl, hout⟩, rfl⟩
    · rw [← List.singleton_append] at hnext
      obtain ⟨mid, hmid, hnext⟩ := Input.takes_append.mp hnext
      refine ⟨rowMark, mid, (exact_byte input rowMark mid).mpr ⟨_, rfl, hmid⟩, ?_⟩
      rw [if_pos rfl, run_bind_eq_ok]
      exact ⟨row, next, (exact_getRow columns mid row next).mpr ⟨x, hx, hnext⟩, hrest⟩

theorem getStreamedRows_eq_ok_iff {columns steps : Nat} {done rows : List Row}
    {input out : Input} (hsteps : input.rest.length ≤ steps) :
    (getStreamedRows columns done steps).run input = .ok (rows, out) ↔
      ∃ more b, rows = done.reverse ++ more ∧
        Series (fun row b => (∃ x, RowSpelling row x ∧ b = 1 :: x) ∧ Fitting columns row) more b ∧
          input.Takes (b ++ [0]) out := by
  induction steps generalizing done input with
  | zero =>
      constructor
      · rintro ⟨⟩
      · rintro ⟨more, b, _, _, htakes⟩
        have hlength := htakes.length_rest
        rw [List.length_append, List.length_singleton] at hlength
        omega
  | succ steps ih =>
      rw [getStreamedRows_succ_eq_ok_iff]
      constructor
      · rintro (⟨rfl, hout⟩ | ⟨row, x, next, ⟨hx, hfit⟩, hnext, hrest⟩)
        · exact ⟨[], [], (List.append_nil _).symm, Series.nil, hout⟩
        · have hlength := hnext.length_rest
          rw [List.length_cons] at hlength
          obtain ⟨more, b, rfl, hb, hout⟩ := (ih (by omega)).mp hrest
          refine ⟨row :: more, (1 :: x) ++ b, by simp, Series.cons ⟨⟨x, hx, rfl⟩, hfit⟩ hb, ?_⟩
          rw [List.append_assoc]
          exact Input.takes_append.mpr ⟨next, hnext, hout⟩
      · rintro ⟨more, b, rfl, hb, hout⟩
        cases more with
        | nil =>
            obtain rfl := Series.nil_iff.mp hb
            exact Or.inl ⟨List.append_nil _, hout⟩
        | cons row more =>
            obtain ⟨_, y, ⟨⟨x, hx, rfl⟩, hfit⟩, hy, rfl⟩ := Series.cons_iff.mp hb
            rw [List.append_assoc] at hout
            obtain ⟨next, hnext, hout⟩ := Input.takes_append.mp hout
            have hlength := hnext.length_rest
            rw [List.length_cons] at hlength
            exact Or.inr ⟨row, x, next, ⟨hx, hfit⟩, hnext,
              (ih (by omega)).mpr ⟨more, y, by simp, hy, hout⟩⟩

/-- A row takes at least its null bits. -/
theorem RowSpelling.bitmapLength_le {row : Row} {b : List UInt8} (h : RowSpelling row b) :
    bitmapLength row.length ≤ b.length := by
  obtain ⟨cells, _, rfl⟩ := h
  rw [List.length_append, length_packBits, List.length_map]
  exact Nat.le_add_right _ _

/-- The early test on the number of rows refuses nothing that can be read. -/
theorem getCountedRows_eq_ok_iff {columns count : Nat} {rows : List Row} {input out : Input} :
    (do
      if input.rest.length < count * bitmapLength columns then fail (.impossibleRowCount count)
      repeated count (getRow columns) : Reader (List Row)).run input = .ok (rows, out) ↔
      ∃ b, (rows.length = count ∧
        Series (fun row b => RowSpelling row b ∧ Fitting columns row) rows b) ∧
          input.Takes b out := by
  have hrows := exact_repeated (exact_getRow columns) count
  rw [(Exact.guard hrows) input rows out]
  constructor
  · rintro ⟨b, ⟨_, hb⟩, htakes⟩
    exact ⟨b, hb, htakes⟩
  · rintro ⟨b, ⟨hcount, hb⟩, htakes⟩
    have hroom : rows.length * bitmapLength columns ≤ b.length :=
      hb.length_mul_le fun row x hx => hx.2.2.1 ▸ hx.1.bitmapLength_le
    have hlength := htakes.length_rest
    rw [hcount] at hroom
    exact ⟨b, ⟨by omega, hcount, hb⟩, htakes⟩

/-- The spellings of rows behind the number that announces them. -/
def AnnouncedRows (count : Nat) (rows : List Row) (b : List UInt8) : Prop :=
  if count = streamedRowCount then
    ∃ body, Series (fun row b => ∃ x, RowSpelling row x ∧ b = 1 :: x) rows body ∧ b = body ++ [0]
  else rows.length = count ∧ Series RowSpelling rows b

/-- The number in front of the rows tells which form they have. -/
theorem exists_announcedRows_iff {rows : List Row} {b : List UInt8} :
    (∃ count y, count < 256 ^ 8 ∧ AnnouncedRows count rows y ∧ b = encode 8 count ++ y) ↔
      CountedRows rows b ∨ StreamedRows rows b := by
  unfold AnnouncedRows
  constructor
  · rintro ⟨count, y, hcount, hy, rfl⟩
    by_cases hstream : count = streamedRowCount
    · rw [if_pos hstream] at hy
      obtain ⟨body, hbody, rfl⟩ := hy
      refine Or.inr ⟨body, hbody, ?_⟩
      rw [hstream, List.append_assoc]
      rfl
    · rw [if_neg hstream] at hy
      obtain ⟨rfl, hbody⟩ := hy
      refine Or.inl ⟨?_, y, hbody, rfl⟩
      unfold streamedRowCount at *
      omega
  · rintro (⟨hcount, body, hbody, rfl⟩ | ⟨body, hbody, rfl⟩)
    · refine ⟨rows.length, body, ?_, ?_, rfl⟩
      · unfold streamedRowCount at hcount
        omega
      · rw [if_neg hcount.ne]
        exact ⟨rfl, hbody⟩
    · refine ⟨streamedRowCount, body ++ [0], by decide, ?_, ?_⟩
      · rw [if_pos rfl]
        exact ⟨body, hbody, rfl⟩
      · rw [List.append_assoc]
        rfl

theorem exact_announcedRows (columns count : Nat) :
    Exact (do
        let left ← remaining
        if count = streamedRowCount then getStreamedRows columns [] left
        else
          if left < count * bitmapLength columns then fail (.impossibleRowCount count)
          repeated count (getRow columns))
      fun rows b => AnnouncedRows count rows b ∧ ∀ row ∈ rows, Fitting columns row := by
  intro input rows out
  unfold AnnouncedRows
  by_cases hstream : count = streamedRowCount
  · have hrun := @getStreamedRows_eq_ok_iff columns _ [] rows input out (Nat.le_refl _)
    simp only [if_pos hstream]
    refine hrun.trans ?_
    constructor
    · rintro ⟨more, body, rfl, hbody, htakes⟩
      obtain ⟨hbody, hfit⟩ := Series.and_iff.mp hbody
      exact ⟨body ++ [0], ⟨⟨body, hbody, rfl⟩, hfit⟩, htakes⟩
    · rintro ⟨_, ⟨⟨body, hbody, rfl⟩, hfit⟩, htakes⟩
      exact ⟨rows, body, rfl, Series.and_iff.mpr ⟨hbody, hfit⟩, htakes⟩
  · have hrun := @getCountedRows_eq_ok_iff columns count rows input out
    simp only [if_neg hstream]
    refine hrun.trans ?_
    simp only [Series.and_iff, and_assoc]

theorem exact_getRows (columns : Nat) :
    Exact (getRows columns) fun rows b => (CountedRows rows b ∨ StreamedRows rows b) ∧
      ∀ row ∈ rows, Fitting columns row := by
  refine ((exact_nat 8).bind fun count => exact_announcedRows columns count).congr fun rows b => ?_
  rw [← exists_announcedRows_iff]
  constructor
  · rintro ⟨count, _, y, ⟨rfl, hcount⟩, ⟨hy, hfit⟩, rfl⟩
    exact ⟨⟨count, y, hcount, hy, rfl⟩, hfit⟩
  · rintro ⟨⟨count, y, hcount, hy, rfl⟩, hfit⟩
    exact ⟨count, _, y, ⟨rfl, hcount⟩, ⟨hy, hfit⟩, rfl⟩

/-! ## Whole results -/

/-- The columns and the rows of a result, whatever follows them. -/
def getOpenResult : Reader ResultSet := do
  let columns ← getHeader
  let rows ← getRows columns.length
  return ⟨columns, rows⟩

/-- The result that has been read, if nothing is left. -/
def atEnd (r : ResultSet) : Reader ResultSet := do
  let left ← remaining
  if left ≠ 0 then fail (.trailingBytes left)
  return r

theorem getResult_eq : getResult = getOpenResult >>= atEnd := by
  simp only [getResult, getOpenResult, atEnd, bind_assoc, pure_bind]

theorem exact_getOpenResult : Exact getOpenResult fun r b => Spelling r b ∧ r.Sized := by
  refine (exact_getHeader.bind fun columns => (exact_getRows columns.length).map
    (ResultSet.mk columns)).congr fun r b => ?_
  constructor
  · rintro ⟨columns, _, rest, ⟨hstored, hlength, hcolumns, rfl⟩, ⟨rows, rfl, hspelled, hfit⟩, rfl⟩
    have hrect : (⟨columns, rows⟩ : ResultSet).Rectangular :=
      ResultSet.rectangular_iff.mpr fun row hrow => ⟨(hfit row hrow).1, (hfit row hrow).2.1⟩
    exact ⟨⟨ResultSet.storedColumns_eq_self_iff.mp hstored, hrect, hlength, rest, rfl, hspelled⟩,
      hcolumns, fun row hrow => (hfit row hrow).2.2⟩
  · rintro ⟨⟨hnumbered, hrect, hlength, rest, rfl, hspelled⟩, hcolumns, hsized⟩
    have hstored := ResultSet.storedColumns_eq_self_iff.mpr hnumbered
    have hfit (row : Row) (hrow : row ∈ r.rows) : Fitting r.columns.length row :=
      ⟨(ResultSet.rectangular_iff.mp hrect row hrow).1,
        (ResultSet.rectangular_iff.mp hrect row hrow).2, hsized row hrow⟩
    exact ⟨r.columns, _, rest, ⟨hstored, hlength, hcolumns, rfl⟩, ⟨r.rows, rfl, hspelled, hfit⟩,
      rfl⟩

section End

variable {r : ResultSet} {input : Input}

theorem atEnd_of_rest_eq_nil (hrest : input.rest = []) : (atEnd r).run input = .ok (r, input) := by
  have hnone : input.rest.length = 0 := List.length_eq_zero_iff.mpr hrest
  show (if input.rest.length ≠ 0 then _ else _ : Reader ResultSet).run input = _
  rw [if_neg (not_not.mpr hnone)]
  rfl

theorem atEnd_of_rest_ne_nil (hrest : input.rest ≠ []) :
    (atEnd r).run input = .error (.trailingBytes input.rest.length) := by
  have hleft : input.rest.length ≠ 0 := fun h => hrest (List.length_eq_zero_iff.mp h)
  show (if input.rest.length ≠ 0 then _ else _ : Reader ResultSet).run input = _
  rw [if_pos hleft]
  rfl

end End

/-- What the reader of results gives on bytes that begin with the spelling of a result. -/
theorem getResult_run_append {r : ResultSet} {b : List UInt8} (h : Spelling r b ∧ r.Sized)
    (rest : List UInt8) :
    getResult.run ⟨0, b ++ rest⟩ = (atEnd r).run ⟨b.length, rest⟩ := by
  have hread : getOpenResult.run ⟨0, b ++ rest⟩ = .ok (r, ⟨b.length, rest⟩) :=
    (exact_getOpenResult _ _ _).mpr ⟨b, h, rfl, (Nat.zero_add b.length).symm⟩
  rw [getResult_eq, run_bind_of_ok hread]

/-- The reader of results accepts the spellings of each result that its sizes allow. -/
theorem decodeResult_eq_ok_iff_spelling {b : List UInt8} {r : ResultSet} :
    decodeResult b = .ok r ↔ Spelling r b ∧ r.Sized := by
  unfold decodeResult
  constructor
  · intro h
    cases hrun : getResult.run ⟨0, b⟩ with
    | error defect =>
        rw [hrun] at h
        cases h
    | ok next =>
        obtain ⟨r', out⟩ := next
        rw [hrun] at h
        cases h
        rw [getResult_eq, run_bind_eq_ok] at hrun
        obtain ⟨r', mid, hread, hend⟩ := hrun
        obtain ⟨x, hx, htakes⟩ := (exact_getOpenResult _ _ _).mp hread
        have hb : b = x ++ mid.rest := htakes.rest_eq
        by_cases hrest : mid.rest = []
        · rw [atEnd_of_rest_eq_nil hrest] at hend
          cases hend
          rw [hb, hrest, List.append_nil]
          exact hx
        · rw [atEnd_of_rest_ne_nil hrest] at hend
          cases hend
  · intro h
    have hrun := getResult_run_append h []
    rw [List.append_nil, atEnd_of_rest_eq_nil rfl] at hrun
    rw [hrun]
    rfl

end QueryReplay.Entry
