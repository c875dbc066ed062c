import Mathlib.Data.List.Forall2
import QueryReplay.Backend.Live
import QueryReplay.Proofs.Entry.Columns

/-!
# Reading cursors to the end

A cursor is read by moving it on until there are no more rows, and by taking
the values of each row in all of its columns.  What it yields in this way is
said here without a bound on the number of rows.  Draining a cursor gives just
what it yields; capturing it does too, but for rows without columns, which
cannot be kept.  A cursor over a kept result yields the rows of the result.
-/

namespace QueryReplay

theorem mapM_eq_ok_iff {α β : Type} {f : α → Except Error β} {items : List α} {values : List β} :
    items.mapM f = .ok values ↔ List.Forall₂ (fun a v => f a = .ok v) items values := by
  induction items generalizing values with
  | nil =>
      rw [List.forall₂_nil_left_iff, List.mapM_nil]
      exact ⟨fun h => (Except.ok.inj h).symm, fun h => congrArg Except.ok h.symm⟩
  | cons a items ih =>
      rw [List.forall₂_cons_left_iff, List.mapM_cons]
      cases ha : f a with
      | error e =>
          constructor
          · rintro ⟨⟩
          · rintro ⟨v, rest, hv, _⟩
            cases hv
      | ok v =>
          show (items.mapM f >>= fun rest => pure (v :: rest)) = _ ↔ _
          cases hrest : items.mapM f with
          | error e =>
              constructor
              · rintro ⟨⟩
              · rintro ⟨_, rest, _, hvalues, _⟩
                rw [ih.mpr hvalues] at hrest
                cases hrest
          | ok rest =>
              constructor
              · rintro ⟨⟩
                exact ⟨v, rest, rfl, ih.mp hrest, rfl⟩
              · rintro ⟨_, rest', ⟨⟩, hvalues, rfl⟩
                rw [ih.mpr hvalues] at hrest
                cases hrest
                rfl

theorem exists_mapM_eq_ok {α β : Type} {f : α → Except Error β} {items : List α}
    (hvalues : ∀ a ∈ items, ∃ v, f a = .ok v) : ∃ values, items.mapM f = .ok values := by
  induction items with
  | nil => exact ⟨[], mapM_eq_ok_iff.mpr .nil⟩
  | cons a items ih =>
      obtain ⟨⟨v, hv⟩, hrest⟩ := List.forall_mem_cons.mp hvalues
      obtain ⟨values, hmap⟩ := ih hrest
      exact ⟨v :: values, mapM_eq_ok_iff.mpr (.cons hv (mapM_eq_ok_iff.mp hmap))⟩

namespace ResultCursor

/-! ## Rows -/

/-- The values of the current row, one for each column. -/
def Shows (c : ResultCursor) (row : Row) : Prop :=
  List.Forall₂ (fun ordinal v => c.value ordinal = .ok v) (List.range' 1 c.columns.length) row

theorem row_eq_ok_iff {c : ResultCursor} {row : Row} : c.row = .ok row ↔ c.Shows row :=
  mapM_eq_ok_iff

theorem Shows.length_eq {c : ResultCursor} {row : Row} (h : c.Shows row) :
    row.length = c.columns.length := by
  have hlength := List.Forall₂.length_eq h
  rw [List.length_range'] at hlength
  exact hlength.symm

theorem exists_shows {c : ResultCursor}
    (hvalues : ∀ ordinal, 1 ≤ ordinal → ordinal ≤ c.columns.length → ∃ v, c.value ordinal = .ok v) :
    ∃ row, c.Shows row := by
  have hall : ∀ ordinal ∈ List.range' 1 c.columns.length, ∃ v, c.value ordinal = .ok v := by
    intro ordinal hmem
    have hbounds := List.mem_range'_1.mp hmem
    apply hvalues ordinal hbounds.1
    omega
  obtain ⟨row, hrow⟩ := exists_mapM_eq_ok hall
  exact ⟨row, row_eq_ok_iff.mp hrow⟩

/-- The rows that a cursor over a kept result still has ahead. -/
def rowsAhead (r : ResultSet) : Position → List Row
  | .beforeFirst => r.rows
  | .onRow index => r.rows.drop (index + 1)
  | .afterLast => []

/-- To move on is to take the first of the rows ahead, if there is one. -/
theorem rowsAhead_next (r : ResultSet) (position : Position) :
    (rowsAhead r position = [] ∧ position.next r.rows.length = .afterLast) ∨
      ∃ index row, position.next r.rows.length = .onRow index ∧ r.rows[index]? = some row ∧
        rowsAhead r position = row :: rowsAhead r (.onRow index) := by
  cases position with
  | beforeFirst =>
      cases hrows : r.rows with
      | nil => exact Or.inl ⟨hrows, rfl⟩
      | cons row rows =>
          refine Or.inr ⟨0, row, rfl, rfl, ?_⟩
          simp [rowsAhead, hrows]
  | onRow index =>
      by_cases hnext : index + 1 < r.rows.length
      · refine Or.inr ⟨index + 1, r.rows[index + 1], if_pos hnext,
          List.getElem?_eq_getElem hnext, ?_⟩
        exact List.drop_eq_getElem_cons hnext
      · exact Or.inl ⟨List.drop_eq_nil_of_le (Nat.not_lt.mp hnext), if_neg hnext⟩
  | afterLast => exact Or.inl ⟨rfl, rfl⟩

/-! ## Moving on -/

section Advance

variable {c next : ResultCursor} {moved : Except Error Bool}

theorem columns_of_advance (hmoved : c.advance = (moved, next)) : next.columns = c.columns := by
  cases c with
  | captured c =>
      cases hmoved
      rfl
  | native c =>
      cases hmoved
      show (c.advance.2).columns = c.columns
      unfold NativeCursor.advance
      split
      · rfl
      · split
        · rfl
        · rfl
  | scripted c =>
      cases hmoved
      show (c.advance.2).columns = c.columns
      unfold ScriptedCursor.advance
      split
      · rfl
      · rfl
      · rfl

/-- The number of rows that a cursor can still come to. -/
def rowsLeft : ResultCursor → Nat
  | .captured c => (rowsAhead c.result c.position).length
  | .native c => c.pending.length
  | .scripted c => c.pending.length

theorem rowsLeft_le_ahead (c : ResultCursor) : c.rowsLeft ≤ c.ahead := by
  cases c with
  | captured c =>
      obtain ⟨r, position⟩ := c
      cases position with
      | beforeFirst => exact Nat.le_refl _
      | onRow index =>
          show (r.rows.drop (index + 1)).length ≤ r.rows.length
          rw [List.length_drop]
          exact Nat.sub_le _ _
      | afterLast => exact Nat.zero_le _
  | native c => exact Nat.le_refl _
  | scripted c => exact Nat.le_refl _

theorem rowsLeft_lt_of_advance (hmoved : c.advance = (.ok true, next)) :
    next.rowsLeft < c.rowsLeft := by
  cases c with
  | captured c =>
      obtain ⟨r, position⟩ := c
      simp only [advance, Cursor.advance, Prod.mk.injEq, Except.ok.injEq] at hmoved
      obtain ⟨hon, rfl⟩ := hmoved
      rcases rowsAhead_next r position with ⟨-, hnext⟩ | ⟨index, row, hnext, -, hahead⟩
      · rw [hnext] at hon
        cases hon
      · show (rowsAhead r (position.next r.rows.length)).length < (rowsAhead r position).length
        rw [hnext, hahead]
        exact Nat.lt_succ_self _
  | native c =>
      simp only [advance, NativeCursor.advance, Prod.mk.injEq] at hmoved
      obtain ⟨hon, rfl⟩ := hmoved
      cases hpending : c.pending with
      | nil => simp [hpending] at hon
      | cons row rest =>
          simp only [hpending] at hon ⊢
          cases hrow : NativeCursor.rowValues c.columns row with
          | ok values => simp [rowsLeft, hpending]
          | error e => simp [hrow] at hon
  | scripted c =>
      simp only [advance, ScriptedCursor.advance, Prod.mk.injEq] at hmoved
      obtain ⟨hon, rfl⟩ := hmoved
      cases hpending : c.pending with
      | nil => simp [hpending] at hon
      | cons row rest =>
          cases row with
          | ok cells => simp [rowsLeft, hpending]
          | error e => simp [hpending] at hon

end Advance

/-! ## What a cursor yields -/

/-- The rows that a cursor gives when it is moved on until there are no more and all columns of
each row are read. -/
inductive Yields : ResultCursor → List Row → Prop where
  | done {c next : ResultCursor} (hmoved : c.advance = (.ok false, next)) : Yields c []
  | row {c next : ResultCursor} {row : Row} {rows : List Row}
      (hmoved : c.advance = (.ok true, next)) (hshows : next.Shows row)
      (hrest : Yields next rows) : Yields c (row :: rows)

section Yields

variable {c next : ResultCursor} {rows : List Row}

theorem not_yields_of_advance_error {e : Error} (hmoved : c.advance = (.error e, next)) :
    ¬c.Yields rows := by
  intro h
  cases h with
  | done hend =>
      rw [hmoved] at hend
      cases hend
  | row hnext _ _ =>
      rw [hmoved] at hnext
      cases hnext

theorem yields_iff_of_end (hmoved : c.advance = (.ok false, next)) :
    c.Yields rows ↔ rows = [] := by
  constructor
  · intro h
    cases h with
    | done _ => rfl
    | row hnext _ _ =>
        rw [hmoved] at hnext
        cases hnext
  · rintro rfl
    exact .done hmoved

theorem yields_iff_of_row (hmoved : c.advance = (.ok true, next)) :
    c.Yields rows ↔ ∃ row rest, rows = row :: rest ∧ next.Shows row ∧ next.Yields rest := by
  constructor
  · intro h
    cases h with
    | done hend =>
        rw [hmoved] at hend
        cases hend
    | row hnext hshows hrest =>
        rw [hmoved] at hnext
        cases hnext
        exact ⟨_, _, rfl, hshows, hrest⟩
  · rintro ⟨row, rest, rfl, hshows, hrest⟩
    exact .row hmoved hshows hrest

theorem Yields.width (h : c.Yields rows) : ∀ row ∈ rows, row.length = c.columns.length := by
  induction h with
  | done _ => exact fun row hrow => absurd hrow List.not_mem_nil
  | row hmoved hshows _ ih =>
      rw [← columns_of_advance hmoved]
      exact List.forall_mem_cons.mpr ⟨hshows.length_eq, ih⟩

end Yields

/-! ## Reading to the end -/

section Collect

variable {c next : ResultCursor} {accept : Row → Except Error Row} {rows : List Row}

/-- A row that is only tested is taken as it is shown. -/
theorem row_bind_eq_ok_iff (haccept : ∀ row row', accept row = .ok row' → row' = row) {row : Row} :
    c.row.bind accept = .ok row ↔ c.Shows row ∧ accept row = .ok row := by
  rw [← row_eq_ok_iff]
  cases c.row with
  | error e =>
      constructor
      · rintro ⟨⟩
      · rintro ⟨⟨⟩, _⟩
  | ok cells =>
      show accept cells = .ok row ↔ _
      constructor
      · intro htaken
        obtain rfl := haccept cells row htaken
        exact ⟨rfl, htaken⟩
      · rintro ⟨⟨⟩, htaken⟩
        exact htaken

/-- Where rows are only tested, what is read are the rows that the cursor yields, and all of them
pass the test. -/
theorem collectOnto_eq_ok_iff (haccept : ∀ row row', accept row = .ok row' → row' = row)
    (done : List Row) {steps : Nat} (hsteps : c.rowsLeft < steps) :
    collectOnto accept done steps c = .ok rows ↔
      ∃ more, rows = done.reverse ++ more ∧ c.Yields more ∧
        ∀ row ∈ more, accept row = .ok row := by
  -- The steps suffice, as the rows that are left get fewer with each row.
  induction steps generalizing done c with
  | zero => cases hsteps
  | succ steps ih =>
      rw [collectOnto]
      cases hmoved : c.advance with
      | mk moved next =>
          match moved with
          | .error e => simp [not_yields_of_advance_error hmoved]
          | .ok false => simp [yields_iff_of_end hmoved, eq_comm]
          | .ok true =>
              have hleft := rowsLeft_lt_of_advance hmoved
              have hnext (row : Row) := ih (c := next) (row :: done) (by omega)
              simp only [yields_iff_of_row hmoved]
              constructor
              · intro hread
                cases hrow : next.row.bind accept with
                | error e =>
                    rw [hrow] at hread
                    cases hread
                | ok row =>
                    rw [hrow] at hread
                    obtain ⟨hshows, htaken⟩ := (row_bind_eq_ok_iff haccept).mp hrow
                    obtain ⟨rest, rfl, hrest, hpass⟩ := (hnext row).mp hread
                    exact ⟨row :: rest, by simp, ⟨row, rest, rfl, hshows, hrest⟩,
                      List.forall_mem_cons.mpr ⟨htaken, hpass⟩⟩
              · rintro ⟨_, rfl, ⟨row, rest, rfl, hshows, hrest⟩, hpass⟩
                obtain ⟨htaken, hpass⟩ := List.forall_mem_cons.mp hpass
                rw [(row_bind_eq_ok_iff haccept).mpr ⟨hshows, htaken⟩]
                exact (hnext row).mpr ⟨rest, by simp, hrest, hpass⟩

theorem collect_eq_ok_iff (haccept : ∀ row row', accept row = .ok row' → row' = row) :
    c.collect accept = .ok rows ↔ c.Yields rows ∧ ∀ row ∈ rows, accept row = .ok row := by
  have hsteps : c.rowsLeft < c.ahead + 1 := Nat.lt_succ_of_le c.rowsLeft_le_ahead
  rw [collect, collectOnto_eq_ok_iff haccept [] hsteps]
  simp

theorem map_collect_eq_ok_iff (haccept : ∀ row row', accept row = .ok row' → row' = row)
    {r : ResultSet} :
    (c.collect accept).map (ResultSet.mk c.columns) = .ok r ↔
      r.columns = c.columns ∧ c.Yields r.rows ∧ ∀ row ∈ r.rows, accept row = .ok row := by
  rw [← collect_eq_ok_iff haccept]
  cases hread : c.collect accept with
  | error e =>
      constructor
      · rintro ⟨⟩
      · rintro ⟨_, ⟨⟩⟩
  | ok rows =>
      constructor
      · rintro ⟨⟩
        exact ⟨rfl, rfl⟩
      · rintro ⟨hcolumns, ⟨⟩⟩
        rw [← hcolumns]
        rfl

/-- Draining gives the columns of a cursor and all that it yields. -/
theorem drain_eq_ok_iff {r : ResultSet} :
    c.drain = .ok r ↔ r.columns = c.columns ∧ c.Yields r.rows := by
  refine (map_collect_eq_ok_iff fun row row' htaken => (Except.ok.inj htaken).symm).trans ?_
  simp

/-- A cursor yields its rows in one way only. -/
theorem Yields.eq (h : c.Yields rows) {rows' : List Row} (h' : c.Yields rows') : rows' = rows := by
  have hdrain : c.drain = .ok ⟨c.columns, rows⟩ := drain_eq_ok_iff.mpr ⟨rfl, h⟩
  have hdrain' : c.drain = .ok ⟨c.columns, rows'⟩ := drain_eq_ok_iff.mpr ⟨rfl, h'⟩
  rw [hdrain] at hdrain'
  exact (congrArg ResultSet.rows (Except.ok.inj hdrain')).symm

theorem fitting_eq_ok_iff {columns : Nat} {row row' : Row} :
    fitting columns row = .ok row' ↔ row' = row ∧ columns ≠ 0 ∧ row.length = columns := by
  rw [← ResultSet.rowDefect?_eq_none_iff]
  unfold fitting
  cases ResultSet.rowDefect? columns row with
  | none => simp [eq_comm]
  | some defect => simp

/-- Capturing gives the same, unless there are rows without columns. -/
theorem capture_eq_ok_iff {r : ResultSet} :
    c.capture = .ok r ↔
      r.columns = c.columns ∧ c.Yields r.rows ∧ (r.columns ≠ [] ∨ r.rows = []) := by
  refine (map_collect_eq_ok_iff fun row row' htaken => (fitting_eq_ok_iff.mp htaken).1).trans ?_
  simp only [fitting_eq_ok_iff, true_and]
  constructor
  · rintro ⟨hcolumns, hyields, hfits⟩
    refine ⟨hcolumns, hyields, ?_⟩
    by_cases hnone : r.rows = []
    · exact Or.inr hnone
    · obtain ⟨row, hrow⟩ := List.exists_mem_of_ne_nil r.rows hnone
      left
      rw [hcolumns]
      exact List.ne_nil_of_length_pos (Nat.pos_of_ne_zero (hfits row hrow).1)
  · rintro ⟨hcolumns, hyields, hwide⟩
    refine ⟨hcolumns, hyields, fun row hrow => ⟨?_, hyields.width row hrow⟩⟩
    rw [← hcolumns]
    intro hzero
    rcases hwide with hwide | hnone
    · exact hwide (List.length_eq_zero_iff.mp hzero)
    · rw [hnone] at hrow
      cases hrow

end Collect

/-! ## Kept results -/

section Kept

variable {r : ResultSet}

theorem shows_captured (hrect : r.Rectangular) {index : Nat} {row : Row}
    (hrow : r.rows[index]? = some row) :
    (ResultCursor.captured ⟨r, .onRow index⟩).Shows row := by
  have hwidth : row.length = r.columns.length := hrect.1 row (List.mem_of_getElem? hrow)
  have hcurrent : r.rows.getD index [] = row := by
    rw [List.getD_eq_getElem?_getD, hrow]
    rfl
  apply List.forall₂_iff_get.mpr
  refine ⟨(List.length_range' ..).trans hwidth.symm, fun place _ hplace => ?_⟩
  rw [List.get_eq_getElem, List.getElem_range', Nat.one_mul]
  show Cursor.cell r.columns.length (r.rows.getD index []) (1 + place) =
    .ok (row.get ⟨place, hplace⟩)
  have hordinal : ¬(1 + place = 0 ∨ r.columns.length < 1 + place) := by omega
  rw [hcurrent, Cursor.cell, if_neg hordinal, Nat.add_sub_cancel_left,
    List.getElem?_eq_getElem hplace]
  rfl

/-- A cursor over a kept result yields all rows that it has ahead. -/
theorem yields_captured (hrect : r.Rectangular) {position : Position} {rows : List Row}
    (hrows : rowsAhead r position = rows) :
    (ResultCursor.captured ⟨r, position⟩).Yields rows := by
  induction rows generalizing position with
  | nil =>
      rcases rowsAhead_next r position with ⟨-, hnext⟩ | ⟨_, _, _, _, hahead⟩
      · have hmoved : (ResultCursor.captured ⟨r, position⟩).advance =
            (.ok false, .captured ⟨r, .afterLast⟩) := by
          simp only [advance, Cursor.advance, hnext, Cursor.isOnRow]
        exact .done hmoved
      · rw [hrows] at hahead
        cases hahead
  | cons row rows ih =>
      rcases rowsAhead_next r position with ⟨hnone, -⟩ | ⟨index, _, hnext, hrow, hahead⟩
      · rw [hrows] at hnone
        cases hnone
      · have hmoved : (ResultCursor.captured ⟨r, position⟩).advance =
            (.ok true, .captured ⟨r, .onRow index⟩) := by
          simp only [advance, Cursor.advance, hnext, Cursor.isOnRow]
        rw [hrows] at hahead
        obtain ⟨rfl, hrest⟩ := List.cons_eq_cons.mp hahead
        exact .row hmoved (shows_captured hrect hrow) (ih hrest.symm)

theorem yields_start (hrect : r.Rectangular) :
    (ResultCursor.captured (.start r)).Yields r.rows :=
  yields_captured hrect rfl

/-- A cursor before the first row of a kept result gives the result. -/
theorem drain_captured (hrect : r.Rectangular) :
    (ResultCursor.captured (.start r)).drain = .ok r :=
  drain_eq_ok_iff.mpr ⟨rfl, yields_start hrect⟩

end Kept

/-! ## Captured results -/

section Captured

variable {c : ResultCursor} {r : ResultSet}

theorem columns_of_capture (h : c.capture = .ok r) : r.columns = c.columns :=
  (capture_eq_ok_iff.mp h).1

/-- What is captured fits the columns of the cursor. -/
theorem rectangular_of_capture (h : c.capture = .ok r) : r.Rectangular := by
  obtain ⟨hcolumns, hyields, hwide⟩ := capture_eq_ok_iff.mp h
  constructor
  · rw [hcolumns]
    exact hyields.width
  · intro hzero
    rcases hwide with hwide | hnone
    · exact absurd (List.length_eq_zero_iff.mp hzero) hwide
    · exact hnone

/-- What has been captured is all that the cursor had to give. -/
theorem drain_of_capture (h : c.capture = .ok r) : c.drain = .ok r := by
  obtain ⟨hcolumns, hyields, -⟩ := capture_eq_ok_iff.mp h
  exact drain_eq_ok_iff.mpr ⟨hcolumns, hyields⟩

end Captured

end ResultCursor

end QueryReplay
