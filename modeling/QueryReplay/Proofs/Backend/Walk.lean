import Mathlib.Data.List.GetD
import QueryReplay.CursorSteps
import QueryReplay.Proofs.Entry.Columns
import QueryReplay.Proofs.Simulation

/-!
# A kept result is walked exactly once

Where a cursor over a kept result stands depends on nothing but how often it
has been moved.  The first moves take it to the first row, to the second one
and so on, and all moves after those take it behind the last row.  Reads leave
it where it is.

A row is only looked up while the cursor stands on it, and a cell only after
its ordinal has been checked against the columns.  So no index ever lies
outside, in whatever order a cursor is moved and read.
-/

namespace QueryReplay

/-! ## Positions -/

/-- Where a cursor stands after so many moves. -/
def Position.after (rows moves : Nat) : Position :=
  if moves = 0 then .beforeFirst
  else if moves ≤ rows then .onRow (moves - 1)
  else .afterLast

namespace Position

variable {rows moves : Nat}

theorem after_zero (rows : Nat) : after rows 0 = .beforeFirst :=
  rfl

theorem after_of_le (hpos : 0 < moves) (hle : moves ≤ rows) :
    after rows moves = .onRow (moves - 1) := by
  rw [after, if_neg hpos.ne', if_pos hle]

theorem after_of_lt (hlt : rows < moves) : after rows moves = .afterLast := by
  have hpos : moves ≠ 0 := Nat.ne_zero_of_lt hlt
  rw [after, if_neg hpos, if_neg (Nat.not_le.mpr hlt)]

/-- One move more is the next position. -/
theorem next_after (rows moves : Nat) : (after rows moves).next rows = after rows (moves + 1) := by
  by_cases hzero : moves = 0
  · rw [hzero, after_zero, next]
    by_cases hrows : 0 < rows
    · rw [if_pos hrows, after_of_le Nat.one_pos hrows]
    · rw [if_neg hrows, after_of_lt (by omega)]
  · by_cases hle : moves ≤ rows
    · rw [after_of_le (Nat.pos_of_ne_zero hzero) hle, next]
      by_cases hnext : moves - 1 + 1 < rows
      · rw [if_pos hnext, after_of_le (Nat.succ_pos moves) (by omega)]
        congr 1
        omega
      · rw [if_neg hnext, after_of_lt (by omega)]
    · rw [after_of_lt (by omega), after_of_lt (by omega), next]

end Position

namespace Cursor

/-- The answer of a cursor, and the cursor behind it. -/
def answer (c : Cursor) : WalkCall → WalkAnswer × Cursor
  | .advance => (.moved c.advance.isOnRow, c.advance)
  | .value ordinal => (.value (c.value ordinal), c)
  | .findColumn name => (.ordinal (findColumn c.result.columns name), c)
  | .get ordinal request => (.value ((ResultCursor.captured c).get ordinal request), c)
  | .getNamed name request => (.value ((ResultCursor.captured c).getNamed name request), c)
  | .rowNumber => (.number c.rowNumber?, c)

/-- The cursor over a result after so many moves. -/
def moved (r : ResultSet) (moves : Nat) : Cursor :=
  ⟨r, .after r.rows.length moves⟩

theorem advance_moved (r : ResultSet) (moves : Nat) :
    (moved r moves).advance = moved r (moves + 1) :=
  congrArg (Cursor.mk r) (Position.next_after r.rows.length moves)

theorem answer_snd_of_ne {call : WalkCall} (hread : call ≠ .advance) (c : Cursor) :
    (c.answer call).2 = c := by
  cases call with
  | advance => exact absurd rfl hread
  | _ => rfl

/-- Only the moves among the calls count. -/
theorem interview_moved (r : ResultSet) (calls : List WalkCall) (moves : Nat) :
    (interview answer (moved r moves) calls).2 = moved r (moves + calls.count .advance) := by
  induction calls generalizing moves with
  | nil => rfl
  | cons call calls ih =>
      rw [interview]
      by_cases hcall : call = .advance
      · rw [hcall, List.count_cons_self, show (answer (moved r moves) .advance).2 =
          moved r (moves + 1) from advance_moved r moves, ih]
        congr 1
        omega
      · rw [answer_snd_of_ne hcall, List.count_cons_of_ne hcall, ih]

/-! ## Indexes -/

/-- A cursor that stands on a row stands on one that there is. -/
def Inside (c : Cursor) : Prop :=
  c.result.Rectangular ∧ ∀ index, c.position = .onRow index → index < c.result.rows.length

theorem inside_moved {r : ResultSet} (hrect : r.Rectangular) (moves : Nat) :
    (moved r moves).Inside := by
  refine ⟨hrect, fun index hindex => ?_⟩
  have hafter : Position.after r.rows.length moves = .onRow index := hindex
  rw [Position.after] at hafter
  split at hafter
  · cases hafter
  · split at hafter
    · cases hafter
      show moves - 1 < r.rows.length
      omega
    · cases hafter

theorem itemAt_of_lt {α : Type} {items : List α} {index : Nat} (h : index < items.length) :
    itemAt items index = .ok items[index] := by
  rw [itemAt, List.getElem?_eq_getElem h]

variable {c : Cursor}

theorem valueSteps_eq (hinside : c.Inside) (ordinal : Nat) :
    c.valueSteps ordinal = .ok (c.value ordinal) := by
  obtain ⟨hrect, hrow⟩ := hinside
  unfold valueSteps value
  cases hposition : c.position with
  | beforeFirst => rfl
  | afterLast => rfl
  | onRow index =>
      have hindex := hrow index hposition
      have hwidth := hrect.1 _ (List.getElem_mem hindex)
      have hget : c.result.rows.getD index [] = c.result.rows[index] :=
        List.getD_eq_getElem _ _ hindex
      simp only [itemAt_of_lt hindex, hget, columnIndex, cell]
      by_cases hordinal : ordinal = 0 ∨ c.result.columns.length < ordinal
      · rw [if_pos hordinal, if_pos hordinal]
        rfl
      · have hplace : ordinal - 1 < c.result.rows[index].length := by omega
        rw [if_neg hordinal, if_neg hordinal, List.getElem?_eq_getElem hplace]
        show (itemAt c.result.rows[index] (ordinal - 1)).bind _ = _
        rw [itemAt_of_lt hplace]
        rfl

theorem getSteps_eq (hinside : c.Inside) (ordinal : Nat) (request : Value.Request) :
    c.getSteps ordinal request = .ok ((ResultCursor.captured c).get ordinal request) := by
  simp only [getSteps, valueSteps_eq hinside, ResultCursor.get, ResultCursor.value]
  cases c.value ordinal with
  | ok v => rfl
  | error e => rfl

theorem getNamedSteps_eq (hinside : c.Inside) (name : String) (request : Value.Request) :
    c.getNamedSteps name request =
      .ok ((ResultCursor.captured c).getNamed name request) := by
  unfold getNamedSteps ResultCursor.getNamed ResultCursor.columns
  cases findColumn c.result.columns name with
  | ok ordinal => exact getSteps_eq hinside ordinal request
  | error e => rfl

theorem answerSteps_eq (hinside : c.Inside) (call : WalkCall) :
    c.answerSteps call = .ok (c.answer call) := by
  cases call with
  | advance => rfl
  | value ordinal => rw [answerSteps, valueSteps_eq hinside]; rfl
  | findColumn name => rfl
  | get ordinal request => rw [answerSteps, getSteps_eq hinside]; rfl
  | getNamed name request => rw [answerSteps, getNamedSteps_eq hinside]; rfl
  | rowNumber => rfl

/-- No index lies outside, however often the cursor has been moved. -/
theorem walkSteps_eq {r : ResultSet} (hrect : r.Rectangular) (calls : List WalkCall)
    (moves : Nat) :
    (moved r moves).walkSteps calls = .ok (interview answer (moved r moves) calls) := by
  induction calls generalizing moves with
  | nil => rfl
  | cons call calls ih =>
      obtain ⟨later, hlater⟩ : ∃ later, ((moved r moves).answer call).2 = moved r later := by
        have hafter := interview_moved r [call] moves
        exact ⟨_, hafter⟩
      rw [walkSteps, answerSteps_eq (inside_moved hrect moves)]
      show (((moved r moves).answer call).2.walkSteps calls).bind _ = _
      rw [hlater, ih, interview, hlater]
      rfl

/-! ## What is read -/

/-- What a cursor over a result shows after a number of moves, and what the next move finds. -/
structure Shows (r : ResultSet) (moves : Nat) (c : Cursor) : Prop where
  /-- The next move comes to a row exactly if there is one more. -/
  next : c.advance.isOnRow = true ↔ moves + 1 ≤ r.rows.length
  before (hmoves : moves = 0) :
    c.rowNumber? = none ∧ ∀ ordinal, c.value ordinal = .error .beforeFirstRow
  number (hpos : 1 ≤ moves) (hle : moves ≤ r.rows.length) : c.rowNumber? = some moves
  cell (hpos : 1 ≤ moves) (hle : moves ≤ r.rows.length) {ordinal : Nat} (hordinal : 1 ≤ ordinal)
    (hcolumn : ordinal ≤ r.columns.length) :
    ∃ row v, r.rows[moves - 1]? = some row ∧ row[ordinal - 1]? = some v ∧ c.value ordinal = .ok v
  noCell (hpos : 1 ≤ moves) (hle : moves ≤ r.rows.length) {ordinal : Nat}
    (hordinal : ordinal = 0 ∨ r.columns.length < ordinal) :
    c.value ordinal = .error (.ordinalNotFound ordinal r.columns.length)
  behind (hlt : r.rows.length < moves) :
    c.rowNumber? = none ∧ ∀ ordinal, c.value ordinal = .error .afterLastRow

theorem shows_moved {r : ResultSet} (hrect : r.Rectangular) (moves : Nat) :
    Shows r moves (moved r moves) where
  next := by
    rw [advance_moved, isOnRow, moved]
    by_cases hle : moves + 1 ≤ r.rows.length
    · rw [Position.after_of_le (Nat.succ_pos moves) hle]
      exact iff_of_true rfl hle
    · rw [Position.after_of_lt (Nat.not_le.mp hle)]
      exact iff_of_false Bool.false_ne_true hle
  before hmoves := by
    rw [hmoves]
    exact ⟨rfl, fun _ => rfl⟩
  number hpos hle := by
    rw [rowNumber?, moved, Position.after_of_le hpos hle]
    show some (moves - 1 + 1) = some moves
    rw [Nat.sub_add_cancel hpos]
  cell := by
    intro hpos hle ordinal hordinal hcolumn
    have hindex : moves - 1 < r.rows.length := by omega
    have hwidth := hrect.1 _ (List.getElem_mem hindex)
    have hplace : ordinal - 1 < r.rows[moves - 1].length := by omega
    have hrow : r.rows[moves - 1]? = some r.rows[moves - 1] := List.getElem?_eq_getElem hindex
    have hvalue : r.rows[moves - 1][ordinal - 1]? = some r.rows[moves - 1][ordinal - 1] :=
      List.getElem?_eq_getElem hplace
    refine ⟨_, _, hrow, hvalue, ?_⟩
    have hin : ¬(ordinal = 0 ∨ r.columns.length < ordinal) := by omega
    simp only [value, moved, Position.after_of_le hpos hle, Cursor.cell, if_neg hin,
      List.getD_eq_getElem _ _ hindex, hvalue]
  noCell := by
    intro hpos hle ordinal hordinal
    simp only [value, moved, Position.after_of_le hpos hle, Cursor.cell, if_pos hordinal]
  behind hlt := by
    rw [moved, Position.after_of_lt hlt]
    exact ⟨rfl, fun _ => rfl⟩

/-! ## Names -/

/-- The first of the columns that is called so. -/
def IsFirst (columns : List Column) (called : Column → String) (name : String) (index : Nat) :
    Prop :=
  (∃ column, columns[index]? = some column ∧ called column = name) ∧
    ∀ earlier < index, ∀ column, columns[earlier]? = some column → called column ≠ name

/-- How columns are named: by their labels, or else by their names, and in exactly that case. -/
structure GetsByName (columns : List Column) (c : Cursor) (name : String)
    (request : Value.Request) : Prop where
  missing (hmissing : ∀ column ∈ columns, column.label ≠ name ∧ column.name ≠ name) :
    (ResultCursor.captured c).getNamed name request = .error (.columnNotFound name)
  label {index : Nat} (hfirst : IsFirst columns (·.label) name index) :
    (ResultCursor.captured c).getNamed name request =
      (ResultCursor.captured c).get (index + 1) request
  name {index : Nat} (hlabels : ∀ column ∈ columns, column.label ≠ name)
    (hfirst : IsFirst columns (·.name) name index) :
    (ResultCursor.captured c).getNamed name request =
      (ResultCursor.captured c).get (index + 1) request

theorem find?_of_isFirst {columns : List Column} {called : Column → String} {name : String}
    {index : Nat} (hfirst : IsFirst columns called name index) :
    ∃ column, columns.find? (called · == name) = some column ∧ columns[index]? = some column := by
  obtain ⟨⟨column, hcolumn, hcalled⟩, hearlier⟩ := hfirst
  refine ⟨column, ?_, hcolumn⟩
  obtain ⟨hindex, hget⟩ := List.getElem?_eq_some_iff.mp hcolumn
  rw [List.find?_eq_some_iff_getElem]
  refine ⟨beq_iff_eq.mpr hcalled, index, hindex, hget, fun earlier hlt => ?_⟩
  have hother := hearlier earlier hlt _ (List.getElem?_eq_getElem (hlt.trans hindex))
  simpa using hother

/-- Columns counted from one are counted by their places. -/
theorem ordinal_of_getElem? {columns : List Column} {column : Column} {index : Nat}
    (hordinals : columns.map (·.ordinal) = List.range' 1 columns.length)
    (hcolumn : columns[index]? = some column) : column.ordinal = index + 1 := by
  obtain ⟨hindex, _⟩ := List.getElem?_eq_some_iff.mp hcolumn
  have hmap : (columns.map (·.ordinal))[index]? = some column.ordinal := by
    rw [List.getElem?_map, hcolumn, Option.map_some]
  rw [hordinals, List.getElem?_range' hindex] at hmap
  have hsome := Option.some.inj hmap
  omega

theorem getsByName {columns : List Column} {c : Cursor} (hcolumns : c.result.columns = columns)
    (hordinals : columns.map (·.ordinal) = List.range' 1 columns.length) (name : String)
    (request : Value.Request) : GetsByName columns c name request := by
  have hget {ordinal : Nat} (hfind : findColumn columns name = .ok ordinal) :
      (ResultCursor.captured c).getNamed name request =
        (ResultCursor.captured c).get ordinal request := by
    simp only [ResultCursor.getNamed, ResultCursor.columns, hcolumns, hfind]
  have hno {called : Column → String} (h : ∀ column ∈ columns, called column ≠ name) :
      columns.find? (called · == name) = none := by
    rw [List.find?_eq_none]
    intro column hmem
    simpa using h column hmem
  refine ⟨fun hmissing => ?_, fun hfirst => ?_, fun hlabels hfirst => ?_⟩
  · have hlabels := hno fun column hmem => (hmissing column hmem).1
    have hnames := hno fun column hmem => (hmissing column hmem).2
    simp only [ResultCursor.getNamed, ResultCursor.columns, hcolumns, findColumn, Column.find?,
      hlabels, hnames, Option.map_none]
  · obtain ⟨column, hfind, hcolumn⟩ := find?_of_isFirst hfirst
    apply hget
    simp only [findColumn, Column.find?, hfind, ordinal_of_getElem? hordinals hcolumn]
  · obtain ⟨column, hfind, hcolumn⟩ := find?_of_isFirst hfirst
    apply hget
    simp only [findColumn, Column.find?, hno hlabels, hfind, Option.map_some,
      ordinal_of_getElem? hordinals hcolumn]

/-! ## The walk -/

/-- Take any result of columns counted from one, and any calls to a new cursor over it, moves and
reads in whatever order.  No index lies outside on the way.  The cursor that is left shows the row
whose number is the number of moves, and the next move finds out whether there is one more; before
the first move and behind the last row it shows nothing at all.  At any point a column can be had
by the first label that is the name asked for, or else by the first name, and no read moves the
cursor. -/
theorem walks_result_once {columns : List Column} {rows : List Row} {r : ResultSet}
    (hr : ResultSet.ofRows columns rows = .ok r)
    (hordinals : columns.map (·.ordinal) = List.range' 1 columns.length) (calls : List WalkCall) :
    ∃ answers c, interview answer (start r) calls = (answers, c) ∧
      (start r).walkSteps calls = .ok (answers, c) ∧
        Shows r (calls.count .advance) c ∧
          (∀ name request, GetsByName columns c name request) ∧
            ∀ call ≠ .advance, (c.answer call).2 = c := by
  obtain ⟨hresult, hrect⟩ := ResultSet.ofRows_eq_ok_iff.mp hr
  have hstart : start r = moved r 0 := rfl
  have hafter : (interview answer (start r) calls).2 = moved r (calls.count .advance) := by
    rw [hstart, interview_moved, Nat.zero_add]
  have hcolumns : (moved r (calls.count .advance)).result.columns = columns := by
    rw [moved, hresult]
  refine ⟨_, _, rfl, ?_, ?_⟩
  · rw [hstart]
    exact walkSteps_eq hrect calls 0
  · rw [hafter]
    exact ⟨shows_moved hrect _, getsByName hcolumns hordinals,
      fun _ hread => answer_snd_of_ne hread _⟩

/-- A row under columns of which the first is labelled like the second is named, and the second and
third have one label. -/
def crossedResult : ResultSet :=
  ⟨[⟨"id", "name", 1, .integer, "INT", .nullable, 0, 0⟩,
    ⟨"name", "total", 2, .varchar, "TEXT", .nullable, 0, 0⟩,
    ⟨"sum", "total", 3, .integer, "INT", .nullable, 0, 0⟩], [[.int32 7, .null, .int32 9]]⟩

def crossedCalls : List WalkCall :=
  [.value 1, .advance, .rowNumber, .get 4 .asIs]

theorem crossedResult_walked :
    ∃ c, (start crossedResult).walkSteps crossedCalls =
        .ok ([.value (.error .beforeFirstRow), .moved true, .number (some 1),
          .value (.error (.ordinalNotFound 4 3))], c) ∧
      c.value 3 = .ok (.int32 9) ∧ ¬c.advance.isOnRow = true ∧
        (ResultCursor.captured c).getNamed "name" (.required .int64) = .ok (.int64 7) ∧
          (ResultCursor.captured c).getNamed "total" .asIs = .ok .null ∧
            (ResultCursor.captured c).getNamed "Total" .asIs =
              .error (.columnNotFound "Total") := by
  have hr : ResultSet.ofRows crossedResult.columns crossedResult.rows = .ok crossedResult := by
    decide
  obtain ⟨answers, c, hanswers, hsteps, hshows, hnames, _⟩ :=
    walks_result_once hr (by decide) crossedCalls
  obtain ⟨rfl, rfl⟩ := Prod.mk.inj hanswers
  have hname : IsFirst crossedResult.columns (·.label) "name" 0 :=
    ⟨⟨_, rfl, rfl⟩, fun _ hlt => absurd hlt (Nat.not_lt_zero _)⟩
  have htotal : IsFirst crossedResult.columns (·.label) "total" 1 := by
    refine ⟨⟨_, rfl, rfl⟩, fun earlier hlt column hcolumn => ?_⟩
    obtain rfl : earlier = 0 := by omega
    cases hcolumn
    decide
  obtain ⟨row, v, hrow, hv, hvalue⟩ :=
    hshows.cell (by decide) (by decide) (show 1 ≤ 3 by decide) (by decide)
  cases hrow
  cases hv
  have hlast : ¬2 ≤ crossedResult.rows.length := by decide
  refine ⟨_, hsteps, hvalue, fun hmore => hlast (hshows.next.mp hmore), ?_, ?_, ?_⟩
  · rw [(hnames "name" _).label hname]
    rfl
  · rw [(hnames "total" _).label htotal]
    rfl
  · exact (hnames "Total" .asIs).missing (by decide)

end Cursor

end QueryReplay
