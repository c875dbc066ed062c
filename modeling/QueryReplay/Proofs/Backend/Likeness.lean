import QueryReplay.Proofs.Backend.Collect
import QueryReplay.Proofs.Simulation

/-!
# Live cursors and kept results are alike

A database hands out a cursor that takes one row after another and remembers
the last one.  A kept result is read by an index into all of its rows.  Nobody
who moves, reads and asks for columns can tell which of the two he has got:
before the first row, on any row, and behind the last one however often the
cursor is moved there, all answers are the same, errors included.
-/

namespace QueryReplay

/-- What a cursor can be asked for. -/
inductive CursorCall where
  | advance
  | value (ordinal : Nat)
  | findColumn (name : String)
  | columnCount
  | columns
deriving DecidableEq, Repr

inductive CursorAnswer where
  | moved (outcome : Except Error Bool)
  | value (outcome : Except Error Value)
  | ordinal (outcome : Except Error Nat)
  | count (columns : Nat)
  | columns (columns : List Column)

namespace ResultCursor

/-- The answer of a cursor, and the cursor behind it. -/
def answer (c : ResultCursor) : CursorCall → CursorAnswer × ResultCursor
  | .advance => (.moved c.advance.1, c.advance.2)
  | .value ordinal => (.value (c.value ordinal), c)
  | .findColumn name => (.ordinal (findColumn c.columns name), c)
  | .columnCount => (.count c.columns.length, c)
  | .columns => (.columns c.columns, c)

/-! ## Cursors side by side -/

/-- A live cursor and one over a kept result stand at the same place, with the same rows ahead. -/
structure Alongside (live : NativeCursor) (kept : Cursor) : Prop where
  columns : live.columns = kept.result.columns
  ahead : List.Forall₂ (fun native row => NativeCursor.rowValues live.columns native = .ok row)
    live.pending (rowsAhead kept.result kept.position)
  value (ordinal : Nat) : live.value ordinal = kept.value ordinal

theorem alongside_start {columns : List Column} {natives : List (List Native)} {r : ResultSet}
    (hcolumns : r.columns = columns)
    (hrows : natives.mapM (NativeCursor.rowValues columns) = .ok r.rows) :
    Alongside (.start columns natives) (.start r) where
  columns := hcolumns.symm
  ahead := mapM_eq_ok_iff.mp hrows
  value _ := rfl

variable {live : NativeCursor} {kept : Cursor}

/-- Behind the last row both cursors stay there. -/
theorem Alongside.advance_of_end (halong : Alongside live kept)
    (hend : rowsAhead kept.result kept.position = [])
    (hnext : kept.position.next kept.result.rows.length = .afterLast) :
    live.advance.1 = .ok kept.advance.isOnRow ∧ Alongside live.advance.2 kept.advance := by
  have hpending : live.pending = [] := by
    have hahead := halong.ahead
    rw [hend] at hahead
    exact List.forall₂_nil_right_iff.mp hahead
  have hlive : live.advance = (.ok false, { live with current := none, started := true }) := by
    simp only [NativeCursor.advance, hpending]
  have hkept : kept.advance = ⟨kept.result, .afterLast⟩ := by
    rw [Cursor.advance, hnext]
  rw [hlive, hkept]
  refine ⟨rfl, halong.columns, ?_, fun _ => rfl⟩
  rw [hpending]
  exact .nil

/-- Where there is a row ahead, both cursors come to it, and show the same values of it. -/
theorem Alongside.advance_of_row (halong : Alongside live kept) {index : Nat} {row : Row}
    (hnext : kept.position.next kept.result.rows.length = .onRow index)
    (hrow : kept.result.rows[index]? = some row)
    (hahead : rowsAhead kept.result kept.position =
      row :: rowsAhead kept.result (.onRow index)) :
    live.advance.1 = .ok kept.advance.isOnRow ∧ Alongside live.advance.2 kept.advance := by
  have hpending := halong.ahead
  rw [hahead] at hpending
  obtain ⟨native, rest, hread, hrest, hsplit⟩ := List.forall₂_cons_right_iff.mp hpending
  have hlive : live.advance =
      (.ok true, { live with pending := rest, current := some row, started := true }) := by
    simp only [NativeCursor.advance, hsplit, hread]
  have hkept : kept.advance = ⟨kept.result, .onRow index⟩ := by
    rw [Cursor.advance, hnext]
  have hcurrent : kept.result.rows.getD index [] = row := by
    rw [List.getD_eq_getElem?_getD, hrow]
    rfl
  rw [hlive, hkept]
  refine ⟨rfl, halong.columns, hrest, fun ordinal => ?_⟩
  show Cursor.cell live.columns.length row ordinal =
    Cursor.cell kept.result.columns.length (kept.result.rows.getD index []) ordinal
  rw [halong.columns, hcurrent]

theorem Alongside.advance (halong : Alongside live kept) :
    live.advance.1 = .ok kept.advance.isOnRow ∧ Alongside live.advance.2 kept.advance := by
  rcases rowsAhead_next kept.result kept.position with
    ⟨hend, hnext⟩ | ⟨index, row, hnext, hrow, hahead⟩
  · exact halong.advance_of_end hend hnext
  · exact halong.advance_of_row hnext hrow hahead

/-- The two kinds of cursors, where they stand side by side. -/
def Alike (c c' : ResultCursor) : Prop :=
  ∃ live kept, c = .native live ∧ c' = .captured kept ∧ Alongside live kept

theorem simulates_alike : Simulates answer answer (fun _ => True) (fun _ => True) Alike := by
  intro c c' call halike _ _
  obtain ⟨live, kept, rfl, rfl, halong⟩ := halike
  have hcolumns : (ResultCursor.native live).columns = (ResultCursor.captured kept).columns :=
    halong.columns
  cases call with
  | advance =>
      obtain ⟨hmoved, hnext⟩ := halong.advance
      exact ⟨congrArg CursorAnswer.moved hmoved, _, _, rfl, rfl, hnext⟩
  | value ordinal =>
      exact ⟨congrArg CursorAnswer.value (halong.value ordinal), _, _, rfl, rfl, halong⟩
  | findColumn name =>
      simp only [answer, hcolumns]
      exact ⟨trivial, _, _, rfl, rfl, halong⟩
  | columnCount =>
      simp only [answer, hcolumns]
      exact ⟨trivial, _, _, rfl, rfl, halong⟩
  | columns =>
      simp only [answer, hcolumns]
      exact ⟨trivial, _, _, rfl, rfl, halong⟩

/-! ## Rows that can be read -/

theorem length_of_rowValues {columns : List Column} {native : List Native} {row : Row}
    (hwidth : native.length = columns.length)
    (hread : NativeCursor.rowValues columns native = .ok row) : row.length = columns.length := by
  have hlength := (mapM_eq_ok_iff.mp hread).length_eq
  rw [List.length_zip, hwidth, Nat.min_self] at hlength
  exact hlength.symm

theorem rectangular_of_reads {columns : List Column} {natives : List (List Native)}
    {rows : List Row} (hwidth : ∀ native ∈ natives, native.length = columns.length)
    (hcolumns : columns ≠ [] ∨ natives = [])
    (hrows : natives.mapM (NativeCursor.rowValues columns) = .ok rows) :
    (⟨columns, rows⟩ : ResultSet).Rectangular := by
  have hreads := mapM_eq_ok_iff.mp hrows
  constructor
  · intro row hrow
    obtain ⟨index, rfl⟩ := List.mem_iff_get.mp hrow
    obtain ⟨hlength, hget⟩ := List.forall₂_iff_get.mp hreads
    have hnative : index < natives.length := hlength.symm ▸ index.isLt
    exact length_of_rowValues (hwidth _ (List.get_mem natives ⟨index, hnative⟩))
      (hget index hnative index.isLt)
  · intro hzero
    rcases hcolumns with hne | rfl
    · exact absurd (List.length_eq_zero_iff.mp hzero) hne
    · exact List.forall₂_nil_left_iff.mp hreads

/-- Take any rows as a database stores them, as wide as there are columns, with at least one
column or no rows, and all of whose cells can be read.  They make up a result, and the live cursor
over them and the cursor over that result give the same answers to the same calls, one after
another and in whatever order. -/
theorem live_like_kept {columns : List Column} {natives : List (List Native)}
    (hwidth : ∀ native ∈ natives, native.length = columns.length)
    (hcolumns : columns ≠ [] ∨ natives = [])
    (hreads : ∀ native ∈ natives, ∀ cell ∈ native.zip columns,
      ∃ v, cell.1.toValue cell.2 = .ok v) :
    ∃ rows r, natives.mapM (NativeCursor.rowValues columns) = .ok rows ∧
      ResultSet.ofRows columns rows = .ok r ∧
        ∀ calls : List CursorCall,
          (interview answer (.native (.start columns natives)) calls).1 =
            (interview answer (.captured (.start r)) calls).1 := by
  have hrowReads : ∀ native ∈ natives, ∃ row, NativeCursor.rowValues columns native = .ok row :=
    fun native hnative => exists_mapM_eq_ok (hreads native hnative)
  obtain ⟨rows, hrows⟩ := exists_mapM_eq_ok hrowReads
  have hrect := rectangular_of_reads hwidth hcolumns hrows
  refine ⟨rows, ⟨columns, rows⟩, hrows, ResultSet.ofRows_eq_ok_iff.mpr ⟨rfl, hrect⟩, ?_⟩
  intro calls
  have halike : Alike (.native (.start columns natives)) (.captured (.start ⟨columns, rows⟩)) :=
    ⟨_, _, rfl, rfl, alongside_start rfl hrows⟩
  exact (simulates_alike.interview_eq halike (fun _ _ => trivial) fun _ _ => trivial).1

/-! ## Two rows of two columns -/

def mixedColumns : List Column :=
  [⟨"n", "n", 1, .integer, "INT", .nullable, 0, 0⟩,
    ⟨"s", "label", 2, .varchar, "TEXT", .nullable, 0, 0⟩]

def mixedNatives : List (List Native) :=
  [[.integer 7, .null], [.blob [0xFF], .integer 3]]

/-- What both cursors answer, from before the first row to behind the last one. -/
theorem mixedNatives_like_kept :
    (interview answer (.native (.start mixedColumns mixedNatives))
        [.value 0, .advance, .value 1, .value 3, .advance, .value 2, .findColumn "s", .advance,
          .advance, .value 1]).1 =
      [.value (.error .beforeFirstRow), .moved (.ok true), .value (.ok (.int32 7)),
        .value (.error (.ordinalNotFound 3 2)), .moved (.ok true), .value (.ok (.text "3")),
        .ordinal (.ok 2), .moved (.ok false), .moved (.ok false),
        .value (.error .afterLastRow)] := by
  have hwidth : ∀ native ∈ mixedNatives, native.length = mixedColumns.length := by decide
  have hreads : ∀ native ∈ mixedNatives, ∀ cell ∈ native.zip mixedColumns,
      ∃ v, cell.1.toValue cell.2 = .ok v := by
    intro native hnative cell hcell
    rcases List.mem_pair.mp hnative with rfl | rfl
    · rcases List.mem_pair.mp hcell with rfl | rfl
      · exact ⟨.int32 7, rfl⟩
      · exact ⟨.null, rfl⟩
    · rcases List.mem_pair.mp hcell with rfl | rfl
      · exact ⟨.bytes [0xFF], rfl⟩
      · exact ⟨.text "3", rfl⟩
  obtain ⟨rows, r, hrows, hr, hlike⟩ :=
    live_like_kept hwidth (Or.inl (List.cons_ne_nil _ _)) hreads
  obtain rfl : [[.int32 7, .null], [.bytes [0xFF], .text "3"]] = rows := Except.ok.inj hrows
  obtain rfl := (ResultSet.ofRows_eq_ok_iff.mp hr).1
  rw [hlike]
  rfl

end ResultCursor

end QueryReplay
