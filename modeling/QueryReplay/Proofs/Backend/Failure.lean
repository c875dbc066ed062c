import QueryReplay.Proofs.Backend.Collect

/-!
# Cursors that fail on the way

A cursor may fail when it is moved on, at any row, or when a value is read, in
any column of any row.  The failure that counts is the first one, row after row
and each row from the left, since reading ends there.  Capturing a result meets
just this failure and passes it on as it is, with one exception: a row without
any columns cannot be kept, so it ends the capture before later rows are seen.
-/

namespace QueryReplay

namespace ResultCursor

/-- The first error of a cursor that is read to its end, row after row and each row from the
left. -/
inductive BreaksWith : ResultCursor → Error → Prop where
  /-- The cursor cannot be moved on. -/
  | advance {c next : ResultCursor} {e : Error} (hmoved : c.advance = (.error e, next)) :
      BreaksWith c e
  /-- A value of the next row cannot be read, and those before it can. -/
  | value {c next : ResultCursor} {e : Error} {ordinal : Nat}
      (hmoved : c.advance = (.ok true, next)) (hpos : 1 ≤ ordinal)
      (hle : ordinal ≤ c.columns.length)
      (hbefore : ∀ o, 1 ≤ o → o < ordinal → ∃ v, next.value o = .ok v)
      (hvalue : next.value ordinal = .error e) : BreaksWith c e
  /-- The next row can be read, and then the cursor breaks. -/
  | later {c next : ResultCursor} {e : Error} (hmoved : c.advance = (.ok true, next))
      (hrow : ∀ o, 1 ≤ o → o ≤ c.columns.length → ∃ v, next.value o = .ok v)
      (hlater : BreaksWith next e) : BreaksWith c e

/-! ## Rows -/

section Rows

variable {f : Nat → Except Error Value} {start count : Nat}

theorem mapM_range'_of_first_error {ordinal : Nat} {e : Error} (hle : start ≤ ordinal)
    (hlt : ordinal < start + count)
    (hbefore : ∀ o, start ≤ o → o < ordinal → ∃ v, f o = .ok v)
    (herror : f ordinal = .error e) : (List.range' start count).mapM f = .error e := by
  induction count generalizing start with
  | zero => omega
  | succ count ih =>
      rw [List.range'_succ, List.mapM_cons]
      by_cases hhere : start = ordinal
      · rw [hhere, herror]
        rfl
      · obtain ⟨v, hv⟩ := hbefore start (Nat.le_refl _) (by omega)
        have hlater (o : Nat) (hfrom : start + 1 ≤ o) (hto : o < ordinal) :
            ∃ v, f o = .ok v := by
          apply hbefore
          · omega
          · exact hto
        have hrest := ih (by omega) (by omega) hlater
        rw [hv]
        show ((List.range' (start + 1) count).mapM f >>= fun values => pure (v :: values)) = _
        rw [hrest]
        rfl

end Rows

/-! ## Capturing -/

variable {c next : ResultCursor}

/-- Reading ends at the first error, whatever has been read before. -/
theorem collectOnto_of_breaksWith {columns : Nat} {e : Error} (hbreaks : c.BreaksWith e)
    (hcolumns : c.columns.length = columns) (hwide : columns ≠ 0) (done : List Row)
    {steps : Nat} (hsteps : c.rowsLeft < steps) :
    collectOnto (fitting columns) done steps c = .error e := by
  induction hbreaks generalizing done steps with
  | advance hmoved =>
      cases steps with
      | zero => cases hsteps
      | succ steps => rw [collectOnto, hmoved]
  | @value c next e ordinal hmoved hpos hle hbefore hvalue =>
      cases steps with
      | zero => cases hsteps
      | succ steps =>
          have hrow : next.row = .error e := by
            unfold row
            rw [columns_of_advance hmoved]
            exact mapM_range'_of_first_error hpos (by omega) hbefore hvalue
          rw [collectOnto, hmoved]
          simp only [hrow, Except.bind]
  | @later c next e hmoved hrow _ ih =>
      cases steps with
      | zero => cases hsteps
      | succ steps =>
          have hsame := columns_of_advance hmoved
          have hleft := rowsLeft_lt_of_advance hmoved
          rw [← hsame] at hcolumns hrow
          obtain ⟨row, hshows⟩ := exists_shows hrow
          have hfits : fitting columns row = .ok row :=
            fitting_eq_ok_iff.mpr ⟨rfl, hwide, hshows.length_eq.trans hcolumns⟩
          rw [collectOnto, hmoved]
          simp only [row_eq_ok_iff.mpr hshows, Except.bind, hfits]
          exact ih hcolumns (row :: done) (by omega)

/-- A cursor with columns that breaks is not captured, and its error is that of the capture. -/
theorem capture_of_breaksWith {e : Error} (hbreaks : c.BreaksWith e) (hwide : c.columns ≠ []) :
    c.capture = .error e := by
  have hlength : c.columns.length ≠ 0 := by
    intro hzero
    exact hwide (List.eq_nil_of_length_eq_zero hzero)
  have hread : c.collect (fitting c.columns.length) = .error e :=
    collectOnto_of_breaksWith hbreaks rfl hlength []
      (Nat.lt_succ_of_le c.rowsLeft_le_ahead)
  unfold capture
  rw [hread]
  rfl

theorem capture_of_advance_error {e : Error} (hmoved : c.advance = (.error e, next)) :
    c.capture = .error e := by
  unfold capture collect
  rw [collectOnto, hmoved]
  rfl

/-- A row without columns cannot be kept. -/
theorem capture_of_no_columns (hnone : c.columns = []) (hmoved : c.advance = (.ok true, next)) :
    c.capture = .error (.corrupt .rowWithoutColumns) := by
  have hrow : next.row = .ok [] := by
    unfold row
    rw [columns_of_advance hmoved, hnone]
    rfl
  unfold capture collect
  rw [collectOnto, hmoved]
  simp only [hrow, hnone]
  rfl

end ResultCursor

end QueryReplay
