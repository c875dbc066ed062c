import QueryReplay.Proofs.Entry.Grammar

/-!
# Columns as they are stored

What comes back from storage is the same result with its columns counted from
one and without digits on columns that are not decimals.  This file shows that
nothing is lost twice, that results in this form are exactly those that come
back unchanged, and that the change is not seen in what is written.
-/

namespace QueryReplay

namespace ResultSet

/-! ## One column -/

theorem storedColumn_eq_self_iff {n : Nat} {c : Column} :
    storedColumn n c = c ↔
      c.ordinal = n ∧ (c.type ≠ .decimal → c.precision = 0 ∧ c.scale = 0) := by
  obtain ⟨name, label, ordinal, type, typeName, nullability, precision, scale⟩ := c
  by_cases htype : type = .decimal
  · simp [storedColumn, htype, eq_comm]
  · simp [storedColumn, htype, eq_comm]

theorem storedColumn_storedColumn (n m : Nat) (c : Column) :
    storedColumn n (storedColumn m c) = storedColumn n c := by
  by_cases htype : c.type = .decimal
  · simp [storedColumn, htype]
  · simp [storedColumn, htype]

theorem sized_storedColumn {n : Nat} {c : Column} : (storedColumn n c).Sized ↔ c.Sized := by
  unfold storedColumn
  split <;> rfl

theorem putColumn_storedColumn (n : Nat) (c : Column) :
    Entry.putColumn (storedColumn n c) = Entry.putColumn c := by
  by_cases htype : c.type = .decimal
  · simp [storedColumn, Entry.putColumn, htype]
  · simp [storedColumn, Entry.putColumn, htype]

/-! ## All columns -/

@[simp] theorem length_storedColumns (n : Nat) (columns : List Column) :
    (storedColumns n columns).length = columns.length := by
  induction columns generalizing n with
  | nil => rfl
  | cons c columns ih => rw [storedColumns, List.length_cons, ih, List.length_cons]

theorem storedColumns_storedColumns (n m : Nat) (columns : List Column) :
    storedColumns n (storedColumns m columns) = storedColumns n columns := by
  induction columns generalizing n m with
  | nil => rfl
  | cons c columns ih =>
      rw [storedColumns, storedColumns, storedColumns, storedColumn_storedColumn, ih]

theorem storedColumns_map_storedColumn (n m : Nat) (columns : List Column) :
    storedColumns n (columns.map (storedColumn m)) = storedColumns n columns := by
  induction columns generalizing n with
  | nil => rfl
  | cons c columns ih =>
      rw [List.map_cons, storedColumns, storedColumns, storedColumn_storedColumn, ih]

theorem sized_storedColumns {n : Nat} {columns : List Column} :
    (∀ c ∈ storedColumns n columns, c.Sized) ↔ ∀ c ∈ columns, c.Sized := by
  induction columns generalizing n with
  | nil => simp [storedColumns]
  | cons c columns ih =>
      rw [storedColumns, List.forall_mem_cons, List.forall_mem_cons, ih, sized_storedColumn]

theorem flatMap_putColumn_storedColumns (n : Nat) (columns : List Column) :
    (storedColumns n columns).flatMap Entry.putColumn = columns.flatMap Entry.putColumn := by
  induction columns generalizing n with
  | nil => rfl
  | cons c columns ih =>
      rw [storedColumns, List.flatMap_cons, List.flatMap_cons, putColumn_storedColumn, ih]

theorem storedColumns_eq_self_iff {n : Nat} {columns : List Column} :
    storedColumns n columns = columns ↔
      columns.map (·.ordinal) = List.range' n columns.length ∧
        ∀ c ∈ columns, c.type ≠ .decimal → c.precision = 0 ∧ c.scale = 0 := by
  induction columns generalizing n with
  | nil => simp [storedColumns]
  | cons c columns ih =>
      rw [storedColumns, List.cons_eq_cons, storedColumn_eq_self_iff, ih, List.forall_mem_cons,
        List.map_cons, List.length_cons, List.range'_succ, List.cons_eq_cons]
      constructor
      · rintro ⟨⟨hordinal, hzero⟩, hordinals, hzeros⟩
        exact ⟨⟨hordinal, hordinals⟩, hzero, hzeros⟩
      · rintro ⟨⟨hordinal, hordinals⟩, hzero, hzeros⟩
        exact ⟨⟨hordinal, hzero⟩, hordinals, hzeros⟩

/-! ## Results -/

/-- Exactly the results with columns counted from one, and no digits but on decimals, come back
as they are. -/
theorem stored_eq_self_iff {r : ResultSet} : r.stored = r ↔ r.Numbered := by
  obtain ⟨columns, rows⟩ := r
  rw [Numbered, ← storedColumns_eq_self_iff]
  simp [stored]

theorem stored_stored (r : ResultSet) : r.stored.stored = r.stored := by
  simp [stored, storedColumns_storedColumns]

theorem numbered_stored (r : ResultSet) : r.stored.Numbered :=
  stored_eq_self_iff.mp (stored_stored r)

theorem rectangular_stored {r : ResultSet} : r.stored.Rectangular ↔ r.Rectangular := by
  simp [Rectangular, stored]

theorem sized_stored {r : ResultSet} : r.stored.Sized ↔ r.Sized := by
  simp only [Sized, stored, sized_storedColumns]

theorem putHeader_stored (r : ResultSet) :
    Entry.putHeader r.stored.columns = Entry.putHeader r.columns := by
  simp [Entry.putHeader, stored, flatMap_putColumn_storedColumns]

theorem rowDefect?_eq_none_iff {columns : Nat} {row : Row} :
    rowDefect? columns row = none ↔ columns ≠ 0 ∧ row.length = columns := by
  by_cases hzero : columns = 0
  · simp [rowDefect?, hzero]
  · simp [rowDefect?, hzero]

theorem rectangular_iff {r : ResultSet} :
    r.Rectangular ↔
      ∀ row ∈ r.rows, r.columns.length ≠ 0 ∧ row.length = r.columns.length := by
  constructor
  · rintro ⟨hwidth, hzero⟩ row hrow
    refine ⟨fun h => ?_, hwidth row hrow⟩
    rw [hzero h] at hrow
    cases hrow
  · intro h
    refine ⟨fun row hrow => (h row hrow).2, fun hzero => ?_⟩
    exact List.eq_nil_iff_forall_not_mem.mpr fun row hrow => (h row hrow).1 hzero

/-- Columns and rows are accepted as a result exactly if the rows fit the columns. -/
theorem ofRows_eq_ok_iff {columns : List Column} {rows : List Row} {r : ResultSet} :
    ofRows columns rows = .ok r ↔ r = ⟨columns, rows⟩ ∧ r.Rectangular := by
  have hnone : rows.findSome? (rowDefect? columns.length) = none ↔
      (⟨columns, rows⟩ : ResultSet).Rectangular := by
    rw [List.findSome?_eq_none_iff, rectangular_iff]
    simp only [rowDefect?_eq_none_iff]
  unfold ofRows
  cases h : rows.findSome? (rowDefect? columns.length) with
  | none =>
      constructor
      · rintro ⟨⟩
        exact ⟨rfl, hnone.mp h⟩
      · rintro ⟨rfl, _⟩
        rfl
  | some defect =>
      constructor
      · rintro ⟨⟩
      · rintro ⟨rfl, hrect⟩
        rw [hnone.mpr hrect] at h
        cases h

end ResultSet

end QueryReplay
