import QueryReplay.Proofs.Entry.Columns
import QueryReplay.Proofs.Entry.NullBits
import QueryReplay.Proofs.Entry.Values

/-!
# Rows and columns are read exactly

A row is its null bits and then its other values, so the bits read first decide
how many values follow and where they go.  A column has only one spelling, and
its place is not part of it.
-/

namespace QueryReplay.Entry

open BigEndian Reader

/-! ## Rows -/

/-- The values behind the null bits are those that are not null, in order. -/
theorem exact_getCells (done : List Value) (nulls : List Bool) :
    Exact (getCells done nulls) fun row b => ∃ cells, row = done.reverse ++ cells ∧
      cells.map Value.isNull = nulls ∧
        Series (fun v b => ValueSpelling v b ∧ v.Sized) (cells.filter (!·.isNull)) b := by
  induction nulls generalizing done with
  | nil =>
      refine (exact_pure done.reverse).congr fun row b => ?_
      constructor
      · rintro ⟨rfl, rfl⟩
        exact ⟨[], (List.append_nil _).symm, rfl, Series.nil⟩
      · rintro ⟨cells, rfl, hcells, hb⟩
        obtain rfl := List.map_eq_nil_iff.mp hcells
        exact ⟨List.append_nil _, Series.nil_iff.mp hb⟩
  | cons null nulls ih =>
      cases null with
      | true =>
          refine (ih (.null :: done)).congr fun row b => ?_
          constructor
          · rintro ⟨cells, rfl, rfl, hb⟩
            exact ⟨.null :: cells, by simp, rfl, hb⟩
          · rintro ⟨cells, rfl, hcells, hb⟩
            obtain ⟨v, cells, rfl, hv, rfl⟩ := List.map_eq_cons_iff.mp hcells
            obtain rfl : v = .null := eq_of_beq hv
            exact ⟨cells, by simp, rfl, hb⟩
      | false =>
          refine (exact_getValue.bind fun v => Exact.guard (ih (v :: done))).congr
            fun row b => ?_
          constructor
          · rintro ⟨v, x, y, hx, ⟨hv, cells, rfl, rfl, hy⟩, rfl⟩
            have hv' : v.isNull = false := Bool.eq_false_iff.mpr hv
            refine ⟨v :: cells, by simp, by simp [hv'], ?_⟩
            rw [List.filter_cons_of_pos (by simp [hv'])]
            exact Series.cons hx hy
          · rintro ⟨cells, rfl, hcells, hb⟩
            obtain ⟨v, cells, rfl, hv, rfl⟩ := List.map_eq_cons_iff.mp hcells
            rw [List.filter_cons_of_pos (by simp [hv])] at hb
            obtain ⟨x, y, hx, hy, rfl⟩ := Series.cons_iff.mp hb
            exact ⟨v, x, y, hx, ⟨by simp [hv], cells, by simp, rfl, hy⟩, rfl⟩

/-- A row of a result with that many columns. -/
def Fitting (columns : Nat) (row : Row) : Prop :=
  columns ≠ 0 ∧ row.length = columns ∧ ∀ v ∈ row, v.Sized

theorem exact_getRow (columns : Nat) :
    Exact (getRow columns) fun row b => RowSpelling row b ∧ Fitting columns row := by
  refine ((exact_take (bitmapLength columns)).bind fun bytes => Exact.guard <|
    (exact_getCells [] ((bytes.flatMap bitsOfByte).take columns)).bind fun row =>
      Exact.guard (exact_pure row)).congr fun row b => ?_
  constructor
  · rintro ⟨bytes, _, _, ⟨rfl, hlength⟩, ⟨hstray, _, cells, _, ⟨row, rfl, hnulls, hcells⟩,
      ⟨hcolumns, rfl, rfl⟩, rfl⟩, rfl⟩
    obtain ⟨hwidth, rfl⟩ := nullBits_iff.mp ⟨hlength, hstray, hnulls.symm⟩
    obtain ⟨hcells, hsized⟩ := Series.and_iff.mp hcells
    exact ⟨⟨cells, hcells, by simp⟩, hcolumns, by simpa using hwidth,
      forall_mem_of_forall_filter (P := Value.Sized) trivial hsized⟩
  · rintro ⟨⟨cells, hcells, rfl⟩, hcolumns, hwidth, hsized⟩
    obtain ⟨hlength, hstray, hnulls⟩ := nullBits_iff.mpr
      ⟨(List.length_map Value.isNull).trans hwidth, rfl⟩
    have hcells' := Series.and_iff.mpr
      ⟨hcells, fun v hv => hsized v (List.mem_filter.mp hv).1⟩
    exact ⟨_, _, cells ++ [], ⟨rfl, hlength⟩, ⟨hstray, row, cells, [],
      ⟨row, rfl, hnulls.symm, hcells'⟩, ⟨hcolumns, rfl, rfl⟩, rfl⟩, by simp⟩

/-- Without columns a row is refused before a byte is taken. -/
theorem run_getRow_zero (input : Input) :
    (getRow 0).run input = .error .rowWithoutColumns :=
  rfl

/-! ## Columns -/

theorem columnType_ofTag?_eq_some_iff {tag : UInt8} {type : ColumnType} :
    ColumnType.ofTag? tag = some type ↔ tag = type.tag := by
  constructor
  · intro h
    have hfound := List.find?_some (show ColumnType.all.find? (·.tag == tag) = some type from h)
    exact (eq_of_beq hfound).symm
  · rintro rfl
    cases type <;> rfl

theorem nullability_ofTag?_eq_some_iff {tag : UInt8} {n : Nullability} :
    Nullability.ofTag? tag = some n ↔ tag = n.tag := by
  constructor
  · intro h
    have hfound := List.find?_some
      (show [Nullability.noNulls, .nullable, .unknown].find? (·.tag == tag) = some n from h)
    exact (eq_of_beq hfound).symm
  · rintro rfl
    cases n <;> rfl

/-- The digits of a column, in four bytes each if it is a decimal. -/
theorem exact_getDigits (type : ColumnType) (column : UInt32 → Int32 → Column) :
    Exact (if type = .decimal then do
        let precision := UInt32.ofNat (← nat 4)
        let scale := Int32.ofInt (← int 4)
        return column precision scale
      else return column 0 0)
      fun c b => ∃ precision scale, c = column precision scale ∧
        (type ≠ .decimal → precision = 0 ∧ scale = 0) ∧
          b = if type = .decimal then encode 4 precision.toNat ++ encodeSigned 4 scale.toInt
            else [] := by
  by_cases htype : type = .decimal
  · rw [if_pos htype]
    refine ((exact_nat 4).bind fun n => exact_int32 (column (UInt32.ofNat n))).congr
      fun c b => ?_
    simp only [if_pos htype]
    constructor
    · rintro ⟨n, _, _, ⟨rfl, hn⟩, ⟨scale, rfl, rfl⟩, rfl⟩
      refine ⟨_, scale, rfl, fun h => absurd htype h, ?_⟩
      rw [UInt32.toNat_ofNat', Nat.mod_eq_of_lt (show n < 2 ^ 32 from hn)]
    · rintro ⟨precision, scale, rfl, _, rfl⟩
      exact ⟨precision.toNat, _, _, ⟨rfl, precision.toNat_lt⟩,
        ⟨scale, by rw [UInt32.ofNat_toNat], rfl⟩, rfl⟩
  · rw [if_neg htype]
    refine (exact_pure (column 0 0)).congr fun c b => ?_
    simp only [if_neg htype]
    constructor
    · rintro ⟨rfl, rfl⟩
      exact ⟨0, 0, rfl, fun _ => ⟨rfl, rfl⟩, rfl⟩
    · rintro ⟨precision, scale, rfl, hzero, rfl⟩
      obtain ⟨rfl, rfl⟩ := hzero htype
      exact ⟨rfl, rfl⟩

theorem exact_getColumn :
    Exact getColumn fun c b =>
      b = putColumn c ∧ ResultSet.storedColumn 0 c = c ∧ c.Sized := by
  have h := exact_text.bind fun name => exact_text.bind fun label => exact_byte.bind fun tag =>
    (exact_require (.unknownTypeTag tag) (ColumnType.ofTag? tag)).bind fun type =>
      exact_text.bind fun typeName => exact_byte.bind fun nullTag =>
        (exact_require (.unknownNullabilityTag nullTag) (Nullability.ofTag? nullTag)).bind
          fun nullability => exact_getDigits type fun precision scale =>
            ⟨name, label, 0, type, typeName, nullability, precision, scale⟩
  unfold getColumn
  refine h.congr fun c b => ?_
  constructor
  · rintro ⟨name, _, _, ⟨rfl, hname⟩, ⟨label, _, _, ⟨rfl, hlabel⟩, ⟨_, _, _, rfl, ⟨type, _, _,
      ⟨htype, rfl⟩, ⟨typeName, _, _, ⟨rfl, htypeName⟩, ⟨_, _, _, rfl, ⟨nullability, _, _,
      ⟨hnullability, rfl⟩, ⟨precision, scale, rfl, hzero, rfl⟩, rfl⟩, rfl⟩, rfl⟩, rfl⟩, rfl⟩,
      rfl⟩, rfl⟩
    obtain rfl := columnType_ofTag?_eq_some_iff.mp htype
    obtain rfl := nullability_ofTag?_eq_some_iff.mp hnullability
    exact ⟨by simp [putColumn], ResultSet.storedColumn_eq_self_iff.mpr ⟨rfl, hzero⟩,
      ⟨hname, hlabel, htypeName⟩⟩
  · obtain ⟨name, label, ordinal, type, typeName, nullability, precision, scale⟩ := c
    rintro ⟨rfl, hstored, ⟨hname, hlabel, htypeName⟩⟩
    obtain ⟨rfl, hzero⟩ := ResultSet.storedColumn_eq_self_iff.mp hstored
    have htype := columnType_ofTag?_eq_some_iff.mpr (Eq.refl type.tag)
    have hnullability := nullability_ofTag?_eq_some_iff.mpr (Eq.refl nullability.tag)
    exact ⟨name, _, _, ⟨rfl, hname⟩, ⟨label, _, _, ⟨rfl, hlabel⟩, ⟨type.tag, _, _, rfl,
      ⟨type, [], _, ⟨htype, rfl⟩, ⟨typeName, _, _, ⟨rfl, htypeName⟩, ⟨nullability.tag, _, _, rfl,
      ⟨nullability, [], _, ⟨hnullability, rfl⟩, ⟨precision, scale, rfl, hzero, rfl⟩, rfl⟩, rfl⟩,
      rfl⟩, rfl⟩, rfl⟩, rfl⟩, by simp [putColumn]⟩

end QueryReplay.Entry
