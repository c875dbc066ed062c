import QueryReplay.Proofs.Entry.Reader

/-!
# The grammar of stored results

This file says, without reference to any reader, which byte strings stand for
a result.  There are two forms: one names the number of rows in front of them,
the other marks each row and the end.  Everything has exactly one spelling but
for the digits of decimals, which may be in two's complement of any length
from one to sixteen bytes.  A time that is out of range has no spelling, even if
it can be held and written.

Sizes are kept apart from the grammar.  They only matter where a text or byte
string is so long that its length does not fit the eight bytes in front of it.
-/

namespace QueryReplay

/-! ## Results that have stored forms -/

namespace Value

/-- A value whose text or bytes are few enough to be counted in eight bytes. -/
def Sized : Value → Prop
  | .text s => (Utf8.encode s).length < 2 ^ 64
  | .bytes b => b.length < 2 ^ 64
  | _ => True

instance : (v : Value) → Decidable v.Sized
  | .text s => inferInstanceAs (Decidable ((Utf8.encode s).length < 2 ^ 64))
  | .bytes b => inferInstanceAs (Decidable (b.length < 2 ^ 64))
  | .null | .bool _ | .int32 _ | .int64 _ | .float64 _ | .decimal _ | .timestamp _ | .date _
  | .time _ => inferInstanceAs (Decidable True)

end Value

/-- A column whose texts are short enough to be counted in eight bytes. -/
def Column.Sized (c : Column) : Prop :=
  (Utf8.encode c.name).length < 2 ^ 64 ∧ (Utf8.encode c.label).length < 2 ^ 64 ∧
    (Utf8.encode c.typeName).length < 2 ^ 64

instance (c : Column) : Decidable c.Sized :=
  inferInstanceAs (Decidable (_ ∧ _))

namespace ResultSet

/-- All texts and byte strings of the result can be counted in eight bytes. -/
def Sized (r : ResultSet) : Prop :=
  (∀ c ∈ r.columns, c.Sized) ∧ ∀ row ∈ r.rows, ∀ v ∈ row, v.Sized

instance (r : ResultSet) : Decidable r.Sized :=
  inferInstanceAs (Decidable (_ ∧ _))

/-- Columns counted from one, and no digits but on decimals. -/
def Numbered (r : ResultSet) : Prop :=
  r.columns.map (·.ordinal) = List.range' 1 r.columns.length ∧
    ∀ c ∈ r.columns, c.type ≠ .decimal → c.precision = 0 ∧ c.scale = 0

instance (r : ResultSet) : Decidable r.Numbered :=
  inferInstanceAs (Decidable (_ ∧ _))

/-- Rows as wide as there are columns, and none where there are no columns. -/
def Rectangular (r : ResultSet) : Prop :=
  (∀ row ∈ r.rows, row.length = r.columns.length) ∧ (r.columns.length = 0 → r.rows = [])

instance (r : ResultSet) : Decidable r.Rectangular :=
  inferInstanceAs (Decidable (_ ∧ _))

end ResultSet

/-! ## The grammar -/

namespace Entry

open BigEndian

/-- The spellings of a value in range: the digits of a decimal in two's complement of any length
up to sixteen bytes, and any other value only as it is written. -/
inductive ValueSpelling : Value → List UInt8 → Prop where
  | decimal {d : Decimal} {digits : List UInt8} (hscale : d.scale ≤ Decimal.maxScale)
      (hpos : 0 < digits.length) (hle : digits.length ≤ 16)
      (hdigits : decodeSigned digits = d.unscaled) :
      ValueSpelling (.decimal d) (5 :: (encode 4 d.scale ++ encode 1 digits.length ++ digits))
  | other {v : Value} (hkind : v.kind ≠ .decimal) (hformed : v.WellFormed) :
      ValueSpelling v (putValue v)

/-- The spellings of a row: its null bits, and spellings of the values that are not null. -/
def RowSpelling (row : Row) (b : List UInt8) : Prop :=
  ∃ cells, Series ValueSpelling (row.filter (!·.isNull)) cells ∧
    b = packBits (row.map Value.isNull) ++ cells

/-- The number of rows, and then the rows. -/
def CountedRows (rows : List Row) (b : List UInt8) : Prop :=
  rows.length < streamedRowCount ∧
    ∃ body, Series RowSpelling rows body ∧ b = encode 8 rows.length ++ body

/-- Eight bytes `0xFF`, the rows with a byte `1` in front of each, and a byte `0`. -/
def StreamedRows (rows : List Row) (b : List UInt8) : Prop :=
  ∃ body, Series (fun row b => ∃ x, RowSpelling row x ∧ b = 1 :: x) rows body ∧
    b = List.replicate 8 0xFF ++ body ++ [0]

/-- The byte strings that stand for a result. -/
structure Spelling (r : ResultSet) (b : List UInt8) : Prop where
  numbered : r.Numbered
  rectangular : r.Rectangular
  /-- The number of columns stands in four bytes. -/
  columns_lt : r.columns.length < 2 ^ 32
  rows : ∃ rest, b = putHeader r.columns ++ rest ∧
    (CountedRows r.rows rest ∨ StreamedRows r.rows rest)

/-! ## Spellings of values -/

theorem ValueSpelling.wellFormed {v : Value} {b : List UInt8} (h : ValueSpelling v b) :
    v.WellFormed := by
  cases h with
  | decimal hscale hpos hle hdigits =>
      refine ⟨hscale, ?_⟩
      rw [← hdigits]
      exact fits_of_fitsSigned hle (fitsSigned_decodeSigned _)
  | other hkind hformed => exact hformed

/-- What is written for a value in range is one of its spellings. -/
theorem valueSpelling_putValue {v : Value} (h : v.WellFormed) :
    ValueSpelling v (putValue v) := by
  by_cases hkind : v.kind = .decimal
  · cases v with
    | decimal d =>
        exact ValueSpelling.decimal h.1 (length_shortest_pos _) (length_shortest_le _)
          (decodeSigned_shortest h.2)
    | _ => cases hkind
  · exact ValueSpelling.other hkind h

theorem rowSpelling_putRow {row : Row} (h : ∀ v ∈ row, v.WellFormed) :
    RowSpelling row (putRow row) := by
  refine ⟨(row.filter (!·.isNull)).flatMap putValue, Series.flatMap fun v hv => ?_, rfl⟩
  exact valueSpelling_putValue (h v (List.mem_filter.mp hv).1)

/-! ## Sizes -/

theorem ValueSpelling.sized {v : Value} {b : List UInt8} (h : ValueSpelling v b)
    (hb : b.length < 2 ^ 64) : v.Sized := by
  cases h with
  | decimal => trivial
  | other hkind hformed =>
      cases v with
      | text s =>
          simp only [putValue, putText, putBytes, List.length_cons, List.length_append] at hb
          show (Utf8.encode s).length < 2 ^ 64
          omega
      | bytes x =>
          simp only [putValue, putBytes, List.length_cons, List.length_append] at hb
          show x.length < 2 ^ 64
          omega
      | _ => trivial

/-- The null value takes no room, so only the other values of a row matter. -/
theorem forall_mem_of_forall_filter {P : Value → Prop} (hnull : P .null) {row : Row}
    (h : ∀ v ∈ row.filter (!·.isNull), P v) : ∀ v ∈ row, P v := by
  intro v hv
  by_cases hv' : v = .null
  · rw [hv']
    exact hnull
  · have hother : v.isNull = false := beq_eq_false_iff_ne.mpr hv'
    exact h v (List.mem_filter.mpr ⟨hv, by rw [hother]; rfl⟩)

theorem RowSpelling.sized {row : Row} {b : List UInt8} (h : RowSpelling row b)
    (hb : b.length < 2 ^ 64) : ∀ v ∈ row, v.Sized := by
  obtain ⟨cells, hcells, rfl⟩ := h
  rw [List.length_append] at hb
  apply forall_mem_of_forall_filter (P := Value.Sized) trivial
  intro v hv
  obtain ⟨x, hx, hle⟩ := hcells.exists_of_mem hv
  exact hx.sized (by omega)

theorem sized_of_length_putColumn {c : Column} (h : (putColumn c).length < 2 ^ 64) :
    c.Sized := by
  simp only [putColumn, putText, putBytes, List.length_append, List.length_cons] at h
  unfold Column.Sized
  omega

/-- In a byte string that can be held at all, every size fits. -/
theorem Spelling.sized {r : ResultSet} {b : List UInt8} (h : Spelling r b)
    (hb : b.length < 2 ^ 64) : r.Sized := by
  obtain ⟨rest, rfl, hrows⟩ := h.rows
  rw [List.length_append] at hb
  constructor
  · intro c hc
    have hseries : Series (fun c b => b = putColumn c) r.columns (r.columns.flatMap putColumn) :=
      Series.eq_iff.mpr rfl
    obtain ⟨_, rfl, hle⟩ := hseries.exists_of_mem hc
    apply sized_of_length_putColumn
    simp only [putHeader, List.length_append, List.length_cons] at hb
    omega
  · intro row hrow
    rcases hrows with ⟨_, body, hbody, rfl⟩ | ⟨body, hbody, rfl⟩
    · obtain ⟨x, hx, hle⟩ := hbody.exists_of_mem hrow
      simp only [List.length_append] at hb
      exact hx.sized (by omega)
    · obtain ⟨_, ⟨x, hx, rfl⟩, hle⟩ := hbody.exists_of_mem hrow
      simp only [List.length_append, List.length_cons] at hb hle
      exact hx.sized (by omega)

end Entry

end QueryReplay
