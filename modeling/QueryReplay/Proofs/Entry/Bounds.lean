import QueryReplay.Proofs.Entry.RoundTrip

/-!
# Results are no larger than their bytes

Whatever bytes are read, each column and each row that comes out of them has
taken bytes of its own.  So a number of columns or rows that is only announced
cannot make the reader build more than the bytes suffice for, nor go on when
they are used up.

What has been read can be stored again, in no more bytes than before, and is
then read back unchanged.
-/

namespace QueryReplay.Entry

open BigEndian Reader

/-! ## Items one after another -/

namespace Reader

variable {α : Type} {item : Reader α}

/-- How many of `count` items are read before the first one that is refused. -/
def itemsRead (item : Reader α) : Nat → Input → Nat
  | 0, _ => 0
  | count + 1, input =>
    match item.run input with
    | .ok (_, next) => itemsRead item count next + 1
    | .error _ => 0

theorem itemsRead_succ_of_ok {count : Nat} {a : α} {input next : Input}
    (h : item.run input = .ok (a, next)) :
    itemsRead item (count + 1) input = itemsRead item count next + 1 := by
  rw [itemsRead, h]

theorem itemsRead_succ_of_error {count : Nat} {defect : Corruption} {input : Input}
    (h : item.run input = .error defect) : itemsRead item (count + 1) input = 0 := by
  rw [itemsRead, h]

/-- A loop over items that take at least `width` bytes each: it makes no more turns than there are
bytes for and one more, and is left with the defect of the first item that is refused. -/
structure LoopBounded (item : Reader α) (width count : Nat) (input : Input) : Prop where
  room : itemsRead item count input * width ≤ input.rest.length
  ending : (itemsRead item count input = count ∧
      ∃ next, (repeated count item).run input = .ok next) ∨
    (itemsRead item count input < count ∧ ∃ mid defect, item.run mid = .error defect ∧
      (repeated count item).run input = .error defect)

/-- The loop goes on as long as items are read. -/
theorem run_repeatOnto_cases (item : Reader α) (done : List α) (count : Nat) (input : Input) :
    (itemsRead item count input = count ∧
        ∃ next, (repeatOnto item done count).run input = .ok next) ∨
      (itemsRead item count input < count ∧ ∃ mid defect, item.run mid = .error defect ∧
        (repeatOnto item done count).run input = .error defect) := by
  induction count generalizing done input with
  | zero => exact Or.inl ⟨rfl, _, rfl⟩
  | succ count ih =>
      cases hitem : item.run input with
      | error defect =>
          right
          rw [itemsRead_succ_of_error hitem]
          exact ⟨Nat.succ_pos count, input, defect, hitem, run_bind_of_error hitem⟩
      | ok read =>
          obtain ⟨a, next⟩ := read
          have hloop : (repeatOnto item done (count + 1)).run input =
              (repeatOnto item (a :: done) count).run next := run_bind_of_ok hitem
          rw [itemsRead_succ_of_ok hitem, hloop]
          apply (ih (a :: done) next).imp
          · exact And.imp_left (congrArg Nat.succ)
          · exact And.imp_left Nat.succ_lt_succ

/-- Items that take bytes are read only as long as there are bytes. -/
theorem itemsRead_mul_le {R : α → List UInt8 → Prop} {width : Nat} (hitem : Exact item R)
    (hwidth : ∀ a b, R a b → width ≤ b.length) (count : Nat) (input : Input) :
    itemsRead item count input * width ≤ input.rest.length := by
  induction count generalizing input with
  | zero =>
      rw [itemsRead, Nat.zero_mul]
      exact Nat.zero_le _
  | succ count ih =>
      cases hrun : item.run input with
      | error defect =>
          rw [itemsRead_succ_of_error hrun, Nat.zero_mul]
          exact Nat.zero_le _
      | ok read =>
          obtain ⟨a, next⟩ := read
          obtain ⟨b, hb, htakes⟩ := (hitem input a next).mp hrun
          have hroom := hwidth a b hb
          have hlength := htakes.length_rest
          have hnext := ih next
          rw [itemsRead_succ_of_ok hrun, Nat.succ_mul]
          omega

theorem Exact.loopBounded {R : α → List UInt8 → Prop} {width : Nat} (hitem : Exact item R)
    (hwidth : ∀ a b, R a b → width ≤ b.length) (count : Nat) (input : Input) :
    LoopBounded item width count input :=
  ⟨itemsRead_mul_le hitem hwidth count input, run_repeatOnto_cases item [] count input⟩

end Reader

/-! ## Columns -/

/-- Three texts behind their lengths, and two tags. -/
theorem le_length_putColumn (c : Column) : 26 ≤ (putColumn c).length := by
  simp only [putColumn, putText, putBytes, List.length_append, List.length_cons, length_encode]
  omega

theorem le_length_putHeader (columns : List Column) :
    26 * columns.length ≤ (putHeader columns).length := by
  have hcolumns : Series (fun c b => b = putColumn c) columns (columns.flatMap putColumn) :=
    Series.eq_iff.mpr rfl
  have hroom : columns.length * 26 ≤ (columns.flatMap putColumn).length := by
    apply hcolumns.length_mul_le
    rintro c _ rfl
    exact le_length_putColumn c
  simp only [putHeader, List.length_append]
  omega

/-! ## Values and rows -/

/-- No value is written longer than it has been read. -/
theorem ValueSpelling.length_putValue_le {v : Value} {b : List UInt8} (h : ValueSpelling v b) :
    (putValue v).length ≤ b.length := by
  have hformed := h.wellFormed
  cases h with
  | @decimal d digits hscale hpos hle hdigits =>
      have hfits : FitsSigned digits.length d.unscaled := by
        rw [← hdigits]
        exact fitsSigned_decodeSigned digits
      have hshort := length_shortest_le_of_fitsSigned hformed.2 hpos hfits
      simp only [putValue, putDecimal, List.length_cons, List.length_append, length_encode]
      omega
  | other hkind _ => exact Nat.le_refl _

namespace RowSpelling

variable {row : Row} {b : List UInt8}

theorem wellFormed (h : RowSpelling row b) : ∀ v ∈ row, v.WellFormed := by
  obtain ⟨cells, hcells, _⟩ := h
  apply forall_mem_of_forall_filter (P := Value.WellFormed) trivial
  intro v hv
  obtain ⟨x, hx, _⟩ := hcells.exists_of_mem hv
  exact hx.wellFormed

theorem length_putRow_le (h : RowSpelling row b) : (putRow row).length ≤ b.length := by
  obtain ⟨cells, hcells, rfl⟩ := h
  have hvalues := hcells.length_flatMap_le fun v x hx => hx.length_putValue_le
  rw [putRow, List.length_append, List.length_append]
  exact Nat.add_le_add_left hvalues _

end RowSpelling

/-! ## Rows in either form -/

/-- The bytes of a row, which may stand behind a mark. -/
def RowWithin (row : Row) (b : List UInt8) : Prop :=
  ∃ x, RowSpelling row x ∧ x <:+ b

theorem RowWithin.length_le {row : Row} {b : List UInt8} {n : Nat} (h : RowWithin row b)
    (hrow : ∀ x, RowSpelling row x → n ≤ x.length) : n ≤ b.length := by
  obtain ⟨x, hx, hsuffix⟩ := h
  exact (hrow x hx).trans hsuffix.length_le

/-- In either form the number in front of the rows is followed by bytes for each of them.  A
number of rows that is not announced is no larger than the bytes are. -/
theorem Spelling.exists_body {r : ResultSet} {b : List UInt8} (h : Spelling r b) :
    ∃ count body tail, b = putHeader r.columns ++ (encode 8 count ++ (body ++ tail)) ∧
      Series RowWithin r.rows body ∧
        (count = r.rows.length ∧ count < streamedRowCount ∨
          count = streamedRowCount ∧ r.rows.length ≤ body.length) := by
  obtain ⟨rest, rfl, hrows⟩ := h.rows
  rcases hrows with ⟨hcount, body, hbody, rfl⟩ | ⟨body, hbody, rfl⟩
  · refine ⟨r.rows.length, body, [], by rw [List.append_nil], ?_, Or.inl ⟨rfl, hcount⟩⟩
    exact hbody.imp fun row x hx => ⟨x, hx, List.suffix_refl x⟩
  · -- Nothing else bounds the number of streamed rows than their marks.
    have hmarked : r.rows.length * 1 ≤ body.length := by
      apply hbody.length_mul_le
      rintro row _ ⟨x, _, rfl⟩
      exact Nat.succ_le_succ (Nat.zero_le x.length)
    rw [Nat.mul_one] at hmarked
    refine ⟨streamedRowCount, body, [0], ?_, ?_, Or.inr ⟨rfl, hmarked⟩⟩
    · rw [← List.append_assoc _ body]
      rfl
    · apply hbody.imp
      rintro row _ ⟨x, hx, rfl⟩
      exact ⟨x, hx, List.suffix_cons 1 x⟩

namespace Spelling

variable {r : ResultSet} {b : List UInt8}

/-- The columns and the rows lie one behind the other in the bytes. -/
theorem room_le (h : Spelling r b) :
    26 * r.columns.length + r.rows.length * bitmapLength r.columns.length ≤ b.length := by
  obtain ⟨count, body, tail, rfl, hbody, _⟩ := h.exists_body
  have hheader := le_length_putHeader r.columns
  have hwidth : ∀ row ∈ r.rows, row.length = r.columns.length := h.rectangular.1
  have hrows : r.rows.length * bitmapLength r.columns.length ≤ body.length := by
    have hfitting := Series.and_iff.mpr ⟨hbody, hwidth⟩
    apply hfitting.length_mul_le
    rintro row x ⟨hx, hlength⟩
    rw [← hlength]
    exact hx.length_le fun y hy => hy.bitmapLength_le
  simp only [List.length_append]
  omega

theorem wellFormed (h : Spelling r b) : ∀ row ∈ r.rows, ∀ v ∈ row, v.WellFormed := by
  obtain ⟨count, body, tail, _, hbody, _⟩ := h.exists_body
  intro row hrow
  obtain ⟨_, ⟨x, hx, _⟩, _⟩ := hbody.exists_of_mem hrow
  exact hx.wellFormed

/-- What has been read fits the stored form again. -/
theorem storable (h : Spelling r b) (hb : b.length < 2 ^ 64) : r.Storable := by
  refine ⟨h.columns_lt, ?_, h.sized hb, h.wellFormed⟩
  obtain ⟨count, body, tail, rfl, _, ⟨rfl, hcount⟩ | ⟨_, hrows⟩⟩ := h.exists_body
  · exact hcount
  · simp only [List.length_append, length_encode] at hb
    unfold streamedRowCount
    omega

/-- The counted form of a result is no longer than any bytes it was read from. -/
theorem length_encodeResult_le (h : Spelling r b) : (encodeResult r).length ≤ b.length := by
  obtain ⟨count, body, tail, rfl, hbody, _⟩ := h.exists_body
  have hrows : (r.rows.flatMap putRow).length ≤ body.length := by
    apply hbody.length_flatMap_le
    intro row x hx
    exact hx.length_le fun y hy => hy.length_putRow_le
  simp only [encodeResult, List.length_append, length_encode]
  omega

end Spelling

/-- What has been read is read again from its counted form. -/
theorem decodeResult_encodeResult_of_ok {b : List UInt8} (hb : b.length < 2 ^ 64) {r : ResultSet}
    (h : decodeResult b = .ok r) : decodeResult (encodeResult r) = .ok r := by
  have hspelled := (decodeResult_eq_ok_iff_spelling.mp h).1
  have hback := decodeResult_encodeResult hspelled.rectangular (hspelled.storable hb)
  rwa [ResultSet.stored_eq_self_iff.mpr hspelled.numbered] at hback

/-! ## Any bytes -/

theorem loopBounded_getColumn (count : Nat) (input : Input) :
    LoopBounded getColumn 26 count input := by
  apply exact_getColumn.loopBounded
  rintro c _ ⟨rfl, _⟩
  exact le_length_putColumn c

theorem loopBounded_getRow (columns count : Nat) (input : Input) :
    LoopBounded (getRow columns) (bitmapLength columns) count input := by
  apply (exact_getRow columns).loopBounded
  rintro row b ⟨hrow, _, hwidth, _⟩
  rw [← hwidth]
  exact hrow.bitmapLength_le

/-- Without columns no row is read, however many are announced. -/
theorem itemsRead_getRow_zero (count : Nat) (input : Input) :
    itemsRead (getRow 0) count input = 0 := by
  cases count with
  | zero => rfl
  | succ count => exact itemsRead_succ_of_error (run_getRow_zero input)

/-- Whatever bytes a result is read from, it is in stored form and no larger than they are, and
its counted form is no longer and is read back unchanged, if the bytes can be counted in eight.
Whatever number of columns or rows is announced, and whether they can be read or not, their loop
goes no further than its bytes suffice, and without columns it ends at the first row. -/
theorem decodeResult_bounded (b : List UInt8) :
    (∀ r, decodeResult b = .ok r →
      26 * r.columns.length + r.rows.length * bitmapLength r.columns.length ≤ b.length ∧
        (r.Numbered ∧ r.Rectangular ∧ ∀ row ∈ r.rows, ∀ v ∈ row, v.WellFormed) ∧
          (b.length < 2 ^ 64 → decodeResult (encodeResult r) = .ok r) ∧
            (encodeResult r).length ≤ b.length) ∧
      ∀ (count : Nat) (input : Input), LoopBounded getColumn 26 count input ∧
        (∀ n, LoopBounded (getRow n) (bitmapLength n) count input) ∧
          itemsRead (getRow 0) count input = 0 := by
  constructor
  · intro r hread
    have hspelled := (decodeResult_eq_ok_iff_spelling.mp hread).1
    exact ⟨hspelled.room_le,
      ⟨hspelled.numbered, hspelled.rectangular, hspelled.wellFormed⟩,
      fun hb => decodeResult_encodeResult_of_ok hb hread, hspelled.length_encodeResult_le⟩
  · intro count input
    exact ⟨loopBounded_getColumn count input, fun n => loopBounded_getRow n count input,
      itemsRead_getRow_zero count input⟩

/-- What `paddedStream` holds is written again in fewer bytes, without the spare one and without
marks, and its bytes are far too few for the largest number of columns that can be announced. -/
theorem paddedStream_bounded :
    ∃ r, decodeResult paddedStream = .ok r ∧ r.rows ≠ [] ∧
      decodeResult (encodeResult r) = .ok r ∧
        (encodeResult r).length < paddedStream.length ∧
          itemsRead getColumn (2 ^ 32 - 1) ⟨0, paddedStream⟩ * 26 ≤ paddedStream.length := by
  let r : ResultSet :=
    ⟨[⟨"n", "n", 1, .decimal, "D", .noNulls, 9, 2⟩], [[.decimal ⟨5, 2⟩]]⟩
  have hread : decodeResult paddedStream = .ok r := by decide +kernel
  obtain ⟨hresult, hloop⟩ := decodeResult_bounded paddedStream
  have hstable := (hresult r hread).2.2.1 (by decide)
  have hcolumns := (hloop (2 ^ 32 - 1) ⟨0, paddedStream⟩).1.room
  exact ⟨r, hread, by decide, hstable, by decide +kernel, hcolumns⟩

end QueryReplay.Entry
