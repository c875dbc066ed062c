import QueryReplay.Backend.Native
import QueryReplay.Proofs.Number.Rescaling
import QueryReplay.Proofs.Number.DecimalText
import QueryReplay.Proofs.Text.Numeral
import QueryReplay.Proofs.Text.Utf8

/-!
# Every stored value has a reading

A column declares a type, but a database may store any value there.  This file
shows that every stored value is read all the same.  It is read as the declared
type, or it keeps the class and the content that it is stored with; null is read
as null and nothing else is.  The one exception is a text that is not UTF-8.

Integers lose nothing in columns of integers or of text.  Integers and texts of
decimals are cut in a decimal column to the places that it declares, if what is
left has room, and are otherwise left as they are.
-/

namespace QueryReplay

/-! ## Types and what they read -/

/-- The kinds of the values that a declared type stands for. -/
def ColumnType.kinds : ColumnType → List Value.Kind
  | .boolean => [.bool]
  | .integer => [.int32, .int64]
  | .bigint => [.int64]
  | .double => [.float64]
  | .decimal => [.decimal]
  | .varchar => [.text]
  | .timestamp => [.timestamp]
  | .date => [.date]
  | .time => [.time]
  | .blob => []
  | .unknown => []

/-- The types whose columns hold integers in full. -/
def ColumnType.wholeTypes : List ColumnType :=
  [.integer, .bigint, .varchar]

/-- The integer that a value is or spells. -/
def Value.wholeNumber? : Value → Option Int
  | .int32 i => some i.toInt
  | .int64 i => some i.toInt
  | .text s => Numeral.int? s.toList
  | _ => none

theorem ColumnType.null_not_mem_kinds (type : ColumnType) : Value.Kind.null ∉ type.kinds := by
  cases type with
  | _ => decide

/-! ## Places that a column declares -/

namespace Decimal

/-- The decimal cut toward zero to `places` places, if there are between one and the greatest scale
of them and what is left has room, and else the decimal itself. -/
def cutTo (places : Int) (d : Decimal) : Decimal :=
  if 1 ≤ places ∧ places ≤ maxScale ∧ Fits (towardZero (d.toRat * 10 ^ places.toNat)) then
    ⟨towardZero (d.toRat * 10 ^ places.toNat), places.toNat⟩
  else d

theorem cutTo_of_not_mem {places : Int} (h : places ≤ 0 ∨ (maxScale : Int) < places)
    (d : Decimal) : d.cutTo places = d := by
  rw [cutTo, if_neg]
  rintro ⟨hlow, hhigh, _⟩
  omega

theorem cutTo_scale (d : Decimal) : d.cutTo d.scale = d := by
  have hunits : towardZero (d.toRat * 10 ^ d.scale) = d.unscaled := by
    rw [units_of_le le_rfl, Nat.sub_self, pow_zero, mul_one]
  rw [cutTo, Int.toNat_natCast, hunits, ite_self]

end Decimal

namespace Native

/-- The alignment of a column is the cut to its places. -/
theorem aligned_eq_cutTo (scale : Int32) (d : Decimal) :
    aligned scale d = d.cutTo scale.toInt := by
  by_cases hpos : 0 < scale
  · have hone : 1 ≤ scale.toInt := Int32.lt_iff_toInt_lt.mp hpos
    rw [aligned, if_pos hpos, Decimal.cutTo]
    by_cases hroom : scale.toInt ≤ Decimal.maxScale ∧
        Decimal.Fits (towardZero (d.toRat * 10 ^ scale.toInt.toNat))
    · have hcut := Decimal.rescale?_eq_some_iff.mpr
        ⟨Int.toNat_le.mpr hroom.1, hroom.2, rfl⟩
      rw [hcut, if_pos ⟨hone, hroom⟩, Option.getD_some]
    · have hnone : d.rescale? scale.toInt.toNat = none := by
        rw [Option.eq_none_iff_forall_ne_some]
        intro e he
        obtain ⟨hmax, hfits, _⟩ := Decimal.rescale?_eq_some_iff.mp he
        exact hroom ⟨Int.toNat_le.mp hmax, hfits⟩
      rw [hnone, if_neg fun h => hroom h.2, Option.getD_none]
  · have hsmall : scale.toInt ≤ 0 := not_lt.mp fun h => hpos (Int32.lt_iff_toInt_lt.mpr h)
    rw [aligned, if_neg hpos, Decimal.cutTo_of_not_mem (Or.inl hsmall)]

/-! ## Classes of storage -/

/-- The value has the class and the content that a native value is stored with. -/
inductive Keeps : Native → Value → Prop where
  | integer (i : Int64) : Keeps (.integer i) (.int64 i)
  | real (x : Binary64) : Keeps (.real x) (.float64 x)
  | text (s : String) : Keeps (.text (Utf8.encode s)) (.text s)
  | blob (bytes : List UInt8) : Keeps (.blob bytes) (.bytes bytes)

/-- The native value is the decimal as an integer or as a text that is read as the decimal. -/
inductive Denotes : Native → Decimal → Prop where
  | integer (i : Int64) : Denotes (.integer i) (.ofInt i.toInt)
  | text {s : String} {d : Decimal} (h : Decimal.parse s = .ok d) :
      Denotes (.text (Utf8.encode s)) d

/-- A text that is not UTF-8. -/
def Garbled (n : Native) : Prop :=
  ∃ bytes, n = .text bytes ∧ ∀ s, bytes ≠ Utf8.encode s

variable {c : Column}

theorem toValue_text (s : String) :
    toValue c (.text (Utf8.encode s)) = .ok ((declaredText? c s).getD (.text s)) := by
  rw [toValue, Utf8.decode?_encode]

theorem toValue_of_declaredText? {s : String} {v : Value} (h : declaredText? c s = some v) :
    toValue c (.text (Utf8.encode s)) = .ok v := by
  rw [toValue_text, h, Option.getD_some]

theorem toValue_of_declaredInteger? {i : Int64} {v : Value} (h : declaredInteger? c i = some v) :
    toValue c (.integer i) = .ok v := by
  rw [toValue, h, Option.getD_some]

/-! ## What is declared has the declared type -/

theorem kind_of_map {α : Type} {o : Option α} {f : α → Value} {v : Value} {kind : Value.Kind}
    (hkind : ∀ x, (f x).kind = kind) (h : o.map f = some v) : v.kind = kind := by
  obtain ⟨x, _, rfl⟩ := Option.map_eq_some_iff.mp h
  exact hkind x

theorem kind_of_declaredInteger? {i : Int64} {v : Value} (h : declaredInteger? c i = some v) :
    v.kind ∈ c.type.kinds := by
  cases htype : c.type with
  | integer =>
      simp only [declaredInteger?, htype] at h
      split at h
      · cases h
        exact List.mem_cons_self
      · cases h
        exact List.mem_cons_of_mem _ List.mem_cons_self
  | timestamp | date =>
      simp only [declaredInteger?, htype] at h
      exact List.mem_singleton.mpr (kind_of_map (fun _ => rfl) h)
  | boolean | bigint | double | decimal | varchar =>
      simp only [declaredInteger?, htype] at h
      cases h
      exact List.mem_cons_self
  | time | blob | unknown =>
      simp only [declaredInteger?, htype] at h
      cases h

theorem kind_of_declaredReal? {x : Binary64} {v : Value} (h : declaredReal? c x = some v) :
    v.kind ∈ c.type.kinds := by
  cases htype : c.type with
  | decimal =>
      simp only [declaredReal?, htype] at h
      exact List.mem_singleton.mpr (kind_of_map (fun _ => rfl) h)
  | double | varchar =>
      simp only [declaredReal?, htype] at h
      cases h
      exact List.mem_cons_self
  | _ =>
      simp only [declaredReal?, htype] at h
      cases h

theorem kind_of_declaredText? {s : String} {v : Value} (h : declaredText? c s = some v) :
    v.kind ∈ c.type.kinds := by
  cases htype : c.type with
  | boolean | decimal | timestamp | date | time =>
      simp only [declaredText?, htype] at h
      exact List.mem_singleton.mpr (kind_of_map (fun _ => rfl) h)
  | varchar =>
      simp only [declaredText?, htype] at h
      cases h
      exact List.mem_cons_self
  | _ =>
      simp only [declaredText?, htype] at h
      cases h

/-- A declared value has the declared type, and else the class of storage decides. -/
theorem declared_or_keeps {n : Native} {o : Option Value} {stored v : Value}
    (hdeclared : ∀ w, o = some w → w.kind ∈ c.type.kinds) (hstored : n.Keeps stored)
    (h : (.ok (o.getD stored) : Except Error Value) = .ok v) :
    v.kind ∈ c.type.kinds ∨ n.Keeps v := by
  cases h
  cases o with
  | none => exact Or.inr hstored
  | some w => exact Or.inl (hdeclared w rfl)

/-! ## All classes of storage -/

theorem toValue_eq_error_iff {n : Native} {e : Error} :
    n.toValue c = .error e ↔ n.Garbled ∧ e = .unsupportedText c.name c.type := by
  cases n with
  | text bytes =>
      cases hdecode : Utf8.decode? bytes with
      | some s =>
          obtain rfl := Utf8.decode?_eq_some_iff.mp hdecode
          rw [toValue_text]
          constructor
          · intro h
            cases h
          · rintro ⟨⟨_, hbytes, hgarbled⟩, _⟩
            cases hbytes
            exact absurd rfl (hgarbled s)
      | none =>
          have hgarbled : Garbled (.text bytes) :=
            ⟨bytes, rfl, Utf8.decode?_eq_none_iff.mp hdecode⟩
          simp only [toValue, hdecode, Except.error.injEq, hgarbled, true_and]
          exact eq_comm
  | _ =>
      constructor
      · intro h
        cases h
      · rintro ⟨⟨_, hbytes, _⟩, _⟩
        cases hbytes

/-- What is not null is read as the declared type or keeps what is stored. -/
theorem declared_or_keeps_of_toValue {n : Native} {v : Value} (hnull : n ≠ .null)
    (h : n.toValue c = .ok v) : v.kind ∈ c.type.kinds ∨ n.Keeps v := by
  cases n with
  | null => exact absurd rfl hnull
  | integer i => exact declared_or_keeps (fun _ => kind_of_declaredInteger?) (.integer i) h
  | real x => exact declared_or_keeps (fun _ => kind_of_declaredReal?) (.real x) h
  | text bytes =>
      cases hdecode : Utf8.decode? bytes with
      | some s =>
          obtain rfl := Utf8.decode?_eq_some_iff.mp hdecode
          rw [toValue_text] at h
          exact declared_or_keeps (fun _ => kind_of_declaredText?) (.text s) h
      | none =>
          rw [toValue, hdecode] at h
          cases h
  | blob bytes =>
      cases h
      exact Or.inr (.blob bytes)

theorem toValue_eq_null_iff {n : Native} : n.toValue c = .ok .null ↔ n = .null := by
  constructor
  · intro h
    by_contra hnull
    rcases declared_or_keeps_of_toValue hnull h with hkind | hkeeps
    · exact c.type.null_not_mem_kinds hkind
    · cases hkeeps
  · rintro rfl
    rfl

/-! ## Numbers -/

theorem wholeNumber?_intText (i : Int) : Value.wholeNumber? (.text (Value.intText i)) = some i := by
  rw [Value.wholeNumber?, Value.intText, String.toList_ofList, Numeral.int?_ofInt]

theorem toInt_toInt32 {i : Int64}
    (h : Int32.minValue.toInt ≤ i.toInt ∧ i.toInt ≤ Int32.maxValue.toInt) :
    i.toInt32.toInt = i.toInt := by
  rw [Int32.toInt_minValue, Int32.toInt_maxValue] at h
  rw [Int64.toInt_toInt32, Int.bmod_eq_of_le (by omega) (by omega)]

/-- Columns of integers and of text hold integers in full. -/
theorem toValue_integer_whole (htype : c.type ∈ ColumnType.wholeTypes) (i : Int64) :
    ∃ v, toValue c (.integer i) = .ok v ∧ v.kind ∈ c.type.kinds ∧
      v.wholeNumber? = some i.toInt := by
  have hdeclared : ∃ v, declaredInteger? c i = some v ∧ v.wholeNumber? = some i.toInt := by
    simp only [ColumnType.wholeTypes, List.mem_cons, List.not_mem_nil, or_false] at htype
    rcases htype with htype | htype | htype
    · simp only [declaredInteger?, htype]
      split
      next hroom => exact ⟨_, rfl, congrArg some (toInt_toInt32 hroom)⟩
      next => exact ⟨_, rfl, rfl⟩
    · simp only [declaredInteger?, htype]
      exact ⟨_, rfl, rfl⟩
    · simp only [declaredInteger?, htype]
      exact ⟨_, rfl, wholeNumber?_intText i.toInt⟩
  obtain ⟨v, hv, hwhole⟩ := hdeclared
  exact ⟨v, toValue_of_declaredInteger? hv, kind_of_declaredInteger? hv, hwhole⟩

/-- Integers and texts of decimals are cut to the places of a decimal column. -/
theorem toValue_of_denotes (htype : c.type = .decimal) {n : Native} {d : Decimal}
    (h : n.Denotes d) : n.toValue c = .ok (.decimal (d.cutTo c.scale.toInt)) := by
  rw [← aligned_eq_cutTo]
  cases h with
  | integer i =>
      apply toValue_of_declaredInteger?
      rw [declaredInteger?, htype]
  | text h =>
      apply toValue_of_declaredText?
      rw [declaredText?, htype, Decimal.parse_eq_ok_iff.mp h, Option.map_some]

/-! ## Readings of a column -/

/-- In every column, only a text that is not UTF-8 has no reading, and the error names the column
and its type.  Null and nothing else is read as null.  Everything else is read as the declared
type, or keeps the class and the content of storage.  Columns of integers and of text hold
integers in full, and a decimal column cuts integers and texts of decimals to its places. -/
theorem toValue_declared_or_kept (c : Column) :
    (∀ (n : Native) (e : Error),
      n.toValue c = .error e ↔ n.Garbled ∧ e = .unsupportedText c.name c.type) ∧
      (∀ n : Native, n.toValue c = .ok .null ↔ n = .null) ∧
        (∀ n : Native, n ≠ .null → ¬n.Garbled →
          ∃ v, n.toValue c = .ok v ∧ (v.kind ∈ c.type.kinds ∨ n.Keeps v)) ∧
          (c.type ∈ ColumnType.wholeTypes → ∀ i, ∃ v, toValue c (.integer i) = .ok v ∧
            v.kind ∈ c.type.kinds ∧ v.wholeNumber? = some i.toInt) ∧
            (c.type = .decimal → ∀ (n : Native) (d : Decimal), n.Denotes d →
              n.toValue c = .ok (.decimal (d.cutTo c.scale.toInt))) := by
  refine ⟨?_, ?_, ?_, ?_, ?_⟩
  · intro n e
    exact toValue_eq_error_iff
  · intro n
    exact toValue_eq_null_iff
  · intro n hnull hgarbled
    cases h : n.toValue c with
    | error e => exact absurd (toValue_eq_error_iff.mp h).1 hgarbled
    | ok v => exact ⟨v, rfl, declared_or_keeps_of_toValue hnull h⟩
  · intro htype i
    exact toValue_integer_whole htype i
  · intro htype n d h
    exact toValue_of_denotes htype h

/-- A column of prices with two places. -/
def prices : Column :=
  ⟨"price", "price", 1, .decimal, "DECIMAL(10,2)", .nullable, 10, 2⟩

/-- A column of names. -/
def names : Column :=
  ⟨"name", "name", 2, .varchar, "VARCHAR", .nullable, 0, 0⟩

/-- Prices lose their third place and are else what they are, the least integer is a name, and
half of a character is none. -/
theorem prices_and_names_read :
    (prices.type = .decimal ∧ Denotes (.text (Utf8.encode " -12.999")) ⟨-12999, 3⟩ ∧
      toValue prices (.text (Utf8.encode " -12.999")) = .ok (.decimal ⟨-1299, 2⟩)) ∧
      toValue prices (.integer 7) = .ok (.decimal ⟨700, 2⟩) ∧
        (¬Garbled (.text (Utf8.encode "free")) ∧
          ∃ v, toValue prices (.text (Utf8.encode "free")) = .ok v ∧
            (v.kind ∈ prices.type.kinds ∨ Keeps (.text (Utf8.encode "free")) v)) ∧
          (names.type ∈ ColumnType.wholeTypes ∧
            ∃ v, toValue names (.integer Int64.minValue) = .ok v ∧
              v.kind ∈ names.type.kinds ∧ v.wholeNumber? = some (-2 ^ 63)) ∧
            Garbled (.text [0xC3]) ∧
              toValue names (.text [0xC3]) = .error (.unsupportedText "name" .varchar) := by
  obtain ⟨_, _, hkept, _, hdecimal⟩ := toValue_declared_or_kept prices
  obtain ⟨herror, _, _, hwhole, _⟩ := toValue_declared_or_kept names
  have hfree : ¬Garbled (.text (Utf8.encode "free")) := by
    rintro ⟨_, hbytes, hgarbled⟩
    cases hbytes
    exact hgarbled "free" rfl
  have hhalf : Garbled (.text [0xC3]) := by
    refine ⟨_, rfl, Utf8.decode?_eq_none_iff.mp ?_⟩
    decide
  have hprice : Denotes (.text (Utf8.encode " -12.999")) ⟨-12999, 3⟩ := by
    apply Denotes.text
    decide +kernel
  have hcut : (⟨-12999, 3⟩ : Decimal).cutTo prices.scale.toInt = ⟨-1299, 2⟩ := by
    decide +kernel
  have hseven : (Decimal.ofInt 7).cutTo prices.scale.toInt = ⟨700, 2⟩ := by decide +kernel
  have hwholeNames : names.type ∈ ColumnType.wholeTypes := by decide
  refine ⟨⟨rfl, hprice, ?_⟩, ?_, ⟨hfree, hkept _ (by decide) hfree⟩,
    ⟨hwholeNames, hwhole hwholeNames Int64.minValue⟩, hhalf, (herror _ _).mpr ⟨hhalf, rfl⟩⟩
  · rw [hdecimal rfl _ _ hprice, hcut]
  · rw [← hseven]
    exact hdecimal rfl _ _ (.integer 7)

end Native

end QueryReplay
