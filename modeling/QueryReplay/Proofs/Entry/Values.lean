import QueryReplay.Proofs.Calendar.Epoch
import QueryReplay.Proofs.Entry.Grammar

/-!
# Values are read exactly

This file shows that the reader of values accepts the spellings of each value
and nothing else.  What stands behind each tag is first described on its own;
the tags are then put together in one relation, which is the grammar's.
-/

namespace QueryReplay.Entry

open BigEndian Reader

/-! ## What stands behind a tag -/

theorem exact_getBool :
    Exact getBool fun v b => ∃ x, v = .bool x ∧ b = [if x then 1 else 0] := by
  refine (exact_byte.bind fun a =>
    (exact_pure (Value.bool false)).ite ((exact_pure (Value.bool true)).ite
      (exact_fail (.badBool a)))).congr ?_
  intro v b
  constructor
  · rintro ⟨a, _, _, rfl, ⟨rfl, rfl, rfl⟩ | ⟨_, ⟨rfl, rfl, rfl⟩ | ⟨_, hfalse⟩⟩, rfl⟩
    · exact ⟨false, rfl, rfl⟩
    · exact ⟨true, rfl, rfl⟩
    · exact hfalse.elim
  · rintro ⟨x, rfl, rfl⟩
    cases x with
    | false => exact ⟨0, [0], [], rfl, Or.inl ⟨rfl, rfl, rfl⟩, rfl⟩
    | true => exact ⟨1, [1], [], rfl, Or.inr ⟨by decide, Or.inl ⟨rfl, rfl, rfl⟩⟩, rfl⟩

/-- The spellings of a decimal, without its tag. -/
def DecimalSpelling (d : Decimal) (b : List UInt8) : Prop :=
  d.scale ≤ Decimal.maxScale ∧ ∃ digits : List UInt8,
    (0 < digits.length ∧ digits.length ≤ 16) ∧ decodeSigned digits = d.unscaled ∧
      b = encode 4 d.scale ++ encode 1 digits.length ++ digits

theorem exact_getDecimal :
    Exact getDecimal fun v b => ∃ d, v = .decimal d ∧ DecimalSpelling d b := by
  refine ((exact_nat 4).bind fun scale => exact_byte.bind fun length =>
    Exact.guard <| (exact_int length.toNat).bind fun unscaled =>
      (exact_require (.badDecimalScale scale) (Decimal.ofParts? unscaled scale)).bind fun d =>
        exact_pure (Value.decimal d)).congr ?_
  intro v b
  constructor
  · rintro ⟨_, _, _, ⟨rfl, _⟩, ⟨length, _, _, rfl, ⟨hlength, _, digits, _, ⟨hdigits, rfl⟩,
      ⟨d, _, _, ⟨hd, rfl⟩, ⟨rfl, rfl⟩, rfl⟩, rfl⟩, rfl⟩, rfl⟩
    obtain ⟨⟨hunscaled, rfl⟩, hscale, _⟩ := Decimal.ofParts?_eq_some_iff.mp hd
    refine ⟨d, rfl, hscale, digits, ?_, hunscaled.symm, ?_⟩
    · have hzero : length.toNat ≠ 0 := fun h => hlength (Or.inl (UInt8.toNat_inj.mp h))
      have hmax : ¬16 < length.toNat := fun h =>
        hlength (Or.inr (UInt8.lt_iff_toNat_lt.mpr h))
      omega
    · simp [hdigits, encode_one]
  · rintro ⟨d, rfl, hscale, digits, ⟨hpos, hle⟩, hdigits, rfl⟩
    have hformed : d.WellFormed :=
      ⟨hscale, hdigits ▸ fits_of_fitsSigned hle (fitsSigned_decodeSigned digits)⟩
    have hbyte : (UInt8.ofNat digits.length).toNat = digits.length := by
      rw [UInt8.toNat_ofNat']
      exact Nat.mod_eq_of_lt (by omega)
    refine ⟨d.scale, _, [UInt8.ofNat digits.length] ++ (digits ++ ([] ++ [])),
      ⟨rfl, hformed.scale_lt⟩, ⟨UInt8.ofNat digits.length, _, _, rfl, ⟨?_, d.unscaled, digits,
        _, ⟨hbyte.symm, hdigits⟩, ⟨d, [], [], ⟨?_, rfl⟩, ⟨rfl, rfl⟩, rfl⟩, rfl⟩, rfl⟩, ?_⟩
    · rintro (hzero | hmax)
      · rw [hzero] at hbyte
        exact hpos.ne hbyte
      · rw [UInt8.lt_iff_toNat_lt, hbyte] at hmax
        exact absurd hmax (by simpa using hle)
    · exact Decimal.ofParts?_eq_some_iff.mpr ⟨⟨rfl, rfl⟩, hformed⟩
    · rw [← encode_one, hbyte]
      simp

theorem exact_getTimestamp :
    Exact getTimestamp fun v b => ∃ t, v = .timestamp t ∧ t.WellFormed ∧
      b = encodeSigned 8 t.epochSeconds ++ encode 4 t.time.nanos := by
  refine ((exact_int' 8).bind fun seconds => (exact_nat 4).bind fun nanos =>
    (exact_require .timestampOutOfRange (Timestamp.ofEpoch? seconds nanos)).bind fun t =>
      exact_pure (Value.timestamp t)).congr ?_
  intro v b
  constructor
  · rintro ⟨_, _, _, ⟨rfl, _⟩, ⟨_, _, _, ⟨rfl, _⟩, ⟨t, _, _, ⟨ht, rfl⟩, ⟨rfl, rfl⟩, rfl⟩, rfl⟩,
      rfl⟩
    obtain ⟨⟨rfl, rfl⟩, hformed⟩ := Timestamp.ofEpoch?_eq_some_iff.mp ht
    exact ⟨t, rfl, hformed, by simp⟩
  · rintro ⟨t, rfl, hformed, rfl⟩
    have hseconds := Timestamp.fitsSigned_epochSeconds hformed.1 hformed.2.held
    refine ⟨t.epochSeconds, _, encode 4 t.time.nanos, ⟨rfl, hseconds⟩,
      ⟨t.time.nanos, _, [], ⟨rfl, hformed.2.held.nanos_lt⟩, ⟨t, [], [], ⟨?_, rfl⟩, ⟨rfl, rfl⟩, rfl⟩,
        (List.append_nil _).symm⟩, rfl⟩
    exact Timestamp.ofEpoch?_eq_some_iff.mpr ⟨⟨rfl, rfl⟩, hformed⟩

theorem exact_getDate :
    Exact getDate fun v b => ∃ d, v = .date d ∧ d.WellFormed ∧ b = encodeSigned 4 d.days := by
  refine ((exact_int' 4).bind fun days =>
    (exact_require .dateOutOfRange (Date.ofDays? days)).bind fun d =>
      exact_pure (Value.date d)).congr ?_
  intro v b
  constructor
  · rintro ⟨_, _, _, ⟨rfl, _⟩, ⟨d, _, _, ⟨hd, rfl⟩, ⟨rfl, rfl⟩, rfl⟩, rfl⟩
    obtain ⟨rfl, hformed⟩ := Date.ofDays?_eq_some_iff.mp hd
    exact ⟨d, rfl, hformed, by simp⟩
  · rintro ⟨d, rfl, hformed, rfl⟩
    refine ⟨d.days, _, [], ⟨rfl, hformed.fitsSigned⟩, ⟨d, [], [], ⟨?_, rfl⟩, ⟨rfl, rfl⟩, rfl⟩,
      (List.append_nil _).symm⟩
    exact Date.ofDays?_eq_some_iff.mpr ⟨rfl, hformed⟩

theorem exact_getTime :
    Exact getTime fun v b => ∃ t, v = .time t ∧ t.WellFormed ∧
      b = encode 4 t.seconds ++ encode 4 t.nanos := by
  refine ((exact_nat 4).bind fun seconds => (exact_nat 4).bind fun nanos =>
    (exact_require .timeOutOfRange (TimeOfDay.ofParts? seconds nanos)).bind fun t =>
      exact_pure (Value.time t)).congr ?_
  intro v b
  constructor
  · rintro ⟨_, _, _, ⟨rfl, _⟩, ⟨_, _, _, ⟨rfl, _⟩, ⟨t, _, _, ⟨ht, rfl⟩, ⟨rfl, rfl⟩, rfl⟩, rfl⟩,
      rfl⟩
    obtain ⟨⟨rfl, rfl⟩, hformed⟩ := TimeOfDay.ofParts?_eq_some_iff.mp ht
    exact ⟨t, rfl, hformed, by simp⟩
  · rintro ⟨t, rfl, hformed, rfl⟩
    refine ⟨t.seconds, _, encode 4 t.nanos, ⟨rfl, hformed.held.seconds_lt⟩,
      ⟨t.nanos, _, [], ⟨rfl, hformed.held.nanos_lt⟩, ⟨t, [], [], ⟨?_, rfl⟩, ⟨rfl, rfl⟩, rfl⟩,
        (List.append_nil _).symm⟩, rfl⟩
    exact TimeOfDay.ofParts?_eq_some_iff.mpr ⟨⟨rfl, rfl⟩, hformed⟩

/-! ## Every tag -/

/-- The byte in front of a value. -/
def valueTag : Value → UInt8
  | .null => 0
  | .bool _ => 1
  | .int32 _ => 2
  | .int64 _ => 3
  | .float64 _ => 4
  | .decimal _ => 5
  | .text _ => 6
  | .timestamp _ => 7
  | .date _ => 8
  | .time _ => 9
  | .bytes _ => 10

/-- The spellings of a value, without its tag. -/
def BodySpelling : Value → List UInt8 → Prop
  | .null, b => b = []
  | .bool x, b => b = [if x then 1 else 0]
  | .int32 i, b => b = encodeSigned 4 i.toInt
  | .int64 i, b => b = encodeSigned 8 i.toInt
  | .float64 x, b => b = encode 8 x.bits.toNat
  | .decimal d, b => DecimalSpelling d b
  | .text s, b => b = putText s
  | .timestamp t, b => t.WellFormed ∧ b = encodeSigned 8 t.epochSeconds ++ encode 4 t.time.nanos
  | .date d, b => d.WellFormed ∧ b = encodeSigned 4 d.days
  | .time t, b => t.WellFormed ∧ b = encode 4 t.seconds ++ encode 4 t.nanos
  | .bytes x, b => b = putBytes x

theorem valueSpelling_iff {v : Value} {b : List UInt8} :
    ValueSpelling v b ↔ ∃ x, BodySpelling v x ∧ b = valueTag v :: x := by
  constructor
  · intro h
    cases h with
    | decimal hscale hpos hle hdigits =>
        exact ⟨_, ⟨hscale, _, ⟨hpos, hle⟩, hdigits, rfl⟩, rfl⟩
    | other hkind hformed =>
        cases v with
        | decimal d => exact absurd rfl hkind
        | timestamp t => exact ⟨_, ⟨hformed, rfl⟩, rfl⟩
        | date d => exact ⟨_, ⟨hformed, rfl⟩, rfl⟩
        | time t => exact ⟨_, ⟨hformed, rfl⟩, rfl⟩
        | _ => exact ⟨_, rfl, rfl⟩
  · rintro ⟨x, hx, rfl⟩
    cases v with
    | decimal d =>
        obtain ⟨hscale, digits, ⟨hpos, hle⟩, hdigits, rfl⟩ := hx
        exact ValueSpelling.decimal hscale hpos hle hdigits
    | timestamp t =>
        obtain ⟨hformed, rfl⟩ := hx
        exact ValueSpelling.other (v := .timestamp t) nofun hformed
    | date d =>
        obtain ⟨hformed, rfl⟩ := hx
        exact ValueSpelling.other (v := .date d) nofun hformed
    | time t =>
        obtain ⟨hformed, rfl⟩ := hx
        exact ValueSpelling.other (v := .time t) nofun hformed
    | _ =>
        obtain rfl := hx
        exact ValueSpelling.other nofun trivial

theorem fitsSigned_int32 (i : Int32) : FitsSigned 4 i.toInt := by
  have hlow := i.le_toInt
  have hhigh := i.toInt_lt
  simp only [FitsSigned]
  omega

theorem exact_int32 {α : Type} (f : Int32 → α) :
    Exact (do return f (Int32.ofInt (← int 4))) fun a b =>
      ∃ i : Int32, a = f i ∧ b = encodeSigned 4 i.toInt := by
  refine ((exact_int' 4).map fun i => f (Int32.ofInt i)).congr fun a b => ?_
  constructor
  · rintro ⟨i, rfl, rfl, hi⟩
    refine ⟨_, rfl, ?_⟩
    simp only [FitsSigned] at hi
    rw [Int32.toInt_ofInt_of_le (by omega) (by omega)]
  · rintro ⟨i, rfl, rfl⟩
    exact ⟨i.toInt, by rw [Int32.ofInt_toInt], rfl, fitsSigned_int32 i⟩

theorem fitsSigned_int64 (i : Int64) : FitsSigned 8 i.toInt := by
  have hlow := i.le_toInt
  have hhigh := i.toInt_lt
  simp only [FitsSigned]
  omega

theorem exact_int64 {α : Type} (f : Int64 → α) :
    Exact (do return f (Int64.ofInt (← int 8))) fun a b =>
      ∃ i : Int64, a = f i ∧ b = encodeSigned 8 i.toInt := by
  refine ((exact_int' 8).map fun i => f (Int64.ofInt i)).congr fun a b => ?_
  constructor
  · rintro ⟨i, rfl, rfl, hi⟩
    refine ⟨_, rfl, ?_⟩
    simp only [FitsSigned] at hi
    rw [Int64.toInt_ofInt_of_le (by omega) (by omega)]
  · rintro ⟨i, rfl, rfl⟩
    exact ⟨i.toInt, by rw [Int64.ofInt_toInt], rfl, fitsSigned_int64 i⟩

theorem exact_uint64 {α : Type} (f : UInt64 → α) :
    Exact (do return f (UInt64.ofNat (← nat 8))) fun a b =>
      ∃ x : UInt64, a = f x ∧ b = encode 8 x.toNat := by
  refine ((exact_nat 8).map fun n => f (UInt64.ofNat n)).congr fun a b => ?_
  constructor
  · rintro ⟨n, rfl, rfl, hn⟩
    refine ⟨_, rfl, ?_⟩
    rw [UInt64.toNat_ofNat', Nat.mod_eq_of_lt (show n < 2 ^ 64 from hn)]
  · rintro ⟨x, rfl, rfl⟩
    exact ⟨x.toNat, by rw [UInt64.ofNat_toNat], rfl, x.toNat_lt⟩

theorem exact_getValue :
    Exact getValue fun v b => ValueSpelling v b ∧ v.Sized := by
  unfold getValue
  refine (exact_byte.bind
    (S := fun tag v b => tag = valueTag v ∧ BodySpelling v b ∧ v.Sized) fun tag => ?_).congr
      fun v b => ?_
  · split
    · refine (exact_pure Value.null).congr fun v b => ?_
      cases v <;> simp [BodySpelling, valueTag, Value.Sized]
    · refine exact_getBool.congr fun v b => ?_
      cases v <;> simp [BodySpelling, valueTag, Value.Sized]
    · refine (exact_int32 Value.int32).congr fun v b => ?_
      cases v <;> simp [BodySpelling, valueTag, Value.Sized]
    · refine (exact_int64 Value.int64).congr fun v b => ?_
      cases v <;> simp [BodySpelling, valueTag, Value.Sized]
    · refine (exact_uint64 fun x => Value.float64 ⟨x⟩).congr fun v b => ?_
      cases v with
      | float64 x =>
          cases x
          simp [BodySpelling, valueTag, Value.Sized]
      | _ => simp [BodySpelling, valueTag, Value.Sized]
    · refine exact_getDecimal.congr fun v b => ?_
      cases v <;> simp [BodySpelling, valueTag, Value.Sized]
    · refine (exact_text.map Value.text).congr fun v b => ?_
      cases v <;> simp [BodySpelling, valueTag, Value.Sized]
    · refine exact_getTimestamp.congr fun v b => ?_
      cases v <;> simp [BodySpelling, valueTag, Value.Sized]
    · refine exact_getDate.congr fun v b => ?_
      cases v <;> simp [BodySpelling, valueTag, Value.Sized]
    · refine exact_getTime.congr fun v b => ?_
      cases v <;> simp [BodySpelling, valueTag, Value.Sized]
    · refine (exact_bytes.map Value.bytes).congr fun v b => ?_
      cases v <;> simp [BodySpelling, valueTag, Value.Sized]
    · refine (exact_fail (.unknownValueTag tag)).congr fun v b => ?_
      cases v <;> simp_all [BodySpelling, valueTag, Value.Sized]
  · rw [valueSpelling_iff]
    constructor
    · rintro ⟨_, _, x, rfl, ⟨rfl, hx, hsized⟩, rfl⟩
      exact ⟨⟨x, hx, rfl⟩, hsized⟩
    · rintro ⟨⟨x, hx, rfl⟩, hsized⟩
      exact ⟨_, _, x, rfl, ⟨rfl, hx, hsized⟩, rfl⟩

end QueryReplay.Entry
