import QueryReplay.Entry.Decoder

/-!
# Null bits

This file shows that the null bits of a row, packed eight to a byte, can be
read off their bytes again, and that the packed bytes are the only ones of
their length in which no bit behind the last column is set.
-/

namespace QueryReplay.Entry

/-! ## One byte -/

@[simp] theorem length_bitsOfByte (b : UInt8) : (bitsOfByte b).length = 8 := by
  simp [bitsOfByte]

theorem getElem?_bitsOfByte {i : Nat} (b : UInt8) (hi : i < 8) :
    (bitsOfByte b)[i]? = some (b.toNat.testBit i) := by
  simp [bitsOfByte, hi]

theorem bitsOfByte_injective : Function.Injective bitsOfByte := by
  intro a b h
  apply UInt8.toNat_inj.mp
  apply Nat.eq_of_testBit_eq
  intro i
  by_cases hi : i < 8
  · have hbit := congrArg (·[i]?) h
    simpa [getElem?_bitsOfByte _ hi] using hbit
  · have hpow : 2 ^ 8 ≤ 2 ^ i := Nat.pow_le_pow_right (by decide) (by omega)
    rw [Nat.testBit_lt_two_pow (Nat.lt_of_lt_of_le a.toNat_lt hpow),
      Nat.testBit_lt_two_pow (Nat.lt_of_lt_of_le b.toNat_lt hpow)]

theorem byteOfBits_lt (bits : List Bool) : byteOfBits bits < 2 ^ bits.length := by
  induction bits with
  | nil => simp [byteOfBits]
  | cons b bits ih =>
      have hb := Bool.toNat_le b
      rw [byteOfBits, List.length_cons, Nat.pow_succ]
      omega

theorem testBit_byteOfBits (bits : List Bool) (i : Nat) :
    (byteOfBits bits).testBit i = bits.getD i false := by
  induction bits generalizing i with
  | nil => simp [byteOfBits]
  | cons b bits ih =>
      cases i with
      | zero => cases b <;> simp [byteOfBits, Nat.testBit_zero]
      | succ i =>
          have hhalf : byteOfBits (b :: bits) / 2 = byteOfBits bits := by
            have hb := Bool.toNat_le b
            rw [byteOfBits]
            omega
          rw [Nat.testBit_succ, hhalf, ih, List.getD_cons_succ]

/-- Up to eight bits come back from their byte, filled up with zeros. -/
theorem bitsOfByte_byteOfBits {bits : List Bool} (h : bits.length ≤ 8) :
    bitsOfByte (UInt8.ofNat (byteOfBits bits)) =
      bits ++ List.replicate (8 - bits.length) false := by
  have hlt : byteOfBits bits < 2 ^ 8 :=
    Nat.lt_of_lt_of_le (byteOfBits_lt bits) (Nat.pow_le_pow_right (by decide) h)
  apply List.ext_getElem?
  intro i
  by_cases hi : i < 8
  · rw [getElem?_bitsOfByte _ hi, UInt8.toNat_ofNat', Nat.mod_eq_of_lt hlt,
      testBit_byteOfBits, List.getD_eq_getElem?_getD]
    by_cases hin : i < bits.length
    · simp [List.getElem?_append_left hin, hin]
    · have hout : bits.length ≤ i := by omega
      simp [List.getElem?_append_right hout, List.getElem?_eq_none hout,
        List.getElem?_replicate]
      omega
  · rw [List.getElem?_eq_none (by rw [length_bitsOfByte]; omega),
      List.getElem?_eq_none (by simp; omega)]

/-! ## All bytes -/

theorem length_packBits (bits : List Bool) :
    (packBits bits).length = bitmapLength bits.length := by
  fun_induction packBits bits with
  | case1 bits h =>
      rw [List.isEmpty_iff.mp h]
      rfl
  | case2 bits h ih =>
      have hpos : 0 < bits.length := List.length_pos_iff.mpr (by simpa using h)
      rw [List.length_cons, ih, List.length_drop]
      unfold bitmapLength
      omega

/-- The bits come back from their bytes, filled up with zeros to whole bytes. -/
theorem flatMap_bitsOfByte_packBits (bits : List Bool) :
    (packBits bits).flatMap bitsOfByte =
      bits ++ List.replicate (8 * bitmapLength bits.length - bits.length) false := by
  fun_induction packBits bits with
  | case1 bits h =>
      rw [List.isEmpty_iff.mp h]
      rfl
  | case2 bits h ih =>
      have hpos : 0 < bits.length := List.length_pos_iff.mpr (by simpa using h)
      have htake : (bits.take 8).length ≤ 8 := List.length_take_le 8 bits
      rw [List.flatMap_cons, ih, bitsOfByte_byteOfBits htake, List.length_take,
        List.length_drop]
      by_cases hfull : 8 ≤ bits.length
      · have hlast : 8 - min 8 bits.length = 0 := by omega
        have hfill : 8 * bitmapLength (bits.length - 8) - (bits.length - 8) =
            8 * bitmapLength bits.length - bits.length := by
          unfold bitmapLength
          omega
        rw [hlast, hfill, List.replicate_zero, List.append_nil, ← List.append_assoc,
          List.take_append_drop]
      · have hdrop : bits.drop 8 = [] := List.drop_eq_nil_of_le (by omega)
        have htake : bits.take 8 = bits := List.take_of_length_le (by omega)
        have hlast : 8 - min 8 bits.length = 8 * bitmapLength bits.length - bits.length := by
          unfold bitmapLength
          omega
        have hnone : 8 * bitmapLength (bits.length - 8) - (bits.length - 8) = 0 := by
          unfold bitmapLength
          omega
        rw [hdrop, htake, hlast, hnone, List.replicate_zero, List.append_nil,
          List.append_nil]

theorem length_flatMap_bitsOfByte (bytes : List UInt8) :
    (bytes.flatMap bitsOfByte).length = 8 * bytes.length := by
  induction bytes with
  | nil => rfl
  | cons b bytes ih =>
      rw [List.flatMap_cons, List.length_append, ih, length_bitsOfByte, List.length_cons]
      omega

theorem flatMap_bitsOfByte_inj {x y : List UInt8}
    (h : x.flatMap bitsOfByte = y.flatMap bitsOfByte) : x = y := by
  have hlength : x.length = y.length := by
    have heq := congrArg List.length h
    rw [length_flatMap_bitsOfByte, length_flatMap_bitsOfByte] at heq
    omega
  induction x generalizing y with
  | nil => exact (List.length_eq_zero_iff.mp hlength.symm).symm
  | cons a x ih =>
      cases y with
      | nil => cases hlength
      | cons b y =>
          rw [List.flatMap_cons, List.flatMap_cons] at h
          obtain ⟨hhead, htail⟩ := List.append_inj h (by simp)
          rw [bitsOfByte_injective hhead, ih htail (Nat.succ.inj hlength)]

/-- The first `n` bits of whole bytes, of which no other bit is set, are packed as those bytes. -/
theorem nullBits_iff {bytes : List UInt8} {nulls : List Bool} {n : Nat} :
    (bytes.length = bitmapLength n ∧
        ¬((bytes.flatMap bitsOfByte).drop n).any id = true ∧
        (bytes.flatMap bitsOfByte).take n = nulls) ↔
      nulls.length = n ∧ bytes = packBits nulls := by
  constructor
  · rintro ⟨hlength, hstray, rfl⟩
    have hbits := length_flatMap_bitsOfByte bytes
    have henough : n ≤ (bytes.flatMap bitsOfByte).length := by
      rw [hbits, hlength]
      unfold bitmapLength
      omega
    have htake : ((bytes.flatMap bitsOfByte).take n).length = n := by
      rw [List.length_take]
      omega
    have hzeros : (bytes.flatMap bitsOfByte).drop n =
        List.replicate (8 * bitmapLength n - n) false := by
      rw [List.eq_replicate_iff]
      constructor
      · rw [List.length_drop, hbits, hlength]
      · intro b hb
        cases b with
        | false => rfl
        | true => exact (hstray (List.any_eq_true.mpr ⟨true, hb, rfl⟩)).elim
    refine ⟨htake, flatMap_bitsOfByte_inj ?_⟩
    rw [flatMap_bitsOfByte_packBits, htake, ← hzeros, List.take_append_drop]
  · rintro ⟨rfl, rfl⟩
    rw [flatMap_bitsOfByte_packBits]
    refine ⟨length_packBits nulls, ?_, List.take_left⟩
    rw [List.drop_left]
    simp

end QueryReplay.Entry
