import Mathlib.Tactic.Linarith
import Mathlib.Tactic.Ring
import QueryReplay.Number.BigEndian
import QueryReplay.Number.Decimal

/-!
# Numbers as bytes, and back

This file proves that writing and reading numbers in a fixed number of bytes
are inverse to each other.  Naturals are read back modulo the number of byte
strings of their width; integers are read back exactly when two's complement
of that width can hold them.

Dropping bytes that only repeat the sign does not change the integer that is
read, so the shortest two's complement reads back as well.
-/

namespace QueryReplay.BigEndian

/-! ## Naturals -/

@[simp] theorem length_encode (width n : Nat) :
    (encode width n).length = width := by
  induction width with
  | zero => rfl
  | succ width ih => simp [encode, ih]

private theorem foldl_from (bytes : List UInt8) (start : Nat) :
    bytes.foldl (fun n b => 256 * n + b.toNat) start =
      start * 256 ^ bytes.length + decode bytes := by
  induction bytes generalizing start with
  | nil => simp [decode]
  | cons a bytes ih =>
      rw [decode, List.foldl_cons, List.foldl_cons, ih (256 * start + a.toNat),
        ih (256 * 0 + a.toNat), List.length_cons, Nat.pow_succ]
      ring

theorem decode_cons (a : UInt8) (bytes : List UInt8) :
    decode (a :: bytes) = a.toNat * 256 ^ bytes.length + decode bytes := by
  rw [decode, List.foldl_cons, foldl_from]
  simp

theorem decode_lt (bytes : List UInt8) :
    decode bytes < 256 ^ bytes.length := by
  induction bytes with
  | nil => simp [decode]
  | cons a bytes ih =>
      have ha : a.toNat + 1 ≤ 256 := a.toNat_lt
      have hscaled := Nat.mul_le_mul_right (256 ^ bytes.length) ha
      rw [decode_cons, List.length_cons, Nat.pow_succ]
      linarith

theorem decode_encode (width n : Nat) :
    decode (encode width n) = n % 256 ^ width := by
  induction width with
  | zero => simp [encode, decode, Nat.mod_one]
  | succ width ih =>
      rw [encode, decode_cons, ih, length_encode, Nat.mod_pow_succ]
      simp only [UInt8.toNat_ofNat']
      ring

theorem decode_encode_of_lt {width n : Nat} (h : n < 256 ^ width) :
    decode (encode width n) = n := by
  rw [decode_encode, Nat.mod_eq_of_lt h]

private theorem quotient_of_lt (a : Nat) {n size : Nat} (h : n < size) :
    (a * size + n) / size = a := by
  rw [Nat.mul_comm, Nat.mul_add_div (Nat.zero_lt_of_lt h), Nat.div_eq_of_lt h, Nat.add_zero]

/-- Byte strings of one length are told apart by their numbers. -/
theorem eq_of_decode_eq {x y : List UInt8} (hlength : x.length = y.length)
    (hdecode : decode x = decode y) : x = y := by
  induction x generalizing y with
  | nil =>
      have hy : y.length = 0 := hlength.symm
      exact (List.length_eq_zero_iff.mp hy).symm
  | cons a x ih =>
      cases y with
      | nil => simp at hlength
      | cons b y =>
          have hlen : x.length = y.length := by simpa using hlength
          rw [decode_cons, decode_cons, ← hlen] at hdecode
          have hx : decode x < 256 ^ x.length := decode_lt x
          have hy : decode y < 256 ^ x.length := hlen ▸ decode_lt y
          have hhead : a.toNat = b.toNat := by
            rw [← quotient_of_lt a.toNat hx, hdecode, quotient_of_lt b.toNat hy]
          rw [hhead] at hdecode
          have htail : decode x = decode y := Nat.add_left_cancel hdecode
          rw [UInt8.toNat_inj.mp hhead, ih hlen htail]

@[simp] theorem encode_decode (bytes : List UInt8) :
    encode bytes.length (decode bytes) = bytes := by
  apply eq_of_decode_eq (length_encode _ _)
  exact decode_encode_of_lt (decode_lt bytes)

theorem encode_decode_of_length {width : Nat} {bytes : List UInt8}
    (h : bytes.length = width) : encode width (decode bytes) = bytes := by
  rw [← h, encode_decode]

/-- Numbers that fit their width are told apart by their bytes. -/
theorem encode_inj {width m n : Nat} (hm : m < 256 ^ width) (hn : n < 256 ^ width) :
    encode width m = encode width n ↔ m = n := by
  constructor
  · intro h
    rw [← decode_encode_of_lt hm, h, decode_encode_of_lt hn]
  · rintro rfl
    rfl

/-! ## Integers in two's complement -/

/-- An integer that two's complement of `width` bytes can hold. -/
def FitsSigned (width : Nat) (i : Int) : Prop :=
  -(256 ^ width : Nat) ≤ 2 * i ∧ 2 * i < (256 ^ width : Nat)

instance (width : Nat) (i : Int) : Decidable (FitsSigned width i) :=
  inferInstanceAs (Decidable (_ ∧ _))

/-- The range of two's complement, with powers of two. -/
theorem fitsSigned_iff_two_pow {width : Nat} (hpos : 1 ≤ width) {i : Int} :
    FitsSigned width i ↔ -2 ^ (8 * width - 1) ≤ i ∧ i < 2 ^ (8 * width - 1) := by
  have hpow : 256 ^ width = 2 * 2 ^ (8 * width - 1) := by
    rw [← Nat.pow_succ', Nat.succ_eq_add_one, Nat.sub_add_cancel (by omega), Nat.pow_mul]
  rw [FitsSigned, hpow]
  push_cast
  generalize (2 : Int) ^ (8 * width - 1) = half
  omega

@[simp] theorem length_encodeSigned (width : Nat) (i : Int) :
    (encodeSigned width i).length = width :=
  length_encode _ _

theorem fitsSigned_decodeSigned (bytes : List UInt8) :
    FitsSigned bytes.length (decodeSigned bytes) := by
  have hlt := decode_lt bytes
  simp only [FitsSigned, decodeSigned]
  generalize decode bytes = n at hlt ⊢
  generalize 256 ^ bytes.length = size at hlt ⊢
  split <;> omega

/-- The residue that stands for an integer, of two's complement with `size` numbers. -/
private theorem emod_of_fits {size : Nat} {i : Int}
    (h : -(size : Int) ≤ 2 * i ∧ 2 * i < size) :
    i % size = if 0 ≤ i then i else i + size := by
  split
  · exact Int.emod_eq_of_lt (by omega) (by omega)
  · rw [← Int.add_emod_right]
    exact Int.emod_eq_of_lt (by omega) (by omega)

theorem decodeSigned_encodeSigned {width : Nat} {i : Int} (h : FitsSigned width i) :
    decodeSigned (encodeSigned width i) = i := by
  have hemod := emod_of_fits h
  have hresidue : (i % (256 ^ width : Nat)).toNat < 256 ^ width := by
    rw [hemod]
    have := h.1
    have := h.2
    split <;> omega
  simp only [decodeSigned, encodeSigned, decode_encode_of_lt hresidue, length_encode]
  rw [hemod]
  obtain ⟨hlow, hhigh⟩ := h
  generalize (256 ^ width : Nat) = size at *
  split <;> split <;> omega

/-- Reading two's complement only picks another representative of the natural that is read. -/
private theorem decodeSigned_emod (bytes : List UInt8) :
    (decodeSigned bytes % (256 ^ bytes.length : Nat)).toNat = decode bytes := by
  have hlt := decode_lt bytes
  simp only [decodeSigned]
  generalize decode bytes = n at hlt ⊢
  generalize 256 ^ bytes.length = size at hlt ⊢
  split
  · rw [Int.emod_eq_of_lt (by omega) (by omega)]
    omega
  · rw [← Int.add_emod_right, Int.sub_add_cancel, Int.emod_eq_of_lt (by omega) (by omega)]
    omega

theorem encodeSigned_decodeSigned {width : Nat} {bytes : List UInt8}
    (h : bytes.length = width) : encodeSigned width (decodeSigned bytes) = bytes := by
  subst h
  rw [encodeSigned, decodeSigned_emod, encode_decode]

/-- Byte strings of one length are told apart by their integers. -/
theorem eq_of_decodeSigned_eq {x y : List UInt8} (hlength : x.length = y.length)
    (hdecode : decodeSigned x = decodeSigned y) : x = y := by
  have hy : encodeSigned y.length (decodeSigned y) = y := encodeSigned_decodeSigned rfl
  rwa [← hdecode, encodeSigned_decodeSigned hlength] at hy

/-- Integers that fit their width are told apart by their bytes. -/
theorem encodeSigned_inj {width : Nat} {i j : Int}
    (hi : FitsSigned width i) (hj : FitsSigned width j) :
    encodeSigned width i = encodeSigned width j ↔ i = j := by
  constructor
  · intro h
    rw [← decodeSigned_encodeSigned hi, h, decodeSigned_encodeSigned hj]
  · rintro rfl
    rfl

/-! ## The shortest two's complement -/

/-- A byte that only repeats the sign of the byte behind it does not count. -/
theorem decodeSigned_cons_of_redundant {a b : UInt8} {rest : List UInt8}
    (h : (a = 0x00 ∧ b < 0x80) ∨ (a = 0xFF ∧ 0x80 ≤ b)) :
    decodeSigned (a :: b :: rest) = decodeSigned (b :: rest) := by
  have hrest := decode_lt rest
  simp only [decodeSigned, decode_cons, List.length_cons, Nat.pow_succ]
  generalize decode rest = r at hrest ⊢
  generalize 256 ^ rest.length = size at hrest ⊢
  rcases h with ⟨rfl, hb⟩ | ⟨rfl, hb⟩
  · have hb' : b.toNat + 1 ≤ 128 := UInt8.lt_iff_toNat_lt.mp hb
    have hscaled : b.toNat * size + size ≤ 128 * size := by
      have := Nat.mul_le_mul_right size hb'
      linarith
    have hzero : (0x00 : UInt8).toNat = 0 := rfl
    simp only [hzero, Nat.zero_mul, Nat.zero_add]
    rw [if_pos (by omega), if_pos (by omega)]
  · have hb' : 128 ≤ b.toNat := UInt8.le_iff_toNat_le.mp hb
    have hscaled : 128 * size ≤ b.toNat * size := Nat.mul_le_mul_right size hb'
    have hones : (0xFF : UInt8).toNat = 255 := rfl
    simp only [hones]
    rw [if_neg (by omega), if_neg (by omega)]
    omega

theorem decodeSigned_dropSignBytes (bytes : List UInt8) :
    decodeSigned (dropSignBytes bytes) = decodeSigned bytes := by
  fun_induction dropSignBytes bytes with
  | case1 a b rest h ih => rw [ih, decodeSigned_cons_of_redundant h]
  | case2 a b rest h => rfl
  | case3 bytes h => rfl

theorem length_dropSignBytes_le (bytes : List UInt8) :
    (dropSignBytes bytes).length ≤ bytes.length := by
  fun_induction dropSignBytes bytes with
  | case1 a b rest h ih =>
      rw [List.length_cons]
      omega
  | case2 a b rest h => exact le_rfl
  | case3 bytes h => exact le_rfl

theorem length_dropSignBytes_pos {bytes : List UInt8} (h : bytes ≠ []) :
    0 < (dropSignBytes bytes).length := by
  fun_induction dropSignBytes bytes with
  | case1 a b rest _ ih => exact ih (by simp)
  | case2 a b rest _ => simp
  | case3 bytes _ => exact List.length_pos_iff.mpr h

theorem length_shortest_pos (i : Int) : 0 < (shortest i).length := by
  apply length_dropSignBytes_pos
  intro h
  have hlength := congrArg List.length h
  simp at hlength

theorem length_shortest_le (i : Int) : (shortest i).length ≤ 16 := by
  have h := length_dropSignBytes_le (encodeSigned 16 i)
  rwa [length_encodeSigned] at h

theorem fitsSigned_sixteen {i : Int} (h : Decimal.Fits i) : FitsSigned 16 i := by
  unfold Decimal.Fits at h
  unfold FitsSigned
  norm_num
  omega

theorem FitsSigned.mono {width wider : Nat} {i : Int} (h : FitsSigned width i)
    (hle : width ≤ wider) : FitsSigned wider i := by
  have hpow : 256 ^ width ≤ 256 ^ wider := Nat.pow_le_pow_right (by decide) hle
  unfold FitsSigned at *
  omega

theorem fits_of_fitsSigned {width : Nat} {i : Int} (hwidth : width ≤ 16)
    (h : FitsSigned width i) : Decimal.Fits i := by
  have hpow : 256 ^ width ≤ 256 ^ 16 := Nat.pow_le_pow_right (by decide) hwidth
  unfold FitsSigned at h
  unfold Decimal.Fits
  generalize 256 ^ width = size at h hpow
  norm_num at hpow
  omega

theorem decodeSigned_shortest {i : Int} (h : Decimal.Fits i) :
    decodeSigned (shortest i) = i := by
  rw [shortest, decodeSigned_dropSignBytes, decodeSigned_encodeSigned (fitsSigned_sixteen h)]

/-- Where the first byte does not only repeat a sign, it cannot be left out. -/
theorem not_fitsSigned_of_irredundant {a b : UInt8} {rest : List UInt8}
    (h : ¬((a = 0x00 ∧ b < 0x80) ∨ (a = 0xFF ∧ 0x80 ≤ b))) :
    ¬FitsSigned (rest.length + 1) (decodeSigned (a :: b :: rest)) := by
  have hrest := decode_lt rest
  have ha := a.toNat_lt
  have hb := b.toNat_lt
  -- The two bytes are a number between the redundant ones at both ends.
  obtain ⟨front, hfront⟩ : ∃ front, a.toNat * 256 + b.toNat = front := ⟨_, rfl⟩
  have hlow : 128 ≤ front := by
    by_contra hsmall
    have hzero : a.toNat = 0 := by omega
    have hbit : b.toNat < 128 := by omega
    exact h (Or.inl ⟨UInt8.toNat_inj.mp hzero, UInt8.lt_iff_toNat_lt.mpr hbit⟩)
  have hhigh : front + 1 ≤ 65408 := by
    by_contra hlarge
    have hones : a.toNat = 255 := by omega
    have hbit : 128 ≤ b.toNat := by omega
    exact h (Or.inr ⟨UInt8.toNat_inj.mp hones, UInt8.le_iff_toNat_le.mpr hbit⟩)
  have hdecode : decode (a :: b :: rest) = front * 256 ^ rest.length + decode rest := by
    rw [decode_cons, decode_cons, List.length_cons, Nat.pow_succ, ← hfront]
    ring
  have hlow' := Nat.mul_le_mul_right (256 ^ rest.length) hlow
  have hhigh' := Nat.mul_le_mul_right (256 ^ rest.length) hhigh
  rw [Nat.succ_mul] at hhigh'
  simp only [FitsSigned, decodeSigned, hdecode, List.length_cons, Nat.pow_succ]
  generalize front * 256 ^ rest.length = n at hlow' hhigh' ⊢
  generalize decode rest = r at hrest ⊢
  generalize 256 ^ rest.length = size at hrest hlow' hhigh' ⊢
  split
  · omega
  · omega

theorem length_dropSignBytes_le_of_fitsSigned {width : Nat} (hpos : 0 < width)
    {bytes : List UInt8} (h : FitsSigned width (decodeSigned bytes)) :
    (dropSignBytes bytes).length ≤ width := by
  fun_induction dropSignBytes bytes with
  | case1 a b rest hredundant ih =>
      rw [decodeSigned_cons_of_redundant hredundant] at h
      exact ih h
  | case2 a b rest hirredundant =>
      by_contra hlong
      rw [List.length_cons, List.length_cons] at hlong
      exact not_fitsSigned_of_irredundant hirredundant (h.mono (by omega))
  | case3 bytes hshort =>
      match bytes with
      | [] => exact Nat.zero_le width
      | [a] => exact hpos
      | a :: b :: rest => exact absurd rfl (hshort a b rest)

/-- No two's complement of an integer has fewer bytes than the shortest one. -/
theorem length_shortest_le_of_fitsSigned {width : Nat} {i : Int} (hi : Decimal.Fits i)
    (hpos : 0 < width) (h : FitsSigned width i) : (shortest i).length ≤ width := by
  have hread := decodeSigned_encodeSigned (fitsSigned_sixteen hi)
  apply length_dropSignBytes_le_of_fitsSigned hpos
  rwa [hread]

end QueryReplay.BigEndian
