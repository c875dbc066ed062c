import Mathlib.Order.Bounds.Basic
import QueryReplay.Proofs.Entry.Values

/-!
# The digits of decimals

The digits of a decimal are read in two's complement, from one to sixteen
bytes that are first filled up to sixteen with their sign.  Filling up changes
no integer, and neither does leaving out what would be filled in again, so an
integer has digits of many lengths.

The shortest ones, which are written, have as many bytes as the narrowest range
that holds the integer.  Fewer bytes cannot hold it, and as many bytes hold it
in one way only, so no other digits are as short.
-/

namespace QueryReplay.Entry

open BigEndian Reader

/-! ## Filling up with the sign -/

/-- The byte that repeats the sign of a first byte. -/
def signByte (b : UInt8) : UInt8 :=
  if b < 0x80 then 0x00 else 0xFF

/-- One to sixteen bytes, with their sign in front up to sixteen. -/
def filledUp? : List UInt8 → Option (List UInt8)
  | [] => none
  | b :: rest =>
    if rest.length < 16 then some (List.replicate (15 - rest.length) (signByte b) ++ b :: rest)
    else none

/-- The bytes are digits of the integer, filled up to sixteen with their sign. -/
def DigitsOf (i : Int) (digits : List UInt8) : Prop :=
  (filledUp? digits).map decodeSigned = some i

instance (i : Int) (digits : List UInt8) : Decidable (DigitsOf i digits) :=
  inferInstanceAs (Decidable (_ = _))

theorem length_of_filledUp? {digits bytes : List UInt8} (h : filledUp? digits = some bytes) :
    bytes.length = 16 := by
  cases digits with
  | nil => cases h
  | cons b rest =>
      rw [filledUp?] at h
      split at h
      · cases h
        rw [List.length_append, List.length_replicate, List.length_cons]
        omega
      · cases h

/-- In front of a byte, its sign only repeats what that byte says. -/
theorem redundant_signByte (b : UInt8) :
    (signByte b = 0x00 ∧ b < 0x80) ∨ (signByte b = 0xFF ∧ 0x80 ≤ b) := by
  by_cases h : b < 0x80
  · exact Or.inl ⟨if_pos h, h⟩
  · exact Or.inr ⟨if_neg h, UInt8.not_lt.mp h⟩

theorem signByte_signByte (b : UInt8) : signByte (signByte b) = signByte b := by
  rcases redundant_signByte b with ⟨h, _⟩ | ⟨h, _⟩
  · rw [h]
    rfl
  · rw [h]
    rfl

theorem decodeSigned_replicate_signByte (count : Nat) (b : UInt8) (rest : List UInt8) :
    decodeSigned (List.replicate count (signByte b) ++ b :: rest) = decodeSigned (b :: rest) := by
  induction count with
  | zero => rfl
  | succ count ih =>
      rw [List.replicate_succ, List.cons_append, ← ih]
      -- The next byte is the first of the digits, or one that was filled in before.
      cases count with
      | zero => exact decodeSigned_cons_of_redundant (redundant_signByte b)
      | succ count =>
          have hredundant := redundant_signByte (signByte b)
          rw [signByte_signByte] at hredundant
          exact decodeSigned_cons_of_redundant hredundant

theorem digitsOf_iff {i : Int} {digits : List UInt8} :
    DigitsOf i digits ↔
      (0 < digits.length ∧ digits.length ≤ 16) ∧ decodeSigned digits = i := by
  cases digits with
  | nil => exact iff_of_false nofun fun h => absurd h.1.1 (lt_irrefl 0)
  | cons b rest =>
      rw [DigitsOf, filledUp?, List.length_cons]
      split
      · next hshort =>
        rw [Option.map_some, decodeSigned_replicate_signByte, Option.some_inj, and_iff_right]
        exact ⟨Nat.succ_pos _, hshort⟩
      · next hlong => exact iff_of_false nofun fun h => hlong h.1.2

/-- Digits are filled up to the two's complement of sixteen bytes. -/
theorem DigitsOf.filledUp?_eq {i : Int} {digits : List UInt8} (h : DigitsOf i digits) :
    filledUp? digits = some (encodeSigned 16 i) := by
  obtain ⟨bytes, hbytes, rfl⟩ := Option.map_eq_some_iff.mp h
  rw [hbytes, encodeSigned_decodeSigned (length_of_filledUp? hbytes)]

/-! ## What is read as digits -/

/-- Behind a scale and their number, in front of any bytes, the digits are read as the integer. -/
def ReadAsDigits (i : Int) (digits : List UInt8) : Prop :=
  ∀ scale ≤ Decimal.maxScale, ∀ offset rest,
    getDecimal.run ⟨offset, encode 4 scale ++ encode 1 digits.length ++ digits ++ rest⟩ =
      .ok (.decimal ⟨i, scale⟩, ⟨offset + (4 + 1 + digits.length), rest⟩)

theorem readAsDigits_iff {i : Int} {digits : List UInt8} :
    ReadAsDigits i digits ↔ DigitsOf i digits := by
  rw [digitsOf_iff]
  constructor
  · intro h
    obtain ⟨b, ⟨d, hd, -, others, hlength, hothers, rfl⟩, hrest, -⟩ :=
      (exact_getDecimal _ _ _).mp (h 0 (Nat.zero_le _) 0 [])
    cases hd
    have hsame : encode 4 0 ++ encode 1 digits.length ++ digits
        = encode 4 0 ++ encode 1 others.length ++ others := by
      simpa only [List.append_nil] using hrest
    -- The scale and the number take as many bytes on both sides.
    obtain ⟨-, rfl⟩ := List.append_inj hsame (by simp only [List.length_append, length_encode])
    exact ⟨hlength, hothers⟩
  · rintro ⟨hlength, hdigits⟩ scale hscale offset rest
    refine (exact_getDecimal _ _ _).mpr
      ⟨_, ⟨⟨i, scale⟩, rfl, hscale, digits, hlength, hdigits, rfl⟩, rfl, ?_⟩
    simp only [List.length_append, length_encode]

/-! ## The shortest digits -/

theorem digitsOf_shortest {i : Int} (hi : Decimal.Fits i) : DigitsOf i (shortest i) :=
  digitsOf_iff.mpr ⟨⟨length_shortest_pos i, length_shortest_le i⟩, decodeSigned_shortest hi⟩

theorem DigitsOf.fitsSigned {i : Int} {digits : List UInt8} (h : DigitsOf i digits) :
    FitsSigned digits.length i := by
  obtain ⟨-, rfl⟩ := digitsOf_iff.mp h
  exact fitsSigned_decodeSigned digits

/-- The shortest digits are as long as the narrowest range that holds the integer. -/
theorem isLeast_length_shortest {i : Int} (hi : Decimal.Fits i) :
    IsLeast {width : Nat | 1 ≤ width ∧ -2 ^ (8 * width - 1) ≤ i ∧ i < 2 ^ (8 * width - 1)}
      (shortest i).length := by
  constructor
  · have hpos : 1 ≤ (shortest i).length := length_shortest_pos i
    exact ⟨hpos, (fitsSigned_iff_two_pow hpos).mp (digitsOf_shortest hi).fitsSigned⟩
  · rintro width ⟨hpos, hholds⟩
    exact length_shortest_le_of_fitsSigned hi hpos ((fitsSigned_iff_two_pow hpos).mpr hholds)

/-- Digits of the same integer are at least as long as the shortest ones. -/
theorem DigitsOf.length_shortest_le {i : Int} {digits : List UInt8} (h : DigitsOf i digits)
    (hi : Decimal.Fits i) : (shortest i).length ≤ digits.length :=
  length_shortest_le_of_fitsSigned hi (digitsOf_iff.mp h).1.1 h.fitsSigned

theorem DigitsOf.eq {i : Int} {x y : List UInt8} (hx : DigitsOf i x) (hy : DigitsOf i y)
    (hlength : x.length = y.length) : x = y :=
  eq_of_decodeSigned_eq hlength ((digitsOf_iff.mp hx).2.trans (digitsOf_iff.mp hy).2.symm)

/-- The digits that are written for an integer of sixteen bytes have the least number of bytes whose
range holds it, between one and sixteen, and are filled up to the sixteen bytes of the integer.
Other digits of the same integer are longer.  What is read as an integer are its digits. -/
theorem shortest_digits_unique {i : Int} (hi : Decimal.Fits i) :
    (1 ≤ (shortest i).length ∧ (shortest i).length ≤ 16) ∧
      IsLeast {width : Nat | 1 ≤ width ∧ -2 ^ (8 * width - 1) ≤ i ∧ i < 2 ^ (8 * width - 1)}
        (shortest i).length ∧
      (filledUp? (shortest i) = some (encodeSigned 16 i) ∧ DigitsOf i (shortest i)) ∧
        (∀ digits, DigitsOf i digits → digits.length ≤ (shortest i).length →
          digits = shortest i) ∧
          ∀ digits, ReadAsDigits i digits ↔ DigitsOf i digits := by
  have hshortest := digitsOf_shortest hi
  refine ⟨⟨length_shortest_pos i, length_shortest_le i⟩, isLeast_length_shortest hi,
    ⟨hshortest.filledUp?_eq, hshortest⟩, fun digits hdigits hle => ?_, fun _ => readAsDigits_iff⟩
  exact hdigits.eq hshortest (le_antisymm hle (hdigits.length_shortest_le hi))

/-- The least integer of two bytes has a byte of zeros behind its sign, which stays. -/
theorem leastPair_digits_unique :
    Decimal.Fits (-2 ^ 15) ∧ shortest (-2 ^ 15) = [0x80, 0x00] ∧
      IsLeast {width : Nat | 1 ≤ width ∧ -2 ^ (8 * width - 1) ≤ (-2 ^ 15 : Int) ∧
        (-2 ^ 15 : Int) < 2 ^ (8 * width - 1)} 2 ∧
      (filledUp? [0x80, 0x00] = some (encodeSigned 16 (-2 ^ 15)) ∧
        DigitsOf (-2 ^ 15) [0x80, 0x00]) ∧
        (∀ digits, DigitsOf (-2 ^ 15) digits → digits.length ≤ 2 → digits = [0x80, 0x00]) ∧
          ReadAsDigits (-2 ^ 15) [0x80, 0x00] := by
  have hfits : Decimal.Fits (-2 ^ 15) := by decide
  have hshortest : shortest (-2 ^ 15) = [0x80, 0x00] := by decide
  obtain ⟨-, hleast, hdigits, honly, hread⟩ := shortest_digits_unique hfits
  rw [hshortest] at hleast hdigits honly
  exact ⟨hfits, hshortest, hleast, hdigits, honly, (hread _).mpr hdigits.2⟩

end QueryReplay.Entry
