import QueryReplay.Key

/-!
# Hexadecimal text is read back

The digits of a byte string are read back as the byte string, so a key is known
by its digits.  The digits never contain a slash, a dot or another sign that
means something in a path.
-/

namespace QueryReplay

namespace Hex

/-! ## Digits -/

/-- The characters that are written. -/
def IsDigit (c : Char) : Prop :=
  c ∈ ['0', '1', '2', '3', '4', '5', '6', '7', '8', '9', 'a', 'b', 'c', 'd', 'e', 'f']

instance (c : Char) : Decidable (IsDigit c) :=
  inferInstanceAs (Decidable (_ ∈ _))

theorem isDigit_digit {n : Nat} (h : n < 16) : IsDigit (digit n) := by
  have hall : ∀ n : Fin 16, IsDigit (digit n) := by decide
  exact hall ⟨n, h⟩

theorem digitValue?_digit {n : Nat} (h : n < 16) : digitValue? (digit n) = some n := by
  have hall : ∀ n : Fin 16, digitValue? (digit n) = some n.val := by decide
  exact hall ⟨n, h⟩

theorem pairValue?_digit (b : UInt8) :
    pairValue? (digit (b.toNat / 16)) (digit (b.toNat % 16)) = some b := by
  have hb := b.toNat_lt
  have hhigh : b.toNat / 16 < 16 := by omega
  have hlow : b.toNat % 16 < 16 := by omega
  have hplus : digit (b.toNat / 16) ≠ '+' := by
    have hdigit := isDigit_digit hhigh
    intro h
    rw [h] at hdigit
    exact absurd hdigit (by decide)
  rw [pairValue?, if_neg hplus, digitValue?_digit hhigh, digitValue?_digit hlow]
  show some (UInt8.ofNat (16 * (b.toNat / 16) + b.toNat % 16)) = some b
  rw [Nat.div_add_mod, UInt8.ofNat_toNat]

/-! ## Byte strings -/

theorem decodeOnto_digits (done bytes : List UInt8) :
    decodeOnto done (digits bytes) = some (done.reverse ++ bytes) := by
  induction bytes generalizing done with
  | nil => simp [digits, decodeOnto]
  | cons b bytes ih =>
      have hdigits : digits (b :: bytes) =
          digit (b.toNat / 16) :: digit (b.toNat % 16) :: digits bytes := rfl
      rw [hdigits, decodeOnto, pairValue?_digit]
      show decodeOnto (b :: done) (digits bytes) = _
      rw [ih, List.reverse_cons, List.append_assoc, List.singleton_append]

/-- What is written for a byte string is read back as the byte string. -/
theorem decode?_encode (bytes : List UInt8) : decode? (encode bytes) = some bytes := by
  rw [decode?, encode, String.toList_ofList, decodeOnto_digits]
  rfl

theorem encode_inj {x y : List UInt8} (h : encode x = encode y) : x = y := by
  apply Option.some.inj
  rw [← decode?_encode, h, decode?_encode]

theorem length_digits (bytes : List UInt8) : (digits bytes).length = 2 * bytes.length := by
  induction bytes with
  | nil => rfl
  | cons b bytes ih =>
      have hdigits : digits (b :: bytes) =
          digit (b.toNat / 16) :: digit (b.toNat % 16) :: digits bytes := rfl
      rw [hdigits, List.length_cons, List.length_cons, ih, List.length_cons]
      omega

theorem isDigit_of_mem_digits {bytes : List UInt8} {c : Char} (h : c ∈ digits bytes) :
    IsDigit c := by
  obtain ⟨b, _, hc⟩ := List.mem_flatMap.mp h
  have hb := b.toNat_lt
  rcases List.mem_cons.mp hc with rfl | hc
  · exact isDigit_digit (by omega)
  · rw [List.mem_singleton.mp hc]
    exact isDigit_digit (by omega)

theorem IsDigit.utf8Size {c : Char} (h : IsDigit c) : c.utf8Size = 1 := by
  have hall : ['0', '1', '2', '3', '4', '5', '6', '7', '8', '9', 'a', 'b', 'c', 'd', 'e', 'f'].all
      fun c => c.utf8Size == 1 := by decide
  exact eq_of_beq (List.all_eq_true.mp hall c h)

/-- Every digit takes one byte. -/
theorem utf8ByteSize_ofList {cs : List Char} (hdigits : ∀ c ∈ cs, IsDigit c) :
    (String.ofList cs).utf8ByteSize = cs.length := by
  induction cs with
  | nil => rfl
  | cons c cs ih =>
      obtain ⟨hc, hcs⟩ := List.forall_mem_cons.mp hdigits
      rw [String.ofList_cons, String.utf8ByteSize_append, String.utf8ByteSize_singleton, ih hcs,
        hc.utf8Size, List.length_cons, Nat.add_comm]

end Hex

/-- A key is known by its digits. -/
theorem Key.hex_inj {k l : Key} (h : k.hex = l.hex) : k = l := by
  cases k
  cases l
  rw [Key.mk.injEq]
  exact Vector.toList_inj.mp (Hex.encode_inj h)

theorem Key.length_hex (k : Key) : k.hex.toList.length = 64 := by
  rw [Key.hex, Hex.encode, String.toList_ofList, Hex.length_digits, Vector.length_toList]

/-- The digits of a key are read back as the key. -/
theorem Key.ofHex?_hex (k : Key) : Key.ofHex? k.hex = some k := by
  have hdecode : Hex.decode? k.hex = some k.bytes.toList := Hex.decode?_encode _
  have hsize : k.bytes.toList.toArray.size = 32 := k.bytes.length_toList
  simp only [Key.ofHex?, if_pos k.length_hex, hdecode, dif_pos hsize]
  rfl

end QueryReplay
