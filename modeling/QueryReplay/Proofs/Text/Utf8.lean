import Mathlib.Tactic.SplitIfs
import Mathlib.Tactic.Tauto
import QueryReplay.Text.Utf8

/-!
# UTF-8 is exact

This file proves that reading UTF-8 is inverse to writing it, in both
directions: a text reads back from its bytes, and a byte string that is read
as a text is the bytes of that text.  The second half is what rules out
overlong forms, surrogates and code points out of range.

The reader is first described by one equation for each length of a character,
with the conditions on the bytes as inequalities between naturals.
-/

namespace QueryReplay.Utf8

/-! ## The bytes of one character -/

theorem isContinuation_iff (b : UInt8) :
    isContinuation b = true ↔ 0x80 ≤ b.toNat ∧ b.toNat < 0xC0 := by
  simp [isContinuation, UInt8.le_iff_toNat_le, UInt8.lt_iff_toNat_lt]

/-- The bounds on the second byte, as they depend on the first. -/
theorem allowsSecond_iff (a b : UInt8) :
    allowsSecond a b = true ↔
      (0x80 ≤ b.toNat ∧ b.toNat < 0xC0) ∧
        (a.toNat = 0xE0 → 0xA0 ≤ b.toNat) ∧ (a.toNat = 0xED → b.toNat < 0xA0) ∧
        (a.toNat = 0xF0 → 0x90 ≤ b.toNat) ∧ (a.toNat = 0xF4 → b.toNat < 0x90) := by
  simp only [allowsSecond, Bool.and_eq_true, isContinuation_iff, Bool.or_eq_true,
    bne_iff_ne, ne_eq, decide_eq_true_eq, UInt8.le_iff_toNat_le, UInt8.lt_iff_toNat_lt,
    ← UInt8.toNat_inj, UInt8.reduceToNat]
  tauto

/-- The byte strings that spell a character, by their length. -/
inductive Spells : Char → List UInt8 → Prop where
  | one {a : UInt8} (ha : a.toNat < 0x80) :
      Spells (Char.ofNat a.toNat) [a]
  | two {a b : UInt8} (hlow : 0xC2 ≤ a.toNat) (hhigh : a.toNat < 0xE0)
      (hb : isContinuation b = true) :
      Spells (Char.ofNat ((a.toNat - 0xC0) * 0x40 + payload b)) [a, b]
  | three {a b c : UInt8} (hlow : 0xE0 ≤ a.toNat) (hhigh : a.toNat < 0xF0)
      (hb : allowsSecond a b = true) (hc : isContinuation c = true) :
      Spells
        (Char.ofNat ((a.toNat - 0xE0) * 0x1000 + payload b * 0x40 + payload c)) [a, b, c]
  | four {a b c d : UInt8} (hlow : 0xF0 ≤ a.toNat) (hhigh : a.toNat < 0xF5)
      (hb : allowsSecond a b = true) (hc : isContinuation c = true)
      (hd : isContinuation d = true) :
      Spells
        (Char.ofNat ((a.toNat - 0xF0) * 0x40000 + payload b * 0x1000 + payload c * 0x40
          + payload d)) [a, b, c, d]

/-- Code points are below `0x110000`, and none is a surrogate. -/
theorem toNat_range (c : Char) :
    c.toNat < 0xD800 ∨ (0xDFFF < c.toNat ∧ c.toNat < 0x110000) :=
  c.valid

private theorem toNat_ofNat_of_range {n : Nat}
    (h : n < 0xD800 ∨ (0xDFFF < n ∧ n < 0x110000)) : (Char.ofNat n).toNat = n := by
  rw [Char.ofNat, dif_pos h]
  rfl

private theorem byte_toNat {n : Nat} (h : n < 256) : (UInt8.ofNat n).toNat = n := by
  rw [UInt8.toNat_ofNat', Nat.mod_eq_of_lt h]

private theorem byte_eq {n : Nat} {a : UInt8} (h : n = a.toNat) : UInt8.ofNat n = a := by
  rw [h, UInt8.ofNat_toNat]

/-- A character is spelled by the bytes that it is written as. -/
theorem spells_encodeChar (c : Char) : Spells c (encodeChar c) := by
  have hrange := toNat_range c
  have hback : Char.ofNat c.toNat = c := Char.ofNat_toNat c
  simp only [encodeChar]
  generalize c.toNat = n at hrange hback
  subst hback
  split_ifs with hone htwo hthree
  · have ha := byte_toNat (n := n) (by omega)
    generalize UInt8.ofNat n = a at ha
    subst ha
    exact Spells.one hone
  · have ha := byte_toNat (n := 0xC0 + n / 0x40) (by omega)
    have hb := byte_toNat (n := 0x80 + n % 0x40) (by omega)
    generalize UInt8.ofNat (0xC0 + n / 0x40) = a at ha
    generalize UInt8.ofNat (0x80 + n % 0x40) = b at hb
    have hpb : payload b = b.toNat - 0x80 := rfl
    have hn : n = (a.toNat - 0xC0) * 0x40 + payload b := by omega
    rw [hn]
    exact Spells.two (by omega) (by omega) ((isContinuation_iff b).mpr (by omega))
  · have ha := byte_toNat (n := 0xE0 + n / 0x1000) (by omega)
    have hb := byte_toNat (n := 0x80 + n / 0x40 % 0x40) (by omega)
    have hc := byte_toNat (n := 0x80 + n % 0x40) (by omega)
    generalize UInt8.ofNat (0xE0 + n / 0x1000) = a at ha
    generalize UInt8.ofNat (0x80 + n / 0x40 % 0x40) = b at hb
    generalize UInt8.ofNat (0x80 + n % 0x40) = c at hc
    have hpb : payload b = b.toNat - 0x80 := rfl
    have hpc : payload c = c.toNat - 0x80 := rfl
    have hn : n = (a.toNat - 0xE0) * 0x1000 + payload b * 0x40 + payload c := by omega
    rw [hn]
    exact Spells.three (by omega) (by omega) ((allowsSecond_iff a b).mpr (by omega))
      ((isContinuation_iff c).mpr (by omega))
  · have ha := byte_toNat (n := 0xF0 + n / 0x40000) (by omega)
    have hb := byte_toNat (n := 0x80 + n / 0x1000 % 0x40) (by omega)
    have hc := byte_toNat (n := 0x80 + n / 0x40 % 0x40) (by omega)
    have hd := byte_toNat (n := 0x80 + n % 0x40) (by omega)
    generalize UInt8.ofNat (0xF0 + n / 0x40000) = a at ha
    generalize UInt8.ofNat (0x80 + n / 0x1000 % 0x40) = b at hb
    generalize UInt8.ofNat (0x80 + n / 0x40 % 0x40) = c at hc
    generalize UInt8.ofNat (0x80 + n % 0x40) = d at hd
    have hpb : payload b = b.toNat - 0x80 := rfl
    have hpc : payload c = c.toNat - 0x80 := rfl
    have hpd : payload d = d.toNat - 0x80 := rfl
    have hn : n = (a.toNat - 0xF0) * 0x40000 + payload b * 0x1000 + payload c * 0x40
        + payload d := by omega
    rw [hn]
    exact Spells.four (by omega) (by omega) ((allowsSecond_iff a b).mpr (by omega))
      ((isContinuation_iff c).mpr (by omega)) ((isContinuation_iff d).mpr (by omega))

/-- No other byte string spells the character. -/
theorem Spells.eq_encodeChar {c : Char} {bytes : List UInt8} (h : Spells c bytes) :
    bytes = encodeChar c := by
  cases h with
  | @one a ha =>
      generalize hn : a.toNat = n at ha
      simp only [encodeChar, toNat_ofNat_of_range (n := n) (by omega)]
      rw [if_pos ha, byte_eq hn.symm]
  | @two a b hlow hhigh hb =>
      rw [isContinuation_iff] at hb
      have hpb : payload b = b.toNat - 0x80 := rfl
      generalize hn : (a.toNat - 0xC0) * 0x40 + payload b = n
      simp only [encodeChar, toNat_ofNat_of_range (n := n) (by omega)]
      rw [if_neg (by omega), if_pos (by omega), byte_eq (a := a) (by omega),
        byte_eq (a := b) (by omega)]
  | @three a b c hlow hhigh hb hc =>
      rw [allowsSecond_iff] at hb
      rw [isContinuation_iff] at hc
      have hpb : payload b = b.toNat - 0x80 := rfl
      have hpc : payload c = c.toNat - 0x80 := rfl
      generalize hn : (a.toNat - 0xE0) * 0x1000 + payload b * 0x40 + payload c = n
      simp only [encodeChar, toNat_ofNat_of_range (n := n) (by omega)]
      rw [if_neg (by omega), if_neg (by omega), if_pos (by omega),
        byte_eq (a := a) (by omega), byte_eq (a := b) (by omega),
        byte_eq (a := c) (by omega)]
  | @four a b c d hlow hhigh hb hc hd =>
      rw [allowsSecond_iff] at hb
      rw [isContinuation_iff] at hc hd
      have hpb : payload b = b.toNat - 0x80 := rfl
      have hpc : payload c = c.toNat - 0x80 := rfl
      have hpd : payload d = d.toNat - 0x80 := rfl
      generalize hn : (a.toNat - 0xF0) * 0x40000 + payload b * 0x1000 + payload c * 0x40
        + payload d = n
      simp only [encodeChar, toNat_ofNat_of_range (n := n) (by omega)]
      rw [if_neg (by omega), if_neg (by omega), if_neg (by omega),
        byte_eq (a := a) (by omega), byte_eq (a := b) (by omega),
        byte_eq (a := c) (by omega), byte_eq (a := d) (by omega)]

/-! ## The reader -/

/-- The first two tests of the reader pass exactly the lead bytes of longer characters. -/
private theorem lead_tests {a : UInt8} (hlow : 0xC2 ≤ a.toNat) (hhigh : a.toNat < 0xF5) :
    ¬a < 0x80 ∧ ¬((a < 0xC2 || 0xF5 ≤ a) = true) := by
  simp only [UInt8.lt_iff_toNat_lt, UInt8.le_iff_toNat_le, Bool.or_eq_true, decide_eq_true_eq,
    UInt8.reduceToNat]
  omega

private theorem range_of_lead_tests {a : UInt8} (h : ¬((a < 0xC2 || 0xF5 ≤ a) = true)) :
    0xC2 ≤ a.toNat ∧ a.toNat < 0xF5 := by
  simp only [UInt8.lt_iff_toNat_lt, UInt8.le_iff_toNat_le, Bool.or_eq_true, decide_eq_true_eq,
    UInt8.reduceToNat] at h
  omega

/-- A character is read off any bytes that spell it, whatever follows them. -/
theorem decodeFrom_of_spells {c : Char} {bytes : List UInt8} (h : Spells c bytes)
    (index : Nat) (done : List Char) (rest : List UInt8) :
    decodeFrom index done (bytes ++ rest) =
      decodeFrom (index + bytes.length) (c :: done) rest := by
  cases h with
  | @one a ha =>
      have hsmall : a < 0x80 := UInt8.lt_iff_toNat_lt.mpr ha
      rw [List.singleton_append, decodeFrom.eq_def]
      simp only [if_pos hsmall, List.length_singleton]
  | @two a b hlow hhigh hb =>
      obtain ⟨hsmall, hlead⟩ := lead_tests hlow (by omega)
      have htwo : a < 0xE0 := UInt8.lt_iff_toNat_lt.mpr hhigh
      rw [decodeFrom.eq_def]
      simp only [List.cons_append, List.nil_append, if_neg hsmall, if_neg hlead,
        if_pos htwo, if_pos hb, List.length_cons, List.length_nil]
  | @three a b c hlow hhigh hb hc =>
      obtain ⟨hsmall, hlead⟩ := lead_tests (a := a) (by omega) (by omega)
      have htwo : ¬a < 0xE0 := UInt8.not_lt.mpr (UInt8.le_iff_toNat_le.mpr hlow)
      have hthree : a < 0xF0 := UInt8.lt_iff_toNat_lt.mpr hhigh
      rw [decodeFrom.eq_def]
      simp only [List.cons_append, List.nil_append, if_neg hsmall, if_neg hlead,
        if_neg htwo, if_pos hb, if_pos hc, if_pos hthree, List.length_cons, List.length_nil]
  | @four a b c d hlow hhigh hb hc hd =>
      obtain ⟨hsmall, hlead⟩ := lead_tests (a := a) (by omega) hhigh
      have hthree : ¬a < 0xF0 := UInt8.not_lt.mpr (UInt8.le_iff_toNat_le.mpr hlow)
      have htwo : ¬a < 0xE0 := fun h => hthree (UInt8.lt_trans h (by decide))
      rw [decodeFrom.eq_def]
      simp only [List.cons_append, List.nil_append, if_neg hsmall, if_neg hlead,
        if_neg htwo, if_pos hb, if_pos hc, if_neg hthree, if_pos hd, List.length_cons,
        List.length_nil]

theorem decodeFrom_flatMap (index : Nat) (done cs : List Char) :
    decodeFrom index done (cs.flatMap encodeChar) = .ok (done.reverse ++ cs) := by
  induction cs generalizing index done with
  | nil => simp [decodeFrom]
  | cons c cs ih =>
      rw [List.flatMap_cons, decodeFrom_of_spells (spells_encodeChar c), ih]
      simp

/-- One more character in front of bytes that are known to be written characters. -/
private theorem prepend_char {c : Char} {done cs : List Char} {piece rest : List UInt8}
    (hpiece : Spells c piece)
    (hrest : ∃ tail, cs = (c :: done).reverse ++ tail ∧ rest = tail.flatMap encodeChar) :
    ∃ tail, cs = done.reverse ++ tail ∧ piece ++ rest = tail.flatMap encodeChar := by
  obtain ⟨tail, hcs, rfl⟩ := hrest
  refine ⟨c :: tail, ?_, ?_⟩
  · rw [hcs, List.reverse_cons, List.append_assoc, List.singleton_append]
  · rw [List.flatMap_cons, hpiece.eq_encodeChar]

/-- The reader accepts only what the writer writes. -/
theorem eq_flatMap_of_decodeFrom {index : Nat} {done cs : List Char} {bytes : List UInt8}
    (h : decodeFrom index done bytes = .ok cs) :
    ∃ tail, cs = done.reverse ++ tail ∧ bytes = tail.flatMap encodeChar := by
  -- One case for each exit of the reader; all but the four that read a character are errors.
  fun_induction decodeFrom index done bytes with
  | case1 index done =>
      have hcs : done.reverse = cs := Except.ok.inj h
      exact ⟨[], by rw [List.append_nil, hcs], rfl⟩
  | case2 index done a rest hsmall ih =>
      exact prepend_char (Spells.one (UInt8.lt_iff_toNat_lt.mp hsmall)) (ih h)
  | case5 index done a hsmall hlead b rest htwo hb ih =>
      obtain ⟨hlow, _⟩ := range_of_lead_tests hlead
      exact prepend_char (Spells.two hlow (UInt8.lt_iff_toNat_lt.mp htwo) hb) (ih h)
  | case8 index done a hsmall hlead b htwo hb c rest hc hthree ih =>
      have hlow := UInt8.le_iff_toNat_le.mp (UInt8.not_lt.mp htwo)
      exact prepend_char (Spells.three hlow (UInt8.lt_iff_toNat_lt.mp hthree) hb hc) (ih h)
  | case10 index done a hsmall hlead b htwo hb c hc hthree d rest hd ih =>
      have hlow := UInt8.le_iff_toNat_le.mp (UInt8.not_lt.mp hthree)
      obtain ⟨_, hhigh⟩ := range_of_lead_tests hlead
      exact prepend_char (Spells.four hlow hhigh hb hc hd) (ih h)
  | _ => exact absurd h (by simp)

/-! ## Texts -/

@[simp] theorem decode_encode (s : String) : decode (encode s) = .ok s := by
  rw [decode, encode, decodeFrom_flatMap]
  simp [Except.map]

/-- A byte string is read as a text exactly when it is the bytes of that text. -/
theorem decode_eq_ok_iff {bytes : List UInt8} {s : String} :
    decode bytes = .ok s ↔ bytes = encode s := by
  constructor
  · intro h
    rw [decode] at h
    cases hcs : decodeFrom 0 [] bytes with
    | error fault => rw [hcs] at h; cases h
    | ok cs =>
        rw [hcs] at h
        obtain ⟨tail, htail, rfl⟩ := eq_flatMap_of_decodeFrom hcs
        have hs : String.ofList cs = s := Except.ok.inj h
        rw [encode, ← hs, htail]
        simp
  · rintro rfl
    exact decode_encode s

theorem decode?_eq_some_iff {bytes : List UInt8} {s : String} :
    decode? bytes = some s ↔ bytes = encode s := by
  rw [← decode_eq_ok_iff, decode?]
  cases decode bytes with
  | error fault => simp [Except.toOption]
  | ok t => simp [Except.toOption]

theorem decode?_encode (s : String) : decode? (encode s) = some s :=
  decode?_eq_some_iff.mpr rfl

/-- A byte string that is read as no text is not written for any. -/
theorem decode?_eq_none_iff {bytes : List UInt8} :
    decode? bytes = none ↔ ∀ s, bytes ≠ encode s := by
  rw [Option.eq_none_iff_forall_ne_some]
  exact forall_congr' fun s => not_congr decode?_eq_some_iff

theorem encode_injective : Function.Injective encode := by
  intro s t h
  have hs := decode_encode s
  rw [h, decode_encode] at hs
  exact (Except.ok.inj hs).symm

end QueryReplay.Utf8
