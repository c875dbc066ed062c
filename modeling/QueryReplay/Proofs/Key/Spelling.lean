import QueryReplay.Proofs.Key.Order
import QueryReplay.Proofs.Text.Hex

/-!
# Texts that stand for keys

The digits of a key are read back as the key, and they are ordered as the keys
are.  This file says which texts are read as a key at all.  Characters are read
in pairs.  Capital digits stand for small ones, and a plus sign in the first
place of a pair stands for a zero.  A text is read as a key exactly if it turns
into the digits of the key when both are rewritten.

So a text without plus signs is read exactly if it consists of sixty-four
digits, and then as the key whose digits it has.  With plus signs there are
further texts for every key that has a byte below sixteen.
-/

namespace QueryReplay

namespace Hex

/-! ## Digits of both cases -/

/-- A hexadecimal digit of either case. -/
def IsDigitOfAnyCase (c : Char) : Prop :=
  IsDigit c ∨ c ∈ ['A', 'B', 'C', 'D', 'E', 'F']

instance (c : Char) : Decidable (IsDigitOfAnyCase c) :=
  inferInstanceAs (Decidable (_ ∨ _))

/-- What holds of the first 128 characters one by one holds of each of them. -/
theorem forall_ascii {P : Char → Prop} (h : ∀ n < 128, P (Char.ofNat n)) {c : Char}
    (hc : c.toNat < 128) : P c := by
  rw [← Char.ofNat_toNat c]
  exact h c.toNat hc

theorem toLower_of_le {c : Char} (hc : 128 ≤ c.toNat) : c.toLower = c := by
  have hupper : ¬(c.val ≥ 'A'.val ∧ c.val ≤ 'Z'.val) := by
    rintro ⟨_, hhigh⟩
    rw [UInt32.le_iff_toNat_le] at hhigh
    have hto : c.toNat ≤ 90 := hhigh
    omega
  unfold Char.toLower
  rw [dif_neg hupper]

theorem IsDigit.exists_digit {c : Char} (h : IsDigit c) : ∃ n < 16, c = digit n := by
  have hdigits : ['0', '1', '2', '3', '4', '5', '6', '7', '8', '9', 'a', 'b', 'c', 'd', 'e', 'f'] =
      (List.range 16).map digit := by decide
  rw [IsDigit, hdigits] at h
  obtain ⟨n, hn, rfl⟩ := List.mem_map.mp h
  exact ⟨n, List.mem_range.mp hn, rfl⟩

theorem IsDigit.toNat_lt {c : Char} (h : IsDigit c) : c.toNat < 128 := by
  have hall : ∀ n < 16, (digit n).toNat < 128 := by decide
  obtain ⟨n, hn, rfl⟩ := h.exists_digit
  exact hall n hn

theorem IsDigitOfAnyCase.toNat_lt {c : Char} (h : IsDigitOfAnyCase c) : c.toNat < 128 := by
  have hcapitals : ['A', 'B', 'C', 'D', 'E', 'F'].all fun c => decide (c.toNat < 128) := by decide
  exact h.elim IsDigit.toNat_lt fun hc => of_decide_eq_true (List.all_eq_true.mp hcapitals c hc)

/-- Digits of either case are the characters whose small letters are digits. -/
theorem isDigit_toLower_iff {c : Char} : IsDigit c.toLower ↔ IsDigitOfAnyCase c := by
  by_cases hc : c.toNat < 128
  · exact forall_ascii (P := fun c => IsDigit c.toLower ↔ IsDigitOfAnyCase c) (by decide) hc
  · rw [toLower_of_le (not_lt.mp hc)]
    exact ⟨fun h => absurd h.toNat_lt hc, fun h => absurd h.toNat_lt hc⟩

theorem digit_lt_digit_iff {m n : Nat} (hm : m < 16) (hn : n < 16) :
    digit m < digit n ↔ m < n := by
  have hall : ∀ m n : Fin 16, digit m < digit n ↔ m.val < n.val := by decide
  exact hall ⟨m, hm⟩ ⟨n, hn⟩

theorem digit_eq_digit_iff {m n : Nat} (hm : m < 16) (hn : n < 16) :
    digit m = digit n ↔ m = n := by
  constructor
  · intro h
    apply Option.some.inj
    rw [← digitValue?_digit hm, h, digitValue?_digit hn]
  · exact congrArg digit

theorem digitValue?_toLower (c : Char) : digitValue? c.toLower = digitValue? c := by
  by_cases hc : c.toNat < 128
  · exact forall_ascii (P := fun c => digitValue? c.toLower = digitValue? c) (by decide) hc
  · rw [toLower_of_le (not_lt.mp hc)]

theorem toNat_lt_of_digitValue? {c : Char} {n : Nat} (h : digitValue? c = some n) :
    c.toNat < 128 := by
  by_contra hc
  have hbeyond (top : Char) (htop : top.toNat < 128) : decide (c ≤ top) = false := by
    rw [decide_eq_false_iff_not, Char.le_def, UInt32.le_iff_toNat_le]
    exact fun hle => hc (lt_of_le_of_lt hle htop)
  simp only [digitValue?, hbeyond '9' (by decide), hbeyond 'f' (by decide),
    hbeyond 'F' (by decide), Bool.and_false, Bool.false_eq_true, if_false] at h
  cases h

/-- A digit of either case stands for the number of the small one. -/
theorem digitValue?_eq_some_iff {c : Char} {n : Nat} :
    digitValue? c = some n ↔ n < 16 ∧ c.toLower = digit n := by
  constructor
  · intro h
    exact forall_ascii (P := fun c => ∀ n ∈ digitValue? c, n < 16 ∧ c.toLower = digit n)
      (by decide) (toNat_lt_of_digitValue? h) n h
  · rintro ⟨hn, hdigit⟩
    rw [← digitValue?_toLower, hdigit, digitValue?_digit hn]

/-! ## Texts in one form -/

/-- The text with small letters, and with a zero for each plus sign in the first place of a pair. -/
def canonical : List Char → List Char
  | high :: low :: rest =>
    (if high = '+' then '0' else high.toLower) :: low.toLower :: canonical rest
  | cs => cs.map Char.toLower

theorem length_canonical (cs : List Char) : (canonical cs).length = cs.length := by
  induction cs using canonical.induct with
  | case1 high low rest ih =>
      rw [canonical, List.length_cons, List.length_cons, ih]
      rfl
  | case2 cs hshort => rw [canonical.eq_2 cs hshort, List.length_map]

theorem canonical_of_no_plus {cs : List Char} (h : '+' ∉ cs) :
    canonical cs = cs.map Char.toLower := by
  induction cs using canonical.induct with
  | case1 high low rest ih =>
      obtain ⟨hhigh, hlow⟩ := not_or.mp (List.mem_cons.not.mp h)
      rw [canonical, if_neg (Ne.symm hhigh), ih fun hrest => hlow (List.mem_cons_of_mem low hrest)]
      rfl
  | case2 cs hshort => exact canonical.eq_2 cs hshort

/-- A byte is known by its halves. -/
theorem ofNat_halves_eq_iff {h l : Nat} (hh : h < 16) (hl : l < 16) {b : UInt8} :
    UInt8.ofNat (16 * h + l) = b ↔ h = b.toNat / 16 ∧ l = b.toNat % 16 := by
  have hbyte : (UInt8.ofNat (16 * h + l)).toNat = 16 * h + l := by
    rw [UInt8.toNat_ofNat']
    omega
  rw [← UInt8.toNat_inj, hbyte]
  omega

theorem pairValue?_plus (low : Char) : pairValue? '+' low = pairValue? '0' low := by
  have hplus : '0' ≠ '+' := by decide
  have hzero : digitValue? '0' = some 0 := by decide
  rw [pairValue?, pairValue?, if_pos rfl, if_neg hplus, hzero]
  cases digitValue? low with
  | none => rfl
  | some l =>
      show some (UInt8.ofNat l) = some (UInt8.ofNat (16 * 0 + l))
      rw [Nat.mul_zero, Nat.zero_add]

theorem pairValue?_eq_some_iff_of_ne {high low : Char} (hplus : high ≠ '+') {b : UInt8} :
    pairValue? high low = some b ↔
      high.toLower = digit (b.toNat / 16) ∧ low.toLower = digit (b.toNat % 16) := by
  have hb := b.toNat_lt
  rw [pairValue?, if_neg hplus]
  constructor
  · intro h
    split at h
    · next hvalue lvalue hhigh hlow =>
      obtain ⟨hh, hhigh⟩ := digitValue?_eq_some_iff.mp hhigh
      obtain ⟨hl, hlow⟩ := digitValue?_eq_some_iff.mp hlow
      obtain ⟨rfl, rfl⟩ := (ofNat_halves_eq_iff hh hl).mp (Option.some.inj h)
      exact ⟨hhigh, hlow⟩
    · cases h
  · rintro ⟨hhigh, hlow⟩
    have hh : b.toNat / 16 < 16 := by omega
    have hl : b.toNat % 16 < 16 := by omega
    rw [digitValue?_eq_some_iff.mpr ⟨hh, hhigh⟩, digitValue?_eq_some_iff.mpr ⟨hl, hlow⟩]
    exact congrArg some ((ofNat_halves_eq_iff hh hl).mpr ⟨rfl, rfl⟩)

/-- A pair is read as the byte that has the digits of the pair, once both are rewritten. -/
theorem pairValue?_eq_some_iff {high low : Char} {b : UInt8} :
    pairValue? high low = some b ↔
      canonical [high, low] = [digit (b.toNat / 16), digit (b.toNat % 16)] := by
  rw [canonical, canonical.eq_2 [] (by simp), List.map_nil, List.cons.injEq, List.cons.injEq,
    and_iff_left rfl]
  by_cases hplus : high = '+'
  · rw [if_pos hplus, hplus, pairValue?_plus, pairValue?_eq_some_iff_of_ne (by decide)]
    rfl
  · rw [if_neg hplus, pairValue?_eq_some_iff_of_ne hplus]

theorem digits_cons (b : UInt8) (bytes : List UInt8) :
    digits (b :: bytes) = digit (b.toNat / 16) :: digit (b.toNat % 16) :: digits bytes :=
  rfl

/-- A text turns into the digits of bytes if its first pair turns into those of the first byte. -/
theorem canonical_cons_eq_digits_iff {high low : Char} {rest : List Char} {bytes : List UInt8} :
    canonical (high :: low :: rest) = digits bytes ↔
      ∃ b tail, bytes = b :: tail ∧ pairValue? high low = some b ∧
        canonical rest = digits tail := by
  have hfront : canonical (high :: low :: rest) = canonical [high, low] ++ canonical rest := rfl
  rw [hfront]
  constructor
  · intro h
    cases bytes with
    | nil => cases h
    | cons b tail =>
        have hdigits : digits (b :: tail) =
            [digit (b.toNat / 16), digit (b.toNat % 16)] ++ digits tail := rfl
        rw [hdigits] at h
        obtain ⟨hpair, hrest⟩ := List.append_inj h rfl
        exact ⟨b, tail, rfl, pairValue?_eq_some_iff.mpr hpair, hrest⟩
  · rintro ⟨b, tail, rfl, hpair, hrest⟩
    rw [pairValue?_eq_some_iff.mp hpair, hrest]
    rfl

/-- Pairs are read from the front, each as one byte behind those that have been read. -/
theorem decodeOnto_eq_some_iff {done bytes : List UInt8} {cs : List Char} :
    decodeOnto done cs = some bytes ↔
      ∃ tail, bytes = done.reverse ++ tail ∧ canonical cs = digits tail := by
  fun_induction decodeOnto done cs with
  | case1 done =>
      rw [Option.some_inj]
      constructor
      · rintro rfl
        exact ⟨[], (List.append_nil _).symm, rfl⟩
      · rintro ⟨tail, rfl, htail⟩
        have hlength := congrArg List.length htail
        rw [length_canonical, length_digits, List.length_nil] at hlength
        have hnone : tail = [] := List.eq_nil_of_length_eq_zero (by omega)
        rw [hnone, List.append_nil]
  | case2 done c =>
      refine iff_of_false nofun ?_
      rintro ⟨tail, -, htail⟩
      have hlength := congrArg List.length htail
      rw [length_canonical, length_digits, List.length_singleton] at hlength
      omega
  | case3 done high low rest b hb ih =>
      rw [ih]
      constructor
      · rintro ⟨tail, rfl, htail⟩
        refine ⟨b :: tail, ?_, canonical_cons_eq_digits_iff.mpr ⟨b, tail, rfl, hb, htail⟩⟩
        rw [List.reverse_cons, List.append_assoc, List.singleton_append]
      · rintro ⟨_, rfl, htail⟩
        obtain ⟨b', tail, rfl, hb', hrest⟩ := canonical_cons_eq_digits_iff.mp htail
        rw [hb] at hb'
        obtain rfl := Option.some.inj hb'
        refine ⟨tail, ?_, hrest⟩
        rw [List.reverse_cons, List.append_assoc, List.singleton_append]
  | case4 done high low rest hnone =>
      refine iff_of_false nofun ?_
      rintro ⟨tail, -, htail⟩
      obtain ⟨b, _, -, hb, -⟩ := canonical_cons_eq_digits_iff.mp htail
      rw [hnone] at hb
      cases hb

/-- A text is read as the bytes whose digits it turns into. -/
theorem decode?_eq_some_iff {s : String} {bytes : List UInt8} :
    decode? s = some bytes ↔ canonical s.toList = digits bytes := by
  rw [decode?, decodeOnto_eq_some_iff]
  simp

/-- Digits in even number are the digits of a byte string. -/
theorem exists_digits_eq {n : Nat} {cs : List Char} (hlength : cs.length = 2 * n)
    (hdigits : ∀ c ∈ cs, IsDigit c) : ∃ bytes, bytes.length = n ∧ digits bytes = cs := by
  induction n generalizing cs with
  | zero => exact ⟨[], rfl, (List.eq_nil_of_length_eq_zero hlength).symm⟩
  | succ n ih =>
      match cs with
      | [] => cases hlength
      | [_] =>
          rw [List.length_singleton] at hlength
          omega
      | high :: low :: rest =>
          obtain ⟨hhigh, hlowrest⟩ := List.forall_mem_cons.mp hdigits
          obtain ⟨hlow, hrest⟩ := List.forall_mem_cons.mp hlowrest
          rw [List.length_cons, List.length_cons] at hlength
          obtain ⟨bytes, hbytes, heq⟩ := ih (by omega) hrest
          obtain ⟨h, hh, rfl⟩ := hhigh.exists_digit
          obtain ⟨l, hl, rfl⟩ := hlow.exists_digit
          obtain ⟨hfirst, hsecond⟩ := (ofNat_halves_eq_iff hh hl).mp rfl
          refine ⟨UInt8.ofNat (16 * h + l) :: bytes, congrArg (· + 1) hbytes, ?_⟩
          rw [digits_cons, ← hfirst, ← hsecond, heq]

/-! ## Order -/

theorem digits_lt_digits_iff {x y : List UInt8} : digits x < digits y ↔ x < y := by
  induction x generalizing y with
  | nil =>
      cases y with
      | nil => exact iff_of_false (List.lt_irrefl _) (List.lt_irrefl _)
      | cons b y => exact iff_of_true (List.nil_lt_cons _ _) (List.nil_lt_cons _ _)
  | cons a x ih =>
      cases y with
      | nil => exact iff_of_false (List.not_lt_nil _) (List.not_lt_nil _)
      | cons b y =>
          have ha := a.toNat_lt
          have hb := b.toNat_lt
          have hless : a.toNat < b.toNat ↔ a.toNat / 16 < b.toNat / 16 ∨
              a.toNat / 16 = b.toNat / 16 ∧ a.toNat % 16 < b.toNat % 16 := by omega
          have hsame : a.toNat = b.toNat ↔
              a.toNat / 16 = b.toNat / 16 ∧ a.toNat % 16 = b.toNat % 16 := by omega
          rw [digits_cons, digits_cons, List.cons_lt_cons_iff, List.cons_lt_cons_iff, ih,
            digit_lt_digit_iff (by omega) (by omega), digit_lt_digit_iff (by omega) (by omega),
            digit_eq_digit_iff (by omega) (by omega), digit_eq_digit_iff (by omega) (by omega),
            List.cons_lt_cons_iff, UInt8.lt_iff_toNat_lt, ← UInt8.toNat_inj,
            hless, hsame, or_assoc, and_assoc, ← and_or_left]

end Hex

namespace Key

theorem toList_hex (k : Key) : k.hex.toList = Hex.digits k.bytes.toList := by
  rw [hex, Hex.encode, String.toList_ofList]

/-- A text is read as the key whose digits it turns into. -/
theorem ofHex?_eq_some_iff {s : String} {k : Key} :
    ofHex? s = some k ↔ Hex.canonical s.toList = k.hex.toList := by
  rw [toList_hex]
  constructor
  · intro h
    unfold ofHex? at h
    split at h
    · split at h
      · next bytes hbytes =>
        split at h
        · obtain rfl := Option.some.inj h
          rw [Hex.decode?_eq_some_iff] at hbytes
          exact hbytes
        · cases h
      · cases h
    · cases h
  · intro h
    have hlength : s.toList.length = 64 := by
      rw [← Hex.length_canonical, h, Hex.length_digits, Vector.length_toList]
    have hsize : k.bytes.toList.toArray.size = 32 := k.bytes.length_toList
    simp only [ofHex?, if_pos hlength, Hex.decode?_eq_some_iff.mpr h, dif_pos hsize]
    rfl

/-- Keys are ordered as their digits are. -/
theorem before_iff_hex_lt {a b : Key} : a.before b = true ↔ a.hex < b.hex := by
  rw [String.lt_iff, toList_hex, toList_hex, Hex.digits_lt_digits_iff]
  exact decide_eq_true_iff

/-- Sixty-four hexadecimal digits, each of them capital or small. -/
def IsHexText (s : String) : Prop :=
  s.toList.length = 64 ∧ ∀ c ∈ s.toList, Hex.IsDigitOfAnyCase c

instance (s : String) : Decidable (IsHexText s) :=
  @instDecidableAnd _ _ _ (List.decidableBAll _ _)

theorem IsHexText.no_plus {s : String} (h : IsHexText s) : '+' ∉ s.toList :=
  fun hplus => absurd (h.2 '+' hplus) (by decide)

theorem toList_toLower (s : String) : s.toLower.toList = s.toList.map Char.toLower := by
  unfold String.toLower
  exact String.toList_map

theorem canonical_of_no_plus {s : String} (h : '+' ∉ s.toList) :
    Hex.canonical s.toList = s.toLower.toList := by
  rw [Hex.canonical_of_no_plus h, toList_toLower]

theorem exists_ofHex?_of_isHexText {s : String} (h : IsHexText s) : ∃ k, ofHex? s = some k := by
  have hdigits : ∀ c ∈ s.toLower.toList, Hex.IsDigit c := by
    rw [toList_toLower, List.forall_mem_map]
    exact fun c hc => Hex.isDigit_toLower_iff.mpr (h.2 c hc)
  have hlength : s.toLower.toList.length = 2 * 32 := by
    rw [toList_toLower, List.length_map, h.1]
  obtain ⟨bytes, hbytes, heq⟩ := Hex.exists_digits_eq hlength hdigits
  refine ⟨⟨⟨bytes.toArray, hbytes⟩⟩, ofHex?_eq_some_iff.mpr ?_⟩
  rw [canonical_of_no_plus h.no_plus, toList_hex, ← heq]
  rfl

/-- A text that is read consists of digits exactly if it has no plus signs, and then it is the
key's name but for the case of its letters. -/
theorem spells_hex_iff_of_ofHex? {s : String} {k : Key} (h : ofHex? s = some k) :
    (IsHexText s ∧ k.hex = s.toLower) ↔ '+' ∉ s.toList := by
  constructor
  · rintro ⟨htext, -⟩
    exact htext.no_plus
  · intro hplus
    have hname := ofHex?_eq_some_iff.mp h
    rw [canonical_of_no_plus hplus] at hname
    have hsame : k.hex = s.toLower := String.toList_inj.mp hname.symm
    refine ⟨⟨?_, fun c hc => ?_⟩, hsame⟩
    · rw [← length_hex k, hsame, toList_toLower, List.length_map]
    · have hmem : c.toLower ∈ Hex.digits k.bytes.toList := by
        rw [← toList_hex, hsame, toList_toLower]
        exact List.mem_map_of_mem hc
      exact Hex.isDigit_toLower_iff.mp (Hex.isDigit_of_mem_digits hmem)

/-- The digits of a key are a faithful name in the order of the keys.  Every text of sixty-four
digits is read, and what is read without plus signs is such a text, and the name of the key when
its capitals are made small.  In general a text is read as the key whose digits it turns into when
capitals are made small and plus signs in the first places of pairs are made zeros. -/
theorem hex_names_keys (s : String) (k : Key) :
    (ofHex? k.hex = some k ∧ ∀ l : Key, k.before l = true ↔ k.hex < l.hex) ∧
      (IsHexText s → ∃ l, ofHex? s = some l) ∧
        (ofHex? s = some k → ((IsHexText s ∧ k.hex = s.toLower) ↔ '+' ∉ s.toList)) ∧
          (ofHex? s = some k ↔ Hex.canonical s.toList = k.hex.toList) :=
  ⟨⟨ofHex?_hex k, fun _ => before_iff_hex_lt⟩, exists_ofHex?_of_isHexText,
    spells_hex_iff_of_ofHex?, ofHex?_eq_some_iff⟩

/-- Nothing but capitals, which are read as the key of small ones. -/
theorem capitals_name_key :
    IsHexText (String.ofList (List.replicate 64 'A')) ∧
      ofHex? (String.ofList (List.replicate 64 'A')) = some ⟨Vector.replicate 32 0xAA⟩ ∧
        (⟨Vector.replicate 32 0xAA⟩ : Key).hex =
          (String.ofList (List.replicate 64 'A')).toLower := by
  have htext : IsHexText (String.ofList (List.replicate 64 'A')) := by
    rw [IsHexText, String.toList_ofList]
    exact ⟨List.length_replicate, fun c hc => List.eq_of_mem_replicate hc ▸ by decide⟩
  obtain ⟨_, _, hread, hiff⟩ :=
    hex_names_keys (String.ofList (List.replicate 64 'A')) ⟨Vector.replicate 32 0xAA⟩
  have hkey : ofHex? (String.ofList (List.replicate 64 'A')) =
      some ⟨Vector.replicate 32 0xAA⟩ := by
    rw [hiff, String.toList_ofList, toList_hex]
    decide
  exact ⟨htext, hkey, ((hread hkey).mpr htext.no_plus).2⟩

/-- Thirty-two pairs of a plus sign and a digit. -/
def plusPairs : String :=
  "+f+f+f+f+f+f+f+f+f+f+f+f+f+f+f+f+f+f+f+f+f+f+f+f+f+f+f+f+f+f+f+f"

/-- A text with plus signs is read as a key that has another name. -/
theorem plusPairs_read :
    ofHex? plusPairs = some ⟨Vector.replicate 32 15⟩ ∧ ¬IsHexText plusPairs ∧
      ¬∀ s k, ofHex? s = some k → IsHexText s ∧ k.hex = s.toLower := by
  have hread : ofHex? plusPairs = some ⟨Vector.replicate 32 15⟩ := by decide +kernel
  have htext : ¬IsHexText plusPairs := by decide +kernel
  exact ⟨hread, htext, fun hall => htext (hall _ _ hread).1⟩

end Key

end QueryReplay
