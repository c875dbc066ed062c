import Mathlib.Data.List.Forall2
import QueryReplay.Config.Json
import QueryReplay.Proofs.Text.Hex
import QueryReplay.Proofs.Text.Search

/-!
# JSON is read as it is written

Every character in quotes is written as an escape that spells it, or as itself
where it is no quote, no backslash and no control character.  Any text in
quotes is therefore read back, and the closing quote is never mistaken for one
of the text.  A value is read back whatever follows it, so values may stand
behind one another, and a table of fields is read back if every field is.
-/

namespace QueryReplay.Json

/-! ## Characters in quotes -/

theorem unit?_control {n : Nat} (h : n < 0x20) (rest : List Char) :
    unit? ('0' :: '0' :: Hex.digit (n / 16) :: Hex.digit (n % 16) :: rest) = some (n, rest) := by
  have hzero : Hex.digitValue? '0' = some 0 := by decide
  have hhigh := Hex.digitValue?_digit (show n / 16 < 16 by omega)
  have hlow := Hex.digitValue?_digit (show n % 16 < 16 by omega)
  have hvalue : ((0 * 16 + 0) * 16 + n / 16) * 16 + n % 16 = n := by omega
  simp only [unit?, hzero, hhigh, hlow, hvalue]

/-- Four digits that spell the number of a control character are read as the character. -/
theorem escaped?_control {c : Char} (h : c.toNat < 0x20) (rest : List Char) :
    escaped? ('u' :: '0' :: '0' :: Hex.digit (c.toNat / 16) :: Hex.digit (c.toNat % 16) :: rest)
      = some (some c, rest) := by
  have hhigh : ¬(0xD800 ≤ c.toNat ∧ c.toNat < 0xDC00) := by omega
  have hlow : ¬(0xDC00 ≤ c.toNat ∧ c.toNat < 0xE000) := by omega
  simp only [escaped?, unit?_control h, if_neg hhigh, if_neg hlow, Char.ofNat_toNat]

theorem escaped?_letter {letter c : Char} (hletter : letter ≠ 'u')
    (h : letterEscape? letter = some c) (rest : List Char) :
    escaped? (letter :: rest) = some (some c, rest) := by
  rw [escaped?, h]
  · rfl
  · exact hletter

/-- A character is written as an escape that spells it, or as itself. -/
theorem escape_cases (c : Char) :
    (∃ spelling, escape c = '\\' :: spelling ∧
        ∀ rest, escaped? (spelling ++ rest) = some (some c, rest)) ∨
      escape c = [c] ∧ c ≠ '"' ∧ c ≠ '\\' ∧ 0x20 ≤ c.toNat := by
  have hcode {n : Nat} (h : c.toNat = n) : Char.ofNat n = c := by
    rw [← h, Char.ofNat_toNat]
  have hspells {letter : Char} (hletter : letter ≠ 'u') (h : letterEscape? letter = some c) :
      ∃ spelling, ['\\', letter] = '\\' :: spelling ∧
        ∀ rest, escaped? (spelling ++ rest) = some (some c, rest) :=
    ⟨[letter], rfl, escaped?_letter hletter h⟩
  unfold escape
  split
  · next h => exact Or.inl (hspells (by decide) (by rw [h]; rfl))
  split
  · next h => exact Or.inl (hspells (by decide) (by rw [h]; rfl))
  split
  · next h => exact Or.inl (hspells (by decide) (hcode h ▸ rfl))
  split
  · next h => exact Or.inl (hspells (by decide) (hcode h ▸ rfl))
  split
  · next h => exact Or.inl (hspells (by decide) (hcode h ▸ rfl))
  split
  · next h => exact Or.inl (hspells (by decide) (hcode h ▸ rfl))
  split
  · next h => exact Or.inl (hspells (by decide) (hcode h ▸ rfl))
  split
  · next h => exact Or.inl ⟨_, rfl, escaped?_control h⟩
  · next hquote hslash _ _ _ _ _ hcontrol =>
    exact Or.inr ⟨rfl, hquote, hslash, Nat.not_lt.mp hcontrol⟩

theorem string?_escape (fuel : Nat) (done : List Char) (c : Char) (rest : List Char) :
    string? (fuel + 1) (some done) (escape c ++ rest) = string? fuel (some (c :: done)) rest := by
  rcases escape_cases c with ⟨spelling, hescape, hspells⟩ | ⟨hescape, hquote, hslash, hcontrol⟩
  · rw [hescape, List.cons_append, string?, if_neg (by decide), if_pos rfl, hspells]
  · rw [hescape, List.singleton_append, string?, if_neg hquote, if_neg hslash,
      if_neg (Nat.not_lt.mpr hcontrol)]
    rfl

/-- Characters are read back up to the quote behind them. -/
theorem string?_quoted {fuel : Nat} {cs : List Char} (hfuel : cs.length < fuel)
    (done rest : List Char) :
    string? fuel (some done) (cs.flatMap escape ++ '"' :: rest)
      = some (some (done.reverse ++ cs), rest) := by
  induction cs generalizing fuel done with
  | nil =>
      obtain ⟨fuel, rfl⟩ := Nat.exists_eq_succ_of_ne_zero (Nat.ne_of_gt hfuel)
      rw [List.flatMap_nil, List.nil_append, string?, if_pos rfl, List.append_nil]
      rfl
  | cons c cs ih =>
      obtain ⟨fuel, rfl⟩ := Nat.exists_eq_succ_of_ne_zero (Nat.ne_zero_of_lt hfuel)
      have hrest : cs.length < fuel := Nat.lt_of_succ_lt_succ hfuel
      rw [List.flatMap_cons, List.append_assoc, string?_escape, ih hrest, List.reverse_cons,
        List.append_assoc, List.singleton_append]

theorem length_escape_pos (c : Char) : 0 < (escape c).length := by
  rcases escape_cases c with ⟨spelling, hescape, _⟩ | ⟨hescape, _⟩
  · rw [hescape]
    exact Nat.succ_pos _
  · rw [hescape]
    exact Nat.one_pos

theorem length_le_length_flatMap_escape (cs : List Char) :
    cs.length ≤ (cs.flatMap escape).length := by
  induction cs with
  | nil => exact Nat.le_refl 0
  | cons c cs ih =>
      have hc := length_escape_pos c
      rw [List.flatMap_cons, List.length_append, List.length_cons]
      omega

/-- Any text in quotes is read back. -/
theorem text?_quoted (s : String) (rest : List Char) :
    text? (s.toList.flatMap escape ++ '"' :: rest) = some (some s, rest) := by
  have hlength := length_le_length_flatMap_escape s.toList
  have hfuel : s.toList.length < (s.toList.flatMap escape ++ '"' :: rest).length + 1 := by
    rw [List.length_append]
    omega
  rw [text?, string?_quoted hfuel, List.reverse_nil, List.nil_append]
  simp

/-! ## Values -/

/-- The characters are read as the document, whatever follows them. -/
def Reads (doc : Document) (cs : List Char) : Prop :=
  ∀ fuel rest, cs.length ≤ fuel → value? fuel (cs ++ rest) = some (doc, rest)

theorem skip_cons {c : Char} (h : isBlank c = false) (rest : List Char) :
    skip (c :: rest) = c :: rest := by
  rw [skip, List.dropWhile_cons_of_neg]
  rw [h]
  exact Bool.false_ne_true

theorem quote_append (s : String) (rest : List Char) :
    quote s ++ rest = '"' :: (s.toList.flatMap escape ++ '"' :: rest) := by
  rw [quote, List.cons_append, List.cons_append, List.append_assoc, List.singleton_append]

theorem reads_quote (s : String) : Reads (.text s) (quote s) := by
  intro fuel rest hfuel
  obtain ⟨fuel, rfl⟩ := Nat.exists_eq_succ_of_ne_zero (Nat.ne_zero_of_lt hfuel)
  rw [quote_append, value?, skip_cons (by decide)]
  simp only [if_pos, text?_quoted]
  rfl

theorem reads_ofBool (b : Bool) : Reads (.bool b) (ofBool b) := by
  intro fuel rest hfuel
  cases b with
  | false =>
      obtain ⟨fuel, rfl⟩ := Nat.exists_eq_succ_of_ne_zero (Nat.ne_zero_of_lt hfuel)
      show value? (fuel + 1) ('f' :: ("alse".toList ++ rest)) = _
      rw [value?, skip_cons (by decide)]
      show (Text.behind? "alse".toList ("alse".toList ++ rest)).map _ = _
      rw [Text.behind?_append]
      rfl
  | true =>
      obtain ⟨fuel, rfl⟩ := Nat.exists_eq_succ_of_ne_zero (Nat.ne_zero_of_lt hfuel)
      show value? (fuel + 1) ('t' :: ("rue".toList ++ rest)) = _
      rw [value?, skip_cons (by decide)]
      show (Text.behind? "rue".toList ("rue".toList ++ rest)).map _ = _
      rw [Text.behind?_append]
      rfl

/-! ## Tables -/

/-- Fields as a document. -/
def tableOf (fields : List (String × Document)) : Document :=
  .table (fields.map fun (name, content) => (some name, content))

/-- The field is written as its name and characters that are read as its content. -/
def ReadsField (f : String × Document) (written : List Char) : Prop :=
  ∃ value, written = field f.1 value ∧ Reads f.2 value

theorem field_append (name : String) (value rest : List Char) :
    field name value ++ rest =
      '"' :: (name.toList.flatMap escape ++ '"' :: ':' :: (value ++ rest)) := by
  rw [field, List.append_assoc, quote_append, List.cons_append]

theorem length_lt_length_field (name : String) (value : List Char) :
    value.length < (field name value).length := by
  rw [field, List.length_append, List.length_cons]
  omega

/-- A field with a comma behind it is read, and then the others. -/
theorem members?_field_comma {fuel : Nat} {content : Document} {value : List Char}
    (hvalue : Reads content value) (hfuel : value.length ≤ fuel)
    (done : List (Option String × Document)) (name : String) (rest : List Char) :
    members? (fuel + 1) done (field name value ++ ',' :: rest) =
      members? fuel ((some name, content) :: done) rest := by
  have hread := hvalue fuel (',' :: rest) hfuel
  rw [field_append, members?, skip_cons (by decide)]
  simp only [text?_quoted, skip_cons (show isBlank ':' = false by decide), hread,
    skip_cons (show isBlank ',' = false by decide)]

/-- A field with a brace behind it is the last one. -/
theorem members?_field_brace {fuel : Nat} {content : Document} {value : List Char}
    (hvalue : Reads content value) (hfuel : value.length ≤ fuel)
    (done : List (Option String × Document)) (name : String) (rest : List Char) :
    members? (fuel + 1) done (field name value ++ '\x7d' :: rest) =
      some (((some name, content) :: done).reverse, rest) := by
  have hread := hvalue fuel ('\x7d' :: rest) hfuel
  rw [field_append, members?, skip_cons (by decide)]
  simp only [text?_quoted, skip_cons (show isBlank ':' = false by decide), hread,
    skip_cons (show isBlank '\x7d' = false by decide)]

/-- Fields with commas between them are read back up to the brace behind them. -/
theorem members?_fields {fields : List (String × Document)} {written : List (List Char)}
    (h : List.Forall₂ ReadsField fields written) (hne : written ≠ []) {fuel : Nat}
    (hfuel : (written.intersperse [',']).flatten.length < fuel)
    (done : List (Option String × Document)) (rest : List Char) :
    members? fuel done ((written.intersperse [',']).flatten ++ '\x7d' :: rest) =
      some (done.reverse ++ fields.map fun (name, content) => (some name, content), rest) := by
  induction h generalizing fuel done with
  | nil => exact absurd rfl hne
  | @cons f first fields written hfirst hothers ih =>
      obtain ⟨fuel, rfl⟩ := Nat.exists_eq_succ_of_ne_zero (Nat.ne_zero_of_lt hfuel)
      obtain ⟨value, rfl, hvalue⟩ := hfirst
      -- Each field takes one unit of fuel, and it is longer than its value.
      have hlength := length_lt_length_field f.1 value
      cases hothers with
      | nil =>
          rw [List.intersperse_singleton, List.flatten_singleton] at hfuel ⊢
          rw [members?_field_brace hvalue (by omega), List.reverse_cons]
          rfl
      | cons hsecond hothers =>
          rw [List.intersperse_cons_cons, List.flatten_cons, List.flatten_cons, List.length_append,
            List.length_append] at hfuel
          rw [List.intersperse_cons_cons, List.flatten_cons, List.flatten_cons, List.append_assoc,
            List.append_assoc, List.singleton_append, members?_field_comma hvalue (by omega),
            ih (List.cons_ne_nil _ _) (by omega), List.reverse_cons, List.append_assoc]
          rfl

theorem exists_flatten_intersperse (first : List Char) (others : List (List Char)) :
    ∃ more, ((first :: others).intersperse [',']).flatten = first ++ more := by
  cases others with
  | nil => exact ⟨[], by rw [List.intersperse_singleton, List.flatten_singleton, List.append_nil]⟩
  | cons second others => exact ⟨_, by rw [List.intersperse_cons_cons, List.flatten_cons]⟩

theorem value?_of_members? {fuel : Nat} {more rest : List Char}
    {fields : List (Option String × Document)}
    (h : members? fuel [] ('"' :: more) = some (fields, rest)) :
    value? (fuel + 1) ('\x7b' :: '"' :: more) = some (.table fields, rest) := by
  rw [value?, skip_cons (by decide)]
  show (members? fuel [] ('"' :: more)).map _ = _
  rw [h]
  rfl

/-- A table of fields is read back if every field is. -/
theorem reads_braces {fields : List (String × Document)} {written : List (List Char)}
    (h : List.Forall₂ ReadsField fields written) : Reads (tableOf fields) (braces written) := by
  intro fuel rest hfuel
  obtain ⟨fuel, rfl⟩ := Nat.exists_eq_succ_of_ne_zero (Nat.ne_zero_of_lt hfuel)
  have hbody : (written.intersperse [',']).flatten.length < fuel := by
    rw [braces, List.cons_append, List.length_cons, List.length_append] at hfuel
    exact Nat.lt_of_succ_le (Nat.le_of_succ_le_succ hfuel)
  rw [braces, List.cons_append, List.cons_append, List.append_assoc, List.singleton_append]
  cases h with
  | nil =>
      rw [List.intersperse_nil, List.flatten_nil, List.nil_append, value?, skip_cons (by decide)]
      rfl
  | @cons f first fields written hfirst hothers =>
      have hread := members?_fields (.cons hfirst hothers) (List.cons_ne_nil _ _) hbody [] rest
      obtain ⟨name, content⟩ := f
      obtain ⟨value, rfl, hvalue⟩ := hfirst
      obtain ⟨more, hmore⟩ := exists_flatten_intersperse (field name value) written
      -- What stands behind the brace is the quote of the first name.
      rw [hmore, List.append_assoc, field_append] at hread ⊢
      exact value?_of_members? hread

/-- A text that is read as a document whatever follows it has that document as its content. -/
theorem Reads.document?_eq {doc : Document} {cs : List Char} (h : Reads doc cs) :
    document? cs = some doc := by
  have hread := h (cs.length + 1) [] (Nat.le_succ _)
  rw [List.append_nil] at hread
  simp only [document?, hread]
  rfl

end QueryReplay.Json
