import QueryReplay.Proofs.Text.Blank
import QueryReplay.Text.Search

/-!
# Prefixes and letter case

A text is what stands behind a prefix exactly if the prefix and the text make
up the whole.  Putting letters in upper case changes neither blanks nor digits
and makes none of them, so it does not matter whether a text is first stripped
and then put in upper case, or the other way round.
-/

namespace QueryReplay.Text

theorem behind?_eq_some_iff {front cs rest : List Char} :
    behind? front cs = some rest ↔ cs = front ++ rest := by
  induction front generalizing cs with
  | nil =>
      rw [behind?, List.nil_append]
      exact Option.some_inj
  | cons p front ih =>
      cases cs with
      | nil =>
          rw [behind?]
          simp
      | cons c cs =>
          rw [behind?, List.cons_append]
          by_cases hsame : p = c
          · rw [if_pos hsame, ih, hsame, List.cons_eq_cons, and_iff_right rfl]
          · rw [if_neg hsame, List.cons_eq_cons]
            exact iff_of_false nofun fun h => hsame h.1.symm

theorem behind?_append (front rest : List Char) : behind? front (front ++ rest) = some rest :=
  behind?_eq_some_iff.mpr rfl

/-! ## Upper case -/

/-- What stands in upper case is a small letter that is moved to the capital ones, or the character
itself. -/
theorem toUpper_cases (c : Char) :
    (97 ≤ c.toNat ∧ c.toNat ≤ 122 ∧ c.toUpper.toNat = c.toNat - 32) ∨
      ¬(97 ≤ c.toNat ∧ c.toNat ≤ 122) ∧ c.toUpper = c := by
  by_cases h : 'a'.val ≤ c.val ∧ c.val ≤ 'z'.val
  · obtain ⟨hlow, hhigh⟩ := h
    have hlow' : 97 ≤ c.val.toNat := UInt32.le_iff_toNat_le.mp hlow
    have hhigh' : c.val.toNat ≤ 122 := UInt32.le_iff_toNat_le.mp hhigh
    refine Or.inl ⟨hlow', hhigh', ?_⟩
    unfold Char.toUpper
    rw [dif_pos ⟨hlow, hhigh⟩]
    show (c.val + ('A'.val - 'a'.val)).toNat = c.val.toNat - 32
    rw [UInt32.toNat_add, show ('A'.val - 'a'.val).toNat = 2 ^ 32 - 32 from rfl]
    omega
  · refine Or.inr ⟨fun hsmall => h ?_, ?_⟩
    · exact ⟨UInt32.le_iff_toNat_le.mpr hsmall.1, UInt32.le_iff_toNat_le.mpr hsmall.2⟩
    · unfold Char.toUpper
      rw [dif_neg h]

theorem isBlank_of_letter {c : Char} (hlow : 65 ≤ c.toNat) (hhigh : c.toNat ≤ 122) :
    isBlank c = false := by
  simp only [isBlank, Bool.or_eq_false_iff, Bool.and_eq_false_iff, decide_eq_false_iff_not,
    beq_eq_false_iff_ne]
  omega

theorem isBlank_toUpper (c : Char) : isBlank c.toUpper = isBlank c := by
  rcases toUpper_cases c with ⟨hlow, hhigh, hupper⟩ | ⟨_, hsame⟩
  · rw [isBlank_of_letter (by omega) (by omega), isBlank_of_letter (by omega) hhigh]
  · rw [hsame]

theorem toUpper_of_isBlank {c : Char} (h : isBlank c = true) : c.toUpper = c := by
  rcases toUpper_cases c with ⟨hlow, hhigh, _⟩ | ⟨_, hsame⟩
  · rw [isBlank_of_letter (by omega) hhigh] at h
    cases h
  · exact hsame

theorem toUpper_of_isDigit {c : Char} (h : c.isDigit = true) : c.toUpper = c := by
  rcases toUpper_cases c with ⟨hlow, _, _⟩ | ⟨_, hsame⟩
  · have hhigh : c.toNat ≤ 57 := by
      simp only [Char.isDigit, Bool.and_eq_true, decide_eq_true_eq] at h
      exact UInt32.le_iff_toNat_le.mp h.2
    omega
  · exact hsame

/-- A text without small letters stands in upper case. -/
theorem upper_eq_self {cs : List Char} (h : ∀ c ∈ cs, c.toUpper = c) : upper cs = cs := by
  rw [upper, List.map_congr_left h, List.map_id']

theorem upper_append (cs ds : List Char) : upper (cs ++ ds) = upper cs ++ upper ds :=
  List.map_append

theorem dropBlanks_upper (cs : List Char) : dropBlanks (upper cs) = upper (dropBlanks cs) := by
  have hblank : isBlank ∘ Char.toUpper = isBlank := funext isBlank_toUpper
  rw [dropBlanks, upper, List.dropWhile_map, hblank]
  rfl

theorem stripped_upper (cs : List Char) : stripped (upper cs) = upper (stripped cs) := by
  have hreverse (ds : List Char) : (upper ds).reverse = upper ds.reverse := List.map_reverse.symm
  rw [stripped, dropBlanksEnd_eq, dropBlanks_upper, hreverse, dropBlanks_upper, hreverse,
    stripped, dropBlanksEnd_eq]

/-! ## Stripping of longer texts -/

theorem BetweenBlanks.trans {core middle cs : List Char} (h : BetweenBlanks core middle)
    (hmiddle : BetweenBlanks middle cs) : BetweenBlanks core cs := by
  obtain ⟨before, after, hbefore, hafter, rfl⟩ := h
  obtain ⟨front, back, hfront, hback, rfl⟩ := hmiddle
  refine ⟨front ++ before, after ++ back, ?_, ?_, by simp only [List.append_assoc]⟩
  · exact List.forall_mem_append.mpr ⟨hfront, hbefore⟩
  · exact List.forall_mem_append.mpr ⟨hafter, hback⟩

/-- Blanks around a text do not count. -/
theorem BetweenBlanks.stripped_congr {core cs : List Char} (h : BetweenBlanks core cs) :
    stripped cs = stripped core :=
  stripped_eq_iff.mpr ⟨trimmed_stripped core, (betweenBlanks_stripped core).trans h⟩

/-- Texts differ only in the blanks around them exactly if the same is left without these. -/
theorem stripped_eq_stripped_iff {cs ds : List Char} :
    stripped cs = stripped ds ↔ ∃ core, BetweenBlanks core cs ∧ BetweenBlanks core ds := by
  constructor
  · intro h
    exact ⟨stripped cs, betweenBlanks_stripped cs, h ▸ betweenBlanks_stripped ds⟩
  · rintro ⟨core, hcs, hds⟩
    rw [hcs.stripped_congr, hds.stripped_congr]

/-- Behind a text without blanks at its ends, only the end of what follows is stripped. -/
theorem stripped_append {before core : List Char} (hbefore : ∀ c ∈ before, isBlank c = true)
    (hcore : Trimmed core) (hne : core ≠ []) (rest : List Char) :
    stripped (before ++ core ++ rest) = core ++ dropBlanksEnd rest := by
  obtain ⟨after, hafter, hrest⟩ := exists_dropBlanksEnd_append_blanks rest
  refine stripped_eq_iff.mpr ⟨⟨fun c hc => ?_, fun c hc => ?_⟩, before, after, hbefore, hafter, ?_⟩
  · rw [List.head?_append, List.head?_eq_some_head hne, Option.some_or,
      ← List.head?_eq_some_head] at hc
    exact hcore.1 c hc
  · rw [List.getLast?_append] at hc
    cases hlast : (dropBlanksEnd rest).getLast? with
    | none =>
        rw [hlast, Option.none_or] at hc
        exact hcore.2 c hc
    | some d =>
        rw [hlast, Option.some_or] at hc
        rw [dropBlanksEnd_eq, List.getLast?_reverse] at hlast
        cases hc
        exact head?_dropBlanks rest.reverse c hlast
  · rw [List.append_assoc, List.append_assoc, List.append_assoc, ← hrest]

end QueryReplay.Text
