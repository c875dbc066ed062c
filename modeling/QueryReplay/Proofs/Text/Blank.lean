import Mathlib.Data.List.TakeWhile
import QueryReplay.Text.Blank

/-!
# Texts between blanks

This file says what is left of a text without the blanks on either side: the
one text with no blank at its ends that stands between blanks in it.  A text
whose first and last characters are no blanks is therefore found again between
any blanks that are put around it.
-/

namespace QueryReplay.Text

/-- The text stands between blanks in another one. -/
def BetweenBlanks (core cs : List Char) : Prop :=
  ∃ before after, (∀ c ∈ before, isBlank c = true) ∧ (∀ c ∈ after, isBlank c = true) ∧
    cs = before ++ core ++ after

/-- No blank stands at either end of the text. -/
def Trimmed (core : List Char) : Prop :=
  (∀ c ∈ core.head?, isBlank c = false) ∧ ∀ c ∈ core.getLast?, isBlank c = false

theorem trimmed_of_no_blanks {core : List Char} (h : ∀ c ∈ core, isBlank c = false) :
    Trimmed core := by
  constructor
  · intro c hc
    exact h c (List.mem_of_mem_head? hc)
  · intro c hc
    exact h c (List.mem_of_getLast? hc)

/-! ## Blanks at one end -/

theorem dropBlanks_append {before : List Char} (h : ∀ c ∈ before, isBlank c = true)
    (cs : List Char) : dropBlanks (before ++ cs) = dropBlanks cs :=
  List.dropWhile_append_of_pos h

theorem dropBlanks_eq_self {cs : List Char} (h : ∀ c ∈ cs.head?, isBlank c = false) :
    dropBlanks cs = cs := by
  cases cs with
  | nil => rfl
  | cons c cs =>
      have hc : isBlank c = false := h c rfl
      rw [dropBlanks, List.dropWhile_cons_of_neg (by simp [hc])]

theorem exists_blanks_append_dropBlanks (cs : List Char) :
    ∃ before, (∀ c ∈ before, isBlank c = true) ∧ cs = before ++ dropBlanks cs :=
  ⟨cs.takeWhile isBlank, fun _ hc => List.mem_takeWhile_imp hc,
    List.takeWhile_append_dropWhile.symm⟩

theorem head?_dropBlanks (cs : List Char) :
    ∀ c ∈ (dropBlanks cs).head?, isBlank c = false := by
  intro c hc
  have hnot := List.head?_dropWhile_not isBlank cs
  rw [show (cs.dropWhile isBlank).head? = some c from hc] at hnot
  exact hnot

/-- Blanks are dropped from the end as they are from the start of the text read backwards. -/
theorem dropBlanksEnd_eq (cs : List Char) :
    dropBlanksEnd cs = (dropBlanks cs.reverse).reverse :=
  rfl

theorem exists_dropBlanksEnd_append_blanks (cs : List Char) :
    ∃ after, (∀ c ∈ after, isBlank c = true) ∧ cs = dropBlanksEnd cs ++ after := by
  obtain ⟨before, hbefore, hcs⟩ := exists_blanks_append_dropBlanks cs.reverse
  refine ⟨before.reverse, fun c hc => hbefore c (List.mem_reverse.mp hc), ?_⟩
  have hback := congrArg List.reverse hcs
  rwa [List.reverse_reverse, List.reverse_append] at hback

theorem dropBlanksEnd_append {core after : List Char}
    (hcore : ∀ c ∈ core.getLast?, isBlank c = false) (hafter : ∀ c ∈ after, isBlank c = true) :
    dropBlanksEnd (core ++ after) = core := by
  have hblank : ∀ c ∈ after.reverse, isBlank c = true :=
    fun c hc => hafter c (List.mem_reverse.mp hc)
  have hlast : ∀ c ∈ core.reverse.head?, isBlank c = false := by
    rw [List.head?_reverse]
    exact hcore
  rw [dropBlanksEnd_eq, List.reverse_append, dropBlanks_append hblank, dropBlanks_eq_self hlast,
    List.reverse_reverse]

/-! ## Blanks at both ends -/

theorem betweenBlanks_stripped (cs : List Char) : BetweenBlanks (stripped cs) cs := by
  obtain ⟨before, hbefore, hcs⟩ := exists_blanks_append_dropBlanks cs
  obtain ⟨after, hafter, hrest⟩ := exists_dropBlanksEnd_append_blanks (dropBlanks cs)
  refine ⟨before, after, hbefore, hafter, ?_⟩
  rw [List.append_assoc]
  exact hcs.trans (congrArg (before ++ ·) hrest)

theorem trimmed_stripped (cs : List Char) : Trimmed (stripped cs) := by
  constructor
  · -- What is left starts as it did before its end was cut off, if it has a start at all.
    intro c hc
    obtain ⟨after, _, hrest⟩ := exists_dropBlanksEnd_append_blanks (dropBlanks cs)
    apply head?_dropBlanks cs c
    rw [hrest, List.head?_append, show (dropBlanksEnd (dropBlanks cs)).head? = some c from hc]
    rfl
  · intro c hc
    apply head?_dropBlanks (dropBlanks cs).reverse c
    rw [← List.getLast?_reverse, ← dropBlanksEnd_eq]
    exact hc

theorem BetweenBlanks.stripped_eq {core cs : List Char} (h : BetweenBlanks core cs)
    (hcore : Trimmed core) : stripped cs = core := by
  obtain ⟨before, after, hbefore, hafter, rfl⟩ := h
  rw [stripped, List.append_assoc, dropBlanks_append hbefore]
  cases core with
  | nil =>
      have hnothing : dropBlanks after = [] := List.dropWhile_eq_nil_iff.mpr hafter
      rw [List.nil_append, hnothing]
      rfl
  | cons a core =>
      have hhead : ∀ c ∈ (a :: core ++ after).head?, isBlank c = false :=
        fun c hc => hcore.1 c hc
      rw [dropBlanks_eq_self hhead, dropBlanksEnd_append hcore.2 hafter]

/-- The text without blanks at its ends is the only trimmed text that stands between blanks. -/
theorem stripped_eq_iff {core cs : List Char} :
    stripped cs = core ↔ Trimmed core ∧ BetweenBlanks core cs := by
  constructor
  · rintro rfl
    exact ⟨trimmed_stripped cs, betweenBlanks_stripped cs⟩
  · rintro ⟨hcore, hbetween⟩
    exact hbetween.stripped_eq hcore

theorem Trimmed.stripped_eq {core : List Char} (h : Trimmed core) : stripped core = core :=
  stripped_eq_iff.mpr ⟨h, [], [], List.forall_mem_nil _, List.forall_mem_nil _,
    (List.append_nil core).symm⟩

/-- Nothing is left of a text exactly if it is all blanks. -/
theorem stripped_eq_nil_iff {cs : List Char} :
    stripped cs = [] ↔ ∀ c ∈ cs, isBlank c = true := by
  constructor
  · intro h
    obtain ⟨-, before, after, hbefore, hafter, rfl⟩ := stripped_eq_iff.mp h
    rw [List.append_nil]
    exact List.forall_mem_append.mpr ⟨hbefore, hafter⟩
  · intro h
    exact stripped_eq_iff.mpr ⟨trimmed_of_no_blanks (List.forall_mem_nil _), cs, [], h,
      List.forall_mem_nil _, by rw [List.append_nil, List.append_nil]⟩

/-- What stands between two texts without blanks does not show at the ends. -/
theorem trimmed_append {front back : List Char} (hfront : ∀ c ∈ front, isBlank c = false)
    (hback : ∀ c ∈ back, isBlank c = false) (hfront_ne : front ≠ []) (hback_ne : back ≠ [])
    (between : List Char) : Trimmed (front ++ (between ++ back)) := by
  constructor
  · intro c hc
    rw [List.head?_append, List.head?_eq_some_head hfront_ne, Option.some_or,
      ← List.head?_eq_some_head] at hc
    exact hfront c (List.mem_of_mem_head? hc)
  · intro c hc
    rw [← List.append_assoc, List.getLast?_append, List.getLast?_eq_some_getLast hback_ne,
      Option.some_or, ← List.getLast?_eq_some_getLast] at hc
    exact hback c (List.mem_of_getLast? hc)

theorem isBlank_of_isDigit {c : Char} (h : c.isDigit = true) : isBlank c = false := by
  simp only [Char.isDigit, Bool.and_eq_true, decide_eq_true_eq, UInt32.le_iff_toNat_le] at h
  obtain ⟨hlow, hhigh⟩ := h
  have hlow' : 48 ≤ c.toNat := hlow
  have hhigh' : c.toNat ≤ 57 := hhigh
  simp only [isBlank, Bool.or_eq_false_iff, Bool.and_eq_false_iff, decide_eq_false_iff_not,
    beq_eq_false_iff_ne]
  omega

end QueryReplay.Text
