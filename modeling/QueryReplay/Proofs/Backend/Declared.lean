import QueryReplay.Proofs.Backend.Columns
import QueryReplay.Proofs.Entry.RoundTrip
import QueryReplay.Proofs.Text.Numeral
import QueryReplay.Proofs.Text.Search

/-!
# What declarations say

The text that a column was declared with is looked at without the blanks around
it and without regard to the case of its letters.  If it starts with the name
of a decimal type and its digits in parentheses, it is read as a decimal with
these digits, before any of its words is looked at; so whatever follows the
parentheses does not matter.  Only decimals have digits, and these fit their
fields, so that columns described in this way are stored without loss.
-/

namespace QueryReplay.DeclaredType

open Text

/-! ## Blanks and case -/

theorem ofText_of_stripped_eq {d e : String}
    (h : upper (stripped d.toList) = upper (stripped e.toList)) : ofText d = ofText e := by
  simp only [ofText, h]

/-- Blanks around a declaration do not count. -/
theorem ofText_of_betweenBlanks {d e : String} (h : BetweenBlanks d.toList e.toList) :
    ofText e = ofText d :=
  ofText_of_stripped_eq (congrArg upper h.stripped_congr)

/-- The case of letters does not count. -/
theorem ofText_of_upper_eq {d e : String} (h : upper d.toList = upper e.toList) :
    ofText d = ofText e := by
  apply ofText_of_stripped_eq
  rw [← stripped_upper, ← stripped_upper, h]

/-! ## Numbers within bounds -/

theorem numberUpTo_le (limit : Nat) (ds : List Char) : numberUpTo limit ds ≤ limit := by
  unfold numberUpTo
  split
  · split
    · assumption
    · exact Nat.zero_le limit
  · exact Nat.zero_le limit

/-- The digits of a declared type fit the fields of a column. -/
theorem digits_lt (declaration : Option String) :
    (ofText? declaration).precision < 2 ^ 32 ∧ (ofText? declaration).scale < 2 ^ 31 := by
  have hzero : 0 < 2 ^ 32 ∧ 0 < 2 ^ 31 := ⟨Nat.two_pow_pos 32, Nat.two_pow_pos 31⟩
  cases declaration with
  | none => exact hzero
  | some declaration =>
      simp only [ofText?, ofText]
      split
      · exact ⟨Nat.lt_of_le_pred hzero.1 (numberUpTo_le _ _),
          Nat.lt_of_le_pred hzero.2 (numberUpTo_le _ _)⟩
      · exact hzero

/-- The number that digits stand for, or zero if it does not stay below the bound. -/
def numberBelow (bound : Nat) (ds : List Char) : Nat :=
  if Numeral.value ds < bound then Numeral.value ds else 0

theorem numberUpTo_eq_numberBelow {ds : List Char} (hds : Numeral.isNumeral ds = true)
    (limit : Nat) : numberUpTo limit ds = numberBelow (limit + 1) ds := by
  simp only [numberUpTo, Numeral.value?, hds, if_true, numberBelow, Nat.lt_succ_iff]

/-! ## Declared decimals -/

/-- A text of blanks only. -/
def AllBlank (cs : List Char) : Prop :=
  ∀ c ∈ cs, isBlank c = true

instance (cs : List Char) : Decidable (AllBlank cs) :=
  decidable_of_iff (cs.all isBlank = true) List.all_eq_true

/-- How the places of a decimal may follow its digits: not at all, or as a number behind a comma,
with blanks on both sides. -/
inductive PlacesText : Option (List Char) → List Char → Prop where
  | absent : PlacesText none []
  | present {before places after : List Char} (hbefore : AllBlank before)
      (hplaces : Numeral.isNumeral places = true) (hafter : AllBlank after) :
      PlacesText (some places) (',' :: (before ++ places ++ after))

/-- The declaration of a decimal with its digits, and its places if there are any: a name in any
case and the numbers in parentheses.  There may be blanks before and between all parts, and any
text behind the parentheses. -/
inductive DecimalText (digits : List Char) (places : Option (List Char)) : List Char → Prop where
  | mk {front name gap before after tail rest : List Char} (hfront : AllBlank front)
      (hname : upper name ∈ decimalNames) (hgap : AllBlank gap) (hbefore : AllBlank before)
      (hdigits : Numeral.isNumeral digits = true) (hafter : AllBlank after)
      (htail : PlacesText places tail) :
      DecimalText digits places
        (front ++ (name ++ gap ++ '(' :: (before ++ digits ++ after ++ (tail ++ [')']))) ++ rest)

theorem isDecimalDigit_of_isDigit {c : Char} (h : c.isDigit = true) :
    isDecimalDigit c = true := by
  simp only [Char.isDigit, Bool.and_eq_true, decide_eq_true_eq, UInt32.le_iff_toNat_le] at h
  obtain ⟨hlow, hhigh⟩ := h
  have hlow' : 0x30 ≤ c.toNat := hlow
  have hhigh' : c.toNat < 0x30 + 10 := Nat.lt_succ_of_le hhigh
  simp only [isDecimalDigit, digitRunStarts, List.any_cons, hlow', hhigh', decide_true,
    Bool.and_self, Bool.true_or]

/-- The code points of all blanks. -/
def blankPoints : List Nat :=
  List.range' 0x09 5 ++ [0x20, 0x85, 0xA0, 0x1680] ++ List.range' 0x2000 11 ++
    [0x2028, 0x2029, 0x202F, 0x205F, 0x3000]

theorem mem_blankPoints_of_isBlank {c : Char} (h : isBlank c = true) : c.toNat ∈ blankPoints := by
  simp only [isBlank, Bool.or_eq_true, Bool.and_eq_true, decide_eq_true_eq, beq_iff_eq] at h
  simp only [blankPoints, List.mem_append, List.mem_range'_1, List.mem_cons, List.not_mem_nil,
    or_false]
  omega

theorem isDecimalDigit_of_isBlank {c : Char} (h : isBlank c = true) :
    isDecimalDigit c = false := by
  have hnone : ∀ n ∈ blankPoints,
      (digitRunStarts.any fun first => first ≤ n && n < first + 10) = false := by decide
  exact hnone c.toNat (mem_blankPoints_of_isBlank h)

/-- Digits between blanks are read up to the next character that is neither. -/
theorem digitRun?_append {before ds after : List Char} {c : Char} (hbefore : AllBlank before)
    (hds : Numeral.isNumeral ds = true) (hafter : AllBlank after) (hblank : isBlank c = false)
    (hdigit : isDecimalDigit c = false) (rest : List Char) :
    digitRun? (before ++ ds ++ after ++ c :: rest) = some (ds, c :: rest) := by
  obtain ⟨hne, hall⟩ := Numeral.isNumeral_iff.mp hds
  have hdigits : ∀ d ∈ ds, isDecimalDigit d = true := fun d hd =>
    isDecimalDigit_of_isDigit (hall d hd)
  have hstart : dropBlanks (before ++ (ds ++ (after ++ c :: rest))) =
      ds ++ (after ++ c :: rest) := by
    rw [dropBlanks_append hbefore]
    apply dropBlanks_eq_self
    intro d hd
    rw [List.head?_append, List.head?_eq_some_head hne, Option.some_or,
      ← List.head?_eq_some_head] at hd
    exact isBlank_of_isDigit (hall d (List.mem_of_mem_head? hd))
  obtain ⟨d, ends, hnext, hd⟩ :
      ∃ d ends, after ++ c :: rest = d :: ends ∧ isDecimalDigit d = false := by
    cases after with
    | nil => exact ⟨c, rest, rfl, hdigit⟩
    | cons a after =>
        exact ⟨a, _, List.cons_append, isDecimalDigit_of_isBlank (hafter a List.mem_cons_self)⟩
  have hstop : ¬isDecimalDigit d = true := ne_true_of_eq_false hd
  have htake : (ds ++ (after ++ c :: rest)).takeWhile isDecimalDigit = ds := by
    rw [hnext, List.takeWhile_append_of_pos hdigits, List.takeWhile_cons_of_neg hstop,
      List.append_nil]
  have hdrop : (ds ++ (after ++ c :: rest)).dropWhile isDecimalDigit = after ++ c :: rest := by
    rw [hnext, List.dropWhile_append_of_pos hdigits, List.dropWhile_cons_of_neg hstop]
  have hend : dropBlanks (after ++ c :: rest) = c :: rest := by
    rw [dropBlanks_append hafter]
    exact dropBlanks_eq_self fun d hd => Option.some.inj hd ▸ hblank
  have hsome : ds.isEmpty = false := by simpa using hne
  rw [List.append_assoc, List.append_assoc]
  simp only [digitRun?, hstart, htake, hdrop, hend, hsome, Bool.false_eq_true, if_false]

/-- The digits in parentheses are found, and those behind a comma, whatever follows. -/
theorem digitArguments?_append {gap before digits after tail : List Char}
    {places : Option (List Char)} (hgap : AllBlank gap) (hbefore : AllBlank before)
    (hdigits : Numeral.isNumeral digits = true) (hafter : AllBlank after)
    (htail : PlacesText places tail) (rest : List Char) :
    digitArguments? (gap ++ '(' :: (before ++ digits ++ after ++ (tail ++ ')' :: rest))) =
      some (digits, places.getD []) := by
  have hopen (inner : List Char) : dropBlanks (gap ++ '(' :: inner) = '(' :: inner := by
    rw [dropBlanks_append hgap]
    exact dropBlanks_eq_self fun d hd => Option.some.inj hd ▸ by decide
  cases htail with
  | absent =>
      have hrun := digitRun?_append hbefore hdigits hafter (c := ')') (by decide) (by decide) rest
      simp only [digitArguments?, hopen, List.nil_append, hrun, Option.getD_none]
  | @present left places right hleft hplaces hright =>
      have hrun := digitRun?_append hbefore hdigits hafter (c := ',') (by decide) (by decide)
        (left ++ places ++ right ++ ')' :: rest)
      have hrest := digitRun?_append hleft hplaces hright (c := ')') (by decide) (by decide) rest
      simp only [digitArguments?, hopen, List.cons_append, hrun, hrest, Option.getD_some]

/-- No name of a decimal type starts like another one. -/
theorem decimalArguments?_append {name : List Char} (hname : name ∈ decimalNames)
    {rest : List Char} {arguments : List Char × List Char}
    (hrest : digitArguments? rest = some arguments) :
    decimalArguments? (name ++ rest) = some arguments := by
  have hnames : name = "DECIMAL".toList ∨ name = "NUMERIC".toList ∨ name = "NUMBER".toList := by
    simpa only [decimalNames, List.mem_cons, List.not_mem_nil, or_false] using hname
  rcases hnames with rfl | rfl | rfl
  · simp only [decimalArguments?, decimalNames, List.findSome?_cons, behind?_append,
      Option.bind_some, hrest]
  · have hother : behind? "DECIMAL".toList ("NUMERIC".toList ++ rest) = none := rfl
    simp only [decimalArguments?, decimalNames, List.findSome?_cons, behind?_append, hother,
      Option.bind_none, Option.bind_some, hrest]
  · have hother : behind? "DECIMAL".toList ("NUMBER".toList ++ rest) = none := rfl
    have hnext : behind? "NUMERIC".toList ("NUMBER".toList ++ rest) = none := rfl
    simp only [decimalArguments?, decimalNames, List.findSome?_cons, behind?_append, hother,
      hnext, Option.bind_none, Option.bind_some, hrest]

theorem upper_of_allBlank {cs : List Char} (h : AllBlank cs) : upper cs = cs :=
  upper_eq_self fun c hc => toUpper_of_isBlank (h c hc)

theorem upper_of_isNumeral {ds : List Char} (h : Numeral.isNumeral ds = true) : upper ds = ds :=
  upper_eq_self fun c hc => toUpper_of_isDigit ((Numeral.isNumeral_iff.mp h).2 c hc)

theorem PlacesText.upper_eq {places : Option (List Char)} {tail : List Char}
    (h : PlacesText places tail) : upper tail = tail := by
  cases h with
  | absent => rfl
  | @present before places after hbefore hplaces hafter =>
      have hcomma (cs : List Char) : upper (',' :: cs) = ',' :: upper cs := rfl
      rw [hcomma, upper_append, upper_append, upper_of_allBlank hbefore,
        upper_of_isNumeral hplaces, upper_of_allBlank hafter]

/-- There are no blanks in the name of a decimal type. -/
theorem no_blanks_of_upper_mem {name : List Char} (hname : upper name ∈ decimalNames) :
    name ≠ [] ∧ ∀ c ∈ name, isBlank c = false := by
  have hall : decimalNames.all (fun word => !word.isEmpty && word.all (!isBlank ·)) = true := by
    decide
  have hword := List.all_eq_true.mp hall _ hname
  simp only [Bool.and_eq_true, Bool.not_eq_true', List.all_eq_true] at hword
  obtain ⟨hne, hletters⟩ := hword
  constructor
  · rintro rfl
    cases hne
  · intro c hc
    rw [← isBlank_toUpper]
    exact hletters _ (List.mem_map_of_mem hc)

/-- A decimal with its digits is read with these digits, whatever follows them. -/
theorem ofText_of_decimalText {digits : List Char} {places : Option (List Char)} {d : String}
    (h : DecimalText digits places d.toList) :
    ofText d = ⟨.decimal, numberBelow (2 ^ 32) digits,
      (places.map (numberBelow (2 ^ 31))).getD 0⟩ := by
  generalize hd : d.toList = cs at h
  obtain @⟨front, name, gap, before, after, tail, rest, hfront, hname, hgap, hbefore, hdigits,
    hafter, htail⟩ := h
  obtain ⟨hne, hletters⟩ := no_blanks_of_upper_mem hname
  have hcore : name ++ gap ++ '(' :: (before ++ digits ++ after ++ (tail ++ [')'])) =
      name ++ (gap ++ '(' :: (before ++ digits ++ after ++ tail) ++ [')']) := by
    simp only [List.append_assoc, List.cons_append]
  have htrimmed := trimmed_append hletters (List.forall_mem_singleton.mpr (by decide))
    hne (List.cons_ne_nil ')' []) (gap ++ '(' :: (before ++ digits ++ after ++ tail))
  have hstripped := stripped_append hfront htrimmed (List.append_ne_nil_of_left_ne_nil hne _) rest
  have hupper : upper (stripped d.toList) = upper name ++ (gap ++
      '(' :: (before ++ digits ++ after ++ (tail ++ ')' :: upper (dropBlanksEnd rest)))) := by
    have hopen (cs : List Char) : upper ('(' :: cs) = '(' :: upper cs := rfl
    have hclose (cs : List Char) : upper (')' :: cs) = ')' :: upper cs := rfl
    rw [hd, hcore, hstripped]
    simp only [upper_append, hopen, hclose, upper_of_allBlank hgap, upper_of_allBlank hbefore,
      upper_of_isNumeral hdigits, upper_of_allBlank hafter, htail.upper_eq, List.append_assoc,
      List.cons_append, List.nil_append]
  have harguments := decimalArguments?_append hname
    (digitArguments?_append hgap hbefore hdigits hafter htail (upper (dropBlanksEnd rest)))
  rw [ofText, hupper, harguments]
  simp only [numberUpTo_eq_numberBelow hdigits]
  congr 1
  cases htail with
  | absent => rfl
  | present _ hplaces _ => exact numberUpTo_eq_numberBelow hplaces _

/-! ## Described columns -/

/-- The columns of a result by their names, declarations and nullabilities, counted from one. -/
def describedColumns (parts : List (String × Option String × Nullability)) : List Column :=
  (parts.zipIdx 1).map fun ((name, declaration, nullability), ordinal) =>
    column name declaration ordinal nullability

theorem storedColumns_describedColumns (parts : List (String × Option String × Nullability)) :
    ResultSet.storedColumns 1 (describedColumns parts) = describedColumns parts := by
  unfold describedColumns
  generalize 1 = n
  induction parts generalizing n with
  | nil => rfl
  | cons part parts ih =>
      rw [List.zipIdx_cons, List.map_cons, ResultSet.storedColumns, storedColumn_column, ih]

theorem digits_column (name : String) (declaration : Option String) (ordinal : Nat)
    (nullability : Nullability) :
    (column name declaration ordinal nullability).precision.toNat =
        (ofText? declaration).precision ∧
      (column name declaration ordinal nullability).scale.toInt = (ofText? declaration).scale := by
  obtain ⟨hprecision, hscale⟩ := digits_lt declaration
  exact ⟨UInt32.toNat_ofNat_of_lt' hprecision, Int32.toInt_ofNat_of_lt hscale⟩

/-- Neither blanks around a declaration nor the case of its letters matter.  A decimal with digits
is read with these digits, and with its places or none, each number counting as zero if it has no
room in its field; this holds whatever follows the parentheses.  Types other than decimals have no
digits.  The columns of results have the digits of their declared types, with no places below zero,
and a result with columns counted from one is read back from its bytes as it was. -/
theorem declarations_resolved :
    (∀ d e : String, BetweenBlanks d.toList e.toList → ofText e = ofText d) ∧
    (∀ d e : String, upper d.toList = upper e.toList → ofText d = ofText e) ∧
    (∀ (digits : List Char) (places : Option (List Char)) (d : String),
      DecimalText digits places d.toList →
        ofText d = ⟨.decimal, numberBelow (2 ^ 32) digits,
          (places.map (numberBelow (2 ^ 31))).getD 0⟩) ∧
    (∀ d : Option String,
      (ofText? d).type ≠ .decimal → (ofText? d).precision = 0 ∧ (ofText? d).scale = 0) ∧
    (∀ (name : String) (d : Option String) (ordinal : Nat) (nullability : Nullability),
      let c := column name d ordinal nullability
      c.type = (ofText? d).type ∧ c.precision.toNat = (ofText? d).precision ∧
        c.scale.toInt = (ofText? d).scale ∧ 0 ≤ c.scale.toInt) ∧
    ∀ (parts : List (String × Option String × Nullability)) (rows : List Row) (r : ResultSet),
      ResultSet.ofRows (describedColumns parts) rows = .ok r → r.Storable →
        Entry.decodeResult (Entry.encodeResult r) = .ok r := by
  refine ⟨fun d e => ofText_of_betweenBlanks, fun d e => ofText_of_upper_eq,
    fun digits places d => ofText_of_decimalText, fun d => digits_of_ne_decimal,
    fun name d ordinal nullability => ?_, fun parts rows r hr hstorable => ?_⟩
  · obtain ⟨hprecision, hscale⟩ := digits_column name d ordinal nullability
    refine ⟨rfl, hprecision, hscale, ?_⟩
    rw [hscale]
    exact Int.natCast_nonneg _
  · obtain ⟨rfl, hrect⟩ := ResultSet.ofRows_eq_ok_iff.mp hr
    have hstored : (⟨describedColumns parts, rows⟩ : ResultSet).stored =
        ⟨describedColumns parts, rows⟩ := by
      rw [ResultSet.stored, storedColumns_describedColumns]
    rw [Entry.decodeResult_encodeResult hrect hstorable, hstored]

/-- A price whose declared places have no room in their field, and the words of other types. -/
def crowdedDeclaration : String :=
  " Numeric ( 0012,\t2147483648 )BLOB date"

theorem crowdedDeclaration_resolved :
    ofText crowdedDeclaration = ⟨.decimal, 12, 0⟩ ∧
      ofText "\nnumber(7)INT" = ofText "NUMBER(7)int" ∧
        Entry.decodeResult (Entry.encodeResult
            ⟨describedColumns [("p", crowdedDeclaration, .noNulls)], [[.null]]⟩) =
          .ok ⟨describedColumns [("p", crowdedDeclaration, .noNulls)], [[.null]]⟩ := by
  obtain ⟨hblanks, hcase, hdecimal, -, -, hstored⟩ := declarations_resolved
  have hparts : crowdedDeclaration.toList =
      [' '] ++ ("Numeric".toList ++ [' '] ++ '(' :: ([' '] ++ "0012".toList ++ [] ++
        (',' :: (['\t'] ++ "2147483648".toList ++ [' ']) ++ [')']))) ++ "BLOB date".toList := by
    decide
  have htext :
      DecimalText "0012".toList (some "2147483648".toList) crowdedDeclaration.toList := by
    rw [hparts]
    exact .mk (by decide) (by decide) (by decide) (by decide) (by decide) (by decide)
      (.present (by decide) (by decide) (by decide))
  refine ⟨(hdecimal _ _ _ htext).trans (by decide), ?_,
    hstored [("p", crowdedDeclaration, .noNulls)] [[.null]] _ (by decide) (by decide)⟩
  rw [hblanks "number(7)INT" "\nnumber(7)INT"
    ⟨['\n'], [], List.forall_mem_singleton.mpr (by decide), List.forall_mem_nil _, by decide⟩]
  exact hcase _ _ (by decide)

end QueryReplay.DeclaredType
