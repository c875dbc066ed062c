import QueryReplay.Backend.Native
import QueryReplay.Proofs.Entry.Bounds
import QueryReplay.Proofs.Number.DecimalSteps

/-!
# Where decimals come from

This file follows a decimal back to where it came from: an integer with or
without a scale, a text, a double, another decimal with another scale, a value
read as a decimal, a column of a database, or the bytes of a kept result.  Each
of these gives decimals in range only, by induction on the way a decimal has
taken.  Decimals in range are all that their operations need, so that these can
be carried out in integers of fixed width wherever a decimal comes from.
-/

namespace QueryReplay

namespace Decimal

/-- The ways in which a decimal can come about. -/
inductive Produced : Decimal → Prop where
  | ofParts {unscaled : Int} {scale : Nat} {d : Decimal} (hroom : Fits unscaled)
      (h : new? unscaled scale = some d) : Produced d
  | ofInt {i : Int} (hroom : Fits i) : Produced (ofInt i)
  | ofText {s : String} {d : Decimal} (h : parse s = .ok d) : Produced d
  | ofBinary64 {x : Binary64} {d : Decimal} (h : ofBinary64? x = some d) : Produced d
  | rescaled {d e : Decimal} {scale : Nat} (hd : Produced d) (h : d.rescale? scale = some e) :
      Produced e
  | coerced {v : Value} {d : Decimal} (hv : ∀ e, v = .decimal e → Produced e)
      (h : v.decimal? = some d) : Produced d
  | ofColumn {c : Column} {n : Native} {d : Decimal} (h : n.toValue c = .ok (.decimal d)) :
      Produced d
  | ofBytes {b : List UInt8} {r : ResultSet} {row : Row} {d : Decimal}
      (h : Entry.decodeResult b = .ok r) (hrow : row ∈ r.rows) (hd : Value.decimal d ∈ row) :
      Produced d

/-! ## Each way stays in range -/

theorem wellFormed_of_new? {unscaled : Int} {scale : Nat} {d : Decimal} (hroom : Fits unscaled)
    (h : new? unscaled scale = some d) : d.WellFormed := by
  rw [new?_eq_ofParts? hroom] at h
  exact (ofParts?_eq_some_iff.mp h).2

theorem wellFormed_ofInt {i : Int} (hroom : Fits i) : (ofInt i).WellFormed :=
  ⟨Nat.zero_le _, hroom⟩

theorem wellFormed_of_ofText? {s : String} {d : Decimal} (h : ofText? s = some d) :
    d.WellFormed := by
  obtain ⟨core, _, p, _, hrange, rfl⟩ := ofText?_eq_some_iff.mp h
  exact ⟨hrange.scale_le, fits_withSign hrange.magnitude_lt p.negative⟩

theorem wellFormed_of_rescale? {d e : Decimal} {scale : Nat} (h : d.rescale? scale = some e) :
    e.WellFormed := by
  rw [rescale?] at h
  split at h
  · cases h
  · split at h
    · exact (ofParts?_eq_some_iff.mp h).2
    · exact (ofParts?_eq_some_iff.mp h).2

end Decimal

namespace Value

theorem fits_int64 (i : Int64) : Decimal.Fits i.toInt := by
  have hlow := i.le_toInt
  have hhigh := i.toInt_lt
  constructor
  · omega
  · omega

theorem fits_int32 (i : Int32) : Decimal.Fits i.toInt := by
  have hlow := i.le_toInt
  have hhigh := i.toInt_lt
  constructor
  · omega
  · omega

theorem fits_bool (b : Bool) : Decimal.Fits b.toNat := by
  cases b with
  | false => decide
  | true => decide

/-- What a value is read as is in range, if the decimal in it is. -/
theorem wellFormed_of_decimal? {v : Value} {d : Decimal}
    (hv : ∀ e, v = .decimal e → e.WellFormed) (h : v.decimal? = some d) : d.WellFormed := by
  cases v with
  | bool b =>
      cases h
      exact Decimal.wellFormed_ofInt (fits_bool b)
  | int32 i =>
      cases h
      exact Decimal.wellFormed_ofInt (fits_int32 i)
  | int64 i =>
      cases h
      exact Decimal.wellFormed_ofInt (fits_int64 i)
  | float64 x => exact Decimal.wellFormed_of_ofText? h
  | decimal e =>
      cases h
      exact hv d rfl
  | text s => exact Decimal.wellFormed_of_ofText? h
  | _ => cases h

end Value

namespace Native

theorem aligned_wellFormed {d : Decimal} (hd : d.WellFormed) (scale : Int32) :
    (aligned scale d).WellFormed := by
  unfold aligned
  split
  · cases h : d.rescale? scale.toInt.toNat with
    | none => exact hd
    | some e => exact Decimal.wellFormed_of_rescale? h
  · exact hd

theorem declaredInteger?_eq_decimal {c : Column} {i : Int64} {d : Decimal}
    (h : declaredInteger? c i = some (.decimal d)) : aligned c.scale (.ofInt i.toInt) = d := by
  unfold declaredInteger? at h
  split at h
  case h_2 =>
    split at h
    · cases h
    · cases h
  case h_5 =>
    cases h
    rfl
  all_goals simp at h

theorem declaredReal?_eq_decimal {c : Column} {x : Binary64} {d : Decimal}
    (h : declaredReal? c x = some (.decimal d)) :
    ∃ e, Decimal.ofBinary64? x = some e ∧ aligned c.scale e = d := by
  unfold declaredReal? at h
  split at h
  case h_2 => simpa using h
  all_goals simp at h

theorem declaredText?_eq_decimal {c : Column} {s : String} {d : Decimal}
    (h : declaredText? c s = some (.decimal d)) :
    ∃ e, Decimal.ofText? s = some e ∧ aligned c.scale e = d := by
  unfold declaredText? at h
  split at h
  case h_2 => simpa using h
  all_goals simp at h

/-- What is not the fallback has been declared. -/
private theorem eq_some_of_getD {o : Option Value} {v w : Value} (h : o.getD v = w) (hne : v ≠ w) :
    o = some w :=
  (Option.getD_eq_iff.mp h).resolve_right fun hnone => hne hnone.2

/-- A decimal of a column comes from an integer, a double or a text there, and has the places of
the column if it fits them. -/
theorem toValue_eq_decimal {c : Column} {n : Native} {d : Decimal}
    (h : n.toValue c = .ok (.decimal d)) :
    ∃ e : Decimal, e.WellFormed ∧ aligned c.scale e = d := by
  cases n with
  | null => cases h
  | integer i =>
      have hdeclared := eq_some_of_getD (Except.ok.inj h) (by simp)
      exact ⟨_, Decimal.wellFormed_ofInt (Value.fits_int64 i),
        declaredInteger?_eq_decimal hdeclared⟩
  | real x =>
      have hdeclared := eq_some_of_getD (Except.ok.inj h) (by simp)
      obtain ⟨e, he, haligned⟩ := declaredReal?_eq_decimal hdeclared
      exact ⟨e, Decimal.wellFormed_of_ofText? he, haligned⟩
  | text b =>
      rw [toValue] at h
      split at h
      case h_1 s _ =>
        have hdeclared := eq_some_of_getD (Except.ok.inj h) (by simp)
        obtain ⟨e, he, haligned⟩ := declaredText?_eq_decimal hdeclared
        exact ⟨e, Decimal.wellFormed_of_ofText? he, haligned⟩
      case h_2 => cases h
  | blob b => cases h

theorem wellFormed_of_toValue {c : Column} {n : Native} {d : Decimal}
    (h : n.toValue c = .ok (.decimal d)) : d.WellFormed := by
  obtain ⟨e, he, rfl⟩ := toValue_eq_decimal h
  exact aligned_wellFormed he c.scale

end Native

namespace Decimal

open Int128

/-! ## All ways together -/

theorem Produced.wellFormed {d : Decimal} (h : Produced d) : d.WellFormed := by
  induction h with
  | ofParts hroom h => exact wellFormed_of_new? hroom h
  | ofInt hroom => exact wellFormed_ofInt hroom
  | ofText h => exact wellFormed_of_ofText? (parse_eq_ok_iff.mp h)
  | ofBinary64 h => exact wellFormed_of_ofText? h
  | rescaled _ h _ => exact wellFormed_of_rescale? h
  | coerced _ h hinner => exact Value.wellFormed_of_decimal? hinner h
  | ofColumn h => exact Native.wellFormed_of_toValue h
  | ofBytes h hrow hd =>
      exact (Entry.decodeResult_eq_ok_iff_spelling.mp h).1.wellFormed _ hrow _ hd

/-- Where the product has no room, there is no decimal with more places. -/
theorem rescaleSteps_of_not_fits {d : Decimal} (hd : d.WellFormed) {scale : Nat}
    (hle : d.scale ≤ scale) (h : ¬Fits (d.unscaled * 10 ^ (scale - d.scale))) :
    rescaleSteps d scale = .ok none := by
  rw [rescaleSteps_eq hd, rescale?_of_le hle, ofParts?, if_neg fun hboth => h hboth.2]

/-- A decimal is in range wherever it comes from.  So its power of ten has room, and its integer
part, another scale and its text are found without a step that leaves its range, divides by zero
or cuts outside a text, and every text is read so; and where the product for more places has no
room, there is no such decimal. -/
theorem produced_in_range :
    (∀ d, Produced d → d.WellFormed ∧
      (power? 10 d.scale = some (10 ^ d.scale) ∧ truncateSteps d = .ok d.truncate) ∧
        charsSteps d = .ok d.chars ∧
          ∀ scale, rescaleSteps d scale = .ok (d.rescale? scale) ∧
            (d.scale ≤ scale → ¬Fits (d.unscaled * 10 ^ (scale - d.scale)) →
              rescaleSteps d scale = .ok none)) ∧
      ∀ cs, ofCharsSteps cs = .ok (ofChars? cs) := by
  refine ⟨?_, ofCharsSteps_eq⟩
  intro d hproduced
  have hd := hproduced.wellFormed
  refine ⟨hd, ⟨power?_ten hd.1, truncateSteps_eq hd⟩, charsSteps_eq hd.1, ?_⟩
  intro scale
  exact ⟨rescaleSteps_eq hd scale, rescaleSteps_of_not_fits hd⟩

/-- The least integer with as many places as there may be, and with one place more. -/
theorem least_in_range :
    Produced ⟨-2 ^ 127, 38⟩ ∧ charsSteps ⟨-2 ^ 127, 38⟩ = .ok (Decimal.chars ⟨-2 ^ 127, 38⟩) ∧
      Produced ⟨-2 ^ 127, 0⟩ ∧ rescaleSteps ⟨-2 ^ 127, 0⟩ 1 = .ok none := by
  have hroom : Fits (-2 ^ 127) := by decide
  have hnew : new? (-2 ^ 127) 38 = some ⟨-2 ^ 127, 38⟩ := by decide
  have hfine : Produced ⟨-2 ^ 127, 38⟩ := Produced.ofParts hroom hnew
  have hwhole : Produced ⟨-2 ^ 127, 0⟩ := Produced.ofInt hroom
  obtain ⟨_, _, htext, _⟩ := produced_in_range.1 _ hfine
  obtain ⟨_, _, _, hrescaled⟩ := produced_in_range.1 _ hwhole
  exact ⟨hfine, htext, hwhole, (hrescaled 1).2 (by decide) (by decide)⟩

end Decimal

end QueryReplay
