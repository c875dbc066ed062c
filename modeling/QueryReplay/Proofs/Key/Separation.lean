import QueryReplay.Key
import QueryReplay.Proofs.Entry.Values

/-!
# Keys tell queries apart

The bytes that are digested for a query determine the query.  Each parameter
stands behind its length, so no byte of one can be taken for a byte of the
next, and the bytes of a parameter determine its kind and its content.  The
number of parameters is cut to four bytes, which does no harm: the parameters
reach to the end and can be counted.
-/

namespace QueryReplay

open BigEndian

/-! ## Values -/

namespace Value

/-- A value whose numbers fit the places they are written in.  This asks for less than a value
in range: a time may also stand in a leap second behind any second. -/
def FitsPlaces : Value → Prop
  | .decimal d => d.scale < 2 ^ 32 ∧ Decimal.Fits d.unscaled
  | .timestamp t =>
    FitsSigned 8 t.epochSeconds ∧ t.time.seconds < TimeOfDay.daySeconds ∧ t.time.nanos < 2 ^ 32
  | .date d => FitsSigned 4 d.days
  | .time t => t.seconds < 2 ^ 32 ∧ t.nanos < 2 ^ 32
  | _ => True

instance : (v : Value) → Decidable v.FitsPlaces
  | .decimal d => inferInstanceAs (Decidable (d.scale < 2 ^ 32 ∧ Decimal.Fits d.unscaled))
  | .timestamp t => inferInstanceAs (Decidable (FitsSigned 8 t.epochSeconds ∧
      t.time.seconds < TimeOfDay.daySeconds ∧ t.time.nanos < 2 ^ 32))
  | .date d => inferInstanceAs (Decidable (FitsSigned 4 d.days))
  | .time t => inferInstanceAs (Decidable (t.seconds < 2 ^ 32 ∧ t.nanos < 2 ^ 32))
  | .null | .bool _ | .int32 _ | .int64 _ | .float64 _ | .text _ | .bytes _ =>
    inferInstanceAs (Decidable True)

theorem Held.fitsPlaces {v : Value} (h : v.Held) : v.FitsPlaces := by
  cases v with
  | decimal d => exact ⟨h.scale_lt, h.2⟩
  | timestamp t => exact ⟨Timestamp.fitsSigned_epochSeconds h.1 h.2, h.2.1, h.2.nanos_lt⟩
  | date d => exact Date.WellFormed.fitsSigned h
  | time t => exact ⟨h.seconds_lt, h.nanos_lt⟩
  | _ => trivial

end Value

namespace Entry

/-- A byte string and what follows it are told apart by the length in front of them. -/
theorem putBytes_append_inj {a b x y : List UInt8} (ha : a.length < 2 ^ 64)
    (hb : b.length < 2 ^ 64) (h : putBytes a ++ x = putBytes b ++ y) : a = b ∧ x = y := by
  simp only [putBytes, List.append_assoc] at h
  obtain ⟨hcount, hrest⟩ := List.append_inj h (by rw [length_encode, length_encode])
  exact List.append_inj hrest ((encode_inj ha hb).mp hcount)

theorem putBytes_inj {a b : List UInt8} (h : putBytes a = putBytes b) : a = b :=
  (List.append_inj h (by rw [length_encode, length_encode])).2

theorem putText_inj {s t : String} (h : putText s = putText t) : s = t :=
  Utf8.encode_injective (putBytes_inj h)

theorem putDecimal_inj {d e : Decimal} (hd : d.scale < 2 ^ 32 ∧ Decimal.Fits d.unscaled)
    (he : e.scale < 2 ^ 32 ∧ Decimal.Fits e.unscaled) (h : putDecimal d = putDecimal e) :
    d = e := by
  simp only [putDecimal, List.append_assoc] at h
  obtain ⟨hscale, hrest⟩ := List.append_inj h (by rw [length_encode, length_encode])
  obtain ⟨_, hdigits⟩ := List.append_inj hrest (by rw [length_encode, length_encode])
  have hunscaled : d.unscaled = e.unscaled := by
    rw [← decodeSigned_shortest hd.2, hdigits, decodeSigned_shortest he.2]
  cases d
  cases e
  rw [Decimal.mk.injEq]
  exact ⟨hunscaled, (encode_inj hd.1 he.1).mp hscale⟩

theorem encode_int32_inj {i j : Int32}
    (h : encodeSigned 4 i.toInt = encodeSigned 4 j.toInt) : i = j :=
  Int32.toInt_inj.mp ((encodeSigned_inj (fitsSigned_int32 i) (fitsSigned_int32 j)).mp h)

theorem encode_int64_inj {i j : Int64}
    (h : encodeSigned 8 i.toInt = encodeSigned 8 j.toInt) : i = j :=
  Int64.toInt_inj.mp ((encodeSigned_inj (fitsSigned_int64 i) (fitsSigned_int64 j)).mp h)

/-- A double is known by its bits, so the two zeros differ, and so do any two kinds of NaN. -/
theorem encode_binary64_inj {x y : Binary64}
    (h : encode 8 x.bits.toNat = encode 8 y.bits.toNat) : x = y := by
  have hbits := (encode_inj x.bits.toNat_lt y.bits.toNat_lt).mp h
  cases x
  cases y
  rw [Binary64.mk.injEq]
  exact UInt64.toNat_inj.mp hbits

/-- Seconds and nanoseconds since 1970 determine the date and the time. -/
theorem timestamp_eq_of_epochSeconds_eq {t u : Timestamp}
    (ht : t.time.seconds < TimeOfDay.daySeconds) (hu : u.time.seconds < TimeOfDay.daySeconds)
    (hseconds : t.epochSeconds = u.epochSeconds) (hnanos : t.time.nanos = u.time.nanos) :
    t = u := by
  obtain ⟨⟨days⟩, ⟨seconds, nanos⟩⟩ := t
  obtain ⟨⟨days'⟩, ⟨seconds', nanos'⟩⟩ := u
  simp only [Timestamp.epochSeconds, TimeOfDay.daySeconds] at ht hu hseconds hnanos
  have hdays : days = days' := by omega
  have htime : seconds = seconds' := by omega
  rw [hdays, htime, hnanos]

theorem encode_timestamp_inj {t u : Timestamp} (ht : (Value.timestamp t).FitsPlaces)
    (hu : (Value.timestamp u).FitsPlaces)
    (h : encodeSigned 8 t.epochSeconds ++ encode 4 t.time.nanos =
      encodeSigned 8 u.epochSeconds ++ encode 4 u.time.nanos) : t = u := by
  obtain ⟨hsecondsFit, hsecondsLt, hnanosLt⟩ := ht
  obtain ⟨hsecondsFit', hsecondsLt', hnanosLt'⟩ := hu
  obtain ⟨hseconds, hnanos⟩ :=
    List.append_inj h (by rw [length_encodeSigned, length_encodeSigned])
  exact timestamp_eq_of_epochSeconds_eq hsecondsLt hsecondsLt'
    ((encodeSigned_inj hsecondsFit hsecondsFit').mp hseconds)
    ((encode_inj hnanosLt hnanosLt').mp hnanos)

theorem encode_date_inj {d e : Date} (hd : FitsSigned 4 d.days) (he : FitsSigned 4 e.days)
    (h : encodeSigned 4 d.days = encodeSigned 4 e.days) : d = e := by
  have hdays := (encodeSigned_inj hd he).mp h
  cases d
  cases e
  rw [Date.mk.injEq]
  exact hdays

theorem encode_time_inj {t u : TimeOfDay} (ht : (Value.time t).FitsPlaces)
    (hu : (Value.time u).FitsPlaces)
    (h : encode 4 t.seconds ++ encode 4 t.nanos = encode 4 u.seconds ++ encode 4 u.nanos) :
    t = u := by
  obtain ⟨hseconds, hnanos⟩ := List.append_inj h (by rw [length_encode, length_encode])
  have hseconds' := (encode_inj ht.1 hu.1).mp hseconds
  have hnanos' := (encode_inj ht.2 hu.2).mp hnanos
  cases t
  cases u
  rw [TimeOfDay.mk.injEq]
  exact ⟨hseconds', hnanos'⟩

theorem headD_putValue (v : Value) : (putValue v).headD 0 = valueTag v := by
  cases v <;> rfl

/-- The bytes of a value determine the value. -/
theorem putValue_inj {v w : Value} (hv : v.FitsPlaces) (hw : w.FitsPlaces)
    (h : putValue v = putValue w) : v = w := by
  have htag : valueTag v = valueTag w := by
    rw [← headD_putValue, h, headD_putValue]
  -- The tags leave only one kind for `w` once that of `v` is known.
  cases v with
  | null =>
      cases w with
      | null => rfl
      | _ => cases htag
  | bool x =>
      cases w with
      | bool y => cases x <;> cases y <;> first | rfl | cases h
      | _ => cases htag
  | int32 i =>
      cases w with
      | int32 j => rw [encode_int32_inj (List.cons.inj h).2]
      | _ => cases htag
  | int64 i =>
      cases w with
      | int64 j => rw [encode_int64_inj (List.cons.inj h).2]
      | _ => cases htag
  | float64 x =>
      cases w with
      | float64 y => rw [encode_binary64_inj (List.cons.inj h).2]
      | _ => cases htag
  | decimal d =>
      cases w with
      | decimal e => rw [putDecimal_inj hv hw (List.cons.inj h).2]
      | _ => cases htag
  | text s =>
      cases w with
      | text t => rw [putText_inj (List.cons.inj h).2]
      | _ => cases htag
  | timestamp t =>
      cases w with
      | timestamp u => rw [encode_timestamp_inj hv hw (List.cons.inj h).2]
      | _ => cases htag
  | date d =>
      cases w with
      | date e => rw [encode_date_inj hv hw (List.cons.inj h).2]
      | _ => cases htag
  | time t =>
      cases w with
      | time u => rw [encode_time_inj hv hw (List.cons.inj h).2]
      | _ => cases htag
  | bytes x =>
      cases w with
      | bytes y => rw [putBytes_inj (List.cons.inj h).2]
      | _ => cases htag

end Entry

/-! ## Queries -/

namespace Key

/-- A query whose text and parameters are short enough to be counted in eight bytes, and whose
parameters fit the places of their numbers. -/
structure Digestible (statement : String) (parameters : List Value) : Prop where
  statement_lt : (Utf8.encode statement).length < 2 ^ 64
  parameters_lt : ∀ v ∈ parameters, (Entry.putValue v).length < 2 ^ 64
  fitsPlaces : ∀ v ∈ parameters, v.FitsPlaces

theorem parameterBytes_ne_nil (v : Value) (rest : List UInt8) :
    parameterBytes v ++ rest ≠ [] := by
  intro h
  have hlength := congrArg List.length h
  simp only [parameterBytes, Entry.putBytes, List.length_append, length_encode,
    List.length_nil] at hlength
  omega

/-- The bytes of all parameters determine the parameters, and with them how many there are. -/
theorem flatMap_parameterBytes_inj {p q : List Value}
    (hp : ∀ v ∈ p, (Entry.putValue v).length < 2 ^ 64 ∧ v.FitsPlaces)
    (hq : ∀ v ∈ q, (Entry.putValue v).length < 2 ^ 64 ∧ v.FitsPlaces)
    (h : p.flatMap parameterBytes = q.flatMap parameterBytes) : p = q := by
  induction p generalizing q with
  | nil =>
      cases q with
      | nil => rfl
      | cons w q => exact absurd h.symm (parameterBytes_ne_nil w _)
  | cons v p ih =>
      cases q with
      | nil => exact absurd h (parameterBytes_ne_nil v _)
      | cons w q =>
          obtain ⟨hv, hp⟩ := List.forall_mem_cons.mp hp
          obtain ⟨hw, hq⟩ := List.forall_mem_cons.mp hq
          obtain ⟨hvalue, hrest⟩ := Entry.putBytes_append_inj hv.1 hw.1 h
          rw [Entry.putValue_inj hv.2 hw.2 hvalue, ih hp hq hrest]

theorem queryBytes_inj {s t : String} {p q : List Value} (hp : Digestible s p)
    (hq : Digestible t q) (h : queryBytes s p = queryBytes t q) : s = t ∧ p = q := by
  simp only [queryBytes, List.append_assoc] at h
  have hbody := List.append_cancel_left h
  obtain ⟨htext, hrest⟩ := Entry.putBytes_append_inj hp.statement_lt hq.statement_lt hbody
  obtain ⟨_, hparameters⟩ := List.append_inj hrest (by rw [length_encode, length_encode])
  refine ⟨Utf8.encode_injective htext, flatMap_parameterBytes_inj ?_ ?_ hparameters⟩
  · exact fun v hv => ⟨hp.parameters_lt v hv, hp.fitsPlaces v hv⟩
  · exact fun v hv => ⟨hq.parameters_lt v hv, hq.fitsPlaces v hv⟩

/-- Two queries are digested from the same bytes exactly if they have the same text and the same
parameters.  So they share a key exactly if they are the same query, or if their different bytes
have the same digest. -/
theorem queries_separated {s t : String} {p q : List Value} (hp : Digestible s p)
    (hq : Digestible t q) :
    (queryBytes s p = queryBytes t q ↔ s = t ∧ p = q) ∧
      (ofQuery s p = ofQuery t q ↔ (s = t ∧ p = q) ∨
        (queryBytes s p ≠ queryBytes t q ∧
          Sha256.digest (queryBytes s p) = Sha256.digest (queryBytes t q))) := by
  have hbytes : queryBytes s p = queryBytes t q ↔ s = t ∧ p = q := by
    constructor
    · exact queryBytes_inj hp hq
    · rintro ⟨rfl, rfl⟩
      rfl
  refine ⟨hbytes, ?_⟩
  rw [← hbytes, ofQuery, ofQuery, mk.injEq]
  constructor
  · intro hdigest
    by_cases hsame : queryBytes s p = queryBytes t q
    · exact Or.inl hsame
    · exact Or.inr ⟨hsame, hdigest⟩
  · rintro (hsame | ⟨_, hdigest⟩)
    · rw [hsame]
    · exact hdigest

/-- The two zeros are different parameters. -/
theorem zeros_separated :
    Digestible "SELECT ?" [.float64 ⟨0⟩] ∧ Digestible "SELECT ?" [.float64 ⟨0x8000000000000000⟩] ∧
      queryBytes "SELECT ?" [.float64 ⟨0⟩] ≠
        queryBytes "SELECT ?" [.float64 ⟨0x8000000000000000⟩] := by
  have hpositive : Digestible "SELECT ?" [.float64 ⟨0⟩] := ⟨by decide, by decide, by decide⟩
  have hnegative : Digestible "SELECT ?" [.float64 ⟨0x8000000000000000⟩] :=
    ⟨by decide, by decide, by decide⟩
  refine ⟨hpositive, hnegative, fun hsame => ?_⟩
  have hquery := (queries_separated hpositive hnegative).1.mp hsame
  exact absurd hquery (by decide)

end Key

end QueryReplay
