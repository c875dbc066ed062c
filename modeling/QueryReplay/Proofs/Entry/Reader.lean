import QueryReplay.Entry.Decoder
import QueryReplay.Proofs.Number.BigEndian
import QueryReplay.Proofs.Text.Utf8

/-!
# What readers read

A relation between results and byte strings says how each result may be
written.  A reader is exact for such a relation when it succeeds on an input
precisely if the input starts with a byte string that the relation allows, and
then leaves what follows.  One direction says that nothing else is accepted,
the other that nothing allowed is refused.

Exactness is closed under the ways in which readers are put together, so every
reader of this library gets its relation from those of its parts.
-/

namespace QueryReplay.Entry

/-! ## Taking bytes off an input -/

/-- `out` is what is left of `input` when the bytes `b` are taken off it. -/
structure Input.Takes (input : Input) (b : List UInt8) (out : Input) : Prop where
  rest_eq : input.rest = b ++ out.rest
  offset_eq : out.offset = input.offset + b.length

namespace Input

theorem takes_nil {input out : Input} : input.Takes [] out ↔ out = input := by
  constructor
  · rintro ⟨hrest, hoffset⟩
    cases input
    cases out
    simp_all
  · rintro rfl
    exact ⟨rfl, rfl⟩

theorem takes_append {input out : Input} {x y : List UInt8} :
    input.Takes (x ++ y) out ↔ ∃ mid, input.Takes x mid ∧ mid.Takes y out := by
  constructor
  · rintro ⟨hrest, hoffset⟩
    refine ⟨⟨input.offset + x.length, y ++ out.rest⟩, ⟨?_, rfl⟩, ⟨rfl, ?_⟩⟩
    · rw [hrest, List.append_assoc]
    · rw [hoffset, List.length_append, Nat.add_assoc]
  · rintro ⟨mid, ⟨hrest, hoffset⟩, ⟨hrest', hoffset'⟩⟩
    constructor
    · rw [hrest, hrest', List.append_assoc]
    · rw [hoffset', hoffset, List.length_append, Nat.add_assoc]

theorem Takes.length_rest {input out : Input} {b : List UInt8} (h : input.Takes b out) :
    input.rest.length = b.length + out.rest.length := by
  rw [h.rest_eq, List.length_append]

end Input

namespace Reader

variable {α β : Type}

theorem run_bind_of_ok {p : Reader α} {f : α → Reader β} {input mid : Input} {a : α}
    (hp : p.run input = .ok (a, mid)) : (p >>= f).run input = (f a).run mid := by
  rw [StateT.run_bind, hp]
  rfl

theorem run_bind_of_error {p : Reader α} {f : α → Reader β} {input : Input} {defect : Corruption}
    (hp : p.run input = .error defect) : (p >>= f).run input = .error defect := by
  rw [StateT.run_bind, hp]
  rfl

theorem run_bind_eq_ok {p : Reader α} {f : α → Reader β} {input out : Input} {b : β} :
    (p >>= f).run input = .ok (b, out) ↔
      ∃ a mid, p.run input = .ok (a, mid) ∧ (f a).run mid = .ok (b, out) := by
  cases hp : p.run input with
  | error defect =>
      rw [run_bind_of_error hp]
      simp
  | ok next =>
      obtain ⟨a, mid⟩ := next
      rw [run_bind_of_ok hp]
      simp

/-! ## Exact readers -/

/-- A reader that accepts the byte strings that stand in `R` to its result, and no others. -/
def Exact (p : Reader α) (R : α → List UInt8 → Prop) : Prop :=
  ∀ input a out, p.run input = .ok (a, out) ↔ ∃ b, R a b ∧ input.Takes b out

theorem Exact.congr {p : Reader α} {R S : α → List UInt8 → Prop} (h : Exact p R)
    (hRS : ∀ a b, R a b ↔ S a b) : Exact p S := by
  intro input a out
  rw [h input a out]
  simp only [hRS]

theorem exact_pure (a : α) : Exact (pure a) fun a' b => a' = a ∧ b = [] := by
  intro input a' out
  have hrun : (pure a : Reader α).run input = .ok (a, input) := rfl
  rw [hrun]
  constructor
  · intro h
    cases h
    exact ⟨[], ⟨rfl, rfl⟩, Input.takes_nil.mpr rfl⟩
  · rintro ⟨b, ⟨rfl, rfl⟩, htakes⟩
    rw [Input.takes_nil.mp htakes]

theorem Exact.bind {p : Reader α} {f : α → Reader β} {R : α → List UInt8 → Prop}
    {S : α → β → List UInt8 → Prop} (hp : Exact p R) (hf : ∀ a, Exact (f a) (S a)) :
    Exact (p >>= f) fun c b => ∃ a x y, R a x ∧ S a c y ∧ b = x ++ y := by
  intro input c out
  rw [run_bind_eq_ok]
  constructor
  · rintro ⟨a, mid, ha, hc⟩
    obtain ⟨x, hx, hmid⟩ := (hp input a mid).mp ha
    obtain ⟨y, hy, hout⟩ := (hf a mid c out).mp hc
    exact ⟨x ++ y, ⟨a, x, y, hx, hy, rfl⟩, Input.takes_append.mpr ⟨mid, hmid, hout⟩⟩
  · rintro ⟨_, ⟨a, x, y, hx, hy, rfl⟩, htakes⟩
    obtain ⟨mid, hmid, hout⟩ := Input.takes_append.mp htakes
    exact ⟨a, mid, (hp input a mid).mpr ⟨x, hx, hmid⟩, (hf a mid c out).mpr ⟨y, hy, hout⟩⟩

/-- A reader whose result is only wrapped up. -/
theorem Exact.map {p : Reader α} {R : α → List UInt8 → Prop} (h : Exact p R) (f : α → β) :
    Exact (do return f (← p)) fun c b => ∃ a, c = f a ∧ R a b := by
  refine (h.bind fun a => exact_pure (f a)).congr ?_
  intro c b
  constructor
  · rintro ⟨a, _, _, ha, ⟨rfl, rfl⟩, rfl⟩
    exact ⟨a, rfl, by rwa [List.append_nil]⟩
  · rintro ⟨a, rfl, ha⟩
    exact ⟨a, b, [], ha, ⟨rfl, rfl⟩, (List.append_nil b).symm⟩

theorem run_fail (defect : Corruption) (input : Input) :
    (fail defect : Reader α).run input = .error defect := rfl

theorem exact_fail (defect : Corruption) : Exact (fail defect : Reader α) fun _ _ => False := by
  intro input a out
  simp [run_fail]

/-- A reader behind a test that refuses the input. -/
theorem Exact.guard {c : Prop} [Decidable c] {defect : Corruption} {f : Unit → Reader α}
    {p : Reader α} {R : α → List UInt8 → Prop} (h : Exact p R) :
    Exact (if c then fail defect >>= f else p) fun a b => ¬c ∧ R a b := by
  intro input a out
  by_cases hc : c
  · have hrun : (fail defect >>= f).run input = .error defect := rfl
    rw [if_pos hc, hrun]
    simp [hc]
  · rw [if_neg hc, h input a out]
    simp [hc]

theorem Exact.ite {c : Prop} [Decidable c] {p q : Reader α} {R S : α → List UInt8 → Prop}
    (hp : Exact p R) (hq : Exact q S) :
    Exact (if c then p else q) fun a b => (c ∧ R a b) ∨ (¬c ∧ S a b) := by
  intro input a out
  by_cases hc : c
  · rw [if_pos hc, hp input a out]
    simp [hc]
  · rw [if_neg hc, hq input a out]
    simp [hc]

theorem exact_require (defect : Corruption) (o : Option α) :
    Exact (require defect o) fun a b => o = some a ∧ b = [] := by
  cases o with
  | none => exact (exact_fail defect).congr (by simp)
  | some a => exact (exact_pure a).congr (by simp [eq_comm])

/-! ## Bytes, numbers and texts -/

theorem exact_take (count : Nat) :
    Exact (take count) fun a b => b = a ∧ a.length = count := by
  intro input a out
  have hrun : (take count).run input =
      if (input.rest.take count).length = count then
        .ok (input.rest.take count, ⟨input.offset + count, input.rest.drop count⟩)
      else .error (.truncated input.offset count input.rest.length) := rfl
  rw [hrun]
  constructor
  · intro h
    split at h
    next hlength =>
      cases h
      refine ⟨_, ⟨rfl, hlength⟩, (List.take_append_drop count input.rest).symm, ?_⟩
      rw [hlength]
    next => cases h
  · rintro ⟨_, ⟨rfl, rfl⟩, hrest, hoffset⟩
    rw [hrest, List.take_left, List.drop_left, if_pos rfl, ← hoffset]

theorem exact_nat (width : Nat) :
    Exact (nat width) fun n b => b = BigEndian.encode width n ∧ n < 256 ^ width := by
  refine ((exact_take width).bind fun taken => exact_pure (BigEndian.decode taken)).congr ?_
  intro n b
  constructor
  · rintro ⟨_, taken, _, ⟨rfl, hlength⟩, ⟨rfl, rfl⟩, rfl⟩
    rw [List.append_nil, BigEndian.encode_decode_of_length hlength, ← hlength]
    exact ⟨rfl, BigEndian.decode_lt taken⟩
  · rintro ⟨rfl, hn⟩
    exact ⟨_, _, [], ⟨rfl, BigEndian.length_encode width n⟩,
      ⟨(BigEndian.decode_encode_of_lt hn).symm, rfl⟩, (List.append_nil _).symm⟩

theorem exact_int (width : Nat) :
    Exact (int width) fun i b => b.length = width ∧ BigEndian.decodeSigned b = i := by
  refine ((exact_take width).bind fun taken =>
    exact_pure (BigEndian.decodeSigned taken)).congr ?_
  intro i b
  constructor
  · rintro ⟨_, _, _, ⟨rfl, hlength⟩, ⟨rfl, rfl⟩, rfl⟩
    rw [List.append_nil]
    exact ⟨hlength, rfl⟩
  · rintro ⟨hlength, rfl⟩
    exact ⟨b, b, [], ⟨rfl, hlength⟩, ⟨rfl, rfl⟩, (List.append_nil b).symm⟩

/-- An integer of fixed width has only one spelling. -/
theorem exact_int' (width : Nat) :
    Exact (int width) fun i b =>
      b = BigEndian.encodeSigned width i ∧ BigEndian.FitsSigned width i := by
  refine (exact_int width).congr ?_
  intro i b
  constructor
  · rintro ⟨hlength, rfl⟩
    refine ⟨(BigEndian.encodeSigned_decodeSigned hlength).symm, ?_⟩
    rw [← hlength]
    exact BigEndian.fitsSigned_decodeSigned b
  · rintro ⟨rfl, hi⟩
    exact ⟨BigEndian.length_encodeSigned width i, BigEndian.decodeSigned_encodeSigned hi⟩

theorem encode_one (b : UInt8) : BigEndian.encode 1 b.toNat = [b] := by
  simp [BigEndian.encode]

theorem exact_byte : Exact byte fun a b => b = [a] := by
  refine ((exact_nat 1).bind fun n => exact_pure (UInt8.ofNat n)).congr ?_
  intro a b
  constructor
  · rintro ⟨n, _, _, ⟨rfl, hn⟩, ⟨rfl, rfl⟩, rfl⟩
    have hbyte : (UInt8.ofNat n).toNat = n := by
      rw [UInt8.toNat_ofNat']
      exact Nat.mod_eq_of_lt hn
    rw [List.append_nil, ← encode_one, hbyte]
  · rintro rfl
    exact ⟨a.toNat, _, [], ⟨(encode_one a).symm, a.toNat_lt⟩,
      ⟨UInt8.ofNat_toNat.symm, rfl⟩, (List.append_nil _).symm⟩

theorem exact_bytes : Exact bytes fun a b => b = putBytes a ∧ a.length < 2 ^ 64 := by
  refine ((exact_nat 8).bind fun n => exact_take n).congr ?_
  intro a b
  constructor
  · rintro ⟨_, _, _, ⟨rfl, hlength⟩, ⟨rfl, rfl⟩, rfl⟩
    exact ⟨rfl, hlength⟩
  · rintro ⟨rfl, hlength⟩
    exact ⟨a.length, _, a, ⟨rfl, hlength⟩, ⟨rfl, rfl⟩, rfl⟩

theorem exact_text :
    Exact text fun s b => b = putText s ∧ (Utf8.encode s).length < 2 ^ 64 := by
  refine (exact_bytes.bind (S := fun a s b => a = Utf8.encode s ∧ b = []) fun a => ?_).congr
    fun s b => ?_
  · cases h : Utf8.decode a with
    | ok s =>
        refine (exact_pure s).congr fun t b => ?_
        rw [Utf8.decode_eq_ok_iff] at h
        rw [h, Utf8.encode_injective.eq_iff, eq_comm]
    | error fault =>
        refine (exact_fail (.badText fault)).congr fun t b => ?_
        rw [← Utf8.decode_eq_ok_iff, h]
        simp
  · constructor
    · rintro ⟨_, _, _, ⟨rfl, hlength⟩, ⟨rfl, rfl⟩, rfl⟩
      rw [List.append_nil]
      exact ⟨rfl, hlength⟩
    · rintro ⟨rfl, hlength⟩
      exact ⟨Utf8.encode s, _, [], ⟨rfl, hlength⟩, ⟨rfl, rfl⟩, (List.append_nil _).symm⟩

end Reader

/-! ## Items one after another -/

/-- One byte string for each item, each as `R` allows it, one after another. -/
inductive Series {α : Type} (R : α → List UInt8 → Prop) : List α → List UInt8 → Prop where
  | nil : Series R [] []
  | cons {a : α} {b : List UInt8} {items : List α} {rest : List UInt8}
      (head : R a b) (tail : Series R items rest) : Series R (a :: items) (b ++ rest)

namespace Series

variable {α : Type} {R S : α → List UInt8 → Prop}

theorem nil_iff {b : List UInt8} : Series R [] b ↔ b = [] := by
  constructor
  · rintro ⟨⟩
    rfl
  · rintro rfl
    exact nil

theorem cons_iff {a : α} {items : List α} {b : List UInt8} :
    Series R (a :: items) b ↔ ∃ x y, R a x ∧ Series R items y ∧ b = x ++ y := by
  constructor
  · rintro ⟨⟩
    exact ⟨_, _, ‹_›, ‹_›, rfl⟩
  · rintro ⟨x, y, hx, hy, rfl⟩
    exact cons hx hy

theorem imp (h : ∀ a b, R a b → S a b) {items : List α} {b : List UInt8}
    (hR : Series R items b) : Series S items b := by
  induction hR with
  | nil => exact nil
  | cons head _ ih => exact cons (h _ _ head) ih

/-- A condition on the items alone can be taken out of the relation. -/
theorem and_iff {P : α → Prop} {items : List α} {b : List UInt8} :
    Series (fun a b => R a b ∧ P a) items b ↔ Series R items b ∧ ∀ a ∈ items, P a := by
  induction items generalizing b with
  | nil => simp [nil_iff]
  | cons a items ih =>
      simp only [cons_iff, ih, List.forall_mem_cons]
      constructor
      · rintro ⟨x, y, ⟨hx, ha⟩, ⟨hy, hitems⟩, rfl⟩
        exact ⟨⟨x, y, hx, hy, rfl⟩, ha, hitems⟩
      · rintro ⟨⟨x, y, hx, hy, rfl⟩, ha, hitems⟩
        exact ⟨x, y, ⟨hx, ha⟩, ⟨hy, hitems⟩, rfl⟩

/-- Where each item has one spelling, the series has one. -/
theorem eq_iff {f : α → List UInt8} {items : List α} {b : List UInt8} :
    Series (fun a b => b = f a) items b ↔ b = items.flatMap f := by
  induction items generalizing b with
  | nil => simp [nil_iff]
  | cons a items ih =>
      rw [cons_iff, List.flatMap_cons]
      constructor
      · rintro ⟨x, y, rfl, hy, rfl⟩
        rw [ih.mp hy]
      · rintro rfl
        exact ⟨_, _, rfl, ih.mpr rfl, rfl⟩

/-- Items that are each written in an allowed way make up a series. -/
theorem flatMap {f : α → List UInt8} {items : List α} (h : ∀ a ∈ items, R a (f a)) :
    Series R items (items.flatMap f) := by
  induction items with
  | nil => exact nil
  | cons a items ih =>
      obtain ⟨ha, hitems⟩ := List.forall_mem_cons.mp h
      rw [List.flatMap_cons]
      exact cons ha (ih hitems)

/-- The bytes of an item lie within those of the series. -/
theorem exists_of_mem {items : List α} {b : List UInt8} (h : Series R items b) {a : α}
    (ha : a ∈ items) : ∃ x, R a x ∧ x.length ≤ b.length := by
  induction h with
  | nil => cases ha
  | @cons a' x items rest head _ ih =>
      rw [List.length_append]
      rcases List.mem_cons.mp ha with rfl | hmem
      · exact ⟨x, head, by omega⟩
      · obtain ⟨y, hy, hle⟩ := ih hmem
        exact ⟨y, hy, by omega⟩

theorem length_mul_le {width : Nat} (hR : ∀ a b, R a b → width ≤ b.length) {items : List α}
    {b : List UInt8} (h : Series R items b) : items.length * width ≤ b.length := by
  induction h with
  | nil => simp
  | @cons a x items rest head _ ih =>
      have hx := hR a x head
      rw [List.length_cons, List.length_append, Nat.succ_mul]
      omega

/-- What is written is no longer than the bytes that were read, if that holds of each item. -/
theorem length_flatMap_le {f : α → List UInt8} (hR : ∀ a b, R a b → (f a).length ≤ b.length)
    {items : List α} {b : List UInt8} (h : Series R items b) :
    (items.flatMap f).length ≤ b.length := by
  induction h with
  | nil => exact Nat.le_refl _
  | @cons a x items rest head _ ih =>
      have hx := hR a x head
      rw [List.flatMap_cons, List.length_append, List.length_append]
      omega

end Series

namespace Reader

variable {α : Type}

theorem exact_repeatOnto {item : Reader α} {R : α → List UInt8 → Prop} (h : Exact item R)
    (done : List α) (count : Nat) :
    Exact (repeatOnto item done count) fun all b =>
      ∃ items, all = done.reverse ++ items ∧ items.length = count ∧ Series R items b := by
  induction count generalizing done with
  | zero =>
      refine (exact_pure done.reverse).congr fun all b => ?_
      constructor
      · rintro ⟨rfl, rfl⟩
        exact ⟨[], (List.append_nil _).symm, rfl, Series.nil⟩
      · rintro ⟨items, rfl, hlength, hitems⟩
        obtain rfl := List.length_eq_zero_iff.mp hlength
        exact ⟨List.append_nil _, Series.nil_iff.mp hitems⟩
  | succ count ih =>
      refine (h.bind fun a => ih (a :: done)).congr fun all b => ?_
      constructor
      · rintro ⟨a, x, y, hx, ⟨items, rfl, hlength, hy⟩, rfl⟩
        refine ⟨a :: items, ?_, by rw [List.length_cons, hlength], Series.cons hx hy⟩
        rw [List.reverse_cons, List.append_assoc, List.singleton_append]
      · rintro ⟨items, rfl, hlength, hitems⟩
        cases items with
        | nil => cases hlength
        | cons a items =>
            obtain ⟨x, y, hx, hy, rfl⟩ := Series.cons_iff.mp hitems
            refine ⟨a, x, y, hx, ⟨items, ?_, Nat.succ.inj hlength, hy⟩, rfl⟩
            rw [List.reverse_cons, List.append_assoc, List.singleton_append]

theorem exact_repeated {item : Reader α} {R : α → List UInt8 → Prop} (h : Exact item R)
    (count : Nat) :
    Exact (repeated count item) fun items b => items.length = count ∧ Series R items b := by
  refine (exact_repeatOnto h [] count).congr fun all b => ?_
  simp

end Reader

end QueryReplay.Entry
