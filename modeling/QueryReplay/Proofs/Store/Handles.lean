import QueryReplay.Proofs.Store.Registry

/-!
# Handles of stores in memory

Stores in memory are made and looked up by name, names are dropped, and all the
handles that were obtained on the way stay in use.  A handle stays one of the
same store for ever.  A name stands for the same store whenever it is asked for,
until it is dropped; no name ever stands for that store again.
-/

namespace QueryReplay

/-! ## Calls with handles -/

/-- What can be done with stores in memory.  Handles are counted in the order in which they were
obtained. -/
inductive HandleCall where
  | create (name : String)
  | named (name : String)
  | unregister (name : String)
  | use (handle : Nat) (call : MemoryCall)
deriving DecidableEq, Repr

namespace HandleCall

/-- A handle is obtained. -/
def opens : HandleCall → Bool
  | .create _ => true
  | .named _ => true
  | _ => false

def handle? : HandleCall → Option Nat
  | .use handle _ => some handle
  | _ => none

end HandleCall

/-- How many handles were obtained. -/
def opened (calls : List HandleCall) : Nat :=
  calls.countP HandleCall.opens

/-- The stores in memory, and the numbers of those that handles were obtained of. -/
structure Holdings where
  registry : Registry
  held : List Nat
deriving DecidableEq, Repr

namespace Holdings

def start : Holdings :=
  ⟨Registry.empty, []⟩

def answer (w : Holdings) : HandleCall → StoreAnswer × Holdings
  | .create name => (.done, ⟨(w.registry.create name).2, w.held ++ [(w.registry.create name).1]⟩)
  | .named name => (.done, ⟨(w.registry.named name).2, w.held ++ [(w.registry.named name).1]⟩)
  | .unregister name =>
    (.removed (w.registry.isRegistered name), ⟨w.registry.unregister name, w.held⟩)
  | .use handle call =>
    match w.held[handle]? with
    | some id =>
      ((w.registry.memoryAnswer id call).1, ⟨(w.registry.memoryAnswer id call).2, w.held⟩)
    | none => (.done, w)

/-- The stores and handles behind a sequence of calls. -/
def run (w : Holdings) (calls : List HandleCall) : Holdings :=
  (interview answer w calls).2

variable {w : Holdings} {calls : List HandleCall} {i j id : Nat}

theorem run_append (w : Holdings) (calls more : List HandleCall) :
    w.run (calls ++ more) = (w.run calls).run more := by
  unfold run
  rw [interview_append]

theorem run_cons (w : Holdings) (call : HandleCall) (calls : List HandleCall) :
    w.run (call :: calls) = (w.answer call).2.run calls :=
  rfl

theorem run_concat (w : Holdings) (calls : List HandleCall) (call : HandleCall) :
    w.run (calls ++ [call]) = ((w.run calls).answer call).2 :=
  run_append w calls [call]

theorem answer_use (hheld : w.held[i]? = some id) (call : MemoryCall) :
    w.answer (.use i call) =
      ((w.registry.memoryAnswer id call).1, ⟨(w.registry.memoryAnswer id call).2, w.held⟩) := by
  simp only [answer, hheld]

/-- A call through a handle sets the entries of its store, if it changes anything. -/
theorem answer_use_cases (w : Holdings) (i : Nat) (call : MemoryCall) :
    (w.answer (.use i call)).2 = w ∨ ∃ id e, w.held[i]? = some id ∧
      (w.answer (.use i call)).2 = ⟨w.registry.setEntries id e, w.held⟩ := by
  cases hheld : w.held[i]? with
  | none =>
      left
      simp only [answer, hheld]
  | some id =>
      rw [answer_use hheld]
      rcases Registry.memoryAnswer_cases id w.registry call with hsame | ⟨e, hset⟩
      · left
        rw [hsame]
      · right
        exact ⟨id, e, rfl, by rw [hset]⟩

/-! ## What every call keeps -/

/-- Names stand for stores that were made under them, and handles for stores that are there. -/
structure Sound (w : Holdings) : Prop where
  names : w.registry.NamesAreTrue
  held : ∀ id ∈ w.held, id < w.registry.stores.length

/-- Handles and stores stay what they are. -/
structure Grows (w w' : Holdings) : Prop where
  held : w.held <+: w'.held
  stores : w.registry.stores.length ≤ w'.registry.stores.length
  nameOf : ∀ id < w.registry.stores.length, w'.registry.nameOf id = w.registry.nameOf id

theorem Sound.answer (h : w.Sound) (call : HandleCall) : (w.answer call).2.Sound := by
  cases call with
  | create name =>
      refine ⟨h.names.create name, fun id hid => ?_⟩
      show id < (w.registry.create name).2.stores.length
      rw [Registry.length_create]
      rcases List.mem_append.mp hid with hold | hnew
      · exact Nat.lt_succ_of_lt (h.held id hold)
      · rw [List.mem_singleton.mp hnew]
        exact Nat.lt_succ_self _
  | named name =>
      refine ⟨h.names.named name, fun id hid => ?_⟩
      rcases List.mem_append.mp hid with hold | hnew
      · exact Nat.lt_of_lt_of_le (h.held id hold) (Registry.length_le_named _ _)
      · rw [List.mem_singleton.mp hnew]
        exact (h.names.named name name _ (Registry.lookup_named _ _)).1
  | unregister name => exact ⟨h.names.unregister name, h.held⟩
  | use i call =>
      rcases answer_use_cases w i call with hsame | ⟨id, e, -, hset⟩
      · rw [hsame]
        exact h
      · rw [hset]
        refine ⟨h.names.setEntries id e, fun other hother => ?_⟩
        show other < (w.registry.setEntries id e).stores.length
        rw [Registry.length_setEntries]
        exact h.held other hother

theorem Sound.start : start.Sound :=
  ⟨nofun, nofun⟩

theorem Sound.run (h : w.Sound) (calls : List HandleCall) : (w.run calls).Sound :=
  interview_keeps (fun _ h call _ => h.answer call) h

namespace Grows

variable {w' w'' : Holdings}

theorem refl (w : Holdings) : Grows w w :=
  ⟨List.prefix_rfl, Nat.le_refl _, fun _ _ => rfl⟩

theorem trans (h : Grows w w') (h' : Grows w' w'') : Grows w w'' := by
  refine ⟨h.held.trans h'.held, Nat.le_trans h.stores h'.stores, fun id hid => ?_⟩
  rw [h'.nameOf id (Nat.lt_of_lt_of_le hid h.stores), h.nameOf id hid]

theorem answer (w : Holdings) (call : HandleCall) : Grows w (w.answer call).2 := by
  cases call with
  | create name =>
      refine ⟨List.prefix_append _ _, ?_, fun id hid => Registry.nameOf_create hid name⟩
      exact Registry.length_create w.registry name ▸ Nat.le_succ _
  | named name =>
      exact ⟨List.prefix_append _ _, Registry.length_le_named _ _,
        fun id hid => Registry.nameOf_named hid name⟩
  | unregister name => exact ⟨List.prefix_rfl, Nat.le_refl _, fun _ _ => rfl⟩
  | use i call =>
      rcases answer_use_cases w i call with hsame | ⟨id, e, -, hset⟩
      · rw [hsame]
        exact refl w
      · rw [hset]
        exact ⟨List.prefix_rfl, Nat.le_of_eq (Registry.length_setEntries _ _ _).symm,
          fun other _ => Registry.nameOf_setEntries _ _ _ other⟩

theorem run (w : Holdings) (calls : List HandleCall) : Grows w (w.run calls) :=
  interview_keeps (fun _ h call _ => h.trans (answer _ call)) (refl w)

theorem getElem?_held (h : Grows w w') (hi : i < w.held.length) : w'.held[i]? = w.held[i]? := by
  obtain ⟨more, hmore⟩ := h.held
  rw [← hmore, List.getElem?_append_left hi]

end Grows

theorem length_held_answer (w : Holdings) (call : HandleCall) :
    (w.answer call).2.held.length = w.held.length + opened [call] := by
  cases call with
  | create name => exact List.length_append
  | named name => exact List.length_append
  | unregister name => rfl
  | use i call =>
      rcases answer_use_cases w i call with hsame | ⟨id, e, -, hset⟩
      · rw [hsame]
        rfl
      · rw [hset]
        rfl

theorem opened_append (calls more : List HandleCall) :
    opened (calls ++ more) = opened calls + opened more :=
  List.countP_append

theorem length_held_run (w : Holdings) (calls : List HandleCall) :
    (w.run calls).held.length = w.held.length + opened calls := by
  induction calls generalizing w with
  | nil => rfl
  | cons call calls ih =>
      rw [run_cons, ih, length_held_answer, Nat.add_assoc, ← opened_append, List.singleton_append]

/-! ## Names and numbers -/

theorem retired_answer (h : Registry.Retired id w.registry) (call : HandleCall) :
    Registry.Retired id (w.answer call).2.registry := by
  cases call with
  | create name => exact h.create name
  | named name => exact h.named name
  | unregister name => exact h.unregister name
  | use i call =>
      rcases answer_use_cases w i call with hsame | ⟨other, e, -, hset⟩
      · rw [hsame]
        exact h
      · rw [hset]
        exact h.setEntries other e

theorem retired_run (h : Registry.Retired id w.registry) (calls : List HandleCall) :
    Registry.Retired id (w.run calls).registry :=
  interview_keeps (P := fun w : Holdings => Registry.Retired id w.registry)
    (fun _ h call _ => retired_answer h call) h

/-- No handle of a retired store is obtained. -/
theorem getElem?_held_answer_ne (h : Registry.Retired id w.registry) (call : HandleCall)
    (hi : w.held.length ≤ i) : (w.answer call).2.held[i]? ≠ some id := by
  intro hheld
  have hlast {new : Nat} (hnew : (w.held ++ [new])[i]? = some id) : id = new := by
    rw [List.getElem?_append_right hi] at hnew
    exact List.mem_singleton.mp (List.mem_of_getElem? hnew)
  have hnone (hold : w.held[i]? = some id) : False := by
    rw [List.getElem?_eq_none hi] at hold
    cases hold
  cases call with
  | create name => exact Nat.ne_of_lt h.1 (hlast hheld)
  | named name => exact h.named_ne name (hlast hheld).symm
  | unregister name => exact hnone hheld
  | use j call =>
      rcases answer_use_cases w j call with hsame | ⟨other, e, -, hset⟩
      · rw [hsame] at hheld
        exact hnone hheld
      · rw [hset] at hheld
        exact hnone hheld

theorem getElem?_held_run_ne (h : Registry.Retired id w.registry) (calls : List HandleCall)
    (hi : w.held.length ≤ i) : (w.run calls).held[i]? ≠ some id := by
  induction calls generalizing w with
  | nil =>
      show w.held[i]? ≠ some id
      rw [List.getElem?_eq_none hi]
      exact nofun
  | cons call calls ih =>
      rw [run_cons]
      by_cases hnew : i < (w.answer call).2.held.length
      · rw [(Grows.run _ calls).getElem?_held hnew]
        exact getElem?_held_answer_ne h call hi
      · exact ih (retired_answer h call) (Nat.not_lt.mp hnew)

theorem lookup_answer {n : String} (hlookup : w.registry.names.lookup n = some id)
    {call : HandleCall} (hcall : call ≠ .unregister n) :
    (w.answer call).2.registry.names.lookup n = some id := by
  cases call with
  | create name => exact hlookup
  | named name => exact Registry.lookup_named_of_eq_some hlookup name
  | unregister name =>
      have hne : n ≠ name := fun heq => hcall (heq ▸ rfl)
      show (w.registry.unregister name).names.lookup n = some id
      rw [Registry.lookup_unregister, if_neg hne]
      exact hlookup
  | use i call =>
      rcases answer_use_cases w i call with hsame | ⟨id, e, -, hset⟩
      · rw [hsame]
        exact hlookup
      · rw [hset]
        exact hlookup

theorem lookup_run {n : String} (hlookup : w.registry.names.lookup n = some id)
    (hcalls : .unregister n ∉ calls) : (w.run calls).registry.names.lookup n = some id :=
  interview_keeps (P := fun w : Holdings => w.registry.names.lookup n = some id)
    (fun _ h _ hcall => lookup_answer h (ne_of_mem_of_not_mem hcall hcalls)) hlookup

/-- While a name is registered, the calls that drop it are those that do so successfully. -/
theorem mem_zip_unregister_iff {n : String} (hlookup : w.registry.names.lookup n = some id) :
    (.unregister n, .removed true) ∈ calls.zip (interview answer w calls).1 ↔
      .unregister n ∈ calls := by
  constructor
  · exact fun hmem => (List.of_mem_zip hmem).1
  · intro hmem
    obtain ⟨before, later, rfl, hbefore⟩ := List.eq_append_cons_of_mem hmem
    have hstill : ((interview answer w before).2.answer (.unregister n)).1 = .removed true := by
      have hnow : (interview answer w before).2.registry.names.lookup n = some id :=
        lookup_run hlookup hbefore
      simp only [answer, Registry.isRegistered, hnow]
      rfl
    rw [interview_append, List.zip_append (length_interview answer w before).symm, interview,
      hstill]
    exact List.mem_append_right _ List.mem_cons_self

/-- A name stands for the same store again, unless it is dropped in between. -/
theorem named_eq_iff (hsound : w.Sound) (n m : String) (middle : List HandleCall) :
    (w.registry.named n).1 = (((w.answer (.named n)).2.run middle).registry.named m).1 ↔
      n = m ∧ .unregister n ∉ middle := by
  have hlookup : (w.answer (.named n)).2.registry.names.lookup n = some (w.registry.named n).1 :=
    Registry.lookup_named w.registry n
  have hsound' := hsound.answer (.named n)
  obtain ⟨hid, hname⟩ := hsound'.names n _ hlookup
  have hgrows := Grows.run (w.answer (.named n)).2 middle
  constructor
  · intro heq
    have hm := ((hsound'.run middle).names.named m) m _ (Registry.lookup_named _ m)
    rw [← heq, Registry.nameOf_named (Nat.lt_of_lt_of_le hid hgrows.stores), hgrows.nameOf _ hid,
      hname] at hm
    refine ⟨hm.2, fun hmem => ?_⟩
    obtain ⟨before, later, rfl, hbefore⟩ := List.eq_append_cons_of_mem hmem
    have hretired : Registry.Retired (w.registry.named n).1
        (((w.answer (.named n)).2.run before).answer (.unregister n)).2.registry :=
      .of_unregister (hsound'.run before).names (lookup_run hlookup hbefore)
    rw [run_append, run_cons] at heq
    exact (retired_run hretired later).named_ne m heq.symm
  · rintro ⟨rfl, hkept⟩
    rw [Registry.named_of_lookup_eq_some (lookup_run hlookup hkept)]

end Holdings

end QueryReplay
