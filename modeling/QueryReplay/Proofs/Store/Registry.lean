import QueryReplay.Proofs.Store.FiniteMap

/-!
# Names of stores in memory

A store in memory is known by its number, which is never given to a second
store.  A registered name stands for a store that was made under this name, so
two names never stand for one store.  A store whose name was dropped, or that
never had a registered one, is retired: no name will ever stand for it again.
-/

namespace QueryReplay.Registry

variable {r : Registry} {id other : Nat} {name : String}

/-! ## Calls of a store -/

theorem nameOf_setEntries (r : Registry) (id : Nat) (e : Entries) (other : Nat) :
    (r.setEntries id e).nameOf other = r.nameOf other := by
  by_cases hother : other = id
  · subst hother
    simp only [nameOf, setEntries, List.getElem?_modify_eq, Option.map_eq_map, Option.map_map]
    rfl
  · simp only [nameOf, setEntries, List.getElem?_modify_ne _ _ (Ne.symm hother)]

/-- A call of a store sets the entries of this store, if it changes anything. -/
theorem memoryAnswer_cases (id : Nat) (r : Registry) (call : MemoryCall) :
    (r.memoryAnswer id call).2 = r ∨ ∃ e, (r.memoryAnswer id call).2 = r.setEntries id e := by
  cases call with
  | entry call =>
      cases call with
      | put k b => exact Or.inr ⟨_, rfl⟩
      | get k => exact Or.inl rfl
      | remove k => exact Or.inr ⟨_, rfl⟩
  | clear => exact Or.inr ⟨_, rfl⟩
  | size => exact Or.inl rfl

/-- What a store answers depends on its own entries only. -/
theorem memoryAnswer_congr {r' : Registry} (hentries : r'.entries id = r.entries id)
    (call : MemoryCall) : (r'.memoryAnswer id call).1 = (r.memoryAnswer id call).1 := by
  cases call with
  | entry call =>
      cases call with
      | put k b => rfl
      | get k => simp only [memoryAnswer, entryAnswer, get?, hentries]
      | remove k => simp only [memoryAnswer, entryAnswer, remove, hentries]
  | clear => rfl
  | size => simp only [memoryAnswer, size, hentries]

/-! ## New stores -/

theorem entries_create (r : Registry) (name : String) (id : Nat) :
    (r.create name).2.entries id = r.entries id := by
  unfold entries create
  by_cases hid : id < r.stores.length
  · rw [List.getElem?_append_left hid]
  · rw [List.getElem?_eq_none (Nat.not_lt.mp hid)]
    by_cases hnew : id = r.stores.length
    · subst hnew
      rw [List.getElem?_concat_length]
      rfl
    · rw [List.getElem?_eq_none (by rw [List.length_append, List.length_singleton]; omega)]

theorem nameOf_create (hid : id < r.stores.length) (name : String) :
    (r.create name).2.nameOf id = r.nameOf id := by
  unfold nameOf create
  rw [List.getElem?_append_left hid]

theorem nameOf_create_self (r : Registry) (name : String) :
    (r.create name).2.nameOf r.stores.length = name := by
  unfold nameOf create
  rw [List.getElem?_concat_length]
  rfl

theorem length_create (r : Registry) (name : String) :
    (r.create name).2.stores.length = r.stores.length + 1 :=
  List.length_append

/-! ## Names -/

/-- A name that is registered stands for a store that was made under this name. -/
def NamesAreTrue (r : Registry) : Prop :=
  ∀ name id, r.names.lookup name = some id → id < r.stores.length ∧ r.nameOf id = name

/-- The store with that number is there, and no name stands for it. -/
def Retired (id : Nat) (r : Registry) : Prop :=
  id < r.stores.length ∧ ∀ name, r.names.lookup name ≠ some id

theorem named_of_lookup_eq_some (hlookup : r.names.lookup name = some id) :
    r.named name = (id, r) := by
  simp only [named, hlookup]

theorem named_of_lookup_eq_none (hlookup : r.names.lookup name = none) :
    r.named name = (r.stores.length,
      { (r.create name).2 with names := (name, r.stores.length) :: r.names }) := by
  simp only [named, hlookup]
  rfl

/-- Behind a name that was asked for stands the store that was handed out. -/
theorem lookup_named (r : Registry) (name : String) :
    (r.named name).2.names.lookup name = some (r.named name).1 := by
  cases hlookup : r.names.lookup name with
  | some id =>
      rw [named_of_lookup_eq_some hlookup]
      exact hlookup
  | none =>
      rw [named_of_lookup_eq_none hlookup]
      exact List.lookup_cons_self

theorem lookup_named_of_ne {n : String} (hne : n ≠ name) :
    (r.named name).2.names.lookup n = r.names.lookup n := by
  cases hlookup : r.names.lookup name with
  | some id => rw [named_of_lookup_eq_some hlookup]
  | none =>
      rw [named_of_lookup_eq_none hlookup]
      show List.lookup n ((name, r.stores.length) :: r.names) = r.names.lookup n
      rw [List.lookup_cons, beq_false_of_ne hne]

theorem lookup_named_of_eq_some {n : String} (hlookup : r.names.lookup n = some id)
    (name : String) : (r.named name).2.names.lookup n = some id := by
  by_cases hne : n = name
  · subst hne
    rw [lookup_named, named_of_lookup_eq_some hlookup]
  · rw [lookup_named_of_ne hne, hlookup]

theorem lookup_unregister (r : Registry) (name n : String) :
    (r.unregister name).names.lookup n = if n = name then none else r.names.lookup n :=
  lookup_filter_ne r.names name n

/-- Whatever is asked for, the stores that are there keep their entries and names. -/
theorem entries_named (r : Registry) (name : String) (id : Nat) :
    (r.named name).2.entries id = r.entries id := by
  cases hlookup : r.names.lookup name with
  | some other => rw [named_of_lookup_eq_some hlookup]
  | none =>
      rw [named_of_lookup_eq_none hlookup]
      exact entries_create r name id

theorem nameOf_named (hid : id < r.stores.length) (name : String) :
    (r.named name).2.nameOf id = r.nameOf id := by
  cases hlookup : r.names.lookup name with
  | some other => rw [named_of_lookup_eq_some hlookup]
  | none =>
      rw [named_of_lookup_eq_none hlookup]
      exact nameOf_create hid name

theorem length_le_named (r : Registry) (name : String) :
    r.stores.length ≤ (r.named name).2.stores.length := by
  cases hlookup : r.names.lookup name with
  | some other => rw [named_of_lookup_eq_some hlookup]
  | none =>
      rw [named_of_lookup_eq_none hlookup]
      exact Nat.le_of_lt (Nat.lt_of_lt_of_eq (Nat.lt_succ_self _) (length_create r name).symm)

namespace NamesAreTrue

theorem create (h : r.NamesAreTrue) (name : String) : (r.create name).2.NamesAreTrue := by
  intro n id hlookup
  obtain ⟨hid, hname⟩ := h n id hlookup
  rw [length_create, nameOf_create hid]
  exact ⟨Nat.lt_succ_of_lt hid, hname⟩

theorem named (h : r.NamesAreTrue) (name : String) : (r.named name).2.NamesAreTrue := by
  cases hname : r.names.lookup name with
  | some id =>
      rw [named_of_lookup_eq_some hname]
      exact h
  | none =>
      rw [named_of_lookup_eq_none hname]
      intro n id hlookup
      change List.lookup n ((name, r.stores.length) :: r.names) = some id at hlookup
      rw [List.lookup_cons] at hlookup
      by_cases hn : n = name
      · subst hn
        rw [beq_self_eq_true] at hlookup
        cases hlookup
        exact ⟨Nat.lt_of_lt_of_eq (Nat.lt_succ_self _) (length_create r n).symm,
          nameOf_create_self r n⟩
      · rw [beq_false_of_ne hn] at hlookup
        exact h.create name n id hlookup

theorem unregister (h : r.NamesAreTrue) (name : String) : (r.unregister name).NamesAreTrue := by
  intro n id hlookup
  rw [lookup_unregister] at hlookup
  split at hlookup
  · cases hlookup
  · exact h n id hlookup

theorem setEntries (h : r.NamesAreTrue) (id : Nat) (e : Entries) :
    (r.setEntries id e).NamesAreTrue := by
  intro n other hlookup
  rw [length_setEntries, nameOf_setEntries]
  exact h n other hlookup

end NamesAreTrue

namespace Retired

theorem of_create (h : r.NamesAreTrue) (name : String) :
    Retired r.stores.length (r.create name).2 := by
  refine ⟨Nat.lt_of_lt_of_eq (Nat.lt_succ_self _) (length_create r name).symm, fun n hlookup => ?_⟩
  exact Nat.lt_irrefl _ (h n _ hlookup).1

/-- To drop the name of a store is to retire it. -/
theorem of_unregister (h : r.NamesAreTrue) (hlookup : r.names.lookup name = some id) :
    Retired id (r.unregister name) := by
  obtain ⟨hid, hname⟩ := h name id hlookup
  refine ⟨hid, fun n hn => ?_⟩
  rw [lookup_unregister] at hn
  split at hn
  · cases hn
  · next hne => exact hne ((h n id hn).2.symm.trans hname)

theorem create (h : Retired id r) (name : String) : Retired id (r.create name).2 :=
  ⟨length_create r name ▸ Nat.lt_succ_of_lt h.1, h.2⟩

theorem named (h : Retired id r) (name : String) : Retired id (r.named name).2 := by
  cases hname : r.names.lookup name with
  | some other =>
      rw [named_of_lookup_eq_some hname]
      exact h
  | none =>
      rw [named_of_lookup_eq_none hname]
      refine ⟨(h.create name).1, fun n hlookup => ?_⟩
      change List.lookup n ((name, r.stores.length) :: r.names) = some id at hlookup
      rw [List.lookup_cons] at hlookup
      split at hlookup
      · exact Nat.ne_of_gt h.1 (Option.some.inj hlookup)
      · exact h.2 n hlookup

theorem unregister (h : Retired id r) (name : String) : Retired id (r.unregister name) := by
  refine ⟨h.1, fun n hlookup => ?_⟩
  rw [lookup_unregister] at hlookup
  split at hlookup
  · cases hlookup
  · exact h.2 n hlookup

theorem setEntries (h : Retired id r) (other : Nat) (e : Entries) :
    Retired id (r.setEntries other e) := by
  unfold Retired
  rw [length_setEntries]
  exact h

/-- A retired store is never handed out under a name. -/
theorem named_ne (h : Retired id r) (name : String) : (r.named name).1 ≠ id := by
  intro heq
  exact (h.named name).2 name (heq ▸ lookup_named r name)

end Retired

end QueryReplay.Registry
