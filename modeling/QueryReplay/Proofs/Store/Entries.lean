import QueryReplay.Store.Memory
import QueryReplay.Store.Unreliable

/-!
# Finite maps as lists of pairs

Entries, files and names are all kept as lists of pairs, in which a new pair is
put in front of the others without the old pair of the same key.  What is found
afterwards is said here once for all of them, and then for stores in memory.
-/

namespace QueryReplay

/-! ## Pairs -/

section Pairs

variable {α β : Type} [BEq α] [LawfulBEq α] [DecidableEq α]

theorem lookup_filter_ne (l : List (α × β)) (a b : α) :
    (l.filter (·.1 != a)).lookup b = if b = a then none else l.lookup b := by
  induction l with
  | nil => simp
  | cons entry l ih =>
      obtain ⟨c, x⟩ := entry
      by_cases hc : c = a
      · rw [List.filter_cons_of_neg (by simpa using hc), ih, List.lookup_cons]
        by_cases hb : b = a
        · rw [if_pos hb, if_pos hb]
        · have hne : b ≠ c := fun h => hb (h.trans hc)
          rw [if_neg hb, if_neg hb, beq_false_of_ne hne]
      · rw [List.filter_cons_of_pos (by simpa using hc), List.lookup_cons, ih, List.lookup_cons]
        by_cases hb : b = c
        · have hne : b ≠ a := fun h => hc (hb.symm.trans h)
          rw [if_neg hne, if_neg hne]
        · rw [beq_false_of_ne hb]

/-- Behind a new pair the old pair of its key cannot be seen. -/
theorem lookup_replace (l : List (α × β)) (a b : α) (x : β) :
    ((a, x) :: l.filter (·.1 != a)).lookup b = if b = a then some x else l.lookup b := by
  rw [List.lookup_cons, lookup_filter_ne]
  by_cases hb : b = a
  · simp [hb]
  · rw [beq_false_of_ne hb, if_neg hb, if_neg hb]

end Pairs

/-! ## Stores in memory -/

namespace Entries

theorem get?_put (e : Entries) (k l : Key) (b : List UInt8) :
    (e.put k b).get? l = if l = k then some b else e.get? l :=
  lookup_replace e k l b

theorem get?_erase (e : Entries) (k l : Key) :
    (e.erase k).get? l = if l = k then none else e.get? l :=
  lookup_filter_ne e k l

end Entries

namespace Registry

@[simp] theorem length_setEntries (r : Registry) (id : Nat) (e : Entries) :
    (r.setEntries id e).stores.length = r.stores.length :=
  List.length_modify _ _ _

theorem entries_setEntries {r : Registry} {id : Nat} (h : id < r.stores.length) (e : Entries) :
    (r.setEntries id e).entries id = e := by
  simp [entries, setEntries, List.getElem?_modify_eq, List.getElem?_eq_getElem h]

theorem entries_setEntries_of_ne {r : Registry} {id other : Nat} (hother : other ≠ id)
    (e : Entries) : (r.setEntries id e).entries other = r.entries other := by
  simp only [entries, setEntries, List.getElem?_modify_ne _ _ hother.symm]

/-- A store that is not there stays without entries. -/
theorem setEntries_of_le {r : Registry} {id : Nat} (h : r.stores.length ≤ id) (e : Entries) :
    r.setEntries id e = r := by
  simp only [setEntries, List.modify_eq_self h]

theorem get?_put {r : Registry} {id : Nat} (h : id < r.stores.length) (k l : Key)
    (b : List UInt8) :
    (r.put id k b).get? id l = if l = k then some b else r.get? id l := by
  rw [get?, put, entries_setEntries h, Entries.get?_put]
  rfl

theorem get?_remove {r : Registry} {id : Nat} (h : id < r.stores.length) (k l : Key) :
    (r.remove id k).2.get? id l = if l = k then none else r.get? id l := by
  rw [get?, remove, entries_setEntries h, Entries.get?_erase]
  rfl

end Registry

theorem UnreliableStore.entries_of_put {s u : UnreliableStore} {k : Key} {b : List UInt8}
    (hput : s.put k b = .ok u) : u.entries = s.entries.put k b := by
  unfold put at hput
  split at hput
  · cases hput
  · cases hput
    rfl

end QueryReplay
