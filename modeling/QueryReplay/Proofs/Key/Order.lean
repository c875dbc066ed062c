import Mathlib.Data.Finset.Sort
import QueryReplay.Key

/-!
# The order of keys

Keys are ordered by their bytes, the first byte that differs deciding.  To sort
keys without repetition is to list the set of them in this order.
-/

namespace QueryReplay.Key

instance : LinearOrder Key where
  le a b := a.bytes.toList ≤ b.bytes.toList
  le_refl a := List.le_refl a.bytes.toList
  le_trans a b c := List.le_trans
  le_antisymm a b hab hba := by
    cases a
    cases b
    exact congrArg Key.mk (Vector.toList_inj.mp (List.le_antisymm hab hba))
  le_total a b := List.le_total a.bytes.toList b.bytes.toList
  lt a b := a.bytes.toList < b.bytes.toList
  lt_iff_le_not_ge a b := by
    constructor
    · intro hlt
      exact ⟨List.le_of_lt hlt, List.not_le.mpr hlt⟩
    · intro hle
      exact List.not_le.mp hle.2
  toDecidableLE a b := inferInstanceAs (Decidable (a.bytes.toList ≤ b.bytes.toList))

theorem before_iff {a b : Key} : a.before b = true ↔ a < b :=
  decide_eq_true_iff

theorem not_before_iff {a b : Key} : (!b.before a) = true ↔ a ≤ b := by
  rw [Bool.not_eq_true', ← Bool.not_eq_true, before_iff, not_lt]

theorem sorted_perm (keys : List Key) : (sorted keys).Perm keys :=
  List.mergeSort_perm keys _

theorem pairwise_sorted (keys : List Key) : (sorted keys).Pairwise (· ≤ ·) := by
  have htrans : ∀ a b c : Key, (!b.before a) = true → (!c.before b) = true →
      (!c.before a) = true := by
    intro a b c hab hbc
    exact not_before_iff.mpr ((not_before_iff.mp hab).trans (not_before_iff.mp hbc))
  have htotal : ∀ a b : Key, (!b.before a || !a.before b) = true := by
    intro a b
    rw [Bool.or_eq_true, not_before_iff, not_before_iff]
    exact le_total a b
  exact (List.pairwise_mergeSort htrans htotal keys).imp fun hle => not_before_iff.mp hle

/-- Keys of which none comes twice are sorted into the list of their set. -/
theorem sorted_eq_sort {keys : List Key} (hnodup : keys.Nodup) :
    sorted keys = keys.toFinset.sort := by
  have hperm := sorted_perm keys
  rw [← List.toFinset_eq_of_perm _ _ hperm]
  exact ((List.toFinset_sort (· ≤ ·) (hperm.nodup_iff.mpr hnodup)).mpr (pairwise_sorted keys)).symm

end QueryReplay.Key
