import Mathlib.Data.List.Induction

/-!
# Histories

What is the case after a sequence of calls can often be read off the sequence:
something happened in it, and nothing behind that has put an end to it.
-/

namespace QueryReplay

/-- Something happened and was not ended since. -/
def HoldsSince {ι : Type} (happens ends : ι → Prop) (calls : List ι) : Prop :=
  ∃ before call later, calls = before ++ call :: later ∧ happens call ∧ ∀ c ∈ later, ¬ends c

variable {ι : Type} {happens ends happens' ends' : ι → Prop} {calls : List ι}

theorem not_holdsSince_nil : ¬HoldsSince happens ends [] := by
  rintro ⟨before, call, later, hsplit, -⟩
  cases before with
  | nil => cases hsplit
  | cons _ _ => cases hsplit

theorem holdsSince_concat_iff {call : ι} :
    HoldsSince happens ends (calls ++ [call]) ↔
      happens call ∨ ¬ends call ∧ HoldsSince happens ends calls := by
  constructor
  · rintro ⟨before, c, later, hsplit, hhappens, hlater⟩
    rcases List.eq_nil_or_concat later with rfl | ⟨front, last, rfl⟩
    · obtain ⟨-, hlast⟩ := List.append_inj' hsplit rfl
      cases hlast
      exact Or.inl hhappens
    · rw [List.concat_eq_append, ← List.cons_append, ← List.append_assoc] at hsplit
      obtain ⟨rfl, hlast⟩ := List.append_inj' hsplit rfl
      cases hlast
      rw [List.concat_eq_append] at hlater
      exact Or.inr ⟨hlater call (List.mem_append_right _ List.mem_cons_self), before, c, front, rfl,
        hhappens, fun d hd => hlater d (List.mem_append_left _ hd)⟩
  · rintro (hhappens | ⟨hends, before, c, later, rfl, hhappens, hlater⟩)
    · exact ⟨calls, call, [], rfl, hhappens, nofun⟩
    · refine ⟨before, c, later ++ [call], List.append_assoc _ _ _, hhappens, fun d hd => ?_⟩
      rcases List.mem_append.mp hd with hold | hlast
      · exact hlater d hold
      · rw [List.mem_singleton.mp hlast]
        exact hends

theorem holdsSince_congr (hhappens : ∀ call ∈ calls, happens call ↔ happens' call)
    (hends : ∀ call ∈ calls, ends call ↔ ends' call) :
    HoldsSince happens ends calls ↔ HoldsSince happens' ends' calls := by
  induction calls using List.reverseRecOn with
  | nil => exact iff_of_false not_holdsSince_nil not_holdsSince_nil
  | append_singleton calls call ih =>
      have hlast : call ∈ calls ++ [call] := List.mem_append_right _ List.mem_cons_self
      rw [holdsSince_concat_iff, holdsSince_concat_iff, hhappens call hlast, hends call hlast,
        ih (fun c hc => hhappens c (List.mem_append_left _ hc))
          fun c hc => hends c (List.mem_append_left _ hc)]

end QueryReplay
