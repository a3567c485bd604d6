import Mathlib.Data.List.Dedup

/-! Keys in the order of their last use.

The duplicates of a list of uses are removed from the front, so that each key stands
where it was used last.
-/

set_option autoImplicit false

namespace Recency

variable {κ : Type*} [DecidableEq κ]

/-- A use moves a key to the end. -/
theorem dedup_concat (uses : List κ) (key : κ) :
    (uses ++ [key]).dedup = (uses.dedup.filter fun other => decide (other ≠ key)) ++ [key] := by
  induction uses with
  | nil => simp
  | cons first uses ih =>
    by_cases again : first ∈ uses
    · rw [List.cons_append, List.dedup_cons_of_mem (List.mem_append_left _ again), List.dedup_cons_of_mem again, ih]
    · by_cases same : first = key
      · subst same
        rw [List.cons_append, List.dedup_cons_of_mem (by simp), List.dedup_cons_of_notMem again, ih]
        simp
      · rw [List.cons_append, List.dedup_cons_of_notMem (by simp [again, same]), List.dedup_cons_of_notMem again, ih]
        simp [same]

/-- Of two keys the earlier one was not used since the last use of the later one. -/
theorem unused_since {uses : List κ} {key later : κ} (order : [key, later].Sublist uses.dedup) :
    ∃ before since, uses = before ++ since ∧ key ∉ since ∧ later ∈ since := by
  induction uses with
  | nil => cases order
  | cons first uses ih =>
    have extend : [key, later].Sublist uses.dedup →
        ∃ before since, first :: uses = before ++ since ∧ key ∉ since ∧ later ∈ since := by
      intro within
      obtain ⟨before, since, rfl, unused, used⟩ := ih within
      exact ⟨first :: before, since, rfl, unused, used⟩
    by_cases again : first ∈ uses
    · rw [List.dedup_cons_of_mem again] at order
      exact extend order
    · rw [List.dedup_cons_of_notMem again] at order
      cases order with
      | cons _ within => exact extend within
      | cons_cons _ rest =>
        refine ⟨[key], uses, rfl, again, ?_⟩
        exact List.mem_dedup.mp (List.singleton_sublist.mp rest)

end Recency
