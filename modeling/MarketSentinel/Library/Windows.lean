import Mathlib.Data.List.Perm.Basic
import Mathlib.Data.List.Perm.Subperm
import Mathlib.Order.Basic

/-! Walking down a line of slots in windows.

Each window ends just below the one before it, so that the windows so far cover
everything from the last slot down to the least one, and no slot twice.
-/

set_option autoImplicit false

namespace Windows

/-- Windows that divide the slots from the least one to the last one among them. -/
structure Divide (windows : List (Nat × Nat)) (least last : Nat) : Prop where
  apart : windows.Pairwise fun above below => below.2 < above.1
  within : ∀ window ∈ windows, least ≤ window.1 ∧ window.1 ≤ window.2
  cover : ∀ slot, (∃ window ∈ windows, window.1 ≤ slot ∧ slot ≤ window.2) ↔ least ≤ slot ∧ slot ≤ last

theorem Divide.nil (last : Nat) : Divide [] (last + 1) last where
  apart := List.Pairwise.nil
  within := by simp
  cover slot := by
    simp only [List.not_mem_nil, false_and, exists_false, false_iff]
    omega

/-- The next window ends just below the others. -/
theorem Divide.extend {windows : List (Nat × Nat)} {least stop last : Nat} (divided : Divide windows (stop + 1) last)
    (order : least ≤ stop) (inside : stop ≤ last) : Divide (windows ++ [(least, stop)]) least last where
  apart := by
    apply List.pairwise_append.mpr
    refine ⟨divided.apart, List.pairwise_singleton _ _, ?_⟩
    intro above member below single
    rw [List.mem_singleton.mp single]
    have := (divided.within above member).1
    omega
  within := by
    intro window member
    rcases List.mem_append.mp member with old | single
    · have := divided.within window old
      omega
    · obtain rfl := List.mem_singleton.mp single
      exact ⟨Nat.le_refl _, order⟩
  cover slot := by
    simp only [List.mem_append, List.mem_singleton, or_and_right, exists_or, exists_eq_left, divided.cover]
    omega

section Selecting

variable {α : Type*} (slot : α → Nat)

/-- The elements of a window, both ends included. -/
def between (least last : Nat) (l : List α) : List α := l.filter fun a => decide (least ≤ slot a ∧ slot a ≤ last)

theorem mem_between {least last : Nat} {l : List α} {a : α} :
    a ∈ between slot least last l ↔ a ∈ l ∧ least ≤ slot a ∧ slot a ≤ last := by
  simp [between]

theorem between_empty (last : Nat) (l : List α) : between slot (last + 1) last l = [] := by
  apply List.filter_eq_nil_iff.mpr
  intro a _
  simp only [decide_eq_true_eq]
  omega

theorem between_between {least low high last : Nat} (below : least ≤ low) (above : high ≤ last) (l : List α) :
    between slot low high (between slot least last l) = between slot low high l := by
  unfold between
  rw [List.filter_filter]
  apply List.filter_congr
  intro a _
  rw [← Bool.decide_and, decide_eq_decide]
  omega

/-- A window and what lies above it. -/
theorem between_append_perm {least stop last : Nat} (order : least ≤ stop) (inside : stop ≤ last) (l : List α) :
    (between slot (stop + 1) last l ++ between slot least stop l).Perm (between slot least last l) := by
  have parts := List.filter_append_perm (fun a => decide (stop + 1 ≤ slot a)) (between slot least last l)
  have above : (between slot least last l).filter (fun a => decide (stop + 1 ≤ slot a)) = between slot (stop + 1) last l := by
    unfold between
    rw [List.filter_filter]
    apply List.filter_congr
    intro a _
    rw [← Bool.decide_and, decide_eq_decide]
    omega
  have below : (between slot least last l).filter (fun a => !decide (stop + 1 ≤ slot a)) = between slot least stop l := by
    unfold between
    rw [List.filter_filter]
    apply List.filter_congr
    intro a _
    rw [← decide_not, ← Bool.decide_and, decide_eq_decide]
    omega
  rwa [above, below] at parts

end Selecting

end Windows
