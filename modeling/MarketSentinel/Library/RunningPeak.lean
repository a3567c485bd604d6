import Mathlib.Order.Bounds.Basic
import Mathlib.Order.MinMax
import Mathlib.Data.List.Basic

/-! The running peak of a sequence, and the falls from it.

A fall pairs a value with the greatest value so far. A few episodes may stand for
all falls when each fall is no deeper than an episode from the same peak.
-/

set_option autoImplicit false

namespace RunningPeak

variable {α : Type*} [LinearOrder α]

/-- Every value of the sequence next to the greatest one up to it, `peak` included. -/
def falls (peak : α) : List α → List (α × α)
  | [] => []
  | value :: rest => (max peak value, value) :: falls (max peak value) rest

theorem length_falls (peak : α) (values : List α) : (falls peak values).length = values.length := by
  induction values generalizing peak with
  | nil => rfl
  | cons value rest ih => simp [falls, ih]

theorem falls_append (peak : α) (values rest : List α) :
    falls peak (values ++ rest) = falls peak values ++ falls (values.foldl max peak) rest := by
  induction values generalizing peak with
  | nil => rfl
  | cons value values ih =>
    rw [List.cons_append, falls, falls, ih, List.cons_append, List.foldl_cons]

theorem falls_concat (peak : α) (values : List α) (value : α) :
    falls peak (values ++ [value]) =
      falls peak values ++ [(max (values.foldl max peak) value, value)] := by
  rw [falls_append]
  rfl

theorem le_foldl_max (peak : α) (values : List α) : peak ≤ values.foldl max peak := by
  induction values generalizing peak with
  | nil => exact le_refl peak
  | cons value rest ih => exact (le_max_left peak value).trans (ih (max peak value))

/-- A fall starts at or above the first peak, above the value, and at most at the last peak. -/
theorem bounds_of_mem_falls {peak : α} {values : List α} {fall : α × α} (member : fall ∈ falls peak values) :
    peak ≤ fall.1 ∧ fall.2 ≤ fall.1 ∧ fall.1 ≤ values.foldl max peak := by
  induction values generalizing peak with
  | nil => cases member
  | cons value rest ih =>
    rw [falls, List.mem_cons] at member
    rcases member with rfl | later
    · exact ⟨le_max_left peak value, le_max_right peak value, le_foldl_max _ rest⟩
    · obtain ⟨started, fallen, ended⟩ := ih later
      exact ⟨(le_max_left peak value).trans started, fallen, ended⟩

theorem getElem_falls (peak : α) (values : List α) (j : Nat) (bound : j < values.length) :
    (falls peak values)[j]? = some ((values.take (j + 1)).foldl max peak, values[j]) := by
  induction values generalizing peak j with
  | nil => cases bound
  | cons value rest ih =>
    cases j with
    | zero => rfl
    | succ j =>
      rw [falls, List.getElem?_cons_succ, ih (max peak value) j (by simpa using bound)]
      rfl

/-- The greatest value is one of the sequence, and none is above it. -/
theorem mem_foldl_max (peak : α) (values : List α) : values.foldl max peak ∈ peak :: values := by
  induction values generalizing peak with
  | nil => exact List.mem_singleton_self peak
  | cons value rest ih =>
    rw [List.foldl_cons]
    rcases List.mem_cons.mp (ih (max peak value)) with here | later
    · rw [here]
      rcases max_choice peak value with same | same
      · rw [same]
        exact List.mem_cons_self
      · rw [same]
        exact List.mem_cons_of_mem _ List.mem_cons_self
    · exact List.mem_cons_of_mem _ (List.mem_cons_of_mem _ later)

theorem le_foldl_max_of_mem {peak value : α} {values : List α} (member : value ∈ peak :: values) :
    value ≤ values.foldl max peak := by
  induction values generalizing peak with
  | nil => rw [List.mem_singleton.mp member, List.foldl_nil]
  | cons first rest ih =>
    rw [List.foldl_cons]
    rcases List.mem_cons.mp member with rfl | later
    · exact (le_max_left value first).trans (le_foldl_max _ rest)
    rcases List.mem_cons.mp later with rfl | later
    · exact (le_max_right peak value).trans (le_foldl_max _ rest)
    · exact ih (List.mem_cons_of_mem _ later)

/-- Two positions of the sequence, the first not after the second. -/
def Ordered {α : Type*} (values : List α) (before after : α) : Prop :=
  ∃ i j : Nat, i ≤ j ∧ values[i]? = some before ∧ values[j]? = some after

/-- Among the pairs that end at one position, the running peak is the greatest start. -/
theorem ordered_iff {α : Type*} (peak : α) (values : List α) (before after : α) :
    Ordered (peak :: values) before after ↔
      (before = peak ∧ after = peak) ∨
      ∃ (j : Nat) (_ : j < values.length), after = values[j] ∧ before ∈ peak :: values.take (j + 1) := by
  constructor
  · rintro ⟨i, j, order, start, finish⟩
    cases j with
    | zero =>
      obtain rfl : i = 0 := Nat.le_zero.mp order
      exact Or.inl ⟨(Option.some.inj start).symm, (Option.some.inj finish).symm⟩
    | succ j =>
      rw [List.getElem?_cons_succ, List.getElem?_eq_some_iff] at finish
      obtain ⟨bound, rfl⟩ := finish
      refine Or.inr ⟨j, bound, rfl, ?_⟩
      cases i with
      | zero => exact Option.some.inj start ▸ List.mem_cons_self
      | succ i =>
        rw [List.getElem?_cons_succ] at start
        refine List.mem_cons_of_mem _ (List.mem_iff_getElem?.mpr ⟨i, ?_⟩)
        rw [List.getElem?_take_of_lt (by omega)]
        exact start
  · rintro (⟨rfl, rfl⟩ | ⟨j, bound, rfl, member⟩)
    · exact ⟨0, 0, le_refl 0, rfl, rfl⟩
    · obtain ⟨i, start⟩ := List.mem_iff_getElem?.mp member
      have early : i < j + 2 := by
        have inside := (List.getElem?_eq_some_iff.mp start).1
        rw [List.length_cons, List.length_take] at inside
        omega
      refine ⟨i, j + 1, by omega, ?_, by simp [bound]⟩
      cases i with
      | zero => exact start
      | succ i =>
        rw [List.getElem?_cons_succ] at start ⊢
        rwa [List.getElem?_take_of_lt (by omega)] at start

theorem ordered_of_mem_falls {peak : α} {values : List α} {fall : α × α} (member : fall ∈ falls peak values) :
    Ordered (peak :: values) fall.1 fall.2 := by
  obtain ⟨j, found⟩ := List.mem_iff_getElem?.mp member
  have bound : j < values.length := length_falls peak values ▸ (List.getElem?_eq_some_iff.mp found).1
  rw [getElem_falls peak values j bound] at found
  obtain rfl := Option.some.inj found
  exact (ordered_iff peak values _ _).mpr (Or.inr ⟨j, bound, rfl, mem_foldl_max peak _⟩)

/-- Every pair in order is dominated by the fall to its second value. -/
theorem exists_fall {peak before after : α} {values : List α} (ordered : Ordered (peak :: values) before after) :
    (before = peak ∧ after = peak) ∨ ∃ fall ∈ falls peak values, fall.2 = after ∧ before ≤ fall.1 := by
  refine ((ordered_iff peak values before after).mp ordered).imp_right ?_
  rintro ⟨j, bound, rfl, member⟩
  exact ⟨_, List.mem_iff_getElem?.mpr ⟨j, getElem_falls peak values j bound⟩, rfl, le_foldl_max_of_mem member⟩

/-- The episodes are falls, and no fall is deeper than every episode from its peak. -/
structure Summary (episodes all : List (α × α)) : Prop where
  fallen : ∀ episode ∈ episodes, episode ∈ all ∧ episode.2 < episode.1
  deepest : ∀ fall ∈ all, fall.2 < fall.1 → ∃ episode ∈ episodes, episode.1 = fall.1 ∧ episode.2 ≤ fall.2

namespace Summary

variable {episodes closed all : List (α × α)} {peak trough value : α}

/-- Another fall that an episode already stands for, or that is no fall at all. -/
theorem covered (summary : Summary episodes all)
    (cover : value < peak → ∃ episode ∈ episodes, episode.1 = peak ∧ episode.2 ≤ value) :
    Summary episodes (all ++ [(peak, value)]) where
  fallen episode chosen := (summary.fallen episode chosen).imp_left (List.mem_append_left _)
  deepest fall member lower := by
    rcases List.mem_append.mp member with old | new
    · exact summary.deepest fall old lower
    · rw [List.mem_singleton.mp new] at lower ⊢
      exact cover lower

/-- A new episode stands for the fall that begins it. -/
theorem start (summary : Summary episodes all) (lower : value < peak) :
    Summary (episodes ++ [(peak, value)]) (all ++ [(peak, value)]) where
  fallen episode chosen := by
    rcases List.mem_append.mp chosen with old | new
    · exact (summary.fallen episode old).imp_left (List.mem_append_left _)
    · rw [List.mem_singleton.mp new]
      exact ⟨List.mem_append_right _ (List.mem_singleton_self _), lower⟩
  deepest fall member fallen := by
    rcases List.mem_append.mp member with old | new
    · obtain ⟨episode, chosen, found⟩ := summary.deepest fall old fallen
      exact ⟨episode, List.mem_append_left _ chosen, found⟩
    · rw [List.mem_singleton.mp new]
      exact ⟨_, List.mem_append_right _ (List.mem_singleton_self _), rfl, le_refl _⟩

/-- A deeper fall from the peak of the last episode replaces its trough. -/
theorem deepen (summary : Summary (closed ++ [(peak, trough)]) all) (below : trough < peak)
    (deeper : value < trough) : Summary (closed ++ [(peak, value)]) (all ++ [(peak, value)]) where
  fallen episode chosen := by
    rcases List.mem_append.mp chosen with old | new
    · exact (summary.fallen episode (List.mem_append_left _ old)).imp_left (List.mem_append_left _)
    · rw [List.mem_singleton.mp new]
      exact ⟨List.mem_append_right _ (List.mem_singleton_self _), deeper.trans below⟩
  deepest fall member fallen := by
    have last : (peak, value) ∈ closed ++ [(peak, value)] :=
      List.mem_append_right _ (List.mem_singleton_self _)
    rcases List.mem_append.mp member with old | new
    · obtain ⟨episode, chosen, same, bound⟩ := summary.deepest fall old fallen
      rcases List.mem_append.mp chosen with earlier | here
      · exact ⟨episode, List.mem_append_left _ earlier, same, bound⟩
      · rw [List.mem_singleton.mp here] at same bound
        exact ⟨_, last, same, deeper.le.trans bound⟩
    · rw [List.mem_singleton.mp new]
      exact ⟨_, last, rfl, le_refl _⟩

end Summary

/-- A measure of loss: larger for a lower value, and nothing at the peak itself. -/
structure Measure (β : Type*) [LinearOrder β] [Zero β] (loss : α → α → β) (peak : α) : Prop where
  level : ∀ high, peak ≤ high → loss high high = 0
  deeper : ∀ high low lower, peak ≤ high → low ≤ high → lower ≤ low → loss high low ≤ loss high lower

variable {β : Type*} [LinearOrder β] [Zero β] {loss : α → α → β} {peak : α}

theorem Measure.nonneg (measure : Measure β loss peak) {high low : α} (above : peak ≤ high) (below : low ≤ high) :
    0 ≤ loss high low := by
  rw [← measure.level high above]
  exact measure.deeper high high low above (le_refl high) below

/-- The greatest loss of the episodes is the greatest loss of all falls. -/
theorem Summary.isGreatest (measure : Measure β loss peak) {episodes : List (α × α)} {values : List α}
    (summary : Summary episodes (falls peak values)) (observed : values ≠ []) :
    IsGreatest { amount | ∃ fall ∈ falls peak values, amount = loss fall.1 fall.2 }
      ((episodes.map fun episode => loss episode.1 episode.2).foldl max 0) := by
  have upper : ∀ fall ∈ falls peak values, loss fall.1 fall.2 ≤
      (episodes.map fun episode => loss episode.1 episode.2).foldl max 0 := by
    intro fall member
    obtain ⟨above, below, _⟩ := bounds_of_mem_falls member
    rcases below.eq_or_lt with same | lower
    · rw [same, measure.level _ above]
      exact le_foldl_max _ _
    · obtain ⟨episode, chosen, start, deeper⟩ := summary.deepest fall member lower
      refine le_trans ?_ (le_foldl_max_of_mem (List.mem_cons_of_mem _ (List.mem_map_of_mem chosen)))
      rw [start]
      exact measure.deeper _ _ _ above below deeper
  refine ⟨?_, ?_⟩
  · rcases List.mem_cons.mp (mem_foldl_max 0 (episodes.map fun episode => loss episode.1 episode.2)) with
      none | some
    · -- No loss at all: the first fall already shows it.
      cases values with
      | nil => exact absurd rfl observed
      | cons value rest =>
        have first : (max peak value, value) ∈ falls peak (value :: rest) := List.mem_cons_self
        refine ⟨_, first, le_antisymm ?_ (upper _ first)⟩
        rw [none]
        exact measure.nonneg (le_max_left peak value) (le_max_right peak value)
    · obtain ⟨episode, chosen, same⟩ := List.mem_map.mp some
      exact ⟨episode, (summary.fallen episode chosen).1, same.symm⟩
  · rintro _ ⟨fall, member, rfl⟩
    exact upper fall member

end RunningPeak
