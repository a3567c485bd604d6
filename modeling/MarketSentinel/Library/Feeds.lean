import Mathlib.Algebra.BigOperators.Group.List.Basic
import Mathlib.Data.List.Induction
import Mathlib.Data.List.Perm.Basic
import Mathlib.Logic.Function.Basic

/-! Feeds that may report the same thing, merged by the key of what they report.

Within one feed a key that occurs twice stands for two things; across feeds it may be one
thing seen twice. The merge keeps each key as often as the feed that has it most often.
-/

set_option autoImplicit false

namespace Feeds

variable {α κ : Type*} [DecidableEq κ] (key : α → κ)

/-- One row: kept when its key has occurred more often in this feed than in an earlier one. -/
def observe (seen : κ → Nat) (state : List α × (κ → Nat)) (row : α) : List α × (κ → Nat) :=
  let occurrences := Function.update state.2 (key row) (state.2 (key row) + 1)
  (if seen (key row) < occurrences (key row) then state.1 ++ [row] else state.1, occurrences)

def feed (state : List α × (κ → Nat)) (rows : List α) : List α × (κ → Nat) :=
  let observed := rows.foldl (observe key state.2) (state.1, fun _ => 0)
  (observed.1, fun k => max (state.2 k) (observed.2 k))

def merge (feeds : List (List α)) : List α × (κ → Nat) := feeds.foldl (feed key) ([], fun _ => 0)

variable {key}

/-- How often a key occurs. -/
def occurs (key : α → κ) (k : κ) (rows : List α) : Nat := (rows.map key).count k

@[simp] theorem occurs_nil (k : κ) : occurs key k [] = 0 := rfl

theorem occurs_concat (k : κ) (rows : List α) (row : α) :
    occurs key k (rows ++ [row]) = occurs key k rows + if key row = k then 1 else 0 := by
  simp [occurs, List.count_singleton, beq_iff_eq]

/-- Reading a feed counts its keys, and keeps what exceeds the counts seen before. -/
theorem observe_run (seen : κ → Nat) (kept rows : List α) (k : κ) :
    let observed := rows.foldl (observe key seen) (kept, fun _ => 0)
    observed.2 k = occurs key k rows ∧
      occurs key k observed.1 = occurs key k kept + (occurs key k rows - seen k) := by
  induction rows using List.reverseRecOn with
  | nil => simp
  | append_singleton rows row ih =>
    obtain ⟨counted, kept_⟩ := ih
    rw [List.foldl_concat]
    simp only [observe, Function.update_self]
    by_cases here : key row = k
    · subst here
      rw [Function.update_self, counted, occurs_concat, if_pos rfl]
      refine ⟨rfl, ?_⟩
      split
      · rw [occurs_concat, kept_, if_pos rfl]
        omega
      · rw [kept_]
        omega
    · rw [Function.update_of_ne (Ne.symm here), counted, occurs_concat, if_neg here]
      refine ⟨rfl, ?_⟩
      split
      · rw [occurs_concat, kept_, if_neg here]
        omega
      · rw [kept_]
        omega

/-- The merge of some feeds: the counts are those of the rows kept. -/
structure Merged (key : α → κ) (feeds : List (List α)) (state : List α × (κ → Nat)) : Prop where
  kept : ∀ k, occurs key k state.1 = state.2 k
  greatest : ∀ k, state.2 k = (feeds.map (occurs key k)).foldl max 0
  rows : ∀ row ∈ state.1, ∃ rows ∈ feeds, row ∈ rows

theorem kept_subset {seen : κ → Nat} {kept rows : List α} {counts : κ → Nat} {row : α}
    (member : row ∈ (rows.foldl (observe key seen) (kept, counts)).1) : row ∈ kept ∨ row ∈ rows := by
  induction rows generalizing kept counts with
  | nil => exact Or.inl member
  | cons first rest ih =>
    rw [List.foldl_cons] at member
    rcases ih member with before | later
    · dsimp only at before
      split at before
      · rcases List.mem_append.mp before with old | new
        · exact Or.inl old
        · rw [List.mem_singleton.mp new]
          exact Or.inr List.mem_cons_self
      · exact Or.inl before
    · exact Or.inr (List.mem_cons_of_mem _ later)

theorem feed_merged {feeds : List (List α)} {state : List α × (κ → Nat)} (merged : Merged key feeds state) (rows : List α) :
    Merged key (feeds ++ [rows]) (feed key state rows) := by
  have read := @observe_run _ _ _ key state.2 state.1 rows
  refine ⟨fun k => ?_, fun k => ?_, fun row member => ?_⟩
  · obtain ⟨counted, kept⟩ := read k
    rw [feed]
    dsimp only
    rw [kept, counted, merged.kept]
    omega
  · show max (state.2 k) _ = _
    rw [(read k).1, merged.greatest, List.map_append, List.foldl_append]
    rfl
  · rcases kept_subset member with before | here
    · obtain ⟨other, among, inside⟩ := merged.rows row before
      exact ⟨other, List.mem_append_left _ among, inside⟩
    · exact ⟨rows, List.mem_append_right _ (List.mem_singleton_self _), here⟩

theorem merge_merged (feeds : List (List α)) : Merged key feeds (merge key feeds) := by
  induction feeds using List.reverseRecOn with
  | nil => exact ⟨fun _ => rfl, fun _ => rfl, fun _ member => absurd member List.not_mem_nil⟩
  | append_singleton feeds rows ih =>
    rw [merge, List.foldl_concat]
    exact feed_merged ih rows

/-- Each key is kept as often as in the feed that has it most often. -/
theorem occurs_merge (feeds : List (List α)) (k : κ) :
    occurs key k (merge key feeds).1 = (feeds.map (occurs key k)).foldl max 0 := by
  rw [(merge_merged feeds).kept, (merge_merged feeds).greatest]

/-- Feeds in another order keep the same keys. -/
theorem merge_perm {feeds others : List (List α)} (perm : List.Forall₂ List.Perm feeds others) :
    ((merge key feeds).1.map key).Perm ((merge key others).1.map key) := by
  apply List.perm_iff_count.mpr
  intro k
  have same : feeds.map (occurs key k) = others.map (occurs key k) := by
    induction perm with
    | nil => rfl
    | cons first rest ih =>
      rw [List.map_cons, List.map_cons, ih, occurs, (first.map key).count_eq k]
      rfl
  have left := @occurs_merge _ _ _ key feeds k
  have right := @occurs_merge _ _ _ key others k
  rw [same] at left
  exact left.trans right.symm

theorem mem_flatten_of_merge {feeds : List (List α)} {row : α} (member : row ∈ (merge key feeds).1) :
    row ∈ feeds.flatten :=
  List.mem_flatten.mpr ((merge_merged feeds).rows row member)

/-- What is a function of the key adds up to the same over feeds in another order. -/
theorem sum_merge_perm {M : Type*} [AddCommMonoid M] {value : α → M} {feeds others : List (List α)}
    (perm : List.Forall₂ List.Perm feeds others)
    (determined : ∀ first ∈ feeds.flatten, ∀ second ∈ feeds.flatten, key first = key second → value first = value second) :
    ((merge key feeds).1.map value).sum = ((merge key others).1.map value).sum := by
  let ofKey : κ → M := fun k => ((feeds.flatten.find? fun row => decide (key row = k)).map value).getD 0
  have read : ∀ row ∈ feeds.flatten, value row = ofKey (key row) := by
    intro row member
    cases found : feeds.flatten.find? fun other => decide (key other = key row) with
    | none =>
      have missed := List.find?_eq_none.mp found row member
      simp at missed
    | some other =>
      have same : key other = key row := by simpa using List.find?_some found
      have value_ := determined row member other (List.mem_of_find?_eq_some found) same.symm
      simp only [ofKey, found, Option.map_some, Option.getD_some, value_]
  have both : ∀ row ∈ others.flatten, row ∈ feeds.flatten :=
    fun row member => (List.Perm.flatten_congr perm).mem_iff.mpr member
  calc ((merge key feeds).1.map value).sum
      = (((merge key feeds).1.map key).map ofKey).sum := by
        rw [List.map_map]
        exact congrArg List.sum (List.map_congr_left fun row member => read row (mem_flatten_of_merge member))
    _ = (((merge key others).1.map key).map ofKey).sum := ((merge_perm perm).map ofKey).sum_eq
    _ = ((merge key others).1.map value).sum := by
        rw [List.map_map]
        exact congrArg List.sum (List.map_congr_left fun row member =>
          (read row (both row (mem_flatten_of_merge member))).symm)

end Feeds
