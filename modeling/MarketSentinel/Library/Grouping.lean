import Mathlib.Data.List.Dedup
import Mathlib.Data.List.Induction
import Mathlib.Data.List.Sort
import MarketSentinel.Library.Dict

/-! Grouping a list by a key into a dictionary of running summaries.

A group's summary is the fold of the members of the group, in the order of the list.
-/

set_option autoImplicit false

namespace Grouping

open Python

variable {α β κ : Type*}

section Gather

variable [DecidableEq κ]

/-- The members of the list that have a key. -/
def group (key : α → κ) (k : κ) (l : List α) : List α := l.filter fun x => decide (key x = k)

/-- One pass: each member starts the summary of its key or is added to it. -/
def gather (key : α → κ) (start : α → β) (add : β → α → β) (l : List α) : Dict κ β :=
  l.foldl (fun groups x => groups.set (key x) (add ((groups.get? (key x)).getD (start x)) x)) []

/-- The summary of the members of one group, in order. -/
def summary (start : α → β) (add : β → α → β) : List α → Option β
  | [] => none
  | first :: rest => some ((first :: rest).foldl add (start first))

variable {key : α → κ} {start : α → β} {add : β → α → β}

theorem mem_group {k : κ} {l : List α} {x : α} : x ∈ group key k l ↔ x ∈ l ∧ key x = k := by
  simp [group]

theorem summary_append (l : List α) (x : α) :
    summary start add (l ++ [x]) = some (add ((summary start add l).getD (start x)) x) := by
  cases l with
  | nil => rfl
  | cons first rest =>
    rw [List.cons_append, summary, ← List.cons_append, List.foldl_append]
    rfl

theorem get?_gather (l : List α) (k : κ) :
    (gather key start add l).get? k = summary start add (group key k l) := by
  induction l using List.reverseRecOn with
  | nil => rfl
  | append_singleton l x ih =>
    have last : gather key start add (l ++ [x]) = (gather key start add l).set (key x)
        (add (((gather key start add l).get? (key x)).getD (start x)) x) := by
      rw [gather, List.foldl_append]
      rfl
    rw [last, Dict.get?_set]
    by_cases here : key x = k
    · subst here
      have more : group key (key x) (l ++ [x]) = group key (key x) l ++ [x] := by simp [group]
      rw [if_pos rfl, ih, more, summary_append]
    · have same : group key k (l ++ [x]) = group key k l := by simp [group, here]
      rw [if_neg here, ih, same]

theorem keys_gather_nodup (l : List α) : ((gather key start add l).map Prod.fst).Nodup := by
  induction l using List.reverseRecOn with
  | nil => simp [gather]
  | append_singleton l x ih =>
    rw [gather, List.foldl_append]
    simp only [List.foldl_cons, List.foldl_nil]
    rw [Dict.keys_set]
    split
    · exact ih
    · rename_i new
      rw [List.nodup_append]
      refine ⟨ih, List.nodup_singleton _, ?_⟩
      intro old member fresh single same
      rw [List.mem_singleton.mp single] at same
      exact new (same ▸ member)

end Gather

section Ascending

variable [LinearOrder κ] {key : α → κ} {start : α → β} {add : β → α → β}

/-- The keys that occur, each once, in ascending order. -/
def keysOf (key : α → κ) (l : List α) : List κ := (l.map key).dedup.insertionSort (· ≤ ·)

theorem mem_keysOf {l : List α} {k : κ} : k ∈ keysOf key l ↔ ∃ x ∈ l, key x = k := by
  rw [keysOf, (List.perm_insertionSort _ _).mem_iff, List.mem_dedup, List.mem_map]

theorem keysOf_strict (l : List α) : (keysOf key l).Pairwise (· < ·) := by
  have sorted := List.pairwise_insertionSort (· ≤ ·) (l.map key).dedup
  have distinct := ((List.perm_insertionSort (· ≤ ·) (l.map key).dedup).nodup_iff).mpr (List.nodup_dedup _)
  exact (List.pairwise_and_iff.mpr ⟨sorted, distinct⟩).imp fun both => lt_of_le_of_ne both.1 both.2

/-- Two lists in strict order with the same members are one list. -/
theorem eq_of_strict_of_mem_iff (stamp : β → κ) {l other : List β} (strict : l.Pairwise fun a b => stamp a < stamp b)
    (strict' : other.Pairwise fun a b => stamp a < stamp b) (same : ∀ b, b ∈ l ↔ b ∈ other) : l = other := by
  have perm := (List.perm_ext_iff_of_nodup (strict.imp fun less same => absurd (congrArg stamp same) less.ne)
    (strict'.imp fun less same => absurd (congrArg stamp same) less.ne)).mpr same
  exact perm.eq_of_pairwise (fun a b _ _ less more => absurd (less.trans more) (lt_irrefl (stamp a))) strict strict'

/-- The keys depend on what occurs only. -/
theorem keysOf_congr {l other : List α} (same : ∀ k, (∃ x ∈ l, key x = k) ↔ ∃ x ∈ other, key x = k) :
    keysOf key l = keysOf key other := by
  apply eq_of_strict_of_mem_iff id (keysOf_strict l) (keysOf_strict other)
  intro k
  rw [mem_keysOf, mem_keysOf, same]

/-- `sorted(groups.items())`: the keys differ, so the summaries are not compared. -/
def ascending (groups : Dict κ β) : List (κ × β) := groups.insertionSort fun a b => a.1 ≤ b.1

theorem mem_ascending {groups : Dict κ β} (unique : (groups.map Prod.fst).Nodup) {entry : κ × β} :
    entry ∈ ascending groups ↔ groups.get? entry.1 = some entry.2 := by
  rw [ascending, (List.perm_insertionSort (fun a b : κ × β => a.1 ≤ b.1) groups).mem_iff]
  exact ⟨Dict.get?_of_mem unique, Dict.mem_of_get?⟩

theorem ascending_strict {groups : Dict κ β} (unique : (groups.map Prod.fst).Nodup) :
    (ascending groups).Pairwise fun a b => a.1 < b.1 := by
  have perm := List.perm_insertionSort (fun a b : κ × β => a.1 ≤ b.1) groups
  have sorted := List.pairwise_insertionSort (fun a b : κ × β => a.1 ≤ b.1) groups
  have distinct : (ascending groups).Pairwise fun a b => a.1 ≠ b.1 := by
    have keys := (perm.map Prod.fst).nodup_iff.mpr unique
    rwa [List.Nodup, List.pairwise_map] at keys
  exact (List.pairwise_and_iff.mpr ⟨sorted, distinct⟩).imp fun both => lt_of_le_of_ne both.1 both.2

/-- Sorted groups are the summaries of the groups, one for each key in ascending order. -/
theorem ascending_gather (l : List α) :
    ascending (gather key start add l) =
      (keysOf key l).filterMap fun k => (summary start add (group key k l)).map fun b => (k, b) := by
  have unique := @keys_gather_nodup α β κ _ key start add l
  have inside : ∀ entry, entry ∈ ascending (gather key start add l) ↔
      summary start add (group key entry.1 l) = some entry.2 := by
    intro entry
    rw [mem_ascending unique, get?_gather]
  have strict := ascending_strict unique
  have ordered : ((keysOf key l).filterMap fun k =>
      (summary start add (group key k l)).map fun b => (k, b)).Pairwise fun a b => a.1 < b.1 := by
    apply (keysOf_strict l).filterMap
    intro k later less entry found other shown
    obtain ⟨_, _, rfl⟩ := Option.map_eq_some_iff.mp found
    obtain ⟨_, _, rfl⟩ := Option.map_eq_some_iff.mp shown
    exact less
  have same : ∀ entry, entry ∈ ascending (gather key start add l) ↔ entry ∈ (keysOf key l).filterMap fun k =>
      (summary start add (group key k l)).map fun b => (k, b) := by
    intro entry
    rw [inside, List.mem_filterMap]
    constructor
    · intro found
      refine ⟨entry.1, ?_, by rw [found]; rfl⟩
      cases members : group key entry.1 l with
      | nil =>
        rw [members] at found
        cases found
      | cons first rest =>
        have member : first ∈ group key entry.1 l := members ▸ List.mem_cons_self
        exact mem_keysOf.mpr ⟨first, mem_group.mp member⟩
    · rintro ⟨k, _, found⟩
      obtain ⟨b, summed, rfl⟩ := Option.map_eq_some_iff.mp found
      exact summed
  exact eq_of_strict_of_mem_iff Prod.fst strict ordered same

/-- Two lists of stamped entries, one for each of some keys, are equal exactly when they agree on every key. -/
theorem filterMap_keys_eq_iff (stamp : β → κ) {keys others : List κ} {shown shown' : κ → Option β}
    (strict : keys.Pairwise (· < ·)) (strict' : others.Pairwise (· < ·))
    (stamped : ∀ k b, shown k = some b → stamp b = k) (stamped' : ∀ k b, shown' k = some b → stamp b = k)
    (covers : ∀ k b, shown k = some b → k ∈ keys) (covers' : ∀ k b, shown' k = some b → k ∈ others) :
    keys.filterMap shown = others.filterMap shown' ↔ ∀ k, shown k = shown' k := by
  have ordered : ∀ (keys : List κ) (shown : κ → Option β), keys.Pairwise (· < ·) →
      (∀ k b, shown k = some b → stamp b = k) → (keys.filterMap shown).Pairwise fun a b => stamp a < stamp b := by
    intro keys shown strict stamped
    apply strict.filterMap
    intro k later less b found c other
    rw [stamped k b found, stamped later c other]
    exact less
  have listed : ∀ (keys : List κ) (shown : κ → Option β), (∀ k b, shown k = some b → stamp b = k) →
      (∀ k b, shown k = some b → k ∈ keys) → ∀ b, b ∈ keys.filterMap shown ↔ shown (stamp b) = some b := by
    intro keys shown stamped covers b
    rw [List.mem_filterMap]
    constructor
    · rintro ⟨k, _, found⟩
      rwa [stamped k b found]
    · exact fun found => ⟨stamp b, covers _ _ found, found⟩
  constructor
  · intro same k
    apply Option.ext
    intro b
    have members := listed keys shown stamped covers b
    rw [same, listed others shown' stamped' covers' b] at members
    constructor
    · intro found
      have there := stamped k b found
      rw [← there] at found ⊢
      exact members.mpr found
    · intro found
      have there := stamped' k b found
      rw [← there] at found ⊢
      exact members.mp found
  · intro agree
    obtain rfl : shown = shown' := funext agree
    apply eq_of_strict_of_mem_iff stamp (ordered keys shown strict stamped) (ordered others shown strict' stamped')
    intro b
    rw [listed keys shown stamped covers, listed others shown stamped' covers']

end Ascending

end Grouping
