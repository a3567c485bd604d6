import Mathlib.Data.List.Sort

/-! Stable sorting commutes with selecting elements.

Insertion sort keeps equal elements in their order, so it stands for every
stable sort.
-/

set_option autoImplicit false

namespace StableSort

variable {α : Type*} {r : α → α → Prop} [DecidableRel r]

theorem orderedInsert_below {a : α} {l : List α} (below : ∀ b ∈ l, r a b) : l.orderedInsert r a = a :: l := by
  cases l with
  | nil => rfl
  | cons b l => exact List.orderedInsert_cons_of_le r l (below b List.mem_cons_self)

theorem filter_orderedInsert [IsTrans α r] (p : α → Bool) (a : α) {l : List α} (sorted : l.Pairwise r) :
    (l.orderedInsert r a).filter p = if p a then (l.filter p).orderedInsert r a else l.filter p := by
  induction l with
  | nil => cases chosen : p a <;> simp [chosen]
  | cons b l ih =>
    obtain ⟨first, rest⟩ := List.pairwise_cons.mp sorted
    by_cases before : r a b
    · have below : ∀ c ∈ (b :: l).filter p, r a c := by
        intro c member
        rcases List.mem_cons.mp (List.mem_of_mem_filter member) with rfl | later
        · exact before
        · exact IsTrans.trans a b c before (first c later)
      rw [List.orderedInsert_cons_of_le r l before, List.filter_cons, orderedInsert_below below]
    · rw [List.orderedInsert_of_not_le r l before, List.filter_cons, List.filter_cons, ih rest]
      cases chosen : p b with
      | false => simp
      | true =>
        cases own : p a with
        | false => simp
        | true => simp [before]

/-- Sorting the selected elements selects from the sorted ones. -/
theorem filter_insertionSort [IsTrans α r] [Std.Total r] (p : α → Bool) (l : List α) :
    (l.insertionSort r).filter p = (l.filter p).insertionSort r := by
  induction l with
  | nil => rfl
  | cons a l ih =>
    rw [List.insertionSort_cons, filter_orderedInsert p a (List.pairwise_insertionSort r l), ih, List.filter_cons]
    cases p a <;> rfl

omit [DecidableRel r] in
/-- A sorted list has the elements before a cut in front of the others. -/
theorem eq_filter_append_filter {l : List α} (sorted : l.Pairwise r) (p : α → Bool)
    (cut : ∀ a ∈ l, ∀ b ∈ l, p a = false → p b = true → ¬ r a b) : l = l.filter p ++ l.filter fun a => !p a := by
  induction l with
  | nil => rfl
  | cons a l ih =>
    obtain ⟨first, rest⟩ := List.pairwise_cons.mp sorted
    have later := ih rest fun b member c other => cut b (List.mem_cons_of_mem a member) c (List.mem_cons_of_mem a other)
    cases own : p a with
    | true => simpa [own] using later
    | false =>
      -- nothing before the cut can follow, since the list is sorted
      have none : ∀ b ∈ l, p b = false := by
        intro b member
        by_contra chosen
        exact cut a List.mem_cons_self b (List.mem_cons_of_mem a member) own (Bool.of_not_eq_false chosen) (first b member)
      have empty : l.filter p = [] := by
        apply List.filter_eq_nil_iff.mpr
        intro b member
        simp [none b member]
      have all : (l.filter fun b => !p b) = l := by
        apply List.filter_eq_self.mpr
        intro b member
        simp [none b member]
      simp [own, empty, all]

/-- Sorting a list that a cut divides sorts both parts. -/
theorem insertionSort_eq_append [IsTrans α r] [Std.Total r] (p : α → Bool) (l : List α)
    (cut : ∀ a ∈ l, ∀ b ∈ l, p a = false → p b = true → ¬ r a b) :
    l.insertionSort r = (l.filter p).insertionSort r ++ (l.filter fun a => !p a).insertionSort r := by
  have members := List.perm_insertionSort r l
  rw [← filter_insertionSort, ← filter_insertionSort]
  apply eq_filter_append_filter (List.pairwise_insertionSort r l)
  intro a member b other
  exact cut a (members.mem_iff.mp member) b (members.mem_iff.mp other)

section Ranked

variable {β κ : Type*} [LinearOrder κ] (rank : β → κ)

/-- What is left after the first `n` of a strictly descending list has at least `n` elements above it. -/
theorem mem_drop_iff_of_descending {l : List β} (descending : l.Pairwise fun a b => rank b < rank a) (a : β)
    (n : Nat) : a ∈ l.drop n ↔ a ∈ l ∧ n ≤ l.countP fun b => rank a < rank b := by
  induction l generalizing n with
  | nil => simp
  | cons first rest ih =>
    obtain ⟨top, rest_descends⟩ := List.pairwise_cons.mp descending
    cases n with
    | zero => simp
    | succ n =>
      rw [List.drop_succ_cons, ih rest_descends, List.mem_cons]
      constructor
      · rintro ⟨member, many⟩
        refine ⟨Or.inr member, ?_⟩
        rw [List.countP_cons_of_pos (by simpa using top a member)]
        exact Nat.succ_le_succ many
      · rintro ⟨rfl | member, many⟩
        · -- the first element has nothing above it
          have none_above : (a :: rest).countP (fun b => decide (rank a < rank b)) = 0 := by
            rw [List.countP_eq_zero]
            intro b member
            rcases List.mem_cons.mp member with rfl | later
            · simp
            · simpa using (top b later).le
          omega
        · rw [List.countP_cons_of_pos (by simpa using top a member)] at many
          exact ⟨member, Nat.le_of_succ_le_succ many⟩

/-- A descending sort leaves an element behind its first `n` exactly when `n` elements rank above it. -/
theorem mem_drop_insertionSort_iff {l : List β} (distinct : (l.map rank).Nodup) (a : β) (n : Nat) :
    a ∈ (l.insertionSort fun a b => rank b ≤ rank a).drop n ↔ a ∈ l ∧ n ≤ l.countP fun b => rank a < rank b := by
  have order : IsTrans β fun a b => rank b ≤ rank a := ⟨fun _ _ _ first second => second.trans first⟩
  have compares : Std.Total fun a b : β => rank b ≤ rank a := ⟨fun a b => le_total (rank b) (rank a)⟩
  have same := List.perm_insertionSort (fun a b => rank b ≤ rank a) l
  have sorted := List.pairwise_insertionSort (fun a b => rank b ≤ rank a) l
  have apart : ((l.insertionSort fun a b => rank b ≤ rank a).map rank).Nodup :=
    ((same.map rank).nodup_iff).mpr distinct
  have descending : (l.insertionSort fun a b => rank b ≤ rank a).Pairwise fun a b => rank b < rank a := by
    have different := List.pairwise_map.mp apart
    exact (sorted.and different).imp fun ⟨below, other⟩ => lt_of_le_of_ne below (Ne.symm other)
  rw [mem_drop_iff_of_descending rank descending, same.mem_iff, same.countP_eq]

/-- A sorted list is determined by its elements of each rank in their order. -/
theorem eq_of_filter_eq {l m : List β} (left : l.Pairwise fun a b => rank a ≤ rank b)
    (right : m.Pairwise fun a b => rank a ≤ rank b)
    (same : ∀ k, l.filter (fun a => decide (rank a = k)) = m.filter fun a => decide (rank a = k)) : l = m := by
  induction l generalizing m with
  | nil =>
    cases m with
    | nil => rfl
    | cons b m =>
      have here := same (rank b)
      simp at here
  | cons a l ih =>
    cases m with
    | nil =>
      have here := same (rank a)
      simp at here
    | cons b m =>
      obtain ⟨aFirst, leftRest⟩ := List.pairwise_cons.mp left
      obtain ⟨bFirst, rightRest⟩ := List.pairwise_cons.mp right
      have below : rank b ≤ rank a := by
        have member : a ∈ (b :: m).filter fun c => decide (rank c = rank a) := by
          rw [← same (rank a)]
          simp
        rcases List.mem_cons.mp (List.mem_of_mem_filter member) with equal | later
        · rw [equal]
        · exact bFirst a later
      have above : rank a ≤ rank b := by
        have member : b ∈ (a :: l).filter fun c => decide (rank c = rank b) := by
          rw [same (rank b)]
          simp
        rcases List.mem_cons.mp (List.mem_of_mem_filter member) with equal | later
        · rw [equal]
        · exact aFirst b later
      have tied : rank b = rank a := le_antisymm below above
      have heads := same (rank a)
      rw [List.filter_cons_of_pos (by simp), List.filter_cons_of_pos (by simp [tied])] at heads
      obtain ⟨equal, tails⟩ := List.cons_eq_cons.mp heads
      rw [equal, ih leftRest rightRest]
      intro k
      have rest := same k
      by_cases own : rank a = k
      · rw [← own]
        exact tails
      · rwa [List.filter_cons_of_neg (by simp [own]), List.filter_cons_of_neg (by simp [tied, own])] at rest

theorem filter_rank_insertionSort {r : β → β → Prop} [DecidableRel r] [IsTrans β r] [Std.Total r]
    (tied : ∀ a b, rank a = rank b → r a b) (k : κ) (l : List β) :
    (l.insertionSort r).filter (fun a => decide (rank a = k)) = l.filter fun a => decide (rank a = k) := by
  rw [filter_insertionSort]
  apply List.Pairwise.insertionSort_eq
  apply List.pairwise_of_forall_mem_list
  intro a first b second
  have left : rank a = k := by simpa using (List.mem_filter.mp first).2
  have right : rank b = k := by simpa using (List.mem_filter.mp second).2
  exact tied a b (left.trans right.symm)

/-- Sorting the other way round first makes no difference. -/
theorem ascending_descending (l : List β) :
    (l.insertionSort fun a b => rank b ≤ rank a).insertionSort (fun a b => rank a ≤ rank b) =
      l.insertionSort fun a b => rank a ≤ rank b := by
  have downTrans : IsTrans β fun a b => rank b ≤ rank a := ⟨fun _ _ _ first second => second.trans first⟩
  have downTotal : Std.Total fun a b : β => rank b ≤ rank a := ⟨fun a b => le_total (rank b) (rank a)⟩
  have upTrans : IsTrans β fun a b => rank a ≤ rank b := ⟨fun _ _ _ first second => first.trans second⟩
  have upTotal : Std.Total fun a b : β => rank a ≤ rank b := ⟨fun a b => le_total (rank a) (rank b)⟩
  apply eq_of_filter_eq rank (List.pairwise_insertionSort _ _) (List.pairwise_insertionSort _ _)
  intro k
  rw [filter_rank_insertionSort rank (fun _ _ equal => equal.le), filter_rank_insertionSort rank (fun _ _ equal => equal.ge),
    filter_rank_insertionSort rank (fun _ _ equal => equal.le)]

end Ranked

end StableSort
