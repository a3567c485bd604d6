import Mathlib.Algebra.BigOperators.Group.List.Basic
import Mathlib.Algebra.Order.Group.Defs
import Mathlib.Algebra.Order.Monoid.Defs
import MarketSentinel.Library.Grouping
import MarketSentinel.Library.RunningPeak
import MarketSentinel.Library.StableSort

/-! Curves of running sums whose changes arrive in buckets.

Where the changes of a bucket have one sign, the curve is monotone inside it, so that the
greatest loss of the curve is the greatest loss between the ends of the buckets.
-/

set_option autoImplicit false

namespace Curve

open RunningPeak Grouping

variable {α β κ ι : Type*}

section Levels

variable [AddCommGroup α]

/-- The running sums of changes. -/
def levels (start : α) : List α → List α
  | [] => []
  | change :: rest => (start + change) :: levels (start + change) rest

theorem levels_append (start : α) (first second : List α) :
    levels start (first ++ second) = levels start first ++ levels (start + first.sum) second := by
  induction first generalizing start with
  | nil => simp [levels]
  | cons change rest ih => simp [levels, ih, add_assoc]

end Levels

section Losses

variable [LinearOrder α] [LinearOrder β] [Zero β]

/-- The losses of the falls of a sequence. -/
def lossesOf (loss : α → α → β) (peak : α) (values : List α) : Set β :=
  { amount | ∃ fall ∈ falls peak values, amount = loss fall.1 fall.2 }

omit [Zero β] in
theorem isGreatest_of_cofinal {s t : Set β} (subset : t ⊆ s) (cofinal : ∀ a ∈ s, ∃ b ∈ t, a ≤ b) (greatest : β) :
    IsGreatest s greatest ↔ IsGreatest t greatest := by
  constructor
  · rintro ⟨member, upper⟩
    obtain ⟨b, inside, above⟩ := cofinal greatest member
    have same : b = greatest := le_antisymm (upper (subset inside)) above
    exact ⟨same ▸ inside, fun a among => upper (subset among)⟩
  · rintro ⟨member, upper⟩
    refine ⟨subset member, fun a among => ?_⟩
    obtain ⟨b, inside, above⟩ := cofinal a among
    exact above.trans (upper inside)

variable {loss : α → α → β} {peak : α}

/-- The value a curve has reached: its last value, or the peak it starts from. -/
def Reached (peak : α) (before : List α) (prior : α) : Prop :=
  prior = before.foldl max peak ∨ (before.foldl max peak, prior) ∈ falls peak before

theorem reached_start : Reached peak [] peak := Or.inl rfl

theorem reached_concat (before : List α) (value : α) : Reached peak (before ++ [value]) value := by
  right
  rw [falls_concat, List.foldl_append]
  apply List.mem_append_right
  rw [max_comm]
  simp [max_comm]

theorem Reached.le {before : List α} {prior : α} (reached : Reached peak before prior) : prior ≤ before.foldl max peak := by
  rcases reached with rfl | fall
  · exact le_refl _
  · exact (bounds_of_mem_falls fall).2.1

/-- A value between its neighbours shows no loss that they do not show. -/
theorem drop_between (measure : Measure β loss peak) {before rest : List α} {prior x y : α}
    (reached : Reached peak before prior) (between : prior ≤ x ∧ x ≤ y ∨ y ≤ x ∧ x ≤ prior) (greatest : β) :
    IsGreatest (lossesOf loss peak (before ++ x :: y :: rest)) greatest ↔
      IsGreatest (lossesOf loss peak (before ++ y :: rest)) greatest := by
  have start : peak ≤ before.foldl max peak := le_foldl_max peak before
  have below := reached.le
  have same : max (max (before.foldl max peak) x) y = max (before.foldl max peak) y := by
    rcases between with ⟨_, up⟩ | ⟨_, down⟩
    · rw [max_assoc, max_eq_right up]
    · rw [max_eq_left (down.trans below)]
  have longer : falls peak (before ++ x :: y :: rest) = falls peak before ++ (max (before.foldl max peak) x, x) ::
      ((max (before.foldl max peak) y, y) :: falls (max (before.foldl max peak) y) rest) := by
    rw [falls_append, falls, falls, same]
  have shorter : falls peak (before ++ y :: rest) = falls peak before ++
      ((max (before.foldl max peak) y, y) :: falls (max (before.foldl max peak) y) rest) := by
    rw [falls_append, falls]
  apply isGreatest_of_cofinal
  · rintro _ ⟨fall, member, rfl⟩
    refine ⟨fall, ?_, rfl⟩
    rw [shorter] at member
    rw [longer]
    rcases List.mem_append.mp member with early | late
    · exact List.mem_append_left _ early
    · exact List.mem_append_right _ (List.mem_cons_of_mem _ late)
  · rintro _ ⟨fall, member, rfl⟩
    rw [longer] at member
    rcases List.mem_append.mp member with early | late
    · exact ⟨_, ⟨fall, shorter ▸ List.mem_append_left _ early, rfl⟩, le_refl _⟩
    rcases List.mem_cons.mp late with rfl | later
    · -- The fall at the value in between.
      have last : (max (before.foldl max peak) y, y) ∈ falls peak (before ++ y :: rest) :=
        shorter ▸ List.mem_append_right _ List.mem_cons_self
      rcases le_or_gt (before.foldl max peak) x with high | low
      · refine ⟨_, ⟨_, last, rfl⟩, ?_⟩
        rw [max_eq_right high, measure.level x (start.trans high)]
        exact measure.nonneg (start.trans (le_max_left _ _)) (le_max_right _ _)
      · rw [max_eq_left low.le]
        rcases between with ⟨up, _⟩ | ⟨down, _⟩
        · rcases reached with top | fall
          · exact absurd (top ▸ up) (not_le.mpr low)
          · exact ⟨loss _ prior, ⟨(before.foldl max peak, prior), shorter ▸ List.mem_append_left _ fall, rfl⟩,
              measure.deeper _ _ _ start low.le up⟩
        · refine ⟨_, ⟨_, last, rfl⟩, ?_⟩
          rw [max_eq_left (down.trans low.le)]
          exact measure.deeper _ _ _ start low.le down
    · exact ⟨_, ⟨fall, shorter ▸ List.mem_append_right _ later, rfl⟩, le_refl _⟩

end Losses

section Buckets

variable [AddCommGroup α] [LinearOrder α] [IsOrderedAddMonoid α] [LinearOrder β] [Zero β]

/-- Changes of one sign. -/
def Signed (changes : List α) : Prop := (∀ change ∈ changes, 0 ≤ change) ∨ ∀ change ∈ changes, change ≤ 0

variable {loss : α → α → β} {peak : α}

theorem bucket_end (measure : Measure β loss peak) {before rest : List α} {prior first : α} (more : List α)
    (reached : Reached peak before prior) (signed : Signed (first :: more)) (greatest : β) :
    IsGreatest (lossesOf loss peak (before ++ (levels prior (first :: more) ++ rest))) greatest ↔
      IsGreatest (lossesOf loss peak (before ++ (prior + (first :: more).sum) :: rest)) greatest := by
  induction more generalizing first with
  | nil => simp [levels]
  | cons second more ih =>
    have between : prior ≤ prior + first ∧ prior + first ≤ prior + first + second ∨
        prior + first + second ≤ prior + first ∧ prior + first ≤ prior := by
      rcases signed with up | down
      · exact Or.inl ⟨le_add_of_nonneg_right (up first (by simp)), le_add_of_nonneg_right (up second (by simp))⟩
      · exact Or.inr ⟨add_le_of_nonpos_right (down second (by simp)), add_le_of_nonpos_right (down first (by simp))⟩
    have joined : Signed ((first + second) :: more) := by
      rcases signed with up | down
      · left
        rintro change member
        rcases List.mem_cons.mp member with rfl | later
        · exact add_nonneg (up first (by simp)) (up second (by simp))
        · exact up change (by simp [later])
      · right
        rintro change member
        rcases List.mem_cons.mp member with rfl | later
        · exact add_nonpos (down first (by simp)) (down second (by simp))
        · exact down change (by simp [later])
    have shown := ih joined
    simp only [levels, List.cons_append, List.sum_cons, add_assoc] at shown ⊢
    rw [← shown]
    apply drop_between measure reached
    simpa only [add_assoc] using between

/-- Only the ends of the buckets count. -/
theorem buckets_end (measure : Measure β loss peak) (buckets : List (List α)) {before rest : List α} {prior : α}
    (reached : Reached peak before prior) (filled : ∀ bucket ∈ buckets, bucket ≠ [] ∧ Signed bucket) (greatest : β) :
    IsGreatest (lossesOf loss peak (before ++ (levels prior buckets.flatten ++ rest))) greatest ↔
      IsGreatest (lossesOf loss peak (before ++ (levels prior (buckets.map List.sum) ++ rest))) greatest := by
  induction buckets generalizing before prior with
  | nil => simp [levels]
  | cons bucket buckets ih =>
    obtain ⟨some, signed⟩ := filled bucket List.mem_cons_self
    cases bucket with
    | nil => exact absurd rfl some
    | cons first more =>
      rw [List.flatten_cons, levels_append, List.append_assoc, bucket_end measure more reached signed,
        List.map_cons, levels]
      have later := ih (reached_concat before (prior + (first :: more).sum))
        fun other member => filled other (List.mem_cons_of_mem _ member)
      simpa only [List.append_assoc, List.nil_append, List.singleton_append, List.cons_append] using later

end Buckets

section Sorted

variable [LinearOrder κ]

theorem flatMap_only (keys : List κ) (distinct : keys.Nodup) (key : κ) (items : List ι) :
    (keys.flatMap fun other => if other = key then items else []) = if key ∈ keys then items else [] := by
  induction keys with
  | nil => rfl
  | cons first rest ih =>
    obtain ⟨new, distinct⟩ := List.nodup_cons.mp distinct
    rw [List.flatMap_cons, ih distinct]
    by_cases here : first = key
    · subst here
      simp [new]
    · simp [here, Ne.symm here]

/-- A sorted list is its groups, one after the other. -/
theorem sorted_groups {key : ι → κ} {l : List ι} (sorted : l.Pairwise fun a b => key a ≤ key b) :
    l = (keysOf key l).flatMap fun k => group key k l := by
  have strict : (keysOf key l).Pairwise (· < ·) := keysOf_strict l
  apply StableSort.eq_of_filter_eq key sorted
  · rw [List.pairwise_flatMap]
    refine ⟨fun k _ => ?_, strict.imp fun {first second} less a inside b among => ?_⟩
    · apply List.pairwise_of_forall_mem_list
      intro a inside b among
      rw [(mem_group.mp inside).2, (mem_group.mp among).2]
    · rw [(mem_group.mp inside).2, (mem_group.mp among).2]
      exact less.le
  · intro k
    have only : ∀ other, (group key other l).filter (fun a => decide (key a = k)) =
        if other = k then l.filter (fun a => decide (key a = k)) else [] := by
      intro other
      by_cases same : other = k
      · subst same
        rw [if_pos rfl, group, List.filter_filter]
        simp
      · rw [if_neg same]
        apply List.filter_eq_nil_iff.mpr
        intro a inside
        rw [(mem_group.mp inside).2]
        simpa using same
    rw [List.filter_flatMap]
    simp only [only]
    rw [flatMap_only _ (strict.imp fun less => less.ne)]
    split
    · rfl
    · rename_i absent
      apply List.filter_eq_nil_iff.mpr
      intro a member same
      exact absent (mem_keysOf.mpr ⟨a, member, of_decide_eq_true same⟩)

variable [AddCommGroup α] [LinearOrder α] [IsOrderedAddMonoid α] [LinearOrder β] [Zero β]
  {loss : α → α → β} {peak : α} {key : ι → κ} {change : ι → α}

/-- The changes of equal keys never go both ways. -/
def OneWay (key : ι → κ) (change : ι → α) (l : List ι) : Prop :=
  ∀ a ∈ l, ∀ b ∈ l, key a = key b → ¬(0 < change a ∧ change b < 0)

omit [IsOrderedAddMonoid α] in
theorem OneWay.signed {l : List ι} (oneWay : OneWay key change l) (k : κ) : Signed ((group key k l).map change) := by
  by_cases gains : ∃ a ∈ group key k l, 0 < change a
  · left
    obtain ⟨a, member, gain⟩ := gains
    rintro _ inside
    obtain ⟨b, among, rfl⟩ := List.mem_map.mp inside
    obtain ⟨first, here⟩ := mem_group.mp member
    obtain ⟨second, there⟩ := mem_group.mp among
    exact not_lt.mp fun falls => oneWay a first b second (here.trans there.symm) ⟨gain, falls⟩
  · right
    rintro _ inside
    obtain ⟨b, among, rfl⟩ := List.mem_map.mp inside
    exact not_lt.mp fun gain => gains ⟨b, among, gain⟩

/-- The curve of a sorted list loses as much as the curve of the sums of its groups. -/
theorem sorted_greatest (measure : Measure β loss peak) {l : List ι} (sorted : l.Pairwise fun a b => key a ≤ key b)
    (oneWay : OneWay key change l) (rest : List α) (greatest : β) :
    IsGreatest (lossesOf loss peak (levels peak (l.map change) ++ rest)) greatest ↔
      IsGreatest (lossesOf loss peak
        (levels peak ((keysOf key l).map fun k => ((group key k l).map change).sum) ++ rest)) greatest := by
  have parts : l.map change = ((keysOf key l).map fun k => (group key k l).map change).flatten := by
    conv_lhs => rw [sorted_groups sorted]
    rw [List.map_flatMap, List.flatMap_def]
  have ends := @buckets_end _ _ _ _ _ _ _ loss peak measure
    ((keysOf key l).map fun k => (group key k l).map change) [] rest peak reached_start (by
      rintro bucket member
      obtain ⟨k, inside, rfl⟩ := List.mem_map.mp member
      obtain ⟨a, among, same⟩ := mem_keysOf.mp inside
      exact ⟨List.ne_nil_of_mem (List.mem_map_of_mem (mem_group.mpr ⟨among, same⟩)), oneWay.signed k⟩) greatest
  rw [List.nil_append, List.nil_append, List.map_map] at ends
  rw [parts]
  exact ends

/-- Two sorted orders of the same changes lose equally much. -/
theorem sorted_perm (measure : Measure β loss peak) {l other : List ι} (perm : l.Perm other)
    (sorted : l.Pairwise fun a b => key a ≤ key b) (sorted' : other.Pairwise fun a b => key a ≤ key b)
    (oneWay : OneWay key change l) (rest : List α) (greatest : β) :
    IsGreatest (lossesOf loss peak (levels peak (l.map change) ++ rest)) greatest ↔
      IsGreatest (lossesOf loss peak (levels peak (other.map change) ++ rest)) greatest := by
  have oneWay' : OneWay key change other := fun a first b second =>
    oneWay a (perm.mem_iff.mpr first) b (perm.mem_iff.mpr second)
  have keys : keysOf key l = keysOf key other := keysOf_congr fun k => by simp only [perm.mem_iff]
  have sums : ∀ k, ((group key k l).map change).sum = ((group key k other).map change).sum :=
    fun k => ((perm.filter _).map change).sum_eq
  rw [sorted_greatest measure sorted oneWay, sorted_greatest measure sorted' oneWay', keys]
  simp only [sums]

end Sorted

end Curve
