import MarketSentinel.Library.Grouping

/-! Observations with a place and a key: which places repeat a key, and which share a
key with observations that contradict each other.

The places are found in passes over dictionaries; the results say what the passes come to.
-/

set_option autoImplicit false

namespace Observations

open Grouping Python

variable {α β κ ι : Type*}

/-! ## Places -/

/-- What is seen in the rows, with the place of each row. -/
def numbered (see : α → Option β) (rows : List α) : List (Nat × β) :=
  rows.zipIdx.filterMap fun entry => (see entry.1).map fun seen => (entry.2, seen)

theorem mem_numbered {see : α → Option β} {rows : List α} {place : Nat} {seen : β} :
    (place, seen) ∈ numbered see rows ↔ ∃ row, rows[place]? = some row ∧ see row = some seen := by
  simp only [numbered, List.mem_filterMap, Option.map_eq_some_iff, Prod.mk.injEq, Prod.exists]
  constructor
  · rintro ⟨row, index, member, found, read, rfl, rfl⟩
    exact ⟨row, List.mem_zipIdx_iff_getElem?.mp member, read⟩
  · rintro ⟨row, at_place, read⟩
    exact ⟨row, place, List.mem_zipIdx_iff_getElem?.mpr at_place, seen, read, rfl, rfl⟩

theorem numbered_seen (see : α → Option β) (rows : List α) :
    (numbered see rows).map Prod.snd = rows.filterMap see := by
  have forget : rows.filterMap see = rows.zipIdx.filterMap fun entry => see entry.1 := by
    conv_lhs => rw [← List.zipIdx_map_fst 0 rows]
    rw [List.filterMap_map]
    rfl
  rw [forget, numbered, List.map_filterMap]
  congr 1
  funext entry
  cases see entry.1 <;> rfl

/-- No place is numbered twice. -/
theorem numbered_places (see : α → Option β) (rows : List α) : ((numbered see rows).map Prod.fst).Nodup := by
  have fewer : ∀ entries : List (α × Nat),
      ((entries.filterMap fun entry => (see entry.1).map fun seen => (entry.2, seen)).map Prod.fst).Sublist
        (entries.map Prod.snd) := by
    intro entries
    induction entries with
    | nil => exact .slnil
    | cons entry rest ih =>
      cases read : see entry.1 with
      | none => simpa [read] using ih.cons entry.2
      | some seen => simpa [read] using ih.cons_cons entry.2
  apply (fewer rows.zipIdx).nodup
  rw [List.zipIdx_map_snd]
  exact List.nodup_range'

section Keys

variable [DecidableEq κ]

/-! ## Keys seen twice -/

/-- The first place of each key. -/
def firstPlaces (seen : List (ι × κ)) : Dict κ ι := gather Prod.snd Prod.fst (fun first _ => first) seen

/-- The places whose key has an earlier place, each with the first one. -/
def repeated [DecidableEq ι] (seen : List (ι × κ)) : List ι :=
  seen.flatMap fun entry =>
    match (firstPlaces seen).get? entry.2 with
    | some previous => if previous ≠ entry.1 then [entry.1, previous] else []
    | none => []

theorem get?_firstPlaces (seen : List (ι × κ)) (key : κ) :
    (firstPlaces seen).get? key = (group Prod.snd key seen).head?.map Prod.fst := by
  have kept : ∀ (place : ι) (rest : List (ι × κ)), rest.foldl (fun first _ => first) place = place := by
    intro place rest
    induction rest with
    | nil => rfl
    | cons entry rest ih => exact ih
  rw [firstPlaces, get?_gather]
  cases group Prod.snd key seen with
  | nil => rfl
  | cons first rest => rw [summary, kept, List.head?_cons, Option.map_some]

/-- The first place of a key is one of its places. -/
theorem mem_of_firstPlaces {seen : List (ι × κ)} {key : κ} {place : ι}
    (found : (firstPlaces seen).get? key = some place) : (place, key) ∈ seen := by
  rw [get?_firstPlaces] at found
  obtain ⟨entry, head, rfl⟩ := Option.map_eq_some_iff.mp found
  obtain ⟨member, rfl⟩ := mem_group.mp (List.mem_of_mem_head? head)
  exact member

theorem firstPlaces_isSome {seen : List (ι × κ)} {entry : ι × κ} (member : entry ∈ seen) :
    ∃ place, (firstPlaces seen).get? entry.2 = some place := by
  rw [get?_firstPlaces]
  cases same : group Prod.snd entry.2 seen with
  | nil =>
    have inside : entry ∈ group Prod.snd entry.2 seen := mem_group.mpr ⟨member, rfl⟩
    rw [same] at inside
    cases inside
  | cons first rest => exact ⟨first.1, rfl⟩

theorem repeated_places [DecidableEq ι] {seen : List (ι × κ)} {place : ι} (member : place ∈ repeated seen) :
    place ∈ seen.map Prod.fst := by
  unfold repeated at member
  obtain ⟨entry, among, here⟩ := List.mem_flatMap.mp member
  split at here
  · rename_i previous found
    split at here
    · rcases List.mem_cons.mp here with rfl | here
      · exact List.mem_map_of_mem among
      · rw [List.mem_singleton.mp here]
        exact List.mem_map_of_mem (mem_of_firstPlaces found)
    · cases here
  · cases here

/-- No place repeats a key exactly when the keys are distinct. -/
theorem repeated_eq_nil [DecidableEq ι] {seen : List (ι × κ)} (places : (seen.map Prod.fst).Nodup) :
    repeated seen = [] ↔ (seen.map Prod.snd).Nodup := by
  have first : repeated seen = [] ↔ ∀ entry ∈ seen, (firstPlaces seen).get? entry.2 = some entry.1 := by
    unfold repeated
    rw [List.flatMap_eq_nil_iff]
    refine forall₂_congr fun entry member => ?_
    obtain ⟨place, found⟩ := firstPlaces_isSome member
    by_cases same : place = entry.1 <;> simp [found, same]
  rw [first]
  constructor
  · intro own
    apply List.Nodup.map_on _ (List.Nodup.of_map _ places)
    intro entry member other among same
    have place := own entry member
    rw [same, own other among] at place
    exact Prod.ext (Option.some.inj place).symm same
  · intro distinct entry member
    obtain ⟨place, found⟩ := firstPlaces_isSome member
    have same := List.inj_on_of_nodup_map distinct (mem_of_firstPlaces found) member rfl
    rw [found, ← same]

/-! ## Keys with contradicting observations -/

/-- The observations under each key, in order. -/
def buckets (seen : List (ι × (κ × β))) : Dict κ (List (ι × (κ × β))) :=
  gather (fun entry => entry.2.1) (fun _ => []) (fun bucket entry => bucket ++ [entry]) seen

/-- The places of the observations under one key that clash. -/
def clashing (clash : List β → Bool) (seen : List (ι × (κ × β))) : List ι :=
  (buckets seen).flatMap fun bucket =>
    if clash (bucket.2.map fun entry => entry.2.2) then bucket.2.map Prod.fst else []

theorem get?_buckets (seen : List (ι × (κ × β))) (key : κ) :
    (buckets seen).get? key =
      if group (fun entry => entry.2.1) key seen = [] then none else some (group (fun entry => entry.2.1) key seen) := by
  have collected : ∀ (done rest : List (ι × (κ × β))),
      rest.foldl (fun bucket entry => bucket ++ [entry]) done = done ++ rest := by
    intro done rest
    induction rest generalizing done with
    | nil => simp
    | cons entry rest ih => simp [ih]
  rw [buckets, get?_gather]
  cases group (fun entry : ι × (κ × β) => entry.2.1) key seen with
  | nil => rfl
  | cons first rest => rw [summary, collected, if_neg (List.cons_ne_nil _ _), List.nil_append]

theorem mem_buckets {seen : List (ι × (κ × β))} {key : κ} {bucket : List (ι × (κ × β))} :
    (key, bucket) ∈ buckets seen ↔ bucket = group (fun entry => entry.2.1) key seen ∧ bucket ≠ [] := by
  have unique : ((buckets seen).map Prod.fst).Nodup := keys_gather_nodup seen
  have same : (key, bucket) ∈ buckets seen ↔ (buckets seen).get? key = some bucket :=
    ⟨Dict.get?_of_mem unique, Dict.mem_of_get?⟩
  rw [same, get?_buckets]
  split
  · rename_i none
    simp [none]
  · rename_i some
    rw [Option.some.injEq]
    exact ⟨fun same => ⟨same.symm, same ▸ some⟩, fun same => same.1.symm⟩

theorem clashing_places {clash : List β → Bool} {seen : List (ι × (κ × β))} {place : ι}
    (member : place ∈ clashing clash seen) : place ∈ seen.map Prod.fst := by
  obtain ⟨⟨key, bucket⟩, among, here⟩ := List.mem_flatMap.mp member
  split at here
  · obtain ⟨entry, inside, rfl⟩ := List.mem_map.mp here
    rw [(mem_buckets.mp among).1] at inside
    exact List.mem_map_of_mem (mem_group.mp inside).1
  · cases here

/-- No place clashes exactly when the observations of no key do. -/
theorem clashing_eq_nil {clash : List β → Bool} (quiet : clash [] = false) {seen : List (ι × (κ × β))} :
    clashing clash seen = [] ↔
      ∀ key, clash (((seen.map Prod.snd).filter fun entry => decide (entry.1 = key)).map Prod.snd) = false := by
  have values : ∀ key, ((seen.map Prod.snd).filter fun entry => decide (entry.1 = key)).map Prod.snd =
      (group (fun entry => entry.2.1) key seen).map fun entry => entry.2.2 := by
    intro key
    rw [group, List.filter_map, List.map_map]
    rfl
  simp only [values]
  rw [clashing, List.flatMap_eq_nil_iff]
  constructor
  · intro none key
    by_cases empty : group (fun entry => entry.2.1) key seen = []
    · rw [empty]
      exact quiet
    · by_contra clashes
      have here := none (key, _) (mem_buckets.mpr ⟨rfl, empty⟩)
      rw [if_pos (Bool.not_eq_false _ ▸ clashes)] at here
      exact empty (List.map_eq_nil_iff.mp here)
  · rintro calm ⟨key, bucket⟩ among
    rw [(mem_buckets.mp among).1, if_neg (by rw [calm key]; exact Bool.false_ne_true)]

end Keys

end Observations
