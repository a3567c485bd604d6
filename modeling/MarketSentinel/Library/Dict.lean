import Mathlib.Data.List.Basic
import Mathlib.Data.List.Nodup

/-! Insertion-ordered dictionaries as association lists.

Setting an existing key keeps its place; a new key goes to the end.
-/

set_option autoImplicit false

namespace Python

abbrev Dict (κ α : Type*) := List (κ × α)

namespace Dict

variable {κ α : Type*} [DecidableEq κ]

def get? : Dict κ α → κ → Option α
  | [], _ => none
  | (k, v) :: rest, key => if k = key then some v else get? rest key

def set : Dict κ α → κ → α → Dict κ α
  | [], key, value => [(key, value)]
  | (k, v) :: rest, key, value => if k = key then (k, value) :: rest else (k, v) :: set rest key value

theorem get?_set (d : Dict κ α) (key other : κ) (value : α) :
    (d.set key value).get? other = if key = other then some value else d.get? other := by
  induction d with
  | nil => rfl
  | cons entry rest ih =>
    obtain ⟨k, v⟩ := entry
    unfold set
    by_cases here : k = key
    · subst here
      by_cases same : k = other
      · simp [get?, same]
      · simp [get?, same]
    · rw [if_neg here]
      by_cases found : k = other
      · subst found
        simp [get?, Ne.symm here]
      · simpa [get?, found] using ih

@[simp] theorem get?_set_self (d : Dict κ α) (key : κ) (value : α) :
    (d.set key value).get? key = some value := by
  rw [get?_set, if_pos rfl]

theorem get?_set_ne (d : Dict κ α) {key other : κ} (different : key ≠ other) (value : α) :
    (d.set key value).get? other = d.get? other := by
  rw [get?_set, if_neg different]

theorem mem_of_get? {d : Dict κ α} {key : κ} {value : α} (found : d.get? key = some value) :
    (key, value) ∈ d := by
  induction d with
  | nil => cases found
  | cons entry rest ih =>
    obtain ⟨k, v⟩ := entry
    unfold get? at found
    by_cases here : k = key
    · rw [if_pos here] at found
      cases found
      exact here ▸ List.mem_cons_self
    · rw [if_neg here] at found
      exact List.mem_cons_of_mem _ (ih found)

theorem mem_set {d : Dict κ α} {key : κ} {value : α} {entry : κ × α} (member : entry ∈ d.set key value) :
    entry = (key, value) ∨ entry ∈ d := by
  induction d with
  | nil => exact Or.inl (List.mem_singleton.mp member)
  | cons first rest ih =>
    obtain ⟨k, v⟩ := first
    unfold set at member
    by_cases here : k = key
    · rw [if_pos here] at member
      rcases List.mem_cons.mp member with rfl | later
      · exact Or.inl (by rw [here])
      · exact Or.inr (List.mem_cons_of_mem _ later)
    · rw [if_neg here] at member
      rcases List.mem_cons.mp member with rfl | later
      · exact Or.inr List.mem_cons_self
      · exact (ih later).imp_right (List.mem_cons_of_mem _)

/-- Setting keeps the keys, or adds a new one at the end. -/
theorem keys_set (d : Dict κ α) (key : κ) (value : α) :
    (d.set key value).map Prod.fst =
      if key ∈ d.map Prod.fst then d.map Prod.fst else d.map Prod.fst ++ [key] := by
  induction d with
  | nil => simp [set]
  | cons entry rest ih =>
    obtain ⟨k, v⟩ := entry
    unfold set
    by_cases here : k = key
    · simp [here]
    · have other : ¬key = k := Ne.symm here
      rw [if_neg here, List.map_cons, ih]
      simp only [List.map_cons, List.mem_cons, other, false_or]
      split
      · rfl
      · rfl

theorem set_of_notMem {d : Dict κ α} {key : κ} (new : key ∉ d.map Prod.fst) (value : α) :
    d.set key value = d ++ [(key, value)] := by
  induction d with
  | nil => rfl
  | cons entry rest ih =>
    obtain ⟨k, v⟩ := entry
    rw [List.map_cons, List.mem_cons, not_or] at new
    rw [set, if_neg (Ne.symm new.1), ih new.2]
    rfl

theorem get?_of_mem {d : Dict κ α} (unique : (d.map Prod.fst).Nodup) {key : κ} {value : α}
    (member : (key, value) ∈ d) : d.get? key = some value := by
  induction d with
  | nil => cases member
  | cons entry rest ih =>
    obtain ⟨k, v⟩ := entry
    obtain ⟨fresh, unique⟩ := List.nodup_cons.mp unique
    rcases List.mem_cons.mp member with same | later
    · cases same
      exact if_pos rfl
    · have other : k ≠ key := by
        rintro rfl
        exact fresh (List.mem_map.mpr ⟨_, later, rfl⟩)
      rw [get?, if_neg other]
      exact ih unique later

theorem get?_filter {d : Dict κ α} (unique : (d.map Prod.fst).Nodup) (keep : κ × α → Bool) (key : κ) (value : α) :
    get? (d.filter keep) key = some value ↔ d.get? key = some value ∧ keep (key, value) = true := by
  constructor
  · intro found
    obtain ⟨member, kept⟩ := List.mem_filter.mp (mem_of_get? found)
    exact ⟨get?_of_mem unique member, kept⟩
  · rintro ⟨found, kept⟩
    apply get?_of_mem (unique.sublist (List.filter_sublist.map _))
    exact List.mem_filter.mpr ⟨mem_of_get? found, kept⟩

def erase (d : Dict κ α) (key : κ) : Dict κ α := d.filter fun entry => entry.1 ≠ key

theorem get?_erase (d : Dict κ α) (key other : κ) :
    (d.erase key).get? other = if key = other then none else d.get? other := by
  induction d with
  | nil => simp [erase, get?]
  | cons entry rest ih =>
    obtain ⟨k, v⟩ := entry
    unfold erase at ih ⊢
    by_cases gone : k = key
    · rw [List.filter_cons_of_neg (by simp [gone]), ih]
      by_cases same : key = other
      · rw [if_pos same, if_pos same]
      · rw [if_neg same, if_neg same, get?, if_neg (gone ▸ same)]
    · rw [List.filter_cons_of_pos (by simp [gone]), get?, ih, get?]
      by_cases same : key = other
      · rw [if_pos same, if_pos same, if_neg (same ▸ gone)]
      · rw [if_neg same, if_neg same]

theorem keys_erase_sublist (d : Dict κ α) (key : κ) :
    ((d.erase key).map Prod.fst).Sublist (d.map Prod.fst) :=
  List.filter_sublist.map Prod.fst

theorem nodup_set {d : Dict κ α} (unique : (d.map Prod.fst).Nodup) (key : κ) (value : α) :
    ((d.set key value).map Prod.fst).Nodup := by
  rw [keys_set]
  split
  · exact unique
  · rename_i new
    exact List.nodup_append.mpr ⟨unique, List.nodup_singleton _, fun a member b own =>
      fun same => new (List.mem_singleton.mp own ▸ same ▸ member)⟩

theorem get?_isSome_iff (d : Dict κ α) (key : κ) : (d.get? key).isSome ↔ key ∈ d.map Prod.fst := by
  induction d with
  | nil => simp [get?]
  | cons entry rest ih =>
    obtain ⟨k, v⟩ := entry
    by_cases here : k = key
    · simp [get?, here]
    · simp [get?, here, Ne.symm here, ih]

/-- `d.update(entries)`. -/
def update (d : Dict κ α) (entries : List (κ × α)) : Dict κ α := entries.foldl (fun d entry => d.set entry.1 entry.2) d

theorem nodup_update {d : Dict κ α} (unique : (d.map Prod.fst).Nodup) (entries : List (κ × α)) :
    ((d.update entries).map Prod.fst).Nodup := by
  induction entries generalizing d with
  | nil => exact unique
  | cons entry entries ih =>
    exact ih (nodup_set unique _ _)

theorem mem_update {d : Dict κ α} {entries : List (κ × α)} {entry : κ × α} (member : entry ∈ d.update entries) :
    entry ∈ d ∨ entry ∈ entries := by
  induction entries generalizing d with
  | nil => exact Or.inl member
  | cons first entries ih =>
    rcases ih member with old | new
    · rcases mem_set old with rfl | old
      · exact Or.inr List.mem_cons_self
      · exact Or.inl old
    · exact Or.inr (List.mem_cons_of_mem _ new)

/-- Entries under new keys are appended. -/
theorem update_of_nodup {d : Dict κ α} {entries : List (κ × α)}
    (unique : (d.map Prod.fst ++ entries.map Prod.fst).Nodup) : d.update entries = d ++ entries := by
  induction entries generalizing d with
  | nil => rw [List.append_nil]; rfl
  | cons entry entries ih =>
    have new : entry.1 ∉ d.map Prod.fst := fun member =>
      (List.nodup_append.mp unique).2.2 _ member _ List.mem_cons_self rfl
    have step : d.update (entry :: entries) = (d ++ [entry]).update entries := by
      rw [update, List.foldl_cons, set_of_notMem new]
      rfl
    rw [step, ih (by simpa using unique), List.append_assoc]
    rfl

end Dict

end Python
