import Mathlib.Data.List.Induction
import Mathlib.Data.List.Nodup

/-! The first element of each key.

A list is read from the left and keeps an element when no kept one has its key.
-/

set_option autoImplicit false

namespace FirstBy

variable {α κ : Type*} [DecidableEq κ] (key : α → κ)

def keep (kept : List α) (a : α) : List α := if key a ∈ kept.map key then kept else kept ++ [a]

def keepFirst (l : List α) : List α := l.foldl (keep key) []

@[simp] theorem keepFirst_nil : keepFirst key [] = [] := rfl

theorem keepFirst_append (l rest : List α) : keepFirst key (l ++ rest) = rest.foldl (keep key) (keepFirst key l) :=
  List.foldl_append

theorem keepFirst_concat (l : List α) (a : α) : keepFirst key (l ++ [a]) = keep key (keepFirst key l) a := by
  rw [keepFirst_append]
  rfl

theorem keepFirst_sublist (l : List α) : (keepFirst key l).Sublist l := by
  induction l using List.reverseRecOn with
  | nil => exact .slnil
  | append_singleton l a ih =>
    rw [keepFirst_concat, keep]
    split
    · exact ih.trans (List.sublist_append_left l [a])
    · exact ih.append (.refl [a])

theorem keepFirst_nodup (l : List α) : ((keepFirst key l).map key).Nodup := by
  induction l using List.reverseRecOn with
  | nil => exact List.nodup_nil
  | append_singleton l a ih =>
    rw [keepFirst_concat, keep]
    split
    · exact ih
    · rename_i new
      rw [List.map_append, List.nodup_append]
      refine ⟨ih, List.nodup_singleton _, fun first kept second own => ?_⟩
      rw [List.mem_singleton.mp own]
      exact fun same => new (same ▸ kept)

theorem mem_keys_keepFirst (l : List α) (k : κ) : k ∈ (keepFirst key l).map key ↔ k ∈ l.map key := by
  induction l using List.reverseRecOn generalizing k with
  | nil => exact Iff.rfl
  | append_singleton l a ih =>
    rw [keepFirst_concat, keep, List.map_append, List.mem_append]
    split
    · rename_i known
      rw [ih] at known
      rw [ih]
      constructor
      · exact Or.inl
      · rintro (old | own)
        · exact old
        · rw [List.mem_singleton.mp own]
          exact known
    · rw [List.map_append, List.mem_append, ih]

/-- A kept element comes before every other one of its key. -/
theorem keepFirst_first (l : List α) {a : α} (kept : a ∈ keepFirst key l) :
    ∃ before after, l = before ++ a :: after ∧ key a ∉ before.map key := by
  induction l using List.reverseRecOn with
  | nil => cases kept
  | append_singleton l b ih =>
    rw [keepFirst_concat, keep] at kept
    have earlier : a ∈ keepFirst key l → ∃ before after, l ++ [b] = before ++ a :: after ∧ key a ∉ before.map key := by
      intro old
      obtain ⟨before, after, rfl, first⟩ := ih old
      exact ⟨before, after ++ [b], by simp, first⟩
    split at kept
    · exact earlier kept
    · rename_i new
      rcases List.mem_append.mp kept with old | own
      · exact earlier old
      · rw [mem_keys_keepFirst] at new
        rw [List.mem_singleton.mp own]
        exact ⟨l, [], rfl, new⟩

variable {key} in
omit [DecidableEq κ] in
/-- Dropping the entries of distinct keys drops as many entries. -/
theorem length_filter_keys {entries : List α} {dropped : List κ} (stays : α → Bool)
    (drops : ∀ entry, stays entry = true ↔ key entry ∉ dropped)
    (distinct : (entries.map key).Nodup) (once : dropped.Nodup) (among : dropped ⊆ entries.map key) :
    (entries.filter stays).length + dropped.length = entries.length := by
  have gone : ((entries.filter fun entry => !stays entry).map key).Perm dropped := by
    refine (List.perm_ext_iff_of_nodup ((List.filter_sublist.map key).nodup distinct) once).mpr fun k => ?_
    have leaves : ∀ entry, (!stays entry) = true ↔ key entry ∈ dropped := by
      intro entry
      rw [Bool.not_eq_true', ← Bool.not_eq_true, drops, not_not]
    constructor
    · rintro member
      obtain ⟨entry, held, rfl⟩ := List.mem_map.mp member
      exact (leaves entry).mp (List.mem_filter.mp held).2
    · intro held
      obtain ⟨entry, member, rfl⟩ := List.mem_map.mp (among held)
      exact List.mem_map_of_mem (List.mem_filter.mpr ⟨member, (leaves entry).mpr held⟩)
  have parts := List.length_eq_length_filter_add (l := entries) stays
  have count := gone.length_eq
  rw [List.length_map] at count
  omega

end FirstBy
