import Mathlib.Data.List.Basic

/-! Peeling fallible computations apart. -/

set_option autoImplicit false

namespace Result

universe u v

section Bind

variable {ε : Type u} {α β : Type v}

theorem bind_eq_ok {x : Except ε α} {f : α → Except ε β} {b : β} :
    x >>= f = .ok b ↔ ∃ a, x = .ok a ∧ f a = .ok b := by
  cases x with
  | error e => simp [bind, Except.bind]
  | ok a => simp [bind, Except.bind]

theorem map_eq_ok {x : Except ε α} {f : α → β} {b : β} :
    x.map f = .ok b ↔ ∃ a, x = .ok a ∧ f a = b := by
  cases x with
  | error e => simp [Except.map]
  | ok a => simp [Except.map]

theorem toOption_eq_some {x : Except ε α} {a : α} (found : x.toOption = some a) : x = .ok a := by
  cases x with
  | ok b =>
    cases found
    rfl
  | error e => cases found

end Bind

section Errors

variable {ε : Type u} {α β : Type v} {allowed : ε → Prop}

/-- A computation that fails with an allowed error, if it fails. -/
def FailsWith (allowed : ε → Prop) (x : Except ε α) : Prop := ∀ e, x = .error e → allowed e

theorem failsWith_ok (a : α) : FailsWith allowed (.ok a : Except ε α) := by
  intro e failed
  cases failed

theorem failsWith_error {e : ε} (fine : allowed e) : FailsWith allowed (.error e : Except ε α) := by
  intro other failed
  cases failed
  exact fine

theorem FailsWith.bind {x : Except ε α} {f : α → Except ε β} (first : FailsWith allowed x)
    (rest : ∀ a, x = .ok a → FailsWith allowed (f a)) : FailsWith allowed (x >>= f) := by
  cases x with
  | error e => exact failsWith_error (first e rfl)
  | ok a => exact rest a rfl

end Errors

section Traverse

variable {ε : Type u} {α : Type*} {β : Type v} {f : α → Except ε β}

theorem mapM_cons_ok {a : α} {l : List α} {ys : List β} :
    (a :: l).mapM f = .ok ys ↔ ∃ y rest, f a = .ok y ∧ l.mapM f = .ok rest ∧ ys = y :: rest := by
  rw [List.mapM_cons]
  simp only [bind_eq_ok, pure, Except.pure, Except.ok.injEq]
  constructor
  · rintro ⟨y, head, rest, tail, rfl⟩
    exact ⟨y, rest, head, tail, rfl⟩
  · rintro ⟨y, rest, head, tail, rfl⟩
    exact ⟨y, head, rest, tail, rfl⟩

theorem mapM_length {l : List α} {ys : List β} (done : l.mapM f = .ok ys) : ys.length = l.length := by
  induction l generalizing ys with
  | nil =>
    cases done
    rfl
  | cons a l ih =>
    obtain ⟨y, rest, _, tail, rfl⟩ := mapM_cons_ok.mp done
    simp [ih tail]

theorem mem_of_mapM {l : List α} {ys : List β} (done : l.mapM f = .ok ys) {y : β} (member : y ∈ ys) :
    ∃ a ∈ l, f a = .ok y := by
  induction l generalizing ys with
  | nil =>
    cases done
    cases member
  | cons a l ih =>
    obtain ⟨first, rest, head, tail, rfl⟩ := mapM_cons_ok.mp done
    rcases List.mem_cons.mp member with rfl | later
    · exact ⟨a, List.mem_cons_self, head⟩
    · obtain ⟨other, among, found⟩ := ih tail later
      exact ⟨other, List.mem_cons_of_mem a among, found⟩

theorem mapM_ok_of_forall {motive : β → Prop} {l : List α} (each : ∀ a ∈ l, ∃ b, f a = .ok b ∧ motive b) :
    ∃ ys, l.mapM f = .ok ys ∧ ∀ y ∈ ys, motive y := by
  induction l with
  | nil => exact ⟨[], rfl, by simp⟩
  | cons a l ih =>
    obtain ⟨y, head, here⟩ := each a List.mem_cons_self
    obtain ⟨rest, tail, later⟩ := ih fun b member => each b (List.mem_cons_of_mem a member)
    refine ⟨y :: rest, mapM_cons_ok.mpr ⟨y, rest, head, tail, rfl⟩, fun z member => ?_⟩
    rcases List.mem_cons.mp member with rfl | member
    · exact here
    · exact later z member

theorem forall_of_mapM_ok {l : List α} {ys : List β} (done : l.mapM f = .ok ys) : ∀ a ∈ l, ∃ y, f a = .ok y := by
  induction l generalizing ys with
  | nil => simp
  | cons a l ih =>
    obtain ⟨y, rest, head, tail, rfl⟩ := mapM_cons_ok.mp done
    intro b member
    rcases List.mem_cons.mp member with rfl | later
    · exact ⟨y, head⟩
    · exact ih tail b later

theorem mapM_eq_map {g : α → β} {l : List α} {ys : List β} (each : ∀ a b, f a = .ok b → b = g a)
    (done : l.mapM f = .ok ys) : ys = l.map g := by
  induction l generalizing ys with
  | nil =>
    cases done
    rfl
  | cons a l ih =>
    obtain ⟨y, rest, head, tail, rfl⟩ := mapM_cons_ok.mp done
    rw [each a y head, ih tail, List.map_cons]

end Traverse

section Check

variable {ε : Type u} {α : Type*} {f : α → Except ε PUnit}

/-- A check of every element passes when each check does. -/
theorem forM_eq_ok {l : List α} : (l.forM f = .ok ⟨⟩) ↔ ∀ a ∈ l, f a = .ok ⟨⟩ := by
  induction l with
  | nil => simp [pure, Except.pure]
  | cons a l ih =>
    change (f a >>= fun _ => l.forM f) = _ ↔ _
    rw [bind_eq_ok]
    simp only [ih, List.forall_mem_cons]
    constructor
    · rintro ⟨⟨⟩, head, tail⟩
      exact ⟨head, tail⟩
    · rintro ⟨head, tail⟩
      exact ⟨⟨⟩, head, tail⟩

end Check

end Result
