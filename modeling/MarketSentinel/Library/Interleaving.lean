import Mathlib.Logic.Relation

/-! Calls in flight on a shared state, one atomic step of one call at a time.

Calls that returned stay in the list with what they returned, so that a state holds
the history of its run.
-/

set_option autoImplicit false

namespace Interleaving

variable {σ κ : Type*}

structure World (σ κ : Type*) where
  shared : σ
  calls : List κ

/-- A call begins, or a call takes one step. -/
inductive Step (fresh : κ → Prop) (advance : σ → κ → σ → κ → Prop) : World σ κ → World σ κ → Prop where
  | enter {world : World σ κ} {call : κ} : fresh call → Step fresh advance world ⟨world.shared, world.calls ++ [call]⟩
  | move {world : World σ κ} {index : Nat} {call next : κ} {shared : σ} :
      world.calls[index]? = some call → advance world.shared call shared next →
      Step fresh advance world ⟨shared, world.calls.set index next⟩

/-- A step replaces one call in a tally. -/
theorem countP_set {calls : List κ} {index : Nat} {call : κ} (at_index : calls[index]? = some call) (next : κ)
    (tallied : κ → Bool) :
    (calls.set index next).countP tallied + (tallied call).toNat = calls.countP tallied + (tallied next).toNat := by
  induction calls generalizing index with
  | nil => simp at at_index
  | cons first rest ih =>
    cases index with
    | zero =>
      obtain rfl : first = call := by simpa using at_index
      simp only [List.set_cons_zero, List.countP_cons]
      cases tallied first <;> cases tallied next <;> simp
    | succ index =>
      have others := ih (by simpa using at_index)
      simp only [List.set_cons_succ, List.countP_cons]
      omega

/-- The call at an index of a list with one call replaced. -/
theorem getElem?_set {calls : List κ} {index other : Nat} {next found : κ}
    (at_other : (calls.set index next)[other]? = some found) :
    other = index ∧ found = next ∨ other ≠ index ∧ calls[other]? = some found := by
  by_cases same : index = other
  · rw [List.getElem?_set, if_pos same] at at_other
    split at at_other
    · exact .inl ⟨same.symm, (Option.some.inj at_other).symm⟩
    · cases at_other
  · rw [List.getElem?_set_ne same] at at_other
    exact .inr ⟨fun reverse => same reverse.symm, at_other⟩

variable {fresh : κ → Prop} {advance : σ → κ → σ → κ → Prop}

/-- A region of the shared state that no step of a call leaves. -/
theorem run_region (region : σ → Prop)
    (stays : ∀ {shared next call after}, region shared → advance shared call next after → region next)
    {first last : World σ κ} (run : Relation.ReflTransGen (Step fresh advance) first last) (inside : region first.shared) :
    region last.shared := by
  induction run with
  | refl => exact inside
  | tail _ step ih =>
    cases step with
    | enter => exact ih
    | move _ moves => exact stays ih moves

/-- Once a region of the shared state is entered that no step leaves, and in which no step of a call gives it a mark,
only the calls that had the mark have it. -/
theorem run_marked (region : σ → Prop) (marked : κ → Prop)
    (stays : ∀ {shared next call after}, region shared → advance shared call next after → region next)
    (unmarked : ∀ {call}, fresh call → ¬ marked call)
    (keeps : ∀ {shared next call after}, region shared → advance shared call next after → marked after → marked call)
    {first last : World σ κ} (run : Relation.ReflTransGen (Step fresh advance) first last) (inside : region first.shared) :
    ∀ (index : Nat) call, last.calls[index]? = some call → marked call →
      ∃ earlier, first.calls[index]? = some earlier ∧ marked earlier := by
  induction run with
  | refl => exact fun _ call found mark => ⟨call, found, mark⟩
  | tail run step ih =>
    intro index call found mark
    cases step with
    | enter begins =>
      rw [List.getElem?_append] at found
      split at found
      · exact ih index call found mark
      · have same := List.mem_singleton.mp (List.mem_of_getElem? found)
        exact absurd (same ▸ mark) (unmarked begins)
    | move at_index moves =>
      have within := run_region region stays run inside
      obtain ⟨rfl, rfl⟩ | ⟨_, found⟩ := getElem?_set found
      · exact ih _ _ at_index (keeps within moves mark)
      · exact ih index call found mark

section Schedules

/-- Whose turn it is: a call begins, or the call at an index takes its step. -/
inductive Turn (κ : Type*) where
  | enter (call : κ)
  | move (index : Nat)

/-- One turn, with a step of each call that is a function of the state. -/
def World.take (step : σ → κ → Option (σ × κ)) (world : World σ κ) : Turn κ → Option (World σ κ)
  | .enter call => some ⟨world.shared, world.calls ++ [call]⟩
  | .move index =>
    (world.calls[index]?).bind fun call => (step world.shared call).map fun taken =>
      ⟨taken.1, world.calls.set index taken.2⟩

/-- A schedule that can be followed to its end is a run. -/
theorem run_of_schedule {step : σ → κ → Option (σ × κ)}
    (steps : ∀ {shared call taken}, step shared call = some taken → advance shared call taken.1 taken.2)
    {turns : List (Turn κ)} (begins : ∀ call, Turn.enter call ∈ turns → fresh call) {first last : World σ κ}
    (followed : turns.foldlM (World.take step) first = some last) :
    Relation.ReflTransGen (Step fresh advance) first last := by
  induction turns generalizing first with
  | nil =>
    cases followed
    exact .refl
  | cons turn turns ih =>
    rw [List.foldlM_cons] at followed
    obtain ⟨next, taken, rest⟩ := Option.bind_eq_some_iff.mp followed
    have later := ih (fun call member => begins call (List.mem_cons_of_mem _ member)) rest
    refine .head ?_ later
    cases turn with
    | enter call =>
      cases taken
      exact .enter (begins call List.mem_cons_self)
    | move index =>
      obtain ⟨call, found, taken⟩ := Option.bind_eq_some_iff.mp taken
      obtain ⟨moved, stepped, rfl⟩ := Option.map_eq_some_iff.mp taken
      exact .move found (steps stepped)

end Schedules

end Interleaving
