import Mathlib.Logic.Relation

/-! Runs of a transition relation and the induction rule for their invariants. -/

set_option autoImplicit false

namespace Transition

variable {σ : Type*}

/-- A state that some run reaches from an initial state. -/
def Reachable (initial : σ → Prop) (step : σ → σ → Prop) (state : σ) : Prop :=
  ∃ first, initial first ∧ Relation.ReflTransGen step first state

theorem run_invariant {step : σ → σ → Prop} {invariant : σ → Prop}
    (preserved : ∀ before after, invariant before → step before after → invariant after)
    {first last : σ} (run : Relation.ReflTransGen step first last) (holds : invariant first) :
    invariant last := by
  induction run with
  | refl => exact holds
  | tail _ step ih => exact preserved _ _ ih step

/-- What holds initially and survives every step holds of every reachable state. -/
theorem reachable_invariant {initial : σ → Prop} {step : σ → σ → Prop} {invariant : σ → Prop}
    (starts : ∀ state, initial state → invariant state)
    (preserved : ∀ before after, invariant before → step before after → invariant after)
    {state : σ} (reachable : Reachable initial step state) : invariant state := by
  obtain ⟨first, begins, run⟩ := reachable
  exact run_invariant preserved run (starts first begins)

/-- What the steps of certain actions preserve holds after every list of them that runs. -/
theorem foldlM_invariant {α : Type*} {step : σ → α → Option σ} (invariant : σ → Prop) (plain : α → Prop)
    (preserved : ∀ {before after action}, plain action → invariant before → step before action = some after →
      invariant after)
    {actions : List α} {first last : σ} (ran : actions.foldlM step first = some last)
    (all : ∀ action ∈ actions, plain action) (holds : invariant first) : invariant last := by
  induction actions generalizing first with
  | nil =>
    cases ran
    exact holds
  | cons action rest ih =>
    obtain ⟨next, stepped, ran⟩ := Option.bind_eq_some_iff.mp ran
    have survives := preserved (all action List.mem_cons_self) holds stepped
    exact ih ran (fun later member => all later (List.mem_cons_of_mem _ member)) survives

/-- The outputs of a machine on a list of inputs, and the state it ends in. -/
def trace {α β : Type*} (step : σ → α → β × σ) (state : σ) : List α → List β × σ
  | [] => ([], state)
  | input :: rest =>
    let (output, next) := step state input
    let (outputs, last) := trace step next rest
    (output :: outputs, last)

/-- Machines that take the same steps on certain inputs have the same traces on them. -/
theorem trace_congr {α β : Type*} {step other : σ → α → β × σ} (plain : α → Prop)
    (same : ∀ state input, plain input → step state input = other state input) (state : σ) (inputs : List α)
    (all : ∀ input ∈ inputs, plain input) : trace step state inputs = trace other state inputs := by
  induction inputs generalizing state with
  | nil => rfl
  | cons input rest ih =>
    simp only [trace]
    rw [same state input (all input List.mem_cons_self),
      ih _ fun input member => all input (List.mem_cons_of_mem _ member)]

theorem trace_append {α β : Type*} (step : σ → α → β × σ) (state : σ) (inputs rest : List α) :
    trace step state (inputs ++ rest) =
      ((trace step state inputs).1 ++ (trace step (trace step state inputs).2 rest).1,
        (trace step (trace step state inputs).2 rest).2) := by
  induction inputs generalizing state with
  | nil => rfl
  | cons input inputs ih => simp only [List.cons_append, trace, ih]

theorem trace_length {α β : Type*} (step : σ → α → β × σ) (state : σ) (inputs : List α) :
    (trace step state inputs).1.length = inputs.length := by
  induction inputs generalizing state with
  | nil => rfl
  | cons input inputs ih => simp only [trace, List.length_cons, ih]

end Transition
