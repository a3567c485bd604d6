import Mathlib.Logic.Relation
import Mathlib.Order.RelClasses

/-! Loops that a variant ends: a turn goes on from another state or is the last. -/

set_option autoImplicit false

namespace Loop

variable {σ ρ : Type*}

inductive Turn (σ ρ : Type*) where
  | again (next : σ)
  | done (result : ρ)

/-- One state follows another in the loop. -/
def Again (turn : σ → Turn σ ρ) (state next : σ) : Prop := turn state = .again next

/-- A turn that goes on lowers the variant. -/
def Lowers (turn : σ → Turn σ ρ) (variant : σ → Nat) : Prop :=
  ∀ state next, turn state = .again next → variant next < variant state

def run (turn : σ → Turn σ ρ) (variant : σ → Nat) (lowers : Lowers turn variant) (state : σ) : ρ :=
  match _turned : turn state with
  | .again next => run turn variant lowers next
  | .done result => result
termination_by variant state
decreasing_by exact lowers state next _turned

variable {turn : σ → Turn σ ρ} {variant : σ → Nat} (lowers : Lowers turn variant)

theorem run_again {state next : σ} (turned : turn state = .again next) :
    run turn variant lowers state = run turn variant lowers next := by
  rw [run]
  split
  · rename_i other again
    rw [turned] at again
    cases again
    rfl
  · rename_i result done
    rw [turned] at done
    cases done

theorem run_done {state : σ} {result : ρ} (turned : turn state = .done result) :
    run turn variant lowers state = result := by
  rw [run]
  split
  · rename_i next again
    rw [turned] at again
    cases again
  · rename_i other done
    rw [turned] at done
    cases done
    rfl

/-- What every state inherits from its successor holds of all states. -/
theorem induct (lowers : Lowers turn variant) {property : σ → Prop}
    (turns : ∀ state, (∀ next, turn state = .again next → property next) → property state) (state : σ) :
    property state := by
  induction size : variant state using Nat.strongRecOn generalizing state with
  | ind size ih =>
    apply turns
    intro next again
    exact ih (variant next) (size ▸ lowers state next again) next rfl

/-- Turn after turn, the loop comes to a last state, and its result is the loop's. -/
theorem run_ends (state : σ) :
    ∃ last, Relation.ReflTransGen (Again turn) state last ∧ turn last = .done (run turn variant lowers state) := by
  induction state using induct lowers with
  | turns state ih =>
    cases turned : turn state with
    | again next =>
      obtain ⟨last, reached, done⟩ := ih next turned
      refine ⟨last, Relation.ReflTransGen.head turned reached, ?_⟩
      rw [done, run_again lowers turned]
    | done result => exact ⟨state, .refl, by rw [turned, run_done lowers turned]⟩

end Loop
