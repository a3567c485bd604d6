import Mathlib.Logic.Basic

/-! Programs over a state that may stop with an error.

The state survives an error, as effects survive an exception. A triple says what
holds after a result and what holds after an error.
-/

set_option autoImplicit false

def Program (ε σ α : Type) : Type := σ → Except ε α × σ

namespace Program

variable {ε σ α β : Type}

instance : Monad (Program ε σ) where
  pure a s := (.ok a, s)
  bind program next s :=
    match program s with
    | (.ok a, t) => next a t
    | (.error e, t) => (.error e, t)

def raise (e : ε) : Program ε σ α := fun s => (.error e, s)

def ofExcept (x : Except ε α) : Program ε σ α := fun s => (x, s)

def state : Program ε σ σ := fun s => (.ok s, s)

def modify (f : σ → σ) : Program ε σ Unit := fun s => (.ok (), f s)

def require (holds : Bool) (e : ε) : Program ε σ Unit := if holds then pure () else raise e

/-- The result or the error of a program, which goes on in both cases. -/
def attempt (program : Program ε σ α) : Program ε σ (Except ε α) := fun s => (.ok (program s).1, (program s).2)

theorem bind_ok {program : Program ε σ α} {next : α → Program ε σ β} {s t : σ} {a : α}
    (outcome : program s = (.ok a, t)) : (program >>= next) s = next a t := by
  change (match program s with
    | (.ok a, t) => next a t
    | (.error e, t) => (.error e, t)) = _
  rw [outcome]

theorem bind_error {program : Program ε σ α} {next : α → Program ε σ β} {s t : σ} {e : ε}
    (outcome : program s = (.error e, t)) : (program >>= next) s = (.error e, t) := by
  change (match program s with
    | (.ok a, t) => next a t
    | (.error e, t) => (.error e, t)) = _
  rw [outcome]

@[simp] theorem pure_apply (a : α) (s : σ) : (pure a : Program ε σ α) s = (.ok a, s) := rfl

@[simp] theorem bind_value (a : α) (next : α → Program ε σ β) (s : σ) : (ofExcept (.ok a) >>= next) s = next a s := rfl

@[simp] theorem bind_state (next : σ → Program ε σ β) (s : σ) : (state >>= next) s = next s s := rfl

@[simp] theorem bind_modify (f : σ → σ) (next : Unit → Program ε σ β) (s : σ) :
    (modify f >>= next) s = next () (f s) := rfl

def Triple (pre : σ → Prop) (program : Program ε σ α) (post : α → σ → Prop) (failed : σ → Prop) : Prop :=
  ∀ s, pre s → match program s with
    | (.ok a, t) => post a t
    | (.error _, t) => failed t

variable {pre : σ → Prop} {post : α → σ → Prop} {failed : σ → Prop}

theorem Triple.pure {a : α} (holds : ∀ s, pre s → post a s) : Triple pre (pure a : Program ε σ α) post failed :=
  holds

theorem Triple.raise {e : ε} (holds : ∀ s, pre s → failed s) : Triple pre (raise e : Program ε σ α) post failed :=
  holds

theorem Triple.bind {program : Program ε σ α} {next : α → Program ε σ β} {post : β → σ → Prop}
    (middle : α → σ → Prop) (first : Triple pre program middle failed)
    (rest : ∀ a, Triple (middle a) (next a) post failed) : Triple pre (program >>= next) post failed := by
  intro s holds
  have outcome := first s holds
  change match (match program s with
    | (.ok a, t) => next a t
    | (.error e, t) => (.error e, t)) with
    | (.ok b, t) => post b t
    | (.error _, t) => failed t
  revert outcome
  match program s with
  | (.ok a, t) => exact rest a t
  | (.error e, t) => exact id

/-- The state read is the state the rest starts from. -/
theorem Triple.state {next : σ → Program ε σ β} {post : β → σ → Prop}
    (rest : ∀ now, pre now → Triple (fun s => s = now) (next now) post failed) :
    Triple pre (Program.state >>= next) post failed := fun s holds => rest s holds s rfl

theorem Triple.modify {f : σ → σ} {post : Unit → σ → Prop} (holds : ∀ s, pre s → post () (f s)) :
    Triple pre (modify f : Program ε σ Unit) post failed := holds

theorem Triple.ofExcept {x : Except ε α} (success : ∀ a, x = .ok a → ∀ s, pre s → post a s)
    (failure : ∀ s, pre s → failed s) : Triple pre (ofExcept x) post failed := by
  intro s holds
  cases x with
  | ok a => exact success a rfl s holds
  | error e => exact failure s holds

theorem Triple.value {x : Except ε α} {next : α → Program ε σ β} {post : β → σ → Prop}
    (failure : ∀ s, pre s → failed s) (rest : ∀ a, x = .ok a → Triple pre (next a) post failed) :
    Triple pre (Program.ofExcept x >>= next) post failed := by
  intro s given
  cases x with
  | ok a => exact rest a rfl s given
  | error e => exact failure s given

theorem Triple.known {x : Except ε α} {a : α} {next : α → Program ε σ β} {post : β → σ → Prop} (known : x = .ok a)
    (rest : Triple pre (next a) post failed) : Triple pre (Program.ofExcept x >>= next) post failed := by
  rw [known]
  exact rest

theorem Triple.require {holds : Bool} {e : ε} {post : Unit → σ → Prop}
    (success : holds = true → ∀ s, pre s → post () s) (failure : ∀ s, pre s → failed s) :
    Triple pre (require holds e) post failed := by
  intro s given
  cases holds with
  | true => exact success rfl s given
  | false => exact failure s given

theorem Triple.decided {holds : Bool} {e : ε} {next : Unit → Program ε σ β} {post : β → σ → Prop}
    (failure : holds = false → ∀ s, pre s → failed s) (rest : holds = true → Triple pre (next ()) post failed) :
    Triple pre (Program.require holds e >>= next) post failed := by
  intro s given
  cases holds with
  | true => exact rest rfl s given
  | false => exact failure rfl s given

/-- What was required may be used by the rest. -/
theorem Triple.check {holds : Bool} {e : ε} {next : Unit → Program ε σ β} {post : β → σ → Prop}
    (failure : ∀ s, pre s → failed s) (rest : holds = true → Triple pre (next ()) post failed) :
    Triple pre (Program.require holds e >>= next) post failed := Triple.decided (fun _ => failure) rest

theorem Triple.attempt {program : Program ε σ α} {post : Except ε α → σ → Prop} {other : σ → Prop}
    (inner : Triple pre program (fun a => post (.ok a)) (fun s => ∀ e, post (.error e) s)) :
    Triple pre (attempt program) post other := by
  intro s holds
  have outcome := inner s holds
  change post (program s).1 (program s).2
  revert outcome
  match program s with
  | (.ok a, t) => exact id
  | (.error e, t) => exact fun all => all e

/-- A caught error goes on from the state it left behind. -/
theorem Triple.caught {program : Program ε σ α} {next : Except ε α → Program ε σ β} {post : β → σ → Prop}
    (middle : α → σ → Prop) (stopped : σ → Prop) (first : Triple pre program middle stopped)
    (success : ∀ a, Triple (middle a) (next (.ok a)) post failed)
    (failure : ∀ e, Triple stopped (next (.error e)) post failed) :
    Triple pre (Program.attempt program >>= next) post failed := by
  intro s holds
  have outcome := first s holds
  change match next (program s).1 (program s).2 with
    | (.ok b, t) => post b t
    | (.error _, t) => failed t
  revert outcome
  match program s with
  | (.ok a, t) => exact success a t
  | (.error e, t) => exact failure e t

theorem Triple.result {program : Program ε σ α} (triple : Triple pre program post failed) {s : σ} {a : α}
    (holds : pre s) (done : (program s).1 = .ok a) : post a (program s).2 := by
  have outcome := triple s holds
  revert outcome done
  match program s with
  | (.ok b, t) =>
    rintro ⟨⟩
    exact id
  | (.error e, t) => exact fun impossible => by cases impossible

theorem Triple.final {program : Program ε σ α} {held : σ → Prop} (triple : Triple pre program post failed)
    (after : ∀ a s, post a s → held s) (error : ∀ s, failed s → held s) {s : σ} (holds : pre s) :
    held (program s).2 := by
  have outcome := triple s holds
  revert outcome
  match program s with
  | (.ok a, t) => exact after a t
  | (.error e, t) => exact error t

theorem Triple.skip {program : Program ε σ α} : Triple (fun _ => True) program (fun _ _ => True) fun _ => True := by
  intro s _
  match program s with
  | (.ok _, _) => trivial
  | (.error _, _) => trivial

theorem Triple.both {program : Program ε σ α} {pre' : σ → Prop} {post post' : α → σ → Prop} {failed' : σ → Prop}
    (first : Triple pre program post failed) (second : Triple pre' program post' failed') :
    Triple (fun s => pre s ∧ pre' s) program (fun a s => post a s ∧ post' a s) fun s => failed s ∧ failed' s := by
  intro s given
  have here := first s given.1
  have there := second s given.2
  revert here there
  match program s with
  | (.ok a, t) => exact And.intro
  | (.error e, t) => exact And.intro

theorem Triple.weaken {program : Program ε σ α} {pre' : σ → Prop} {post' : α → σ → Prop} {failed' : σ → Prop}
    (triple : Triple pre program post failed) (before : ∀ s, pre' s → pre s)
    (after : ∀ a s, post a s → post' a s) (error : ∀ s, failed s → failed' s) :
    Triple pre' program post' failed' := by
  intro s holds
  have outcome := triple s (before s holds)
  revert outcome
  match program s with
  | (.ok a, t) => exact after a t
  | (.error e, t) => exact error t

end Program
