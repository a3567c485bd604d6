import MarketSentinel.Library.Interleaving
import MarketSentinel.Library.Transition

/-! Admission of mutations and the drain before a shutdown.

A step is one section under a lock, or one access to the drain flag or the semaphore.
Time is not modelled: a wait may find its deadline passed at any look at the clock.
-/

set_option autoImplicit false

namespace MarketSentinel.Server

open Interleaving

structure BoundedSemaphore where
  limit : Nat
  free : Nat
  bounded : free ≤ limit

namespace BoundedSemaphore

/-- `acquire(blocking=False)`. -/
def acquire (slots : BoundedSemaphore) : Option BoundedSemaphore :=
  if 0 < slots.free then some ⟨slots.limit, slots.free - 1, Nat.le_trans (Nat.sub_le _ _) slots.bounded⟩ else none

/-- Nothing when the value would pass the initial one, which raises. -/
def release (slots : BoundedSemaphore) : Option BoundedSemaphore :=
  if below : slots.free < slots.limit then some ⟨slots.limit, slots.free + 1, below⟩ else none

theorem acquire_spec {slots left : BoundedSemaphore} (acquired : slots.acquire = some left) :
    left.limit = slots.limit ∧ left.free + 1 = slots.free := by
  unfold acquire at acquired
  split at acquired
  · cases acquired
    refine ⟨rfl, ?_⟩
    simp only
    omega
  · cases acquired

theorem release_spec {slots left : BoundedSemaphore} (released : slots.release = some left) :
    left.limit = slots.limit ∧ left.free = slots.free + 1 := by
  unfold release at released
  split at released
  · cases released
    exact ⟨rfl, rfl⟩
  · cases released

theorem release_eq_none {slots : BoundedSemaphore} : slots.release = none ↔ slots.free = slots.limit := by
  have bounded := slots.bounded
  unfold release
  split <;> simp <;> omega

end BoundedSemaphore

structure HttpRequestMetrics where
  mutationsInFlight : Nat
  mutationAdmissionRejections : Nat

def HttpRequestMetrics.mutationAdmitted (metrics : HttpRequestMetrics) : HttpRequestMetrics :=
  { metrics with mutationsInFlight := metrics.mutationsInFlight + 1 }

def HttpRequestMetrics.mutationFinished (metrics : HttpRequestMetrics) : HttpRequestMetrics :=
  { metrics with mutationsInFlight := metrics.mutationsInFlight - 1 }

def HttpRequestMetrics.recordMutationAdmissionRejection (metrics : HttpRequestMetrics) : HttpRequestMetrics :=
  { metrics with mutationAdmissionRejections := metrics.mutationAdmissionRejections + 1 }

structure ReactGuiServer where
  httpMetrics : HttpRequestMetrics
  mutationSlots : BoundedSemaphore
  draining : Bool
  admittedMutations : Nat

/-- Where a mutation stands, from the call of `try_admit_mutation` to the end of `finish_mutation_admission`. -/
inductive Stage where
  | called
  | unflagged
  | saturated
  | slotted
  | counted
  | admitted
  | refused
  | finishing
  | measured
  | uncounted
  | finished
  | overReleased
  deriving DecidableEq

namespace ReactGuiServer

def tryAdmitMutation (server : ReactGuiServer) : Stage → Option (ReactGuiServer × Stage)
  | .called => some (server, if server.draining then .refused else .unflagged)
  | .unflagged => some (match server.mutationSlots.acquire with
    | some slots => ({ server with mutationSlots := slots }, .slotted)
    | none => (server, .saturated))
  | .saturated =>
    some ({ server with httpMetrics := server.httpMetrics.recordMutationAdmissionRejection }, .refused)
  -- the section under the drain condition
  | .slotted =>
    some (if server.draining then
      match server.mutationSlots.release with
      | some slots => ({ server with mutationSlots := slots }, .refused)
      | none => (server, .overReleased)
    else ({ server with admittedMutations := server.admittedMutations + 1 }, .counted))
  | .counted => some ({ server with httpMetrics := server.httpMetrics.mutationAdmitted }, .admitted)
  | _ => none

/-- From an admitted mutation on. Waiters that are notified look again in a step of their own. -/
def finishMutationAdmission (server : ReactGuiServer) : Stage → Option (ReactGuiServer × Stage)
  | .admitted => some (server, .finishing)
  | .finishing => some ({ server with httpMetrics := server.httpMetrics.mutationFinished }, .measured)
  | .measured => some ({ server with admittedMutations := server.admittedMutations - 1 }, .uncounted)
  | .uncounted => some (match server.mutationSlots.release with
    | some slots => ({ server with mutationSlots := slots }, .finished)
    | none => (server, .overReleased))
  | _ => none

def beginDrain (server : ReactGuiServer) : ReactGuiServer × Bool :=
  ({ server with draining := true }, !server.draining)

end ReactGuiServer

inductive Waiting where
  | testing
  | parked
  | returned (drained : Bool)
  deriving DecidableEq

/-- One look at the counter, or the wake-up of a parked call by a notification or by the time. -/
def ReactGuiServer.waitForMutationDrain (server : ReactGuiServer) (late : Bool) : Waiting → Option Waiting
  | .testing =>
    some (if server.admittedMutations = 0 then .returned true else if late then .returned false else .parked)
  | .parked => some .testing
  | .returned _ => none

inductive Call where
  | mutation (stage : Stage)
  | drain (began : Option Bool)
  | wait (stage : Waiting)
  deriving DecidableEq

inductive Fresh : Call → Prop where
  | mutation : Fresh (.mutation .called)
  | drain : Fresh (.drain none)
  | wait : Fresh (.wait .testing)

inductive Advance : ReactGuiServer → Call → ReactGuiServer → Call → Prop where
  | entry {server next : ReactGuiServer} {stage after : Stage} :
      server.tryAdmitMutation stage = some (next, after) → Advance server (.mutation stage) next (.mutation after)
  | finish {server next : ReactGuiServer} {stage after : Stage} :
      server.finishMutationAdmission stage = some (next, after) → Advance server (.mutation stage) next (.mutation after)
  | drain {server : ReactGuiServer} :
      Advance server (.drain none) server.beginDrain.1 (.drain (some server.beginDrain.2))
  | wait {server : ReactGuiServer} {late : Bool} {stage after : Waiting} :
      server.waitForMutationDrain late stage = some after → Advance server (.wait stage) server (.wait after)

abbrev Serving := World ReactGuiServer Call

def started (mutationLimit : Nat) : Serving := ⟨⟨⟨0, 0⟩, ⟨mutationLimit, mutationLimit, Nat.le_refl _⟩, false, 0⟩, []⟩

/-- A run of the server that started with a mutation limit. -/
def Run (mutationLimit : Nat) (world : Serving) : Prop :=
  Relation.ReflTransGen (Step Fresh Advance) (started mutationLimit) world

/-- Counted under the condition, and not uncounted yet. -/
def Call.unfinished : Call → Bool
  | .mutation .counted | .mutation .admitted | .mutation .finishing | .mutation .measured => true
  | _ => false

def Call.holdsSlot : Call → Bool
  | .mutation .slotted | .mutation .uncounted => true
  | call => call.unfinished

def Call.began : Call → Bool
  | .drain (some true) => true
  | _ => false

def Call.drainReturned : Call → Bool
  | .drain (some _) => true
  | _ => false

/-- Admission was granted, whatever became of the mutation since. -/
def Call.succeeded : Call → Bool
  | .mutation .uncounted | .mutation .finished => true
  | call => call.unfinished

/-- What a step of a call does to the tallies, given the tallies that the call is part of. -/
structure Balance (server next : ReactGuiServer) (call after : Call) : Prop where
  limit : next.mutationSlots.limit = server.mutationSlots.limit
  counter : next.admittedMutations + call.unfinished.toNat = server.admittedMutations + after.unfinished.toNat
  slots : next.mutationSlots.free + after.holdsSlot.toNat = server.mutationSlots.free + call.holdsSlot.toNat
  flag : after.began.toNat + server.draining.toNat = call.began.toNat + next.draining.toNat
  announced : after.drainReturned = true → next.draining = true ∨ call.drainReturned = true
  kept : server.draining = true → next.draining = true
  released : after ≠ .mutation .overReleased

theorem tryAdmitMutation_balance {server next : ReactGuiServer} {stage after : Stage}
    (step : server.tryAdmitMutation stage = some (next, after))
    (held : (Call.mutation stage).holdsSlot = true → server.mutationSlots.free < server.mutationSlots.limit) :
    Balance server next (.mutation stage) (.mutation after) := by
  cases stage with
  | called =>
    cases step
    cases flag : server.draining <;> constructor <;> simp [Call.holdsSlot, Call.unfinished, Call.began, Call.drainReturned]
  | unflagged =>
    simp only [ReactGuiServer.tryAdmitMutation, Option.some.injEq] at step
    cases taken : server.mutationSlots.acquire with
    | none =>
      rw [taken] at step
      cases step
      constructor <;> simp [Call.holdsSlot, Call.unfinished, Call.began, Call.drainReturned]
    | some slots =>
      obtain ⟨limit, free⟩ := BoundedSemaphore.acquire_spec taken
      rw [taken] at step
      cases step
      constructor <;> simp [Call.holdsSlot, Call.unfinished, Call.began, Call.drainReturned, limit, free]
  | saturated =>
    cases step
    constructor <;> simp [Call.holdsSlot, Call.unfinished, Call.began, Call.drainReturned]
  | slotted =>
    simp only [ReactGuiServer.tryAdmitMutation, Option.some.injEq] at step
    split at step
    · cases given : server.mutationSlots.release with
      | none => exact absurd (BoundedSemaphore.release_eq_none.mp given) (Nat.ne_of_lt (held rfl))
      | some slots =>
        obtain ⟨limit, free⟩ := BoundedSemaphore.release_spec given
        rw [given] at step
        cases step
        constructor <;> simp [Call.holdsSlot, Call.unfinished, Call.began, Call.drainReturned, limit, free]
    · cases step
      constructor <;> simp [Call.holdsSlot, Call.unfinished, Call.began, Call.drainReturned]
  | counted =>
    cases step
    constructor <;> simp [Call.holdsSlot, Call.unfinished, Call.began, Call.drainReturned]
  | _ => cases step

theorem finishMutationAdmission_balance {server next : ReactGuiServer} {stage after : Stage}
    (step : server.finishMutationAdmission stage = some (next, after))
    (counted : (Call.mutation stage).unfinished = true → 0 < server.admittedMutations)
    (held : (Call.mutation stage).holdsSlot = true → server.mutationSlots.free < server.mutationSlots.limit) :
    Balance server next (.mutation stage) (.mutation after) := by
  cases stage with
  | admitted | finishing =>
    cases step
    constructor <;> simp [Call.holdsSlot, Call.unfinished, Call.began, Call.drainReturned]
  | measured =>
    have positive := counted rfl
    cases step
    constructor <;> simp [Call.holdsSlot, Call.unfinished, Call.began, Call.drainReturned]
    omega
  | uncounted =>
    simp only [ReactGuiServer.finishMutationAdmission, Option.some.injEq] at step
    cases given : server.mutationSlots.release with
    | none => exact absurd (BoundedSemaphore.release_eq_none.mp given) (Nat.ne_of_lt (held rfl))
    | some slots =>
      obtain ⟨limit, free⟩ := BoundedSemaphore.release_spec given
      rw [given] at step
      cases step
      constructor <;> simp [Call.holdsSlot, Call.unfinished, Call.began, Call.drainReturned, limit, free]
  | _ => cases step

theorem Advance.balance {server next : ReactGuiServer} {call after : Call} (step : Advance server call next after)
    (counted : call.unfinished = true → 0 < server.admittedMutations)
    (held : call.holdsSlot = true → server.mutationSlots.free < server.mutationSlots.limit) :
    Balance server next call after := by
  cases step with
  | entry step => exact tryAdmitMutation_balance step held
  | finish step => exact finishMutationAdmission_balance step counted held
  | drain =>
    constructor <;>
      simp [ReactGuiServer.beginDrain, Call.holdsSlot, Call.unfinished, Call.began, Call.drainReturned]
    cases server.draining <;> rfl
  | wait => constructor <;> simp [Call.holdsSlot, Call.unfinished, Call.began, Call.drainReturned]

/-- The counter and the semaphore agree with the calls in flight. -/
structure Balanced (mutationLimit : Nat) (world : Serving) : Prop where
  limit : world.shared.mutationSlots.limit = mutationLimit
  counter : world.shared.admittedMutations = world.calls.countP Call.unfinished
  slots : world.shared.mutationSlots.free + world.calls.countP Call.holdsSlot = mutationLimit
  flag : world.calls.countP Call.began = world.shared.draining.toNat
  announced : ∀ call ∈ world.calls, call.drainReturned = true → world.shared.draining = true
  released : ∀ call ∈ world.calls, call ≠ .mutation .overReleased

theorem Balanced.enter {mutationLimit : Nat} {world : Serving} {call : Call} (balanced : Balanced mutationLimit world)
    (fresh : Fresh call) : Balanced mutationLimit ⟨world.shared, world.calls ++ [call]⟩ where
  limit := balanced.limit
  counter := by
    rw [List.countP_append, ← balanced.counter]
    cases fresh <;> rfl
  slots := by
    rw [List.countP_append, ← Nat.add_assoc, balanced.slots]
    cases fresh <;> rfl
  flag := by
    rw [List.countP_append, balanced.flag]
    cases fresh <;> rfl
  announced := by
    intro other member returned
    obtain member | member := List.mem_append.mp member
    · exact balanced.announced other member returned
    · cases List.mem_singleton.mp member
      cases fresh <;> cases returned
  released := by
    intro other member
    obtain member | member := List.mem_append.mp member
    · exact balanced.released other member
    · cases List.mem_singleton.mp member
      cases fresh <;> simp

theorem Balanced.move {mutationLimit : Nat} {world : Serving} {index : Nat} {call after : Call} {next : ReactGuiServer}
    (balanced : Balanced mutationLimit world) (at_index : world.calls[index]? = some call)
    (step : Advance world.shared call next after) : Balanced mutationLimit ⟨next, world.calls.set index after⟩ := by
  have inside := List.mem_of_getElem? at_index
  have balance := step.balance
    (fun unfinished => by
      rw [balanced.counter]
      exact List.countP_pos_iff.mpr ⟨call, inside, unfinished⟩)
    (fun holds => by
      have held : 0 < world.calls.countP Call.holdsSlot := List.countP_pos_iff.mpr ⟨call, inside, holds⟩
      have slots := balanced.slots
      rw [balanced.limit]
      omega)
  constructor
  · exact balance.limit.trans balanced.limit
  · have tally := countP_set at_index after Call.unfinished
    have counter := balance.counter
    have before := balanced.counter
    simp only
    omega
  · have tally := countP_set at_index after Call.holdsSlot
    have slots := balance.slots
    have before := balanced.slots
    simp only
    omega
  · have tally := countP_set at_index after Call.began
    have flag := balance.flag
    have before := balanced.flag
    simp only
    omega
  · intro other member returned
    obtain member | rfl := List.mem_or_eq_of_mem_set member
    · exact balance.kept (balanced.announced other member returned)
    · obtain drained | earlier := balance.announced returned
      · exact drained
      · exact balance.kept (balanced.announced call inside earlier)
  · intro other member
    obtain member | rfl := List.mem_or_eq_of_mem_set member
    · exact balanced.released other member
    · exact balance.released

theorem Run.balanced {mutationLimit : Nat} {world : Serving} (run : Run mutationLimit world) :
    Balanced mutationLimit world := by
  apply Transition.run_invariant _ run
  · exact ⟨rfl, rfl, rfl, rfl, by simp [started], by simp [started]⟩
  · intro before after balanced step
    cases step with
    | enter fresh => exact balanced.enter fresh
    | move at_index step => exact balanced.move at_index step

theorem unfinished_le_holdsSlot (calls : List Call) : calls.countP Call.unfinished ≤ calls.countP Call.holdsSlot := by
  apply List.countP_mono_left
  intro call _ unfinished
  unfold Call.holdsSlot
  split
  · rfl
  · rfl
  · exact unfinished

theorem tryAdmitMutation_draining {server next : ReactGuiServer} {stage after : Stage}
    (draining : server.draining = true) (step : server.tryAdmitMutation stage = some (next, after)) :
    next.draining = true ∧ next.admittedMutations ≤ server.admittedMutations ∧
      ((Call.mutation after).succeeded = true → (Call.mutation stage).succeeded = true) := by
  cases stage with
  | called =>
    cases step
    simp [draining, Call.succeeded, Call.unfinished]
  | unflagged =>
    simp only [ReactGuiServer.tryAdmitMutation, Option.some.injEq] at step
    split at step <;> cases step <;> simp [draining, Call.succeeded, Call.unfinished]
  | slotted =>
    simp only [ReactGuiServer.tryAdmitMutation, draining, Option.some.injEq, if_true] at step
    split at step <;> cases step <;> simp [draining, Call.succeeded, Call.unfinished]
  | saturated | counted =>
    cases step
    simp [draining, Call.succeeded, Call.unfinished]
  | _ => cases step

theorem finishMutationAdmission_draining {server next : ReactGuiServer} {stage after : Stage}
    (draining : server.draining = true) (step : server.finishMutationAdmission stage = some (next, after)) :
    next.draining = true ∧ next.admittedMutations ≤ server.admittedMutations ∧
      ((Call.mutation after).succeeded = true → (Call.mutation stage).succeeded = true) := by
  cases stage with
  | uncounted =>
    simp only [ReactGuiServer.finishMutationAdmission, Option.some.injEq] at step
    split at step <;> cases step <;> simp [draining, Call.succeeded]
  | admitted | finishing | measured =>
    cases step
    simp [draining, Call.succeeded, Call.unfinished]
  | _ => cases step

/-- While the server drains, no step counts a mutation. -/
theorem Advance.draining {server next : ReactGuiServer} {call after : Call} (draining : server.draining = true)
    (step : Advance server call next after) :
    next.draining = true ∧ next.admittedMutations ≤ server.admittedMutations ∧
      (after.succeeded = true → call.succeeded = true) := by
  cases step with
  | entry step => exact tryAdmitMutation_draining draining step
  | finish step => exact finishMutationAdmission_draining draining step
  | drain => exact ⟨rfl, Nat.le_refl _, by simp [Call.succeeded, Call.unfinished]⟩
  | wait => exact ⟨draining, Nat.le_refl _, by simp [Call.succeeded, Call.unfinished]⟩

theorem waitForMutationDrain_returned {server : ReactGuiServer} {late : Bool} {stage : Waiting}
    (step : server.waitForMutationDrain late stage = some (.returned true)) : server.admittedMutations = 0 := by
  cases stage with
  | testing =>
    simp only [ReactGuiServer.waitForMutationDrain, Option.some.injEq] at step
    split at step
    · assumption
    · split at step <;> cases step
  | parked => cases step
  | returned => cases step

/-- A wait that begins once the server drains finds the counter at zero for good. -/
theorem drained_of_returned {world last : Serving} (later : Relation.ReflTransGen (Step Fresh Advance) world last)
    (draining : world.shared.draining = true) :
    ∀ index, world.calls.length ≤ index → last.calls[index]? = some (.wait (.returned true)) →
      last.shared.admittedMutations = 0 := by
  induction later with
  | refl =>
    intro index beyond found
    rw [List.getElem?_eq_none beyond] at found
    cases found
  | @tail before after earlier step ih =>
    intro index beyond found
    have drains := run_region (fun server => server.draining = true) (fun drains step => (Advance.draining drains step).1) earlier draining
    cases step with
    | enter fresh =>
      rw [List.getElem?_append] at found
      split at found
      · exact ih index beyond found
      · cases List.mem_singleton.mp (List.mem_of_getElem? found)
        cases fresh
    | move at_index step =>
      obtain ⟨_, rfl⟩ | ⟨_, found⟩ := getElem?_set found
      · cases step with
        | wait step => exact waitForMutationDrain_returned step
      · exact Nat.le_zero.mp ((ih index beyond found) ▸ (Advance.draining drains step).2.1)

theorem Balanced.began_eq {mutationLimit : Nat} {world : Serving} (balanced : Balanced mutationLimit world) :
    world.calls.countP Call.began = if world.calls.any Call.drainReturned then 1 else 0 := by
  split
  · rename_i returned
    obtain ⟨call, member, returned⟩ := List.any_eq_true.mp returned
    rw [balanced.flag, balanced.announced call member returned]
    rfl
  · rename_i silent
    apply List.countP_eq_zero.mpr
    intro call member began
    apply silent
    refine List.any_eq_true.mpr ⟨call, member, ?_⟩
    unfold Call.began at began
    split at began
    · rfl
    · cases began

theorem Balanced.all_free {mutationLimit : Nat} {world : Serving} (balanced : Balanced mutationLimit world)
    (ended : ∀ stage, Call.mutation stage ∈ world.calls → stage = .refused ∨ stage = .finished) :
    world.shared.mutationSlots.free = mutationLimit := by
  have none_held : world.calls.countP Call.holdsSlot = 0 := by
    apply List.countP_eq_zero.mpr
    intro call member holds
    cases call with
    | mutation stage => obtain rfl | rfl := ended stage member <;> cases holds
    | drain | wait => cases holds
  have slots := balanced.slots
  omega

/-- At every moment the counter is the number of unfinished mutations, within the limit, and the slots are free but for
those that mutations hold. One call of `begin_drain` says that it began. After a call of it has returned no mutation is
admitted, and a call of `wait_for_mutation_drain` that begins then and returns true leaves none unfinished. -/
theorem mutationDrain_final (mutationLimit : Nat) (world last : Serving) (reached : Run mutationLimit world)
    (later : Relation.ReflTransGen (Step Fresh Advance) world last) :
    (last.shared.admittedMutations = last.calls.countP Call.unfinished ∧
      last.shared.admittedMutations ≤ mutationLimit) ∧
    (last.shared.mutationSlots.free + last.calls.countP Call.holdsSlot = mutationLimit ∧
      (∀ call ∈ last.calls, call ≠ .mutation .overReleased) ∧
      ((∀ stage, Call.mutation stage ∈ last.calls → stage = .refused ∨ stage = .finished) →
        last.shared.mutationSlots.free = mutationLimit)) ∧
    (last.calls.countP Call.began = if last.calls.any Call.drainReturned then 1 else 0) ∧
    ((∃ call ∈ world.calls, call.drainReturned = true) →
      (∀ (index : Nat) (call : Call), last.calls[index]? = some call → call.succeeded = true →
        ∃ earlier, world.calls[index]? = some earlier ∧ earlier.succeeded = true) ∧
      ∀ index, world.calls.length ≤ index → last.calls[index]? = some (.wait (.returned true)) →
        last.calls.countP Call.unfinished = 0) := by
  have balanced : Balanced mutationLimit last := Run.balanced (reached.trans later)
  refine ⟨⟨balanced.counter, ?_⟩, ⟨balanced.slots, balanced.released, balanced.all_free⟩, balanced.began_eq, ?_⟩
  · have fewer := unfinished_le_holdsSlot last.calls
    have slots := balanced.slots
    rw [balanced.counter]
    omega
  · rintro ⟨call, member, returned⟩
    have draining := (Run.balanced reached).announced call member returned
    constructor
    · apply run_marked (fun server => server.draining = true) (fun call => call.succeeded = true)
        (fun drains step => (Advance.draining drains step).1) _
        (fun drains step => (Advance.draining drains step).2.2) later draining
      intro call fresh mark
      cases fresh <;> cases mark
    · intro index beyond found
      rw [← balanced.counter]
      exact drained_of_returned later draining index beyond found

section Schedules

/-- The step of a call, of a wait in time. -/
def ReactGuiServer.step (server : ReactGuiServer) : Call → Option (ReactGuiServer × Call)
  | .mutation stage =>
    ((server.tryAdmitMutation stage).or (server.finishMutationAdmission stage)).map fun taken => (taken.1, .mutation taken.2)
  | .drain none => some (server.beginDrain.1, .drain (some server.beginDrain.2))
  | .drain (some _) => none
  | .wait stage => (server.waitForMutationDrain false stage).map fun after => (server, .wait after)

theorem step_advance {server : ReactGuiServer} {call : Call} {taken : ReactGuiServer × Call}
    (stepped : server.step call = some taken) : Advance server call taken.1 taken.2 := by
  cases call with
  | mutation stage =>
    obtain ⟨moved, step, rfl⟩ := Option.map_eq_some_iff.mp stepped
    obtain entered | ⟨_, finishes⟩ := Option.or_eq_some_iff.mp step
    · exact .entry entered
    · exact .finish finishes
  | drain began =>
    cases began with
    | none =>
      cases stepped
      exact .drain
    | some began => cases stepped
  | wait stage =>
    obtain ⟨after, step, rfl⟩ := Option.map_eq_some_iff.mp stepped
    exact .wait step

/-- The first mutation is admitted and the second one holds a slot when the drain begins. -/
def admission : List (Turn Call) :=
  [.enter (.mutation .called), .move 0, .move 0, .move 0, .move 0, .enter (.mutation .called), .move 1, .move 1,
    .enter (.drain none), .move 2]

/-- The second mutation is refused, a wait parks, the first mutation finishes and the wait looks again. -/
def drainage : List (Turn Call) :=
  [.move 1, .enter (.wait .testing), .move 3, .move 0, .move 0, .move 0, .move 0, .move 3, .move 3]

/-- One mutation finishes, one is refused and gives its slot back, then the wait returns. -/
theorem mutationDrain_refused :
    ∃ world last : Serving, world.calls = [.mutation .admitted, .mutation .slotted, .drain (some true)] ∧
      last.calls = [.mutation .finished, .mutation .refused, .drain (some true), .wait (.returned true)] ∧
      last.shared.mutationSlots.free = 2 ∧ last.calls.countP Call.unfinished = 0 := by
  have followed : ((admission.foldlM (World.take ReactGuiServer.step) (started 2)).bind fun world =>
      (drainage.foldlM (World.take ReactGuiServer.step) world).map fun last => (world.calls, last.calls)) =
      some ([.mutation .admitted, .mutation .slotted, .drain (some true)],
        [.mutation .finished, .mutation .refused, .drain (some true), .wait (.returned true)]) := by decide
  obtain ⟨world, admits, followed⟩ := Option.bind_eq_some_iff.mp followed
  obtain ⟨last, drains, calls⟩ := Option.map_eq_some_iff.mp followed
  obtain ⟨held, ended⟩ := Prod.mk.inj calls
  -- the drain begins while one mutation runs and another one has a slot but is not counted
  have reached : Run 2 world := by
    apply run_of_schedule step_advance _ admits
    intro call enters
    simp only [admission, List.mem_cons, List.not_mem_nil, Turn.enter.injEq, reduceCtorEq, or_false, false_or] at enters
    rcases enters with rfl | rfl | rfl <;> constructor
  -- the wait finds the counted one running, then none
  have later : Relation.ReflTransGen (Step Fresh Advance) world last := by
    apply run_of_schedule step_advance _ drains
    intro call enters
    simp only [drainage, List.mem_cons, List.not_mem_nil, Turn.enter.injEq, reduceCtorEq, or_false, false_or] at enters
    rw [enters]
    constructor
  obtain ⟨_, ⟨_, _, free⟩, _, final⟩ := mutationDrain_final 2 world last reached later
  rw [held] at final
  rw [ended] at free final
  have settled : ∀ stage, Call.mutation stage ∈ [Call.mutation .finished, .mutation .refused, .drain (some true),
      .wait (.returned true)] → stage = .refused ∨ stage = .finished := by
    intro stage member
    simp only [List.mem_cons, Call.mutation.injEq, reduceCtorEq, List.not_mem_nil, or_false] at member
    exact member.symm
  obtain ⟨_, quiet⟩ := final ⟨.drain (some true), by simp, rfl⟩
  exact ⟨world, last, held, ended, free settled, ended ▸ quiet 3 (Nat.le_refl _) rfl⟩

end Schedules

end MarketSentinel.Server
