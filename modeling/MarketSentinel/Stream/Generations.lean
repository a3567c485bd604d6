import MarketSentinel.Library.Transition
import MarketSentinel.Stream.Lifecycle

/-! Runs of a client: when a started client runs, what being connected means, and which ids a connection has.

`start` returns early as long as the thread lives, also when its stop event is set.
-/

set_option autoImplicit false

namespace MarketSentinel.Stream

open Python

variable {client : Client} {world : World}

theorem Invariant.step (invariant : Invariant client world) {action : Action} {next : World}
    (stepped : step client world action = some next) : Invariant client next := by
  cases action with
  | start =>
    cases stepped
    exact invariant.start
  | stop =>
    cases stepped
    exact invariant.stopCall
  | setTokens ids =>
    cases client with
    | market custom =>
      cases stepped
      exact invariant.edited (nil_notMem_normalized ids)
    | user auth => cases stepped
  | subscribe ids =>
    cases stepped
    apply invariant.edited
    intro member
    rcases Finset.mem_union.mp member with old | new
    · exact invariant.solid old
    · exact nil_notMem_normalized ids new
  | unsubscribe ids =>
    cases stepped
    apply invariant.edited
    intro member
    exact invariant.solid (Finset.mem_sdiff.mp member).1
  | worker generation works => exact invariant.advanced stepped

theorem Invariant.run (invariant : Invariant client world) {actions : List Action} {last : World}
    (ran : run client world actions = some last) : Invariant client last :=
  Transition.foldlM_invariant (Invariant client) (fun _ => True) (fun _ holds stepped => holds.step stepped) ran (fun _ _ => trivial) invariant

/-! ## What a worker leaves alone -/

theorem registered_eq {generation c : Nat} {next : World} (registers : world.registerConnection generation c = some next) :
    generation = world.generation ∧ next = { world with ws := some c, wsGeneration := some generation } := by
  unfold World.registerConnection at registers
  split at registers
  · cases registers
  · rename_i passes
    cases registers
    exact ⟨by_contra fun other => passes (Or.inl other), rfl⟩

theorem marked_eq {generation c : Nat} {next : World} (marks : world.markConnected generation c = some next) :
    generation = world.generation ∧ next = { world with connectedGeneration := some generation, connected := true } := by
  unfold World.markConnected at marks
  split at marks
  · rename_i checks
    cases marks
    exact ⟨checks.1, rfl⟩
  · cases marks

/-- A worker changes neither the ids nor the generation and the stop events, and a snapshot takes the ids. -/
theorem advance_frame {generation : Nat} {works : Bool} {next : World}
    (advances : world.advance client generation works = some next) :
    next.generation = world.generation ∧ next.stopped = world.stopped ∧ next.ids = world.ids ∧
      ∀ c, next.snapshots c = world.snapshots c ∨ next.snapshots c = world.ids := by
  have snaps : ∀ d c, (world.snapshot d).snapshots c = world.snapshots c ∨ (world.snapshot d).snapshots c = world.ids := by
    intro d c
    by_cases same : c = d
    · subst same
      exact Or.inr (world.snapshot_self c)
    · exact Or.inl (Function.update_of_ne same ..)
  unfold World.advance at advances
  cases stage : world.workers generation with
  | absent | finished => simp [stage] at advances
  | looking | resting | receiving c ids | heading c ids =>
    simp only [stage] at advances
    cases advances
    exact ⟨rfl, rfl, rfl, fun c => Or.inl rfl⟩
  | connecting | subscribing c ids =>
    simp only [stage] at advances
    split at advances <;> cases advances <;> exact ⟨rfl, rfl, rfl, fun c => Or.inl rfl⟩
  | registering c =>
    simp only [stage] at advances
    split at advances
    · rename_i registers
      obtain ⟨-, rfl⟩ := registered_eq registers
      cases advances
      exact ⟨rfl, rfl, rfl, fun c => Or.inl rfl⟩
    · cases advances
      exact ⟨rfl, rfl, rfl, fun c => Or.inl rfl⟩
  | marking c ids =>
    simp only [stage] at advances
    split at advances
    · rename_i marks
      obtain ⟨-, rfl⟩ := marked_eq marks
      cases advances
      exact ⟨rfl, rfl, rfl, fun c => Or.inl rfl⟩
    · cases advances
      exact ⟨rfl, rfl, rfl, fun c => Or.inl rfl⟩
  | greeting c | syncing c ids =>
    simp only [stage] at advances
    cases advances
    exact ⟨rfl, rfl, rfl, snaps c⟩
  | removing c ids current | adding c ids current =>
    simp only [stage] at advances
    split at advances
    · cases advances
      exact ⟨rfl, rfl, rfl, fun c => Or.inl rfl⟩
    · split at advances <;> cases advances <;> exact ⟨rfl, rfl, rfl, fun c => Or.inl rfl⟩
  | clearing c =>
    simp only [stage] at advances
    cases advances
    obtain ⟨ws, wsGeneration, cleared⟩ := world.clearConnection_eq generation c
    rw [cleared]
    split <;> exact ⟨rfl, rfl, rfl, fun c => Or.inl rfl⟩

/-! ## Running and connected -/

/-- The last call among `start` and `stop` is a `start`. -/
def sinceStart (actions : List Action) : Bool :=
  actions.foldl (fun since action =>
    match action with
    | .start => true
    | .stop => false
    | _ => since) false

/-- No `start` finds a worker alive whose stop event is set. -/
def Careful (client : Client) (world : World) (actions : List Action) : Prop :=
  ∀ earlier later between, actions = earlier ++ .start :: later → run client world earlier = some between →
    (between.workers between.thread).alive = true → between.stopped between.stop = false

theorem isRunning_start : world.start.isRunning = true ↔
    ((world.workers world.thread).alive = true → world.stopped world.stop = false) := by
  unfold World.start World.isRunning
  cases alive : (world.workers world.thread).alive with
  | true => simp [alive]
  | false => simp [Stage.alive]

theorem run_concat {actions : List Action} {action : Action} {last : World}
    (ran : run client world (actions ++ [action]) = some last) :
    ∃ before, run client world actions = some before ∧ step client before action = some last := by
  rw [run, List.foldlM_append] at ran
  obtain ⟨before, ran, stepped⟩ := Option.bind_eq_some_iff.mp ran
  exact ⟨before, ran, by simpa using stepped⟩

theorem sinceStart_concat (actions : List Action) (action : Action) :
    sinceStart (actions ++ [action]) =
      match action with
      | .start => true
      | .stop => false
      | _ => sinceStart actions := by
  rw [sinceStart, List.foldl_append]
  cases action <;> rfl

/-- From a `start` to the next `stop` the stop event of the generation is not set. -/
theorem started_runs {ids : List Text} {actions : List Action} :
    ∀ {world : World}, run client (initial ids) actions = some world → Careful client (initial ids) actions →
      sinceStart actions = true → 0 < world.generation ∧ world.stopped world.generation = false := by
  induction actions using List.reverseRecOn with
  | nil => exact fun _ _ since => nomatch since
  | append_singleton actions action ih =>
    intro world ran careful since
    obtain ⟨before, reached, stepped⟩ := run_concat ran
    have invariant := (initial_invariant client ids).run reached
    have earlier : Careful client (initial ids) actions := by
      intro front later between split
      apply careful front (later ++ [action])
      rw [split, List.append_assoc, List.cons_append]
    rw [sinceStart_concat] at since
    cases action with
    | start =>
      cases stepped
      unfold World.start
      split
      · rename_i alive
        have unset := careful actions [] before rfl reached alive
        rw [invariant.stop] at unset
        refine ⟨Nat.pos_of_ne_zero fun none => ?_, unset⟩
        -- the first generation has no worker
        rw [invariant.thread, none, invariant.unbegun none] at alive
        cases alive
      · exact ⟨Nat.succ_pos _, Function.update_self ..⟩
    | stop => cases since
    | worker generation works =>
      obtain ⟨sameGeneration, sameStopped, -⟩ := advance_frame stepped
      rw [sameGeneration, sameStopped]
      exact ih reached earlier since
    | setTokens ids =>
      cases client with
      | market custom =>
        have runs := ih reached earlier since
        cases stepped
        exact runs
      | user auth => cases stepped
    | subscribe ids | unsubscribe ids =>
      have runs := ih reached earlier since
      cases stepped
      exact runs

theorem Invariant.isRunning (invariant : Invariant client world) (begun : 0 < world.generation)
    (unset : world.stopped world.generation = false) : world.isRunning = true := by
  have present := invariant.begun begun
  unfold World.isRunning
  rw [invariant.thread, invariant.stop, unset]
  cases stage : world.workers world.generation with
  | absent => exact absurd stage present
  | finished =>
    have ended := invariant.ended stage
    rw [unset] at ended
    cases ended
  | _ => rfl

theorem Invariant.isConnected (invariant : Invariant client world) (connected : world.isConnected = true) :
    world.stopped world.stop = false ∧ ∃ c, world.ws = some c ∧ world.wsGeneration = some world.generation ∧
      (world.workers world.generation).connection = some c := by
  simp only [World.isConnected, Bool.and_eq_true] at connected
  obtain ⟨-, unset, c, ws, wsGeneration, marked⟩ := invariant.marked connected.1.1
  rw [← invariant.stop] at unset
  exact ⟨unset, c, ws, wsGeneration, Stage.connection_of_marked marked⟩

/-! ## Subscriptions -/

theorem Invariant.settled (invariant : Invariant client world) {c : Nat}
    (settled : (world.workers world.generation).settled = some c) :
    subscribedIds client (world.sent c) = world.snapshots c := by
  have wired := invariant.wired
  cases stage : world.workers world.generation <;> rw [stage] at settled wired <;> cases settled <;>
    exact wired.2.1.trans wired.2.2

def Action.edits : Action → Bool
  | .setTokens _ | .subscribe _ | .unsubscribe _ => true
  | _ => false

/-- The worker takes a snapshot next. -/
def Stage.snapping : Stage → Option Nat
  | .greeting c | .syncing c _ => some c
  | _ => none

theorem advance_snapping {generation c : Nat} {works : Bool} {next : World}
    (snapping : (world.workers generation).snapping = some c)
    (advances : world.advance client generation works = some next) : next.snapshots c = next.ids := by
  unfold World.advance at advances
  cases stage : world.workers generation <;> rw [stage] at snapping <;> cases snapping <;>
    simp only [stage] at advances <;> cases advances <;> exact world.snapshot_self c

/-- Without an edit the last snapshot stays the wanted set. -/
theorem step_unedited {c : Nat} {action : Action} {next : World} (unedited : action.edits = false)
    (same : world.snapshots c = world.ids) (stepped : step client world action = some next) :
    next.snapshots c = next.ids := by
  cases action with
  | start =>
    cases stepped
    unfold World.start
    split <;> exact same
  | stop =>
    cases stepped
    exact same
  | setTokens ids | subscribe ids | unsubscribe ids => cases unedited
  | worker generation works =>
    obtain ⟨-, -, sameIds, snapshots⟩ := advance_frame stepped
    rcases snapshots c with kept | taken
    · rw [kept, sameIds, same]
    · rw [taken, sameIds]

theorem unedited_snapshots {c : Nat} {actions : List Action} {last : World} (ran : run client world actions = some last)
    (unedited : ∀ action ∈ actions, action.edits = false) (same : world.snapshots c = world.ids) :
    last.snapshots c = last.ids :=
  Transition.foldlM_invariant (fun world => world.snapshots c = world.ids) (fun action => action.edits = false)
    step_unedited ran unedited same

/-! ## Every run -/

/-- What every run leaves true: a client runs from a `start` to the next `stop` unless a `start` found a stopped worker
alive, and the other guarantees hold in all runs. -/
theorem generations_guarded (client : Client) (ids : List Text) (actions : List Action) (world : World)
    (ran : run client (initial ids) actions = some world) :
    (Careful client (initial ids) actions → sinceStart actions = true → world.isRunning = true) ∧
    (world.start.isRunning = true ↔
      ((world.workers world.thread).alive = true → world.stopped world.stop = false)) ∧
    (world.isConnected = true → world.stopped world.stop = false ∧
      ∃ c, world.ws = some c ∧ world.wsGeneration = some world.generation ∧
        (world.workers world.generation).connection = some c) ∧
    (∀ generation works next, generation ≠ world.generation → step client world (.worker generation works) = some next →
      next.ws = world.ws ∧ next.wsGeneration = world.wsGeneration ∧ next.connected = world.connected ∧
        next.connectedGeneration = world.connectedGeneration) ∧
    (∀ c, (world.workers world.generation).settled = some c → subscribedIds client (world.sent c) = world.snapshots c) ∧
    ∀ earlier works later between c, actions = earlier ++ .worker between.generation works :: later →
      run client (initial ids) earlier = some between →
      (between.workers between.generation).snapping = some c → (∀ action ∈ later, action.edits = false) →
      (world.workers world.generation).settled = some c → subscribedIds client (world.sent c) = world.ids := by
  have invariant := (initial_invariant client ids).run ran
  refine ⟨?_, isRunning_start, invariant.isConnected, ?_, fun c => invariant.settled, ?_⟩
  · intro careful since
    obtain ⟨begun, unset⟩ := started_runs ran careful since
    exact invariant.isRunning begun unset
  · intro generation works next stale stepped
    rcases invariant.others generation stale with absent | finished
    · simp [step, World.advance, absent] at stepped
    · simp [step, World.advance, finished] at stepped
  · intro earlier works later between c parts ranEarlier snapping unedited settled
    subst parts
    rw [run, List.foldlM_append] at ran
    obtain ⟨middle, ranMiddle, ran⟩ := Option.bind_eq_some_iff.mp ran
    obtain rfl : between = middle := Option.some.inj (ranEarlier.symm.trans ranMiddle)
    rw [List.foldlM_cons] at ran
    obtain ⟨next, stepped, ran⟩ := Option.bind_eq_some_iff.mp ran
    rw [invariant.settled settled]
    exact unedited_snapshots ran unedited (advance_snapping snapping stepped)

/-- A second `start` while the stopped worker still looks at its stop event. -/
def overlapping : List Action := [.start, .stop, .start]

theorem overlapping_stopped (client : Client) : (run client (initial []) overlapping).map World.isRunning = some false := by
  cases client <;> rfl

/-- After a `start` that no `stop` followed the client is not running. -/
theorem started_not_running : ¬∀ (client : Client) (ids : List Text) (actions : List Action) (world : World),
    run client (initial ids) actions = some world → sinceStart actions = true → world.isRunning = true := by
  intro runs
  obtain ⟨world, ran, stopped⟩ := Option.map_eq_some_iff.mp (overlapping_stopped (.market false))
  have running := runs (.market false) [] overlapping world ran rfl
  rw [stopped] at running
  cases running

/-- A client that connects, and edits its ids before its next snapshot. -/
def connecting : List Action :=
  .start :: List.replicate 6 (.worker 1 true) ++ [.subscribe [text "b"], .unsubscribe [text "a"], .worker 1 true]

def syncing : List Action := .worker 1 true :: List.replicate 2 (.worker 1 true)

theorem connecting_careful (client : Client) : Careful client (initial [text "a"]) (connecting ++ syncing) := by
  intro earlier later between parts ran alive
  cases earlier with
  | nil =>
    cases ran
    cases alive
  | cons first earlier =>
    have member : Action.start ∈ (connecting ++ syncing).tail := by
      rw [parts]
      exact List.mem_append_right _ List.mem_cons_self
    simp [connecting, syncing] at member

theorem syncing_settled : (run (.market false) (initial [text "a"]) (connecting ++ syncing)).map
    (fun world => (world.workers world.generation).settled) = some (some 0) := by
  decide

theorem generations_guarded_connecting : ∃ world, run (.market false) (initial [text "a"]) (connecting ++ syncing) = some world ∧
    world.isRunning = true ∧ subscribedIds (.market false) (world.sent 0) = world.ids := by
  have reached : ∃ between, run (.market false) (initial [text "a"]) connecting = some between ∧
      between.generation = 1 ∧ (between.workers between.generation).snapping = some 0 := ⟨_, rfl, rfl, rfl⟩
  obtain ⟨between, before, one, snapping⟩ := reached
  obtain ⟨world, ran, settled⟩ := Option.map_eq_some_iff.mp syncing_settled
  obtain ⟨running, -, -, -, -, subscribed⟩ := generations_guarded (.market false) [text "a"] (connecting ++ syncing) world ran
  refine ⟨world, ran, running (connecting_careful _) rfl, ?_⟩
  refine subscribed connecting true (List.replicate 2 (.worker 1 true)) between 0 ?_ before snapping ?_ settled
  · rw [one]
    rfl
  · simp [Action.edits]

end MarketSentinel.Stream
