import MarketSentinel.Worker.Run

/-! What the counters of the worker telemetry say about the runs so far.

The runs of a task are listed from the newest to the oldest; a run without an ending is
either the one in progress or was abandoned.
-/

set_option autoImplicit false

namespace MarketSentinel.Worker

open Python Program

def runsOf (task : Task) (history : List Run) : List Run := history.filter fun run => decide (run.task = task)

def Run.unended (run : Run) : Bool := run.ending.isNone

def Run.isSuccess (run : Run) : Bool := decide (run.ending = some .succeeded)

def Run.isFailure (run : Run) : Bool := decide (run.ending = some .failed ∨ run.ending = some .interrupted)

/-- The earlier runs that never got their last record. -/
def abandoned (runs : List Run) : Nat := runs.tail.countP Run.unended

/-- The runs that are over: all but the newest one while it has no ending. -/
def judged : List Run → List Run
  | [] => []
  | run :: earlier => if run.unended then earlier else run :: earlier

/-- The failed, interrupted and abandoned runs since the last success. -/
def failuresSinceSuccess (runs : List Run) : Nat := ((judged runs).takeWhile fun run => !run.isSuccess).length

/-- The counters of an entry are those of the runs. -/
structure Entry.Counted (entry : Entry) (runs : List Run) : Prop where
  ended : entry.totalRuns.getD 0 = runs.countP fun run => !run.unended
  successes : entry.totalSuccesses.getD 0 = runs.countP Run.isSuccess
  failures : entry.totalFailures.getD 0 = runs.countP Run.isFailure
  abandoned : entry.abandonedRuns = Worker.abandoned runs
  consecutive : entry.consecutiveFailures = failuresSinceSuccess runs
  retry : entry.nextRetryAt.isSome = true → entry.state = .retrying

/-- A task without an entry never ran; any other entry is the one of the newest run. -/
def Tracked (entry : Option Entry) (runs : List Run) : Prop :=
  match entry with
  | none => runs = []
  | some entry => entry.Counted runs ∧ ∃ run earlier, runs = run :: earlier ∧ run.ending = entry.state.ending

section Entries

variable {entry : Entry} {run : Run} {earlier runs : List Run}

theorem counter_natCast {value : Option Int} {n : Nat} (counted : value.getD 0 = n) : counter value = n := by
  unfold counter
  omega

/-- Every run with an ending succeeded or failed. -/
theorem ended_eq (runs : List Run) :
    (runs.countP fun run => !run.unended) = runs.countP Run.isSuccess + runs.countP Run.isFailure := by
  induction runs with
  | nil => rfl
  | cons run earlier ih =>
    simp only [List.countP_cons, ih]
    unfold Run.unended Run.isSuccess Run.isFailure
    cases run.ending with
    | none => simp
    | some ending => cases ending <;> simp <;> omega

theorem Entry.Counted.total (counted : entry.Counted runs) :
    entry.totalRuns.getD 0 = entry.totalSuccesses.getD 0 + entry.totalFailures.getD 0 := by
  rw [counted.ended, counted.successes, counted.failures, ended_eq]
  exact Int.natCast_add _ _

theorem isOpen_iff : entry.isOpen = true ↔ entry.state.ending = none := by
  unfold Entry.isOpen
  cases entry.state <;> simp [EntryState.ending]

theorem Run.unended_iff : run.unended = true ↔ run.ending = none := Option.isNone_iff_eq_none

/-- A run in progress is on none of the counts of ended runs. -/
theorem unended_counts (unended : run.unended = true) : run.isSuccess = false ∧ run.isFailure = false := by
  unfold Run.isSuccess Run.isFailure
  simp [Run.unended_iff.mp unended]

theorem judged_unended (unended : run.unended = true) : judged (run :: earlier) = earlier := if_pos unended

theorem judged_ended (ended : run.unended = false) : judged (run :: earlier) = run :: earlier :=
  if_neg (Bool.eq_false_iff.mp ended)

/-- Once another run follows, a run without an ending is one more failure. -/
theorem failures_followed (next : Run) (unended : next.unended = true) :
    failuresSinceSuccess (next :: run :: earlier) =
      failuresSinceSuccess (run :: earlier) + if run.unended then 1 else 0 := by
  unfold failuresSinceSuccess
  rw [judged_unended unended]
  cases open_ : run.unended with
  | true =>
    rw [judged_unended open_, List.takeWhile_cons, (unended_counts open_).1]
    rfl
  | false =>
    rw [judged_ended open_]
    rfl

/-- A new run counts the one before it as abandoned exactly when that has no ending. -/
theorem initial_counted (invocation : RunArguments → Text) {previous : Option Entry} (tracked : Tracked previous runs)
    (args : RunArguments) (launch : Launch) (unended : run.unended = true) :
    (initialRunningEntry invocation previous args launch).Counted (run :: runs) := by
  obtain ⟨noSuccess, noFailure⟩ := unended_counts unended
  cases previous with
  | none =>
    cases tracked
    refine ⟨?_, ?_, ?_, rfl, ?_, nofun⟩
    · simp [initialRunningEntry, unended]
    · simp [initialRunningEntry, noSuccess]
    · simp [initialRunningEntry, noFailure]
    · unfold failuresSinceSuccess
      rw [judged_unended unended]
      rfl
  | some entry =>
    obtain ⟨counted, last, earlier, rfl, ending⟩ := tracked
    have open_ : entry.isOpen = last.unended := by
      rw [Bool.eq_iff_iff, isOpen_iff, Run.unended_iff, ending]
    refine ⟨?_, ?_, ?_, ?_, ?_, nofun⟩
    · rw [List.countP_cons_of_neg (by simp [unended])]
      exact counted.ended
    · rw [List.countP_cons_of_neg (by simp [noSuccess])]
      exact counted.successes
    · rw [List.countP_cons_of_neg (by simp [noFailure])]
      exact counted.failures
    · have before := @counter_natCast (some entry.abandonedRuns) _ counted.abandoned
      simp only [initialRunningEntry, Option.map_some, before, Option.any_some, open_]
      unfold abandoned
      rw [List.tail_cons, List.tail_cons, List.countP_cons]
      split <;> rfl
    · have before := @counter_natCast (some entry.consecutiveFailures) _ counted.consecutive
      simp only [initialRunningEntry, Option.map_some, before, Option.any_some, open_]
      rw [failures_followed run unended]
      split <;> rfl

theorem attempt_counted (counted : entry.Counted runs) (result : AttemptResult) (attemptsCompleted : Nat) (now : ℚ)
    (nextRetryAt : Option ℚ) : (attemptStateEntry entry result attemptsCompleted now nextRetryAt).Counted runs := by
  refine ⟨counted.ended, counted.successes, counted.failures, counted.abandoned, counted.consecutive, ?_⟩
  intro planned
  exact if_pos planned

/-- A last record makes its run a success or a failure. -/
theorem ended_counts (run : Run) (result : AttemptResult) :
    let last := run.closed result.terminalState.ending
    last.unended = false ∧ last.isSuccess = result.succeeded ∧ last.isFailure = !result.succeeded := by
  unfold Run.closed Run.unended Run.isSuccess Run.isFailure AttemptResult.terminalState
  cases result.succeeded with
  | true => exact ⟨rfl, rfl, rfl⟩
  | false =>
    by_cases interrupted : result.outcome = text "interrupted"
    · simp [interrupted, EntryState.ending]
    · simp [interrupted, EntryState.ending]

theorem terminal_counted (counted : entry.Counted (run :: earlier)) (unended : run.unended = true)
    (result : AttemptResult) (attemptsCompleted : Nat) (started now : ℚ) :
    (terminalStateEntry entry result attemptsCompleted started now).Counted
      (run.closed result.terminalState.ending :: earlier) := by
  obtain ⟨noSuccess, noFailure⟩ := unended_counts unended
  obtain ⟨ended, success, failure⟩ := ended_counts run result
  have before := counter_natCast counted.ended
  have successes := counter_natCast counted.successes
  have failures := counter_natCast counted.failures
  rw [List.countP_cons_of_neg (by simp [unended])] at before
  rw [List.countP_cons_of_neg (by simp [noSuccess])] at successes
  rw [List.countP_cons_of_neg (by simp [noFailure])] at failures
  refine ⟨?_, ?_, ?_, counted.abandoned, ?_, nofun⟩
  · rw [List.countP_cons_of_pos (by simp [ended])]
    simp [terminalStateEntry, before]
  · rw [List.countP_cons, success]
    cases outcome : result.succeeded <;> simp [terminalStateEntry, outcome, successes]
  · rw [List.countP_cons, failure]
    cases outcome : result.succeeded <;> simp [terminalStateEntry, outcome, failures]
  · have consecutive := @counter_natCast (some entry.consecutiveFailures) _ counted.consecutive
    unfold failuresSinceSuccess at consecutive ⊢
    rw [judged_unended unended] at consecutive
    rw [judged_ended ended, List.takeWhile_cons, success]
    cases outcome : result.succeeded with
    | true => simp [terminalStateEntry, outcome]
    | false => simp [terminalStateEntry, outcome, consecutive]

end Entries

section Runs

variable (args : RunArguments) (invocation : RunArguments → Text)

/-- The file is tracked, and so was every file before it; a commit leaves the other task as it is. -/
structure World.Sound (world : World) : Prop where
  tracked : ∀ task, Tracked (world.file.tasks task) (runsOf task world.history)
  commits : ∀ commit ∈ world.commits, (∀ task entry, commit.after.tasks task = some entry →
    entry.Counted (runsOf task commit.history)) ∧
    ∀ task ≠ commit.task, commit.after.tasks task = commit.before.tasks task
  attempts : ∀ run ∈ world.history, (run.attempts : Int) ≤ run.maxAttempts
  latest : world.file = (world.commits.head?.map Commit.after).getD World.empty.file

/-- A run in progress: its entry is on the file, and it is the newest run. -/
structure World.Running (world : World) (entry : Entry) (completed : Nat) : Prop where
  sound : world.Sound
  present : world.file.tasks args.task = some entry
  newest : ∃ run earlier, world.history = run :: earlier ∧ run.task = args.task ∧ run.ending = none ∧
    run.attempts = completed ∧ run.maxAttempts = args.maxAttempts

theorem runsOf_cons_same {task : Task} {run : Run} (same : run.task = task) (history : List Run) :
    runsOf task (run :: history) = run :: runsOf task history :=
  List.filter_cons_of_pos (decide_eq_true same)

theorem runsOf_cons_other {task : Task} {run : Run} (other : run.task ≠ task) (history : List Run) :
    runsOf task (run :: history) = runsOf task history :=
  List.filter_cons_of_neg (by simp [other])

theorem task_launched (run : Run) : run.launched.task = run.task := rfl

theorem Run.ending_launched (run : Run) : run.launched.ending = run.ending := rfl

theorem task_closed (ending : Option Ending) (run : Run) : (run.closed ending).task = run.task := rfl

theorem runsOf_newest_same {change : Run → Run} (kept : ∀ run, (change run).task = run.task) {task : Task} {run : Run}
    (same : run.task = task) (earlier : List Run) :
    runsOf task (onNewest change (run :: earlier)) = change run :: runsOf task earlier :=
  runsOf_cons_same ((kept run).trans same) earlier

theorem runsOf_newest_other {change : Run → Run} (kept : ∀ run, (change run).task = run.task) {task : Task} {run : Run}
    (other : run.task ≠ task) (earlier : List Run) :
    runsOf task (onNewest change (run :: earlier)) = runsOf task earlier :=
  runsOf_cons_other (fun same => other ((kept run).symm.trans same)) earlier

/-- Replacing one entry keeps the file sound when the entry fits its runs and the other task has the same ones. -/
theorem World.Sound.commit {world : World} (sound : world.Sound) {task : Task} {entry : Entry} {now : ℚ}
    {history : List Run} (tracked : Tracked (some entry) (runsOf task history))
    (others : ∀ other, other ≠ task → runsOf other history = runsOf other world.history)
    (attempts : ∀ run ∈ history, (run.attempts : Int) ≤ run.maxAttempts) :
    (world.commit task entry now history).Sound := by
  have after : ∀ other, Tracked ((world.file.withEntry task entry now).tasks other) (runsOf other history) := by
    intro other
    unfold WorkerState.withEntry
    by_cases same : other = task
    · simp only [if_pos same]
      rw [same]
      exact tracked
    · simp only [if_neg same]
      rw [others other same]
      exact sound.tracked other
  refine ⟨after, fun commit member => ?_, attempts, rfl⟩
  rcases List.mem_cons.mp member with rfl | earlier
  · refine ⟨fun other found present => ?_, fun other different => if_neg different⟩
    have fits := after other
    rw [present] at fits
    exact fits.1
  · exact sound.commits commit earlier

/-- The counts look at a run only for its ending. -/
theorem Entry.Counted.rename {entry : Entry} {run other : Run} {earlier : List Run} (same : other.ending = run.ending)
    (counted : entry.Counted (run :: earlier)) : entry.Counted (other :: earlier) := by
  have unended : other.unended = run.unended := congrArg Option.isNone same
  have success : other.isSuccess = run.isSuccess := by rw [Run.isSuccess, same, ← Run.isSuccess]
  have failure : other.isFailure = run.isFailure := by rw [Run.isFailure, same, ← Run.isFailure]
  refine ⟨?_, ?_, ?_, counted.abandoned, ?_, counted.retry⟩
  · rw [counted.ended, List.countP_cons, List.countP_cons, unended]
  · rw [counted.successes, List.countP_cons, List.countP_cons, success]
  · rw [counted.failures, List.countP_cons, List.countP_cons, failure]
  · rw [counted.consecutive]
    unfold failuresSinceSuccess
    cases open_ : run.unended with
    | true => rw [judged_unended open_, judged_unended (unended.trans open_)]
    | false =>
      rw [judged_ended open_, judged_ended (unended.trans open_), List.takeWhile_cons, List.takeWhile_cons, success]
      split <;> rfl

variable {args}

theorem World.Running.counted {world : World} {entry : Entry} {completed : Nat}
    (running : world.Running args entry completed) : entry.Counted (runsOf args.task world.history) := by
  have tracked := running.sound.tracked args.task
  rw [running.present] at tracked
  exact tracked.1

/-- Another attempt of the run in progress, within the limit. -/
theorem World.Running.launch {world : World} {entry : Entry} {completed : Nat}
    (running : world.Running args entry completed) (within : (completed : Int) < args.maxAttempts) :
    World.Running args { world with history := onNewest Run.launched world.history } entry (completed + 1) := by
  have counted := running.counted
  obtain ⟨run, earlier, history, task, ending, attempts, maximum⟩ := running.newest
  rw [history] at counted ⊢
  refine ⟨⟨fun other => ?_, running.sound.commits, fun past member => ?_, running.sound.latest⟩, running.present,
    ⟨_, earlier, rfl, task, ending, congrArg (· + 1) attempts, maximum⟩⟩
  · have tracked := running.sound.tracked other
    rw [history] at tracked
    by_cases same : run.task = other
    · rw [runsOf_cons_same same] at tracked
      rw [runsOf_newest_same task_launched same]
      rw [← same, task, running.present] at tracked ⊢
      obtain ⟨fits, last, rest, ends, state⟩ := tracked
      obtain ⟨rfl, rfl⟩ := List.cons.inj ends
      exact ⟨fits.rename run.ending_launched, run.launched, _, rfl, state⟩
    · rw [runsOf_cons_other same] at tracked
      rw [runsOf_newest_other task_launched same]
      exact tracked
  · rcases List.mem_cons.mp member with rfl | old
    · have bound : ((run.attempts + 1 : Nat) : Int) ≤ run.maxAttempts := by omega
      exact bound
    · exact running.sound.attempts past (by rw [history]; exact List.mem_cons_of_mem _ old)

theorem World.Running.record {world : World} {entry : Entry} {completed : Nat}
    (running : world.Running args entry completed) {next : Entry} (now : ℚ)
    (counted : next.Counted (runsOf args.task world.history)) (open_ : next.state.ending = none) :
    (world.commit args.task next now world.history).Running args next completed := by
  obtain ⟨run, earlier, history, task, ending, attempts, maximum⟩ := running.newest
  refine ⟨running.sound.commit ⟨counted, run, runsOf args.task earlier, ?_, ending.trans open_.symm⟩
    (fun _ _ => rfl) running.sound.attempts, if_pos rfl, run, earlier, history, task, ending, attempts, maximum⟩
  rw [history, runsOf_cons_same task]

/-- The last record of the run in progress. -/
theorem World.Running.finish {world : World} {entry : Entry} {completed : Nat}
    (running : world.Running args entry completed) (result : AttemptResult) (started now : ℚ) :
    (world.commit args.task (terminalStateEntry entry result completed started now) now
      (onNewest (Run.closed result.terminalState.ending) world.history)).Sound := by
  have counted := running.counted
  obtain ⟨run, earlier, history, task, ending, attempts, maximum⟩ := running.newest
  rw [history] at counted ⊢
  rw [runsOf_cons_same task] at counted
  refine running.sound.commit ⟨?_, run.closed result.terminalState.ending, runsOf args.task earlier, ?_, rfl⟩
    (fun other different => ?_) fun past member => ?_
  · rw [runsOf_newest_same (task_closed _) task]
    exact terminal_counted counted (Run.unended_iff.mpr ending) result completed started now
  · exact runsOf_newest_same (task_closed _) task earlier
  · have elsewhere : run.task ≠ other := fun same => different (same.symm.trans task)
    rw [history, runsOf_newest_other (task_closed _) elsewhere, runsOf_cons_other elsewhere]
  · rcases List.mem_cons.mp member with rfl | old
    · exact running.sound.attempts run (by rw [history]; exact List.mem_cons_self)
    · exact running.sound.attempts past (by rw [history]; exact List.mem_cons_of_mem _ old)

/-- The first record of a run. -/
theorem World.Sound.start {world : World} (sound : world.Sound) (some : 0 ≤ args.maxAttempts) (launch : Launch) :
    (world.commit args.task (initialRunningEntry invocation (world.file.tasks args.task) args launch) launch.startedAt
      (⟨args.task, launch.runId, args.maxAttempts, 0, none⟩ :: world.history)).Running args
        (initialRunningEntry invocation (world.file.tasks args.task) args launch) 0 := by
  refine ⟨sound.commit ⟨?_, ⟨args.task, launch.runId, args.maxAttempts, 0, none⟩, runsOf args.task world.history, ?_, rfl⟩
    (fun other different => ?_) fun past member => ?_, if_pos rfl, _, world.history, rfl, rfl, rfl, rfl, rfl⟩
  · have same : runsOf args.task (⟨args.task, launch.runId, args.maxAttempts, 0, none⟩ :: world.history) =
        _ := runsOf_cons_same rfl _
    rw [same]
    exact initial_counted invocation (sound.tracked args.task) args launch rfl
  · exact runsOf_cons_same rfl _
  · exact runsOf_cons_other (fun same => different same.symm) _
  · rcases List.mem_cons.mp member with rfl | old
    · exact some
    · exact sound.attempts past old

/-- A write that keeps the invariant when it goes through keeps it in every outcome. -/
theorem update_triple {before after : World → Prop} {task : Task} {entry : Entry} {now : ℚ}
    {record : List Run → List Run} {outcome : WriteOutcome} (sound : ∀ world, before world → world.Sound)
    (kept : ∀ world, after world → world.Sound)
    (committed : ∀ world, before world → after (world.commit task entry now (record world.history))) :
    Triple before (updateTaskState task entry now record outcome) (fun _ => after) World.Sound := by
  intro world holds
  have through := committed world holds
  cases outcome with
  | saved => exact through
  | refused => exact sound world holds
  | uncertain => exact kept _ through
  | crashedBefore => exact sound world holds
  | crashedAfter => exact kept _ through

theorem attempts_triple (surroundings : Nat → Attempt) (left completed : Nat) (entry : Entry) (last : AttemptResult)
    (within : completed + left ≤ args.maxAttempts.toNat) :
    Triple (fun world => world.Running args entry completed) (attempts args surroundings left completed entry last)
      (fun result world => world.Running args result.1 result.2.2) World.Sound := by
  induction left generalizing completed entry last with
  | zero => exact Triple.pure fun _ running => running
  | succ left ih =>
    unfold attempts
    dsimp only
    split
    · exact Triple.pure fun _ running => running
    · split
      · exact Triple.pure fun _ running => running
      · refine Triple.bind (fun _ world => world.Running args entry (completed + 1))
          (Triple.modify fun world running => running.launch (by omega)) fun _ => ?_
        split
        · exact Triple.raise fun world running => running.sound
        · rename_i result _
          generalize (if retries args (completed + 1) (surroundings (completed + 1)) result = true then
            some ((surroundings (completed + 1)).finishedAt + backoff args (completed + 1)) else none) = planned
          refine Triple.bind (fun _ world => world.Running args (attemptStateEntry entry result (completed + 1) _ _)
            (completed + 1)) (update_triple (fun _ running => running.sound) (fun _ running => running.sound)
              fun world running => running.record _ (attempt_counted running.counted result _ _ _) ?_) fun _ => ?_
          · unfold attemptStateEntry
            dsimp only
            split <;> rfl
          · split
            · exact Triple.pure fun _ running => running
            · split
              · exact Triple.pure fun _ running => running
              · exact ih (completed + 1) _ _ (by omega)

/-- One run keeps the file and the earlier files sound, however it goes. -/
theorem supervise_triple (some : 0 ≤ args.maxAttempts) (surroundings : Surroundings) :
    Triple World.Sound (supervise invocation args surroundings) (fun _ => World.Sound) World.Sound := by
  unfold supervise
  refine Triple.value (fun _ sound => sound) fun _ _ => Triple.value (fun _ sound => sound) fun _ _ => ?_
  refine Triple.state fun now sound => ?_
  dsimp only
  refine Triple.bind (fun _ world => world.Running args (initialRunningEntry invocation (now.file.tasks args.task) args
    surroundings.launch) 0) (update_triple ?_ (fun _ running => running.sound) ?_) fun _ => ?_
  · rintro _ rfl
    exact sound
  · rintro _ rfl
    exact sound.start invocation some surroundings.launch
  · refine Triple.bind _ (attempts_triple surroundings.attempt args.maxAttempts.toNat 0 _ _ (by omega)) fun result => ?_
    obtain ⟨running, last, completed⟩ := result
    refine Triple.bind (fun _ => World.Sound) (update_triple (fun _ running => running.sound) (fun _ sound => sound)
      fun world running => running.finish last surroundings.launch.startedAt surroundings.finishedAt) fun _ => ?_
    exact Triple.pure fun _ sound => sound

theorem validated_attempts (valid : validateRunArguments args = .ok ()) : 0 ≤ args.maxAttempts := by
  unfold validateRunArguments at valid
  split at valid
  · cases valid
  · split_ifs at valid with attempts
    exact le_trans (by decide) attempts.1

theorem runWorker_sound {world : World} (sound : world.Sound) (args : RunArguments) (surroundings : Surroundings) :
    (runWorker invocation args surroundings world).2.Sound := by
  unfold runWorker
  cases valid : validateRunArguments args with
  | error message => exact sound
  | ok _ =>
    have last := (supervise_triple invocation (validated_attempts valid) surroundings).final (fun _ _ sound => sound)
      (fun _ sound => sound) sound
    dsimp only
    split
    · rename_i ended
      rwa [ended] at last
    · rename_i ended
      rwa [ended] at last

theorem World.empty_sound : World.empty.Sound := ⟨fun _ => rfl, nofun, nofun, rfl⟩

end Runs

end MarketSentinel.Worker
