import MarketSentinel.Library.Program
import MarketSentinel.Library.Rounding
import MarketSentinel.Library.Text

/-! One run of the unattended worker: a start record, one record for each attempt and a last one.

Every record replaces the entry of its task in the shared state file. A write may be
refused, may go through and still be reported as failed, or may be the last thing that
happens before the process is gone.
-/

set_option autoImplicit false

namespace MarketSentinel.Worker

open Python Program

inductive Task where
  | alertsRefresh
  | walletsPoll
  deriving DecidableEq

def Task.serviceUnit : Task → Text
  | .alertsRefresh => text "market-sentinel-alerts-refresh.service"
  | .walletsPoll => text "market-sentinel-wallets-poll.service"

structure RunArguments where
  task : Task
  deadlineSeconds : ℚ
  attemptTimeoutSeconds : ℚ
  lockTimeoutSeconds : ℚ
  initialBackoffSeconds : ℚ
  maxBackoffSeconds : ℚ
  maxAttempts : Int
  walletLimit : Int
  stateFile : Text
  lockFile : Text
  sourceRevision : Text
  serviceUnit : Text
  unitContractSha256 : Text

section Arguments

/-- `fullmatch` of so many lowercase hexadecimal digits. -/
def isHexDigest (length : Nat) (t : Text) : Bool :=
  decide (t.length = length) &&
    t.all fun c => (48 ≤ c.val && c.val ≤ 57) || (97 ≤ c.val && c.val ≤ 102)

/-- The limits of the numbers, with the texts they have in an error. -/
def limits (args : RunArguments) : List (String × ℚ × (ℚ × String) × (ℚ × String)) :=
  [("deadline-seconds", args.deadlineSeconds, (7, "7"), (3600, "3600")),
    ("attempt-timeout-seconds", args.attemptTimeoutSeconds, (1, "1"), (900, "900")),
    ("lock-timeout-seconds", args.lockTimeoutSeconds, (0, "0"), (60, "60")),
    ("initial-backoff-seconds", args.initialBackoffSeconds, (0, "0"), (60, "60")),
    ("max-backoff-seconds", args.maxBackoffSeconds, (0, "0"), (300, "300"))]

def validateRunArguments (args : RunArguments) : Except Text Unit :=
  match (limits args).find? fun limit => decide ¬(limit.2.2.1.1 ≤ limit.2.1 ∧ limit.2.1 ≤ limit.2.2.2.1) with
  | some (name, _, low, high) =>
    .error (text ("--" ++ name ++ " must be between " ++ low.2 ++ " and " ++ high.2 ++ "."))
  | none =>
    if ¬(1 ≤ args.maxAttempts ∧ args.maxAttempts ≤ 10) then
      .error (text "--max-attempts must be between 1 and 10.")
    else if ¬(1 ≤ args.walletLimit ∧ args.walletLimit ≤ 100) then
      .error (text "--wallet-limit must be between 1 and 100.")
    else if args.deadlineSeconds < args.attemptTimeoutSeconds then
      .error (text "--attempt-timeout-seconds cannot exceed --deadline-seconds.")
    else if args.maxBackoffSeconds < args.initialBackoffSeconds then
      .error (text "--max-backoff-seconds cannot be less than --initial-backoff-seconds.")
    else if args.stateFile = args.lockFile then
      .error (text "--state-file and --lock-file must be different paths.")
    else if isHexDigest 40 args.sourceRevision = false then
      .error (text "--source-revision must be a lowercase 40-character Git commit.")
    else if args.serviceUnit ≠ args.task.serviceUnit then
      .error (text "--service-unit does not match --task.")
    else if isHexDigest 64 args.unitContractSha256 = false then
      .error (text "--unit-contract-sha256 must be a lowercase SHA-256 digest.")
    else .ok ()

end Arguments

structure AttemptResult where
  outcome : Text
  retryable : Bool
  processed : Nat
  problems : Nat
  emitted : Nat
  exitCode : Int

inductive EntryState where
  | running
  | retrying
  | succeeded
  | interrupted
  | failed
  deriving DecidableEq

/-- What an attempt or a run came to, and when. -/
structure Report where
  time : ℚ
  outcome : Text
  processed : Nat
  problems : Nat
  emitted : Nat

/-- The entry of a task; a field that may be missing is an option. Times are in seconds. -/
structure Entry where
  state : EntryState
  runId : Text
  pid : Nat
  lastStartedAt : ℚ
  deadlineSeconds : ℚ
  maxAttempts : Int
  sourceRevision : Text
  serviceUnit : Text
  unitContractSha256 : Text
  invocationSha256 : Text
  attemptsCompleted : Nat
  consecutiveFailures : Int
  abandonedRuns : Int
  lastSuccessAt : Option ℚ
  lastFailureAt : Option ℚ
  totalRuns : Option Int
  totalSuccesses : Option Int
  totalFailures : Option Int
  previousRunOutcome : Option Text := none
  lastAttempt : Option Report := none
  nextRetryAt : Option ℚ := none
  lastRun : Option (Report × ℚ) := none

structure WorkerState where
  updatedAt : Option ℚ
  tasks : Task → Option Entry

section Entries

/-- The process that runs, its name for the run and its clock at the start. -/
structure Launch where
  runId : Text
  pid : Nat
  startedAt : ℚ

def Entry.isOpen (entry : Entry) : Bool := decide (entry.state = .running ∨ entry.state = .retrying)

/-- `max(0, _integer(previous.get(key)))`. -/
def counter (value : Option Int) : Int := max 0 (value.getD 0)

def initialRunningEntry (invocation : RunArguments → Text) (previous : Option Entry) (args : RunArguments)
    (launch : Launch) : Entry :=
  let abandoned := previous.any Entry.isOpen
  { state := .running, runId := launch.runId, pid := launch.pid, lastStartedAt := launch.startedAt,
    deadlineSeconds := args.deadlineSeconds, maxAttempts := args.maxAttempts, sourceRevision := args.sourceRevision,
    serviceUnit := args.serviceUnit, unitContractSha256 := args.unitContractSha256,
    invocationSha256 := invocation args, attemptsCompleted := 0,
    consecutiveFailures := counter (previous.map Entry.consecutiveFailures) + if abandoned then 1 else 0,
    abandonedRuns := counter (previous.map Entry.abandonedRuns) + if abandoned then 1 else 0,
    lastSuccessAt := previous.bind Entry.lastSuccessAt,
    lastFailureAt := if abandoned then some launch.startedAt else previous.bind Entry.lastFailureAt,
    totalRuns := previous.bind Entry.totalRuns, totalSuccesses := previous.bind Entry.totalSuccesses,
    totalFailures := previous.bind Entry.totalFailures,
    previousRunOutcome := if abandoned then some (text "abandoned_without_terminal_telemetry") else none }

def attemptStateEntry (running : Entry) (result : AttemptResult) (attemptsCompleted : Nat) (now : ℚ)
    (nextRetryAt : Option ℚ) : Entry :=
  { running with
    state := if nextRetryAt.isSome then .retrying else .running
    attemptsCompleted
    lastAttempt := some ⟨now, result.outcome, result.processed, result.problems, result.emitted⟩
    nextRetryAt }

def AttemptResult.succeeded (result : AttemptResult) : Bool := decide (result.outcome = text "succeeded")

def AttemptResult.terminalState (result : AttemptResult) : EntryState :=
  if result.succeeded then .succeeded
  else if result.outcome = text "interrupted" then .interrupted
  else .failed

def terminalStateEntry (running : Entry) (result : AttemptResult) (attemptsCompleted : Nat) (started now : ℚ) : Entry :=
  { running with
    state := result.terminalState
    attemptsCompleted
    lastRun := some (⟨now, result.outcome, result.processed, result.problems, result.emitted⟩,
      roundTo 6 (max 0 (now - started)))
    totalRuns := some (counter running.totalRuns + 1)
    totalSuccesses := some (counter running.totalSuccesses + if result.succeeded then 1 else 0)
    totalFailures := some (counter running.totalFailures + if result.succeeded then 0 else 1)
    consecutiveFailures := if result.succeeded then 0 else counter (some running.consecutiveFailures) + 1
    nextRetryAt := none
    lastSuccessAt := if result.succeeded then some now else running.lastSuccessAt
    lastFailureAt := if result.succeeded then running.lastFailureAt else some now }

end Entries

/-! ## The run -/

/-- Why a run ended without an exit code of its own. -/
inductive Stop where
  | busy
  | interruptedBeforeStart (signal : Option Int)
  | stateError
  | supervisorFailure
  | crashed

inductive WriteOutcome where
  | saved
  | refused
  /-- The file was replaced, but the write is reported as failed. -/
  | uncertain
  | crashedBefore
  | crashedAfter

def WriteOutcome.committed : WriteOutcome → Bool
  | .saved | .uncertain | .crashedAfter => true
  | .refused | .crashedBefore => false

def WriteOutcome.result : WriteOutcome → Except Stop Unit
  | .saved => .ok ()
  | .refused | .uncertain => .error .stateError
  | .crashedBefore | .crashedAfter => .error .crashed

inductive Ending where
  | succeeded
  | interrupted
  | failed
  deriving DecidableEq

/-- What happened to a run whose start record is on the file. -/
structure Run where
  task : Task
  runId : Text
  maxAttempts : Int
  attempts : Nat
  /-- How it ended, once its last record is on the file. -/
  ending : Option Ending
  deriving DecidableEq

/-- The run after one more attempt. -/
def Run.launched (run : Run) : Run := { run with attempts := run.attempts + 1 }

/-- The run after a last record. -/
def Run.closed (ending : Option Ending) (run : Run) : Run := { run with ending }

/-- A replaced file: what it held before and after, and the runs so far. -/
structure Commit where
  task : Task
  before : WorkerState
  after : WorkerState
  history : List Run

/-- The state file, with the runs and the commits so far; the newest are first. -/
structure World where
  file : WorkerState
  history : List Run
  commits : List Commit

def World.empty : World := ⟨⟨none, fun _ => none⟩, [], []⟩

/-- The file with another entry for one task. -/
def WorkerState.withEntry (state : WorkerState) (task : Task) (entry : Entry) (now : ℚ) : WorkerState :=
  { updatedAt := some now, tasks := fun other => if other = task then some entry else state.tasks other }

def World.commit (world : World) (task : Task) (entry : Entry) (now : ℚ) (history : List Run) : World :=
  let file := world.file.withEntry task entry now
  { file, history, commits := ⟨task, world.file, file, history⟩ :: world.commits }

/-- The record of the newest run, changed. -/
def onNewest (change : Run → Run) : List Run → List Run
  | [] => []
  | run :: earlier => change run :: earlier

/-- `_update_task_state`; `record` keeps account of the runs. -/
def updateTaskState (task : Task) (entry : Entry) (now : ℚ) (record : List Run → List Run) (outcome : WriteOutcome) :
    Program Stop World Unit := do
  Program.modify fun world => if outcome.committed then world.commit task entry now (record world.history) else world
  Program.ofExcept outcome.result

/-- What surrounds one attempt of a run. -/
structure Attempt where
  /-- The signal of a shutdown that was requested before the attempt. -/
  requestedBefore : Option Int
  remainingBefore : ℚ
  /-- The result of the attempt process, if there is one at all. -/
  result : Option AttemptResult
  finishedAt : ℚ
  requestedAfter : Bool
  remainingAfter : ℚ
  write : WriteOutcome
  /-- The signal of a shutdown that was requested during the wait for the next attempt. -/
  requestedWaiting : Option Int

structure Surroundings where
  lock : Except Stop Unit
  read : Except Stop Unit
  launch : Launch
  startWrite : WriteOutcome
  attempt : Nat → Attempt
  finishedAt : ℚ
  terminalWrite : WriteOutcome

def interruptedBy (signal : Int) : AttemptResult := ⟨text "interrupted", false, 0, 0, 0, 128 + signal⟩

def runDeadlineExceeded : AttemptResult := ⟨text "run_deadline_exceeded", false, 0, 0, 0, 75⟩

def notStarted : AttemptResult := ⟨text "not_started", true, 0, 0, 0, 75⟩

def backoff (args : RunArguments) (attemptNumber : Nat) : ℚ :=
  min (args.initialBackoffSeconds * 2 ^ (attemptNumber - 1)) args.maxBackoffSeconds

def retries (args : RunArguments) (attemptNumber : Nat) (attempt : Attempt) (result : AttemptResult) : Bool :=
  result.retryable && decide ((attemptNumber : Int) < args.maxAttempts) && !attempt.requestedAfter &&
    decide (backoff args attemptNumber + 1 / 1000 < attempt.remainingAfter)

/-- The attempts that are left, after `completed` of them. -/
def attempts (args : RunArguments) (surroundings : Nat → Attempt) :
    Nat → Nat → Entry → AttemptResult → Program Stop World (Entry × AttemptResult × Nat)
  | 0, completed, running, last => pure (running, last, completed)
  | left + 1, completed, running, _ =>
    let attempt := surroundings (completed + 1)
    match attempt.requestedBefore with
    | some signal => pure (running, interruptedBy signal, completed)
    | none =>
      if attempt.remainingBefore ≤ 6 then pure (running, runDeadlineExceeded, completed)
      else do
        Program.modify fun world => { world with history := onNewest Run.launched world.history }
        match attempt.result with
        | none => Program.raise .supervisorFailure
        | some result => do
          let retry := retries args (completed + 1) attempt result
          let running := attemptStateEntry running result (completed + 1) attempt.finishedAt
            (if retry then some (attempt.finishedAt + backoff args (completed + 1)) else none)
          updateTaskState args.task running attempt.finishedAt id attempt.write
          if result.succeeded = true ∨ retry = false then return (running, result, completed + 1)
          else
            match attempt.requestedWaiting with
            | some signal => return (running, interruptedBy signal, completed + 1)
            | none => attempts args surroundings left (completed + 1) running result

def EntryState.ending : EntryState → Option Ending
  | .running | .retrying => none
  | .succeeded => some .succeeded
  | .interrupted => some .interrupted
  | .failed => some .failed

/-- A run that holds the lock. -/
def supervise (invocation : RunArguments → Text) (args : RunArguments) (surroundings : Surroundings) :
    Program Stop World Int := do
  Program.ofExcept surroundings.lock
  Program.ofExcept surroundings.read
  let world ← Program.state
  let launch := surroundings.launch
  let started := initialRunningEntry invocation (world.file.tasks args.task) args launch
  updateTaskState args.task started launch.startedAt
    (fun history => ⟨args.task, launch.runId, args.maxAttempts, 0, none⟩ :: history) surroundings.startWrite
  let (running, last, completed) ← attempts args surroundings.attempt args.maxAttempts.toNat 0 started notStarted
  let terminal := terminalStateEntry running last completed launch.startedAt surroundings.finishedAt
  updateTaskState args.task terminal surroundings.finishedAt
    (onNewest (Run.closed last.terminalState.ending)) surroundings.terminalWrite
  return last.exitCode

/-- The exit code, which a process that is gone does not have. -/
def Stop.exitCode : Stop → Option Int
  | .busy => some 75
  | .interruptedBeforeStart signal => some (128 + signal.getD 0)
  | .stateError => some 74
  | .supervisorFailure => some 70
  | .crashed => none

def runWorker (invocation : RunArguments → Text) (args : RunArguments) (surroundings : Surroundings) (world : World) :
    Option Int × World :=
  match validateRunArguments args with
  | .error _ => (some 64, world)
  | .ok () =>
    match supervise invocation args surroundings world with
    | (.ok code, next) => (some code, next)
    | (.error stop, next) => (stop.exitCode, next)

end MarketSentinel.Worker
