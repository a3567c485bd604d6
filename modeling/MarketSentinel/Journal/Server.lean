import MarketSentinel.Journal.Entry

/-! The mutation routes of one server over one configuration file.

Mutations are serialized. Each request loads the file, works on that copy and
saves it; a save can fail before or after the file is replaced. A crash loses
the request in progress and the in-memory view.
-/

set_option autoImplicit false

namespace MarketSentinel.Journal

open Python Wallet

variable {Activity : Type}

structure Config (Activity : Type) where
  wallets : List WalletWatch
  mutationJournal : List (Entry Activity)
  deriving DecidableEq

/-- A configuration the strict loader accepts. -/
structure StoredConfig (Activity : Type) extends Config Activity where
  distinct : Distinct mutationJournal

inductive SaveFault where
  | none
  | beforeReplace
  | afterReplace
  deriving DecidableEq

/-- Save a configuration; the second part tells whether the caller saw success. -/
def saveConfig (disk : StoredConfig Activity) (cfg : Config Activity) (fault : SaveFault) :
    StoredConfig Activity × Bool :=
  if valid : Distinct cfg.mutationJournal then
    match fault with
    | .none => (⟨cfg, valid⟩, true)
    | .beforeReplace => (disk, false)
    | .afterReplace => (⟨cfg, valid⟩, false)
  else (disk, false)

theorem saveConfig_cases (disk : StoredConfig Activity) (cfg : Config Activity) (fault : SaveFault) :
    (saveConfig disk cfg fault = (disk, false)) ∨
      ((saveConfig disk cfg fault).1.toConfig = cfg ∧
        ((saveConfig disk cfg fault).2 = false → fault = .afterReplace)) := by
  unfold saveConfig
  by_cases valid : Distinct cfg.mutationJournal
  · cases fault <;> simp [valid]
  · simp [valid]

theorem saveConfig_success {disk next : StoredConfig Activity} {cfg : Config Activity} {fault : SaveFault}
    (saved : saveConfig disk cfg fault = (next, true)) : next.toConfig = cfg := by
  rcases saveConfig_cases disk cfg fault with failed | ⟨replaced, _⟩
  · rw [failed] at saved
    cases saved
  · rwa [saved] at replaced

theorem mem_saved {disk : StoredConfig Activity} {cfg : Config Activity} {fault : SaveFault}
    {entry : Entry Activity} (member : entry ∈ (saveConfig disk cfg fault).1.mutationJournal) :
    entry ∈ disk.mutationJournal ∨ entry ∈ cfg.mutationJournal := by
  rcases saveConfig_cases disk cfg fault with failed | ⟨replaced, _⟩
  · rw [failed] at member
    exact Or.inl member
  · rw [replaced] at member
    exact Or.inr member

structure Request where
  method : Text
  path : Text
  requestHash : Text
  idempotencyKey : Text

/-- What one request meets: the clock, a new identity, the checks of its route and the save. -/
structure Call where
  clock : Nat
  identity : Text
  refused : Bool
  fault : SaveFault

/-- `POST /api/markets/<market>/orders/<operation>`. -/
def isLiveOrderManagementRoute (casing : Casing) (method path : Text) : Bool :=
  let parts := split 47 (stripWhere (fun c => c = 47) path)
  decide (casing.upper (strip method) = text "POST" ∧ parts.length = 5 ∧
    parts.take 2 = [text "api", text "markets"] ∧ parts[3]? = some (text "orders") ∧
    parts[2]? ≠ some [] ∧ parts[4]? ≠ some [])

section Routes

variable (casing : Casing) (digest : Text → Text)

def newMutationJournalEntry (request : Request) (call : Call) : Entry Activity where
  keyHash := digest request.idempotencyKey
  method := casing.upper (strip request.method)
  path := strip request.path
  requestHash := request.requestHash
  live := isLiveOrderManagementRoute casing request.method request.path
  id := call.identity
  createdAt := call.clock
  updatedAt := call.clock

def mutationJournalEntry (cfg : Config Activity) (idempotencyKey : Text) : Option (Entry Activity) :=
  cfg.mutationJournal.find? fun entry => entry.keyHash = digest idempotencyKey

def RequestMatches (entry : Entry Activity) (request : Request) : Prop :=
  entry.method = casing.upper (strip request.method) ∧ entry.path = strip request.path ∧
    entry.requestHash = request.requestHash

instance (entry : Entry Activity) (request : Request) : Decidable (RequestMatches casing entry request) := by
  unfold RequestMatches; infer_instance

/-- How a durable request goes on after its journal entry was looked up. -/
inductive Prepared (Activity : Type) where
  | replay (entry : Entry Activity)
  | rejected (entry : Entry Activity)
  | unresolved (entry : Entry Activity)
  | conflict
  | failed
  | admitted (cfg : Config Activity) (entry : Entry Activity)

/-- The disposition of an authorized retry while it is in progress. -/
def Entry.retry (entry : Entry Activity) (now : Nat) : Entry Activity :=
  { entry with
    state := .pending
    updatedAt := now
    replayAuthorizedAt := 0
    outcomeCode := text "manual_retry_started"
    outcomeMessage := text "The operator-authorized retry is in progress." }

/-- The live dispatch barrier: the pending entry must be saved before the request goes on. -/
def admitMutation (disk : StoredConfig Activity) (journal : List (Entry Activity)) (entry : Entry Activity)
    (fault : SaveFault) : StoredConfig Activity × Prepared Activity :=
  let cfg := { disk.toConfig with mutationJournal := journal }
  match saveConfig disk cfg fault with
  | (next, true) => (next, .admitted cfg entry)
  | (next, false) => (next, .failed)

/-- Resolve replay and conflict state and persist the live dispatch barrier. -/
def prepareGeneralIdempotentMutation (disk : StoredConfig Activity) (request : Request) (call : Call) :
    StoredConfig Activity × Prepared Activity :=
  let live := isLiveOrderManagementRoute casing request.method request.path
  if live ∧ call.refused then (disk, .failed)
  else
    match mutationJournalEntry digest disk.toConfig request.idempotencyKey with
    | some entry =>
      if RequestMatches casing entry request then
        match entry.state with
        | .completed => (disk, .replay entry)
        | .rejected => (disk, .rejected entry)
        | .retryable =>
          if live ∧ entry.replayAuthorizedAt ≠ 0 then
            admitMutation disk (updateEntry entry.id (·.retry call.clock) disk.mutationJournal)
              (entry.retry call.clock) call.fault
          else (disk, .unresolved entry)
        | .pending | .ambiguous => (disk, .unresolved entry)
      else (disk, .conflict)
    | none =>
      let entry := newMutationJournalEntry casing digest request call
      if live then
        match appendMutationJournal disk.mutationJournal entry with
        | some journal => admitMutation disk journal entry call.fault
        | none => (disk, .failed)
      else (disk, .admitted disk.toConfig entry)

/-! ## Live order management -/

/-- What the live adapter did: it returned a result, it refused the order before its
transport call, or it left the outcome unknown. -/
inductive AdapterOutcome (Activity : Type) where
  | result (stored : Response Activity)
  | invalid (rejection : Response Activity)
  | unknown

/-- The disposition of a dispatched entry. -/
def Entry.settle (entry : Entry Activity) (outcome : AdapterOutcome Activity) (now : Nat) : Entry Activity :=
  match outcome with
  | .result stored => { entry with
      state := .completed
      responseStatus := 200
      response := stored
      outcomeCode := text "live_dispatch_completed"
      outcomeMessage := text "The live mutation result was durably recorded."
      updatedAt := now }
  | .invalid rejection => { entry with
      state := .rejected
      responseStatus := 400
      response := rejection
      outcomeCode := text "pre_dispatch_validation_failed"
      outcomeMessage := text "Local validation failed before the live adapter was dispatched."
      updatedAt := now }
  | .unknown => { entry with
      state := .ambiguous
      responseStatus := 503
      response := .empty
      outcomeCode := text "live_dispatch_outcome_unknown"
      outcomeMessage := text "The live adapter returned without a provable non-dispatch outcome; venue reconciliation is required."
      updatedAt := now }

/-- A live request behind its barrier. `authorized` tells whether it consumed an
operator's authorization; no branch reads it. -/
structure Running (Activity : Type) where
  cfg : Config Activity
  entry : Entry Activity
  authorized : Bool

inductive Phase (Activity : Type) where
  | idle
  | dispatching (running : Running Activity)
  | returned (running : Running Activity) (outcome : AdapterOutcome Activity)

/-- The file, the in-memory view and the live request in progress. The last four
fields are history variables per key hash: adapter entries of new and of authorized
requests, recorded confirmations that nothing was dispatched, and evictions. -/
structure Server (Activity : Type) where
  disk : StoredConfig Activity
  recent : List Activity
  phase : Phase Activity
  started : Text → Nat
  retried : Text → Nat
  cleared : Text → Nat
  evicted : Text → Prop

def keys (cfg : StoredConfig Activity) : List Text := cfg.mutationJournal.map MutationJournalEntry.keyHash

def Server.replace (s : Server Activity) (disk : StoredConfig Activity) : Server Activity :=
  { s with
    disk := disk
    evicted := fun key => s.evicted key ∨ (key ∈ keys s.disk ∧ key ∉ keys disk) }

/-- Begin a live order-management request. -/
def Server.beginLive (s : Server Activity) (request : Request) (call : Call) : Server Activity :=
  match prepareGeneralIdempotentMutation casing digest s.disk request call with
  | (disk, .admitted cfg entry) =>
    { s.replace disk with
      phase := .dispatching ⟨cfg, entry, (mutationJournalEntry digest s.disk.toConfig request.idempotencyKey).isSome⟩ }
  | (disk, _) => s.replace disk

def increment (count : Text → Nat) (key : Text) : Text → Nat :=
  fun other => if other = key then count other + 1 else count other

/-- Enter the adapter. -/
def Server.enter (s : Server Activity) (running : Running Activity) (outcome : AdapterOutcome Activity) :
    Server Activity :=
  { s with
    phase := .returned running outcome
    started := if running.authorized then s.started else increment s.started running.entry.keyHash
    retried := if running.authorized then increment s.retried running.entry.keyHash else s.retried }

/-- Record the outcome of a dispatch; whether or not the save succeeds, the request ends. -/
def Server.recordOutcome (s : Server Activity) (running : Running Activity) (outcome : AdapterOutcome Activity)
    (clock : Nat) (fault : SaveFault) : Server Activity :=
  let cfg := { running.cfg with
    mutationJournal := updateEntry running.entry.id (·.settle outcome clock) running.cfg.mutationJournal }
  { s.replace (saveConfig s.disk cfg fault).1 with phase := .idle }

/-- An operator reconciles an unresolved entry. -/
def Server.reconcile (s : Server Activity) (entryId resolution : Text) (stored : Response Activity)
    (clock : Nat) (fault : SaveFault) : Server Activity :=
  match reconcileAmbiguousMutation casing s.disk.mutationJournal entryId resolution stored clock with
  | .error _ => s
  | .ok journal =>
    let disk := (saveConfig s.disk { s.disk.toConfig with mutationJournal := journal } fault).1
    { s.replace disk with
      cleared := fun key =>
        if ∃ before ∈ s.disk.mutationJournal, before.keyHash = key ∧ before.state ≠ .retryable ∧
            ∃ after ∈ disk.mutationJournal, after.keyHash = key ∧ after.state = .retryable then
          s.cleared key + 1
        else s.cleared key }

/-! ## Local mutations -/

/-- The routes that commit their result together with the entry. -/
def localDurableCreateRoutes : List Text :=
  [text "/api/alerts", text "/api/wallets", text "/api/paper/orders"]

def Entry.complete (entry : Entry Activity) (status : Nat) (stored : Response Activity) (code message : Text)
    (now : Nat) : Entry Activity :=
  { entry with
    state := .completed
    responseStatus := status
    response := stored
    outcomeCode := code
    outcomeMessage := message
    updatedAt := now }

/-- A local durable mutation that leaves the given wallets and stores the given response. -/
def Server.commitLocal (s : Server Activity) (request : Request) (call : Call) (wallets : List WalletWatch)
    (status : Nat) (stored : Response Activity) : Server Activity :=
  match prepareGeneralIdempotentMutation casing digest s.disk request call with
  | (disk, .admitted cfg entry) =>
    let entry := entry.complete status stored (text "committed")
      (text "The local mutation and replay result were committed atomically.") call.clock
    match appendMutationJournal cfg.mutationJournal entry with
    | none => s.replace disk
    | some journal => s.replace (saveConfig disk ⟨wallets, journal⟩ call.fault).1
  | (disk, _) => s.replace disk

/-- Any other saved change of settings keeps the journal. -/
def Server.saveSettings (s : Server Activity) (wallets : List WalletWatch) (fault : SaveFault) :
    Server Activity :=
  s.replace (saveConfig s.disk { s.disk.toConfig with wallets := wallets } fault).1

/-! ## Wallet polls -/

structure PollRequest where
  requestHash : Text
  idempotencyKey : Text
  acknowledge : Option Text

def PollRequest.request (poll : PollRequest) : Request :=
  ⟨text "POST", pollPath, poll.requestHash, poll.idempotencyKey⟩

/-- What a poll request meets besides its call: the selected market, the sources and budgets
of the poll, and whether the receipt and the current views fit. -/
structure PollCall (Activity : Type) extends Call where
  marketId : Option Text
  environment : Environment Activity
  responseFits : Receipt Activity → Bool
  storable : Receipt Activity → Bool
  identityOf : Activity → Text × Text

/-- A batch, a stored response of another shape, or an error. -/
inductive PollReply (Activity : Type) where
  | answered (receipt : Receipt Activity)
  | document (value : Json)
  | error
  deriving DecidableEq

def pollMessage (result : PollResult Activity) : Text :=
  text "Polled " ++ text (toString result.polledWallets) ++ text " wallet(s); delivered " ++
    text (toString result.deliveredActivity) ++ text " activity item(s); " ++
    (match result.remainingActivity with
      | some remaining => text (toString remaining)
      | none => text "None") ++ text " remaining."

def Entry.acknowledge (entry : Entry Activity) (now : Nat) : Entry Activity :=
  if entry.outcomeCode = acknowledgedCode then entry
  else { entry with
    outcomeCode := acknowledgedCode
    outcomeMessage := text "The client acknowledged receiving this complete wallet activity batch."
    updatedAt := now }

/-- Mark a committed poll receipt as received; an unknown receipt is refused. -/
def acknowledgeReceipt (journal : List (Entry Activity)) (acknowledge : Option Text) (now : Nat) :
    Option (List (Entry Activity)) :=
  match acknowledge with
  | none => some journal
  | some receiptId =>
    if receiptId = [] ∨ 128 < receiptId.length then none
    else
      match journal.find? fun entry => entry.id = receiptId with
      | none => none
      | some prior =>
        if prior.method = text "POST" ∧ prior.path = pollPath ∧ prior.state = .completed then
          some (updateEntry prior.id (·.acknowledge now) journal)
        else none

def unacknowledged (journal : List (Entry Activity)) : Nat :=
  journal.countP fun entry => decide (Unacknowledged entry)

/-- The recent view with a recovered batch in front. -/
def rehydrate (identityOf : Activity → Text × Text) (recovered recent : List Activity) : List Activity :=
  (recovered ++ recent.filter fun item => decide (identityOf item ∉ recovered.map identityOf)).take 100

/-- The completed journal entry of a poll. -/
def pollEntry (entry : Entry Activity) (receipt : Receipt Activity) (now : Nat) : Entry Activity :=
  entry.complete 200 (.receipt receipt) committedBatchCode
    (text "Wallet cursors and the complete replayable activity batch committed atomically.") now

/-- The staged part of a poll: the configuration to save, its receipt and the new recent view. -/
def stagePoll (cfg : Config Activity) (recent : List Activity) (entry : Entry Activity) (poll : PollRequest)
    (call : PollCall Activity) : Option (Config Activity × Receipt Activity × List Activity) := do
  let journal ← acknowledgeReceipt cfg.mutationJournal poll.acknowledge call.clock
  if maxUnacknowledgedWalletPollReceipts ≤ unacknowledged journal then none
  else
    -- Durable capacity is reserved before any upstream work.
    let _ ← appendMutationJournal journal entry
    let marketId ← call.marketId
    match pollWalletActivity call.environment marketId walletPollBatchItems true cfg.wallets recent with
    | .ok (.published staged result) =>
      let receipt : Receipt Activity := ⟨result, pollMessage result, entry.id⟩
      if call.responseFits receipt ∧ call.storable receipt then
        let journal ← appendMutationJournal journal (pollEntry entry receipt call.clock)
        return (⟨staged.wallets, journal⟩, receipt, staged.recent)
      else none
    | _ => none

/-- `POST /api/wallets/poll`. -/
def Server.pollWallets (s : Server Activity) (poll : PollRequest) (call : PollCall Activity) :
    Server Activity × PollReply Activity :=
  match prepareGeneralIdempotentMutation casing digest s.disk poll.request call.toCall with
  | (_, .replay entry) =>
    match entry.response with
    | .receipt receipt =>
      -- The receipt stays pinned when current views cannot fit.
      if call.responseFits receipt then
        ({ s with recent := rehydrate call.identityOf receipt.result.activity s.recent }, .answered receipt)
      else (s, .error)
    | .document value => (s, .document value)
  | (disk, .admitted cfg entry) =>
    match stagePoll cfg s.recent entry poll call with
    | none => (s.replace disk, .error)
    | some (staged, receipt, recent) =>
      match saveConfig disk staged call.fault with
      | (next, true) => ({ s.replace next with recent := recent }, .answered receipt)
      | (next, false) => (s.replace next, .error)
  | (disk, _) => (s.replace disk, .error)

/-- One serialized mutation, one adapter call or its record, or a crash. -/
inductive Step : Server Activity → Server Activity → Prop where
  | beginLive {s : Server Activity} (request : Request) (call : Call) (idle : s.phase = .idle)
      (live : isLiveOrderManagementRoute casing request.method request.path = true) :
      Step s (s.beginLive casing digest request call)
  | enter {s : Server Activity} (running : Running Activity) (outcome : AdapterOutcome Activity)
      (admitted : s.phase = .dispatching running) : Step s (s.enter running outcome)
  | recordOutcome {s : Server Activity} (running : Running Activity) (outcome : AdapterOutcome Activity)
      (clock : Nat) (fault : SaveFault) (returned : s.phase = .returned running outcome) :
      Step s (s.recordOutcome running outcome clock fault)
  | reconcile {s : Server Activity} (entryId resolution : Text) (stored : Response Activity) (clock : Nat)
      (fault : SaveFault) (idle : s.phase = .idle) :
      Step s (s.reconcile casing entryId resolution stored clock fault)
  | commitLocal {s : Server Activity} (request : Request) (call : Call) (wallets : List WalletWatch)
      (status : Nat) (stored : Response Activity) (idle : s.phase = .idle)
      (route : request.path ∈ localDurableCreateRoutes) :
      Step s (s.commitLocal casing digest request call wallets status stored)
  | saveSettings {s : Server Activity} (wallets : List WalletWatch) (fault : SaveFault)
      (idle : s.phase = .idle) : Step s (s.saveSettings wallets fault)
  | poll {s : Server Activity} (poll : PollRequest) (call : PollCall Activity) (idle : s.phase = .idle) :
      Step s (s.pollWallets casing digest poll call).1
  | crash {s : Server Activity} : Step s { s with phase := .idle, recent := [] }

end Routes

/-! ## What the local parts do -/

variable {casing : Casing} {digest : Text → Text}

theorem lookup_some {cfg : Config Activity} {idempotencyKey : Text} {entry : Entry Activity}
    (found : mutationJournalEntry digest cfg idempotencyKey = some entry) :
    entry ∈ cfg.mutationJournal ∧ entry.keyHash = digest idempotencyKey :=
  ⟨List.mem_of_find?_eq_some found, by simpa using List.find?_some found⟩

theorem lookup_none {cfg : Config Activity} {idempotencyKey : Text}
    (missing : mutationJournalEntry digest cfg idempotencyKey = none) :
    ∀ entry ∈ cfg.mutationJournal, entry.keyHash ≠ digest idempotencyKey := by
  intro entry member
  simpa using List.find?_eq_none.mp missing entry member

/-- A local request looks its entry up and saves nothing. -/
theorem prepare_local {disk next : StoredConfig Activity} {request : Request} {call : Call}
    {prepared : Prepared Activity}
    (live : isLiveOrderManagementRoute casing request.method request.path = false)
    (result : prepareGeneralIdempotentMutation casing digest disk request call = (next, prepared)) :
    next = disk ∧ ∀ cfg entry, prepared = .admitted cfg entry →
      cfg = disk.toConfig ∧ entry = newMutationJournalEntry casing digest request call ∧
        ∀ other ∈ disk.mutationJournal, other.keyHash ≠ entry.keyHash := by
  unfold prepareGeneralIdempotentMutation at result
  simp only [live, Bool.false_eq_true, false_and, if_false] at result
  cases found : mutationJournalEntry digest disk.toConfig request.idempotencyKey with
  | none =>
    simp only [found, Prod.mk.injEq] at result
    obtain ⟨rfl, rfl⟩ := result
    refine ⟨rfl, fun cfg entry same => ?_⟩
    cases same
    exact ⟨rfl, rfl, lookup_none found⟩
  | some entry =>
    simp only [found] at result
    split at result
    · cases state : entry.state <;> simp only [state, Prod.mk.injEq] at result <;>
        obtain ⟨rfl, rfl⟩ := result <;> exact ⟨rfl, by simp⟩
    · cases result
      exact ⟨rfl, by simp⟩

theorem local_route (casing : Casing) (method : Text) {path : Text} (route : path ∈ pollPath :: localDurableCreateRoutes) :
    isLiveOrderManagementRoute casing method path = false := by
  have parts : ∀ path ∈ pollPath :: localDurableCreateRoutes,
      (split 47 (stripWhere (fun c => c = 47) path)).length ≠ 5 := by decide
  unfold isLiveOrderManagementRoute
  simp [parts path route]

/-- A live route has more separators than the poll route, with or without outer blanks. -/
theorem live_path {method path : Text} (live : isLiveOrderManagementRoute casing method path = true) :
    strip path ≠ pollPath := by
  intro same
  have parts := (of_decide_eq_true live).2.1
  rw [length_split] at parts
  have inner := count_stripWhere_le (fun c => c = 47) 47 path
  have outer : (strip path).count 47 = path.count 47 := count_stripWhere (by decide) path
  have separators : pollPath.count 47 = 3 := by decide
  rw [same, separators] at outer
  omega

theorem acknowledge_eq (entry : Entry Activity) (now : Nat) :
    (entry.acknowledge now).id = entry.id ∧ (entry.acknowledge now).keyHash = entry.keyHash ∧
      (entry.acknowledge now).state = entry.state ∧ (entry.acknowledge now).path = entry.path ∧
      (entry.acknowledge now).method = entry.method ∧ (entry.acknowledge now).requestHash = entry.requestHash ∧
      (entry.acknowledge now).response = entry.response ∧
      (entry.acknowledge now).outcomeCode = acknowledgedCode := by
  unfold Entry.acknowledge
  split
  · rename_i already
    exact ⟨rfl, rfl, rfl, rfl, rfl, rfl, rfl, already⟩
  · exact ⟨rfl, rfl, rfl, rfl, rfl, rfl, rfl, rfl⟩

/-- An acknowledgement marks at most one committed receipt. -/
theorem acknowledgeReceipt_cases {journal after : List (Entry Activity)} {acknowledge : Option Text} {now : Nat}
    (acknowledged : acknowledgeReceipt journal acknowledge now = some after) :
    after = journal ∨ ∃ prior ∈ journal, prior.path = pollPath ∧ prior.state = .completed ∧
      after = updateEntry prior.id (·.acknowledge now) journal := by
  unfold acknowledgeReceipt at acknowledged
  split at acknowledged
  · exact Or.inl (Option.some.inj acknowledged).symm
  · rename_i receiptId
    split at acknowledged
    · cases acknowledged
    · cases found : journal.find? fun entry => entry.id = receiptId with
      | none => simp [found] at acknowledged
      | some prior =>
        simp only [found] at acknowledged
        split at acknowledged
        · rename_i committed
          exact Or.inr ⟨prior, List.mem_of_find?_eq_some found, committed.2.1, committed.2.2,
            (Option.some.inj acknowledged).symm⟩
        · cases acknowledged

theorem acknowledgeReceipt_distinct {journal after : List (Entry Activity)} {acknowledge : Option Text} {now : Nat}
    (distinct : Distinct journal) (acknowledged : acknowledgeReceipt journal acknowledge now = some after) :
    Distinct after := by
  rcases acknowledgeReceipt_cases acknowledged with rfl | ⟨prior, _, _, _, rfl⟩
  · exact distinct
  · exact distinct.update prior.id (fun item => (acknowledge_eq item now).1)
      fun item => (acknowledge_eq item now).2.1

/-- A staged poll is a published batch of the wallets, with its receipt appended to the journal. -/
theorem stagePoll_spec {cfg staged : Config Activity} {recent view : List Activity} {entry : Entry Activity}
    {poll : PollRequest} {call : PollCall Activity} {receipt : Receipt Activity}
    (success : stagePoll cfg recent entry poll call = some (staged, receipt, view)) :
    ∃ journal marketId published,
      acknowledgeReceipt cfg.mutationJournal poll.acknowledge call.clock = some journal ∧
      unacknowledged journal < maxUnacknowledgedWalletPollReceipts ∧
      pollWalletActivity call.environment marketId walletPollBatchItems true cfg.wallets recent =
        .ok (.published published receipt.result) ∧
      receipt.receiptId = entry.id ∧ staged.wallets = published.wallets ∧ view = published.recent ∧
      appendMutationJournal journal (pollEntry entry receipt call.clock) = some staged.mutationJournal := by
  unfold stagePoll at success
  obtain ⟨journal, acknowledged, rest⟩ := Option.bind_eq_some_iff.mp success
  split at rest
  · cases rest
  · rename_i capacity
    obtain ⟨_, _, rest⟩ := Option.bind_eq_some_iff.mp rest
    obtain ⟨marketId, _, rest⟩ := Option.bind_eq_some_iff.mp rest
    split at rest
    · rename_i published result polled
      dsimp only at rest
      split at rest
      · obtain ⟨after, appended, rest⟩ := Option.bind_eq_some_iff.mp rest
        cases rest
        exact ⟨journal, marketId, published, acknowledged, not_le.mp capacity, polled, rfl, rfl, rfl, appended⟩
      · cases rest
    · cases rest

@[simp] theorem replace_self (s : Server Activity) : s.replace s.disk = s := by
  have same : (fun key => s.evicted key ∨ (key ∈ keys s.disk ∧ key ∉ keys s.disk)) = s.evicted := by
    funext key
    exact propext ⟨fun either => either.elim id fun ⟨held, missing⟩ => absurd held missing, Or.inl⟩
  rw [Server.replace, same]

/-- What one poll request can do: nothing, replay a receipt, or try to save a staged batch. -/
inductive Polled (casing : Casing) (digest : Text → Text) (s : Server Activity) (poll : PollRequest)
    (call : PollCall Activity) : Server Activity × PollReply Activity → Prop where
  | stopped (reply : PollReply Activity) (silent : ∀ receipt, reply ≠ .answered receipt) :
      Polled casing digest s poll call (s, reply)
  | replayed (entry : Entry Activity) (receipt : Receipt Activity) (member : entry ∈ s.disk.mutationJournal)
      (key : entry.keyHash = digest poll.idempotencyKey) (matching : RequestMatches casing entry poll.request)
      (state : entry.state = .completed) (response : entry.response = .receipt receipt) :
      Polled casing digest s poll call
        ({ s with recent := rehydrate call.identityOf receipt.result.activity s.recent }, .answered receipt)
  | saved (staged : Config Activity) (receipt : Receipt Activity) (recent : List Activity)
      (next : StoredConfig Activity) (success : Bool)
      (new : ∀ other ∈ s.disk.mutationJournal, other.keyHash ≠ digest poll.idempotencyKey)
      (stage : stagePoll s.disk.toConfig s.recent (newMutationJournalEntry casing digest poll.request call.toCall)
        poll call = some (staged, receipt, recent))
      (save : saveConfig s.disk staged call.fault = (next, success)) :
      Polled casing digest s poll call
        (if success then ({ s.replace next with recent := recent }, .answered receipt)
          else (s.replace next, .error))

/-- A local request with an entry is answered from it. -/
theorem prepare_existing (casing : Casing) (call : Call) {disk : StoredConfig Activity} {request : Request}
    {entry : Entry Activity}
    (live : isLiveOrderManagementRoute casing request.method request.path = false)
    (found : mutationJournalEntry digest disk.toConfig request.idempotencyKey = some entry) :
    prepareGeneralIdempotentMutation casing digest disk request call =
      (disk, if RequestMatches casing entry request then
        (match entry.state with
          | .completed => .replay entry
          | .rejected => .rejected entry
          | _ => .unresolved entry)
        else .conflict) := by
  unfold prepareGeneralIdempotentMutation
  simp only [live, found, Bool.false_eq_true, false_and, if_false]
  split
  · cases state : entry.state <;> rfl
  · rfl

theorem pollWallets_cases (casing : Casing) (digest : Text → Text) (s : Server Activity) (poll : PollRequest)
    (call : PollCall Activity) :
    Polled casing digest s poll call (s.pollWallets casing digest poll call) := by
  have plain : isLiveOrderManagementRoute casing poll.request.method poll.request.path = false :=
    local_route casing _ List.mem_cons_self
  unfold Server.pollWallets
  cases found : mutationJournalEntry digest s.disk.toConfig poll.idempotencyKey with
  | none =>
    have prepared : prepareGeneralIdempotentMutation casing digest s.disk poll.request call.toCall =
        (s.disk, .admitted s.disk.toConfig (newMutationJournalEntry casing digest poll.request call.toCall)) := by
      unfold prepareGeneralIdempotentMutation
      simp [plain, show mutationJournalEntry digest s.disk.toConfig poll.request.idempotencyKey = none from found]
    rw [prepared]
    dsimp only
    split
    · rw [replace_self]
      exact .stopped .error (by simp)
    · rename_i staged receipt recent stage
      cases save : saveConfig s.disk staged call.fault with
      | mk next success =>
        have done : Polled casing digest s poll call _ :=
          .saved staged receipt recent next success (lookup_none found) stage save
        cases success
        · exact done
        · exact done
  | some entry =>
    have prepared := prepare_existing casing call.toCall plain found
    rw [prepared]
    have unchanged : Polled casing digest s poll call (s.replace s.disk, .error) := by
      rw [replace_self]
      exact .stopped .error (by simp)
    by_cases matching : RequestMatches casing entry poll.request
    · rw [if_pos matching]
      cases state : entry.state with
      | completed =>
        dsimp only
        cases response : entry.response with
        | document value => exact .stopped (.document value) (by simp)
        | receipt receipt =>
          dsimp only
          split
          · obtain ⟨member, key⟩ := lookup_some found
            exact .replayed entry receipt member key matching state response
          · exact .stopped .error (by simp)
      | rejected => exact unchanged
      | pending => exact unchanged
      | ambiguous => exact unchanged
      | retryable => exact unchanged
    · rw [if_neg matching]
      exact unchanged

end MarketSentinel.Journal
