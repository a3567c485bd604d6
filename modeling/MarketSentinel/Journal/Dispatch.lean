import MarketSentinel.Journal.Server
import MarketSentinel.Library.Transition

/-! At most one live dispatch for each authorization.

An admitted request stands behind a pending entry on the file. What an append or
a reconciliation can do to an entry decides what a later request may do.
-/

set_option autoImplicit false

namespace MarketSentinel.Journal

open Python Wallet

variable {Activity : Type} {casing : Casing} {digest : Text → Text}

/-- An operator's authorization of one retry. -/
def Authorized (entry : Entry Activity) : Prop := entry.state = .retryable ∧ entry.replayAuthorizedAt ≠ 0

/-! ## The dispatch barrier -/

/-- The journals a live request saves before it may go on. -/
inductive Barrier (journal : List (Entry Activity)) :
    List (Entry Activity) → Entry Activity → Bool → Prop where
  | fresh {after : List (Entry Activity)} (entry : Entry Activity)
      (new : ∀ other ∈ journal, other.keyHash ≠ entry.keyHash) (state : entry.state = .pending)
      (unauthorized : entry.replayAuthorizedAt = 0) (path : entry.path ≠ pollPath)
      (appended : appendMutationJournal journal entry = some after) : Barrier journal after entry false
  | retry (entry : Entry Activity) (clock : Nat) (member : entry ∈ journal) (authorized : Authorized entry) :
      Barrier journal (updateEntry entry.id (·.retry clock) journal) (entry.retry clock) true

theorem admit_cases {disk next : StoredConfig Activity} {journal : List (Entry Activity)}
    {entry : Entry Activity} {fault : SaveFault} {prepared : Prepared Activity}
    (admitted : admitMutation disk journal entry fault = (next, prepared)) :
    (next = disk ∧ prepared = .failed) ∨
      (next.toConfig = { disk.toConfig with mutationJournal := journal } ∧
        (prepared = .failed ∨ prepared = .admitted next.toConfig entry)) := by
  unfold admitMutation at admitted
  have cases_ := saveConfig_cases disk { disk.toConfig with mutationJournal := journal } fault
  cases outcome : saveConfig disk { disk.toConfig with mutationJournal := journal } fault with
  | mk stored success =>
    rw [outcome] at cases_
    simp only [outcome] at admitted
    cases success with
    | false =>
      cases admitted
      rcases cases_ with same | ⟨replaced, _⟩
      · exact Or.inl ⟨congrArg Prod.fst same, rfl⟩
      · exact Or.inr ⟨replaced, Or.inl rfl⟩
    | true =>
      cases admitted
      have replaced := saveConfig_success outcome
      exact Or.inr ⟨replaced, Or.inr (by rw [replaced])⟩

/-- The outcomes of a live request before it enters the adapter: the file is untouched and the
request stops, or a barrier is saved and only its own entry can go on. -/
inductive Barred (disk next : StoredConfig Activity) (existing : Bool) (prepared : Prepared Activity) : Prop where
  | kept (same : next = disk) (stopped : ∀ cfg entry, prepared ≠ .admitted cfg entry)
  | saved (journal : List (Entry Activity)) (entry : Entry Activity)
      (barrier : Barrier disk.mutationJournal journal entry existing)
      (replaced : next.toConfig = { disk.toConfig with mutationJournal := journal })
      (went : ∀ cfg other, prepared = .admitted cfg other → cfg = next.toConfig ∧ other = entry)

theorem barred_of_admit {disk next : StoredConfig Activity} {journal : List (Entry Activity)}
    {entry : Entry Activity} {fault : SaveFault} {prepared : Prepared Activity} {existing : Bool}
    (barrier : Barrier disk.mutationJournal journal entry existing)
    (admitted : admitMutation disk journal entry fault = (next, prepared)) : Barred disk next existing prepared := by
  rcases admit_cases admitted with ⟨same, rfl⟩ | ⟨replaced, rfl | rfl⟩
  · exact .kept same (by simp)
  · exact .saved journal entry barrier replaced (by simp)
  · refine .saved journal entry barrier replaced fun cfg other same => ?_
    cases same
    exact ⟨rfl, rfl⟩

theorem barred_of_stop {disk next : StoredConfig Activity} {prepared answer : Prepared Activity} {existing : Bool}
    (stopped : ∀ cfg entry, answer ≠ .admitted cfg entry) (result : (disk, answer) = (next, prepared)) :
    Barred disk next existing prepared := by
  cases result
  exact .kept rfl stopped

/-- Only an authorized entry, or no entry at all, lets a live request go on. -/
theorem prepare_stops (casing : Casing) (call : Call) {disk : StoredConfig Activity} {request : Request}
    {entry : Entry Activity}
    (found : mutationJournalEntry digest disk.toConfig request.idempotencyKey = some entry)
    (unauthorized : entry.state ≠ .retryable) :
    (prepareGeneralIdempotentMutation casing digest disk request call).1 = disk ∧
      ∀ cfg other, (prepareGeneralIdempotentMutation casing digest disk request call).2 ≠ .admitted cfg other := by
  unfold prepareGeneralIdempotentMutation
  simp only [found]
  split
  · simp
  · split
    · cases state : entry.state with
      | retryable => exact absurd state unauthorized
      | completed => simp
      | rejected => simp
      | pending => simp
      | ambiguous => simp
    · simp

theorem prepare_live {disk next : StoredConfig Activity} {request : Request} {call : Call}
    {prepared : Prepared Activity}
    (live : isLiveOrderManagementRoute casing request.method request.path = true)
    (result : prepareGeneralIdempotentMutation casing digest disk request call = (next, prepared)) :
    Barred disk next (mutationJournalEntry digest disk.toConfig request.idempotencyKey).isSome prepared := by
  cases found : mutationJournalEntry digest disk.toConfig request.idempotencyKey with
  | none =>
    simp only [prepareGeneralIdempotentMutation, live, found, true_and, if_true] at result
    split at result
    · exact barred_of_stop (by simp) result
    · split at result
      · rename_i journal appended
        exact barred_of_admit (.fresh _ (lookup_none found) rfl rfl (live_path live) appended) result
      · exact barred_of_stop (by simp) result
  | some entry =>
    by_cases state : entry.state = .retryable
    · simp only [prepareGeneralIdempotentMutation, live, found, state, true_and] at result
      split at result
      · exact barred_of_stop (by simp) result
      · split at result
        · split at result
          · rename_i authorized
            exact barred_of_admit (.retry entry call.clock (lookup_some found).1 ⟨state, authorized⟩) result
          · exact barred_of_stop (by simp) result
        · exact barred_of_stop (by simp) result
    · obtain ⟨same, stopped⟩ := prepare_stops casing call found state
      rw [result] at same stopped
      exact .kept same stopped

/-! ## The invariant -/

/-- The live request in progress stands behind its own pending entry. -/
def Phase.Guarded (s : Server Activity) : Phase Activity → Prop
  | .idle => True
  | .dispatching running =>
    running.cfg = s.disk.toConfig ∧ running.entry ∈ s.disk.mutationJournal ∧ running.entry.state = .pending ∧
      running.entry.replayAuthorizedAt = 0 ∧
      if running.authorized then s.retried running.entry.keyHash < s.cleared running.entry.keyHash
      else ¬s.evicted running.entry.keyHash → s.started running.entry.keyHash = 0
  | .returned running _ =>
    running.cfg = s.disk.toConfig ∧ running.entry ∈ s.disk.mutationJournal

/-- Each key is started once until its entry is evicted, and retried once for each
recorded confirmation that nothing was dispatched. -/
structure Server.Guarded (s : Server Activity) : Prop where
  once : ∀ key, ¬s.evicted key → s.started key ≤ 1
  fresh : ∀ key, ¬s.evicted key → key ∉ keys s.disk → s.started key = 0
  retries : ∀ key, s.retried key ≤ s.cleared key
  authorized : ∀ entry ∈ s.disk.mutationJournal, Authorized entry →
    s.retried entry.keyHash < s.cleared entry.keyHash
  phase : s.phase.Guarded s

/-- Replacing the file needs no new authorization to stay guarded. -/
theorem guarded_replace {s : Server Activity} {disk : StoredConfig Activity} (guarded : s.Guarded)
    (idle : s.phase = .idle)
    (kept : ∀ entry ∈ disk.mutationJournal, Authorized entry →
      ∃ old ∈ s.disk.mutationJournal, old.keyHash = entry.keyHash ∧ Authorized old) :
    (s.replace disk).Guarded where
  once key present := guarded.once key fun gone => present (Or.inl gone)
  fresh key present missing := by
    refine guarded.fresh key (fun gone => present (Or.inl gone)) fun held => ?_
    exact present (Or.inr ⟨held, missing⟩)
  retries := guarded.retries
  authorized entry member authorized := by
    obtain ⟨old, held, same, before⟩ := kept entry member authorized
    exact same ▸ guarded.authorized old held before
  phase := by
    rw [show (s.replace disk).phase = .idle from idle]
    trivial

/-- A barrier neither adds an authorization nor leaves its own entry authorized. -/
theorem barrier_authorized {journal after : List (Entry Activity)} {entry : Entry Activity} {existing : Bool}
    (distinct : Distinct journal) (barrier : Barrier journal after entry existing) :
    ∀ item ∈ after, Authorized item → item ∈ journal := by
  intro item member authorized
  cases barrier with
  | fresh entry new state unauthorized path appended =>
    rcases mem_append_cases distinct appended member with rfl | old
    · exact absurd authorized.1 (by simp [state])
    · exact old
  | retry entry clock held before =>
    rcases mem_updateEntry member with old | ⟨old, _, _, rfl⟩
    · exact old
    · exact absurd authorized.1 (by simp [Entry.retry])

theorem barrier_entry {journal after : List (Entry Activity)} {entry : Entry Activity} {existing : Bool}
    (barrier : Barrier journal after entry existing) :
    entry ∈ after ∧ entry.state = .pending ∧ entry.replayAuthorizedAt = 0 := by
  cases barrier with
  | fresh entry new state unauthorized path appended => exact ⟨entry_mem_append appended, state, unauthorized⟩
  | retry entry clock held before => exact ⟨updated_mem _ held rfl, rfl, rfl⟩

theorem begin_guarded {s : Server Activity} {request : Request} {call : Call} (guarded : s.Guarded)
    (idle : s.phase = .idle)
    (live : isLiveOrderManagementRoute casing request.method request.path = true) :
    (s.beginLive casing digest request call).Guarded := by
  cases result : prepareGeneralIdempotentMutation casing digest s.disk request call with
  | mk next prepared =>
    have barred := prepare_live live result
    have replaced : (s.replace next).Guarded := by
      refine guarded_replace guarded idle fun entry member authorized => ?_
      cases barred with
      | kept same stopped => exact ⟨entry, same ▸ member, rfl, authorized⟩
      | saved journal barrier_ barrier replaced went =>
        rw [replaced] at member
        exact ⟨entry, barrier_authorized s.disk.distinct barrier entry member authorized, rfl, authorized⟩
    unfold Server.beginLive
    rw [result]
    cases prepared with
    | replay entry => exact replaced
    | rejected entry => exact replaced
    | unresolved entry => exact replaced
    | conflict => exact replaced
    | failed => exact replaced
    | admitted cfg entry =>
      refine ⟨replaced.once, replaced.fresh, replaced.retries, replaced.authorized, ?_⟩
      cases barred with
      | kept same stopped => exact absurd rfl (stopped cfg entry)
      | saved journal other barrier replacedDisk went =>
        obtain ⟨rfl, rfl⟩ := went cfg entry rfl
        obtain ⟨member, pending, unauthorized⟩ := barrier_entry barrier
        refine ⟨rfl, by rw [show (s.replace next).disk = next from rfl, replacedDisk]; exact member, pending,
          unauthorized, ?_⟩
        dsimp only
        generalize (mutationJournalEntry digest s.disk.toConfig request.idempotencyKey).isSome = existing at barrier
        cases barrier with
        | fresh _ new state unset path appended =>
          rw [if_neg (by simp)]
          intro present
          refine guarded.fresh _ (fun gone => present (Or.inl gone)) fun held => ?_
          obtain ⟨old, among, same⟩ := List.mem_map.mp held
          exact new old among same
        | retry old clock held before =>
          rw [if_pos rfl]
          exact guarded.authorized old held before

theorem enter_guarded {s : Server Activity} {running : Running Activity} {outcome : AdapterOutcome Activity}
    (guarded : s.Guarded) (dispatching : s.phase = .dispatching running) :
    (s.enter running outcome).Guarded := by
  have phase := guarded.phase
  rw [dispatching] at phase
  obtain ⟨cfg, member, pending, _, credit⟩ := phase
  unfold Server.enter
  by_cases authorized : running.authorized
  · rw [if_pos authorized] at credit
    simp only [authorized, if_true]
    have counted : ∀ key, increment s.retried running.entry.keyHash key ≤ s.cleared key := by
      intro key
      unfold increment
      split
      · rename_i same
        exact same ▸ credit
      · exact guarded.retries key
    refine ⟨guarded.once, guarded.fresh, counted, ?_, cfg, member⟩
    intro entry held allowed
    dsimp only [increment]
    split
    · rename_i same
      -- The pending entry is the only one of its key.
      have own := s.disk.distinct.eq_of_key held member same
      rw [own, Authorized, pending] at allowed
      exact absurd allowed.1 (by simp)
    · exact guarded.authorized entry held allowed
  · rw [if_neg authorized] at credit
    simp only [authorized, Bool.false_eq_true, if_false]
    refine ⟨fun key present => ?_, fun key present missing => ?_, guarded.retries, guarded.authorized, cfg, member⟩
    · dsimp only [increment]
      split
      · rename_i same
        rw [same] at present ⊢
        rw [credit present]
      · exact guarded.once key present
    · dsimp only [increment]
      split
      · rename_i same
        exact absurd (List.mem_map_of_mem member) (same ▸ missing)
      · exact guarded.fresh key present missing

theorem settle_unauthorized (entry : Entry Activity) (outcome : AdapterOutcome Activity) (now : Nat) :
    ¬Authorized (entry.settle outcome now) := by
  cases outcome <;> simp [Authorized, Entry.settle]

theorem record_guarded {s : Server Activity} {running : Running Activity} {outcome : AdapterOutcome Activity}
    (clock : Nat) (fault : SaveFault) (guarded : s.Guarded)
    (returned : s.phase = .returned running outcome) :
    (s.recordOutcome running outcome clock fault).Guarded := by
  have phase := guarded.phase
  rw [returned] at phase
  obtain ⟨cfg, _⟩ := phase
  have idle : ({ s with phase := .idle } : Server Activity).Guarded :=
    ⟨guarded.once, guarded.fresh, guarded.retries, guarded.authorized, trivial⟩
  refine guarded_replace idle rfl fun entry member authorized => ?_
  rcases mem_saved member with kept | written
  · exact ⟨entry, kept, rfl, authorized⟩
  · rw [cfg] at written
    rcases mem_updateEntry written with old | ⟨old, _, _, rfl⟩
    · exact ⟨entry, old, rfl, authorized⟩
    · exact absurd authorized (settle_unauthorized _ _ _)

theorem resolve_key (entry : Entry Activity) (resolution : Resolution) (stored : Response Activity) (now : Nat) :
    (entry.resolve resolution stored now).keyHash = entry.keyHash := by
  cases resolution <;> rfl

/-- A reconciliation changes one pending or ambiguous live entry. -/
theorem reconcile_cases {journal after : List (Entry Activity)} {entryId resolution : Text}
    {stored : Response Activity} {now : Nat}
    (reconciled : reconcileAmbiguousMutation casing journal entryId resolution stored now = .ok after) :
    ∃ entry ∈ journal, (entry.state = .pending ∨ entry.state = .ambiguous) ∧
      ∃ chosen, after = updateEntry entry.id (·.resolve chosen stored now) journal := by
  unfold reconcileAmbiguousMutation at reconciled
  cases found : journal.find? fun entry => entry.id = entryId with
  | none => simp [found] at reconciled
  | some entry =>
    simp only [found] at reconciled
    split at reconciled
    · rename_i open_
      cases chosen : resolution? casing resolution with
      | none => simp [chosen] at reconciled
      | some resolution =>
        simp only [chosen, Except.ok.injEq] at reconciled
        exact ⟨entry, List.mem_of_find?_eq_some found, open_.2, resolution, reconciled.symm⟩
    · cases reconciled

theorem reconcile_guarded {s : Server Activity} (entryId resolution : Text) (stored : Response Activity)
    (clock : Nat) (fault : SaveFault) (guarded : s.Guarded) (idle : s.phase = .idle) :
    (s.reconcile casing entryId resolution stored clock fault).Guarded := by
  unfold Server.reconcile
  cases reconciled : reconcileAmbiguousMutation casing s.disk.mutationJournal entryId resolution stored clock with
  | error error => exact guarded
  | ok after =>
    dsimp only
    obtain ⟨open_, held, unresolved, chosen, rfl⟩ := reconcile_cases reconciled
    have written : ∀ entry ∈ (saveConfig s.disk { s.disk.toConfig with
        mutationJournal := updateEntry open_.id (·.resolve chosen stored clock) s.disk.mutationJournal }
        fault).1.mutationJournal, entry ∈ s.disk.mutationJournal ∨ entry = open_.resolve chosen stored clock := by
      intro entry member
      rcases mem_saved member with kept | changed
      · exact Or.inl kept
      · rcases mem_updateEntry changed with old | ⟨old, among, same, rfl⟩
        · exact Or.inl old
        · exact Or.inr (by rw [s.disk.distinct.eq_of_id among held same])
    generalize (saveConfig s.disk _ fault).1 = disk at written ⊢
    refine ⟨?_, ?_, ?_, ?_, ?_⟩
    · exact fun key present => guarded.once key fun gone => present (Or.inl gone)
    · intro key present missing
      refine guarded.fresh key (fun gone => present (Or.inl gone)) fun among => ?_
      exact present (Or.inr ⟨among, missing⟩)
    · intro key
      dsimp only
      split
      · exact (guarded.retries key).trans (Nat.le_succ _)
      · exact guarded.retries key
    · intro entry member authorized
      dsimp only
      rcases written entry member with old | rfl
      · have before := guarded.authorized entry old authorized
        split
        · exact before.trans (Nat.lt_succ_self _)
        · exact before
      · have opened : open_.state ≠ .retryable := by
          rcases unresolved with pending | ambiguous <;> simp [*]
        rw [if_pos ⟨open_, held, (resolve_key _ _ _ _).symm, opened, _, member, rfl, authorized.1⟩]
        exact Nat.lt_succ_of_le (guarded.retries _)
    · rw [show (s.replace disk).phase = .idle from idle]
      trivial

theorem settings_guarded {s : Server Activity} (wallets : List WalletWatch) (fault : SaveFault)
    (guarded : s.Guarded) (idle : s.phase = .idle) : (s.saveSettings wallets fault).Guarded := by
  refine guarded_replace guarded idle fun entry member authorized => ⟨entry, ?_, rfl, authorized⟩
  exact (mem_saved member).elim id id

theorem complete_unauthorized (entry : Entry Activity) (status : Nat) (stored : Response Activity)
    (code message : Text) (now : Nat) : ¬Authorized (entry.complete status stored code message now) := by
  simp [Authorized, Entry.complete]

theorem local_guarded {s : Server Activity} {request : Request} (call : Call) (wallets : List WalletWatch)
    (status : Nat) (stored : Response Activity) (guarded : s.Guarded) (idle : s.phase = .idle)
    (route : request.path ∈ localDurableCreateRoutes) :
    (s.commitLocal casing digest request call wallets status stored).Guarded := by
  have plain := local_route casing request.method (List.mem_cons_of_mem pollPath route)
  have same : (s.replace s.disk).Guarded :=
    guarded_replace guarded idle fun entry member authorized => ⟨entry, member, rfl, authorized⟩
  unfold Server.commitLocal
  cases result : prepareGeneralIdempotentMutation casing digest s.disk request call with
  | mk next prepared =>
    obtain ⟨rfl, looked⟩ := prepare_local plain result
    cases prepared with
    | admitted cfg entry =>
      obtain ⟨rfl, _, _⟩ := looked cfg entry rfl
      dsimp only
      split
      · exact same
      · rename_i journal appended
        refine guarded_replace guarded idle fun item member authorized => ⟨item, ?_, rfl, authorized⟩
        rcases mem_saved member with kept | written
        · exact kept
        · rcases mem_append_cases s.disk.distinct appended written with rfl | old
          · exact absurd authorized (complete_unauthorized _ _ _ _ _ _)
          · exact old
    | replay entry => exact same
    | rejected entry => exact same
    | unresolved entry => exact same
    | conflict => exact same
    | failed => exact same

theorem poll_guarded {s : Server Activity} (poll : PollRequest) (call : PollCall Activity) (guarded : s.Guarded)
    (idle : s.phase = .idle) : (s.pollWallets casing digest poll call).1.Guarded := by
  have view : ∀ (t : Server Activity) (recent : List Activity), t.Guarded → t.phase = .idle →
      ({ t with recent := recent } : Server Activity).Guarded := by
    intro t recent held waiting
    refine ⟨held.once, held.fresh, held.retries, held.authorized, ?_⟩
    rw [show ({ t with recent := recent } : Server Activity).phase = .idle from waiting]
    trivial
  have polled := pollWallets_cases casing digest s poll call
  generalize s.pollWallets casing digest poll call = outcome at polled
  cases polled with
  | stopped reply silent => exact guarded
  | replayed entry receipt member key matching state response => exact view s _ guarded idle
  | saved staged receipt recent next success new stage save =>
    obtain ⟨journal, marketId, published, acknowledged, _, _, _, _, _, appended⟩ := stagePoll_spec stage
    have distinct := acknowledgeReceipt_distinct s.disk.distinct acknowledged
    have replaced : (s.replace next).Guarded := by
      refine guarded_replace guarded idle fun item member authorized => ⟨item, ?_, rfl, authorized⟩
      rw [show next = (saveConfig s.disk staged call.fault).1 by rw [save]] at member
      rcases mem_saved member with kept | written
      · exact kept
      · rcases mem_append_cases distinct appended written with rfl | old
        · exact absurd authorized (complete_unauthorized _ _ _ _ _ _)
        · rcases acknowledgeReceipt_cases acknowledged with rfl | ⟨prior, priorHeld, _, state, rfl⟩
          · exact old
          · rcases mem_updateEntry old with same | ⟨before, held, sameId, rfl⟩
            · exact same
            · rw [s.disk.distinct.eq_of_id held priorHeld sameId, Authorized,
                (acknowledge_eq prior _).2.2.1, state] at authorized
              exact absurd authorized.1 (by simp)
    cases success
    · exact replaced
    · exact view _ recent replaced idle

theorem step_guarded {before after : Server Activity} (guarded : before.Guarded)
    (step : Step casing digest before after) : after.Guarded := by
  cases step with
  | beginLive request call idle live => exact begin_guarded guarded idle live
  | enter running outcome admitted => exact enter_guarded guarded admitted
  | recordOutcome running outcome clock fault returned => exact record_guarded clock fault guarded returned
  | reconcile entryId resolution stored clock fault idle =>
    exact reconcile_guarded entryId resolution stored clock fault guarded idle
  | commitLocal request call wallets status stored idle route =>
    exact local_guarded call wallets status stored guarded idle route
  | saveSettings wallets fault idle => exact settings_guarded wallets fault guarded idle
  | poll poll call idle => exact poll_guarded poll call guarded idle
  | crash => exact ⟨guarded.once, guarded.fresh, guarded.retries, guarded.authorized, trivial⟩

/-! ## Whole runs -/

/-- A server over any accepted file: no request runs, nothing was dispatched, and every
authorization on the file was recorded. -/
structure Server.Start (s : Server Activity) : Prop where
  phase : s.phase = .idle
  started : ∀ key, s.started key = 0
  retried : ∀ key, s.retried key = 0
  cleared : ∀ entry ∈ s.disk.mutationJournal, Authorized entry → 0 < s.cleared entry.keyHash
  receipts : unacknowledged s.disk.mutationJournal ≤ maxUnacknowledgedWalletPollReceipts

theorem start_guarded {s : Server Activity} (start : s.Start) : s.Guarded where
  once key _ := by rw [start.started]; exact Nat.zero_le 1
  fresh key _ _ := start.started key
  retries key := by rw [start.retried]; exact Nat.zero_le _
  authorized entry member authorized := by
    rw [start.retried]
    exact start.cleared entry member authorized
  phase := by
    rw [start.phase]
    trivial

def Server.Reachable (casing : Casing) (digest : Text → Text) : Server Activity → Prop :=
  Transition.Reachable Server.Start (Step casing digest)

theorem reachable_guarded {s : Server Activity} (reachable : s.Reachable casing digest) : s.Guarded :=
  @Transition.reachable_invariant _ Server.Start (Step casing digest) Server.Guarded
    (fun _ start => start_guarded start) (fun _ _ guarded step => step_guarded guarded step) s reachable

/-- The dispatch discipline of a server state: bounded adapter entries, a committed barrier at
the moment the adapter is entered, and unresolved entries that stay. -/
structure Server.AtMostOnce (casing : Casing) (digest : Text → Text) (s : Server Activity) : Prop where
  dispatches : ∀ idempotencyKey, ¬s.evicted (digest idempotencyKey) →
    s.started (digest idempotencyKey) + s.retried (digest idempotencyKey) ≤ 1 + s.cleared (digest idempotencyKey)
  authorizations : ∀ idempotencyKey, s.retried (digest idempotencyKey) ≤ s.cleared (digest idempotencyKey)
  barrier : ∀ running, s.phase = .dispatching running → running.entry ∈ s.disk.mutationJournal ∧
    running.entry.state = .pending ∧ running.entry.replayAuthorizedAt = 0
  settled : ∀ request call entry, mutationJournalEntry digest s.disk.toConfig request.idempotencyKey = some entry →
    entry.state ≠ .retryable → s.beginLive casing digest request call = s
  unresolved : ∀ entry after, appendMutationJournal s.disk.mutationJournal entry = some after →
    ∀ item ∈ s.disk.mutationJournal,
      item.state = .pending ∨ item.state = .ambiguous ∨ item.state = .retryable → item ∈ after

/-- A live request for a settled or unresolved entry changes nothing and enters nothing. -/
theorem begin_stops {s : Server Activity} {request : Request} {call : Call} {entry : Entry Activity}
    (found : mutationJournalEntry digest s.disk.toConfig request.idempotencyKey = some entry)
    (unauthorized : entry.state ≠ .retryable) : s.beginLive casing digest request call = s := by
  obtain ⟨same, stopped⟩ := prepare_stops casing call found unauthorized
  unfold Server.beginLive
  cases result : prepareGeneralIdempotentMutation casing digest s.disk request call with
  | mk next prepared =>
    rw [result] at same stopped
    dsimp only at same stopped
    subst same
    cases prepared with
    | admitted cfg other => exact absurd rfl (stopped cfg other)
    | replay entry => exact replace_self s
    | rejected entry => exact replace_self s
    | unresolved entry => exact replace_self s
    | conflict => exact replace_self s
    | failed => exact replace_self s

theorem live_dispatch_at_most_once (casing : Casing) (digest : Text → Text) (s : Server Activity)
    (reachable : s.Reachable casing digest) : s.AtMostOnce casing digest := by
  have guarded := reachable_guarded reachable
  refine ⟨fun idempotencyKey present => ?_, fun idempotencyKey => guarded.retries _, fun running dispatching => ?_,
    fun request call entry found settled => begin_stops found settled,
    fun entry after appended item member unresolved => ?_⟩
  · exact Nat.add_le_add (guarded.once _ present) (guarded.retries _)
  · have phase := guarded.phase
    rw [dispatching] at phase
    exact ⟨phase.2.1, phase.2.2.1, phase.2.2.2.1⟩
  · refine append_keeps s.disk.distinct appended member fun removable => ?_
    rcases unresolved with state | state | state <;> simp [Removable, state] at removable

private def emptyServer : Server Unit where
  disk := ⟨⟨[], []⟩, by decide⟩
  recent := []
  phase := .idle
  started _ := 0
  retried _ := 0
  cleared _ := 0
  evicted _ := False

private theorem emptyServer_start : emptyServer.Start :=
  ⟨rfl, fun _ => rfl, fun _ => rfl, by simp [emptyServer], by decide⟩

private def orderRequest : Request :=
  ⟨text "POST", text "/api/markets/kalshi/orders/cancel_order", text "b0", text "k"⟩

private def orderCall : Call := ⟨7, text "1", false, .none⟩

private def orderEntry : Entry Unit := newMutationJournalEntry asciiCasing id orderRequest orderCall

private def orderRunning : Running Unit := ⟨⟨[], [orderEntry]⟩, orderEntry, false⟩

theorem live_dispatch_at_most_once_cancel :
    ((emptyServer.beginLive asciiCasing id orderRequest orderCall).enter orderRunning .unknown).AtMostOnce
      asciiCasing id :=
  live_dispatch_at_most_once asciiCasing id _
    ⟨emptyServer, emptyServer_start, .tail (.single (.beginLive orderRequest orderCall rfl (by decide)))
      (.enter orderRunning .unknown (by rfl))⟩

end MarketSentinel.Journal
