import MarketSentinel.Journal.Dispatch

/-! Wallet poll receipts: atomic commits, replay, and receipts that stay pinned.

A receipt is the journal entry of an answered poll. It stays until the client
acknowledged it; only then can an append evict it.
-/

set_option autoImplicit false

namespace MarketSentinel.Journal

open Python Wallet

variable {Activity : Type} {casing : Casing} {digest : Text → Text}
  {journal after : List (Entry Activity)}

/-- The same receipt, acknowledged or not. -/
structure SameReceipt (first second : Entry Activity) : Prop where
  keyHash : second.keyHash = first.keyHash
  method : second.method = first.method
  path : second.path = first.path
  requestHash : second.requestHash = first.requestHash
  state : second.state = first.state
  response : second.response = first.response

theorem SameReceipt.refl (entry : Entry Activity) : SameReceipt entry entry :=
  ⟨rfl, rfl, rfl, rfl, rfl, rfl⟩

theorem SameReceipt.trans {first second third : Entry Activity} (left : SameReceipt first second)
    (right : SameReceipt second third) : SameReceipt first third where
  keyHash := right.keyHash.trans left.keyHash
  method := right.method.trans left.method
  path := right.path.trans left.path
  requestHash := right.requestHash.trans left.requestHash
  state := right.state.trans left.state
  response := right.response.trans left.response

theorem acknowledge_same (entry : Entry Activity) (now : Nat) : SameReceipt entry (entry.acknowledge now) := by
  obtain ⟨_, key, state, path, method, request, response, _⟩ := acknowledge_eq entry now
  exact ⟨key, method, path, request, state, response⟩

theorem Unacknowledged.kept {entry : Entry Activity} (unread : Unacknowledged entry) : ¬Removable entry :=
  fun removable => removable.2 unread

/-! ## What appends, acknowledgements and updates do to receipts -/

/-- An append of a new key keeps an entry or frees its key. -/
theorem append_carries {entry item : Entry Activity} (distinct : Distinct journal)
    (new : ∀ other ∈ journal, other.keyHash ≠ entry.keyHash)
    (appended : appendMutationJournal journal entry = some after) (member : item ∈ journal)
    (present : item.keyHash ∈ after.map MutationJournalEntry.keyHash) : item ∈ after := by
  rcases append_cases distinct appended with rfl | ⟨victim, _, _, exact_⟩
  · exact List.mem_append_left _ member
  · obtain ⟨other, among, same⟩ := List.mem_map.mp present
    rcases (exact_ other).mp among with rfl | ⟨old, different⟩
    · exact absurd same.symm (new item member)
    · rw [distinct.eq_of_key member old same.symm]
      exact among

theorem mem_acknowledged {acknowledge : Option Text} {now : Nat} {item : Entry Activity}
    (acknowledged : acknowledgeReceipt journal acknowledge now = some after) (member : item ∈ journal) :
    ∃ kept ∈ after, SameReceipt item kept ∧ (acknowledge ≠ some item.id → kept = item) := by
  unfold acknowledgeReceipt at acknowledged
  split at acknowledged
  · cases acknowledged
    exact ⟨item, member, .refl item, fun _ => rfl⟩
  · rename_i receiptId
    split at acknowledged
    · cases acknowledged
    · cases found : journal.find? fun entry => entry.id = receiptId with
      | none => simp [found] at acknowledged
      | some prior =>
        simp only [found] at acknowledged
        split at acknowledged
        · cases acknowledged
          have named : prior.id = receiptId := by simpa using List.find?_some found
          by_cases same : item.id = prior.id
          · exact ⟨item.acknowledge now, updated_mem _ member same, acknowledge_same item now,
              fun other => absurd (congrArg some (named.symm.trans same.symm)) other⟩
          · exact ⟨item, List.mem_map.mpr ⟨item, member, if_neg same⟩, .refl item, fun _ => rfl⟩
        · cases acknowledged

theorem acknowledged_mem {acknowledge : Option Text} {now : Nat} {item : Entry Activity}
    (acknowledged : acknowledgeReceipt journal acknowledge now = some after) (member : item ∈ after) :
    ∃ old ∈ journal, SameReceipt old item := by
  rcases acknowledgeReceipt_cases acknowledged with rfl | ⟨prior, _, _, _, rfl⟩
  · exact ⟨item, member, .refl item⟩
  · rcases mem_updateEntry member with old | ⟨old, among, _, rfl⟩
    · exact ⟨item, old, .refl item⟩
    · exact ⟨old, among, acknowledge_same old now⟩

/-- A change that leaves no new receipt unread does not raise their number. -/
theorem unacknowledged_update {id : Text} {change : Entry Activity → Entry Activity}
    (quiet : ∀ item ∈ journal, item.id = id → Unacknowledged (change item) → Unacknowledged item) :
    unacknowledged (updateEntry id change journal) ≤ unacknowledged journal := by
  unfold unacknowledged updateEntry
  rw [List.countP_map]
  refine List.countP_mono_left fun item member unread => ?_
  have unread : Unacknowledged (if item.id = id then change item else item) := by simpa using unread
  rw [decide_eq_true_iff]
  by_cases same : item.id = id
  · rw [if_pos same] at unread
    exact quiet item member same unread
  · rwa [if_neg same] at unread

theorem unacknowledged_acknowledge {acknowledge : Option Text} {now : Nat}
    (acknowledged : acknowledgeReceipt journal acknowledge now = some after) :
    unacknowledged after ≤ unacknowledged journal := by
  rcases acknowledgeReceipt_cases acknowledged with rfl | ⟨prior, _, _, _, rfl⟩
  · exact le_rfl
  · refine unacknowledged_update fun item _ _ unread => absurd ?_ unread.2.2
    exact (acknowledge_eq item now).2.2.2.2.2.2.2

/-- An append adds its entry behind a part of the journal. -/
theorem append_sublist {entry : Entry Activity} (appended : appendMutationJournal journal entry = some after) :
    ∃ kept, kept.Sublist journal ∧ after = kept ++ [entry] := by
  unfold appendMutationJournal at appended
  split at appended
  · split at appended
    · cases appended
    · cases appended
      exact ⟨_, List.filter_sublist, rfl⟩
  · cases appended
    exact ⟨journal, .refl journal, rfl⟩

theorem unacknowledged_append {entry : Entry Activity}
    (appended : appendMutationJournal journal entry = some after) :
    unacknowledged after ≤ unacknowledged journal + if Unacknowledged entry then 1 else 0 := by
  obtain ⟨kept, part, rfl⟩ := append_sublist appended
  unfold unacknowledged
  rw [List.countP_append, List.countP_singleton]
  simpa using part.countP_le

/-! ## What one step does to the journal -/

/-- A poll that names the receipt and changes the file. -/
def Acknowledges (casing : Casing) (digest : Text → Text) (receiptId : Text) (before after : Server Activity) :
    Prop :=
  ∃ poll call, poll.acknowledge = some receiptId ∧ after = (before.pollWallets casing digest poll call).1 ∧
    after.disk ≠ before.disk

/-- One step appends an entry of a new key, changes an entry of another route, or keeps the journal. -/
inductive Changed (casing : Casing) (digest : Text → Text) (s t : Server Activity) : Prop where
  | kept (same : t.disk.mutationJournal = s.disk.mutationJournal)
  | appended (acknowledge : Option Text) (now : Nat) (journal : List (Entry Activity)) (entry : Entry Activity)
      (acknowledged : acknowledgeReceipt s.disk.mutationJournal acknowledge now = some journal)
      (named : ∀ receiptId, acknowledge = some receiptId → Acknowledges casing digest receiptId s t)
      (new : ∀ other ∈ s.disk.mutationJournal, other.keyHash ≠ entry.keyHash)
      (committed : entry.path = pollPath →
        entry.state = .completed ∧ unacknowledged journal < maxUnacknowledgedWalletPollReceipts)
      (appended : appendMutationJournal journal entry = some t.disk.mutationJournal)
  | updated (entry : Entry Activity) (change : Entry Activity → Entry Activity)
      (member : entry ∈ s.disk.mutationJournal) (other : entry.path ≠ pollPath)
      (path : ∀ item, (change item).path = item.path)
      (updated : t.disk.mutationJournal = updateEntry entry.id change s.disk.mutationJournal)

/-- Receipts are few, poll entries are receipts, and the live request in progress is no poll. -/
structure Server.Pinned (s : Server Activity) : Prop where
  bounded : unacknowledged s.disk.mutationJournal ≤ maxUnacknowledgedWalletPollReceipts
  committed : ∀ entry ∈ s.disk.mutationJournal, entry.path = pollPath → entry.state = .completed
  returned : ∀ running outcome, s.phase = .returned running outcome → running.entry.path ≠ pollPath

/-- A changed journal keeps the bound and its poll entries committed. -/
theorem Changed.pinned {s t : Server Activity} (changed : Changed casing digest s t) (pinned : s.Pinned) :
    unacknowledged t.disk.mutationJournal ≤ maxUnacknowledgedWalletPollReceipts ∧
      ∀ entry ∈ t.disk.mutationJournal, entry.path = pollPath → entry.state = .completed := by
  cases changed with
  | kept same =>
    rw [same]
    exact ⟨pinned.bounded, pinned.committed⟩
  | appended acknowledge now journal entry acknowledged named new committed appended =>
    have before := (unacknowledged_acknowledge acknowledged).trans pinned.bounded
    have counted := unacknowledged_append appended
    constructor
    · by_cases unread : Unacknowledged entry
      · rw [if_pos unread] at counted
        have room := (committed unread.2.1).2
        omega
      · rw [if_neg unread] at counted
        omega
    · intro item member route
      obtain ⟨kept, part, same⟩ := append_sublist appended
      rw [same] at member
      rcases List.mem_append.mp member with old | own
      · obtain ⟨prior, held, alike⟩ := acknowledged_mem acknowledged (part.subset old)
        exact alike.state.trans (pinned.committed prior held (alike.path.symm.trans route))
      · rw [List.mem_singleton.mp own] at route ⊢
        exact (committed route).1
  | updated entry change member other path updated =>
    have own : ∀ item ∈ s.disk.mutationJournal, item.id = entry.id → (change item).path ≠ pollPath := by
      intro item held same
      rw [s.disk.distinct.eq_of_id held member same, path]
      exact other
    rw [updated]
    constructor
    · refine (unacknowledged_update fun item held same unread => ?_).trans pinned.bounded
      exact absurd unread.2.1 (own item held same)
    · intro item held route
      rcases mem_updateEntry held with old | ⟨old, among, same, rfl⟩
      · exact pinned.committed item old route
      · exact absurd route (own old among same)

/-- A receipt stays as long as its key does. -/
theorem Changed.carries {s t : Server Activity} (changed : Changed casing digest s t) {item : Entry Activity}
    (member : item ∈ s.disk.mutationJournal) (route : item.path = pollPath)
    (present : item.keyHash ∈ keys t.disk) : ∃ kept ∈ t.disk.mutationJournal, SameReceipt item kept := by
  cases changed with
  | kept same => exact ⟨item, same ▸ member, .refl item⟩
  | appended acknowledge now journal entry acknowledged named new committed appended =>
    obtain ⟨kept, held, alike, _⟩ := mem_acknowledged acknowledged member
    refine ⟨kept, append_carries (acknowledgeReceipt_distinct s.disk.distinct acknowledged) ?_ appended held
      (alike.keyHash ▸ present), alike⟩
    intro other among
    obtain ⟨old, before, same⟩ := acknowledged_mem acknowledged among
    exact same.keyHash ▸ new old before
  | updated entry change held other path updated =>
    have different : item.id ≠ entry.id := fun same =>
      other (s.disk.distinct.eq_of_id member held same ▸ route)
    exact ⟨item, updated ▸ List.mem_map.mpr ⟨item, member, if_neg different⟩, .refl item⟩

/-- An unread receipt stays as it is until a poll acknowledges it. -/
theorem Changed.retains {s t : Server Activity} (changed : Changed casing digest s t) {item : Entry Activity}
    (member : item ∈ s.disk.mutationJournal) (unread : Unacknowledged item)
    (quiet : ¬Acknowledges casing digest item.id s t) : item ∈ t.disk.mutationJournal := by
  cases changed with
  | kept same => exact same ▸ member
  | appended acknowledge now journal entry acknowledged named new committed appended =>
    obtain ⟨kept, held, _, same⟩ := mem_acknowledged acknowledged member
    have untouched := same fun chosen => quiet (named item.id chosen)
    exact append_keeps (acknowledgeReceipt_distinct s.disk.distinct acknowledged) appended
      (untouched ▸ held) unread.kept
  | updated entry change held other path updated =>
    have different : item.id ≠ entry.id := fun same =>
      other (s.disk.distinct.eq_of_id member held same ▸ unread.2.1)
    exact updated ▸ List.mem_map.mpr ⟨item, member, if_neg different⟩

/-! ## Every step changes the journal so -/

theorem begin_changed {s : Server Activity} {request : Request} {call : Call} (pinned : s.Pinned)
    (live : isLiveOrderManagementRoute casing request.method request.path = true) :
    Changed casing digest s (s.beginLive casing digest request call) := by
  cases result : prepareGeneralIdempotentMutation casing digest s.disk request call with
  | mk next prepared =>
    have disk : (s.beginLive casing digest request call).disk = next := by
      unfold Server.beginLive
      rw [result]
      cases prepared <;> rfl
    cases prepare_live live result with
    | kept same stopped => exact .kept (by rw [disk, same])
    | saved journal entry barrier replaced went =>
      have written : (s.beginLive casing digest request call).disk.mutationJournal = journal := by
        rw [disk, replaced]
      generalize (mutationJournalEntry digest s.disk.toConfig request.idempotencyKey).isSome = existing at barrier
      cases barrier with
      | fresh _ new state unauthorized path appended =>
        exact .appended none 0 s.disk.mutationJournal entry rfl (by simp) new (fun route => absurd route path)
          (written ▸ appended)
      | retry old clock member authorized =>
        refine .updated old (·.retry clock) member (fun route => ?_) (fun _ => rfl) written
        exact absurd (authorized.1.symm.trans (pinned.committed old member route)) (by simp)

theorem settle_path (entry : Entry Activity) (outcome : AdapterOutcome Activity) (now : Nat) :
    (entry.settle outcome now).path = entry.path := by
  cases outcome <;> rfl

theorem resolve_path (entry : Entry Activity) (resolution : Resolution) (stored : Response Activity) (now : Nat) :
    (entry.resolve resolution stored now).path = entry.path := by
  cases resolution <;> rfl

theorem record_changed {s : Server Activity} {running : Running Activity} {outcome : AdapterOutcome Activity}
    (clock : Nat) (fault : SaveFault) (guarded : s.Guarded) (pinned : s.Pinned)
    (returned : s.phase = .returned running outcome) :
    Changed casing digest s (s.recordOutcome running outcome clock fault) := by
  have phase := guarded.phase
  rw [returned] at phase
  obtain ⟨cfg, member⟩ := phase
  rcases saveConfig_cases s.disk { running.cfg with
    mutationJournal := updateEntry running.entry.id (·.settle outcome clock) running.cfg.mutationJournal }
    fault with failed | ⟨replaced, _⟩
  · exact .kept (congrArg (fun saved => saved.1.mutationJournal) failed)
  · refine .updated running.entry (·.settle outcome clock) member (pinned.returned running outcome returned)
      (fun item => settle_path item outcome clock) ?_
    exact (congrArg Config.mutationJournal replaced).trans (by rw [cfg])

theorem reconcile_changed {s : Server Activity} (entryId resolution : Text) (stored : Response Activity)
    (clock : Nat) (fault : SaveFault) (pinned : s.Pinned) :
    Changed casing digest s (s.reconcile casing entryId resolution stored clock fault) := by
  unfold Server.reconcile
  cases reconciled : reconcileAmbiguousMutation casing s.disk.mutationJournal entryId resolution stored clock with
  | error error => exact .kept rfl
  | ok after =>
    obtain ⟨entry, member, unresolved, chosen, rfl⟩ := reconcile_cases reconciled
    rcases saveConfig_cases s.disk { s.disk.toConfig with
      mutationJournal := updateEntry entry.id (·.resolve chosen stored clock) s.disk.mutationJournal }
      fault with failed | ⟨replaced, _⟩
    · exact .kept (congrArg (fun saved => saved.1.mutationJournal) failed)
    · refine .updated entry (·.resolve chosen stored clock) member (fun route => ?_)
        (fun item => resolve_path item chosen stored clock) (congrArg Config.mutationJournal replaced)
      have state := pinned.committed entry member route
      rcases unresolved with pending | ambiguous <;> simp [state] at *

theorem local_changed {s : Server Activity} {request : Request} (call : Call) (wallets : List WalletWatch)
    (status : Nat) (stored : Response Activity) (route : request.path ∈ localDurableCreateRoutes) :
    Changed casing digest s (s.commitLocal casing digest request call wallets status stored) := by
  have plain := local_route casing request.method (List.mem_cons_of_mem pollPath route)
  unfold Server.commitLocal
  cases result : prepareGeneralIdempotentMutation casing digest s.disk request call with
  | mk next prepared =>
    obtain ⟨rfl, looked⟩ := prepare_local plain result
    cases prepared with
    | admitted cfg entry =>
      obtain ⟨rfl, own, new⟩ := looked cfg entry rfl
      dsimp only
      split
      · exact .kept rfl
      · rename_i journal appended
        rcases saveConfig_cases s.disk ⟨wallets, journal⟩ call.fault with failed | ⟨replaced, _⟩
        · exact .kept (congrArg (fun saved => saved.1.mutationJournal) failed)
        · have other : ∀ path ∈ localDurableCreateRoutes, strip path ≠ pollPath := by decide
          refine .appended none 0 s.disk.mutationJournal (entry.complete status stored _ _ call.clock) rfl (by simp)
            new (fun same => ?_) (appended.trans (congrArg (fun saved => some saved.mutationJournal) replaced).symm)
          rw [own] at same
          exact absurd same (other request.path route)
    | replay entry => exact .kept rfl
    | rejected entry => exact .kept rfl
    | unresolved entry => exact .kept rfl
    | conflict => exact .kept rfl
    | failed => exact .kept rfl

theorem poll_changed (s : Server Activity) (poll : PollRequest) (call : PollCall Activity) :
    Changed casing digest s (s.pollWallets casing digest poll call).1 := by
  have polled := pollWallets_cases casing digest s poll call
  generalize answer : s.pollWallets casing digest poll call = outcome at polled
  cases polled with
  | stopped _ silent => exact .kept rfl
  | replayed entry receipt member key matching state response => exact .kept rfl
  | saved staged receipt recent next success new stage save =>
    have disk : (s.pollWallets casing digest poll call).1.disk = next := by
      rw [answer]
      cases success <;> rfl
    rw [← answer]
    rcases saveConfig_cases s.disk staged call.fault with failed | ⟨replaced, _⟩
    · exact .kept (by rw [disk, show next = s.disk from congrArg Prod.fst (save.symm.trans failed)])
    · rw [save] at replaced
      obtain ⟨journal, marketId, published, acknowledged, room, _, _, _, _, appended⟩ := stagePoll_spec stage
      have written : (s.pollWallets casing digest poll call).1.disk.mutationJournal = staged.mutationJournal := by
        rw [disk, replaced]
      refine .appended poll.acknowledge call.clock journal
        (pollEntry (newMutationJournalEntry casing digest poll.request call.toCall) receipt call.clock) acknowledged
        (fun receiptId chosen => ⟨poll, call, chosen, rfl, fun same => ?_⟩) new (fun _ => ⟨rfl, room⟩)
        (written ▸ appended)
      -- The new key is on the file afterwards only.
      have own := entry_mem_append appended
      rw [← written, same] at own
      exact new _ own rfl

theorem settings_changed (s : Server Activity) (wallets : List WalletWatch) (fault : SaveFault) :
    Changed casing digest s (s.saveSettings wallets fault) := by
  rcases saveConfig_cases s.disk { s.disk.toConfig with wallets := wallets } fault with failed | ⟨replaced, _⟩
  · exact .kept (congrArg (fun saved => saved.1.mutationJournal) failed)
  · have journal := congrArg Config.mutationJournal replaced
    exact .kept journal

theorem step_changed {before after : Server Activity} (guarded : before.Guarded) (pinned : before.Pinned)
    (step : Step casing digest before after) : Changed casing digest before after := by
  cases step with
  | beginLive request call idle live => exact begin_changed pinned live
  | enter running outcome admitted => exact .kept rfl
  | recordOutcome running outcome clock fault returned => exact record_changed clock fault guarded pinned returned
  | reconcile entryId resolution stored clock fault idle =>
    exact reconcile_changed entryId resolution stored clock fault pinned
  | commitLocal request call wallets status stored idle route =>
    exact local_changed call wallets status stored route
  | saveSettings wallets fault idle => exact settings_changed before wallets fault
  | poll poll call idle => exact poll_changed before poll call
  | crash => exact .kept rfl

/-- Only an adapter call leaves an outcome to record. -/
theorem step_returned {before after : Server Activity} {running : Running Activity}
    {outcome : AdapterOutcome Activity} (step : Step casing digest before after)
    (returned : after.phase = .returned running outcome) : before.phase = .dispatching running := by
  cases step with
  | beginLive request call idle live =>
    unfold Server.beginLive at returned
    split at returned
    · cases returned
    · exact absurd (idle.symm.trans returned) (by simp)
  | enter other result admitted =>
    cases returned
    exact admitted
  | recordOutcome other result clock fault _ => cases returned
  | reconcile entryId resolution stored clock fault idle =>
    unfold Server.reconcile at returned
    split at returned <;> exact absurd (idle.symm.trans returned) (by simp)
  | commitLocal request call wallets status stored idle route =>
    unfold Server.commitLocal at returned
    split at returned
    · dsimp only at returned
      split at returned <;> exact absurd (idle.symm.trans returned) (by simp)
    · exact absurd (idle.symm.trans returned) (by simp)
  | saveSettings wallets fault idle => exact absurd (idle.symm.trans returned) (by simp)
  | poll poll call idle =>
    have polled := pollWallets_cases casing digest before poll call
    generalize before.pollWallets casing digest poll call = answer at polled returned
    cases polled with
    | stopped reply silent => exact absurd (idle.symm.trans returned) (by simp)
    | replayed entry receipt member key matching state response => exact absurd (idle.symm.trans returned) (by simp)
    | saved staged receipt recent next success new stage save =>
      cases success <;> exact absurd (idle.symm.trans returned) (by simp)
  | crash => cases returned

theorem step_pinned {before after : Server Activity} (guarded : before.Guarded) (pinned : before.Pinned)
    (step : Step casing digest before after) : after.Pinned := by
  obtain ⟨bounded, committed⟩ := (step_changed guarded pinned step).pinned pinned
  refine ⟨bounded, committed, fun running outcome returned route => ?_⟩
  have phase := guarded.phase
  rw [step_returned step returned] at phase
  exact absurd (phase.2.2.1.symm.trans (pinned.committed running.entry phase.2.1 route)) (by simp)

/-! ## Replay -/

/-- The committed entry of an answered poll is on the file. -/
def Holds (casing : Casing) (digest : Text → Text) (poll : PollRequest) (receipt : Receipt Activity)
    (disk : StoredConfig Activity) : Prop :=
  ∃ entry ∈ disk.mutationJournal, entry.keyHash = digest poll.idempotencyKey ∧
    RequestMatches casing entry poll.request ∧ entry.path = pollPath ∧ entry.state = .completed ∧
    entry.response = .receipt receipt

theorem strip_pollPath : strip pollPath = pollPath := by decide

/-- A poll whose entry is on the file answers the same receipt, or fails when it does not fit. -/
theorem poll_replays {s : Server Activity} {poll : PollRequest} {receipt : Receipt Activity}
    (holds : Holds casing digest poll receipt s.disk) (call : PollCall Activity) :
    (s.pollWallets casing digest poll call).1.disk = s.disk ∧
      (s.pollWallets casing digest poll call).2 =
        if call.responseFits receipt then .answered receipt else .error := by
  obtain ⟨entry, member, key, matching, _, state, response⟩ := holds
  have found : mutationJournalEntry digest s.disk.toConfig poll.request.idempotencyKey = some entry := by
    cases looked : mutationJournalEntry digest s.disk.toConfig poll.request.idempotencyKey with
    | none => exact absurd key (lookup_none looked entry member)
    | some other =>
      obtain ⟨among, same⟩ := lookup_some looked
      rw [s.disk.distinct.eq_of_key among member (same.trans key.symm)]
  have prepared := prepare_existing casing call.toCall (local_route casing _ List.mem_cons_self) found
  rw [if_pos matching] at prepared
  simp only [state] at prepared
  unfold Server.pollWallets
  rw [prepared]
  simp only [response]
  split <;> simp [*]

/-- What an answered new poll saved: one file with the advanced cursors, the marks of an
acknowledgement and the completed entry of exactly the delivered batch. -/
structure Commits (casing : Casing) (digest : Text → Text) (s next : Server Activity) (poll : PollRequest)
    (call : PollCall Activity) (receipt : Receipt Activity) : Prop where
  saved : ∃ staged journal marketId published entry,
    saveConfig s.disk staged call.fault = (next.disk, true) ∧
    pollWalletActivity call.environment marketId walletPollBatchItems true s.disk.wallets s.recent =
      .ok (.published published receipt.result) ∧
    staged.wallets = published.wallets ∧ next.recent = published.recent ∧
    receipt.result.activity = (published.emitted.map Delivery.activity).reverse ∧
    acknowledgeReceipt s.disk.mutationJournal poll.acknowledge call.clock = some journal ∧
    appendMutationJournal journal entry = some staged.mutationJournal ∧ Unacknowledged entry ∧
    entry.response = .receipt receipt
  holds : Holds casing digest poll receipt next.disk

theorem poll_answered {s next : Server Activity} {poll : PollRequest} {call : PollCall Activity}
    {receipt : Receipt Activity} (answered : s.pollWallets casing digest poll call = (next, .answered receipt)) :
    (next.disk = s.disk ∧ Holds casing digest poll receipt s.disk) ∨
      Commits casing digest s next poll call receipt := by
  have polled := pollWallets_cases casing digest s poll call
  generalize s.pollWallets casing digest poll call = outcome at polled answered
  cases polled with
  | stopped reply silent =>
    cases answered
    exact absurd rfl (silent receipt)
  | replayed entry other member key matching state response =>
    cases answered
    exact Or.inl ⟨rfl, entry, member, key, matching, matching.2.1.trans strip_pollPath, state, response⟩
  | saved staged other recent replaced success new stage save =>
    cases success with
    | false => cases answered
    | true =>
      cases answered
      obtain ⟨journal, marketId, published, acknowledged, _, polled, _, wallets, view, appended⟩ := stagePoll_spec stage
      have unread : Unacknowledged (pollEntry (newMutationJournalEntry casing digest poll.request call.toCall)
          receipt call.clock) :=
        ⟨rfl, strip_pollPath, show committedBatchCode ≠ acknowledgedCode by decide⟩
      refine Or.inr ⟨⟨staged, journal, marketId, published, _, save, polled, wallets, view, ?_, acknowledged,
        appended, unread, rfl⟩,
        pollEntry (newMutationJournalEntry casing digest poll.request call.toCall) receipt call.clock, ?_, rfl,
        ⟨rfl, rfl, rfl⟩, strip_pollPath, rfl, rfl⟩
      · obtain ⟨_, final, _, _, rfl, result⟩ := poll_published polled
        rw [result]
        rfl
      · have own := entry_mem_append appended
        rw [← saveConfig_success save] at own
        exact own

/-- A failed poll changes nothing, unless the file was replaced and the save failed after it. -/
theorem poll_failed {s next : Server Activity} {poll : PollRequest} {call : PollCall Activity}
    {reply : PollReply Activity} (failed : s.pollWallets casing digest poll call = (next, reply))
    (silent : ∀ receipt, reply ≠ .answered receipt) (fault : call.fault ≠ .afterReplace) : next = s := by
  have polled := pollWallets_cases casing digest s poll call
  generalize s.pollWallets casing digest poll call = outcome at polled failed
  cases polled with
  | stopped other _ =>
    cases failed
    rfl
  | replayed entry receipt member key matching state response =>
    cases failed
    exact absurd rfl (silent receipt)
  | saved staged receipt recent replaced success new stage save =>
    cases success with
    | true =>
      cases failed
      exact absurd rfl (silent receipt)
    | false =>
      cases failed
      rcases saveConfig_cases s.disk staged call.fault with kept | ⟨_, late⟩
      · rw [show replaced = s.disk from congrArg Prod.fst (save.symm.trans kept)]
        exact replace_self s
      · rw [save] at late
        exact absurd (late rfl) fault

/-! ## Whole runs -/

/-- A start over a file whose poll entries were committed. -/
def Server.PollStart (s : Server Activity) : Prop :=
  s.Start ∧ ∀ entry ∈ s.disk.mutationJournal, entry.path = pollPath → entry.state = .completed

def Server.Polls (casing : Casing) (digest : Text → Text) : Server Activity → Prop :=
  Transition.Reachable Server.PollStart (Step casing digest)

theorem polls_pinned {s : Server Activity} (polls : s.Polls casing digest) : s.Guarded ∧ s.Pinned := by
  refine @Transition.reachable_invariant _ Server.PollStart (Step casing digest)
    (fun s => s.Guarded ∧ s.Pinned) (fun s start => ?_) (fun _ _ holds step => ?_) s polls
  · refine ⟨start_guarded start.1, start.1.receipts, start.2, fun running outcome returned => ?_⟩
    exact absurd (start.1.phase.symm.trans returned) (by simp)
  · exact ⟨step_guarded holds.1 step, step_pinned holds.1 holds.2 step⟩

/-- A step that keeps the entry of the key on the file. -/
def KeepsKey (casing : Casing) (digest : Text → Text) (key : Text) (before after : Server Activity) : Prop :=
  Step casing digest before after ∧ key ∈ keys after.disk

/-- A step that does not acknowledge the receipt. -/
def LeavesUnread (casing : Casing) (digest : Text → Text) (receiptId : Text) (before after : Server Activity) :
    Prop :=
  Step casing digest before after ∧ ¬Acknowledges casing digest receiptId before after

theorem run_holds {poll : PollRequest} {receipt : Receipt Activity} {first last : Server Activity}
    (ready : first.Guarded ∧ first.Pinned) (holds : Holds casing digest poll receipt first.disk)
    (run : Relation.ReflTransGen (KeepsKey casing digest (digest poll.idempotencyKey)) first last) :
    Holds casing digest poll receipt last.disk := by
  refine (@Transition.run_invariant _ (KeepsKey casing digest (digest poll.idempotencyKey))
    (fun s => (s.Guarded ∧ s.Pinned) ∧ Holds casing digest poll receipt s.disk)
    (fun before after invariant step => ?_) first last run ⟨ready, holds⟩).2
  obtain ⟨⟨guarded, pinned⟩, entry, member, key, matching, route, state, response⟩ := invariant
  obtain ⟨step, present⟩ := step
  obtain ⟨kept, held, same⟩ := (step_changed guarded pinned step).carries member route (key ▸ present)
  refine ⟨⟨step_guarded guarded step, step_pinned guarded pinned step⟩, kept, held, same.keyHash.trans key, ?_,
    same.path.trans route, same.state.trans state, same.response.trans response⟩
  exact ⟨same.method.trans matching.1, same.path.trans matching.2.1, same.requestHash.trans matching.2.2⟩

theorem run_retains {entry : Entry Activity} {first last : Server Activity}
    (ready : first.Guarded ∧ first.Pinned) (member : entry ∈ first.disk.mutationJournal)
    (unread : Unacknowledged entry)
    (run : Relation.ReflTransGen (LeavesUnread casing digest entry.id) first last) :
    entry ∈ last.disk.mutationJournal := by
  refine (@Transition.run_invariant _ (LeavesUnread casing digest entry.id)
    (fun s => (s.Guarded ∧ s.Pinned) ∧ entry ∈ s.disk.mutationJournal)
    (fun before after invariant step => ?_) first last run ⟨ready, member⟩).2
  obtain ⟨⟨guarded, pinned⟩, held⟩ := invariant
  obtain ⟨step, quiet⟩ := step
  exact ⟨⟨step_guarded guarded step, step_pinned guarded pinned step⟩,
    (step_changed guarded pinned step).retains held unread quiet⟩

/-- The receipt contract of a server state. -/
structure Server.PollReceipts (casing : Casing) (digest : Text → Text) (s : Server Activity) : Prop where
  atomic : ∀ poll call next reply, s.pollWallets casing digest poll call = (next, reply) →
    (∀ receipt, reply ≠ .answered receipt) → call.fault ≠ .afterReplace → next = s
  committed : ∀ poll call next receipt, s.pollWallets casing digest poll call = (next, .answered receipt) →
    (next.disk = s.disk ∧ Holds casing digest poll receipt s.disk) ∨
      Commits casing digest s next poll call receipt
  replayed : s.phase = .idle → ∀ poll call next receipt later again,
    s.pollWallets casing digest poll call = (next, .answered receipt) →
    Relation.ReflTransGen (KeepsKey casing digest (digest poll.idempotencyKey)) next later →
    (later.pollWallets casing digest poll again).1.disk = later.disk ∧
      (later.pollWallets casing digest poll again).2 =
        if again.responseFits receipt then .answered receipt else .error
  retained : ∀ entry ∈ s.disk.mutationJournal, Unacknowledged entry → ∀ later,
    Relation.ReflTransGen (LeavesUnread casing digest entry.id) s later → entry ∈ later.disk.mutationJournal
  bounded : unacknowledged s.disk.mutationJournal ≤ maxUnacknowledgedWalletPollReceipts
  pinned : ∀ entry after, appendMutationJournal s.disk.mutationJournal entry = some after →
    ∀ item ∈ s.disk.mutationJournal, Unacknowledged item → item ∈ after

theorem poll_receipts_kept (casing : Casing) (digest : Text → Text) (s : Server Activity)
    (polls : s.Polls casing digest) : s.PollReceipts casing digest := by
  have ready := polls_pinned polls
  refine ⟨fun poll call next reply => poll_failed, fun poll call next receipt => poll_answered,
    fun idle poll call next receipt later again answered run => ?_,
    fun entry member unread later run => run_retains ready member unread run, ready.2.bounded,
    fun entry after appended item member unread => append_keeps s.disk.distinct appended member unread.kept⟩
  have holds : Holds casing digest poll receipt next.disk := by
    rcases poll_answered answered with ⟨same, holds⟩ | committed
    · exact same ▸ holds
    · exact committed.holds
  have step : Step casing digest s next := by
    have step : Step casing digest s _ := .poll poll call idle
    rwa [answered] at step
  exact poll_replays (run_holds ⟨step_guarded ready.1 step, step_pinned ready.1 ready.2 step⟩ holds run) again

/-- A staged poll of a new key is saved and answered. -/
theorem poll_saves {s : Server Activity} {poll : PollRequest} {call : PollCall Activity} {staged : Config Activity}
    {receipt : Receipt Activity} {recent : List Activity}
    (new : ∀ other ∈ s.disk.mutationJournal, other.keyHash ≠ digest poll.idempotencyKey)
    (stage : stagePoll s.disk.toConfig s.recent (newMutationJournalEntry casing digest poll.request call.toCall)
      poll call = some (staged, receipt, recent))
    (valid : Distinct staged.mutationJournal) (fault : call.fault = .none) :
    s.pollWallets casing digest poll call =
      ({ s.replace ⟨staged, valid⟩ with recent := recent }, .answered receipt) := by
  have missing : mutationJournalEntry digest s.disk.toConfig poll.request.idempotencyKey = none := by
    cases looked : mutationJournalEntry digest s.disk.toConfig poll.request.idempotencyKey with
    | none => rfl
    | some entry => exact absurd (lookup_some looked).2 (new entry (lookup_some looked).1)
  have plain : isLiveOrderManagementRoute casing poll.request.method poll.request.path = false :=
    local_route casing _ List.mem_cons_self
  have prepared : prepareGeneralIdempotentMutation casing digest s.disk poll.request call.toCall =
      (s.disk, .admitted s.disk.toConfig (newMutationJournalEntry casing digest poll.request call.toCall)) := by
    unfold prepareGeneralIdempotentMutation
    simp [plain, missing]
  unfold Server.pollWallets
  rw [prepared]
  simp only [stage, saveConfig, dif_pos valid, fault]

/-! ## A receipt that was acknowledged and evicted -/

private def watched : WalletWatch := ⟨text "0xabc", true, ⟨5, [], [], []⟩, text "polymarket", [], []⟩

private def moved : WalletWatch := { watched with cursor := ⟨7, text "0x1", [text "a"], [(text "a", 7)]⟩ }

private def receiptOf (activity : List Unit) (message identity : String) : Receipt Unit :=
  ⟨⟨activity, [], 1, activity.length, false, some 0, 0, 100⟩, text message, text identity⟩

private def receiptEntry (key hash code : String) (time : Nat) (receipt : Receipt Unit) : Entry Unit :=
  ⟨text key, text "POST", pollPath, text hash, false, .completed, 200, .receipt receipt, text code,
    text "Wallet cursors and the complete replayable activity batch committed atomically.", receipt.receiptId,
    time, time, 0⟩

private def unresolvedEntry (number : Nat) : Entry Unit :=
  ⟨[Fin.ofNat _ (1000 + number)], text "POST", text "/api/markets/kalshi/orders/cancel_order", text "b", true,
    .ambiguous, 503, .empty, [], [], [Fin.ofNat _ (1000 + number)], 2, 2, 0⟩

private def unresolvedOrders : List (Entry Unit) := (List.range 254).map unresolvedEntry

private def serverOf (journal : List (Entry Unit)) (distinct : Distinct journal) : Server Unit where
  disk := ⟨⟨[watched], journal⟩, distinct⟩
  recent := []
  phase := .idle
  started _ := 0
  retried _ := 0
  cleared _ := 0
  evicted _ := False

private def pollCall (identity : String) (items : List Fill) (fits : Bool) : PollCall Unit where
  clock := 9
  identity := text identity
  refused := false
  fault := .none
  marketId := some (text "polymarket")
  environment :=
    { collect := fun _ => .items items
      preflight := fun _ _ => .ok ()
      payload := fun _ _ => .ok ()
      preview := fun _ _ _ => .ok () }
  responseFits _ := fits
  storable _ := true
  identityOf _ := ([], [])

private def firstPoll : PollRequest := ⟨text "b", text "k", none⟩

private def otherPoll : PollRequest := ⟨text "c", text "l", none⟩

private def quietMessage : String := "Polled 1 wallet(s); delivered 0 activity item(s); 0 remaining."

private def busyMessage : String := "Polled 1 wallet(s); delivered 1 activity item(s); 0 remaining."

private def oldEntry : Entry Unit :=
  receiptEntry "k" "b" "wallet_delivery_batch_acknowledged" 1 (receiptOf [] quietMessage "r")

private def readEntry : Entry Unit :=
  receiptEntry "m" "b" "wallet_delivery_batch_acknowledged" 2 (receiptOf [] quietMessage "q")

private def otherEntry : Entry Unit :=
  receiptEntry "l" "c" "wallet_delivery_batch_committed" 9 (receiptOf [] quietMessage "s")

private def newEntry : Entry Unit :=
  receiptEntry "k" "b" "wallet_delivery_batch_committed" 9 (receiptOf [()] busyMessage "t")

private theorem unresolved_distinct : Distinct unresolvedOrders := by
  have names : ((List.range 254).map fun number => ([Fin.ofNat _ (1000 + number)] : Text)).Nodup := by
    refine List.Nodup.map_on (fun first small second other same => ?_) List.nodup_range
    have value := congrArg Fin.val (List.singleton_inj.mp same)
    rw [List.mem_range] at small other
    simp only [Fin.val_ofNat] at value
    omega
  exact ⟨by rw [unresolvedOrders, List.map_map]; exact names, by rw [unresolvedOrders, List.map_map]; exact names⟩

private theorem distinct_cons {journal : List (Entry Unit)} {entry : Entry Unit} (distinct : Distinct journal)
    (id : entry.id ∉ journal.map MutationJournalEntry.id)
    (key : entry.keyHash ∉ journal.map MutationJournalEntry.keyHash) : Distinct (entry :: journal) :=
  ⟨List.nodup_cons.mpr ⟨id, distinct.1⟩, List.nodup_cons.mpr ⟨key, distinct.2⟩⟩

private theorem distinct_perm {journal other : List (Entry Unit)} (distinct : Distinct journal)
    (same : journal.Perm other) : Distinct other :=
  ⟨(same.map _).nodup_iff.mp distinct.1, (same.map _).nodup_iff.mp distinct.2⟩

private theorem full_distinct : Distinct (oldEntry :: readEntry :: unresolvedOrders) :=
  distinct_cons (distinct_cons unresolved_distinct (by decide) (by decide))
    (by decide) (by decide)

private theorem evicted_distinct : Distinct (readEntry :: unresolvedOrders ++ [otherEntry]) :=
  distinct_perm (distinct_cons (distinct_cons unresolved_distinct (by decide) (by decide))
    (by decide) (by decide)) (List.perm_append_singleton otherEntry _).symm

private theorem again_distinct : Distinct (unresolvedOrders ++ [otherEntry] ++ [newEntry]) :=
  distinct_perm (distinct_cons (distinct_perm (distinct_cons unresolved_distinct (by decide)
    (by decide)) (List.perm_append_singleton otherEntry _).symm) (by decide) (by decide))
    (List.perm_append_singleton newEntry _).symm

private def fullServer : Server Unit := serverOf _ full_distinct

private def evictedServer : Server Unit := fullServer.replace ⟨⟨[watched], _⟩, evicted_distinct⟩

private def newFill : Fill := ⟨text "a", none, 7, text "rain", text "0x1"⟩

private theorem full_start : fullServer.PollStart := by
  have states : ∀ entry ∈ fullServer.disk.mutationJournal, entry.state ≠ .retryable := by decide +kernel
  refine ⟨⟨rfl, fun _ => rfl, fun _ => rfl, fun entry member authorized => ?_, by decide +kernel⟩, by decide +kernel⟩
  exact absurd authorized.1 (states entry member)

private theorem other_answered : fullServer.pollWallets asciiCasing id otherPoll (pollCall "s" [] true) =
    (evictedServer, .answered (receiptOf [] quietMessage "s")) :=
  poll_saves (by decide +kernel) (by decide +kernel) evicted_distinct rfl

private theorem again_answered :
    evictedServer.pollWallets asciiCasing id firstPoll (pollCall "t" [newFill] true) =
      ({ evictedServer.replace ⟨⟨[moved], _⟩, again_distinct⟩ with recent := [()] },
        .answered (receiptOf [()] busyMessage "t")) :=
  poll_saves (by decide +kernel) (by decide +kernel) again_distinct rfl

private theorem old_holds : Holds asciiCasing id firstPoll (receiptOf [] quietMessage "r") fullServer.disk :=
  ⟨oldEntry, List.mem_cons_self, rfl, ⟨by decide +kernel, by decide +kernel, rfl⟩, rfl, rfl, rfl⟩

/-- A receipt that a client acknowledged can be evicted; its key and body then deliver another
batch and move a cursor. A retained receipt is not answered where the response does not fit. -/
theorem acknowledged_receipt_not_replayed :
    fullServer.Polls asciiCasing id ∧ Step asciiCasing id fullServer evictedServer ∧
    (fullServer.pollWallets asciiCasing id firstPoll (pollCall "x" [] true)).2 =
      .answered (receiptOf [] quietMessage "r") ∧
    (evictedServer.pollWallets asciiCasing id firstPoll (pollCall "t" [newFill] true)).2 =
      .answered (receiptOf [()] busyMessage "t") ∧
    (evictedServer.pollWallets asciiCasing id firstPoll (pollCall "t" [newFill] true)).1.disk.wallets ≠
      evictedServer.disk.wallets ∧
    (fullServer.pollWallets asciiCasing id firstPoll (pollCall "x" [] false)).2 = .error := by
  have step : Step asciiCasing id fullServer (fullServer.pollWallets asciiCasing id otherPoll
      (pollCall "s" [] true)).1 := .poll otherPoll (pollCall "s" [] true) rfl
  rw [other_answered] at step
  refine ⟨⟨fullServer, full_start, .refl⟩, step, (poll_replays old_holds _).2, ?_, ?_, (poll_replays old_holds _).2⟩
  · rw [again_answered]
  · rw [again_answered]
    exact show ([moved] : List WalletWatch) ≠ [watched] by decide

theorem poll_receipts_kept_full_journal :
    (fullServer.pollWallets asciiCasing id otherPoll (pollCall "s" [] true)).1.PollReceipts asciiCasing id :=
  poll_receipts_kept asciiCasing id _
    ⟨fullServer, full_start, .single (.poll otherPoll (pollCall "s" [] true) rfl)⟩

end MarketSentinel.Journal
