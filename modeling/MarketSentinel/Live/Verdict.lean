import MarketSentinel.Library.Result
import MarketSentinel.Live.Audit
import MarketSentinel.Live.OneShot

/-! What the journal and the verdict of an audit are worth.

The order goes out after the pending record, and only an order that was seen
cancelled and unfilled is recorded as resolved.
-/

set_option autoImplicit false

namespace MarketSentinel.Live

open Python Program

section Frames

variable {ρ α β : Type}

/-- A program that adds nothing to the history but calls of the client. -/
def Trades (program : Trading ρ α) : Prop :=
  ∀ s, ∃ calls, (program s).2.events = calls ++ s.events ∧ ∀ event ∈ calls, ∃ request reply, event = .client request reply

theorem Trades.still {program : Trading ρ α} (same : ∀ s, (program s).2.events = s.events) : Trades program :=
  fun s => ⟨[], same s, by simp⟩

theorem Trades.pure {a : α} : Trades (pure a : Trading ρ α) := .still fun _ => rfl

theorem Trades.ofExcept (x : Except Raised α) : Trades (ofExcept x : Trading ρ α) := .still fun _ => rfl

theorem Trades.require {holds : Bool} {e : Raised} : Trades (require holds e : Trading ρ Unit) :=
  .still fun _ => by cases holds <;> rfl

theorem Trades.bind {program : Trading ρ α} {next : α → Trading ρ β} (first : Trades program)
    (rest : ∀ a, Trades (next a)) : Trades (program >>= next) := by
  intro s
  obtain ⟨calls, grown, clients⟩ := first s
  cases outcome : program s with
  | mk result t =>
    rw [outcome] at grown
    cases result with
    | error e => exact ⟨calls, by rw [bind_error outcome, grown], clients⟩
    | ok a =>
      obtain ⟨later, more, others⟩ := rest a t
      refine ⟨later ++ calls, ?_, fun event member => ?_⟩
      · rw [bind_ok outcome, more, grown, List.append_assoc]
      · exact (List.mem_append.mp member).elim (others event) (clients event)

theorem Trades.attempt {program : Trading ρ α} (trades : Trades program) : Trades (attempt program) := trades

theorem trades_call (client : Client ρ) (request : ClientCall) : Trades (call client request) :=
  fun s => ⟨[.client request (client.respond s.events request)], rfl, by simp⟩

theorem trades_mutation : Trades (mutation : Trading ρ Unit) := .bind (.still fun _ => rfl) fun _ => .require

theorem trades_requireV2Server (client : Client ρ) : Trades (requireV2Server client) :=
  .bind (.attempt (trades_call client _)) fun _ => .ofExcept _

theorem trades_prepareBoundedPlacement (runtime : Runtime) (token : Text) (price size : ℚ) (tif : Text)
    (postOnly : Bool) : Trades (prepareBoundedPlacement runtime token price size tif postOnly : Trading ρ Unit) := by
  refine .bind (.still fun _ => rfl) fun s => ?_
  cases s.bounded with
  | none => exact .pure
  | some audit =>
    exact .bind .require fun _ => .bind .require fun _ => .bind .require fun _ => .bind .require fun _ =>
      .bind .require fun _ => .still fun _ => rfl

theorem trades_rememberPlacement (runtime : Runtime) (response : Dict Text Json) :
    Trades (rememberPlacement runtime response : Trading ρ Unit) := by
  refine .bind (.still fun _ => rfl) fun s => ?_
  cases s.bounded with
  | none => exact .pure
  | some audit => exact .bind (.ofExcept _) fun _ => .bind .require fun _ => .still fun _ => rfl

theorem trades_placeLimitOrder (runtime : Runtime) (client : Client ρ) (tokenId side : Text) (price size : PyFloat)
    (tif : Text) (postOnly : Bool) : Trades (placeLimitOrder runtime client tokenId side price size tif postOnly) := by
  refine .bind (.ofExcept _) fun token => .bind (.ofExcept _) fun sideValue => .bind (.ofExcept _) fun price =>
    .bind .require fun _ => .bind (.ofExcept _) fun size => .bind .require fun _ => ?_
  refine .bind (trades_prepareBoundedPlacement runtime token price size tif postOnly) fun _ => .bind .require fun _ => ?_
  refine .bind trades_mutation fun _ => .bind (trades_requireV2Server client) fun _ => ?_
  refine .bind (trades_call client _) fun signed => .bind (.ofExcept _) fun _ => ?_
  refine .bind (trades_call client _) fun reply => .bind (.ofExcept _) fun response => ?_
  exact .bind (trades_rememberPlacement runtime response) fun _ => .pure

theorem trades_cancelOrder (runtime : Runtime) (client : Client ρ) (orderId : Text) :
    Trades (cancelOrder runtime client orderId) := by
  refine .bind (.ofExcept _) fun identifier => .bind ?_ fun _ => .bind trades_mutation fun _ => .bind ?_ fun _ =>
    .bind .require fun _ => .bind (trades_call client _) fun reply => .ofExcept _
  · refine .bind (.still fun _ => rfl) fun s => ?_
    cases s.bounded with
    | none => exact .pure
    | some audit =>
      cases s.orderId with
      | none => exact .still fun _ => rfl
      | some known => exact .bind .require fun _ => .bind .require fun _ => .still fun _ => rfl
  · refine .bind (.still fun _ => rfl) fun s => ?_
    cases s.bounded with
    | none => exact .pure
    | some audit => exact trades_requireV2Server client

theorem trades_getOrder (runtime : Runtime) (client : Client ρ) (orderId : Text) :
    Trades (getOrder runtime client orderId) :=
  .bind (.ofExcept _) fun _ => .bind (trades_call client _) fun _ => .ofExcept _

/-- What survives more calls of the client survives a program that only trades. -/
theorem Trades.frame {program : Trading ρ α} (trades : Trades program) {F : List (Event ρ) → Prop}
    (kept : ∀ calls events, (∀ event ∈ calls, ∃ request reply, event = .client request reply) → F events →
      F (calls ++ events)) {pre : Session ρ → Prop} {post : α → Session ρ → Prop} {failed : Session ρ → Prop}
    (triple : Triple pre program post failed) :
    Triple (fun s => pre s ∧ F s.events) program (fun a s => post a s ∧ F s.events)
      (fun s => failed s ∧ F s.events) := by
  intro s given
  have outcome := triple s given.1
  obtain ⟨calls, grown, clients⟩ := trades s
  have held := kept calls s.events clients given.2
  rw [← grown] at held
  revert outcome held
  match program s with
  | (.ok a, t) => exact And.intro
  | (.error e, t) => exact And.intro

end Frames

section Journal

/-- The last record that was written. -/
def lastWritten {ρ : Type} : List (Event ρ) → Option ρ
  | [] => none
  | .noted record true :: _ => some record
  | _ :: older => lastWritten older

def Pending (events : List (Event RecoveryRecord)) : Prop :=
  ∃ record, .noted record true ∈ events ∧ record.stage = .placementPending

/-- Whatever changed the venue came after a pending record. -/
def Guarded : List (Event RecoveryRecord) → Prop
  | [] => True
  | .client request _ :: older => (request.mutates = true → Pending older) ∧ Guarded older
  | .noted _ _ :: older => Guarded older

def Unresolved (events : List (Event RecoveryRecord)) : Prop :=
  ∀ record, lastWritten events = some record → record.resolved = false

/-- The answers that show the order cancelled and unfilled. -/
def Proven (runtime : Runtime) (events : List (Event RecoveryRecord)) (orderId : Text) : Prop :=
  ∃ cancelled postCancel,
    .client (.cancelOrder orderId) (.ok (.obj cancelled)) ∈ events ∧
    .client (.read (.order orderId)) (.ok (.obj postCancel)) ∈ events ∧
    cancelResponseContains cancelled orderId = true ∧ orderStateIsCancelled runtime postCancel orderId = true ∧
    (orderZeroFillEvidence runtime postCancel orderId).verified = true

def Supported (runtime : Runtime) (events : List (Event RecoveryRecord)) : Prop :=
  ∀ record, lastWritten events = some record → record.resolved = true → Proven runtime events record.orderId

theorem Unresolved.supported {runtime : Runtime} {events : List (Event RecoveryRecord)} (open_ : Unresolved events) :
    Supported runtime events := fun record last resolved => by
  rw [open_ record last] at resolved
  cases resolved

theorem Guarded.before {request : ClientCall} {reply : Except Raised Json} {older : List (Event RecoveryRecord)}
    (mutates : request.mutates = true) (newer : List (Event RecoveryRecord))
    (guarded : Guarded (newer ++ .client request reply :: older)) : Pending older := by
  induction newer with
  | nil => exact guarded.1 mutates
  | cons event newer ih =>
    cases event with
    | client request reply => exact ih guarded.2
    | noted record written => exact ih guarded

theorem lastWritten_noted {ρ : Type} {record : ρ} {written : Bool} {events : List (Event ρ)} (ok : written = true) :
    lastWritten (.noted record written :: events) = some record := by rw [ok, lastWritten]

theorem lastWritten_append {ρ : Type} {calls : List (Event ρ)} (events : List (Event ρ))
    (clients : ∀ event ∈ calls, ∃ request reply, event = .client request reply) :
    lastWritten (calls ++ events) = lastWritten events := by
  induction calls with
  | nil => rfl
  | cons event calls ih =>
    obtain ⟨request, reply, rfl⟩ := clients event List.mem_cons_self
    exact ih fun event member => clients event (List.mem_cons_of_mem _ member)

/-- What the journal looks like from the pending record to the verdict. -/
structure Underway (events : List (Event RecoveryRecord)) : Prop where
  pending : Pending events
  guarded : Guarded events
  unresolved : Unresolved events

theorem Underway.grow (calls events : List (Event RecoveryRecord))
    (clients : ∀ event ∈ calls, ∃ request reply, event = .client request reply) (underway : Underway events) :
    Underway (calls ++ events) := by
  refine ⟨?_, ?_, ?_⟩
  · obtain ⟨record, member, stage⟩ := underway.pending
    exact ⟨record, List.mem_append_right calls member, stage⟩
  · clear clients
    induction calls with
    | nil => exact underway.guarded
    | cons event calls ih =>
      cases event with
      | noted record written => exact ih
      | client request reply =>
        obtain ⟨record, member, stage⟩ := underway.pending
        exact ⟨fun _ => ⟨record, List.mem_append_right calls member, stage⟩, ih⟩
  · unfold Unresolved
    rw [lastWritten_append events clients]
    exact underway.unresolved

/-- A record that resolves nothing keeps the journal open, written or not. -/
theorem Underway.note {events : List (Event RecoveryRecord)} (underway : Underway events) {record : RecoveryRecord}
    (unresolved : record.resolved = false) (written : Bool) : Underway (.noted record written :: events) := by
  obtain ⟨old, member, stage⟩ := underway.pending
  refine ⟨⟨old, List.mem_cons_of_mem _ member, stage⟩, underway.guarded, ?_⟩
  cases written with
  | false => exact underway.unresolved
  | true =>
    rintro _ ⟨⟩
    exact unresolved

theorem guarded_of_quiet {events : List (Event RecoveryRecord)} (quiet : mutations events = []) : Guarded events := by
  induction events with
  | nil => trivial
  | cons event events ih =>
    cases event with
    | noted record written => exact ih quiet
    | client request reply =>
      unfold mutations at quiet
      split at quiet
      · cases quiet
      · rename_i harmless
        exact ⟨fun mutates => absurd mutates harmless, ih quiet⟩

end Journal

section Stages

variable {runtime : Runtime} {audit : BoundedAudit} {client : Client RecoveryRecord} {writer : Writer}

/-- The trader of an audit between its pending record and its verdict. -/
def Running (runtime : Runtime) (audit : BoundedAudit) (s : Session RecoveryRecord) : Prop :=
  OneShot runtime audit s.view ∧ Underway s.events

structure Closed (runtime : Runtime) (audit : BoundedAudit) (s : Session RecoveryRecord) : Prop where
  oneShot : OneShot runtime audit s.view
  guarded : Guarded s.events
  supported : Supported runtime s.events

/-- A closed audit whose plan claims success only over a resolved record. -/
structure Delivered (runtime : Runtime) (audit : BoundedAudit) (plan : Plan) (s : Session RecoveryRecord) : Prop where
  closed : Closed runtime audit s
  earned : plan.status = .ok → ∃ record, lastWritten s.events = some record ∧ record.resolved = true

theorem Running.closed {s : Session RecoveryRecord} (running : Running runtime audit s) : Closed runtime audit s :=
  ⟨running.1, running.2.guarded, running.2.unresolved.supported⟩

theorem Closed.delivered {plan : Plan} {s : Session RecoveryRecord} (closed : Closed runtime audit s)
    (other : plan.status ≠ .ok) : Delivered runtime audit plan s := ⟨closed, fun claimed => absurd claimed other⟩

/-- A record that resolves nothing, whatever becomes of its write. -/
theorem journal_spec {record : RecoveryRecord} {other : Session RecoveryRecord → Prop}
    (unresolved : record.resolved = false) :
    Triple (Running runtime audit) (attempt (recoveryWrite writer record)) (fun _ => Running runtime audit) other :=
  fun _ running => ⟨running.1, running.2.note unresolved _⟩

theorem fail_delivered {plan : Plan} {message : String} {trail : AuditTrail} {s : Session RecoveryRecord}
    (closed : Closed runtime audit s) : Delivered runtime audit (plan.fail message trail) s :=
  closed.delivered fun claimed => by cases claimed

theorem block_delivered {plan : Plan} {message : Text} {s : Session RecoveryRecord}
    (closed : Closed runtime audit s) : Delivered runtime audit (plan.block message) s :=
  closed.delivered fun claimed => by cases claimed

/-- The last record of an audit, which may resolve it. -/
theorem verdict_write {record : RecoveryRecord} {s : Session RecoveryRecord} (running : Running runtime audit s)
    (evidence : record.resolved = true → Proven runtime s.events record.orderId) (written : Bool) :
    Closed runtime audit (s.noted (.noted record written)) := by
  refine ⟨running.1, running.2.guarded, fun last found resolved => ?_⟩
  cases written with
  | false =>
    rw [running.2.unresolved last found] at resolved
    cases resolved
  | true =>
    cases found
    obtain ⟨cancelled, postCancel, acknowledged, observed, rest⟩ := evidence resolved
    exact ⟨cancelled, postCancel, List.mem_cons_of_mem _ acknowledged, List.mem_cons_of_mem _ observed, rest⟩

theorem conclude_spec (plan : Plan) (base : RecoveryRecord) (trail : AuditTrail) (orderId : Text)
    (cancelled postCancel : Dict Text Json) :
    Triple (fun s => Running runtime audit s ∧ .client (.cancelOrder orderId) (.ok (.obj cancelled)) ∈ s.events ∧
        .client (.read (.order orderId)) (.ok (.obj postCancel)) ∈ s.events)
      (conclude runtime writer plan base trail orderId cancelled postCancel) (Delivered runtime audit)
      (Closed runtime audit) := by
  unfold conclude
  cases verified : cancelVerified runtime orderId cancelled postCancel with
  | false =>
    refine Triple.bind (fun _ => Running runtime audit) ?_ fun _ => Triple.pure fun _ running =>
      fail_delivered running.closed
    exact (journal_spec rfl).weaken (fun _ given => given.1) (fun _ _ => id) fun _ => id
  | true =>
    obtain ⟨both, unfilled⟩ := Bool.and_eq_true_iff.mp verified
    obtain ⟨answered, gone⟩ := Bool.and_eq_true_iff.mp both
    refine Triple.bind (fun written s => Closed runtime audit s ∧ (isOk written = true →
      ∃ record, lastWritten s.events = some record ∧ record.resolved = true)) ?_ fun written => ?_
    · rintro s ⟨running, acknowledged, observed⟩
      refine ⟨verdict_write running (fun _ => ⟨cancelled, postCancel, acknowledged, observed, answered, gone, unfilled⟩)
        _, fun ok => ?_⟩
      change isOk (writer s.events _) = true at ok
      exact ⟨_, lastWritten_noted ok, rfl⟩
    · cases ok : isOk written with
      | false => exact Triple.pure fun _ given => fail_delivered given.1
      | true => exact Triple.pure fun _ given => ⟨given.1, fun _ => given.2 rfl⟩

theorem canonicalIdentifier_eq {candidate identifier : Text} {label : String}
    (canonical : canonicalIdentifier runtime candidate label = .ok identifier) : identifier = candidate := by
  unfold canonicalIdentifier at canonical
  split at canonical
  · cases canonical
  · split at canonical <;> cases canonical
    rfl

theorem mappingResponse_eq {value : Json} {operation : String} {fields : Dict Text Json}
    (mapped : mappingResponse value operation = .ok fields) : value = .obj fields := by
  cases value with
  | obj => cases mapped; rfl
  | null | bool | int | float | str | arr => cases mapped

theorem call_answer {request : ClientCall} :
    Triple (fun _ => True) (call client request) (fun reply s => .client request (.ok reply) ∈ s.events)
      (fun _ => True) := by
  intro s _
  unfold call
  cases answer : client.respond s.events request with
  | ok reply => exact List.mem_cons_self
  | error e => trivial

/-- The object that a call was answered with. -/
theorem object_answer {request : ClientCall} {operation : String} :
    Triple (fun _ => True) (call client request >>= fun reply => ofExcept (mappingResponse reply operation))
      (fun response s => .client request (.ok (.obj response)) ∈ s.events) (fun _ => True) := by
  refine Triple.bind _ call_answer fun reply => Triple.ofExcept (fun response mapped s member => ?_) fun _ _ => trivial
  rw [← mappingResponse_eq mapped]
  exact member

theorem cancelOrder_answer (orderId : Text) :
    Triple (fun _ => True) (cancelOrder runtime client orderId)
      (fun response s => .client (.cancelOrder orderId) (.ok (.obj response)) ∈ s.events) (fun _ => True) := by
  refine Triple.value (fun _ => id) fun identifier canonical => Triple.bind _ .skip fun _ =>
    Triple.bind _ .skip fun _ => Triple.bind _ .skip fun _ => Triple.bind _ .skip fun _ => ?_
  rw [canonicalIdentifier_eq canonical]
  exact object_answer

theorem getOrder_answer (orderId : Text) :
    Triple (fun _ => True) (getOrder runtime client orderId)
      (fun response s => .client (.read (.order orderId)) (.ok (.obj response)) ∈ s.events) (fun _ => True) := by
  refine Triple.value (fun _ => id) fun identifier canonical => ?_
  rw [canonicalIdentifier_eq canonical]
  exact object_answer

theorem getOrder_spec {P : View → Prop} (orderId : Text) :
    Triple (fun s => P s.view) (getOrder runtime client orderId) (fun _ s => P s.view) (fun s => P s.view) :=
  Triple.value (fun _ => id) fun _ _ => keeps_bind (call_read rfl) (fun _ => id) fun _ => keeps_ofExcept _

theorem readAfterCancellation_spec (plan : Plan) (base : RecoveryRecord) (trail : AuditTrail) (orderId : Text)
    (cancelled : Dict Text Json) (open_ : base.resolved = false) :
    Triple (fun s => Running runtime audit s ∧ .client (.cancelOrder orderId) (.ok (.obj cancelled)) ∈ s.events)
      (readAfterCancellation runtime client writer plan base trail orderId cancelled) (Delivered runtime audit)
      (Closed runtime audit) := by
  let F (events : List (Event RecoveryRecord)) : Prop :=
    Underway events ∧ .client (.cancelOrder orderId) (.ok (.obj cancelled)) ∈ events
  have read : Triple (fun s => OneShot runtime audit s.view ∧ F s.events) (getOrder runtime client orderId)
      (fun _ s => OneShot runtime audit s.view ∧ F s.events) (fun s => OneShot runtime audit s.view ∧ F s.events) :=
    (trades_getOrder runtime client orderId).frame (fun calls events clients held =>
      ⟨held.1.grow calls events clients, List.mem_append_right calls held.2⟩) (getOrder_spec orderId)
  refine Triple.caught _ _ ((read.both (getOrder_answer orderId)).weaken (fun s given =>
    ⟨⟨given.1.1, given.1.2, given.2⟩, trivial⟩) (fun _ _ => id) fun _ => id) (fun postCancel => ?_) fun e => ?_
  · exact (conclude_spec plan base _ orderId cancelled postCancel).weaken
      (fun s given => ⟨⟨given.1.1, given.1.2.1⟩, given.1.2.2, given.2⟩) (fun _ _ => id) fun _ => id
  · refine Triple.bind _ ((journal_spec ?_).weaken (fun s given => ⟨given.1.1, given.1.2.1⟩) (fun _ _ => id)
      fun _ => id) fun _ => Triple.pure fun _ running => fail_delivered running.closed
    exact open_

theorem Running.trades {α : Type} {program : Trading RecoveryRecord α} (trades : Trades program)
    (spec : Triple (fun s => OneShot runtime audit s.view) program (fun _ s => OneShot runtime audit s.view)
      fun s => OneShot runtime audit s.view) :
    Triple (Running runtime audit) program (fun _ => Running runtime audit) (Running runtime audit) :=
  trades.frame Underway.grow spec

theorem cancelPlaced_spec (plan : Plan) (base : RecoveryRecord) (placed : Dict Text Json)
    (open_ : base.resolved = false) :
    Triple (Running runtime audit) (cancelPlaced runtime client writer plan base placed) (Delivered runtime audit)
      (Closed runtime audit) := by
  refine Triple.bind _ (journal_spec open_) fun _ => ?_
  split
  · exact Triple.pure fun _ running => fail_delivered running.closed
  · have one : Triple (Running runtime audit) (cancelOrder runtime client (extractOrderId placed))
        (fun _ => Running runtime audit) (Running runtime audit) :=
      Running.trades (trades_cancelOrder runtime client (extractOrderId placed)) (cancelOrder_spec _)
    have cancelling := one.both (cancelOrder_answer (extractOrderId placed))
    refine Triple.caught _ _ (cancelling.weaken (fun _ running => ⟨running, trivial⟩) (fun _ _ => id) fun _ => id)
      (fun cancelled => readAfterCancellation_spec _ _ _ _ _ open_) fun e => ?_
    refine Triple.bind (fun _ => Running runtime audit) ((journal_spec ?_).weaken (fun _ => And.left) (fun _ _ => id)
      fun _ => id) fun _ => Triple.pure fun _ running => fail_delivered running.closed
    exact open_

/-- The trader of an audit that nobody used yet. -/
structure Fresh (audit : BoundedAudit) (s : Session RecoveryRecord) : Prop where
  bounded : s.bounded = some audit
  nothing : mutations s.events = []
  unknown : s.orderId = none
  unwritten : lastWritten s.events = none

theorem Fresh.oneShot {s : Session RecoveryRecord} (fresh : Fresh audit s) : OneShot runtime audit s.view :=
  ⟨fresh.bounded, .idle fresh.nothing fresh.unknown⟩

theorem Fresh.closed {s : Session RecoveryRecord} (fresh : Fresh audit s) : Closed runtime audit s :=
  ⟨fresh.oneShot, guarded_of_quiet fresh.nothing, fun record last => by
    cases fresh.unwritten.symm.trans last⟩

/-- After the pending record the audit is under way, before it nothing has happened. -/
theorem pending_spec {base : RecoveryRecord} (open_ : base.resolved = false) (stage : base.stage = .placementPending) :
    Triple (Fresh audit) (recoveryWrite writer base) (fun _ => Running runtime audit) (Closed runtime audit) := by
  intro s fresh
  have quiet : Guarded s.events := guarded_of_quiet fresh.nothing
  unfold recoveryWrite
  cases writer s.events base with
  | ok done =>
    have oneShot : OneShot runtime audit s.view := fresh.oneShot
    refine ⟨oneShot, ⟨base, List.mem_cons_self, stage⟩, quiet, ?_⟩
    rintro _ ⟨⟩
    exact open_
  | error e =>
    refine ⟨fresh.oneShot, quiet, fun record last => ?_⟩
    have unwritten : lastWritten (.noted base false :: s.events) = none := fresh.unwritten
    cases unwritten.symm.trans last

theorem placeAndCancel_spec (plan : Plan) (order : PlannedOrder) (accountAddress : Text) :
    Triple (Fresh audit) (placeAndCancel runtime client writer plan order accountAddress) (Delivered runtime audit)
      (Closed runtime audit) := by
  refine Triple.caught _ _ (pending_spec rfl rfl) (fun _ => ?_) fun e => Triple.pure fun _ => block_delivered
  refine Triple.caught _ _ (Running.trades (trades_placeLimitOrder runtime client _ _ _ _ _ _)
    (placeLimitOrder_spec _ _ _ _ _ _)) (fun placed => cancelPlaced_spec _ _ _ rfl) fun e => ?_
  exact Triple.bind _ (journal_spec rfl) fun _ => Triple.pure fun _ running => fail_delivered running.closed

theorem fresh_reads {α : Type} {program : Trading RecoveryRecord α} (trades : Trades program)
    (spec : ∀ P : View → Prop, Triple (fun s => P s.view) program (fun _ s => P s.view) fun s => P s.view) :
    Triple (Fresh audit) program (fun _ => Fresh audit) (Fresh audit) := by
  have framed := trades.frame (F := fun events => lastWritten events = none)
    (fun calls events clients none => (lastWritten_append events clients).trans none)
    (spec fun v => v.bounded = some audit ∧ v.mutations = [] ∧ v.orderId = none)
  refine framed.weaken (fun s fresh => ⟨⟨fresh.bounded, fresh.nothing, fresh.unknown⟩, fresh.unwritten⟩) ?_ ?_
  · exact fun _ s given => ⟨given.1.1, given.1.2.1, given.1.2.2, given.2⟩
  · exact fun s given => ⟨given.1.1, given.1.2.1, given.1.2.2, given.2⟩

theorem trades_account (funderAddress : Text) : Trades (sameAccountAuthenticatedReadPreflight client funderAddress) := by
  refine .bind ?_ fun _ => .bind .require fun _ => .bind (.bind (trades_call client _) fun _ => .ofExcept _) fun _ =>
    .bind .require fun _ => .pure
  unfold getTradingAccountAddress
  split
  · exact .pure
  · exact .bind (trades_call client _) fun _ => .ofExcept _

theorem account_spec {P : View → Prop} (funderAddress : Text) :
    Triple (fun s => P s.view) (sameAccountAuthenticatedReadPreflight client funderAddress) (fun _ s => P s.view)
      (fun s => P s.view) := by
  refine keeps_bind (address_spec funderAddress) (fun _ => id) fun address => Triple.check (fun _ => id) fun _ => ?_
  refine keeps_bind (keeps_bind (call_read rfl) (fun _ => id) fun _ => keeps_ofExcept _) (fun _ => id) fun orders => ?_
  exact Triple.check (fun _ => id) fun _ => Triple.pure fun _ => id

theorem trades_balance (order : PlannedOrder) : Trades (accountBalanceAllowancePreflight runtime client order) := by
  refine .bind (.bind (.ofExcept _) fun _ => .bind (.ofExcept _) fun _ => ?_) fun _ => .ofExcept _
  exact .bind trades_mutation fun _ => .bind .require fun _ => .bind (trades_call client _) fun _ => .ofExcept _

theorem balance_spec {P : View → Prop} (order : PlannedOrder) :
    Triple (fun s => P s.view) (accountBalanceAllowancePreflight runtime client order) (fun _ s => P s.view)
      (fun s => P s.view) := keeps_bind (reads_spec _ _) (fun _ => id) fun _ => keeps_ofExcept _

theorem withTrader_spec (plan : Plan) (order : PlannedOrder) (funderAddress : Text) :
    Triple (Fresh audit) (withTrader runtime client writer plan order funderAddress) (Delivered runtime audit)
      (Closed runtime audit) := by
  refine Triple.caught _ _ (fresh_reads (trades_account funderAddress) fun P => account_spec funderAddress)
    (fun address => ?_) fun e => Triple.pure fun _ fresh => block_delivered fresh.closed
  refine Triple.caught _ _ (fresh_reads (trades_balance order) fun P => balance_spec order) (fun covered => ?_)
    fun e => Triple.pure fun _ fresh => block_delivered fresh.closed
  cases covered with
  | false => exact Triple.pure fun _ fresh => block_delivered fresh.closed
  | true => exact placeAndCancel_spec plan order address

end Stages

section Run

variable {runtime : Runtime} {surroundings : Surroundings} {request : LiveOrderCancelRequest}

/-- The limits of an audit are those of its request. -/
structure Allowed (runtime : Runtime) (request : LiveOrderCancelRequest) (audit : BoundedAudit) : Prop where
  tokenId : audit.tokenId ∈ allowList request
  maxSize : positiveFloat runtime request.maxSize "max size" "Max size" = .ok (.ok audit.maxSize)
  maxNotional : positiveFloat runtime request.maxNotional "max notional" "Max notional" = .ok (.ok audit.maxNotional)

/-- A run ends before there is a trader, or as a closed audit within the limits of its request. -/
def Ended (runtime : Runtime) (request : LiveOrderCancelRequest) (s : Session RecoveryRecord) : Prop :=
  s = { bounded := none } ∨ ∃ audit, Allowed runtime request audit ∧ Closed runtime audit s

def Concluded (runtime : Runtime) (request : LiveOrderCancelRequest) (plan : Plan) (s : Session RecoveryRecord) :
    Prop :=
  Ended runtime request s ∧
    (plan.status = .ok → ∃ record, lastWritten s.events = some record ∧ record.resolved = true)

theorem when_eq_nil {condition : Bool} {message : Text} (silent : when condition message = []) : condition = false := by
  cases condition with
  | false => rfl
  | true => cases silent

theorem planStatus_ready {blockers : List Text} (ready : planStatus request blockers = .readyToExecute) :
    blockers = [] := by
  unfold planStatus at ready
  split at ready
  · cases ready
  · exact not_not.mp ‹_›

theorem allowListBlockers_silent {tokenId : Text} (given : tokenId ≠ [])
    (silent : allowListBlockers request tokenId = []) : tokenId ∈ allowList request := by
  unfold allowListBlockers at silent
  split at silent
  · cases silent
  · by_contra outside
    exact absurd (when_eq_nil silent) (by simp [given, outside])

/-- A plan that may be executed names an allowed token and the limits of its request. -/
theorem ready_plan {plan : Plan} (built : buildLiveOrderCancelPlan runtime request = .ok plan)
    (ready : plan.status = .readyToExecute) :
    plan.tokenId ∈ allowList request ∧
    (∀ cap, plan.maxSize = some cap → positiveFloat runtime request.maxSize "max size" "Max size" = .ok (.ok cap)) ∧
    ∀ cap, plan.maxNotional = some cap →
      positiveFloat runtime request.maxNotional "max notional" "Max notional" = .ok (.ok cap) := by
  obtain ⟨read, reads, rfl⟩ := Result.map_eq_ok.mp built
  obtain ⟨price, _, reads⟩ := Result.bind_eq_ok.mp reads
  obtain ⟨size, _, reads⟩ := Result.bind_eq_ok.mp reads
  obtain ⟨maxSize, sizeRead, reads⟩ := Result.bind_eq_ok.mp reads
  obtain ⟨maxNotional, notionalRead, reads⟩ := Result.bind_eq_ok.mp reads
  obtain ⟨buffer, _, reads⟩ := Result.bind_eq_ok.mp reads
  cases reads
  refine ⟨?_, fun cap found => ?_, fun cap found => ?_⟩
  · obtain ⟨checked, _⟩ := List.append_eq_nil_iff.mp (planStatus_ready ready)
    obtain ⟨checked, allowed⟩ := List.append_eq_nil_iff.mp checked
    obtain ⟨checked, _⟩ := List.append_eq_nil_iff.mp checked
    obtain ⟨_, order⟩ := List.append_eq_nil_iff.mp checked
    refine allowListBlockers_silent (fun missing => ?_) allowed
    simp only [orderBlockers, List.append_eq_nil_iff] at order
    exact of_decide_eq_false (when_eq_nil order.1.1.1) missing
  · exact sizeRead.trans (congrArg _ (Result.toOption_eq_some found))
  · exact notionalRead.trans (congrArg _ (Result.toOption_eq_some found))

theorem boundedAudit_limits {tokenId : Text} {maxSize maxNotional : ℚ} {audit : BoundedAudit}
    (made : boundedAudit runtime tokenId (.finite maxSize) (.finite maxNotional) false = .ok audit) :
    audit.tokenId = tokenId ∧ audit.maxSize = maxSize ∧ audit.maxNotional = maxNotional := by
  obtain ⟨token, canonical, made⟩ := Result.bind_eq_ok.mp made
  obtain ⟨size, positive, made⟩ := Result.bind_eq_ok.mp made
  obtain ⟨notional, some_, made⟩ := Result.bind_eq_ok.mp made
  have exact_ : ∀ {value read : ℚ} {label : String}, positiveFinite (.finite value) label = .ok read → read = value := by
    intro value read label parsed
    simp only [positiveFinite] at parsed
    split at parsed <;> cases parsed
    rfl
  split at made
  · split at made
    · cases made
      exact ⟨canonicalIdentifier_eq canonical, exact_ positive, exact_ some_⟩
    · cases made
  · cases made

theorem forBoundedAudit_spec {plan : Plan} {order : PlannedOrder} (planned : plan.planned = .ok order)
    (built : buildLiveOrderCancelPlan runtime request = .ok plan) (ready : plan.status = .readyToExecute) :
    Triple (fun s => s = { bounded := none }) (forBoundedAudit runtime surroundings.connect order)
      (fun _ s => ∃ audit, Allowed runtime request audit ∧ Fresh audit s) (fun s => s = { bounded := none }) := by
  obtain ⟨token, size, notional⟩ := ready_plan built ready
  refine Triple.value (fun _ => id) fun audit made => Triple.value (fun _ => id) fun _ _ => Triple.modify ?_
  rintro _ rfl
  unfold Plan.planned at planned
  split at planned
  · rename_i sizeCap notionalCap buffer _ _ _ sizeFound notionalFound _
    cases planned
    obtain ⟨tokenId, maxSize, maxNotional⟩ := boundedAudit_limits made
    refine ⟨audit, ⟨tokenId ▸ token, maxSize ▸ size _ ?_, maxNotional ▸ notional _ ?_⟩, rfl, rfl, rfl, rfl⟩
    · assumption
    · assumption
  · cases planned

theorem Ended.concluded {plan : Plan} {s : Session RecoveryRecord} (ended : Ended runtime request s)
    (other : plan.status ≠ .ok) : Concluded runtime request plan s := ⟨ended, fun claimed => absurd claimed other⟩

theorem withBook_spec {plan : Plan} {writer : Writer} (built : buildLiveOrderCancelPlan runtime request = .ok plan)
    (ready : plan.status = .readyToExecute) :
    Triple (fun s => s = { bounded := none }) (withBook runtime surroundings request plan writer)
      (Concluded runtime request) (Ended runtime request) := by
  have ended : ∀ s : Session RecoveryRecord, s = { bounded := none } → Ended runtime request s := fun _ => Or.inl
  refine Triple.value ended fun book _ => Triple.value ended fun best _ => Triple.value ended fun order planned => ?_
  split
  · exact Triple.pure fun s start => (ended s start).concluded fun claimed => by cases claimed
  · refine Triple.bind _ ((forBoundedAudit_spec planned built ready).weaken (fun _ => id) (fun _ _ => id) ended)
      fun _ => ?_
    rintro s ⟨audit, allowed, fresh⟩
    refine (withTrader_spec _ order request.funderAddress).weaken (fun _ => id) ?_ ?_ s fresh
    · exact fun _ _ delivered => ⟨.inr ⟨audit, allowed, delivered.closed⟩, delivered.earned⟩
    · exact fun _ closed => .inr ⟨audit, allowed, closed⟩

theorem run_spec : Triple (fun s => s = { bounded := none }) (runLiveOrderCancelVerification runtime surroundings request)
    (Concluded runtime request) (Ended runtime request) := by
  have ended : ∀ s : Session RecoveryRecord, s = { bounded := none } → Ended runtime request s := fun _ => Or.inl
  refine Triple.value ended fun plan built => ?_
  split
  · rename_i ready
    cases surroundings.writer with
    | none => exact Triple.pure fun s start => (ended s start).concluded fun claimed => by cases claimed
    | some writer =>
      cases blocked : geoblockBlocker surroundings.geoblock with
      | some message => exact Triple.pure fun s start => (ended s start).concluded fun claimed => by cases claimed
      | none => exact withBook_spec built ready
  · rename_i idle
    refine Triple.pure fun s start => (ended s start).concluded fun claimed => ?_
    -- A plan that was only built has never claimed success.
    obtain ⟨read, _, rfl⟩ := Result.map_eq_ok.mp built
    change planStatus request _ = .ok at claimed
    unfold planStatus at claimed
    split at claimed
    · cases claimed
    · split at claimed <;> cases claimed

/-- A funded audit posts and cancels at most one order, within its limits, after a pending record; it reports
success only over a resolved record, which stands for an order seen cancelled and unfilled. A trader made for
an audit keeps to that order whatever is called. -/
theorem funded_audit_one_shot (runtime : Runtime) (surroundings : Surroundings) (request : LiveOrderCancelRequest) :
    let run := runLiveOrderCancelVerification runtime surroundings request { bounded := none }
    (mutations run.2.events = [] ∨ ∃ audit, Allowed runtime request audit ∧ OneShot runtime audit run.2.view) ∧
    (∀ newer call reply older, run.2.events = newer ++ .client call reply :: older → call.mutates = true →
      Pending older) ∧
    (∀ record, lastWritten run.2.events = some record → record.resolved = true →
      Proven runtime run.2.events record.orderId) ∧
    (∀ plan, run.1 = .ok plan → plan.status = .ok →
      ∃ record, lastWritten run.2.events = some record ∧ record.resolved = true) ∧
    ∀ (ρ : Type) (audit : BoundedAudit) (client : Client ρ) (methods : List Method),
      OneShot runtime audit (methods.foldl (Session.invoke runtime client) { bounded := some audit }).view := by
  intro run
  have ended : Ended runtime request run.2 := run_spec.final (fun _ _ concluded => concluded.1) (fun _ => id) rfl
  refine ⟨?_, ?_, ?_, ?_, fun ρ audit client methods => oneShot_run (OneShot.start audit) methods⟩
  · obtain start | ⟨audit, allowed, closed⟩ := ended
    · exact .inl (by rw [start]; rfl)
    · exact .inr ⟨audit, allowed, closed.oneShot⟩
  · intro newer call reply older history mutates
    obtain start | ⟨audit, allowed, closed⟩ := ended
    · rw [start] at history
      cases newer <;> cases history
    · exact Guarded.before mutates newer (history ▸ closed.guarded)
  · intro record last resolved
    obtain start | ⟨audit, allowed, closed⟩ := ended
    · rw [start] at last
      cases last
    · exact closed.supported record last resolved
  · exact fun plan done claimed => (run_spec.result rfl done).2 claimed

end Run

end MarketSentinel.Live
