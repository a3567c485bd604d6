import Mathlib.Data.List.Infix
import Mathlib.Logic.Relation
import MarketSentinel.Oncall.Protocol

/-! What every run of the bridge keeps.

A row remembers which events of the history brought it to its state. Receipts
are read from acknowledged rows, which no step changes again.
-/

set_option autoImplicit false

namespace MarketSentinel.Oncall

open Python

section Statements

/-- The only ways a row changes. -/
inductive Delivery.Next : Delivery → Delivery → Prop where
  | same (row : Delivery) : Next row row
  | dispatched (row : Delivery) (at_ : Stamp) (channel : Text) (pending : row.state = .pending) :
    Next row { row with state := .dispatched, dispatchedAt := some at_, channelSha256 := some channel }
  | acknowledged (row : Delivery) (at_ : Stamp) (who : Text) (dispatched : row.state = .dispatched) :
    Next row { row with state := .acknowledged, acknowledgedAt := some at_, acknowledgerSha256 := some who }

/-- What must have happened before an event, given the older events. -/
def Justified (older : List Event) : Event → Prop
  | .mailed record => Event.dispatched record.bindingSha256 ∉ older
  | .emitted binding receipt =>
    receipt.record.bindingSha256 = binding ∧ ∃ dispatched acknowledged, receipt.dispatchedAt = some dispatched ∧
      receipt.acknowledgedAt = some acknowledged ∧ dispatched < acknowledged ∧
      [.acknowledged binding receipt.record.deliveryId acknowledged, .accepted receipt.record dispatched].Sublist older
  | _ => True

end Statements

section Invariant

/-- The history of a row's state. -/
def Accounted (s : System) (binding : Text) (row : Delivery) : Prop :=
  row.record.bindingSha256 = binding ∧ row.eventSha256 = row.record.webhookEventSha256 ∧
    row.receivedAt ≤ stamp s.latestNs ∧
    match row.state with
    | .pending => True
    | .dispatched => ∃ dispatched, row.dispatchedAt = some dispatched ∧
      Event.accepted row.record dispatched ∈ s.history ∧ (s.orderly = true → row.receivedAt ≤ dispatched)
    | .acknowledged => ∃ dispatched acknowledged, row.dispatchedAt = some dispatched ∧
      row.acknowledgedAt = some acknowledged ∧ dispatched < acknowledged ∧
      [.acknowledged binding row.record.deliveryId acknowledged, .accepted row.record dispatched].Sublist s.history ∧
      (s.orderly = true → row.receivedAt ≤ dispatched)

/-- What the position of the request in progress relies on. -/
def Placed (s : System) : Position → Prop
  | .idle => True
  | .inserting _ received => received ≤ stamp s.latestNs
  | .dispatching record | .sending record =>
    ∃ row, s.db.delivery? record.bindingSha256 = some row ∧ row.record = record ∧ row.state = .pending
  | .updating record dispatched =>
    ∃ row, s.db.delivery? record.bindingSha256 = some row ∧ row.record = record ∧ row.state = .pending ∧
      Event.accepted record dispatched ∈ s.history ∧ (s.orderly = true → row.receivedAt ≤ dispatched)
  | .acknowledging binding deliveryId acknowledged =>
    ∃ row dispatched, s.db.delivery? binding = some row ∧ row.record.deliveryId = deliveryId ∧
      row.state = .dispatched ∧ row.dispatchedAt = some dispatched ∧ dispatched < acknowledged

structure Inv (s : System) : Prop where
  rows : ∀ binding row, s.db.delivery? binding = some row → Accounted s binding row
  placed : ∀ process, s.process = some process → Placed s process.position
  clock : ∀ process, s.process = some process → s.orderly = true →
    s.latestNs ≤ max process.lastUtcTimestampNs s.timeNs
  justified : ∀ event older, (event :: older) <:+ s.history → Justified older event
  settled : ∀ binding, Event.dispatched binding ∈ s.history →
    ∃ row, s.db.delivery? binding = some row ∧ row.state ≠ .pending
  emitted : ∀ binding receipt, Event.emitted binding receipt ∈ s.history →
    ∃ row, s.db.delivery? binding = some row ∧ row.state = .acknowledged ∧ row.receipt = receipt ∧ sha256Hex binding

/-- The records of time and events only grow. -/
structure Grows (s t : System) : Prop where
  history : s.history <:+ t.history
  latest : s.latestNs ≤ t.latestNs
  orderly : t.orderly = true → s.orderly = true

variable {s t : System} {process : Process} {binding : Text} {row : Delivery}

theorem Accounted.grows (accounted : Accounted s binding row) (grows : Grows s t) : Accounted t binding row := by
  obtain ⟨bound, event, received, past⟩ := accounted
  refine ⟨bound, event, received.trans (Nat.div_le_div_right grows.latest), ?_⟩
  revert past
  cases row.state with
  | pending => exact id
  | dispatched =>
    rintro ⟨dispatched, column, happened, ordered⟩
    exact ⟨dispatched, column, grows.history.subset happened, fun orderly => ordered (grows.orderly orderly)⟩
  | acknowledged =>
    rintro ⟨dispatched, acknowledged, column, last, before, happened, ordered⟩
    exact ⟨dispatched, acknowledged, column, last, before, happened.trans grows.history.sublist,
      fun orderly => ordered (grows.orderly orderly)⟩

theorem justified_cons {history : List Event} {event : Event}
    (old : ∀ event older, (event :: older) <:+ history → Justified older event)
    (new : Justified history event) :
    ∀ other older, (other :: older) <:+ event :: history → Justified older other := by
  intro other older suffix
  rcases List.suffix_cons_iff.mp suffix with whole | part
  · cases whole
    exact new
  · exact old other older part

/-- A step that touches no row and adds no event. -/
theorem Inv.quiet (inv : Inv s) (db : t.db = s.db) (history : t.history = s.history)
    (latest : s.latestNs ≤ t.latestNs) (orderly : t.orderly = true → s.orderly = true)
    (placed : ∀ process, t.process = some process → Placed t process.position)
    (clock : ∀ process, t.process = some process → t.orderly = true →
      t.latestNs ≤ max process.lastUtcTimestampNs t.timeNs) : Inv t where
  rows binding row found :=
    (inv.rows binding row (db ▸ found)).grows ⟨history ▸ List.suffix_refl _, latest, orderly⟩
  placed := placed
  clock := clock
  justified := history ▸ inv.justified
  settled := by rw [history, db]; exact inv.settled
  emitted := by rw [history, db]; exact inv.emitted

/-- A new event that needs no row to change. -/
theorem Inv.logs (inv : Inv s) {event : Event} (justified : Justified s.history event)
    (placed : ∀ process, s.process = some process → Placed (s.logs event) process.position)
    (settled : ∀ binding, event = .dispatched binding →
      ∃ row, s.db.delivery? binding = some row ∧ row.state ≠ .pending)
    (emitted : ∀ binding receipt, event = .emitted binding receipt →
      ∃ row, s.db.delivery? binding = some row ∧ row.state = .acknowledged ∧ row.receipt = receipt ∧
        sha256Hex binding) :
    Inv (s.logs event) where
  rows binding row found := (inv.rows binding row found).grows ⟨List.suffix_cons _ _, Nat.le_refl _, id⟩
  placed := placed
  clock := inv.clock
  justified := justified_cons inv.justified justified
  settled binding member := by
    rcases List.mem_cons.mp member with same | old
    · exact settled binding same.symm
    · exact inv.settled binding old
  emitted binding receipt member := by
    rcases List.mem_cons.mp member with same | old
    · exact emitted binding receipt same.symm
    · exact inv.emitted binding receipt old

/-- The timestamp given out next is not before any earlier one. -/
theorem Inv.latest_le_now (inv : Inv s) (running : s.process = some process) (orderly : s.orderly = true) :
    s.latestNs ≤ s.now process := by
  have reached := inv.clock process running orderly
  unfold System.now utcNow
  omega

theorem Inv.goesTo (inv : Inv s) (running : s.process = some process) {position : Position}
    (placed : Placed s position) : Inv (s.goesTo process position) :=
  inv.quiet rfl rfl (Nat.le_refl _) id
    (fun other same => by cases same; exact placed)
    (fun other same => by cases same; exact inv.clock process running)

theorem Inv.stamped (inv : Inv s) (running : s.process = some process) {position : Position}
    (placed : Placed (s.stamped process position) position) : Inv (s.stamped process position) :=
  inv.quiet rfl rfl (Nat.le_max_left _ _) id
    (fun other same => by cases same; exact placed)
    (fun other same orderly => by
      cases same
      have reached := inv.latest_le_now running orderly
      change max s.latestNs (s.now process) ≤ max (s.now process) s.timeNs
      omega)

theorem Delivery.Next.final {next : Delivery} (moves : Delivery.Next row next) (last : row.state = .acknowledged) :
    next = row := by
  cases moves with
  | same => rfl
  | dispatched _ _ pending => rw [last] at pending; cases pending
  | acknowledged _ _ dispatched => rw [last] at dispatched; cases dispatched

theorem Delivery.Next.settled {next : Delivery} (moves : Delivery.Next row next) (past : row.state ≠ .pending) :
    next.state ≠ .pending := by
  cases moves with
  | same => exact past
  | dispatched => exact DeliveryState.noConfusion
  | acknowledged => exact DeliveryState.noConfusion

/-- A commit that changes one row and logs it; the request is over. -/
theorem Inv.updates (inv : Inv s) (running : s.process = some process) {db : Database} {event : Event}
    {next : Delivery} (found : s.db.delivery? binding = some row) (moves : Delivery.Next row next)
    (changed : ∀ other, db.delivery? other = if binding = other then some next else s.db.delivery? other)
    (accounted : Accounted ({ s with db }.logs event) binding next)
    (justified : Justified s.history event) (silent : ∀ binding receipt, event ≠ .emitted binding receipt)
    (settled : ∀ other, event = .dispatched other → other = binding ∧ next.state ≠ .pending) :
    Inv (({ s with db }.logs event).goesTo process .idle) where
  rows other row' found' := by
    have grows : Grows s (({ s with db }.logs event).goesTo process .idle) :=
      ⟨List.suffix_cons _ _, Nat.le_refl _, id⟩
    change db.delivery? other = some row' at found'
    rw [changed] at found'
    split at found'
    · rename_i same
      cases found'
      exact same ▸ accounted
    · exact (inv.rows other row' found').grows grows
  placed other same := by cases same; trivial
  clock other same := by cases same; exact inv.clock process running
  justified := justified_cons inv.justified justified
  settled other member := by
    change ∃ row, db.delivery? other = some row ∧ _
    rw [changed]
    rcases List.mem_cons.mp member with same | old
    · obtain ⟨rfl, past⟩ := settled other same.symm
      exact ⟨next, if_pos rfl, past⟩
    · obtain ⟨row', found', past⟩ := inv.settled other old
      split
      · rename_i same
        subst same
        cases found.symm.trans found'
        exact ⟨next, rfl, moves.settled past⟩
      · exact ⟨row', found', past⟩
  emitted other receipt member := by
    change ∃ row, db.delivery? other = some row ∧ _
    rw [changed]
    rcases List.mem_cons.mp member with same | old
    · exact absurd same.symm (silent other receipt)
    · obtain ⟨row', found', last, shown, format⟩ := inv.emitted other receipt old
      split
      · rename_i same
        subst same
        cases found.symm.trans found'
        exact ⟨next, rfl, moves.final last ▸ ⟨last, shown, format⟩⟩
      · exact ⟨row', found', last, shown, format⟩

end Invariant

section Steps

variable {runtime : Runtime} {s : System} {process : Process}

theorem parsed_position {raw : List UInt8} {deliveryId : Text} {received : Stamp} (inv : Inv s) :
    match s.webhookPosition runtime raw deliveryId received with
    | .idle => True
    | .inserting _ at_ => at_ = received
    | .dispatching record =>
      ∃ row, s.db.delivery? record.bindingSha256 = some row ∧ row.record = record ∧ row.state = .pending
    | _ => False := by
  unfold System.webhookPosition
  cases parsed : parseWebhook runtime raw received with
  | error message => trivial
  | ok identity =>
    have admitted : (Except.ok identity >>= fun identity => s.db.admitWebhook identity deliveryId) =
      s.db.admitWebhook identity deliveryId := rfl
    rw [admitted, Database.admitWebhook]
    cases found : s.db.delivery? identity.bindingSha256 with
    | none => rfl
    | some row =>
      dsimp only
      split_ifs with other
      · trivial
      · cases state : row.state with
        | pending =>
          have bound := (inv.rows _ row found).1
          exact ⟨row, bound ▸ found, rfl, state⟩
        | dispatched => trivial
        | acknowledged => trivial

theorem inv_acceptWebhook (inv : Inv s) (running : s.process = some process) (raw : List UInt8)
    (deliveryId : Text) : Inv (s.acceptWebhook runtime process raw deliveryId) := by
  unfold System.acceptWebhook
  split_ifs with size
  · exact inv
  · apply inv.stamped running
    have placed := @parsed_position runtime s raw deliveryId (stamp (s.now process)) inv
    revert placed
    cases s.webhookPosition runtime raw deliveryId (stamp (s.now process)) with
    | idle => exact id
    | inserting record received =>
      rintro rfl
      exact Nat.div_le_div_right (Nat.le_max_right _ _)
    | dispatching record => exact id
    | sending | updating | acknowledging => exact False.elim

theorem inv_acknowledge (inv : Inv s) (running : s.process = some process) (binding deliveryId : Text) :
    Inv (s.acknowledge process binding deliveryId) := by
  unfold System.acknowledge
  split
  · rename_i dispatched ready
    apply inv.stamped running
    split_ifs with early
    · trivial
    · unfold Database.acknowledgeable at ready
      split at ready
      · cases ready
      · split at ready
        · cases ready
        · rename_i row found
          split at ready
          · cases ready
          · rename_i same
            split at ready
            · cases ready
            · rename_i state column
              cases ready
              exact ⟨row, dispatched, found, not_not.mp same, state, column, Nat.lt_of_not_le early⟩
            · cases ready
  · exact inv

theorem inv_readReceipt (inv : Inv s) (running : s.process = some process) (idle : process.position = .idle)
    (binding : Text) : Inv (s.readReceipt binding) := by
  unfold System.readReceipt
  split
  · rename_i receipt shown
    unfold Database.receipt at shown
    split at shown
    · cases shown
    · rename_i format
      split at shown
      · rename_i row found
        split_ifs at shown with last
        · cases shown
          have accounted := inv.rows binding row found
          obtain ⟨bound, _, _, past⟩ := accounted
          rw [last] at past
          obtain ⟨dispatched, acknowledged, column, final, before, happened, _⟩ := past
          refine inv.logs ⟨bound, dispatched, acknowledged, column, final, before, happened⟩ ?_ ?_ ?_
          · intro other same
            cases running.symm.trans same
            rw [idle]
            trivial
          · intro other wrong
            cases wrong
          · intro other receipt same
            cases same
            exact ⟨row, found, last, rfl, by simpa using format⟩
        · cases shown
      · cases shown
  · exact inv

theorem inv_insert (inv : Inv s) (running : s.process = some process) {record : Record} {received : Stamp}
    (past : received ≤ stamp s.latestNs) {db : Database} (inserted : s.db.insertPending record received = some db) :
    Inv ({ s with db }.goesTo process (.dispatching record)) := by
  obtain ⟨free, changed⟩ := delivery?_insertPending inserted
  have kept : ∀ {binding row}, s.db.delivery? binding = some row → db.delivery? binding = some row := by
    intro binding row found
    rw [changed, if_neg, found]
    rintro rfl
    cases free.symm.trans found
  refine ⟨fun binding row found => ?_, fun other same => ?_, fun other same => ?_, inv.justified,
    fun binding member => ?_, fun binding receipt member => ?_⟩
  · change db.delivery? binding = some row at found
    rw [changed] at found
    split_ifs at found with same
    · cases found
      exact ⟨same, rfl, past, trivial⟩
    · exact inv.rows binding row found
  · cases same
    exact ⟨_, (changed _).trans (if_pos rfl), rfl, rfl⟩
  · cases same
    exact inv.clock process running
  · obtain ⟨row, found, state⟩ := inv.settled binding member
    exact ⟨row, kept found, state⟩
  · obtain ⟨row, found, state, shown⟩ := inv.emitted binding receipt member
    exact ⟨row, kept found, state, shown⟩

theorem inv_commit (inv : Inv s) (running : s.process = some process) : Inv (s.commit runtime process) := by
  have placed := inv.placed process running
  unfold System.commit
  cases position : process.position with
  | idle | dispatching | sending => exact inv
  | inserting record received =>
    rw [position] at placed
    dsimp only
    cases inserted : s.db.insertPending record received with
    | none => exact inv.goesTo running trivial
    | some db => exact inv_insert inv running placed inserted
  | updating record dispatched =>
    rw [position] at placed
    obtain ⟨row, found, same, pending, happened, ordered⟩ := placed
    obtain ⟨bound, event, received, _⟩ := inv.rows _ row found
    refine inv.updates running found (.dispatched row dispatched _ pending)
      (fun other => delivery?_advance found pending) ⟨bound, event, received, dispatched, rfl, ?_, ordered⟩
      trivial (fun _ _ => Event.noConfusion) ?_
    · rw [show row.record = record from same]
      exact List.mem_cons_of_mem _ happened
    · intro other this
      cases this
      exact ⟨rfl, DeliveryState.noConfusion⟩
  | acknowledging binding deliveryId acknowledged =>
    rw [position] at placed
    obtain ⟨row, dispatched, found, same, state, column, before⟩ := placed
    obtain ⟨bound, event, received, past⟩ := inv.rows _ row found
    rw [state] at past
    obtain ⟨dispatched', column', happened, ordered⟩ := past
    cases column.symm.trans column'
    refine inv.updates running found (.acknowledged row acknowledged _ state)
      (fun other => delivery?_advance found state)
      ⟨bound, event, received, dispatched, acknowledged, column, rfl, before, ?_, ordered⟩
      trivial (fun _ _ => Event.noConfusion) (fun _ => Event.noConfusion)
    rw [← same]
    exact (List.singleton_sublist.mpr happened).cons_cons _

theorem inv_act (inv : Inv s) (running : s.process = some process) (action : Action) :
    Inv (s.act runtime process action) := by
  have placed := inv.placed process running
  cases action with
  | time | boot | crash => exact inv
  | webhook raw deliveryId =>
    unfold System.act
    split_ifs
    · exact inv_acceptWebhook inv running raw deliveryId
    · exact inv
  | acknowledge binding deliveryId =>
    unfold System.act
    split_ifs
    · exact inv_acknowledge inv running binding deliveryId
    · exact inv
  | receipt binding =>
    unfold System.act
    split_ifs with idle
    · exact inv_readReceipt inv running idle binding
    · exact inv
  | commit => exact inv_commit inv running
  | rollback =>
    cases position : process.position with
    | inserting | updating | acknowledging =>
      simp only [System.act, position]
      exact inv.goesTo running trivial
    | idle | dispatching | sending =>
      simp only [System.act, position]
      exact inv
  | raised =>
    cases position : process.position with
    | sending =>
      simp only [System.act, position]
      exact inv.goesTo running trivial
    | idle | inserting | dispatching | updating | acknowledging =>
      simp only [System.act, position]
      exact inv
  | dispatch =>
    cases position : process.position with
    | dispatching record =>
      simp only [System.act, position]
      rw [position] at placed
      obtain ⟨row, found, same, pending⟩ := placed
      have first : Event.dispatched record.bindingSha256 ∉ s.history := by
        intro member
        obtain ⟨row', found', past⟩ := inv.settled _ member
        cases found.symm.trans found'
        exact past pending
      have logged : Inv (s.logs (.mailed record)) := by
        refine inv.logs first ?_ (fun _ => Event.noConfusion) (fun _ _ => Event.noConfusion)
        intro other running'
        cases running.symm.trans running'
        rw [position]
        exact ⟨row, found, same, pending⟩
      exact logged.goesTo running ⟨row, found, same, pending⟩
    | idle | inserting | sending | updating | acknowledging =>
      simp only [System.act, position]
      exact inv
  | returned =>
    cases position : process.position with
    | sending record =>
      simp only [System.act, position]
      rw [position] at placed
      obtain ⟨row, found, same, pending⟩ := placed
      have logged : Inv (s.logs (.accepted record (stamp (s.now process)))) := by
        refine inv.logs trivial ?_ (fun _ => Event.noConfusion) (fun _ _ => Event.noConfusion)
        intro other running'
        cases running.symm.trans running'
        rw [position]
        exact ⟨row, found, same, pending⟩
      refine logged.stamped running ⟨row, found, same, pending, List.mem_cons_self, fun orderly => ?_⟩
      exact (inv.rows _ row found).2.2.1.trans (Nat.div_le_div_right (inv.latest_le_now running orderly))
    | idle | inserting | dispatching | updating | acknowledging =>
      simp only [System.act, position]
      exact inv

theorem inv_step (inv : Inv s) (action : Action) : Inv (s.step runtime action) := by
  cases action with
  | time reading =>
    refine inv.quiet rfl rfl (Nat.le_refl _) id inv.placed fun process running orderly => ?_
    have reached := inv.clock process running orderly
    change s.latestNs ≤ max process.lastUtcTimestampNs (max s.timeNs reading)
    omega
  | crash => exact inv.quiet rfl rfl (Nat.le_refl _) id (fun _ stopped => by cases stopped) (fun _ stopped => by cases stopped)
  | boot config =>
    cases running : s.process with
    | some process =>
      simp only [System.step, running]
      exact inv
    | none =>
      simp only [System.step, running]
      refine inv.quiet rfl rfl (Nat.le_refl _) (fun orderly => (Bool.and_eq_true_iff.mp orderly).1) ?_ ?_
      · intro process same
        cases same
        trivial
      · intro process same orderly
        have reached := of_decide_eq_true (Bool.and_eq_true_iff.mp orderly).2
        exact reached.trans (Nat.le_max_right _ _)
  | webhook | dispatch | returned | raised | commit | rollback | acknowledge | receipt =>
    simp only [System.step]
    split
    · exact inv
    · rename_i running
      exact inv_act inv running _

theorem inv_initial : Inv {} where
  rows _ _ found := by cases found
  placed _ running := by cases running
  clock _ running := by cases running
  justified _ _ suffix := by simp at suffix
  settled _ member := by cases member
  emitted _ _ member := by cases member

theorem inv_run (inv : Inv s) (actions : List Action) : Inv (s.run runtime actions) := by
  induction actions generalizing s with
  | nil => exact inv
  | cons action rest ih => exact ih (inv_step inv action)

end Steps

section Moves

variable {runtime : Runtime} {s : System}

/-- A row appears as pending, keeps its place, and moves by `Delivery.Next` alone. -/
def RowMoves : Option Delivery → Option Delivery → Prop
  | none, none => True
  | none, some row => row.state = .pending
  | some row, some next => Delivery.Next row next
  | some _, none => False

theorem RowMoves.refl (row : Option Delivery) : RowMoves row row := by
  cases row with
  | none => trivial
  | some row => exact .same row

theorem moves_advance {db : Database} {binding : Text} {state : DeliveryState} {change : Delivery → Delivery}
    (moves : ∀ row, row.state = state → Delivery.Next row (change row)) (other : Text) :
    RowMoves (db.delivery? other) ((db.advance binding state change).delivery? other) := by
  cases found : db.delivery? binding with
  | none =>
    rw [show db.advance binding state change = db by simp only [Database.advance, found]]
    exact .refl _
  | some row =>
    by_cases here : row.state = state
    · rw [delivery?_advance found here]
      split
      · rename_i same
        rw [← same, found]
        exact moves row here
      · exact .refl _
    · rw [show db.advance binding state change = db by simp only [Database.advance, found, here, if_false]]
      exact .refl _

theorem moves_commit (process : Process) (binding : Text) :
    RowMoves (s.db.delivery? binding) ((s.commit runtime process).db.delivery? binding) := by
  unfold System.commit
  cases process.position with
  | idle | dispatching | sending => exact .refl _
  | inserting record received =>
    dsimp only
    cases inserted : s.db.insertPending record received with
    | none => exact .refl _
    | some db =>
      obtain ⟨free, changed⟩ := delivery?_insertPending inserted
      change RowMoves _ (db.delivery? binding)
      rw [changed]
      split
      · rename_i same
        rw [← same, free]
        rfl
      · exact .refl _
  | updating record dispatched => exact moves_advance (fun row pending => .dispatched row _ _ pending) binding
  | acknowledging _ _ acknowledged => exact moves_advance (fun row state => .acknowledged row _ _ state) binding

theorem act_db (process : Process) (action : Action) :
    (s.act runtime process action).db = s.db ∨ s.act runtime process action = s.commit runtime process := by
  cases action with
  | commit => exact Or.inr rfl
  | time | boot | crash => exact Or.inl rfl
  | webhook raw deliveryId =>
    left
    simp only [System.act, System.acceptWebhook]
    split_ifs <;> rfl
  | acknowledge binding deliveryId =>
    left
    simp only [System.act, System.acknowledge]
    split_ifs
    · split <;> rfl
    · rfl
  | receipt binding =>
    left
    simp only [System.act, System.readReceipt]
    split_ifs
    · split <;> rfl
    · rfl
  | dispatch | returned | raised | rollback =>
    left
    simp only [System.act]
    split <;> rfl

theorem moves_step (action : Action) (binding : Text) :
    RowMoves (s.db.delivery? binding) ((s.step runtime action).db.delivery? binding) := by
  have acts : ∀ process, RowMoves (s.db.delivery? binding) ((s.act runtime process action).db.delivery? binding) := by
    intro process
    rcases act_db process action with same | commits
    · rw [same]
      exact .refl _
    · rw [commits]
      exact moves_commit process binding
  cases action with
  | time | crash => exact .refl _
  | boot config =>
    simp only [System.step]
    split <;> exact .refl _
  | webhook | dispatch | returned | raised | commit | rollback | acknowledge | receipt =>
    simp only [System.step]
    split
    · exact .refl _
    · exact acts _

theorem Delivery.Next.kept {row next : Delivery} (moves : Delivery.Next row next) :
    next.record = row.record ∧ next.eventSha256 = row.eventSha256 := by
  cases moves <;> exact ⟨rfl, rfl⟩

/-- A row stays and moves on: the record and the event are the ones it was made with. -/
theorem row_run (actions : List Action) {binding : Text} {row : Delivery}
    (found : s.db.delivery? binding = some row) :
    ∃ last, (s.run runtime actions).db.delivery? binding = some last ∧ last.record = row.record ∧
      last.eventSha256 = row.eventSha256 ∧ Relation.ReflTransGen Delivery.Next row last := by
  induction actions generalizing s row with
  | nil => exact ⟨row, found, rfl, rfl, .refl⟩
  | cons action rest ih =>
    have moves := @moves_step runtime s action binding
    rw [found] at moves
    cases next : (s.step runtime action).db.delivery? binding with
    | none =>
      rw [next] at moves
      exact moves.elim
    | some row' =>
      rw [next] at moves
      obtain ⟨record, event⟩ := Delivery.Next.kept moves
      obtain ⟨last, reached, record', event', path⟩ := ih next
      exact ⟨last, reached, record'.trans record, event'.trans event, .head moves path⟩

/-- An acknowledged row is the same in every later state. -/
theorem acknowledged_run (actions : List Action) {binding : Text} {row : Delivery}
    (found : s.db.delivery? binding = some row) (last : row.state = .acknowledged) :
    (s.run runtime actions).db.delivery? binding = some row := by
  obtain ⟨final, reached, -, -, path⟩ := @row_run runtime s actions binding row found
  have same : final = row := by
    clear reached
    induction path with
    | refl => rfl
    | tail _ moves ih => exact (moves.final (ih ▸ last)).trans ih
  rw [reached, same]

end Moves

section Protocol

variable {runtime : Runtime} {s : System}

theorem receipt_stays (inv : Inv s) (later : List Action) {binding : Text} {receipt : Receipt}
    (emitted : Event.emitted binding receipt ∈ s.history) :
    (s.run runtime later).db.receipt binding = .ok (some receipt) := by
  obtain ⟨row, found, last, shown, format⟩ := inv.emitted binding receipt emitted
  unfold Database.receipt
  rw [acknowledged_run later found last]
  simp [format, last, shown]

theorem receipt_ordered (inv : Inv s) (orderly : s.orderly = true) {binding : Text} {receipt : Receipt}
    (emitted : Event.emitted binding receipt ∈ s.history) :
    ∃ dispatched, receipt.dispatchedAt = some dispatched ∧ receipt.receivedAt ≤ dispatched := by
  obtain ⟨row, found, last, rfl, _⟩ := inv.emitted binding receipt emitted
  obtain ⟨_, _, _, past⟩ := inv.rows binding row found
  rw [last] at past
  obtain ⟨dispatched, _, column, _, _, _, ordered⟩ := past
  exact ⟨dispatched, column, ordered orderly⟩

/-- A webhook for another event than the bound one only takes a timestamp. -/
theorem foreign_webhook {process : Process} (running : s.process = some process) (idle : process.position = .idle)
    {raw : List UInt8} {identity : Identity} {row : Delivery}
    (parsed : parseWebhook runtime raw (stamp (s.now process)) = .ok identity)
    (found : s.db.delivery? identity.bindingSha256 = some row)
    (foreign : row.eventSha256 ≠ identity.webhookEventSha256) (deliveryId : Text) :
    s.step runtime (.webhook raw deliveryId) = s ∨
      s.step runtime (.webhook raw deliveryId) = s.stamped process .idle := by
  have stays : s.webhookPosition runtime raw deliveryId (stamp (s.now process)) = .idle := by
    unfold System.webhookPosition
    simp [parsed, bind, Except.bind, Database.admitWebhook, found, foreign]
  simp only [System.step, running, System.act, idle, if_true, System.acceptWebhook, stays]
  split_ifs
  · exact Or.inl rfl
  · exact Or.inr rfl

/-- Over every run with crashes and restarts: a binding keeps its delivery identifier and its event, rows
only move forward, and a receipt follows the accepted mail and the acknowledgement it names and never
changes. After a committed dispatch no mail goes out for the binding. A receipt is dispatched at or after
it was received when every start finds the clock at or past the timestamps given before. -/
theorem oncall_receipt_protocol (runtime : Runtime) (actions later : List Action) :
    let s := System.run runtime {} actions
    let t := s.run runtime later
    (∀ action binding, RowMoves (s.db.delivery? binding) ((s.step runtime action).db.delivery? binding)) ∧
    (∀ binding row, s.db.delivery? binding = some row → ∃ last, t.db.delivery? binding = some last ∧
      last.record = row.record ∧ last.eventSha256 = row.eventSha256 ∧
      Relation.ReflTransGen Delivery.Next row last) ∧
    (∀ event older, (event :: older) <:+ s.history → Justified older event) ∧
    (∀ binding receipt, .emitted binding receipt ∈ s.history → t.db.receipt binding = .ok (some receipt)) ∧
    (s.orderly = true → ∀ binding receipt, .emitted binding receipt ∈ s.history →
      ∃ dispatched, receipt.dispatchedAt = some dispatched ∧ receipt.receivedAt ≤ dispatched) ∧
    (∀ process raw identity row, s.process = some process → process.position = .idle →
      parseWebhook runtime raw (stamp (s.now process)) = .ok identity →
      s.db.delivery? identity.bindingSha256 = some row → row.eventSha256 ≠ identity.webhookEventSha256 →
      ∀ deliveryId, s.step runtime (.webhook raw deliveryId) = s ∨
        s.step runtime (.webhook raw deliveryId) = s.stamped process .idle) := by
  have inv : Inv (System.run runtime {} actions) := inv_run inv_initial actions
  refine ⟨fun action binding => moves_step action binding, fun binding row found => row_run later found,
    inv.justified, fun binding receipt emitted => receipt_stays inv later emitted,
    fun orderly binding receipt emitted => receipt_ordered inv orderly emitted, ?_⟩
  intro process raw identity row running idle parsed found foreign deliveryId
  exact foreign_webhook running idle parsed found foreign deliveryId

end Protocol

section FrozenClock

private def bindingText : Text := text "abababababababababababababababababababababababababababababababab"

private def revisionText : Text := text "cdcdcdcdcdcdcdcdcdcdcdcdcdcdcdcdcdcdcdcd"

private def deploymentText : Text := text "efefefefefefefefefefefefefefefefefefefefefefefefefefefefefefefef"

private def labelsText : Text :=
  text "\x7b\"alertname\":\"MarketSentinelDeliveryAttestation_abababababababababababab\"," ++
    text "\"market_sentinel_attestation\":\"true\",\"market_sentinel_binding\":\"" ++ bindingText ++
    text "\",\"market_sentinel_deployment\":\"" ++ deploymentText ++
    text "\",\"market_sentinel_revision\":\"" ++ revisionText ++
    text "\",\"market_sentinel_run\":\"7.1\",\"severity\":\"none\"\x7d"

private def bodyText : Text :=
  text "\x7b\"receiver\":\"market-sentinel-oncall-attestation\",\"status\":\"firing\",\"version\":\"4\"," ++
    text "\"alerts\":[\x7b\"status\":\"firing\",\"labels\":" ++ labelsText ++
    text ",\"annotations\":\x7b\"attestation_binding\":\"" ++ bindingText ++
    text "\"\x7d,\"startsAt\":\"2026-01-01T00:00:00Z\",\"fingerprint\":\"0123456789abcdef\"\x7d]\x7d"

private def eventText : Text :=
  text "\x7b\"alert\":\x7b\"annotations\":\x7b\"attestation_binding\":\"" ++ bindingText ++
    text "\"\x7d,\"fingerprint\":\"0123456789abcdef\",\"labels\":" ++ labelsText ++
    text ",\"starts_at\":\"2026-01-01T00:00:00Z\",\"status\":\"firing\"\x7d," ++
    text "\"receiver\":\"market-sentinel-oncall-attestation\",\"status\":\"firing\",\"version\":\"4\"\x7d"

private def body : List UInt8 := bodyText.map fun c => UInt8.ofNat c.val

private def alertLabels : Dict Text Json :=
  expectedLabels bindingText revisionText deploymentText 7 1

private def notification : Json :=
  .obj [(text "receiver", .str defaultOncallReceiverName), (text "status", .str (text "firing")),
    (text "version", .str (text "4")),
    (text "alerts", .arr [.obj [(text "status", .str (text "firing")), (text "labels", .obj alertLabels),
      (text "annotations", .obj [(text "attestation_binding", .str bindingText)]),
      (text "startsAt", .str (text "2026-01-01T00:00:00Z")),
      (text "fingerprint", .str (text "0123456789abcdef"))]])]

/-- The runtime on one notification and on a lone brace. -/
private def oneNotification : Runtime where
  casing := asciiCasing
  strictJson raw := if raw = [123] then none else some notification
  dumps _ := eventText
  fromisoformat t := if t = text "2026-01-01T00:00:00+00:00" then some 1767225600000000 else none
  sha256Bytes _ := text "ffd206836acb0e531fa03a7a70f26b19ac5c7297681da40a27318b840f1130ea"
  sha256 t :=
    if t = eventText then text "9e69e5c03dc67876c253217d9fe708a165f44b03ad178439e8c9a9941d3ae19d"
    else if t = text "operator" then text "06e55b633481f7bb072957eabcf110c972e86691c3cfedabe088024bffe42f23"
    else text "83a40f79770738cef23bbb6ec2d66b2b99646d72a4bf057158ab898867396753"

private def config : BridgeConfig := ⟨text "operator", text "oncall@example.org"⟩

private def deliveryId : Text := text "0123456789abcdef0123456789abcdef"

/-- Two refused bodies, a crash before the first mail, and a restart while the clock stands still. -/
private def restarted : List Action :=
  [.time 1767225600000000000, .boot config, .webhook [123] deliveryId, .webhook [123] deliveryId,
    .webhook body deliveryId, .commit, .crash, .boot config, .webhook body deliveryId, .dispatch, .returned,
    .commit, .acknowledge bindingText deliveryId, .commit, .receipt bindingText]

/-- Whether an event is a receipt whose mail went out before it was received. -/
private def early : Event → Bool
  | .emitted _ receipt => receipt.dispatchedAt.any fun dispatched => decide (dispatched < receipt.receivedAt)
  | _ => false

/-- A restart forgets the last timestamp: with a clock that never goes back, a receipt can be dispatched
before it was received. -/
theorem receipt_dispatched_before_received :
    ¬∀ (runtime : Runtime) (actions : List Action) (binding : Text) (receipt : Receipt),
      .emitted binding receipt ∈ (System.run runtime {} actions).history →
        ∃ dispatched, receipt.dispatchedAt = some dispatched ∧ receipt.receivedAt ≤ dispatched := by
  intro ordered
  have found : (System.run oneNotification {} restarted).history.any early = true := by decide +kernel
  obtain ⟨event, member, late⟩ := List.any_eq_true.mp found
  cases event with
  | mailed | accepted | dispatched | acknowledged => cases late
  | emitted binding receipt =>
    obtain ⟨dispatched, column, before⟩ := ordered _ _ binding receipt member
    simp only [early, column, Option.any_some, decide_eq_true_eq] at late
    exact Nat.not_lt_of_le before late

end FrozenClock

end MarketSentinel.Oncall
