import MarketSentinel.Oncall.Bridge

/-! The bridge as a system: one process over one database.

A request stands between its effects, and a crash can meet it at any of them.
The history, newest event first, and the record of timestamps are kept for the
statements only.
-/

set_option autoImplicit false

namespace MarketSentinel.Oncall

open Python

section System

/-- Where the one request in progress stands. -/
inductive Position where
  | idle
  | inserting (record : Record) (received : Stamp)
  | dispatching (record : Record)
  | sending (record : Record)
  | updating (record : Record) (dispatched : Stamp)
  | acknowledging (binding deliveryId : Text) (acknowledged : Stamp)
  deriving DecidableEq

structure BridgeConfig where
  acknowledgerIdentity : Text
  smtpTo : Text
  deriving DecidableEq

structure Process where
  config : BridgeConfig
  lastUtcTimestampNs : Nat := 0
  position : Position := .idle
  deriving DecidableEq

inductive Event where
  | mailed (record : Record)
  | accepted (record : Record) (dispatched : Stamp)
  | dispatched (binding : Text)
  | acknowledged (binding deliveryId : Text) (acknowledged : Stamp)
  | emitted (binding : Text) (receipt : Receipt)
  deriving DecidableEq

/-- `orderly` while every start found the clock at or past the timestamps given before. -/
structure System where
  db : Database := {}
  process : Option Process := none
  timeNs : Nat := 0
  latestNs : Nat := 0
  orderly : Bool := true
  history : List Event := []
  deriving DecidableEq

inductive Action where
  | time (reading : Nat)
  | boot (config : BridgeConfig)
  | crash
  | webhook (raw : List UInt8) (deliveryId : Text)
  | dispatch
  | returned
  | raised
  | commit
  | rollback
  | acknowledge (binding deliveryId : Text)
  | receipt (binding : Text)

namespace System

variable (runtime : Runtime) (s : System) (process : Process)

def goesTo (position : Position) : System := { s with process := some { process with position } }

/-- The timestamp that the process gives out next. -/
def now : Nat := utcNow process.lastUtcTimestampNs s.timeNs

def stamped (position : Position) : System :=
  { s with
    process := some { process with lastUtcTimestampNs := s.now process, position }
    latestNs := max s.latestNs (s.now process) }

def logs (event : Event) : System := { s with history := event :: s.history }

def webhookPosition (raw : List UInt8) (deliveryId : Text) (received : Stamp) : Position :=
  match parseWebhook runtime raw received >>= fun identity => s.db.admitWebhook identity deliveryId with
  | .ok (.insert record) => .inserting record received
  | .ok (.dispatch record) => .dispatching record
  | .ok (.reply _ _) => .idle
  | .error _ => .idle

def acceptWebhook (raw : List UInt8) (deliveryId : Text) : System :=
  if raw = [] ∨ maxWebhookBodyBytes < raw.length then s
  else s.stamped process (s.webhookPosition runtime raw deliveryId (stamp (s.now process)))

def acknowledge (binding deliveryId : Text) : System :=
  match s.db.acknowledgeable binding deliveryId with
  | .ok (some dispatched) =>
    s.stamped process
      (if stamp (s.now process) ≤ dispatched then .idle
      else .acknowledging binding deliveryId (stamp (s.now process)))
  | _ => s

def readReceipt (binding : Text) : System :=
  match s.db.receipt binding with
  | .ok (some receipt) => s.logs (.emitted binding receipt)
  | _ => s

/-- The transaction in progress takes effect. -/
def commit : System :=
  match process.position with
  | .inserting record received =>
    match s.db.insertPending record received with
    | some db => { s with db }.goesTo process (.dispatching record)
    | none => s.goesTo process .idle
  | .updating record dispatched =>
    ({ s with
      db := s.db.markDispatched record.bindingSha256 (runtime.sha256 (runtime.casing.lower process.config.smtpTo))
        dispatched }.logs (.dispatched record.bindingSha256)).goesTo process .idle
  | .acknowledging binding deliveryId acknowledged =>
    ({ s with
      db := s.db.markAcknowledged binding (runtime.sha256 process.config.acknowledgerIdentity)
        acknowledged }.logs (.acknowledged binding deliveryId acknowledged)).goesTo process .idle
  | _ => s

/-- What the running process does; an action that does not fit its position does nothing. -/
def act : Action → System
  | .webhook raw deliveryId =>
    if process.position = .idle then s.acceptWebhook runtime process raw deliveryId else s
  | .dispatch =>
    match process.position with
    | .dispatching record => (s.logs (.mailed record)).goesTo process (.sending record)
    | _ => s
  | .returned =>
    match process.position with
    | .sending record =>
      (s.logs (.accepted record (stamp (s.now process)))).stamped process
        (.updating record (stamp (s.now process)))
    | _ => s
  | .raised =>
    match process.position with
    | .sending _ => s.goesTo process .idle
    | _ => s
  | .commit => s.commit runtime process
  | .rollback =>
    match process.position with
    | .inserting _ _ | .updating _ _ | .acknowledging _ _ _ => s.goesTo process .idle
    | _ => s
  | .acknowledge binding deliveryId =>
    if process.position = .idle then s.acknowledge process binding deliveryId else s
  | .receipt binding => if process.position = .idle then s.readReceipt binding else s
  | .time _ | .boot _ | .crash => s

/-- One step: the clock goes on, the process starts or stops, or it acts. -/
def step : Action → System
  | .time reading => { s with timeNs := max s.timeNs reading }
  | .crash => { s with process := none }
  | .boot config =>
    match s.process with
    | none => { s with process := some { config }, orderly := s.orderly && decide (s.latestNs ≤ s.timeNs) }
    | some _ => s
  | action =>
    match s.process with
    | none => s
    | some process => s.act runtime process action

def run (actions : List Action) : System := actions.foldl (fun s action => s.step runtime action) s

end System

end System

section Rows

variable {db : Database} {binding other : Text}

@[simp] theorem delivery?_audit (event : String) (occurredAt : Stamp) :
    (db.audit binding event occurredAt).delivery? other = db.delivery? other := rfl

theorem delivery?_insertPending {record : Record} {received : Stamp} {next : Database}
    (inserted : db.insertPending record received = some next) :
    db.delivery? record.bindingSha256 = none ∧
      ∀ binding, next.delivery? binding =
        if record.bindingSha256 = binding then
          some { eventSha256 := record.webhookEventSha256, bodySha256 := record.webhookBodySha256, record,
                 state := .pending, receivedAt := received }
        else db.delivery? binding := by
  unfold Database.insertPending at inserted
  split at inserted
  · rename_i free
    cases inserted
    exact ⟨free, fun binding => Dict.get?_set ..⟩
  · cases inserted

theorem delivery?_advance {row : Delivery} {state : DeliveryState} {change : Delivery → Delivery}
    (found : db.delivery? binding = some row) (here : row.state = state) :
    (db.advance binding state change).delivery? other =
      if binding = other then some (change row) else db.delivery? other := by
  unfold Database.advance
  rw [found]
  simp only [here, if_true]
  exact Dict.get?_set ..

end Rows

end MarketSentinel.Oncall
