import MarketSentinel.Library.Dict
import MarketSentinel.Library.Json
import MarketSentinel.Library.Result

/-! The on-call bridge's requests over its durable table.

A webhook binds one challenge to one event; mail goes out between two
transactions. Digests, JSON and timestamps of other systems are parameters;
the bridge's own timestamps are microseconds.
-/

set_option autoImplicit false

namespace MarketSentinel.Oncall

open Python

/-- Microseconds since the epoch, as `isoformat` writes and `fromisoformat` reads back. -/
abbrev Stamp := Nat

structure Runtime where
  casing : Casing
  /-- `json.loads` of UTF-8 bytes without duplicate keys and non-finite numbers. -/
  strictJson : List UInt8 → Option Json
  /-- `json.dumps` with sorted keys and no blanks. -/
  dumps : Json → Text
  /-- `datetime.fromisoformat`, in microseconds since the epoch. -/
  fromisoformat : Text → Option Int
  /-- `hashlib.sha256` of bytes and of a text in UTF-8. -/
  sha256Bytes : List UInt8 → Text
  sha256 : Text → Text

/-- `_LAST_UTC_TIMESTAMP_NS` after one more timestamp. -/
def utcNow (lastUtcTimestampNs timeNs : Nat) : Nat := max timeNs (lastUtcTimestampNs + 1000)

def stamp (nanoseconds : Nat) : Stamp := nanoseconds / 1000

section Formats

def isLowerHex (c : CodePoint) : Bool := (48 ≤ c.val && c.val ≤ 57) || (97 ≤ c.val && c.val ≤ 102)

def hexText (least greatest : Nat) (t : Text) : Bool :=
  t.all isLowerHex && decide (least ≤ t.length) && decide (t.length ≤ greatest)

def sha256Hex : Text → Bool := hexText 64 64
def commitSha : Text → Bool := hexText 40 40
def alertFingerprint : Text → Bool := hexText 16 64
def deliveryIdFormat : Text → Bool := hexText 32 32

def positiveDigits (t : Text) : Bool :=
  t.all isDigit && decide (t ≠ []) && decide (t.head? ≠ some 48)

/-- The two parts of a `RUN_PAIR`. -/
def runMatch (t : Text) : Option (Text × Text) :=
  match split 46 t with
  | [run, attempt] => if positiveDigits run && positiveDigits attempt then some (run, attempt) else none
  | _ => none

/-- `int` of ASCII digits; longer ones exceed the runtime's limit. -/
def intOfDigits (digits : Text) : Except Text Nat :=
  if 4300 < digits.length then .error (text "Exceeds the limit (4300 digits) for integer string conversion")
  else .ok (digitsValue digits)

end Formats

section Webhook

def defaultOncallReceiverName : Text := text "market-sentinel-oncall-attestation"
def maxWebhookBodyBytes : Nat := 256 * 1024
def maxAlertAge : Int := 600 * 1000000
def maxAlertLead : Int := 60 * 1000000

def alertName (binding : Text) : Text := text "MarketSentinelDeliveryAttestation_" ++ binding.take 24

def expectedLabels (binding sourceRevision deploymentIdentitySha256 : Text) (runId runAttempt : Nat) :
    Dict Text Json :=
  [(text "alertname", .str (alertName binding)),
    (text "market_sentinel_attestation", .str (text "true")),
    (text "market_sentinel_binding", .str binding),
    (text "market_sentinel_deployment", .str deploymentIdentitySha256),
    (text "market_sentinel_revision", .str sourceRevision),
    (text "market_sentinel_run", .str (text (toString runId) ++ [46] ++ text (toString runAttempt))),
    (text "severity", .str (text "none"))]

/-- Python's `==` of two dictionaries with distinct keys. -/
def sameLabels (labels expected : Dict Text Json) : Bool :=
  decide (labels.length = expected.length) &&
    expected.all fun entry => decide (labels.get? entry.1 = some entry.2)

/-- The digest of what identifies an event: retries of one alert share it. -/
def oncallWebhookEventSha256 (runtime : Runtime) (binding : Text) (labels : Dict Text Json)
    (fingerprint startsAt : Text) : Text :=
  runtime.sha256 (runtime.dumps (.obj
    [(text "alert", .obj
      [(text "annotations", .obj [(text "attestation_binding", .str binding)]),
        (text "fingerprint", .str fingerprint), (text "labels", .obj labels),
        (text "starts_at", .str startsAt), (text "status", .str (text "firing"))]),
      (text "receiver", .str defaultOncallReceiverName),
      (text "status", .str (text "firing")), (text "version", .str (text "4"))]))

structure Identity where
  bindingSha256 : Text
  sourceRevision : Text
  deploymentIdentitySha256 : Text
  runId : Nat
  runAttempt : Nat
  alertFingerprint : Text
  webhookReceiver : Text
  webhookBodySha256 : Text
  webhookEventSha256 : Text
  deriving DecidableEq

/-- `_utc` of a timestamp that another system wrote. -/
def utc (runtime : Runtime) : Option Json → Except Text Int
  | some (.str value) =>
    if value.getLast? = some 90 then
      match runtime.fromisoformat (value.dropLast ++ text "+00:00") with
      | some instant => .ok instant
      | none => .error (text "startsAt is not a valid timestamp")
    else .error (text "startsAt must be a UTC timestamp ending in Z")
  | _ => .error (text "startsAt must be a UTC timestamp ending in Z")

def require (holds : Bool) (message : String) : Except Text Unit :=
  if holds then .ok () else .error (text message)

/-- Labels and annotations of a firing alert. -/
def alertFields (alert : Dict Text Json) : Except Text (Dict Text Json × Dict Text Json) :=
  match Dict.get? alert (text "labels"), Dict.get? alert (text "annotations") with
  | some (.obj labels), some (.obj annotations) =>
    if Dict.get? alert (text "status") = some (.str (text "firing")) then .ok (labels, annotations)
    else .error (text "webhook alert fields are invalid")
  | _, _ => .error (text "webhook alert fields are invalid")

/-- The only alert of a notification for the on-call route. -/
def webhookAlert (payload : Option Json) : Except Text (Dict Text Json) :=
  match payload with
  | some (.obj fields) =>
    if Dict.get? fields (text "receiver") ≠ some (.str defaultOncallReceiverName) then
      .error (text "webhook receiver does not match the dedicated on-call route")
    else if Dict.get? fields (text "status") ≠ some (.str (text "firing")) ∨
        Dict.get? fields (text "version") ≠ some (.str (text "4")) then
      .error (text "webhook must be a firing Alertmanager v4 notification")
    else match Dict.get? fields (text "alerts") with
      | some (.arr [.obj alert]) => .ok alert
      | _ => .error (text "webhook must contain exactly one alert")
  | some _ => .error (text "webhook receiver does not match the dedicated on-call route")
  | none => .error (text "webhook body must be strict UTF-8 JSON")

/-- The fields of a well-formed challenge alert, before its labels are compared. -/
structure Challenge where
  binding : Text
  revision : Text
  deployment : Text
  run : Text
  attempt : Text
  fingerprint : Text

def wellFormedChallenge (alert labels annotations : Dict Text Json) : Except Text Challenge :=
  match labels.get? (text "market_sentinel_binding"), labels.get? (text "market_sentinel_revision"),
    labels.get? (text "market_sentinel_deployment"), labels.get? (text "market_sentinel_run"),
    alert.get? (text "fingerprint") with
  | some (.str binding), some (.str revision), some (.str deployment), some (.str runPair),
      some (.str fingerprint) =>
    match runMatch runPair with
    | some (run, attempt) => do
      require (sha256Hex binding && commitSha revision && sha256Hex deployment && alertFingerprint fingerprint &&
          decide (labels.get? (text "market_sentinel_attestation") = some (.str (text "true")) ∧
            labels.get? (text "alertname") = some (.str (alertName binding)) ∧
            labels.get? (text "severity") = some (.str (text "none")) ∧
            annotations.get? (text "attestation_binding") = some (.str binding)))
        "webhook is not a well-formed Market Sentinel challenge alert"
      return { binding, revision, deployment, run, attempt, fingerprint }
    | none => .error (text "webhook is not a well-formed Market Sentinel challenge alert")
  | _, _, _, _, _ => .error (text "webhook is not a well-formed Market Sentinel challenge alert")

def parseWebhook (runtime : Runtime) (raw : List UInt8) (now : Stamp) : Except Text Identity := do
  let alert ← webhookAlert (runtime.strictJson raw)
  let (labels, annotations) ← alertFields alert
  let challenge ← wellFormedChallenge alert labels annotations
  let activeAt ← utc runtime (alert.get? (text "startsAt"))
  require (decide (activeAt ≤ now + maxAlertLead ∧ now - activeAt ≤ maxAlertAge))
    "webhook alert is outside the live challenge window"
  let runId ← intOfDigits challenge.run
  let runAttempt ← intOfDigits challenge.attempt
  require (sameLabels labels (expectedLabels challenge.binding challenge.revision challenge.deployment runId runAttempt))
    "webhook labels differ from the exact collector challenge"
  return {
    bindingSha256 := challenge.binding
    sourceRevision := challenge.revision
    deploymentIdentitySha256 := challenge.deployment
    runId
    runAttempt
    alertFingerprint := challenge.fingerprint
    webhookReceiver := defaultOncallReceiverName
    webhookBodySha256 := runtime.sha256Bytes raw
    webhookEventSha256 := oncallWebhookEventSha256 runtime challenge.binding labels challenge.fingerprint
      (match alert.get? (text "startsAt") with
        | some (.str startsAt) => startsAt
        | _ => []) }

end Webhook

section Table

/-- The stored `record_json`. -/
structure Record extends Identity where
  deliveryId : Text
  deriving DecidableEq

inductive DeliveryState where
  | pending
  | dispatched
  | acknowledged
  deriving DecidableEq

structure Delivery where
  eventSha256 : Text
  bodySha256 : Text
  record : Record
  state : DeliveryState
  receivedAt : Stamp
  dispatchedAt : Option Stamp := none
  channelSha256 : Option Text := none
  acknowledgedAt : Option Stamp := none
  acknowledgerSha256 : Option Text := none
  deriving DecidableEq

structure AuditEvent where
  binding : Text
  event : Text
  occurredAt : Stamp
  deriving DecidableEq

/-- The two tables; `binding` is the primary key of the deliveries. -/
structure Database where
  deliveries : Dict Text Delivery := []
  auditEvents : List AuditEvent := []
  deriving DecidableEq

def Database.delivery? (db : Database) (binding : Text) : Option Delivery := db.deliveries.get? binding

def Database.audit (db : Database) (binding : Text) (event : String) (occurredAt : Stamp) : Database :=
  { db with auditEvents := db.auditEvents ++ [⟨binding, text event, occurredAt⟩] }

/-- `INSERT`: a binding that is taken fails the transaction. -/
def Database.insertPending (db : Database) (record : Record) (received : Stamp) : Option Database :=
  if db.delivery? record.bindingSha256 = none then
    let row : Delivery := {
      eventSha256 := record.webhookEventSha256
      bodySha256 := record.webhookBodySha256
      record
      state := .pending
      receivedAt := received }
    some ({ db with deliveries := db.deliveries.set record.bindingSha256 row }.audit record.bindingSha256
      "received" received)
  else none

/-- `UPDATE … WHERE binding=? AND state=?`, which may match no row. -/
def Database.advance (db : Database) (binding : Text) (state : DeliveryState) (change : Delivery → Delivery) :
    Database :=
  match db.delivery? binding with
  | some row => if row.state = state then { db with deliveries := db.deliveries.set binding (change row) } else db
  | none => db

def Database.markDispatched (db : Database) (binding channelSha256 : Text) (dispatched : Stamp) : Database :=
  (db.advance binding .pending fun row =>
    { row with state := .dispatched, dispatchedAt := some dispatched, channelSha256 := some channelSha256 }).audit
    binding "dispatched" dispatched

def Database.markAcknowledged (db : Database) (binding acknowledgerSha256 : Text) (acknowledged : Stamp) :
    Database :=
  (db.advance binding .dispatched fun row =>
    { row with
      state := .acknowledged
      acknowledgedAt := some acknowledged
      acknowledgerSha256 := some acknowledgerSha256 }).audit
    binding "human_acknowledged" acknowledged

end Table

section Requests

/-- How a parsed webhook goes on. -/
inductive Admission where
  | insert (record : Record)
  | dispatch (record : Record)
  | reply (deliveryId : Text) (state : DeliveryState)

/-- `accept_webhook` up to its first effect. -/
def Database.admitWebhook (db : Database) (identity : Identity) (deliveryId : Text) : Except Text Admission :=
  match db.delivery? identity.bindingSha256 with
  | none => .ok (.insert { identity with deliveryId })
  | some row =>
    if row.eventSha256 ≠ identity.webhookEventSha256 then
      .error (text "challenge binding was already used by a different webhook")
    else match row.state with
      | .pending => .ok (.dispatch row.record)
      | state => .ok (.reply row.record.deliveryId state)

/-- `acknowledge` before it reads the clock: the dispatch time to follow, or nothing when it is a repeat. -/
def Database.acknowledgeable (db : Database) (binding deliveryId : Text) : Except Text (Option Stamp) :=
  if !(sha256Hex binding && deliveryIdFormat deliveryId) then .error (text "acknowledgement identity is invalid")
  else match db.delivery? binding with
    | none => .error (text "challenge has not been delivered")
    | some row =>
      if row.record.deliveryId ≠ deliveryId then .error (text "delivery ID does not match the challenge")
      else match row.state, row.dispatchedAt with
        | .acknowledged, _ => .ok none
        | .dispatched, some dispatched => .ok (some dispatched)
        | _, _ => .error (text "challenge has not been accepted by SMTP")

structure Receipt where
  record : Record
  schemaVersion : Nat := 1
  receiptType : Text := text "market-sentinel-oncall-delivery-receipt"
  status : Text := text "acknowledged"
  acknowledgementKind : Text := text "human"
  oncallProvider : Text := text "smtp"
  oncallChannelSha256 : Option Text
  receivedAt : Stamp
  dispatchedAt : Option Stamp
  acknowledgedAt : Option Stamp
  acknowledgerSha256 : Option Text
  deriving DecidableEq

def Delivery.receipt (row : Delivery) : Receipt where
  record := row.record
  oncallChannelSha256 := row.channelSha256
  receivedAt := row.receivedAt
  dispatchedAt := row.dispatchedAt
  acknowledgedAt := row.acknowledgedAt
  acknowledgerSha256 := row.acknowledgerSha256

def Database.receipt (db : Database) (binding : Text) : Except Text (Option Receipt) :=
  if !sha256Hex binding then .error (text "receipt binding is invalid")
  else match db.delivery? binding with
    | some row => .ok (if row.state = .acknowledged then some row.receipt else none)
    | none => .ok none

end Requests

end MarketSentinel.Oncall
