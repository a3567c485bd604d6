import Mathlib.Data.List.Sort
import MarketSentinel.Config.Fields

/-! Price alerts and their notification history.

An evaluation decides every matching alert first, then reserves room for its
events, and only then changes the alerts.
-/

set_option autoImplicit false

namespace MarketSentinel.Alerts

open Python

inductive Direction where
  | above
  | below
  deriving DecidableEq

inductive PriceSource where
  | lastTrade
  | midpoint
  | bestBid
  | bestAsk
  deriving DecidableEq

def maxAlertEvents : Nat := 1000

structure PriceAlert where
  tokenId : Text
  label : Text
  direction : Direction
  threshold : ℚ
  source : PriceSource
  once : Bool
  enabled : Bool
  marketId : Text
  id : Text
  lastValue : Option ℚ := none
  triggered : Bool := false
  deriving DecidableEq

structure AlertEvent where
  alertId : Text
  marketId : Text
  contractId : Text
  label : Text
  direction : Direction
  threshold : ℚ
  source : PriceSource
  value : ℚ
  message : Text
  id : Text
  createdAt : Int
  acknowledgedAt : Int := 0
  deriving DecidableEq

/-- The runtime parts of the alert functions: case folding, float reading, `str` of a
value and the `g` format of a number. -/
structure Runtime where
  casing : Casing
  rounding : FloatRounding
  show_ : Json → Text
  formatG : ℚ → Text

/-- An evaluation fails on full unread history, or on an invalid value. -/
inductive Failure where
  | capacity
  | invalid (message : Text)
  deriving DecidableEq

def Direction.text : Direction → Text
  | .above => Python.text "above"
  | .below => Python.text "below"

def PriceSource.name : PriceSource → String
  | .lastTrade => "last_trade"
  | .midpoint => "midpoint"
  | .bestBid => "best_bid"
  | .bestAsk => "best_ask"

def PriceSource.text (source : PriceSource) : Text := Python.text source.name

def readDirection (t : Text) : Option Direction :=
  [Direction.above, Direction.below].find? fun direction => decide (direction.text = t)

def readSource (t : Text) : Option PriceSource :=
  [PriceSource.lastTrade, .midpoint, .bestBid, .bestAsk].find? fun source => decide (source.text = t)

/-- A text of a notification: short, without control characters, and not blank where it must not be. -/
def validText (value : Text) (maximum : Nat) (blank : Bool) : Bool :=
  (blank || decide (strip value ≠ [])) && decide (value.length ≤ maximum) && value.all fun c => 32 ≤ c.val

def isProbability (value : ℚ) : Bool := decide (0 ≤ value ∧ value ≤ 1)

def PriceAlert.validateNotificationText (alert : PriceAlert) : Except Text Unit :=
  if validText alert.id 256 false ∧ validText alert.marketId 256 false ∧ validText alert.tokenId 256 false ∧
      validText alert.label 512 true then .ok ()
  else .error (text "Alert text or identity is invalid or exceeds the durable notification limit.")

def PriceAlert.validatePriceControls (alert : PriceAlert) : Except Text Unit :=
  if isProbability alert.threshold = false then
    .error (text "Configuration field 'threshold' is outside its supported range.")
  else if alert.lastValue.all isProbability = false then
    .error (text "Configuration field 'last_value' is outside its supported range.")
  else .ok ()

/-- The checks of a stored event. -/
def AlertEvent.validate (event : AlertEvent) : Except Text Unit :=
  if ¬(validText event.id 256 false ∧ validText event.alertId 256 false ∧ validText event.marketId 256 false ∧
      validText event.contractId 256 false ∧ validText event.label 512 true ∧
      validText event.message 2048 false) then
    .error (text "Alert event text or identity is invalid or exceeds its supported limit.")
  else if ¬(isProbability event.threshold ∧ isProbability event.value) then
    .error (text "Alert event prices must be finite probabilities.")
  else if event.createdAt < 0 ∨ event.acknowledgedAt < 0 then
    .error (text "Alert event timestamps must be nonnegative integers.")
  else if event.createdAt < 1 ∨ (event.acknowledgedAt ≠ 0 ∧ event.acknowledgedAt < event.createdAt) then
    .error (text "Alert event acknowledgement predates its notification.")
  else .ok ()

/-! ## Notification history -/

def olderEvent (first second : AlertEvent) : Bool :=
  decide (first.createdAt < second.createdAt ∨ (first.createdAt = second.createdAt ∧ first.id ≤ second.id))

/-- Reserve capacity for a whole evaluation before changing triggers. -/
def appendAlertEvents (stored events : List AlertEvent) : Except Failure (List AlertEvent) :=
  if events = [] then .ok stored
  else
    match events.forM AlertEvent.validate with
    | .error message => .error (.invalid message)
    | .ok () =>
      let combined := stored ++ events
      if ¬(combined.map AlertEvent.id).Nodup then
        .error (.invalid (text
          "Configuration contains duplicate durable record identities; no records were discarded."))
      else
        let removeCount := combined.length - maxAlertEvents
        let removable := (stored.filter fun event => decide (event.acknowledgedAt ≠ 0)).mergeSort olderEvent
        if removable.length < removeCount then .error .capacity
        else
          let removed := (removable.take removeCount).map AlertEvent.id
          .ok (combined.filter fun event => decide (event.id ∉ removed))

def acknowledgeAlertEvent (stored : List AlertEvent) (eventId : Text) (now : Int) : Except Text (List AlertEvent) :=
  match stored.findIdx? fun event => decide (event.id = eventId) with
  | none => .error (text "Alert notification was not found.")
  | some index => .ok (stored.modify index fun event =>
    if event.acknowledgedAt = 0 then { event with acknowledgedAt := max event.createdAt now } else event)

/-! ## Evaluation -/

section Evaluate

variable (runtime : Runtime)

def alertMarketId (alert : PriceAlert) : Text :=
  runtime.casing.lower (strip (if alert.marketId = [] then text "polymarket" else alert.marketId))

def alertPriceStateKey (marketId contractId : Text) : Text × Text :=
  (runtime.casing.lower (strip (if marketId = [] then text "polymarket" else marketId)), strip contractId)

def alertCondition (alert : PriceAlert) (value : ℚ) : Bool :=
  match alert.direction with
  | .above => decide (alert.threshold ≤ value)
  | .below => decide (value ≤ alert.threshold)

/-- The available prices of a contract. -/
structure PriceValues where
  lastTrade : Option ℚ
  midpoint : Option ℚ
  bestBid : Option ℚ
  bestAsk : Option ℚ

def PriceValues.get (values : PriceValues) : PriceSource → Option ℚ
  | .lastTrade => values.lastTrade
  | .midpoint => values.midpoint
  | .bestBid => values.bestBid
  | .bestAsk => values.bestAsk

abbrev PriceState := Dict (Text × Text) (Dict Text Json)

def priceValues (priceState : PriceState) (key : Text × Text) : Except Text PriceValues := do
  let raw := (priceState.get? key).getD []
  let read := fun source : PriceSource =>
    Config.alertProbability runtime.rounding ((raw.get? source.text).getD .null) source.name
  let lastTrade ← read .lastTrade
  let midpoint ← read .midpoint
  let bestBid ← read .bestBid
  let bestAsk ← read .bestAsk
  return ⟨lastTrade, midpoint, bestBid, bestAsk⟩

/-- What an evaluation decides for one alert. -/
structure Change where
  value : ℚ
  fires : Bool
  triggered : Bool
  enabled : Bool
  deriving DecidableEq

def decideAlert (alert : PriceAlert) (value : ℚ) : Change :=
  let conditionNow := alertCondition alert value
  let conditionPrevious := alert.lastValue.map (alertCondition alert)
  let crossed := conditionNow && decide (conditionPrevious = some false ∨ conditionPrevious = none)
  let fires := crossed && !alert.triggered
  let triggered := fires || alert.triggered
  { value := value
    fires := fires
    triggered := if alert.once = false ∧ triggered = true ∧ conditionNow = false then false else triggered
    enabled := if fires && alert.once then false else alert.enabled }

def evaluateAlert (key : Text × Text) (values : PriceValues) (alert : PriceAlert) : Except Text (Option Change) :=
  if alert.enabled = false then .ok none
  else if alertMarketId runtime alert ≠ key.1 ∨ alert.tokenId ≠ key.2 then .ok none
  else do
    alert.validatePriceControls
    return (values.get alert.source).map (decideAlert alert)

def crossingMessage (market : Text) (alert : PriceAlert) (value : ℚ) : Text :=
  market ++ text ":" ++ alert.label ++ text " " ++ alert.source.text ++ text "=" ++ runtime.formatG value ++
    text " crossed " ++ alert.direction.text ++ text " " ++ runtime.formatG alert.threshold

def PriceAlert.apply (alert : PriceAlert) : Option Change → PriceAlert
  | none => alert
  | some change => { alert with
    lastValue := some change.value, triggered := change.triggered, enabled := change.enabled }

def crossingEvent (key : Text × Text) (alert : PriceAlert) (value : ℚ) (stamp : Text × Int) : AlertEvent where
  alertId := alert.id
  marketId := key.1
  contractId := key.2
  label := alert.label
  direction := alert.direction
  threshold := alert.threshold
  source := alert.source
  value := value
  message := crossingMessage runtime key.1 alert value
  id := stamp.1
  createdAt := stamp.2

def crossing (alert : PriceAlert) (change : Option Change) : Option (PriceAlert × ℚ) :=
  change.bind fun change => if change.fires then some (alert, change.value) else none

/-- The alerts that fire, in order. -/
def firing (alerts : List PriceAlert) (changes : List (Option Change)) : List (PriceAlert × ℚ) :=
  (alerts.zip changes).filterMap fun (alert, change) => crossing alert change

/-- Evaluate the alerts of a contract; `stamps` gives each new event its identity and time. -/
def evaluateAlertsForContract (alerts : List PriceAlert) (stored : List AlertEvent) (marketId contractId : Text)
    (priceState : PriceState) (stamps : Nat → Text × Int) :
    List PriceAlert × List AlertEvent × Except Failure (List Text) :=
  let key := alertPriceStateKey runtime marketId contractId
  match priceValues runtime priceState key >>= fun values => alerts.mapM (evaluateAlert runtime key values) with
  | .error message => (alerts, stored, .error (.invalid message))
  | .ok changes =>
    let crossings := firing alerts changes
    let events := crossings.zipIdx.map fun ((alert, value), index) =>
      crossingEvent runtime key alert value (stamps index)
    -- Full unread history fails before any trigger is changed.
    match appendAlertEvents stored events with
    | .error failure => (alerts, stored, .error failure)
    | .ok history => (List.zipWith PriceAlert.apply alerts changes, history,
        .ok (crossings.map fun (alert, value) => crossingMessage runtime key.1 alert value))

/-! ## Edits -/

def boolFromSetting (value : Json) (default_ : Bool) : Bool :=
  match value with
  | .bool value => value
  | .null => default_
  | .str t =>
    if t = [] then default_
    else decide (runtime.casing.lower (strip t) ∈ [text "1", text "true", text "yes", text "on"])
  | other => other.truthy

/-- `payload.get(key) or fallback`, as a text. -/
def payloadText (payload : Dict Text Json) (key : String) (fallback : Text) : Text :=
  let value := (payload.get? (text key)).getD .null
  if value.truthy then runtime.show_ value else fallback

def watched (alert : PriceAlert) : Text × Text × Direction × ℚ × PriceSource :=
  (alert.marketId, alert.tokenId, alert.direction, alert.threshold, alert.source)

/-- The alert that a request describes, before it is stored. `knownMarket` is the catalog. -/
def candidateAlert (knownMarket : Text → Bool) (payload : Dict Text Json) (existing : Option PriceAlert)
    (freshId : Text) : Except Text PriceAlert := do
  let lowered := fun value : Text => runtime.casing.lower (strip value)
  let marketId := lowered (payloadText runtime payload "market_id" ((existing.map PriceAlert.marketId).getD []))
  let tokenId := strip (payloadText runtime payload "contract_id" (payloadText runtime payload "token_id"
    ((existing.map PriceAlert.tokenId).getD [])))
  let label := strip (match payload.get? (text "label") with
    | some value => runtime.show_ value
    | none => (existing.map PriceAlert.label).getD [])
  let direction := lowered (payloadText runtime payload "direction"
    ((existing.map fun alert => alert.direction.text).getD (text "above")))
  let source := lowered (payloadText runtime payload "source"
    ((existing.map fun alert => alert.source.text).getD (text "last_trade")))
  let threshold ← Config.probability runtime.rounding (match payload.get? (text "threshold"), existing with
    | some value, _ => value
    | none, some alert => .float (.finite alert.threshold)
    | none, none => .null) "threshold"
  if marketId = [] then .error (text "market_id is required.")
  else if knownMarket marketId = false then .error (text "Unknown market id: " ++ marketId)
  else if tokenId = [] then .error (text "contract_id is required.")
  else
    match readDirection direction, readSource source with
    | none, _ => .error (text "direction must be above or below.")
    | _, none => .error (text "source must be one of: last_trade, midpoint, best_bid, best_ask.")
    | some direction, some source =>
      let alert : PriceAlert := {
        tokenId := tokenId
        label := if label = [] then text "Alert " ++ tokenId.take 8 else label
        direction := direction
        threshold := threshold
        source := source
        once := boolFromSetting runtime ((payload.get? (text "once")).getD .null)
          ((existing.map PriceAlert.once).getD true)
        enabled := boolFromSetting runtime ((payload.get? (text "enabled")).getD .null)
          ((existing.map PriceAlert.enabled).getD true)
        marketId := marketId
        id := freshId }
      do
        alert.validateNotificationText
        alert.validatePriceControls
        return alert

/-- Edits that watch or enable something need a market that serves alerts. -/
def requireReady (needed : Bool) (ready : Text → Except Text Unit) (marketId : Text) : Except Text Unit :=
  if needed then ready marketId else .ok ()

def watchedKeys : List Text :=
  [text "market_id", text "contract_id", text "token_id", text "direction", text "threshold", text "source"]

/-- Create an alert or edit one. `ready` is the check of the market and its adapter. -/
def alertFromPayload (knownMarket : Text → Bool) (ready : Text → Except Text Unit) (payload : Dict Text Json)
    (existing : Option PriceAlert) (freshId : Text) : Except Text PriceAlert := do
  let candidate ← candidateAlert runtime knownMarket payload existing freshId
  let requested := decide (existing = none) || watchedKeys.any fun key => (payload.get? key).isSome
  requireReady (candidate.enabled || requested) ready candidate.marketId
  match existing with
  | none => return candidate
  | some alert =>
    let edited := { candidate with id := alert.id, lastValue := alert.lastValue, triggered := alert.triggered }
    return if watched edited ≠ watched alert then { edited with lastValue := none, triggered := false } else edited

end Evaluate

end MarketSentinel.Alerts
