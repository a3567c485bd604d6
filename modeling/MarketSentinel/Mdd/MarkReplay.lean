import MarketSentinel.Mdd.Inputs

/-! The replay of trades against historical marks, and the paths on which it is not available.

Every fill and every mark is a point of the curve. What the replay cannot account for withholds
its figure; a replay that is not available leaves the historical payload with its own fields.
-/

set_option autoImplicit false

namespace MarketSentinel.Mdd

open Python

/-! ## Price histories -/

structure Mark where
  timestamp : Int
  price : ℚ
  deriving DecidableEq

section Prices

variable (runtime : Runtime) (now : Int)

/-- A price of a second that has none yet, or the same one. -/
def addMark (marks : List Mark) (item : Json) : Except Failure (List Mark) :=
  match item with
  | .obj row =>
    match eventTimestamp (latestSecond now) (lookup runtime row ["t", "timestamp", "ts", "time"]),
      finiteNumber (lookup runtime row ["p", "price", "value"]) with
    | some timestamp, some price =>
      if 0 ≤ price ∧ price ≤ 1 then
        match marks.find? fun mark => decide (mark.timestamp = timestamp) with
        | some mark =>
          if mark.price = price then .ok marks
          else .error (.invalid (text "Price history contains conflicting prices at the same timestamp."))
        | none => .ok (marks ++ [⟨timestamp, price⟩])
      else .error (.invalid (text "Price history contains an invalid timestamp or probability price."))
    | _, _ => .error (.invalid (text "Price history contains an invalid timestamp or probability price."))
  | _ => .error (.invalid (text "Price history contains an invalid row."))

def historyField (row : Row) : Json :=
  (["history", "prices", "data", "points"].findSome? fun key =>
    if (Row.get row key).truthy then some (Row.get row key) else none).getD (.arr [])

def normalizePriceHistoryPoints (raw : Json) : Except Failure (List Mark) :=
  let listed := match raw with
    | .obj row => historyField row
    | raw => raw
  match listed with
  | .null => .ok []
  | .arr items => do
    let marks ← items.foldlM (addMark runtime now) []
    return marks.insertionSort fun first second => first.timestamp ≤ second.timestamp
  | _ => .error (.invalid (text "Price history must be an array of timestamped prices."))

def marketKeys : List String := ["market", "asset", "asset_id", "token_id", "tokenId"]

/-- The first item that names the token. -/
def itemOf (token : Text) (items : List Json) : Option Json :=
  items.find? fun item =>
    match item with
    | .obj row => decide (nameAt runtime row marketKeys = token)
    | _ => false

def hasHistory (item : Json) : Bool :=
  match item with
  | .obj row => Row.hasAny row ["history", "prices", "points"]
  | _ => false

/-- The item of another list of the payload. -/
def listedHistory (payload : Row) (token : Text) : Except Failure (List Mark) :=
  let listed := ["data", "results", "markets"].findSome? fun key =>
    match Row.get payload key with
    | .arr rows => itemOf runtime token rows
    | _ => none
  match listed with
  | some item => normalizePriceHistoryPoints runtime now item
  | none => .ok []

def extractTokenHistory (payload : Row) (token : Text) : Except Failure (List Mark) :=
  match Row.get payload "history" with
  | .obj history => normalizePriceHistoryPoints runtime now ((Dict.get? history token).getD .null)
  | .arr items =>
    if items.any hasHistory then
      match itemOf runtime token items with
      | some item => normalizePriceHistoryPoints runtime now item
      | none => listedHistory runtime now payload token
    else normalizePriceHistoryPoints runtime now (.arr items)
  | _ => listedHistory runtime now payload token

end Prices

/-! ## The replay -/

inductive ReplayEvent where
  | trade (row : Row)
  | mark (token : Text) (price : ℚ)

/-- Trades of a second come before its marks. -/
def ReplayEvent.order : ReplayEvent → Nat
  | .trade _ => 0
  | .mark _ _ => 1

structure ReplayPoint where
  timestamp : Int
  value : ℚ
  cashFlowUsd : ℚ
  markedInventoryValueUsd : ℚ
  activeInventory : Nat
  deriving DecidableEq

structure Replay where
  quantities : Dict Text ℚ := []
  lastPrices : Dict Text ℚ := []
  cash : ℚ := 0
  tradeEventsReplayed : Nat := 0
  tradesWithoutToken : Nat := 0
  tradesWithoutSizeOrPrice : Nat := 0
  negativeInventoryEvents : Nat := 0
  points : List ReplayPoint := []

def dust : ℚ := 1 / 10 ^ 9

def Replay.inventory (replay : Replay) : Dict Text ℚ := replay.quantities.filter fun entry => decide (dust < |entry.2|)

/-- What is held, at the last prices. -/
def Replay.inventoryValue (replay : Replay) : Dict Text ℚ :=
  replay.inventory.map fun entry => (entry.1, entry.2 * (Dict.get? replay.lastPrices entry.1).getD 0)

def Replay.emit (replay : Replay) (timestamp : Int) : Replay :=
  let marked := (replay.inventoryValue.map Prod.snd).sum
  { replay with
    points := replay.points ++ [⟨timestamp, replay.cash + marked, replay.cash, marked, replay.inventory.length⟩] }

section Run

variable (runtime : Runtime)

/-- The size and the price of a fill that can be replayed. -/
def fillOf (row : Row) : Option (ℚ × ℚ) :=
  match tradeSize runtime row, tradePrice runtime row with
  | some (.finite size), some (.finite price) =>
    if 0 < size ∧ 0 ≤ price ∧ price ≤ 1 ∧ tradeSide runtime row ∈ buySell then some (size, price) else none
  | _, _ => none

def Replay.fill (replay : Replay) (row : Row) (size price : ℚ) : Replay :=
  let token := tradeTokenId runtime row
  let current := (Dict.get? replay.quantities token).getD 0
  let buys := decide (tradeSide runtime row = text "BUY")
  -- A sale of what was never bought goes on with a negative holding, and is counted.
  let quantity := if buys then current + size else current - size
  { replay with
    quantities := Dict.set replay.quantities token quantity
    lastPrices := Dict.set replay.lastPrices token price
    cash := if buys then replay.cash - size * price else replay.cash + size * price
    tradeEventsReplayed := replay.tradeEventsReplayed + 1
    negativeInventoryEvents := replay.negativeInventoryEvents + if !buys && decide (quantity < -dust) then 1 else 0 }

def Replay.step (replay : Replay) (event : Int × ReplayEvent) : Replay :=
  match event.2 with
  | .mark token price => ({ replay with lastPrices := Dict.set replay.lastPrices token price } : Replay).emit event.1
  | .trade row =>
    -- A trade that cannot be replayed leaves no point.
    if tradeTokenId runtime row = [] then { replay with tradesWithoutToken := replay.tradesWithoutToken + 1 }
    else
      match fillOf runtime row with
      | none => { replay with tradesWithoutSizeOrPrice := replay.tradesWithoutSizeOrPrice + 1 }
      | some fill => (replay.fill runtime row fill.1 fill.2).emit event.1

def tradeSecond (row : Row) : Option Int := safeInt (lookup runtime row ["timestamp"])

def timeline (trades : List Row) (histories : List (Text × List Mark)) : List (Int × ReplayEvent) :=
  let fills := trades.filterMap fun row => (tradeSecond runtime row).map fun second => (second, ReplayEvent.trade row)
  let marks := histories.flatMap fun history =>
    history.2.map fun mark => (mark.timestamp, ReplayEvent.mark history.1 mark.price)
  (fills ++ marks).insertionSort fun first second =>
    first.1 < second.1 ∨ first.1 = second.1 ∧ first.2.order ≤ second.2.order

def buildMarkReplayPoints (trades : List Row) (histories : List (Text × List Mark)) : Replay :=
  (timeline runtime trades histories).foldl (Replay.step runtime) {}

def replayDrawdown (replay : Replay) (equityBaseUsd : Option ℚ) : Except Failure (Drawdown Int) :=
  (maxDrawdown (replay.points.map fun point => ⟨point.value, some point.timestamp⟩) equityBaseUsd).mapError .invalid

end Run

/-! ## The current positions -/

structure Reconciliation where
  status : Text
  incompleteReasons : List Text
  inventoryMismatchTokens : List Text := []
  currentValueMismatchTokens : List Text := []
  positionInventory : Dict Text ℚ := []
  positionCurrentValueByTokenUsd : Dict Text ℚ := []
  snapshotTerminalPnlUsd : Option PyFloat := none

structure Holdings where
  reasons : List Text := []
  positions : Dict Text ℚ := []
  currentValues : Dict Text ℚ := []

section Reconcile

variable (runtime : Runtime)

def Holdings.add (holdings : Holdings) (row : Row) : Holdings :=
  let token := tradeTokenId runtime row
  match finiteNumber (lookup runtime row ["current_size", "size"]) with
  | some size =>
    if token = [] ∨ size < 0 then
      { holdings with reasons := holdings.reasons ++ [text "current_position_identity_or_size_unavailable"] }
    else
      let again := if (Dict.get? holdings.positions token).isSome then [text "duplicate_current_position"] else []
      { reasons := holdings.reasons ++ again
        positions := Dict.set holdings.positions token size
        currentValues := match positionCurrentValues runtime row with
          | [] => holdings.currentValues
          | value :: _ => Dict.set holdings.currentValues token value }
  | none => { holdings with reasons := holdings.reasons ++ [text "current_position_identity_or_size_unavailable"] }

def coveredToEnd (inputs : MddInputs) (source : Source) : Bool :=
  (Dict.get? inputs.historyCoverage source).any fun coverage => decide (coverage.status = .endOfResults)

def apart (within : ℚ) (first second : Dict Text ℚ) (tokens : List Text) : List Text :=
  tokens.filter fun token => !isClose within ((Dict.get? first token).getD 0) ((Dict.get? second token).getD 0)

def pnlApart (within : ℚ) (snapshot : Option PyFloat) (final : Option ℚ) : Bool :=
  match snapshot, final with
  | some (.finite snapshot), some final => !isClose within snapshot final
  | some _, some _ => true
  | _, _ => false

def reconcileReplaySnapshot (inputs : MddInputs) (replay : Replay) (base : Payload) : Reconciliation :=
  if inputs.openPositions = [] ∧ coveredToEnd inputs .openPositions = false then
    { status := text "not_supplied", incompleteReasons := [] }
  else
    let holdings := (inputs.openPositions.map fields).foldl (Holdings.add runtime) {}
    let within := tolerance * (max 1 (inputs.openPositions.length + replay.tradeEventsReplayed) : Nat)
    let tokens := (holdings.positions.map Prod.fst ++ replay.inventory.map Prod.fst).dedup.insertionSort (· ≤ ·)
    let held := apart within holdings.positions replay.inventory tokens
    let valued := apart within holdings.currentValues replay.inventoryValue
      ((holdings.currentValues.map Prod.fst).insertionSort (· ≤ ·))
    -- Without positions the result is only known when the closed ones were read to their end.
    let known := !inputs.openPositions.isEmpty || !inputs.closedPositions.isEmpty || coveredToEnd inputs .closedPositions
    let snapshot := if known then some (PyFloat.add base.cumulativeRealizedPnl base.openPnl) else none
    let final := replay.points.getLast?.map ReplayPoint.value
    let reasons := holdings.reasons ++
      (if held ≠ [] then [text "current_inventory_mismatch"] else []) ++
      (if valued ≠ [] then [text "current_position_value_mismatch"] else []) ++
      if pnlApart (within + tolerance * inputs.closedPositions.length) snapshot final then
        [text "current_pnl_mismatch"]
      else []
    { status := if reasons ≠ [] then text "mismatch" else text "matched"
      incompleteReasons := fromKeys reasons
      inventoryMismatchTokens := held
      currentValueMismatchTokens := valued
      positionInventory := holdings.positions
      positionCurrentValueByTokenUsd := holdings.currentValues
      snapshotTerminalPnlUsd := snapshot }

end Reconcile

/-! ## The payload -/

structure ReplayRequest where
  tokenLimit : Int := 10
  pointLimit : Int := 5000
  interval : Option Text := some (text "1h")
  fidelity : Option Int := some 60
  startTs : Option Int := none
  endTs : Option Int := none

structure PriceRequest where
  tokenIds : List Text
  startTs : Int
  endTs : Int
  interval : Option Text
  fidelity : Option Int

inductive PriceFailure where
  | cancelled
  | failed (kind : Text)
  deriving DecidableEq

structure ReplayTokens where
  ids : List Text := []
  clipped : List Text := []
  withoutToken : Nat := 0

def markReplayMethod : Text := text "clob_price_history_inventory_mark_replay_v1"

def intervals : List Text := ["max", "all", "1m", "1w", "1d", "6h", "1h"].map text

/-- `str(value or "").strip() or None`, or an hour when it is none of the known ones. -/
def intervalOf (value : Option Text) : Option Text :=
  let name := strip (value.getD [])
  if name = [] then none else if name ∈ intervals then some name else some (text "1h")

/-- A payload without a replay: the figures are taken back, the other fields stay. -/
def Payload.fallBack (base : Payload) (replay : MarkReplay) : Payload :=
  { base.withheld with
    requestedMddMethod := some markReplayMethod
    markReplay := some replay
    fallbackV2 := some base.observed }

/-- A payload and the points of a replay that it shows in the place of its own. -/
structure MarkReplayPayload extends Payload where
  replayPoints : List ReplayPoint := []

section Build

variable (runtime : Runtime) (now : Int) (priceHistory : PriceRequest → Except PriceFailure Row)
variable (inputs : MddInputs) (request : BaseRequest) (maxPoints : Int) (replayRequest : ReplayRequest)

def ReplayTokens.add (limit : Int) (tokens : ReplayTokens) (row : Row) : ReplayTokens :=
  let token := tradeTokenId runtime row
  if token = [] then { tokens with withoutToken := tokens.withoutToken + 1 }
  else if token ∈ tokens.ids then tokens
  -- A token beyond the limit is reported once for each of its trades.
  else if (tokens.ids.length : Int) < clamp limit 1 20 then { tokens with ids := tokens.ids ++ [token] }
  else { tokens with clipped := tokens.clipped ++ [token] }

def replayTokens (events : List Row) : ReplayTokens :=
  events.foldl (ReplayTokens.add runtime replayRequest.tokenLimit) {}

def replayTrades (events : List Row) : List Row :=
  events.filter fun row => decide (tradeTokenId runtime row ∈ (replayTokens runtime replayRequest events).ids)

def replayTimes (events : List Row) : List Int := (replayTrades runtime replayRequest events).filterMap (tradeSecond runtime)

def priceRequest (events : List Row) : PriceRequest :=
  let times := replayTimes runtime replayRequest events
  let startTs := replayRequest.startTs.getD (times.min?.getD 0)
  let endTs := replayRequest.endTs.getD (max (times.max?.getD 0) now)
  { tokenIds := (replayTokens runtime replayRequest events).ids
    startTs
    endTs := if endTs ≤ startTs then startTs + 60 else endTs
    interval := intervalOf replayRequest.interval
    fidelity := replayRequest.fidelity.map fun fidelity => clamp fidelity 1 1440 }

def unsupportedActivity : Dict Text Nat :=
  ((inputs.activityEvents.map fields).map (rowType runtime)).foldl
    (fun counts kind => if kind = text "TRADE" then counts else countSource counts kind) []

def replayedHistories (answer : Row) (events : List Row) : Except Failure (List (Text × List Mark)) :=
  (replayTokens runtime replayRequest events).ids.mapM fun token => do
    let marks ← extractTokenHistory runtime now answer token
    return (token, marks)

def missingHistories (histories : List (Text × List Mark)) : List Text :=
  (histories.filter fun history => history.2.isEmpty).map Prod.fst

def withoutTimestamp (events : List Row) : Nat :=
  (replayTrades runtime replayRequest events).countP fun row => (tradeSecond runtime row).isNone

/-- What the replay leaves open. -/
def incompleteReasons (events : List Row) (histories : List (Text × List Mark)) (replay : Replay) (base : Payload) :
    List Text :=
  let tokens := replayTokens runtime replayRequest events
  let reasonIf := fun (holds : Bool) (reason : String) => if holds then [text reason] else []
  (base.mddUnavailableReasons.filter fun reason => (text "history_").isPrefixOf reason) ++
    (((unsupportedActivity runtime inputs).map Prod.fst).insertionSort (· ≤ ·)).map
      (fun kind => text "unsupported_activity_type:" ++ kind) ++
    (reconcileReplaySnapshot runtime inputs replay base).incompleteReasons ++
    reasonIf (missingHistories histories ≠ []) "missing_price_history" ++
    reasonIf (tokens.clipped ≠ []) "token_limit_reached" ++
    reasonIf (tokens.withoutToken + replay.tradesWithoutToken ≠ 0) "trades_without_token" ++
    reasonIf (withoutTimestamp runtime replayRequest events ≠ 0) "trades_without_timestamp" ++
    reasonIf (replay.tradesWithoutSizeOrPrice ≠ 0) "trades_without_size_or_price" ++
    reasonIf (replay.negativeInventoryEvents ≠ 0) "negative_inventory_events"

def replayReport (events : List Row) (histories : List (Text × List Mark)) (replay : Replay) (base : Payload)
    (drawdown : Drawdown Int) : MarkReplay :=
  let incomplete := incompleteReasons runtime inputs replayRequest events histories replay base
  let tokens := replayTokens runtime replayRequest events
  { status := if incomplete ≠ [] then .partly else .ok
    incompleteReasons := incomplete
    tokenIds := tokens.ids
    clippedTokenIds := tokens.clipped
    missingHistoryTokens := missingHistories histories
    tradesWithoutToken := tokens.withoutToken + replay.tradesWithoutToken
    tradeEventsReplayed := replay.tradeEventsReplayed
    tradesWithoutTimestamp := withoutTimestamp runtime replayRequest events
    tradesWithoutSizeOrPrice := replay.tradesWithoutSizeOrPrice
    negativeInventoryEvents := replay.negativeInventoryEvents
    finalInventory := replay.inventory
    unsupportedActivity := unsupportedActivity runtime inputs
    observedDrawdown := if incomplete ≠ [] then some drawdown else none }

/-- The replay over the historical payload, before the gates. -/
def replayedPayload (events : List Row) (histories : List (Text × List Mark)) (replay : Replay) (base : Payload)
    (drawdown : Drawdown Int) : Payload :=
  let report := replayReport runtime inputs replayRequest events histories replay base drawdown
  let replayed := { base with
    toDrawdown := drawdown
    version := 3
    mddMethod := markReplayMethod
    points := []
    pointsTotal := replay.points.length
    markReplay := some report
    fallbackV2 := some base.observed }
  if report.incompleteReasons ≠ [] then
    { replayed.withheld with mddUnavailableReasons := fromKeys (base.mddUnavailableReasons ++ report.incompleteReasons) }
  else replayed

def shownPoints (replay : Replay) : List ReplayPoint :=
  let retained := replay.points.drop (replay.points.length - (clamp replayRequest.pointLimit 1 10000).toNat)
  retained.drop (retained.length - (clamp maxPoints 1 1000).toNat)

/-- The paths after a price history was answered. -/
def replayHistories (events : List Row) (base : Payload) (answer : Row) : Except InputFailure MarkReplayPayload :=
  let tokens := replayTokens runtime replayRequest events
  match replayedHistories runtime now replayRequest answer events with
  | .error failure => .error (.failed failure)
  | .ok histories =>
    let replay := buildMarkReplayPoints runtime (replayTrades runtime replayRequest events) histories
    match replayDrawdown replay base.equityBaseUsd with
    | .error failure => .error (.failed failure)
    | .ok drawdown =>
      -- Here and on the paths above the flag of the percentage is left as it was.
      if replay.points = [] then .ok { toPayload := base.fallBack {
        status := .unavailable
        reason := some (text "CLOB price-history replay produced no markable points.")
        tokenIds := tokens.ids
        missingHistoryTokens := missingHistories histories
        clippedTokenIds := tokens.clipped } }
      else .ok {
        toPayload := applyHistoryCoverage inputs
          (replayedPayload runtime inputs replayRequest events histories replay base drawdown)
        replayPoints := shownPoints maxPoints replayRequest replay }

/-- The paths of sound rows. -/
def replayEvents (events : List Row) (base : Payload) : Except InputFailure MarkReplayPayload :=
  let tokens := replayTokens runtime replayRequest events
  if replayTimes runtime replayRequest events = [] then .ok { toPayload := base.fallBack {
    status := .unavailable
    reason := some (text
      "No trade-derived token inventory with timestamps was available from the public Data API window.")
    tradesWithoutToken := tokens.withoutToken
    clippedTokenIds := tokens.clipped } }
  else
    match priceHistory (priceRequest runtime now replayRequest events) with
    | .error .cancelled => .error .cancelled
    | .error (.failed kind) => .ok { toPayload := base.fallBack {
      status := .unavailable
      reason := some (text "CLOB price-history request failed: " ++ kind)
      tokenIds := tokens.ids
      clippedTokenIds := tokens.clipped } }
    | .ok answer => replayHistories runtime now inputs maxPoints replayRequest events base answer

def buildMarkReplayMddPayload : Except InputFailure MarkReplayPayload :=
  match buildHistoricalMddPayload runtime now inputs request maxPoints with
  | .error failure => .error (.failed failure)
  | .ok base =>
    if base.mddSourceQuality.valid = false then .ok { toPayload := { base with
      requestedMddMethod := some markReplayMethod
      markReplay := some {
        status := .unavailable
        reason := some (text "Invalid public source data prevents replay.")
        incompleteReasons := base.mddUnavailableReasons }
      fallbackV2 := some base.observed } }
    else
      match canonicalTradeEvents runtime (inputs.activityEvents.map fields) (inputs.tradeRows.map fields) with
      | .error failure => .error (.failed failure)
      | .ok events => replayEvents runtime now priceHistory inputs maxPoints replayRequest events base

/-- `polymarket_user_mdd_payload_mark_replay` without an accounting snapshot. -/
def userMddPayloadMarkReplay (provider : Provider) (limits : InputLimits) (wallet : Text) :
    Except InputFailure MarkReplayPayload := do
  let _ ← (equityCurrency request.equityBaseCurrency request.equityBaseUsd.isSome none).mapError .failed
  let inputs ← fetchMddInputs runtime now provider limits wallet
  buildMarkReplayMddPayload runtime now priceHistory inputs request maxPoints replayRequest

end Build

end MarketSentinel.Mdd
