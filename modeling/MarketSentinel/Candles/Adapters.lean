import MarketSentinel.Candles.Feed
import MarketSentinel.Listing.Dflow

/-! Four adapters that derive candles from the trades they list.

None of them sorts the trades: a venue that answers newest first gives candles
that open late and close early.
-/

set_option autoImplicit false

namespace MarketSentinel.Candles

open Python Wallet Listing

def isAlphanumeric (c : CodePoint) : Bool :=
  (48 ≤ c.val && c.val ≤ 57) || (65 ≤ c.val && c.val ≤ 90) || (97 ≤ c.val && c.val ≤ 122)

/-- A letter or a digit, then these and some other characters up to a length. -/
def isSegment (others : String) (longest : Nat) (t : Text) : Bool :=
  match t with
  | [] => false
  | first :: rest =>
    isAlphanumeric first && rest.all (fun c => isAlphanumeric c || decide (c ∈ text others)) && decide (t.length ≤ longest)

/-- `_id`: the first identifier that is given. -/
def idOf (reader : Reader) (row : Item) (names : List String) : Text :=
  let value := valueOf row ("id" :: names)
  if value = .null then [] else strip (reader.str value)

/-- `str(self._value(..) or "").strip()`. -/
def valueLabel (reader : Reader) (row : Item) (names : List String) : Text := strip (reader.orEmpty (valueOf row names))

def stamped (_ : Bounds) (trade : MarketTrade) : Option Timed := trade.timestamp.map fun timestamp => (timestamp, trade)

/-- Trades before the epoch are skipped. -/
def stampedSinceEpoch (_ : Bounds) (trade : MarketTrade) : Option Timed := timed trade

/-- A configured limit between one and a maximum. -/
def tradeLimit (integer range : String) (maximum : Int) (value : Json) : Except Fault Nat := do
  match ← intOf value with
  | none => refuse integer
  | some limit => if limit < 1 ∨ maximum < limit then refuse range else .ok limit.toNat

/-- Above a hundred thousand million a number counts milliseconds. -/
def epochSeconds (number : ℚ) : ℚ := if 100000000000 < number then number / 1000 else number

def normalized (reader : Reader) (resolution : Text) : Text := reader.casing.lower (strip resolution)

/-! ## SX Bet -/

namespace SxBet

variable (reader : Reader)

def splitContractId (contractId : Text) : Except Fault (Text × Text) :=
  let raw := strip contractId
  if raw = [] then refuse "SX Bet order requires a contract id."
  else
    let (marketHash, outcome) := (Venue.splitLast raw).getD (raw, text "ONE")
    let marketHash := strip marketHash
    let outcome := reader.casing.upper (strip outcome)
    if marketHash = [] then refuse "SX Bet contract id must include a market hash."
    else if outcome ≠ text "ONE" ∧ outcome ≠ text "TWO" then refuse "SX Bet contract outcome must be ONE or TWO."
    else .ok (marketHash, outcome)

def historyTimestamp (label : String) : Json → Except Fault ℚ :=
  numericTimestamp ("SX Bet " ++ label ++ " timestamp must be numeric epoch seconds.")
    ("SX Bet " ++ label ++ " timestamp must be a finite nonnegative epoch second.")

def candleTradeLimit (config : Item) : Except Fault Nat :=
  tradeLimit "SX Bet candle trade limit must be an integer between 1 and 100."
    "SX Bet candle trade limit must be between 1 and 100." 100 (setting config "sx_bet_candle_trade_limit" (.int 100))

/-- `int(self.config.get("sx_bet_base_token_decimals") or 6)`. -/
def baseTokenDecimals (config : Item) : Except Fault Int := do
  let value := config.get "sx_bet_base_token_decimals"
  match ← intOf (if value.truthy then value else .int 6) with
  | some decimals => .ok decimals
  | none => .error .raised

def boolean (value : Json) : Option Bool :=
  if value.numeric = some (.finite 1) then some true
  else if value.numeric = some (.finite 0) then some false
  else
    let t := reader.casing.lower (strip (reader.orEmpty value))
    if t = text "true" ∨ t = text "1" ∨ t = text "yes" then some true
    else if t = text "false" ∨ t = text "0" ∨ t = text "no" then some false
    else none

def oddsScale : ℚ := 10 ^ 20

def scaledProbability (value : Json) : Option ℚ :=
  ((finite value).map fun number => if 1 < number then number / oddsScale else number).filter fun number =>
    0 ≤ number && number ≤ 1

def timestampSeconds (value : Json) : Option ℚ :=
  if blank value then none
  else
    match value.numeric with
    | some (.finite number) => if number < 0 then none else some number
    | some _ => none
    | none =>
      let t := strip (reader.str value)
      if t = [] then none
      else
        match reader.isoSeconds t with
        | some seconds => some seconds
        | none => (finite (.str t)).filter (0 ≤ ·)

def rows (payload : Json) : List Item :=
  match payload with
  | .obj fields =>
    match Item.get fields "data" with
    | .obj data => Dflow.objects ((Feed.arrayOf (Item.get data "trades")).getD [])
    | _ => []
  | _ => []

/-- A trade of the outcome with its stake in base units. -/
def entry (marketHash outcome : Text) (raw : Item) : Reading MarketTrade := do
  guard (reader.casing.lower (labelOf reader.toSpelling raw ["marketHash"]) = reader.casing.lower marketHash)
  guard (boolean reader (raw.get "isBettingOutcomeOne") = some (decide (outcome = text "ONE")))
  let tradeId := labelOf reader.toSpelling raw ["tradeId", "id"]
  guard (tradeId ≠ [])
  let some price := scaledProbability (raw.get "weightedAverageOdds") | failure
  let some stake := (PyFloat.ofJson (raw.get "totalStake")).toOption | failure
  -- A stake that is not a number is not below zero either.
  guard (PyFloat.exact.le stake (.finite 0) = false)
  pure { tradeId, side := text "BUY", price, size := stake, timestamp := timestampSeconds reader (firstField raw ["betTime", "createdAt"]) }

/-- `_from_base_units`. -/
def finish (config : Item) (_ : Item) (trade : MarketTrade) : Reading MarketTrade := do
  let decimals ← OptionT.lift (baseTokenDecimals config)
  pure { trade with size := trade.size.div (.finite (10 ^ decimals)) }

def tape (config : Item) (request : Request) : Except Fault Tape := do
  let interval ← candleInterval reader "SX Bet candle resolution must be one of: 1m, 5m, 15m, 30m, 1h, 4h, 1d, 1w."
    request.resolution
  let bounds ← candleBounds historyTimestamp
    "SX Bet candle history requires to_timestamp to be at or after from_timestamp." request
  let limit ← candleTradeLimit config
  let (marketHash, outcome) ← splitContractId reader request.contractId
  return {
    contractId := marketHash ++ text ":" ++ reader.casing.upper outcome, resolution := normalized reader request.resolution
    interval, bounds, limit := some limit, filters := true
    applied := tradeBounds historyTimestamp "SX Bet trade history requires before to be at or after after." bounds
    entry := entry reader marketHash outcome, finish := finish config, stamp := stampedSinceEpoch, counted := clamped }

end SxBet

/-! ## Smarkets -/

namespace Smarkets

variable (reader : Reader)

def splitContractId (contractId : Text) : Except Fault (Text × Text) :=
  match (split 58 contractId).map strip with
  | [market, contract] =>
    if market = [] ∨ contract = [] then refuse "Smarkets contract id must be MARKET_ID:CONTRACT_ID."
    else if ! isSegment "._~-" 200 market then refuse "Smarkets market id contains unsupported path characters."
    else if ! isSegment "._~-" 200 contract then refuse "Smarkets contract id contains unsupported path characters."
    else .ok (market, contract)
  | _ => refuse "Smarkets contract id must be MARKET_ID:CONTRACT_ID."

def timestampSeconds (value : Json) : Option ℚ :=
  if blank value then none
  else
    match value with
    | .int number => some (epochSeconds number)
    | .float (.finite number) => some (epochSeconds number)
    | .float _ => none
    | value =>
      let t := strip (reader.str value)
      if t = [] then none
      else
        match finite (.str t) with
        | some number => some (epochSeconds number)
        | none => reader.isoSeconds t

def historyTimestamp (label : String) (value : Json) : Except Fault ℚ :=
  match (timestampSeconds reader value).filter (0 ≤ ·) with
  | some timestamp => .ok timestamp
  | none => refuse ("Smarkets " ++ label ++ " timestamp must be a valid non-negative epoch or ISO time.")

def accountLimit : Json → Except Fault Nat :=
  tradeLimit "Smarkets account limit must be an integer." "Smarkets account limit must be between 1 and 1000." 1000

def rows (payload : Json) : List Item :=
  match payload with
  | .arr rows => Dflow.objects rows
  | .obj _ =>
    let mapping := Dflow.mappingPayload payload
    (["orders", "data"].findSome? fun name =>
      match mapping.get name with
      | .arr rows => some (Dflow.objects rows)
      | .obj entries => some (entries.filterMap fun entry =>
          (Feed.asItem entry.2).map fun row => Dict.set row (text "id") (.str entry.1))
      | _ => none).getD []
  | _ => []

def tradeSide (value : Json) : Option Text :=
  let normalized := reader.casing.upper (strip (reader.orEmpty value))
  if normalized = text "BUY" ∨ normalized = text "BACK" then some (text "BUY")
  else if normalized = text "SELL" ∨ normalized = text "LAY" then some (text "SELL")
  else none

/-- `_positive_scale` of the quantity scale. -/
def quantityScale (config : Item) : Except Fault ℚ :=
  match PyFloat.ofJson (setting config "smarkets_quantity_scale" (.int 10000)) with
  | .error _ => refuse "Smarkets config smarkets_quantity_scale must be numeric."
  | .ok (.finite scale) =>
    if scale ≤ 0 then refuse "Smarkets config smarkets_quantity_scale must be greater than 0." else .ok scale
  | .ok _ => refuse "Smarkets config smarkets_quantity_scale must be greater than 0."

/-- The quantity in shares; the scale is read only for a row that has one. -/
def executedQuantity (config raw : Item) : Except Fault (Option ℚ) := do
  let value := valueOf raw ["total_executed_quantity", "totalExecutedQuantity", "executed_quantity", "executedQuantity",
    "matched_quantity", "matchedQuantity"]
  match positive value with
  | none => return none
  | some quantity => return some (quantity / (← quantityScale config))

def probability (value : Json) : Option ℚ :=
  ((finite value).map fun number => if 1 < number then number / 10000 else number).filter fun number =>
    0 ≤ number && number ≤ 1

def entry (config : Item) (market contract : Text) (raw : Item) : Reading MarketTrade := do
  let rowMarket := valueLabel reader raw ["market_id", "marketId", "market"]
  let rowContract := valueLabel reader raw ["contract_id", "contractId", "contract"]
  guard (rowMarket = [] ∨ rowMarket = market)
  guard (rowContract = [] ∨ rowContract = contract)
  let size ← OptionT.lift (executedQuantity config raw)
  let some side := tradeSide reader (valueOf raw ["side", "order_side"]) | failure
  let some size := size | failure
  let some price := probability (valueOf raw ["average_executed_price", "averageExecutedPrice", "executed_price", "price"])
    | failure
  let some timestamp := timestampSeconds reader (valueOf raw ["executed_at", "executedAt", "last_executed_at",
    "lastExecutedAt", "updated_at", "updatedAt", "created_at", "createdAt"]) | failure
  let tradeId := idOf reader raw ["order_id", "trade_id", "tradeId"]
  guard (tradeId ≠ [])
  pure { tradeId, side, price, size := .finite size, timestamp := some timestamp }

def tape (config : Item) (request : Request) : Except Fault Tape := do
  let (market, contract) ← splitContractId request.contractId
  let interval ← candleInterval reader "Smarkets candle resolution must be one of: 1m, 5m, 15m, 30m, 1h, 4h, 1d, 1w."
    request.resolution
  let bounds ← candleBounds (historyTimestamp reader)
    "Smarkets candle history requires to_timestamp to be at or after from_timestamp." request
  let limit ← accountLimit (setting config "smarkets_candle_trade_limit" (.int 1000))
  return {
    contractId := market ++ text ":" ++ contract, resolution := normalized reader request.resolution
    interval, bounds, limit := some limit, filters := true
    applied := tradeBounds (historyTimestamp reader)
      "Smarkets trade history requires before to be at or after after." bounds
    entry := entry reader config market contract, finish := fun _ trade => pure trade, stamp := stamped, counted := id }

end Smarkets

/-! ## Prophet Exchange -/

namespace ProphetExchange

variable (reader : Reader)

/-- `^[0-9]{1,32}$`. -/
def isNumericId (t : Text) : Bool := decide (t ≠ []) && decide (t.length ≤ 32) && t.all isDigit

def isPathSegment : Text → Bool := isSegment "._-" 128

structure ContractRef where
  event : Text
  market : Text
  outcome : Text
  line : Text

def splitContractId (contractId : Text) : Except Fault ContractRef :=
  match (split 58 contractId).map strip with
  | [event, market, outcome, line] =>
    if ! isNumericId event then refuse "Prophet Exchange event id must be a positive numeric identifier."
    else if ! isNumericId market then refuse "Prophet Exchange market id must be a positive numeric identifier."
    else if ! isNumericId outcome then refuse "Prophet Exchange outcome id must be a positive numeric identifier."
    else if ! isPathSegment line then refuse "Prophet Exchange contract line id is invalid."
    else .ok ⟨event, market, outcome, line⟩
  | _ => refuse "Prophet Exchange contract id must be EVENT_ID:MARKET_ID:OUTCOME_ID:LINE_ID."

def timestampSeconds (value : Json) : Option ℚ :=
  if blank value then none
  else
    match value with
    | .int number => some (epochSeconds number)
    | .float (.finite number) => some (epochSeconds number)
    | .float _ => none
    | value =>
      let t := strip (reader.str value)
      match finite (.str t) with
      | some number => some (epochSeconds number)
      | none => reader.isoSeconds t

def historyTimestamp (label : String) (value : Json) : Except Fault ℚ :=
  match (timestampSeconds reader value).filter (0 ≤ ·) with
  | some timestamp => .ok timestamp
  | none => refuse ("Prophet Exchange " ++ label ++ " timestamp must be a valid non-negative epoch or ISO time.")

def boundedTradeLimit (value : Json) : Except Fault Nat := do
  match ← intOf value with
  | none => refuse "Prophet Exchange trade limit must be an integer."
  | some limit =>
    if limit < 0 then refuse "Prophet Exchange trade limit must be non-negative."
    else if limit < 1 ∨ 100 < limit then refuse "Prophet Exchange trade limit must be between 1 and 100."
    else .ok limit.toNat

/-- `_rows` with one name: under the data, then under the payload itself. -/
def rows (name : String) (payload : Json) : List Item :=
  match payload with
  | .arr rows => Dflow.objects rows
  | .obj fields =>
    match Item.get fields "data" with
    | .arr rows => Dflow.objects rows
    | .obj data =>
      match Feed.arrayOf (Item.get data name) with
      | some rows => Dflow.objects rows
      | none => Dflow.objects ((Feed.arrayOf (Item.get fields name)).getD [])
    | _ => Dflow.objects ((Feed.arrayOf (Item.get fields name)).getD [])
  | _ => []

def selectionRows (market : Item) : List Item :=
  let flat := fun items : List Json => items.flatMap fun
    | .obj fields => [fields]
    | .arr rows => Dflow.objects rows
    | _ => []
  match firstField market ["selections", "outcomes"] with
  | .obj fields => flat (fields.map Prod.snd)
  | .arr items => flat items
  | _ => []

def lineId (selection : Item) : Except Fault Text :=
  let value := valueOf selection ["line_id", "lineId"]
  if value = .null then .ok (text "default")
  else
    let clean := strip (reader.str value)
    if isPathSegment clean then .ok clean else refuse "Prophet Exchange line_id contains unsupported characters."

def findSelection (outcome line : Text) : List Item → Except Fault (Option Item)
  | [] => .ok none
  | selection :: rest => do
    if idOf reader selection ["outcome_id", "outcomeId", "id"] ≠ outcome then findSelection outcome line rest
    else if (← lineId reader selection) = line then return some selection
    else findSelection outcome line rest

def selectionForContract (markets : Json) (contract : ContractRef) : Except Fault Item := do
  let named := (rows "markets" markets).filter fun market => idOf reader market ["market_id"] = contract.market
  match ← findSelection reader contract.outcome contract.line (named.flatMap selectionRows) with
  | some selection => return selection
  | none => .error (.configuration (text "Prophet Exchange contract " ++ contract.market ++ text ":" ++ contract.outcome ++
      text ":" ++ contract.line ++ text " was not found in event " ++ contract.event ++ text "."))

/-- `_order_for_trade`, by the venue's answers for orders. -/
def orderForTrade (orders : Text → Except Fault Json) (orderId : Json) : Except Fault Item := do
  let reference := strip (reader.orEmpty orderId)
  if ! isPathSegment reference then refuse "Prophet Exchange order reference must be a non-empty path-safe token."
  else
    let mapping := Dflow.mappingPayload (← orders reference)
    return (Feed.asItem (mapping.get "order")).getD mapping

def orderMatchesContract (order : Item) (contract : ContractRef) (targetStrike : Json) : Bool :=
  let rowLine := valueOf order ["line_id", "lineId"]
  let rowStrike := valueOf order ["strike_id", "strikeId"]
  decide (valueLabel reader order ["sport_event_id", "event_id", "eventId"] = contract.event) &&
    decide (valueLabel reader order ["market_id", "marketId"] = contract.market) &&
    decide (valueLabel reader order ["outcome_id", "outcomeId"] = contract.outcome) &&
    (blank rowLine || decide (strip (reader.str rowLine) = contract.line)) &&
    (blank targetStrike || blank rowStrike || decide (strip (reader.str rowStrike) = strip (reader.str targetStrike)))

/-- A decimal price is turned into a probability. -/
def probability (value : Json) : Option ℚ :=
  (positive value).map fun number => if 1 < number then 1 / number else number

def orderIdOf (raw : Item) : Json := valueOf raw ["order_id", "orderId"]

def entry (raw : Item) : Reading MarketTrade := do
  let tradeId := idOf reader raw ["trade_id", "tradeId"]
  guard (tradeId ≠ [] ∧ orderIdOf raw ≠ .null)
  let some price := probability (valueOf raw ["price", "odds", "decimal_price", "decimalPrice"]) | failure
  let some size := positive (valueOf raw ["quantity", "size", "stake", "amount"]) | failure
  let some timestamp := timestampSeconds reader (valueOf raw ["matched_at", "matchedAt", "timestamp", "created_at",
    "createdAt"]) | failure
  pure { tradeId, side := text "BUY", price, size := .finite size, timestamp := some timestamp }

/-- A trade of the contract by its order. -/
def finish (orders : Text → Except Fault Json) (contract : ContractRef) (targetStrike : Json) (raw : Item)
    (trade : MarketTrade) : Reading MarketTrade := do
  let order ← OptionT.lift (orderForTrade reader orders (orderIdOf raw))
  guard (orderMatchesContract reader order contract targetStrike)
  pure trade

def tape (config : Item) (markets : Json) (orders : Text → Except Fault Json) (request : Request) : Except Fault Tape := do
  let interval ← candleInterval reader
    "Prophet Exchange candle resolution must be one of: 1m, 5m, 15m, 30m, 1h, 4h, 1d, 1w" request.resolution
  let bounds ← candleBounds (historyTimestamp reader)
    "Prophet Exchange candle history requires to_timestamp to be at or after from_timestamp." request
  let limit ← boundedTradeLimit (setting config "prophet_exchange_candle_trade_limit" (.int 100))
  let contract ← splitContractId request.contractId
  let selection ← selectionForContract reader markets contract
  return {
    contractId := contract.event ++ text ":" ++ contract.market ++ text ":" ++ contract.outcome ++ text ":" ++ contract.line
    resolution := normalized reader request.resolution, interval, bounds, limit := some limit, filters := true
    applied := tradeBounds (historyTimestamp reader)
      "Prophet Exchange trade history requires before to be at or after after." bounds
    entry := entry reader, finish := finish reader orders contract (valueOf selection ["strike_id", "strikeId"])
    stamp := stamped, counted := id }

end ProphetExchange

/-! ## DFlow -/

namespace Dflow

open Listing.Dflow

variable (reader : Reader)

def historyTimestamp (label : String) : Json → Except Fault ℚ :=
  numericTimestamp ("DFlow " ++ label ++ " timestamp must be numeric.")
    ("DFlow " ++ label ++ " timestamp must be a finite non-negative number.")

/-- The bounds in whole seconds. -/
def wholeSeconds (bounds : Bounds) : Bounds :=
  ⟨bounds.after.map fun after => ⌊after⌋, bounds.before.map fun before => ⌊before⌋⟩

def candleTradeLimit (config : Item) : Except Fault Nat :=
  tradeLimit "DFlow candle trade limit must be an integer between 1 and 1000."
    "DFlow candle trade limit must be between 1 and 1000." 1000 (setting config "dflow_candle_trade_limit" (.int 1000))

def tradePrice (raw : Item) (outcome : Text) : Option ℚ :=
  let names := if outcome = text "YES" then ["yesPrice", "yesPriceDollars"] else ["noPrice", "noPriceDollars"]
  (names ++ ["price", "priceDollars"]).findSome? fun name => probability (raw.get name)

def sideOf (raw : Item) (outcome : Text) : Text :=
  let takerSide := reader.casing.upper (labelOf reader.toSpelling raw ["takerSide", "taker_side"])
  if takerSide ∈ [text "BUY", text "SELL", text "YES", text "NO"] then takerSide else outcome

def entry (ticker outcome : Text) (raw : Item) : Reading MarketTrade := do
  let rowTicker := reader.casing.upper (labelOf reader.toSpelling raw ["ticker"])
  guard (rowTicker = [] ∨ rowTicker = ticker)
  let some price := tradePrice raw outcome | failure
  let some size := positive (firstField raw ["countFp", "count", "quantity"]) | failure
  let tradeId := labelOf reader.toSpelling raw ["tradeId", "trade_id", "id"]
  guard (tradeId ≠ [])
  pure {
    tradeId, side := sideOf reader raw outcome, price, size := .finite size
    timestamp := Listing.Dflow.timestampSeconds (firstField raw ["createdTime", "created_time", "timestamp"]) }

/-- The trades since the epoch and within the bounds. -/
def stamp (bounds : Bounds) (trade : MarketTrade) : Option Timed := (timed trade).filter fun timed => bounds.admits timed.1

def tape (config : Item) (apiKey : Bool) (metadata : Metadata) (cache : Cache) (request : Request) : Except Fault Tape := do
  let interval ← candleInterval reader "DFlow candle resolution must be one of: 1m, 5m, 15m, 30m, 1h, 4h, 1d, 1w."
    request.resolution
  let after ← given (historyTimestamp "from_timestamp") request.fromTimestamp
  let before ← given (historyTimestamp "to_timestamp") request.toTimestamp
  let applied ← Bounds.checked (wholeSeconds ⟨after, before⟩)
    "DFlow candle history requires to_timestamp to be at or after from_timestamp."
  let _ ← candleTradeLimit config
  if apiKey = false then refuse "Missing required credential for dflow: dflow_api_key, DFLOW_API_KEY"
  else
    let preferred := settlementMint reader.toSpelling config
    let (contract, cache) ← resolveContract reader.toSpelling preferred metadata cache request.contractId
    let (again, _) ← resolveContract reader.toSpelling preferred metadata cache request.contractId
    return {
      contractId := again.canonical, resolution := normalized reader request.resolution
      interval, bounds := ⟨after, before⟩, limit := none, filters := false, applied := .ok applied
      entry := entry reader (reader.casing.upper (marketId reader.toSpelling contract.market)) contract.outcome
      finish := fun _ trade => pure trade, stamp, counted := clamped }

end Dflow

/-! ## Usable trades have a positive size -/

/-- The size of a trade is a positive number. -/
def HasSize (trade : MarketTrade) : Prop := ∃ size, trade.size = .finite size ∧ 0 < size

theorem positive_pos {value : Json} {number : ℚ} (read : positive value = some number) : 0 < number := by
  simpa using (Option.filter_eq_some_iff.mp read).2

theorem lift_eq_some {α : Type} {result : Except Fault α} {value : α} :
    (OptionT.lift result : Reading α).run = .ok (some value) ↔ result = .ok value := by
  cases result with
  | error fault =>
    constructor
    · intro read
      cases read
    · intro read
      cases read
  | ok found =>
    constructor
    · intro read
      cases read
      rfl
    · intro read
      cases read
      rfl

theorem SxBet.entry_size {reader : Reader} {marketHash outcome : Text} {raw : Item} {trade : MarketTrade}
    (read : (SxBet.entry reader marketHash outcome raw).run = .ok (some trade)) :
    PyFloat.ofJson (raw.get "totalStake") = .ok trade.size ∧ PyFloat.exact.le trade.size (.finite 0) = false := by
  unfold SxBet.entry at read
  obtain ⟨_, _, read⟩ := Reading.bind_eq_some.mp read
  obtain ⟨_, _, read⟩ := Reading.bind_eq_some.mp read
  dsimp only at read
  obtain ⟨_, _, read⟩ := Reading.bind_eq_some.mp read
  split at read
  · split at read
    · rename_i stake number
      obtain ⟨_, above, read⟩ := Reading.bind_eq_some.mp read
      cases read
      exact ⟨Result.toOption_eq_some number, Reading.guard_eq_some.mp above⟩
    · cases read
  · cases read

theorem SxBet.finish_size {config raw : Item} {entry trade : MarketTrade} {stake : ℚ} (number : entry.size = .finite stake)
    (above : 0 < stake) (read : (SxBet.finish config raw entry).run = .ok (some trade)) : HasSize trade := by
  obtain ⟨decimals, _, read⟩ := Reading.bind_eq_some.mp read
  cases read
  refine ⟨stake / 10 ^ decimals, ?_, div_pos above (zpow_pos (by norm_num) decimals)⟩
  rw [number]
  rfl

theorem Smarkets.executedQuantity_pos {config raw : Item} {size : ℚ}
    (read : Smarkets.executedQuantity config raw = .ok (some size)) : 0 < size := by
  unfold Smarkets.executedQuantity at read
  dsimp only at read
  split at read
  · cases read
  · rename_i quantity given
    obtain ⟨scale, scaled, read⟩ := Result.bind_eq_ok.mp read
    cases read
    have above : 0 < scale := by
      unfold Smarkets.quantityScale at scaled
      split at scaled
      · cases scaled
      · split at scaled
        · cases scaled
        · cases scaled
          linarith
      · cases scaled
    exact div_pos (positive_pos given) above

theorem Smarkets.entry_size {reader : Reader} {config : Item} {market contract : Text} {raw : Item} {trade : MarketTrade}
    (read : (Smarkets.entry reader config market contract raw).run = .ok (some trade)) : HasSize trade := by
  unfold Smarkets.entry at read
  dsimp only at read
  obtain ⟨_, _, read⟩ := Reading.bind_eq_some.mp read
  obtain ⟨_, _, read⟩ := Reading.bind_eq_some.mp read
  obtain ⟨size, executed, read⟩ := Reading.bind_eq_some.mp read
  rw [lift_eq_some] at executed
  split at read
  · cases size with
    | none => cases read
    | some size =>
      dsimp only at read
      split at read
      · split at read
        · obtain ⟨_, _, read⟩ := Reading.bind_eq_some.mp read
          cases read
          exact ⟨size, rfl, Smarkets.executedQuantity_pos executed⟩
        · cases read
      · cases read
  · cases read

theorem ProphetExchange.entry_size {reader : Reader} {raw : Item} {trade : MarketTrade}
    (read : (ProphetExchange.entry reader raw).run = .ok (some trade)) : HasSize trade := by
  unfold ProphetExchange.entry at read
  dsimp only at read
  obtain ⟨_, _, read⟩ := Reading.bind_eq_some.mp read
  split at read
  · split at read
    · rename_i size given
      split at read
      · cases read
        exact ⟨size, rfl, positive_pos given⟩
      · cases read
    · cases read
  · cases read

theorem ProphetExchange.finish_eq {reader : Reader} {orders : Text → Except Fault Json}
    {contract : ProphetExchange.ContractRef} {strike : Json} {raw : Item} {entry trade : MarketTrade}
    (read : (ProphetExchange.finish reader orders contract strike raw entry).run = .ok (some trade)) : trade = entry := by
  obtain ⟨_, _, read⟩ := Reading.bind_eq_some.mp read
  obtain ⟨_, _, read⟩ := Reading.bind_eq_some.mp read
  cases read
  rfl

theorem Dflow.entry_size {reader : Reader} {ticker outcome : Text} {raw : Item} {trade : MarketTrade}
    (read : (Dflow.entry reader ticker outcome raw).run = .ok (some trade)) : HasSize trade := by
  unfold Dflow.entry at read
  dsimp only at read
  obtain ⟨_, _, read⟩ := Reading.bind_eq_some.mp read
  split at read
  · split at read
    · rename_i size given
      obtain ⟨_, _, read⟩ := Reading.bind_eq_some.mp read
      cases read
      exact ⟨size, rfl, positive_pos given⟩
    · cases read
  · cases read

/-! ## The adapters together -/

inductive Adapter where
  | sxBet (config : Item)
  | smarkets (config : Item)
  | prophetExchange (config : Item) (markets : Json) (orders : Text → Except Fault Json)
  | dflow (config : Item) (apiKey : Bool) (metadata : Listing.Dflow.Metadata) (cache : Listing.Dflow.Cache)

namespace Adapter

/-- What an adapter makes of the arguments of `list_candles`. -/
def tape (reader : Reader) : Adapter → Request → Except Fault Tape
  | .sxBet config => SxBet.tape reader config
  | .smarkets config => Smarkets.tape reader config
  | .prophetExchange config markets orders => ProphetExchange.tape reader config markets orders
  | .dflow config apiKey metadata cache => Dflow.tape reader config apiKey metadata cache

def rows : Adapter → Json → List Item
  | .sxBet _ => SxBet.rows
  | .smarkets _ => Smarkets.rows
  | .prophetExchange .. => ProphetExchange.rows "trades"
  | .dflow .. => Listing.Dflow.rows ["trades", "data"]

/-- `list_candles` on an answer of the venue. -/
def listCandles (reader : Reader) (adapter : Adapter) (request : Request) (payload : Json) :
    Except Fault (List MarketCandle) := do
  let tape ← adapter.tape reader request
  tape.listCandles (adapter.rows payload)

/-- The stakes of SX Bet, which alone admits infinities and what is not a number, are numbers. -/
def StakesAreNumbers : Adapter → List Item → Prop
  | .sxBet _, rows => ∀ raw ∈ rows, ∀ stake, PyFloat.ofJson (raw.get "totalStake") = .ok stake →
      ∃ number, stake = .finite number
  | _, _ => True

/-- Every list of rows is in some answer. -/
def payloadOf : Adapter → List Item → Json
  | .sxBet _, rows => .obj [(text "data", .obj [(text "trades", .arr (rows.map .obj))])]
  | .smarkets _, rows | .prophetExchange .., rows | .dflow .., rows => .arr (rows.map .obj)

theorem objects_map (rows : List Item) : Listing.Dflow.objects (rows.map .obj) = rows := by
  unfold Listing.Dflow.objects
  rw [List.filterMap_map]
  exact List.filterMap_some

theorem rows_payloadOf (adapter : Adapter) (others : List Item) : adapter.rows (adapter.payloadOf others) = others := by
  cases adapter with
  | sxBet => exact objects_map others
  | smarkets => exact objects_map others
  | prophetExchange => exact objects_map others
  | dflow =>
    rw [rows, payloadOf, Listing.Dflow.rows]
    exact objects_map others

variable {reader : Reader} {adapter : Adapter} {request : Request} {tape : Tape}

/-- What the tape of an adapter does with its trades. -/
structure Sound (adapter : Adapter) (tape : Tape) : Prop where
  keeps : Keeps tape.counted
  stamps : Tape.Stamps tape.stamp
  sizes : ∀ rows : List Item, adapter.StakesAreNumbers rows → ∀ trade ∈ tape.usable rows, HasSize trade

theorem stamps_stamped : Tape.Stamps stamped := by
  intro bounds trade timed stamp
  obtain ⟨_, _, rfl⟩ := Option.map_eq_some_iff.mp stamp
  rfl

theorem timed_snd {trade : MarketTrade} {counted : Timed} (read : timed trade = some counted) : counted.2 = trade := by
  unfold timed at read
  split at read
  · split at read
    · cases read
    · cases read
      rfl
  · cases read

theorem stamps_stampedSinceEpoch : Tape.Stamps stampedSinceEpoch := fun _ _ _ read => timed_snd read

theorem stamps_dflow : Tape.Stamps Dflow.stamp := fun _ _ _ read => timed_snd (Option.filter_eq_some_iff.mp read).1

/-- The sizes of usable trades, from the sizes of the entries and what is made of them. -/
theorem sizes_of_entry {rows : List Item} (holds : Item → MarketTrade → Prop)
    (entries : ∀ raw ∈ rows, ∀ trade, (tape.entry raw).run = .ok (some trade) → holds raw trade)
    (finishes : ∀ raw entry trade, holds raw entry → (tape.finish raw entry).run = .ok (some trade) → HasSize trade) :
    ∀ trade ∈ tape.usable rows, HasSize trade := by
  intro trade member
  obtain ⟨raw, listed, read⟩ := List.mem_filterMap.mp member
  obtain ⟨entry, here, _, finished⟩ := Tape.tradeOf_eq_some.mp read
  exact finishes raw entry trade (entries raw listed entry here) finished

theorem pure_eq_some {trade other : MarketTrade} (read : (pure trade : Reading MarketTrade).run = .ok (some other)) :
    other = trade := by
  cases read
  rfl

theorem sound (admitted : adapter.tape reader request = .ok tape) : Sound adapter tape := by
  cases adapter with
  | sxBet config =>
    obtain ⟨interval, _, admitted⟩ := Result.bind_eq_ok.mp admitted
    obtain ⟨bounds, _, admitted⟩ := Result.bind_eq_ok.mp admitted
    obtain ⟨limit, _, admitted⟩ := Result.bind_eq_ok.mp admitted
    obtain ⟨⟨marketHash, outcome⟩, _, admitted⟩ := Result.bind_eq_ok.mp admitted
    cases admitted
    refine ⟨keeps_clamped, stamps_stampedSinceEpoch, fun rows numbers => ?_⟩
    apply sizes_of_entry fun _ trade => ∃ stake, trade.size = .finite stake ∧ 0 < stake
    · intro raw member trade read
      obtain ⟨stake, above⟩ := SxBet.entry_size read
      obtain ⟨number, same⟩ := numbers raw member _ stake
      rw [same] at above
      refine ⟨number, same, ?_⟩
      simpa using above
    · intro raw entry trade ⟨stake, same, above⟩ read
      exact @SxBet.finish_size config raw entry trade stake same above read
  | smarkets config =>
    obtain ⟨⟨market, contract⟩, _, admitted⟩ := Result.bind_eq_ok.mp admitted
    obtain ⟨interval, _, admitted⟩ := Result.bind_eq_ok.mp admitted
    obtain ⟨bounds, _, admitted⟩ := Result.bind_eq_ok.mp admitted
    obtain ⟨limit, _, admitted⟩ := Result.bind_eq_ok.mp admitted
    cases admitted
    refine ⟨keeps_id, stamps_stamped, fun rows _ => ?_⟩
    apply sizes_of_entry fun _ trade => HasSize trade
    · exact fun raw _ trade read => Smarkets.entry_size read
    · intro raw entry trade size read
      rwa [pure_eq_some read]
  | prophetExchange config markets orders =>
    obtain ⟨interval, _, admitted⟩ := Result.bind_eq_ok.mp admitted
    obtain ⟨bounds, _, admitted⟩ := Result.bind_eq_ok.mp admitted
    obtain ⟨limit, _, admitted⟩ := Result.bind_eq_ok.mp admitted
    obtain ⟨contract, _, admitted⟩ := Result.bind_eq_ok.mp admitted
    obtain ⟨selection, _, admitted⟩ := Result.bind_eq_ok.mp admitted
    cases admitted
    refine ⟨keeps_id, stamps_stamped, fun rows _ => ?_⟩
    apply sizes_of_entry fun _ trade => HasSize trade
    · exact fun raw _ trade read => ProphetExchange.entry_size read
    · intro raw entry trade size read
      rwa [ProphetExchange.finish_eq read]
  | dflow config apiKey metadata cache =>
    obtain ⟨interval, _, admitted⟩ := Result.bind_eq_ok.mp admitted
    obtain ⟨after, _, admitted⟩ := Result.bind_eq_ok.mp admitted
    obtain ⟨before, _, admitted⟩ := Result.bind_eq_ok.mp admitted
    obtain ⟨applied, _, admitted⟩ := Result.bind_eq_ok.mp admitted
    obtain ⟨_, _, admitted⟩ := Result.bind_eq_ok.mp admitted
    dsimp only at admitted
    split at admitted
    · cases admitted
    · obtain ⟨⟨contract, left⟩, _, admitted⟩ := Result.bind_eq_ok.mp admitted
      obtain ⟨⟨again, _⟩, _, admitted⟩ := Result.bind_eq_ok.mp admitted
      cases admitted
      refine ⟨keeps_clamped, stamps_dflow, fun rows _ => ?_⟩
      apply sizes_of_entry fun _ trade => HasSize trade
      · exact fun raw _ trade read => Dflow.entry_size read
      · intro raw entry trade size read
        rwa [pure_eq_some read]

/-- `list_candles` gives the derived candles for every answer with the same rows in some order, exactly when the
bounds are taken again, no row stops the listing, and in each bucket the trades have one price. -/
theorem listCandles_every_order_iff (payload : Json) (admitted : adapter.tape reader request = .ok tape)
    (fits : ∀ limit, tape.limit = some limit → (tape.usable (adapter.rows payload)).length ≤ limit)
    (numbers : adapter.StakesAreNumbers (adapter.rows payload)) :
    (∀ other : Json, (adapter.rows other).Perm (adapter.rows payload) →
      ∃ candles, adapter.listCandles reader request other = .ok candles ∧
        candles.map MarketCandle.figures = derivedCandles tape.interval (tape.within tape.bounds (adapter.rows payload))) ↔
    ∃ bounds, tape.applied = .ok bounds ∧ (∀ row ∈ adapter.rows payload, Readable (tape.tradeOf bounds) row) ∧
      Uniform tape.interval (tape.within bounds (adapter.rows payload)) (tape.within tape.bounds (adapter.rows payload)) := by
  have sound := sound admitted
  rw [← Tape.candles_every_order_iff sound.keeps sound.stamps fits (sound.sizes _ numbers)]
  have listed : ∀ other, adapter.listCandles reader request other = tape.listCandles (adapter.rows other) := by
    intro other
    rw [listCandles, admitted]
    rfl
  constructor
  · intro every others perm
    obtain ⟨candles, read, shown⟩ := every (adapter.payloadOf others) (by rwa [rows_payloadOf])
    rw [listed, rows_payloadOf] at read
    exact ⟨candles, read, shown⟩
  · intro every other perm
    rw [listed]
    exact every (adapter.rows other) perm

/-! ## A tape with its newest trade first -/

def plainReader : Reader where
  toSpelling := plainSpelling
  isoSeconds _ := none

def hourly : Request := ⟨text "m:ONE", text "1h", .null, .null⟩

/-- A stake of one on the first outcome. -/
def stakeRow (id : String) (odds : ℚ) (second : Int) : Item :=
  record [("marketHash", .str (text "m")), ("isBettingOutcomeOne", .bool true), ("tradeId", .str (text id)),
    ("weightedAverageOdds", .float (.finite odds)), ("totalStake", .int 1000000), ("betTime", .int second)]

def stakes (later : ℚ) : Json := (sxBet []).payloadOf [stakeRow "b" later 120, stakeRow "a" (2 / 5) 60]

def hourlyTape : Tape where
  contractId := text "m:ONE"
  resolution := text "1h"
  interval := 3600
  bounds := Bounds.none
  limit := some 100
  filters := true
  applied := tradeBounds SxBet.historyTimestamp "SX Bet trade history requires before to be at or after after." Bounds.none
  entry := SxBet.entry plainReader (text "m") (text "ONE")
  finish := SxBet.finish []
  stamp := stampedSinceEpoch
  counted := clamped

private theorem hourlyTape_admitted : (sxBet []).tape plainReader hourly = .ok hourlyTape := by
  have interval : candleInterval plainReader "SX Bet candle resolution must be one of: 1m, 5m, 15m, 30m, 1h, 4h, 1d, 1w."
      hourly.resolution = .ok 3600 := by decide +kernel
  have contract : SxBet.splitContractId plainReader hourly.contractId = .ok (text "m", text "ONE") := by decide +kernel
  have limit : SxBet.candleTradeLimit [] = .ok 100 := by decide +kernel
  have named : text "m" ++ text ":" ++ plainReader.casing.upper (text "ONE") = text "m:ONE" := by decide +kernel
  have lowered : normalized plainReader hourly.resolution = text "1h" := by decide +kernel
  rw [tape, SxBet.tape, interval, contract, limit]
  change Except.ok _ = Except.ok _
  rw [named, lowered]
  rfl

private theorem stakes_numbers (later : ℚ) : (sxBet []).StakesAreNumbers ((sxBet []).rows (stakes later)) := by
  rw [stakes, rows_payloadOf]
  intro raw member stake read
  have whole : raw.get "totalStake" = .int 1000000 := by
    rcases List.mem_pair.mp member with rfl | rfl
    · exact get_record _ _
    · exact get_record _ _
  rw [whole] at read
  cases read
  exact ⟨_, rfl⟩

/-- Two trades of an hour, the later one delivered first: the candle opens with the later price. -/
theorem listCandles_opens_late :
    (sxBet []).tape plainReader hourly = .ok hourlyTape ∧
    ((hourlyTape.within Bounds.none ((sxBet []).rows (stakes (3 / 5)))).map Prod.fst).Nodup ∧
    (hourlyTape.usable ((sxBet []).rows (stakes (3 / 5)))).length ≤ 100 ∧
    ((sxBet []).listCandles plainReader hourly (stakes (3 / 5))).map (List.map MarketCandle.figures) =
      .ok [⟨0, 3 / 5, 3 / 5, 2 / 5, 2 / 5, .finite 2⟩] ∧
    derivedCandles 3600 (hourlyTape.within Bounds.none ((sxBet []).rows (stakes (3 / 5)))) =
      [⟨0, 2 / 5, 3 / 5, 2 / 5, 3 / 5, .finite 2⟩] := by
  refine ⟨hourlyTape_admitted, ?_, ?_, ?_, ?_⟩
  all_goals decide +kernel

/-- Two trades of an hour at one price give the same candle in either order. -/
theorem listCandles_flat_hour :
    ∃ candles, (sxBet []).listCandles plainReader hourly ((sxBet []).payloadOf [stakeRow "a" (2 / 5) 60, stakeRow "b" (2 / 5) 120]) =
        .ok candles ∧
      candles.map MarketCandle.figures =
        derivedCandles 3600 (hourlyTape.within Bounds.none ((sxBet []).rows (stakes (2 / 5)))) := by
  apply (listCandles_every_order_iff (stakes (2 / 5)) hourlyTape_admitted ?_ (stakes_numbers (2 / 5))).mpr
  · refine ⟨Bounds.none, by decide +kernel, ?_, ?_⟩
    · have read : ∀ row ∈ (sxBet []).rows (stakes (2 / 5)), (fill? (hourlyTape.tradeOf Bounds.none) row).isSome = true := by
        decide +kernel
      intro row member
      obtain ⟨trade, found⟩ := Option.isSome_iff_exists.mp (read row member)
      exact ⟨some trade, fill?_eq_some.mp found⟩
    · have flat : ∀ trade ∈ hourlyTape.within Bounds.none ((sxBet []).rows (stakes (2 / 5))), trade.2.price = 2 / 5 := by
        decide +kernel
      intro timestamp
      refine ⟨⟨2 / 5, fun trade member => ?_⟩, rfl⟩
      rcases List.mem_append.mp member with inside | inside
      · exact flat trade (Grouping.mem_group.mp inside).1
      · exact flat trade (Grouping.mem_group.mp inside).1
  · rw [stakes, rows_payloadOf, rows_payloadOf]
    exact List.Perm.swap _ _ _
  · intro limit limited
    cases limited
    have few : (hourlyTape.usable ((sxBet []).rows (stakes (2 / 5)))).length ≤ 100 := by decide +kernel
    exact few

end Adapter

end MarketSentinel.Candles
