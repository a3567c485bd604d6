import MarketSentinel.Library.Grid
import MarketSentinel.Quotes.Kalshi
import MarketSentinel.Venue.Exposure

/-! Live orders on three venues that count in units of their own.

Kalshi is sent decimals, Smarkets multiples of two configured scales, SX Bet
units of a token and odds for the maker. Each is rounded after the checks.
-/

set_option autoImplicit false

namespace MarketSentinel.Quotes

open Python Wallet
open Venue (Runtime Refused Stopped OrderRequest Preflight MarketAdapter Terms)

section Shared

variable (runtime : Runtime)

/-- The checks of `_validate_order` that follow the contract id. -/
def validateTerms (side size price : String) (accepts : PyFloat → Bool) (order : OrderRequest) : Except Refused Unit :=
  if runtime.casing.upper order.side ∉ ["BUY", "SELL"].map text then .error (.configuration (text side))
  else if Venue.isPositiveNumber order.size = false then .error (.configuration (text size))
  else if order.limitPrice.any fun limit => !accepts limit then .error (.configuration (text price))
  else .ok ()

end Shared

namespace Kalshi

def adapter : MarketAdapter := Venue.signedAdapter "kalshi" "Kalshi"

section Sending

variable (runtime : Runtime)

def validateOrder (order : OrderRequest) : Except Refused Unit := do
  Venue.ensureOrderMarket adapter order
  let _ ← splitContractId runtime order.contractId
  validateTerms runtime "Kalshi order side must be BUY or SELL." "Kalshi order size must be positive."
    "Kalshi limit price must be between 0 and 1." (fun limit => (safeProbability (.float limit)).isSome) order

/-- `place_live_order` up to the request; `headers` fails where the credentials are missing. -/
def placeLiveOrder (headers : Except Refused Unit) (config : Item) (fresh : Text) (order : OrderRequest) :
    Except Refused (Preflight × LivePayload) := do
  Venue.ensureCapability adapter
  validateOrder runtime order
  let preflight ← Venue.preflightLiveOrder runtime adapter config order (text "live trading")
  if order.limitPrice = none then .error (.configuration (text "Kalshi live trading requires a limit price."))
  else do
    let payload ← buildLiveOrderPayload runtime config fresh order
    headers
    return (preflight, payload)

/-- What a payload says about the order's own outcome. -/
def LivePayload.terms (outcome : Outcome) (payload : LivePayload) : Option (Terms Text) :=
  match payload.count, payload.price with
  | .finite count, .finite price =>
    match outcome with
    | .yes => some ⟨payload.ticker, decide (payload.side = .bid), count, price⟩
    | .no => some ⟨payload.ticker, decide (payload.side = .ask), count, 1 - price⟩
  | _, _ => none

end Sending

end Kalshi

namespace Smarkets

def adapter : MarketAdapter := Venue.signedAdapter "smarkets" "Smarkets"

def isLetterOrDigit (c : CodePoint) : Bool :=
  isDigit c || (97 ≤ c.val && c.val ≤ 122) || (65 ≤ c.val && c.val ≤ 90)

/-- A letter or digit, then at most 199 of those or of `._~-`. -/
def isPathSegment : Text → Bool
  | [] => false
  | first :: rest =>
    isLetterOrDigit first && decide (rest.length ≤ 199) && rest.all fun c => isLetterOrDigit c || decide (c ∈ text "._~-")

def safeIdentifier (value : Text) (label : String) : Except Refused Text :=
  let clean := strip value
  if clean = [] then .error (.configuration (text ("Smarkets " ++ label ++ " id cannot be empty.")))
  else if isPathSegment clean = false then
    .error (.configuration (text ("Smarkets " ++ label ++ " id contains unsupported path characters.")))
  else .ok clean

def splitContractId (contractId : Text) : Except Refused (Text × Text) :=
  let wrong := Refused.configuration (text "Smarkets contract id must be MARKET_ID:CONTRACT_ID.")
  match (split 58 contractId).map strip with
  | [market, contract] =>
    if market = [] ∨ contract = [] then .error wrong
    else do
      let market ← safeIdentifier market "market"
      let contract ← safeIdentifier contract "contract"
      return (market, contract)
  | _ => .error wrong

/-- `_probability`: above one a number counts ten thousandths. -/
def probability : PyFloat → Option ℚ
  | .finite number =>
    let number := if 1 < number then number / 10000 else number
    if 0 ≤ number ∧ number ≤ 1 then some number else none
  | _ => none

def positiveScale (config : Item) (key : String) (default : ℚ) : Except Refused ℚ :=
  let say (message : String) := Refused.configuration (text ("Smarkets config " ++ key ++ message))
  match Dict.get? config (text key) with
  | none => .ok default
  | some value =>
    match PyFloat.ofJson value with
    | .ok (.finite scale) => if scale ≤ 0 then .error (say " must be greater than 0.") else .ok scale
    | .ok _ => .error (say " must be greater than 0.")
    | .error .invalid => .error (say " must be numeric.")
    | .error .overflow => .error .overflow

def priceScale (config : Item) : Except Refused ℚ := positiveScale config "smarkets_price_scale" 10000

def quantityScale (config : Item) : Except Refused ℚ := positiveScale config "smarkets_quantity_scale" 10000

/-- The body of a limit order; its quantity and its price are the integers that their texts show. -/
structure Body where
  marketId : Text
  contractId : Text
  side : Text
  quantity : ℤ
  price : ℤ
  deriving DecidableEq

section Sending

variable (runtime : Runtime)

def validateOrder (order : OrderRequest) : Except Refused (Text × Text) := do
  Venue.ensureOrderMarket adapter order
  let contract ← splitContractId order.contractId
  validateTerms runtime "Smarkets order side must be BUY or SELL." "Smarkets order quantity must be positive and finite."
    "Smarkets order price must be between 0 and 1." (fun limit => (probability limit).isSome) order
  return contract

/-- `_order_payload` for an order of this size. -/
def orderPayload (config : Item) (order : OrderRequest) (size : ℚ) : Except Refused Body :=
  if (Dict.get? order.metadata (text "smarkets_order")).isSome then
    .error (.configuration (text ("Smarkets live payloads are constructed from the reviewed order; " ++
      "metadata.smarkets_order is not accepted.")))
  else do
    let (marketId, contractId) ← splitContractId order.contractId
    match order.limitPrice.bind probability with
    | none => .error (.configuration (text "Smarkets live/paper order requires a limit probability."))
    | some probability =>
      let priceScale ← priceScale config
      let quantityScale ← quantityScale config
      return {
        marketId, contractId
        side := if Venue.buys runtime order.side then text "buy" else text "sell"
        quantity := halfEven (size * quantityScale)
        price := halfEven (probability * priceScale) }

/-- `place_live_order` up to the request; `headers` fails without a session token. -/
def placeLiveOrder (headers : Except Refused Unit) (config : Item) (order : OrderRequest) :
    Except Refused (Preflight × Body) := do
  Venue.ensureCapability adapter
  let _ ← validateOrder runtime order
  let preflight ← Venue.preflightLiveOrder runtime adapter config order (text "live trading")
  let body ← orderPayload runtime config order preflight.size
  headers
  return (preflight, body)

end Sending

def Body.terms (config : Item) (body : Body) : Option (Terms Text) := do
  let priceScale ← (priceScale config).toOption
  let quantityScale ← (quantityScale config).toOption
  return ⟨body.marketId ++ text ":" ++ body.contractId, decide (body.side = text "buy"), body.quantity / quantityScale,
    body.price / priceScale⟩

end Smarkets

namespace SxBet

def adapter : MarketAdapter := Venue.signedAdapter "sx_bet" "SX Bet / SX Network"

def oddsScale : ℚ := 10 ^ 20

/-- `_limit_probability`; not a number is in no comparison. -/
def limitProbability (value : PyFloat) : Except Refused PyFloat :=
  if PyFloat.exact.le value (.finite 0) || PyFloat.exact.le (.finite 1) value then
    .error (.configuration (text "SX Bet limit price must be between 0 and 1."))
  else .ok value

/-- The market hash, and whether the outcome is the first one. -/
def splitContractId (runtime : Runtime) (contractId : Text) : Except Refused (Text × Bool) :=
  let raw := strip contractId
  if raw = [] then .error (.configuration (text "SX Bet order requires a contract id."))
  else
    let (marketHash, outcome) := (Venue.splitLast raw).getD (raw, text "ONE")
    let marketHash := strip marketHash
    let outcome := runtime.casing.upper (strip outcome)
    if marketHash = [] then .error (.configuration (text "SX Bet contract id must include a market hash."))
    else if outcome = text "ONE" then .ok (marketHash, true)
    else if outcome = text "TWO" then .ok (marketHash, false)
    else .error (.configuration (text "SX Bet contract outcome must be ONE or TWO."))

/-- `base_token_decimals`. -/
def baseTokenDecimals (config : Item) : Except Stopped ℤ :=
  let configured := config.get "sx_bet_base_token_decimals"
  if configured.truthy then do
    let read ← Venue.intOf configured
    Venue.orRaise read
  else .ok 6

/-- A product in whole units; the context cannot hold one of more than 28 digits. -/
def toUnits (scale : ℚ) : PyFloat → Except Stopped ℤ
  | .finite value => if |halfUp (value * scale)| < 10 ^ 28 then .ok (halfUp (value * scale)) else .error .raised
  | _ => .error .raised

def toOddsUnits (odds : PyFloat) : Except Stopped ℤ := toUnits oddsScale odds

structure UnsignedOrder where
  marketHash : Text
  maker : Text
  totalBetSize : ℤ
  percentageOdds : ℤ
  baseToken : Text
  apiExpiry : ℤ
  expiry : ℤ
  executor : Text
  isMakerBettingOutcomeOne : Bool
  salt : Text
  deriving DecidableEq

/-- What the adapter learns from its surroundings. -/
structure Surroundings where
  now : ℚ
  randomBits : ℕ
  makerAddress : Except Refused Text
  privateKey : Except Refused Text
  signOrder : UnsignedOrder → Text → Except Stopped Text

section Sending

variable (runtime : Runtime) (surroundings : Surroundings)

def validateOrder (order : OrderRequest) : Except Refused Unit := do
  Venue.ensureOrderMarket adapter order
  let _ ← splitContractId runtime order.contractId
  validateTerms runtime "SX Bet order side must be BUY or SELL." "SX Bet order size must be positive."
    "SX Bet limit price must be between 0 and 1." (fun limit => (limitProbability limit).isOk) order

/-- `str(first or second)`. -/
def strOf (first second : Json) : Text := Venue.str runtime (if first.truthy then first else second)

/-- `int(first or second)`. -/
def intOf (first second : Json) : Except Stopped ℤ := do
  let read ← Venue.intOf (if first.truthy then first else second)
  Venue.orRaise read

/-- The probability that the maker bets on: the price of a buyer, the complement of a seller's. -/
def makerPrice (side : Text) (selected : PyFloat) : PyFloat :=
  if Venue.buys runtime side then selected else PyFloat.exact.sub (.finite 1) selected

def makerOf (order : OrderRequest) : Except Stopped Text :=
  let own := Venue.field order.metadata "maker"
  if own.truthy then .ok (Venue.str runtime own) else Venue.checked surroundings.makerAddress

def buildUnsignedOrder (config : Item) (order : OrderRequest) : Except Stopped UnsignedOrder := do
  let (marketHash, isOne) ← Venue.checked (splitContractId runtime order.contractId)
  let limit ← Venue.demand order.limitPrice (text "SX Bet orders require a limit price.")
  let selected ← Venue.checked (limitProbability limit)
  let price := makerPrice runtime order.side selected
  Venue.require (¬ (PyFloat.exact.le price (.finite 0) || PyFloat.exact.le (.finite 1) price))
    (text "SX Bet maker odds must be between 0 and 1.")
  let maker ← makerOf runtime surroundings order
  let decimals ← baseTokenDecimals config
  let totalBetSize ← toUnits (10 ^ decimals) order.size
  let percentageOdds ← toOddsUnits price
  let apiExpiry ← intOf (Venue.field order.metadata "api_expiry") (.float (.finite (surroundings.now + 3600)))
  let expiry ← intOf (Venue.field order.metadata "expiry") (.int 2209006800)
  return {
    marketHash, maker, totalBetSize, percentageOdds
    baseToken := strOf runtime (Venue.field order.metadata "base_token")
      (.str (strOf runtime (config.get "sx_bet_base_token") (.str (text "0x6629Ce1Cf35Cc1329ebB4F63202F3f197b3F050B"))))
    apiExpiry, expiry
    executor := strOf runtime (Venue.field order.metadata "executor")
      (.str (strOf runtime (config.get "sx_bet_executor_address") (.str (text "0x52adf738AAD93c31f798a30b2C74D658e1E9a562"))))
    isMakerBettingOutcomeOne := if Venue.buys runtime order.side then isOne else !isOne
    salt := strOf runtime (Venue.field order.metadata "salt") (.int surroundings.randomBits) }

/-- `_signed_order`: the order and its signature. -/
def signedOrder (config : Item) (order : OrderRequest) : Except Stopped (UnsignedOrder × Text) := do
  let unsigned ← buildUnsignedOrder runtime surroundings config order
  let explicit := Venue.field order.metadata "signature"
  if explicit.truthy then return (unsigned, Venue.str runtime explicit)
  else do
    let key ← Venue.checked surroundings.privateKey
    let signature ← surroundings.signOrder unsigned key
    return (unsigned, signature)

/-- `place_live_order` up to the request. -/
def placeLiveOrder (config : Item) (order : OrderRequest) : Except Stopped (Preflight × UnsignedOrder × Text) := do
  Venue.checked (Venue.ensureCapability adapter)
  Venue.checked (validateOrder runtime order)
  let preflight ← Venue.checked (Venue.preflightLiveOrder runtime adapter config order (text "live trading"))
  let signed ← signedOrder runtime surroundings config order
  return (preflight, signed)

end Sending

/-- A maker on the order's own outcome buys it, a maker on the other one sells it. -/
def UnsignedOrder.terms (isOne : Bool) (decimals : ℤ) (order : UnsignedOrder) : Terms Text :=
  let same := decide (order.isMakerBettingOutcomeOne = isOne)
  let odds := order.percentageOdds / oddsScale
  ⟨order.marketHash, same, order.totalBetSize / 10 ^ decimals, if same then odds else 1 - odds⟩

end SxBet

/-- The adapters that round an order after it was approved. -/
inductive Writer where
  | kalshi
  | smarkets
  | sxBet

inductive Body where
  | kalshi (payload : Kalshi.LivePayload)
  | smarkets (body : Smarkets.Body)
  | sxBet (order : SxBet.UnsignedOrder) (signature : Text)
  deriving DecidableEq

/-- Credentials, the clock and fresh identifiers. -/
structure Surroundings where
  headers : Except Refused Unit
  fresh : Text
  sxBet : SxBet.Surroundings

section Sending

variable (runtime : Runtime)

def Writer.adapter : Writer → MarketAdapter
  | .kalshi => Kalshi.adapter
  | .smarkets => Smarkets.adapter
  | .sxBet => SxBet.adapter

def Writer.placeLiveOrder (writer : Writer) (surroundings : Surroundings) (config : Item) (order : OrderRequest) :
    Except Stopped (Preflight × Body) :=
  match writer with
  | .kalshi => do
    let (preflight, payload) ← Venue.checked
      (Kalshi.placeLiveOrder runtime surroundings.headers config surroundings.fresh order)
    return (preflight, .kalshi payload)
  | .smarkets => do
    let (preflight, body) ← Venue.checked (Smarkets.placeLiveOrder runtime surroundings.headers config order)
    return (preflight, .smarkets body)
  | .sxBet => do
    let (preflight, signed, signature) ← SxBet.placeLiveOrder runtime surroundings.sxBet config order
    return (preflight, .sxBet signed signature)

/-- The terms that a body states for the contract of the order, without the venue's scales. -/
def Body.terms (config : Item) (order : OrderRequest) : Body → Option (Terms Text)
  | .kalshi payload => (Kalshi.splitContractId runtime order.contractId).toOption.bind fun contract =>
      payload.terms contract.2
  | .smarkets body => body.terms config
  | .sxBet signed _ => do
    let (_, isOne) ← (SxBet.splitContractId runtime order.contractId).toOption
    let decimals ← (SxBet.baseTokenDecimals config).toOption
    return signed.terms isOne decimals

/-- The limit price of an order as a probability, in the unit that the adapter's own check reads it in. -/
def Writer.limit (writer : Writer) (order : OrderRequest) : Option ℚ :=
  order.limitPrice.bind fun limit =>
    match writer with
    | .kalshi => Kalshi.safeProbability (.float limit)
    | .smarkets => Smarkets.probability limit
    | .sxBet => Listing.finite (.float limit)

end Sending

end MarketSentinel.Quotes
