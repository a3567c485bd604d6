import MarketSentinel.Listing.Records
import MarketSentinel.Venue.SignedWire

/-! Filled orders of a trader at Context. -/

set_option autoImplicit false

namespace MarketSentinel.Listing.Context

open Python Wallet

/-- An admitted order. -/
structure Order where
  marketId : Text
  outcomeIndex : Nat
  buys : Bool
  size : PyFloat
  price : PyFloat
  timestamp : PyFloat
  transactionHash : Text
  nonce : Text
  status : Text
  raw : Item

section Values

variable (runtime : Runtime)

/-- Addresses agree in any case, other identifiers as they are. -/
def identifiersMatch (actual expected : Text) : Bool :=
  let lower := runtime.casing.lower
  let canonical := strip expected
  if text "0x" <+: lower actual ∧ text "0x" <+: lower canonical then decide (lower actual = lower canonical)
  else decide (actual = canonical)

/-- `_wire_integer`, for the two values that a row may have; a truth value is none. -/
def wireBit (value : Json) : Option Nat :=
  if Venue.isBool value then none
  else
    match (Decimal.ofText (runtime.str value)).map Decimal.value with
    | some number => if number = 0 then some 0 else if number = 1 then some 1 else none
    | none => none

/-- The decimal arithmetic of the runtime refuses larger results. -/
def decimalBound : ℚ := (10 : ℚ) ^ 1000000

/-- `_wire_size`: millionths. -/
def wireSize (value : Json) : Except Fault (Option PyFloat) :=
  match (Decimal.ofText (runtime.str value)).map Decimal.value with
  | some number =>
    if number ≤ 0 then .ok none
    else
      let size := Venue.inContext (number / 1000000)
      if decimalBound ≤ size then .error .raised
      else .ok ((some (runtime.floats.literal size)).filter (isPositive runtime))
  | none => .ok none

def probability (value : Json) : Except Fault (Option PyFloat) :=
  if blank value then .ok none else probabilityOf runtime 1000000 value

def isNumber : Json → Bool
  | .bool _ | .int _ | .float _ => true
  | _ => false

def optionalTimestamp (value : Json) : Except Fault (Option PyFloat) := do
  if blank value then return none
  else
    let seconds ←
      if isNumber value then
        pure ((← floatOf runtime value).map (secondsOf runtime 100000000000))
      else pure (runtime.localSeconds (strip (runtime.str value)))
    return seconds.filter fun number => isFinite number && !isNegative runtime number

def orderOf (wallet : Text) (row : Json) : Reading Order := do
  let some order := Feed.asItem row | failure
  let status := runtime.casing.lower (label runtime order ["status"])
  guard (status = text "filled")
  let owner := label runtime order ["trader", "wallet"]
  guard (owner ≠ [] ∧ identifiersMatch runtime owner wallet)
  let marketId := label runtime order ["marketId", "market_id"]
  guard (marketId ≠ [])
  let some outcomeIndex := wireBit runtime (order.get "outcomeIndex") | failure
  let some sideIndex := wireBit runtime (order.get "side") | failure
  -- All three are read before one of them is missed.
  let price ← OptionT.lift (probability runtime (order.get "price"))
  let size ← OptionT.lift (wireSize runtime (order.get "filledSize"))
  let timestamp ← OptionT.lift (optionalTimestamp runtime (firstField order ["insertedAt", "filledAt", "timestamp"]))
  let nonce := label runtime order ["nonce", "orderId", "id"]
  let some price := price | failure
  let some size := size | failure
  let some timestamp := timestamp | failure
  guard (nonce ≠ [])
  pure
    { marketId, outcomeIndex, buys := sideIndex = 0, size, price, timestamp,
      transactionHash := label runtime order ["transactionHash", "txHash"], nonce, status, raw := order }

def Order.contractId (order : Order) : Text := order.marketId ++ text ":" ++ natText order.outcomeIndex

def Order.activity (wallet : Text) (order : Order) : Item :=
  record [("type", .str (text "TRADE")), ("activityType", .str (text "TRADE")), ("proxyWallet", .str wallet),
    ("wallet", .str wallet), ("asset", .str order.contractId), ("contract_id", .str order.contractId),
    ("marketId", .str order.marketId), ("outcomeIndex", .int order.outcomeIndex),
    ("outcome", .str (text (if order.outcomeIndex = 0 then "Yes" else "No"))),
    ("side", .str (text (if order.buys then "BUY" else "SELL"))), ("size", .float order.size),
    ("price", .float order.price), ("timestamp", .float order.timestamp),
    ("transactionHash", .str order.transactionHash),
    ("activityId", .str (text "context:" ++ order.marketId ++ text ":" ++ order.nonce)),
    ("orderId", .str order.nonce), ("status", .str order.status), ("source", .str (text "context_filled_order_feed")),
    ("raw", .obj order.raw)]

/-- `_mapping_payload`. -/
def mappingPayload : Json → Item
  | .obj fields =>
    match Item.get fields "data" with
    | .obj data => data
    | _ => fields
  | _ => []

def rowNames : List String := ["orders", "data"]

def rows : Json → List Json
  | .arr rows => rows
  | payload => (listUnder (mappingPayload payload) rowNames).getD []

def listActivity (wallet : Text) (limit : Nat) (respond : Nat → Json) : Except Fault Feed.Page := do
  let wallet ← requireActivityIdentity runtime wallet
  let desired ← boundedLimit limit 100 "Context activity limit must be between 1 and 100."
  let payload := respond desired
  gatherPage (orderOf runtime wallet) (Order.activity wallet) (rows payload) payload desired rowNames

variable {runtime} in
theorem listActivity_eq_ok {address : Text} {limit : Nat} {respond : Nat → Json} {page : Feed.Page}
    (listed : listActivity runtime address limit respond = .ok page) : 1 ≤ limit ∧
      gatherPage (orderOf runtime (walletOf runtime address)) (Order.activity (walletOf runtime address))
        (rows (respond limit)) (respond limit) limit rowNames = .ok page := by
  obtain ⟨wallet, taken, listed⟩ := Result.bind_eq_ok.mp listed
  obtain ⟨desired, bounded, gathered⟩ := Result.bind_eq_ok.mp listed
  obtain rfl := requireActivityIdentity_eq_ok taken
  obtain ⟨rfl, positive⟩ := boundedLimit_eq_ok bounded
  exact ⟨positive, gathered⟩

theorem timestamp_activity (wallet : Text) (order : Order) :
    (order.activity wallet).get "timestamp" = .float order.timestamp := by
  rw [Order.activity, get_record]
  rfl

end Values

end MarketSentinel.Listing.Context
