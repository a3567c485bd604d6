import MarketSentinel.Venue.SignedWire

/-! Signed exchange actions for Hyperliquid outcome assets. -/

set_option autoImplicit false

namespace MarketSentinel.Venue.Hyperliquid

open Python

def adapter : MarketAdapter := signedAdapter "hyperliquid" "Hyperliquid"

variable (runtime : Runtime)

def outcomeId (value : Text) : Option Text :=
  if strip value ≠ [] ∧ (strip value).all isDigit then some (strip value) else none

/-- `outcome:<id>:<side>`. -/
def splitContractId (contractId : Text) : Except Stopped (Text × Nat) :=
  let message := text "Hyperliquid contract id must be 'outcome:<id>:0' or ':1'."
  match split 58 (strip contractId) with
  | [kind, id, side] => do
    require (kind = text "outcome") message
    let side ← demand (uintOfText side) message
    require (side = 0 ∨ side = 1) message
    let id ← demand (outcomeId id) (text "Hyperliquid outcome IDs must be non-negative decimal integers.")
    return (id, side)
  | _ => refuse message

def assetId (outcomeId : Text) (side : Nat) : Int := 100000000 + (10 * digitsValue outcomeId + side)

def probability : PyFloat → Option ℚ
  | .finite number => if 0 < number ∧ number < 1 then some number else none
  | _ => none

def isPositive : PyFloat → Bool
  | .finite number => decide (0 < number)
  | _ => false

def validateOrder (order : OrderRequest) : Except Stopped (Text × Nat) := do
  checked (ensureOrderMarket adapter order)
  let contract ← splitContractId order.contractId
  require (runtime.casing.upper order.side ∈ adapter.liveOrderSides) (text "Hyperliquid order side must be BUY or SELL.")
  require (isPositive order.size) (text "Hyperliquid order size must be positive and finite.")
  require (order.limitPrice.all fun price => (probability price).isSome)
    (text "Hyperliquid order limit price must be between 0 and 1.")
  return contract

/-- A positive decimal in a text. -/
def wireDecimal (value : Json) (label : String) : Except Stopped ℚ :=
  match value with
  | .str value => do
    require (strip value ≠ []) (text label ++ text " must be a decimal string.")
    let number ← demand (Decimal.ofText (strip value)) (text label ++ text " must be a decimal string.")
    require (0 < number.value) (text label ++ text " must be positive and finite.")
    return number.value
  | _ => refuse (text label ++ text " must be a decimal string.")

def isPositiveInteger (value : Json) : Bool :=
  let shown := strip (str runtime value)
  ! isBool value && decide (0 < digitsValue shown ∧ digitsValue shown ≤ 2 ^ 63 - 1 ∧ shown = natText (digitsValue shown))

def isHexText : Json → Bool
  | .str value => (hexBody value).any fun body => ! body.isEmpty && body.all isHexDigit
  | _ => false

def isByte : Json → Bool
  | .int value => decide (0 ≤ value ∧ value ≤ 255)
  | _ => false

def validateSignature (value : Json) : Except Stopped Unit := do
  let signature ← demand (asObject value)
    (text "Hyperliquid signed_action.signature must be an object containing r, s, and v.")
  require (isHexText (field signature "r")) (text "Hyperliquid signed_action.signature.r must be a hexadecimal string.")
  require (isHexText (field signature "s")) (text "Hyperliquid signed_action.signature.s must be a hexadecimal string.")
  require (isByte (field signature "v")) (text "Hyperliquid signed_action.signature.v must be an integer byte.")

def checkEnvelope (payload : Dict Text Json) : Except Stopped Unit := do
  require (onlyNames payload ["action", "nonce", "signature", "vaultAddress", "expiresAfter"])
    (text "Hyperliquid signed_action contains unsupported envelope fields.")
  require (field payload "vaultAddress" = .null)
    (text "Hyperliquid signed live orders do not accept unbound vaultAddress routing.")
  require (blank (field payload "expiresAfter") ∨ isPositiveInteger runtime (field payload "expiresAfter"))
    (text "Hyperliquid signed-action expiresAfter must be a positive integer.")

/-- The only order of the action. -/
def wireOrder (payload : Dict Text Json) : Except Stopped (Dict Text Json) := do
  let action ← demand (asObject (field payload "action"))
    (text "Hyperliquid signed_action.action.type must be 'order'.")
  require (field action "type" = .str (text "order")) (text "Hyperliquid signed_action.action.type must be 'order'.")
  require (hasExactly action ["type", "orders", "grouping"])
    (text "Hyperliquid signed order action must contain only type, orders, and grouping.")
  require (field action "grouping" = .str (text "na")) (text "Hyperliquid signed order grouping must be 'na'.")
  match field action "orders" with
  | .arr [.obj wire] => return wire
  | _ => refuse (text "Hyperliquid signed_action.action.orders must contain exactly one order.")

def checkOrderType (wire : Dict Text Json) : Except Stopped Unit := do
  let message := text "Hyperliquid signed order type must be a canonical GTC limit order."
  require (field wire "r" = .bool false) (text "Hyperliquid signed order must not be reduce-only.")
  let orderType ← demand (asObject (field wire "t")) message
  require (hasExactly orderType ["limit"]) message
  let limit ← demand (asObject (field orderType "limit")) message
  require (hasExactly limit ["tif"] ∧ field limit "tif" = .str (text "Gtc")) message

def validateSignedPayload (payload : Dict Text Json) (outcomeId : Text) (side : Nat) (order : OrderRequest) :
    Except Stopped Unit := do
  let limitPrice ← demand order.limitPrice (text "Hyperliquid signed live orders require an explicit limit price.")
  checkEnvelope runtime payload
  let wire ← wireOrder payload
  require (hasExactly wire ["a", "b", "p", "s", "r", "t"])
    (text "Hyperliquid signed order contains unsupported order semantics.")
  require (field wire "a" = .int (assetId outcomeId side))
    (text "Hyperliquid signed order asset does not match the selected outcome side.")
  require (field wire "b" = .bool (buys runtime order.side))
    (text "Hyperliquid signed order side does not match the selected order side.")
  let size ← wireDecimal (field wire "s") "Hyperliquid signed order size"
  let expectedSize ← orRaise (decimalOf runtime (.float order.size))
  require (size = expectedSize) (text "Hyperliquid signed order size does not match the requested size.")
  let price ← wireDecimal (field wire "p") "Hyperliquid signed order price"
  let expectedPrice ← orRaise (decimalOf runtime (.float limitPrice))
  require (price = expectedPrice) (text "Hyperliquid signed order price does not match the requested limit price.")
  checkOrderType wire
  validateSignature (field payload "signature")
  require (isPositiveInteger runtime (field payload "nonce"))
    (text "Hyperliquid signed-action nonce must be a positive integer.")

/-- The body of the request that places an order. -/
def placeLiveOrder (config : Dict Text Json) (order : OrderRequest) : Except Stopped (Dict Text Json) := do
  let (outcomeId, side) ← validateOrder runtime order
  let _ ← checked (preflightLiveOrder runtime adapter config order (text "Hyperliquid signed order submission"))
  let payload ← demand (asObject (field order.metadata "signed_action")) (text (
    "Hyperliquid live orders require metadata.signed_action containing the complete " ++
    "externally signed exchange payload."))
  validateSignedPayload runtime payload outcomeId side order
  return payload

def decimalIn : Json → Option ℚ
  | .str value => (Decimal.ofText (strip value)).map Decimal.value
  | _ => none

/-- The exchange reads the asset, the side, the size and the price of the only order. -/
def readTerms (payload : Dict Text Json) : Option (Terms Int) := do
  let wire ← (wireOrder payload).toOption
  match field wire "a", field wire "b" with
  | .int asset, .bool buys => do
    let quantity ← decimalIn (field wire "s")
    let price ← decimalIn (field wire "p")
    return ⟨asset, buys, quantity, price⟩
  | _, _ => none

variable {runtime}

theorem decimalIn_wireDecimal {value : Json} {label : String} {number : ℚ}
    (read : wireDecimal value label = .ok number) : decimalIn value = some number := by
  unfold wireDecimal at read
  cases value with
  | str value =>
    obtain ⟨_, _, read⟩ := Result.bind_eq_ok.mp read
    obtain ⟨parsed, found, read⟩ := Result.bind_eq_ok.mp read
    obtain ⟨_, _, read⟩ := Result.bind_eq_ok.mp read
    cases read
    rw [decimalIn, demand_eq_ok.mp found]
    rfl
  | _ => cases read

/-- A forwarded action asks for exactly what the order asks for, and is the signed action itself. -/
theorem placeLiveOrder_bound {config : Dict Text Json} {order : OrderRequest} {payload : Dict Text Json}
    (placed : placeLiveOrder runtime config order = .ok payload) :
    asObject (field order.metadata "signed_action") = some payload ∧
      ∃ outcomeId side terms, splitContractId order.contractId = .ok (outcomeId, side) ∧
        readTerms payload = some terms ∧ Asks runtime order (assetId outcomeId side) terms := by
  obtain ⟨⟨outcomeId, side⟩, validated, placed⟩ := Result.bind_eq_ok.mp placed
  obtain ⟨_, _, placed⟩ := Result.bind_eq_ok.mp placed
  obtain ⟨signed, found, placed⟩ := Result.bind_eq_ok.mp placed
  obtain ⟨_, bound, placed⟩ := Result.bind_eq_ok.mp placed
  cases placed
  obtain ⟨_, _, validated⟩ := Result.bind_eq_ok.mp validated
  obtain ⟨contract, contractId, validated⟩ := Result.bind_eq_ok.mp validated
  obtain ⟨_, _, validated⟩ := Result.bind_eq_ok.mp validated
  obtain ⟨_, _, validated⟩ := Result.bind_eq_ok.mp validated
  obtain ⟨_, _, validated⟩ := Result.bind_eq_ok.mp validated
  cases validated
  obtain ⟨limitPrice, limited, bound⟩ := Result.bind_eq_ok.mp bound
  obtain ⟨_, _, bound⟩ := Result.bind_eq_ok.mp bound
  obtain ⟨wire, only, bound⟩ := Result.bind_eq_ok.mp bound
  obtain ⟨_, _, bound⟩ := Result.bind_eq_ok.mp bound
  obtain ⟨_, asset, bound⟩ := Result.bind_eq_ok.mp bound
  obtain ⟨_, direction, bound⟩ := Result.bind_eq_ok.mp bound
  obtain ⟨size, readSize, bound⟩ := Result.bind_eq_ok.mp bound
  obtain ⟨expectedSize, printedSize, bound⟩ := Result.bind_eq_ok.mp bound
  obtain ⟨_, sameSize, bound⟩ := Result.bind_eq_ok.mp bound
  obtain ⟨price, readPrice, bound⟩ := Result.bind_eq_ok.mp bound
  obtain ⟨expectedPrice, printedPrice, bound⟩ := Result.bind_eq_ok.mp bound
  obtain ⟨_, samePrice, _⟩ := Result.bind_eq_ok.mp bound
  rw [require_eq_ok] at asset direction sameSize samePrice
  rw [orRaise_eq_ok] at printedSize printedPrice
  refine ⟨demand_eq_ok.mp found, outcomeId, side, ⟨assetId outcomeId side, buys runtime order.side, size, price⟩,
    contractId, ?_, rfl, rfl, by rw [sameSize]; exact printedSize, ?_⟩
  · simp only [readTerms, only, asset, direction, Except.toOption, Option.bind_eq_bind, Option.bind_some]
    rw [decimalIn_wireDecimal readSize, decimalIn_wireDecimal readPrice]
    rfl
  · rw [priceOf, demand_eq_ok.mp limited, Option.bind_some, samePrice]
    exact printedPrice

end MarketSentinel.Venue.Hyperliquid
