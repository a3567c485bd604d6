import MarketSentinel.Venue.SignedWire

/-! Signed orders for Predict.fun.

The wrapper around a bare signed order is made from other metadata of the order.
-/

set_option autoImplicit false

namespace MarketSentinel.Venue.PredictFun

open Python

def adapter : MarketAdapter := signedAdapter "predict_fun" "Predict.fun"

def orderScale : ℚ := 10 ^ 18

section Model

variable (runtime : Runtime) (getMarket : Text → Except Stopped (Dict Text Json))

def splitContractId (contractId : Text) : Except Stopped (Text × Text) := do
  let raw := strip contractId
  let (market, outcome) := (splitLast raw).getD (raw, text "YES")
  require (strip market ≠ [] ∧ strip outcome ≠ []) (text "Predict.fun contract id must be MARKET_ID:OUTCOME.")
  return (strip market, runtime.casing.upper (strip outcome))

/-- A price above one is read as a percentage. -/
def safeProbability : PyFloat → Bool
  | .finite number =>
    let number := if 1 < number ∧ number ≤ 100 then number / 100 else number
    decide (0 ≤ number ∧ number ≤ 1)
  | _ => false

def isPositiveNumber : PyFloat → Bool
  | .finite number => decide (0 < number)
  | _ => false

def validateOrder (order : OrderRequest) : Except Stopped Unit := do
  checked (ensureOrderMarket adapter order)
  let _ ← splitContractId runtime order.contractId
  require (runtime.casing.upper order.side ∈ ["BUY", "SELL"].map text)
    (text "Predict.fun paper order side must be BUY or SELL.")
  require (isPositiveNumber order.size) (text "Predict.fun paper order size must be positive.")
  require (order.limitPrice.all safeProbability) (text "Predict.fun paper order limit price must be between 0 and 1.")

/-- The fields that other metadata set: the last one given for a name stands. -/
def wrapperFields (metadata : Dict Text Json) (limitPrice : Option PyFloat) : List (Text × Json) :=
  [(text "strategy", .str (if (field metadata "strategy").truthy then str runtime (field metadata "strategy") else text "LIMIT")),
    (text "isFillOrKill", .bool (field metadata "is_fill_or_kill").truthy)] ++
  (limitPrice.toList.map fun price => (text "pricePerShare", Json.str (str runtime (.float price)))) ++
  ((metadata.get? (text "price_per_share")).toList.map fun price => (text "pricePerShare", Json.str (str runtime price))) ++
  (((metadata.get? (text "slippage_bps")).or (metadata.get? (text "slippageBps"))).toList.map fun slippage =>
    (text "slippageBps", Json.str (str runtime slippage)))

def liveOrderPayload (metadata : Dict Text Json) (limitPrice : Option PyFloat) : Except Stopped (Dict Text Json) :=
  match asObject (firstOf metadata "predict_fun_order_payload" "signed_order_payload") with
  | some existing => .ok existing
  | none => do
    let signed ← demand (asObject (firstOf metadata "order" "signed_order"))
      (text "Predict.fun live orders require order.metadata['order'] with a signed order.")
    let data : Dict Text Json := [(text "order", .obj signed)]
    return [(text "data", .obj (data.update (wrapperFields runtime metadata limitPrice)))]

/-- A modifier that is off by default. -/
def defaultFalse (value : Json) : Option Bool :=
  match value with
  | .null => some true
  | .bool flag => some (! flag)
  | .int number => if number = 0 then some true else if number = 1 then some false else none
  | .float (.finite number) => if number = 0 then some true else if number = 1 then some false else none
  | .str spelled =>
    let shown := runtime.casing.lower (strip spelled)
    if spelled = [] ∨ spelled = text "0" ∨ shown = text "false" then some true
    else if spelled = text "1" ∨ shown = text "true" then some false
    else none
  | _ => none

def checkModifiers (data : Dict Text Json) : Except Stopped Unit := do
  require (runtime.casing.upper (strip (strOrEmpty runtime (field data "strategy"))) = text "LIMIT")
    (text ("Predict.fun live payload strategy must be LIMIT; " ++
      "market-order semantics are not bound by this adapter."))
  ["isFillOrKill", "isMinAmountOut"].forM fun name => do
    let off ← demand (defaultFalse runtime (field data name))
      (text "Predict.fun live payload " ++ text name ++ text " must be a boolean.")
    require off (text "Predict.fun live payload " ++ text name ++ text " must remain false for a preflighted limit order.")
  if blank (field data "slippageBps") = false then
    let slippage ← demand (decimalOf runtime (field data "slippageBps"))
      (text "Predict.fun live payload slippageBps must be numeric.")
    require (slippage = 0) (text "Predict.fun live payload slippageBps must be zero for a preflighted limit order.")

def marketIdOf (market : Dict Text Json) : Text := strip (strOrEmpty runtime (firstOf market "id" "marketId"))

/-- An explicit market in a container, under either name. -/
def namesMarket (container : Dict Text Json) (marketId : Text) : Bool :=
  let explicit := (container.get? (text "marketId")).getD (field container "market_id")
  blank explicit || decide (strip (str runtime explicit) = marketId)

def outcomeMatches (outcome : Dict Text Json) (requested : Text) : Bool :=
  let names := ["name", "title", "label", "side", "outcome", "outcomeName", "id", "outcomeId", "onChainId", "indexSet"]
  let candidates := (names.map (field outcome)).filter (· ≠ .null)
  candidates.any fun candidate =>
    let shown := runtime.casing.upper (strip (str runtime candidate))
    decide (shown = requested ∨ requested = text "YES" ∧ shown ∈ ["Y", "TRUE"].map text ∨
      requested = text "NO" ∧ shown ∈ ["N", "FALSE"].map text)

def outcomesFromMarket (market : Dict Text Json) : List (Dict Text Json) :=
  match field market "outcomes" with
  | .arr outcomes => outcomes.filterMap asObject
  | _ => []

def wireUintField (value : Json) (label : String) : Except Stopped Nat :=
  demand (wireUint runtime value) (text "Predict.fun signed order " ++ text label ++ text " must be an unsigned integer.")

/-- The token of the first outcome that matches. -/
def outcomeTokenId (market : Dict Text Json) (requested : Text) : Except Stopped Nat :=
  match (outcomesFromMarket market).find? fun outcome => outcomeMatches runtime outcome requested with
  | some outcome =>
    if blank (field outcome "onChainId") then
      refuse (text "Predict.fun market did not expose an on-chain token for the requested outcome.")
    else wireUintField runtime (field outcome "onChainId") "outcome onChainId"
  | none => refuse (text "Predict.fun market did not expose an on-chain token for the requested outcome.")

/-- The token that a contract id stands for. -/
def contractToken (contractId : Text) : Except Stopped (Text × Nat) := do
  let (marketId, outcome) ← splitContractId runtime contractId
  let market ← getMarket marketId
  require (marketIdOf runtime market = marketId)
    (text "Predict.fun signed order market does not match the requested contract.")
  let token ← outcomeTokenId runtime market outcome
  return (marketId, token)

def isSignature (t : Text) : Bool := (hexBody t).any fun body => ! body.isEmpty && body.all isHexDigit

/-- A probability, or one scaled by 1e18. -/
def wireProbability (value : Json) : Except Stopped ℚ := do
  let number ← demand (decimalOf runtime value) (text "Predict.fun live payload pricePerShare must be numeric.")
  require (0 < number) (text "Predict.fun live payload pricePerShare must be positive and finite.")
  let number := if 1 < number then inContext (number / orderScale) else number
  require (number ≤ 1) (text "Predict.fun live payload pricePerShare must represent a probability.")
  return number

def decimalClose (left right : ℚ) : Bool := decide (|inContext (left - right)| ≤ 1 / 10 ^ 12)

def checkAmounts (order : OrderRequest) (data signed : Dict Text Json) : Except Stopped Unit := do
  let side ← wireUintField runtime (field signed "side") "side"
  require (side = if buys runtime order.side then 0 else 1)
    (text "Predict.fun signed order side does not match the requested side.")
  let maker ← wireUintField runtime (field signed "makerAmount") "makerAmount"
  let taker ← wireUintField runtime (field signed "takerAmount") "takerAmount"
  require (0 < maker ∧ 0 < taker) (text "Predict.fun signed order amounts must be positive.")
  let shares := if side = 0 then taker else maker
  let collateral := if side = 0 then maker else taker
  let size ← orRaise (decimalOf runtime (.float order.size))
  require (inContext ((shares : ℚ) / orderScale) = size)
    (text "Predict.fun signed order size does not match the requested size.")
  let limitPrice ← demand order.limitPrice
    (text "Predict.fun live orders require a reviewed limit price to bind the signed price.")
  let wirePrice ← wireProbability runtime (field data "pricePerShare")
  let price ← orRaise (decimalOf runtime (.float limitPrice))
  require (decimalClose (inContext ((collateral : ℚ) / shares)) price ∧ decimalClose wirePrice price)
    (text "Predict.fun signed order price does not match the requested limit price.")

def validateLiveOrderBinding (order : OrderRequest) (payload : Dict Text Json) : Except Stopped Unit := do
  let data ← demand (asObject (field payload "data")) (text "Predict.fun live payload requires a data object.")
  let signed ← demand (asObject (field data "order"))
    (text "Predict.fun live payload requires data.order with a signed order.")
  checkModifiers runtime data
  let (marketId, expectedToken) ← contractToken runtime getMarket order.contractId
  require (namesMarket runtime payload marketId ∧ namesMarket runtime data marketId ∧ namesMarket runtime signed marketId)
    (text "Predict.fun signed order market does not match the requested contract.")
  let token ← wireUintField runtime (field signed "tokenId") "tokenId"
  require (token = expectedToken) (text "Predict.fun signed order tokenId does not match the requested outcome.")
  require (isSignature (strip (strOrEmpty runtime (field signed "signature"))))
    (text "Predict.fun signed order requires a hexadecimal 0x-prefixed signature.")
  checkAmounts runtime order data signed

/-- The body of the request that places an order. -/
def placeLiveOrder (config : Dict Text Json) (order : OrderRequest) : Except Stopped (Dict Text Json) := do
  checked (ensureCapability adapter)
  validateOrder runtime order
  let _ ← checked (preflightLiveOrder runtime adapter config order (text "live trading"))
  let payload ← liveOrderPayload runtime order.metadata order.limitPrice
  validateLiveOrderBinding runtime getMarket order payload
  return payload

/-- The venue reads the token, the side and the two signed amounts. -/
def readTerms (payload : Dict Text Json) : Option (Terms Nat) := do
  let data ← asObject (field payload "data")
  let signed ← asObject (field data "order")
  let token ← wireUint runtime (field signed "tokenId")
  let side ← wireUint runtime (field signed "side")
  let maker ← wireUint runtime (field signed "makerAmount")
  let taker ← wireUint runtime (field signed "takerAmount")
  let (shares, collateral) := if side = 0 then (taker, maker) else (maker, taker)
  return ⟨token, decide (side = 0), (shares : ℚ) / orderScale, (collateral : ℚ) / shares⟩

end Model

section Bound

variable {runtime : Runtime} {getMarket : Text → Except Stopped (Dict Text Json)} {config : Dict Text Json}

theorem abs_inContext_sub_le (q : ℚ) : |inContext q - q| ≤ |q| / (2 * 10 ^ 27) := by
  have error := abs_roundSignificant_sub_le 28 q
  have unit : (10 : ℚ) ^ (1 - ((28 : ℕ) : ℤ)) = 1 / 10 ^ 27 := by norm_num
  rw [unit] at error
  calc |inContext q - q| ≤ |q| * (1 / 10 ^ 27) / 2 := error
    _ = |q| / (2 * 10 ^ 27) := by ring

/-- The comparison rounds the difference, which hides next to nothing. -/
theorem sub_le_of_decimalClose {left right : ℚ} (close : decimalClose left right = true) :
    |left - right| ≤ 1 / 10 ^ 12 + 1 / 10 ^ 36 := by
  have shown := of_decide_eq_true close
  have error := abs_inContext_sub_le (left - right)
  have triangle := abs_sub_abs_le_abs_sub (left - right) (inContext (left - right))
  rw [abs_sub_comm (left - right)] at triangle
  norm_num at shown error triangle ⊢
  linarith

/-- The signed ratio is the limit price up to 1e-12 and the rounding of the division. -/
theorem ratio_close {ratio wirePrice price : ℚ} (positive : 0 ≤ ratio) (most : wirePrice ≤ 1)
    (signed : decimalClose (inContext ratio) price = true) (wire : decimalClose wirePrice price = true) :
    |ratio - price| ≤ 1 / 10 ^ 12 + 1 / 10 ^ 26 := by
  have near := abs_le.mp (sub_le_of_decimalClose signed)
  have nearWire := abs_le.mp (sub_le_of_decimalClose wire)
  have error := abs_inContext_sub_le ratio
  rw [abs_of_nonneg positive] at error
  have rounded := abs_le.mp error
  rw [abs_le]
  norm_num at near nearWire rounded ⊢
  constructor
  · linarith [near.1, near.2, nearWire.1, nearWire.2, rounded.1, rounded.2]
  · linarith [near.1, near.2, nearWire.1, nearWire.2, rounded.1, rounded.2]

theorem scaled_few {shares : Nat} (short : shares < 10 ^ 28) : FewDigits ((shares : ℚ) / orderScale) := by
  refine ⟨shares, -18, ?_, ?_⟩
  · rw [abs_of_nonneg (by positivity)]
    exact_mod_cast short
  · rw [orderScale, zpow_neg, div_eq_mul_inv]
    norm_cast

/-- What a venue and the order agree on; the size exactly when the share amount has at most 28 digits. -/
structure Close (runtime : Runtime) (order : OrderRequest) (token : Nat) (terms : Terms Nat) : Prop where
  contract : terms.contract = token
  side : terms.buys = buys runtime order.side
  quantity : terms.quantity * orderScale < 10 ^ 28 → quantityOf runtime order = some terms.quantity
  price : ∃ price, priceOf runtime order = some price ∧ |terms.price - price| ≤ 1 / 10 ^ 12 + 1 / 10 ^ 26

theorem placeLiveOrder_close {order : OrderRequest} {payload : Dict Text Json}
    (placed : placeLiveOrder runtime getMarket config order = .ok payload) :
    ∃ marketId token terms, contractToken runtime getMarket order.contractId = .ok (marketId, token) ∧
      readTerms runtime payload = some terms ∧ Close runtime order token terms := by
  obtain ⟨_, _, placed⟩ := Result.bind_eq_ok.mp placed
  obtain ⟨_, _, placed⟩ := Result.bind_eq_ok.mp placed
  obtain ⟨_, _, placed⟩ := Result.bind_eq_ok.mp placed
  obtain ⟨_, _, placed⟩ := Result.bind_eq_ok.mp placed
  obtain ⟨_, bound, placed⟩ := Result.bind_eq_ok.mp placed
  cases placed
  obtain ⟨data, foundData, bound⟩ := Result.bind_eq_ok.mp bound
  obtain ⟨signed, foundSigned, bound⟩ := Result.bind_eq_ok.mp bound
  obtain ⟨_, _, bound⟩ := Result.bind_eq_ok.mp bound
  obtain ⟨⟨marketId, expectedToken⟩, contract, bound⟩ := Result.bind_eq_ok.mp bound
  obtain ⟨_, _, bound⟩ := Result.bind_eq_ok.mp bound
  obtain ⟨token, readToken, bound⟩ := Result.bind_eq_ok.mp bound
  obtain ⟨_, sameToken, bound⟩ := Result.bind_eq_ok.mp bound
  obtain ⟨_, _, amounts⟩ := Result.bind_eq_ok.mp bound
  obtain ⟨side, readSide, amounts⟩ := Result.bind_eq_ok.mp amounts
  obtain ⟨_, sameSide, amounts⟩ := Result.bind_eq_ok.mp amounts
  obtain ⟨maker, readMaker, amounts⟩ := Result.bind_eq_ok.mp amounts
  obtain ⟨taker, readTaker, amounts⟩ := Result.bind_eq_ok.mp amounts
  obtain ⟨_, _, amounts⟩ := Result.bind_eq_ok.mp amounts
  obtain ⟨size, readSize, amounts⟩ := Result.bind_eq_ok.mp amounts
  obtain ⟨_, sameSize, amounts⟩ := Result.bind_eq_ok.mp amounts
  obtain ⟨limitPrice, limited, amounts⟩ := Result.bind_eq_ok.mp amounts
  obtain ⟨wirePrice, readWire, amounts⟩ := Result.bind_eq_ok.mp amounts
  obtain ⟨price, readPrice, samePrice⟩ := Result.bind_eq_ok.mp amounts
  rw [require_eq_ok] at sameToken sameSide sameSize samePrice
  unfold wireUintField at readToken readSide readMaker readTaker
  rw [demand_eq_ok] at foundData foundSigned readToken readSide readMaker readTaker limited
  rw [orRaise_eq_ok] at readSize readPrice
  obtain ⟨_, _, readWire⟩ := Result.bind_eq_ok.mp readWire
  obtain ⟨_, _, readWire⟩ := Result.bind_eq_ok.mp readWire
  obtain ⟨_, probable, readWire⟩ := Result.bind_eq_ok.mp readWire
  cases readWire
  refine ⟨marketId, expectedToken, ⟨token, decide (side = 0), ((if side = 0 then taker else maker : Nat) : ℚ) / orderScale,
    ((if side = 0 then maker else taker : Nat) : ℚ) / (if side = 0 then taker else maker : Nat)⟩, contract, ?_, ?_⟩
  · simp only [readTerms, foundData, foundSigned, readToken, readSide, readMaker, readTaker, Option.bind_eq_bind,
      Option.bind_some]
    split <;> rfl
  · refine ⟨sameToken, ?_, ?_, price, ?_, ?_⟩
    · rw [sameSide]
      cases buys runtime order.side <;> rfl
    · intro short
      have unit : orderScale ≠ 0 := by norm_num [orderScale]
      dsimp only at short ⊢
      rw [div_mul_cancel₀ _ unit] at short
      rw [← (scaled_few (by exact_mod_cast short)).kept, sameSize]
      exact readSize
    · rw [priceOf, limited, Option.bind_some]
      exact readPrice
    · exact ratio_close (by positivity) (require_eq_ok.mp probable) samePrice.1 samePrice.2

/-- The metadata that a forwarded payload is made of. -/
def payloadFields : List String :=
  ["predict_fun_order_payload", "signed_order_payload", "order", "signed_order", "strategy", "is_fill_or_kill",
    "price_per_share", "slippage_bps", "slippageBps"]

theorem liveOrderPayload_same {first second : Dict Text Json} (same : SameFields payloadFields first second)
    (limitPrice : Option PyFloat) :
    liveOrderPayload runtime first limitPrice = liveOrderPayload runtime second limitPrice := by
  have one : ∀ name ∈ payloadFields, first.get? (text name) = second.get? (text name) := same
  simp only [payloadFields, List.forall_mem_cons] at one
  obtain ⟨existing, existingToo, order, orderToo, strategy, kill, price, slippage, slippageToo, -⟩ := one
  simp only [liveOrderPayload, wrapperFields, firstOf, field, existing, existingToo, order, orderToo, strategy, kill,
    price, slippage, slippageToo]
  rfl

end Bound

end MarketSentinel.Venue.PredictFun
