import MarketSentinel.Venue.SignedWire

/-! Wallet-signed orders for Context.

Prices and sizes are whole millionths. The size and the price of the order are
floats, and a product of floats is rounded before it is rounded to an integer.
-/

set_option autoImplicit false

namespace MarketSentinel.Venue.Context

open Python

def adapter : MarketAdapter := signedAdapter "context_v2" "Context V2"

/-- Float multiplication and division round to the nearest double; the last part covers the smallest ones. -/
structure Doubles where
  nearest : ℚ → ℚ
  close : ∀ q, |nearest q - q| ≤ |q| / 2 ^ 53 + 1 / 2 ^ 100

def signedOrderFields : List String :=
  ["type", "marketId", "outcomeIndex", "side", "price", "size", "expiry", "maxFee", "makerRoleConstraint",
    "inventoryModeConstraint", "trader", "nonce", "signature"]

def boundFields : List String := ["marketId", "outcomeIndex", "side", "price", "size"]

/-- The other fields of a signed order, sorted. -/
def remainingFields : List String :=
  ["expiry", "inventoryModeConstraint", "makerRoleConstraint", "maxFee", "nonce", "signature", "trader", "type"]

def neutralOrderFields : List String := ["expiry", "maxFee", "makerRoleConstraint", "inventoryModeConstraint"]

section Model

variable (runtime : Runtime) (doubles : Doubles)

/-- A price above one counts millionths. -/
def probability : PyFloat → Option ℚ
  | .finite number =>
    let number := if 1 < number ∧ number ≤ 1000000 then doubles.nearest (number / 1000000) else number
    if 0 ≤ number ∧ number ≤ 1 then some number else none
  | _ => none

def splitContractId (contractId : Text) : Except Stopped (Text × Nat) :=
  match (split 58 contractId).map strip with
  | [market, outcome] => do
    require (market ≠ [] ∧ outcome ≠ []) (text "Context contract id must be MARKET_ID:OUTCOME_INDEX.")
    let index ← demand (intOfText outcome) (text "Context outcome index must be an integer.")
    require (0 ≤ index) (text "Context outcome index must be non-negative.")
    return (market, index.toNat)
  | _ => refuse (text "Context contract id must be MARKET_ID:OUTCOME_INDEX.")

def isPositive : PyFloat → Bool
  | .finite number => decide (0 < number)
  | _ => false

def validateOrder (order : OrderRequest) : Except Stopped (Text × Nat) := do
  checked (ensureOrderMarket adapter order)
  let contract ← splitContractId order.contractId
  require (runtime.casing.upper order.side ∈ adapter.liveOrderSides) (text "Context order side must be BUY or SELL.")
  require (isPositive order.size) (text "Context order size must be positive and finite.")
  require (order.limitPrice.all fun price => (probability doubles price).isSome)
    (text "Context order limit price must be between 0 and 1.")
  return contract

/-- Hexadecimal identifiers match in either case. -/
def canonicalId (id : Text) : Text :=
  let id := strip id
  if text "0x" <+: runtime.casing.lower id then runtime.casing.lower id else id

def identifiersMatch (value : Json) (expected : Text) : Bool :=
  let actual := strip (strOrEmpty runtime value)
  let canonical := strip expected
  if text "0x" <+: runtime.casing.lower actual ∧ text "0x" <+: runtime.casing.lower canonical then
    decide (runtime.casing.lower actual = runtime.casing.lower canonical)
  else decide (actual = canonical)

/-- A whole number, in any decimal notation. -/
def wireInteger (value : Json) : Option Int :=
  if isBool value then none
  else (decimalOf runtime value).bind fun number => if number.den = 1 then some number.num else none

def isAddress (t : Text) : Bool := isHex t 40

def isNonce (t : Text) : Bool :=
  (hexBody t).any fun body => decide (body ≠ [] ∧ body.length ≤ 64) && body.all isHexDigit

/-- What the checks shared with the order are made against. -/
structure Expected where
  marketId : Text
  outcomeIndex : Nat
  side : Nat
  price : Int
  size : Int

/-- The four numbers of the payload are those of the order. -/
def checkNumbers (payload : Dict Text Json) (expected : Expected) : Except Stopped Unit := do
  let check (name : String) (wanted : Int) : Except Stopped Unit := do
    let number ← demand (wireInteger runtime (field payload name))
      (text "Context signed order " ++ text name ++ text " must be an integer.")
    require (number = wanted) (text "Context signed order " ++ text name ++ text " does not match the preflighted order.")
  check "outcomeIndex" expected.outcomeIndex
  check "side" expected.side
  check "price" expected.price
  check "size" expected.size

def checkNeutral (payload : Dict Text Json) : Except Stopped Unit :=
  neutralOrderFields.forM fun name => do
    if blank (field payload name) then return
    let number ← demand (wireInteger runtime (field payload name))
      (text "Context signed order " ++ text name ++ text " must be an integer.")
    require (number = 0)
      (text "Context signed order " ++ text name ++ text " must be zero under the guarded live-order policy.")

def validateSignedOrderBinding (payload : Dict Text Json) (expected : Expected) (trader : Text) : Except Stopped Unit := do
  require (onlyNames payload signedOrderFields)
    (text "Context signed order contains unsupported fields: " ++ unknownNames payload signedOrderFields)
  require (boundFields.all fun name => ! blank (field payload name))
    (text "Context signed order is missing preflight-bound fields: " ++ blankNames payload boundFields)
  require (remainingFields.all fun name => ! blank (field payload name))
    (text "Context signed order is missing required signed fields: " ++ blankNames payload remainingFields)
  require (field payload "type" = .str (text "limit"))
    (text "Context signed order type does not match the preflighted limit order.")
  require (identifiersMatch runtime (field payload "marketId") expected.marketId)
    (text "Context signed order marketId does not match the preflighted contract.")
  checkNumbers runtime payload expected
  checkNeutral runtime payload
  require (strip (strOrEmpty runtime (field payload "trader")) ≠ []) (text "Context signed order requires trader.")
  require (isAddress (strip (strOrEmpty runtime (field payload "trader"))))
    (text "Context signed order trader must be a 20-byte 0x-prefixed address.")
  require (identifiersMatch runtime (field payload "trader") trader)
    (text "Context signed order trader does not match the trusted configured trader.")
  require (isNonce (strip (strOrEmpty runtime (field payload "nonce"))))
    (text "Context signed order nonce must be a 1- to 32-byte 0x-prefixed hexadecimal value.")
  require (isHex (strip (strOrEmpty runtime (field payload "signature"))) 130)
    (text "Context signed order signature must be a 65-byte 0x-prefixed hexadecimal value.")

def signedPayload (metadata : Dict Text Json) : Option (Dict Text Json) :=
  asObject (firstOf metadata "context_order" "signed_order")

/-- `round(value * 1_000_000)`. -/
def millionths (value : ℚ) : Int := halfEven (doubles.nearest (value * 1000000))

/-- Without a limit price the payload is compared with an even price. -/
def expectedOrder (order : OrderRequest) (marketId : Text) (outcomeIndex : Nat) (size : ℚ) : Expected where
  marketId := marketId
  outcomeIndex := outcomeIndex
  side := if buys runtime order.side then 0 else 1
  price := millionths doubles ((order.limitPrice.bind (probability doubles)).getD (1 / 2))
  size := millionths doubles size

/-- `_order_payload(order, signed=True)`. -/
def orderPayload (trader : Option Text) (order : OrderRequest) (size : ℚ) : Except Stopped (Dict Text Json) := do
  let payload ← demand (signedPayload order.metadata) (text (
    "Context live orders require order.metadata['context_order'] or ['signed_order'] with a wallet signature."))
  let (marketId, outcomeIndex) ← splitContractId order.contractId
  let trader ← demand trader (text "CONTEXT_TRADER_ADDRESS")
  require (isAddress (strip trader)) (text "Context trusted trader must be a 20-byte 0x-prefixed address.")
  validateSignedOrderBinding runtime payload (expectedOrder runtime doubles order marketId outcomeIndex size)
    (strip trader)
  return payload

/-- The body of the request that places an order; the trader and the key are configured credentials. -/
def placeLiveOrder (config : Dict Text Json) (trader apiKey : Option Text) (order : OrderRequest) :
    Except Stopped (Dict Text Json) := do
  checked (ensureCapability adapter)
  let _ ← validateOrder runtime doubles order
  let preflight ← checked (preflightLiveOrder runtime adapter config order (text "live trading"))
  let payload ← orderPayload runtime doubles trader order preflight.size
  let _ ← demand apiKey (text "CONTEXT_API_KEY")
  return payload

/-- The venue reads the market, the outcome and whole millionths. -/
def readTerms (payload : Dict Text Json) : Option (Terms (Text × Int)) := do
  let outcome ← wireInteger runtime (field payload "outcomeIndex")
  let side ← wireInteger runtime (field payload "side")
  let price ← wireInteger runtime (field payload "price")
  let size ← wireInteger runtime (field payload "size")
  let buys ← if side = 0 then some true else if side = 1 then some false else none
  return ⟨(canonicalId runtime (strOrEmpty runtime (field payload "marketId")), outcome), buys, size / 1000000, price / 1000000⟩

end Model

section Rounded

variable {doubles : Doubles}

theorem abs_millionths_sub_le {value : ℚ} (positive : 0 ≤ value) :
    |(millionths doubles value : ℚ) - value * 1000000| ≤ 1 / 2 + value * 1000000 / 2 ^ 53 + 1 / 2 ^ 100 := by
  have whole := abs_halfEven_sub_le (doubles.nearest (value * 1000000))
  have product := doubles.close (value * 1000000)
  rw [abs_of_nonneg (by positivity : 0 ≤ value * 1000000)] at product
  calc |(millionths doubles value : ℚ) - value * 1000000|
      ≤ |(millionths doubles value : ℚ) - doubles.nearest (value * 1000000)| +
          |doubles.nearest (value * 1000000) - value * 1000000| := abs_sub_le _ _ _
    _ ≤ 1 / 2 + (value * 1000000 / 2 ^ 53 + 1 / 2 ^ 100) := add_le_add whole product
    _ = 1 / 2 + value * 1000000 / 2 ^ 53 + 1 / 2 ^ 100 := by ring

/-- Within one millionth, as long as the product keeps its fractions. -/
theorem abs_units_sub_le {value : ℚ} (positive : 0 ≤ value) (small : value * 1000000 ≤ 2 ^ 51) :
    |(millionths doubles value : ℚ) / 1000000 - value| ≤ 1 / 1000000 := by
  have units := @abs_millionths_sub_le doubles value positive
  have scaled : (millionths doubles value : ℚ) / 1000000 - value =
      ((millionths doubles value : ℚ) - value * 1000000) / 1000000 := by ring
  rw [scaled, abs_div, abs_of_pos (by norm_num : (0 : ℚ) < 1000000), div_le_div_iff_of_pos_right (by norm_num)]
  have bounded : value * 1000000 / 2 ^ 53 ≤ 1 / 4 := by
    rw [div_le_div_iff₀ (by norm_num) (by norm_num)]
    linarith
  norm_num at units bounded ⊢
  linarith

/-- The limit price, where one above one counts millionths. -/
def limitOf : PyFloat → Option ℚ
  | .finite number => some (if 1 < number then number / 1000000 else number)
  | _ => none

/-- A price above one is divided as a float before it is compared. -/
theorem probability_close {limit : PyFloat} {price probable : ℚ} (limited : limitOf limit = some price)
    (read : probability doubles limit = some probable) :
    0 ≤ probable ∧ probable ≤ 1 ∧ |probable - price| ≤ 1 / 10 ^ 12 := by
  cases limit with
  | finite number =>
    obtain rfl := Option.some.inj limited
    unfold probability at read
    simp only [Option.ite_none_right_eq_some, Option.some.injEq] at read
    obtain ⟨⟨positive, most⟩, rfl⟩ := read
    refine ⟨positive, most, ?_⟩
    by_cases above : 1 < number
    · by_cases usable : number ≤ 1000000
      · rw [if_pos ⟨above, usable⟩, if_pos above]
        have quotient := doubles.close (number / 1000000)
        rw [abs_of_pos (by linarith : 0 < number / 1000000)] at quotient
        have small : number / 1000000 / 2 ^ 53 ≤ 1 / 2 ^ 53 := by
          gcongr
          linarith
        refine quotient.trans ((add_le_add_left small _).trans ?_)
        norm_num
      · rw [if_neg fun both => usable both.2] at most
        exact absurd most (not_le.mpr above)
    · rw [if_neg fun both => above both.1, if_neg above]
      norm_num
  | inf negative => cases limited
  | nan => cases limited

theorem abs_price_sub_le {limit : PyFloat} {price probable : ℚ} (limited : limitOf limit = some price)
    (read : probability doubles limit = some probable) :
    |(millionths doubles probable : ℚ) / 1000000 - price| ≤ 1 / 1000000 := by
  obtain ⟨positive, most, near⟩ := probability_close limited read
  have units := @abs_millionths_sub_le doubles probable positive
  have scaled : (millionths doubles probable : ℚ) / 1000000 - price =
      ((millionths doubles probable : ℚ) - probable * 1000000) / 1000000 + (probable - price) := by ring
  have first : |((millionths doubles probable : ℚ) - probable * 1000000) / 1000000| ≤ 3 / 4000000 := by
    rw [abs_div, abs_of_pos (by norm_num : (0 : ℚ) < 1000000), div_le_iff₀ (by norm_num)]
    refine units.trans ?_
    have bounded : probable * 1000000 / 2 ^ 53 ≤ 1 / 8 := by
      rw [div_le_div_iff₀ (by norm_num) (by norm_num)]
      norm_num
      linarith
    norm_num at bounded ⊢
    linarith
  rw [scaled]
  refine (abs_add_le _ _).trans ?_
  norm_num at near first ⊢
  linarith

end Rounded

section Bound

variable {runtime : Runtime} {doubles : Doubles}

theorem canonicalId_of_match {value : Json} {expected : Text} (same : identifiersMatch runtime value expected = true) :
    canonicalId runtime (strOrEmpty runtime value) = canonicalId runtime expected := by
  unfold identifiersMatch at same
  unfold canonicalId
  simp only at same ⊢
  split at same
  · rename_i both
    rw [if_pos both.1, if_pos both.2]
    exact of_decide_eq_true same
  · rw [of_decide_eq_true same]

/-- A forwarded payload is the signed order itself and carries the rounded size and price of the order. -/
theorem placeLiveOrder_reads {config : Dict Text Json} {trader apiKey : Option Text} {order : OrderRequest}
    {payload : Dict Text Json} (placed : placeLiveOrder runtime doubles config trader apiKey order = .ok payload) :
    signedPayload order.metadata = some payload ∧
      ∃ marketId outcomeIndex size, splitContractId order.contractId = .ok (marketId, outcomeIndex) ∧
        order.size = .finite size ∧ 0 < size ∧
        (∀ limit ∈ order.limitPrice, ∃ probable, probability doubles limit = some probable) ∧
        readTerms runtime payload = some
          ⟨(canonicalId runtime marketId, outcomeIndex), buys runtime order.side, millionths doubles size / 1000000,
            millionths doubles ((order.limitPrice.bind (probability doubles)).getD (1 / 2)) / 1000000⟩ := by
  obtain ⟨_, _, placed⟩ := Result.bind_eq_ok.mp placed
  obtain ⟨_, validated, placed⟩ := Result.bind_eq_ok.mp placed
  obtain ⟨preflight, passed, placed⟩ := Result.bind_eq_ok.mp placed
  obtain ⟨forwarded, built, placed⟩ := Result.bind_eq_ok.mp placed
  obtain ⟨_, _, placed⟩ := Result.bind_eq_ok.mp placed
  cases placed
  obtain ⟨_, _, validated⟩ := Result.bind_eq_ok.mp validated
  obtain ⟨_, _, validated⟩ := Result.bind_eq_ok.mp validated
  obtain ⟨_, _, validated⟩ := Result.bind_eq_ok.mp validated
  obtain ⟨_, _, validated⟩ := Result.bind_eq_ok.mp validated
  obtain ⟨_, limits, _⟩ := Result.bind_eq_ok.mp validated
  obtain ⟨signed, found, built⟩ := Result.bind_eq_ok.mp built
  obtain ⟨⟨marketId, outcomeIndex⟩, contract, built⟩ := Result.bind_eq_ok.mp built
  obtain ⟨_, _, built⟩ := Result.bind_eq_ok.mp built
  obtain ⟨_, _, built⟩ := Result.bind_eq_ok.mp built
  obtain ⟨_, bound, built⟩ := Result.bind_eq_ok.mp built
  cases built
  obtain ⟨_, _, bound⟩ := Result.bind_eq_ok.mp bound
  obtain ⟨_, _, bound⟩ := Result.bind_eq_ok.mp bound
  obtain ⟨_, _, bound⟩ := Result.bind_eq_ok.mp bound
  obtain ⟨_, _, bound⟩ := Result.bind_eq_ok.mp bound
  obtain ⟨_, market, bound⟩ := Result.bind_eq_ok.mp bound
  obtain ⟨_, numbers, _⟩ := Result.bind_eq_ok.mp bound
  have approved := preflightLiveOrder_approved (checked_eq_ok.mp passed)
  have number : ∀ {name : String} {wanted : Int} {u : Unit},
      (do
        let number ← demand (wireInteger runtime (field payload name))
          (text "Context signed order " ++ text name ++ text " must be an integer.")
        require (number = wanted)
          (text "Context signed order " ++ text name ++ text " does not match the preflighted order.")) = .ok u →
      wireInteger runtime (field payload name) = some wanted := by
    intro name wanted u passed
    obtain ⟨read, isInteger, same⟩ := Result.bind_eq_ok.mp passed
    rw [require_eq_ok] at same
    rw [← same]
    exact demand_eq_ok.mp isInteger
  obtain ⟨_, outcome, numbers⟩ := Result.bind_eq_ok.mp numbers
  obtain ⟨_, side, numbers⟩ := Result.bind_eq_ok.mp numbers
  obtain ⟨_, price, size⟩ := Result.bind_eq_ok.mp numbers
  refine ⟨demand_eq_ok.mp found, marketId, outcomeIndex, preflight.size, contract, approved.size, approved.positive,
    ?_, ?_⟩
  · intro limit given
    rw [require_eq_ok, Option.all_eq_true] at limits
    exact Option.isSome_iff_exists.mp (limits limit given)
  · unfold readTerms
    rw [number outcome, number side, number price, number size, canonicalId_of_match (require_eq_ok.mp market)]
    cases direction : buys runtime order.side <;> simp [expectedOrder, direction]

end Bound

end MarketSentinel.Venue.Context
