import MarketSentinel.Venue.SignedWire

/-! Signed EIP-712 orders for the Myriad order book.

Amounts and prices are scaled by 1e18 and compared after a decimal division.
-/

set_option autoImplicit false

namespace MarketSentinel.Venue.Myriad

open Python

def adapter : MarketAdapter := signedAdapter "myriad_markets" "Myriad Markets"

def orderScale : ℚ := 10 ^ 18

section Model

variable (runtime : Runtime) (config : Dict Text Json)

def splitContractId (contractId : Text) : Except Stopped (Text × Text) :=
  let message := text "Myriad contract id must be MARKET_ID:OUTCOME_ID."
  match (split 58 contractId).map strip with
  | [market, outcome] => do
    require (market ≠ [] ∧ outcome ≠ []) message
    return (market, outcome)
  | _ => refuse message

def isPositiveNumber : PyFloat → Bool
  | .finite number => decide (0 < number)
  | _ => false

def validateOrder (order : OrderRequest) : Except Stopped Unit := do
  checked (ensureOrderMarket adapter order)
  let _ ← splitContractId order.contractId
  require (runtime.casing.upper order.side ∈ ["BUY", "SELL"].map text) (text "Myriad paper order side must be BUY or SELL.")
  require (isPositiveNumber order.size) (text "Myriad paper order size must be positive.")

def positiveInt (value : Json) (label : String) (allowZero : Bool) : Except Stopped Nat := do
  let parsed ← demand (wireUint runtime value) (text "Myriad " ++ text label ++ text " must be a non-negative integer.")
  require (allowZero ∨ parsed ≠ 0) (text "Myriad " ++ text label ++ text " must be a positive integer.")
  return parsed

def configuredLiveNetworkId : Except Stopped Nat := do
  require (blank (field config "myriad_network_id") = false)
    (text "Myriad live orders require a trusted myriad_network_id configuration.")
  positiveInt runtime (field config "myriad_network_id") "configured live network_id" false

/-- `fields.get(name, fields.get(other))`. -/
def getOr (fields : Dict Text Json) (name other : String) : Json := (fields.get? (text name)).getD (field fields other)

/-- `str(metadata.get("time_in_force") or config.get("myriad_time_in_force") or "GTC")`. -/
def timeInForce (metadata : Dict Text Json) : Text :=
  if (field metadata "time_in_force").truthy then str runtime (field metadata "time_in_force")
  else if (field config "myriad_time_in_force").truthy then str runtime (field config "myriad_time_in_force")
  else text "GTC"

def liveOrderPayload (metadata : Dict Text Json) : Except Stopped (Dict Text Json) := do
  let expectedNetwork ← configuredLiveNetworkId runtime config
  let requestedNetwork := getOr metadata "network_id" "networkId"
  if blank requestedNetwork = false then
    let network ← positiveInt runtime requestedNetwork "live order network_id" false
    require (network = expectedNetwork)
      (text "Myriad live order network_id does not match the trusted configured network.")
  match asObject (firstOf metadata "myriad_order_payload" "signed_order_payload") with
  | some existing => return existing
  | none => do
    let signedOrder ← demand (asObject (firstOf metadata "order" "signed_order"))
      (text "Myriad live orders require order.metadata['order'] with a signed EIP-712 order.")
    let signature := strip (strOrEmpty runtime (field metadata "signature"))
    require (signature ≠ []) (text "Myriad live orders require order.metadata['signature'].")
    return [(text "order", .obj signedOrder), (text "signature", .str signature),
      (text "time_in_force", .str (timeInForce runtime config metadata)), (text "network_id", .int expectedNetwork)]

/-- A required scalar of a signed order, under either of its names. -/
def aliased (order : Dict Text Json) (name other : String) : Json :=
  if blank (field order name) then field order other else field order name

def scalar : Json → Bool
  | .arr _ | .obj _ => false
  | value => ! blank value

structure SignedOrder where
  marketId : Json
  outcomeId : Int
  side : Int
  amount : Json
  price : Json

def requiredScalars (order : Dict Text Json) : List (String × Json) :=
  [("trader", field order "trader"), ("marketId", aliased order "marketId" "market_id"),
    ("outcomeId", aliased order "outcomeId" "outcome_id"), ("side", field order "side"),
    ("amount", field order "amount"), ("price", field order "price"),
    ("minFillAmount", aliased order "minFillAmount" "min_fill_amount"), ("nonce", field order "nonce"),
    ("expiration", field order "expiration")]

def signedOrder (order : Dict Text Json) : Except Stopped SignedOrder := do
  (requiredScalars order).forM fun entry =>
    require (scalar entry.2) (text "Myriad signed order requires scalar " ++ text entry.1 ++ text ".")
  require (isHex (strip (str runtime (field order "trader"))) 40)
    (text "Myriad signed order trader must be a 20-byte 0x-prefixed address.")
  let outcome ← intOf (aliased order "outcomeId" "outcome_id")
  let outcome ← demand outcome (text "Myriad signed order outcomeId must be an integer.")
  require (0 ≤ outcome) (text "Myriad signed order outcomeId must be non-negative.")
  let side ← intOf (field order "side")
  let side ← demand side (text "Myriad signed order side must be an integer.")
  require (side = 0 ∨ side = 1) (text "Myriad signed order side must be 0 (buy) or 1 (sell).")
  let _ ← positiveInt runtime (field order "amount") "amount" false
  let price ← positiveInt runtime (field order "price") "price" false
  let _ ← positiveInt runtime (aliased order "minFillAmount" "min_fill_amount") "minFillAmount" true
  let _ ← positiveInt runtime (field order "nonce") "nonce" false
  let _ ← positiveInt runtime (field order "expiration") "expiration" true
  require (1 ≤ price ∧ price ≤ 10 ^ 18) (text "Myriad signed order price must be an integer between 1 and 1e18.")
  return ⟨aliased order "marketId" "market_id", outcome, side, field order "amount", field order "price"⟩

def isSignature (t : Text) : Bool := (hexBody t).any fun body => decide (2 ≤ body.length) && body.all isHexDigit

/-- The order of a signed entry, once its envelope has been checked. -/
def signedEntry (payload : Dict Text Json) : Except Stopped SignedOrder := do
  let order ← demand (asObject (field payload "order")) (text "Myriad signed order entry requires an order object.")
  require (isSignature (strip (strOrEmpty runtime (field payload "signature"))))
    (text "Myriad order signature must be hexadecimal and 0x-prefixed.")
  let entry ← signedOrder runtime order
  let signatureType := getOr payload "signatureType" "signature_type"
  require (blank signatureType ∨ isBool signatureType = false ∧ str runtime signatureType ∈ ["0", "3"].map text)
    (text "Myriad signatureType must be 0 (EOA) or 3 (SCW).")
  let force := getOr payload "time_in_force" "timeInForce"
  require (blank force ∨
      runtime.casing.upper (strip (str runtime force)) ∈ ["GTC", "GTD", "FOK", "FAK", "PO"].map text)
    (text "Myriad time_in_force must be GTC, GTD, FOK, FAK, or PO.")
  let acceptBy := getOr payload "accept_by" "acceptBy"
  if blank acceptBy = false then
    let _ ← positiveInt runtime acceptBy "accept_by" true
  return entry

def networkValues (payload : Dict Text Json) : List Json :=
  (["network_id", "networkId"].map (field payload)).filter (! blank ·)

def checkNetwork (payload : Dict Text Json) : Except Stopped Unit := do
  let expectedNetwork ← configuredLiveNetworkId runtime config
  require (networkValues payload ≠ [])
    (text "Myriad signed live payload requires network_id matching the trusted configured network.")
  let networks ← (networkValues payload).mapM fun value =>
    positiveInt runtime value "signed live payload network_id" false
  require (∀ network ∈ networks, network = expectedNetwork)
    (text "Myriad signed live payload network_id does not match the trusted configured network.")

def validateLiveOrderBinding (order : OrderRequest) (payload : Dict Text Json) : Except Stopped Unit := do
  let signed ← signedEntry runtime payload
  checkNetwork runtime config payload
  let (marketId, outcomeId) ← splitContractId order.contractId
  let expectedMarket ← positiveInt runtime (.str marketId) "contract market id" true
  let expectedOutcome ← positiveInt runtime (.str outcomeId) "contract outcome id" true
  let signedMarket ← positiveInt runtime signed.marketId "signed order marketId" true
  require (signedMarket = expectedMarket) (text "Myriad signed order marketId does not match the requested contract.")
  require (signed.outcomeId = expectedOutcome)
    (text "Myriad signed order outcomeId does not match the requested contract.")
  require (signed.side = if buys runtime order.side then 0 else 1)
    (text "Myriad signed order side does not match the requested side.")
  let amount ← orRaise (decimalOf runtime signed.amount)
  let size ← orRaise (decimalOf runtime (.float order.size))
  require (inContext (amount / orderScale) = size) (text "Myriad signed order amount does not match the requested size.")
  let limitPrice ← demand order.limitPrice
    (text "Myriad live orders require a reviewed limit price to bind the signed price.")
  let signedPrice ← orRaise (decimalOf runtime signed.price)
  let price ← orRaise (decimalOf runtime (.float limitPrice))
  require (inContext (signedPrice / orderScale) = price)
    (text "Myriad signed order price does not match the requested limit price.")

/-- The body of the request that places an order. -/
def placeLiveOrder (order : OrderRequest) : Except Stopped (Dict Text Json) := do
  checked (ensureCapability adapter)
  validateOrder runtime order
  let _ ← checked (preflightLiveOrder runtime adapter config order (text "live trading"))
  let payload ← liveOrderPayload runtime config order.metadata
  validateLiveOrderBinding runtime config order payload
  return payload

/-- A number as it is written, without truncation. -/
def wholeOf : Json → Option Int
  | .int value => some value
  | .bool value => some (if value then 1 else 0)
  | .float (.finite value) => if value.den = 1 then some value.num else none
  | .str value => intOfText value
  | _ => none

/-- The venue reads the market, the outcome, the side and two amounts scaled by 1e18. -/
def readTerms (payload : Dict Text Json) : Option (Terms (Nat × Int)) := do
  let order ← asObject (field payload "order")
  let market ← wireUint runtime (aliased order "marketId" "market_id")
  let outcome ← wholeOf (aliased order "outcomeId" "outcome_id")
  let side ← wholeOf (field order "side")
  let amount ← decimalOf runtime (field order "amount")
  let price ← decimalOf runtime (field order "price")
  let buys ← if side = 0 then some true else if side = 1 then some false else none
  return ⟨(market, outcome), buys, amount / orderScale, price / orderScale⟩

/-- The outcome and the side are whole numbers, and the amount over 1e18 has at most 28 digits. -/
structure Plain (payload : Dict Text Json) : Prop where
  whole : ∀ order, asObject (field payload "order") = some order →
    wholeOf (aliased order "outcomeId" "outcome_id") ≠ none ∧ wholeOf (field order "side") ≠ none
  short : ∀ order amount, asObject (field payload "order") = some order →
    decimalOf runtime (field order "amount") = some amount → amount < 10 ^ 28

end Model

section Bound

variable {runtime : Runtime} {config : Dict Text Json}

theorem wholeOf_of_intOf {value : Json} {number : Int} (read : intOf value = .ok (some number))
    (whole : wholeOf value ≠ none) : wholeOf value = some number := by
  cases value with
  | float value =>
    cases value with
    | finite value =>
      unfold wholeOf at whole ⊢
      simp only at whole ⊢
      split at whole
      · rename_i one
        rw [if_pos one]
        have same := Option.some.inj (Except.ok.inj read)
        rw [one] at same
        simpa using same
      · exact absurd rfl whole
    | inf negative => cases read
    | nan => cases read
  | int value => exact Except.ok.inj read
  | bool value => exact Except.ok.inj read
  | str value => exact Except.ok.inj read
  | null => cases read
  | arr items => cases read
  | obj fields => cases read

theorem positiveInt_ok {value : Json} {label : String} {allowZero : Bool} {number : Nat}
    (read : positiveInt runtime value label allowZero = .ok number) : wireUint runtime value = some number := by
  obtain ⟨parsed, found, read⟩ := Result.bind_eq_ok.mp read
  obtain ⟨_, _, read⟩ := Result.bind_eq_ok.mp read
  cases read
  exact demand_eq_ok.mp found

/-- What a checked signed order says. -/
structure Signed (runtime : Runtime) (order : Dict Text Json) (signed : SignedOrder) (units priceUnits : Nat) :
    Prop where
  marketId : signed.marketId = aliased order "marketId" "market_id"
  outcome : intOf (aliased order "outcomeId" "outcome_id") = .ok (some signed.outcomeId)
  side : intOf (field order "side") = .ok (some signed.side)
  amountField : signed.amount = field order "amount"
  priceField : signed.price = field order "price"
  amount : decimalOf runtime (field order "amount") = some (units : ℚ)
  price : decimalOf runtime (field order "price") = some (priceUnits : ℚ)
  most : priceUnits ≤ 10 ^ 18

theorem signedOrder_ok {order : Dict Text Json} {signed : SignedOrder} (checked : signedOrder runtime order = .ok signed) :
    ∃ amount price, Signed runtime order signed amount price := by
  obtain ⟨_, _, checked⟩ := Result.bind_eq_ok.mp checked
  obtain ⟨_, _, checked⟩ := Result.bind_eq_ok.mp checked
  obtain ⟨_, outcome, checked⟩ := Result.bind_eq_ok.mp checked
  obtain ⟨_, someOutcome, checked⟩ := Result.bind_eq_ok.mp checked
  obtain ⟨_, _, checked⟩ := Result.bind_eq_ok.mp checked
  obtain ⟨_, side, checked⟩ := Result.bind_eq_ok.mp checked
  obtain ⟨_, someSide, checked⟩ := Result.bind_eq_ok.mp checked
  obtain ⟨_, _, checked⟩ := Result.bind_eq_ok.mp checked
  obtain ⟨amount, readAmount, checked⟩ := Result.bind_eq_ok.mp checked
  obtain ⟨price, readPrice, checked⟩ := Result.bind_eq_ok.mp checked
  obtain ⟨_, _, checked⟩ := Result.bind_eq_ok.mp checked
  obtain ⟨_, _, checked⟩ := Result.bind_eq_ok.mp checked
  obtain ⟨_, _, checked⟩ := Result.bind_eq_ok.mp checked
  obtain ⟨_, bounds, checked⟩ := Result.bind_eq_ok.mp checked
  cases checked
  rw [demand_eq_ok] at someOutcome someSide
  subst someOutcome someSide
  exact ⟨amount, price, rfl, outcome, side, rfl, rfl, decimalOf_of_wireUint (positiveInt_ok readAmount),
    decimalOf_of_wireUint (positiveInt_ok readPrice), (require_eq_ok.mp bounds).2⟩

theorem signedEntry_ok {payload : Dict Text Json} {signed : SignedOrder}
    (checked : signedEntry runtime payload = .ok signed) :
    ∃ order, asObject (field payload "order") = some order ∧ signedOrder runtime order = .ok signed := by
  obtain ⟨order, found, checked⟩ := Result.bind_eq_ok.mp checked
  obtain ⟨_, _, checked⟩ := Result.bind_eq_ok.mp checked
  obtain ⟨entry, read, checked⟩ := Result.bind_eq_ok.mp checked
  obtain ⟨_, _, checked⟩ := Result.bind_eq_ok.mp checked
  obtain ⟨_, _, checked⟩ := Result.bind_eq_ok.mp checked
  refine ⟨order, demand_eq_ok.mp found, ?_⟩
  simp only at checked
  split at checked
  · obtain ⟨_, _, checked⟩ := Result.bind_eq_ok.mp checked
    cases checked
    exact read
  · cases checked
    exact read

theorem scaled_eq (n : Nat) : (n : ℚ) / orderScale = (n : ℤ) * (10 : ℚ) ^ (-18 : ℤ) := by
  rw [orderScale, zpow_neg, div_eq_mul_inv]
  norm_cast

/-- A forwarded plain payload asks for exactly what the order asks for. -/
theorem placeLiveOrder_bound {order : OrderRequest} {payload : Dict Text Json}
    (placed : placeLiveOrder runtime config order = .ok payload) (plain : Plain runtime payload) :
    ∃ marketId outcomeId market outcome terms, splitContractId order.contractId = .ok (marketId, outcomeId) ∧
      wireUint runtime (.str marketId) = some market ∧ wireUint runtime (.str outcomeId) = some outcome ∧
      readTerms runtime payload = some terms ∧ Asks runtime order (market, (outcome : Int)) terms := by
  obtain ⟨_, _, placed⟩ := Result.bind_eq_ok.mp placed
  obtain ⟨_, _, placed⟩ := Result.bind_eq_ok.mp placed
  obtain ⟨_, _, placed⟩ := Result.bind_eq_ok.mp placed
  obtain ⟨_, _, placed⟩ := Result.bind_eq_ok.mp placed
  obtain ⟨_, bound, placed⟩ := Result.bind_eq_ok.mp placed
  cases placed
  obtain ⟨signed, entry, bound⟩ := Result.bind_eq_ok.mp bound
  obtain ⟨_, _, bound⟩ := Result.bind_eq_ok.mp bound
  obtain ⟨⟨marketId, outcomeId⟩, contract, bound⟩ := Result.bind_eq_ok.mp bound
  obtain ⟨market, readMarket, bound⟩ := Result.bind_eq_ok.mp bound
  obtain ⟨outcome, readOutcome, bound⟩ := Result.bind_eq_ok.mp bound
  obtain ⟨signedMarket, readSigned, bound⟩ := Result.bind_eq_ok.mp bound
  obtain ⟨_, sameMarket, bound⟩ := Result.bind_eq_ok.mp bound
  obtain ⟨_, sameOutcome, bound⟩ := Result.bind_eq_ok.mp bound
  obtain ⟨_, sameSide, bound⟩ := Result.bind_eq_ok.mp bound
  obtain ⟨amount, readAmount, bound⟩ := Result.bind_eq_ok.mp bound
  obtain ⟨size, readSize, bound⟩ := Result.bind_eq_ok.mp bound
  obtain ⟨_, sameSize, bound⟩ := Result.bind_eq_ok.mp bound
  obtain ⟨limitPrice, limited, bound⟩ := Result.bind_eq_ok.mp bound
  obtain ⟨signedPrice, readSignedPrice, bound⟩ := Result.bind_eq_ok.mp bound
  obtain ⟨price, readPrice, bound⟩ := Result.bind_eq_ok.mp bound
  rw [require_eq_ok] at sameMarket sameOutcome sameSide sameSize bound
  rw [orRaise_eq_ok] at readAmount readSize readSignedPrice readPrice
  obtain ⟨fields, found, read⟩ := signedEntry_ok entry
  obtain ⟨units, priceUnits, signedFields⟩ := signedOrder_ok read
  obtain ⟨wholeOutcome, wholeSide⟩ := plain.whole fields found
  -- the amounts are integers, so their quotients have few digits
  rw [signedFields.amountField, signedFields.amount] at readAmount
  rw [signedFields.priceField, signedFields.price] at readSignedPrice
  cases readAmount
  cases readSignedPrice
  have short : |(units : ℤ)| < 10 ^ 28 := by
    rw [abs_of_nonneg (by positivity)]
    exact_mod_cast plain.short fields _ found signedFields.amount
  have shortPrice : |(priceUnits : ℤ)| < 10 ^ 28 := by
    rw [abs_of_nonneg (by positivity)]
    have most : (priceUnits : ℤ) ≤ 10 ^ 18 := by exact_mod_cast signedFields.most
    exact lt_of_le_of_lt most (by norm_num)
  rw [scaled_eq, inContext_eq_self short, ← scaled_eq] at sameSize
  rw [scaled_eq, inContext_eq_self shortPrice, ← scaled_eq] at bound
  refine ⟨marketId, outcomeId, market, outcome,
    ⟨(market, (outcome : Int)), buys runtime order.side, (units : ℚ) / orderScale, (priceUnits : ℚ) / orderScale⟩,
    contract, positiveInt_ok readMarket, positiveInt_ok readOutcome, ?_, rfl, rfl, ?_, ?_⟩
  · unfold readTerms
    rw [found]
    have readSigned := positiveInt_ok readSigned
    rw [signedFields.marketId, sameMarket] at readSigned
    simp only [Option.bind_eq_bind, Option.bind_some, readSigned, wholeOf_of_intOf signedFields.outcome wholeOutcome,
      wholeOf_of_intOf signedFields.side wholeSide, signedFields.amount, signedFields.price, sameSide, sameOutcome]
    cases buys runtime order.side <;> rfl
  · exact readSize.trans (congrArg some sameSize.symm)
  · rw [priceOf, demand_eq_ok.mp limited, Option.bind_some, bound]
    exact readPrice

/-- The metadata that a forwarded payload is made of. -/
def payloadFields : List String :=
  ["myriad_order_payload", "signed_order_payload", "order", "signed_order", "signature", "time_in_force"]

theorem liveOrderPayload_eq {first second : Dict Text Json} (same : SameFields payloadFields first second)
    {payload other : Dict Text Json} (built : liveOrderPayload runtime config first = .ok payload)
    (rebuilt : liveOrderPayload runtime config second = .ok other) : payload = other := by
  have one : ∀ name ∈ payloadFields, field first name = field second name := fun name member => same.field member
  simp only [payloadFields, List.forall_mem_cons] at one
  obtain ⟨existing, existingToo, order, orderToo, signature, force, -⟩ := one
  have made : ∀ metadata payload, liveOrderPayload runtime config metadata = .ok payload →
      ∃ network, configuredLiveNetworkId runtime config = .ok network ∧
        (match asObject (firstOf metadata "myriad_order_payload" "signed_order_payload") with
          | some existing => Except.ok existing
          | none => do
            let signedOrder ← demand (asObject (firstOf metadata "order" "signed_order"))
              (text "Myriad live orders require order.metadata['order'] with a signed EIP-712 order.")
            let signature := strip (strOrEmpty runtime (field metadata "signature"))
            require (signature ≠ []) (text "Myriad live orders require order.metadata['signature'].")
            return [(text "order", .obj signedOrder), (text "signature", .str signature),
              (text "time_in_force", .str (timeInForce runtime config metadata)), (text "network_id", .int network)]) =
          .ok payload := by
    intro metadata payload built
    obtain ⟨network, configured, built⟩ := Result.bind_eq_ok.mp built
    refine ⟨network, configured, ?_⟩
    simp only at built
    split at built
    · obtain ⟨_, _, built⟩ := Result.bind_eq_ok.mp built
      obtain ⟨_, _, built⟩ := Result.bind_eq_ok.mp built
      exact built
    · exact built
  obtain ⟨network, configured, built⟩ := made first payload built
  obtain ⟨network', configured', rebuilt⟩ := made second other rebuilt
  cases configured.symm.trans configured'
  simp only [firstOf, timeInForce, existing, existingToo, order, orderToo, signature, force] at built
  simp only [firstOf, timeInForce] at rebuilt
  exact Except.ok.inj (built.symm.trans rebuilt)

end Bound

end MarketSentinel.Venue.Myriad
