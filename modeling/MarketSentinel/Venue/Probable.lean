import MarketSentinel.Venue.SignedWire

/-! Signed CLOB orders for Probable.

A signed order gives the two amounts that change hands. They are compared with
the size and the price of the order at the scale of the collateral.
-/

set_option autoImplicit false

namespace MarketSentinel.Venue.Probable

open Python

def adapter : MarketAdapter := signedAdapter "probable" "Probable"

def zeroAddress : Text := text "0x0000000000000000000000000000000000000000"

/-- The fields of a signed order, sorted. -/
def signedOrderFields : List String :=
  ["expiration", "feeRateBps", "maker", "makerAmount", "nonce", "salt", "side", "signature", "signatureType", "signer",
    "taker", "takerAmount", "tokenId"]

def orderPayloadFields : List String := ["deferExec", "order", "owner", "orderType"]

/-- The public market endpoint and the JSON reader. -/
structure Markets where
  getMarket : Text → Except Stopped (Dict Text Json)
  loads : Text → Option Json

section Model

variable (runtime : Runtime) (markets : Markets) (config : Dict Text Json)

def safeIdentifier (value : Text) (label : String) : Except Stopped Text := do
  let clean := strip value
  let allowed (c : CodePoint) : Bool := isDigit c || (97 ≤ c.val && c.val ≤ 122) || (65 ≤ c.val && c.val ≤ 90) ||
    c.val == 46 || c.val == 95 || c.val == 58 || c.val == 45
  require (clean ≠ [] ∧ clean.length ≤ 256 ∧ clean.all allowed)
    (text "Probable " ++ text label ++ text " identifier is invalid.")
  return clean

def splitContractId (contractId : Text) : Except Stopped (Text × Text) := do
  let message := text "Probable contract id must be MARKET_ID:TOKEN_ID or MARKET_ID:YES|NO."
  let (market, token) ← demand (splitLast (strip contractId)) message
  require (strip market ≠ [] ∧ strip token ≠ []) message
  let market ← safeIdentifier market "market"
  let token ← safeIdentifier token "token or outcome"
  return (market, token)

/-- A list in a market field, or a text that spells one. -/
def listed (value : Json) : Json :=
  match value with
  | .str spelled =>
    match markets.loads spelled with
    | some value => value
    | none => .arr ((((split 44 spelled).map strip).filter (· ≠ [])).map .str)
  | value => value

def outcomeAt (outcomes : Json) (index : Nat) : Json :=
  match outcomes with
  | .arr items => (items[index]?).getD (.str (text (if index = 0 then "Yes" else "No")))
  | _ => .str (text (if index = 0 then "Yes" else "No"))

def tokenRows (market : Dict Text Json) : List (Dict Text Json) :=
  match field market "tokens" with
  | .arr tokens => tokens.map fun token =>
      match token with
      | .obj fields => fields
      | other => [(text "token_id", .str (str runtime other))]
  | _ =>
    match listed markets (firstOf market "clobTokenIds" "clob_token_ids") with
    | .arr ids => ids.mapIdx fun index id =>
        [(text "token_id", .str (str runtime id)),
          (text "outcome", .str (str runtime (outcomeAt (listed markets (field market "outcomes")) index)))]
    | _ => []

/-- `str(first or second or third or default).strip()`. -/
def labelOf (token : Dict Text Json) (names : List String) (default : Text) : Text :=
  strip (((names.map (field token)).find? Json.truthy).elim default (str runtime))

def tokenId (token : Dict Text Json) : Text := labelOf runtime token ["token_id", "tokenId", "id"] []

def outcomeLabel (token : Dict Text Json) : Text := labelOf runtime token ["outcome", "label", "name"] (text "Outcome")

/-- The token of a market that a reference names, among its rows if it is there. -/
def resolveTokenDetails (market : Dict Text Json) (marketId tokenRef : Text) : Except Stopped Text :=
  let cleanRef := strip tokenRef
  let upper := runtime.casing.upper
  let found := (tokenRows runtime markets market).find? fun token =>
    decide (cleanRef = tokenId runtime token ∨ upper cleanRef = upper (outcomeLabel runtime token))
  match found.map (tokenId runtime) with
  | some (c :: rest) => .ok (c :: rest)
  | _ =>
    if cleanRef ∉ ["YES", "NO"].map text then .ok cleanRef
    else refuse (text "Probable market " ++ runtime.spell (.str marketId) ++ text " has no " ++ cleanRef ++ text " token.")

/-- The token that a contract id stands for. -/
def canonicalToken (contractId : Text) : Except Stopped Text := do
  let (marketId, tokenRef) ← splitContractId contractId
  let market ← markets.getMarket marketId
  let token ← resolveTokenDetails runtime markets market marketId tokenRef
  require (token ≠ [] ∧ token ∈ (tokenRows runtime markets market).map (tokenId runtime))
    (text "Probable market " ++ runtime.spell (.str marketId) ++ text " does not contain token or outcome " ++
      runtime.spell (.str tokenRef) ++ text ".")
  return token

def safeProbability : PyFloat → Bool
  | .finite number => decide (0 ≤ number ∧ number ≤ 1)
  | _ => false

def isPositive : PyFloat → Bool
  | .finite number => decide (0 < number)
  | _ => false

def validateOrder (order : OrderRequest) : Except Stopped Unit := do
  checked (ensureOrderMarket adapter order)
  let _ ← splitContractId order.contractId
  require (runtime.casing.upper order.side ∈ ["BUY", "SELL"].map text) (text "Probable order side must be BUY or SELL.")
  require (isPositive order.size) (text "Probable order size must be positive and finite.")
  require (order.limitPrice.all safeProbability) (text "Probable order limit price must be between 0 and 1.")

/-- An unsigned 256-bit integer, in any decimal notation. -/
def wireUint256 (value : Json) (label : String) : Except Stopped Nat := do
  require (isBool value = false) (text "Probable signed order " ++ text label ++ text " must be an unsigned integer.")
  let number ← demand (decimalOf runtime value)
    (text "Probable signed order " ++ text label ++ text " must be an unsigned integer.")
  require (0 ≤ number ∧ number.den = 1 ∧ number < 2 ^ 256)
    (text "Probable signed order " ++ text label ++ text " must be an unsigned 256-bit integer.")
  return number.num.toNat

def trustedUintConfig (key : String) (maximum : Nat) : Except Stopped Nat := do
  let parsed ← wireUint256 runtime ((config.get? (text key)).getD (.int 0)) key
  require (parsed ≤ maximum)
    (text "Probable " ++ text key ++ text " must be between 0 and " ++ natText maximum ++ text ".")
  return parsed

def isAddress (t : Text) : Bool := isHex t 40

/-- The checks of the signed fields that no order decides. -/
def checkPolicy (signed : Dict Text Json) (wallet : Text) : Except Stopped Unit := do
  ["maker", "signer"].forM fun name => do
    let address := strip (strOrEmpty runtime (field signed name))
    require (isAddress address)
      (text "Probable signed order " ++ text name ++ text " must be a 0x-prefixed 40-hex-character address.")
    require (runtime.casing.lower address = runtime.casing.lower wallet)
      (text "Probable signed order " ++ text name ++ text " does not match the trusted configured wallet.")
  let taker := strip (strOrEmpty runtime (field signed "taker"))
  require (isAddress taker) (text "Probable signed order taker must be a 0x-prefixed 40-hex-character address.")
  require (runtime.casing.lower taker = zeroAddress)
    (text "Probable signed order taker must be the zero address under the guarded live-order policy.")
  let salt ← wireUint256 runtime (field signed "salt") "salt"
  require (salt ≠ 0) (text "Probable signed order salt must be positive.")
  let nonce ← trustedUintConfig runtime config "probable_order_nonce" (2 ^ 256 - 1)
  let fee ← trustedUintConfig runtime config "probable_fee_rate_bps" 10000
  let kind ← trustedUintConfig runtime config "probable_signature_type" 255
  [("expiration", 0), ("nonce", nonce), ("feeRateBps", fee), ("signatureType", kind)].forM fun entry => do
    let value ← wireUint256 runtime (field signed entry.1) entry.1
    require (value = entry.2)
      (text "Probable signed order " ++ text entry.1 ++ text " does not match the trusted live-order policy.")

def isWallet (value : Json) (wallet : Text) : Bool :=
  blank value || decide (runtime.casing.lower (strip (str runtime value)) = runtime.casing.lower wallet)

def isGtc (value : Json) : Bool := blank value || decide (value = .str (text "GTC"))

/-- The modifiers outside the signed order, in the payload and in the metadata. -/
def checkModifiers (payload metadata : Dict Text Json) (wallet : Text) : Except Stopped Unit := do
  require (isWallet runtime (field payload "owner") wallet)
    (text "Probable live-order owner does not match the trusted configured wallet.")
  require (isGtc (field payload "orderType"))
    (text "Probable live-order orderType must be GTC under the guarded live-order policy.")
  require ((payload.get? (text "deferExec")).all (· = .bool true))
    (text "Probable live-order deferExec must be true under the guarded live-order policy.")
  require (isWallet runtime (field metadata "owner") wallet)
    (text "Probable order metadata owner does not match the trusted configured wallet.")
  require (isGtc (field metadata "order_type"))
    (text "Probable order metadata order_type must be GTC under the guarded live-order policy.")
  require ((metadata.get? (text "defer_exec")).all (· = .bool true))
    (text "Probable order metadata defer_exec must be true under the guarded live-order policy.")
  require (field metadata "slippage_tolerance" = .null)
    (text "Probable live orders do not accept an unbound slippage_tolerance modifier.")

def wireSide (value : Json) : Option Nat :=
  if isBool value then none
  else
    let shown := runtime.casing.upper (strip (if value = .null then [] else str runtime value))
    if shown ∈ ["0", "BUY"].map text then some 0
    else if shown ∈ ["1", "SELL"].map text then some 1
    else none

/-- A positive integer, in any decimal notation. -/
def wireAmount (value : Json) : Option ℚ :=
  if isBool value then none
  else (decimalOf runtime value).bind fun number => if 0 < number ∧ number.den = 1 then some number else none

def chainId : Except Stopped Int := do
  let parsed ← intOf ((config.get? (text "probable_chain_id")).getD (.int 56))
  let chain ← demand parsed (text "Probable chain id must be an integer.")
  require (0 < chain) (text "Probable chain id must be positive.")
  return chain

def amountDecimals : Except Stopped Int :=
  let configured := field config "probable_amount_decimals"
  if configured ≠ .null then do
    let parsed ← intOf configured
    let decimals ← demand parsed (text "Probable amount decimals must be an integer.")
    require (0 ≤ decimals ∧ decimals ≤ 36) (text "Probable amount decimals must be between 0 and 36.")
    return decimals
  else do
    let chain ← chainId config
    require (chain = 56)
      (text "Probable amount decimals must be explicitly configured for any chain other than BNB mainnet.")
    return 18

/-- The maker and the taker amount of an order, computed in the decimal context. -/
def expectedSignedAmounts (decimals : Int) (buys : Bool) (size price : ℚ) : Option (ℚ × ℚ) :=
  let scale := (10 : ℚ) ^ decimals
  let shares := inContext (size * scale)
  let collateral := inContext (inContext (size * price) * scale)
  -- a SELL side computes its share amount first; the two products are the same
  let (maker, taker) := if buys then (collateral, shares) else (shares, collateral)
  if maker.den = 1 ∧ taker.den = 1 then some (maker, taker) else none

def checkAmounts (order : OrderRequest) (signed : Dict Text Json) : Except Stopped Unit := do
  let side ← demand (wireSide runtime (field signed "side")) (text "Probable signed order side must be BUY/SELL or 0/1.")
  require (side = if buys runtime order.side then 0 else 1)
    (text "Probable signed order side does not match the preflighted order.")
  let limitPrice ← demand order.limitPrice
    (text "Probable live orders require a limit price so the signed amounts can be bound to preflight.")
  let maker ← demand (wireAmount runtime (field signed "makerAmount"))
    (text "Probable signed order makerAmount must be a positive integer.")
  let taker ← demand (wireAmount runtime (field signed "takerAmount"))
    (text "Probable signed order takerAmount must be a positive integer.")
  let size ← orRaise (decimalOf runtime (.float order.size))
  let price ← orRaise (decimalOf runtime (.float limitPrice))
  let decimals ← amountDecimals config
  require (expectedSignedAmounts decimals (buys runtime order.side) size price = some (maker, taker))
    (text "Probable signed order makerAmount/takerAmount do not match the preflighted price and size.")

def validateLiveOrderBinding (order : OrderRequest) (payload signed : Dict Text Json) (wallet : Text) :
    Except Stopped Unit := do
  require (onlyNames payload orderPayloadFields)
    (text "Probable live-order payload contains unsupported fields: " ++ unknownNames payload orderPayloadFields)
  require (onlyNames signed signedOrderFields)
    (text "Probable signed order contains unsupported fields: " ++ unknownNames signed signedOrderFields)
  require (signedOrderFields.all fun name => ! blank (field signed name))
    (text "Probable signed order is missing required fields: " ++ blankNames signed signedOrderFields)
  let signature := strip (strOrEmpty runtime (field signed "signature"))
  require (signature ≠ []) (text "Probable signed order requires an EIP-712 signature.")
  require (isHex signature 130)
    (text "Probable signed order signature must be a 65-byte 0x-prefixed hexadecimal value.")
  let token ← canonicalToken runtime markets order.contractId
  let signedToken := strip (strOrEmpty runtime (field signed "tokenId"))
  require (signedToken ≠ []) (text "Probable signed order requires tokenId.")
  require (signedToken = token) (text "Probable signed order tokenId does not match the preflighted contract.")
  checkPolicy runtime config signed wallet
  checkModifiers runtime payload order.metadata wallet
  checkAmounts runtime config order signed

/-- The outer payload and the signed order inside the metadata. -/
def selectSigned (metadata : Dict Text Json) : Except Stopped (Dict Text Json × Dict Text Json) :=
  match field metadata "probable_payload" with
  | .obj payload => do
    let signed ← demand (asObject (field payload "order"))
      (text "Probable order.metadata['probable_payload'] must contain a signed 'order' object.")
    return (payload, signed)
  | _ => do
    let signed ← demand (asObject (firstOf metadata "signed_order" "order"))
      (text "Probable live orders require order.metadata['signed_order'] with an EIP-712 signature.")
    return ([], signed)

/-- The forwarded body around a signed order. -/
def envelope (signed : Dict Text Json) (wallet : Text) : Dict Text Json :=
  [(text "deferExec", .bool true), (text "order", .obj signed), (text "owner", .str wallet),
    (text "orderType", .str (text "GTC"))]

/-- The body of the request that places an order; the address is one of the configured credentials. -/
def placeLiveOrder (address : Option Text) (order : OrderRequest) : Except Stopped (Dict Text Json) := do
  checked (ensureCapability adapter)
  validateOrder runtime order
  let _ ← checked (preflightLiveOrder runtime adapter config order (text "live trading"))
  let address ← demand address (text "PROB_ADDRESS")
  require (isAddress (strip address)) (text "Probable wallet address must be a 0x-prefixed 40-hex-character address.")
  let (payload, signed) ← selectSigned order.metadata
  validateLiveOrderBinding runtime markets config order payload signed (strip address)
  return envelope signed (strip address)

/-- The venue reads the token, the side and the two amounts at the scale of the collateral. -/
def readTerms (decimals : Int) (payload : Dict Text Json) : Option (Terms Text) := do
  let signed ← asObject (field payload "order")
  let side ← wireSide runtime (field signed "side")
  let maker ← wireAmount runtime (field signed "makerAmount")
  let taker ← wireAmount runtime (field signed "takerAmount")
  let (shares, collateral) := if side = 0 then (taker, maker) else (maker, taker)
  return ⟨strip (strOrEmpty runtime (field signed "tokenId")), decide (side = 0), shares / (10 : ℚ) ^ decimals,
    collateral / shares⟩

end Model

section Bound

variable {runtime : Runtime} {markets : Markets} {config : Dict Text Json}

theorem selectSigned_same {first second : Dict Text Json}
    (same : SameFields ["probable_payload", "signed_order", "order"] first second) :
    selectSigned first = selectSigned second := by
  have existing : field first "probable_payload" = field second "probable_payload" := same.field (by simp)
  have signed : field first "signed_order" = field second "signed_order" := same.field (by simp)
  have bare : field first "order" = field second "order" := same.field (by simp)
  unfold selectSigned firstOf
  rw [existing, signed, bare]

/-- The amounts of an order whose products fit the decimal context. -/
theorem expectedSignedAmounts_exact {decimals : Int} {buys : Bool} {size price maker taker : ℚ}
    (few : FewDigits size) (fewProduct : FewDigits (size * price))
    (expected : expectedSignedAmounts decimals buys size price = some (maker, taker)) :
    (maker, taker) = if buys then (size * price * (10 : ℚ) ^ decimals, size * (10 : ℚ) ^ decimals)
      else (size * (10 : ℚ) ^ decimals, size * price * (10 : ℚ) ^ decimals) := by
  unfold expectedSignedAmounts at expected
  dsimp only at expected
  rw [fewProduct.kept, (fewProduct.scale decimals).kept, (few.scale decimals).kept] at expected
  cases buys with
  | true =>
    simp only [if_true, Option.ite_none_right_eq_some, Option.some.injEq] at expected ⊢
    exact expected.2.symm
  | false =>
    simp only [Bool.false_eq_true, if_false, Option.ite_none_right_eq_some, Option.some.injEq] at expected ⊢
    exact expected.2.symm

/-- The price and the quantity come back out of the two amounts. -/
theorem exact_terms {decimals : Int} {buys : Bool} {size price maker taker : ℚ}
    (few : FewDigits size) (fewProduct : FewDigits (size * price)) (positiveMaker : 0 < maker) (positiveTaker : 0 < taker)
    (expected : expectedSignedAmounts decimals buys size price = some (maker, taker)) :
    (if buys then taker else maker) / (10 : ℚ) ^ decimals = size ∧
      (if buys then maker else taker) / (if buys then taker else maker) = price := by
  have unit : (10 : ℚ) ^ decimals ≠ 0 := zpow_ne_zero _ (by norm_num)
  have amounts := expectedSignedAmounts_exact few fewProduct expected
  have ratio : size * (10 : ℚ) ^ decimals ≠ 0 → size * price * (10 : ℚ) ^ decimals / (size * (10 : ℚ) ^ decimals) = price := by
    intro some
    rw [mul_right_comm, mul_comm, mul_div_assoc, div_self some, mul_one]
  cases buys with
  | true =>
    obtain ⟨rfl, rfl⟩ := Prod.mk.inj amounts
    exact ⟨mul_div_cancel_right₀ _ unit, ratio positiveTaker.ne'⟩
  | false =>
    obtain ⟨rfl, rfl⟩ := Prod.mk.inj amounts
    exact ⟨mul_div_cancel_right₀ _ unit, ratio positiveMaker.ne'⟩

theorem wireAmount_pos {value : Json} {amount : ℚ} (read : wireAmount runtime value = some amount) : 0 < amount := by
  unfold wireAmount at read
  split at read
  · cases read
  · obtain ⟨number, _, read⟩ := Option.bind_eq_some_iff.mp read
    split at read
    · rename_i positive
      cases read
      exact positive.1
    · cases read

/-- A forwarded order asks for exactly what the order asks for, when the products need no rounding. -/
theorem placeLiveOrder_bound {address : Option Text} {order : OrderRequest} {payload : Dict Text Json}
    (placed : placeLiveOrder runtime markets config address order = .ok payload) :
    ∃ wallet outer signed, selectSigned order.metadata = .ok (outer, signed) ∧ payload = envelope signed wallet ∧
      address.map strip = some wallet ∧
      ∃ token decimals size price terms, canonicalToken runtime markets order.contractId = .ok token ∧
        amountDecimals config = .ok decimals ∧ quantityOf runtime order = some size ∧
        priceOf runtime order = some price ∧ readTerms runtime decimals payload = some terms ∧
        terms.contract = token ∧ terms.buys = buys runtime order.side ∧
        (FewDigits size → FewDigits (size * price) → Asks runtime order token terms) := by
  obtain ⟨_, _, placed⟩ := Result.bind_eq_ok.mp placed
  obtain ⟨_, _, placed⟩ := Result.bind_eq_ok.mp placed
  obtain ⟨_, _, placed⟩ := Result.bind_eq_ok.mp placed
  obtain ⟨configured, given, placed⟩ := Result.bind_eq_ok.mp placed
  obtain ⟨_, _, placed⟩ := Result.bind_eq_ok.mp placed
  obtain ⟨⟨outer, signed⟩, selected, placed⟩ := Result.bind_eq_ok.mp placed
  obtain ⟨_, bound, placed⟩ := Result.bind_eq_ok.mp placed
  cases placed
  obtain ⟨_, _, bound⟩ := Result.bind_eq_ok.mp bound
  obtain ⟨_, _, bound⟩ := Result.bind_eq_ok.mp bound
  obtain ⟨_, _, bound⟩ := Result.bind_eq_ok.mp bound
  obtain ⟨_, _, bound⟩ := Result.bind_eq_ok.mp bound
  obtain ⟨_, _, bound⟩ := Result.bind_eq_ok.mp bound
  obtain ⟨token, resolved, bound⟩ := Result.bind_eq_ok.mp bound
  obtain ⟨_, _, bound⟩ := Result.bind_eq_ok.mp bound
  obtain ⟨_, sameToken, bound⟩ := Result.bind_eq_ok.mp bound
  obtain ⟨_, _, bound⟩ := Result.bind_eq_ok.mp bound
  obtain ⟨_, _, amounts⟩ := Result.bind_eq_ok.mp bound
  obtain ⟨side, readSide, amounts⟩ := Result.bind_eq_ok.mp amounts
  obtain ⟨_, sameSide, amounts⟩ := Result.bind_eq_ok.mp amounts
  obtain ⟨limitPrice, limited, amounts⟩ := Result.bind_eq_ok.mp amounts
  obtain ⟨maker, readMaker, amounts⟩ := Result.bind_eq_ok.mp amounts
  obtain ⟨taker, readTaker, amounts⟩ := Result.bind_eq_ok.mp amounts
  obtain ⟨size, readSize, amounts⟩ := Result.bind_eq_ok.mp amounts
  obtain ⟨price, readPrice, amounts⟩ := Result.bind_eq_ok.mp amounts
  obtain ⟨decimals, scaled, matched⟩ := Result.bind_eq_ok.mp amounts
  rw [require_eq_ok] at sameToken sameSide matched
  rw [demand_eq_ok] at given readSide limited readMaker readTaker
  rw [orRaise_eq_ok] at readSize readPrice
  have limit : priceOf runtime order = some price := by
    rw [priceOf, limited, Option.bind_some]
    exact readPrice
  have inner : asObject (field (envelope signed (strip configured)) "order") = some signed := by
    have names : text "deferExec" ≠ text "order" := by decide
    rw [field, envelope, Dict.get?, if_neg names, Dict.get?, if_pos rfl]
    rfl
  have read : readTerms runtime decimals (envelope signed (strip configured)) = some
      ⟨token, buys runtime order.side, (if buys runtime order.side then taker else maker) / (10 : ℚ) ^ decimals,
        (if buys runtime order.side then maker else taker) / (if buys runtime order.side then taker else maker)⟩ := by
    simp only [readTerms, inner, readSide, readMaker, readTaker, sameToken, sameSide, Option.bind_eq_bind,
      Option.bind_some]
    cases buys runtime order.side <;> rfl
  refine ⟨strip configured, outer, signed, selected, rfl, by rw [given]; rfl, token, decimals, size, price, _,
    resolved, scaled, readSize, limit, read, rfl, rfl, fun few fewProduct => ?_⟩
  obtain ⟨quantity, ratio⟩ := exact_terms few fewProduct (wireAmount_pos readMaker) (wireAmount_pos readTaker) matched
  exact ⟨rfl, rfl, by rw [quantity]; exact readSize, by rw [ratio]; exact limit⟩

end Bound

end MarketSentinel.Venue.Probable
