import MarketSentinel.Live.Evidence

/-! The plan of an audit and the checks before its order. -/

set_option autoImplicit false

namespace MarketSentinel.Live

open Python

structure LiveOrderCancelRequest where
  tokenId : Text
  side : Text
  price : Json
  size : Json
  tif : Text
  allowTokenIds : List Text
  privateKey : Text
  funderAddress : Text
  signatureType : Json
  apiKey : Text
  apiSecret : Text
  apiPassphrase : Text
  execute : Bool
  cancelImmediately : Bool
  confirmation : Text
  maxSize : Json
  maxNotional : Json
  makerPriceBuffer : Json

inductive PlanStatus where
  | blocked
  | readyToExecute
  | dryRun
  | failed
  | ok
  deriving DecidableEq

structure PlacedAudit where
  orderID : Text
  orderIdPresent : Bool
  responseReceived : Bool

structure CancelAudit where
  canceled : List Text
  orderAcknowledged : Bool
  responseReceived : Bool

structure PostCancelAudit where
  id : Text
  status : Text
  sizeMatched : Text
  associateTrades : List Json
  orderIdentityMatches : Bool
  responseReceived : Bool

/-- What the audit saw; an error is kept by the name of its type. -/
structure AuditTrail where
  placed : Option PlacedAudit := none
  orderId : Text := []
  recoveryJournalError : Option Text := none
  cancelError : Option Text := none
  cancel : Option CancelAudit := none
  postCancelError : Option Text := none
  postCancelOrder : Option PostCancelAudit := none
  cancelAcknowledgedForOrder : Bool := false
  explicitCancelState : Bool := false
  zeroFillEvidence : ZeroFill := {}
  postCancelVerified : Bool := false
  recoveryJournalResolved : Option Bool := none

structure Plan where
  status : PlanStatus
  liveAction : Bool := false
  tokenId : Text
  side : Text
  price : Option ℚ
  size : Option ℚ
  tif : Text
  approxNotional : Option PyFloat
  maxSize : Option ℚ
  maxNotional : Option ℚ
  makerPriceBuffer : Option ℚ
  signatureType : Int
  blockers : List Text
  warnings : List Text
  bestBid : Option ℚ := none
  bestAsk : Option ℚ := none
  manualReconciliationRequired : Bool := false
  failure : Option Text := none
  placementError : Option Text := none
  audit : Option AuditTrail := none

section Numbers

variable (runtime : Runtime)

def typeError (message : String) : Raised := ⟨text "TypeError", text message⟩

/-- `float(value)`. -/
def toFloat : Json → Except Raised PyFloat
  | .bool value => .ok (.finite (if value then 1 else 0))
  | .int value =>
    match runtime.rounding.nearest value with
    | some nearest => .ok (.finite nearest)
    | none => .error ⟨text "OverflowError", text "int too large to convert to float"⟩
  | .float value => .ok value
  | .str value =>
    match floatText value with
    | some value => .ok (PyFloat.rounded runtime value)
    | none => .error (valueError "could not convert string to float")
  | _ => .error (typeError "float() argument must be a string or a real number")

def isNumberError (e : Raised) : Bool := decide (e.type = text "TypeError") || decide (e.type = text "ValueError")

/-- `_positive_float`: a number or the blocker that names the field; overflows are not caught. -/
def positiveFloat (value : Json) (label capitalized : String) : Except Raised (Except Text ℚ) :=
  if value = .null ∨ value = .str [] then .ok (.error (text "Missing " ++ text label ++ text "."))
  else
    match toFloat runtime value with
    | .error e => if isNumberError e then .ok (.error (text capitalized ++ text " must be numeric.")) else .error e
    | .ok (.finite number) =>
      if number ≤ 0 then .ok (.error (text capitalized ++ text " must be greater than 0.")) else .ok (.ok number)
    | .ok _ => .ok (.error (text capitalized ++ text " must be finite."))

def errorText {α : Type} : Except Text α → List Text
  | .error message => [message]
  | .ok _ => []

def when (condition : Bool) (message : Text) : List Text := if condition then [message] else []

end Numbers

section Planning

variable (runtime : Runtime)

def absoluteMaxVerifySize : ℚ := 5
def absoluteMaxVerifyNotional : ℚ := 1
def minMakerPriceBuffer : ℚ := 1 / 1000

def confirmLiveOrderCancel : Text := text "I_UNDERSTAND_THIS_PLACES_A_REAL_POLYMARKET_ORDER"

def allowList (request : LiveOrderCancelRequest) : List Text := (request.allowTokenIds.map strip).filter (· ≠ [])

/-- An empty time in force counts as the default one. -/
def requestTif (request : LiveOrderCancelRequest) : Text :=
  runtime.casing.upper (strip (if request.tif = [] then text "GTC" else request.tif))

def explicitCredentials (request : LiveOrderCancelRequest) : List Bool :=
  [request.apiKey, request.apiSecret, request.apiPassphrase].map fun value => decide (strip value ≠ [])

def exceeds (value cap : Option ℚ) : Bool :=
  match value, cap with
  | some value, some cap => decide (cap < value)
  | _, _ => false

def generalFloat (value : PyFloat) : Text :=
  match value with
  | .finite value => runtime.general value
  | .inf negative => text (if negative then "-inf" else "inf")
  | .nan => text "nan"

def capBlockers (price size maxSize maxNotional : Option ℚ) : List Text :=
  match price, size with
  | some price, some size =>
    let notional := rounded runtime (price * size)
    (match maxSize with
      | some cap => when (decide (cap < size)) (text "Size " ++ runtime.general size ++ text " exceeds max size cap " ++
          runtime.general cap ++ text ".")
      | none => []) ++
    (match maxNotional with
      | some cap => when ((PyFloat.finite cap).lt notional) (text "Approx notional " ++ generalFloat runtime notional ++
          text " exceeds max notional cap " ++ runtime.general cap ++ text " USDC.")
      | none => [])
  | _, _ => []

/-- The fields of a request that are read as numbers. -/
structure Readings where
  price : Except Text ℚ
  size : Except Text ℚ
  maxSize : Except Text ℚ
  maxNotional : Except Text ℚ
  makerPriceBuffer : Except Text ℚ

def readings (request : LiveOrderCancelRequest) : Except Raised Readings := do
  return {
    price := ← positiveFloat runtime request.price "price" "Price"
    size := ← positiveFloat runtime request.size "size" "Size"
    maxSize := ← positiveFloat runtime request.maxSize "max size" "Max size"
    maxNotional := ← positiveFloat runtime request.maxNotional "max notional" "Max notional"
    makerPriceBuffer := ← positiveFloat runtime request.makerPriceBuffer "maker price buffer" "Maker price buffer" }

def numberBlockers (read : Readings) : List Text :=
  errorText read.price ++ errorText read.size ++ errorText read.maxSize ++ errorText read.maxNotional ++
    errorText read.makerPriceBuffer

def orderBlockers (read : Readings) (tokenId side tif : Text) : List Text :=
  when (decide (tokenId = [])) (text "Missing --token-id.") ++
  when (decide (side ≠ text "BUY" ∧ side ≠ text "SELL")) (text "Side must be BUY or SELL.") ++
  when (read.price.toOption.any fun price => decide (1 ≤ price)) (text "Price must be less than 1.") ++
  when (decide (tif ≠ text "GTC"))
    (text "Safe order/cancel verification requires TIF=GTC so the order can rest and be canceled.")

def limitBlockers (read : Readings) : List Text :=
  when (exceeds read.maxSize.toOption (some absoluteMaxVerifySize)) (text "Max size cap cannot exceed hard limit 5.") ++
  when (exceeds read.maxNotional.toOption (some absoluteMaxVerifyNotional))
    (text "Max notional cap cannot exceed hard limit 1 USDC.") ++
  when (exceeds (some minMakerPriceBuffer) read.makerPriceBuffer.toOption)
    (text "Maker price buffer cannot be below the hard floor 0.001.") ++
  capBlockers runtime read.price.toOption read.size.toOption read.maxSize.toOption read.maxNotional.toOption

def allowListBlockers (request : LiveOrderCancelRequest) (tokenId : Text) : List Text :=
  if allowList request = [] then
    [text "Missing token allow-list. The trusted funded workflow requires the protected environment policy."]
  else when (decide (tokenId ≠ [] ∧ tokenId ∉ allowList request))
    (text "Token id is not present in the explicit allow-list.")

def authorityBlockers (request : LiveOrderCancelRequest) (signature : Except Text Int) : List Text :=
  when (!request.cancelImmediately) (text "Safe live verification requires --cancel-immediately.") ++
  errorText signature ++
  (if request.execute then
    (runtime.authReadiness request.privateKey request.funderAddress (signature.toOption.getD 0)).map
      (text "Auth readiness: " ++ ·)
  else []) ++
  when (request.execute && decide (request.confirmation ≠ confirmLiveOrderCancel))
    (text "Missing exact --confirm-live-order-cancel '" ++ confirmLiveOrderCancel ++ text "'.") ++
  when ((explicitCredentials request).any id && !(explicitCredentials request).all id)
    (text "Explicit Polymarket V2 API credentials require key, secret, and passphrase together.") ++
  when (request.execute && !boundedAuditMutationsSupported) boundedAuditMutationBlocker

def planWarnings (request : LiveOrderCancelRequest) : List Text :=
  when (decide (request.privateKey = [])) (text "Dry-run transcript only: private key is not present.") ++
  when (!request.execute)
    (text "Default dry-run mode: pass --allow-funded-order with exact confirmation text to execute.")

def planStatus (request : LiveOrderCancelRequest) (blockers : List Text) : PlanStatus :=
  if blockers ≠ [] then .blocked
  else if request.execute && boundedAuditMutationsSupported then .readyToExecute
  else .dryRun

/-- The blockers come in the order of the checks. -/
def planFrom (request : LiveOrderCancelRequest) (read : Readings) : Plan :=
  let tokenId := strip request.tokenId
  let side := runtime.casing.upper (strip request.side)
  let tif := requestTif runtime request
  let signature := runtime.parseSignatureType request.signatureType
  let blockers := numberBlockers read ++ orderBlockers read tokenId side tif ++ limitBlockers runtime read ++
    allowListBlockers request tokenId ++ authorityBlockers runtime request signature
  { status := planStatus request blockers, tokenId, side, tif, blockers, warnings := planWarnings request,
    price := read.price.toOption, size := read.size.toOption, maxSize := read.maxSize.toOption,
    maxNotional := read.maxNotional.toOption, makerPriceBuffer := read.makerPriceBuffer.toOption,
    signatureType := signature.toOption.getD 0,
    approxNotional := do return rounded runtime ((← read.price.toOption) * (← read.size.toOption)) }

def buildLiveOrderCancelPlan (request : LiveOrderCancelRequest) : Except Raised Plan :=
  (readings runtime request).map (planFrom runtime request)

end Planning

section Book

variable (runtime : Runtime)

/-- The price of a level, when it has one that counts. -/
def levelPrice (level : Json) : Except Raised (Option ℚ) :=
  match level with
  | .obj fields =>
    match toFloat runtime ((Dict.get? fields (text "price")).getD .null) with
    | .ok (.finite price) => .ok (if 0 < price ∧ price < 1 then some price else none)
    | .ok _ => .ok none
    | .error e => if isNumberError e then .ok none else .error e
  | _ => .ok none

def finiteBookPrices (levels : Option Json) : Except Raised (List ℚ) :=
  match levels with
  | some (.arr levels) => (levels.mapM (levelPrice runtime)).map fun prices => prices.filterMap id
  | _ => .ok []

def bestBidAskFromBook (book : Dict Text Json) : Except Raised (Option ℚ × Option ℚ) := do
  let bids ← finiteBookPrices runtime (firstTruthy book (text "bids") (text "buys"))
  let asks ← finiteBookPrices runtime (firstTruthy book (text "asks") (text "sells"))
  return (bids.max?, asks.min?)

def makerPriceBlocker (side : Text) (price : ℚ) (bestBid bestAsk : Option ℚ) (buffer : ℚ) : List Text :=
  if side = text "BUY" then
    match bestAsk with
    | none => [text "Cannot prove BUY order is maker-side because best ask is unavailable."]
    | some ask => when (!(PyFloat.finite price).lt (rounded runtime (ask - buffer)))
        (text "BUY price " ++ runtime.general price ++ text " is too close to/takes best ask " ++
          runtime.general ask ++ text "; lower price or increase safety buffer.")
  else if side = text "SELL" then
    match bestBid with
    | none => [text "Cannot prove SELL order is maker-side because best bid is unavailable."]
    | some bid => when (!(rounded runtime (bid + buffer)).lt (.finite price))
        (text "SELL price " ++ runtime.general price ++ text " is too close to/takes best bid " ++
          runtime.general bid ++ text "; raise price or increase safety buffer.")
  else [text "Side must be BUY or SELL."]

end Book

end MarketSentinel.Live
