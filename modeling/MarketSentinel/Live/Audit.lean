import MarketSentinel.Live.Plan

/-! The funded audit: one order, its cancellation and the journal of both.

Every step may fail. The journal is written before the order goes out and after
each of its outcomes.
-/

set_option autoImplicit false

namespace MarketSentinel.Live

open Python Program

inductive RecoveryStage where
  | placementPending
  | placementOutcomeUnknown
  | orderPlacedReconcileRequired
  | cancelFailed
  | postCancelReadFailed
  | cancelVerified
  | cancelIncomplete
  deriving DecidableEq

structure RecoveryRecord where
  tokenId : Text
  side : Text
  price : ℚ
  size : ℚ
  tif : Text
  accountAddress : Text
  stage : RecoveryStage
  orderId : Text := []
  errorType : Option Text := none
  manualReconciliationRequired : Bool := true
  resolved : Bool := false
  zeroFillVerified : Option Bool := none

/-- A durable write, which may depend on everything that happened so far. -/
abbrev Writer := List (Event RecoveryRecord) → RecoveryRecord → Except Raised Unit

/-- What an audit meets outside the program. -/
structure Surroundings where
  client : Client RecoveryRecord
  geoblock : Except Raised Json
  orderbook : Text → Except Raised (Dict Text Json)
  /-- The rest of the construction of a trader: its readiness, its API credentials, given or derived, and its
  connection. -/
  connect : Except Raised Unit
  writer : Option Writer

/-- The numbers of a plan, which a plan without blockers has. -/
structure PlannedOrder where
  tokenId : Text
  side : Text
  tif : Text
  price : ℚ
  size : ℚ
  approxNotional : PyFloat
  maxSize : ℚ
  maxNotional : ℚ
  makerPriceBuffer : ℚ

section Preflight

variable (runtime : Runtime)

def Plan.block (plan : Plan) (message : Text) : Plan :=
  { plan with status := .blocked, liveAction := false, blockers := plan.blockers ++ [message] }

def Plan.planned (plan : Plan) : Except Raised PlannedOrder :=
  match plan.price, plan.size, plan.approxNotional, plan.maxSize, plan.maxNotional, plan.makerPriceBuffer with
  | some price, some size, some approxNotional, some maxSize, some maxNotional, some makerPriceBuffer =>
    .ok { tokenId := plan.tokenId, side := plan.side, tif := plan.tif, price, size, approxNotional, maxSize,
          maxNotional, makerPriceBuffer }
  | _, _, _, _, _, _ => .error (typeError "float() argument must be a string or a real number, not 'NoneType'")

def geoblockBlocker (eligibility : Except Raised Json) : Option Text :=
  match eligibility with
  | .error e => some (text "Geographic eligibility could not be verified (" ++ e.type ++ text ").")
  | .ok (.obj fields) =>
    if Dict.get? fields (text "blocked") = some (.bool false) then none
    else some (text "Polymarket geographic eligibility did not return blocked=false.")
  | .ok _ => some (text "Polymarket geographic eligibility did not return blocked=false.")

def isOrderRecord (order : Json) : Bool :=
  match order with
  | .obj fields => decide (extractOrderId fields ≠ [])
  | _ => false

/-- The address of the account whose open orders could be read. -/
def sameAccountAuthenticatedReadPreflight (client : Client RecoveryRecord) (funderAddress : Text) :
    Trading RecoveryRecord Text := do
  let accountAddress ← getTradingAccountAddress client funderAddress
  Program.require (isEvmAddressLike accountAddress)
    (valueError "trading client did not expose a valid EVM account identity")
  let orders ← getOrders client
  Program.require (orders.all isOrderRecord)
    (valueError "authenticated order-list response contains an invalid order record")
  return accountAddress

/-- `math.ceil` of the amount in base units. -/
def requiredUnits (order : PlannedOrder) : Except Raised ℤ :=
  let amount := if order.side = text "BUY" then order.approxNotional else .finite order.size
  match amount with
  | .finite amount =>
    match rounded runtime (amount * 1000000) with
    | .finite units => .ok units.ceil
    | _ => .error ⟨text "OverflowError", text "cannot convert float infinity to integer"⟩
  | _ => .error ⟨text "OverflowError", text "cannot convert float infinity to integer"⟩

def covers (units : ℤ) (amount : Option PyFloat) : Bool :=
  match amount with
  | some (.finite amount) => decide ((units : ℚ) ≤ amount)
  | _ => false

/-- Whether the balance and one allowance cover the order. -/
def balanceCovers (order : PlannedOrder) (response : Dict Text Json) : Except Raised Bool := do
  let balance := floatOfSpelling runtime ((response.get? (text "balance")).getD .null)
  if balance = none then .error (valueError "balance/allowance response has an invalid balance")
  else
    match balance, response.get? (text "allowances") with
    | some (.finite amount), some (.obj allowances) =>
      if amount < 0 then .error (valueError "balance/allowance response has invalid numeric fields")
      else
        let units ← requiredUnits runtime order
        return covers units balance &&
          allowances.any fun allowance => covers units (floatOfSpelling runtime allowance.2)
    | _, _ => .error (valueError "balance/allowance response has invalid numeric fields")

def accountBalanceAllowancePreflight (client : Client RecoveryRecord) (order : PlannedOrder) :
    Trading RecoveryRecord Bool := do
  let response ← getTradingBalanceAllowance runtime client order.tokenId order.side
  Program.ofExcept (balanceCovers runtime order response)

/-- The dedicated factory: the caps are checked again before anything is connected. The configuration of an audit
does not allow the creation of API keys. -/
def forBoundedAudit (connect : Except Raised Unit) (order : PlannedOrder) : Trading RecoveryRecord Unit := do
  let audit ← Program.ofExcept
    (boundedAudit runtime order.tokenId (.finite order.maxSize) (.finite order.maxNotional) false)
  Program.ofExcept connect
  Program.modify fun s => { s with bounded := some audit }

end Preflight

section Execution

variable (runtime : Runtime) (client : Client RecoveryRecord) (writer : Writer)

def isOk {α : Type} : Except Raised α → Bool
  | .ok _ => true
  | .error _ => false

def recoveryWrite (record : RecoveryRecord) : Trading RecoveryRecord Unit := fun s =>
  (writer s.events record, s.noted (.noted record (isOk (writer s.events record))))

def AuditTrail.journal {α : Type} (audit : AuditTrail) (outcome : Except Raised α) : AuditTrail :=
  match outcome with
  | .error e => { audit with recoveryJournalError := some e.type }
  | .ok _ => audit

def placedAuditPayload (payload : Dict Text Json) : PlacedAudit :=
  { orderID := extractOrderId payload, orderIdPresent := decide (extractOrderId payload ≠ []), responseReceived := true }

def cancelAuditPayload (payload : Dict Text Json) (orderId : Text) : CancelAudit :=
  let acknowledged := cancelResponseContains payload orderId
  { canceled := if acknowledged then [orderId] else [], orderAcknowledged := acknowledged, responseReceived := true }

def postCancelAuditPayload (payload : Dict Text Json) (orderId : Text) (explicitCancelState : Bool)
    (zeroFill : ZeroFill) : PostCancelAudit :=
  { id := extractOrderId payload,
    status := text (if explicitCancelState then "ORDER_STATUS_CANCELED" else "UNVERIFIED"),
    sizeMatched := text (if zeroFill.sizeMatchedZero then "0" else "NONZERO_OR_UNVERIFIED"),
    associateTrades := if zeroFill.associatedTradesEmpty then [] else [.obj [(text "present", .bool true)]],
    orderIdentityMatches := decide (extractOrderId payload ≠ [] ∧ extractOrderId payload = orderId),
    responseReceived := true }

def Plan.fail (plan : Plan) (failure : String) (audit : AuditTrail) : Plan :=
  { plan with status := .failed, failure := some (text failure), audit := some audit }

/-- The acknowledgement, the state and the fill must all speak of the order. -/
def cancelVerified (orderId : Text) (cancelled postCancel : Dict Text Json) : Bool :=
  cancelResponseContains cancelled orderId && orderStateIsCancelled runtime postCancel orderId &&
    (orderZeroFillEvidence runtime postCancel orderId).verified

/-- The verdict over both answers, and the last record of the journal. -/
def conclude (plan : Plan) (base : RecoveryRecord) (audit : AuditTrail) (orderId : Text)
    (cancelled postCancel : Dict Text Json) : Trading RecoveryRecord Plan := do
  let verified := cancelVerified runtime orderId cancelled postCancel
  let explicitCancelState := orderStateIsCancelled runtime postCancel orderId
  let zeroFill := orderZeroFillEvidence runtime postCancel orderId
  let written ← Program.attempt (recoveryWrite writer { base with
    stage := if verified then .cancelVerified else .cancelIncomplete, orderId,
    manualReconciliationRequired := !verified, resolved := verified, zeroFillVerified := some zeroFill.verified })
  let audit := { audit.journal written with
    postCancelOrder := some (postCancelAuditPayload postCancel orderId explicitCancelState zeroFill),
    cancelAcknowledgedForOrder := cancelResponseContains cancelled orderId, explicitCancelState,
    zeroFillEvidence := zeroFill, postCancelVerified := verified,
    recoveryJournalResolved := some (isOk written && verified) }
  if verified then
    if isOk written then
      return { plan with status := .ok, manualReconciliationRequired := false, audit := some audit }
    else
      return plan.fail ("The order cancel and zero-fill state were verified, but the durable recovery journal " ++
        "could not be marked resolved. Reconcile the journal manually.") audit
  else
    return plan.fail ("Order cancel was submitted, but an order-id-specific acknowledgment and explicit canceled " ++
      "state were not both proven. Reconcile the order manually.") audit

def readAfterCancellation (plan : Plan) (base : RecoveryRecord) (audit : AuditTrail) (orderId : Text)
    (cancelled : Dict Text Json) : Trading RecoveryRecord Plan := do
  let audit := { audit with cancel := some (cancelAuditPayload cancelled orderId) }
  let postCancel ← Program.attempt (getOrder runtime client orderId)
  match postCancel with
  | .error e => do
    let written ← Program.attempt (recoveryWrite writer
      { base with stage := .postCancelReadFailed, orderId, errorType := some e.type })
    return plan.fail ("The cancel request returned, but the post-cancel order read failed. " ++
      "Use audit.order_id to reconcile the order manually.")
      ({ audit with postCancelError := some e.type }.journal written)
  | .ok postCancel => conclude runtime writer plan base audit orderId cancelled postCancel

def cancelPlaced (plan : Plan) (base : RecoveryRecord) (placed : Dict Text Json) : Trading RecoveryRecord Plan := do
  let orderId := extractOrderId placed
  let plan := { plan with liveAction := true, manualReconciliationRequired := true }
  -- A failed write does not stop the cancellation of the order that is live now.
  let written ← Program.attempt (recoveryWrite writer
    { base with stage := .orderPlacedReconcileRequired, orderId })
  let audit := ({ placed := some (placedAuditPayload placed), orderId : AuditTrail }).journal written
  if orderId = [] then
    return plan.fail "Order placement response did not include an order id; manual account review is required." audit
  else do
    let cancelled ← Program.attempt (cancelOrder runtime client orderId)
    match cancelled with
    | .error e => do
      let written ← Program.attempt (recoveryWrite writer
        { base with stage := .cancelFailed, orderId, errorType := some e.type })
      return plan.fail ("Order placement succeeded, but the cancel request failed. " ++
        "Use audit.order_id to reconcile and cancel the order manually.")
        ({ audit with cancelError := some e.type }.journal written)
    | .ok cancelled => readAfterCancellation runtime client writer plan base audit orderId cancelled

def placeAndCancel (plan : Plan) (order : PlannedOrder) (accountAddress : Text) : Trading RecoveryRecord Plan := do
  let base : RecoveryRecord :=
    { tokenId := order.tokenId, side := order.side, price := order.price, size := order.size, tif := order.tif,
      accountAddress, stage := .placementPending }
  let pending ← Program.attempt (recoveryWrite writer base)
  match pending with
  | .error e => return plan.block (text "Durable recovery journal could not be written (" ++ e.type ++ text ").")
  | .ok () => do
    let placed ← Program.attempt (placeLimitOrder runtime client order.tokenId order.side (.finite order.price)
      (.finite order.size) order.tif true)
    match placed with
    | .error e => do
      let written ← Program.attempt (recoveryWrite writer
        { base with stage := .placementOutcomeUnknown, errorType := some e.type })
      let plan := { plan with
        liveAction := true, manualReconciliationRequired := true, placementError := some e.type }
      return plan.fail ("The placement outcome is unknown. Use the durable journal identity to inspect and " ++
          "cancel any matching live order manually.") (({ : AuditTrail }).journal written)
    | .ok placed => cancelPlaced runtime client writer plan base placed

/-- The checks of the account, then the order. -/
def withTrader (plan : Plan) (order : PlannedOrder) (funderAddress : Text) : Trading RecoveryRecord Plan := do
  let account ← Program.attempt (sameAccountAuthenticatedReadPreflight client funderAddress)
  match account with
  | .error e =>
    return plan.block (text "Same-account authenticated read preflight failed (" ++ e.type ++ text ").")
  | .ok accountAddress => do
    let balance ← Program.attempt (accountBalanceAllowancePreflight runtime client order)
    match balance with
    | .error e =>
      return plan.block (text "Trading balance/allowance preflight failed (" ++ e.type ++ text ").")
    | .ok false =>
      return plan.block (text "Trading balance or allowance is insufficient for the bounded verification order.")
    | .ok true => placeAndCancel runtime client writer plan order accountAddress

end Execution

section Run

variable (runtime : Runtime) (surroundings : Surroundings)

/-- From the order book on. -/
def withBook (request : LiveOrderCancelRequest) (plan : Plan) (writer : Writer) : Trading RecoveryRecord Plan := do
  let book ← Program.ofExcept (surroundings.orderbook plan.tokenId)
  let best ← Program.ofExcept (bestBidAskFromBook runtime book)
  let order ← Program.ofExcept plan.planned
  let plan := { plan with bestBid := best.1, bestAsk := best.2 }
  match makerPriceBlocker runtime order.side order.price best.1 best.2 order.makerPriceBuffer with
  | message :: _ => return plan.block message
  | [] => do
    forBoundedAudit runtime surroundings.connect order
    withTrader runtime surroundings.client writer plan order request.funderAddress

def runLiveOrderCancelVerification (request : LiveOrderCancelRequest) : Trading RecoveryRecord Plan := do
  let plan ← Program.ofExcept (buildLiveOrderCancelPlan runtime request)
  if plan.status = .readyToExecute then
    match surroundings.writer with
    | none =>
      return plan.block (text "Funded execution requires a durable recovery journal writer before placement.")
    | some writer =>
      match geoblockBlocker surroundings.geoblock with
      | some message => return plan.block message
      | none => withBook runtime surroundings request plan writer
  else return plan

end Run

end MarketSentinel.Live
