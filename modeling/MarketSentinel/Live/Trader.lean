import MarketSentinel.Library.Dict
import MarketSentinel.Library.Json
import MarketSentinel.Library.Program

/-! The private trading client and its one-shot audit capability.

Every call that reaches the venue's client is an event of the session, newest
first, next to whatever else the session notes. The client answers as it likes.
-/

set_option autoImplicit false

namespace MarketSentinel.Live

open Python

section Values

structure Runtime where
  casing : Casing
  rounding : FloatRounding
  printable : CodePoint → Bool
  printable_ascii : ∀ c : CodePoint, 32 ≤ c.val → c.val ≤ 126 → printable c = true
  /-- `f"{value:g}"` of a number. -/
  general : ℚ → Text
  /-- The blockers of the trading readiness of a key, a funder and a signature type. -/
  authReadiness : Text → Text → Int → List Text
  parseSignatureType : Json → Except Text Int

/-- An exception: the name of its type and its message. -/
structure Raised where
  type : Text
  message : Text
  deriving DecidableEq

def valueError (message : String) : Raised := ⟨text "ValueError", text message⟩

def runtimeError (message : String) : Raised := ⟨text "RuntimeError", text message⟩

def labelled (label message : String) : Raised := ⟨text "ValueError", text "Polymarket " ++ text label ++ text message⟩

variable (runtime : Runtime)

def canonicalIdentifier (candidate : Text) (label : String) : Except Raised Text :=
  if candidate = [] ∨ candidate ≠ strip candidate then
    .error (labelled label " must be a non-empty canonical string.")
  else if 256 < candidate.length ∨ (candidate.any fun c => !runtime.printable c) = true then
    .error (labelled label " must be printable and at most 256 characters.")
  else .ok candidate

def positiveFinite (value : PyFloat) (label : String) : Except Raised ℚ :=
  match value with
  | .finite parsed =>
    if parsed ≤ 0 then .error (labelled label " must be a finite positive number.") else .ok parsed
  | _ => .error (labelled label " must be a finite positive number.")

def orderSide (side : Text) : Except Raised Text :=
  let normalized := runtime.casing.upper (strip side)
  if normalized = text "BUY" ∨ normalized = text "SELL" then .ok normalized
  else .error (valueError "Polymarket order side must be BUY or SELL.")

def mappingResponse (value : Json) (operation : String) : Except Raised (Dict Text Json) :=
  match value with
  | .obj fields => .ok fields
  | _ => .error ⟨text "RuntimeError", text "Polymarket " ++ text operation ++ text " response is not an object."⟩

def orderIdFields : List Text := [text "orderID", text "orderId", text "order_id", text "id"]

/-- The first field that holds a non-empty text without outer blanks. -/
def exactOrderId (response : Dict Text Json) : Option Text :=
  orderIdFields.findSome? fun field =>
    match response.get? field with
    | some (.str value) => if strip value = value ∧ value ≠ [] then some value else none
    | _ => none

def placedOrderId (response : Dict Text Json) : Except Raised Text :=
  match exactOrderId response with
  | some value => canonicalIdentifier runtime value "returned order id"
  | none => .ok []

def v2SignedOrderFields : List Text :=
  ["salt", "maker", "signer", "tokenId", "makerAmount", "takerAmount", "side", "signatureType", "timestamp",
    "metadata", "builder", "signature"].map text

def isFilledText : Option Json → Bool
  | some (.str value) => decide (strip value ≠ [])
  | _ => false

/-- The attributes of a signed order, read as fields. -/
def requireV2SignedOrder (order : Json) : Except Raised Unit :=
  match order with
  | .obj fields =>
    if (v2SignedOrderFields.any fun name => (Dict.get? fields name).isNone) = true ∨
        isFilledText (Dict.get? fields (text "timestamp")) = false then
      .error (runtimeError "Polymarket SDK did not build an unambiguous V2 signed order; posting is blocked.")
    else if isFilledText (Dict.get? fields (text "signature")) = false then
      .error (runtimeError "Polymarket SDK returned an unsigned V2 order; posting is blocked.")
    else .ok ()
  | _ => .error (runtimeError "Polymarket SDK did not build an unambiguous V2 signed order; posting is blocked.")

def requireVersion (response : Except Raised Json) : Except Raised Unit :=
  match response with
  | .error _ =>
    .error (runtimeError "Polymarket CLOB server version could not be verified; mutation is blocked.")
  | .ok (.obj fields) =>
    match Dict.get? fields (text "version") with
    | some (.int version) =>
      if version = 2 then .ok ()
      else .error ⟨text "RuntimeError", text "Polymarket CLOB server version " ++ text (toString version) ++
        text " is not V2; mutation is blocked."⟩
    | _ => .error (runtimeError "Polymarket CLOB server returned an invalid version response; mutation is blocked.")
  | .ok _ =>
    .error (runtimeError "Polymarket CLOB server returned an invalid version response; mutation is blocked.")

end Values

section Calls

structure OrderArgs where
  tokenId : Text
  price : ℚ
  size : ℚ
  side : Text
  deriving DecidableEq

inductive Read where
  | address
  | balanceAllowance (asset : Text) (tokenId : Option Text)
  | openOrders
  | order (orderId : Text)
  | trades
  | orderScoring (orderId : Text)
  | builderTrades (builderCode : Text)
  deriving DecidableEq

/-- A call of the venue's client; a signed order is known by what it was built from. -/
inductive ClientCall where
  | read (read : Read)
  | version
  | createOrder (order : OrderArgs)
  | postOrder (order : OrderArgs) (orderType : Text) (postOnly deferExec : Bool)
  | cancelOrder (orderId : Text)
  | postMarketOrder
  | postOrders
  | cancelOrders
  | cancelAll
  | cancelMarketOrders
  | postHeartbeat
  deriving DecidableEq

/-- Whether a call changes anything at the venue. -/
def ClientCall.mutates : ClientCall → Bool
  | .read _ | .version | .createOrder _ => false
  | _ => true

inductive Event (ρ : Type) where
  | client (call : ClientCall) (reply : Except Raised Json)
  | noted (record : ρ) (written : Bool)

/-- The limits of one audit; the hard caps are part of them. -/
structure BoundedAudit where
  tokenId : Text
  maxSize : ℚ
  maxNotional : ℚ
  size_capped : maxSize ≤ 5
  notional_capped : maxNotional ≤ 1

structure Session (ρ : Type) where
  bounded : Option BoundedAudit
  placementAttempted : Bool := false
  orderId : Option Text := none
  cancelAttempted : Bool := false
  events : List (Event ρ) := []

structure Client (ρ : Type) where
  respond : List (Event ρ) → ClientCall → Except Raised Json
  /-- Whether the types of the venue's package could be imported, all of them at once. -/
  installed : Bool

abbrev Trading (ρ α : Type) := Program Raised (Session ρ) α

variable {ρ : Type} (client : Client ρ)

def Session.noted (s : Session ρ) (event : Event ρ) : Session ρ := { s with events := event :: s.events }

def call (request : ClientCall) : Trading ρ Json := fun s =>
  (client.respond s.events request, s.noted (.client request (client.respond s.events request)))

end Calls

section Methods

def liveMutationsSupported : Bool := false

def boundedAuditMutationsSupported : Bool := true

def liveMutationBlocker : Text :=
  text "Polymarket CLOB V2 mutations are disabled until exact-revision credentialed " ++
  text "and funded order/cancel verification is reviewed and promoted; legacy " ++
  text "py-clob-client/V1 order flows must not be used in production."

def boundedAuditMutationBlocker : Text :=
  text "The bounded Polymarket CLOB V2 funded audit is available only through its one-shot, " ++
  text "allow-listed, capped post-only GTC order/immediate-cancel capability with durable recovery; " ++
  text "normal product mutation support remains independently disabled."

variable {ρ : Type} (runtime : Runtime) (client : Client ρ)

/-- The caps a constructor accepts. -/
def boundedAudit (tokenId : Text) (maxSize maxNotional : PyFloat) (allowApiKeyCreation : Bool) :
    Except Raised BoundedAudit := do
  let token ← canonicalIdentifier runtime tokenId "bounded-audit token id"
  let size ← positiveFinite maxSize "bounded-audit max size"
  let notional ← positiveFinite maxNotional "bounded-audit max notional"
  if sizeCapped : size ≤ 5 then
    if notionalCapped : notional ≤ 1 then
      if allowApiKeyCreation then
        .error (valueError "Polymarket bounded-audit mode forbids API-key creation.")
      else return ⟨token, size, notional, sizeCapped, notionalCapped⟩
    else .error (valueError "Polymarket bounded-audit max notional cannot exceed 1 USDC.")
  else .error (valueError "Polymarket bounded-audit max size cannot exceed 5.")

/-- `_mutation`: the client, when this kind of trader may mutate. -/
def mutation : Trading ρ Unit := do
  let s ← Program.state
  Program.require (if s.bounded.isSome then boundedAuditMutationsSupported else liveMutationsSupported)
    ⟨text "RuntimeError", if s.bounded.isSome then boundedAuditMutationBlocker else liveMutationBlocker⟩

def requireProductMutation (operation : String) : Trading ρ Unit := do
  let s ← Program.state
  Program.require (s.bounded.isNone) ⟨text "RuntimeError", text "Polymarket bounded-audit mode forbids " ++
    text operation ++ text "; only one capped post-only GTC limit placement and cancellation " ++
    text "of its exact returned order id are permitted."⟩

def requireV2Server : Trading ρ Unit := do
  let response ← Program.attempt (call client .version)
  Program.ofExcept (requireVersion response)

/-- `price * size` as a float, when it is finite. -/
def notional (price size : ℚ) : Option ℚ := runtime.rounding.nearest (price * size)

def withinNotional (price size cap : ℚ) : Bool := (notional runtime price size).any fun value => decide (value ≤ cap)

def prepareBoundedPlacement (token : Text) (price size : ℚ) (tif : Text) (postOnly : Bool) : Trading ρ Unit := do
  let s ← Program.state
  match s.bounded with
  | none => pure ()
  | some audit => do
    Program.require (!s.placementAttempted)
      (runtimeError "Polymarket bounded-audit mode permits exactly one placement attempt.")
    Program.require (decide (token = audit.tokenId))
      (valueError "Polymarket bounded-audit token id does not match the configured allow-listed token.")
    Program.require (decide (tif = text "GTC") && postOnly)
      (valueError "Polymarket bounded-audit placement requires post_only=true and exact TIF=GTC.")
    Program.require (decide (size ≤ audit.maxSize))
      (valueError "Polymarket bounded-audit size exceeds its configured cap.")
    Program.require (withinNotional runtime price size audit.maxNotional)
      (valueError "Polymarket bounded-audit notional exceeds its configured cap.")
    -- The capability is used up before any call of the client.
    Program.modify fun s => { s with placementAttempted := true }

/-- Remember the identifier of the placed order, the only one an audit may cancel. -/
def rememberPlacement (response : Dict Text Json) : Trading ρ Unit := do
  let s ← Program.state
  match s.bounded with
  | none => pure ()
  | some _ => do
    let orderId ← Program.ofExcept (placedOrderId runtime response)
    Program.require (decide (orderId ≠ [])) (runtimeError
      "Polymarket bounded-audit placement response did not contain an exact order id; manual reconciliation is required.")
    Program.modify fun s => { s with orderId := some orderId }

def placeLimitOrder (tokenId side : Text) (price size : PyFloat) (tif : Text) (postOnly : Bool) :
    Trading ρ (Dict Text Json) := do
  let token ← Program.ofExcept (canonicalIdentifier runtime tokenId "token id")
  let sideValue ← Program.ofExcept (orderSide runtime side)
  let price ← Program.ofExcept (positiveFinite price "limit price")
  Program.require (decide (price < 1)) (valueError "Polymarket limit price must be greater than 0 and less than 1.")
  let size ← Program.ofExcept (positiveFinite size "order size")
  Program.require (decide (runtime.casing.upper (strip tif) = text "GTC"))
    (valueError "Polymarket guarded limit orders require exact TIF=GTC.")
  prepareBoundedPlacement runtime token price size tif postOnly
  Program.require client.installed (runtimeError "py-clob-client-v2 is missing V2 limit-order types.")
  mutation
  requireV2Server client
  let order : OrderArgs := { tokenId := token, price, size, side := sideValue }
  let signed ← call client (.createOrder order)
  Program.ofExcept (requireV2SignedOrder signed)
  let reply ← call client (.postOrder order (text "GTC") postOnly false)
  let response ← Program.ofExcept (mappingResponse reply "limit-order placement")
  rememberPlacement runtime response
  return response

/-- The identifier an audit may cancel, once. -/
def prepareBoundedCancellation (identifier : Text) : Trading ρ Unit := do
  let s ← Program.state
  match s.bounded with
  | none => pure ()
  | some _ =>
    match s.orderId with
    | none => Program.raise (runtimeError
        "Polymarket bounded-audit cancellation requires the exact order id returned by its placement.")
    | some orderId => do
      Program.require (decide (identifier = orderId))
        (valueError "Polymarket bounded-audit mode can cancel only its exact returned order id.")
      Program.require (!s.cancelAttempted)
        (runtimeError "Polymarket bounded-audit mode permits exactly one cancellation attempt.")
      Program.modify fun s => { s with cancelAttempted := true }

def checkCancellationServer : Trading ρ Unit := do
  let s ← Program.state
  match s.bounded with
  | none => pure ()
  | some _ => requireV2Server client

def cancelOrder (orderId : Text) : Trading ρ (Dict Text Json) := do
  let identifier ← Program.ofExcept (canonicalIdentifier runtime orderId "order id")
  prepareBoundedCancellation identifier
  mutation
  checkCancellationServer client
  Program.require client.installed (runtimeError "py-clob-client-v2 is missing cancellation types.")
  let reply ← call client (.cancelOrder identifier)
  Program.ofExcept (mappingResponse reply "single-order cancellation")

def getTradingBalanceAllowance (tokenId side : Text) : Trading ρ (Dict Text Json) := do
  let side ← Program.ofExcept (orderSide runtime side)
  let token ← Program.ofExcept (canonicalIdentifier runtime tokenId "token id")
  mutation
  Program.require client.installed (runtimeError "py-clob-client-v2 is missing balance/allowance types.")
  let reply ← call client (.read (if side = text "BUY" then .balanceAllowance (text "COLLATERAL") none
    else .balanceAllowance (text "CONDITIONAL") (some token)))
  Program.ofExcept (mappingResponse reply "balance/allowance")

/-- The funder when one is configured, else the address of the client. -/
def getTradingAccountAddress (funderAddress : Text) : Trading ρ Text :=
  if funderAddress ≠ [] then pure funderAddress
  else do
    let address ← call client (.read .address)
    Program.ofExcept (match address with
      | .str address => if strip address ≠ [] then .ok (strip address)
        else .error (runtimeError "Polymarket client did not expose a trading account address.")
      | _ => .error (runtimeError "Polymarket client did not expose a trading account address."))

def getOrder (orderId : Text) : Trading ρ (Dict Text Json) := do
  let identifier ← Program.ofExcept (canonicalIdentifier runtime orderId "order id")
  let reply ← call client (.read (.order identifier))
  Program.ofExcept (mappingResponse reply "authenticated order read")

def getOrders : Trading ρ (List Json) := do
  let reply ← call client (.read .openOrders)
  Program.ofExcept (match reply with
    | .arr orders => .ok orders
    | _ => .error (runtimeError "Polymarket authenticated open-order response is not a list."))

/-- A mutation of the product, which an audit refuses before anything else. -/
def productMutation (operation : String) (request : ClientCall) : Trading ρ Json := do
  requireProductMutation operation
  mutation
  call client request

def placeMarketOrderAmount : Trading ρ Json := productMutation client "market-order placement" .postMarketOrder
def cancelOrders : Trading ρ Json := productMutation client "multi-order cancellation" .cancelOrders
def cancelAllOrders : Trading ρ Json := productMutation client "cancel-all" .cancelAll
def cancelMarketOrders : Trading ρ Json := productMutation client "market-wide cancellation" .cancelMarketOrders
def placeMultipleOrders : Trading ρ Json := productMutation client "batch placement" .postOrders
def sendHeartbeat : Trading ρ Json := productMutation client "heartbeat mutation" .postHeartbeat

/-- The public methods of a trader. -/
inductive Method where
  | placeLimitOrder (tokenId side : Text) (price size : PyFloat) (tif : Text) (postOnly : Bool)
  | cancelOrder (orderId : Text)
  | getTradingBalanceAllowance (tokenId side : Text)
  | getTradingAccountAddress (funderAddress : Text)
  | read (read : Read)
  | placeMarketOrderAmount
  | cancelOrders
  | cancelAllOrders
  | cancelMarketOrders
  | placeMultipleOrders
  | sendHeartbeat

/-- A method call from outside, which sees a result or an error. -/
def Session.invoke (s : Session ρ) : Method → Session ρ
  | .placeLimitOrder tokenId side price size tif postOnly =>
    (Live.placeLimitOrder runtime client tokenId side price size tif postOnly s).2
  | .cancelOrder orderId => (Live.cancelOrder runtime client orderId s).2
  | .getTradingBalanceAllowance tokenId side => (Live.getTradingBalanceAllowance runtime client tokenId side s).2
  | .getTradingAccountAddress funderAddress => (Live.getTradingAccountAddress client funderAddress s).2
  | .read read => (call client (.read read) s).2
  | .placeMarketOrderAmount => (Live.placeMarketOrderAmount client s).2
  | .cancelOrders => (Live.cancelOrders client s).2
  | .cancelAllOrders => (Live.cancelAllOrders client s).2
  | .cancelMarketOrders => (Live.cancelMarketOrders client s).2
  | .placeMultipleOrders => (Live.placeMultipleOrders client s).2
  | .sendHeartbeat => (Live.sendHeartbeat client s).2

end Methods

end MarketSentinel.Live
