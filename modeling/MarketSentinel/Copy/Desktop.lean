import MarketSentinel.Copy.Signal

/-! The copy engine of the desktop application, for settings that are not live. -/

set_option autoImplicit false

namespace MarketSentinel.Copy.App

open Python Program

inductive OutcomeState where
  | completed
  | rejected
  | retryable
  | ambiguous
  deriving DecidableEq

structure CopyActivityOutcome where
  state : OutcomeState
  code : Text
  detail : Text
  deriving DecidableEq

def rejected (code detail : String) : CopyActivityOutcome := ⟨.rejected, text code, text detail⟩

section Reading

variable {F : Type} (runtime : Runtime F)

/-- `safe_float`: every exception gives the default. -/
def safeFloat (value : Json) (default : Option F) : Option F :=
  match runtime.floats.parse value with
  | .ok number => some number
  | .error _ => default

def copyGuardKey (item : Activity) : Text :=
  joinParts (["asset", "slug", "outcome"].map fun field => runtime.casing.lower (strip (fieldText runtime item field)))

def itemTimestamp (moment : Moment F) : Except FloatError Int :=
  runtime.floats.toInt (runtime.floats.orElse
    ((safeFloat runtime (moment.activity.get "timestamp") (some moment.now)).getD moment.now) moment.now)

end Reading

section Guard

variable {F : Type} (runtime : Runtime F) (settings : CopyTradeSettings F)

/-- The guard only looks here; a copy is stored after its order was accepted. -/
def copyConflictReason (moment : Moment F) : Program FloatError ConflictState (Option Text) :=
  let key := copyGuardKey runtime moment.activity
  if settings.conflictGuard = false then pure none
  else if key = [] then pure none
  else do
    let side := runtime.casing.upper (fieldText runtime moment.activity "side")
    let wallet := runtime.casing.lower (strip (fieldText runtime moment.activity "proxyWallet"))
    let timestamp ← Program.ofExcept (itemTimestamp runtime moment)
    Program.modify (evict (max 0 settings.conflictWindowSeconds) timestamp)
    let state ← Program.state
    match state.get? key with
    | some existing =>
      if existing.wallet = wallet then return none
      else if existing.side ≠ [] ∧ runtime.casing.upper existing.side ≠ side then
        return some (text "opposite-side same-token copy already accepted from " ++ existing.wallet)
      else return some (text "duplicate same-token copy already accepted from " ++ existing.wallet)
    | none => return none

def commitCopyConflict (moment : Moment F) : Program FloatError ConflictState Unit :=
  let key := copyGuardKey runtime moment.activity
  if settings.conflictGuard = false then pure ()
  else if key = [] then pure ()
  else do
    let timestamp ← Program.ofExcept (itemTimestamp runtime moment)
    Program.modify fun state => state.set key
      { side := runtime.casing.upper (fieldText runtime moment.activity "side"),
        wallet := runtime.casing.lower (strip (fieldText runtime moment.activity "proxyWallet")),
        activityKey := runtime.activityKey moment.activity, timestamp }

end Guard

section Engine

variable {F : Type} (runtime : Runtime F)

/-- The market of an activity that names none. -/
def activityMarket (cfg : CopyConfig F) : Text :=
  if cfg.selectedMarketId = [] then text "polymarket" else cfg.selectedMarketId

def screen (settings : CopyTradeSettings F) (adapter : Adapter F) (marketId : Text) (item : Activity) :
    Except CopyActivityOutcome (Text × Text) :=
  let followed := normalizedFollowWallets runtime settings
  let identity := runtime.activityIdentity marketId (fieldText runtime item "proxyWallet")
  let side := runtime.casing.upper (fieldText runtime item "side")
  let tokenId := strip (eitherText runtime item "asset" "contract_id")
  if settings.enabled = false then .error (rejected "copy_disabled" "Copy trading is disabled.")
  else if followed = [] then .error (rejected "no_follow_wallets" "No copy-trading wallets are configured.")
  else if identity.all (fun identity => decide (identity = [] ∨ identity ∉ followed)) = true then
    .error (rejected "wallet_not_followed" "Activity wallet is not followed.")
  else if side ≠ text "BUY" ∧ side ≠ text "SELL" then
    .error (rejected "invalid_side" "Activity side is not copyable.")
  else if side = text "SELL" ∧ settings.allowSells = false then
    .error (rejected "sells_disabled" "SELL copy trading is disabled.")
  else if tokenId = [] then .error (rejected "missing_contract" "Activity has no contract identifier.")
  else if adapter.copyTrading = false then
    .error (rejected "copy_not_supported" "The selected market does not support copy trading.")
  else .ok (side, tokenId)

def invalidOdds : CopyActivityOutcome := rejected "invalid_odds" "Activity has no valid decimal odds."

/-- The best quote of the side, else the price of the activity, else a default. -/
def limitPrice (marketId side : Text) (item : Activity) (quotes : Option F × Option F) (rawPrice : Option F)
    (slip : F) : Except CopyActivityOutcome F :=
  let floats := runtime.floats
  if marketId = text "azuro" then
    let odds := match safeFloat runtime (item.get "odds") none, rawPrice with
      | some odds, _ => some odds
      | none, some price =>
        if floats.lt (floats.literal 0) price then some (floats.div (floats.literal 1) price) else none
      | none, none => none
    match odds with
    | none => .error invalidOdds
    | some odds =>
      if floats.le odds (floats.literal 0) then .error invalidOdds
      else .ok (floats.max (floats.literal (1 / 10 ^ 12)) (floats.mul odds (floats.sub (floats.literal 1) slip)))
  else if side = text "BUY" then
    let ref := (quotes.2.or rawPrice).getD (floats.literal (99 / 100))
    .ok (floats.min (floats.literal 1) (floats.add ref slip))
  else
    let ref := (quotes.1.or rawPrice).getD (floats.literal (1 / 100))
    .ok (floats.max (floats.literal 0) (floats.sub ref slip))

/-- The size and the limit of a copy. -/
def sizing (settings : CopyTradeSettings F) (marketId side tokenId : Text) (moment : Moment F) :
    Except CopyActivityOutcome (F × F) := do
  let floats := runtime.floats
  let readSize := safeFloat runtime (moment.activity.get "size") (some (floats.literal 0))
  let rawSize := floats.orElse (readSize.getD (floats.literal 0)) (floats.literal 0)
  let rawPrice := safeFloat runtime (moment.activity.get "price") none
  let size := floats.max (floats.literal 0) (floats.mul rawSize settings.scale)
  let quotes := if marketId = text "azuro" then (none, none) else moment.quotes tokenId
  let slip := floats.max (floats.literal 0) (floats.min settings.slippage (floats.literal 1))
  let limit ← limitPrice runtime marketId side moment.activity quotes rawPrice slip
  let maxUsdc := floats.max (floats.literal (1 / 100)) settings.maxUsdcPerTrade
  let size :=
    if isBudgetMarket marketId = true ∧ side = text "BUY" then
      if floats.lt maxUsdc size then maxUsdc else size
    else if floats.lt (floats.literal 0) limit then
      if floats.lt (floats.div maxUsdc limit) size then floats.div maxUsdc limit else size
    else size
  if floats.le size (floats.literal 0) then .error (rejected "zero_size" "Scaled copy order size is zero.")
  else return (size, limit)

def orderShares (marketId side : Text) (item : Activity) (size : F) : Option (Shares F) :=
  if sellsShares marketId side then
    some (if (item.get "shares").truthy then .given (item.get "shares") else .copied size)
  else none

/-- The guard, the paper order and, once that is accepted, the entry of the guard. -/
def paperCopy (settings : CopyTradeSettings F) (adapter : Adapter F) (marketId side tokenId : Text)
    (size limitPrice : F) (moment : Moment F) :
    Program FloatError ConflictState (CopyActivityOutcome × Option (PaperOrderRequest F)) := do
  let conflict ← copyConflictReason runtime settings moment
  match conflict with
  | some _ => return (rejected "conflict_guard" "Copy conflict guard rejected this activity.", none)
  | none => do
    let order : PaperOrderRequest F :=
      { marketId, contractId := tokenId, side, size, limitPrice,
        shares := orderShares marketId side moment.activity size }
    match adapter.placePaperOrder order with
    | .failed => return (⟨.retryable, text "paper_order_failure",
        text "Paper-order handling failed and can be retried safely."⟩, some order)
    | .rejected => return (rejected "paper_order_rejected"
        "The paper-order adapter rejected the simulated order.", some order)
    | .accepted | .unsupported => do
      commitCopyConflict runtime settings moment
      return (⟨.completed, text "paper_order_completed",
        text "Copy simulation completed without live dispatch."⟩, some order)

/-- One activity of the selected market, and the order that the paper ledger was given. -/
def copyTradeFromActivity (cfg : CopyConfig F) (adapter : Adapter F) (persistenceError : Bool) (moment : Moment F) :
    Program FloatError ConflictState (CopyActivityOutcome × Option (PaperOrderRequest F)) :=
  if persistenceError then
    pure (⟨.retryable, text "config_persistence_paused",
      text "Copy execution is paused until restart after reconciling durable configuration."⟩, none)
  else
    match screen runtime cfg.copytrading adapter (activityMarket cfg) moment.activity with
    | .error outcome => pure (outcome, none)
    | .ok (side, tokenId) =>
      match sizing runtime cfg.copytrading (activityMarket cfg) side tokenId moment with
      | .error outcome => pure (outcome, none)
      | .ok (size, limitPrice) =>
        paperCopy runtime cfg.copytrading adapter (activityMarket cfg) side tokenId size limitPrice moment

end Engine

end MarketSentinel.Copy.App
