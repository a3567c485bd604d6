import MarketSentinel.Copy.Signal

/-! The copy preview of the web surface, for settings that are not live. -/

set_option autoImplicit false

namespace MarketSentinel.Copy.Web

open Python Program

/-- What a preview may raise instead of answering. -/
inductive Raised where
  | valueError (message : Text)
  | number (e : FloatError)
  deriving DecidableEq

structure Pricing (F : Type) where
  rawPrice : Option F
  rawOdds : Option F
  bestBid : Option F
  bestAsk : Option F
  slippage : F
  cappedByMaxUsdc : Bool

inductive Preview (F : Type) where
  | skipped (reason : Text)
  | simulation (order : PaperOrderRequest F) (pricing : Pricing F)

section Reading

variable {F : Type} (runtime : Runtime F)

/-- `_safe_float`: an overflow is not caught. -/
def safeFloat (value : Json) (default : Option F) : Except Raised (Option F) :=
  if value = .null ∨ value = .str [] then .ok default
  else
    match runtime.floats.parse value with
    | .ok number => .ok (some number)
    | .error .invalid => .ok default
    | .error .overflow => .error (.number .overflow)

def requireSelectedMarket (cfg : CopyConfig F) : Except Raised Text :=
  if cfg.selectedMarketId = [] then .error (.valueError (text "Copy trading preview requires a selected market."))
  else if cfg.marketEnabled then .ok cfg.selectedMarketId
  else .error (.valueError (cfg.selectedMarketId ++
    text " is disabled in local market config. Enable it before using Copy trading preview."))

def copyTradeGuardKey (activity : Activity) : Text :=
  joinParts [runtime.casing.lower (strip (fieldText runtime activity "asset")),
    runtime.casing.lower (strip (fieldText runtime activity "slug")),
    runtime.casing.lower (strip (fieldText runtime activity "outcome"))]

def activityTimestamp (moment : Moment F) : Except Raised Int := do
  let read ← safeFloat runtime (moment.activity.get "timestamp") (some moment.now)
  match runtime.floats.toInt (runtime.floats.orElse (read.getD moment.now) moment.now) with
  | .ok timestamp => .ok timestamp
  | .error e => .error (.number e)

end Reading

section Guard

variable {F : Type} (runtime : Runtime F) (settings : CopyTradeSettings F)

/-- The guard stores the copy it lets pass. -/
def copyTradeConflictReason (moment : Moment F) : Program Raised ConflictState (Option Text) :=
  let key := copyTradeGuardKey runtime moment.activity
  if settings.conflictGuard = false ∨ key = [] then pure none
  else do
    let side := runtime.casing.upper (strip (fieldText runtime moment.activity "side"))
    let wallet := runtime.casing.lower (strip (fieldText runtime moment.activity "proxyWallet"))
    let timestamp ← Program.ofExcept (activityTimestamp runtime moment)
    let accepted : GuardEntry := { side, wallet, activityKey := runtime.activityKey moment.activity, timestamp }
    Program.modify (evict (max 0 settings.conflictWindowSeconds) timestamp)
    let state ← Program.state
    match state.get? key with
    | some existing =>
      if existing.wallet = wallet then do
        Program.modify fun state => state.set key accepted
        return none
      else if existing.side ≠ [] ∧ runtime.casing.upper existing.side ≠ side then
        return some (text "conflict guard blocked opposite-side copy for the same token from " ++ existing.wallet)
      else
        return some (text "conflict guard skipped duplicate same-token copy already accepted from " ++ existing.wallet)
    | none => do
      Program.modify fun state => state.set key accepted
      return none

end Guard

section Preview

variable {F : Type} (runtime : Runtime F)

/-- The checks before any number is read: the side and the contract, or why there is no copy. -/
def screen (settings : CopyTradeSettings F) (adapter : Adapter F) (marketId : Text) (activity : Activity) :
    Except Text (Text × Text) :=
  let followed := normalizedFollowWallets runtime settings
  let identity := runtime.activityIdentity marketId (fieldText runtime activity "proxyWallet")
  let side := runtime.casing.upper (strip (fieldText runtime activity "side"))
  let tokenId := strip (eitherText runtime activity "asset" "contract_id")
  if settings.enabled = false then .error (text "copy trading disabled")
  else if adapter.copyTrading = false then
    .error (adapter.displayName ++ text " does not expose an official account-activity copy feed")
  else if followed = [] then .error (text "follow wallet is not set")
  else if identity.all (fun identity => decide (identity = [] ∨ identity ∉ followed)) = true then
    .error (text "activity wallet does not match follow wallet")
  else if side ≠ text "BUY" ∧ side ≠ text "SELL" then .error (text "activity side is not BUY or SELL")
  else if side = text "SELL" ∧ settings.allowSells = false then .error (text "SELL copying disabled")
  else if tokenId = [] then .error (text "activity has no asset token")
  else .ok (side, tokenId)

structure Sizing (F : Type) where
  size : F
  limitPrice : F
  pricing : Pricing F

/-- The limit of a copy, or nothing for an Azuro activity without odds. -/
def limitPrice (marketId side : Text) (activity : Activity) (quotes : Option F × Option F) (rawPrice : Option F)
    (slippage : F) : Except Raised (Option F) :=
  let floats := runtime.floats
  if marketId = text "azuro" then do
    let odds ← safeFloat runtime (activity.get "odds") none
    let odds := match odds, rawPrice with
      | some odds, _ => some odds
      | none, some price =>
        if floats.lt (floats.literal 0) price then some (floats.div (floats.literal 1) price) else none
      | none, none => none
    match odds with
    | none => return none
    | some odds =>
      if floats.le odds (floats.literal 0) then return none
      else return some (floats.max (floats.literal (1 / 10 ^ 12))
        (floats.mul odds (floats.sub (floats.literal 1) slippage)))
  else if side = text "BUY" then
    let reference := (quotes.2.or rawPrice).getD (floats.literal (99 / 100))
    .ok (some (floats.min (floats.literal 1) (floats.add reference slippage)))
  else
    let reference := (quotes.1.or rawPrice).getD (floats.literal (1 / 100))
    .ok (some (floats.max (floats.literal 0) (floats.sub reference slippage)))

def sizing (settings : CopyTradeSettings F) (marketId side tokenId : Text) (moment : Moment F) :
    Except Raised (Except Text (Sizing F)) := do
  let floats := runtime.floats
  let readSize ← safeFloat runtime (moment.activity.get "size") (some (floats.literal 0))
  let rawSize := floats.orElse (readSize.getD (floats.literal 0)) (floats.literal 0)
  let rawPrice ← safeFloat runtime (moment.activity.get "price") none
  let size := floats.max (floats.literal 0) (floats.mul rawSize settings.scale)
  let quotes := if marketId = text "azuro" then (none, none) else moment.quotes tokenId
  let slippage := floats.max (floats.literal 0) (floats.min settings.slippage (floats.literal 1))
  let limit ← limitPrice runtime marketId side moment.activity quotes rawPrice slippage
  match limit with
  | none => return .error (text "Azuro activity has no valid decimal odds")
  | some limit =>
    let maxUsdc := floats.max (floats.literal (1 / 100)) settings.maxUsdcPerTrade
    -- A purchase on a budget market is sized in collateral, any other copy in shares.
    let cap :=
      if isBudgetMarket marketId = true ∧ side = text "BUY" then some maxUsdc
      else if floats.lt (floats.literal 0) limit then some (floats.div maxUsdc limit)
      else none
    let capped := cap.any fun cap => floats.lt cap size
    let size := if capped then cap.getD size else size
    if floats.le size (floats.literal 0) then return .error (text "computed copy size is zero")
    else return .ok { size, limitPrice := limit, pricing :=
      { rawPrice, rawOdds := none, bestBid := quotes.1, bestAsk := quotes.2, slippage, cappedByMaxUsdc := capped } }

/-- `activity.get("shares") or size`, where a market sells shares. -/
def orderShares (marketId side : Text) (activity : Activity) (size : F) : Option (Shares F) :=
  if sellsShares marketId side then
    some (if (activity.get "shares").truthy then .given (activity.get "shares") else .copied size)
  else none

/-- The guard and the order of a copy with a size. -/
def guardedPreview (settings : CopyTradeSettings F) (marketId side tokenId : Text) (sized : Sizing F)
    (moment : Moment F) : Program Raised ConflictState (Preview F) := do
  let conflict ← copyTradeConflictReason runtime settings moment
  match conflict with
  | some reason => return .skipped reason
  | none => do
    let order : PaperOrderRequest F :=
      { marketId, contractId := tokenId, side, size := sized.size, limitPrice := sized.limitPrice,
        shares := orderShares marketId side moment.activity sized.size }
    let rawOdds ← Program.ofExcept (safeFloat runtime (moment.activity.get "odds") none)
    return .simulation order { sized.pricing with rawOdds }

def copyTradePreviewFromActivity (cfg : CopyConfig F) (adapter : Adapter F) (moment : Moment F) :
    Program Raised ConflictState (Preview F) := do
  let marketId ← Program.ofExcept (requireSelectedMarket cfg)
  match screen runtime cfg.copytrading adapter marketId moment.activity with
  | .error reason => return .skipped reason
  | .ok (side, tokenId) => do
    let sized ← Program.ofExcept (sizing runtime cfg.copytrading marketId side tokenId moment)
    match sized with
    | .error reason => return .skipped reason
    | .ok sized => guardedPreview runtime cfg.copytrading marketId side tokenId sized moment

end Preview

end MarketSentinel.Copy.Web
