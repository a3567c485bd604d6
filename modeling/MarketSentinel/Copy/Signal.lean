import MarketSentinel.Library.Dict
import MarketSentinel.Library.Floats
import MarketSentinel.Library.Program

/-! What a copied activity is read from: the settings, the activity and the guard. -/

set_option autoImplicit false

namespace MarketSentinel.Copy

open Python

abbrev Activity := Dict Text Json

structure Runtime (F : Type) where
  casing : Casing
  /-- Blanks have no case, so they stay where they are. -/
  upper_solid : ∀ t, strip (casing.upper t) = casing.upper t → strip t = t
  floats : Floats F
  /-- `str(value)` of what is not a text. -/
  spell : Json → Text
  /-- `normalize_activity_identity(market_id, raw)`. -/
  activityIdentity : Text → Text → Option Text
  /-- `activity_key(activity)`, which the guard only stores. -/
  activityKey : Activity → Text

structure CopyTradeSettings (F : Type) where
  enabled : Bool
  followWallet : Text
  followWallets : List Text
  scale : F
  maxUsdcPerTrade : F
  slippage : F
  allowSells : Bool
  conflictGuard : Bool
  conflictWindowSeconds : Int

/-- The part of a configuration that copying reads; the market is stored in its normal form. -/
structure CopyConfig (F : Type) where
  selectedMarketId : Text
  marketEnabled : Bool
  copytrading : CopyTradeSettings F

/-- An activity with the clock and the best quotes at the time it is handled. -/
structure Moment (F : Type) where
  activity : Activity
  now : F
  quotes : Text → Option F × Option F

inductive PaperResult where
  | accepted
  | rejected
  | unsupported
  | failed
  deriving DecidableEq

/-- `activity.get("shares") or size`. -/
inductive Shares (F : Type) where
  | given (value : Json)
  | copied (size : F)

structure PaperOrderRequest (F : Type) where
  marketId : Text
  contractId : Text
  side : Text
  size : F
  limitPrice : F
  shares : Option (Shares F)

structure Adapter (F : Type) where
  displayName : Text
  copyTrading : Bool
  placePaperOrder : PaperOrderRequest F → PaperResult

structure GuardEntry where
  side : Text
  wallet : Text
  activityKey : Text
  timestamp : Int
  deriving DecidableEq

/-- The accepted copies by guard key. -/
abbrev ConflictState := Dict Text GuardEntry

section Reading

variable {F : Type} (runtime : Runtime F)

def pyStr (value : Json) : Text :=
  match value with
  | .str value => value
  | other => runtime.spell other

def Activity.get (activity : Activity) (field : String) : Json := (Dict.get? activity (text field)).getD .null

/-- `str(activity.get(field) or "")`. -/
def fieldText (activity : Activity) (field : String) : Text :=
  if (activity.get field).truthy then pyStr runtime (activity.get field) else []

/-- `str(activity.get(field) or activity.get(other) or "")`. -/
def eitherText (activity : Activity) (field other : String) : Text :=
  if (activity.get field).truthy then pyStr runtime (activity.get field) else fieldText runtime activity other

def storedIdentity (value : Text) : Text :=
  let stripped := strip value
  if text "solana:" <+: runtime.casing.lower stripped then
    text "solana:" ++ strip ((stripped.dropWhile (· ≠ 58)).drop 1)
  else runtime.casing.lower stripped

def normalizedFollowWallets (settings : CopyTradeSettings F) : List Text :=
  (settings.followWallet :: settings.followWallets).foldl (fun wallets value =>
    let wallet := storedIdentity runtime value
    if wallet ≠ [] ∧ wallet ∉ wallets then wallets ++ [wallet] else wallets) []

def joinParts (parts : List Text) : Text := List.intercalate (text "|") (parts.filter (· ≠ []))

/-- Entries that are older than the window leave the guard; an entry without a time never does. -/
def evict (window timestamp : Int) (state : ConflictState) : ConflictState :=
  if window ≠ 0 then
    state.filter fun entry =>
      decide (timestamp - (if entry.2.timestamp = 0 then timestamp else entry.2.timestamp) ≤ window)
  else state

def isBudgetMarket (marketId : Text) : Bool :=
  decide (marketId ∈ ["azuro", "manifold", "myriad_markets"].map text)

def sellsShares (marketId side : Text) : Bool :=
  decide (marketId ∈ ["manifold", "myriad_markets"].map text ∧ side = text "SELL")

end Reading

end MarketSentinel.Copy
