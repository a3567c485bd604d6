import MarketSentinel.Library.Dict
import MarketSentinel.Library.Doubles
import MarketSentinel.Library.Result

/-! The checks that every live order passes before an adapter sends it. -/

set_option autoImplicit false

namespace MarketSentinel.Venue

open Python

/-- Why an adapter refuses an order. -/
inductive Refused where
  | unsupportedFeature (marketId feature : Text)
  | configuration (message : Text)
  | overflow
  deriving DecidableEq

structure Runtime where
  casing : Casing
  /-- `str(value)` of what is not a text. -/
  spell : Json → Text
  /-- `format(value, "g")`. -/
  general : ℚ → Text

/-- The part of an adapter class that the shared checks read. -/
structure MarketAdapter where
  marketId : Text
  displayName : Text
  liveTrading : Bool
  liveOrderSides : List Text
  liveOrderExposureModel : Text
  /-- `live_order_exposure`: the most that an order of this side and size can lose. -/
  liveOrderExposure : Text → ℚ → Option ℚ → Except Refused PyFloat

/-- `live_order_exposure` of an adapter that has none of its own. -/
def fullSizeExposure (size : ℚ) (limitPrice : Option ℚ) : PyFloat :=
  binary64.round (.finite (size * max 1 (limitPrice.getD 0)))

structure OrderRequest where
  marketId : Text
  contractId : Text
  side : Text
  size : PyFloat
  limitPrice : Option PyFloat
  metadata : Dict Text Json

structure Preflight where
  marketId : Text
  displayName : Text
  feature : Text
  contractId : Text
  side : Text
  size : ℚ
  limitPrice : Option ℚ
  approxNotional : ℚ
  exposureModel : Text
  maxSize : Option ℚ
  maxNotional : Option ℚ

section Config

variable (runtime : Runtime) (config : Dict Text Json)

/-- `str(value or "")`. -/
def spelled (value : Json) : Text :=
  if value.truthy then
    match value with
    | .str value => value
    | other => runtime.spell other
  else []

/-- `config_bool(key, False)`. -/
def configBool (key : String) : Bool :=
  match config.get? (text key) with
  | none => false
  | some (.bool value) => value
  | some (.str value) => decide (runtime.casing.lower (strip value) ∈ ["1", "true", "yes", "on"].map text)
  | some value => value.truthy

/-- `config_float(key, None)`. -/
def configFloat (marketId : Text) (key : String) : Except Refused (Option ℚ) :=
  let value := (config.get? (text key)).getD .null
  if value = .null ∨ value = .str [] then .ok none
  else
    match PyFloat.float value with
    | .ok (.finite number) => .ok (some number)
    | .ok _ => .error (.configuration (marketId ++ text " config " ++ text key ++ text " must be finite."))
    | .error .invalid =>
      .error (.configuration (marketId ++ text " config " ++ text key ++ text " must be numeric."))
    | .error .overflow => .error .overflow

def positiveConfigFloat (marketId : Text) (key : String) : Except Refused (Option ℚ) := do
  let value ← configFloat config marketId key
  match value with
  | none => return none
  | some value =>
    if value ≤ 0 then
      throw (.configuration (marketId ++ text " config " ++ text key ++ text " must be greater than 0."))
    else return some value

def ensureLiveTradingEnabled (adapter : MarketAdapter) (featureName : Text) : Except Refused Unit :=
  let say (message : String) := Refused.configuration (adapter.displayName ++ text " " ++ featureName ++ text message)
  if configBool runtime config "live_trading_enabled" = false then .error (say " is disabled by adapter config.")
  else if configBool runtime config "live_trading_kill_switch" = true ∨
      configBool runtime config "live_trading_paused" = true then
    .error (say " is blocked by the live trading kill switch.")
  else if configBool runtime config "live_trading_confirmed" = false ∧
      configBool runtime config "live_trading_acknowledged" = false then
    .error (say (" requires explicit acknowledgement. " ++
      "Set live_trading_confirmed=true only after reviewing live-order risk controls."))
  else .ok ()

end Config

def ensureCapability (adapter : MarketAdapter) : Except Refused Unit :=
  if adapter.liveTrading then .ok () else .error (.unsupportedFeature adapter.marketId (text "live_trading"))

def ensureOrderMarket (adapter : MarketAdapter) (order : OrderRequest) : Except Refused Unit :=
  if order.marketId = adapter.marketId then .ok ()
  else .error (.configuration (text "Order market mismatch: " ++ order.marketId))

def finiteFloat (label : String) : PyFloat → Except Refused ℚ
  | .finite number => .ok number
  | _ => .error (.configuration (text "Live order " ++ text label ++ text " must be finite."))

/-- The limit price of a live order, if it has one. -/
def limitPrice (adapter : MarketAdapter) (order : OrderRequest) : Except Refused (Option ℚ) :=
  match order.limitPrice with
  | none => .ok none
  | some price =>
    match finiteFloat "limit price" price with
    | .error e => .error e
    | .ok price =>
      if price ≤ 0 then
        .error (.configuration (adapter.displayName ++ text " live order limit price must be positive."))
      else .ok (some price)

/-- Either cap refuses what is above it. -/
def withinCap (runtime : Runtime) (adapter : MarketAdapter) (what : String) (value : ℚ) (cap : Option ℚ) : Except Refused Unit :=
  if cap.any fun cap => decide (cap < value) then
    .error (.configuration (adapter.displayName ++ text " live order " ++ text what ++ text " " ++ runtime.general value ++
      text " exceeds configured max " ++ runtime.general (cap.getD 0) ++ text "."))
  else .ok ()

def preflightLiveOrder (runtime : Runtime) (adapter : MarketAdapter) (config : Dict Text Json) (order : OrderRequest)
    (featureName : Text) : Except Refused Preflight := do
  ensureCapability adapter
  ensureOrderMarket adapter order
  ensureLiveTradingEnabled runtime config adapter featureName
  if strip order.contractId = [] ∨ order.contractId ≠ strip order.contractId then
    .error (.configuration (adapter.displayName ++ text " live order requires a non-empty canonical contract id."))
  else if order.side ∉ adapter.liveOrderSides then
    .error (.configuration (adapter.displayName ++ text " live order side must be one of: " ++
      List.intercalate (text ", ") adapter.liveOrderSides ++ text "."))
  else do
    let size ← finiteFloat "order size" order.size
    if size ≤ 0 then
      .error (.configuration (adapter.displayName ++ text " live order size must be positive."))
    else do
      let price ← limitPrice adapter order
      let exposure ← adapter.liveOrderExposure order.side size price
      let approxNotional ← finiteFloat "maximum exposure" exposure
      if approxNotional < 0 then
        .error (.configuration (adapter.displayName ++ text " live order exposure must not be negative."))
      else do
        let maxSize ← positiveConfigFloat config adapter.marketId "live_trading_max_size"
        let maxNotional ← positiveConfigFloat config adapter.marketId "live_trading_max_notional"
        withinCap runtime adapter "size" size maxSize
        withinCap runtime adapter "notional" approxNotional maxNotional
        return { marketId := adapter.marketId, displayName := adapter.displayName, feature := featureName,
                 contractId := order.contractId, side := order.side, size, limitPrice := price, approxNotional,
                 exposureModel := adapter.liveOrderExposureModel, maxSize, maxNotional }

/-- What an approved order has been checked for. -/
structure Approved (runtime : Runtime) (adapter : MarketAdapter) (config : Dict Text Json) (order : OrderRequest)
    (preflight : Preflight) : Prop where
  live : adapter.liveTrading = true
  side : order.side ∈ adapter.liveOrderSides
  size : order.size = .finite preflight.size
  positive : 0 < preflight.size
  price : limitPrice adapter order = .ok preflight.limitPrice
  exposure : adapter.liveOrderExposure order.side preflight.size preflight.limitPrice =
    .ok (.finite preflight.approxNotional)
  maxNotional : positiveConfigFloat config adapter.marketId "live_trading_max_notional" = .ok preflight.maxNotional
  capped : ∀ cap ∈ preflight.maxNotional, preflight.approxNotional ≤ cap

theorem finiteFloat_ok {label : String} {value : PyFloat} {number : ℚ} (read : finiteFloat label value = .ok number) :
    value = .finite number := by
  cases value with
  | finite value =>
    cases read
    rfl
  | inf negative => cases read
  | nan => cases read

theorem withinCap_ok {runtime : Runtime} {adapter : MarketAdapter} {what : String} {value : ℚ} {cap : Option ℚ}
    (within : withinCap runtime adapter what value cap = .ok ()) : ∀ bound ∈ cap, value ≤ bound := by
  intro bound member
  unfold withinCap at within
  split_ifs at within with exceeds
  rw [member] at exceeds
  simpa using exceeds

section Bounded

open Result

theorem ensureCapability_bounded (adapter : MarketAdapter) : FailsWith (· ≠ .overflow) (ensureCapability adapter) := by
  unfold ensureCapability
  split_ifs
  · exact failsWith_ok ()
  · exact failsWith_error (by simp)

theorem ensureOrderMarket_bounded (adapter : MarketAdapter) (order : OrderRequest) :
    FailsWith (· ≠ .overflow) (ensureOrderMarket adapter order) := by
  unfold ensureOrderMarket
  split_ifs
  · exact failsWith_ok ()
  · exact failsWith_error (by simp)

theorem ensureLiveTradingEnabled_bounded (runtime : Runtime) (config : Dict Text Json) (adapter : MarketAdapter)
    (featureName : Text) : FailsWith (· ≠ .overflow) (ensureLiveTradingEnabled runtime config adapter featureName) := by
  unfold ensureLiveTradingEnabled
  dsimp only
  split_ifs
  · exact failsWith_error (by simp)
  · exact failsWith_error (by simp)
  · exact failsWith_error (by simp)
  · exact failsWith_ok ()

theorem finiteFloat_bounded (label : String) (value : PyFloat) : FailsWith (· ≠ .overflow) (finiteFloat label value) := by
  cases value with
  | finite number => exact failsWith_ok number
  | inf negative => exact failsWith_error (by simp)
  | nan => exact failsWith_error (by simp)

theorem limitPrice_bounded (adapter : MarketAdapter) (order : OrderRequest) :
    FailsWith (· ≠ .overflow) (limitPrice adapter order) := by
  unfold limitPrice
  split
  · exact failsWith_ok none
  · split
    · rename_i failed
      exact failsWith_error (finiteFloat_bounded _ _ _ failed)
    · split_ifs
      · exact failsWith_error (by simp)
      · exact failsWith_ok _

theorem positiveConfigFloat_bounded {config : Dict Text Json} {marketId : Text} {key : String}
    (fits : FailsWith (· ≠ .overflow) (configFloat config marketId key)) :
    FailsWith (· ≠ .overflow) (positiveConfigFloat config marketId key) := by
  refine fits.bind fun value _ => ?_
  cases value with
  | none => exact failsWith_ok none
  | some value =>
    dsimp only
    split_ifs
    · exact failsWith_error (by simp)
    · exact failsWith_ok (some value)

theorem withinCap_bounded (runtime : Runtime) (adapter : MarketAdapter) (what : String) (value : ℚ) (cap : Option ℚ) :
    FailsWith (· ≠ .overflow) (withinCap runtime adapter what value cap) := by
  unfold withinCap
  split_ifs
  · exact failsWith_error (by simp)
  · exact failsWith_ok ()

/-- The caps of a configuration are read without `OverflowError`. -/
def CapsFit (config : Dict Text Json) (marketId : Text) : Prop :=
  ∀ key ∈ ["live_trading_max_size", "live_trading_max_notional"],
    FailsWith (· ≠ .overflow) (configFloat config marketId key)

theorem preflightLiveOrder_bounded {runtime : Runtime} {adapter : MarketAdapter} {config : Dict Text Json}
    (fits : CapsFit config adapter.marketId)
    (exposures : ∀ side size price, FailsWith (· ≠ .overflow) (adapter.liveOrderExposure side size price))
    (order : OrderRequest) (featureName : Text) :
    FailsWith (· ≠ .overflow) (preflightLiveOrder runtime adapter config order featureName) := by
  unfold preflightLiveOrder
  refine (ensureCapability_bounded adapter).bind fun _ _ => ?_
  refine (ensureOrderMarket_bounded adapter order).bind fun _ _ => ?_
  refine (ensureLiveTradingEnabled_bounded runtime config adapter featureName).bind fun _ _ => ?_
  split
  · exact failsWith_error (by simp)
  split
  · exact failsWith_error (by simp)
  refine (finiteFloat_bounded _ _).bind fun _ _ => ?_
  split
  · exact failsWith_error (by simp)
  refine (limitPrice_bounded adapter order).bind fun _ _ => ?_
  refine (exposures _ _ _).bind fun _ _ => ?_
  refine (finiteFloat_bounded _ _).bind fun _ _ => ?_
  split
  · exact failsWith_error (by simp)
  refine (positiveConfigFloat_bounded (fits _ (by simp))).bind fun _ _ => ?_
  refine (positiveConfigFloat_bounded (fits _ (by simp))).bind fun _ _ => ?_
  refine (withinCap_bounded _ _ _ _ _).bind fun _ _ => ?_
  refine (withinCap_bounded _ _ _ _ _).bind fun _ _ => ?_
  exact failsWith_ok _

end Bounded

theorem preflightLiveOrder_approved {runtime : Runtime} {adapter : MarketAdapter} {config : Dict Text Json}
    {order : OrderRequest} {featureName : Text} {preflight : Preflight}
    (passed : preflightLiveOrder runtime adapter config order featureName = .ok preflight) :
    Approved runtime adapter config order preflight := by
  unfold preflightLiveOrder at passed
  obtain ⟨_, capable, passed⟩ := Result.bind_eq_ok.mp passed
  obtain ⟨_, _, passed⟩ := Result.bind_eq_ok.mp passed
  obtain ⟨_, _, passed⟩ := Result.bind_eq_ok.mp passed
  split_ifs at passed with contract side
  obtain ⟨size, readSize, passed⟩ := Result.bind_eq_ok.mp passed
  split_ifs at passed with positive
  obtain ⟨price, readPrice, passed⟩ := Result.bind_eq_ok.mp passed
  obtain ⟨exposure, exposed, passed⟩ := Result.bind_eq_ok.mp passed
  obtain ⟨approxNotional, finite, passed⟩ := Result.bind_eq_ok.mp passed
  rw [finiteFloat_ok finite] at exposed
  split_ifs at passed
  obtain ⟨maxSize, _, passed⟩ := Result.bind_eq_ok.mp passed
  obtain ⟨maxNotional, readMax, passed⟩ := Result.bind_eq_ok.mp passed
  obtain ⟨_, _, passed⟩ := Result.bind_eq_ok.mp passed
  obtain ⟨_, within, passed⟩ := Result.bind_eq_ok.mp passed
  cases passed
  have live : adapter.liveTrading = true := by
    unfold ensureCapability at capable
    split_ifs at capable with live
    exact live
  exact ⟨live, side, finiteFloat_ok readSize, not_le.mp positive, readPrice, exposed, readMax,
    withinCap_ok within⟩

/-- The size of an approved order is no more than the cap on sizes. -/
theorem preflightLiveOrder_size_le {runtime : Runtime} {adapter : MarketAdapter} {config : Dict Text Json}
    {order : OrderRequest} {featureName : Text} {preflight : Preflight} {cap : ℚ}
    (passed : preflightLiveOrder runtime adapter config order featureName = .ok preflight)
    (capped : positiveConfigFloat config adapter.marketId "live_trading_max_size" = .ok (some cap)) :
    preflight.size ≤ cap := by
  unfold preflightLiveOrder at passed
  obtain ⟨_, _, passed⟩ := Result.bind_eq_ok.mp passed
  obtain ⟨_, _, passed⟩ := Result.bind_eq_ok.mp passed
  obtain ⟨_, _, passed⟩ := Result.bind_eq_ok.mp passed
  split_ifs at passed
  obtain ⟨size, _, passed⟩ := Result.bind_eq_ok.mp passed
  split_ifs at passed
  obtain ⟨_, _, passed⟩ := Result.bind_eq_ok.mp passed
  obtain ⟨_, _, passed⟩ := Result.bind_eq_ok.mp passed
  obtain ⟨_, _, passed⟩ := Result.bind_eq_ok.mp passed
  split_ifs at passed
  obtain ⟨maxSize, readMax, passed⟩ := Result.bind_eq_ok.mp passed
  obtain ⟨_, _, passed⟩ := Result.bind_eq_ok.mp passed
  obtain ⟨_, within, passed⟩ := Result.bind_eq_ok.mp passed
  obtain ⟨_, _, passed⟩ := Result.bind_eq_ok.mp passed
  cases passed
  rw [capped] at readMax
  cases readMax
  exact withinCap_ok within cap rfl

end MarketSentinel.Venue
