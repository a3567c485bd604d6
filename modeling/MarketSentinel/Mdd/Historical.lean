import MarketSentinel.Mdd.Capital
import MarketSentinel.Mdd.Drawdown

/-! The historical drawdown of a wallet: realized results in the order of their events, one
snapshot of the open positions, and the gates that withhold a figure.

A figure is published only when every source was read to its end, every row is sound and
the currencies agree; what was computed stays in the payload as a diagnostic.
-/

set_option autoImplicit false

namespace MarketSentinel.Mdd

open Python

/-- `int(time.time()) + 300`. -/
def latestSecond (now : Int) : Int := now + 300

def clamp (value minimum maximum : Int) : Int := max minimum (min value maximum)

/-- `list(dict.fromkeys(...))`. -/
def fromKeys (reasons : List Text) : List Text :=
  reasons.foldl (fun kept reason => if reason ∈ kept then kept else kept ++ [reason]) []

/-! ## Currencies -/

def fields (row : Json) : Row :=
  match row with
  | .obj fields => fields
  | _ => []

def nativeKeys : List String :=
  ["current_size", "total_size", "entry_cost_usdc", "total_cost_usdc", "unrealized_pnl", "token_id"]

def legacyKeys : List String :=
  ["realizedPnl", "cashPnl", "totalPnl", "totalBought", "grossInitialValue", "initialValue"]

def MddInputs.allRows (inputs : MddInputs) : List Json :=
  inputs.closedPositions ++ inputs.openPositions ++ inputs.activityEvents ++ inputs.tradeRows

def sourceEconomicsCurrency (inputs : MddInputs) : Option Text :=
  if inputs.historyCoverage.any fun source => source.2.sourceApi = some (text "Data API v2") then some (text "USDC")
  else
    let native := inputs.allRows.any fun row => (fields row).hasAny nativeKeys
    let legacy := inputs.allRows.any fun row => (fields row).hasAny legacyKeys
    if native && legacy then none
    else if native then some (text "USDC")
    else if inputs.allRows.isEmpty then none
    else some (text "USD")

def equityCurrency (value : Option Text) (supplied : Bool) (source : Option Text) : Except Failure (Option Text) :=
  if value.any fun value => decide (value ≠ text "USD" ∧ value ≠ text "USDC") then
    .error (.invalid (text "equity_base_currency must be USD or USDC."))
  else .ok (if supplied then some (value.getD (text "USD")) else source)

/-! ## The payload -/

structure HistoricalPoint where
  timestamp : Int
  value : PyFloat
  kind : Text
  realizedPnl : PyFloat
  realizedDelta : Option PyFloat := none
  openPnl : Option PyFloat := none
  openCurrentValue : Option PyFloat := none
  capitalBasisUsd : ℚ
  deriving DecidableEq

structure Observed where
  mddUsd : Option ℚ
  mddPct : Option ℚ
  mddMethod : Text
  equityBaseUsd : Option ℚ
  deriving DecidableEq

structure CapitalBasis where
  unit : Text
  sources : Dict Text Nat
  closedUnknownRows : Nat
  openUnknownRows : Nat
  deriving DecidableEq

inductive ReplayStatus where
  | unavailable
  | partly
  | ok
  deriving DecidableEq

/-- What `mark_replay` says; a path that leaves a field out leaves it at its default. -/
structure MarkReplay where
  status : ReplayStatus
  reason : Option Text := none
  incompleteReasons : List Text := []
  tokenIds : List Text := []
  clippedTokenIds : List Text := []
  missingHistoryTokens : List Text := []
  tradesWithoutToken : Nat := 0
  tradeEventsReplayed : Nat := 0
  tradesWithoutTimestamp : Nat := 0
  tradesWithoutSizeOrPrice : Nat := 0
  negativeInventoryEvents : Nat := 0
  finalInventory : Dict Text ℚ := []
  unsupportedActivity : Dict Text Nat := []
  observedDrawdown : Option (Drawdown Int) := none
  deriving DecidableEq

structure Payload extends Drawdown Int where
  wallet : Text
  version : Nat
  mddSourceQuality : Quality
  mddMethod : Text
  equityBaseUsd : Option ℚ
  sourceEconomicsCurrency : Option Text
  quoteCurrency : Option Text
  equityBaseCurrency : Option Text
  equityBaseSource : Text
  publicCapitalBasisUsd : Option PyFloat
  closedPositions : Nat
  openPositions : Nat
  activityEvents : Nat
  tradeEvents : Nat
  tradeCapital : CapitalStats
  closedCapitalBasisUsd : ℚ
  openCapitalBasisUsd : ℚ
  positionCapitalBasis : CapitalBasis
  cumulativeRealizedPnl : PyFloat
  openPnl : PyFloat
  openCurrentValue : PyFloat
  points : List HistoricalPoint
  pointsTotal : Nat
  requestedMddMethod : Option Text := none
  markReplay : Option MarkReplay := none
  fallbackV2 : Option Observed := none
  mddHistoryCoverage : Dict Source Coverage := []
  mddHistoryStatus : Text := []
  mddHistoryCappedSources : List Source := []
  mddHistoryExcludedSources : List Source := []
  observedDrawdown : Option Observed := none
  mddUnavailableReasons : List Text := []
  mddCurrencyStatus : Text := []
  mddPercentageAvailable : Bool := false

/-- The figures withheld. -/
def Payload.withheld (payload : Payload) : Payload := { payload with mddAvailable := false, mddUsd := none, mddPct := none }

def Payload.observed (payload : Payload) : Observed :=
  ⟨payload.mddUsd, payload.mddPct, payload.mddMethod, payload.equityBaseUsd⟩

/-- A percentage of a base in another currency is no percentage. -/
def applyCurrencyBoundary (payload : Payload) : Payload :=
  let source := payload.quoteCurrency
  let basis := payload.equityBaseCurrency
  let mismatch := source.isSome && basis.isSome && decide (source ≠ basis)
  let unknown := source.isNone || basis.isNone
  let status := if mismatch then text "mismatch" else if unknown then text "unavailable" else text "consistent"
  let payload := { payload with mddCurrencyStatus := status }
  let payload := if mismatch || unknown then
      let reason := if mismatch then text "equity_base_currency_mismatch" else text "mdd_economic_currency_unavailable"
      { payload with
        mddPct := none
        pctPeakValue := none
        pctTroughValue := none
        pctPeakTimestamp := none
        pctTroughTimestamp := none
        pctDrawdownUsd := none
        observedDrawdown := payload.observedDrawdown.map fun observed => { observed with mddPct := none }
        markReplay := payload.markReplay.map fun replay => { replay with
          observedDrawdown := replay.observedDrawdown.map fun observed => { observed with mddPct := none } }
        mddUnavailableReasons := fromKeys (payload.mddUnavailableReasons ++ [reason]) }
    else payload
  { payload with mddPercentageAvailable := payload.mddPct.isSome }

section Coverage

variable (inputs : MddInputs)

def sourcesWith (status : CoverageStatus) : List Source :=
  (inputs.historyCoverage.filter fun source => source.2.status = status).map Prod.fst

def invalidReasons (quality : Quality) : List Text :=
  quality.sources.flatMap fun source => source.2.reasons.map fun reason =>
    text "invalid_source_data:" ++ source.1.name ++ text ":" ++ reason.1

def historyStatus (invalid : List Text) : Text :=
  if invalid ≠ [] then text "invalid_source_data"
  else if sourcesWith inputs .limitReached ≠ [] then text "limit_reached"
  else if sourcesWith inputs .notRequested ≠ [] then text "sources_excluded"
  else if sourcesWith inputs .coverageUnproven ≠ [] then text "coverage_unproven"
  else if inputs.historyCoverage ≠ [] then text "source_window_exhausted"
  else text "supplied_rows_unverified"

def applyHistoryCoverage (payload : Payload) : Payload :=
  let capped := sourcesWith inputs .limitReached
  let excluded := sourcesWith inputs .notRequested
  let unproven := sourcesWith inputs .coverageUnproven
  let invalid := invalidReasons payload.mddSourceQuality
  let payload := { payload with
    mddHistoryCoverage := inputs.historyCoverage
    mddHistoryStatus := historyStatus inputs invalid
    mddHistoryCappedSources := capped
    mddHistoryExcludedSources := excluded }
  let payload := if capped ≠ [] ∨ excluded ≠ [] ∨ unproven ≠ [] ∨ invalid ≠ [] then
      { payload.withheld with
        observedDrawdown := some (payload.observedDrawdown.getD payload.observed)
        mddUnavailableReasons := fromKeys (payload.mddUnavailableReasons ++
          (capped.map fun source => text "history_limit_reached:" ++ source.name) ++
          (excluded.map fun source => text "history_source_not_requested:" ++ source.name) ++
          (unproven.map fun source => text "history_coverage_unproven:" ++ source.name) ++ invalid) }
    else payload
  applyCurrencyBoundary payload

end Coverage

/-! ## The calculation -/

def countSource (sources : Dict Text Nat) (source : Text) : Dict Text Nat :=
  Dict.set sources source ((Dict.get? sources source).getD 0 + 1)

structure ClosedRun where
  cumulativeRealized : PyFloat := .finite 0
  closedCapital : ℚ := 0
  capitalSources : Dict Text Nat := []
  unknownClosedCapital : Nat := 0
  points : List HistoricalPoint := []

structure OpenRun where
  openPnl : PyFloat := .finite 0
  openPnlAvailable : Bool := false
  openCurrentValue : PyFloat := .finite 0
  openCapital : ℚ := 0
  capitalSources : Dict Text Nat
  unknownOpenCapital : Nat := 0

section Calculation

variable (runtime : Runtime) (now : Int)

def ClosedRun.add (run : ClosedRun) (row : Row) : ClosedRun :=
  match safeFloat (lookup runtime row ["realizedPnl", "realized_pnl"]) with
  | none => run
  | some realized =>
    let cumulative := PyFloat.add run.cumulativeRealized realized
    let capital := positionCapital runtime row true
    let closedCapital := run.closedCapital + capital.1.getD 0
    { cumulativeRealized := cumulative
      closedCapital
      capitalSources := countSource run.capitalSources capital.2
      unknownClosedCapital := run.unknownClosedCapital + if capital.1.isNone then 1 else 0
      points := run.points ++ [{
        timestamp := (safeInt (lookup runtime row ["last_event_at", "timestamp"])).getD 0
        value := cumulative
        kind := text "closed_position"
        realizedPnl := cumulative
        realizedDelta := some realized
        capitalBasisUsd := closedCapital }] }

def OpenRun.add (run : OpenRun) (row : Row) : OpenRun :=
  let capital := positionCapital runtime row false
  let currentValue := (safeFloat (lookup runtime row ["currentValue", "current_value"])).getD (.finite 0)
  { openPnl := match positionTotalPnl runtime row with
      | some pnl => PyFloat.add run.openPnl pnl
      | none => run.openPnl
    openPnlAvailable := run.openPnlAvailable || (positionTotalPnl runtime row).isSome
    openCurrentValue := PyFloat.add run.openCurrentValue currentValue
    openCapital := run.openCapital + capital.1.getD 0
    capitalSources := countSource run.capitalSources capital.2
    unknownOpenCapital := run.unknownOpenCapital + if capital.1.isNone then 1 else 0 }

/-- The closed positions in the order of their last events. -/
def closedInOrder (rows : List Json) : List Row :=
  (rows.map fields).insertionSort fun first second =>
    (positionTimestamp runtime (latestSecond now) first).getD 0 ≤ (positionTimestamp runtime (latestSecond now) second).getD 0

def closedRun (inputs : MddInputs) : ClosedRun :=
  (closedInOrder runtime now inputs.closedPositions).foldl (ClosedRun.add runtime) {}

def openRun (inputs : MddInputs) : OpenRun :=
  (inputs.openPositions.map fields).foldl (OpenRun.add runtime) { capitalSources := (closedRun runtime now inputs).capitalSources }

/-- `max_drawdown` of points that must be finite. -/
def finitePoint (point : HistoricalPoint) : Except Failure (Point Int) :=
  match point.value with
  | .finite value => .ok ⟨value, some point.timestamp⟩
  | _ => .error (.invalid (text "Drawdown inputs must be finite numbers."))

def drawdownOf (points : List HistoricalPoint) (base : ℚ) : Except Failure (Drawdown Int) := do
  let points ← points.mapM finitePoint
  (maxDrawdown points (if 0 < base then some base else none)).mapError .invalid

def methodV2 : Text := text "public_data_historical_equity_curve_v2"

/-- The rows of an invalid source establish nothing. -/
def calculationInputs (inputs : MddInputs) (quality : Quality) : MddInputs :=
  if quality.valid then inputs else ⟨inputs.wallet, [], [], [], [], false, []⟩

structure BaseRequest where
  equityBaseUsd : Option PyFloat
  equityBaseCurrency : Option Text

/-- The base of the percentages: the supplied one, or the largest public capital basis. -/
def equityBase (request : BaseRequest) (publicCapitalBasis : PyFloat) : Except Failure (ℚ × Text) :=
  let chosen := match request.equityBaseUsd with
    | some supplied => (PyFloat.exact.max supplied (.finite 0), text "user_supplied")
    | none => (publicCapitalBasis, text "max_public_capital_basis_from_positions_and_trade_activity")
  match chosen.1 with
  | .finite base => .ok (base, chosen.2)
  | _ => .error (.invalid (text "Drawdown equity base must be finite."))

def openPoint (closed : ClosedRun) (run : OpenRun) : List HistoricalPoint :=
  if run.openPnlAvailable then [{
    timestamp := now
    value := PyFloat.add closed.cumulativeRealized run.openPnl
    kind := text "current_open_snapshot"
    realizedPnl := closed.cumulativeRealized
    openPnl := some run.openPnl
    openCurrentValue := some run.openCurrentValue
    capitalBasisUsd := closed.closedCapital + run.openCapital }]
  else []

def historicalPoints (inputs : MddInputs) : List HistoricalPoint :=
  (closedRun runtime now inputs).points ++ openPoint now (closedRun runtime now inputs) (openRun runtime now inputs)

def capitalUnit (inputs : MddInputs) : Text :=
  if (inputs.openPositions ++ inputs.closedPositions).any fun row =>
      (fields row).hasAny ["current_size", "total_size", "entry_cost_usdc", "total_cost_usdc", "unrealized_pnl"] then
    text "USDC"
  else text "USD"

def buildHistoricalMddPayload (inputs : MddInputs) (request : BaseRequest) (maxPoints : Int) :
    Except Failure Payload := do
  let currency := sourceEconomicsCurrency inputs
  let baseCurrency ← equityCurrency request.equityBaseCurrency request.equityBaseUsd.isSome currency
  let quality ← sourceQuality runtime (latestSecond now) inputs
  let calculation := calculationInputs inputs quality
  let closed := closedRun runtime now calculation
  let opened := openRun runtime now calculation
  let points := historicalPoints runtime now calculation
  let stats ← tradeCapitalStats runtime (calculation.activityEvents.map fields) (calculation.tradeRows.map fields)
  let floats := PyFloat.exact
  let publicCapitalBasis := floats.max (floats.max (.finite (closed.closedCapital + opened.openCapital))
    stats.deployment.maxDeployed) stats.deployment.buyNotional
  let base ← equityBase request publicCapitalBasis
  let drawdown ← drawdownOf points base.1
  let shown := clamp maxPoints 1 1000
  return applyHistoryCoverage inputs {
    toDrawdown := drawdown
    wallet := inputs.wallet
    version := 2
    mddSourceQuality := quality
    mddMethod := methodV2
    equityBaseUsd := if 0 < base.1 then some base.1 else none
    sourceEconomicsCurrency := currency
    quoteCurrency := currency
    equityBaseCurrency := baseCurrency
    equityBaseSource := base.2
    publicCapitalBasisUsd := if PyFloat.lt (.finite 0) publicCapitalBasis then some publicCapitalBasis else none
    closedPositions := inputs.closedPositions.length
    openPositions := inputs.openPositions.length
    activityEvents := inputs.activityEvents.length
    tradeEvents := inputs.tradeRows.length
    tradeCapital := stats
    closedCapitalBasisUsd := closed.closedCapital
    openCapitalBasisUsd := opened.openCapital
    positionCapitalBasis := ⟨capitalUnit inputs, opened.capitalSources, closed.unknownClosedCapital, opened.unknownOpenCapital⟩
    cumulativeRealizedPnl := closed.cumulativeRealized
    openPnl := opened.openPnl
    openCurrentValue := opened.openCurrentValue
    points := points.drop (points.length - shown.toNat)
    pointsTotal := points.length }

end Calculation

end MarketSentinel.Mdd
