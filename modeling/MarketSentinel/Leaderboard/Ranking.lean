import MarketSentinel.Leaderboard.Scan
import MarketSentinel.Library.StableSort
import Mathlib.Data.Rat.Cast.Order
import Mathlib.Order.WithBot

/-! The ranking of scanned rows with drawdowns computed on the way.

Rows are objects: the candidates are the prefiltered rows in another order, and a
drawdown updates the row in place. A slot is such an object with its identity.
The request is not cancelled.
-/

set_option autoImplicit false

namespace MarketSentinel.Leaderboard

open Python

inductive SortKey where
  | roiPct
  | pnlUsd
  | volumeUsd
  | volumeShares
  | mddUsd
  | mddPct
  deriving DecidableEq

def SortKey.column : SortKey → String
  | .roiPct => "roi_pct"
  | .pnlUsd => "pnl_usd"
  | .volumeUsd => "volume_usd"
  | .volumeShares => "volume_shares"
  | .mddUsd => "mdd_usd"
  | .mddPct => "mdd_pct"

structure Bounds where
  minimum : Option PyFloat := none
  maximum : Option PyFloat := none
  deriving DecidableEq

/-- The parsed parameters of a ranking request; `monetaryBounds` tells whether a bound on monetary volume or
on the ratio was given. -/
structure RankingQuery where
  sort : SortKey := .pnlUsd
  ascending : Bool := false
  limit : Option Nat := some 100
  computeMdd : Bool := false
  mddScanLimit : Option Nat := some 100
  stopRequested : Bool := false
  mddConcurrency : Nat := 1
  monetaryBounds : Bool := false
  pnl : Bounds := {}
  volume : Bounds := {}
  shares : Bounds := {}
  roi : Bounds := {}
  mddUsd : Bounds := {}
  mddPct : Bounds := {}
  deriving DecidableEq

def Bounds.given (bounds : Bounds) : Bool := bounds.minimum.isSome || bounds.maximum.isSome

def RankingQuery.mddRequested (q : RankingQuery) : Bool :=
  q.computeMdd || decide (q.sort = .mddUsd ∨ q.sort = .mddPct) || q.mddUsd.given || q.mddPct.given

def RankingQuery.mddStopOnLimit (q : RankingQuery) : Bool := q.limit.isSome && q.stopRequested

def numberInRange (value : Option PyFloat) (bounds : Bounds) : Bool :=
  match value with
  | none => bounds.minimum.isNone && bounds.maximum.isNone
  | some value => !(bounds.minimum.any fun minimum => value.lt minimum) &&
      !(bounds.maximum.any fun maximum => maximum.lt value)

def limitSlice {α : Type} (rows : List α) : Option Nat → List α
  | none => rows
  | some limit => rows.take limit

section Rows

/-- A column as a number, when it holds one. -/
def Row.amount (row : Row) (column : String) : Option PyFloat := (row.read column).numeric

/-- Where a column stands among the keys of a sort; columns hold no not-a-number. -/
def sortValue (reverse : Bool) : Option PyFloat → WithBot (WithTop ℚ)
  | some (.finite value) => ((value : WithTop ℚ) : WithBot (WithTop ℚ))
  | some (.inf negative) => if negative then ⊥ else ⊤
  | some .nan | none => if reverse then ⊥ else ⊤

/-- The order of a sort by one column: a missing number comes last. -/
def before (sort : SortKey) (ascending : Bool) (a b : Row) : Prop :=
  if ascending then sortValue false (a.amount sort.column) ≤ sortValue false (b.amount sort.column)
  else sortValue true (b.amount sort.column) ≤ sortValue true (a.amount sort.column)

instance (sort : SortKey) (ascending : Bool) : DecidableRel (before sort ascending) := fun a b => by
  unfold before
  infer_instance

def sortPolymarketLeaderboardRows (sort : SortKey) (ascending : Bool) (rows : List Row) : List Row :=
  rows.insertionSort (before sort ascending)

def rowWalletText (row : Row) : Text :=
  match row.read "wallet" with
  | .str wallet => wallet
  | _ => []

/-- The normalized row with the drawdown flag of its source. -/
def leaderboardRow (runtime : Runtime) (raw : Json) (fallbackRank : Nat) : Except Text Row :=
  (normalizePolymarketLeaderboardRow runtime raw fallbackRank).map fun row =>
    row ++ [(text "mdd_available", .bool (decide (row.read "mdd_usd" ≠ .null ∨ row.read "mdd_pct" ≠ .null)))]

def inBounds (q : RankingQuery) (row : Row) : Bool :=
  numberInRange (row.amount "pnl_usd") q.pnl && numberInRange (row.amount "volume_usd") q.volume &&
    numberInRange (row.amount "volume_shares") q.shares && numberInRange (row.amount "roi_pct") q.roi

/-- The first row of each wallet, when it is within the bounds. -/
def prefilter (casing : Casing) (q : RankingQuery) : List Text → List Row → List Row
  | _, [] => []
  | seenWallets, row :: rest =>
    let wallet := casing.lower (strip (rowWalletText row))
    if wallet ≠ [] ∧ wallet ∈ seenWallets then prefilter casing q seenWallets rest
    else
      let seenWallets := if wallet = [] then seenWallets else wallet :: seenWallets
      if inBounds q row then row :: prefilter casing q seenWallets rest else prefilter casing q seenWallets rest

/-- What keeps a row whose drawdown was asked for. -/
def withinDrawdown (q : RankingQuery) (row : Row) : Bool :=
  (row.read "mdd_available").truthy && numberInRange (row.amount "mdd_usd") q.mddUsd &&
    numberInRange (row.amount "mdd_pct") q.mddPct

end Rows

section Drawdowns

/-- The columns a drawdown writes besides its amounts, its availability and its history status. -/
def mddColumns : List Text :=
  ["mdd_scope", "mdd_account_equity_verified", "mdd_history_coverage", "mdd_source_quality",
    "position_capital_basis", "mdd_unavailable_reasons", "mdd_calculation_version", "mdd_pct_peak_value",
    "mdd_pct_trough_value", "mdd_pct_peak_timestamp", "mdd_pct_trough_timestamp", "mdd_method", "mdd_pct_basis",
    "mdd_points", "mdd_closed_positions", "mdd_open_positions", "mdd_activity_events", "mdd_trade_events",
    "mdd_equity_base_usd", "mdd_quote_currency", "mdd_source_economics_currency", "mdd_equity_base_currency",
    "mdd_currency_status", "mdd_percentage_available", "mdd_equity_base_source", "mdd_public_capital_basis_usd",
    "mdd_peak_value", "mdd_trough_value", "mdd_peak_timestamp", "mdd_trough_timestamp",
    "mdd_mark_replay_status", "mdd_mark_replay_tokens", "mdd_accounting_status",
    "mdd_accounting_equity_base_usd", "mdd_accounting_cash_flow_gap_usd", "mdd_audit_cache_key",
    "mdd_audit_cache_stored"].map text

/-- What `row.update` takes from the drawdown of a wallet. -/
structure MddPayload where
  mddUsd : Option PyFloat
  mddPct : Option PyFloat
  mddAvailable : Bool
  mddHistoryStatus : Text
  details : Row
  named : ∀ entry ∈ details, entry.1 ∈ mddColumns

def MddPayload.columns (mdd : MddPayload) : Row :=
  [(text "mdd_usd", (mdd.mddUsd.map Json.float).getD .null), (text "mdd_pct", (mdd.mddPct.map Json.float).getD .null),
    (text "mdd_available", .bool mdd.mddAvailable), (text "mdd_history_status", .str mdd.mddHistoryStatus)] ++
    mdd.details

def MddPayload.update (mdd : MddPayload) (row : Row) : Row :=
  mdd.columns.foldl (fun row entry => row.set entry.1 entry.2) row

inductive MddOutcome where
  | payload (mdd : MddPayload)
  | rateLimited
  | raised (message : Text)

/-- A row object: its identity and its content. -/
abbrev Slot := Nat × Row

structure MddScan where
  rows : List Slot
  attempted : Nat := 0
  computed : Nat := 0
  qualified : Nat := 0
  unavailable : Nat := 0
  historyLimited : Nat := 0
  rateLimited : Bool := false
  warnings : List Text := []

variable (runtime : Runtime) (outcome : Text → MddOutcome) (q : RankingQuery)

/-- The wallet of a row and its outcome; a row without a wallet has none. -/
def computeMddForRow (row : Row) : Option (Text × MddOutcome) :=
  (normalizeWallet runtime.casing (rowWalletText row)).map fun wallet => (wallet, outcome wallet)

/-- Write a drawdown into the row object of a slot. -/
def updateSlot (mdd : MddPayload) (slot : Slot) (rows : List Slot) : List Slot :=
  rows.map fun other => if other.1 = slot.1 then (other.1, mdd.update other.2) else other

def applyMddResult (s : MddScan) (slot : Slot) : MddScan :=
  let s := { s with attempted := s.attempted + 1 }
  match computeMddForRow runtime outcome slot.2 with
  | none => s
  | some (wallet, .rateLimited) =>
    { s with
      rateLimited := true
      warnings := s.warnings ++
        [text "MDD rate-limited for " ++ wallet ++ text "; retry after the upstream backoff window."] }
  | some (wallet, .raised message) =>
    { s with warnings := s.warnings ++ [text "MDD unavailable for " ++ wallet ++ text ": " ++ message] }
  | some (_, .payload mdd) =>
    let row := mdd.update slot.2
    { s with
      rows := updateSlot mdd slot s.rows
      computed := s.computed + 1
      unavailable := s.unavailable + (if (row.read "mdd_available").truthy then 0 else 1)
      historyLimited := s.historyLimited +
        (if row.read "mdd_history_status" = .str (text "limit_reached") then 1 else 0)
      qualified := s.qualified + (if withinDrawdown q row then 1 else 0) }

/-- The order in which the results of a batch arrive. -/
structure Completion where
  order : MddScan → List Slot → List Slot
  perm : ∀ s batch, (order s batch).Perm batch

variable (completion : Completion)

def limitReached (s : MddScan) : Bool := q.mddStopOnLimit && q.limit.any fun limit => decide (limit ≤ s.qualified)

/-- Compute drawdowns batch by batch until the limit is reached or the upstream backs off. -/
def mddScan (targets : List Slot) (s : MddScan) : MddScan :=
  match targets with
  | [] => s
  | first :: rest =>
    if limitReached q s then
      { s with warnings := s.warnings ++
          [text "MDD scan stopped after finding " ++ text (toString s.qualified) ++
            text " qualifying row(s) within the scanned ROI candidates."] }
    else
      let size := max 1 q.mddConcurrency
      let s := (completion.order s ((first :: rest).take size)).foldl (applyMddResult runtime outcome q) s
      if s.rateLimited then s else mddScan ((first :: rest).drop size) s
  termination_by targets.length
  decreasing_by
    simp only [List.length_drop, List.length_cons]
    omega

def mddTargets (slots : List Slot) : List Slot :=
  let candidates := if q.sort = .mddUsd ∨ q.sort = .mddPct then slots
    else slots.insertionSort fun a b => before q.sort q.ascending a.2 b.2
  limitSlice candidates q.mddScanLimit

structure Ranking where
  rows : List Row
  filtered : Nat
  scan : MddScan

def polymarketLeaderboardPayload (rawRows : List Json) : Except Text Ranking :=
  if q.sort = .roiPct ∨ q.sort = .volumeUsd ∨ q.monetaryBounds then
    .error (text "Data API v2 volume is measured in shares; monetary volume and PnL/volume ratio sorts or filters are unavailable.")
  else do
    let rows ← rawRows.zipIdx.mapM fun raw => leaderboardRow runtime raw.1 (raw.2 + 1)
    let slots := ((prefilter runtime.casing q [] rows).zipIdx).map Prod.swap
    let scan := if q.mddRequested then mddScan runtime outcome q completion (mddTargets q slots) { rows := slots }
      else { rows := slots }
    let prefiltered := scan.rows.map Prod.snd
    let filtered := if q.mddRequested then prefiltered.filter (withinDrawdown q) else prefiltered
    let filtered := sortPolymarketLeaderboardRows q.sort q.ascending filtered
    return { rows := limitSlice filtered q.limit, filtered := filtered.length, scan }

end Drawdowns

end MarketSentinel.Leaderboard
