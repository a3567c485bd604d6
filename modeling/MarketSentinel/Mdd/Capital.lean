import Mathlib.Tactic.Linarith
import Mathlib.Tactic.Ring
import MarketSentinel.Library.Feeds
import MarketSentinel.Mdd.Quality

/-! Trades of the two feeds, each once, and the capital they put to work.

The deployed capital is clamped at zero, so that it depends on the order of the trades;
what was bought and sold does not.
-/

set_option autoImplicit false

namespace MarketSentinel.Mdd

open Python Feeds

section Events

variable (runtime : Runtime)

/-- Only trades; a type of blanks alone is one. -/
def canonicalTrades (rows : List Row) : List Row :=
  rows.filter fun row => decide (rowType runtime row = [] ∨ rowType runtime row = text "TRADE")

/-- `_canonical_trade_events`, whose keys must be hashable. -/
def canonicalTradeEvents (activityEvents tradeRows : List Row) : Except Failure (List Row) :=
  let feeds := [canonicalTrades runtime activityEvents, canonicalTrades runtime tradeRows]
  if feeds.any fun rows => rows.any fun row => (hashed (transactionHash runtime row)).isNone then .error .unhashable
  else
    .ok ((merge (tradeKey runtime) feeds).1.insertionSort fun first second =>
      tradeTimestamp runtime first ≤ tradeTimestamp runtime second)

end Events

structure TimelinePoint where
  timestamp : Int
  side : Option Text
  notionalUsd : PyFloat
  deployedNotionalUsd : PyFloat
  deriving DecidableEq

structure Deployment where
  buyNotional : PyFloat := .finite 0
  sellNotional : PyFloat := .finite 0
  unknownNotional : PyFloat := .finite 0
  grossNotional : PyFloat := .finite 0
  netCashFlow : PyFloat := .finite 0
  deployed : PyFloat := .finite 0
  maxDeployed : PyFloat := .finite 0
  timeline : List TimelinePoint := []
  deriving DecidableEq

section Stats

variable (runtime : Runtime)

/-- One side of the books; other sides move no cash. -/
def Deployment.sided (state : Deployment) (side : Text) (notional : PyFloat) : Deployment :=
  let floats := PyFloat.exact
  if side = text "BUY" then { state with
    buyNotional := floats.add state.buyNotional notional
    netCashFlow := floats.sub state.netCashFlow notional
    deployed := floats.add state.deployed notional }
  else if side = text "SELL" then { state with
    sellNotional := floats.add state.sellNotional notional
    netCashFlow := floats.add state.netCashFlow notional
    deployed := floats.max (.finite 0) (floats.sub state.deployed notional) }
  else { state with unknownNotional := floats.add state.unknownNotional notional }

def Deployment.event (state : Deployment) (row : Row) : Deployment :=
  let floats := PyFloat.exact
  let notional := tradeNotional runtime row
  if floats.le notional (.finite 0) then state
  else
    let side := tradeSide runtime row
    let moved := { state with grossNotional := floats.add state.grossNotional notional }.sided side notional
    { moved with
      maxDeployed := floats.max moved.maxDeployed moved.deployed
      timeline := moved.timeline ++ [⟨tradeTimestamp runtime row, if side = [] then none else some side, notional,
        moved.deployed⟩] }

structure CapitalStats where
  events : Nat
  deployment : Deployment

/-- `_trade_capital_stats`, with the last fifty points of the timeline. -/
def tradeCapitalStats (activityEvents tradeRows : List Row) : Except Failure CapitalStats := do
  let events ← canonicalTradeEvents runtime activityEvents tradeRows
  let deployment := events.foldl (Deployment.event runtime) {}
  return ⟨events.length, { deployment with timeline := deployment.timeline.drop (deployment.timeline.length - 50) }⟩

end Stats

/-! ## The books in exact amounts -/

/-- A trade as the books see it. -/
structure Trade where
  side : Text
  notional : ℚ

def Trade.bought (trade : Trade) : ℚ := if trade.side = text "BUY" ∧ 0 < trade.notional then trade.notional else 0

def Trade.sold (trade : Trade) : ℚ := if trade.side = text "SELL" ∧ 0 < trade.notional then trade.notional else 0

def boughtOf (trades : List Trade) : ℚ := (trades.map Trade.bought).sum

def soldOf (trades : List Trade) : ℚ := (trades.map Trade.sold).sum

/-- The books after some trades: totals of both sides, and a deployed capital that is never
negative, never below what the trades bought net of sales, and never above what they bought. -/
structure Deployment.Books (state : Deployment) (trades : List Trade) : Prop where
  bought : state.buyNotional = .finite (boughtOf trades)
  sold : state.sellNotional = .finite (soldOf trades)
  cash : state.netCashFlow = .finite (soldOf trades - boughtOf trades)
  deployed : ∃ deployed peak, state.deployed = .finite deployed ∧ state.maxDeployed = .finite peak ∧
    0 ≤ deployed ∧ boughtOf trades - soldOf trades ≤ deployed ∧ deployed ≤ peak ∧ peak ≤ boughtOf trades
  timeline : ∀ point ∈ state.timeline, ∃ amount, point.deployedNotionalUsd = .finite amount ∧ 0 ≤ amount

section Books

variable {runtime : Runtime} {state : Deployment} {trades : List Trade}

theorem boughtOf_concat (trade : Trade) : boughtOf (trades ++ [trade]) = boughtOf trades + trade.bought := by
  simp [boughtOf]

theorem soldOf_concat (trade : Trade) : soldOf (trades ++ [trade]) = soldOf trades + trade.sold := by
  simp [soldOf]

theorem buy_ne_sell : text "BUY" ≠ text "SELL" := text_injective.ne (by simp)

theorem timeline_concat {points : List TimelinePoint} {point : TimelinePoint}
    (earlier : ∀ point ∈ points, ∃ amount, point.deployedNotionalUsd = .finite amount ∧ 0 ≤ amount)
    (last : ∃ amount, point.deployedNotionalUsd = .finite amount ∧ 0 ≤ amount) :
    ∀ other ∈ points ++ [point], ∃ amount, other.deployedNotionalUsd = .finite amount ∧ 0 ≤ amount := by
  intro other member
  rcases List.mem_append.mp member with old | new
  · exact earlier other old
  · rw [List.mem_singleton.mp new]
    exact last

/-- A trade without a positive notional is not entered. -/
theorem Deployment.Books.unmoved (books : state.Books trades) {trade : Trade} (nothing : trade.notional ≤ 0) :
    state.Books (trades ++ [trade]) := by
  have bought : trade.bought = 0 := if_neg fun both => absurd both.2 (not_lt.mpr nothing)
  have sold : trade.sold = 0 := if_neg fun both => absurd both.2 (not_lt.mpr nothing)
  obtain ⟨bought_, sold_, cash, deployed, timeline⟩ := books
  refine ⟨?_, ?_, ?_, ?_, timeline⟩
  · rw [boughtOf_concat, bought, add_zero, bought_]
  · rw [soldOf_concat, sold, add_zero, sold_]
  · rw [boughtOf_concat, soldOf_concat, bought, sold, add_zero, add_zero, cash]
  · rwa [boughtOf_concat, soldOf_concat, bought, sold, add_zero, add_zero]

theorem Deployment.Books.event (books : state.Books trades) {row : Row} {notional : ℚ}
    (amount : tradeNotional runtime row = .finite notional) :
    (state.event runtime row).Books (trades ++ [⟨tradeSide runtime row, notional⟩]) := by
  by_cases nothing : notional ≤ 0
  · have same : state.event runtime row = state := by
      simp [Deployment.event, amount, nothing]
    rw [same]
    exact books.unmoved nothing
  have positive := not_le.mp nothing
  obtain ⟨bought, sold, cash, ⟨deployed, peak, atDeployed, atPeak, nonneg, net, below, above⟩, timeline⟩ := books
  -- The three sides differ in what they add to the books.
  by_cases buys : tradeSide runtime row = text "BUY"
  · have adds : (⟨tradeSide runtime row, notional⟩ : Trade).bought = notional := if_pos ⟨buys, positive⟩
    have keeps : (⟨tradeSide runtime row, notional⟩ : Trade).sold = 0 := if_neg fun both => buy_ne_sell (buys ▸ both.1)
    simp only [Deployment.event, amount, PyFloat.exact_le, nothing, decide_false, Bool.false_eq_true, if_false,
      Deployment.sided, buys, if_true, bought, cash, atDeployed, atPeak, PyFloat.exact_add, PyFloat.exact_sub, PyFloat.exact_max]
    refine ⟨?_, ?_, ?_, ⟨deployed + notional, max peak (deployed + notional), rfl, rfl, ?_, ?_, le_max_right .., ?_⟩, ?_⟩
    · rw [boughtOf_concat, ← buys, adds]
    · rw [soldOf_concat, ← buys, keeps, add_zero, sold]
    · rw [boughtOf_concat, soldOf_concat, ← buys, adds, keeps, add_zero, sub_sub]
    · linarith
    · rw [boughtOf_concat, soldOf_concat, ← buys, adds, keeps]
      linarith
    · rw [boughtOf_concat, ← buys, adds]
      apply max_le <;> linarith
    · exact timeline_concat timeline ⟨deployed + notional, rfl, by linarith⟩
  by_cases sells : tradeSide runtime row = text "SELL"
  · have adds : (⟨tradeSide runtime row, notional⟩ : Trade).sold = notional := if_pos ⟨sells, positive⟩
    have keeps : (⟨tradeSide runtime row, notional⟩ : Trade).bought = 0 := if_neg fun both => buys both.1
    simp only [Deployment.event, amount, PyFloat.exact_le, nothing, decide_false, Bool.false_eq_true, if_false,
      Deployment.sided, sells, Ne.symm buy_ne_sell, if_true, sold, cash, atDeployed, atPeak, PyFloat.exact_add,
      PyFloat.exact_sub, PyFloat.exact_max]
    refine ⟨?_, ?_, ?_, ⟨max 0 (deployed - notional), max peak (max 0 (deployed - notional)), rfl, rfl, le_max_left .., ?_,
      le_max_right .., ?_⟩, ?_⟩
    · rw [boughtOf_concat, ← sells, keeps, add_zero, bought]
    · rw [soldOf_concat, ← sells, adds]
    · rw [boughtOf_concat, soldOf_concat, ← sells, adds, keeps, add_zero]
      exact congrArg PyFloat.finite (by ring)
    · rw [boughtOf_concat, soldOf_concat, ← sells, adds, keeps]
      apply le_trans _ (le_max_right ..)
      linarith
    · rw [boughtOf_concat, ← sells, keeps, add_zero]
      apply max_le above
      apply max_le <;> linarith
    · exact timeline_concat timeline ⟨max 0 (deployed - notional), rfl, le_max_left ..⟩
  · have keepsBought : (⟨tradeSide runtime row, notional⟩ : Trade).bought = 0 := if_neg fun both => buys both.1
    have keepsSold : (⟨tradeSide runtime row, notional⟩ : Trade).sold = 0 := if_neg fun both => sells both.1
    simp only [Deployment.event, amount, PyFloat.exact_le, nothing, decide_false, Bool.false_eq_true, if_false,
      Deployment.sided, buys, sells, atDeployed, atPeak, PyFloat.exact_max]
    refine ⟨?_, ?_, ?_, ⟨deployed, max peak deployed, rfl, rfl, nonneg, ?_, le_max_right .., ?_⟩, ?_⟩
    · rw [boughtOf_concat, keepsBought, add_zero, bought]
    · rw [soldOf_concat, keepsSold, add_zero, sold]
    · rw [boughtOf_concat, soldOf_concat, keepsBought, keepsSold, add_zero, add_zero, cash]
    · rwa [boughtOf_concat, soldOf_concat, keepsBought, keepsSold, add_zero, add_zero]
    · rw [boughtOf_concat, keepsBought, add_zero]
      exact max_le above (below.trans above)
    · exact timeline_concat timeline ⟨deployed, rfl, nonneg⟩

/-- What the books see of a row with a finite notional. -/
def tradeOf (runtime : Runtime) (amount : Row → ℚ) (row : Row) : Trade := ⟨tradeSide runtime row, amount row⟩

theorem start_books : ({} : Deployment).Books [] := by
  refine ⟨rfl, rfl, ?_, ⟨0, 0, rfl, rfl, le_refl 0, ?_, le_refl 0, le_refl 0⟩, ?_⟩
  · simp [boughtOf, soldOf]
  · simp [boughtOf, soldOf]
  · intro point member
    cases member

/-- The books after every trade of a list. -/
theorem run_books {events : List Row} {amount : Row → ℚ}
    (amounts : ∀ row ∈ events, tradeNotional runtime row = .finite (amount row)) :
    (events.foldl (Deployment.event runtime) {}).Books (events.map (tradeOf runtime amount)) := by
  induction events using List.reverseRecOn with
  | nil => exact start_books
  | append_singleton events row ih =>
    rw [List.foldl_concat, List.map_append]
    apply Deployment.Books.event
    · exact ih fun other member => amounts other (List.mem_append_left _ member)
    · exact amounts row (List.mem_append_right _ (List.mem_singleton_self row))

end Books

end MarketSentinel.Mdd
