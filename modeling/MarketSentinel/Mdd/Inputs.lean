import MarketSentinel.Leaderboard.Validation
import MarketSentinel.Mdd.CursorHistory
import MarketSentinel.Mdd.Published

/-! The inputs of a calculation: four bounded reads of a wallet, and what each of them proves.

The provider may serve any pages at any pace. A whole history is all rows of four walks that
ended with a null cursor.
-/

set_option autoImplicit false

namespace MarketSentinel.Mdd

open Python

structure InputLimits where
  closedLimit : Int := 500
  openLimit : Int := 500
  activityLimit : Int := 1000
  tradeLimit : Int := 1000
  includeOpen : Bool := true

/-- The limit of a source; open positions that are left out have none. -/
def InputLimits.limit (limits : InputLimits) : Source → Int
  | .closedPositions => clamp limits.closedLimit 0 1000
  | .openPositions => if limits.includeOpen then clamp limits.openLimit 0 1000 else 0
  | .activityEvents => clamp limits.activityLimit 0 5000
  | .tradeRows => clamp limits.tradeLimit 0 5000

/-- A page that could not be read, or a request or a calculation that failed. -/
inductive InputFailure where
  | response (message : Text)
  | cancelled
  | failed (failure : Failure)
  deriving DecidableEq

/-- The pages of a wallet and the clock of each read. -/
structure Provider where
  loader : Text → Source → PageRequest → Except Text Json
  elapsed : Source → Nat → ℚ

section Fetch

variable (runtime : Runtime) (now : Int) (provider : Provider) (limits : InputLimits)

def fetchSource (wallet : Text) (source : Source) : Except InputFailure PublicHistoryRows :=
  (fetchCursorHistory (provider.loader wallet source) (provider.elapsed source)
    { limit := limits.limit source }).mapError .response

def coverageStatus (limit : Int) (read : PublicHistoryRows) : CoverageStatus :=
  if limit = 0 then .notRequested
  else if read.historyComplete then .endOfResults
  else if limit ≤ read.rows.length then .limitReached
  else .coverageUnproven

def knownTimes (rows : List Json) : List Int :=
  rows.filterMap fun row =>
    match row with
    | .obj row => positionTimestamp runtime (latestSecond now) row
    | _ => none

def coverageOf (limit : Int) (read : PublicHistoryRows) : Coverage where
  status := coverageStatus limit read
  returned := read.rows.length
  limit := limit.toNat
  firstTimestamp := (knownTimes runtime now read.rows).min?
  lastTimestamp := (knownTimes runtime now read.rows).max?
  rowsWithoutTimestamp := read.rows.length - (knownTimes runtime now read.rows).length
  sourceApi := some (text "Data API v2")
  exhaustionEvidence := if read.historyComplete then some (text "pagination.next_cursor=null") else none

/-- `fetch_mdd_inputs` when nothing is cached. -/
def fetchMddInputs (wallet : Text) : Except InputFailure MddInputs :=
  match Leaderboard.normalizeWallet runtime.casing (strip wallet) with
  | none => .error (.failed (.invalid (text "user must be a valid 0x wallet/proxyWallet address.")))
  | some wallet => do
    let closed ← fetchSource provider limits wallet .closedPositions
    let opened ← fetchSource provider limits wallet .openPositions
    let activity ← fetchSource provider limits wallet .activityEvents
    let trades ← fetchSource provider limits wallet .tradeRows
    let cover := fun source read => (source, coverageOf runtime now (limits.limit source) read)
    return {
      wallet
      closedPositions := closed.rows
      openPositions := opened.rows
      activityEvents := activity.rows
      tradeRows := trades.rows
      historyCoverage := [cover .closedPositions closed, cover .openPositions opened, cover .activityEvents activity,
        cover .tradeRows trades] }

/-- `polymarket_user_mdd_payload_v2` without an accounting snapshot. -/
def userMddPayloadV2 (wallet : Text) (request : BaseRequest) (maxPoints : Int) : Except InputFailure Payload := do
  let _ ← (equityCurrency request.equityBaseCurrency request.equityBaseUsd.isSome none).mapError .failed
  let inputs ← fetchMddInputs runtime now provider limits wallet
  (buildHistoricalMddPayload runtime now inputs request maxPoints).mapError .failed

end Fetch

section Reads

variable {runtime : Runtime} {now : Int} {provider : Provider} {limits : InputLimits} {wallet : Text} {inputs : MddInputs}

theorem limit_nonneg (source : Source) : 0 ≤ limits.limit source := by
  cases source with
  | openPositions =>
    show 0 ≤ if limits.includeOpen then clamp limits.openLimit 0 1000 else 0
    split
    · exact le_max_left 0 _
    · exact le_refl 0
  | closedPositions => exact le_max_left 0 _
  | activityEvents => exact le_max_left 0 _
  | tradeRows => exact le_max_left 0 _

theorem ok_of_mapError {ε ε' α : Type} {result : Except ε α} {raise : ε → ε'} {value : α}
    (mapped : result.mapError raise = .ok value) : result = .ok value := by
  cases result with
  | error failure => cases mapped
  | ok computed => exact congrArg Except.ok (Except.ok.inj mapped)

/-- A source that was read to its end has all rows of a walk that ended. -/
theorem fetchSource_end {source : Source} {read : PublicHistoryRows}
    (fetched : fetchSource provider limits wallet source = .ok read)
    (ended : coverageStatus (limits.limit source) read = .endOfResults) :
    0 < limits.limit source ∧ ∃ pages, Walk (provider.loader wallet source) pages none ∧ read.rows = rowsOf pages := by
  have requested : limits.limit source ≠ 0 := by
    rintro zero
    rw [coverageStatus, if_pos zero] at ended
    cases ended
  have positive : 0 < limits.limit source := lt_of_le_of_ne (limit_nonneg source) (Ne.symm requested)
  refine ⟨positive, ?_⟩
  obtain ⟨pages, state, reads, _⟩ := fetchCursorHistory_read positive (ok_of_mapError fetched)
  have complete : read.historyComplete = true := by
    by_contra incomplete
    rw [coverageStatus, if_neg requested, if_neg incomplete] at ended
    split at ended <;> cases ended
  obtain ⟨rfl, fits⟩ := reads.complete.mp complete
  exact ⟨pages, reads.walk, reads.rows.trans (List.take_of_length_le fits)⟩

/-- Inputs are four reads and the coverage of each. -/
theorem fetchMddInputs_reads (fetched : fetchMddInputs runtime now provider limits wallet = .ok inputs) :
    ∀ source, ∃ read, fetchSource provider limits inputs.wallet source = .ok read ∧ inputs.rows source = read.rows ∧
      (source, coverageOf runtime now (limits.limit source) read) ∈ inputs.historyCoverage := by
  unfold fetchMddInputs at fetched
  split at fetched
  · cases fetched
  rename_i normal _
  cases closed : fetchSource provider limits normal .closedPositions with
  | error message =>
    rw [closed] at fetched
    cases fetched
  | ok closedRead =>
  cases opened : fetchSource provider limits normal .openPositions with
  | error message =>
    rw [closed, opened] at fetched
    cases fetched
  | ok openedRead =>
  cases activity : fetchSource provider limits normal .activityEvents with
  | error message =>
    rw [closed, opened, activity] at fetched
    cases fetched
  | ok activityRead =>
  cases trades : fetchSource provider limits normal .tradeRows with
  | error message =>
    rw [closed, opened, activity, trades] at fetched
    cases fetched
  | ok tradesRead =>
  rw [closed, opened, activity, trades] at fetched
  obtain rfl := Except.ok.inj fetched
  intro source
  cases source with
  | closedPositions => exact ⟨closedRead, closed, rfl, by simp⟩
  | openPositions => exact ⟨openedRead, opened, rfl, by simp⟩
  | activityEvents => exact ⟨activityRead, activity, rfl, by simp⟩
  | tradeRows => exact ⟨tradesRead, trades, rfl, by simp⟩

/-- Inputs with a whole history are four walks that ended with a null cursor. -/
theorem fetchMddInputs_whole (fetched : fetchMddInputs runtime now provider limits wallet = .ok inputs)
    (whole : wholeHistory inputs) :
    ∀ source, 0 < limits.limit source ∧ ∃ pages, Walk (provider.loader inputs.wallet source) pages none ∧
      inputs.rows source = rowsOf pages := by
  intro source
  obtain ⟨read, here, rows, covered⟩ := fetchMddInputs_reads fetched source
  rw [rows]
  exact fetchSource_end here (whole _ covered)

end Reads

end MarketSentinel.Mdd
