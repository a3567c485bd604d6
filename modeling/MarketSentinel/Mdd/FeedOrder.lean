import MarketSentinel.Library.Curve
import MarketSentinel.Mdd.Readings

/-! The order of the rows inside a feed makes no difference to a figure.

Results of one second go one way, so that only the ends of the seconds count for a drawdown.
The deployed capital depends on the order of simultaneous trades; the base does not, because
what was bought is never less.
-/

set_option autoImplicit false

namespace MarketSentinel.Mdd

open Python RunningPeak Curve Feeds

/-! ## The drawdown of values -/

/-- What is published of a drawdown. -/
structure Figures where
  mddUsd : Option ℚ
  mddPct : Option ℚ
  mddAvailable : Bool
  deriving DecidableEq

def Drawdown.figures {Time : Type} (drawdown : Drawdown Time) : Figures :=
  ⟨drawdown.mddUsd, drawdown.mddPct, drawdown.mddAvailable⟩

section Values

variable {Time : Type}

theorem percentageSteps_none {episodes : List (Episode Time)} (sound : ∀ episode ∈ episodes, episode.Sound)
    (result : Percentage Time) : episodes.foldlM (percentageStep none) result = .ok result := by
  induction episodes with
  | nil => rfl
  | cons episode rest ih =>
    obtain ⟨above, below⟩ := sound episode List.mem_cons_self
    have stepped : percentageStep none result episode = .ok result := by
      simp [percentageStep, not_lt.mpr above, not_lt.mpr below.le]
    rw [List.foldlM_cons, stepped]
    exact ih fun other member => sound other (List.mem_cons_of_mem _ member)

/-- The figures of observed points: the greatest losses, and a percentage of a positive base only. -/
theorem maxDrawdown_figures (points : List (Point Time)) (base : ℚ) :
    ∃ result, maxDrawdown points (if 0 < base then some base else none) = .ok result ∧
      (points = [] → result.figures = ⟨none, none, false⟩) ∧
      (points ≠ [] → result.mddAvailable = true ∧
        (∃ usd, result.mddUsd = some usd ∧
          IsGreatest (lossesOf (fun high low : ℚ => high - low) 0 (points.map Point.value)) usd) ∧
        (0 < base → ∃ pct, result.mddPct = some pct ∧
          IsGreatest (lossesOf (percentageOf base) 0 (points.map Point.value)) pct) ∧
        (¬0 < base → result.mddPct = none)) := by
  have tracks := Scan.run_tracks points
  have seen : (Scan.run points).observed = !points.isEmpty := by
    rw [tracks.observed, List.isEmpty_map]
  have usd := largest_eq _ tracks.sound
  have dollars : points ≠ [] → IsGreatest (lossesOf (fun high low : ℚ => high - low) 0 (points.map Point.value))
      (((Scan.run points).episodes.map Episode.loss).foldl max 0) := by
    intro observed
    have greatest := tracks.summary.isGreatest dollars_measure (by simpa using observed)
    rwa [List.map_map] at greatest
  have shares : 0 < base → points ≠ [] → IsGreatest (lossesOf (percentageOf base) 0 (points.map Point.value))
      (greatestPercentage base (Scan.run points).episodes 0) := by
    intro positive observed
    have greatest := tracks.summary.isGreatest (percentageOf_measure positive) (by simpa using observed)
    rwa [List.map_map] at greatest
  have computed : ∃ percentage, percentageDrawdown (Scan.run points).episodes (if 0 < base then some base else none) =
      .ok percentage ∧ (0 < base → percentage.mddPct = some (greatestPercentage base (Scan.run points).episodes 0)) ∧
        (¬0 < base → percentage.mddPct = none) := by
    by_cases positive : 0 < base
    · obtain ⟨percentage, computed, pct⟩ := percentageDrawdown_eq positive tracks.sound
      rw [if_pos positive]
      exact ⟨percentage, computed, fun _ => pct, fun not => absurd positive not⟩
    · rw [if_neg positive]
      exact ⟨_, percentageSteps_none tracks.sound _, fun yes => absurd yes positive, fun _ => by simp⟩
  obtain ⟨percentage, computed, pct, unknown⟩ := computed
  unfold maxDrawdown
  dsimp only
  rw [computed]
  refine ⟨_, rfl, ?_, fun observed => ⟨?_, ⟨_, ?_, dollars observed⟩, fun positive => ⟨_, ?_, shares positive observed⟩, ?_⟩⟩
  · rintro rfl
    rfl
  · dsimp only
    rw [seen]
    simpa using observed
  · dsimp only
    rw [← usd, seen]
    cases largest (Scan.run points).episodes with
    | none => simp [observed]
    | some episode => rfl
  · dsimp only
    rw [seen, pct positive]
    simp [observed]
  · intro no
    dsimp only
    rw [unknown no, ite_self]

/-- Two curves that lose equally much have the same figures. -/
theorem maxDrawdown_congr {points others : List (Point Time)} (base : ℚ) (empty : points = [] ↔ others = [])
    (same : ∀ (loss : ℚ → ℚ → ℚ), Measure ℚ loss 0 → ∀ greatest,
      IsGreatest (lossesOf loss 0 (points.map Point.value)) greatest ↔
        IsGreatest (lossesOf loss 0 (others.map Point.value)) greatest) :
    (maxDrawdown points (if 0 < base then some base else none)).map Drawdown.figures =
      (maxDrawdown others (if 0 < base then some base else none)).map Drawdown.figures := by
  obtain ⟨result, computed, nothing, observed⟩ := maxDrawdown_figures points base
  obtain ⟨result', computed', nothing', observed'⟩ := maxDrawdown_figures others base
  rw [computed, computed']
  apply congrArg Except.ok
  by_cases none : points = []
  · rw [nothing none, nothing' (empty.mp none)]
  obtain ⟨available, ⟨usd, dollars, greatest⟩, percent, without⟩ := observed none
  obtain ⟨available', ⟨usd', dollars', greatest'⟩, percent', without'⟩ := observed' fun other => none (empty.mpr other)
  have pct : result.mddPct = result'.mddPct := by
    by_cases positive : 0 < base
    · obtain ⟨pct, reported, most⟩ := percent positive
      obtain ⟨pct', reported', most'⟩ := percent' positive
      rw [reported, reported', ((same _ (percentageOf_measure positive) pct).mp most).unique most']
    · rw [without positive, without' positive]
  rw [Drawdown.figures, Drawdown.figures, pct, available, available', dollars, dollars',
    ((same _ dollars_measure usd).mp greatest).unique greatest']

end Values

/-! ## The points of sound rows -/

section Runs

variable {runtime : Runtime}

def realizedOf (runtime : Runtime) (row : Row) : ℚ := (realizedPnl runtime row).getD 0

def capitalOf (runtime : Runtime) (closed : Bool) (row : Row) : ℚ := (positionCapital runtime row closed).1.getD 0

def openPnlOf (runtime : Runtime) (row : Row) : ℚ :=
  match positionTotalPnl runtime row with
  | some (.finite pnl) => pnl
  | _ => 0

theorem closed_run {rows : List Row} (finite : ∀ row ∈ rows, ∃ pnl, realizedPnl runtime row = some pnl) :
    let run := rows.foldl (ClosedRun.add runtime) {}
    run.cumulativeRealized = .finite (rows.map (realizedOf runtime)).sum ∧
      run.closedCapital = (rows.map (capitalOf runtime true)).sum ∧
      run.points.map HistoricalPoint.value = (levels 0 (rows.map (realizedOf runtime))).map .finite := by
  induction rows using List.reverseRecOn with
  | nil => exact ⟨rfl, rfl, rfl⟩
  | append_singleton rows row ih =>
    obtain ⟨cumulative, capital, points⟩ := ih fun other member => finite other (List.mem_append_left _ member)
    obtain ⟨pnl, read⟩ := finite row (by simp)
    have change : realizedOf runtime row = pnl := by rw [realizedOf, read, Option.getD_some]
    have added := safeFloat_of_finite read
    dsimp only at cumulative capital points ⊢
    rw [List.foldl_concat, ClosedRun.add, added]
    dsimp only
    rw [cumulative]
    refine ⟨?_, ?_, ?_⟩
    · simp [PyFloat.add, change]
    · simp [capital, capitalOf]
    · rw [List.map_append, points, List.map_append, levels_append, List.map_append]
      simp [levels, PyFloat.add, change]

theorem open_run {rows : List Row} (sources : Dict Text Nat)
    (finite : ∀ row ∈ rows, ∃ pnl, positionTotalPnl runtime row = some (.finite pnl)) :
    let run := rows.foldl (OpenRun.add runtime) { capitalSources := sources }
    run.openPnl = .finite (rows.map (openPnlOf runtime)).sum ∧ run.openPnlAvailable = !rows.isEmpty ∧
      run.openCapital = (rows.map (capitalOf runtime false)).sum := by
  induction rows using List.reverseRecOn with
  | nil => exact ⟨rfl, rfl, rfl⟩
  | append_singleton rows row ih =>
    obtain ⟨total, available, capital⟩ := ih fun other member => finite other (List.mem_append_left _ member)
    obtain ⟨pnl, read⟩ := finite row (by simp)
    have change : openPnlOf runtime row = pnl := by rw [openPnlOf, read]
    dsimp only at total available capital ⊢
    rw [List.foldl_concat, OpenRun.add, read]
    dsimp only
    rw [total]
    refine ⟨?_, ?_, ?_⟩
    · simp [PyFloat.add, change]
    · simp
    · simp [capital, capitalOf]

theorem finitePoints {points : List HistoricalPoint} {values : List ℚ}
    (finite : points.map HistoricalPoint.value = values.map .finite) :
    ∃ exact, points.mapM finitePoint = .ok exact ∧ exact.map Point.value = values := by
  induction points generalizing values with
  | nil =>
    obtain rfl : values = [] := by simpa using finite.symm
    exact ⟨[], rfl, rfl⟩
  | cons point points ih =>
    cases values with
    | nil => simp at finite
    | cons value values =>
      obtain ⟨here, later⟩ := List.cons_eq_cons.mp finite
      obtain ⟨exact_, read, same⟩ := ih later
      refine ⟨⟨value, some point.timestamp⟩ :: exact_, ?_, by rw [List.map_cons, same]⟩
      rw [List.mapM_cons, finitePoint, here, read]
      rfl

/-- Points that lose equally much have the same figures. -/
theorem drawdownOf_congr {points others : List HistoricalPoint} {values values' : List ℚ} (base : ℚ)
    (finite : points.map HistoricalPoint.value = values.map .finite)
    (finite' : others.map HistoricalPoint.value = values'.map .finite) (empty : values = [] ↔ values' = [])
    (same : ∀ (loss : ℚ → ℚ → ℚ), Measure ℚ loss 0 → ∀ greatest,
      IsGreatest (lossesOf loss 0 values) greatest ↔ IsGreatest (lossesOf loss 0 values') greatest) :
    (drawdownOf points base).map Drawdown.figures = (drawdownOf others base).map Drawdown.figures := by
  obtain ⟨read, exactly, shown⟩ := finitePoints finite
  obtain ⟨read', exactly', shown'⟩ := finitePoints finite'
  have none : read = [] ↔ read' = [] := by
    rw [← List.map_eq_nil_iff (f := Point.value), shown, empty, ← shown', List.map_eq_nil_iff]
  have figures := maxDrawdown_congr base none (by rw [shown, shown']; exact same)
  have moved : ∀ result : Except Text (Drawdown Int), (result.mapError Failure.invalid).map Drawdown.figures =
      (result.map Drawdown.figures).mapError Failure.invalid := by
    rintro (error | result) <;> rfl
  unfold drawdownOf
  rw [exactly, exactly']
  exact (moved _).trans ((congrArg _ figures).trans (moved _).symm)

end Runs

/-! ## The base -/

section Base

variable {runtime : Runtime}

/-- The capital that a trade puts to work. -/
def boughtBy (runtime : Runtime) (row : Row) : ℚ := (tradeOf runtime (tradeAmount runtime) row).bought

def tradeFeeds (runtime : Runtime) (inputs : MddInputs) : List (List Row) :=
  [canonicalTrades runtime (inputs.activityEvents.map fields), canonicalTrades runtime (inputs.tradeRows.map fields)]

def hashable (runtime : Runtime) (inputs : MddInputs) : Bool :=
  !(tradeFeeds runtime inputs).any fun rows => rows.any fun row => (hashed (transactionHash runtime row)).isNone

def boughtFrom (runtime : Runtime) (inputs : MddInputs) : ℚ :=
  ((merge (tradeKey runtime) (tradeFeeds runtime inputs)).1.map (boughtBy runtime)).sum

/-- The trades in the order of their seconds. -/
def eventsOf (runtime : Runtime) (inputs : MddInputs) : List Row :=
  (merge (tradeKey runtime) (tradeFeeds runtime inputs)).1.insertionSort fun first second =>
    tradeTimestamp runtime first ≤ tradeTimestamp runtime second

theorem canonicalTradeEvents_eq (inputs : MddInputs) :
    canonicalTradeEvents runtime (inputs.activityEvents.map fields) (inputs.tradeRows.map fields) =
      if hashable runtime inputs then .ok (eventsOf runtime inputs) else .error .unhashable := by
  cases fine : hashable runtime inputs with
  | true => exact if_neg fun raises => by simp [hashable, tradeFeeds, raises] at fine
  | false => exact if_pos (by simpa only [hashable, tradeFeeds, Bool.not_eq_false'] using fine)

/-- The trades of the feeds buy for what their keys say, and never deploy more than that. -/
theorem capital_stats {inputs : MddInputs}
    (clean : ∀ rows ∈ tradeFeeds runtime inputs, ∀ row ∈ rows, fieldIssues runtime row = []) :
    let stats := tradeCapitalStats runtime (inputs.activityEvents.map fields) (inputs.tradeRows.map fields)
    (hashable runtime inputs = false → stats = .error .unhashable) ∧
      (hashable runtime inputs = true → ∃ result peak, stats = .ok result ∧
        result.deployment.buyNotional = .finite (boughtFrom runtime inputs) ∧
        result.deployment.maxDeployed = .finite peak ∧ peak ≤ boughtFrom runtime inputs) := by
  dsimp only
  unfold tradeCapitalStats
  rw [canonicalTradeEvents_eq]
  constructor
  · intro raises
    rw [raises]
    rfl
  · intro fine
    rw [fine]
    have perm : (eventsOf runtime inputs).Perm (merge (tradeKey runtime) (tradeFeeds runtime inputs)).1 :=
      List.perm_insertionSort _ _
    have amounts : ∀ row ∈ eventsOf runtime inputs, tradeNotional runtime row = .finite (tradeAmount runtime row) := by
      intro row member
      obtain ⟨rows, among, inside⟩ := List.mem_flatten.mp (mem_flatten_of_merge (perm.mem_iff.mp member))
      exact tradeNotional_clean (clean rows among row inside)
    have books := run_books amounts
    obtain ⟨deployed, peak, _, atPeak, _, _, _, below⟩ := books.deployed
    have bought : boughtOf ((eventsOf runtime inputs).map (tradeOf runtime (tradeAmount runtime))) =
        boughtFrom runtime inputs := by
      rw [boughtOf, List.map_map]
      exact (perm.map _).sum_eq
    exact ⟨_, peak, rfl, bought ▸ books.bought, atPeak, bought ▸ below⟩

end Base

/-! ## The figures of sound inputs -/

/-- What a payload publishes, and the base of its percentage. -/
def Payload.published (payload : Payload) : Figures × Option ℚ := (payload.figures, payload.equityBaseUsd)

/-- The gates on the figures of a valid report: every source read to its end, and one currency. -/
def gate (inputs : MddInputs) (basis : Option Text) (figures : Figures) : Figures :=
  let whole := decide (sourcesWith inputs .limitReached = [] ∧ sourcesWith inputs .notRequested = [] ∧
    sourcesWith inputs .coverageUnproven = [])
  let comparable := (sourceEconomicsCurrency inputs).isSome && decide (sourceEconomicsCurrency inputs = basis)
  { mddUsd := if whole then figures.mddUsd else none
    mddPct := if whole && comparable then figures.mddPct else none
    mddAvailable := whole && figures.mddAvailable }

theorem applyCurrencyBoundary_published (payload : Payload) :
    (applyCurrencyBoundary payload).published = ({ payload.figures with
      mddPct := if payload.quoteCurrency.isSome && decide (payload.quoteCurrency = payload.equityBaseCurrency) then
        payload.mddPct else none }, payload.equityBaseUsd) := by
  unfold applyCurrencyBoundary
  cases quote : payload.quoteCurrency with
  | none => simp [Payload.published, Drawdown.figures]
  | some source =>
    cases basis : payload.equityBaseCurrency with
    | none => simp [Payload.published, Drawdown.figures]
    | some other =>
      by_cases same : source = other
      · simp [Payload.published, Drawdown.figures, same]
      · simp [Payload.published, Drawdown.figures, same]

theorem applyHistoryCoverage_published {inputs : MddInputs} {payload : Payload}
    (valid : invalidReasons payload.mddSourceQuality = []) (currency : payload.quoteCurrency = sourceEconomicsCurrency inputs) :
    (applyHistoryCoverage inputs payload).published =
      (gate inputs payload.equityBaseCurrency payload.figures, payload.equityBaseUsd) := by
  unfold applyHistoryCoverage
  dsimp only
  rw [applyCurrencyBoundary_published]
  by_cases whole : sourcesWith inputs .limitReached = [] ∧ sourcesWith inputs .notRequested = [] ∧
      sourcesWith inputs .coverageUnproven = []
  · obtain ⟨capped, excluded, unproven⟩ := whole
    simp [gate, capped, excluded, unproven, valid, currency, Drawdown.figures]
  · have withheld : sourcesWith inputs .limitReached ≠ [] ∨ sourcesWith inputs .notRequested ≠ [] ∨
        sourcesWith inputs .coverageUnproven ≠ [] ∨ invalidReasons payload.mddSourceQuality ≠ [] := by
      tauto
    rw [if_pos withheld]
    simp [gate, whole, Payload.withheld, Drawdown.figures]

section Order

variable {runtime : Runtime} {now : Int} {inputs others : MddInputs}

def closedSecond (runtime : Runtime) (now : Int) (row : Row) : Int :=
  (positionTimestamp runtime (latestSecond now) row).getD 0

theorem closedInOrder_perm (rows : List Json) : (closedInOrder runtime now rows).Perm (rows.map fields) :=
  List.perm_insertionSort _ _

theorem closedInOrder_sorted (rows : List Json) : (closedInOrder runtime now rows).Pairwise
    fun first second => closedSecond runtime now first ≤ closedSecond runtime now second := by
  have order : IsTrans Row fun a b => closedSecond runtime now a ≤ closedSecond runtime now b :=
    ⟨fun _ _ _ first second => first.trans second⟩
  have compares : Std.Total fun a b : Row => closedSecond runtime now a ≤ closedSecond runtime now b :=
    ⟨fun a b => le_total (closedSecond runtime now a) (closedSecond runtime now b)⟩
  exact List.pairwise_insertionSort (fun a b => closedSecond runtime now a ≤ closedSecond runtime now b) _

theorem closedInOrder_finite (sound : Sound runtime (latestSecond now) inputs) :
    ∀ row ∈ closedInOrder runtime now inputs.closedPositions, ∃ pnl, realizedPnl runtime row = some pnl := by
  intro row member
  obtain ⟨given_, among, rfl⟩ := List.mem_map.mp ((closedInOrder_perm inputs.closedPositions).mem_iff.mp member)
  obtain ⟨_, pnl, _, read, _⟩ := sound.closed among
  exact ⟨pnl, read⟩

theorem closedInOrder_oneWay (sound : Sound runtime (latestSecond now) inputs) :
    OneWay (closedSecond runtime now) (realizedOf runtime) (closedInOrder runtime now inputs.closedPositions) := by
  have seen : ∀ row ∈ closedInOrder runtime now inputs.closedPositions, ∃ given_ ∈ inputs.closedPositions,
      closedObservation runtime (latestSecond now) given_ = some (closedSecond runtime now row, realizedOf runtime row) := by
    intro row member
    obtain ⟨given_, among, rfl⟩ := List.mem_map.mp ((closedInOrder_perm inputs.closedPositions).mem_iff.mp member)
    obtain ⟨second, pnl, at_second, read, observed⟩ := sound.closed among
    exact ⟨given_, among, by rw [observed, closedSecond, at_second, realizedOf, read]; rfl⟩
  intro first here second there same
  obtain ⟨row, member, observed⟩ := seen first here
  obtain ⟨row', member', observed'⟩ := seen second there
  rw [← same] at observed'
  exact sound.one_way member member' observed observed'

/-- The last point of the curve, when there are open positions. -/
def openTail (runtime : Runtime) (inputs : MddInputs) : List ℚ :=
  if inputs.openPositions.isEmpty then []
  else [((inputs.closedPositions.map fields).map (realizedOf runtime)).sum +
    ((inputs.openPositions.map fields).map (openPnlOf runtime)).sum]

/-- The curve of sound inputs. -/
def curveOf (runtime : Runtime) (now : Int) (inputs : MddInputs) : List ℚ :=
  levels 0 ((closedInOrder runtime now inputs.closedPositions).map (realizedOf runtime)) ++ openTail runtime inputs

def capitalFrom (runtime : Runtime) (inputs : MddInputs) : ℚ :=
  ((inputs.closedPositions.map fields).map (capitalOf runtime true)).sum +
    ((inputs.openPositions.map fields).map (capitalOf runtime false)).sum

theorem tradeFeeds_clean (sound : Sound runtime (latestSecond now) inputs) :
    ∀ rows ∈ tradeFeeds runtime inputs, ∀ row ∈ rows, fieldIssues runtime row = [] := by
  intro rows among row member
  rcases List.mem_pair.mp among with rfl | rfl
  · obtain ⟨given_, here, rfl⟩ := List.mem_map.mp (List.mem_of_mem_filter member)
    exact @Sound.clean _ _ _ sound .activityEvents _ here
  · obtain ⟨given_, here, rfl⟩ := List.mem_map.mp (List.mem_of_mem_filter member)
    exact @Sound.clean _ _ _ sound .tradeRows _ here

/-- What the runs over sound positions come to. -/
theorem sound_runs (sound : Sound runtime (latestSecond now) inputs) :
    (closedRun runtime now inputs).closedCapital + (openRun runtime now inputs).openCapital = capitalFrom runtime inputs ∧
      (historicalPoints runtime now inputs).map HistoricalPoint.value = (curveOf runtime now inputs).map .finite := by
  obtain ⟨cumulative, closedCapital, closedPoints⟩ := closed_run (closedInOrder_finite sound)
  have finite : ∀ row ∈ inputs.openPositions.map fields, ∃ pnl, positionTotalPnl runtime row = some (.finite pnl) := by
    intro row member
    obtain ⟨given_, among, rfl⟩ := List.mem_map.mp member
    exact sound.opened among
  obtain ⟨openTotal, available, openCapital⟩ := open_run (closedRun runtime now inputs).capitalSources finite
  have sums : ∀ value : Row → ℚ, ((closedInOrder runtime now inputs.closedPositions).map value).sum =
      ((inputs.closedPositions.map fields).map value).sum :=
    fun value => ((closedInOrder_perm inputs.closedPositions).map value).sum_eq
  constructor
  · rw [closedRun, openRun, closedCapital, openCapital, sums, capitalFrom]
  · rw [historicalPoints, List.map_append, closedRun, closedPoints, curveOf, List.map_append, openPoint, openRun, available,
      List.isEmpty_map, openTail]
    cases none : inputs.openPositions.isEmpty with
    | true => simp
    | false => simp [cumulative, openTotal, PyFloat.add, sums]

/-- A sound calculation comes to a curve, a base and the gates. -/
theorem build_sound (sound : Sound runtime (latestSecond now) inputs) (request : BaseRequest) (maxPoints : Int) :
    (buildHistoricalMddPayload runtime now inputs request maxPoints).map Payload.published = (do
      let basis ← equityCurrency request.equityBaseCurrency request.equityBaseUsd.isSome (sourceEconomicsCurrency inputs)
      if hashable runtime inputs then
        let base ← equityBase request (.finite (max (capitalFrom runtime inputs) (boughtFrom runtime inputs)))
        let figures ← (drawdownOf (historicalPoints runtime now inputs) base.1).map Drawdown.figures
        return (gate inputs basis figures, if 0 < base.1 then some base.1 else none)
      else .error .unhashable) := by
  obtain ⟨quality, reported, valid, noReason⟩ := sound.report
  have all : calculationInputs inputs quality = inputs := if_pos valid
  obtain ⟨capital, _⟩ := sound_runs sound
  obtain ⟨raises, computes⟩ := capital_stats (tradeFeeds_clean sound)
  unfold buildHistoricalMddPayload
  simp only [Bind.bind, Except.bind, reported, all, capital]
  cases equityCurrency request.equityBaseCurrency request.equityBaseUsd.isSome (sourceEconomicsCurrency inputs) with
  | error failure => rfl
  | ok basis =>
    cases fine : hashable runtime inputs with
    | false =>
      simp only [raises fine]
      rfl
    | true =>
      obtain ⟨stats, peak, computed, bought, atPeak, below⟩ := computes fine
      have base : PyFloat.exact.max (PyFloat.exact.max (.finite (capitalFrom runtime inputs)) stats.deployment.maxDeployed)
          stats.deployment.buyNotional = .finite (max (capitalFrom runtime inputs) (boughtFrom runtime inputs)) := by
        rw [atPeak, bought, PyFloat.exact_max, PyFloat.exact_max, max_assoc, max_eq_right below]
      simp only [computed, base, if_true]
      cases equityBase request (.finite (max (capitalFrom runtime inputs) (boughtFrom runtime inputs))) with
      | error failure => rfl
      | ok base =>
        dsimp only
        cases drawdownOf (historicalPoints runtime now inputs) base.1 with
        | error failure => rfl
        | ok drawdown => exact congrArg Except.ok (applyHistoryCoverage_published noReason rfl)

/-! ## Rows in another order -/

/-- The same rows in another order inside each source. -/
structure Reordered (inputs others : MddInputs) : Prop where
  rows : ∀ source, (inputs.rows source).Perm (others.rows source)
  coverage : others.historyCoverage = inputs.historyCoverage

namespace Reordered

variable (reordered : Reordered inputs others)

include reordered

theorem closed : (inputs.closedPositions.map fields).Perm (others.closedPositions.map fields) :=
  (reordered.rows .closedPositions).map fields

theorem opened : (inputs.openPositions.map fields).Perm (others.openPositions.map fields) :=
  (reordered.rows .openPositions).map fields

theorem feeds : List.Forall₂ List.Perm (tradeFeeds runtime inputs) (tradeFeeds runtime others) := by
  have activity := ((reordered.rows .activityEvents).map fields).filter
    fun row => decide (rowType runtime row = [] ∨ rowType runtime row = text "TRADE")
  have trades := ((reordered.rows .tradeRows).map fields).filter
    fun row => decide (rowType runtime row = [] ∨ rowType runtime row = text "TRADE")
  exact .cons activity (.cons trades .nil)

theorem currency : sourceEconomicsCurrency others = sourceEconomicsCurrency inputs := by
  have rows : others.allRows.Perm inputs.allRows := by
    have closed := (reordered.rows .closedPositions).symm
    have opened := (reordered.rows .openPositions).symm
    have activity := (reordered.rows .activityEvents).symm
    have trades := (reordered.rows .tradeRows).symm
    exact ((closed.append opened).append activity).append trades
  have empty : others.allRows.isEmpty = inputs.allRows.isEmpty := by
    rw [Bool.eq_iff_iff, List.isEmpty_iff, List.isEmpty_iff]
    exact ⟨fun none => (none ▸ rows).nil_eq.symm, fun none => (none ▸ rows).eq_nil⟩
  unfold sourceEconomicsCurrency
  simp only [reordered.coverage, rows.any_eq, empty]

theorem hashable_eq : hashable runtime others = hashable runtime inputs := by
  have feeds : List.Forall₂ List.Perm (tradeFeeds runtime inputs) (tradeFeeds runtime others) := reordered.feeds
  unfold hashable
  congr 1
  rw [Bool.eq_iff_iff]
  simp only [← List.any_flatten]
  rw [(List.Perm.flatten_congr feeds).any_eq]

theorem gate_eq (basis : Option Text) : gate others basis = gate inputs basis := by
  have sources : sourcesWith others = sourcesWith inputs := by
    funext status
    rw [sourcesWith, sourcesWith, reordered.coverage]
  funext figures
  simp only [gate, sources, reordered.currency]

theorem capitalFrom_eq : capitalFrom runtime others = capitalFrom runtime inputs := by
  unfold capitalFrom
  rw [(reordered.closed.map _).sum_eq, (reordered.opened.map _).sum_eq]

theorem openTail_eq : openTail runtime others = openTail runtime inputs := by
  have empty : others.openPositions.isEmpty = inputs.openPositions.isEmpty := by
    rw [Bool.eq_iff_iff, List.isEmpty_iff, List.isEmpty_iff]
    have opened := reordered.rows .openPositions
    exact ⟨fun none => (show inputs.openPositions.Perm [] from none ▸ opened).eq_nil,
      fun none => (show [].Perm others.openPositions from none ▸ opened).nil_eq.symm⟩
  unfold openTail
  rw [empty, (reordered.closed.map _).sum_eq, (reordered.opened.map _).sum_eq]

/-- The trades buy for equally much when their keys say for how much. -/
theorem boughtFrom_eq (determined : ∀ first ∈ (tradeFeeds runtime inputs).flatten,
    ∀ second ∈ (tradeFeeds runtime inputs).flatten, tradeKey runtime first = tradeKey runtime second →
      tradeNotional runtime first = tradeNotional runtime second) :
    boughtFrom runtime others = boughtFrom runtime inputs := by
  symm
  apply sum_merge_perm reordered.feeds
  intro first here second there same
  have side : tradeSide runtime first = tradeSide runtime second := congrArg TradeKey.side same
  have amount : tradeAmount runtime first = tradeAmount runtime second := by
    rw [tradeAmount, tradeAmount, determined first here second there same]
  simp only [boughtBy, tradeOf, side, amount]

/-- The curves lose equally much. -/
theorem curve_greatest (sound : Sound runtime (latestSecond now) inputs) {loss : ℚ → ℚ → ℚ} (measure : Measure ℚ loss 0)
    (greatest : ℚ) : IsGreatest (lossesOf loss 0 (curveOf runtime now others)) greatest ↔
      IsGreatest (lossesOf loss 0 (curveOf runtime now inputs)) greatest := by
  have perm : (closedInOrder runtime now inputs.closedPositions).Perm (closedInOrder runtime now others.closedPositions) :=
    (closedInOrder_perm _).trans (reordered.closed.trans (closedInOrder_perm _).symm)
  unfold curveOf
  rw [reordered.openTail_eq]
  exact (sorted_perm measure perm (closedInOrder_sorted _) (closedInOrder_sorted _) (closedInOrder_oneWay sound)
    (openTail runtime inputs) greatest).symm

theorem curve_nil : curveOf runtime now others = [] ↔ curveOf runtime now inputs = [] := by
  have perm : (closedInOrder runtime now inputs.closedPositions).Perm (closedInOrder runtime now others.closedPositions) :=
    (closedInOrder_perm _).trans (reordered.closed.trans (closedInOrder_perm _).symm)
  have none : ∀ changes : List ℚ, levels 0 changes = [] ↔ changes = [] := by
    intro changes
    cases changes <;> simp [levels]
  unfold curveOf
  rw [reordered.openTail_eq, List.append_eq_nil_iff, List.append_eq_nil_iff, none, none, List.map_eq_nil_iff,
    List.map_eq_nil_iff]
  constructor
  · exact fun both => ⟨(both.1 ▸ perm).eq_nil, both.2⟩
  · exact fun both => ⟨(both.1 ▸ perm).nil_eq.symm, both.2⟩

end Reordered

/-- A report is refused for rows whose hashes cannot be looked up, whatever their order. -/
theorem sourceQuality_error {latest : Int} {failure : Failure} : sourceQuality runtime latest inputs = .error failure ↔
    failure = .unhashable ∧ ∃ source, ∃ row ∈ inputs.rows source, unhashable runtime latest source row = true := by
  have raised : (Source.all.any fun source => (inputs.rows source).any (unhashable runtime latest source)) = true ↔
      ∃ source, ∃ row ∈ inputs.rows source, unhashable runtime latest source row = true := by
    simp [Source.mem_all]
  rw [← raised]
  unfold sourceQuality
  split
  · rename_i raises
    simp [raises, eq_comm]
  · rename_i passes
    simp [passes]

/-- The verdict on the rows says that they are sound, is refused only for hashes that cannot be looked up, and does
not depend on the order of the rows. -/
theorem sourceQuality_verdict {latest : Int} (reordered : Reordered inputs others) :
    (sourceQuality runtime latest others).map Quality.valid = (sourceQuality runtime latest inputs).map Quality.valid ∧
      ((sourceQuality runtime latest inputs).map Quality.valid = .ok true ↔ Sound runtime latest inputs) ∧
      ∀ failure, sourceQuality runtime latest inputs = .error failure ↔
        failure = .unhashable ∧ ∃ source, ∃ row ∈ inputs.rows source, unhashable runtime latest source row = true := by
  have sound : Sound runtime latest others ↔ Sound runtime latest inputs :=
    ⟨fun sound => sound.perm fun source => (reordered.rows source).symm, fun sound => sound.perm reordered.rows⟩
  have hashes : ∀ failure, sourceQuality runtime latest others = .error failure ↔
      sourceQuality runtime latest inputs = .error failure := by
    intro failure
    rw [sourceQuality_error, sourceQuality_error]
    simp only [(reordered.rows _).mem_iff]
  have verdict := @sourceQuality_valid_iff runtime latest inputs
  have verdict' := @sourceQuality_valid_iff runtime latest others
  cases reported : sourceQuality runtime latest inputs with
  | error failure =>
    rw [(hashes failure).mpr reported]
    refine ⟨rfl, iff_of_false (by simp [Except.map]) fun sound => ?_, fun failure => reported ▸ sourceQuality_error⟩
    obtain ⟨quality, here, _⟩ := verdict.mpr sound
    rw [reported] at here
    cases here
  | ok quality =>
    cases reported' : sourceQuality runtime latest others with
    | error failure =>
      rw [(hashes failure).mp reported'] at reported
      cases reported
    | ok quality' =>
      rw [reported] at verdict
      rw [reported'] at verdict'
      have here : quality.valid = true ↔ Sound runtime latest inputs := by simpa using verdict
      have there : quality'.valid = true ↔ Sound runtime latest others := by simpa using verdict'
      have same : quality'.valid = quality.valid := by rw [Bool.eq_iff_iff, here, there, sound]
      exact ⟨congrArg Except.ok same, by simpa [Except.map] using here, fun failure => reported ▸ sourceQuality_error⟩

/-- The figures and their base do not depend on the order of the rows inside the sources. -/
theorem buildHistoricalMddPayload_order {quality : Quality}
    (reported : sourceQuality runtime (latestSecond now) inputs = .ok quality) (valid : quality.valid = true)
    (determined : ∀ first ∈ (tradeFeeds runtime inputs).flatten, ∀ second ∈ (tradeFeeds runtime inputs).flatten,
      tradeKey runtime first = tradeKey runtime second → tradeNotional runtime first = tradeNotional runtime second)
    (reordered : Reordered inputs others) (request : BaseRequest) (maxPoints : Int) :
    (buildHistoricalMddPayload runtime now others request maxPoints).map Payload.published =
      (buildHistoricalMddPayload runtime now inputs request maxPoints).map Payload.published := by
  have sound := sourceQuality_valid_iff.mp ⟨quality, reported, valid⟩
  have sound' := sound.perm reordered.rows
  rw [build_sound sound', build_sound sound, reordered.currency, reordered.hashable_eq, reordered.capitalFrom_eq,
    reordered.boughtFrom_eq determined]
  have figures : ∀ base, (drawdownOf (historicalPoints runtime now others) base).map Drawdown.figures =
      (drawdownOf (historicalPoints runtime now inputs) base).map Drawdown.figures :=
    fun base => drawdownOf_congr base (sound_runs sound').2 (sound_runs sound).2 reordered.curve_nil
      fun _ measure greatest => reordered.curve_greatest sound measure greatest
  simp only [figures, reordered.gate_eq]

end Order

/-! ## Two trades of one second -/

def asciiRuntime : Runtime := ⟨asciiCasing, fun _ => []⟩

def closedRow (asset : String) (second pnl : Int) : Json :=
  .obj [(text "asset", .str (text asset)), (text "timestamp", .int second), (text "realizedPnl", .int pnl)]

def tradeRow (asset side : String) : Json :=
  .obj [(text "asset", .str (text asset)), (text "timestamp", .int 100), (text "side", .str (text side)),
    (text "size", .int 10), (text "price", .int 1)]

def simultaneous : MddInputs where
  wallet := text "w"
  closedPositions := [closedRow "a" 100 5, closedRow "b" 100 3, closedRow "c" 200 (-4)]
  openPositions := []
  activityEvents := []
  tradeRows := [tradeRow "x" "BUY", tradeRow "y" "SELL"]

def reversed : MddInputs := { simultaneous with
  closedPositions := simultaneous.closedPositions.reverse
  tradeRows := simultaneous.tradeRows.reverse }

theorem simultaneous_reordered : Reordered simultaneous reversed where
  rows source := by
    cases source with
    | closedPositions => exact (List.reverse_perm _).symm
    | tradeRows => exact (List.reverse_perm _).symm
    | openPositions => exact List.Perm.refl _
    | activityEvents => exact List.Perm.refl _
  coverage := rfl

theorem simultaneous_sound : Sound asciiRuntime (latestSecond 700) simultaneous := by
  apply sourceQuality_valid_iff.mp
  have valid : ((sourceQuality asciiRuntime (latestSecond 700) simultaneous).toOption.any Quality.valid) = true := by
    decide +kernel
  cases reported : sourceQuality asciiRuntime (latestSecond 700) simultaneous with
  | error failure =>
    rw [reported] at valid
    cases valid
  | ok quality =>
    rw [reported] at valid
    exact ⟨quality, rfl, valid⟩

theorem sourceQuality_verdict_simultaneous :
    (sourceQuality asciiRuntime 1000 reversed).map Quality.valid =
      (sourceQuality asciiRuntime 1000 simultaneous).map Quality.valid ∧
    ((sourceQuality asciiRuntime 1000 simultaneous).map Quality.valid = .ok true ↔
      Sound asciiRuntime 1000 simultaneous) ∧
    ∀ failure, sourceQuality asciiRuntime 1000 simultaneous = .error failure ↔ failure = .unhashable ∧
      ∃ source, ∃ row ∈ simultaneous.rows source, unhashable asciiRuntime 1000 source row = true :=
  sourceQuality_verdict simultaneous_reordered

/-- The deployed capital depends on the order; the figures do not. -/
theorem buildHistoricalMddPayload_order_simultaneous :
    (buildHistoricalMddPayload asciiRuntime 700 reversed ⟨none, none⟩ 50).map Payload.published =
        (buildHistoricalMddPayload asciiRuntime 700 simultaneous ⟨none, none⟩ 50).map Payload.published ∧
      (tradeCapitalStats asciiRuntime [] (reversed.tradeRows.map fields)).map (·.deployment.deployed) ≠
        (tradeCapitalStats asciiRuntime [] (simultaneous.tradeRows.map fields)).map (·.deployment.deployed) := by
  obtain ⟨quality, reported, valid⟩ := sourceQuality_valid_iff.mpr simultaneous_sound
  refine ⟨buildHistoricalMddPayload_order reported valid ?_ simultaneous_reordered _ _, by decide +kernel⟩
  decide +kernel

end MarketSentinel.Mdd
