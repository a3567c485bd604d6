import MarketSentinel.Mdd.MarkReplay

/-! Which payloads report a risk, and what it rests on.

The gates give back every figure of a history that is not proven. The paths without a replay
take the figures back themselves and leave the flag of the percentage as it was.
-/

set_option autoImplicit false

namespace MarketSentinel.Mdd

open Python

/-! ## Points of a replay -/

section Points

variable (runtime : Runtime)

def Unfillable (row : Row) : Prop := tradeTokenId runtime row = [] ∨ fillOf runtime row = none

/-- An event that leaves no point. -/
def Silent (event : ReplayEvent) : Prop :=
  match event with
  | .mark _ _ => False
  | .trade row => Unfillable runtime row

variable {runtime}

theorem step_points (replay : Replay) (event : Int × ReplayEvent) :
    (replay.step runtime event).points = [] ↔ replay.points = [] ∧ Silent runtime event.2 := by
  obtain ⟨second, kind⟩ := event
  cases kind with
  | mark token price => simp [Replay.step, Replay.emit, Silent]
  | trade row =>
    simp only [Replay.step, Silent, Unfillable]
    by_cases unnamed : tradeTokenId runtime row = []
    · simp [unnamed]
    · cases fill : fillOf runtime row with
      | none => simp [unnamed]
      | some fill => simp [unnamed, Replay.emit]

theorem run_points (events : List (Int × ReplayEvent)) (replay : Replay) :
    (events.foldl (Replay.step runtime) replay).points = [] ↔
      replay.points = [] ∧ ∀ event ∈ events, Silent runtime event.2 := by
  -- Induction on the events: once there is a point, there is one at the end.
  induction events generalizing replay with
  | nil => simp
  | cons event rest ih => rw [List.foldl_cons, ih, step_points, List.forall_mem_cons, and_assoc]

/-- Histories without a mark, and trades none of which is a fill with a second. -/
def Unmarkable (runtime : Runtime) (trades : List Row) (histories : List (Text × List Mark)) : Prop :=
  (∀ history ∈ histories, history.2 = []) ∧
    ∀ row ∈ trades, (tradeSecond runtime row).isSome = true → Unfillable runtime row

theorem buildMarkReplayPoints_nil {trades : List Row} {histories : List (Text × List Mark)} :
    (buildMarkReplayPoints runtime trades histories).points = [] ↔ Unmarkable runtime trades histories := by
  rw [buildMarkReplayPoints, run_points, timeline]
  simp only [true_and, List.mem_insertionSort, List.mem_append]
  constructor
  · intro quiet
    constructor
    · intro history member
      rw [List.eq_nil_iff_forall_not_mem]
      intro mark inside
      exact quiet (mark.timestamp, .mark history.1 mark.price)
        (Or.inr (List.mem_flatMap.mpr ⟨history, member, List.mem_map_of_mem inside⟩))
    · intro row member timed
      obtain ⟨second, read⟩ := Option.isSome_iff_exists.mp timed
      exact quiet (second, .trade row)
        (Or.inl (List.mem_filterMap.mpr ⟨row, member, by rw [read]; rfl⟩))
  · intro unmarkable event member
    rcases member with fill | mark
    · obtain ⟨row, among, same⟩ := List.mem_filterMap.mp fill
      obtain ⟨second, read, rfl⟩ := Option.map_eq_some_iff.mp same
      exact unmarkable.2 row among (by rw [read]; rfl)
    · obtain ⟨history, among, inside⟩ := List.mem_flatMap.mp mark
      rw [unmarkable.1 history among] at inside
      cases inside

theorem replayDrawdown_nil {replay : Replay} (none : replay.points = []) (base : Option ℚ) :
    ∃ drawdown, replayDrawdown replay base = .ok drawdown := by
  rw [replayDrawdown, none]
  exact ⟨_, rfl⟩

theorem replayDrawdown_observed {replay : Replay} {base : Option ℚ} {drawdown : Drawdown Int}
    (some_ : replay.points ≠ []) (computed : replayDrawdown replay base = .ok drawdown) :
    drawdown.mddAvailable = true := by
  have scanned := ok_of_mapError computed
  have tracks := Scan.run_tracks (replay.points.map fun point => (⟨point.value, some point.timestamp⟩ : Point Int))
  unfold maxDrawdown at scanned
  simp only [Bind.bind, Except.bind] at scanned
  split at scanned
  · cases scanned
  obtain rfl := Except.ok.inj scanned
  show (Scan.run _).observed = true
  rw [tracks.observed]
  simp [some_]

end Points

/-! ## The gates of a payload -/

def Payload.Figured (payload : Payload) : Prop := payload.mddAvailable = true ∨ payload.mddUsd ≠ none ∨ payload.mddPct ≠ none

/-- What a payload says of risk, over its inputs. -/
structure Gated (runtime : Runtime) (now : Int) (inputs : MddInputs) (payload : Payload) : Prop where
  proven : payload.Figured → Sound runtime (latestSecond now) inputs ∧ wholeHistory inputs
  replayed : payload.Figured → ∀ replay ∈ payload.markReplay, replay.incompleteReasons = []
  withheld : payload.mddAvailable = false → payload.mddUsd = none ∧ payload.mddPct = none
  percentage : payload.mddPercentageAvailable = payload.mddPct.isSome
  currency : payload.mddPct ≠ none → ∃ currency, payload.quoteCurrency = some currency ∧
    payload.equityBaseCurrency = some currency

theorem figured_available {payload : Payload} (figured : payload.Figured)
    (withheld : payload.mddAvailable = false → payload.mddUsd = none ∧ payload.mddPct = none) :
    payload.mddAvailable = true := by
  by_contra hidden
  obtain ⟨usd, pct⟩ := withheld (Bool.not_eq_true _ ▸ hidden)
  rcases figured with available | dollars | percentage
  · exact hidden available
  · exact dollars usd
  · exact percentage pct

section Gates

variable {runtime : Runtime} {now : Int} {inputs : MddInputs} {request : BaseRequest} {maxPoints : Int} {payload : Payload}

theorem applyHistoryCoverage_replays : ∀ replay ∈ (applyHistoryCoverage inputs payload).markReplay,
    ∃ before ∈ payload.markReplay, replay.incompleteReasons = before.incompleteReasons := by
  intro replay member
  have kept : ∀ payload replay, replay ∈ (applyCurrencyBoundary payload).markReplay →
      ∃ before ∈ payload.markReplay, replay.incompleteReasons = before.incompleteReasons := by
    intro payload replay member
    unfold applyCurrencyBoundary at member
    dsimp only at member
    split at member
    · obtain ⟨before, here, rfl⟩ := Option.map_eq_some_iff.mp member
      exact ⟨before, here, rfl⟩
    · exact ⟨replay, member, rfl⟩
  unfold applyHistoryCoverage at member
  dsimp only at member
  obtain ⟨before, here, same⟩ := kept _ _ member
  refine ⟨before, ?_, same⟩
  split at here <;> exact here

/-- Behind the gates a figure is one of proven histories, that was there before them. -/
theorem applyHistoryCoverage_gated {quality : Quality}
    (reported : sourceQuality runtime (latestSecond now) inputs = .ok quality)
    (ofQuality : payload.mddSourceQuality = quality)
    (withheld : payload.mddAvailable = false → payload.mddUsd = none ∧ payload.mddPct = none)
    (replayed : payload.mddAvailable = true → ∀ replay ∈ payload.markReplay, replay.incompleteReasons = []) :
    Gated runtime now inputs (applyHistoryCoverage inputs payload) := by
  obtain ⟨percentage, currency⟩ := @applyHistoryCoverage_currency inputs payload
  by_cases proven : wholeHistory inputs ∧ invalidReasons payload.mddSourceQuality = []
  · obtain ⟨usd, available, pct⟩ := applyHistoryCoverage_whole proven.1 proven.2
    have withheld' : (applyHistoryCoverage inputs payload).mddAvailable = false →
        (applyHistoryCoverage inputs payload).mddUsd = none ∧ (applyHistoryCoverage inputs payload).mddPct = none := by
      intro hidden
      obtain ⟨noUsd, noPct⟩ := withheld (available ▸ hidden)
      exact ⟨usd.trans noUsd, pct noPct⟩
    have sound : Sound runtime (latestSecond now) inputs := by
      apply sourceQuality_valid_iff.mp
      refine ⟨quality, reported, ?_⟩
      -- An invalid report has a reason, and no reason passed the gate.
      by_contra invalid
      exact invalidReasons_ne_nil reported (Bool.not_eq_true _ ▸ invalid) (ofQuality ▸ proven.2)
    refine ⟨fun _ => ⟨sound, proven.1⟩, fun figured => ?_, withheld', percentage, currency⟩
    intro replay member
    obtain ⟨before, here, same⟩ := applyHistoryCoverage_replays replay member
    exact same.trans (replayed (available ▸ figured_available figured withheld') before here)
  · have figures := applyHistoryCoverage_withheld (not_and_or.mp proven)
    have available : (applyHistoryCoverage inputs payload).mddAvailable = false := congrArg Figures.mddAvailable figures
    have gone : (applyHistoryCoverage inputs payload).mddUsd = none ∧ (applyHistoryCoverage inputs payload).mddPct = none :=
      ⟨congrArg Figures.mddUsd figures, congrArg Figures.mddPct figures⟩
    have hidden : ¬(applyHistoryCoverage inputs payload).Figured := by
      intro figured
      have shown := figured_available figured fun _ => gone
      rw [available] at shown
      cases shown
    exact ⟨fun figured => absurd figured hidden, fun figured => absurd figured hidden, fun _ => gone, percentage, currency⟩

theorem buildHistoricalMddPayload_gated
    (built : buildHistoricalMddPayload runtime now inputs request maxPoints = .ok payload) :
    Gated runtime now inputs payload := by
  obtain ⟨quality, base, raw, reported, ofQuality, noReplay, computed, rfl⟩ := build_ok built
  obtain ⟨seen, priced, nothing⟩ := drawdownOf_available computed
  apply applyHistoryCoverage_gated reported ofQuality
  · intro hidden
    have none_ : historicalPoints runtime now (calculationInputs inputs quality) = [] := by
      by_contra points
      rw [seen.mpr points] at hidden
      cases hidden
    refine ⟨?_, nothing none_⟩
    by_contra usd
    exact priced.mp (Option.isSome_iff_ne_none.mpr usd) none_
  · intro _ replay member
    rw [noReplay] at member
    cases member

end Gates

/-! ## The paths without a replay -/

section Paths

variable (runtime : Runtime) (now : Int) (priceHistory : PriceRequest → Except PriceFailure Row)
variable (replayRequest : ReplayRequest)

/-- No trade of a token has a second, the request for prices fails, or nothing can be marked. -/
def FallsBack (events : List Row) : Prop :=
  replayTimes runtime replayRequest events = [] ∨
  (∃ kind, priceHistory (priceRequest runtime now replayRequest events) = .error (.failed kind)) ∨
  ∃ answer histories, priceHistory (priceRequest runtime now replayRequest events) = .ok answer ∧
    replayedHistories runtime now replayRequest answer events = .ok histories ∧
    Unmarkable runtime (replayTrades runtime replayRequest events) histories

variable {runtime now priceHistory replayRequest}
variable {inputs : MddInputs} {request : BaseRequest} {maxPoints : Int} {events : List Row} {base : Payload}
variable {payload : MarkReplayPayload}

theorem replayEvents_fallBack (falls : FallsBack runtime now priceHistory replayRequest events) :
    ∃ payload report, replayEvents runtime now priceHistory inputs maxPoints replayRequest events base = .ok payload ∧
      payload.toPayload = base.fallBack report := by
  unfold replayEvents
  by_cases times : replayTimes runtime replayRequest events = []
  · exact ⟨_, _, if_pos times, rfl⟩
  · simp only [if_neg times]
    rcases falls with none_ | ⟨kind, failed⟩ | ⟨answer, histories, answered, read, unmarkable⟩
    · exact absurd none_ times
    · rw [failed]
      exact ⟨_, _, rfl, rfl⟩
    · have points := buildMarkReplayPoints_nil.mpr unmarkable
      obtain ⟨drawdown, computed⟩ := replayDrawdown_nil points base.equityBaseUsd
      rw [answered]
      simp only [replayHistories, read, computed, if_pos points]
      exact ⟨_, _, rfl, rfl⟩

theorem replayEvents_replayed
    (returned : replayEvents runtime now priceHistory inputs maxPoints replayRequest events base = .ok payload)
    (replays : ¬FallsBack runtime now priceHistory replayRequest events) :
    ∃ histories replay drawdown, drawdown.mddAvailable = true ∧ payload.toPayload = applyHistoryCoverage inputs
      (replayedPayload runtime inputs replayRequest events histories replay base drawdown) := by
  rw [FallsBack, not_or, not_or] at replays
  obtain ⟨times, noFailure, markable⟩ := replays
  simp only [replayEvents, if_neg times] at returned
  cases answered : priceHistory (priceRequest runtime now replayRequest events) with
  | error failure =>
    cases failure with
    | cancelled =>
      rw [answered] at returned
      cases returned
    | failed kind => exact absurd ⟨kind, answered⟩ noFailure
  | ok answer =>
    rw [answered] at returned
    simp only [replayHistories] at returned
    cases read : replayedHistories runtime now replayRequest answer events with
    | error failure =>
      rw [read] at returned
      cases returned
    | ok histories =>
      rw [read] at returned
      simp only at returned
      split at returned
      · cases returned
      rename_i drawdown computed
      split at returned
      · rename_i points
        exact absurd ⟨answer, histories, answered, read, buildMarkReplayPoints_nil.mp points⟩ markable
      · rename_i points
        obtain rfl := Except.ok.inj returned
        exact ⟨histories, _, drawdown, replayDrawdown_observed points computed, rfl⟩

theorem replayedPayload_gated {quality : Quality} {histories : List (Text × List Mark)} {replay : Replay}
    {drawdown : Drawdown Int} (reported : sourceQuality runtime (latestSecond now) inputs = .ok quality)
    (ofQuality : base.mddSourceQuality = quality) (observed : drawdown.mddAvailable = true) :
    Gated runtime now inputs (applyHistoryCoverage inputs
      (replayedPayload runtime inputs replayRequest events histories replay base drawdown)) := by
  apply applyHistoryCoverage_gated reported
  · unfold replayedPayload
    dsimp only
    split <;> exact ofQuality
  · intro hidden
    unfold replayedPayload at hidden ⊢
    dsimp only at hidden ⊢
    split at hidden
    · rename_i incomplete
      rw [if_pos incomplete]
      exact ⟨rfl, rfl⟩
    · rw [show drawdown.mddAvailable = false from hidden] at observed
      cases observed
  · intro available replay' member
    unfold replayedPayload at available member
    dsimp only at available member
    split at available
    · cases available
    · rename_i complete
      rw [if_neg complete] at member
      obtain rfl := Option.some.inj member
      exact not_not.mp complete

/-- A payload without a replay says what it should of risk unless the history gave a percentage. -/
theorem fallBack_gated {report : MarkReplay} (gated : Gated runtime now inputs base) :
    Gated runtime now inputs (base.fallBack report) ↔ base.mddPct = none := by
  constructor
  · intro fallen
    have flag : base.mddPercentageAvailable = false := fallen.percentage
    rw [gated.percentage] at flag
    simpa using flag
  · intro none_
    have hidden : ¬(base.fallBack report).Figured := by
      rintro (available | usd | pct)
      · cases available
      · exact usd rfl
      · exact pct rfl
    refine ⟨fun figured => absurd figured hidden, fun figured => absurd figured hidden, fun _ => ⟨rfl, rfl⟩, ?_,
      fun pct => absurd rfl pct⟩
    have flag := gated.percentage
    rw [none_] at flag
    exact flag

theorem invalid_gated (gated : Gated runtime now inputs base) {quality : Quality} {report : MarkReplay}
    (reported : sourceQuality runtime (latestSecond now) inputs = .ok quality)
    (ofQuality : base.mddSourceQuality = quality) (invalid : base.mddSourceQuality.valid = false) :
    Gated runtime now inputs { base with
      requestedMddMethod := some markReplayMethod
      markReplay := some report
      fallbackV2 := some base.observed } := by
  have unsound : ¬base.Figured := by
    intro figured
    obtain ⟨other, again, valid, _⟩ := (gated.proven figured).1.report
    obtain rfl : quality = other := Except.ok.inj (reported.symm.trans again)
    rw [ofQuality, valid] at invalid
    cases invalid
  exact ⟨fun figured => absurd figured unsound, fun figured => absurd figured unsound, gated.withheld, gated.percentage,
    gated.currency⟩

end Paths

/-! ## When a history gives a percentage -/

section Percentage

variable (runtime : Runtime) (now : Int) (request : BaseRequest) (inputs : MddInputs)

/-- Sound rows of whole histories, some result, one currency and a positive base. -/
structure HasPercentage : Prop where
  sound : Sound runtime (latestSecond now) inputs
  whole : wholeHistory inputs
  held : inputs.closedPositions ≠ [] ∨ inputs.openPositions ≠ []
  hashed : hashable runtime inputs = true
  currency : ∃ currency, sourceEconomicsCurrency inputs = some currency ∧
    equityCurrency request.equityBaseCurrency request.equityBaseUsd.isSome (some currency) = .ok (some currency)
  base : ∃ base, equityBase request (.finite (max (capitalFrom runtime inputs) (boughtFrom runtime inputs))) = .ok base ∧
    0 < base.1

variable {runtime now request inputs}

theorem drawdownOf_pct {points : List HistoricalPoint} {values : List ℚ} (base : ℚ)
    (finite : points.map HistoricalPoint.value = values.map .finite) :
    ∃ drawdown, drawdownOf points base = .ok drawdown ∧ (drawdown.mddPct ≠ none ↔ points ≠ [] ∧ 0 < base) := by
  obtain ⟨read, exactly, shown⟩ := finitePoints finite
  have empty : read = [] ↔ points = [] := by
    rw [← List.length_eq_zero_iff, Result.mapM_length exactly, List.length_eq_zero_iff]
  obtain ⟨drawdown, scanned, nothing, observed⟩ := maxDrawdown_figures read base
  refine ⟨drawdown, ?_, ?_⟩
  · unfold drawdownOf
    rw [exactly]
    show (maxDrawdown read _).mapError Failure.invalid = _
    rw [scanned]
    rfl
  · by_cases none_ : read = []
    · have pct : drawdown.mddPct = none := congrArg Figures.mddPct (nothing none_)
      simp [pct, empty.mp none_]
    · obtain ⟨_, _, positive, other⟩ := observed none_
      by_cases based : 0 < base
      · obtain ⟨pct, here, _⟩ := positive based
        simp [here, based, empty.not.mp none_]
      · simp [other based, based]

theorem hasPercentage_iff {maxPoints : Int} :
    (∃ payload, buildHistoricalMddPayload runtime now inputs request maxPoints = .ok payload ∧ payload.mddPct ≠ none) ↔
      HasPercentage runtime now request inputs := by
  have gatePct : ∀ (basis : Option Text) (drawdown : Drawdown Int), (gate inputs basis drawdown.figures).mddPct ≠ none ↔
      wholeHistory inputs ∧ (∃ currency, sourceEconomicsCurrency inputs = some currency ∧ basis = some currency) ∧
        drawdown.mddPct ≠ none := by
    intro basis drawdown
    rw [wholeHistory_iff]
    cases source : sourceEconomicsCurrency inputs with
    | none => simp [gate, source]
    | some currency =>
      simp only [gate, source, Drawdown.figures]
      by_cases whole : sourcesWith inputs .limitReached = [] ∧ sourcesWith inputs .notRequested = [] ∧
          sourcesWith inputs .coverageUnproven = []
      · by_cases same : some currency = basis
        · simp [whole, ← same]
        · have other : basis ≠ some currency := fun equal => same equal.symm
          simp [whole, same, other]
      · simp [whole]
  have points : ∀ sound : Sound runtime (latestSecond now) inputs, historicalPoints runtime now inputs ≠ [] ↔
      inputs.closedPositions ≠ [] ∨ inputs.openPositions ≠ [] := by
    intro sound
    rw [← @curveOf_ne_nil runtime now inputs, Ne, Ne, ← @List.map_eq_nil_iff _ _ HistoricalPoint.value,
      (sound_runs sound).2, List.map_eq_nil_iff]
  constructor
  · rintro ⟨payload, built, pct⟩
    obtain ⟨sound, whole⟩ := (buildHistoricalMddPayload_gated built).proven (Or.inr (Or.inr pct))
    have shape := build_sound sound request maxPoints
    rw [built] at shape
    simp only [Bind.bind, Except.bind] at shape
    cases basis : equityCurrency request.equityBaseCurrency request.equityBaseUsd.isSome
        (sourceEconomicsCurrency inputs) with
    | error failure =>
      rw [basis] at shape
      cases shape
    | ok basis' =>
      rw [basis] at shape
      simp only at shape
      split at shape
      · rename_i fine
        cases based : equityBase request (.finite (max (capitalFrom runtime inputs) (boughtFrom runtime inputs))) with
        | error failure =>
          rw [based] at shape
          cases shape
        | ok base =>
          obtain ⟨drawdown, computed, pct'⟩ := drawdownOf_pct base.1 (sound_runs sound).2
          rw [based] at shape
          dsimp only at shape
          rw [computed] at shape
          have figures : payload.figures = gate inputs basis' drawdown.figures :=
            congrArg Prod.fst (Except.ok.inj shape)
          have shown : (gate inputs basis' drawdown.figures).mddPct ≠ none := by
            rw [← figures]
            exact pct
          obtain ⟨_, ⟨currency, source, rfl⟩, some_⟩ := (gatePct _ _).mp shown
          obtain ⟨held, positive⟩ := pct'.mp some_
          exact ⟨sound, whole, (points sound).mp held, fine, ⟨currency, source, source ▸ basis⟩, ⟨base, based, positive⟩⟩
      · cases shape
  · intro measured
    obtain ⟨currency, source, basis⟩ := measured.currency
    obtain ⟨base, based, positive⟩ := measured.base
    obtain ⟨drawdown, computed, pct⟩ := drawdownOf_pct base.1 (sound_runs measured.sound).2
    have shape := build_sound measured.sound request maxPoints
    simp only [Bind.bind, Except.bind, source, basis, measured.hashed, based, computed, if_true] at shape
    cases built : buildHistoricalMddPayload runtime now inputs request maxPoints with
    | error failure =>
      rw [built] at shape
      cases shape
    | ok payload =>
      rw [built] at shape
      have figures : payload.figures = gate inputs (some currency) drawdown.figures :=
        congrArg Prod.fst (Except.ok.inj shape)
      refine ⟨payload, rfl, ?_⟩
      show payload.figures.mddPct ≠ none
      rw [figures]
      exact (gatePct _ _).mpr ⟨measured.whole, ⟨currency, source, rfl⟩,
        pct.mpr ⟨(points measured.sound).mpr measured.held, positive⟩⟩

end Percentage

/-! ## The payloads of a wallet -/

section Wallet

variable (runtime : Runtime) (now : Int) (provider : Provider) (limits : InputLimits) (wallet : Text)

/-- What a payload says of risk, over whatever the provider served. -/
structure RiskProven (payload : Payload) : Prop where
  proven : payload.Figured → ∃ inputs, fetchMddInputs runtime now provider limits wallet = .ok inputs ∧
    Sound runtime (latestSecond now) inputs ∧ ∀ source, 0 < limits.limit source ∧
      ∃ pages, Walk (provider.loader inputs.wallet source) pages none ∧ inputs.rows source = rowsOf pages
  replayed : payload.Figured → ∀ replay ∈ payload.markReplay, replay.incompleteReasons = []
  withheld : payload.mddAvailable = false → payload.mddUsd = none ∧ payload.mddPct = none
  percentage : payload.mddPercentageAvailable = payload.mddPct.isSome
  currency : payload.mddPct ≠ none → ∃ currency, payload.quoteCurrency = some currency ∧
    payload.equityBaseCurrency = some currency

variable {runtime now provider limits wallet}
variable {priceHistory : PriceRequest → Except PriceFailure Row} {replayRequest : ReplayRequest}
variable {inputs : MddInputs} {request : BaseRequest} {maxPoints : Int}

theorem Gated.riskProven {payload : Payload} (gated : Gated runtime now inputs payload)
    (fetched : fetchMddInputs runtime now provider limits wallet = .ok inputs) :
    RiskProven runtime now provider limits wallet payload where
  proven figured := ⟨inputs, fetched, (gated.proven figured).1, fetchMddInputs_whole fetched (gated.proven figured).2⟩
  replayed := gated.replayed
  withheld := gated.withheld
  percentage := gated.percentage
  currency := gated.currency

theorem build_quality {payload : Payload}
    (built : buildHistoricalMddPayload runtime now inputs request maxPoints = .ok payload) :
    sourceQuality runtime (latestSecond now) inputs = .ok payload.mddSourceQuality := by
  obtain ⟨quality, base, raw, reported, ofQuality, _, _, rfl⟩ := build_ok built
  have kept : ∀ payload, (applyCurrencyBoundary payload).mddSourceQuality = payload.mddSourceQuality := by
    intro payload
    unfold applyCurrencyBoundary
    dsimp only
    split <;> rfl
  rw [reported, ← ofQuality]
  unfold applyHistoryCoverage
  dsimp only
  rw [kept]
  split <;> rfl

theorem userMddPayloadV2_ok {payload : Payload}
    (returned : userMddPayloadV2 runtime now provider limits wallet request maxPoints = .ok payload) :
    ∃ inputs, fetchMddInputs runtime now provider limits wallet = .ok inputs ∧
      buildHistoricalMddPayload runtime now inputs request maxPoints = .ok payload := by
  unfold userMddPayloadV2 at returned
  simp only [Bind.bind, Except.bind] at returned
  split at returned
  · cases returned
  cases fetched : fetchMddInputs runtime now provider limits wallet with
  | error failure =>
    rw [fetched] at returned
    cases returned
  | ok inputs =>
    rw [fetched] at returned
    exact ⟨inputs, rfl, ok_of_mapError returned⟩

theorem userMddPayloadMarkReplay_ok {payload : MarkReplayPayload}
    (returned : userMddPayloadMarkReplay runtime now priceHistory request maxPoints replayRequest provider limits wallet =
      .ok payload) :
    ∃ inputs, fetchMddInputs runtime now provider limits wallet = .ok inputs ∧
      buildMarkReplayMddPayload runtime now priceHistory inputs request maxPoints replayRequest = .ok payload := by
  unfold userMddPayloadMarkReplay at returned
  simp only [Bind.bind, Except.bind] at returned
  split at returned
  · cases returned
  cases fetched : fetchMddInputs runtime now provider limits wallet with
  | error failure =>
    rw [fetched] at returned
    cases returned
  | ok inputs =>
    rw [fetched] at returned
    exact ⟨inputs, rfl, returned⟩

theorem equityCurrency_source {value source currency : Option Text} {supplied : Bool}
    (accepted : equityCurrency value supplied source = .ok currency) (other : Option Text) :
    ∃ currency, equityCurrency value supplied other = .ok currency := by
  unfold equityCurrency at accepted ⊢
  split at accepted
  · cases accepted
  · rename_i known
    exact ⟨_, if_neg known⟩

/-- Every path of the replay keeps the gates, but for one without a replay of a history with a percentage. -/
theorem buildMarkReplayMddPayload_gated {payload : MarkReplayPayload}
    (kept : ¬(HasPercentage runtime now request inputs ∧
      FallsBack runtime now priceHistory replayRequest (eventsOf runtime inputs)))
    (returned : buildMarkReplayMddPayload runtime now priceHistory inputs request maxPoints replayRequest = .ok payload) :
    Gated runtime now inputs payload.toPayload := by
  unfold buildMarkReplayMddPayload at returned
  cases built : buildHistoricalMddPayload runtime now inputs request maxPoints with
  | error failure =>
    rw [built] at returned
    cases returned
  | ok base =>
    rw [built] at returned
    have gated := buildHistoricalMddPayload_gated built
    have reported := build_quality built
    simp only at returned
    split at returned
    · rename_i invalid
      obtain rfl := Except.ok.inj returned
      exact invalid_gated gated reported rfl invalid
    · rw [canonicalTradeEvents_eq] at returned
      cases fine : hashable runtime inputs with
      | false =>
        simp only [fine] at returned
        cases returned
      | true =>
        simp only [fine, if_true] at returned
        by_cases falls : FallsBack runtime now priceHistory replayRequest (eventsOf runtime inputs)
        -- Only here can the flag outlive its percentage.
        · obtain ⟨payload', report, again, fallen⟩ := @replayEvents_fallBack runtime now priceHistory replayRequest inputs
            maxPoints (eventsOf runtime inputs) base falls
          obtain rfl : payload = payload' := Except.ok.inj (returned.symm.trans again)
          rw [fallen]
          apply (fallBack_gated gated).mpr
          by_contra pct
          exact kept ⟨hasPercentage_iff.mp ⟨base, built, pct⟩, falls⟩
        · obtain ⟨histories, replay, drawdown, observed, same⟩ := replayEvents_replayed returned falls
          rw [same]
          exact replayedPayload_gated reported rfl observed

/-- Risk is only reported from proven histories, by both payloads, exactly when no replay that is
not available follows a history with a percentage. -/
theorem userMddPayload_riskProven_iff :
    ((∀ payload, userMddPayloadV2 runtime now provider limits wallet request maxPoints = .ok payload →
        RiskProven runtime now provider limits wallet payload) ∧
      ∀ payload, userMddPayloadMarkReplay runtime now priceHistory request maxPoints replayRequest provider limits wallet =
        .ok payload → RiskProven runtime now provider limits wallet payload.toPayload) ↔
    ¬∃ inputs, fetchMddInputs runtime now provider limits wallet = .ok inputs ∧ HasPercentage runtime now request inputs ∧
      FallsBack runtime now priceHistory replayRequest (eventsOf runtime inputs) := by
  constructor
  · rintro ⟨_, replays⟩ ⟨inputs, fetched, measured, falls⟩
    obtain ⟨base, built, pct⟩ := (@hasPercentage_iff runtime now request inputs maxPoints).mpr measured
    have gated := buildHistoricalMddPayload_gated built
    -- The replay that falls back returns the history without its percentage.
    obtain ⟨payload, report, replayed, fallen⟩ := @replayEvents_fallBack runtime now priceHistory replayRequest inputs
      maxPoints (eventsOf runtime inputs) base falls
    obtain ⟨quality, reported, valid, _⟩ := measured.sound.report
    have sound : base.mddSourceQuality.valid = true := by
      rw [← Except.ok.inj (reported.symm.trans (build_quality built))]
      exact valid
    obtain ⟨currency, source, basis⟩ := measured.currency
    obtain ⟨accepted, known⟩ := equityCurrency_source basis none
    have returned : userMddPayloadMarkReplay runtime now priceHistory request maxPoints replayRequest provider limits
        wallet = .ok payload := by
      unfold userMddPayloadMarkReplay buildMarkReplayMddPayload
      rw [known, fetched]
      simp only [Except.mapError, Bind.bind, Except.bind, built, sound]
      rw [canonicalTradeEvents_eq, measured.hashed]
      exact replayed
    have flag := (replays payload returned).percentage
    rw [fallen] at flag
    have shown : base.mddPercentageAvailable = false := flag
    rw [gated.percentage] at shown
    exact pct (by simpa using shown)
  · intro kept
    constructor
    · intro payload returned
      obtain ⟨inputs, fetched, built⟩ := userMddPayloadV2_ok returned
      exact (buildHistoricalMddPayload_gated built).riskProven fetched
    · intro payload returned
      obtain ⟨inputs, fetched, built⟩ := userMddPayloadMarkReplay_ok returned
      refine (buildMarkReplayMddPayload_gated ?_ built).riskProven fetched
      rintro ⟨measured, falls⟩
      exact kept ⟨inputs, fetched, measured, falls⟩

end Wallet

/-! ## A history with a percentage and no prices -/

/-- A provider of the simultaneous trades, whose closed positions come in two pages. -/
def simultaneousProvider : Provider where
  loader _ source request :=
    let page := fun (rows : List Json) (next : Json) =>
      Except.ok (.obj [(text "data", .arr rows), (text "pagination", .obj [(text "next_cursor", next)])])
    match source, request.cursor with
    | .closedPositions, none => page (simultaneous.closedPositions.take 2) (.str (text "n"))
    | .closedPositions, some _ => page (simultaneous.closedPositions.drop 2) .null
    | source, _ => page (simultaneous.rows source) .null
  elapsed _ _ := 0

def simultaneousWallet : Text := text "0x00000000000000000000000000000000000000aa"

def unpriced (_ : PriceRequest) : Except PriceFailure Row := .error (.failed (text "PolymarketHTTPError"))

/-- The percentage is gone and its flag still says that there is one. -/
theorem userMddPayloadMarkReplay_unpriced :
    ¬∀ payload, userMddPayloadMarkReplay asciiRuntime 700 unpriced ⟨none, none⟩ 50 {} simultaneousProvider {}
      simultaneousWallet = .ok payload →
      RiskProven asciiRuntime 700 simultaneousProvider {} simultaneousWallet payload.toPayload := by
  intro proven
  have computed : ((userMddPayloadMarkReplay asciiRuntime 700 unpriced ⟨none, none⟩ 50 {} simultaneousProvider {}
      simultaneousWallet).toOption.any fun payload => payload.mddPercentageAvailable && payload.mddPct.isNone) = true := by
    decide +kernel
  cases returned : userMddPayloadMarkReplay asciiRuntime 700 unpriced ⟨none, none⟩ 50 {} simultaneousProvider {}
      simultaneousWallet with
  | error failure =>
    rw [returned] at computed
    cases computed
  | ok payload =>
    rw [returned] at computed
    obtain ⟨flag, gone⟩ := Bool.and_eq_true_iff.mp computed
    have same := (proven payload returned).percentage
    rw [flag, Option.isNone_iff_eq_none.mp gone] at same
    cases same

end MarketSentinel.Mdd
