import MarketSentinel.Library.Result
import MarketSentinel.Mdd.FeedOrder

/-! What a historical payload says.

A figure is published exactly for sound rows that were read to the end, with a result among
them. The capital statistics count a trade of two feeds once.
-/

set_option autoImplicit false

namespace MarketSentinel.Mdd

open Python RunningPeak Curve Feeds

/-! ## An invalid report has reasons -/

theorem set_ne_nil {κ α : Type} [DecidableEq κ] (d : Dict κ α) (key : κ) (value : α) : Dict.set d key value ≠ [] := by
  cases d with
  | nil => exact List.cons_ne_nil _ _
  | cons entry rest =>
    rw [Dict.set]
    split <;> exact List.cons_ne_nil _ _

theorem reasonsOf_ne_nil {issues : List (List Issue)} {row : List Issue} (member : row ∈ issues) (some_ : row ≠ []) :
    reasonsOf issues ≠ [] := by
  have names : issues.flatMap (fun issues => (issues.map Issue.name).insertionSort (· ≤ ·)) ≠ [] := by
    intro none
    have empty := List.flatMap_eq_nil_iff.mp none row member
    have length := (List.perm_insertionSort (· ≤ ·) (row.map Issue.name)).length_eq
    rw [empty, List.length_nil, List.length_map] at length
    exact some_ (List.length_eq_zero_iff.mp length.symm)
  unfold reasonsOf
  rcases List.eq_nil_or_concat (issues.flatMap fun issues => (issues.map Issue.name).insertionSort (· ≤ ·)) with
    none | ⟨first, last, split_⟩
  · exact absurd none names
  · dsimp only
    rw [split_, List.concat_eq_append, List.foldl_concat]
    exact set_ne_nil _ _ _

section Report

variable {runtime : Runtime} {latest : Int} {inputs : MddInputs}

theorem invalidReasons_ne_nil {quality : Quality} (reported : sourceQuality runtime latest inputs = .ok quality)
    (invalid : quality.valid = false) : invalidReasons quality ≠ [] := by
  unfold sourceQuality at reported
  split at reported
  · cases reported
  obtain rfl := Except.ok.inj reported
  obtain ⟨entry, member, counted⟩ := List.all_eq_false.mp invalid
  obtain ⟨source, among, rfl⟩ := List.mem_map.mp member
  have some_ : (sourceIssues runtime latest inputs source).countP (fun issues => !issues.isEmpty) ≠ 0 := by
    simpa [qualityOf] using counted
  obtain ⟨row, inside, issues⟩ := List.countP_pos_iff.mp (Nat.pos_of_ne_zero some_)
  have reasons := reasonsOf_ne_nil inside (by simpa using issues)
  intro none
  have nothing := List.flatMap_eq_nil_iff.mp none (source, qualityOf (sourceIssues runtime latest inputs source))
    (List.mem_map_of_mem among)
  exact reasons (List.map_eq_nil_iff.mp nothing)

end Report

/-! ## The gates -/

def wholeHistory (inputs : MddInputs) : Prop := ∀ source ∈ inputs.historyCoverage, source.2.status = .endOfResults

theorem wholeHistory_iff (inputs : MddInputs) : wholeHistory inputs ↔ sourcesWith inputs .limitReached = [] ∧
    sourcesWith inputs .notRequested = [] ∧ sourcesWith inputs .coverageUnproven = [] := by
  have none : ∀ status, sourcesWith inputs status = [] ↔ ∀ source ∈ inputs.historyCoverage, source.2.status ≠ status := by
    intro status
    simp [sourcesWith, List.map_eq_nil_iff, List.filter_eq_nil_iff]
  rw [none, none, none]
  constructor
  · intro whole
    refine ⟨?_, ?_, ?_⟩ <;>
    · intro source member
      rw [whole source member]
      decide
  · rintro ⟨capped, excluded, unproven⟩ source member
    cases status : source.2.status with
    | endOfResults => rfl
    | limitReached => exact absurd status (capped source member)
    | notRequested => exact absurd status (excluded source member)
    | coverageUnproven => exact absurd status (unproven source member)

section Gates

variable {inputs : MddInputs} {payload : Payload}

theorem applyHistoryCoverage_withheld (unproven : ¬wholeHistory inputs ∨ invalidReasons payload.mddSourceQuality ≠ []) :
    (applyHistoryCoverage inputs payload).figures = ⟨none, none, false⟩ := by
  have withheld : sourcesWith inputs .limitReached ≠ [] ∨ sourcesWith inputs .notRequested ≠ [] ∨
      sourcesWith inputs .coverageUnproven ≠ [] ∨ invalidReasons payload.mddSourceQuality ≠ [] := by
    rw [wholeHistory_iff] at unproven
    tauto
  unfold applyHistoryCoverage
  dsimp only
  rw [if_pos withheld]
  show (applyCurrencyBoundary _).published.1 = _
  rw [applyCurrencyBoundary_published]
  simp [Payload.withheld, Drawdown.figures]

theorem applyHistoryCoverage_whole (whole : wholeHistory inputs) (valid : invalidReasons payload.mddSourceQuality = []) :
    (applyHistoryCoverage inputs payload).mddUsd = payload.mddUsd ∧
      (applyHistoryCoverage inputs payload).mddAvailable = payload.mddAvailable ∧
      (payload.mddPct = none → (applyHistoryCoverage inputs payload).mddPct = none) := by
  obtain ⟨capped, excluded, unproven⟩ := (wholeHistory_iff inputs).mp whole
  have kept : ¬(sourcesWith inputs .limitReached ≠ [] ∨ sourcesWith inputs .notRequested ≠ [] ∨
      sourcesWith inputs .coverageUnproven ≠ [] ∨ invalidReasons payload.mddSourceQuality ≠ []) := by
    simp [capped, excluded, unproven, valid]
  unfold applyHistoryCoverage
  dsimp only
  rw [if_neg kept]
  have shown := fun payload => congrArg Prod.fst (applyCurrencyBoundary_published payload)
  refine ⟨congrArg Figures.mddUsd (shown _), congrArg Figures.mddAvailable (shown _), fun none => ?_⟩
  refine (congrArg Figures.mddPct (shown _)).trans ?_
  dsimp only
  rw [none, ite_self]

theorem applyCurrencyBoundary_basis (payload : Payload) :
    (applyCurrencyBoundary payload).quoteCurrency = payload.quoteCurrency ∧
      (applyCurrencyBoundary payload).equityBaseCurrency = payload.equityBaseCurrency ∧
      (applyCurrencyBoundary payload).mddPercentageAvailable = (applyCurrencyBoundary payload).mddPct.isSome := by
  unfold applyCurrencyBoundary
  dsimp only
  split <;> exact ⟨rfl, rfl, rfl⟩

/-- A percentage is of a base in the currency of its source, and is said to be there when it is. -/
theorem applyHistoryCoverage_currency :
    (applyHistoryCoverage inputs payload).mddPercentageAvailable = (applyHistoryCoverage inputs payload).mddPct.isSome ∧
      ((applyHistoryCoverage inputs payload).mddPct ≠ none → ∃ currency,
        (applyHistoryCoverage inputs payload).quoteCurrency = some currency ∧
        (applyHistoryCoverage inputs payload).equityBaseCurrency = some currency) := by
  have bounded : ∀ payload, (applyCurrencyBoundary payload).mddPct ≠ none → ∃ currency,
      (applyCurrencyBoundary payload).quoteCurrency = some currency ∧
      (applyCurrencyBoundary payload).equityBaseCurrency = some currency := by
    intro payload some_
    obtain ⟨quote, basis, _⟩ := applyCurrencyBoundary_basis payload
    have shown : (applyCurrencyBoundary payload).mddPct = _ :=
      congrArg (fun published => published.1.mddPct) (applyCurrencyBoundary_published payload)
    rw [shown] at some_
    dsimp only at some_
    split at some_
    · rename_i comparable
      rw [Bool.and_eq_true, Option.isSome_iff_exists] at comparable
      obtain ⟨⟨currency, found⟩, same⟩ := comparable
      exact ⟨currency, quote.trans found, basis.trans ((of_decide_eq_true same).symm.trans found)⟩
    · exact absurd rfl some_
  unfold applyHistoryCoverage
  dsimp only
  exact ⟨(applyCurrencyBoundary_basis _).2.2, bounded _⟩

end Gates

/-! ## The published figure -/

section Published

variable {runtime : Runtime} {now : Int} {inputs : MddInputs} {request : BaseRequest} {maxPoints : Int} {payload : Payload}

/-- A payload is a computed drawdown behind the gates. -/
theorem build_ok (built : buildHistoricalMddPayload runtime now inputs request maxPoints = .ok payload) :
    ∃ quality base raw, sourceQuality runtime (latestSecond now) inputs = .ok quality ∧ raw.mddSourceQuality = quality ∧
      raw.markReplay = none ∧
      drawdownOf (historicalPoints runtime now (calculationInputs inputs quality)) base = .ok raw.toDrawdown ∧
      payload = applyHistoryCoverage inputs raw := by
  unfold buildHistoricalMddPayload at built
  simp only [Bind.bind, Except.bind] at built
  split at built
  · cases built
  split at built
  · cases built
  rename_i quality reported
  split at built
  · cases built
  split at built
  · cases built
  rename_i base _
  split at built
  · cases built
  rename_i drawdown computed
  exact ⟨quality, base.1, _, reported, rfl, rfl, computed, (Except.ok.inj built).symm⟩

theorem drawdownOf_available {points : List HistoricalPoint} {base : ℚ} {drawdown : Drawdown Int}
    (computed : drawdownOf points base = .ok drawdown) :
    (drawdown.mddAvailable = true ↔ points ≠ []) ∧ (drawdown.mddUsd.isSome = true ↔ points ≠ []) ∧
      (points = [] → drawdown.mddPct = none) := by
  unfold drawdownOf at computed
  simp only [Bind.bind, Except.bind] at computed
  split at computed
  · cases computed
  rename_i read exactly
  have length := Result.mapM_length exactly
  have empty : read = [] ↔ points = [] := by
    rw [← List.length_eq_zero_iff, length, List.length_eq_zero_iff]
  obtain ⟨result, scanned, nothing, observed⟩ := maxDrawdown_figures read base
  rw [scanned] at computed
  obtain rfl := Except.ok.inj computed
  by_cases unread : read = []
  · have figures := nothing unread
    have usd : result.mddUsd = none := congrArg Figures.mddUsd figures
    have available : result.mddAvailable = false := congrArg Figures.mddAvailable figures
    have pct : result.mddPct = none := congrArg Figures.mddPct figures
    simp [usd, available, pct, empty.mp unread]
  · obtain ⟨available, ⟨usd, dollars, _⟩, _⟩ := observed unread
    have some_ : points ≠ [] := fun other => unread (empty.mpr other)
    simp [available, dollars, some_]

theorem curveOf_ne_nil : curveOf runtime now inputs ≠ [] ↔ inputs.closedPositions ≠ [] ∨ inputs.openPositions ≠ [] := by
  have none : ∀ changes : List ℚ, levels 0 changes = [] ↔ changes = [] := by
    intro changes
    cases changes <;> simp [levels]
  have closed : closedInOrder runtime now inputs.closedPositions = [] ↔ inputs.closedPositions = [] := by
    rw [← List.length_eq_zero_iff, (closedInOrder_perm inputs.closedPositions).length_eq, List.length_map,
      List.length_eq_zero_iff]
  have opened : openTail runtime inputs = [] ↔ inputs.openPositions = [] := by
    unfold openTail
    cases inputs.openPositions <;> simp
  rw [curveOf, Ne, List.append_eq_nil_iff, none, List.map_eq_nil_iff, closed, opened, not_and_or]

/-- Unsound rows, or a source that was not read to its end, withhold every figure. -/
theorem build_withheld (built : buildHistoricalMddPayload runtime now inputs request maxPoints = .ok payload)
    (unproven : ¬(Sound runtime (latestSecond now) inputs ∧ wholeHistory inputs)) :
    payload.figures = ⟨none, none, false⟩ := by
  obtain ⟨quality, base, raw, reported, ofQuality, _, _, rfl⟩ := build_ok built
  apply applyHistoryCoverage_withheld
  by_cases whole : wholeHistory inputs
  · right
    rw [ofQuality]
    apply invalidReasons_ne_nil reported
    rw [← Bool.not_eq_true]
    exact fun valid => unproven ⟨sourceQuality_valid_iff.mp ⟨quality, reported, valid⟩, whole⟩
  · exact Or.inl whole

/-- A figure is published exactly when the rows are sound, every source that was read was read to
its end, and there is a result; a percentage only of a base in the same currency. -/
theorem buildHistoricalMddPayload_published
    (built : buildHistoricalMddPayload runtime now inputs request maxPoints = .ok payload) :
    (payload.mddAvailable = true ↔ Sound runtime (latestSecond now) inputs ∧ wholeHistory inputs ∧
      (inputs.closedPositions ≠ [] ∨ inputs.openPositions ≠ [])) ∧
    (payload.mddUsd.isSome = true ↔ payload.mddAvailable = true) ∧
    (payload.mddAvailable = false → payload.mddPct = none) ∧
    payload.mddPercentageAvailable = payload.mddPct.isSome ∧
    (payload.mddPct ≠ none → ∃ currency, payload.quoteCurrency = some currency ∧
      payload.equityBaseCurrency = some currency) := by
  have withheld := build_withheld built
  obtain ⟨quality, base, raw, reported, ofQuality, _, computed, rfl⟩ := build_ok built
  obtain ⟨percentage, currency⟩ := @applyHistoryCoverage_currency inputs raw
  by_cases proven : Sound runtime (latestSecond now) inputs ∧ wholeHistory inputs
  · obtain ⟨sound, whole⟩ := proven
    obtain ⟨quality', reported', valid, noReason⟩ := sound.report
    obtain rfl : quality = quality' := Except.ok.inj (reported.symm.trans reported')
    have all : calculationInputs inputs quality = inputs := if_pos valid
    obtain ⟨usd, available, pct⟩ := applyHistoryCoverage_whole whole (ofQuality ▸ noReason)
    rw [all] at computed
    obtain ⟨seen, priced, nothing⟩ := drawdownOf_available computed
    have some_ : historicalPoints runtime now inputs ≠ [] ↔ inputs.closedPositions ≠ [] ∨ inputs.openPositions ≠ [] := by
      rw [← @curveOf_ne_nil runtime now inputs, Ne, Ne, ← @List.map_eq_nil_iff _ _ HistoricalPoint.value,
        (sound_runs sound).2, List.map_eq_nil_iff]
    refine ⟨?_, ?_, fun hidden => pct (nothing ?_), percentage, currency⟩
    · rw [available, seen, some_]
      exact ⟨fun observed => ⟨sound, whole, observed⟩, fun published => published.2.2⟩
    · rw [usd, available, priced, seen]
    · rw [available] at hidden
      by_contra observed
      rw [seen.mpr observed] at hidden
      cases hidden
  · have figures := withheld proven
    have usd : (applyHistoryCoverage inputs raw).mddUsd = none := congrArg Figures.mddUsd figures
    have available : (applyHistoryCoverage inputs raw).mddAvailable = false := congrArg Figures.mddAvailable figures
    refine ⟨?_, ?_, fun _ => congrArg Figures.mddPct figures, percentage, currency⟩
    · rw [available]
      exact ⟨fun shown => absurd shown Bool.false_ne_true, fun published => absurd ⟨published.1, published.2.1⟩ proven⟩
    · rw [usd, available]
      simp

theorem buildHistoricalMddPayload_published_simultaneous :
    ∃ payload, buildHistoricalMddPayload asciiRuntime 700 simultaneous ⟨none, none⟩ 50 = .ok payload ∧
      payload.mddAvailable = true := by
  have computed : (buildHistoricalMddPayload asciiRuntime 700 simultaneous ⟨none, none⟩ 50).toOption.isSome = true := by
    decide +kernel
  cases built : buildHistoricalMddPayload asciiRuntime 700 simultaneous ⟨none, none⟩ 50 with
  | error failure =>
    rw [built] at computed
    cases computed
  | ok payload =>
    obtain ⟨available, _⟩ := buildHistoricalMddPayload_published built
    refine ⟨payload, rfl, available.mpr ⟨simultaneous_sound, ?_, Or.inl (List.cons_ne_nil _ _)⟩⟩
    exact fun source member => absurd member List.not_mem_nil

end Published

/-! ## The statistics of clean feeds -/

section Statistics

variable {runtime : Runtime} {activity trades : List Row} {stats : CapitalStats}

/-- The trades of clean feeds are counted as often as in the feed that has them most often, in
the order of their seconds, and their books balance. -/
theorem tradeCapitalStats_books (clean : ∀ row ∈ activity ++ trades, fieldIssues runtime row = [])
    (computed : tradeCapitalStats runtime activity trades = .ok stats) :
    ∃ events, canonicalTradeEvents runtime activity trades = .ok events ∧ stats.events = events.length ∧
      (∀ key, occurs (tradeKey runtime) key events =
        max (occurs (tradeKey runtime) key (canonicalTrades runtime activity))
          (occurs (tradeKey runtime) key (canonicalTrades runtime trades))) ∧
      (∀ row ∈ events, row ∈ activity ++ trades) ∧
      events.Pairwise (fun first second => tradeTimestamp runtime first ≤ tradeTimestamp runtime second) ∧
      stats.deployment.Books (events.map (tradeOf runtime (tradeAmount runtime))) := by
  unfold tradeCapitalStats at computed
  cases merged : canonicalTradeEvents runtime activity trades with
  | error failure =>
    rw [merged] at computed
    cases computed
  | ok events =>
    rw [merged] at computed
    obtain rfl := Except.ok.inj computed
    unfold canonicalTradeEvents at merged
    dsimp only at merged
    split at merged
    · cases merged
    obtain rfl := Except.ok.inj merged
    have perm := List.perm_insertionSort (fun first second => tradeTimestamp runtime first ≤ tradeTimestamp runtime second)
      (merge (tradeKey runtime) [canonicalTrades runtime activity, canonicalTrades runtime trades]).1
    have rows : ∀ row ∈ (merge (tradeKey runtime) [canonicalTrades runtime activity, canonicalTrades runtime trades]).1,
        row ∈ activity ++ trades := by
      intro row member
      obtain ⟨rows, among, inside⟩ := List.mem_flatten.mp (mem_flatten_of_merge member)
      rcases List.mem_pair.mp among with rfl | rfl
      · exact List.mem_append_left _ (List.mem_of_mem_filter inside)
      · exact List.mem_append_right _ (List.mem_of_mem_filter inside)
    have members := fun row member => rows row (perm.mem_iff.mp member)
    refine ⟨_, rfl, rfl, fun key => ?_, members, ?_, ?_⟩
    · have counted := @occurs_merge _ _ _ (tradeKey runtime)
        [canonicalTrades runtime activity, canonicalTrades runtime trades] key
      rw [occurs, (perm.map _).count_eq, ← occurs, counted]
      simp
    · have order : IsTrans Row fun a b => tradeTimestamp runtime a ≤ tradeTimestamp runtime b :=
        ⟨fun _ _ _ first second => first.trans second⟩
      have compares : Std.Total fun a b : Row => tradeTimestamp runtime a ≤ tradeTimestamp runtime b :=
        ⟨fun a b => le_total (tradeTimestamp runtime a) (tradeTimestamp runtime b)⟩
      exact List.pairwise_insertionSort (fun a b => tradeTimestamp runtime a ≤ tradeTimestamp runtime b) _
    · have books := run_books fun row member => tradeNotional_clean (clean row (members row member))
      exact { books with timeline := fun point member => books.timeline point (List.mem_of_mem_drop member) }

/-- One fill that both feeds report, and another one. -/
theorem tradeCapitalStats_books_simultaneous :
    ∃ (stats : CapitalStats) (events : List Row),
      tradeCapitalStats asciiRuntime [fields (tradeRow "x" "BUY")] (simultaneous.tradeRows.map fields) = .ok stats ∧
      stats.events = events.length ∧
      stats.deployment.Books (events.map (tradeOf asciiRuntime (tradeAmount asciiRuntime))) := by
  have clean : ∀ row ∈ [fields (tradeRow "x" "BUY")] ++ simultaneous.tradeRows.map fields,
      fieldIssues asciiRuntime row = [] := by decide +kernel
  have computed : (tradeCapitalStats asciiRuntime [fields (tradeRow "x" "BUY")]
      (simultaneous.tradeRows.map fields)).toOption.isSome = true := by decide +kernel
  cases found : tradeCapitalStats asciiRuntime [fields (tradeRow "x" "BUY")] (simultaneous.tradeRows.map fields) with
  | error failure =>
    rw [found] at computed
    cases computed
  | ok stats =>
    obtain ⟨events, _, counted, _, _, _, books⟩ := tradeCapitalStats_books clean found
    exact ⟨stats, events, rfl, counted, books⟩

end Statistics

end MarketSentinel.Mdd
