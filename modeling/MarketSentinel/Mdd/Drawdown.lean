import Mathlib.Data.List.MinMax
import Mathlib.Algebra.Order.Field.Basic
import Mathlib.Data.Rat.Defs
import Mathlib.Tactic.Positivity
import Mathlib.Tactic.Ring
import Mathlib.Tactic.Linarith
import MarketSentinel.Library.RunningPeak
import MarketSentinel.Library.Text

/-! Drawdown of a sampled PnL curve from a zero baseline.

One pass keeps the lowest trough of each running peak. Amounts are exact, so a
value is always finite and every division is the one of the formula.
-/

set_option autoImplicit false

namespace MarketSentinel.Mdd

open Python RunningPeak

/-- A sample; `Time` is whatever the feed put into the timestamp. -/
structure Point (Time : Type) where
  value : ℚ
  timestamp : Option Time
  deriving DecidableEq

structure Episode (Time : Type) where
  peakValue : ℚ
  troughValue : ℚ
  peakTimestamp : Option Time
  troughTimestamp : Option Time
  deriving DecidableEq

structure Percentage (Time : Type) where
  mddPct : Option ℚ
  pctDrawdownUsd : Option ℚ := none
  pctPeakValue : Option ℚ := none
  pctTroughValue : Option ℚ := none
  pctPeakTimestamp : Option Time := none
  pctTroughTimestamp : Option Time := none
  deriving DecidableEq

structure Drawdown (Time : Type) extends Percentage Time where
  mddUsd : Option ℚ
  mddAvailable : Bool
  peakValue : Option ℚ
  troughValue : Option ℚ
  peakTimestamp : Option Time
  troughTimestamp : Option Time
  drawdownEpisodes : List (Episode Time)
  deriving DecidableEq

variable {Time : Type}

def Episode.loss (episode : Episode Time) : ℚ := episode.peakValue - episode.troughValue

def episodeError : Text := text "Drawdown episodes must start at a nonnegative PnL peak."

def percentageOf (base peak trough : ℚ) : ℚ := (peak - trough) / (base + peak) * 100

/-- One episode; with a positive base the maximum so far is a number. -/
def percentageStep (base : Option ℚ) (result : Percentage Time) (episode : Episode Time) :
    Except Text (Percentage Time) :=
  if episode.peakValue < 0 ∨ episode.peakValue < episode.troughValue then .error episodeError
  else
    match base with
    | none => .ok result
    | some base =>
      if base ≤ 0 then .ok result
      else
        let pct := percentageOf base episode.peakValue episode.troughValue
        if ∀ maximum ∈ result.mddPct, maximum < pct then .ok {
          mddPct := some pct
          pctDrawdownUsd := some episode.loss
          pctPeakValue := some episode.peakValue
          pctTroughValue := some episode.troughValue
          pctPeakTimestamp := episode.peakTimestamp
          pctTroughTimestamp := episode.troughTimestamp }
        else .ok result

def percentageDrawdown (episodes : List (Episode Time)) (equityBaseUsd : Option ℚ) :
    Except Text (Percentage Time) :=
  episodes.foldlM (percentageStep equityBaseUsd)
    { mddPct := if equityBaseUsd.any fun base => decide (0 < base) then some 0 else none }

/-- The loop state; `active` is the last episode while its peak is the running one. -/
structure Scan (Time : Type) where
  peak : ℚ := 0
  peakTs : Option Time := none
  closed : List (Episode Time) := []
  active : Option (Episode Time) := none
  observed : Bool := false

def Scan.episodes (scan : Scan Time) : List (Episode Time) := scan.closed ++ scan.active.toList

def Scan.step (scan : Scan Time) (point : Point Time) : Scan Time :=
  let scan := { scan with observed := true }
  if scan.peak < point.value then { scan with
    peak := point.value
    peakTs := point.timestamp
    closed := scan.episodes
    active := none }
  else if point.value < scan.peak then
    match scan.active with
    | none => { scan with active := some ⟨scan.peak, point.value, scan.peakTs, point.timestamp⟩ }
    | some active =>
      if point.value < active.troughValue then { scan with
        active := some { active with troughValue := point.value, troughTimestamp := point.timestamp } }
      else scan
  else scan

def Scan.run (points : List (Point Time)) : Scan Time := points.foldl Scan.step {}

/-- The first episode of the greatest loss. -/
def largest (episodes : List (Episode Time)) : Option (Episode Time) := episodes.argmax Episode.loss

def maxDrawdown (points : List (Point Time)) (equityBaseUsd : Option ℚ) : Except Text (Drawdown Time) := do
  let scan := Scan.run points
  let percentage ← percentageDrawdown scan.episodes equityBaseUsd
  let maximum := largest scan.episodes
  return {
    mddUsd := match maximum with
      | some maximum => some (maximum.peakValue - maximum.troughValue)
      | none => if scan.observed then some 0 else none
    toPercentage := { percentage with mddPct := if scan.observed then percentage.mddPct else none }
    mddAvailable := scan.observed
    peakValue := maximum.map Episode.peakValue
    troughValue := maximum.map Episode.troughValue
    peakTimestamp := maximum.bind Episode.peakTimestamp
    troughTimestamp := maximum.bind Episode.troughTimestamp
    drawdownEpisodes := scan.episodes }

/-! ## The one-pass scan -/

def Episode.fall (episode : Episode Time) : ℚ × ℚ := (episode.peakValue, episode.troughValue)

/-- What the scan knows about the values it has read. -/
structure Scan.Tracks (scan : Scan Time) (values : List ℚ) : Prop where
  peak : scan.peak = values.foldl max 0
  summary : Summary (scan.episodes.map Episode.fall) (falls 0 values)
  active : ∀ episode ∈ scan.active, episode.peakValue = scan.peak ∧ episode.troughValue < scan.peak
  observed : scan.observed = !values.isEmpty

theorem Scan.start_tracks : Scan.Tracks ({} : Scan Time) [] :=
  ⟨rfl, ⟨by simp [Scan.episodes], by simp [falls]⟩, by simp, rfl⟩

theorem Scan.step_tracks {scan : Scan Time} {values : List ℚ} (tracks : scan.Tracks values) (point : Point Time) :
    (scan.step point).Tracks (values ++ [point.value]) := by
  have observed : (!(values ++ [point.value]).isEmpty) = true := by simp
  have ends : (values ++ [point.value]).foldl max 0 = max scan.peak point.value := by
    rw [List.foldl_append, ← tracks.peak]
    rfl
  have all : falls 0 (values ++ [point.value]) = falls 0 values ++ [(max scan.peak point.value, point.value)] := by
    rw [falls_concat, ← tracks.peak]
  unfold Scan.step
  dsimp only
  by_cases higher : scan.peak < point.value
  · rw [if_pos higher]
    have top : max scan.peak point.value = point.value := max_eq_right higher.le
    rw [top] at ends all
    refine ⟨ends.symm, ?_, by simp, observed.symm⟩
    rw [all]
    simpa [Scan.episodes] using tracks.summary.covered fun lower => absurd lower (lt_irrefl _)
  rw [if_neg higher]
  have top : max scan.peak point.value = scan.peak := max_eq_left (not_lt.mp higher)
  rw [top] at ends all
  by_cases lower : point.value < scan.peak
  · rw [if_pos lower]
    cases stage : scan.active with
    | none =>
      refine ⟨ends.symm, ?_, ?_, observed.symm⟩
      · rw [all]
        simpa [Scan.episodes, stage, Episode.fall] using tracks.summary.start lower
      · rintro episode ⟨⟩
        exact ⟨rfl, lower⟩
    | some active =>
      obtain ⟨start, below⟩ := tracks.active active stage
      have last : scan.episodes.map Episode.fall =
          scan.closed.map Episode.fall ++ [(scan.peak, active.troughValue)] := by
        simp [Scan.episodes, stage, Episode.fall, start]
      have summary := last ▸ tracks.summary
      dsimp only
      split
      · rename_i deeper
        refine ⟨ends.symm, ?_, ?_, observed.symm⟩
        · rw [all]
          simpa [Scan.episodes, Episode.fall, start] using summary.deepen below deeper
        · rintro episode ⟨⟩
          exact ⟨start, lower⟩
      · rename_i shallow
        have cover := summary.covered fun _ : point.value < scan.peak =>
          ⟨_, List.mem_append_right _ (List.mem_singleton_self _), rfl, not_lt.mp shallow⟩
        refine ⟨ends.symm, ?_, stage ▸ tracks.active, observed.symm⟩
        rw [all]
        simpa [Scan.episodes, Episode.fall, start] using cover
  · rw [if_neg lower]
    refine ⟨ends.symm, ?_, tracks.active, observed.symm⟩
    rw [all]
    exact tracks.summary.covered fun fallen => absurd fallen lower

theorem Scan.run_tracks (points : List (Point Time)) : (Scan.run points).Tracks (points.map Point.value) := by
  induction points using List.reverseRecOn with
  | nil => exact Scan.start_tracks
  | append_singleton points point ih =>
    rw [Scan.run, List.foldl_append, List.map_append]
    exact Scan.step_tracks ih point

/-! ## The reported maxima -/

theorem percentageOf_measure {base : ℚ} (positive : 0 < base) : Measure ℚ (percentageOf base) 0 where
  level high _ := by simp [percentageOf]
  deeper high low lower above _ deeper := by
    unfold percentageOf
    have room : 0 < base + high := add_pos_of_pos_of_nonneg positive above
    gcongr

theorem dollars_measure : Measure ℚ (fun high low : ℚ => high - low) 0 where
  level high _ := sub_self high
  deeper high _ _ _ _ deeper := sub_le_sub_left deeper high

/-- An episode of a scan: it starts at or above the baseline and loses something. -/
def Episode.Sound (episode : Episode Time) : Prop :=
  0 ≤ episode.peakValue ∧ episode.troughValue < episode.peakValue

def greatestPercentage (base : ℚ) (episodes : List (Episode Time)) (known : ℚ) : ℚ :=
  (episodes.map fun episode => percentageOf base episode.peakValue episode.troughValue).foldl max known

theorem percentageStep_eq {base : ℚ} (positive : 0 < base) {episode : Episode Time} (sound : episode.Sound)
    {result : Percentage Time} {known : ℚ} (start : result.mddPct = some known) :
    ∃ next, percentageStep (some base) result episode = .ok next ∧ next.mddPct =
      some (max known (percentageOf base episode.peakValue episode.troughValue)) := by
  obtain ⟨above, below⟩ := sound
  simp only [percentageStep, not_lt.mpr above, not_lt.mpr below.le, or_self, if_false, not_le.mpr positive,
    start, Option.mem_some_iff, forall_eq']
  split
  · rename_i larger
    exact ⟨_, rfl, by rw [max_eq_right larger.le]⟩
  · rename_i smaller
    exact ⟨_, rfl, by rw [start, max_eq_left (not_lt.mp smaller)]⟩

theorem percentageSteps_eq {base : ℚ} (positive : 0 < base) {episodes : List (Episode Time)}
    (sound : ∀ episode ∈ episodes, episode.Sound) {result : Percentage Time} {known : ℚ}
    (start : result.mddPct = some known) :
    ∃ final, episodes.foldlM (percentageStep (some base)) result = .ok final ∧
      final.mddPct = some (greatestPercentage base episodes known) := by
  induction episodes generalizing result known with
  | nil => exact ⟨result, rfl, start⟩
  | cons episode rest ih =>
    obtain ⟨next, stepped, same⟩ := percentageStep_eq positive (sound episode List.mem_cons_self) start
    obtain ⟨final, finished, reported⟩ :=
      ih (fun other member => sound other (List.mem_cons_of_mem _ member)) same
    refine ⟨final, ?_, reported⟩
    rw [List.foldlM_cons, stepped]
    exact finished

/-- The percentages of sound episodes are compared with nothing lost. -/
theorem percentageDrawdown_eq {base : ℚ} (positive : 0 < base) {episodes : List (Episode Time)}
    (sound : ∀ episode ∈ episodes, episode.Sound) :
    ∃ result, percentageDrawdown episodes (some base) = .ok result ∧
      result.mddPct = some (greatestPercentage base episodes 0) :=
  percentageSteps_eq positive sound (by simp [positive])

/-- The reported loss is the greatest one, and nothing when there is no episode. -/
theorem largest_eq (episodes : List (Episode Time)) (sound : ∀ episode ∈ episodes, episode.Sound) :
    (largest episodes).elim 0 Episode.loss = (episodes.map Episode.loss).foldl max 0 := by
  cases found : largest episodes with
  | none =>
    rw [List.argmax_eq_none.mp found]
    rfl
  | some episode =>
    have chosen : episode ∈ episodes := List.argmax_mem found
    refine le_antisymm (le_foldl_max_of_mem (List.mem_cons_of_mem _ (List.mem_map_of_mem chosen))) ?_
    rcases List.mem_cons.mp (mem_foldl_max 0 (episodes.map Episode.loss)) with none | some
    · rw [none]
      exact sub_nonneg.mpr (sound episode chosen).2.le
    · obtain ⟨other, member, same⟩ := List.mem_map.mp some
      rw [← same]
      exact List.le_of_mem_argmax member found

theorem Scan.Tracks.sound {scan : Scan Time} {values : List ℚ} (tracks : scan.Tracks values) :
    ∀ episode ∈ scan.episodes, episode.Sound := by
  intro episode chosen
  obtain ⟨member, lower⟩ := tracks.summary.fallen episode.fall (List.mem_map_of_mem chosen)
  exact ⟨(bounds_of_mem_falls member).1, lower⟩

/-- A run over observed points reports the losses of its episodes. -/
theorem maxDrawdown_eq {base : ℚ} (positive : 0 < base) (points : List (Point Time)) :
    ∃ result, maxDrawdown points (some base) = .ok result ∧
      result.drawdownEpisodes = (Scan.run points).episodes ∧
      result.mddAvailable = !points.isEmpty ∧
      result.mddUsd = (if points.isEmpty then none
        else some (((Scan.run points).episodes.map Episode.loss).foldl max 0)) ∧
      result.mddPct = (if points.isEmpty then none
        else some (greatestPercentage base (Scan.run points).episodes 0)) := by
  have tracks := Scan.run_tracks points
  obtain ⟨percentage, computed, pct⟩ := percentageDrawdown_eq positive tracks.sound
  have seen : (Scan.run points).observed = !points.isEmpty := by
    rw [tracks.observed, List.isEmpty_map]
  unfold maxDrawdown
  dsimp only
  rw [computed]
  refine ⟨_, rfl, rfl, seen, ?_, ?_⟩
  · have usd := largest_eq _ tracks.sound
    dsimp only
    cases points with
    | nil => rfl
    | cons point rest =>
      rw [List.isEmpty_cons, if_neg Bool.false_ne_true, ← usd, seen]
      cases largest (Scan.run (point :: rest)).episodes with
      | none => rfl
      | some episode => rfl
  · dsimp only
    rw [seen, pct]
    cases points with
    | nil => rfl
    | cons point rest => rfl

section BruteForce

variable (points : List (Point Time))

/-- The losses between any two samples in order, the zero baseline before them included. -/
def losses : Set ℚ :=
  { amount | ∃ before after, Ordered (0 :: points.map Point.value) before after ∧ amount = before - after }

/-- The percentages lost at each sample since the greatest of the baseline and the samples up to it. -/
def percentages (base : ℚ) : Set ℚ :=
  { amount | ∃ (j : Nat) (bound : j < points.length),
    let peak := ((points.take (j + 1)).map Point.value).foldl max 0
    amount = 100 * (peak - points[j].value) / (base + peak) }

variable {points}

theorem losses_isGreatest (observed : points ≠ []) :
    IsGreatest (losses points) (((Scan.run points).episodes.map Episode.loss).foldl max 0) := by
  have tracks := Scan.run_tracks points
  have greatest := tracks.summary.isGreatest dollars_measure (by simpa using observed)
  rw [List.map_map] at greatest
  refine ⟨?_, ?_⟩
  · obtain ⟨fall, member, same⟩ := greatest.1
    exact ⟨fall.1, fall.2, ordered_of_mem_falls member, same⟩
  · rintro _ ⟨before, after, ordered, rfl⟩
    rcases exists_fall ordered with ⟨rfl, rfl⟩ | ⟨fall, member, rfl, higher⟩
    · rw [sub_self]
      exact le_foldl_max _ _
    · exact (sub_le_sub_right higher _).trans (greatest.2 ⟨fall, member, rfl⟩)

theorem percentages_isGreatest {base : ℚ} (positive : 0 < base) (observed : points ≠ []) :
    IsGreatest (percentages points base) (greatestPercentage base (Scan.run points).episodes 0) := by
  have tracks := Scan.run_tracks points
  have greatest := tracks.summary.isGreatest (percentageOf_measure positive) (by simpa using observed)
  rw [List.map_map] at greatest
  have same : percentages points base = { amount | ∃ fall ∈ falls 0 (points.map Point.value),
      amount = percentageOf base fall.1 fall.2 } := by
    ext amount
    constructor
    · rintro ⟨j, bound, rfl⟩
      have inside : j < (points.map Point.value).length := by simpa using bound
      refine ⟨_, List.mem_iff_getElem?.mpr ⟨j, getElem_falls 0 _ j inside⟩, ?_⟩
      rw [List.getElem_map, ← List.map_take, percentageOf]
      ring
    · rintro ⟨fall, member, rfl⟩
      obtain ⟨j, found⟩ := List.mem_iff_getElem?.mp member
      have inside : j < (points.map Point.value).length :=
        length_falls 0 (points.map Point.value) ▸ (List.getElem?_eq_some_iff.mp found).1
      rw [getElem_falls 0 _ j inside] at found
      obtain rfl := Option.some.inj found
      refine ⟨j, by simpa using inside, ?_⟩
      rw [List.getElem_map, ← List.map_take, percentageOf]
      ring
  rw [same]
  exact greatest

/-- Observed points report the greatest loss and the greatest percentage over all samples,
and the retained episodes give the percentage of every other base. -/
theorem max_drawdown_brute_force (points : List (Point Time)) (base : ℚ) (positive : 0 < base) :
    ∃ result, maxDrawdown points (some base) = .ok result ∧
      (points = [] → result.mddAvailable = false ∧ result.mddUsd = none ∧ result.mddPct = none) ∧
      (points ≠ [] → result.mddAvailable = true ∧
        (∃ usd, result.mddUsd = some usd ∧ IsGreatest (losses points) usd) ∧
        (∃ pct, result.mddPct = some pct ∧ IsGreatest (percentages points base) pct) ∧
        ∀ other, 0 < other → ∃ again rerun, percentageDrawdown result.drawdownEpisodes (some other) = .ok again ∧
          maxDrawdown points (some other) = .ok rerun ∧ again.mddPct = rerun.mddPct) := by
  obtain ⟨result, computed, episodes, available, usd, pct⟩ := maxDrawdown_eq positive points
  refine ⟨result, computed, ?_, fun observed => ?_⟩
  · rintro rfl
    exact ⟨available, usd, pct⟩
  have some : points.isEmpty = false := by simpa using observed
  rw [some, if_neg Bool.false_ne_true] at usd pct
  refine ⟨by rw [available, some]; rfl, ⟨_, usd, losses_isGreatest observed⟩,
    ⟨_, pct, percentages_isGreatest positive observed⟩, fun other positive => ?_⟩
  obtain ⟨again, recomputed, same⟩ := percentageDrawdown_eq positive (Scan.run_tracks points).sound
  obtain ⟨rerun, reran, _, _, _, reported⟩ := maxDrawdown_eq positive points
  rw [some, if_neg Bool.false_ne_true] at reported
  exact ⟨again, rerun, by rw [episodes, recomputed], reran, by rw [same, reported]⟩

/-- A curve whose greatest dollar loss and greatest percentage lie in different episodes. -/
def retest : List (Point Nat) := [⟨4, some 1⟩, ⟨-2, some 2⟩, ⟨20, some 3⟩, ⟨13, some 4⟩, ⟨20, some 5⟩]

theorem max_drawdown_brute_force_retest :
    ∃ result, maxDrawdown retest (some 10) = .ok result ∧ IsGreatest (losses retest) 7 ∧
      result.mddUsd = some 7 := by
  obtain ⟨result, computed, _, observed⟩ := max_drawdown_brute_force retest 10 (by norm_num)
  obtain ⟨_, ⟨usd, reported, greatest⟩, _⟩ := observed (by decide)
  have value : (maxDrawdown retest (some 10)).toOption.bind (·.mddUsd) = some 7 := by decide +kernel
  rw [computed] at value
  have same : some usd = some 7 := reported.symm.trans value
  obtain rfl := Option.some.inj same
  exact ⟨result, computed, greatest, reported⟩

/-- Nothing observed is not a loss of nothing: the baseline alone would give zero, and the
empty list of episodes still gives a percentage. -/
theorem empty_points_unavailable :
    (∃ result, maxDrawdown ([] : List (Point Nat)) (some 1) = .ok result ∧ result.mddUsd = none ∧
      result.mddPct = none ∧
      (percentageDrawdown result.drawdownEpisodes (some 1)).map Percentage.mddPct = .ok (some 0)) ∧
    IsGreatest (losses ([] : List (Point Nat))) 0 := by
  refine ⟨⟨_, rfl, rfl, rfl, rfl⟩, ⟨0, 0, ⟨0, 0, le_refl 0, rfl, rfl⟩, (sub_self 0).symm⟩, ?_⟩
  rintro _ ⟨before, after, ordered, rfl⟩
  rcases exists_fall ordered with ⟨rfl, rfl⟩ | ⟨_, member, _⟩
  · exact (sub_self (0 : ℚ)).le
  · cases member

end BruteForce

end MarketSentinel.Mdd
