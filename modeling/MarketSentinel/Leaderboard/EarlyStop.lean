import MarketSentinel.Leaderboard.Ranking
import Mathlib.Data.List.Sigma

/-! Stopping a drawdown scan at the limit does not show in the ranking.

The candidates are sorted as the result is. The rows computed so far are the
first ones of that order, and enough of them qualify when the scan stops.
-/

set_option autoImplicit false

namespace MarketSentinel.Leaderboard

open Python

section Rows

instance (sort : SortKey) (ascending : Bool) : IsTrans Row (before sort ascending) where
  trans a b c first second := by
    unfold before at *
    split_ifs at * with up
    · exact first.trans second
    · exact second.trans first

instance (sort : SortKey) (ascending : Bool) : Std.Total (before sort ascending) where
  total a b := by
    unfold before
    split_ifs with up
    · exact le_total _ _
    · exact le_total _ _

theorem read_foldl_set {key : String} (entries : List (Text × Json)) (row : Row)
    (other : ∀ entry ∈ entries, entry.1 ≠ text key) :
    Row.read (entries.foldl (fun row entry => row.set entry.1 entry.2) row) key = row.read key := by
  induction entries generalizing row with
  | nil => rfl
  | cons entry rest ih =>
    rw [List.foldl_cons, ih _ fun entry member => other entry (List.mem_cons_of_mem _ member)]
    unfold Row.read
    rw [Dict.get?_set_ne _ (other entry List.mem_cons_self)]

theorem MddPayload.pnl (mdd : MddPayload) (row : Row) : (mdd.update row).amount "pnl_usd" = row.amount "pnl_usd" := by
  unfold Row.amount MddPayload.update
  rw [read_foldl_set]
  intro entry member
  rcases List.mem_append.mp member with own | detail
  · simp only [List.mem_cons, List.not_mem_nil, or_false] at own
    rcases own with rfl | rfl | rfl | rfl <;> (dsimp only; decide)
  · intro same
    have among := mdd.named entry detail
    rw [same] at among
    revert among
    decide

end Rows

section Scan

variable {runtime : Runtime} {outcome : Text → MddOutcome} {q : RankingQuery} {completion : Completion}

/-- A row after its drawdown was asked for. -/
def enrichedRow (runtime : Runtime) (outcome : Text → MddOutcome) (row : Row) : Row :=
  match computeMddForRow runtime outcome row with
  | some (_, .payload mdd) => mdd.update row
  | _ => row

def enrichIn (runtime : Runtime) (outcome : Text → MddOutcome) (done : List Nat) (slot : Slot) : Slot :=
  if slot.1 ∈ done then (slot.1, enrichedRow runtime outcome slot.2) else slot

theorem enrichedRow_pnl (row : Row) : (enrichedRow runtime outcome row).amount "pnl_usd" = row.amount "pnl_usd" := by
  unfold enrichedRow
  split
  · exact MddPayload.pnl _ row
  · rfl

theorem enrichIn_pnl (done : List Nat) (slot : Slot) :
    (enrichIn runtime outcome done slot).2.amount "pnl_usd" = slot.2.amount "pnl_usd" := by
  unfold enrichIn
  split
  · exact enrichedRow_pnl slot.2
  · rfl

/-- What a scan has written after the results of some slots. -/
structure Scanned (runtime : Runtime) (outcome : Text → MddOutcome) (q : RankingQuery) (slots done : List Slot)
    (s : MddScan) : Prop where
  rows : s.rows = slots.map (enrichIn runtime outcome (done.map Prod.fst))
  qualified : s.qualified ≤ (done.filter fun slot => withinDrawdown q (enrichedRow runtime outcome slot.2)).length
  unlimited : s.rateLimited = false

variable {slots done : List Slot} {s : MddScan}

theorem Scanned.perm (scanned : Scanned runtime outcome q slots done s) {other : List Slot} (same : done.Perm other) :
    Scanned runtime outcome q slots other s where
  rows := by
    rw [scanned.rows]
    refine List.map_congr_left fun slot _ => ?_
    simp only [enrichIn, (same.map Prod.fst).mem_iff]
  qualified := scanned.qualified.trans (same.filter _).length_eq.le
  unlimited := scanned.unlimited

theorem eq_of_identity (distinct : (slots.map Prod.fst).Nodup) {a b : Slot} (first : a ∈ slots) (second : b ∈ slots)
    (same : a.1 = b.1) : a = b :=
  List.inj_on_of_nodup_map distinct first second same

/-- One more result. -/
theorem Scanned.apply (scanned : Scanned runtime outcome q slots done s) (calm : ∀ wallet, outcome wallet ≠ .rateLimited)
    (distinct : (slots.map Prod.fst).Nodup) {slot : Slot} (member : slot ∈ slots)
    (fresh : slot.1 ∉ done.map Prod.fst) :
    Scanned runtime outcome q slots (slot :: done) (applyMddResult runtime outcome q s slot) := by
  have unchanged : enrichedRow runtime outcome slot.2 = slot.2 →
      slots.map (enrichIn runtime outcome (done.map Prod.fst)) =
        slots.map (enrichIn runtime outcome ((slot :: done).map Prod.fst)) := by
    intro still
    refine List.map_congr_left fun other among => ?_
    by_cases this : other.1 = slot.1
    · rw [eq_of_identity distinct among member this]
      simp [enrichIn, still]
    · simp only [enrichIn, List.map_cons, List.mem_cons, this, false_or]
  have keeps : (done.filter fun slot => withinDrawdown q (enrichedRow runtime outcome slot.2)).length ≤
      ((slot :: done).filter fun slot => withinDrawdown q (enrichedRow runtime outcome slot.2)).length :=
    ((List.sublist_cons_self slot done).filter _).length_le
  unfold applyMddResult
  cases result : computeMddForRow runtime outcome slot.2 with
  | none =>
    have still : enrichedRow runtime outcome slot.2 = slot.2 := by simp only [enrichedRow, result]
    exact ⟨scanned.rows.trans (unchanged still), scanned.qualified.trans keeps, scanned.unlimited⟩
  | some found =>
    obtain ⟨wallet, reached⟩ := found
    cases reached with
    | rateLimited =>
      obtain ⟨_, _, same⟩ := Option.map_eq_some_iff.mp result
      exact absurd (congrArg Prod.snd same) (calm _)
    | raised message =>
      have still : enrichedRow runtime outcome slot.2 = slot.2 := by simp only [enrichedRow, result]
      exact ⟨scanned.rows.trans (unchanged still), scanned.qualified.trans keeps, scanned.unlimited⟩
    | payload mdd =>
      have now : enrichedRow runtime outcome slot.2 = mdd.update slot.2 := by simp only [enrichedRow, result]
      refine ⟨?_, ?_, scanned.unlimited⟩
      · change updateSlot mdd slot s.rows = _
        unfold updateSlot
        rw [scanned.rows, List.map_map]
        refine List.map_congr_left fun other among => ?_
        by_cases this : other.1 = slot.1
        · rw [eq_of_identity distinct among member this]
          simp [enrichIn, fresh, now]
        · by_cases earlier : other.1 ∈ done.map Prod.fst
          · simp only [Function.comp, enrichIn, List.map_cons, List.mem_cons, earlier, this, if_true, if_false, or_true]
          · simp only [Function.comp, enrichIn, List.map_cons, List.mem_cons, earlier, this, if_false, or_false]
      · change s.qualified + _ ≤ _
        rw [List.filter_cons, now]
        split
        · exact Nat.add_le_add_right scanned.qualified 1
        · exact scanned.qualified

theorem Scanned.batch (scanned : Scanned runtime outcome q slots done s) (calm : ∀ wallet, outcome wallet ≠ .rateLimited)
    (distinct : (slots.map Prod.fst).Nodup) {batch : List Slot} (among : batch ⊆ slots)
    (fresh : ((batch ++ done).map Prod.fst).Nodup) :
    Scanned runtime outcome q slots (batch ++ done) (batch.foldl (applyMddResult runtime outcome q) s) := by
  induction batch generalizing s done with
  | nil => exact scanned
  | cons slot rest ih =>
    have moved : (rest ++ slot :: done).Perm (slot :: rest ++ done) := List.perm_middle
    rw [List.cons_append, List.map_cons, List.nodup_cons, List.map_append, List.mem_append, not_or] at fresh
    obtain ⟨⟨_, new⟩, _⟩ := fresh
    rw [List.foldl_cons]
    refine (ih (scanned.apply calm distinct (among List.mem_cons_self) new)
      (fun other member => among (List.mem_cons_of_mem _ member)) ?_).perm moved
    rw [(moved.map Prod.fst).nodup_iff]
    simp_all

/-- A scan stops at the end of its targets or when the limit is reached. -/
theorem Scanned.scan (scanned : Scanned runtime outcome q slots done s) (completion : Completion) (calm : ∀ wallet, outcome wallet ≠ .rateLimited)
    (distinct : (slots.map Prod.fst).Nodup) (targets : List Slot) (among : targets ⊆ slots)
    (fresh : ((targets ++ done).map Prod.fst).Nodup) :
    ∃ count, Scanned runtime outcome q slots (targets.take count ++ done)
        (mddScan runtime outcome q completion targets s) ∧
      (targets.length ≤ count ∨ q.mddStopOnLimit = true ∧
        ∃ limit, q.limit = some limit ∧ limit ≤ (mddScan runtime outcome q completion targets s).qualified) := by
  induction length : targets.length using Nat.strong_induction_on generalizing targets s done with
  | _ size ih =>
    cases targets with
    | nil =>
      rw [mddScan]
      exact ⟨0, scanned, Or.inl (Nat.le_of_eq length.symm)⟩
    | cons first rest =>
      rw [mddScan]
      by_cases reached : limitReached q s = true
      · rw [if_pos reached]
        obtain ⟨stops, enough⟩ := Bool.and_eq_true_iff.mp reached
        cases given : q.limit with
        | none =>
          rw [given] at enough
          cases enough
        | some limit =>
          rw [given] at enough
          exact ⟨0, ⟨scanned.rows, scanned.qualified, scanned.unlimited⟩,
            Or.inr ⟨stops, limit, rfl, of_decide_eq_true enough⟩⟩
      · rw [if_neg reached]
        dsimp only
        have arrives := completion.perm s ((first :: rest).take (max 1 q.mddConcurrency))
        have here : ((first :: rest).take (max 1 q.mddConcurrency) ++ done).Sublist (first :: rest ++ done) :=
          (List.take_sublist _ _).append_right done
        have computed := (scanned.batch calm distinct
          (fun slot member => among (List.take_subset _ _ (arrives.subset member)))
          (((arrives.append_right done).map Prod.fst).nodup_iff.mpr ((here.map Prod.fst).nodup fresh))).perm
          (arrives.append_right done)
        rw [if_neg (by rw [computed.unlimited]; exact Bool.false_ne_true)]
        have shorter : ((first :: rest).drop (max 1 q.mddConcurrency)).length < size := by
          rw [← length, List.length_drop, List.length_cons]
          omega
        have parts : ((first :: rest).drop (max 1 q.mddConcurrency) ++
            ((first :: rest).take (max 1 q.mddConcurrency) ++ done)).Perm (first :: rest ++ done) := by
          rw [← List.append_assoc]
          refine List.Perm.append_right done ?_
          exact List.perm_append_comm.trans (List.take_append_drop _ _ ▸ List.Perm.refl _)
        obtain ⟨count, after, ends⟩ := ih _ shorter computed _
          (fun slot member => among (List.drop_subset _ _ member))
          ((parts.map Prod.fst).nodup_iff.mpr fresh) rfl
        refine ⟨max 1 q.mddConcurrency + count, after.perm ?_, ends.imp_left fun whole => ?_⟩
        · rw [List.take_add, ← List.append_assoc]
          exact List.perm_append_comm.append_right done
        · rw [List.length_drop] at whole
          omega

end Scan

section Ranking

variable {runtime : Runtime} {outcome : Text → MddOutcome} {q : RankingQuery} {completion : Completion}
variable {slots done : List Slot} {s : MddScan}

/-- The order of row objects by dollar profit, highest first. -/
def higher (a b : Slot) : Prop := before .pnlUsd false a.2 b.2

instance : DecidableRel higher := fun a b => inferInstanceAs (Decidable (before .pnlUsd false a.2 b.2))

/-- The final rows, in the order of the candidates. -/
theorem ranked_rows (scanned : Scanned runtime outcome q slots done s) (keep : Row → Bool) :
    sortPolymarketLeaderboardRows .pnlUsd false ((s.rows.map Prod.snd).filter keep) =
      (((slots.insertionSort higher).map fun slot => (enrichIn runtime outcome (done.map Prod.fst) slot).2).filter
        keep) := by
  unfold sortPolymarketLeaderboardRows
  rw [← StableSort.filter_insertionSort, scanned.rows, List.map_map]
  congr 1
  refine (List.map_insertionSort higher (before .pnlUsd false) _ slots fun a _ b _ => ?_).symm
  simp only [higher, before, Bool.false_eq_true, if_false, Function.comp_apply, SortKey.column, enrichIn_pnl]

/-- The rows computed first come first, as they are after their drawdown. -/
theorem front_rows {candidates : List Slot} {count : Nat} {done : List Nat} (keep : Row → Bool)
    (computed : ∀ slot ∈ candidates.take count, slot.1 ∈ done) :
    ((candidates.map fun slot => (enrichIn runtime outcome done slot).2).filter keep) =
      ((candidates.take count).filter fun slot => keep (enrichedRow runtime outcome slot.2)).map
        (fun slot => enrichedRow runtime outcome slot.2) ++
      (((candidates.drop count).map fun slot => (enrichIn runtime outcome done slot).2).filter keep) := by
  conv_lhs => rw [← List.take_append_drop count candidates, List.map_append, List.filter_append]
  congr 1
  rw [List.filter_map]
  have same : ∀ slot ∈ candidates.take count,
      (enrichIn runtime outcome done slot).2 = enrichedRow runtime outcome slot.2 := by
    intro slot member
    rw [enrichIn, if_pos (computed slot member)]
  have chosen : (candidates.take count).filter (keep ∘ fun slot => (enrichIn runtime outcome done slot).2) =
      (candidates.take count).filter fun slot => keep (enrichedRow runtime outcome slot.2) :=
    List.filter_congr fun slot member => congrArg keep (same slot member)
  rw [chosen]
  exact List.map_congr_left fun slot member => same slot (List.mem_of_mem_filter member)

theorem identities_nodup (rows : List Row) : ((rows.zipIdx.map Prod.swap).map Prod.fst).Nodup := by
  rw [List.map_map]
  exact List.nodup_zipIdx_map_snd rows

theorem limitSlice_eq_take {α : Type} (rows : List α) (limit : Option Nat) :
    ∃ count, limitSlice rows limit = rows.take count := by
  cases limit with
  | none => exact ⟨rows.length, List.take_length.symm⟩
  | some limit => exact ⟨limit, rfl⟩

/-- A scan that computed some first candidates, enough of them within the bounds, has the same first rows as one
that computed more. -/
theorem first_rows_same {other : MddScan} {q' : RankingQuery} {few many : Nat} (fewer : few ≤ many)
    (early : Scanned runtime outcome q slots ((slots.insertionSort higher).take few) s)
    (late : Scanned runtime outcome q' slots ((slots.insertionSort higher).take many) other)
    {limit : Nat} (enough : limit ≤ s.qualified) :
    (sortPolymarketLeaderboardRows .pnlUsd false ((s.rows.map Prod.snd).filter (withinDrawdown q))).take limit =
      (sortPolymarketLeaderboardRows .pnlUsd false ((other.rows.map Prod.snd).filter (withinDrawdown q))).take
        limit := by
  have own : ∀ slot ∈ (slots.insertionSort higher).take few,
      slot.1 ∈ ((slots.insertionSort higher).take few).map Prod.fst :=
    fun slot member => List.mem_map_of_mem member
  have covered : ∀ slot ∈ (slots.insertionSort higher).take few,
      slot.1 ∈ ((slots.insertionSort higher).take many).map Prod.fst :=
    fun slot member => List.mem_map_of_mem ((List.take_sublist_take_left fewer).subset member)
  have long : limit ≤ (((slots.insertionSort higher).take few).filter fun slot =>
      withinDrawdown q (enrichedRow runtime outcome slot.2)).length := enough.trans early.qualified
  rw [ranked_rows early, ranked_rows late, front_rows _ own, front_rows _ covered,
    List.take_append_of_le_length (by rwa [List.length_map]),
    List.take_append_of_le_length (by rwa [List.length_map])]

end Ranking

section EarlyStop

variable {runtime : Runtime} {outcome : Text → MddOutcome} {q : RankingQuery} {slots : List Slot}

theorem Scanned.start : Scanned runtime outcome q slots [] { rows := slots } where
  rows := (List.map_id'' (fun _ => if_neg List.not_mem_nil) slots).symm
  qualified := Nat.le_refl _
  unlimited := rfl

theorem scan_invisible (calm : ∀ wallet, outcome wallet ≠ .rateLimited) (completion sequential : Completion)
    (sort : q.sort = .pnlUsd) (direction : q.ascending = false) (distinct : (slots.map Prod.fst).Nodup) :
    limitSlice (sortPolymarketLeaderboardRows q.sort q.ascending
        (((mddScan runtime outcome { q with stopRequested := true } completion (mddTargets q slots)
          { rows := slots }).rows.map Prod.snd).filter (withinDrawdown q))) q.limit =
      limitSlice (sortPolymarketLeaderboardRows q.sort q.ascending
        (((mddScan runtime outcome { q with stopRequested := false, mddConcurrency := 1 } sequential
          (mddTargets q slots) { rows := slots }).rows.map Prod.snd).filter (withinDrawdown q))) q.limit := by
  have sorted : ∀ rows, sortPolymarketLeaderboardRows q.sort q.ascending rows =
      sortPolymarketLeaderboardRows .pnlUsd false rows := fun rows => by rw [sort, direction]
  rw [sorted, sorted]
  obtain ⟨most, slice⟩ := limitSlice_eq_take (slots.insertionSort higher) q.mddScanLimit
  have targets : mddTargets q slots = (slots.insertionSort higher).take most := by
    unfold mddTargets
    rw [sort, direction, if_neg (by simp)]
    exact slice
  have among : (slots.insertionSort higher).take most ⊆ slots := fun slot member =>
    (List.mem_insertionSort higher).mp (List.take_subset _ _ member)
  have fresh : (((slots.insertionSort higher).take most ++ []).map Prod.fst).Nodup := by
    rw [List.append_nil]
    exact (((List.perm_insertionSort higher slots).map Prod.fst).nodup_iff.mpr distinct).sublist
      ((List.take_sublist _ _).map Prod.fst)
  rw [targets]
  obtain ⟨few, early, ends⟩ := (@Scanned.start runtime outcome { q with stopRequested := true } slots).scan completion
    calm distinct _ among fresh
  obtain ⟨many, late, whole⟩ := (@Scanned.start runtime outcome { q with stopRequested := false, mddConcurrency := 1 }
    slots).scan sequential calm distinct _ among fresh
  have complete : ((slots.insertionSort higher).take most).length ≤ many := by
    rcases whole with whole | ⟨stops, _⟩
    · exact whole
    · simp [RankingQuery.mddStopOnLimit] at stops
  rw [List.append_nil] at early late
  rw [List.take_of_length_le complete] at late
  rcases ends with ended | ⟨_, limit, given, enough⟩
  · rw [List.take_of_length_le ended] at early
    rw [early.rows, late.rows]
  · rw [List.take_take] at early
    have sliced : ∀ rows : List Row, limitSlice rows q.limit = rows.take limit := fun rows => by
      rw [show q.limit = some limit from given]
      rfl
    rw [sliced, sliced]
    exact first_rows_same (Nat.min_le_right _ _) early late enough

/-- Which rows are kept for the scan depends on the bounds alone. -/
theorem prefilter_eq {casing : Casing} (other q : RankingQuery) (bounds : inBounds other = inBounds q)
    (seenWallets : List Text) (rows : List Row) :
    prefilter casing other seenWallets rows = prefilter casing q seenWallets rows := by
  induction rows generalizing seenWallets with
  | nil => rfl
  | cons row rest ih => simp only [prefilter, bounds, ih]

/-- With rows ranked by dollar profit, highest first, a scan that stops at the limit returns the rows that a
sequential scan of every candidate returns. -/
theorem early_stop_invisible (runtime : Runtime) (outcome : Text → MddOutcome)
    (calm : ∀ wallet, outcome wallet ≠ .rateLimited) (completion sequential : Completion) (q : RankingQuery)
    (sort : q.sort = .pnlUsd) (direction : q.ascending = false) (rawRows : List Json) :
    (polymarketLeaderboardPayload runtime outcome { q with stopRequested := true } completion rawRows).map (·.rows) =
      (polymarketLeaderboardPayload runtime outcome { q with stopRequested := false, mddConcurrency := 1 } sequential
        rawRows).map (·.rows) := by
  unfold polymarketLeaderboardPayload
  by_cases refused : q.sort = .roiPct ∨ q.sort = .volumeUsd ∨ q.monetaryBounds = true
  · rw [if_pos refused, if_pos refused]
  · rw [if_neg refused, if_neg refused]
    cases rawRows.zipIdx.mapM fun raw => leaderboardRow runtime raw.1 (raw.2 + 1) with
    | error message => rfl
    | ok rows =>
      have early : prefilter runtime.casing { q with stopRequested := true } [] rows =
          prefilter runtime.casing q [] rows := prefilter_eq { q with stopRequested := true } q rfl [] rows
      have full : prefilter runtime.casing { q with stopRequested := false, mddConcurrency := 1 } [] rows =
          prefilter runtime.casing q [] rows :=
        prefilter_eq { q with stopRequested := false, mddConcurrency := 1 } q rfl [] rows
      simp only [bind, Except.bind, pure, Except.pure, Except.map, Except.ok.injEq, early, full]
      have distinct := identities_nodup (prefilter runtime.casing q [] rows)
      cases requested : q.mddRequested with
      | false =>
        have first : { q with stopRequested := true }.mddRequested = false := requested
        have second : { q with stopRequested := false, mddConcurrency := 1 }.mddRequested = false := requested
        simp only [first, second, Bool.false_eq_true, if_false]
      | true =>
        have first : { q with stopRequested := true }.mddRequested = true := requested
        have second : { q with stopRequested := false, mddConcurrency := 1 }.mddRequested = true := requested
        simp only [first, second, if_true]
        exact @scan_invisible runtime outcome q _ calm completion sequential sort direction distinct

private def rankedRow (digits : String) (pnl : Int) : Json :=
  .obj [(text "user_id", .str (text ("0x00000000000000000000000000000000000000" ++ digits))), (text "pnl", .int pnl),
    (text "volume", .int 7)]

private def rankedBoard : List Json := [rankedRow "aa" 5, rankedRow "bb" 9, rankedRow "cc" 3, rankedRow "dd" 8]

private def rankingRuntime : Runtime where
  casing := asciiCasing
  rounding := exactRounding
  columnReal := .str
  show_ value := match value with
    | .str t => t
    | _ => []
  show_str := show_text
  pageDigest _ := []
  sourceDigest _ := []
  walletsDigest _ := []

private def observedDrawdown : MddPayload where
  mddUsd := some (.finite 2)
  mddPct := none
  mddAvailable := true
  mddHistoryStatus := text "source_window_exhausted"
  details := []
  named := by simp

private def batchOrder : Completion where
  order _ batch := batch.reverse
  perm _ batch := batch.reverse_perm

/-- Four ranked wallets, one asked for, drawdowns of up to three dollars, two wallets at a time: the scan leaves two
wallets out. -/
theorem early_stop_invisible_skips :
    let query : RankingQuery := { limit := some 1, mddConcurrency := 2, mddUsd := { maximum := some (.finite 3) } }
    let early := polymarketLeaderboardPayload rankingRuntime (fun _ => .payload observedDrawdown)
      { query with stopRequested := true } batchOrder rankedBoard
    let full := polymarketLeaderboardPayload rankingRuntime (fun _ => .payload observedDrawdown)
      { query with stopRequested := false, mddConcurrency := 1 } batchOrder rankedBoard
    early.map (·.rows) = full.map (·.rows) ∧ early.map (·.scan.attempted) = .ok 2 ∧
      full.map (·.scan.attempted) = .ok 4 :=
  ⟨early_stop_invisible rankingRuntime (fun _ => .payload observedDrawdown) (fun _ => MddOutcome.noConfusion)
    batchOrder batchOrder _ rfl rfl rankedBoard, by decide +kernel, by decide +kernel⟩

end EarlyStop

end MarketSentinel.Leaderboard
