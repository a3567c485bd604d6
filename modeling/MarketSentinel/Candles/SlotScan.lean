import MarketSentinel.Candles.MetaDao
import MarketSentinel.Library.StableSort
import MarketSentinel.Library.Windows

/-! What a scan of slots has seen.

The rows behind the event endpoint are a tape of all pairs, in no particular order.
A scan has taken every swap of the pair from its lowest slot up.
-/

set_option autoImplicit false

namespace MarketSentinel.Candles.MetaDao

open Python Venue

section Tape

variable (runtime : Runtime)

/-- The slot of a row, if it has one. -/
def rowSlot : Json → Option Nat
  | .obj event => (blockNumberOf event).toOption.map Prod.snd
  | _ => none

def inSlots (fromSlot toSlot : Nat) (row : Json) : Bool :=
  (rowSlot row).any fun slot => decide (fromSlot ≤ slot ∧ slot ≤ toSlot)

/-- The endpoint answers a range with the rows of the tape in it, in any order, whenever it answers. -/
def Endpoint.Exact (endpoint : Endpoint) (tape : List Json) : Prop :=
  ∀ fromSlot toSlot payload rows, endpoint.events fromSlot toSlot = .ok payload → eventRows payload = some rows →
    rows.Perm (tape.filter (inSlots fromSlot toSlot))

/-- The swap that a row of a pool is read as. -/
def swapOf (poolId : Text) : Json → Option Swap
  | .obj event =>
    if targets runtime poolId event = false then none
    else (rowSlot (.obj event)).bind fun slot => (tradeFromEvent runtime poolId slot slot event).toOption
  | _ => none

/-- The swaps of a pair from its creation to the latest slot. -/
def history (pair : Pair) (tape : List Json) : List Swap :=
  Windows.between Swap.blockNumber pair.createdSlot pair.latestSlot (tape.filterMap (swapOf runtime pair.poolId))

end Tape

section Rows

variable {runtime : Runtime} {pair : Pair} {wanted : Wanted}

/-- A swap lies in its window and does not depend on it. -/
theorem tradeFromEvent_ok {poolId : Text} {fromSlot toSlot : Nat} {event : Dict Text Json} {swap : Swap}
    (read : tradeFromEvent runtime poolId fromSlot toSlot event = .ok swap) :
    (fromSlot ≤ swap.blockNumber ∧ swap.blockNumber ≤ toSlot) ∧ rowSlot (.obj event) = some swap.blockNumber ∧
      (∀ low high, low ≤ swap.blockNumber ∧ swap.blockNumber ≤ high →
        tradeFromEvent runtime poolId low high event = .ok swap) := by
  unfold tradeFromEvent at read
  obtain ⟨_, kind, read⟩ := Result.bind_eq_ok.mp read
  obtain ⟨_, pool, read⟩ := Result.bind_eq_ok.mp read
  obtain ⟨⟨side, size, quoteAmount⟩, leg, read⟩ := Result.bind_eq_ok.mp read
  obtain ⟨price, priced, read⟩ := Result.bind_eq_ok.mp read
  obtain ⟨_, close, read⟩ := Result.bind_eq_ok.mp read
  obtain ⟨⟨block, blockNumber⟩, slot, read⟩ := Result.bind_eq_ok.mp read
  obtain ⟨_, inside, read⟩ := Result.bind_eq_ok.mp read
  obtain ⟨timestamp, stamped, read⟩ := Result.bind_eq_ok.mp read
  obtain ⟨transactionIndex, transaction, read⟩ := Result.bind_eq_ok.mp read
  obtain ⟨eventIndex, indexed, read⟩ := Result.bind_eq_ok.mp read
  obtain ⟨transactionId, identified, read⟩ := Result.bind_eq_ok.mp read
  obtain ⟨maker, made, read⟩ := Result.bind_eq_ok.mp read
  cases read
  refine ⟨require_eq_ok.mp inside, ?_, ?_⟩
  · rw [rowSlot, slot]
    rfl
  · intro low high within
    unfold tradeFromEvent
    have passes : require (low ≤ blockNumber ∧ blockNumber ≤ high)
        (text "MetaDAO history event blockNumber falls outside its requested slot window.") = .ok () :=
      require_eq_ok.mpr within
    simp only [kind, pool, leg, priced, close, slot, passes, stamped, transaction, indexed, identified, made, bind,
      Except.bind]
    rfl

theorem swapOf_slot {poolId : Text} {row : Json} {swap : Swap} (read : swapOf runtime poolId row = some swap) :
    rowSlot row = some swap.blockNumber := by
  cases row with
  | obj event =>
    rw [swapOf] at read
    split_ifs at read
    obtain ⟨slot, found, read⟩ := Option.bind_eq_some_iff.mp read
    exact (tradeFromEvent_ok (Result.toOption_eq_some read)).2.1
  | _ => cases read

theorem swapOf_of_read {poolId : Text} {fromSlot toSlot : Nat} {event : Dict Text Json} {swap : Swap}
    (own : targets runtime poolId event ≠ false) (read : tradeFromEvent runtime poolId fromSlot toSlot event = .ok swap) :
    swapOf runtime poolId (.obj event) = some swap := by
  obtain ⟨_, slot, anywhere⟩ := tradeFromEvent_ok read
  rw [swapOf, if_neg own, slot, Option.bind_some, anywhere _ _ ⟨le_refl _, le_refl _⟩]
  rfl

/-- A scan after some more swaps. -/
structure Adds (wanted : Wanted) (scan later : Scan) (swaps : List Swap) : Prop where
  trades : later.trades = scan.trades ++ swaps.filter wanted.admits
  seen : later.seenTradeIds = scan.seenTradeIds ++ swaps.map Swap.tradeId
  fresh : scan.seenTradeIds.Nodup → later.seenTradeIds.Nodup
  scannedFromSlot : later.scannedFromSlot = scan.scannedFromSlot
  toSlot : later.toSlot = scan.toSlot
  queried : later.queried = scan.queried

theorem Adds.none (scan : Scan) : Adds wanted scan scan [] :=
  ⟨by simp, by simp, id, rfl, rfl, rfl⟩

theorem Adds.append {first second third : Scan} {swaps more : List Swap} (before : Adds wanted first second swaps)
    (after : Adds wanted second third more) : Adds wanted first third (swaps ++ more) where
  trades := by rw [after.trades, before.trades, List.filter_append, List.append_assoc]
  seen := by rw [after.seen, before.seen, List.map_append, List.append_assoc]
  fresh nodup := after.fresh (before.fresh nodup)
  scannedFromSlot := after.scannedFromSlot.trans before.scannedFromSlot
  toSlot := after.toSlot.trans before.toSlot
  queried := after.queried.trans before.queried

theorem takeRow_adds {fromSlot toSlot : Nat} {scan later : Scan} {row : Json}
    (taken : takeRow runtime pair wanted fromSlot toSlot scan row = .ok later) :
    Adds wanted scan later (swapOf runtime pair.poolId row).toList := by
  cases row with
  | obj event =>
    rw [takeRow] at taken
    by_cases own : targets runtime pair.poolId event = false
    · rw [if_pos own] at taken
      cases taken
      rw [swapOf, if_pos own]
      exact Adds.none _
    · rw [if_neg own] at taken
      obtain ⟨swap, read, taken⟩ := Result.bind_eq_ok.mp taken
      obtain ⟨_, _, taken⟩ := Result.bind_eq_ok.mp taken
      obtain ⟨_, fresh, taken⟩ := Result.bind_eq_ok.mp taken
      have fresh := require_eq_ok.mp fresh
      cases taken
      rw [swapOf_of_read own read]
      refine ⟨?_, by simp, ?_, rfl, rfl, rfl⟩
      · cases admitted : wanted.admits swap <;> simp [admitted]
      · intro nodup
        apply List.nodup_append.mpr
        refine ⟨nodup, List.nodup_singleton _, ?_⟩
        intro old member new single same
        rw [List.mem_singleton.mp single] at same
        exact fresh (same ▸ member)
  | _ =>
    cases taken
    exact Adds.none _

theorem foldlM_takeRow_adds {fromSlot toSlot : Nat} {scan later : Scan} {rows : List Json}
    (taken : rows.foldlM (takeRow runtime pair wanted fromSlot toSlot) scan = .ok later) :
    Adds wanted scan later (rows.filterMap (swapOf runtime pair.poolId)) := by
  induction rows generalizing scan with
  | nil =>
    cases taken
    exact Adds.none _
  | cons row rest ih =>
    rw [List.foldlM_cons] at taken
    obtain ⟨next, here, taken⟩ := Result.bind_eq_ok.mp taken
    have both := (takeRow_adds here).append (ih taken)
    cases read : swapOf runtime pair.poolId row with
    | none =>
      rw [read] at both
      simpa [List.filterMap_cons, read] using both
    | some swap =>
      rw [read] at both
      simpa [List.filterMap_cons, read] using both

end Rows

section Windowed

variable {runtime : Runtime} {pair : Pair} {wanted : Wanted} {tape : List Json}

/-- The rows of a range hold the swaps of the range. -/
theorem filterMap_inSlots (poolId : Text) (fromSlot toSlot : Nat) :
    (tape.filter (inSlots fromSlot toSlot)).filterMap (swapOf runtime poolId) =
      Windows.between Swap.blockNumber fromSlot toSlot (tape.filterMap (swapOf runtime poolId)) := by
  induction tape with
  | nil => rfl
  | cons row rest ih =>
    cases read : swapOf runtime poolId row with
    | none =>
      rw [List.filterMap_cons_none read, ← ih, List.filter_cons]
      split
      · exact List.filterMap_cons_none read
      · rfl
    | some swap =>
      have slot : inSlots fromSlot toSlot row = decide (fromSlot ≤ swap.blockNumber ∧ swap.blockNumber ≤ toSlot) := by
        rw [inSlots, swapOf_slot read]
        rfl
      rw [List.filterMap_cons_some read, List.filter_cons, slot, Windows.between, List.filter_cons]
      split
      · rw [List.filterMap_cons_some read, ih]
        rfl
      · exact ih

/-- A scan that has taken the swaps from a slot up. -/
structure Covered (runtime : Runtime) (pair : Pair) (wanted : Wanted) (tape : List Json) (least : Nat) (scan : Scan) :
    Prop where
  trades : scan.trades.Perm
    ((Windows.between Swap.blockNumber least pair.latestSlot (history runtime pair tape)).filter wanted.admits)
  listed : (scan.trades.map Swap.tradeId).Sublist scan.seenTradeIds
  distinct : scan.seenTradeIds.Nodup
  windows : Windows.Divide scan.queried least pair.latestSlot

theorem Covered.start : Covered runtime pair wanted tape (pair.latestSlot + 1) (Scan.start pair) where
  trades := by
    rw [Windows.between_empty]
    exact List.Perm.refl []
  listed := List.Sublist.refl []
  distinct := List.nodup_nil
  windows := Windows.Divide.nil pair.latestSlot

/-- One window covers the slots that it asks for. -/
theorem takeWindow_covered {endpoint : Endpoint} (exact : endpoint.Exact tape) {limits : ScanLimits} {fromSlot : Nat}
    {scan later : Scan} (covered : Covered runtime pair wanted tape (scan.toSlot + 1) scan)
    (created : pair.createdSlot ≤ fromSlot) (order : fromSlot ≤ scan.toSlot) (inside : scan.toSlot ≤ pair.latestSlot)
    (taken : takeWindow runtime endpoint limits pair wanted fromSlot scan = .ok later) :
    Covered runtime pair wanted tape fromSlot later ∧ later.reachedCreation = decide (fromSlot = pair.createdSlot) ∧
      later.scannedFromSlot = min scan.scannedFromSlot fromSlot ∧ later.queried.length = scan.queried.length + 1 := by
  unfold takeWindow at taken
  obtain ⟨payload, answered, taken⟩ := Result.bind_eq_ok.mp taken
  obtain ⟨rows, shaped, taken⟩ := Result.bind_eq_ok.mp taken
  obtain ⟨_, _, taken⟩ := Result.bind_eq_ok.mp taken
  obtain ⟨filled, folded, taken⟩ := Result.bind_eq_ok.mp taken
  cases taken
  have adds := foldlM_takeRow_adds folded
  have served := exact _ _ _ _ answered (demand_eq_ok.mp shaped)
  have swaps : (rows.filterMap (swapOf runtime pair.poolId)).Perm
      (Windows.between Swap.blockNumber fromSlot scan.toSlot (history runtime pair tape)) := by
    have read := served.filterMap (swapOf runtime pair.poolId)
    rw [filterMap_inSlots] at read
    rwa [history, Windows.between_between _ created inside]
  refine ⟨⟨?_, ?_, ?_, ?_⟩, rfl, adds.scannedFromSlot, ?_⟩
  · -- what was taken before lies above the window
    have parts := (Windows.between_append_perm Swap.blockNumber order inside (history runtime pair tape)).filter
      wanted.admits
    rw [List.filter_append] at parts
    rw [adds.trades]
    exact (covered.trades.append (swaps.filter _)).trans parts
  · rw [adds.trades, adds.seen, List.map_append]
    exact covered.listed.append (List.filter_sublist.map _)
  · exact adds.fresh covered.distinct
  · rw [adds.queried]
    exact covered.windows.extend order inside
  · rw [adds.queried, List.length_append]
    rfl

/-- A scan that is about to ask for the window below its slot. -/
structure Ready (runtime : Runtime) (limits : ScanLimits) (pair : Pair) (wanted : Wanted) (tape : List Json) (scan : Scan) :
    Prop where
  covered : Covered runtime pair wanted tape (scan.toSlot + 1) scan
  created : pair.createdSlot ≤ scan.toSlot
  inside : scan.toSlot ≤ pair.latestSlot
  lowest : scan.toSlot ≤ scan.scannedFromSlot
  spent : scan.toSlot + scan.queried.length * (limits.slotSpan + 1) = pair.latestSlot

/-- The slot that so many windows reach, if nothing ends the scan before. -/
def scanStart (limits : ScanLimits) (pair : Pair) (windows : Nat) : Nat :=
  max pair.createdSlot (pair.latestSlot + 1 - windows * (limits.slotSpan + 1))

/-- A scan at its end, for so many windows at most. -/
structure Finished (runtime : Runtime) (limits : ScanLimits) (pair : Pair) (wanted : Wanted) (tape : List Json)
    (windows : Nat) (scan : Scan) : Prop where
  covered : Covered runtime pair wanted tape scan.scannedFromSlot scan
  created : pair.createdSlot ≤ scan.scannedFromSlot
  reached : scan.reachedCreation = decide (scan.scannedFromSlot = pair.createdSlot)
  stopped : scan.reachedCreation = true ∨ scan.satisfies wanted = true ∨ scan.queried.length = windows
  lowest : wanted.desiredLimit = none → scan.scannedFromSlot = scanStart limits pair windows

theorem Ready.start {limits : ScanLimits} (created : pair.createdSlot ≤ pair.latestSlot) :
    Ready runtime limits pair wanted tape (Scan.start pair) :=
  ⟨Covered.start, created, le_refl _, le_refl _, by simp [Scan.start]⟩

theorem satisfies_of_no_limit {scan : Scan} (unlimited : wanted.desiredLimit = none) : scan.satisfies wanted = false := by
  simp [Scan.satisfies, unlimited]

/-- The windows that are left end the scan. -/
theorem takeWindows_finished {endpoint : Endpoint} (exact : endpoint.Exact tape) {limits : ScanLimits} {windows left : Nat}
    {scan final : Scan} (ready : Ready runtime limits pair wanted tape scan) (budget : scan.queried.length + left = windows)
    (more : 0 < left) (taken : takeWindows runtime endpoint limits pair wanted left scan = .ok final) :
    Finished runtime limits pair wanted tape windows final := by
  induction left generalizing scan with
  | zero => exact absurd more (lt_irrefl 0)
  | succ left ih =>
    rw [takeWindows] at taken
    obtain ⟨later, window, taken⟩ := Result.bind_eq_ok.mp taken
    have created : pair.createdSlot ≤ windowStart limits pair scan := le_max_left _ _
    have order : windowStart limits pair scan ≤ scan.toSlot := max_le ready.created (Nat.sub_le _ _)
    obtain ⟨covered, reached, scanned, counted⟩ := takeWindow_covered exact ready.covered created order ready.inside window
    rw [min_eq_right (order.trans ready.lowest)] at scanned
    have spent := ready.spent
    have budgeted : windows * (limits.slotSpan + 1) =
        scan.queried.length * (limits.slotSpan + 1) + left * (limits.slotSpan + 1) + (limits.slotSpan + 1) := by
      rw [← budget]
      ring
    have one : later.queried.length * (limits.slotSpan + 1) =
        scan.queried.length * (limits.slotSpan + 1) + (limits.slotSpan + 1) := by
      rw [counted]
      ring
    -- A window that does not begin at the creation takes its whole span.
    have whole : windowStart limits pair scan ≠ pair.createdSlot →
        windowStart limits pair scan = scan.toSlot - limits.slotSpan ∧
          pair.createdSlot < scan.toSlot - limits.slotSpan := by
      intro other
      unfold windowStart at other ⊢
      omega
    have reaches : windowStart limits pair scan = pair.createdSlot → scan.toSlot - limits.slotSpan ≤ pair.createdSlot := by
      intro here
      unfold windowStart at here
      omega
    split at taken
    · rename_i stops
      cases taken
      refine ⟨scanned ▸ covered, scanned ▸ created, scanned ▸ reached, ?_, ?_⟩
      · rcases Bool.or_eq_true_iff.mp stops with creation | enough
        · exact .inl creation
        · exact .inr (.inl enough)
      · intro unlimited
        rw [satisfies_of_no_limit unlimited, Bool.or_false, reached] at stops
        have here := of_decide_eq_true stops
        have below := reaches here
        rw [scanned, here, scanStart, budgeted]
        omega
    · rename_i continues
      have below : windowStart limits pair scan ≠ pair.createdSlot := by
        intro here
        rw [reached, here] at continues
        simp at continues
      obtain ⟨start, above⟩ := whole below
      have ready : Ready runtime limits pair wanted tape { later with toSlot := windowStart limits pair scan - 1 } := by
        refine ⟨?_, ?_, ?_, ?_, ?_⟩
        · have next : windowStart limits pair scan - 1 + 1 = windowStart limits pair scan := by omega
          change Covered runtime pair wanted tape (windowStart limits pair scan - 1 + 1) _
          rw [next]
          exact ⟨covered.trades, covered.listed, covered.distinct, covered.windows⟩
        · change pair.createdSlot ≤ windowStart limits pair scan - 1
          omega
        · change windowStart limits pair scan - 1 ≤ pair.latestSlot
          have := ready.inside
          omega
        · change windowStart limits pair scan - 1 ≤ later.scannedFromSlot
          omega
        · change windowStart limits pair scan - 1 + later.queried.length * (limits.slotSpan + 1) = pair.latestSlot
          omega
      cases left with
      | zero =>
        cases taken
        have last : later.queried.length = windows := by omega
        rw [← scanned] at covered created reached
        refine ⟨⟨covered.trades, covered.listed, covered.distinct, covered.windows⟩, created, reached, .inr (.inr last), ?_⟩
        intro _
        change later.scannedFromSlot = scanStart limits pair windows
        rw [scanned, scanStart, budgeted]
        omega
      | succ left =>
        apply ih ready _ (Nat.succ_pos left) taken
        change later.queried.length + (left + 1) = windows
        omega

theorem boundedInteger_ok {value : Json} {least most : ℤ} {malformed outside : Text} {number : Nat}
    (read : boundedInteger runtime value least most malformed outside = .ok number) : least ≤ number := by
  unfold boundedInteger at read
  split at read
  · cases read
  · split at read
    · rename_i given _
      split at read
      · cases read
      · rename_i right
        have bounds : least ≤ given := not_lt.mp fun below => right (.inr (.inl below))
        obtain rfl := Except.ok.inj read
        omega
    · cases read

/-- At least one window is asked for. -/
theorem maxWindows_pos {config : Dict Text Json} {limits : ScanLimits}
    (read : historyScanLimits runtime config = .ok limits) : 0 < limits.maxWindows := by
  unfold historyScanLimits at read
  obtain ⟨_, _, read⟩ := Result.bind_eq_ok.mp read
  obtain ⟨count, windows, read⟩ := Result.bind_eq_ok.mp read
  obtain ⟨_, _, read⟩ := Result.bind_eq_ok.mp read
  obtain ⟨_, _, read⟩ := Result.bind_eq_ok.mp read
  cases read
  have positive : (1 : ℤ) ≤ count := boundedInteger_ok windows
  exact_mod_cast positive

theorem readPair_ok {endpoint : Endpoint} {contractId : Text} (read : readPair runtime endpoint contractId = .ok pair) :
    pair.createdSlot ≤ pair.latestSlot := by
  unfold readPair at read
  obtain ⟨_, _, read⟩ := Result.bind_eq_ok.mp read
  unfold readTicker at read
  -- eighteen steps come before the slots are compared
  iterate 18 obtain ⟨_, _, read⟩ := Result.bind_eq_ok.mp read
  obtain ⟨_, order, read⟩ := Result.bind_eq_ok.mp read
  cases read
  exact require_eq_ok.mp order

/-- A scan that a caller gets. -/
structure Scanned (runtime : Runtime) (config : Dict Text Json) (endpoint : Endpoint) (contractId : Text) (wanted : Wanted)
    (tape : List Json) (pair : Pair) (limits : ScanLimits) (scan : Scan) : Prop where
  read : readPair runtime endpoint contractId = .ok pair
  bounded : historyScanLimits runtime config = .ok limits
  finished : Finished runtime limits pair wanted tape limits.maxWindows scan
  creation : wanted.requireCreationCoverage = true → scan.reachedCreation = true
  cutoff : wanted.requireDesiredAfterCutoff = true →
    (wanted.desiredLimit.all fun desired => decide (desired ≤ scan.trades.length)) = true ∨ scan.reachedCreation = true

theorem scanPublicTrades_scanned {endpoint : Endpoint} (exact : endpoint.Exact tape) {config : Dict Text Json}
    {contractId : Text} {scan : Scan}
    (scanned : scanPublicTrades runtime endpoint config contractId wanted = .ok (pair, scan)) :
    ∃ limits, Scanned runtime config endpoint contractId wanted tape pair limits scan := by
  unfold scanPublicTrades at scanned
  obtain ⟨_, read, scanned⟩ := Result.bind_eq_ok.mp scanned
  obtain ⟨limits, bounded, scanned⟩ := Result.bind_eq_ok.mp scanned
  obtain ⟨_, windows, scanned⟩ := Result.bind_eq_ok.mp scanned
  obtain ⟨_, creation, scanned⟩ := Result.bind_eq_ok.mp scanned
  obtain ⟨_, _, scanned⟩ := Result.bind_eq_ok.mp scanned
  obtain ⟨_, cutoff, scanned⟩ := Result.bind_eq_ok.mp scanned
  cases scanned
  have finished := takeWindows_finished exact (Ready.start (readPair_ok read)) (Nat.zero_add _) (maxWindows_pos bounded)
    windows
  exact ⟨limits, read, bounded, finished, require_eq_ok.mp creation, require_eq_ok.mp cutoff⟩

end Windowed

/-! ## Trades, newest first -/

section Newest

theorem orderKey_lt {a b : Swap} (below : a.blockNumber < b.blockNumber) : a.orderKey < b.orderKey :=
  Prod.Lex.toLex_lt_toLex.mpr (.inl below)

theorem tradeId_of_orderKey {a b : Swap} (same : a.orderKey = b.orderKey) : a.tradeId = b.tradeId := by
  have parts := toLex.injective same
  have rest := toLex.injective (Prod.ext_iff.mp parts).2
  have more := toLex.injective (Prod.ext_iff.mp rest).2
  have last := toLex.injective (Prod.ext_iff.mp more).2
  exact (Prod.ext_iff.mp last).1

/-- Swaps with identifiers of their own have one order. -/
theorem newestFirst_perm {swaps others : List Swap} (perm : swaps.Perm others)
    (distinct : (swaps.map Swap.tradeId).Nodup) : newestFirst swaps = newestFirst others := by
  have : IsTrans Swap fun a b => b.orderKey ≤ a.orderKey := ⟨fun _ _ _ first second => second.trans first⟩
  have : Std.Total fun a b : Swap => b.orderKey ≤ a.orderKey := ⟨fun a b => le_total b.orderKey a.orderKey⟩
  have left := List.perm_insertionSort (fun a b : Swap => b.orderKey ≤ a.orderKey) swaps
  have right := List.perm_insertionSort (fun a b : Swap => b.orderKey ≤ a.orderKey) others
  apply (left.trans (perm.trans right.symm)).eq_of_pairwise _ (List.pairwise_insertionSort _ _)
    (List.pairwise_insertionSort _ _)
  intro a b first second above below
  have inside : b ∈ swaps := perm.mem_iff.mpr (right.mem_iff.mp second)
  exact List.inj_on_of_nodup_map distinct (left.mem_iff.mp first) inside (tradeId_of_orderKey (le_antisymm below above))

/-- The newest swaps are those above a slot, as long as there are enough of them. -/
theorem take_newestFirst {swaps : List Swap} {slot desired : Nat}
    (enough : desired ≤ (swaps.filter fun swap => decide (slot ≤ swap.blockNumber)).length) :
    (newestFirst swaps).take desired =
      (newestFirst (swaps.filter fun swap => decide (slot ≤ swap.blockNumber))).take desired := by
  have : IsTrans Swap fun a b => b.orderKey ≤ a.orderKey := ⟨fun _ _ _ first second => second.trans first⟩
  have : Std.Total fun a b : Swap => b.orderKey ≤ a.orderKey := ⟨fun a b => le_total b.orderKey a.orderKey⟩
  have parts : newestFirst swaps = newestFirst (swaps.filter fun swap => decide (slot ≤ swap.blockNumber)) ++
      newestFirst (swaps.filter fun swap => !decide (slot ≤ swap.blockNumber)) := by
    apply StableSort.insertionSort_eq_append
    intro a _ b _ low high
    have above : a.orderKey < b.orderKey := by
      apply orderKey_lt
      have low := of_decide_eq_false low
      have high := of_decide_eq_true high
      omega
    exact not_le.mpr above
  rw [parts]
  apply List.take_append_of_le_length
  rwa [newestFirst, List.length_insertionSort]

end Newest

section Exact

variable {runtime : Runtime} {pair : Pair} {wanted : Wanted} {tape : List Json}

theorem Covered.distinct_trades {least : Nat} {scan : Scan} (covered : Covered runtime pair wanted tape least scan) :
    (scan.trades.map Swap.tradeId).Nodup := covered.listed.nodup covered.distinct

/-- What a scan has taken of the swaps that are asked for. -/
theorem Covered.filter_perm {least : Nat} {scan : Scan} (covered : Covered runtime pair wanted tape least scan) :
    scan.trades.Perm
      (((history runtime pair tape).filter wanted.admits).filter fun swap => decide (least ≤ swap.blockNumber)) := by
  have same : (Windows.between Swap.blockNumber least pair.latestSlot (history runtime pair tape)).filter wanted.admits =
      ((history runtime pair tape).filter wanted.admits).filter fun swap => decide (least ≤ swap.blockNumber) := by
    rw [Windows.between, List.filter_filter, List.filter_filter]
    apply List.filter_congr
    intro swap member
    have inside := ((Windows.mem_between Swap.blockNumber).mp member).2.2
    rw [Bool.and_comm]
    congr 1
    simp [inside]
  exact same ▸ covered.trades

/-- A scan down to the creation has taken every swap that is asked for. -/
theorem Covered.complete {scan : Scan} (covered : Covered runtime pair wanted tape pair.createdSlot scan) :
    scan.trades.Perm ((history runtime pair tape).filter wanted.admits) := by
  have all : ((history runtime pair tape).filter wanted.admits).filter
      (fun swap => decide (pair.createdSlot ≤ swap.blockNumber)) = (history runtime pair tape).filter wanted.admits := by
    apply List.filter_eq_self.mpr
    intro swap member
    have inside := ((Windows.mem_between Swap.blockNumber).mp (List.mem_of_mem_filter member)).2.1
    exact decide_eq_true inside
  exact all ▸ covered.filter_perm

end Exact

section Examples

def sampleRuntime : Runtime where
  casing := asciiCasing
  spell _ := []
  general _ := []

/-- The base58 of 32 zero bytes. -/
def zeroAddress : Text := List.replicate 32 49

/-- The base58 of 64 zero bytes. -/
def zeroSignature : Text := List.replicate 64 49

def sampleContract : Text := zeroAddress ++ text "_" ++ zeroAddress ++ text ":0"

def swapRow (slot index timestamp : ℤ) : Json :=
  .obj [(text "eventType", .str (text "swap")), (text "pairId", .str zeroAddress), (text "asset1In", .int 6),
    (text "asset0Out", .int 3), (text "priceNative", .int 2),
    (text "block", .obj [(text "blockNumber", .int slot), (text "blockTimestamp", .int timestamp)]),
    (text "txnIndex", .int index), (text "eventIndex", .int 0), (text "txnId", .str zeroSignature),
    (text "maker", .str zeroAddress)]

/-- A pair that is created in slot 10. The swap of slot 19 has an earlier time than that of slot 12. -/
def sampleTape : List Json := [swapRow 10 0 1000, swapRow 12 1 7300, swapRow 19 2 3700, swapRow 20 3 7250]

/-- An endpoint that answers from a tape. -/
def tapeEndpoint (tape : List Json) : Endpoint where
  outside :=
    { absoluteUrl := fun _ => true
      tickers := .ok (.arr [.obj [(text "ticker_id", .str (zeroAddress ++ text "_" ++ zeroAddress)),
        (text "pool_id", .str zeroAddress), (text "base_currency", .str zeroAddress),
        (text "target_currency", .str zeroAddress)]])
      quoted := id }
  pair _ := .ok (.obj [(text "pair", .obj [(text "id", .str zeroAddress), (text "asset0Id", .str zeroAddress),
    (text "asset1Id", .str zeroAddress), (text "createdAtBlockNumber", .int 10),
    (text "createdAtBlockTimestamp", .int 1000), (text "createdAtTxnId", .str zeroSignature)])])
  latestBlock := .ok (.obj [(text "block", .obj [(text "blockNumber", .int 20), (text "blockTimestamp", .int 9000)])])
  events fromSlot toSlot := .ok (.obj [(text "events", .arr (tape.filter (inSlots fromSlot toSlot)))])

theorem tapeEndpoint_exact (tape : List Json) : (tapeEndpoint tape).Exact tape := by
  intro fromSlot toSlot payload rows answered shaped
  cases answered
  cases shaped
  exact List.Perm.refl _

def samplePair : Pair := ⟨sampleContract, zeroAddress, 10, 1000, zeroSignature, 20⟩

theorem splitContractId_sample :
    Venue.MetaDao.splitContractId sampleContract = .ok (zeroAddress ++ text "_" ++ zeroAddress) := by
  have parts : splitLast (strip sampleContract) = some (zeroAddress ++ text "_" ++ zeroAddress, text "0") := by
    decide +kernel
  have clean : ∀ c ∈ text "\\/?#%", c ∉ strip (zeroAddress ++ text "_" ++ zeroAddress) := by
    have none : (text "\\/?#%").all (fun c => decide (c ∉ strip (zeroAddress ++ text "_" ++ zeroAddress))) = true := by
      decide +kernel
    intro c member
    exact of_decide_eq_true (List.all_eq_true.mp none c member)
  have whole : strip (zeroAddress ++ text "_" ++ zeroAddress) = zeroAddress ++ text "_" ++ zeroAddress := by decide +kernel
  unfold Venue.MetaDao.splitContractId Venue.MetaDao.requiredTickerId
  apply Result.bind_eq_ok.mpr
  refine ⟨_, demand_eq_ok.mpr parts, Result.bind_eq_ok.mpr ⟨(), require_eq_ok.mpr rfl, ?_⟩⟩
  apply Result.bind_eq_ok.mpr
  refine ⟨(), require_eq_ok.mpr ⟨?_, clean, ?_⟩, congrArg Except.ok whole⟩
  · rw [whole]
    decide +kernel
  · decide +kernel

theorem readPair_sample : readPair sampleRuntime (tapeEndpoint sampleTape) sampleContract = .ok samplePair := by
  have found : ((Except.ok (zeroAddress ++ text "_" ++ zeroAddress) : Except Stopped Text) >>=
      fun tickerId => readTicker sampleRuntime (tapeEndpoint sampleTape) tickerId).toOption = some samplePair := by
    decide +kernel
  rw [readPair, splitContractId_sample]
  exact Result.toOption_eq_some found

end Examples

end MarketSentinel.Candles.MetaDao
