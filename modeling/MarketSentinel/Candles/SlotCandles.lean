import MarketSentinel.Candles.SlotScan

/-! Candles from a scan that may stop above the creation.

A scan stops at a slot, and a candle is a bucket of the clock. Swaps below the slot
may lie in the bucket of swaps above it, since the clock does not follow the slots.
-/

set_option autoImplicit false

namespace MarketSentinel.Candles.MetaDao

open Python Venue

section Completeness

variable (interval : Nat)

def bucketOf (swap : Swap) : ℤ := bucketTimestamp interval swap.timed

/-- The swaps not after an end. -/
def untilEnd (endTs : Option ℚ) (swaps : List Swap) : List Swap :=
  swaps.filter fun swap => endTs.all fun stop => decide ((swap.timestamp : ℚ) ≤ stop)

/-- The swaps of a bucket in the order of the chain. -/
def bucketTape (timestamp : ℤ) (swaps : List Swap) : List Timed :=
  (oldestFirst (swaps.filter fun swap => decide (bucketOf interval swap = timestamp))).map Swap.timed

/-- The figures of a candle are those of all swaps of its bucket. -/
def Complete (swaps : List Swap) (figures : Figures) : Prop :=
  figuresOf figures.timestamp (bucketTape interval figures.timestamp swaps) = some figures

instance (swaps : List Swap) (figures : Figures) : Decidable (Complete interval swaps figures) :=
  inferInstanceAs (Decidable (_ = _))

def above (cut : Nat) (swaps : List Swap) : List Swap := swaps.filter fun swap => decide (cut ≤ swap.blockNumber)

/-- No swap below the cut lies in the bucket of a swap above it, but for the earliest bucket above the cut. -/
def Settled (cut : Nat) (swaps : List Swap) : Prop :=
  ∀ missed ∈ swaps, missed.blockNumber < cut → ∀ seen ∈ above cut swaps, bucketOf interval seen = bucketOf interval missed →
    ∀ other ∈ above cut swaps, bucketOf interval seen ≤ bucketOf interval other

variable {interval}

theorem oldestFirst_perm {swaps others : List Swap} (perm : swaps.Perm others)
    (distinct : (swaps.map Swap.tradeId).Nodup) : oldestFirst swaps = oldestFirst others := by
  have : IsTrans Swap fun a b => a.orderKey ≤ b.orderKey := ⟨fun _ _ _ first second => first.trans second⟩
  have : Std.Total fun a b : Swap => a.orderKey ≤ b.orderKey := ⟨fun a b => le_total a.orderKey b.orderKey⟩
  have left := List.perm_insertionSort (fun a b : Swap => a.orderKey ≤ b.orderKey) swaps
  have right := List.perm_insertionSort (fun a b : Swap => a.orderKey ≤ b.orderKey) others
  apply (left.trans (perm.trans right.symm)).eq_of_pairwise _ (List.pairwise_insertionSort _ _)
    (List.pairwise_insertionSort _ _)
  intro a b first second above below
  have inside : b ∈ swaps := perm.mem_iff.mpr (right.mem_iff.mp second)
  exact List.inj_on_of_nodup_map distinct (left.mem_iff.mp first) inside (tradeId_of_orderKey (le_antisymm above below))

/-- A bucket of sorted swaps is the sorted bucket. -/
theorem group_oldestFirst (swaps : List Swap) (timestamp : ℤ) :
    Grouping.group (bucketTimestamp interval) timestamp ((oldestFirst swaps).map Swap.timed) =
      bucketTape interval timestamp swaps := by
  have : IsTrans Swap fun a b => a.orderKey ≤ b.orderKey := ⟨fun _ _ _ first second => first.trans second⟩
  have : Std.Total fun a b : Swap => a.orderKey ≤ b.orderKey := ⟨fun a b => le_total a.orderKey b.orderKey⟩
  rw [Grouping.group, List.filter_map, bucketTape, oldestFirst, oldestFirst, ← StableSort.filter_insertionSort]
  rfl

theorem mem_bucketTape {swaps : List Swap} {timestamp : ℤ} {trade : Timed} :
    trade ∈ bucketTape interval timestamp swaps ↔
      ∃ swap ∈ swaps, bucketOf interval swap = timestamp ∧ swap.timed = trade := by
  have members := List.perm_insertionSort (fun a b : Swap => a.orderKey ≤ b.orderKey)
    (swaps.filter fun swap => decide (bucketOf interval swap = timestamp))
  simp only [bucketTape, oldestFirst, List.mem_map, members.mem_iff, List.mem_filter, decide_eq_true_eq, and_assoc]

theorem bucketTape_ne_nil {swaps : List Swap} {swap : Swap} (member : swap ∈ swaps) :
    bucketTape interval (bucketOf interval swap) swaps ≠ [] :=
  List.ne_nil_of_mem (mem_bucketTape.mpr ⟨swap, member, rfl, rfl⟩)

/-- The earliest of some buckets, if any, is the one that goes. -/
theorem get?_withoutEarliest {filled : Dict Int Bucket} (timestamp : ℤ) :
    (withoutEarliest filled).get? timestamp =
      if ∀ other ∈ filled.map Prod.fst, timestamp ≤ other then none else filled.get? timestamp := by
  unfold withoutEarliest
  cases least : (filled.map Prod.fst).min? with
  | none =>
    have empty : filled = [] := List.map_eq_nil_iff.mp (List.min?_eq_none_iff.mp least)
    subst empty
    simp [Dict.get?]
  | some earliest =>
    obtain ⟨member, lowest⟩ := List.min?_eq_some_iff.mp least
    simp only [Dict.get?_erase]
    by_cases same : earliest = timestamp
    · subst same
      rw [if_pos rfl, if_pos lowest]
    · rw [if_neg same]
      split
      · rename_i first
        -- a timestamp below all keys is no key, unless it is the earliest one
        cases found : filled.get? timestamp with
        | none => rfl
        | some bucket =>
          have key : timestamp ∈ filled.map Prod.fst := List.mem_map.mpr ⟨_, Dict.mem_of_get? found, rfl⟩
          exact absurd (le_antisymm (lowest timestamp key) (first earliest member)) same
      · rfl

theorem keys_buckets {kept : List Timed} {timestamp : ℤ} :
    timestamp ∈ (buckets id interval kept).map Prod.fst ↔ ∃ trade ∈ kept, bucketTimestamp interval trade = timestamp := by
  have unique := @Grouping.keys_gather_nodup _ _ _ _ (bucketTimestamp interval) newBucket (Bucket.add id) kept
  have found := @Grouping.get?_gather _ _ _ _ (bucketTimestamp interval) newBucket (Bucket.add id) kept timestamp
  constructor
  · intro key
    obtain ⟨entry, member, rfl⟩ := List.mem_map.mp key
    have read := Dict.get?_of_mem unique member
    rw [found] at read
    cases members : Grouping.group (bucketTimestamp interval) entry.1 kept with
    | nil =>
      rw [members] at read
      cases read
    | cons trade rest =>
      have inside : trade ∈ Grouping.group (bucketTimestamp interval) entry.1 kept := members ▸ List.mem_cons_self
      exact ⟨trade, Grouping.mem_group.mp inside⟩
  · rintro ⟨trade, member, here⟩
    have inside : trade ∈ Grouping.group (bucketTimestamp interval) timestamp kept := Grouping.mem_group.mpr ⟨member, here⟩
    cases members : Grouping.group (bucketTimestamp interval) timestamp kept with
    | nil =>
      rw [members] at inside
      cases inside
    | cons first rest =>
      rw [members, Grouping.summary] at found
      exact List.mem_map.mpr ⟨_, Dict.mem_of_get? found, rfl⟩

theorem summary_figures {trades : List Timed} (sized : Sized trades) (timestamp : ℤ) :
    (Grouping.summary newBucket (Bucket.add id) trades).map (fun bucket => bucket.figures timestamp) =
      figuresOf timestamp trades := by
  cases trades with
  | nil => rfl
  | cons first rest =>
    have filled := figures_foldl_add keeps_id sized (newBucket first) rfl timestamp
    simp only [Grouping.summary, Option.map_some, filled]
    rw [List.map_cons, List.getLastD_cons]
    simp [figuresOf, newBucket]

/-- The trades that the buckets of a scan are filled with. -/
def keptTrades (interval : Nat) (start : Option ℤ) (scan : Scan) : List Timed :=
  ((oldestFirst scan.trades).map Swap.timed).filter fun trade =>
    start.all fun start => decide (start ≤ bucketTimestamp interval trade)

theorem sized_timed (swaps : List Swap) (positive : ∀ swap ∈ swaps, 0 < swap.size) : Sized (swaps.map Swap.timed) := by
  intro trade member
  obtain ⟨swap, inside, rfl⟩ := List.mem_map.mp member
  exact ⟨swap.size, rfl, positive swap inside⟩

/-- The figures that are shown: those of each bucket, but for the earliest one of a scan that was cut off. -/
theorem mem_candlesOfScan {runtime : Runtime} {resolution : Text} {start : Option ℤ} {pair : Pair} {scan : Scan}
    (sized : Sized (keptTrades interval start scan)) {figures : Figures} :
    (∃ candle ∈ candlesOfScan runtime interval resolution start pair scan, candle.figures = figures) ↔
      figuresOf figures.timestamp
          (Grouping.group (bucketTimestamp interval) figures.timestamp (keptTrades interval start scan)) = some figures ∧
        (scan.reachedCreation = false →
          ∃ other ∈ keptTrades interval start scan, bucketTimestamp interval other < figures.timestamp) := by
  have keys : ((buckets id interval (keptTrades interval start scan)).map Prod.fst).Nodup :=
    Grouping.keys_gather_nodup _
  have filled : ((buckets id interval (keptTrades interval start scan)).get? figures.timestamp).map
      (fun bucket => bucket.figures figures.timestamp) = figuresOf figures.timestamp
        (Grouping.group (bucketTimestamp interval) figures.timestamp (keptTrades interval start scan)) := by
    rw [buckets, Grouping.get?_gather, summary_figures (sized.group interval figures.timestamp)]
  have shown : ∀ entries : Dict Int Bucket, (entries.map Prod.fst).Nodup →
      ((∃ entry ∈ Grouping.ascending entries, entry.2.figures entry.1 = figures) ↔
        (entries.get? figures.timestamp).map (fun bucket => bucket.figures figures.timestamp) = some figures) := by
    intro entries unique
    constructor
    · rintro ⟨entry, member, same⟩
      have read := (Grouping.mem_ascending unique).mp member
      have stamp : figures.timestamp = entry.1 := by rw [← same]; rfl
      rw [stamp, read, Option.map_some, same]
    · intro read
      obtain ⟨bucket, found, same⟩ := Option.map_eq_some_iff.mp read
      exact ⟨(figures.timestamp, bucket), (Grouping.mem_ascending unique).mpr found, same⟩
  have listed : ∀ entries : Dict Int Bucket,
      (∃ candle ∈ (Grouping.ascending entries).map (fun entry => DerivedCandle.mk pair.contractId
        (entry.2.figures entry.1) (runtime.casing.lower (strip resolution)) pair.poolId entry.2.tradeIds scan.scannedFromSlot
        pair.latestSlot scan.reachedCreation
        (if scan.reachedCreation then text "complete_pair_scan" else text "bounded_slot_slice") (!scan.reachedCreation)),
        candle.figures = figures) ↔ ∃ entry ∈ Grouping.ascending entries, entry.2.figures entry.1 = figures := by
    intro entries
    simp only [List.mem_map, exists_exists_and_eq_and]
  unfold candlesOfScan
  rw [listed]
  change (∃ entry ∈ Grouping.ascending (if scan.reachedCreation = true then buckets id interval (keptTrades interval start scan)
    else withoutEarliest (buckets id interval (keptTrades interval start scan))), _) ↔ _
  cases scan.reachedCreation with
  | true =>
    rw [if_pos rfl, shown _ keys, filled]
    simp
  | false =>
    have fewer : ((withoutEarliest (buckets id interval (keptTrades interval start scan))).map Prod.fst).Nodup := by
      unfold withoutEarliest
      split
      · exact (Dict.keys_erase_sublist _ _).nodup keys
      · exact keys
    rw [if_neg (by decide), shown _ fewer, get?_withoutEarliest, ← filled]
    by_cases first : ∀ other ∈ (buckets id interval (keptTrades interval start scan)).map Prod.fst,
        figures.timestamp ≤ other
    · rw [if_pos first]
      constructor
      · intro nothing
        cases nothing
      · rintro ⟨_, earlier⟩
        obtain ⟨other, member, before⟩ := earlier rfl
        exact absurd (first _ (keys_buckets.mpr ⟨other, member, rfl⟩)) (not_le.mpr before)
    · rw [if_neg first]
      constructor
      · intro read
        refine ⟨read, fun _ => ?_⟩
        push Not at first
        obtain ⟨_, key, before⟩ := first
        obtain ⟨other, member, rfl⟩ := keys_buckets.mp key
        exact ⟨other, member, before⟩
      · exact fun both => both.1

theorem candlesOfScan_ascending {runtime : Runtime} {resolution : Text} {start : Option ℤ} {pair : Pair} {scan : Scan} :
    (candlesOfScan runtime interval resolution start pair scan).Pairwise
      fun a b => a.figures.timestamp < b.figures.timestamp := by
  have keys : ((buckets id interval (keptTrades interval start scan)).map Prod.fst).Nodup :=
    Grouping.keys_gather_nodup _
  unfold candlesOfScan
  dsimp only
  rw [List.pairwise_map]
  apply Grouping.ascending_strict
  split
  · exact keys
  · unfold withoutEarliest
    split
    · exact (Dict.keys_erase_sublist _ _).nodup keys
    · exact keys

theorem strictPositiveNumber_pos {value : Json} {label : String} {number : ℚ}
    (read : strictPositiveNumber value label = .ok number) : 0 < number := by
  unfold strictPositiveNumber at read
  split at read
  · split at read
    · cases read
    · rename_i given positive
      obtain rfl := Except.ok.inj read
      exact_mod_cast not_le.mp positive
  · split at read
    · cases read
    · rename_i given positive
      obtain rfl := Except.ok.inj read
      exact not_le.mp positive
  · cases read

theorem legs_size_pos {event : Dict Text Json} {side : Text} {size quoteAmount : ℚ}
    (read : legs event = .ok (side, size, quoteAmount)) : 0 < size := by
  unfold legs at read
  dsimp only at read
  split at read
  · cases read
  · split at read
    · obtain ⟨_, _, read⟩ := Result.bind_eq_ok.mp read
      obtain ⟨_, sized, read⟩ := Result.bind_eq_ok.mp read
      cases read
      exact strictPositiveNumber_pos sized
    · obtain ⟨_, sized, read⟩ := Result.bind_eq_ok.mp read
      obtain ⟨_, _, read⟩ := Result.bind_eq_ok.mp read
      cases read
      exact strictPositiveNumber_pos sized

theorem history_size_pos {runtime : Runtime} {pair : Pair} {tape : List Json} {swap : Swap}
    (member : swap ∈ history runtime pair tape) : 0 < swap.size := by
  obtain ⟨row, _, read⟩ := List.mem_filterMap.mp (List.mem_of_mem_filter member)
  cases row with
  | obj event =>
    rw [swapOf] at read
    split_ifs at read
    obtain ⟨slot, _, read⟩ := Option.bind_eq_some_iff.mp read
    have read := Result.toOption_eq_some read
    unfold tradeFromEvent at read
    obtain ⟨_, _, read⟩ := Result.bind_eq_ok.mp read
    obtain ⟨_, _, read⟩ := Result.bind_eq_ok.mp read
    obtain ⟨⟨side, size, quoteAmount⟩, leg, read⟩ := Result.bind_eq_ok.mp read
    obtain ⟨_, _, read⟩ := Result.bind_eq_ok.mp read
    obtain ⟨_, _, read⟩ := Result.bind_eq_ok.mp read
    obtain ⟨_, _, read⟩ := Result.bind_eq_ok.mp read
    obtain ⟨_, _, read⟩ := Result.bind_eq_ok.mp read
    obtain ⟨_, _, read⟩ := Result.bind_eq_ok.mp read
    obtain ⟨_, _, read⟩ := Result.bind_eq_ok.mp read
    obtain ⟨_, _, read⟩ := Result.bind_eq_ok.mp read
    obtain ⟨_, _, read⟩ := Result.bind_eq_ok.mp read
    obtain ⟨_, _, read⟩ := Result.bind_eq_ok.mp read
    cases read
    exact legs_size_pos leg
  | _ => cases read

theorem figuresOf_volume {timestamp : ℤ} {trades : List Timed} {figures : Figures}
    (shown : figuresOf timestamp trades = some figures) : figures.volume = .finite (total trades) := by
  cases trades with
  | nil => cases shown
  | cons first rest =>
    cases shown
    rfl

theorem total_append (trades others : List Timed) : total (trades ++ others) = total trades + total others := by
  simp [total]

theorem total_bucketTape (timestamp : ℤ) (swaps : List Swap) : total (bucketTape interval timestamp swaps) =
    total ((swaps.filter fun swap => decide (bucketOf interval swap = timestamp)).map Swap.timed) :=
  total_perm ((List.perm_insertionSort _ _).map Swap.timed)

/-- A bucket of swaps above a cut shows the figures of the whole bucket exactly when none of it lies below the cut. -/
theorem complete_iff {swaps trades : List Swap} {cut : Nat} {figures : Figures}
    (positive : ∀ swap ∈ swaps, 0 < swap.size)
    (taken : (trades.filter fun swap => decide (bucketOf interval swap = figures.timestamp)).Perm
      ((above cut swaps).filter fun swap => decide (bucketOf interval swap = figures.timestamp)))
    (distinct : (trades.map Swap.tradeId).Nodup)
    (shown : figuresOf figures.timestamp (bucketTape interval figures.timestamp trades) = some figures) :
    Complete interval swaps figures ↔
      ∀ missed ∈ swaps, missed.blockNumber < cut → bucketOf interval missed ≠ figures.timestamp := by
  have apart : ((trades.filter fun swap => decide (bucketOf interval swap = figures.timestamp)).map Swap.tradeId).Nodup :=
    (List.filter_sublist.map Swap.tradeId).nodup distinct
  constructor
  · intro complete missed member low here
    -- the swaps below the cut would add to the volume
    have parts := List.filter_append_perm (fun swap => decide (cut ≤ swap.blockNumber))
      (swaps.filter fun swap => decide (bucketOf interval swap = figures.timestamp))
    have high : (swaps.filter fun swap => decide (bucketOf interval swap = figures.timestamp)).filter
        (fun swap => decide (cut ≤ swap.blockNumber)) =
          (above cut swaps).filter fun swap => decide (bucketOf interval swap = figures.timestamp) := by
      rw [above, List.filter_filter, List.filter_filter]
      apply List.filter_congr
      intro swap _
      exact Bool.and_comm _ _
    rw [high] at parts
    have whole := total_perm ((taken.append_right _).trans parts |>.map Swap.timed)
    rw [List.map_append, total_append, ← total_bucketTape, ← total_bucketTape,
      PyFloat.finite.inj ((figuresOf_volume shown).symm.trans (figuresOf_volume complete))] at whole
    have nothing := left_eq_add.mp whole.symm
    have sized : Sized (((swaps.filter fun swap => decide (bucketOf interval swap = figures.timestamp)).filter
        fun swap => !decide (cut ≤ swap.blockNumber)).map Swap.timed) :=
      sized_timed _ fun swap inside => positive swap (List.mem_of_mem_filter (List.mem_of_mem_filter inside))
    have empty := List.map_eq_nil_iff.mp ((total_eq_zero_iff sized).mp nothing)
    have inside : missed ∈ (swaps.filter fun swap => decide (bucketOf interval swap = figures.timestamp)).filter
        fun swap => !decide (cut ≤ swap.blockNumber) := by
      simp [member, here, low]
    rw [empty] at inside
    cases inside
  · intro none
    have same : (above cut swaps).filter (fun swap => decide (bucketOf interval swap = figures.timestamp)) =
        swaps.filter fun swap => decide (bucketOf interval swap = figures.timestamp) := by
      rw [above, List.filter_filter]
      apply List.filter_congr
      intro swap member
      by_cases here : bucketOf interval swap = figures.timestamp
      · have high := not_lt.mp fun low => none swap member low here
        simp [here, high]
      · simp [here]
    rw [same] at taken
    rw [Complete, bucketTape, ← oldestFirst_perm taken apart]
    exact shown

theorem bucketOf_le (swap : Swap) : (bucketOf interval swap : ℚ) ≤ swap.timestamp := by
  change ((⌊(swap.timestamp : ℚ) / interval⌋ * (interval : ℤ) : ℤ) : ℚ) ≤ swap.timestamp
  push_cast
  by_cases none : (interval : ℚ) = 0
  · simp [none]
  · have positive : (0 : ℚ) < interval := lt_of_le_of_ne (Nat.cast_nonneg _) (Ne.symm none)
    calc (⌊(swap.timestamp : ℚ) / interval⌋ : ℚ) * interval ≤ swap.timestamp / interval * interval := by
          apply mul_le_mul_of_nonneg_right (Int.floor_le _) positive.le
      _ = swap.timestamp := div_mul_cancel₀ _ none

/-- A bucket that is kept holds the trades of the scan in it, and does not begin before the start. -/
theorem group_keptTrades {start : Option ℤ} {scan : Scan} {timestamp : ℤ}
    (some : Grouping.group (bucketTimestamp interval) timestamp (keptTrades interval start scan) ≠ []) :
    Grouping.group (bucketTimestamp interval) timestamp (keptTrades interval start scan) =
      bucketTape interval timestamp scan.trades ∧ ∀ first ∈ start, first ≤ timestamp := by
  obtain ⟨trade, member⟩ := List.exists_mem_of_ne_nil _ some
  obtain ⟨inside, here⟩ := Grouping.mem_group.mp member
  have admitted := (List.mem_filter.mp inside).2
  rw [here] at admitted
  constructor
  · rw [← group_oldestFirst, Grouping.group, Grouping.group, keptTrades, List.filter_filter]
    apply List.filter_congr
    intro other _
    by_cases same : bucketTimestamp interval other = timestamp
    · simp [same, admitted]
    · simp [same]
  · intro first given
    cases given
    simpa using admitted

theorem mem_keptTrades {scan : Scan} {trade : Timed} :
    trade ∈ keptTrades interval none scan ↔ ∃ swap ∈ scan.trades, swap.timed = trade := by
  have members := List.perm_insertionSort (fun a b : Swap => a.orderKey ≤ b.orderKey) scan.trades
  simp only [keptTrades, oldestFirst, Option.all_none, List.filter_true, List.mem_map, members.mem_iff]

section Emitted

variable {runtime : Runtime} {config : Dict Text Json} {endpoint : Endpoint} {contractId resolution : Text}
  {tape : List Json} {pair : Pair} {limits : ScanLimits} {scan : Scan} {start : Option ℤ} {endTs : Option ℚ}

theorem Scanned.trades_perm
    (scanned : Scanned runtime config endpoint contractId (candlesWanted start endTs) tape pair limits scan) :
    scan.trades.Perm (above (scanStart limits pair limits.maxWindows)
      ((history runtime pair tape).filter (candlesWanted start endTs).admits)) := by
  have cut := scanned.finished.lowest rfl
  have covered := scanned.finished.covered
  rw [cut] at covered
  exact covered.filter_perm

/-- The swaps of a bucket that begins at or after the start are taken, from the cut up and to the end. -/
theorem Scanned.bucket_perm
    (scanned : Scanned runtime config endpoint contractId (candlesWanted start endTs) tape pair limits scan) {timestamp : ℤ}
    (after : ∀ first ∈ start, first ≤ timestamp) :
    (scan.trades.filter fun swap => decide (bucketOf interval swap = timestamp)).Perm
      ((above (scanStart limits pair limits.maxWindows) (untilEnd endTs (history runtime pair tape))).filter
        fun swap => decide (bucketOf interval swap = timestamp)) := by
  have same : (above (scanStart limits pair limits.maxWindows)
      ((history runtime pair tape).filter (candlesWanted start endTs).admits)).filter
        (fun swap => decide (bucketOf interval swap = timestamp)) =
      (above (scanStart limits pair limits.maxWindows) (untilEnd endTs (history runtime pair tape))).filter
        fun swap => decide (bucketOf interval swap = timestamp) := by
    simp only [above, untilEnd, List.filter_filter]
    apply List.filter_congr
    intro swap _
    by_cases here : bucketOf interval swap = timestamp
    · have late : ∀ first ∈ start, (first : ℚ) ≤ swap.timestamp := by
        intro first given
        have order : (first : ℚ) ≤ bucketOf interval swap := by
          rw [here]
          exact_mod_cast after first given
        exact order.trans (bucketOf_le swap)
      cases start with
      | none => simp [Wanted.admits, candlesWanted]
      | some first => simp [Wanted.admits, candlesWanted, late first rfl]
    · simp [here]
  exact same ▸ scanned.trades_perm.filter _

theorem Scanned.positive
    (scanned : Scanned runtime config endpoint contractId (candlesWanted start endTs) tape pair limits scan) :
    ∀ swap ∈ scan.trades, 0 < swap.size := by
  intro swap member
  have inside := scanned.trades_perm.mem_iff.mp member
  exact history_size_pos (List.mem_of_mem_filter (List.mem_of_mem_filter inside))

theorem Scanned.sized
    (scanned : Scanned runtime config endpoint contractId (candlesWanted start endTs) tape pair limits scan) :
    Sized (keptTrades interval start scan) := by
  have all := sized_timed (oldestFirst scan.trades) fun swap member =>
    scanned.positive swap ((List.perm_insertionSort _ _).mem_iff.mp member)
  exact fun trade member => all trade (List.mem_of_mem_filter member)

/-- A scan that was cut off had no bounds. -/
theorem Scanned.unbounded
    (scanned : Scanned runtime config endpoint contractId (candlesWanted start endTs) tape pair limits scan)
    (cut : scan.reachedCreation = false) : start = none ∧ endTs = none := by
  have free : ¬ (start.isSome || endTs.isSome) = true := by
    intro bounded
    have reached := scanned.creation bounded
    rw [cut] at reached
    cases reached
  cases start with
  | none =>
    cases endTs with
    | none => exact ⟨rfl, rfl⟩
    | some stop => exact absurd rfl free
  | some first => exact absurd rfl free

/-- What a shown candle is made of. -/
theorem Scanned.shown
    (scanned : Scanned runtime config endpoint contractId (candlesWanted start endTs) tape pair limits scan)
    {candle : DerivedCandle} (member : candle ∈ candlesOfScan runtime interval resolution start pair scan) :
    (figuresOf candle.figures.timestamp (bucketTape interval candle.figures.timestamp scan.trades) = some candle.figures ∧
      ∀ first ∈ start, first ≤ candle.figures.timestamp) ∧
    (scan.reachedCreation = false →
      ∃ other ∈ keptTrades interval start scan, bucketTimestamp interval other < candle.figures.timestamp) := by
  obtain ⟨read, earlier⟩ := (mem_candlesOfScan scanned.sized).mp ⟨candle, member, rfl⟩
  have some : Grouping.group (bucketTimestamp interval) candle.figures.timestamp (keptTrades interval start scan) ≠ [] := by
    intro empty
    rw [empty] at read
    cases read
  obtain ⟨whole, after⟩ := group_keptTrades some
  rw [whole] at read
  exact ⟨⟨read, after⟩, earlier⟩

theorem Scanned.distinct
    (scanned : Scanned runtime config endpoint contractId (candlesWanted start endTs) tape pair limits scan) :
    (scan.trades.map Swap.tradeId).Nodup := scanned.finished.covered.distinct_trades

theorem untilEnd_size_pos {swap : Swap} (member : swap ∈ untilEnd endTs (history runtime pair tape)) : 0 < swap.size :=
  history_size_pos (List.mem_of_mem_filter member)

/-- A candle shows all scanned swaps of its bucket. -/
theorem Scanned.complete_above
    (scanned : Scanned runtime config endpoint contractId (candlesWanted start endTs) tape pair limits scan)
    {candle : DerivedCandle} (member : candle ∈ candlesOfScan runtime interval resolution start pair scan) :
    Complete interval (above (scanStart limits pair limits.maxWindows) (untilEnd endTs (history runtime pair tape)))
      candle.figures := by
  obtain ⟨⟨read, after⟩, _⟩ := scanned.shown member
  have twice : ∀ (cut : Nat) (swaps : List Swap), above cut (above cut swaps) = above cut swaps := by
    intro cut swaps
    exact List.filter_eq_self.mpr fun swap inside => (List.mem_filter.mp inside).2
  have taken := @Scanned.bucket_perm interval _ _ _ _ _ _ _ _ _ _ scanned _ after
  rw [← twice] at taken
  apply (complete_iff (fun swap inside => untilEnd_size_pos (List.mem_of_mem_filter inside)) taken scanned.distinct read).mpr
  intro missed inside low
  have high := of_decide_eq_true (List.mem_filter.mp inside).2
  omega

/-- All candles are complete exactly when the swaps below the cut are settled. -/
theorem Scanned.complete_iff_settled
    (scanned : Scanned runtime config endpoint contractId (candlesWanted start endTs) tape pair limits scan) :
    (∀ candle ∈ candlesOfScan runtime interval resolution start pair scan,
      Complete interval (untilEnd endTs (history runtime pair tape)) candle.figures) ↔
    Settled interval (scanStart limits pair limits.maxWindows) (untilEnd endTs (history runtime pair tape)) := by
  have created : scan.reachedCreation = true → scanStart limits pair limits.maxWindows = pair.createdSlot := by
    intro reached
    rw [← scanned.finished.lowest rfl]
    exact of_decide_eq_true (scanned.finished.reached ▸ reached)
  have nothing_below : scan.reachedCreation = true → ∀ missed ∈ untilEnd endTs (history runtime pair tape),
      ¬ missed.blockNumber < scanStart limits pair limits.maxWindows := by
    intro reached missed member low
    -- a scan that reached the creation has no slot below it
    have inside := ((Windows.mem_between Swap.blockNumber).mp (List.mem_of_mem_filter member)).2.1
    rw [created reached] at low
    omega
  have seen_iff : scan.reachedCreation = false → ∀ swap, swap ∈ scan.trades ↔
      swap ∈ above (scanStart limits pair limits.maxWindows) (untilEnd endTs (history runtime pair tape)) := by
    intro cut swap
    obtain ⟨rfl, rfl⟩ := scanned.unbounded cut
    exact scanned.trades_perm.mem_iff
  constructor
  · intro complete missed member low seen inside same other outside
    by_contra before
    have cut : scan.reachedCreation = false := by
      apply Bool.of_not_eq_true
      intro reached
      exact nothing_below reached missed member low
    have taken := (seen_iff cut seen).mpr inside
    have besides := (seen_iff cut other).mpr outside
    obtain ⟨rfl, rfl⟩ := scanned.unbounded cut
    -- the bucket of the missed swap is shown, since another bucket is earlier
    have filled : bucketTape interval (bucketOf interval seen) scan.trades ≠ [] := bucketTape_ne_nil taken
    obtain ⟨figures, read⟩ : ∃ figures, figuresOf (bucketOf interval seen)
        (bucketTape interval (bucketOf interval seen) scan.trades) = some figures :=
      Option.ne_none_iff_exists'.mp fun empty => filled (figuresOf_eq_none.mp empty)
    have stamp := figuresOf_timestamp read
    rw [← stamp] at read
    have whole : Grouping.group (bucketTimestamp interval) figures.timestamp (keptTrades interval none scan) =
        bucketTape interval figures.timestamp scan.trades := by
      rw [← group_oldestFirst]
      simp [keptTrades]
    obtain ⟨candle, shown, rfl⟩ := (@mem_candlesOfScan interval runtime resolution none pair scan
      scanned.sized _).mpr ⟨by rw [whole]; exact read,
        fun _ => ⟨other.timed, mem_keptTrades.mpr ⟨other, besides, rfl⟩, by rw [stamp]; exact not_le.mp before⟩⟩
    obtain ⟨⟨read, after⟩, _⟩ := scanned.shown shown
    have none := (complete_iff (fun swap inside => untilEnd_size_pos inside) (scanned.bucket_perm after) scanned.distinct
      read).mp (complete candle shown)
    exact none missed member low (same.symm.trans stamp.symm)
  · intro settled candle shown
    obtain ⟨⟨read, after⟩, earlier⟩ := scanned.shown shown
    apply (complete_iff (fun swap inside => untilEnd_size_pos inside) (scanned.bucket_perm after) scanned.distinct read).mpr
    intro missed member low here
    cases cut : scan.reachedCreation with
    | true => exact nothing_below cut missed member low
    | false =>
      obtain ⟨rfl, rfl⟩ := scanned.unbounded cut
      obtain ⟨_, kept, before⟩ := earlier cut
      obtain ⟨other, taken, rfl⟩ := mem_keptTrades.mp kept
      have filled : bucketTape interval candle.figures.timestamp scan.trades ≠ [] := by
        intro empty
        rw [empty] at read
        cases read
      obtain ⟨trade, inside⟩ := List.exists_mem_of_ne_nil _ filled
      obtain ⟨seen, held, bucket, _⟩ := mem_bucketTape.mp inside
      have least := settled missed member low seen ((seen_iff cut seen).mp held) (bucket.trans here.symm) other
        ((seen_iff cut other).mp taken)
      rw [bucket] at least
      exact absurd least (not_le.mpr before)

end Emitted

end Completeness

/-- The candles of a call ascend. Each shows all scanned swaps of its bucket and says whether the scan was cut off. After
a scan down to the creation they show all swaps of the pair, and after one that was cut off they do so exactly when no
swap below the cut lies in the bucket of a scanned swap, but for the earliest bucket. -/
theorem listCandles_complete_iff (runtime : Runtime) (endpoint : Endpoint) (tape : List Json) (exact : endpoint.Exact tape)
    (config : Dict Text Json) (contractId resolution : Text) (fromTimestamp toTimestamp : Option Json)
    (found : Option (Pair × Scan)) (candles : List DerivedCandle)
    (listed : listCandles runtime endpoint config contractId resolution fromTimestamp toTimestamp = .ok (found, candles)) :
    ∃ interval endTs, candleInterval runtime resolution = .ok interval ∧
      optionalTimestamp toTimestamp "to_timestamp" = .ok endTs ∧
      (candles.Pairwise fun a b => a.figures.timestamp < b.figures.timestamp) ∧ (found = none → candles = []) ∧
      ∀ pair scan, found = some (pair, scan) → ∃ limits,
        readPair runtime endpoint contractId = .ok pair ∧ historyScanLimits runtime config = .ok limits ∧
        scan.scannedFromSlot = scanStart limits pair limits.maxWindows ∧
        (scan.reachedCreation = false → fromTimestamp = none ∧ toTimestamp = none) ∧
        (∀ candle ∈ candles, candle.isPartial = !scan.reachedCreation ∧
          Complete interval (above scan.scannedFromSlot (untilEnd endTs (history runtime pair tape))) candle.figures) ∧
        (scan.reachedCreation = true →
          ∀ candle ∈ candles, Complete interval (untilEnd endTs (history runtime pair tape)) candle.figures) ∧
        ((∀ candle ∈ candles, Complete interval (untilEnd endTs (history runtime pair tape)) candle.figures) ↔
          Settled interval (scanStart limits pair limits.maxWindows) (untilEnd endTs (history runtime pair tape))) := by
  unfold listCandles at listed
  obtain ⟨interval, resolved, listed⟩ := Result.bind_eq_ok.mp listed
  obtain ⟨requested, readStart, listed⟩ := Result.bind_eq_ok.mp listed
  obtain ⟨endTs, readEnd, listed⟩ := Result.bind_eq_ok.mp listed
  obtain ⟨_, _, listed⟩ := Result.bind_eq_ok.mp listed
  refine ⟨interval, endTs, resolved, readEnd, ?_⟩
  dsimp only at listed
  split at listed
  · obtain ⟨_, _, listed⟩ := Result.bind_eq_ok.mp listed
    cases listed
    exact ⟨List.Pairwise.nil, fun _ => rfl, by simp⟩
  · obtain ⟨⟨pair, scan⟩, scanned, listed⟩ := Result.bind_eq_ok.mp listed
    cases listed
    obtain ⟨limits, scanned⟩ := scanPublicTrades_scanned exact scanned
    refine ⟨candlesOfScan_ascending, by simp, ?_⟩
    intro _ _ same
    cases same
    have lowest := scanned.finished.lowest rfl
    refine ⟨limits, scanned.read, scanned.bounded, lowest, ?_, ?_, ?_, scanned.complete_iff_settled⟩
    · intro cut
      obtain ⟨noStart, noEnd⟩ := scanned.unbounded cut
      constructor
      · cases fromTimestamp with
        | none => rfl
        | some given =>
          obtain ⟨_, _, rfl⟩ := Result.map_eq_ok.mp readStart
          cases noStart
      · cases toTimestamp with
        | none => rfl
        | some given =>
          obtain ⟨_, _, rfl⟩ := Result.map_eq_ok.mp readEnd
          cases noEnd
    · intro candle shown
      rw [lowest]
      refine ⟨?_, scanned.complete_above shown⟩
      obtain ⟨_, _, rfl⟩ := List.mem_map.mp shown
      rfl
    · intro reached
      apply scanned.complete_iff_settled.mpr
      intro missed member low
      have inside := ((Windows.mem_between Swap.blockNumber).mp (List.mem_of_mem_filter member)).2.1
      have bottom : scan.scannedFromSlot = pair.createdSlot := of_decide_eq_true (scanned.finished.reached ▸ reached)
      omega

section Examples

/-- One window of one slot. -/
def sampleLimits : Dict Text Json :=
  [(text "metadao_history_slot_window", .int 1), (text "metadao_history_max_windows", .int 1)]

/-- The bucket of the newest slot is shown, and a swap of an older slot lies in it. -/
theorem listCandles_cut_off :
    (tapeEndpoint sampleTape).Exact sampleTape ∧ ∃ pair scan candles,
      listCandles sampleRuntime (tapeEndpoint sampleTape) sampleLimits sampleContract (text "1h") none none =
        .ok (some (pair, scan), candles) ∧
      ∃ candle ∈ candles, ¬ Complete 3600 (history sampleRuntime pair sampleTape) candle.figures := by
  have shown : (listCandles sampleRuntime (tapeEndpoint sampleTape) sampleLimits sampleContract (text "1h") none
      none).toOption.any (fun result => result.1.any fun found => result.2.any fun candle =>
        decide (¬ Complete 3600 (history sampleRuntime found.1 sampleTape) candle.figures)) = true := by
    unfold listCandles scanPublicTrades
    rw [readPair_sample]
    decide +kernel
  refine ⟨tapeEndpoint_exact sampleTape, ?_⟩
  cases listed : listCandles sampleRuntime (tapeEndpoint sampleTape) sampleLimits sampleContract (text "1h") none none with
  | error stopped =>
    rw [listed] at shown
    cases shown
  | ok result =>
    rw [listed] at shown
    obtain ⟨found, candles⟩ := result
    cases found with
    | none => cases shown
    | some found =>
      obtain ⟨candle, member, missing⟩ := List.any_eq_true.mp shown
      exact ⟨found.1, found.2, candles, rfl, candle, member, of_decide_eq_true missing⟩

/-- The swaps below the cut are unsettled there. -/
theorem listCandles_unsettled :
    ∃ pair scan candles,
      listCandles sampleRuntime (tapeEndpoint sampleTape) sampleLimits sampleContract (text "1h") none none =
        .ok (some (pair, scan), candles) ∧
      ∃ interval limits, (∀ candle ∈ candles, candle.isPartial = !scan.reachedCreation ∧
          Complete interval (above scan.scannedFromSlot (untilEnd none (history sampleRuntime pair sampleTape)))
            candle.figures) ∧
        ((∀ candle ∈ candles, Complete interval (untilEnd none (history sampleRuntime pair sampleTape)) candle.figures) ↔
          Settled interval (scanStart limits pair limits.maxWindows)
            (untilEnd none (history sampleRuntime pair sampleTape))) := by
  have shown : (listCandles sampleRuntime (tapeEndpoint sampleTape) sampleLimits sampleContract (text "1h") none
      none).toOption.any (fun result => result.1.isSome) = true := by
    unfold listCandles scanPublicTrades
    rw [readPair_sample]
    decide +kernel
  cases listed : listCandles sampleRuntime (tapeEndpoint sampleTape) sampleLimits sampleContract (text "1h") none none with
  | error stopped =>
    rw [listed] at shown
    cases shown
  | ok result =>
    rw [listed] at shown
    obtain ⟨found, candles⟩ := result
    cases found with
    | none => cases shown
    | some found =>
      obtain ⟨interval, endTs, _, readEnd, _, _, each⟩ :=
        listCandles_complete_iff sampleRuntime _ _ (tapeEndpoint_exact sampleTape) _ _ _ _ _ _ _ listed
      cases readEnd
      obtain ⟨limits, _, _, _, _, seen, _, complete⟩ := each found.1 found.2 rfl
      exact ⟨found.1, found.2, candles, rfl, interval, limits, seen, complete⟩

end Examples

end MarketSentinel.Candles.MetaDao
