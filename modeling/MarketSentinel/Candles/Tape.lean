import Mathlib.Algebra.Order.BigOperators.Group.List
import Mathlib.Data.Rat.Floor
import MarketSentinel.Library.Floats
import MarketSentinel.Library.Grouping

/-! Candles that an adapter derives from a tape of trades.

Each bucket is filled in the order of the tape, so its first and last trade are
those of the tape and not those of the clock.
-/

set_option autoImplicit false

namespace MarketSentinel.Candles

open Python

structure MarketTrade where
  tradeId : Text
  side : Text
  price : ℚ
  size : PyFloat
  timestamp : Option ℚ
  deriving DecidableEq

/-- A trade with its time. -/
abbrev Timed := ℚ × MarketTrade

/-- The numbers of a candle. -/
structure Figures where
  timestamp : Int
  opening : ℚ
  high : ℚ
  low : ℚ
  closing : ℚ
  volume : PyFloat
  deriving DecidableEq

structure MarketCandle where
  contractId : Text
  figures : Figures
  resolution : Text
  intervalSeconds : Nat
  tradeIds : List Text

structure Bucket where
  opening : ℚ
  high : ℚ
  low : ℚ
  closing : ℚ
  volume : PyFloat
  tradeIds : List Text

/-- `int(timestamp // interval * interval)`. -/
def bucketTimestamp (interval : Nat) (trade : Timed) : Int := ⌊trade.1 / interval⌋ * interval

def newBucket (trade : Timed) : Bucket :=
  { opening := trade.2.price, high := trade.2.price, low := trade.2.price, closing := trade.2.price,
    volume := .finite 0, tradeIds := [] }

/-- Add a trade; two adapters clamp its size at zero. -/
def Bucket.add (counted : PyFloat → PyFloat) (bucket : Bucket) (trade : Timed) : Bucket where
  opening := bucket.opening
  high := max bucket.high trade.2.price
  low := min bucket.low trade.2.price
  closing := trade.2.price
  volume := bucket.volume.add (counted trade.2.size)
  tradeIds := bucket.tradeIds ++ [trade.2.tradeId]

/-- `max(0.0, size)`. -/
def clamped (size : PyFloat) : PyFloat := if PyFloat.lt (.finite 0) size then size else .finite 0

def buckets (counted : PyFloat → PyFloat) (interval : Nat) (trades : List Timed) : Dict Int Bucket :=
  Grouping.gather (bucketTimestamp interval) newBucket (Bucket.add counted) trades

def Bucket.figures (bucket : Bucket) (timestamp : Int) : Figures where
  timestamp := timestamp
  opening := bucket.opening
  high := bucket.high
  low := bucket.low
  closing := bucket.closing
  volume := bucket.volume

def candlesOf (counted : PyFloat → PyFloat) (contractId resolution : Text) (interval : Nat) (trades : List Timed) :
    List MarketCandle :=
  (Grouping.ascending (buckets counted interval trades)).map fun entry =>
    { contractId, figures := entry.2.figures entry.1, resolution, intervalSeconds := interval,
      tradeIds := entry.2.tradeIds }

/-! ## What a candle should show -/

def amount (trade : Timed) : ℚ :=
  match trade.2.size with
  | .finite size => size
  | _ => 0

def total (trades : List Timed) : ℚ := (trades.map amount).sum

/-- The figures of the trades of a bucket in an order. -/
def figuresOf (timestamp : Int) : List Timed → Option Figures
  | [] => none
  | first :: rest => some {
      timestamp
      opening := first.2.price
      high := rest.foldl (fun high trade => max high trade.2.price) first.2.price
      low := rest.foldl (fun low trade => min low trade.2.price) first.2.price
      closing := (rest.map fun trade => trade.2.price).getLastD first.2.price
      volume := .finite (total (first :: rest)) }

def chronological (trades : List Timed) : List Timed := trades.insertionSort fun a b => a.1 ≤ b.1

/-- One candle for each bucket that has a trade, its trades in the order of time. -/
def derivedCandles (interval : Nat) (trades : List Timed) : List Figures :=
  (Grouping.keysOf (bucketTimestamp interval) trades).filterMap fun timestamp =>
    figuresOf timestamp (chronological (Grouping.group (bucketTimestamp interval) timestamp trades))

/-- Sizes are positive numbers. -/
def Sized (trades : List Timed) : Prop := ∀ trade ∈ trades, ∃ size, trade.2.size = .finite size ∧ 0 < size

/-- In every bucket the trades taken and the trades wanted have one price among them and the same total size. -/
def Uniform (interval : Nat) (taken wanted : List Timed) : Prop :=
  ∀ timestamp,
    (∃ price, ∀ trade ∈ Grouping.group (bucketTimestamp interval) timestamp taken ++
      Grouping.group (bucketTimestamp interval) timestamp wanted, trade.2.price = price) ∧
    total (Grouping.group (bucketTimestamp interval) timestamp taken) =
      total (Grouping.group (bucketTimestamp interval) timestamp wanted)

/-! ## Buckets in the order of the tape -/

variable {counted : PyFloat → PyFloat}

/-- A counting that keeps positive sizes. -/
def Keeps (counted : PyFloat → PyFloat) : Prop := ∀ size : ℚ, 0 < size → counted (.finite size) = .finite size

theorem keeps_id : Keeps id := fun _ _ => rfl

theorem keeps_clamped : Keeps clamped := by
  intro size positive
  simp [clamped, PyFloat.lt, positive]

theorem Sized.group {trades : List Timed} (sized : Sized trades) (interval : Nat) (timestamp : Int) :
    Sized (Grouping.group (bucketTimestamp interval) timestamp trades) :=
  fun trade member => sized trade (Grouping.mem_group.mp member).1

theorem amount_eq {trade : Timed} {size : ℚ} (sized : trade.2.size = .finite size) : amount trade = size := by
  rw [amount, sized]

/-- A filled bucket shows the figures of its trades in their order. -/
theorem figures_foldl_add (keeps : Keeps counted) {trades : List Timed} (sized : Sized trades) (bucket : Bucket)
    {volume : ℚ} (held : bucket.volume = .finite volume) (timestamp : Int) :
    (trades.foldl (Bucket.add counted) bucket).figures timestamp = {
      timestamp
      opening := bucket.opening
      high := trades.foldl (fun high trade => max high trade.2.price) bucket.high
      low := trades.foldl (fun low trade => min low trade.2.price) bucket.low
      closing := (trades.map fun trade => trade.2.price).getLastD bucket.closing
      volume := .finite (volume + total trades) } := by
  induction trades generalizing bucket volume with
  | nil => simp [Bucket.figures, total, held]
  | cons trade rest ih =>
    obtain ⟨⟨size, here, positive⟩, later⟩ := List.forall_mem_cons.mp sized
    have next : (bucket.add counted trade).volume = .finite (volume + size) := by
      rw [Bucket.add, held, here, keeps size positive]
      rfl
    rw [List.foldl_cons, ih later _ next]
    have sum : volume + size + total rest = volume + total (trade :: rest) := by
      rw [total, total, List.map_cons, List.sum_cons, amount_eq here, add_assoc]
    rw [sum, List.map_cons, List.getLastD_cons]
    rfl

theorem figures_candlesOf (keeps : Keeps counted) (contractId resolution : Text) (interval : Nat) {trades : List Timed}
    (sized : Sized trades) :
    (candlesOf counted contractId resolution interval trades).map MarketCandle.figures =
      (Grouping.keysOf (bucketTimestamp interval) trades).filterMap fun timestamp =>
        figuresOf timestamp (Grouping.group (bucketTimestamp interval) timestamp trades) := by
  unfold candlesOf buckets
  rw [Grouping.ascending_gather, List.map_map, List.map_filterMap]
  congr 1
  funext timestamp
  have inside := sized.group interval timestamp
  cases members : Grouping.group (bucketTimestamp interval) timestamp trades with
  | nil => rfl
  | cons first rest =>
    rw [members] at inside
    have filled := figures_foldl_add keeps inside (newBucket first) rfl timestamp
    simp only [Grouping.summary, Option.map_some, Function.comp_apply, filled]
    rw [List.map_cons, List.getLastD_cons]
    simp [figuresOf, newBucket]

/-! ## When the order of the tape does not matter -/

theorem figuresOf_timestamp {timestamp : Int} {trades : List Timed} {figures : Figures}
    (shown : figuresOf timestamp trades = some figures) : figures.timestamp = timestamp := by
  cases trades with
  | nil => cases shown
  | cons first rest =>
    cases shown
    rfl

theorem figuresOf_eq_none {timestamp : Int} {trades : List Timed} : figuresOf timestamp trades = none ↔ trades = [] := by
  cases trades <;> simp [figuresOf]

theorem total_perm {trades others : List Timed} (perm : trades.Perm others) : total trades = total others :=
  (perm.map amount).sum_eq

theorem total_eq_zero_iff {trades : List Timed} (sized : Sized trades) : total trades = 0 ↔ trades = [] := by
  cases trades with
  | nil => simp [total]
  | cons first rest =>
    have positive : ∀ trade ∈ first :: rest, 0 < amount trade := by
      intro trade member
      obtain ⟨size, here, positive⟩ := sized trade member
      rwa [amount_eq here]
    have nonnegative : 0 ≤ total rest := by
      apply List.sum_nonneg
      intro x member
      obtain ⟨trade, inside, rfl⟩ := List.mem_map.mp member
      exact (positive trade (List.mem_cons_of_mem _ inside)).le
    have above : 0 < total (first :: rest) := by
      rw [total, List.map_cons, List.sum_cons]
      exact add_pos_of_pos_of_nonneg (positive first List.mem_cons_self) nonnegative
    simp [above.ne']

/-- Trades of one price make a flat candle, in any order. -/
theorem figuresOf_flat {timestamp : Int} {trades : List Timed} {price : ℚ} (nonempty : trades ≠ [])
    (flat : ∀ trade ∈ trades, trade.2.price = price) :
    figuresOf timestamp trades = some ⟨timestamp, price, price, price, price, .finite (total trades)⟩ := by
  cases trades with
  | nil => exact absurd rfl nonempty
  | cons first rest =>
    obtain ⟨here, later⟩ := List.forall_mem_cons.mp flat
    have steady : ∀ (rest : List Timed), (∀ trade ∈ rest, trade.2.price = price) →
        rest.foldl (fun high trade => max high trade.2.price) price = price ∧
        rest.foldl (fun low trade => min low trade.2.price) price = price ∧
        (rest.map fun trade => trade.2.price).getLastD price = price := by
      intro rest
      induction rest with
      | nil => simp
      | cons trade rest ih =>
        intro flat
        obtain ⟨here, later⟩ := List.forall_mem_cons.mp flat
        rw [List.foldl_cons, List.foldl_cons, List.map_cons, List.getLastD_cons, here, max_self, min_self]
        exact ih later
    obtain ⟨high, low, last⟩ := steady rest later
    rw [figuresOf, here, high, low, last]

theorem figuresOf_total {timestamp opening high low closing volume} {trades : List Timed}
    (shown : figuresOf timestamp trades = some ⟨timestamp, opening, high, low, closing, .finite volume⟩) :
    volume = total trades := by
  cases trades with
  | nil => cases shown
  | cons first rest =>
    cases shown
    rfl

/-- The highest and the lowest price bound every price of a bucket. -/
theorem figuresOf_bounds {timestamp : Int} {trades : List Timed} {figures : Figures}
    (shown : figuresOf timestamp trades = some figures) :
    ∀ trade ∈ trades, figures.low ≤ trade.2.price ∧ trade.2.price ≤ figures.high := by
  cases trades with
  | nil => cases shown
  | cons first rest =>
    cases shown
    have high : ∀ (rest : List Timed) (start : ℚ),
        start ≤ rest.foldl (fun high trade => max high trade.2.price) start ∧
        ∀ trade ∈ rest, trade.2.price ≤ rest.foldl (fun high trade => max high trade.2.price) start := by
      intro rest
      induction rest with
      | nil => simp
      | cons trade rest ih =>
        intro start
        obtain ⟨above, each⟩ := ih (max start trade.2.price)
        refine ⟨(le_max_left _ _).trans above, List.forall_mem_cons.mpr ⟨(le_max_right _ _).trans above, each⟩⟩
    have low : ∀ (rest : List Timed) (start : ℚ),
        rest.foldl (fun low trade => min low trade.2.price) start ≤ start ∧
        ∀ trade ∈ rest, rest.foldl (fun low trade => min low trade.2.price) start ≤ trade.2.price := by
      intro rest
      induction rest with
      | nil => simp
      | cons trade rest ih =>
        intro start
        obtain ⟨below, each⟩ := ih (min start trade.2.price)
        refine ⟨below.trans (min_le_left _ _), List.forall_mem_cons.mpr ⟨below.trans (min_le_right _ _), each⟩⟩
    intro trade member
    rcases List.mem_cons.mp member with rfl | later
    · exact ⟨(low rest _).1, (high rest _).1⟩
    · exact ⟨(low rest _).2 trade later, (high rest _).2 trade later⟩

/-- The candles of a tape are the derived ones exactly when they agree in every bucket. -/
theorem candles_eq_derived_iff (keeps : Keeps counted) (contractId resolution : Text) (interval : Nat)
    {taken : List Timed} (sized : Sized taken) (wanted : List Timed) :
    (candlesOf counted contractId resolution interval taken).map MarketCandle.figures = derivedCandles interval wanted ↔
      ∀ timestamp, figuresOf timestamp (Grouping.group (bucketTimestamp interval) timestamp taken) =
        figuresOf timestamp (chronological (Grouping.group (bucketTimestamp interval) timestamp wanted)) := by
  rw [figures_candlesOf keeps contractId resolution interval sized]
  have covered : ∀ (trades : List Timed) timestamp,
      Grouping.group (bucketTimestamp interval) timestamp trades ≠ [] →
      timestamp ∈ Grouping.keysOf (bucketTimestamp interval) trades := by
    intro trades timestamp nonempty
    obtain ⟨trade, member⟩ := List.exists_mem_of_ne_nil _ nonempty
    exact Grouping.mem_keysOf.mpr ⟨trade, Grouping.mem_group.mp member⟩
  apply Grouping.filterMap_keys_eq_iff Figures.timestamp (Grouping.keysOf_strict _) (Grouping.keysOf_strict _)
    (fun _ _ shown => figuresOf_timestamp shown) (fun _ _ shown => figuresOf_timestamp shown)
  · intro timestamp figures shown
    apply covered
    intro none
    rw [none] at shown
    cases shown
  · intro timestamp figures shown
    apply covered
    intro none
    rw [none] at shown
    cases shown

/-- The candles of every order of the rows are the derived ones exactly when each bucket is uniform. -/
theorem candles_of_every_order_iff {Row : Type} (keeps : Keeps counted) (contractId resolution : Text)
    (interval : Nat) (read : Row → Option Timed) (rows : List Row) (wanted : List Timed)
    (sized : Sized (rows.filterMap read)) (sizedWanted : Sized wanted) :
    (∀ others : List Row, others.Perm rows →
      (candlesOf counted contractId resolution interval (others.filterMap read)).map MarketCandle.figures =
        derivedCandles interval wanted) ↔ Uniform interval (rows.filterMap read) wanted := by
  have resized : ∀ others : List Row, others.Perm rows → Sized (others.filterMap read) :=
    fun others perm trade member => sized trade ((perm.filterMap read).mem_iff.mp member)
  constructor
  · intro every timestamp
    have agree : ∀ others : List Row, others.Perm rows →
        figuresOf timestamp (Grouping.group (bucketTimestamp interval) timestamp (others.filterMap read)) =
          figuresOf timestamp (chronological (Grouping.group (bucketTimestamp interval) timestamp wanted)) :=
      fun others perm =>
        (candles_eq_derived_iff keeps contractId resolution interval (resized others perm) wanted).mp (every others perm)
      timestamp
    have sorted := List.perm_insertionSort (fun a b : Timed => a.1 ≤ b.1)
      (Grouping.group (bucketTimestamp interval) timestamp wanted)
    cases members : Grouping.group (bucketTimestamp interval) timestamp (rows.filterMap read) with
    | nil =>
      have empty := agree rows (List.Perm.refl _)
      rw [members] at empty
      have none := sorted.symm.trans (List.Perm.of_eq (figuresOf_eq_none.mp empty.symm))
      rw [List.perm_nil.mp none]
      exact ⟨⟨0, by simp⟩, rfl⟩
    | cons first rest =>
      -- Any trade of the bucket may come first, so each has the price that the bucket opens with.
      have front : ∀ trade ∈ first :: rest, ∃ others : List Row, others.Perm rows ∧
          ∃ later, Grouping.group (bucketTimestamp interval) timestamp (others.filterMap read) = trade :: later := by
        intro trade member
        rw [← members] at member
        obtain ⟨inside, bucket⟩ := Grouping.mem_group.mp member
        obtain ⟨row, listed, shown⟩ := List.mem_filterMap.mp inside
        obtain ⟨before, after, rfl⟩ := List.append_of_mem listed
        refine ⟨row :: (before ++ after), List.perm_middle.symm,
          Grouping.group (bucketTimestamp interval) timestamp ((before ++ after).filterMap read), ?_⟩
        rw [List.filterMap_cons_some shown, Grouping.group, List.filter_cons_of_pos (by simpa using bucket)]
        rfl
      have spec := agree rows (List.Perm.refl _)
      have flat : ∀ trade ∈ first :: rest, trade.2.price = first.2.price := by
        intro trade member
        obtain ⟨others, perm, later, shape⟩ := front trade member
        have same := agree others perm
        rw [shape, ← spec, members] at same
        exact congrArg Figures.opening (Option.some.inj same)
      rw [members, figuresOf_flat (List.cons_ne_nil first rest) flat] at spec
      refine ⟨⟨first.2.price, fun trade member => ?_⟩, ?_⟩
      · rcases List.mem_append.mp member with inside | inside
        · exact flat trade inside
        · obtain ⟨low, high⟩ := figuresOf_bounds spec.symm trade (sorted.mem_iff.mpr inside)
          exact le_antisymm high low
      · rw [← total_perm sorted]
        exact figuresOf_total spec.symm
  · intro uniform others perm
    rw [candles_eq_derived_iff keeps contractId resolution interval (resized others perm) wanted]
    intro timestamp
    obtain ⟨⟨price, flat⟩, totals⟩ := uniform timestamp
    obtain ⟨flatTaken, flatWanted⟩ := List.forall_mem_append.mp flat
    have shuffled : (Grouping.group (bucketTimestamp interval) timestamp (others.filterMap read)).Perm
        (Grouping.group (bucketTimestamp interval) timestamp (rows.filterMap read)) := (perm.filterMap read).filter _
    have sorted := List.perm_insertionSort (fun a b : Timed => a.1 ≤ b.1)
      (Grouping.group (bucketTimestamp interval) timestamp wanted)
    by_cases none : Grouping.group (bucketTimestamp interval) timestamp wanted = []
    · have empty : Grouping.group (bucketTimestamp interval) timestamp (rows.filterMap read) = [] := by
        rw [← total_eq_zero_iff (sized.group interval timestamp), totals, none]
        rfl
      have nothing : Grouping.group (bucketTimestamp interval) timestamp (others.filterMap read) = [] :=
        List.perm_nil.mp (shuffled.trans (List.Perm.of_eq empty))
      rw [nothing, none]
      rfl
    · have filled : Grouping.group (bucketTimestamp interval) timestamp (others.filterMap read) ≠ [] := by
        intro nothing
        apply none
        rw [← total_eq_zero_iff (sizedWanted.group interval timestamp), ← totals, ← total_perm shuffled]
        exact congrArg total nothing
      have ordered : chronological (Grouping.group (bucketTimestamp interval) timestamp wanted) ≠ [] :=
        fun nothing => none (List.perm_nil.mp (sorted.symm.trans (List.Perm.of_eq nothing)))
      rw [figuresOf_flat filled fun trade member => flatTaken trade (shuffled.mem_iff.mp member),
        figuresOf_flat ordered fun trade member => flatWanted trade (sorted.mem_iff.mp member)]
      have sums : total (Grouping.group (bucketTimestamp interval) timestamp (others.filterMap read)) =
          total (chronological (Grouping.group (bucketTimestamp interval) timestamp wanted)) := by
        rw [chronological, total_perm sorted, ← totals]
        exact total_perm shuffled
      rw [sums]

end MarketSentinel.Candles
