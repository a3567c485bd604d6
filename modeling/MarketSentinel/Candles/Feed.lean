import MarketSentinel.Candles.Tape
import MarketSentinel.Listing.Records

/-! Reading a tape of trades out of a venue's answer.

The bounds of a call are read twice: when candles are asked for, and again when
the trades behind them are.
-/

set_option autoImplicit false

namespace MarketSentinel.Candles

open Python Wallet Listing

structure Reader extends Spelling where
  /-- `datetime.fromisoformat(text.replace("Z", "+00:00")).timestamp()`, a time without a zone in UTC. -/
  isoSeconds : Text → Option ℚ

/-! ## Arguments of a call -/

structure Request where
  contractId : Text
  resolution : Text
  fromTimestamp : Json
  toTimestamp : Json

def intervals : List (String × Nat) :=
  [("1m", 60), ("5m", 300), ("15m", 900), ("30m", 1800), ("1h", 3600), ("4h", 14400), ("1d", 86400), ("1w", 604800)]

/-- `_candle_interval` with the message of its adapter. -/
def candleInterval (reader : Reader) (message : String) (resolution : Text) : Except Fault Nat :=
  match intervals.find? fun entry => text entry.1 = reader.casing.lower (strip resolution) with
  | some entry => .ok entry.2
  | none => refuse message

structure Bounds where
  after : Option ℚ
  before : Option ℚ
  deriving DecidableEq

def Bounds.none : Bounds := ⟨.none, .none⟩

def Bounds.admits (bounds : Bounds) (timestamp : ℚ) : Bool :=
  ! bounds.after.any (fun after => timestamp < after) && ! bounds.before.any (fun before => before < timestamp)

def Bounds.reversed (bounds : Bounds) : Bool :=
  bounds.after.any fun after => bounds.before.any fun before => before < after

def Bounds.checked (bounds : Bounds) (message : String) : Except Fault Bounds :=
  if bounds.reversed then refuse message else .ok bounds

/-- A bound that is read unless it is `None`. -/
def given (read : Json → Except Fault ℚ) (value : Json) : Except Fault (Option ℚ) :=
  if value = .null then .ok none else (read value).map some

/-- The bounds of candles. -/
def candleBounds (history : String → Json → Except Fault ℚ) (message : String) (request : Request) :
    Except Fault Bounds := do
  let after ← given (history "from_timestamp") request.fromTimestamp
  let before ← given (history "to_timestamp") request.toTimestamp
  Bounds.checked ⟨after, before⟩ message

/-- A bound as it is passed on. -/
def passed (bound : Option ℚ) : Json :=
  match bound with
  | none => .null
  | some bound => .float (.finite bound)

/-- The bounds of trades, of bounds that were passed on. -/
def tradeBounds (history : String → Json → Except Fault ℚ) (message : String) (bounds : Bounds) :
    Except Fault Bounds := do
  let before ← given (history "before") (passed bounds.before)
  let after ← given (history "after") (passed bounds.after)
  Bounds.checked ⟨after, before⟩ message

/-- `_history_timestamp` of an adapter that takes any number. -/
def numericTimestamp (message finiteMessage : String) (value : Json) : Except Fault ℚ :=
  match PyFloat.ofJson value with
  | .ok (.finite timestamp) => if timestamp < 0 then refuse finiteMessage else .ok timestamp
  | .ok _ => refuse finiteMessage
  | .error _ => refuse message

/-- A trade with a time that candles count. -/
def timed (trade : MarketTrade) : Option Timed :=
  match trade.timestamp with
  | some timestamp => if timestamp < 0 then none else some (timestamp, trade)
  | none => none

/-! ## Rows in every order -/

section Orders

variable {Row Fill : Type} {fillOf : Row → Reading Fill}

/-- Reading the row does not stop the listing. -/
def Readable (fillOf : Row → Reading Fill) (row : Row) : Prop := ∃ found, (fillOf row).run = .ok found

theorem readRows_of_readable {rows : List Row} (readable : ∀ row ∈ rows, Readable fillOf row) :
    readRows fillOf rows = .ok (rows.filterMap (fill? fillOf)) := by
  induction rows with
  | nil => rfl
  | cons row rest ih =>
    obtain ⟨⟨found, here⟩, later⟩ := List.forall_mem_cons.mp readable
    have value : fill? fillOf row = found := by rw [fill?, here]
    rw [readRows, here, List.filterMap_cons, value]
    cases found with
    | none => exact ih later
    | some fill =>
      change (readRows fillOf rest >>= fun others => pure (fill :: others)) = _
      rw [ih later]
      rfl

theorem gather_of_readable {desired : Nat} {rows : List Row} (readable : ∀ row ∈ rows, Readable fillOf row) :
    ∃ fills, gather fillOf desired rows = .ok fills := by
  induction rows generalizing desired with
  | nil => exact ⟨[], rfl⟩
  | cons row rest ih =>
    obtain ⟨⟨found, here⟩, later⟩ := List.forall_mem_cons.mp readable
    rw [gather, here]
    cases found with
    | none => exact ih later
    | some fill =>
      by_cases last : desired ≤ 1
      · exact ⟨[fill], if_pos last⟩
      · obtain ⟨fills, read⟩ := @ih (desired - 1) later
        refine ⟨fill :: fills, (if_neg last).trans ?_⟩
        rw [read]
        rfl

/-- What holds of a gathered page in every order of its rows, when all fills fit. -/
theorem gather_every_order_iff {desired : Nat} {rows : List Row} (fits : (rows.filterMap (fill? fillOf)).length ≤ desired)
    (holds : List Fill → Prop) :
    (∀ others : List Row, others.Perm rows → ∃ fills, gather fillOf desired others = .ok fills ∧ holds fills) ↔
      (∀ row ∈ rows, Readable fillOf row) ∧
        ∀ others : List Row, others.Perm rows → holds (others.filterMap (fill? fillOf)) := by
  have whole : ∀ (others : List Row) fills, others.Perm rows → gather fillOf desired others = .ok fills →
      fills = others.filterMap (fill? fillOf) := by
    intro others fills perm read
    rw [gather_eq_ok read]
    apply List.take_of_length_le
    rw [(perm.filterMap (fill? fillOf)).length_eq]
    omega
  constructor
  · intro every
    refine ⟨fun row member => ?_, fun others perm => ?_⟩
    · -- The row is read in any case when it comes first.
      obtain ⟨before, after, rfl⟩ := List.append_of_mem member
      obtain ⟨fills, read, _⟩ := every (row :: (before ++ after)) List.perm_middle.symm
      rw [gather] at read
      obtain ⟨found, here, _⟩ := Result.bind_eq_ok.mp read
      exact ⟨found, here⟩
    · obtain ⟨fills, read, held⟩ := every others perm
      rwa [← whole others fills perm read]
  · rintro ⟨readable, every⟩ others perm
    obtain ⟨fills, read⟩ := @gather_of_readable _ _ fillOf desired others fun row member => readable row (perm.mem_iff.mp member)
    refine ⟨fills, read, ?_⟩
    rw [whole others fills perm read]
    exact every others perm

theorem readRows_every_order_iff {rows : List Row} (holds : List Fill → Prop) :
    (∀ others : List Row, others.Perm rows → ∃ fills, readRows fillOf others = .ok fills ∧ holds fills) ↔
      (∀ row ∈ rows, Readable fillOf row) ∧
        ∀ others : List Row, others.Perm rows → holds (others.filterMap (fill? fillOf)) := by
  constructor
  · intro every
    refine ⟨fun row member => ?_, fun others perm => ?_⟩
    · obtain ⟨before, after, rfl⟩ := List.append_of_mem member
      obtain ⟨fills, read, _⟩ := every (row :: (before ++ after)) List.perm_middle.symm
      rw [readRows] at read
      obtain ⟨found, here, _⟩ := Result.bind_eq_ok.mp read
      exact ⟨found, here⟩
    · obtain ⟨fills, read, held⟩ := every others perm
      rwa [← readRows_eq_ok read]
  · rintro ⟨readable, every⟩ others perm
    exact ⟨_, readRows_of_readable fun row member => readable row (perm.mem_iff.mp member), every others perm⟩

end Orders

/-! ## Candles of a tape -/

/-- What an adapter makes of the arguments of a call, and how it reads the rows of the answer. -/
structure Tape where
  contractId : Text
  resolution : Text
  interval : Nat
  /-- The bounds that are asked for. -/
  bounds : Bounds
  /-- The bounds that are applied. -/
  applied : Except Fault Bounds
  limit : Option Nat
  /-- The trades listed are within the bounds. -/
  filters : Bool
  entry : Item → Reading MarketTrade
  /-- What is done with a row once its time is within the bounds. -/
  finish : Item → MarketTrade → Reading MarketTrade
  /-- The trades that candles count. -/
  stamp : Bounds → MarketTrade → Option Timed
  counted : PyFloat → PyFloat

namespace Tape

variable (tape : Tape)

def tradeOf (bounds : Bounds) (row : Item) : Reading MarketTrade := do
  let trade ← tape.entry row
  guard (! tape.filters || trade.timestamp.all bounds.admits)
  tape.finish row trade

def listTrades (bounds : Bounds) (rows : List Item) : Except Fault (List MarketTrade) :=
  match tape.limit with
  | some limit => gather (tape.tradeOf bounds) limit rows
  | none => readRows (tape.tradeOf bounds) rows

def listCandles (rows : List Item) : Except Fault (List MarketCandle) := do
  let bounds ← tape.applied
  let trades ← tape.listTrades bounds rows
  return candlesOf tape.counted tape.contractId tape.resolution tape.interval (trades.filterMap (tape.stamp bounds))

/-- The usable trades of the contract, at any time. -/
def usable (rows : List Item) : List MarketTrade := rows.filterMap (fill? (tape.tradeOf Bounds.none))

/-- The trades behind candles under some bounds. -/
def within (bounds : Bounds) (rows : List Item) : List Timed :=
  rows.filterMap fun row => (fill? (tape.tradeOf bounds) row).bind (tape.stamp bounds)

variable {tape}

theorem tradeOf_eq_some {bounds : Bounds} {row : Item} {trade : MarketTrade} :
    fill? (tape.tradeOf bounds) row = some trade ↔ ∃ entry, (tape.entry row).run = .ok (some entry) ∧
      (! tape.filters || entry.timestamp.all bounds.admits) = true ∧ (tape.finish row entry).run = .ok (some trade) := by
  rw [fill?_eq_some, tradeOf, Reading.bind_eq_some]
  apply exists_congr
  intro entry
  rw [Reading.bind_eq_some]
  constructor
  · rintro ⟨here, _, inside, finished⟩
    exact ⟨here, Reading.guard_eq_some.mp inside, finished⟩
  · rintro ⟨here, inside, finished⟩
    exact ⟨here, (), Reading.guard_eq_some.mpr inside, finished⟩

theorem admits_none (timestamp : ℚ) : Bounds.none.admits timestamp = true := rfl

/-- A trade within some bounds is usable. -/
theorem tradeOf_unbounded {bounds : Bounds} {row : Item} {trade : MarketTrade}
    (read : fill? (tape.tradeOf bounds) row = some trade) : fill? (tape.tradeOf Bounds.none) row = some trade := by
  obtain ⟨entry, here, _, finished⟩ := tradeOf_eq_some.mp read
  apply tradeOf_eq_some.mpr
  refine ⟨entry, here, ?_, finished⟩
  cases entry.timestamp with
  | none => simp
  | some timestamp => simp [admits_none]

theorem length_within_le (bounds : Bounds) (rows : List Item) :
    (rows.filterMap (fill? (tape.tradeOf bounds))).length ≤ (tape.usable rows).length :=
  length_filterMap_le fun row _ listed => by
    obtain ⟨trade, read⟩ := Option.isSome_iff_exists.mp listed
    rw [tradeOf_unbounded read]
    rfl

/-- Counting a trade keeps the trade. -/
def Stamps (stamp : Bounds → MarketTrade → Option Timed) : Prop :=
  ∀ bounds trade timed, stamp bounds trade = some timed → timed.2 = trade

theorem sized_within (stamps : Stamps tape.stamp) {rows : List Item}
    (sized : ∀ trade ∈ tape.usable rows, ∃ size, trade.size = .finite size ∧ 0 < size) (bounds : Bounds) :
    Sized (tape.within bounds rows) := by
  intro timed member
  obtain ⟨row, listed, read⟩ := List.mem_filterMap.mp member
  obtain ⟨trade, filled, stamped⟩ := Option.bind_eq_some_iff.mp read
  rw [stamps bounds trade timed stamped]
  exact sized trade (List.mem_filterMap.mpr ⟨row, listed, tradeOf_unbounded filled⟩)

/-- In every order of the rows the candles are the derived ones, exactly when the bounds are taken, no row
stops the listing, and each bucket is uniform. -/
theorem candles_every_order_iff (keeps : Keeps tape.counted) (stamps : Stamps tape.stamp) {rows : List Item}
    (fits : ∀ limit, tape.limit = some limit → (tape.usable rows).length ≤ limit)
    (sized : ∀ trade ∈ tape.usable rows, ∃ size, trade.size = .finite size ∧ 0 < size) :
    (∀ others : List Item, others.Perm rows → ∃ candles, tape.listCandles others = .ok candles ∧
      candles.map MarketCandle.figures = derivedCandles tape.interval (tape.within tape.bounds rows)) ↔
    ∃ bounds, tape.applied = .ok bounds ∧ (∀ row ∈ rows, Readable (tape.tradeOf bounds) row) ∧
      Uniform tape.interval (tape.within bounds rows) (tape.within tape.bounds rows) := by
  cases applied : tape.applied with
  | error fault =>
    constructor
    · intro every
      obtain ⟨candles, listed, _⟩ := every rows (List.Perm.refl _)
      rw [listCandles, applied] at listed
      cases listed
    · rintro ⟨bounds, taken, _⟩
      cases taken
  | ok bounds =>
    have peeled : ∀ others : List Item, (∃ candles, tape.listCandles others = .ok candles ∧
        candles.map MarketCandle.figures = derivedCandles tape.interval (tape.within tape.bounds rows)) ↔
        ∃ trades, tape.listTrades bounds others = .ok trades ∧
          (candlesOf tape.counted tape.contractId tape.resolution tape.interval
            (trades.filterMap (tape.stamp bounds))).map MarketCandle.figures =
              derivedCandles tape.interval (tape.within tape.bounds rows) := by
      intro others
      rw [listCandles, applied]
      change (∃ candles, (tape.listTrades bounds others >>= _) = .ok candles ∧ _) ↔ _
      constructor
      · rintro ⟨candles, listed, shown⟩
        obtain ⟨trades, read, same⟩ := Result.bind_eq_ok.mp listed
        cases same
        exact ⟨trades, read, shown⟩
      · rintro ⟨trades, read, shown⟩
        exact ⟨_, Result.bind_eq_ok.mpr ⟨trades, read, rfl⟩, shown⟩
    have orders := candles_of_every_order_iff keeps tape.contractId tape.resolution tape.interval
      (fun row => (fill? (tape.tradeOf bounds) row).bind (tape.stamp bounds)) rows (tape.within tape.bounds rows)
      (sized_within stamps sized bounds) (sized_within stamps sized tape.bounds)
    have every : (∀ others : List Item, others.Perm rows → ∃ trades, tape.listTrades bounds others = .ok trades ∧
        (candlesOf tape.counted tape.contractId tape.resolution tape.interval
          (trades.filterMap (tape.stamp bounds))).map MarketCandle.figures =
            derivedCandles tape.interval (tape.within tape.bounds rows)) ↔
        (∀ row ∈ rows, Readable (tape.tradeOf bounds) row) ∧
          Uniform tape.interval (tape.within bounds rows) (tape.within tape.bounds rows) := by
      have taken : tape.within bounds rows =
          rows.filterMap fun row => (fill? (tape.tradeOf bounds) row).bind (tape.stamp bounds) := rfl
      rw [taken, ← orders]
      simp only [← List.filterMap_filterMap]
      unfold listTrades
      cases limited : tape.limit with
      | none => exact readRows_every_order_iff _
      | some limit => exact gather_every_order_iff ((length_within_le bounds rows).trans (fits limit limited)) _
    simp only [peeled, every]
    constructor
    · intro held
      exact ⟨bounds, rfl, held⟩
    · rintro ⟨_, same, held⟩
      cases same
      exact held

end Tape

end MarketSentinel.Candles
