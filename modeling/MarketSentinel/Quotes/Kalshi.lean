import Mathlib.Data.List.Sort
import MarketSentinel.Library.Rounding
import MarketSentinel.Listing.Records
import MarketSentinel.Venue.SignedWire

/-! The two sides of a Kalshi market.

The venue keeps one book of YES and NO bids. Books, candles and orders of NO are
those of YES with each price taken from one.
-/

set_option autoImplicit false

namespace MarketSentinel.Quotes

open Python Wallet Listing

structure Level where
  price : ℚ
  size : ℚ
  deriving DecidableEq

/-- A level seen from the other side of the market. -/
def Level.mirrored (level : Level) : Level := ⟨1 - level.price, level.size⟩

def highestFirst (levels : List Level) : List Level := levels.insertionSort fun a b => b.price ≤ a.price

def lowestFirst (levels : List Level) : List Level := levels.insertionSort fun a b => a.price ≤ b.price

structure OrderBookSnapshot where
  contractId : Text
  bids : List Level
  asks : List Level
  deriving DecidableEq

/-- Best first on both sides. -/
structure OrderBookSnapshot.BestFirst (snapshot : OrderBookSnapshot) : Prop where
  bids : snapshot.bids.Pairwise fun a b => b.price ≤ a.price
  asks : snapshot.asks.Pairwise fun a b => a.price ≤ b.price

/-- Each side of one snapshot is the other side of the other one, mirrored level by level. -/
def OrderBookSnapshot.Mirrors (no yes : OrderBookSnapshot) : Prop :=
  no.bids = yes.asks.map Level.mirrored ∧ no.asks = yes.bids.map Level.mirrored

section Sorting

variable (levels : List Level)

theorem mirrored_mirrored (level : Level) : level.mirrored.mirrored = level := by
  simp [Level.mirrored]

theorem map_mirrored_mirrored : (levels.map Level.mirrored).map Level.mirrored = levels := by
  rw [List.map_map]
  apply List.map_id''
  exact mirrored_mirrored

theorem mirrored_injective : Function.Injective Level.mirrored :=
  Function.LeftInverse.injective mirrored_mirrored

theorem pairwise_highestFirst : (highestFirst levels).Pairwise fun a b => b.price ≤ a.price := by
  have : IsTrans Level fun a b => b.price ≤ a.price := ⟨fun _ _ _ first second => second.trans first⟩
  have : Std.Total fun a b : Level => b.price ≤ a.price := ⟨fun a b => le_total b.price a.price⟩
  exact List.pairwise_insertionSort _ _

theorem pairwise_lowestFirst : (lowestFirst levels).Pairwise fun a b => a.price ≤ b.price := by
  have : IsTrans Level fun a b => a.price ≤ b.price := ⟨fun _ _ _ first second => first.trans second⟩
  have : Std.Total fun a b : Level => a.price ≤ b.price := ⟨fun a b => le_total a.price b.price⟩
  exact List.pairwise_insertionSort _ _

/-- The mirror turns the order of the prices around, and levels of one price keep theirs. -/
theorem map_mirrored_highestFirst : (highestFirst levels).map Level.mirrored = lowestFirst (levels.map Level.mirrored) := by
  apply List.map_insertionSort
  intro a _ b _
  exact (sub_le_sub_iff_left 1).symm

theorem lowestFirst_eq {levels : List Level} (sorted : levels.Pairwise fun a b => a.price ≤ b.price) :
    lowestFirst levels = levels := sorted.insertionSort_eq

theorem mem_highestFirst {level : Level} : level ∈ highestFirst levels ↔ level ∈ levels := List.mem_insertionSort _

end Sorting

namespace Kalshi

/-! ## Reading prices and levels -/

/-- Above one a number counts cents. -/
def dollarsOf (number : ℚ) : ℚ := if 1 < number then number / 100 else number

/-- A text with a decimal point. -/
def pointed : Json → Bool
  | .str t => decide (46 ∈ t)
  | _ => false

/-- `_safe_probability`: a text with a point never counts cents. -/
def safeProbability (value : Json) : Option ℚ :=
  (finite value).bind fun number =>
    if 1 < number ∧ pointed value = true then none
    else if dollarsOf number < 0 ∨ 1 < dollarsOf number then none
    else some (dollarsOf number)

def readLevel (price size : Json) : Option Level :=
  (safeProbability price).bind fun price => (positive size).map fun size => ⟨price, size⟩

def levelOf : Json → Option Level
  | .arr (price :: size :: _) => readLevel price size
  | .obj fields =>
    readLevel (firstField fields ["price", "price_dollars", "yes_price", "no_price"])
      (firstField fields ["size", "count", "quantity", "count_fp"])
  | _ => none

/-- `_levels` in descending order. -/
def levels (raw : Json) : List Level :=
  match raw with
  | .arr rows => highestFirst (rows.filterMap levelOf)
  | _ => []

def asksFromOppositeBids (levels : List Level) : List Level :=
  lowestFirst ((levels.filter fun level => decide (0 ≤ 1 - level.price ∧ 1 - level.price ≤ 1)).map fun level =>
    ⟨roundTo 10 (1 - level.price), level.size⟩)

def orderbookPayload (payload : Json) : Item :=
  match payload with
  | .obj fields =>
    (["orderbook_fp", "orderbook", "book"].findSome? fun name => Feed.asItem (Item.get fields name)).getD fields
  | _ => []

def yesBids (payload : Json) : List Level :=
  levels (firstField (orderbookPayload payload) ["yes_dollars", "yes", "yes_bids", "yesBid"])

def noBids (payload : Json) : List Level :=
  levels (firstField (orderbookPayload payload) ["no_dollars", "no", "no_bids", "noBid"])

inductive Outcome where
  | yes
  | no
  deriving DecidableEq

def Outcome.name : Outcome → Text
  | .yes => text "YES"
  | .no => text "NO"

section Contract

variable (runtime : Venue.Runtime)

def splitContractId (contractId : Text) : Except Venue.Refused (Text × Outcome) :=
  let raw := strip contractId
  if raw = [] then .error (.configuration (text "Kalshi order requires a contract id."))
  else
    let (ticker, outcome) := (Venue.splitLast raw).getD (raw, text "yes")
    let ticker := runtime.casing.upper (strip ticker)
    let outcome := runtime.casing.lower (strip outcome)
    if ticker = [] then .error (.configuration (text "Kalshi order requires a market ticker."))
    else if outcome = text "yes" then .ok (ticker, .yes)
    else if outcome = text "no" then .ok (ticker, .no)
    else .error (.configuration (text "Kalshi contract outcome must be YES or NO."))

def contractId (ticker : Text) (outcome : Outcome) : Text := runtime.casing.upper ticker ++ text ":" ++ outcome.name

/-- The snapshot of an outcome from the answer for its ticker. -/
def snapshot (ticker : Text) (outcome : Outcome) (payload : Json) : OrderBookSnapshot :=
  match outcome with
  | .yes => ⟨contractId runtime ticker .yes, yesBids payload, asksFromOppositeBids (noBids payload)⟩
  | .no => ⟨contractId runtime ticker .no, noBids payload, asksFromOppositeBids (yesBids payload)⟩

def getOrderbook (contract : Text) (payload : Json) : Except Venue.Refused OrderBookSnapshot := do
  let (ticker, outcome) ← splitContractId runtime contract
  return snapshot runtime ticker outcome payload

end Contract

/-! ## Candles -/

structure Candle where
  opening : ℚ
  high : ℚ
  low : ℚ
  closing : ℚ
  deriving DecidableEq

/-- The other side's candle: its high is the complement of the low. -/
def Candle.complement (candle : Candle) : Candle :=
  ⟨1 - candle.opening, 1 - candle.low, 1 - candle.high, 1 - candle.closing⟩

/-- `price.get(f"{name}_dollars") or price.get(name)`. -/
def candleField (price : Item) (name : String) : Option ℚ := safeProbability (firstField price [name ++ "_dollars", name])

def candleOf (price : Item) : Option Candle := do
  let opening ← candleField price "open"
  let high ← candleField price "high"
  let low ← candleField price "low"
  let closing ← candleField price "close"
  return ⟨opening, high, low, closing⟩

/-- The prices that a row has for an outcome. -/
def priceOf (outcome : Outcome) (raw : Item) : Option Item :=
  match Feed.asItem (raw.get "price") with
  | some price => some price
  | none => Feed.asItem (raw.get (match outcome with
    | .yes => "yes_bid"
    | .no => "no_bid"))

def candleValues (raw : Item) (outcome : Outcome) : Option Candle :=
  ((priceOf outcome raw).bind candleOf).map fun candle =>
    match outcome with
    | .yes => candle
    | .no => ⟨roundTo 10 (1 - candle.opening), roundTo 10 (1 - candle.low), roundTo 10 (1 - candle.high),
      roundTo 10 (1 - candle.closing)⟩

/-! ## Orders -/

inductive BookSide where
  | bid
  | ask
  deriving DecidableEq

/-- A live payload; its count and its price are the numbers that their texts show. -/
structure LivePayload where
  ticker : Text
  clientOrderId : Text
  side : BookSide
  count : PyFloat
  price : PyFloat
  timeInForce : Text
  selfTradePreventionType : Text
  options : List (Text × Json)
  deriving DecidableEq

section Orders

variable (runtime : Venue.Runtime)

/-- `_yes_side_order`: an order on NO is one on YES with the other side and the complementary price. -/
def yesSideOrder (side : Text) (outcome : Outcome) (limitPrice : PyFloat) : BookSide × PyFloat :=
  let buys := decide (runtime.casing.upper side = text "BUY")
  match outcome with
  | .yes => (if buys then .bid else .ask, limitPrice)
  | .no => (if buys then .ask else .bid, PyFloat.exact.sub (.finite 1) limitPrice)

/-- The number that `f"{value:.{places}f}"` shows. -/
def fixedDecimal (places : Nat) : PyFloat → PyFloat
  | .finite value => .finite (roundTo places value)
  | value => value

def metadataOr (order : Venue.OrderRequest) (config : Item) (name setting default : String) : Text :=
  let own := (Dict.get? order.metadata (text name)).getD .null
  let configured := config.get setting
  if own.truthy then Venue.str runtime own
  else if configured.truthy then Venue.str runtime configured
  else text default

def optionNames : List String :=
  ["expiration_time", "post_only", "cancel_order_on_pause", "reduce_only", "subaccount", "order_group_id", "exchange_index"]

/-- `_build_live_order_payload` with the identifier that a fresh order would get. -/
def buildLiveOrderPayload (config : Item) (fresh : Text) (order : Venue.OrderRequest) :
    Except Venue.Refused LivePayload := do
  let (ticker, outcome) ← splitContractId runtime order.contractId
  match order.limitPrice with
  | none => .error (.configuration (text "Kalshi live trading requires a limit price."))
  | some limitPrice =>
    let (side, price) := yesSideOrder runtime order.side outcome limitPrice
    let timeInForce := metadataOr runtime order config "time_in_force" "kalshi_time_in_force" "fill_or_kill"
    if timeInForce ∉ [text "fill_or_kill", text "good_till_canceled", text "immediate_or_cancel"] then
      .error (.configuration (text
        "Kalshi time_in_force must be fill_or_kill, good_till_canceled, or immediate_or_cancel."))
    else
      let selfTradePreventionType := metadataOr runtime order config "self_trade_prevention_type"
        "kalshi_self_trade_prevention_type" "taker_at_cross"
      if selfTradePreventionType ∉ [text "taker_at_cross", text "maker"] then
        .error (.configuration (text "Kalshi self_trade_prevention_type must be taker_at_cross or maker."))
      else
        let own := (Dict.get? order.metadata (text "client_order_id")).getD .null
        return {
          ticker, clientOrderId := if own.truthy then Venue.str runtime own else fresh, side
          count := fixedDecimal 2 order.size, price := fixedDecimal 4 price, timeInForce, selfTradePreventionType
          options := optionNames.filterMap fun name =>
            (Dict.get? order.metadata (text name)).map fun value => (text name, value) }

/-- A payload up to the client order id. -/
def LivePayload.unnamed (payload : LivePayload) : LivePayload := { payload with clientOrderId := [] }

end Orders

/-! ## One book from both sides -/

def FourPlaces (price : ℚ) : Prop := ∃ n : ℤ, price = n / 10 ^ 4

theorem FourPlaces.round_complement {price : ℚ} (short : FourPlaces price) : roundTo 10 (1 - price) = 1 - price := by
  obtain ⟨n, rfl⟩ := short
  apply @roundTo_eq_self 10 _ (10 ^ 10 - n * 10 ^ 6)
  push_cast
  ring

theorem safeProbability_bounds {value : Json} {price : ℚ} (read : safeProbability value = some price) :
    0 ≤ price ∧ price ≤ 1 := by
  obtain ⟨number, _, read⟩ := Option.bind_eq_some_iff.mp read
  split_ifs at read with _ outside
  cases read
  simpa using outside

theorem levelOf_bounds {raw : Json} {level : Level} (read : levelOf raw = some level) :
    0 ≤ level.price ∧ level.price ≤ 1 := by
  have inner : ∀ price size : Json, readLevel price size = some level → 0 ≤ level.price ∧ level.price ≤ 1 := by
    intro price size read
    obtain ⟨number, priced, read⟩ := Option.bind_eq_some_iff.mp read
    obtain ⟨_, _, rfl⟩ := Option.map_eq_some_iff.mp read
    exact safeProbability_bounds priced
  unfold levelOf at read
  split at read
  · exact inner _ _ read
  · exact inner _ _ read
  · cases read

theorem mem_levels {raw : Json} {level : Level} :
    level ∈ levels raw ↔ ∃ rows, raw = .arr rows ∧ ∃ row ∈ rows, levelOf row = some level := by
  unfold levels
  cases raw <;> simp [mem_highestFirst]

theorem pairwise_levels (raw : Json) : (levels raw).Pairwise fun a b => b.price ≤ a.price := by
  unfold levels
  split
  · exact pairwise_highestFirst _
  · exact List.Pairwise.nil

theorem pairwise_map_mirrored {levels : List Level} (sorted : levels.Pairwise fun a b => b.price ≤ a.price) :
    (levels.map Level.mirrored).Pairwise fun a b => a.price ≤ b.price := by
  rw [List.pairwise_map]
  apply sorted.imp
  intro a b above
  exact sub_le_sub_left above 1

/-- The asks are the opposite bids mirrored, when the complements need no rounding. -/
theorem asksFromOppositeBids_levels {raw : Json}
    (short : ∀ level ∈ levels raw, roundTo 10 (1 - level.price) = 1 - level.price) :
    asksFromOppositeBids (levels raw) = (levels raw).map Level.mirrored := by
  have inside : (levels raw).filter (fun level => decide (0 ≤ 1 - level.price ∧ 1 - level.price ≤ 1)) = levels raw := by
    rw [List.filter_eq_self]
    intro level member
    obtain ⟨rows, _, row, _, read⟩ := mem_levels.mp member
    obtain ⟨above, below⟩ := levelOf_bounds read
    simp only [decide_eq_true_eq]
    constructor <;> linarith
  have mirrored : (levels raw).map (fun level => (⟨roundTo 10 (1 - level.price), level.size⟩ : Level)) =
      (levels raw).map Level.mirrored := by
    apply List.map_congr_left
    intro level member
    rw [short level member]
    rfl
  rw [asksFromOppositeBids, inside, mirrored]
  exact lowestFirst_eq (pairwise_map_mirrored (pairwise_levels raw))

theorem getOrderbook_eq {runtime : Venue.Runtime} {ticker contract : Text} {outcome : Outcome}
    (named : splitContractId runtime contract = .ok (ticker, outcome)) (payload : Json) :
    getOrderbook runtime contract payload = .ok (snapshot runtime ticker outcome payload) := by
  rw [getOrderbook, named]
  rfl

/-- The NO book is the YES book from the other side. -/
theorem snapshot_mirrors (runtime : Venue.Runtime) (ticker : Text) {payload : Json}
    (short : ∀ level ∈ yesBids payload ++ noBids payload, FourPlaces level.price) :
    (snapshot runtime ticker .no payload).Mirrors (snapshot runtime ticker .yes payload) ∧
      ∀ outcome, (snapshot runtime ticker outcome payload).BestFirst := by
  obtain ⟨yesShort, noShort⟩ := List.forall_mem_append.mp short
  have yes := asksFromOppositeBids_levels fun level member => (yesShort level member).round_complement
  have no := asksFromOppositeBids_levels fun level member => (noShort level member).round_complement
  refine ⟨⟨?_, yes⟩, fun outcome => ?_⟩
  · change noBids payload = (asksFromOppositeBids (noBids payload)).map Level.mirrored
    unfold noBids
    rw [no, map_mirrored_mirrored]
  · cases outcome with
    | yes => exact ⟨pairwise_levels _, by
        change (asksFromOppositeBids (levels _)).Pairwise _
        rw [no]
        exact pairwise_map_mirrored (pairwise_levels _)⟩
    | no => exact ⟨pairwise_levels _, by
        change (asksFromOppositeBids (levels _)).Pairwise _
        rw [yes]
        exact pairwise_map_mirrored (pairwise_levels _)⟩

/-! ## Two encodings of a book -/

/-- A level at a whole number of cents, with the text of its price in dollars. -/
structure Quote where
  cents : Nat
  dollars : Text
  size : Json
  whole : 1 ≤ cents ∧ cents ≤ 99
  spelled : floatText dollars = some (.finite (cents / 100))

def Quote.inDollars (quote : Quote) : Json := .arr [.str quote.dollars, quote.size]

def Quote.inCents (quote : Quote) : Json := .arr [.int quote.cents, quote.size]

def dollarsPayload (yes no : List Quote) : Json :=
  .obj (record [("orderbook_fp", .obj (record [("yes_dollars", .arr (yes.map Quote.inDollars)),
    ("no_dollars", .arr (no.map Quote.inDollars))]))])

def centsPayload (yes no : List Quote) : Json :=
  .obj (record [("orderbook", .obj (record [("yes", .arr (yes.map Quote.inCents)), ("no", .arr (no.map Quote.inCents))]))])

/-- The price in dollars. -/
def Quote.share (quote : Quote) : ℚ := quote.cents / 100

theorem Quote.share_lt (quote : Quote) : quote.share < 1 := by
  have small : (quote.cents : ℚ) ≤ 99 := by exact_mod_cast quote.whole.2
  unfold share
  linarith

theorem Quote.share_nonneg (quote : Quote) : 0 ≤ quote.share := by
  unfold share
  positivity

theorem safeProbability_dollars (quote : Quote) : safeProbability (.str quote.dollars) = some quote.share := by
  have number : finite (.str quote.dollars) = some quote.share := by
    rw [finite, PyFloat.ofJson, quote.spelled]
    rfl
  have below := quote.share_lt
  have above := quote.share_nonneg
  have kept : dollarsOf quote.share = quote.share := if_neg (by linarith)
  rw [safeProbability, number, Option.bind_some, if_neg (by intro both; linarith [both.1]), kept,
    if_neg (by rintro (low | high) <;> linarith)]

/-- One cent is taken for one dollar. -/
theorem safeProbability_cents (quote : Quote) :
    safeProbability (.int quote.cents) = some (if quote.cents = 1 then 1 else quote.share) := by
  have number : finite (.int quote.cents) = some (quote.cents : ℚ) := by
    simp [finite, PyFloat.ofJson]
  have plain : pointed (.int quote.cents) = false := rfl
  have above := quote.share_nonneg
  rw [safeProbability, number, Option.bind_some, if_neg (by simp [plain])]
  by_cases one : quote.cents = 1
  · simp [one, dollarsOf]
  · have many : (1 : ℚ) < quote.cents := by
      have := quote.whole.1
      exact_mod_cast (by omega : 1 < quote.cents)
    have share : dollarsOf quote.cents = quote.share := if_pos many
    have below := quote.share_lt
    rw [share, if_neg one, if_neg (by rintro (low | high) <;> linarith)]

theorem levelOf_inDollars (quote : Quote) :
    levelOf quote.inDollars = (positive quote.size).map fun size => ⟨quote.share, size⟩ := by
  rw [Quote.inDollars, levelOf, readLevel, safeProbability_dollars, Option.bind_some]

theorem levelOf_inCents (quote : Quote) : levelOf quote.inCents =
    (positive quote.size).map fun size => ⟨if quote.cents = 1 then 1 else quote.share, size⟩ := by
  rw [Quote.inCents, levelOf, readLevel, safeProbability_cents, Option.bind_some]

/-- A list of rows is read whether or not it is empty. -/
theorem levels_firstTrue (rows : List Json) (others : List Json) (blank : ∀ other ∈ others, other = .null) :
    levels (firstTrue (.arr rows :: others)) = levels (.arr rows) := by
  cases others with
  | nil => rfl
  | cons next later =>
    cases rows with
    | cons row rest => rfl
    | nil =>
      have nothing : ∀ others : List Json, (∀ other ∈ others, other = .null) → levels (firstTrue others) = [] := by
        intro others
        induction others with
        | nil => intro _; rfl
        | cons first rest ih =>
          intro blank
          obtain ⟨rfl, later⟩ := List.forall_mem_cons.mp blank
          cases rest with
          | nil => rfl
          | cons second rest => exact ih later
      change levels (firstTrue (next :: later)) = _
      rw [nothing _ blank]
      rfl

theorem book_dollars (yes no : List Quote) : orderbookPayload (dollarsPayload yes no) =
    record [("yes_dollars", .arr (yes.map Quote.inDollars)), ("no_dollars", .arr (no.map Quote.inDollars))] := by
  unfold orderbookPayload dollarsPayload
  simp only [List.findSome?_cons, get_record]
  rfl

theorem book_cents (yes no : List Quote) : orderbookPayload (centsPayload yes no) =
    record [("yes", .arr (yes.map Quote.inCents)), ("no", .arr (no.map Quote.inCents))] := by
  unfold orderbookPayload centsPayload
  simp only [List.findSome?_cons, get_record]
  rfl

theorem yesBids_dollars (yes no : List Quote) :
    yesBids (dollarsPayload yes no) = levels (.arr (yes.map Quote.inDollars)) := by
  unfold yesBids firstField
  rw [book_dollars]
  simp only [List.map_cons, List.map_nil, get_record]
  exact levels_firstTrue _ [.null, .null, .null] (by simp)

theorem noBids_dollars (yes no : List Quote) :
    noBids (dollarsPayload yes no) = levels (.arr (no.map Quote.inDollars)) := by
  unfold noBids firstField
  rw [book_dollars]
  simp only [List.map_cons, List.map_nil, get_record]
  exact levels_firstTrue _ [.null, .null, .null] (by simp)

theorem yesBids_cents (yes no : List Quote) : yesBids (centsPayload yes no) = levels (.arr (yes.map Quote.inCents)) := by
  unfold yesBids firstField
  rw [book_cents]
  simp only [List.map_cons, List.map_nil, get_record]
  exact levels_firstTrue _ [.null, .null] (by simp)

theorem noBids_cents (yes no : List Quote) : noBids (centsPayload yes no) = levels (.arr (no.map Quote.inCents)) := by
  unfold noBids firstField
  rw [book_cents]
  simp only [List.map_cons, List.map_nil, get_record]
  exact levels_firstTrue _ [.null, .null] (by simp)

/-- No level that counts is at one cent. -/
def NoCent (quotes : List Quote) : Prop := ∀ quote ∈ quotes, (positive quote.size).isSome → quote.cents ≠ 1

theorem levels_inCents_eq_iff (quotes : List Quote) :
    levels (.arr (quotes.map Quote.inCents)) = levels (.arr (quotes.map Quote.inDollars)) ↔ NoCent quotes := by
  constructor
  · intro same quote member sized one
    obtain ⟨size, sized⟩ := Option.isSome_iff_exists.mp sized
    -- The cent shows as a level at one dollar, which no level in dollars has.
    have shown : (⟨1, size⟩ : Level) ∈ levels (.arr (quotes.map Quote.inCents)) := by
      apply mem_levels.mpr
      refine ⟨_, rfl, quote.inCents, List.mem_map_of_mem member, ?_⟩
      rw [levelOf_inCents, sized, one]
      simp
    rw [same] at shown
    obtain ⟨_, equal, row, listed, read⟩ := mem_levels.mp shown
    cases equal
    obtain ⟨other, _, rfl⟩ := List.mem_map.mp listed
    rw [levelOf_inDollars] at read
    obtain ⟨_, _, level⟩ := Option.map_eq_some_iff.mp read
    have below := other.share_lt
    have one : other.share = 1 := congrArg Level.price level
    rw [one] at below
    exact lt_irrefl _ below
  · intro clean
    have each : (quotes.map Quote.inCents).filterMap levelOf = (quotes.map Quote.inDollars).filterMap levelOf := by
      rw [List.filterMap_map, List.filterMap_map]
      apply List.filterMap_congr
      intro quote member
      rw [Function.comp_apply, Function.comp_apply, levelOf_inCents, levelOf_inDollars]
      cases sized : positive quote.size with
      | none => rfl
      | some size =>
        have many := clean quote member (Option.isSome_iff_exists.mpr ⟨size, sized⟩)
        rw [if_neg many]
    rw [levels, levels, each]

/-- The two encodings show the same snapshots exactly when no level is at one cent. -/
theorem encodings_agree_iff (runtime : Venue.Runtime) (ticker : Text) (yes no : List Quote) :
    (∀ outcome, snapshot runtime ticker outcome (centsPayload yes no) =
      snapshot runtime ticker outcome (dollarsPayload yes no)) ↔ NoCent yes ∧ NoCent no := by
  rw [← levels_inCents_eq_iff, ← levels_inCents_eq_iff]
  constructor
  · intro same
    have yesSame := congrArg OrderBookSnapshot.bids (same .yes)
    have noSame := congrArg OrderBookSnapshot.bids (same .no)
    change yesBids _ = yesBids _ at yesSame
    change noBids _ = noBids _ at noSame
    rw [yesBids_cents, yesBids_dollars] at yesSame
    rw [noBids_cents, noBids_dollars] at noSame
    exact ⟨yesSame, noSame⟩
  · intro ⟨yesSame, noSame⟩ outcome
    cases outcome <;>
      simp only [snapshot, yesBids_cents, yesBids_dollars, noBids_cents, noBids_dollars, yesSame, noSame]

/-! ## Candles from both sides -/

/-- The prices of a candle to ten decimals. -/
def Candle.tenPlaces (candle : Candle) : Candle :=
  ⟨1 - roundTo 10 (1 - candle.opening), 1 - roundTo 10 (1 - candle.high), 1 - roundTo 10 (1 - candle.low),
    1 - roundTo 10 (1 - candle.closing)⟩

/-- One candle is read for both outcomes: the row has a price object, or its NO bids read as its YES bids. No price
has more than ten decimals. -/
def OneCandle (raw : Item) : Prop :=
  match Feed.asItem (raw.get "price") with
  | some price => (candleOf price).map Candle.tenPlaces = candleOf price
  | none => ((Feed.asItem (raw.get "no_bid")).bind candleOf).map Candle.tenPlaces =
      (Feed.asItem (raw.get "yes_bid")).bind candleOf

/-- The NO candle is the complement of the YES candle exactly when one candle is read for both. -/
theorem candleValues_complement_iff (raw : Item) :
    candleValues raw .no = (candleValues raw .yes).map Candle.complement ↔ OneCandle raw := by
  have read : OneCandle raw ↔
      ((priceOf .no raw).bind candleOf).map Candle.tenPlaces = (priceOf .yes raw).bind candleOf := by
    unfold OneCandle priceOf
    cases Feed.asItem (raw.get "price") <;> rfl
  have yes : candleValues raw .yes = (priceOf .yes raw).bind candleOf := by
    change ((priceOf .yes raw).bind candleOf).map id = _
    exact Option.map_id_fun' ▸ rfl
  have no : candleValues raw .no = ((priceOf .no raw).bind candleOf).map fun candle =>
      ⟨roundTo 10 (1 - candle.opening), roundTo 10 (1 - candle.low), roundTo 10 (1 - candle.high),
        roundTo 10 (1 - candle.closing)⟩ := rfl
  rw [read, yes, no]
  cases (priceOf .no raw).bind candleOf with
  | none => cases (priceOf .yes raw).bind candleOf <;> simp
  | some first =>
    cases (priceOf .yes raw).bind candleOf with
    | none => simp
    | some second =>
      simp only [Option.map_some, Option.some.injEq, Candle.complement, Candle.tenPlaces]
      constructor
      · intro same
        obtain ⟨opening, low, high, closing⟩ := Candle.mk.injEq .. ▸ same
        rw [opening, low, high, closing]
        simp
      · intro same
        rw [← same]
        simp

/-! ## Orders from both sides -/

/-- An order on NO and the order on YES that it stands for. -/
structure Opposite (runtime : Venue.Runtime) (ticker : Text) (no yes : Venue.OrderRequest) : Prop where
  noContract : splitContractId runtime no.contractId = .ok (ticker, .no)
  yesContract : splitContractId runtime yes.contractId = .ok (ticker, .yes)
  sides : (runtime.casing.upper no.side = text "BUY" ∧ runtime.casing.upper yes.side = text "SELL") ∨
    (runtime.casing.upper no.side = text "SELL" ∧ runtime.casing.upper yes.side = text "BUY")
  prices : ∃ price, no.limitPrice = some price ∧ yes.limitPrice = some (PyFloat.exact.sub (.finite 1) price)
  size : no.size = yes.size
  metadata : no.metadata = yes.metadata

/-- Both orders are sent as one payload, up to the client order id. -/
theorem buildLiveOrderPayload_opposite {runtime : Venue.Runtime} {ticker : Text} {no yes : Venue.OrderRequest}
    (opposite : Opposite runtime ticker no yes) (config : Item) (fresh other : Text) :
    (buildLiveOrderPayload runtime config fresh no).map LivePayload.unnamed =
      (buildLiveOrderPayload runtime config other yes).map LivePayload.unnamed := by
  obtain ⟨noTicker, yesTicker, sides, ⟨price, noPrice, yesPrice⟩, size, metadata⟩ := opposite
  have distinct : text "SELL" ≠ text "BUY" := by decide
  have same : yesSideOrder runtime no.side .no price =
      yesSideOrder runtime yes.side .yes (PyFloat.exact.sub (.finite 1) price) := by
    rcases sides with ⟨buys, sells⟩ | ⟨sells, buys⟩
    · simp [yesSideOrder, buys, sells, distinct]
    · simp [yesSideOrder, buys, sells, distinct]
  unfold buildLiveOrderPayload metadataOr
  rw [noTicker, yesTicker, noPrice, yesPrice, size, metadata]
  dsimp only [bind, Except.bind]
  rw [same]
  split_ifs <;> rfl

end Kalshi

end MarketSentinel.Quotes
