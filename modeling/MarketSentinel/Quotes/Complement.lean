import MarketSentinel.Library.StableSort
import MarketSentinel.Listing.Dflow
import MarketSentinel.Quotes.Kalshi
import MarketSentinel.Venue.Exposure

/-! YES and NO as complements, on DFlow and on Kalshi.

DFlow answers with bids and perhaps asks of both sides. The adapter takes the asks
of the other side as they are.
-/

set_option autoImplicit false

namespace MarketSentinel.Quotes

open Python Wallet Listing

namespace Dflow

/-- A level of two entries, or of an object. -/
def levelOf (raw : Json) : Option Level :=
  let read := fun price size : Json =>
    (Listing.Dflow.probability price).bind fun price => (positive size).map fun size => (⟨price, size⟩ : Level)
  match raw with
  | .obj fields => read (Item.get fields "price") (firstField fields ["size", "quantity"])
  | .arr (price :: size :: _) => read price size
  | _ => none

/-- The rows of a list, or of an object from prices to sizes. -/
def rows : Json → List Json
  | .obj fields => fields.map fun field => .arr [.str field.1, field.2]
  | .arr rows => rows
  | _ => []

def levels (raw : Json) : List Level := (rows raw).filterMap levelOf

def complementLevels (raw : Json) : List Level := lowestFirst ((lowestFirst (levels raw)).map Level.mirrored)

/-- The asks of an outcome, or the complement of the opposite bids where no asks are given. -/
def asks (asksRaw oppositeBids : Json) : List Level :=
  if asksRaw = .null then complementLevels oppositeBids else lowestFirst (levels asksRaw)

/-- The snapshot of an outcome from its canonical contract and the book. -/
def snapshot (canonical side : Text) (book : Item) : OrderBookSnapshot :=
  if side = text "YES" then
    ⟨canonical, highestFirst (levels (book.get "yes_bids")), asks (book.get "no_asks") (book.get "no_bids")⟩
  else
    ⟨canonical, highestFirst (levels (book.get "no_bids")), asks (book.get "yes_asks") (book.get "yes_bids")⟩

/-- `get_orderbook` on the answer for the outcome's mint. -/
def getOrderbook (spelling : Spelling) (preferred : Text) (metadata : Listing.Dflow.Metadata)
    (cache : Listing.Dflow.Cache) (contractId : Text) (payload : Json) : Except Fault OrderBookSnapshot := do
  let (contract, _) ← Listing.Dflow.resolveContract spelling preferred metadata cache contractId
  return snapshot contract.canonical contract.outcome (Listing.Dflow.mappingPayload payload)

/-- Asks that are given are the complements of the bids on the other side. -/
structure Consistent (book : Item) : Prop where
  no : book.get "no_asks" ≠ .null → lowestFirst (levels (book.get "no_asks")) = complementLevels (book.get "yes_bids")
  yes : book.get "yes_asks" ≠ .null → lowestFirst (levels (book.get "yes_asks")) = complementLevels (book.get "no_bids")

/-- Levels of one price keep their order, so that the complement is the mirrored list of bids. -/
theorem complementLevels_eq (raw : Json) : complementLevels raw = (highestFirst (levels raw)).map Level.mirrored := by
  have reversed : (lowestFirst (levels raw)).map Level.mirrored = highestFirst ((levels raw).map Level.mirrored) := by
    apply List.map_insertionSort
    intro a _ b _
    exact (sub_le_sub_iff_left 1).symm
  rw [complementLevels, reversed, map_mirrored_highestFirst]
  exact StableSort.ascending_descending Level.price _

/-- On a consistent book the sides mirror each other exactly when no asks are given, or both sides bid the same. -/
theorem snapshot_mirrors_iff (canonical other : Text) {book : Item} (consistent : Consistent book) :
    (snapshot other (text "NO") book).Mirrors (snapshot canonical (text "YES") book) ↔
      (book.get "no_asks" = .null ∧ book.get "yes_asks" = .null) ∨
        highestFirst (levels (book.get "no_bids")) = highestFirst (levels (book.get "yes_bids")) := by
  have distinct : text "NO" ≠ text "YES" := by decide
  have yes : snapshot canonical (text "YES") book = ⟨canonical, highestFirst (levels (book.get "yes_bids")),
      asks (book.get "no_asks") (book.get "no_bids")⟩ := if_pos rfl
  have no : snapshot other (text "NO") book = ⟨other, highestFirst (levels (book.get "no_bids")),
      asks (book.get "yes_asks") (book.get "yes_bids")⟩ := if_neg distinct
  have noAsks : asks (book.get "no_asks") (book.get "no_bids") = (highestFirst (levels (if book.get "no_asks" = .null
      then book.get "no_bids" else book.get "yes_bids"))).map Level.mirrored := by
    unfold asks
    split_ifs with absent
    · exact complementLevels_eq _
    · rw [consistent.no absent, complementLevels_eq]
  have yesAsks : asks (book.get "yes_asks") (book.get "yes_bids") = (highestFirst (levels (if book.get "yes_asks" = .null
      then book.get "yes_bids" else book.get "no_bids"))).map Level.mirrored := by
    unfold asks
    split_ifs with absent
    · exact complementLevels_eq _
    · rw [consistent.yes absent, complementLevels_eq]
  rw [yes, no, OrderBookSnapshot.Mirrors, noAsks, yesAsks, map_mirrored_mirrored]
  simp only [(List.map_injective_iff.mpr mirrored_injective).eq_iff]
  by_cases noAbsent : book.get "no_asks" = .null
  · by_cases yesAbsent : book.get "yes_asks" = .null
    · simp [noAbsent, yesAbsent]
    · simp [noAbsent, yesAbsent]
  · by_cases yesAbsent : book.get "yes_asks" = .null
    · simp [noAbsent, yesAbsent]
    · simp [noAbsent, yesAbsent]

theorem snapshot_bestFirst (canonical side : Text) (book : Item) : (snapshot canonical side book).BestFirst := by
  have sorted : ∀ given opposite : Json, (asks given opposite).Pairwise fun a b => a.price ≤ b.price := by
    intro given opposite
    unfold asks
    split
    · exact pairwise_lowestFirst _
    · exact pairwise_lowestFirst _
  unfold snapshot
  split
  · exact ⟨pairwise_highestFirst _, sorted _ _⟩
  · exact ⟨pairwise_highestFirst _, sorted _ _⟩

theorem getOrderbook_eq {spelling : Spelling} {preferred contractId : Text} {metadata : Listing.Dflow.Metadata}
    {cache after : Listing.Dflow.Cache} {contract : Listing.Dflow.Resolved}
    (resolved : Listing.Dflow.resolveContract spelling preferred metadata cache contractId = .ok (contract, after))
    (payload : Json) : getOrderbook spelling preferred metadata cache contractId payload =
      .ok (snapshot contract.canonical contract.outcome (Listing.Dflow.mappingPayload payload)) := by
  rw [getOrderbook, resolved]
  rfl

end Dflow

/-- YES and NO as complements: Kalshi's books and orders always, its two encodings when no level is at one cent, its
candles when one candle is read for both sides, and DFlow's books when no asks are given or both sides bid the same.
The books are what `get_orderbook` answers with. -/
theorem complements_iff (runtime : Venue.Runtime) (ticker : Text) :
    (∀ payload : Json,
      (∀ level ∈ Kalshi.yesBids payload ++ Kalshi.noBids payload, Kalshi.FourPlaces level.price) →
        (Kalshi.snapshot runtime ticker .no payload).Mirrors (Kalshi.snapshot runtime ticker .yes payload) ∧
          ∀ outcome, (Kalshi.snapshot runtime ticker outcome payload).BestFirst) ∧
    (∀ yes no : List Kalshi.Quote,
      (∀ outcome, Kalshi.snapshot runtime ticker outcome (Kalshi.centsPayload yes no) =
        Kalshi.snapshot runtime ticker outcome (Kalshi.dollarsPayload yes no)) ↔ Kalshi.NoCent yes ∧ Kalshi.NoCent no) ∧
    (∀ raw : Item, Kalshi.candleValues raw .no = (Kalshi.candleValues raw .yes).map Kalshi.Candle.complement ↔
      Kalshi.OneCandle raw) ∧
    (∀ no yes : Venue.OrderRequest, Kalshi.Opposite runtime ticker no yes →
      ∀ (config : Item) (fresh other : Text),
        (Kalshi.buildLiveOrderPayload runtime config fresh no).map Kalshi.LivePayload.unnamed =
          (Kalshi.buildLiveOrderPayload runtime config other yes).map Kalshi.LivePayload.unnamed) ∧
    (∀ (yes no : Text) (book : Item), Dflow.Consistent book →
      ((Dflow.snapshot no (text "NO") book).Mirrors (Dflow.snapshot yes (text "YES") book) ↔
        (book.get "no_asks" = .null ∧ book.get "yes_asks" = .null) ∨
          highestFirst (Dflow.levels (book.get "no_bids")) = highestFirst (Dflow.levels (book.get "yes_bids"))) ∧
      ∀ canonical side, (Dflow.snapshot canonical side book).BestFirst) ∧
    (∀ contract outcome, Kalshi.splitContractId runtime contract = .ok (ticker, outcome) → ∀ payload,
      Kalshi.getOrderbook runtime contract payload = .ok (Kalshi.snapshot runtime ticker outcome payload)) ∧
    (∀ spelling preferred metadata cache contractId contract after,
      Listing.Dflow.resolveContract spelling preferred metadata cache contractId = .ok (contract, after) → ∀ payload,
        Dflow.getOrderbook spelling preferred metadata cache contractId payload =
          .ok (Dflow.snapshot contract.canonical contract.outcome (Listing.Dflow.mappingPayload payload))) := by
  refine ⟨?_, ?_, Kalshi.candleValues_complement_iff, ?_, ?_, fun _ _ named => Kalshi.getOrderbook_eq named,
    fun _ _ _ _ _ _ _ resolved => Dflow.getOrderbook_eq resolved⟩
  · intro payload short
    exact Kalshi.snapshot_mirrors runtime ticker short
  · exact Kalshi.encodings_agree_iff runtime ticker
  · intro no yes opposite
    exact Kalshi.buildLiveOrderPayload_opposite opposite
  · intro yes no book consistent
    exact ⟨Dflow.snapshot_mirrors_iff yes no consistent, fun canonical side => Dflow.snapshot_bestFirst canonical side book⟩

/-! ## Where the sides do not mirror each other -/

/-- Rows of one price and ten contracts. -/
def tenAt (price : String) : Json := .arr [.arr [.str (text price), .int 10]]

/-- Bids and asks of one book: bids at 0.40 and 0.55, so that NO asks 0.60 and YES asks 0.45. -/
def fullBook : Item :=
  record [("yes_bids", tenAt "0.40"), ("no_bids", tenAt "0.55"), ("yes_asks", tenAt "0.45"), ("no_asks", tenAt "0.60")]

/-- The bids of both sides over a period without trades. -/
def quietRow : Item :=
  let flat := fun price : String => Json.obj (record [("open", .str (text price)), ("high", .str (text price)),
    ("low", .str (text price)), ("close", .str (text price))])
  record [("yes_bid", flat "0.40"), ("no_bid", flat "0.55")]

def oneCent : Kalshi.Quote where
  cents := 1
  dollars := text "0.01"
  size := .int 10
  whole := by decide
  spelled := by decide +kernel

private theorem fullBook_consistent : Dflow.Consistent fullBook := by
  constructor
  · intro _
    decide +kernel
  · intro _
    decide +kernel

/-- The adapters disagree with the claim on a full DFlow book, on a Kalshi candle of bids, and at one cent. -/
theorem complements_fail :
    (Dflow.Consistent fullBook ∧
      ¬ (Dflow.snapshot (text "T:N") (text "NO") fullBook).Mirrors (Dflow.snapshot (text "T:Y") (text "YES") fullBook) ∧
      (Dflow.snapshot (text "T:Y") (text "YES") fullBook).asks = [⟨3 / 5, 10⟩]) ∧
    (Kalshi.candleValues quietRow .yes = some ⟨2 / 5, 2 / 5, 2 / 5, 2 / 5⟩ ∧
      Kalshi.candleValues quietRow .no = some ⟨9 / 20, 9 / 20, 9 / 20, 9 / 20⟩) ∧
    Kalshi.snapshot Venue.plainRuntime (text "T") .yes (Kalshi.centsPayload [oneCent] []) = ⟨text "T:YES", [⟨1, 10⟩], []⟩ ∧
    Kalshi.snapshot Venue.plainRuntime (text "T") .yes (Kalshi.dollarsPayload [oneCent] []) =
      ⟨text "T:YES", [⟨1 / 100, 10⟩], []⟩ := by
  refine ⟨⟨fullBook_consistent, ?_, ?_⟩, ⟨?_, ?_⟩, ?_, ?_⟩
  · rintro ⟨bids, _⟩
    revert bids
    decide +kernel
  all_goals decide +kernel

/-- Bids only. -/
def bidsBook : Item := record [("yes_bids", tenAt "0.40"), ("no_bids", tenAt "0.55")]

def bidsPayload : Json := .obj (record [("yes", .arr [.arr [.int 40, .int 10]]), ("no", .arr [.arr [.int 55, .int 10]])])

def orderOn (contract side : String) (price : ℚ) : Venue.OrderRequest :=
  ⟨text "kalshi", text contract, text side, .finite 10, some (.finite price), []⟩

private theorem bidsPayload_short :
    ∀ level ∈ Kalshi.yesBids bidsPayload ++ Kalshi.noBids bidsPayload, Kalshi.FourPlaces level.price := by
  have prices : (Kalshi.yesBids bidsPayload ++ Kalshi.noBids bidsPayload) = [⟨2 / 5, 10⟩, ⟨11 / 20, 10⟩] := by
    decide +kernel
  rw [prices]
  intro level member
  rcases List.mem_pair.mp member with rfl | rfl
  · exact ⟨4000, by norm_num⟩
  · exact ⟨5500, by norm_num⟩

private theorem orders_opposite : Kalshi.Opposite Venue.plainRuntime (text "T") (orderOn "T:NO" "BUY" (3 / 10))
    (orderOn "T:YES" "SELL" (7 / 10)) where
  noContract := by decide +kernel
  yesContract := by decide +kernel
  sides := Or.inl (by decide +kernel)
  prices := ⟨.finite (3 / 10), rfl, by decide +kernel⟩
  size := rfl
  metadata := rfl

/-- A book of bids mirrors itself on both venues, Kalshi's also as its adapter answers, and one pair of opposite
orders is one payload. -/
theorem complements_of_bids :
    (Kalshi.snapshot Venue.plainRuntime (text "T") .no bidsPayload).Mirrors
      (Kalshi.snapshot Venue.plainRuntime (text "T") .yes bidsPayload) ∧
    Kalshi.getOrderbook Venue.plainRuntime (text "T:no") bidsPayload =
      .ok (Kalshi.snapshot Venue.plainRuntime (text "T") .no bidsPayload) ∧
    (Kalshi.buildLiveOrderPayload Venue.plainRuntime [] (text "a") (orderOn "T:NO" "BUY" (3 / 10))).map
        Kalshi.LivePayload.unnamed =
      (Kalshi.buildLiveOrderPayload Venue.plainRuntime [] (text "b") (orderOn "T:YES" "SELL" (7 / 10))).map
        Kalshi.LivePayload.unnamed ∧
    (Dflow.snapshot (text "T:N") (text "NO") bidsBook).Mirrors (Dflow.snapshot (text "T:Y") (text "YES") bidsBook) := by
  obtain ⟨books, _, _, orders, feeds, answers, _⟩ := complements_iff Venue.plainRuntime (text "T")
  have consistent : Dflow.Consistent bidsBook := ⟨fun given => absurd rfl given, fun given => absurd rfl given⟩
  exact ⟨(books _ bidsPayload_short).1, answers _ .no (by decide +kernel) _, orders _ _ orders_opposite _ _ _,
    (feeds _ _ _ consistent).1.mpr (Or.inl ⟨rfl, rfl⟩)⟩

end MarketSentinel.Quotes
