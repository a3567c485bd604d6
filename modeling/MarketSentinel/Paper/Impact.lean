import Mathlib.Data.Rat.Floor
import MarketSentinel.Library.StableSort
import MarketSentinel.Paper.Conservation

/-! The accounting row of one contract, and the preview of an order's impact.

A contract's row is computed from its own accepted records in their order of time.
A preview computes it with one record more, as the ledger does once the order is recorded.
-/

set_option autoImplicit false

namespace MarketSentinel.Paper

open Python

/-! ## Orders and their preview -/

structure PaperOrderRequest where
  marketId : Text
  contractId : Text
  side : Text
  size : Json
  limitPrice : Json

structure PaperOrderResult where
  accepted : Bool
  filledSize : Json
  averagePrice : Json

def PaperOrderRequest.key (order : PaperOrderRequest) : Text × Text := (order.marketId, order.contractId)

/-- The currency of a supported venue, when it is known. -/
def quoteCurrencyOf (marketId : Text) : Option Text :=
  ((shareQuoteCurrencies.find? fun entry => decide (entry.1 = marketId)).map Prod.snd).join

def creation (record : PaperTradeRecord) : ℚ := (number record.createdAt).getD 0

/-- The latest creation time, or zero for an empty ledger. -/
def latest : List PaperTradeRecord → ℚ
  | [] => 0
  | record :: rest => (rest.map creation).foldl max (creation record)

/-- `int(timestamp)`, towards zero. -/
def truncated (timestamp : ℚ) : Int := timestamp.num.tdiv timestamp.den

def preview (records : List PaperTradeRecord) (order : PaperOrderRequest) (identity : Text) : PaperTradeRecord where
  marketId := order.marketId
  contractId := order.contractId
  side := order.side
  size := order.size
  limitPrice := order.limitPrice
  accepted := true
  quoteCurrency := quoteCurrencyOf order.marketId
  id := .str identity
  createdAt := .int (truncated (latest records + 1))

inductive Effect where
  | unavailable
  | opens
  | closes
  | flips
  | adds
  | reduces
  deriving DecidableEq

def Effect.text : Effect → Text
  | .unavailable => Python.text "unavailable"
  | .opens => Python.text "opens position"
  | .closes => Python.text "closes position"
  | .flips => Python.text "flips position"
  | .adds => Python.text "adds to position"
  | .reduces => Python.text "reduces position"

def effectOf : Option ℚ → Option ℚ → Option ℚ → Effect
  | some current, some next, some signed =>
    if current = 0 then .opens
    else if next = 0 then .closes
    else if current * next < 0 then .flips
    else if 0 < current * signed then .adds
    else .reduces
  | _, _, _ => .unavailable

structure Impact where
  marketId : Text
  contractId : Text
  side : Text
  size : Json
  limitPrice : Json
  currentNet : Option ℚ
  signedSize : Option ℚ
  projectedNet : Option ℚ
  effect : Effect
  orderNotional : Option ℚ
  projectedNotional : Option ℚ
  projectedAverage : Option ℚ
  projectedRealized : Option ℚ
  accountingStatus : AccountingStatus
  incompleteReasons : List Reason
  executionAssumptions : List Assumption
  deriving DecidableEq

/-- The reported row of a contract, open or closed. -/
def Accounting.row? (report : Accounting) (key : Text × Text) : Option Row :=
  (report.positions ++ report.closedPositions).find? fun row => decide (row.key = key)

/-- The share of one that an order states as its limit. -/
def statedLimit (order : PaperOrderRequest) : Option ℚ :=
  (number order.limitPrice).filter fun price => decide (0 ≤ price ∧ price ≤ 1)

def paperOrderImpact (casing : Casing) (records : List PaperTradeRecord) (order : PaperOrderRequest) (identity : Text) :
    Except AccountingError Impact := do
  let before ← paperAccounting casing records
  let current := before.positions.find? fun row => decide (row.key = order.key)
  let after ← paperAccounting casing (preview records order identity :: records)
  let projected := after.row? order.key
  let supported := decide (order.marketId ∈ shareQuoteCurrencies.map Prod.fst) &&
    decide (order.side = text "BUY" ∨ order.side = text "SELL")
  let signed := ((number order.size).filter fun size => supported && decide (0 < size)).map fun size =>
    size * if order.side = text "SELL" then -1 else 1
  let notional := signed.bind fun signed => (statedLimit order).map fun price => signed * price
  let currentNet :=
    match current with
    | some row => row.netSize
    | none => if supported then some 0 else none
  let next := projected.bind Row.netSize
  return {
    marketId := order.marketId
    contractId := order.contractId
    side := order.side
    size := order.size
    limitPrice := order.limitPrice
    currentNet := currentNet
    signedSize := signed
    projectedNet := next
    effect := effectOf currentNet next signed
    orderNotional := if quoteCurrencyOf order.marketId = none then none else notional
    projectedNotional := projected.bind Row.notional
    projectedAverage := projected.bind Row.averagePrice
    projectedRealized := projected.bind Row.realized
    accountingStatus := (projected.map Row.accountingStatus).getD .incomplete
    incompleteReasons := (projected.map Row.incompleteReasons).getD [.unsupportedVenueQuantityModel]
    executionAssumptions := [.assumedFullFillAtLimit] }

def maxPaperTrades : Nat := 50000

def capacityReached : Text :=
  text "Paper history capacity (50000 records) reached; no order was recorded. " ++
    text "Export and reconcile the complete ledger before explicitly clearing it. " ++
    text "Open inventory is never silently pruned."

/-- The record of a submitted order; the clock shows whole seconds. -/
def recordOf (order : PaperOrderRequest) (result : PaperOrderResult) (identity : Text) (now : Nat) :
    PaperTradeRecord where
  marketId := order.marketId
  contractId := order.contractId
  side := order.side
  size := order.size
  limitPrice := order.limitPrice
  accepted := result.accepted
  filledSize := result.filledSize
  averagePrice := result.averagePrice
  quoteCurrency := quoteCurrencyOf order.marketId
  id := .str identity
  createdAt := .int now

/-- The ledger with the record of an order in front. -/
def recordPaperTrade (records : List PaperTradeRecord) (order : PaperOrderRequest) (result : PaperOrderResult)
    (identity : Text) (now : Nat) : Except Text (PaperTradeRecord × List PaperTradeRecord) :=
  if maxPaperTrades ≤ records.length then .error capacityReached
  else .ok (recordOf order result identity now, recordOf order result identity now :: records)

/-! ## The records of a contract in their order -/

/-- Creation time only: an insertion sort by it puts later list entries first among equals. -/
def Sooner (first second : PaperTradeRecord) : Prop := creation first < creation second

instance : DecidableRel Sooner := fun first second => by unfold Sooner; infer_instance

/-- Sorting pairs whose places ascend depends on the times alone. -/
theorem map_sort_earlier {pairs : List (PaperTradeRecord × Nat)} (ascending : pairs.Pairwise fun a b => a.2 < b.2) :
    (pairs.insertionSort Earlier).map Prod.fst = (pairs.map Prod.fst).insertionSort Sooner := by
  induction pairs with
  | nil => rfl
  | cons pair rest ih =>
    obtain ⟨below, ascends⟩ := List.pairwise_cons.mp ascending
    -- A pair of an earlier place goes before another only when it is strictly older.
    have strict : ∀ other ∈ rest.insertionSort Earlier, (Earlier pair other ↔ Sooner pair.1 other.1) := by
      intro other member
      have place := below other ((List.perm_insertionSort Earlier rest).mem_iff.mp member)
      unfold Earlier Sooner creation
      constructor
      · rintro (sooner | ⟨_, reached⟩)
        · exact sooner
        · omega
      · exact Or.inl
    have insert : ∀ l : List (PaperTradeRecord × Nat), (∀ other ∈ l, (Earlier pair other ↔ Sooner pair.1 other.1)) →
        (l.orderedInsert Earlier pair).map Prod.fst = (l.map Prod.fst).orderedInsert Sooner pair.1 := by
      intro l
      induction l with
      | nil => simp
      | cons first others inner =>
        intro agree
        have here := agree first List.mem_cons_self
        have later := inner fun other member => agree other (List.mem_cons_of_mem _ member)
        by_cases sooner : Sooner pair.1 first.1
        · simp [here.mpr sooner, sooner]
        · simp [mt here.mp sooner, sooner, later]
    simp only [List.insertionSort_cons, List.map_cons]
    rw [insert _ strict, ih ascends]

theorem zipIdx_ascending (records : List PaperTradeRecord) (start : Nat) :
    (records.zipIdx start).Pairwise fun a b => a.2 < b.2 := by
  induction records generalizing start with
  | nil => simp
  | cons record rest ih =>
    rw [List.zipIdx_cons, List.pairwise_cons]
    refine ⟨fun other member => ?_, ih (start + 1)⟩
    have place := List.le_snd_of_mem_zipIdx member
    omega

instance : Std.Total Earlier := by
  refine ⟨fun first second => ?_⟩
  unfold Earlier
  rcases lt_trichotomy ((number first.1.createdAt).getD 0) ((number second.1.createdAt).getD 0) with less | same | more
  · exact Or.inl (Or.inl less)
  · rcases le_total first.2 second.2 with small | large
    · exact Or.inr (Or.inr ⟨same.symm, small⟩)
    · exact Or.inl (Or.inr ⟨same, large⟩)
  · exact Or.inr (Or.inl more)

instance : IsTrans (PaperTradeRecord × Nat) Earlier := by
  refine ⟨fun first second third left right => ?_⟩
  unfold Earlier at *
  rcases left with left | ⟨same, place⟩ <;> rcases right with right | ⟨equal, later⟩
  · exact Or.inl (left.trans right)
  · exact Or.inl (equal ▸ left)
  · exact Or.inl (same ▸ right)
  · exact Or.inr ⟨same.trans equal, later.trans place⟩

/-- The records of a contract in the order of the whole ledger are its records in their own order. -/
theorem ofContract_chronological (key : Text × Text) (records : List PaperTradeRecord) :
    ofContract key (chronological records) = (ofContract key records).insertionSort Sooner := by
  have own : ((records.zipIdx).filter fun pair => pair.1.accepted && decide (pair.1.key = key)).map Prod.fst =
      ofContract key records := by
    have through := List.filter_map (f := Prod.fst) (p := fun record : PaperTradeRecord =>
      record.accepted && decide (record.key = key)) (l := records.zipIdx)
    rw [List.zipIdx_map_fst] at through
    exact through.symm
  unfold ofContract chronological
  rw [List.filter_map]
  change (((records.zipIdx.insertionSort Earlier).filter fun pair => pair.1.accepted && decide (pair.1.key = key)).map
    Prod.fst) = _
  rw [StableSort.filter_insertionSort, map_sort_earlier ((zipIdx_ascending records 0).filter _), own]
  rfl

/-! ## The row of a contract -/

variable (casing : Casing)

/-- The row that a contract's records make, none of which repeats an identity. -/
def follow : List PaperTradeRecord → Option Row
  | [] => none
  | first :: rest => some ((first :: rest).foldl (fun row record => row.account casing record false) (emptyRow first))

theorem follow_append {records : List PaperTradeRecord} {row : Row} (followed : follow casing records = some row)
    (record : PaperTradeRecord) : follow casing (records ++ [record]) = some (row.account casing record false) := by
  cases records with
  | nil => cases followed
  | cons first rest =>
    cases followed
    rw [List.cons_append, follow, ← List.cons_append, List.foldl_append]
    rfl

/-- No identity occurs twice. -/
def DistinctIds (records : List PaperTradeRecord) : Prop :=
  records.Pairwise fun a b => a.id.sameKey b.id = false ∧ b.id.sameKey a.id = false

variable {casing} in
theorem follows_run {book final : Book} {records rest : List PaperTradeRecord}
    (holds : book.Holds (fun row records => follow casing records = some row) records) (distinct : DistinctIds rest)
    (fresh : ∀ record ∈ rest, book.seenIds.any record.id.sameKey = false) (run : book.run casing rest = .ok final) :
    final.Holds (fun row records => follow casing records = some row) (records ++ rest) := by
  induction rest generalizing book records with
  | nil =>
    cases run
    simpa using holds
  | cons record rest ih =>
    obtain ⟨apart, distinct⟩ := List.pairwise_cons.mp distinct
    have new := fresh record List.mem_cons_self
    rw [Book.run] at run
    cases step : book.record casing record with
    | error error =>
      rw [step] at run
      cases run
    | ok next =>
      rw [step] at run
      have held : next.Holds (fun row records => follow casing records = some row) (records ++ [record]) := by
        refine holds.step casing ?_ (fun row _ followed => ?_) step
        · rw [new]
          rfl
        · rw [new]
          exact follow_append casing followed record
      have unseen : ∀ other ∈ rest, next.seenIds.any other.id.sameKey = false := by
        intro other member
        have before := fresh other (List.mem_cons_of_mem _ member)
        unfold Book.record at step
        split at step
        · split at step
          · cases step
            rw [List.any_cons, before, (apart other member).2]
            rfl
          · cases step
        · cases step
          exact before
      rw [← List.singleton_append, ← List.append_assoc]
      exact ih held distinct unseen run

theorem find?_eq_some_iff_of_nodup {rows : List Row} (distinct : (rows.map Row.key).Nodup) (key : Text × Text)
    (row : Row) : rows.find? (fun row => decide (row.key = key)) = some row ↔ row ∈ rows ∧ row.key = key := by
  induction rows with
  | nil => simp
  | cons first rest ih =>
    rw [List.map_cons, List.nodup_cons] at distinct
    rw [List.find?_cons]
    by_cases same : first.key = key
    · simp only [same, decide_true, Option.some.injEq, List.mem_cons]
      constructor
      · rintro rfl
        exact ⟨Or.inl rfl, same⟩
      · rintro ⟨rfl | later, equal⟩
        · rfl
        · have listed : row.key ∈ rest.map Row.key := List.mem_map_of_mem later
          rw [equal, ← same] at listed
          exact absurd listed distinct.1
    · simp only [same, decide_false, ih distinct.2, List.mem_cons]
      constructor
      · exact fun ⟨later, equal⟩ => ⟨Or.inr later, equal⟩
      · rintro ⟨rfl | later, equal⟩
        · exact absurd equal same
        · exact ⟨later, equal⟩

theorem chronological_perm (records : List PaperTradeRecord) : (chronological records).Perm records := by
  have sorted := (List.perm_insertionSort Earlier records.zipIdx).map Prod.fst
  rwa [List.zipIdx_map_fst] at sorted

variable {casing}

/-- The reported row of a contract is made of its own records alone, in their order of time. -/
theorem row?_paperAccounting {records : List PaperTradeRecord} {report : Accounting} (distinct : DistinctIds records)
    (returned : paperAccounting casing records = .ok report) (key : Text × Text) :
    report.row? key = (follow casing ((ofContract key records).insertionSort Sooner)).map Row.finish := by
  unfold paperAccounting at returned
  cases run : Book.run casing ⟨[], []⟩ (chronological records) with
  | error error =>
    rw [run] at returned
    cases returned
  | ok book =>
    rw [run] at returned
    cases returned
    have apart : DistinctIds (chronological records) :=
      distinct.perm (chronological_perm records).symm fun swapped => ⟨swapped.2, swapped.1⟩
    have holds := @follows_run casing _ _ _ _ (emptyBook_holds _) apart (fun _ _ => rfl) run
    rw [List.nil_append] at holds
    -- The rows of the report are the finished rows of the book, each once.
    have perm : ((MarketSentinel.Paper.report ((book.grouped.map Row.finish).insertionSort RowBefore)).positions ++
        (MarketSentinel.Paper.report ((book.grouped.map Row.finish).insertionSort RowBefore)).closedPositions).Perm
        (book.grouped.map Row.finish) := by
      refine List.Perm.trans ?_ (List.perm_insertionSort RowBefore _)
      have parts := List.filter_append_perm (fun row : Row => decide (row.netSize ≠ some 0))
        ((book.grouped.map Row.finish).insertionSort RowBefore)
      simpa [MarketSentinel.Paper.report] using parts
    have keys : (book.grouped.map Row.finish).map Row.key = book.grouped.map Row.key := by
      rw [List.map_map]
      rfl
    have unique := ((perm.map Row.key).nodup_iff).mpr (keys ▸ holds.distinct)
    rw [← ofContract_chronological]
    apply Option.ext
    intro row
    unfold Accounting.row?
    rw [find?_eq_some_iff_of_nodup unique, perm.mem_iff]
    constructor
    · rintro ⟨member, same⟩
      obtain ⟨old, inside, rfl⟩ := List.mem_map.mp member
      have followed := holds.rows old inside
      rw [show old.key = key from same] at followed
      rw [followed]
      rfl
    · intro found
      obtain ⟨old, followed, rfl⟩ := Option.map_eq_some_iff.mp found
      have present : key ∈ book.grouped.map Row.key := by
        by_contra absent
        rw [holds.covered key absent] at followed
        cases followed
      obtain ⟨row, inside, same⟩ := List.mem_map.mp present
      have followed' := holds.rows row inside
      rw [same, followed] at followed'
      cases followed'
      exact ⟨List.mem_map_of_mem inside, same⟩

/-- Deleting, adding or moving records of other contracts, or rejected ones, leaves a row as it is. -/
theorem row_depends_on_own_records {records others : List PaperTradeRecord} {report other : Accounting}
    (distinct : DistinctIds records) (apart : DistinctIds others)
    (returned : paperAccounting casing records = .ok report) (returned' : paperAccounting casing others = .ok other)
    {key : Text × Text} (same : ofContract key records = ofContract key others) : report.row? key = other.row? key := by
  rw [row?_paperAccounting distinct returned, row?_paperAccounting apart returned', same]

/-! ## One record more -/

/-- A record that is not earlier than the others of its contract is accounted last. -/
theorem sort_latest {own : List PaperTradeRecord} {record : PaperTradeRecord}
    (last : ∀ other ∈ own, creation other ≤ creation record) :
    (record :: own).insertionSort Sooner = own.insertionSort Sooner ++ [record] := by
  have insert : ∀ l : List PaperTradeRecord, (∀ other ∈ l, ¬Sooner record other) →
      l.orderedInsert Sooner record = l ++ [record] := by
    intro l
    induction l with
    | nil => simp
    | cons first rest ih =>
      intro never
      have later := ih fun other member => never other (List.mem_cons_of_mem _ member)
      simp [never first List.mem_cons_self, later]
  rw [List.insertionSort_cons]
  apply insert
  intro other member
  have inside := (List.perm_insertionSort Sooner own).mem_iff.mp member
  exact not_lt.mpr (last other inside)

/-- The row before the last record, empty when there is none. -/
def rowBefore (casing : Casing) (own : List PaperTradeRecord) (record : PaperTradeRecord) : Row :=
  (follow casing (own.insertionSort Sooner)).getD (emptyRow record)

theorem follow_latest {own : List PaperTradeRecord} {record : PaperTradeRecord}
    (last : ∀ other ∈ own, creation other ≤ creation record) :
    follow casing ((record :: own).insertionSort Sooner) =
      some ((rowBefore casing own record).account casing record false) := by
  rw [sort_latest last]
  unfold rowBefore
  cases followed : follow casing (own.insertionSort Sooner) with
  | none =>
    have none : own.insertionSort Sooner = [] := by
      cases sorted : own.insertionSort Sooner with
      | nil => rfl
      | cons first rest =>
        rw [sorted] at followed
        cases followed
    rw [none]
    rfl
  | some row => exact follow_append casing followed record

/-- What accounting reads of a record, apart from the identity and the time, which only must be valid. -/
theorem account_congr (row : Row) {first second : PaperTradeRecord} (market : first.marketId = second.marketId)
    (side : first.side = second.side) (size : first.size = second.size) (limit : first.limitPrice = second.limitPrice)
    (currency : first.quoteCurrency = second.quoteCurrency) (left : number first.filledSize = some 0)
    (right : number second.filledSize = some 0) (valid : InvalidIdentity first ↔ InvalidIdentity second) :
    row.account casing first false = row.account casing second false := by
  have quantity : InvalidQuantity first ↔ InvalidQuantity second := by
    unfold InvalidQuantity
    rw [size, left, right]
  have supported : Supported casing first ↔ Supported casing second := by
    unfold Supported
    rw [market, side]
  have price : statedPrice first 0 = statedPrice second 0 := by
    unfold statedPrice
    rw [if_pos rfl, if_pos rfl, limit]
  have opened : row.opened first false = row.opened second false := by
    unfold Row.opened Row.note
    rw [currency]
  have checked : ∀ row : Row, row.checked first = row.checked second := by
    intro row
    unfold Row.checked Row.note
    simp only [quantity, valid]
  have priced : ∀ row : Row, row.priced first 0 = row.priced second 0 := by
    intro row
    unfold Row.priced
    simp only [price]
  have signed : ∀ requested, signedSize casing first requested 0 = signedSize casing second requested 0 := by
    intro requested
    unfold signedSize
    rw [side]
  unfold Row.account
  simp only [opened, supported, checked, size, left, right]
  cases ((row.opened second false).checked second).netSize with
  | none => rfl
  | some current =>
    cases number second.size with
    | none => rfl
    | some requested => simp only [priced, signed, price]

/-! ## Rows whose quantity is lost -/

/-- A row without amounts. -/
structure Row.Lost (row : Row) : Prop where
  netSize : row.netSize = none
  notional : row.notional = none
  averagePrice : row.averagePrice = none
  realized : row.realized = none
  reasons : row.incompleteReasons ≠ []

theorem note_reasons {row : Row} (reasons : row.incompleteReasons ≠ []) (bad : Prop) [Decidable bad] (reason : Reason)
    (loss : Degradation) : (row.note bad reason loss).incompleteReasons ≠ [] := by
  unfold Row.note
  split
  · rw [loss.reasons]
    simp
  · exact reasons

theorem note_netSize (row : Row) (bad : Prop) [Decidable bad] (reason : Reason) :
    (row.note bad reason dropQuantity).netSize = if bad then none else row.netSize := by
  unfold Row.note
  split <;> rfl

theorem checked_netSize (row : Row) (record : PaperTradeRecord) :
    (row.checked record).netSize =
      if InvalidQuantity record ∨ InvalidIdentity record then none else row.netSize := by
  unfold Row.checked
  rw [note_netSize, note_netSize]
  have kept : (row.note (row.currency = none) .quoteCurrencyUnavailable dropRealized).netSize = row.netSize := by
    unfold Row.note
    split <;> rfl
  rw [kept]
  split_ifs <;> simp_all

/-- A record that loses the quantity, or finds it lost, leaves no amount. -/
theorem account_lost {row : Row} {record : PaperTradeRecord}
    (bad : row.Lost ∨ InvalidQuantity record ∨ InvalidIdentity record) : (row.account casing record false).Lost := by
  have opened : (row.opened record false).netSize = row.netSize := by
    unfold Row.opened
    rw [note_netSize, if_neg (by decide)]
    unfold Row.note
    split <;> rfl
  have old : row.Lost → (row.opened record false).incompleteReasons ≠ [] := by
    intro lost
    unfold Row.opened
    apply note_reasons
    apply note_reasons
    exact lost.reasons
  unfold Row.account
  split
  · -- an unsupported record loses everything
    unfold Row.note
    rw [if_pos trivial]
    refine ⟨rfl, rfl, rfl, rfl, ?_⟩
    rw [dropEverything.reasons]
    simp
  · have lost : ((row.opened record false).checked record).netSize = none := by
      rw [checked_netSize, opened]
      rcases bad with lost | invalid
      · rw [lost.netSize, ite_self]
      · rw [if_pos invalid]
    have reasons : ((row.opened record false).checked record).incompleteReasons ≠ [] := by
      unfold Row.checked
      rcases bad with lost | invalid | invalid
      · apply note_reasons
        apply note_reasons
        apply note_reasons
        exact old lost
      · apply note_reasons
        unfold Row.note
        rw [if_pos invalid, dropQuantity.reasons]
        simp
      · unfold Row.note
        rw [if_pos invalid, dropQuantity.reasons]
        simp
    simp only [lost]
    exact ⟨lost, rfl, rfl, rfl, reasons⟩

/-- Without a loss the quantity is known afterwards. -/
theorem account_held {row : Row} {record : PaperTradeRecord} (supported : Supported casing record)
    (held : row.netSize.isSome) (valid : ¬(InvalidQuantity record ∨ InvalidIdentity record)) :
    (row.account casing record false).netSize.isSome := by
  have opened : (row.opened record false).netSize = row.netSize := by
    unfold Row.opened
    rw [note_netSize, if_neg (by decide)]
    unfold Row.note
    split <;> rfl
  have checked : ((row.opened record false).checked record).netSize = row.netSize := by
    rw [checked_netSize, opened, if_neg valid]
  obtain ⟨current, known⟩ := Option.isSome_iff_exists.mp held
  unfold Row.account
  rw [if_neg (not_not.mpr supported)]
  simp only [checked, known]
  cases requested : number record.size with
  | none => exact absurd (Or.inl (by simp [InvalidQuantity, requested])) valid
  | some size =>
    cases filled : number record.filledSize with
    | none => exact absurd (Or.inl (by simp [InvalidQuantity, requested, filled])) valid
    | some amount => rfl

theorem foldl_lost {row : Row} (lost : row.Lost) (records : List PaperTradeRecord) :
    (records.foldl (fun row record => row.account casing record false) row).Lost := by
  induction records generalizing row with
  | nil => exact lost
  | cons record rest ih => exact ih (account_lost (Or.inl lost))

theorem rowBefore_lost {own : List PaperTradeRecord} (some : own ≠ [])
    (invalid : ∀ other ∈ own, InvalidIdentity other) (record : PaperTradeRecord) :
    (rowBefore casing own record).Lost := by
  unfold rowBefore
  have perm := List.perm_insertionSort Sooner own
  cases sorted : own.insertionSort Sooner with
  | nil =>
    rw [sorted] at perm
    exact absurd (List.nil_perm.mp perm) some
  | cons first rest =>
    have member : first ∈ own := perm.mem_iff.mp (sorted ▸ List.mem_cons_self)
    exact foldl_lost (account_lost (Or.inr (Or.inr (invalid first member)))) rest

/-! ## The preview and the ledger -/

/-- The row shows what the preview announced. -/
structure Agrees (row : Row) (impact : Impact) : Prop where
  netSize : row.netSize = impact.projectedNet
  notional : row.notional = impact.projectedNotional
  averagePrice : row.averagePrice = impact.projectedAverage
  realized : row.realized = impact.projectedRealized
  accountingStatus : row.accountingStatus = impact.accountingStatus

/-- A fresh identity is a text with something in it that no record has. -/
def Fresh (identity : Text) (records : List PaperTradeRecord) : Prop :=
  strip identity ≠ [] ∧ ∀ record ∈ records, record.id ≠ .str identity

instance (identity : Text) (records : List PaperTradeRecord) : Decidable (Fresh identity records) := by
  unfold Fresh
  infer_instance

theorem distinctIds_cons {record : PaperTradeRecord} {records : List PaperTradeRecord} {identity : Text}
    (own : record.id = .str identity) (fresh : Fresh identity records) (distinct : DistinctIds records) :
    DistinctIds (record :: records) := by
  refine List.pairwise_cons.mpr ⟨fun other member => ?_, distinct⟩
  have different := fresh.2 other member
  rw [own]
  unfold Json.sameKey
  cases shape : other.id with
  | str value =>
    have unlike : value ≠ identity := fun same => different (by rw [shape, same])
    simp [Json.numeric, unlike, Ne.symm unlike]
  | _ => simp [Json.numeric]

/-- Accounting returns exactly when every accepted record has an identity that it can remember. -/
theorem run_returns_iff (book : Book) (records : List PaperTradeRecord) :
    (∃ final, book.run casing records = .ok final) ↔
      ∀ record ∈ records, record.accepted = true → record.id.hashable = true := by
  induction records generalizing book with
  | nil => simp [Book.run]
  | cons record rest ih =>
    rw [Book.run, List.forall_mem_cons]
    unfold Book.record
    by_cases accepted : record.accepted = true
    · by_cases hashable : record.id.hashable = true
      · simp only [accepted, hashable, if_true, ih, implies_true, true_and]
      · simp [accepted, hashable]
    · simp only [accepted, ih, if_false, false_implies, true_and, Bool.false_eq_true]

theorem paperAccounting_returns_iff (records : List PaperTradeRecord) :
    (∃ report, paperAccounting casing records = .ok report) ↔
      ∀ record ∈ records, record.accepted = true → record.id.hashable = true := by
  have members : (∀ record ∈ records, record.accepted = true → record.id.hashable = true) ↔
      ∀ record ∈ chronological records, record.accepted = true → record.id.hashable = true := by
    simp only [(chronological_perm records).mem_iff]
  rw [members, ← @run_returns_iff casing ⟨[], []⟩]
  unfold paperAccounting
  constructor
  · rintro ⟨report, returned⟩
    cases run : Book.run casing ⟨[], []⟩ (chronological records) with
    | ok book => exact ⟨book, rfl⟩
    | error error =>
      rw [run] at returned
      cases returned
  · rintro ⟨book, run⟩
    rw [run]
    exact ⟨_, rfl⟩

theorem le_foldl_max (start : ℚ) (times : List ℚ) :
    start ≤ times.foldl max start ∧ ∀ time ∈ times, time ≤ times.foldl max start := by
  induction times generalizing start with
  | nil => simp
  | cons time rest ih =>
    obtain ⟨above, each⟩ := ih (max start time)
    rw [List.foldl_cons]
    refine ⟨(le_max_left _ _).trans above, fun other member => ?_⟩
    rcases List.mem_cons.mp member with rfl | later
    · exact (le_max_right _ _).trans above
    · exact each other later

theorem creation_le_latest {records : List PaperTradeRecord} {record : PaperTradeRecord} (member : record ∈ records) :
    creation record ≤ latest records := by
  cases records with
  | nil => cases member
  | cons first rest =>
    obtain ⟨above, each⟩ := le_foldl_max (creation first) (rest.map creation)
    rcases List.mem_cons.mp member with rfl | later
    · exact above
    · exact each _ (List.mem_map_of_mem later)

/-- Truncation stays at or above the number below zero, and at or below it above zero. -/
theorem truncated_neg_iff (timestamp : ℚ) : truncated timestamp < 0 ↔ timestamp ≤ -1 := by
  have positive : (0 : Int) < timestamp.den := by exact_mod_cast timestamp.den_pos
  have whole : timestamp ≤ -1 ↔ timestamp.num ≤ -timestamp.den := by
    rw [Rat.le_iff]
    simp
  rw [whole, truncated]
  rcases le_or_gt 0 timestamp.num with nonnegative | negative
  · have quotient := Int.tdiv_nonneg nonnegative positive.le
    omega
  · have opposite : timestamp.num.tdiv timestamp.den = -((-timestamp.num) / timestamp.den) := by
      rw [← Int.tdiv_eq_ediv_of_nonneg (by omega), Int.neg_tdiv, neg_neg]
    rw [opposite]
    have step := Int.le_ediv_iff_mul_le (a := 1) (b := -timestamp.num) positive
    omega

/-- Truncation loses less than one. -/
theorem sub_one_le_truncated (timestamp : ℚ) : timestamp - 1 ≤ truncated timestamp := by
  unfold truncated
  rcases le_or_gt 0 timestamp.num with nonnegative | negative
  · rw [Int.tdiv_eq_ediv_of_nonneg nonnegative, ← Rat.floor_def']
    exact (Int.sub_one_lt_floor timestamp).le
  · -- below zero the quotient is rounded up, to the opposite of a floor
    have opposite : timestamp.num.tdiv timestamp.den = -⌊-timestamp⌋ := by
      rw [Rat.floor_def', Rat.num_neg_eq_neg_num, Rat.den_neg_eq_den, ← Int.tdiv_eq_ediv_of_nonneg (by omega),
        Int.neg_tdiv, neg_neg]
    have below := Int.floor_le (-timestamp)
    rw [opposite, Int.cast_neg]
    linarith

theorem creation_le_preview {records : List PaperTradeRecord} (order : PaperOrderRequest) (identity : Text)
    {record : PaperTradeRecord} (member : record ∈ records) :
    creation record ≤ creation (preview records order identity) := by
  have clock : creation (preview records order identity) = (truncated (latest records + 1) : ℚ) := by
    simp [creation, preview, number]
  have behind := sub_one_le_truncated (latest records + 1)
  rw [clock]
  exact (creation_le_latest member).trans (by linarith)

theorem recordPaperTrade_eq {records ledger : List PaperTradeRecord} {order : PaperOrderRequest}
    {result : PaperOrderResult} {identity : Text} {now : Nat} {record : PaperTradeRecord}
    (recorded : recordPaperTrade records order result identity now = .ok (record, ledger)) :
    record = recordOf order result identity now ∧ ledger = record :: records := by
  unfold recordPaperTrade at recorded
  split at recorded
  · cases recorded
  · cases recorded
    exact ⟨rfl, rfl⟩

theorem ofContract_cons_own {record : PaperTradeRecord} {key : Text × Text} (accepted : record.accepted = true)
    (own : record.key = key) (records : List PaperTradeRecord) :
    ofContract key (record :: records) = record :: ofContract key records := by
  simp [ofContract, accepted, own]

/-- The row of a ledger whose newest record is one of the contract. -/
theorem row?_latest {record : PaperTradeRecord} {records : List PaperTradeRecord} {report : Accounting}
    (distinct : DistinctIds (record :: records)) (accepted : record.accepted = true)
    (last : ∀ other ∈ ofContract record.key records, creation other ≤ creation record)
    (returned : paperAccounting casing (record :: records) = .ok report) :
    report.row? record.key =
      some ((rowBefore casing (ofContract record.key records) record).account casing record false).finish := by
  rw [row?_paperAccounting distinct returned, ofContract_cons_own accepted rfl, follow_latest last]
  rfl

theorem finish_lost {row : Row} (lost : row.Lost) :
    row.finish.Lost ∧ row.finish.accountingStatus = .incomplete := by
  have kept : row.incompleteReasons.eraseDups ≠ [] := by
    obtain ⟨reason, rest, shape⟩ := List.exists_cons_of_ne_nil lost.reasons
    rw [shape, List.eraseDups_cons]
    simp
  refine ⟨⟨lost.netSize, lost.notional, lost.averagePrice, lost.realized, kept⟩, ?_⟩
  simp [Row.finish, kept]

/-- What an impact says about the contract is what its projected row says. -/
theorem projected_of_impact {records : List PaperTradeRecord} {order : PaperOrderRequest} {identity : Text}
    {impact : Impact} (announced : paperOrderImpact casing records order identity = .ok impact) :
    ∃ before after, paperAccounting casing records = .ok before ∧
      paperAccounting casing (preview records order identity :: records) = .ok after ∧
      impact.projectedNet = (after.row? order.key).bind Row.netSize ∧
      impact.projectedNotional = (after.row? order.key).bind Row.notional ∧
      impact.projectedAverage = (after.row? order.key).bind Row.averagePrice ∧
      impact.projectedRealized = (after.row? order.key).bind Row.realized ∧
      impact.accountingStatus = ((after.row? order.key).map Row.accountingStatus).getD .incomplete := by
  unfold paperOrderImpact at announced
  cases old : paperAccounting casing records with
  | error error =>
    rw [old] at announced
    cases announced
  | ok before =>
    cases new : paperAccounting casing (preview records order identity :: records) with
    | error error =>
      rw [old, new] at announced
      cases announced
    | ok after =>
      rw [old, new] at announced
      cases announced
      exact ⟨before, after, rfl, rfl, rfl, rfl, rfl, rfl, rfl⟩

/-- The clock of the preview is no time: every record of a ledger that is not empty is two seconds
or more before zero. -/
def BeforeTime (records : List PaperTradeRecord) : Prop := latest records ≤ -2

/-- The order opens a contract with a quantity. -/
def Opens (records : List PaperTradeRecord) (order : PaperOrderRequest) : Prop :=
  ofContract order.key records = [] ∧ (∃ size, number order.size = some size ∧ 0 < size) ∧
    strip order.contractId ≠ []

theorem invalidIdentity_preview {records : List PaperTradeRecord} {order : PaperOrderRequest} {identity : Text}
    (fresh : strip identity ≠ []) :
    InvalidIdentity (preview records order identity) ↔ BeforeTime records ∨ strip order.contractId = [] := by
  have clock : truncated (latest records + 1) < 0 ↔ BeforeTime records := by
    rw [truncated_neg_iff, BeforeTime]
    constructor <;> intro bound <;> linarith
  unfold InvalidIdentity
  simp [preview, number, fresh, clock]

theorem invalidIdentity_recordOf {order : PaperOrderRequest} {result : PaperOrderResult} {identity : Text} {now : Nat}
    (fresh : strip identity ≠ []) :
    InvalidIdentity (recordOf order result identity now) ↔ strip order.contractId = [] := by
  unfold InvalidIdentity
  simp [recordOf, number, fresh]

/-- A hypothetical fill has a valid quantity when its size is positive. -/
theorem invalidQuantity_unfilled {record : PaperTradeRecord} (unfilled : number record.filledSize = some 0) :
    InvalidQuantity record ↔ ¬∃ size, number record.size = some size ∧ 0 < size := by
  unfold InvalidQuantity
  rw [unfilled]
  cases number record.size with
  | none => simp
  | some size =>
    simp only [Option.some.injEq, exists_eq_left', not_lt]
    constructor
    · rintro (low | impossible | low)
      · exact low
      · exact absurd impossible (lt_irrefl 0)
      · exact low.le
    · exact Or.inl

theorem invalidIdentity_of_beforeTime {records : List PaperTradeRecord} (early : BeforeTime records)
    {record : PaperTradeRecord} (member : record ∈ records) : InvalidIdentity record := by
  have below := (creation_le_latest member).trans early
  left
  unfold creation at below
  cases created : number record.createdAt with
  | none => trivial
  | some timestamp =>
    rw [created] at below
    exact Or.inl (lt_of_le_of_lt below (by norm_num))

/-- The row that a preview projects and the row that the ledger then makes. -/
theorem rows_agree_iff {records : List PaperTradeRecord} {order : PaperOrderRequest} {result : PaperOrderResult}
    {previewId identity : Text} {now : Nat}
    (unfilled : number result.filledSize = some 0) (previewFresh : strip previewId ≠ []) (fresh : strip identity ≠ [])
    (supported : Supported casing (preview records order previewId)) :
    let own := ofContract order.key records
    let projected := (rowBefore casing own (preview records order previewId)).account casing
      (preview records order previewId) false
    let made := (rowBefore casing own (recordOf order result identity now)).account casing
      (recordOf order result identity now) false
    (BeforeTime records ∧ Opens records order → projected.Lost ∧ made.netSize.isSome) ∧
      (¬(BeforeTime records ∧ Opens records order) → projected = made ∨ projected.Lost ∧ made.Lost) := by
  intro own projected made
  have previewQuantity : InvalidQuantity (preview records order previewId) ↔
      ¬∃ size, number order.size = some size ∧ 0 < size :=
    @invalidQuantity_unfilled (preview records order previewId) (by simp [preview, number])
  have madeQuantity : InvalidQuantity (recordOf order result identity now) ↔
      ¬∃ size, number order.size = some size ∧ 0 < size :=
    @invalidQuantity_unfilled (recordOf order result identity now) unfilled
  have previewIdentity := @invalidIdentity_preview records order previewId previewFresh
  have madeIdentity := @invalidIdentity_recordOf order result identity now fresh
  constructor
  · rintro ⟨early, none, positive, titled⟩
    refine ⟨account_lost (Or.inr (Or.inr (previewIdentity.mpr (Or.inl early)))), ?_⟩
    have admitted : Supported casing (recordOf order result identity now) := supported
    apply account_held admitted
    · simp [rowBefore, own, none, follow, emptyRow]
    · rw [madeQuantity, madeIdentity]
      simp [positive, titled]
  · intro otherwise
    by_cases early : BeforeTime records
    · -- No record has a valid time, so whatever the contract holds is lost already.
      right
      have before : projected.Lost := account_lost (Or.inr (Or.inr (previewIdentity.mpr (Or.inl early))))
      refine ⟨before, ?_⟩
      by_cases none : own = []
      · apply account_lost
        right
        rw [madeQuantity, madeIdentity]
        by_contra valid
        rw [not_or, not_not] at valid
        exact otherwise ⟨early, none, valid.1, valid.2⟩
      · have invalid : ∀ other ∈ own, InvalidIdentity other := by
          intro other member
          exact invalidIdentity_of_beforeTime early (List.mem_filter.mp member).1
        exact account_lost (Or.inl (rowBefore_lost none invalid _))
    · left
      have same : rowBefore casing own (preview records order previewId) =
          rowBefore casing own (recordOf order result identity now) := rfl
      have valid : InvalidIdentity (preview records order previewId) ↔
          InvalidIdentity (recordOf order result identity now) := by
        rw [previewIdentity, madeIdentity]
        simp [early]
      show Row.account casing (rowBefore casing own (preview records order previewId)) _ false = _
      rw [same]
      exact account_congr _ rfl rfl rfl rfl rfl (by simp [preview, number]) unfilled valid

/-- A contract's row is made of its own records, and recording an order makes the row that its preview
announced, unless the preview's clock stands before time and the order opens the contract. -/
theorem paper_accounting_meets_preview_iff {records : List PaperTradeRecord} (distinct : DistinctIds records) :
    (∀ (others : List PaperTradeRecord) (report other : Accounting) (key : Text × Text), DistinctIds others →
      paperAccounting casing records = .ok report → paperAccounting casing others = .ok other →
      ofContract key records = ofContract key others → report.row? key = other.row? key) ∧
    ∀ (order : PaperOrderRequest) (result : PaperOrderResult) (previewId identity : Text) (now : Nat)
      (impact : Impact) (record : PaperTradeRecord) (ledger : List PaperTradeRecord),
      Fresh previewId records → Fresh identity records → Supported casing (preview records order previewId) →
      result.accepted = true → number result.filledSize = some 0 →
      (∀ other ∈ ofContract order.key records, creation other ≤ now) →
      paperOrderImpact casing records order previewId = .ok impact →
      recordPaperTrade records order result identity now = .ok (record, ledger) →
      ∃ report, paperAccounting casing ledger = .ok report ∧
        ((∃ row, report.row? order.key = some row ∧ Agrees row impact) ↔
          ¬(BeforeTime records ∧ Opens records order)) := by
  refine ⟨fun others report other key apart returned returned' same =>
    row_depends_on_own_records distinct apart returned returned' same, ?_⟩
  intro order result previewId identity now impact record ledger previewFresh fresh supported accepted unfilled last
    announced recorded
  obtain ⟨made, rfl⟩ := recordPaperTrade_eq recorded
  obtain ⟨before, after, old, new, net, notional, average, realized, status⟩ := projected_of_impact announced
  -- The new record's identity is a text, so accounting returns again.
  have hashable := (@paperAccounting_returns_iff casing records).mp ⟨before, old⟩
  obtain ⟨report, returned⟩ := (@paperAccounting_returns_iff casing (record :: records)).mpr (by
    intro other member accepted
    rcases List.mem_cons.mp member with rfl | earlier
    · rw [made]
      rfl
    · exact hashable other earlier accepted)
  refine ⟨report, returned, ?_⟩
  have projected := row?_latest (distinctIds_cons rfl previewFresh distinct) rfl
    (fun other member => creation_le_preview order previewId (List.mem_filter.mp member).1) new
  subst made
  have row := row?_latest (@distinctIds_cons (recordOf order result identity now) records identity rfl fresh distinct) accepted
    (fun other member => by simpa [creation, recordOf, number] using last other member) returned
  change after.row? order.key = some (Row.finish (Row.account casing (rowBefore casing (ofContract order.key records)
    (preview records order previewId)) (preview records order previewId) false)) at projected
  change report.row? order.key = _ at row
  obtain ⟨differ, agree⟩ := @rows_agree_iff casing records order result previewId identity now unfilled
    previewFresh.1 fresh.1 supported
  rw [projected] at net notional average realized status
  rw [row]
  constructor
  · rintro ⟨shown, same, agrees⟩ opens
    cases same
    obtain ⟨lost, held⟩ := differ opens
    have size := agrees.netSize.trans net
    obtain ⟨amount, known⟩ := Option.isSome_iff_exists.mp held
    have none := (finish_lost lost).1.netSize
    exact absurd (known.symm.trans (size.trans none)) (by simp)
  · intro otherwise
    refine ⟨_, rfl, ?_⟩
    rcases agree otherwise with same | ⟨lost, gone⟩
    · rw [same] at net notional average realized status
      exact ⟨net.symm, notional.symm, average.symm, realized.symm, status.symm⟩
    · obtain ⟨lost, incomplete⟩ := finish_lost lost
      obtain ⟨gone, unfinished⟩ := finish_lost gone
      constructor
      · exact gone.netSize.trans (net.trans lost.netSize).symm
      · exact gone.notional.trans (notional.trans lost.notional).symm
      · exact gone.averagePrice.trans (average.trans lost.averagePrice).symm
      · exact gone.realized.trans (realized.trans lost.realized).symm
      · exact unfinished.trans (status.trans incomplete).symm

/-- A contract's fill, and another contract's from a minute before the epoch. -/
private def sampleRecord (contract identity side : String) (size price : ℚ) (created : Int) : PaperTradeRecord where
  marketId := text "kalshi"
  contractId := text contract
  side := text side
  size := .float (.finite size)
  limitPrice := .float (.finite price)
  accepted := true
  quoteCurrency := text "USD"
  id := .str (text identity)
  createdAt := .int created

private def sampleOrder (side : String) (size price : ℚ) : PaperOrderRequest where
  marketId := text "kalshi"
  contractId := text "rain"
  side := text side
  size := .float (.finite size)
  limitPrice := .float (.finite price)

private def fullFill : PaperOrderResult where
  accepted := true
  filledSize := .float (.finite 0)
  averagePrice := .null

private def openLedger : List PaperTradeRecord :=
  [sampleRecord "snow" "b" "BUY" 5 (3 / 5) 20, sampleRecord "rain" "a" "BUY" 10 (2 / 5) 10]

/-- What the preview says of selling twelve of the ten. -/
private def flipped : Impact where
  marketId := text "kalshi"
  contractId := text "rain"
  side := text "SELL"
  size := .float (.finite 12)
  limitPrice := .float (.finite (7 / 10))
  currentNet := some 10
  signedSize := some (-12)
  projectedNet := some (-2)
  effect := .flips
  orderNotional := some (-42 / 5)
  projectedNotional := some (-7 / 5)
  projectedAverage := some (7 / 10)
  projectedRealized := some 3
  accountingStatus := .complete
  incompleteReasons := []
  executionAssumptions := [.assumedFullFillAtLimit]

private def flip : PaperTradeRecord :=
  recordOf (sampleOrder "SELL" 12 (7 / 10)) fullFill (text "c") 20

private theorem openLedger_distinct : DistinctIds openLedger := by
  unfold DistinctIds
  decide +kernel

theorem paper_accounting_meets_preview_flip :
    ∃ report row, paperAccounting asciiCasing (flip :: openLedger) = .ok report ∧
      report.row? flip.key = some row ∧ Agrees row flipped := by
  obtain ⟨report, returned, agrees⟩ :=
    (@paper_accounting_meets_preview_iff asciiCasing openLedger openLedger_distinct).2
      (sampleOrder "SELL" 12 (7 / 10)) fullFill (text "p") (text "c") 20 flipped flip (flip :: openLedger)
      (by decide +kernel) (by decide +kernel) (by decide +kernel) rfl
      (by decide +kernel) (by decide +kernel) (by decide +kernel) (by rfl)
  have later : ¬BeforeTime openLedger := by
    unfold BeforeTime
    decide +kernel
  obtain ⟨row, shown, same⟩ := agrees.mpr fun early => later early.1
  exact ⟨report, row, returned, shown, same⟩

/-- A ledger whose only record is dated before the epoch. -/
private def earlyLedger : List PaperTradeRecord := [sampleRecord "snow" "b" "BUY" 5 (3 / 5) (-60)]

/-- The preview loses the size of an order that the ledger then shows. -/
theorem preview_before_time :
    DistinctIds earlyLedger ∧
      ((paperOrderImpact asciiCasing earlyLedger (sampleOrder "BUY" 10 (2 / 5)) (text "p")).toOption.map fun impact =>
        (impact.projectedNet, impact.accountingStatus)) = some (none, .incomplete) ∧
      (paperAccounting asciiCasing (recordOf (sampleOrder "BUY" 10 (2 / 5)) fullFill (text "c") 20 ::
        earlyLedger)).toOption.bind (fun report => (report.row? (text "kalshi", text "rain")).map fun row =>
          (row.netSize, row.accountingStatus)) = some (some 10, .complete) := by
  refine ⟨?_, by decide +kernel, by decide +kernel⟩
  unfold DistinctIds
  decide +kernel

end MarketSentinel.Paper
