import Mathlib.Data.List.Sort
import Mathlib.Data.List.Dedup
import MarketSentinel.Library.Json

/-! Average-cost accounting for the durable, newest-first paper ledger.

Accepted previews without fills are hypothetical full fills at their limit.
Amounts are exact, so the source's overflow branches have no counterpart here.
-/

set_option autoImplicit false

namespace MarketSentinel.Paper

open Python

/-- The fields of a durable paper record that accounting reads. Only identity and
creation time are not coerced when a ledger is loaded. -/
structure PaperTradeRecord where
  marketId : Text
  contractId : Text
  side : Text
  size : Json
  limitPrice : Json
  accepted : Bool
  filledSize : Json := .float (.finite 0)
  averagePrice : Json := .null
  quoteCurrency : Option Text := none
  id : Json
  createdAt : Json

def shareQuoteCurrencies : List (Text × Option Text) :=
  [(text "polymarket", text "pUSD"), (text "kalshi", text "USD"), (text "predictit", text "USD"),
    (text "iowa_electronic_markets", text "USD"), (text "ibkr_forecasttrader", text "USD"),
    (text "forecastex", text "USD"), (text "cme_prediction_markets", text "USD"),
    (text "robinhood_prediction_markets", text "USD"), (text "coinbase_prediction_markets", text "USD"),
    (text "gemini_titan", text "USD"), (text "context_v2", none),
    (text "limitless_exchange", text "USDC"), (text "probable", text "USDT"),
    (text "blinq", text "pUSD"), (text "xmarket", none), (text "predict_fun", text "USDT")]

inductive Reason where
  | inconsistentQuoteCurrency
  | duplicateRecordIdentity
  | unsupportedVenueQuantityModel
  | quoteCurrencyUnavailable
  | invalidFillQuantity
  | invalidRecordIdentityOrTimestamp
  | fillPriceUnavailable
  | multipleQuoteCurrencies
  deriving DecidableEq

def Reason.text : Reason → Text
  | .inconsistentQuoteCurrency => Python.text "inconsistent_quote_currency"
  | .duplicateRecordIdentity => Python.text "duplicate_record_identity"
  | .unsupportedVenueQuantityModel => Python.text "unsupported_venue_quantity_model"
  | .quoteCurrencyUnavailable => Python.text "quote_currency_unavailable"
  | .invalidFillQuantity => Python.text "invalid_fill_quantity"
  | .invalidRecordIdentityOrTimestamp => Python.text "invalid_record_identity_or_timestamp"
  | .fillPriceUnavailable => Python.text "fill_price_unavailable"
  | .multipleQuoteCurrencies => Python.text "multiple_quote_currencies"

inductive Assumption where
  | assumedFullFillAtLimit
  deriving DecidableEq

inductive QuantityUnit where
  | shares
  | unavailable
  deriving DecidableEq

inductive AccountingStatus where
  | complete
  | incomplete
  deriving DecidableEq

structure Row where
  marketId : Text
  contractId : Text
  netSize : Option ℚ
  notional : Option ℚ
  averagePrice : Option ℚ
  realized : Option ℚ
  trades : Nat
  currency : Option Text
  accountingStatus : AccountingStatus
  incompleteReasons : List Reason
  executionAssumptions : List Assumption
  quantityUnit : QuantityUnit
  deriving DecidableEq

/-- `_number`: a finite number or a text of one; truth values are refused. -/
def number : Json → Option ℚ
  | .int value => some value
  | .float (.finite value) => some value
  | .str value =>
    match floatText value with
    | some (.finite number) => some number
    | _ => none
  | _ => none

def emptyRow (record : PaperTradeRecord) : Row where
  marketId := record.marketId
  contractId := record.contractId
  netSize := some 0
  notional := none
  averagePrice := none
  realized := some 0
  trades := 0
  currency := record.quoteCurrency
  accountingStatus := .complete
  incompleteReasons := []
  executionAssumptions := []
  quantityUnit := .shares

def Row.withoutMoney (row : Row) : Row :=
  { row with notional := none, averagePrice := none, realized := none }

def PaperTradeRecord.key (record : PaperTradeRecord) : Text × Text := (record.marketId, record.contractId)

def Row.key (row : Row) : Text × Text := (row.marketId, row.contractId)

/-- The contract of a row and the number of records it counts. -/
def Row.identity (row : Row) : (Text × Text) × Nat := (row.key, row.trades)

/-- A loss of amounts that a failed check causes. -/
structure Degradation where
  change : Row → Row
  reasons : ∀ row, (change row).incompleteReasons = row.incompleteReasons
  identity : ∀ row, (change row).identity = row.identity

def keepAmounts : Degradation := ⟨id, fun _ => rfl, fun _ => rfl⟩

def dropCurrency : Degradation :=
  ⟨fun row => { row.withoutMoney with currency := none }, fun _ => rfl, fun _ => rfl⟩

def dropQuantity : Degradation := ⟨fun row => { row with netSize := none }, fun _ => rfl, fun _ => rfl⟩

def dropRealized : Degradation := ⟨fun row => { row with realized := none }, fun _ => rfl, fun _ => rfl⟩

def dropEverything : Degradation :=
  ⟨fun row => { row.withoutMoney with netSize := none, quantityUnit := .unavailable }, fun _ => rfl, fun _ => rfl⟩

/-- Append a reason and degrade the row when a check fails. -/
def Row.note (row : Row) (bad : Prop) [Decidable bad] (reason : Reason) (loss : Degradation) : Row :=
  if bad then loss.change { row with incompleteReasons := row.incompleteReasons ++ [reason] } else row

def InvalidQuantity (record : PaperTradeRecord) : Prop :=
  match number record.size, number record.filledSize with
  | some requested, some filled => requested ≤ 0 ∨ filled < 0 ∨ requested < filled
  | _, _ => True

instance (record : PaperTradeRecord) : Decidable (InvalidQuantity record) := by
  unfold InvalidQuantity
  cases number record.size <;> cases number record.filledSize <;> infer_instance

def InvalidIdentity (record : PaperTradeRecord) : Prop :=
  (match number record.createdAt with
    | some timestamp => timestamp < 0 ∨ timestamp.den ≠ 1
    | none => True) ∨
  (match record.id with
    | .str identity => strip identity = []
    | _ => True) ∨
  strip record.contractId = []

instance (record : PaperTradeRecord) : Decidable (InvalidIdentity record) := by
  unfold InvalidIdentity
  cases number record.createdAt <;> cases record.id <;> infer_instance

/-- The price of an actual fill, or the limit of a hypothetical one. -/
def statedPrice (record : PaperTradeRecord) (filled : ℚ) : Option ℚ :=
  match number (if filled = 0 then record.limitPrice else record.averagePrice) with
  | some price => if 0 ≤ price ∧ price ≤ 1 then some price else none
  | none => none

/-- One tolerance decides that a closing fill leaves nothing open. -/
def closingTolerance : ℚ := 1 / 10 ^ 12

def nextAverage (current signed : ℚ) (average price : Option ℚ) : Option ℚ :=
  if current = 0 then price
  else if 0 < current * signed then
    match average, price with
    | some average, some price => some ((|current| * average + |signed| * price) / |current + signed|)
    | _, _ => none
  else if |current| < |signed| then price
  else average

def nextRealized (current signed : ℚ) (average price realized : Option ℚ) : Option ℚ :=
  if current = 0 ∨ 0 < current * signed then realized
  else
    match average, price, realized with
    | some average, some price, some realized =>
      some (realized + min |current| |signed| * (price - average) * (if 0 < current then 1 else -1))
    | _, _, _ => none

/-- The assumption of a hypothetical fill and the reason of a missing price. -/
def Row.priced (row : Row) (record : PaperTradeRecord) (filled : ℚ) : Row :=
  let row := if filled = 0 ∧ .assumedFullFillAtLimit ∉ row.executionAssumptions then
    { row with executionAssumptions := row.executionAssumptions ++ [.assumedFullFillAtLimit] } else row
  row.note (statedPrice record filled = none) .fillPriceUnavailable keepAmounts

/-- A signed fill of a row whose quantity is known. -/
def Row.move (row : Row) (current signed : ℚ) (price : Option ℚ) : Row :=
  let average := nextAverage current signed row.averagePrice price
  let closes := |current + signed| ≤ closingTolerance * max |current| |signed|
  let next := if closes then 0 else current + signed
  let average := if closes then none else average
  let basis := match average with
    | some average => some (next * average)
    | none => if next = 0 then some 0 else none
  { row with
    netSize := some next
    averagePrice := average
    realized := nextRealized current signed row.averagePrice price row.realized
    notional := if row.currency = none then none else basis }

/-- The checks that need no quantity model. -/
def Row.opened (row : Row) (record : PaperTradeRecord) (duplicate : Bool) : Row :=
  ({ row with trades := row.trades + 1 }
    |>.note (record.quoteCurrency ≠ row.currency) .inconsistentQuoteCurrency dropCurrency
    |>.note (duplicate = true) .duplicateRecordIdentity dropQuantity)

/-- The checks of a supported venue. -/
def Row.checked (row : Row) (record : PaperTradeRecord) : Row :=
  (row.note (row.currency = none) .quoteCurrencyUnavailable dropRealized
    |>.note (InvalidQuantity record) .invalidFillQuantity dropQuantity
    |>.note (InvalidIdentity record) .invalidRecordIdentityOrTimestamp dropQuantity)

def Supported (casing : Casing) (record : PaperTradeRecord) : Prop :=
  record.marketId ∈ shareQuoteCurrencies.map Prod.fst ∧
    (casing.upper record.side = text "BUY" ∨ casing.upper record.side = text "SELL")

instance (casing : Casing) (record : PaperTradeRecord) : Decidable (Supported casing record) := by
  unfold Supported; infer_instance

def signedSize (casing : Casing) (record : PaperTradeRecord) (requested filled : ℚ) : ℚ :=
  (if filled = 0 then requested else filled) * (if casing.upper record.side = text "BUY" then 1 else -1)

/-- One accepted record of the row's contract. -/
def Row.account (casing : Casing) (row : Row) (record : PaperTradeRecord) (duplicate : Bool) : Row :=
  let row := row.opened record duplicate
  if ¬Supported casing record then row.note True .unsupportedVenueQuantityModel dropEverything
  else
    let row := row.checked record
    match row.netSize, number record.size, number record.filledSize with
    | some current, some requested, some filled =>
      (row.priced record filled).move current (signedSize casing record requested filled)
        (statedPrice record filled)
    | _, _, _ => row.withoutMoney

/-- The rows in order of first appearance, and the identities already seen. -/
structure Book where
  grouped : List Row
  seenIds : List Json

inductive AccountingError where
  | unhashableIdentity
  deriving DecidableEq

/-- Change the row of the record's contract, appending an empty one when there is none. -/
def updateRow (record : PaperTradeRecord) (change : Row → Row) : List Row → List Row
  | [] => [change (emptyRow record)]
  | row :: rest =>
    if row.key = record.key then change row :: rest else row :: updateRow record change rest

def Book.record (casing : Casing) (book : Book) (record : PaperTradeRecord) : Except AccountingError Book :=
  if record.accepted then
    if record.id.hashable then
      let duplicate := book.seenIds.any record.id.sameKey
      .ok {
        grouped := updateRow record (fun row => row.account casing record duplicate) book.grouped
        seenIds := record.id :: book.seenIds }
    else .error .unhashableIdentity
  else .ok book

def Book.run (casing : Casing) (book : Book) : List PaperTradeRecord → Except AccountingError Book
  | [] => .ok book
  | record :: rest =>
    match book.record casing record with
    | .ok next => next.run casing rest
    | .error error => .error error

/-- Creation time first, then reverse ledger order. -/
def Earlier (first second : PaperTradeRecord × Nat) : Prop :=
  let before := (number first.1.createdAt).getD 0
  let after := (number second.1.createdAt).getD 0
  before < after ∨ (before = after ∧ second.2 ≤ first.2)

instance : DecidableRel Earlier := fun first second => by unfold Earlier; infer_instance

def chronological (records : List PaperTradeRecord) : List PaperTradeRecord :=
  (records.zipIdx.insertionSort Earlier).map Prod.fst

def Row.finish (row : Row) : Row :=
  { row with
    incompleteReasons := row.incompleteReasons.eraseDups
    accountingStatus := if row.incompleteReasons.eraseDups = [] then row.accountingStatus else .incomplete }

structure Accounting where
  status : AccountingStatus
  positions : List Row
  closedPositions : List Row
  realized : Option ℚ
  quoteCurrency : Option Text
  incompleteReasons : List Text
  executionAssumptions : List Assumption
  deriving DecidableEq

def RowBefore (first second : Row) : Prop :=
  first.marketId < second.marketId ∨
    (first.marketId = second.marketId ∧ first.contractId ≤ second.contractId)

instance : DecidableRel RowBefore := fun first second => by unfold RowBefore; infer_instance

/-- The report over finished rows in contract order. -/
def report (rows : List Row) : Accounting :=
  let currencies := ((rows.filterMap Row.currency).filter (· ≠ [])).dedup.insertionSort (· ≤ ·)
  let reasons := ((rows.flatMap Row.incompleteReasons).map Reason.text).dedup.insertionSort (· ≤ ·)
  let reasons := if 1 < currencies.length then reasons ++ [Reason.multipleQuoteCurrencies.text] else reasons
  let complete := reasons = []
  { status := if complete then .complete else .incomplete
    positions := rows.filter fun row => row.netSize ≠ some 0
    closedPositions := rows.filter fun row => row.netSize = some 0
    realized := if complete then (rows.mapM Row.realized).map List.sum else none
    quoteCurrency := match currencies with
      | [currency] => some currency
      | _ => none
    incompleteReasons := reasons
    executionAssumptions := (rows.flatMap Row.executionAssumptions).dedup }

def paperAccounting (casing : Casing) (records : List PaperTradeRecord) : Except AccountingError Accounting :=
  match Book.run casing ⟨[], []⟩ (chronological records) with
  | .ok book => .ok (report ((book.grouped.map Row.finish).insertionSort RowBefore))
  | .error error => .error error

end MarketSentinel.Paper
