import Mathlib.Data.List.Dedup
import Mathlib.Data.List.Sort
import MarketSentinel.Leaderboard.Validation

/-! The durable store of a leaderboard scan.

Three tables: metadata, committed cursor pages and one retained row for each
wallet. Opening the store checks them against each other; every operation is one
transaction.
-/

set_option autoImplicit false

namespace MarketSentinel.Leaderboard

open Python

/-- The metadata entries; an absent entry is `none`. -/
structure Metadata where
  signature : Option Text := none
  mddSignature : Option Text := none
  scanComplete : Option Bool := none
  stopReason : Option Text := none
  stopOffset : Option Nat := none
  repeatedPageOffset : Option Nat := none
  sourceApiVersion : Option Nat := none
  v2NextCursor : Option (Option Text) := none
  v2NextPage : Option Nat := none
  deriving DecidableEq

structure Page where
  pageOffset : Nat
  pageLimit : Nat
  rowCount : Nat
  fingerprint : Text
  walletFingerprint : Text
  sourceVersion : Nat
  sourceCursor : Option Text
  nextCursor : Option Text
  deriving DecidableEq

inductive MddStatus where
  | pending
  | done
  | error
  deriving DecidableEq

/-- The enrichment columns of a retained row. -/
structure Enrichment where
  status : MddStatus := .pending
  attempts : Nat := 0
  mddUsd : Option PyFloat := none
  mddPct : Option PyFloat := none
  method : Option Text := none
  source : Option Text := none
  summary : Option Text := none
  error : Option Text := none
  deriving DecidableEq

structure StoredRow where
  id : Nat
  pageOffset : Nat
  pageIndex : Nat
  rank : Json
  displayName : Text
  wallet : Text
  pnlUsd : Json
  volumeUsd : Json
  volumeShares : Json
  roiPct : Json
  tradeCount : Json
  raw : Dict Text Json
  mdd : Enrichment
  deriving DecidableEq

structure Tables where
  metadata : Metadata
  pages : List Page
  rows : List StoredRow
  deriving DecidableEq

def Tables.empty : Tables := ⟨{}, [], []⟩

/-- The runtime parts a store rests on: case folding, float rounding, `str` of a
value, the text that SQLite converts for a REAL column (to a number near the one
it spells, or not at all) and the SHA-256 fingerprints of a normalized page, of a
source page and of a sorted wallet list. -/
structure Runtime where
  casing : Casing
  rounding : FloatRounding
  columnReal : Text → Json
  show_ : Json → Text
  show_str : ∀ t, show_ (.str t) = t
  pageDigest : List Row → Text
  sourceDigest : List Json → Text
  walletsDigest : List Text → Text

theorem show_text (t : Text) : (match Json.str t with
    | .str t => t
    | _ => []) = t := rfl

/-! ## Binding values to columns -/

def bindText (t : Text) : Except Text Text :=
  if encodable t then .ok t else .error (text "surrogates not allowed")

def fitsInteger (value : Int) : Bool := decide (-2 ^ 63 ≤ value ∧ value < 2 ^ 63)

/-- A value bound to a REAL column. -/
def bindReal (runtime : Runtime) (value : Json) : Except Text Json :=
  match value with
  | .null => .ok .null
  | .bool value => .ok (.float (.finite (if value then 1 else 0)))
  | .int value =>
    if fitsInteger value then
      match runtime.rounding.nearest value with
      | some nearest => .ok (.float (.finite nearest))
      | none => .error (text "integer overflow")
    else .error (text "integer overflow")
  | .float .nan => .ok .null
  | .float value => .ok (.float value)
  | .str value => (bindText value).map runtime.columnReal
  | _ => .error (text "type is not supported")

/-- A value bound to an INTEGER column that only exports read. -/
def bindInteger (value : Json) : Except Text Json :=
  match value with
  | .int value => if fitsInteger value then .ok (.int value) else .error (text "integer overflow")
  | .str value => (bindText value).map .str
  | .arr _ | .obj _ => .error (text "type is not supported")
  | other => .ok other

/-! ## Opening -/

/-- A drawdown in its REAL column, where a NaN is NULL. -/
def drawdownColumn (value : Option PyFloat) : Json :=
  match value with
  | some .nan => .null
  | some value => .float value
  | none => .null

/-- The columns of a retained row as the row validator reads them. -/
def StoredRow.fields (row : StoredRow) : Row :=
  [(text "wallet", .str row.wallet), (text "pnl_usd", row.pnlUsd), (text "volume_usd", row.volumeUsd),
    (text "volume_shares", row.volumeShares), (text "roi_pct", row.roiPct),
    (text "mdd_usd", drawdownColumn row.mdd.mddUsd), (text "mdd_pct", drawdownColumn row.mdd.mddPct),
    (text "raw", .obj row.raw)]

def validateDurableRows (casing : Casing) (rounding : FloatRounding) (rows : List StoredRow) : Except Text Unit :=
  rows.forM fun row => validateStoredLeaderboardRow casing rounding row.fields

def validCursor (cursor : Text) : Bool :=
  decide (cursor ≠ [] ∧ cursor.length ≤ 8192 ∧ strip cursor = cursor) &&
    cursor.all fun c => 32 ≤ c.val && c.val ≠ 127

def validCursor? (cursor : Option Text) : Bool := cursor.all validCursor

/-- The walk over the saved pages: the expected cursor, the consumed ones and the count. -/
structure Walk where
  expected : Option Text := none
  consumed : List Text := []
  count : Nat := 0
  seenLegacy : Bool := false
  deriving DecidableEq

def walkPage (w : Walk) (page : Page) : Except Text Walk :=
  if page.sourceVersion = 1 then
    if w.count ≠ 0 then .error (text "Leaderboard state mixes offset and cursor provenance.")
    else .ok { w with seenLegacy := true }
  else if page.sourceVersion ≠ 2 ∨ w.seenLegacy = true ∨ page.pageOffset ≠ w.count then
    .error (text "Leaderboard state has an invalid v2 cursor page sequence.")
  else if w.count ≠ 0 ∧ w.expected = none then
    .error (text "Leaderboard state contains pages after cursor exhaustion.")
  else if validCursor? page.sourceCursor = false ∨ validCursor? page.nextCursor = false then
    .error (text "Leaderboard state has an invalid saved cursor.")
  else if page.sourceCursor ≠ w.expected then
    .error (text "Leaderboard state has a broken saved cursor chain.")
  else
    let consumed := w.expected.toList ++ w.consumed
    if page.nextCursor.any fun cursor => decide (cursor ∈ consumed) then
      .error (text "Leaderboard state has a repeated saved cursor.")
    else if ¬(1 ≤ page.pageLimit ∧ page.pageLimit ≤ 1000 ∧ page.rowCount ≤ page.pageLimit) then
      .error (text "Leaderboard state has invalid cursor page bounds.")
    else .ok { w with expected := page.nextCursor, consumed := consumed, count := w.count + 1 }

def walkPages (w : Walk) : List Page → Except Text Walk
  | [] => .ok w
  | page :: rest => do
    let next ← walkPage w page
    walkPages next rest

def endOfResults : Text := text "end_of_results"

def repeatedPage : Text := text "repeated_page"

/-- A retained row whose page is missing, of another source or too short. -/
def misplaced (pages : List Page) (row : StoredRow) : Bool :=
  match pages.find? fun page => decide (page.pageOffset = row.pageOffset) with
  | none => true
  | some page => decide (page.rowCount ≤ row.pageIndex ∨ page.sourceVersion ≠ 2)

def excessive (rows : List StoredRow) (page : Page) : Bool :=
  decide (page.rowCount < rows.countP fun row => decide (row.pageOffset = page.pageOffset))

/-- What the metadata must say about the walked pages. -/
def checkProgress (metadata : Metadata) (w : Walk) : Except Text Unit :=
  let reason := metadata.stopReason.getD []
  if w.seenLegacy = true ∨ metadata.sourceApiVersion ≠ some 2 ∨
      metadata.v2NextCursor.getD none ≠ w.expected ∨ metadata.v2NextPage.getD 0 ≠ w.count then
    .error (text "Leaderboard cursor progress metadata contradicts its saved pages.")
  else if metadata.scanComplete = none ∨
      (metadata.scanComplete = some true ∧ reason ≠ endOfResults ∧ reason ≠ repeatedPage) ∨
      (metadata.scanComplete = some false ∧ reason ≠ []) then
    .error (text "Leaderboard cursor completion metadata has no consistent terminal reason.")
  else if w.count ≠ 0 ∧ ¬(w.expected = none ↔ reason = endOfResults) then
    .error (text "Leaderboard cursor exhaustion metadata contradicts its saved pages.")
  else if w.count ≠ 0 ∧ w.expected = none ∧ metadata.scanComplete ≠ some true then
    .error (text "Leaderboard terminal cursor is not marked complete.")
  else .ok ()

/-- Reject durable v2 provenance that cannot reproduce its continuation. -/
def validateCursorChain (t : Tables) : Except Text Unit := do
  let w ← walkPages {} (t.pages.insertionSort fun first second => first.pageOffset ≤ second.pageOffset)
  if w.count ≠ 0 ∨ t.metadata.sourceApiVersion = some 2 then
    if t.rows.any (misplaced t.pages) ∨ t.pages.any (excessive t.rows) then
      .error (text "Leaderboard retained observations contradict their source cursor pages.")
    else checkProgress t.metadata w
  else return ()

/-- Construct the store on a database; a new file gets empty tables. -/
def openStore (casing : Casing) (rounding : FloatRounding) : Option Tables → Except Text Tables
  | none => .ok .empty
  | some t => do
    validateDurableRows casing rounding t.rows
    validateCursorChain t
    return t

/-! ## Operations -/

/-- A transaction commits what its body returns; a body that raises changes nothing. -/
def transaction {α : Type} (t : Tables) (body : Except Text (Tables × α)) : Tables × Except Text α :=
  match body with
  | .ok (next, result) => (next, .ok result)
  | .error message => (t, .error message)

/-- A scan signature: its canonical text, and whether it names source version 2. -/
structure Signature where
  serialized : Text
  native : Bool

def prepare (t : Tables) (signature : Signature) (resume : Bool) : Tables × Except Text Unit :=
  let existing := t.metadata.signature.getD []
  transaction t do
    let next ←
      if resume then
        if existing ≠ [] ∧ existing ≠ signature.serialized then
          .error (text "State database was created with different leaderboard scan settings.")
        else if existing = [] then
          .ok { t with metadata := { t.metadata with signature := some signature.serialized } }
        else .ok t
      else .ok ⟨{ signature := some signature.serialized, scanComplete := some false }, [], []⟩
    if signature.native ∧ next.metadata.sourceApiVersion = none then
      return ({ next with metadata := { next.metadata with
        sourceApiVersion := some 2
        v2NextCursor := some none
        v2NextPage := some 0 } }, ())
    else return (next, ())

/-- Invalidate enrichment, not fetched pages, when calculation inputs change. -/
def prepareMdd (t : Tables) (serialized : Text) : Tables × Except Text Nat :=
  if t.metadata.mddSignature.getD [] = serialized then (t, .ok 0)
  else
    let stale := fun row : StoredRow => decide (row.mdd.status ≠ .pending ∨ row.mdd.summary ≠ none)
    transaction t (.ok ({ t with
      rows := t.rows.map fun row => if stale row then { row with mdd := {} } else row
      metadata := { t.metadata with mddSignature := some serialized } }, t.rows.countP stale))

/-- The drawdown summary of one wallet; `document` is its JSON text, which is ASCII. -/
structure MddSummary where
  available : Bool
  mddUsd : Option PyFloat
  mddPct : Option PyFloat
  method : Option Text
  accountingStatus : Text
  markReplayStatus : Text
  document : Text

def MddSummary.source (summary : MddSummary) : Text :=
  if summary.accountingStatus ≠ [] then summary.accountingStatus
  else if summary.markReplayStatus ≠ [] then summary.markReplayStatus
  else summary.method.getD []

def updateRow (rowId : Nat) (change : Enrichment → Enrichment) (rows : List StoredRow) : List StoredRow :=
  rows.map fun row => if row.id = rowId then { row with mdd := change row.mdd } else row

def setMdd (t : Tables) (rowId : Nat) (payload : Option MddSummary) (error : Option Text) :
    Tables × Except Text Unit :=
  match payload with
  | none => transaction t do
    let message ← bindText ((error.getD (text "MDD unavailable")).take 512)
    return ({ t with rows := updateRow rowId (fun mdd =>
      { mdd with status := .error, attempts := mdd.attempts + 1, error := some message }) t.rows }, ())
  | some summary => transaction t do
    let method ← summary.method.mapM bindText
    let source ← bindText summary.source
    return ({ t with rows := updateRow rowId (fun mdd =>
      { status := .done
        attempts := mdd.attempts + 1
        mddUsd := if summary.available then summary.mddUsd else none
        mddPct := if summary.available then summary.mddPct else none
        method := method
        source := some source
        summary := some summary.document
        error := none }) t.rows }, ())

section Record

variable (runtime : Runtime)

/-- The first identity of a row under any of its names. -/
def memberWallet (row : Row) : Text :=
  let keys := [text "wallet", text "proxyWallet", text "proxy_wallet", text "address", text "userAddress"]
  match (keys.filterMap row.get?).find? Json.truthy with
  | some value => runtime.casing.lower (strip (runtime.show_ value))
  | none => []

/-- The digest of the set of wallets, or nothing when a row has none. -/
def walletMembershipFingerprint (rows : List Row) : Text :=
  let wallets := rows.map (memberWallet runtime)
  if wallets = [] ∨ [] ∈ wallets then [] else runtime.walletsDigest (wallets.dedup.insertionSort (· ≤ ·))

/-- One row with every value bound to its column; `id` is assigned at the insertion. -/
def bindRow (pageOffset pageIndex : Nat) (row : Row) : Except Text StoredRow := do
  let rank ← bindInteger (row.read "rank")
  let displayName ← bindText (if (row.read "display_name").truthy then runtime.show_ (row.read "display_name")
    else text "-")
  let wallet ← bindText (runtime.casing.lower (strip
    (if (row.read "wallet").truthy then runtime.show_ (row.read "wallet") else [])))
  let pnlUsd ← bindReal runtime (row.read "pnl_usd")
  let volumeUsd ← bindReal runtime (row.read "volume_usd")
  let volumeShares ← bindReal runtime (row.read "volume_shares")
  let roiPct ← bindReal runtime (row.read "roi_pct")
  let tradeCount ← bindInteger (row.read "trade_count")
  match row.read "raw" with
  | .obj raw =>
    if Json.fieldsFinite raw then
      return ⟨0, pageOffset, pageIndex, rank, displayName, wallet, pnlUsd, volumeUsd, volumeShares, roiPct,
        tradeCount, raw, {}⟩
    else .error (text "Out of range float values are not JSON compliant")
  | _ => return ⟨0, pageOffset, pageIndex, rank, displayName, wallet, pnlUsd, volumeUsd, volumeShares, roiPct,
      tradeCount, [], {}⟩

def nextId (rows : List StoredRow) : Nat := rows.foldr (fun row next => max (row.id + 1) next) 1

/-- `INSERT ... ON CONFLICT(wallet) WHERE wallet != '' DO NOTHING`. -/
def insertRow (rows : List StoredRow) (row : StoredRow) : List StoredRow :=
  if row.wallet ≠ [] ∧ row.wallet ∈ rows.map StoredRow.wallet then rows
  else rows ++ [{ row with id := nextId rows }]

def consumed (pages : List Page) (cursor : Text) : Bool :=
  pages.any fun page => decide (page.sourceVersion = 2 ∧ page.sourceCursor = some cursor)

/-- The conditions on a new cursor page. -/
def admitCursorPage (t : Tables) (pageOffset : Nat) (rows : List Row) (sourceCursor nextCursor : Option Text) :
    Except Text Unit :=
  let native := fun row : Row => decide (rawVersion (row.read "raw") = 2)
  if validCursor? sourceCursor = false ∨ validCursor? nextCursor = false then
    .error (text "Leaderboard cursor is invalid.")
  else if pageOffset ≠ t.metadata.v2NextPage.getD 0 then
    .error (text "Leaderboard page ordinal is not contiguous with the durable cursor.")
  else if rows.all native = false then .error (text "V2 cursor pages require native v2 source rows.")
  else if t.metadata.sourceApiVersion = some 1 then
    .error (text "Cannot append v2 cursor pages to legacy offset observations; use a new state file.")
  else if t.metadata.v2NextCursor.any fun previous => decide (previous ≠ sourceCursor) then
    .error (text "Leaderboard page does not continue the durable cursor.")
  else if t.metadata.v2NextCursor = none ∧ (sourceCursor ≠ none ∨ pageOffset ≠ 0) then
    .error (text "Leaderboard v2 cannot resume from a synthesized offset.")
  else if t.metadata.v2NextCursor ≠ none ∧ t.metadata.scanComplete = some true then
    .error (text "Leaderboard cursor already reached a terminal state.")
  else if ¬(sourceCursor.all encodable ∧ nextCursor.all encodable) then
    .error (text "surrogates not allowed")
  else if sourceCursor.any (consumed t.pages) then
    .error (text "Leaderboard cursor was already consumed.")
  else if nextCursor.any fun cursor => decide (some cursor = sourceCursor) || consumed t.pages cursor then
    .error (text "Leaderboard next cursor repeated.")
  else .ok ()

/-- The conditions on a page of the legacy offset source. -/
def admitOffsetPage (t : Tables) (rows : List Row) : Except Text Unit :=
  if t.metadata.sourceApiVersion = some 2 then
    .error (text "Cannot append legacy offset observations to a v2 cursor scan.")
  else if rows.any fun row => decide (rawVersion (row.read "raw") = 2) then
    .error (text "Native v2 rows require cursor provenance rather than a legacy page version.")
  else .ok ()

def admitPage (t : Tables) (pageOffset : Nat) (rows : List Row) (sourceVersion : Nat)
    (sourceCursor nextCursor : Option Text) : Except Text Unit :=
  if sourceVersion = 2 then admitCursorPage t pageOffset rows sourceCursor nextCursor
  else admitOffsetPage t rows

/-- The body of the page transaction; the result tells whether the page is kept. -/
def commitPage (t : Tables) (pageOffset pageLimit : Nat) (rows : List Row) (sourceVersion : Nat)
    (sourceCursor nextCursor : Option Text) : Except Text (Tables × Bool) :=
  let fingerprint := runtime.pageDigest rows
  let walletFingerprint := walletMembershipFingerprint runtime rows
  if sourceVersion ≠ 1 ∧ sourceVersion ≠ 2 then .error (text "Unsupported leaderboard source version.")
  else
    match t.pages.find? fun page => decide (page.pageOffset = pageOffset) with
    | some saved =>
      if saved.fingerprint ≠ fingerprint ∨ (sourceVersion = 2 ∧ (saved.pageLimit ≠ pageLimit ∨
          saved.sourceVersion ≠ 2 ∨ saved.sourceCursor ≠ sourceCursor ∨ saved.nextCursor ≠ nextCursor)) then
        .error (text
          "Cannot overwrite an already saved leaderboard page with different observations or cursors.")
      else return (t, true)
    | none => do
      admitPage t pageOffset rows sourceVersion sourceCursor nextCursor
      let duplicate := if rows = [] then none
        else t.pages.find? fun page => decide (page.pageOffset ≠ pageOffset) &&
          (decide (page.fingerprint = fingerprint) ||
            decide (walletFingerprint ≠ [] ∧ page.walletFingerprint = walletFingerprint))
      match duplicate with
      | some duplicate =>
        return ({ t with metadata := { t.metadata with
          scanComplete := some true
          stopReason := some repeatedPage
          stopOffset := some pageOffset
          repeatedPageOffset := some duplicate.pageOffset } }, false)
      | none =>
        let bound ← rows.zipIdx.mapM fun (row, index) => bindRow runtime pageOffset index row
        let exhausted := if sourceVersion = 2 then decide (nextCursor = none) else decide (rows.length < pageLimit)
        let metadata := { t.metadata with
          scanComplete := some exhausted
          stopReason := some (if exhausted then endOfResults else [])
          sourceApiVersion := some sourceVersion }
        return ({
          metadata := if sourceVersion = 2 then
            { metadata with v2NextCursor := some nextCursor, v2NextPage := some (pageOffset + 1) } else metadata
          pages := t.pages ++ [⟨pageOffset, pageLimit, rows.length, fingerprint, walletFingerprint,
            sourceVersion, sourceCursor, nextCursor⟩]
          rows := bound.foldl insertRow t.rows }, true)

def recordPage (t : Tables) (offset limit : Int) (rows : List Row) (sourceVersion : Nat)
    (sourceCursor nextCursor : Option Text) : Tables × Except Text Bool :=
  if sourceVersion = 2 ∧ ¬(0 ≤ offset ∧ 1 ≤ limit ∧ limit ≤ 1000 ∧ (rows.length : Int) ≤ limit) then
    (t, .error (text "Leaderboard v2 page bounds are invalid."))
  else
    match rows.forM fun row => validateStoredLeaderboardRow runtime.casing runtime.rounding row with
    | .error message => (t, .error message)
    | .ok () => transaction t (commitPage runtime t offset.toNat (max 1 limit).toNat rows sourceVersion
        sourceCursor nextCursor)

end Record

/-! ## Progress -/

structure Progress where
  scanned : Nat
  nextOffset : Nat
  nextCursor : Option Text
  scanComplete : Bool
  stopReason : Text
  deriving DecidableEq

def Tables.progress (t : Tables) : Progress :=
  let pages := t.pages.insertionSort fun first second => first.pageOffset ≤ second.pageOffset
  let offset := match pages.getLast? with
    | some last => last.pageOffset + last.rowCount
    | none => 0
  { scanned := (t.pages.map Page.rowCount).sum
    nextOffset := if t.metadata.sourceApiVersion = some 2 then t.metadata.v2NextPage.getD 0 else offset
    nextCursor := t.metadata.v2NextCursor.getD none
    scanComplete := decide (t.metadata.scanComplete = some true)
    stopReason := t.metadata.stopReason.getD [] }

end MarketSentinel.Leaderboard
