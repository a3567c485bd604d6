import MarketSentinel.Leaderboard.Store

/-! Sequential, resumable walks over the cursor pages of a board.

The scanner remembers what it saw since it started and hands every accepted page
to a callback that commits it.
-/

set_option autoImplicit false

namespace MarketSentinel.Leaderboard

open Python

/-- The first page is asked for by its size, a later one by its cursor. -/
inductive Request where
  | first (limit : Nat)
  | next (cursor : Text)
  deriving DecidableEq

structure PageData where
  rows : List Json
  limit : Nat
  nextCursor : Option Text
  deriving DecidableEq

/-! ## Reading a page -/

/-- The rows, the pagination and the next cursor of a page. -/
structure Envelope where
  rows : List Json
  pagination : Row
  nextCursor : Option Text

def cursorValue : Json → Option (Option Text)
  | .null => some none
  | .str cursor => if cursor ≠ [] ∧ cursor.length ≤ 8192 then some (some cursor) else none
  | _ => none

def readEnvelope (payload : Json) : Except Text Envelope :=
  let malformed := .error (text "Leaderboard v2 page is malformed; no cursor was committed.")
  match payload with
  | .obj fields =>
    match Dict.get? fields (text "data"), Dict.get? fields (text "pagination") with
    | some (.arr rows), some (.obj pagination) =>
      match Dict.get? pagination (text "next_cursor"), Dict.get? pagination (text "has_more") with
      | some next, some (.bool more) =>
        match cursorValue next with
        | some nextCursor =>
          if more = nextCursor.isSome then .ok ⟨rows, pagination, nextCursor⟩
          else .error (text "Leaderboard v2 cursor metadata is contradictory.")
        | none => .error (text "Leaderboard v2 cursor metadata is contradictory.")
      | _, _ => .error (text "Leaderboard v2 cursor metadata is incomplete.")
    | _, _ => malformed
  | _ => malformed

section Reading

variable (runtime : Runtime)

/-- The page of an envelope: its size and every row must be valid. -/
def readRows (envelope : Envelope) : Except Text PageData :=
  match Dict.get? envelope.pagination (text "limit") with
  | some (.int limit) =>
    if 1 ≤ limit ∧ limit ≤ 1000 ∧ (envelope.rows.length : Int) ≤ limit then do
      envelope.rows.forM fun row => do
        let _ ← sourceLeaderboardFields runtime.casing runtime.rounding row 2
        return ()
      return ⟨envelope.rows, limit.toNat, envelope.nextCursor⟩
    else .error (text "Leaderboard v2 page exceeds its declared limit.")
  | _ => .error (text "Leaderboard v2 page exceeds its declared limit.")

def userId (row : Json) : Except Text Json :=
  match row with
  | .obj fields =>
    match Dict.get? fields (text "user_id") with
    | some value => .ok value
    | none => .error (text "user_id")
  | _ => .error (text "user_id")

/-- The fingerprint of the membership of a source page. -/
def membershipOf (rows : List Json) : Except Text Text := do
  let identities ← rows.mapM userId
  return walletMembershipFingerprint runtime (identities.map fun value => [(text "wallet", value)])

def rowWallet (row : Json) : Text :=
  match sourceLeaderboardFields runtime.casing runtime.rounding row 2 with
  | .ok fields => fields.wallet
  | .error _ => []

def pageWallets (rows : List Json) : List Text := rows.map (rowWallet runtime)

/-- The strict JSON text of a page and its digest. -/
def fingerprintOf (rows : List Json) : Except Text Text :=
  if Json.itemsFinite rows then .ok (runtime.sourceDigest rows)
  else .error (text "Out of range float values are not JSON compliant")

end Reading

/-! ## The walk -/

/-- The scanner's memory since it started. -/
structure ScanState where
  scanned : Nat
  pageIndex : Nat
  cursor : Option Text
  fingerprints : List Text := []
  memberships : List Text := []
  observedWallets : List Text := []
  visitedCursors : List Text := []
  deriving DecidableEq

inductive CompletionReason where
  | scanLimitReached
  | cancelled
  | repeatedPage
  | endOfResults
  deriving DecidableEq

inductive Outcome where
  | completed (reason : CompletionReason)
  | raised
  deriving DecidableEq

/-- A page that was checked against the memory, with its fingerprints. -/
structure Examined where
  page : PageData
  fingerprint : Text
  membership : Text
  repeated : Bool

section Scan

variable {σ : Type} (runtime : Runtime) (scanLimit : Option Nat) (isCancelled : Nat → Bool)
  (fetch : Nat → Request → Except Text Json)
  (commit : σ → ScanState → PageData → σ × Except Text Bool)

def ScanState.request (s : ScanState) : Request :=
  match s.cursor with
  | some cursor => .next cursor
  | none => .first (match scanLimit with
    | some limit => min 50 (max 1 (limit - s.scanned))
    | none => 50)

def examine (s : ScanState) (payload : Json) : Except Text Examined := do
  let envelope ← readEnvelope payload
  if envelope.nextCursor.any fun cursor => decide (cursor ∈ s.visitedCursors) then
    .error (text "Leaderboard v2 repeated a cursor; no page was committed.")
  else
    let page ← readRows runtime envelope
    let fingerprint ← fingerprintOf runtime page.rows
    let membership ← membershipOf runtime page.rows
    let repeated := decide (page.rows ≠ [] ∧ (fingerprint ∈ s.fingerprints ∨ membership ∈ s.memberships ∨
      ∀ wallet ∈ pageWallets runtime page.rows, wallet ∈ s.observedWallets))
    return ⟨page, fingerprint, membership, repeated⟩

/-- The memory after a committed page. -/
def ScanState.advance (s : ScanState) (examined : Examined) : ScanState where
  scanned := s.scanned + examined.page.rows.length
  pageIndex := s.pageIndex + 1
  cursor := examined.page.nextCursor
  fingerprints := s.fingerprints ++ [examined.fingerprint]
  memberships := if examined.membership = [] then s.memberships else s.memberships ++ [examined.membership]
  observedWallets := s.observedWallets ++ pageWallets runtime examined.page.rows
  visitedCursors := s.visitedCursors ++ examined.page.nextCursor.toList

def ScanState.limitReached (s : ScanState) : Bool := scanLimit.any fun limit => decide (limit ≤ s.scanned)

/-- The loop over at most `fuel` pages. -/
def scanLoop : Nat → ScanState → σ → ScanState × σ × Outcome
  | 0, s, store => (s, store, .raised)
  | fuel + 1, s, store =>
    if s.limitReached scanLimit then (s, store, .completed .scanLimitReached)
    else if isCancelled s.pageIndex then (s, store, .completed .cancelled)
    else
      match fetch s.pageIndex (s.request scanLimit) >>= examine runtime s with
      | .error _ => (s, store, .raised)
      | .ok examined =>
        if examined.repeated then (s, store, .completed .repeatedPage)
        else
          -- The callback must atomically commit these exact rows and both cursors.
          match commit store s examined.page with
          | (store, .error _) => (s, store, .raised)
          | (store, .ok false) => (s, store, .completed .repeatedPage)
          | (store, .ok true) =>
            if examined.page.nextCursor = none then (s.advance runtime examined, store, .completed .endOfResults)
            else scanLoop fuel (s.advance runtime examined) store

/-- A scan from saved progress; `maximumPages` bounds one run. -/
def scanLeaderboardV2 (maximumPages scanned pageIndex : Nat) (cursor : Option Text) (store : σ) :
    ScanState × σ × Outcome :=
  let s : ScanState := { scanned, pageIndex, cursor, visitedCursors := cursor.toList }
  if (pageIndex ≠ 0 ∨ scanned ≠ 0) ∧ cursor = none then (s, store, .raised)
  else scanLoop runtime scanLimit isCancelled fetch commit maximumPages s store

end Scan

/-! ## Normalization -/

def lookup (row : Row) (keys : List Text) : Option Json :=
  (aliasValues row keys).find? fun value => decide (value ≠ .null ∧ value ≠ .str [])

def displayName (show_ : Json → Text) (row : Row) (wallet : Text) : Text :=
  match lookup row [text "pseudonym", text "displayName", text "display_name", text "username", text "name"] with
  | some name => if name.truthy then show_ name else if wallet = [] then text "-" else wallet
  | none => if wallet = [] then text "-" else wallet

/-- The normalized row of a source row, with the columns the store reads. -/
def normalizePolymarketLeaderboardRow (runtime : Runtime) (raw : Json) (fallbackRank : Nat) : Except Text Row := do
  let version := rawVersion raw
  let fields ← sourceLeaderboardFields runtime.casing runtime.rounding raw version
  let source := match raw with
    | .obj source => source
    | _ => []
  let float := fun value : ℚ => Json.float (.finite value)
  let drawdown := fun value : Option ℚ => (value.map float).getD .null
  let roi ← if version = 1 ∧ 0 < fields.volume then
      match performanceRatio runtime.rounding fields.pnl fields.volume with
      | some ratio => Except.ok (float ratio)
      | none => .error (text "Leaderboard derived PnL/volume ratio must be finite; board coverage is unknown.")
    else .ok .null
  let named := Row.read source "user_name"
  return [(text "rank", .int (fields.rank.getD fallbackRank)), (text "wallet", .str fields.wallet),
    (text "display_name", .str (if named.truthy then runtime.show_ named
      else displayName runtime.show_ source fields.wallet)),
    (text "pnl_usd", float fields.pnl), (text "volume_usd", if version = 1 then float fields.volume else .null),
    (text "volume_shares", if version = 2 then float fields.volume else .null),
    (text "source_api_version", .int version), (text "roi_pct", roi), (text "trade_count", .int fields.tradeCount),
    (text "mdd_usd", drawdown fields.mddUsd), (text "mdd_pct", drawdown fields.mddPct), (text "raw", raw)]

end MarketSentinel.Leaderboard
