import Mathlib.Data.Prod.Lex
import MarketSentinel.Candles.Tape
import MarketSentinel.Venue.MetaDao

/-! The public swaps of a MetaDAO pair, read backwards in windows of slots.

The event endpoint answers for a range of slots and for all pairs. A scan begins at
the latest slot, ends at the slot in which the pair was created, and may stop
between.
-/

set_option autoImplicit false

namespace MarketSentinel.Candles.MetaDao

open Python Venue

/-- The public endpoints. -/
structure Endpoint where
  /-- `/api/tickers`, with what else the adapter knows. -/
  outside : Venue.MetaDao.Outside
  /-- `/dexscreener/pair` for a pool. -/
  pair : Text → Except Stopped Json
  latestBlock : Except Stopped Json
  /-- `/dexscreener/events` from a slot to a slot, both included. -/
  events : Nat → Nat → Except Stopped Json

/-! ## Numbers -/

/-- `_bounded_int_config` and the limits of a call: the text of the value is that of the integer. -/
def boundedInteger (runtime : Runtime) (value : Json) (least most : ℤ) (malformed outside : Text) : Except Stopped Nat :=
  if isBool value then refuse malformed
  else
    match intOf value with
    | .ok (some number) =>
      if intText number ≠ strip (str runtime value) ∨ number < least ∨ most < number then refuse outside
      else .ok number.toNat
    | _ => refuse malformed

def historyLimit (runtime : Runtime) (value : Json) : Except Stopped Nat :=
  boundedInteger runtime value 1 500 (text "MetaDAO trade history limit must be an integer.")
    (text "MetaDAO trade history limit must be between 1 and 500.")

def historyTimestamp (value : Json) (label : String) : Except Stopped ℚ :=
  let wrong := text ("MetaDAO " ++ label ++ " must be a non-negative Unix timestamp.")
  if isBool value then refuse wrong
  else
    match PyFloat.ofJson value with
    | .ok (.finite number) => if number < 0 then refuse wrong else .ok number
    | _ => refuse wrong

/-- A bound that may be left out. -/
def optionalTimestamp (value : Option Json) (label : String) : Except Stopped (Option ℚ) :=
  match value with
  | none => .ok none
  | some value => (historyTimestamp value label).map some

def maxSafeInteger : ℤ := 9007199254740991

def nonnegativeInteger (value : Json) (label : String) : Except Stopped Nat :=
  let wrong := text ("MetaDAO " ++ label ++ " must be a non-negative safe integer.")
  let within (number : ℤ) : Except Stopped Nat :=
    if number < 0 ∨ maxSafeInteger < number then refuse wrong else .ok number.toNat
  match value with
  | .int number => within number
  | .float (.finite number) => if number.den = 1 then within number.num else refuse wrong
  | _ => refuse wrong

def positiveSafeInteger (value : Json) (label : String) : Except Stopped Nat := do
  let number ← nonnegativeInteger value label
  if number = 0 then refuse (text ("MetaDAO " ++ label ++ " must be a positive safe integer."))
  else return number

def strictPositiveNumber (value : Json) (label : String) : Except Stopped ℚ :=
  let wrong := text ("MetaDAO " ++ label ++ " must be positive and finite.")
  match value with
  | .int number => if number ≤ 0 then refuse wrong else .ok number
  | .float (.finite number) => if number ≤ 0 then refuse wrong else .ok number
  | _ => refuse wrong

/-- `math.isclose(price, calculated, rel_tol=1e-9, abs_tol=1e-12)`. -/
def isClose (price calculated : ℚ) : Prop :=
  |price - calculated| ≤ max (max |price| |calculated| / 10 ^ 9) (1 / 10 ^ 12)

instance (price calculated : ℚ) : Decidable (isClose price calculated) := inferInstanceAs (Decidable (_ ≤ _))

/-- The limits of one call; the byte cap goes to the reader of the answers. -/
structure ScanLimits where
  slotSpan : Nat
  maxWindows : Nat
  eventCap : Nat
  responseByteCap : Nat

def historyScanLimits (runtime : Runtime) (config : Dict Text Json) : Except Stopped ScanLimits := do
  let bounded (key : String) (default least most : ℤ) : Except Stopped Nat :=
    boundedInteger runtime ((config.get? (text key)).getD (.int default)) least most
      (text ("MetaDAO config " ++ key ++ " must be an integer."))
      (text ("MetaDAO config " ++ key ++ " must be between ") ++ intText least ++ text " and " ++ intText most ++ text ".")
  let slotSpan ← bounded "metadao_history_slot_window" 500000 1 500000
  let maxWindows ← bounded "metadao_history_max_windows" 3 1 50
  let eventCap ← bounded "metadao_history_event_cap" 50000 1 250000
  let responseByteCap ← bounded "metadao_history_response_byte_cap" 16777216 1024 67108864
  return ⟨slotSpan, maxWindows, eventCap, responseByteCap⟩

/-- The intervals of candles in seconds. -/
def candleInterval (runtime : Runtime) (resolution : Text) : Except Stopped Nat :=
  let intervals := [("1m", 60), ("5m", 300), ("15m", 900), ("30m", 1800), ("1h", 3600), ("4h", 14400), ("1d", 86400),
    ("1w", 604800)]
  let key := runtime.casing.lower (strip resolution)
  demand ((intervals.find? fun entry => decide (text entry.1 = key)).map Prod.snd)
    (text "MetaDAO candle resolution must be one of: 1m, 5m, 15m, 30m, 1h, 4h, 1d, 1w.")

/-- `_decode_solana_signature`, which gives the text back. -/
def decodeSolanaSignature (label value : Text) : Except Stopped Text :=
  let value := strip value
  let say (message : String) := text "MetaDAO " ++ label ++ text message
  if ¬(value.all isBase58 = true ∧ 32 ≤ value.length ∧ value.length ≤ 128) then
    refuse (say " must be a canonical base58 signature.")
  else
    match value.mapM solanaIndex with
    | none => refuse (say " contains an invalid base58 character.")
    | some digits =>
      if leadingCount (base58Symbol 0) value + (minimalBytes (Positional.value 58 digits)).length = 64 then .ok value
      else refuse (say " must decode to exactly 64 bytes.")

/-! ## The pair -/

/-- A pair as it is declared, with the latest slot that is indexed. -/
structure Pair where
  contractId : Text
  poolId : Text
  createdSlot : Nat
  createdTimestamp : Nat
  createdTransactionId : Text
  latestSlot : Nat
  deriving DecidableEq

section Reading

variable (runtime : Runtime) (endpoint : Endpoint)

/-- The checks of `_scan_public_trades` on a ticker before the first window. -/
def readTicker (tickerId : Text) : Except Stopped Pair := do
  let ticker ← Venue.MetaDao.findTicker runtime endpoint.outside tickerId
  require (ticker ≠ []) (text "MetaDAO ticker " ++ endpoint.outside.quoted tickerId ++ text " was not found.")
  let address (label : String) (first second : String) : Except Stopped Text :=
    checked (decodeSolanaAddress (text label) (strOrEmpty runtime (firstFilled ticker [first, second])))
  let poolId ← address "history pool id" "pool_id" "poolId"
  let baseMint ← address "history base mint" "base_currency" "baseCurrency"
  let quoteMint ← address "history quote mint" "target_currency" "targetCurrency"
  require (tickerId = baseMint ++ text "_" ++ quoteMint)
    (text "MetaDAO ticker identity does not match its documented base/quote mint pair.")
  let payload ← endpoint.pair poolId
  let pair ← demand ((asObject payload).bind fun fields => asObject (field fields "pair"))
    (text "MetaDAO /dexscreener/pair returned an unsupported payload shape.")
  require (strip (strOrEmpty runtime (field pair "id")) = poolId)
    (text "MetaDAO history pair id does not match the ticker pool id.")
  require (strip (strOrEmpty runtime (field pair "asset0Id")) = baseMint)
    (text "MetaDAO history pair asset0 does not match the ticker base mint.")
  require (strip (strOrEmpty runtime (field pair "asset1Id")) = quoteMint)
    (text "MetaDAO history pair asset1 does not match the ticker quote mint.")
  let createdSlot ← positiveSafeInteger (field pair "createdAtBlockNumber") "pair createdAtBlockNumber"
  let createdTimestamp ← positiveSafeInteger (field pair "createdAtBlockTimestamp") "pair createdAtBlockTimestamp"
  let createdTransactionId ← decodeSolanaSignature (text "pair createdAtTxnId")
    (strOrEmpty runtime (field pair "createdAtTxnId"))
  let payload ← endpoint.latestBlock
  let latest ← demand ((asObject payload).bind fun fields => asObject (field fields "block"))
    (text "MetaDAO /dexscreener/latest-block returned an unsupported payload shape.")
  let latestSlot ← positiveSafeInteger (field latest "blockNumber") "latest blockNumber"
  let _ ← positiveSafeInteger (field latest "blockTimestamp") "latest blockTimestamp"
  require (createdSlot ≤ latestSlot) (text "MetaDAO latest indexed block predates the selected pair.")
  return ⟨tickerId ++ text ":0", poolId, createdSlot, createdTimestamp, createdTransactionId, latestSlot⟩

def readPair (contractId : Text) : Except Stopped Pair := do
  let tickerId ← Venue.MetaDao.splitContractId contractId
  readTicker runtime endpoint tickerId

end Reading

/-! ## Swaps -/

structure Swap where
  tradeId : Text
  side : Text
  price : ℚ
  size : ℚ
  timestamp : Nat
  blockNumber : Nat
  transactionIndex : Nat
  eventIndex : Nat
  maker : Text
  quoteSize : ℚ
  deriving DecidableEq

/-- `_trade_order_key`: the slot, the transaction, the event, and then the identifier. -/
def Swap.orderKey (swap : Swap) : Nat ×ₗ Nat ×ₗ Nat ×ₗ Text ×ₗ Nat :=
  toLex (swap.blockNumber, toLex (swap.transactionIndex, toLex (swap.eventIndex, toLex (swap.tradeId, swap.timestamp))))

section Scanning

variable (runtime : Runtime)

/-- The side, the size and the amount of quote tokens from the one leg pair of an event. -/
def legs (event : Dict Text Json) : Except Stopped (Text × ℚ × ℚ) :=
  let buys := ! blank (field event "asset1In") || ! blank (field event "asset0Out")
  let sells := ! blank (field event "asset0In") || ! blank (field event "asset1Out")
  if buys = sells then refuse (text "MetaDAO history event must contain exactly one BUY or SELL leg pair.")
  else if buys then do
    let quoteAmount ← strictPositiveNumber (field event "asset1In") "event asset1In"
    let size ← strictPositiveNumber (field event "asset0Out") "event asset0Out"
    return (text "BUY", size, quoteAmount)
  else do
    let size ← strictPositiveNumber (field event "asset0In") "event asset0In"
    let quoteAmount ← strictPositiveNumber (field event "asset1Out") "event asset1Out"
    return (text "SELL", size, quoteAmount)

/-- The slot of an event. -/
def blockNumberOf (event : Dict Text Json) : Except Stopped (Dict Text Json × Nat) := do
  let block ← demand (asObject (field event "block")) (text "MetaDAO history event block must be an object.")
  let blockNumber ← nonnegativeInteger (field block "blockNumber") "event blockNumber"
  return (block, blockNumber)

def tradeFromEvent (poolId : Text) (fromSlot toSlot : Nat) (event : Dict Text Json) : Except Stopped Swap := do
  require (runtime.casing.lower (strip (strOrEmpty runtime (field event "eventType"))) = text "swap")
    (text "MetaDAO history event type must be swap.")
  require (strip (strOrEmpty runtime (field event "pairId")) = poolId)
    (text "MetaDAO history event targets a different pair.")
  let (side, size, quoteAmount) ← legs event
  let price ← strictPositiveNumber (field event "priceNative") "event priceNative"
  require (isClose price (quoteAmount / size)) (text "MetaDAO history event priceNative does not match its swap legs.")
  let (block, blockNumber) ← blockNumberOf event
  require (fromSlot ≤ blockNumber ∧ blockNumber ≤ toSlot)
    (text "MetaDAO history event blockNumber falls outside its requested slot window.")
  let timestamp ← positiveSafeInteger (field block "blockTimestamp") "event blockTimestamp"
  let transactionIndex ← nonnegativeInteger (field event "txnIndex") "event txnIndex"
  let eventIndex ← nonnegativeInteger (field event "eventIndex") "event eventIndex"
  let transactionId ← decodeSolanaSignature (text "history event txnId") (strOrEmpty runtime (field event "txnId"))
  let maker ← checked (decodeSolanaAddress (text "history event maker") (strOrEmpty runtime (field event "maker")))
  let tradeId := transactionId ++ text ":" ++ intText transactionIndex ++ text ":" ++ intText eventIndex
  return ⟨tradeId, side, price, size, timestamp, blockNumber, transactionIndex, eventIndex, maker, quoteAmount⟩

/-! ## The scan -/

/-- What a caller wants of a scan. -/
structure Wanted where
  before : Option ℚ
  after : Option ℚ
  desiredLimit : Option Nat
  requireCreationCoverage : Bool
  requireDesiredAfterCutoff : Bool

/-- A time between the bounds, both included. -/
def Wanted.admits (wanted : Wanted) (swap : Swap) : Bool :=
  (wanted.before.all fun before => decide ((swap.timestamp : ℚ) ≤ before)) &&
    wanted.after.all fun after => decide (after ≤ (swap.timestamp : ℚ))

/-- The variables of the loop, with the windows that were asked for. -/
structure Scan where
  trades : List Swap
  seenTradeIds : List Text
  rawEventCount : Nat
  reachedCreation : Bool
  sawCreationEvent : Bool
  scannedFromSlot : Nat
  toSlot : Nat
  queried : List (Nat × Nat)

def Scan.start (pair : Pair) : Scan :=
  ⟨[], [], 0, false, false, pair.latestSlot, pair.latestSlot, []⟩

def targets (poolId : Text) (event : Dict Text Json) : Bool :=
  decide (strip (strOrEmpty runtime (field event "pairId")) = poolId)

/-- The swap that the pair declares as its first one. -/
def isCreation (pair : Pair) (event : Dict Text Json) (swap : Swap) : Bool :=
  decide (swap.blockNumber = pair.createdSlot ∧
    strip (strOrEmpty runtime (field event "txnId")) = pair.createdTransactionId)

/-- One row of a window. Rows of other pairs are not looked at. -/
def takeRow (pair : Pair) (wanted : Wanted) (fromSlot toSlot : Nat) (scan : Scan) (row : Json) : Except Stopped Scan :=
  match row with
  | .obj event =>
    if targets runtime pair.poolId event = false then .ok scan
    else do
      let swap ← tradeFromEvent runtime pair.poolId fromSlot toSlot event
      let creation := isCreation runtime pair event swap
      require (creation = true → swap.timestamp = pair.createdTimestamp)
        (text "MetaDAO pair creation event timestamp does not match pair metadata.")
      require (swap.tradeId ∉ scan.seenTradeIds) (text "MetaDAO history returned a duplicate swap event identifier.")
      -- The identifier is new, so that the dictionary of trades gets a new entry at its end.
      return { scan with
        sawCreationEvent := scan.sawCreationEvent || creation
        seenTradeIds := scan.seenTradeIds ++ [swap.tradeId]
        trades := if wanted.admits swap then scan.trades ++ [swap] else scan.trades }
  | _ => .ok scan

def eventRows (payload : Json) : Option (List Json) :=
  match payload with
  | .obj fields =>
    match field fields "events" with
    | .arr rows => some rows
    | _ => none
  | _ => none

/-- The first slot of the window that ends where the scan is. -/
def windowStart (limits : ScanLimits) (pair : Pair) (scan : Scan) : Nat :=
  max pair.createdSlot (scan.toSlot - limits.slotSpan)

/-- One window, from its first slot to the slot that the scan is at. -/
def takeWindow (endpoint : Endpoint) (limits : ScanLimits) (pair : Pair) (wanted : Wanted) (fromSlot : Nat) (scan : Scan) :
    Except Stopped Scan := do
  let payload ← endpoint.events fromSlot scan.toSlot
  let rows ← demand (eventRows payload) (text "MetaDAO /dexscreener/events returned an unsupported payload shape.")
  require (scan.rawEventCount + rows.length ≤ limits.eventCap)
    (text "MetaDAO history event cap was exceeded before the requested range was complete.")
  let scan ← rows.foldlM (takeRow runtime pair wanted fromSlot scan.toSlot) { scan with
    rawEventCount := scan.rawEventCount + rows.length
    scannedFromSlot := min scan.scannedFromSlot fromSlot
    queried := scan.queried ++ [(fromSlot, scan.toSlot)] }
  return { scan with reachedCreation := decide (fromSlot = pair.createdSlot) }

/-- Enough trades for a caller who does not need the creation. -/
def Scan.satisfies (scan : Scan) (wanted : Wanted) : Bool :=
  ! wanted.requireCreationCoverage && wanted.desiredLimit.any fun desired => decide (desired ≤ scan.trades.length)

/-- The windows, of which so many are left. -/
def takeWindows (endpoint : Endpoint) (limits : ScanLimits) (pair : Pair) (wanted : Wanted) :
    Nat → Scan → Except Stopped Scan
  | 0, scan => .ok scan
  | left + 1, scan => do
    let fromSlot := windowStart limits pair scan
    let scan ← takeWindow runtime endpoint limits pair wanted fromSlot scan
    if scan.reachedCreation || scan.satisfies wanted then .ok scan
    else takeWindows endpoint limits pair wanted left { scan with toSlot := fromSlot - 1 }

/-- `_scan_public_trades`, with the pair that was read. -/
def scanPublicTrades (endpoint : Endpoint) (config : Dict Text Json) (contractId : Text) (wanted : Wanted) :
    Except Stopped (Pair × Scan) := do
  let pair ← readPair runtime endpoint contractId
  let limits ← historyScanLimits runtime config
  let scan ← takeWindows runtime endpoint limits pair wanted limits.maxWindows (Scan.start pair)
  require (wanted.requireCreationCoverage = true → scan.reachedCreation = true)
    (text "MetaDAO bounded slot scan could not prove timestamp coverage through pair creation.")
  require (scan.reachedCreation = true → scan.sawCreationEvent = true)
    (text "MetaDAO creation-slot history did not contain the pair's declared first swap.")
  require (wanted.requireDesiredAfterCutoff = true →
      (wanted.desiredLimit.all fun desired => decide (desired ≤ scan.trades.length)) = true ∨ scan.reachedCreation = true)
    (text "MetaDAO bounded slot scan could not prove the requested number of trades before the cutoff.")
  return (pair, scan)

/-- `sorted(trades, key=_trade_order_key)`. -/
def oldestFirst (trades : List Swap) : List Swap := trades.insertionSort fun a b => a.orderKey ≤ b.orderKey

/-- `sorted(trades, key=_trade_order_key, reverse=True)`. -/
def newestFirst (trades : List Swap) : List Swap := trades.insertionSort fun a b => b.orderKey ≤ a.orderKey

/-- The scan of `list_trades` for its bounds. -/
def tradesWanted (desired : Nat) (before after : Option ℚ) : Wanted where
  before := before
  after := after
  desiredLimit := some desired
  requireCreationCoverage := after.isSome
  requireDesiredAfterCutoff := before.isSome && after.isNone

/-- `list_trades`, with the pair and the scan that it comes from. -/
def listTrades (endpoint : Endpoint) (config : Dict Text Json) (contractId : Text) (limit : Json)
    (before after : Option Json) : Except Stopped (Pair × Scan × List Swap) := do
  let desired ← historyLimit runtime limit
  let before ← optionalTimestamp before "before"
  let after ← optionalTimestamp after "after"
  require ((after.all fun early => before.all fun late => decide (early ≤ late)) = true)
    (text "MetaDAO trade history requires before to be at or after after.")
  let (pair, scan) ← scanPublicTrades runtime endpoint config contractId (tradesWanted desired before after)
  return (pair, scan, (newestFirst scan.trades).take desired)

/-! ## Candles -/

def Swap.timed (swap : Swap) : Timed :=
  (swap.timestamp, ⟨swap.tradeId, swap.side, swap.price, .finite swap.size, some swap.timestamp⟩)

/-- A candle with what it says about the scan behind it. -/
structure DerivedCandle where
  contractId : Text
  figures : Figures
  resolution : Text
  pairId : Text
  tradeIds : List Text
  scannedFromSlot : Nat
  scannedToSlot : Nat
  reachedCreation : Bool
  historyCoverage : Text
  isPartial : Bool

/-- `_validate_history_identity_and_limits`. -/
def validateHistoryIdentityAndLimits (endpoint : Endpoint) (config : Dict Text Json) (contractId : Text) :
    Except Stopped Unit := do
  let _ ← historyScanLimits runtime config
  let tickerId ← Venue.MetaDao.splitContractId contractId
  let ticker ← Venue.MetaDao.findTicker runtime endpoint.outside tickerId
  require (ticker ≠ []) (text "MetaDAO ticker " ++ endpoint.outside.quoted tickerId ++ text " was not found.")

/-- The first boundary of a candle at or after a time. -/
def candleStart (interval : Nat) (start : ℚ) : ℤ := ⌈start / interval⌉ * interval

/-- The scan of `list_candles` for its bounds. -/
def candlesWanted (start : Option ℤ) (endTs : Option ℚ) : Wanted where
  before := endTs
  after := start.map fun start => (start : ℚ)
  desiredLimit := none
  requireCreationCoverage := start.isSome || endTs.isSome
  requireDesiredAfterCutoff := false

/-- `del buckets[min(buckets)]`, when there is a bucket. -/
def withoutEarliest (filled : Dict Int Bucket) : Dict Int Bucket :=
  match (filled.map Prod.fst).min? with
  | some earliest => filled.erase earliest
  | none => filled

/-- The candles of scanned trades. -/
def candlesOfScan (interval : Nat) (resolution : Text) (start : Option ℤ) (pair : Pair) (scan : Scan) :
    List DerivedCandle :=
  let taken := (oldestFirst scan.trades).map Swap.timed
  let kept := taken.filter fun trade => start.all fun start => decide (start ≤ bucketTimestamp interval trade)
  let filled := buckets id interval kept
  let shown := if scan.reachedCreation then filled else withoutEarliest filled
  (Grouping.ascending shown).map fun entry =>
    { contractId := pair.contractId
      figures := entry.2.figures entry.1
      resolution := runtime.casing.lower (strip resolution)
      pairId := pair.poolId
      tradeIds := entry.2.tradeIds
      scannedFromSlot := scan.scannedFromSlot
      scannedToSlot := pair.latestSlot
      reachedCreation := scan.reachedCreation
      historyCoverage := if scan.reachedCreation then text "complete_pair_scan" else text "bounded_slot_slice"
      isPartial := ! scan.reachedCreation }

/-- `list_candles`, with the pair and the scan, if one was needed. -/
def listCandles (endpoint : Endpoint) (config : Dict Text Json) (contractId resolution : Text)
    (fromTimestamp toTimestamp : Option Json) : Except Stopped (Option (Pair × Scan) × List DerivedCandle) := do
  let interval ← candleInterval runtime resolution
  let requestedStart ← optionalTimestamp fromTimestamp "from_timestamp"
  let endTs ← optionalTimestamp toTimestamp "to_timestamp"
  require ((requestedStart.all fun start => endTs.all fun stop => decide (start ≤ stop)) = true)
    (text "MetaDAO candle history requires to_timestamp to be at or after from_timestamp.")
  let start := requestedStart.map (candleStart interval)
  if (start.any fun start => endTs.any fun stop => decide (stop < start)) = true then do
    validateHistoryIdentityAndLimits runtime endpoint config contractId
    return (none, [])
  else do
    let (pair, scan) ← scanPublicTrades runtime endpoint config contractId (candlesWanted start endTs)
    return (some (pair, scan), candlesOfScan runtime interval resolution start pair scan)

end Scanning

end MarketSentinel.Candles.MetaDao
