import Mathlib.Data.Rat.Floor
import MarketSentinel.Listing.Records
import MarketSentinel.Venue.Base58
import MarketSentinel.Venue.SignedWire

/-! The markets of DFlow and a wallet's fills on chain.

A row is understood by its market, which is cached or looked up. A look-up that
fails leaves the row out, and the page still counts as complete.
-/

set_option autoImplicit false

namespace MarketSentinel.Listing.Dflow

open Python Wallet

/-! ## Markets -/

/-- The environment's settlement mint comes in as a setting. -/
def settlementMint (spelling : Spelling) (config : Item) : Text :=
  let value := config.get "dflow_settlement_mint"
  strip (if value.truthy then spelling.str value else text "EPjFWdd5AufqSSqeM2qN1xzybapC8G4wEGGkZwyTDt1v")

/-- `_rows`: the objects of the first list, under the payload or under its data. -/
def objects (rows : List Json) : List Item := rows.filterMap Feed.asItem

mutual

def rows (names : List String) : Json → List Item
  | .arr rows => objects rows
  | .obj fields =>
    match listUnder fields names with
    | some rows => objects rows
    | none => rowsBelow names fields
  | _ => []

def rowsBelow (names : List String) : List (Text × Json) → List Item
  | [] => []
  | (key, value) :: rest =>
    if key = text "data" then
      match value with
      | .obj fields => rows names (.obj fields)
      | _ => []
    else rowsBelow names rest

end

def mappingPayload : Json → Item
  | .obj fields => (Feed.asItem (Item.get fields "data")).getD fields
  | _ => []

section Markets

variable (spelling : Spelling)

def marketId (market : Item) : Text := labelOf spelling market ["ticker", "marketTicker", "id"]

abbrev Cache := Dict Text Item

def cacheMarket (cache : Cache) (market : Item) : Cache :=
  let id := marketId spelling market
  if id = [] then cache else Dict.set cache id market

/-- An account that names an outcome mint. -/
def usable (account : Json) : Option Item :=
  (Feed.asItem account).filter fun account => (account.get "yesMint").truthy || (account.get "noMint").truthy

/-- The account of the preferred settlement, else the first usable one, else the market itself. -/
def accountForMarket (preferred : Text) (market : Item) : Item × Text :=
  let own := (market, if (market.get "settlementMint").truthy then spelling.str (market.get "settlementMint") else preferred)
  match market.get "accounts" with
  | .obj accounts =>
    match (Dict.get? accounts preferred).bind usable with
    | some account => (account, preferred)
    | none => (accounts.findSome? fun entry => (usable entry.2).map fun account => (account, entry.1)).getD own
  | _ => own

/-- `_mint` with the market's own field behind the account's. -/
def mint (account market : Item) (name : String) : Text :=
  let value := account.get name
  strip (if value.truthy then spelling.str value else spelling.orEmpty (market.get name))

/-- What a contract identifier stands for. -/
structure Resolved where
  market : Item
  mint : Text
  outcome : Text
  canonical : Text

/-- The answers of the venue's metadata, and how a text is quoted in a message. -/
structure Metadata where
  byMint : Text → Except Fault Json
  byTicker : Text → Except Fault Json
  quoted : Text → Text

def contractMessage : String := "DFlow contract id must be MARKET_TICKER:MINT or MARKET_TICKER:YES|NO."

def splitContractId (contractId : Text) : Except Fault (Text × Text) :=
  match Venue.splitLast (strip contractId) with
  | some (market, reference) =>
    if strip market = [] ∨ strip reference = [] then refuse contractMessage else .ok (strip market, strip reference)
  | none => refuse contractMessage

/-- The market that is fetched for a contract that is not cached; an empty one counts as none. -/
def fetchMarket (metadata : Metadata) (market reference : Text) : Except Fault Item := do
  let named := spelling.casing.upper reference
  let found ← if named = text "YES" ∨ named = text "NO" then .ok [] else (metadata.byMint reference).map mappingPayload
  if found ≠ [] then return found
  else return ((rows ["markets", "data"] (← metadata.byTicker market)).head?).getD []

/-- `_resolve_contract` with the cache that it leaves. -/
def resolveContract (preferred : Text) (metadata : Metadata) (cache : Cache) (contractId : Text) :
    Except Fault (Resolved × Cache) := do
  let (market, reference) ← splitContractId contractId
  let found ←
    match Dict.get? cache market with
    | some cached => .ok cached
    | none => fetchMarket spelling metadata market reference
  if found = [] then .error (.configuration (text "DFlow market " ++ metadata.quoted market ++ text " was not found."))
  else
    let cache := if (Dict.get? cache market).isSome then cache else cacheMarket spelling cache found
    let account := (accountForMarket spelling preferred found).1
    let yes := mint spelling account found "yesMint"
    let no := mint spelling account found "noMint"
    let named := spelling.casing.upper reference
    let (chosen, outcome) ←
      if named = text "YES" then .ok (yes, text "YES")
      else if named = text "NO" then .ok (no, text "NO")
      else if reference = yes then .ok (yes, text "YES")
      else if reference = no then .ok (no, text "NO")
      else .error (.configuration (text "DFlow market " ++ metadata.quoted market ++ text " has no outcome mint " ++
        metadata.quoted reference ++ text "."))
    if chosen = [] then
      .error (.configuration (text "DFlow market " ++ metadata.quoted market ++ text " has no " ++ outcome ++
        text " outcome mint."))
    else return (⟨found, chosen, outcome, marketId spelling found ++ text ":" ++ chosen⟩, cache)

end Markets

/-! ## Fills on chain -/

def probability (value : Json) : Option ℚ := (finite value).filter fun price => 0 ≤ price && price ≤ 1

/-- Above ten thousand million the time counts milliseconds. -/
def timestampSeconds (value : Json) : Option ℚ :=
  if blank value then none
  else ((finite value).filter (0 ≤ ·)).map fun seconds => if 10000000000 < seconds then seconds / 1000 else seconds

structure Fill where
  ticker : Text
  outcomeMint : Text
  side : Text
  outcome : Text
  size : ℚ
  price : ℚ
  timestamp : Int
  transaction : Text
  activityId : Text
  raw : Item

/-- How one of several fields is chosen. -/
abbrev Pick := Item → List String → Json

def priceNames : List String := ["usdPricePerContract", "usd_price_per_contract", "price", "priceDollars"]

def timestampNames : List String := ["createdAt", "created_at", "timestamp"]

def priceOf (pick : Pick) (row : Item) : Option ℚ := probability (pick row priceNames)

/-- `int(timestamp)`. -/
def secondOf (pick : Pick) (row : Item) : Option Int := (timestampSeconds (pick row timestampNames)).map Int.floor

section Fills

variable (spelling : Spelling)

def tickerOf (row : Item) : Text := labelOf spelling row ["marketTicker", "market_ticker", "ticker"]

def inputMint (row : Item) : Text := labelOf spelling row ["inputMint", "input_mint"]

def outputMint (row : Item) : Text := labelOf spelling row ["outputMint", "output_mint"]

def sizeOf (row : Item) : Option ℚ := positive (firstField row ["contracts", "count", "quantity"])

def transactionOf (row : Item) : Text :=
  labelOf spelling row ["transactionSignature", "transaction_signature", "signature"]

/-- `str(raw.get("id") or transaction).strip()`. -/
def activityIdOf (row : Item) : Text :=
  if (row.get "id").truthy then strip (spelling.str (row.get "id")) else transactionOf spelling row

/-- The outcome mint that the row trades against the settlement mint of its market, and the side. -/
def traded (preferred : Text) (market row : Item) : Option (Text × Text × Text) :=
  let (account, settlement) := accountForMarket spelling preferred market
  let yes := mint spelling account market "yesMint"
  let no := mint spelling account market "noMint"
  let input := inputMint spelling row
  let output := outputMint spelling row
  let found :=
    if input = settlement ∧ (output = yes ∨ output = no) then some (output, text "BUY")
    else if output = settlement ∧ (input = yes ∨ input = no) then some (input, text "SELL")
    else none
  found.bind fun (outcomeMint, side) =>
    if outcomeMint = [] then none else some (outcomeMint, side, text (if outcomeMint = yes then "YES" else "NO"))

/-- A row as a fill of its market. -/
def readFill (pick : Pick) (preferred : Text) (market row : Item) : Option Fill := do
  let (outcomeMint, side, outcome) ← traded spelling preferred market row
  let size ← sizeOf row
  let price ← priceOf pick row
  let timestamp ← secondOf pick row
  guard (activityIdOf spelling row ≠ [])
  pure {
    ticker := tickerOf spelling row, outcomeMint, side, outcome, size, price, timestamp
    transaction := transactionOf spelling row, activityId := activityIdOf spelling row, raw := row }

def Fill.contractId (fill : Fill) : Text := fill.ticker ++ text ":" ++ fill.outcomeMint

def Fill.activity (identity : Text) (fill : Fill) : Item :=
  record [("activityId", .str (text "dflow:" ++ fill.activityId)), ("proxyWallet", .str identity),
    ("asset", .str fill.contractId), ("contract_id", .str fill.contractId), ("market_id", .str (text "dflow")),
    ("side", .str fill.side), ("size", .float (.finite fill.size)), ("price", .float (.finite fill.price)),
    ("timestamp", .int fill.timestamp), ("transactionHash", .str fill.transaction), ("slug", .str fill.ticker),
    ("outcome", .str fill.outcome), ("source", .str (text "dflow_onchain_trades")), ("wallet", .str identity),
    ("trade_id", .str fill.activityId), ("raw", .obj fill.raw)]

/-! ## Look-ups -/

/-- The cached markets, and how many look-ups were made. -/
structure State where
  cache : Cache
  calls : Nat

/-- The answer to each look-up of a market by its ticker. -/
abbrev Answers := Nat → Text → Except Fault Json

/-- The market that a look-up finds; an exception counts as nothing found. -/
def found (answers : Answers) (call : Nat) (ticker : Text) : Option Item :=
  match answers call ticker with
  | .ok payload => (rows ["markets", "data"] payload).head?
  | .error _ => none

def lookUp (answers : Answers) (state : State) (ticker : Text) : Option Item × State :=
  match Dict.get? state.cache ticker with
  | some market => (some market, state)
  | none =>
    match found answers state.calls ticker with
    | some market => (some market, ⟨cacheMarket spelling state.cache market, state.calls + 1⟩)
    | none => (none, ⟨state.cache, state.calls + 1⟩)

/-- `_normalize_onchain_activity`, up to the record. -/
def normalizeOnchainActivity (preferred : Text) (answers : Answers) (state : State) (row : Item) :
    Option Fill × State :=
  if tickerOf spelling row = [] then (none, state)
  else if inputMint spelling row = [] ∨ outputMint spelling row = [] then (none, state)
  else
    let (market, state) := lookUp spelling answers state (tickerOf spelling row)
    -- An empty market counts as none.
    ((market.filter fun market => decide (market ≠ [])).bind fun market =>
      readFill spelling firstField preferred market row, state)

/-- The fills of the rows, up to a limit. -/
def listFills (preferred : Text) (answers : Answers) : Nat → State → List Item → List Fill × State
  | _, state, [] => ([], state)
  | desired, state, row :: rest =>
    match normalizeOnchainActivity spelling preferred answers state row with
    | (none, state) => listFills preferred answers desired state rest
    | (some fill, state) =>
      if desired ≤ 1 then ([fill], state)
      else
        let (fills, state) := listFills preferred answers (desired - 1) state rest
        (fill :: fills, state)

/-- A call of `list_activity`: the wallet, the limit, the key and the page that the venue answers. -/
structure Call where
  walletAddress : Text
  limit : Json
  apiKey : Bool
  respond : Text → Int → Except Fault Json

def rowNames : List String := ["trades", "data"]

def activityLimit (value : Json) : Except Fault Int := do
  match ← intOf value with
  | none => refuse "DFlow activity limit must be an integer between 1 and 250."
  | some limit =>
    if limit < 1 ∨ 250 < limit then refuse "DFlow activity limit must be between 1 and 250." else .ok limit

def activityIdentity (walletAddress : Text) : Except Fault Text :=
  match Venue.normalizeSolanaIdentity spelling.casing (strip walletAddress) with
  | some identity => .ok identity
  | none => refuse ("Dflow activity identity must use a canonical Solana wallet address (optionally prefixed solana:).")

def listActivity (preferred : Text) (answers : Answers) (state : State) (call : Call) :
    Except Fault (Feed.Page × State) := do
  let identity ← activityIdentity spelling call.walletAddress
  let desired ← activityLimit call.limit
  if call.apiKey = false then refuse "Missing required credential for dflow: dflow_api_key, DFLOW_API_KEY"
  else
    let payload ← call.respond identity desired
    let (fills, state) := listFills spelling preferred answers desired.toNat state (rows rowNames payload)
    return (Feed.activitySnapshot (fills.map (Fill.activity identity)) payload desired.toNat (rowNames.map text) true none,
      state)

/-! ## What a page should list -/

/-- The venue's descriptions of its markets. A look-up that finds a market finds the described one. -/
structure Upstream where
  answers : Answers
  describe : Text → Option Item
  honest : ∀ call ticker market, found answers call ticker = some market → describe ticker = some market

/-- A fill with a ticker, two mints, a positive size, a probability, a time and an identifier; a field is
given unless it is `None` or empty. -/
structure WellFormed (row : Item) : Prop where
  ticker : tickerOf spelling row ≠ []
  input : inputMint spelling row ≠ []
  output : outputMint spelling row ≠ []
  size : (sizeOf row).isSome
  price : (priceOf valueOf row).isSome
  second : (secondOf valueOf row).isSome
  activityId : activityIdOf spelling row ≠ []

/-- Each row with the state in which it is read. -/
def steps (preferred : Text) (answers : Answers) : State → List Item → List (State × Item)
  | _, [] => []
  | state, row :: rest =>
    (state, row) :: steps preferred answers (normalizeOnchainActivity spelling preferred answers state row).2 rest

/-- The market of a fill: the cached one, or the one that the venue describes; an empty market counts as none. -/
def marketOf (upstream : Upstream) (step : State × Item) : Option Item :=
  ((Dict.get? step.1.cache (tickerOf spelling step.2)).orElse fun _ =>
    upstream.describe (tickerOf spelling step.2)).filter fun market => decide (market ≠ [])

/-- The fill of a row that trades an outcome mint of its market against the settlement mint. -/
def expectedAt (preferred : Text) (upstream : Upstream) (step : State × Item) : Option Fill :=
  (marketOf spelling upstream step).bind fun market => readFill spelling valueOf preferred market step.2

def expected (preferred : Text) (upstream : Upstream) (state : State) (rows : List Item) : List Fill :=
  (steps spelling preferred upstream.answers state rows).filterMap (expectedAt spelling preferred upstream)

/-- The market is cached, or its look-up finds it. -/
def Answered (answers : Answers) (step : State × Item) : Prop :=
  (Dict.get? step.1.cache (tickerOf spelling step.2)).isSome ∨ (found answers step.1.calls (tickerOf spelling step.2)).isSome

/-- No price or time of zero is passed over for a later field. -/
def Plain (row : Item) : Prop := priceOf firstField row = priceOf valueOf row ∧ secondOf firstField row = secondOf valueOf row

/-- Every fill that trades is understood, and they fit the limit. -/
structure Served (preferred : Text) (upstream : Upstream) (desired : Nat) (state : State) (rows : List Item) : Prop where
  understood : ∀ step ∈ steps spelling preferred upstream.answers state rows,
    (expectedAt spelling preferred upstream step).isSome → Answered spelling upstream.answers step ∧ Plain step.2
  fits : (expected spelling preferred upstream state rows).length ≤ desired

/-- The call raises, or lists each fill that trades once; and a poll that accepts the page has them all. -/
def Lossless (preferred : Text) (upstream : Upstream) (state : State) (call : Call) (identity : Text)
    (rows : List Item) : Prop :=
  (∃ fault, listActivity spelling preferred upstream.answers state call = .error fault) ∨
    ∃ page after, listActivity spelling preferred upstream.answers state call = .ok (page, after) ∧
      page.rows = (expected spelling preferred upstream state rows).map (fun fill => .obj (fill.activity identity)) ∧
      ∀ maximum requested items, Feed.readPage spelling maximum requested page = .ok items →
        ∀ fill ∈ expected spelling preferred upstream state rows, fill.activity identity ∈ Feed.newestFirst items

/-! ## Each row -/

variable {spelling} {preferred : Text} {upstream : Upstream} {state : State} {row : Item}

theorem readFill_eq_some {pick : Pick} {market : Item} {fill : Fill} :
    readFill spelling pick preferred market row = some fill ↔ ∃ outcomeMint side outcome size price second,
      traded spelling preferred market row = some (outcomeMint, side, outcome) ∧ sizeOf row = some size ∧
      priceOf pick row = some price ∧ secondOf pick row = some second ∧ activityIdOf spelling row ≠ [] ∧
      fill = ⟨tickerOf spelling row, outcomeMint, side, outcome, size, price, second, transactionOf spelling row,
        activityIdOf spelling row, row⟩ := by
  unfold readFill
  simp only [bind, Option.bind_eq_some_iff, guard, pure]
  constructor
  · rintro ⟨⟨outcomeMint, side, outcome⟩, trade, size, sized, price, priced, second, timed, _, kept, same⟩
    cases same
    by_cases named : activityIdOf spelling row = []
    · simp [named, failure] at kept
    · exact ⟨outcomeMint, side, outcome, size, price, second, trade, sized, priced, timed, named, rfl⟩
  · rintro ⟨outcomeMint, side, outcome, size, price, second, trade, sized, priced, timed, named, rfl⟩
    exact ⟨_, trade, size, sized, price, priced, second, timed, (), by simp [named], rfl⟩

/-- The two readings of a fill agree exactly when no zero is passed over. -/
theorem readFill_eq_iff_plain {market : Item} {fill : Fill}
    (read : readFill spelling valueOf preferred market row = some fill) :
    readFill spelling firstField preferred market row = some fill ↔ Plain row := by
  obtain ⟨outcomeMint, side, outcome, size, price, second, trade, sized, priced, timed, named, rfl⟩ :=
    readFill_eq_some.mp read
  rw [readFill_eq_some, Plain, priced, timed]
  constructor
  · rintro ⟨_, _, _, _, otherPrice, otherSecond, _, _, here, there, _, same⟩
    cases same
    exact ⟨here, there⟩
  · rintro ⟨samePrice, sameSecond⟩
    exact ⟨_, _, _, _, _, _, trade, sized, samePrice, sameSecond, named, rfl⟩

theorem readFill_isSome {market : Item} (wellFormed : WellFormed spelling row)
    (read : (readFill spelling firstField preferred market row).isSome) :
    (readFill spelling valueOf preferred market row).isSome := by
  obtain ⟨fill, read⟩ := Option.isSome_iff_exists.mp read
  obtain ⟨outcomeMint, side, outcome, size, _, _, trade, sized, _, _, named, _⟩ := readFill_eq_some.mp read
  obtain ⟨price, priced⟩ := Option.isSome_iff_exists.mp wellFormed.price
  obtain ⟨second, timed⟩ := Option.isSome_iff_exists.mp wellFormed.second
  apply Option.isSome_iff_exists.mpr
  exact ⟨_, readFill_eq_some.mpr ⟨_, _, _, _, _, _, trade, sized, priced, timed, named, rfl⟩⟩

theorem lookUp_fst (answers : Answers) (state : State) (ticker : Text) : (lookUp spelling answers state ticker).1 =
    (Dict.get? state.cache ticker).orElse fun _ => found answers state.calls ticker := by
  unfold lookUp
  cases Dict.get? state.cache ticker with
  | some market => rfl
  | none =>
    cases found answers state.calls ticker <;> rfl

/-- What is listed of a row: its fill by the known market if that one is found, and nothing otherwise. -/
theorem normalize_eq {step : State × Item} (wellFormed : WellFormed spelling step.2) :
    (Answered spelling upstream.answers step →
      (normalizeOnchainActivity spelling preferred upstream.answers step.1 step.2).1 =
        (marketOf spelling upstream step).bind fun market => readFill spelling firstField preferred market step.2) ∧
    (¬ Answered spelling upstream.answers step →
      (normalizeOnchainActivity spelling preferred upstream.answers step.1 step.2).1 = none) := by
  have read : (normalizeOnchainActivity spelling preferred upstream.answers step.1 step.2).1 =
      (((Dict.get? step.1.cache (tickerOf spelling step.2)).orElse fun _ =>
        found upstream.answers step.1.calls (tickerOf spelling step.2)).filter fun market =>
          decide (market ≠ [])).bind fun market => readFill spelling firstField preferred market step.2 := by
    unfold normalizeOnchainActivity
    rw [if_neg wellFormed.ticker, if_neg (not_or.mpr ⟨wellFormed.input, wellFormed.output⟩), ← lookUp_fst ]
  rw [read, Answered, marketOf]
  cases Dict.get? step.1.cache (tickerOf spelling step.2) with
  | some market => simp
  | none =>
    cases answer : found upstream.answers step.1.calls (tickerOf spelling step.2) with
    | none => simp
    | some market => simp [upstream.honest _ _ _ answer]

/-- Nothing is listed that a page should not list. -/
theorem expectedAt_isSome {step : State × Item} (wellFormed : WellFormed spelling step.2)
    (listed : (normalizeOnchainActivity spelling preferred upstream.answers step.1 step.2).1.isSome) :
    (expectedAt spelling preferred upstream step).isSome := by
  obtain ⟨answered, unanswered⟩ := @normalize_eq spelling preferred upstream step wellFormed
  by_cases here : Answered spelling upstream.answers step
  · rw [answered here] at listed
    unfold expectedAt
    cases known : marketOf spelling upstream step with
    | none => simp [known] at listed
    | some market =>
      rw [known] at listed
      exact readFill_isSome wellFormed listed
  · rw [unanswered here] at listed
    cases listed

/-- A row is listed as it should be exactly when it is understood. -/
theorem normalize_eq_expectedAt_iff {step : State × Item} (wellFormed : WellFormed spelling step.2) :
    (normalizeOnchainActivity spelling preferred upstream.answers step.1 step.2).1 =
      expectedAt spelling preferred upstream step ↔
    ((expectedAt spelling preferred upstream step).isSome → Answered spelling upstream.answers step ∧ Plain step.2) := by
  obtain ⟨answered, unanswered⟩ := @normalize_eq spelling preferred upstream step wellFormed
  cases due : expectedAt spelling preferred upstream step with
  | none =>
    have nothing := mt (@expectedAt_isSome spelling preferred upstream step wellFormed)
    rw [due] at nothing
    simpa using nothing
  | some fill =>
    simp only [Option.isSome_some, forall_const]
    by_cases here : Answered spelling upstream.answers step
    · rw [answered here]
      unfold expectedAt at due
      obtain ⟨market, known, read⟩ := Option.bind_eq_some_iff.mp due
      rw [known, Option.bind_some, readFill_eq_iff_plain read]
      exact (and_iff_right here).symm
    · rw [unanswered here]
      simp [here]

/-- A record shows every part of its fill. -/
theorem activity_injective (identity : Text) : Function.Injective (Fill.activity identity) := by
  intro first second same
  unfold Fill.activity record at same
  simp only [List.map_cons, List.map_nil, List.cons.injEq, Prod.mk.injEq, Json.str.injEq, Json.float.injEq,
    PyFloat.finite.injEq, Json.int.injEq, Json.obj.injEq, true_and, and_true] at same
  obtain ⟨_, contract, _, side, size, price, second', transaction, ticker, outcome, id, raw⟩ := same
  -- The outcome mint is what the contract has behind the ticker.
  have outcomeMint : first.outcomeMint = second.outcomeMint := by
    rw [Fill.contractId, Fill.contractId, ticker] at contract
    exact List.append_cancel_left contract
  cases first
  cases second
  simp_all

/-! ## Whole pages -/

/-- The fills listed under a limit are the first ones of all rows. -/
theorem listFills_eq (answers : Answers) {desired : Nat} (positive : 1 ≤ desired) (state : State) (rows : List Item) :
    (listFills spelling preferred answers desired state rows).1 =
      ((steps spelling preferred answers state rows).filterMap fun step =>
        (normalizeOnchainActivity spelling preferred answers step.1 step.2).1).take desired := by
  induction rows generalizing desired state with
  | nil => simp [listFills, steps]
  | cons row rest ih =>
    rw [listFills, steps, List.filterMap_cons]
    obtain ⟨listed, after⟩ := normalizeOnchainActivity spelling preferred answers state row
    cases listed with
    | none => exact ih positive after
    | some fill =>
      dsimp only
      by_cases last : desired ≤ 1
      · have one : desired = 1 := by omega
        simp [one]
      · have next : desired = (desired - 1) + 1 := by omega
        rw [if_neg last, ih (by omega) after]
        conv_rhs => rw [next, List.take_succ_cons]

/-- A listing that adds nothing equals the wanted one exactly when each entry does. -/
theorem filterMap_eq_iff {α β : Type} {listed wanted : α → Option β} {entries : List α}
    (inside : ∀ entry ∈ entries, (listed entry).isSome → (wanted entry).isSome) :
    entries.filterMap listed = entries.filterMap wanted ↔ ∀ entry ∈ entries, listed entry = wanted entry := by
  constructor
  · intro same
    induction entries with
    | nil => simp
    | cons entry rest ih =>
      obtain ⟨here, later⟩ := List.forall_mem_cons.mp inside
      have tail := length_filterMap_le later
      rw [List.filterMap_cons, List.filterMap_cons] at same
      cases first : listed entry with
      | none =>
        cases second : wanted entry with
        | none =>
          rw [first, second] at same
          exact List.forall_mem_cons.mpr ⟨by rw [first, second], ih later same⟩
        | some other =>
          -- The wanted entry has no place on a listing that is no longer than the rest.
          rw [first, second] at same
          have lengths := congrArg List.length same
          simp at lengths
          omega
      | some value =>
        obtain ⟨other, second⟩ := Option.isSome_iff_exists.mp (here (Option.isSome_iff_exists.mpr ⟨value, first⟩))
        rw [first, second] at same
        obtain ⟨equal, rest⟩ := List.cons_eq_cons.mp same
        exact List.forall_mem_cons.mpr ⟨by rw [first, second, equal], ih later rest⟩
  · exact List.filterMap_congr

theorem mem_steps {answers : Answers} {rows : List Item} {step : State × Item}
    (member : step ∈ steps spelling preferred answers state rows) : step.2 ∈ rows := by
  induction rows generalizing state with
  | nil => cases member
  | cons row rest ih =>
    rcases List.mem_cons.mp member with rfl | later
    · exact List.mem_cons_self
    · exact List.mem_cons_of_mem _ (ih later)

/-- The fills listed are the expected ones exactly when every fill that trades is understood and fits. -/
theorem listFills_eq_expected_iff {desired : Nat} (positive : 1 ≤ desired) {rows : List Item}
    (wellFormed : ∀ row ∈ rows, WellFormed spelling row) :
    (listFills spelling preferred upstream.answers desired state rows).1 = expected spelling preferred upstream state rows ↔
      Served spelling preferred upstream desired state rows := by
  have inside : ∀ step ∈ steps spelling preferred upstream.answers state rows,
      (normalizeOnchainActivity spelling preferred upstream.answers step.1 step.2).1.isSome →
        (expectedAt spelling preferred upstream step).isSome :=
    fun step member => expectedAt_isSome (wellFormed step.2 (mem_steps member))
  have each := filterMap_eq_iff inside
  have understood : (∀ step ∈ steps spelling preferred upstream.answers state rows,
      (normalizeOnchainActivity spelling preferred upstream.answers step.1 step.2).1 =
        expectedAt spelling preferred upstream step) ↔
      ∀ step ∈ steps spelling preferred upstream.answers state rows,
        (expectedAt spelling preferred upstream step).isSome → Answered spelling upstream.answers step ∧ Plain step.2 :=
    forall₂_congr fun step member => normalize_eq_expectedAt_iff (wellFormed step.2 (mem_steps member))
  rw [listFills_eq upstream.answers positive]
  constructor
  · intro same
    have fits : (expected spelling preferred upstream state rows).length ≤ desired := by
      rw [← same]
      exact List.length_take_le _ _
    have short := (length_filterMap_le inside).trans fits
    rw [List.take_of_length_le short] at same
    exact ⟨understood.mp (each.mp same), fits⟩
  · intro ⟨known, fits⟩
    unfold expected at fits ⊢
    rw [each.mpr (understood.mpr known)]
    exact List.take_of_length_le fits

/-- A call that the adapter takes, on a page of fills, loses none of them exactly when all are served. -/
theorem listActivity_lossless_iff {call : Call} {identity : Text} {desired : Int} {payload : Json}
    (named : activityIdentity spelling call.walletAddress = .ok identity) (limited : activityLimit call.limit = .ok desired)
    (keyed : call.apiKey = true) (answered : call.respond identity desired = .ok payload)
    (wellFormed : ∀ row ∈ rows rowNames payload, WellFormed spelling row) :
    Lossless spelling preferred upstream state call identity (rows rowNames payload) ↔
      Served spelling preferred upstream desired.toNat state (rows rowNames payload) := by
  have positive : 1 ≤ desired.toNat := by
    unfold activityLimit at limited
    obtain ⟨read, _, limited⟩ := Result.bind_eq_ok.mp limited
    cases read with
    | none => cases limited
    | some limit =>
      dsimp only at limited
      split at limited
      · cases limited
      · cases limited
        omega
  have listed : listActivity spelling preferred upstream.answers state call =
      .ok (Feed.activitySnapshot ((listFills spelling preferred upstream.answers desired.toNat state
        (rows rowNames payload)).1.map (Fill.activity identity)) payload desired.toNat (rowNames.map text) true none,
        (listFills spelling preferred upstream.answers desired.toNat state (rows rowNames payload)).2) := by
    unfold listActivity
    rw [named, limited]
    change (if call.apiKey = false then _ else _) = _
    rw [if_neg (by simp [keyed]), answered]
    rfl
  rw [← listFills_eq_expected_iff positive wellFormed]
  constructor
  · rintro (⟨fault, raised⟩ | ⟨page, after, ok, same, _⟩)
    · rw [listed] at raised
      cases raised
    · rw [listed] at ok
      cases ok
      have records : (expected spelling preferred upstream state (rows rowNames payload)).map (fun fill =>
          Json.obj (fill.activity identity)) = ((expected spelling preferred upstream state (rows rowNames payload)).map
            (Fill.activity identity)).map Json.obj := List.map_map.symm
      rw [records] at same
      apply List.map_injective_iff.mpr (activity_injective identity)
      exact List.map_injective_iff.mpr (fun _ _ equal => Json.obj.inj equal) same
  · intro same
    right
    refine ⟨_, _, listed, ?_, ?_⟩
    · rw [same]
      exact List.map_map
    · intro maximum requested items read fill member
      have accepted := (Feed.readPage_ok read).1
      unfold Feed.activitySnapshot at accepted
      rw [Feed.mapM_asItem, same] at accepted
      cases accepted
      unfold Feed.newestFirst
      rw [List.mem_insertionSort]
      exact List.mem_map_of_mem member

end Fills

/-! ## A look-up that fails -/

def plainMint : Text := text "USDC"

/-- A market with one settlement account. -/
def plainMarket : Item :=
  record [("ticker", .str (text "T")), ("accounts", .obj (record [("USDC", .obj (record [("yesMint", .str (text "Y")),
    ("noMint", .str (text "N"))]))]))]

/-- Three contracts bought at a half. -/
def plainFill : Item :=
  record [("id", .str (text "f")), ("marketTicker", .str (text "T")), ("inputMint", .str plainMint),
    ("outputMint", .str (text "Y")), ("contracts", .int 3), ("usdPricePerContract", .float (.finite (1 / 2))),
    ("createdAt", .int 1700000000)]

def plainPage : Json := .obj (record [("trades", .arr [.obj plainFill])])

def plainCall : Call where
  walletAddress := List.replicate 32 49
  limit := .int 25
  apiKey := true
  respond _ _ := .ok plainPage

def plainIdentity : Text := text "solana:" ++ List.replicate 32 49

def answering (payload : Except Fault Json) : Answers := fun _ _ => payload

def failingUpstream : Upstream where
  answers := answering (.error (.http (text "HTTP 503")))
  describe _ := some plainMarket
  honest _ _ _ found := by cases found

def workingUpstream : Upstream where
  answers := answering (.ok (.arr [.obj plainMarket]))
  describe _ := some plainMarket
  honest _ _ _ found := found

private theorem plainPage_wellFormed : ∀ row ∈ rows rowNames plainPage, WellFormed plainSpelling row := by
  have only : rows rowNames plainPage = [plainFill] := by decide +kernel
  rw [only, List.forall_mem_singleton]
  constructor <;> decide +kernel

private theorem plainIdentity_named : activityIdentity plainSpelling plainCall.walletAddress = .ok plainIdentity := by
  have canonical : Venue.normalizeSolanaIdentity plainSpelling.casing (strip plainCall.walletAddress) =
      some plainIdentity := by decide +kernel
  rw [activityIdentity, canonical]

/-- The fill of a failed look-up is lost, and a poll accepts the empty page as the whole history. -/
theorem listActivity_loses_fill :
    (∃ fault, failingUpstream.answers 0 (text "T") = .error fault) ∧
    (∀ row ∈ rows rowNames plainPage, WellFormed plainSpelling row) ∧
    ¬ Lossless plainSpelling plainMint failingUpstream ⟨[], 0⟩ plainCall plainIdentity (rows rowNames plainPage) ∧
    Feed.collectAdapterActivity plainSpelling
      ⟨fun _ _ => match listActivity plainSpelling plainMint failingUpstream.answers ⟨[], 0⟩ plainCall with
        | .ok (page, _) => .page page
        | .error _ => .raised, fun _ => false, fun _ => false, 1800000000⟩ 1690000000 25 = some (.ok []) := by
  refine ⟨⟨_, rfl⟩, plainPage_wellFormed, fun lossless => ?_, by decide +kernel⟩
  have lossless := (@listActivity_lossless_iff plainSpelling plainMint failingUpstream ⟨[], 0⟩ plainCall plainIdentity 25
    plainPage plainIdentity_named rfl rfl rfl plainPage_wellFormed).mp lossless
  have due : (expectedAt plainSpelling plainMint failingUpstream (⟨[], 0⟩, plainFill)).isSome = true := by decide +kernel
  have first : (⟨[], 0⟩, plainFill) ∈
      steps plainSpelling plainMint failingUpstream.answers ⟨[], 0⟩ (rows rowNames plainPage) := List.mem_cons_self
  rcases (lossless.understood _ first due).1 with cached | answered
  · cases cached
  · cases answered

/-- With the look-up answered the fill is listed. -/
theorem listActivity_lossless_answered :
    Lossless plainSpelling plainMint workingUpstream ⟨[], 0⟩ plainCall plainIdentity (rows rowNames plainPage) := by
  apply (@listActivity_lossless_iff plainSpelling plainMint workingUpstream ⟨[], 0⟩ plainCall plainIdentity 25 plainPage
    plainIdentity_named rfl rfl rfl plainPage_wellFormed).mpr
  have only : rows rowNames plainPage = [plainFill] := by decide +kernel
  rw [only]
  constructor
  · intro step member _
    obtain rfl := List.mem_singleton.mp member
    exact ⟨Or.inr rfl, by decide +kernel, by decide +kernel⟩
  · exact (List.length_filterMap_le _ _).trans (by decide)

end MarketSentinel.Listing.Dflow
