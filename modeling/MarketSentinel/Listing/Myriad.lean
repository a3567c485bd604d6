import MarketSentinel.Listing.Records

/-! Trades among the events of a user at Myriad.

An event is named by its transaction, and there by a digest of its terms.
-/

set_option autoImplicit false

namespace MarketSentinel.Listing.Myriad

open Python Wallet

/-- The configured filters of the feed. -/
structure Settings where
  activityNetworkId : Option Json
  networkId : Json
  marketId : Json
  marketSlug : Json
  tradingModel : Json

/-- An admitted event; its transaction has no outer blanks. -/
structure Event where
  marketId : Text
  outcomeId : Text
  side : Text
  size : PyFloat
  value : Option PyFloat
  shares : Option PyFloat
  price : Option PyFloat
  timestamp : Int
  transaction : Text
  raw : Item
  named : strip transaction ≠ []

section Values

variable (runtime : Runtime) (settings : Settings)

/-- The network whose events are kept, or nothing for all. -/
def configuredNetwork : Text :=
  let network := settings.activityNetworkId.getD settings.networkId
  if blank network then [] else strip (runtime.str network)

def sideOf (action : Text) : Option Text :=
  if action = text "buy" then some (text "BUY") else if action = text "sell" then some (text "SELL") else none

/-- Nothing and what is not positive count as the start of time. -/
def timestampSeconds (value : Json) : Except Fault Int := do
  match (← finiteOf runtime value).filter (isPositive runtime) with
  | none => return 0
  | some number =>
    match runtime.floats.toInt number with
    | .ok whole => return if 10000000000 < whole then whole / 1000 else whole
    | .error _ => .error .raised

def numberJson (number : Option PyFloat) : Json := (number.map Json.float).getD .null

/-- `value / shares` as a share of one. -/
def priceOf (value shares : Option PyFloat) : Except Fault (Option PyFloat) :=
  match value, shares with
  | some value, some shares =>
    if runtime.floats.lt (runtime.floats.literal 0) shares then
      probabilityOf runtime 100 (.float (runtime.floats.div value shares))
    else .ok none
  | _, _ => .ok none

/-- The transaction, or a name made of the terms of an event without one. -/
def transactionOf (hash marketId outcomeId side : Text) (timestamp : Int) (size : PyFloat) : Text :=
  if hash ≠ [] then hash
  else text "myriad-event:" ++ marketId ++ text ":" ++ outcomeId ++ text ":" ++ intText timestamp ++ text ":" ++ side ++
    text ":" ++ runtime.str (.float size)

theorem transactionOf_ne_nil {hash : Text} (solid : strip hash = hash) (marketId outcomeId side : Text)
    (timestamp : Int) (size : PyFloat) : strip (transactionOf runtime hash marketId outcomeId side timestamp size) ≠ [] := by
  unfold transactionOf
  split
  · rename_i named
    rwa [solid]
  · exact strip_ne_nil (c := 109) (by simp [text]) (by decide)

/-- `_activity_from_event`, up to the record. -/
def tradeOf (event : Item) : Reading Event := do
  let marketId := label runtime event ["marketId", "market_id"]
  let outcomeId := label runtime event ["outcomeId", "outcome_id"]
  guard (marketId ≠ [] ∧ outcomeId ≠ [])
  let some side := sideOf (runtime.casing.lower (label runtime event ["action"])) | failure
  let shares ← OptionT.lift (finiteOf runtime (event.get "shares"))
  let value ← OptionT.lift (finiteOf runtime (event.get "value"))
  let some size := (if side = text "BUY" then value else shares).filter (isPositive runtime) | failure
  let price ← OptionT.lift (priceOf runtime value shares)
  let hash := label runtime event ["txId", "txHash", "transactionHash"]
  let timestamp ← OptionT.lift (timestampSeconds runtime (firstField event ["timestamp", "createdAt"]))
  pure
    { marketId, outcomeId, side, size, value, shares, price, timestamp,
      transaction := transactionOf runtime hash marketId outcomeId side timestamp size, raw := event,
      named := transactionOf_ne_nil runtime (strip_strip _) marketId outcomeId side timestamp size }

/-- Only buys and sells of the configured network are read. -/
def eventOf (row : Json) : Reading Event := do
  let some event := Feed.asItem row | failure
  let action := runtime.casing.lower (label runtime event ["action"])
  guard (action = text "buy" ∨ action = text "sell")
  let network := firstField event ["networkId", "network_id"]
  let configured := configuredNetwork runtime settings
  guard (configured = [] ∨ blank network ∨ strip (runtime.str network) = configured)
  tradeOf runtime event

def Event.contractId (event : Event) : Text := event.marketId ++ text ":" ++ event.outcomeId

def Event.outcome (event : Event) : Text :=
  runtime.str (firstTrue [event.raw.get "outcomeTitle", .str event.outcomeId])

def Event.activity (wallet : Text) (event : Event) : Item :=
  record [("type", .str (text "TRADE")), ("proxyWallet", .str wallet), ("wallet", .str wallet),
    ("asset", .str event.contractId), ("contract_id", .str event.contractId), ("marketId", .str event.marketId),
    ("networkId", firstField event.raw ["networkId", "network_id"]), ("side", .str event.side),
    ("size", .float event.size), ("value", numberJson event.value), ("shares", numberJson event.shares),
    ("price", numberJson event.price), ("timestamp", .int event.timestamp), ("transactionHash", .str event.transaction),
    ("slug", .str (runtime.str (firstTrue [event.raw.get "marketSlug", .str event.marketId]))),
    ("outcome", .str (event.outcome runtime)), ("pseudonym", .str (runtime.orEmpty (event.raw.get "marketTitle"))),
    ("raw", .obj event.raw)]

def rowNames : List String := ["data", "events", "results", "items"]

/-- The first list among some fields, or in an object among them. -/
def rowsUnder (fields : Item) : List String → Option (List Json)
  | [] => none
  | name :: rest =>
    let found :=
      match fields.get name with
      | .arr rows => some rows
      | .obj inner => listUnder inner rowNames
      | _ => none
    found.orElse fun _ => rowsUnder fields rest

/-- `_activity_rows`. -/
def rows : Json → List Json
  | .arr rows => rows
  | .obj fields => (rowsUnder fields rowNames).getD []
  | _ => []

def clip (limit : Nat) : Nat := max 1 (min limit 100)

theorem clip_le {limit : Nat} (positive : 1 ≤ limit) : clip limit ≤ limit := by
  unfold clip
  omega

/-- A configured filter hides a part of the history. -/
def isSubset : Bool :=
  let unset := fun value => blank value || decide (value = .str (text "all"))
  !([settings.marketId, settings.marketSlug, settings.activityNetworkId.getD .null, settings.networkId,
    settings.tradingModel].all unset)

def listActivity (wallet : Text) (limit : Nat) (respond : Nat → Json) : Except Fault Feed.Page := do
  let wallet ← requireActivityIdentity runtime wallet
  let payload := respond (clip limit)
  let events ← readRows (eventOf runtime settings) (rows payload)
  return Feed.activitySnapshot ((events.take (clip limit)).map fun event => event.activity runtime wallet) payload
    (clip limit) (rowNames.map text) (!isSubset settings) none

variable {runtime settings} in
theorem listActivity_eq_ok {address : Text} {limit : Nat} {respond : Nat → Json} {page : Feed.Page}
    (listed : listActivity runtime settings address limit respond = .ok page) :
    page = Feed.activitySnapshot
      ((((rows (respond (clip limit))).filterMap (fill? (eventOf runtime settings))).take (clip limit)).map
        (Event.activity runtime (walletOf runtime address)))
      (respond (clip limit)) (clip limit) (rowNames.map text) (!isSubset settings) none := by
  obtain ⟨wallet, taken, listed⟩ := Result.bind_eq_ok.mp listed
  obtain ⟨events, read, same⟩ := Result.bind_eq_ok.mp listed
  obtain rfl := requireActivityIdentity_eq_ok taken
  cases same
  rw [readRows_eq_ok read]

/-! ## What tells the records of two events apart -/

/-- The terms that the digest of a record covers. -/
def Event.terms (wallet : Text) (event : Event) : List (Text × Text) :=
  let lower := fun t => runtime.casing.lower (strip t)
  [(text "asset", strip event.contractId), (text "outcome", lower (event.outcome runtime)),
    (text "price", identityNumber (strip (runtime.present (numberJson event.price)))),
    (text "proxyWallet", lower wallet), (text "side", lower event.side),
    (text "size", identityNumber (strip (runtime.str (.float event.size)))),
    (text "timestamp", identityNumber (strip (runtime.str (.int event.timestamp))))]

/-- The transaction, whose case matters only outside hexadecimal hashes, and the digest of the terms. -/
def Event.mark (wallet : Text) (event : Event) : Text :=
  let transaction := strip event.transaction
  (if text "0x" <+: transaction ∨ text "0X" <+: transaction then runtime.casing.lower transaction else transaction) ++
    text ":fill:" ++ runtime.sha256 (dumpsTexts (event.terms runtime wallet))

variable (wallet : Text) (event : Event)

theorem timestamp_activity : (event.activity runtime wallet).get "timestamp" = .int event.timestamp := by
  rw [Event.activity, get_record]
  exact rfl

theorem contract_activity : contract runtime.toSpelling (event.activity runtime wallet) = strip event.contractId := by
  have truth : (Json.str event.contractId).truthy = true := decide_eq_true (by simp [Event.contractId, text])
  have asset : (event.activity runtime wallet).get "asset" = .str event.contractId := by
    rw [Event.activity, get_record]
    exact rfl
  rw [contract, either, asset, if_pos truth]
  rfl

theorem contractId_solid : strip event.contractId ≠ [] :=
  strip_ne_nil (c := 58) (by simp [Event.contractId, text]) (by decide)

theorem transactionHash_activity : either runtime.toSpelling (event.activity runtime wallet) "transactionHash"
    "transaction_hash" = strip event.transaction := by
  have given : event.transaction ≠ [] := fun nothing => event.named (by rw [nothing]; rfl)
  have hash : (event.activity runtime wallet).get "transactionHash" = .str event.transaction := by
    rw [Event.activity, get_record]
    exact rfl
  have truth : (Json.str event.transaction).truthy = true := decide_eq_true given
  rw [either, hash, if_pos truth]
  rfl

theorem fillFields_activity :
    fillFields runtime.toSpelling (event.activity runtime wallet) = event.terms runtime wallet := by
  have read : ∀ {name : String} {value : Json}, (event.activity runtime wallet).get name = value →
      numberField runtime.toSpelling (event.activity runtime wallet) name = strip (runtime.present value) := by
    rintro name _ rfl
    rfl
  have lowered : ∀ {name : String} {value : Text}, (event.activity runtime wallet).get name = .str value →
      lowerField runtime.toSpelling (event.activity runtime wallet) name = runtime.casing.lower (strip value) := by
    intro name value found
    rw [lowerField, found]
    rfl
  unfold fillFields
  rw [contract_activity, @lowered "outcome" (event.outcome runtime) ?_, @lowered "proxyWallet" wallet ?_,
    @lowered "side" event.side ?_, @read "price" (numberJson event.price) ?_, @read "size" (.float event.size) ?_,
    read (timestamp_activity runtime wallet event)]
  · rfl
  all_goals
    rw [Event.activity, get_record]
    exact rfl

theorem activityKey_activity :
    activityKey runtime.toSpelling (event.activity runtime wallet) = text "tx:" ++ event.mark runtime wallet := by
  have absent : ∀ name ∈ ["activityId", "activity_id", "logIndex", "log_index", "fillId", "trade_id"],
      (event.activity runtime wallet).get name = .null := by
    intro name member
    simp only [List.mem_cons, List.not_mem_nil, or_false] at member
    rw [Event.activity, get_record]
    rcases member with rfl | rfl | rfl | rfl | rfl | rfl <;> exact rfl
  have explicit : either runtime.toSpelling (event.activity runtime wallet) "activityId" "activity_id" = [] := by
    rw [either, absent _ (by simp), absent _ (by simp)]
    rfl
  have position : fillIndex runtime.toSpelling (event.activity runtime wallet) = none := by
    refine List.findSome?_eq_none_iff.mpr fun name member => ?_
    exact if_neg fun given => given.1 (absent name (List.mem_cons_of_mem _ (List.mem_cons_of_mem _ member)))
  have hash : transactionHash runtime.toSpelling (event.activity runtime wallet) ≠ [] := by
    rw [transactionHash, transactionHash_activity]
    split
    · exact runtime.lower_ne_nil _ event.named
    · exact event.named
  unfold activityKey
  dsimp only
  rw [explicit, if_neg (not_not.mpr rfl), if_pos hash, position]
  dsimp only
  rw [contract_activity, if_pos (contractId_solid event), fillFields_activity, transactionHash,
    transactionHash_activity]
  simp only [Event.mark, List.append_assoc]

end Values

end MarketSentinel.Listing.Myriad
