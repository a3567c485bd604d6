import MarketSentinel.Listing.Records

/-! Matched events of the authenticated account at Predict.fun. -/

set_option autoImplicit false

namespace MarketSentinel.Listing.PredictFun

open Python Wallet

/-- An admitted event. -/
structure Event where
  name : Text
  contractId : Text
  outcome : Text
  side : Text
  size : PyFloat
  price : PyFloat
  timestamp : PyFloat
  transactionHash : Text
  market : Item
  raw : Item

section Values

variable (runtime : Runtime)

/-- `_wallet_address`. -/
def walletAddress (value : Json) : Except Fault Text :=
  let address := strip (runtime.orEmpty value)
  if Leaderboard.isWalletAddress address then .ok address
  else .error (.configuration (text "Predict.fun wallet/address must be a 20-byte 0x-prefixed address."))

def eventName (row : Item) : Option Text :=
  let names := ["name", "eventName", "event_type", "type"].map fun name => runtime.casing.upper (label runtime row [name])
  names.find? fun name =>
    decide (name ≠ []) && decide (text "MATCH" <:+: name ∨ text "FILL" <:+: name ∨ name = text "TRADE")

def objectOr (value : Json) (other : Item) : Item :=
  match value with
  | .obj fields => fields
  | _ => other

/-- The first field that is neither missing nor empty. -/
def firstPresent (fields : Item) (names : List String) : Option Json :=
  (names.map fields.get).find? fun value => !blank value

/-- The outcome of the market that has an identifier of the given outcome. -/
def listedOutcome (outcome market : Item) : Option Json :=
  match Item.get market "outcomes" with
  | .arr outcomes =>
    (outcomes.filterMap Feed.asItem).findSome? fun listed =>
      if ["id", "outcomeId", "onChainId", "indexSet"].any fun name =>
          !blank (outcome.get name) && Feed.sameJson (outcome.get name) (listed.get name) then
        some (firstTrue [listed.get "id", listed.get "name", listed.get "label"])
      else none
  | _ => none

def candidate (outcome : Json) (market : Item) : Option Json :=
  match outcome with
  | .obj fields =>
    ((firstPresent fields ["id", "outcomeId", "name", "label", "side", "onChainId", "indexSet"]).orElse fun _ =>
      listedOutcome fields market).filter (!blank ·)
  | other => if blank other then none else some other

/-- `_activity_contract_id`. -/
def activityContractId (marketId : Text) (outcome : Json) (market : Item) : Option (Text × Text) :=
  (candidate outcome market).map fun value =>
    let written := strip (runtime.str value)
    let upper := runtime.casing.upper written
    let outcome :=
      if upper = text "Y" ∨ upper = text "TRUE" then text "YES"
      else if upper = text "N" ∨ upper = text "FALSE" then text "NO"
      else written
    (marketId ++ text ":" ++ runtime.casing.upper outcome, outcome)

def sideOf (quote : Text) : Option Text :=
  if quote = text "BID" ∨ quote = text "BUY" then some (text "BUY")
  else if quote = text "ASK" ∨ quote = text "SELL" then some (text "SELL")
  else none

/-- Milliseconds from the year 1970 on; a text that is no number is a time. -/
def timestampValue (value : Json) : Except Fault (Option PyFloat) := do
  match value with
  | .str t =>
    if strip t = [] then return none
    else
      match ← floatOf runtime (.str (strip t)) with
      | some number => return ((some number).filter isFinite).map (secondsOf runtime 10000000000)
      | none => return runtime.utcSeconds (strip t)
  | other => return (← finiteOf runtime other).map (secondsOf runtime 10000000000)

def transactionOf (row : Item) (marketId : Text) (timestamp : PyFloat) : Reading Text := do
  let named := firstField row ["transactionHash", "transaction_hash", "id", "orderId"]
  if named.truthy then return strip (runtime.str named)
  else
    match runtime.floats.toInt (runtime.floats.mul timestamp (runtime.floats.literal 1000)) with
    | .ok millis => return strip (text "predict_fun_activity:" ++ marketId ++ text ":" ++ intText millis)
    | .error _ => .raise

def eventOf (row : Json) : Reading Event := do
  let some row := Feed.asItem row | failure
  let some name := eventName runtime row | failure
  let market := objectOr (row.get "market") row
  let marketId := label runtime market ["id", "marketId"]
  guard (marketId ≠ [])
  let some (contractId, outcome) := activityContractId runtime marketId (row.get "outcome") market | failure
  guard (contractId ≠ [])
  let order := objectOr (row.get "order") []
  let quote := firstTrue [row.get "quoteType", order.get "quoteType", row.get "side"]
  let some side := sideOf (runtime.casing.upper (strip (runtime.orEmpty quote))) | failure
  let price ← OptionT.lift (probabilityOf runtime 100 (firstTrue
    [row.get "priceExecuted", row.get "executionPrice", row.get "price", order.get "price"]))
  let size ← OptionT.lift (positiveOf runtime (firstField row ["amountFilled", "filledAmount", "size", "amount"]))
  let timestamp ← OptionT.lift (timestampValue runtime (firstField row ["executedAt", "createdAt", "timestamp", "time"]))
  let some price := price | failure
  let some size := size | failure
  let some timestamp := timestamp | failure
  let transactionHash ← transactionOf runtime row marketId timestamp
  guard (transactionHash ≠ [])
  pure { name, contractId, outcome, side, size, price, timestamp, transactionHash, market, raw := row }

def Event.activity (wallet : Text) (event : Event) : Item :=
  record [("proxyWallet", .str wallet), ("asset", .str event.contractId), ("side", .str event.side),
    ("size", .float event.size), ("price", .float event.price), ("timestamp", .float event.timestamp),
    ("transactionHash", .str event.transactionHash), ("outcome", .str event.outcome),
    ("slug", .str (runtime.orEmpty (event.market.get "categorySlug"))),
    ("pseudonym", .str (runtime.orEmpty (firstTrue [event.market.get "title", event.market.get "question"]))),
    ("activityType", .str event.name), ("raw", .obj event.raw)]

/-- The wallet must be the one of the authenticated account. -/
def accountWallet (address : Text) (account : Json) : Except Fault Text := do
  let wallet := runtime.casing.lower (← walletAddress runtime (.str address))
  let data :=
    match account with
    | .obj fields => Item.get fields "data"
    | other => other
  match data with
  | .obj fields =>
    if runtime.casing.lower (← walletAddress runtime (Item.get fields "address")) = wallet then return wallet
    else .error (.configuration (text "Predict.fun activity identity must match the authenticated account address."))
  | _ => .error (.configuration (text "Predict.fun account response did not contain account data."))

def rowNames : List String := ["data", "activities", "activity"]

/-- The limit is refused before the account is asked for. -/
def listActivity (account : Json) (wallet : Text) (limit : Nat) (respond : Nat → Json) : Except Fault Feed.Page := do
  let _ ← walletAddress runtime (.str wallet)
  let desired ← boundedLimit limit 100 "Predict.fun activity limit must be between 1 and 100."
  let wallet ← accountWallet runtime wallet account
  let payload := respond desired
  gatherPage (eventOf runtime) (Event.activity runtime wallet) (listFromPayload rowNames payload) payload desired rowNames

variable {runtime}

theorem accountWallet_eq_ok {address wallet : Text} {account : Json}
    (taken : accountWallet runtime address account = .ok wallet) : wallet = walletOf runtime address := by
  obtain ⟨given, read, taken⟩ := Result.bind_eq_ok.mp taken
  unfold walletAddress at read
  dsimp only at read taken
  split at read
  · rename_i valid
    have stripped : strip (runtime.orEmpty (.str address)) = strip address := by
      cases address with
      | nil => rfl
      | cons c rest => rfl
    rw [stripped] at valid read
    cases read
    have normal : walletOf runtime address = runtime.casing.lower (strip address) := by
      rw [walletOf, Leaderboard.normalizeWallet, if_pos valid]
      rfl
    rw [normal]
    split at taken
    · obtain ⟨owner, _, same⟩ := Result.bind_eq_ok.mp taken
      split at same
      · exact (Except.ok.inj same).symm
      · cases same
    · cases taken
  · cases read

theorem listActivity_eq_ok {account : Json} {address : Text} {limit : Nat} {respond : Nat → Json} {page : Feed.Page}
    (listed : listActivity runtime account address limit respond = .ok page) : 1 ≤ limit ∧
      gatherPage (eventOf runtime) (Event.activity runtime (walletOf runtime address))
        (listFromPayload rowNames (respond limit)) (respond limit) limit rowNames = .ok page := by
  obtain ⟨_, _, listed⟩ := Result.bind_eq_ok.mp listed
  obtain ⟨desired, bounded, listed⟩ := Result.bind_eq_ok.mp listed
  obtain ⟨wallet, taken, gathered⟩ := Result.bind_eq_ok.mp listed
  obtain rfl := accountWallet_eq_ok taken
  obtain ⟨rfl, positive⟩ := boundedLimit_eq_ok bounded
  exact ⟨positive, gathered⟩

theorem timestamp_activity (wallet : Text) (event : Event) :
    (event.activity runtime wallet).get "timestamp" = .float event.timestamp := by
  rw [Event.activity, get_record]
  rfl

end Values

end MarketSentinel.Listing.PredictFun
