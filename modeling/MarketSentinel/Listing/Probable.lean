import MarketSentinel.Listing.Records

/-! Trades of a wallet at Probable. -/

set_option autoImplicit false

namespace MarketSentinel.Listing.Probable

open Python Wallet

/-- An admitted trade. -/
structure Trade where
  marketId : Text
  tokenId : Text
  conditionId : Text
  side : Text
  size : PyFloat
  price : PyFloat
  timestamp : PyFloat
  tradeId : Text
  raw : Item

section Values

variable (runtime : Runtime)

def isIdentifierPoint (c : CodePoint) : Bool :=
  isDigit c || (65 ≤ c.val && c.val ≤ 90) || (97 ≤ c.val && c.val ≤ 122) || c.val == 46 || c.val == 95 ||
    c.val == 58 || c.val == 45

/-- `_safe_identifier` of a stripped text. -/
def safeIdentifier (t : Text) : Bool := decide (t ≠ [] ∧ t.length ≤ 256) && t.all isIdentifierPoint

/-- `_safe_probability`: a share as it is. -/
def safeProbability (value : Json) : Except Fault (Option PyFloat) := do
  let floats := runtime.floats
  return (← finiteOf runtime value).filter fun share =>
    floats.le (floats.literal 0) share && floats.le share (floats.literal 1)

def optionalTimestamp (value : Json) : Except Fault (Option PyFloat) := do
  return ((← finiteOf runtime value).filter (!isNegative runtime ·)).map (secondsOf runtime 100000000000)

/-- The market by its identifier, or by its condition. -/
def marketOf (row : Item) (conditionId : Text) : Text :=
  let named := firstTrue [row.get "marketId", row.get "market_id", row.get "market", .str conditionId, .str []]
  match named with
  | .obj market => label runtime market ["id", "marketId", "market_id"]
  | other => strip (runtime.str other)

def tradeOf (row : Json) : Reading Trade := do
  let some row := Feed.asItem row | failure
  let kind := runtime.casing.upper (label runtime row ["type"])
  guard (kind = [] ∨ kind = text "TRADE")
  let tokenId := label runtime row ["asset", "tokenId", "token_id"]
  let conditionId := label runtime row ["conditionId", "condition_id"]
  let marketId := marketOf runtime row conditionId
  let tradeId := label runtime row ["transactionHash", "transaction_hash", "tradeId", "trade_id", "id"]
  let side := runtime.casing.upper (label runtime row ["side"])
  let price ← OptionT.lift (safeProbability runtime (row.get "price"))
  let size ← OptionT.lift (positiveOf runtime (row.get "size"))
  let timestamp ← OptionT.lift (optionalTimestamp runtime (row.get "timestamp"))
  guard (tokenId ≠ [] ∧ marketId ≠ [] ∧ tradeId ≠ [] ∧ (side = text "BUY" ∨ side = text "SELL"))
  let some price := price | failure
  let some size := size | failure
  let some timestamp := timestamp | failure
  guard (safeIdentifier marketId ∧ safeIdentifier tokenId)
  pure { marketId, tokenId, conditionId, side, size, price, timestamp, tradeId, raw := row }

def Trade.contractId (trade : Trade) : Text := trade.marketId ++ text ":" ++ trade.tokenId

/-- `row.get(name) or ""`. -/
def given (row : Item) (name : String) : Json := firstTrue [row.get name, .str []]

def Trade.activity (wallet : Text) (trade : Trade) : Item :=
  record [("proxyWallet", .str wallet), ("asset", .str trade.contractId), ("contract_id", .str trade.contractId),
    ("marketId", .str trade.marketId), ("conditionId", .str trade.conditionId), ("side", .str trade.side),
    ("size", .float trade.size), ("price", .float trade.price), ("timestamp", .float trade.timestamp),
    ("transactionHash", .str trade.tradeId), ("outcome", given trade.raw "outcome"),
    ("outcomeIndex", if trade.raw.get "outcomeIndex" = .null then trade.raw.get "outcome_index"
      else trade.raw.get "outcomeIndex"),
    ("slug", given trade.raw "slug"), ("title", given trade.raw "title"), ("activityType", .str (text "TRADE")),
    ("raw", .obj trade.raw), ("source", .str (text "probable_public_activity"))]

def rowNames : List String := ["activity", "transactions", "data"]

mutual

/-- `_list_from_payload`, which looks again below `data`. -/
def rows : Json → List Json
  | .arr rows => rows
  | .obj fields => (listUnder fields rowNames).getD (rowsBelow fields)
  | _ => []

def rowsBelow : List (Text × Json) → List Json
  | [] => []
  | (key, value) :: rest =>
    if key = text "data" then
      match value with
      | .obj fields => rows (.obj fields)
      | _ => []
    else rowsBelow rest

end

def listActivity (wallet : Text) (limit : Nat) (respond : Nat → Json) : Except Fault Feed.Page := do
  let wallet ← requireActivityIdentity runtime wallet
  let desired ← boundedLimit limit 500 "Probable activity limit must be between 1 and 500."
  let payload := respond desired
  gatherPage (tradeOf runtime) (Trade.activity wallet) (rows payload) payload desired rowNames

variable {runtime} in
theorem listActivity_eq_ok {address : Text} {limit : Nat} {respond : Nat → Json} {page : Feed.Page}
    (listed : listActivity runtime address limit respond = .ok page) : 1 ≤ limit ∧
      gatherPage (tradeOf runtime) (Trade.activity (walletOf runtime address)) (rows (respond limit)) (respond limit)
        limit rowNames = .ok page := by
  obtain ⟨wallet, taken, listed⟩ := Result.bind_eq_ok.mp listed
  obtain ⟨desired, bounded, gathered⟩ := Result.bind_eq_ok.mp listed
  obtain rfl := requireActivityIdentity_eq_ok taken
  obtain ⟨rfl, positive⟩ := boundedLimit_eq_ok bounded
  exact ⟨positive, gathered⟩

theorem timestamp_activity (wallet : Text) (trade : Trade) :
    (trade.activity wallet).get "timestamp" = .float trade.timestamp := by
  rw [Trade.activity, get_record]
  rfl

end Values

end MarketSentinel.Listing.Probable
