import MarketSentinel.Listing.Records
import MarketSentinel.Venue.SignedWire

/-! Bets of a bettor at Azuro.

Two feeds are merged, newest bet first. Only a bet with one selection names a contract.
-/

set_option autoImplicit false

namespace MarketSentinel.Listing.Azuro

open Python Wallet

structure Settings where
  environment : Text
  /-- The configured number of decimals, six unless it is given. -/
  tokenDecimals : Json

def pageMax : Nat := 1000

def oddsScale : ℚ := 1000000000000

def knownDecimals : List (String × Int) :=
  [("PolygonUSDT", 6), ("PolygonAmoyUSDT", 6), ("GnosisXDAI", 18), ("GnosisDevXDAI", 18), ("BaseWETH", 18),
    ("BaseSepoliaWETH", 18), ("ChilizWCHZ", 18), ("ChilizSpicyWCHZ", 18)]

/-- An admitted bet. -/
structure Bet where
  gameId : Text
  conditionId : Text
  outcomeId : Text
  odds : PyFloat
  stake : PyFloat
  timestamp : PyFloat
  transactionHash : Text
  betId : Text
  status : Text
  raw : Item

section Values

variable (runtime : Runtime) (settings : Settings)

def tokenDecimals : Except Fault Nat := do
  let decimals ←
    match (knownDecimals.find? fun known => decide (text known.1 = settings.environment)) with
    | some known => pure known.2
    | none =>
      match Venue.intOf settings.tokenDecimals with
      | .error _ => .error .raised
      | .ok none => .error (.configuration (text "Azuro token decimals must be an integer between 0 and 30."))
      | .ok (some decimals) => pure decimals
  if 0 ≤ decimals ∧ decimals ≤ 30 then return decimals.toNat
  else .error (.configuration (text "Azuro token decimals must be between 0 and 30."))

/-- The decimals are read only for a positive amount. -/
def stakeAmount (value : Json) : Except Fault (Option PyFloat) := do
  match ← positiveOf runtime value with
  | none => return none
  | some amount =>
    let scale := runtime.floats.literal (10 ^ (← tokenDecimals settings))
    return (some (runtime.floats.div amount scale)).filter (isPositive runtime)

def decimalOddsValue (value : Json) : Except Fault (Option PyFloat) := do
  let scale := runtime.floats.literal oddsScale
  return (← positiveOf runtime value).bind fun odds =>
    (some (if runtime.floats.le scale odds then runtime.floats.div odds scale else odds)).filter (isPositive runtime)

def activityTimestamp (value : Json) : Except Fault (Option PyFloat) := do
  return ((← finiteOf runtime value).filter (!isNegative runtime ·)).map (secondsOf runtime 1000000000000)

/-- `value[0]` of a value that counts as true. -/
def firstItem : Json → Reading Json
  | .arr (item :: _) => pure item
  | .str (c :: _) => pure (.str [c])
  | _ => .raise

def gameId (bet condition : Item) : Reading Text := do
  let known := firstField condition ["gameId", "game_id"]
  let game ←
    if known.truthy then pure known
    else firstItem (firstTrue [bet.get "_gamesIds", bet.get "gamesIds", .arr [.null]])
  return strip (runtime.orEmpty game)

/-- The only selection of a bet, with its outcome and its condition. -/
def singleSelection (bet : Item) : Option (Item × Item × Item) :=
  match bet.get "selections" with
  | .arr [.obj selection] =>
    match Item.get selection "outcome" with
    | .obj outcome =>
      match Item.get outcome "condition" with
      | .obj condition => some (selection, outcome, condition)
      | _ => none
    | _ => none
  | _ => none

/-- A row with the identifier that it has by its place. -/
def betOf (placed : Text × Json) : Reading Bet := do
  let some bet := Feed.asItem placed.2 | failure
  let some (selection, outcome, condition) := singleSelection bet | failure
  let gameId ← gameId runtime bet condition
  let conditionId := label runtime condition ["conditionId", "id"]
  let outcomeId := label runtime outcome ["outcomeId", "id"]
  guard (gameId ≠ [] ∧ conditionId ≠ [] ∧ outcomeId ≠ [])
  -- All three are read before one of them is missed.
  let odds ← OptionT.lift (decimalOddsValue runtime (firstTrue [selection.get "odds", bet.get "odds"]))
  let stake ← OptionT.lift (stakeAmount runtime settings (bet.get "amount"))
  let timestamp ← OptionT.lift
    (activityTimestamp runtime (firstField bet ["createdBlockTimestamp", "createdAt", "timestamp"]))
  let some odds := odds | failure
  let some stake := stake | failure
  let some timestamp := timestamp | failure
  let betId := strip (runtime.orEmpty (firstTrue [bet.get "betId", bet.get "id", .str placed.1]))
  guard (betId ≠ [])
  pure
    { gameId, conditionId, outcomeId, odds, stake, timestamp, betId,
      transactionHash := label runtime bet ["createdTxHash", "txHash", "transactionHash"],
      status := label runtime bet ["status"], raw := bet }

def Bet.contractId (bet : Bet) : Text := bet.gameId ++ text ":" ++ bet.conditionId ++ text ":" ++ bet.outcomeId

def Bet.activity (wallet : Text) (bet : Bet) : Item :=
  record [("type", .str (text "BET")), ("activityType", .str (text "BET")), ("proxyWallet", .str wallet),
    ("wallet", .str wallet), ("asset", .str bet.contractId), ("contract_id", .str bet.contractId),
    ("marketId", .str bet.gameId), ("conditionId", .str bet.conditionId), ("outcomeId", .str bet.outcomeId),
    ("side", .str (text "BUY")), ("size", .float bet.stake),
    ("price", .float (runtime.floats.div (runtime.floats.literal 1) bet.odds)), ("odds", .float bet.odds),
    ("timestamp", .float bet.timestamp), ("transactionHash", .str bet.transactionHash), ("betId", .str bet.betId),
    ("status", .str bet.status), ("source", .str (text "azuro_bettor_bet_history")), ("raw", .obj bet.raw)]

/-- The order of the feed: by time, then by identifier. -/
def Bet.before (first second : Bet) : Bool :=
  if first.timestamp = second.timestamp then decide (first.betId < second.betId)
  else runtime.floats.lt first.timestamp second.timestamp

def placedRows (source : String) (rows : List Json) : List (Text × Json) :=
  rows.mapIdx fun index row => (text source ++ text ":" ++ natText index, row)

def feedRows (v3Bets liveBets : List Json) : List (Text × Json) :=
  placedRows "v3Bets" v3Bets ++ placedRows "liveBets" liveBets

def clip (limit : Nat) : Nat := max 1 (min limit pageMax)

/-- `_normalize_activity_payload`. -/
def normalized (v3Bets liveBets : List Json) (limit : Nat) : Except Fault (List Bet) := do
  let bets ← readRows (betOf runtime settings) (feedRows v3Bets liveBets)
  return (bets.insertionSort fun first second => first.before runtime second = false).take (clip limit)

/-- The failures that a response lists. -/
def failureText (failures : List Json) : Text :=
  List.intercalate (text "; ") ((failures.take 3).filterMap fun failure =>
    (Feed.asItem failure).map fun fields => runtime.str (firstTrue [fields.get "message", failure]))

/-- `account_recovery("bet_history")`, from the response of the subgraph. -/
def betHistory (wallet : Text) (payload : Json) : Except Fault Item :=
  if !Leaderboard.isWalletAddress wallet then
    .error (.configuration (text "Azuro bettor wallet must be a canonical 0x-prefixed 40-hex address."))
  else
    match payload with
    | .obj fields =>
      match Item.get fields "errors" with
      | .arr (failure :: rest) =>
        let message := failureText runtime (failure :: rest)
        .error (.http (text "azuro GraphQL query failed: " ++ (if message = [] then text "unknown error" else message)))
      | _ =>
        match Item.get fields "data" with
        | .obj data => .ok data
        | _ => .error (.http (text "azuro GraphQL response did not contain a data object."))
    | _ => .error (.http (text "azuro GraphQL response was not an object."))

def rowsUnder (data : Item) (name : String) : List Json := (Feed.arrayOf (data.get name)).getD []

/-- Both feeds ended, and nothing is clipped. -/
def isComplete (data : Item) (limit : Nat) : Except Fault Bool :=
  match Feed.rawActivityRows [text "v3Bets"] (.obj data), Feed.rawActivityRows [text "liveBets"] (.obj data) with
  | some v3Bets, some liveBets =>
    if v3Bets.length < limit ∧ liveBets.length < limit then do
      let first ← normalized runtime settings v3Bets [] limit
      let second ← normalized runtime settings [] liveBets limit
      return decide (first.length + second.length ≤ limit)
    else .ok false
  | _, _ => .ok false

/-- What the upstream answers to a request is a function of its limit. -/
def listActivity (wallet : Text) (limit : Nat) (respond : Nat → Json) : Except Fault Feed.Page := do
  let wallet ← requireActivityIdentity runtime wallet
  let desired ← boundedLimit limit pageMax "Azuro bet history limit must be between 1 and 1000."
  let data ← betHistory runtime wallet (respond desired)
  let bets ← normalized runtime settings (rowsUnder data "v3Bets") (rowsUnder data "liveBets") desired
  let complete ← isComplete runtime settings data desired
  pure
    { rows := bets.map fun bet => .obj (bet.activity runtime wallet), historyComplete := some complete,
      historyContiguous := some true }

variable {runtime settings}

theorem listActivity_eq_ok {address : Text} {limit : Nat} {respond : Nat → Json} {page : Feed.Page}
    (listed : listActivity runtime settings address limit respond = .ok page) : 1 ≤ limit ∧ ∃ data bets complete,
      betHistory runtime (walletOf runtime address) (respond limit) = .ok data ∧
      normalized runtime settings (rowsUnder data "v3Bets") (rowsUnder data "liveBets") limit = .ok bets ∧
      isComplete runtime settings data limit = .ok complete ∧
      page.rows = (bets.map fun bet => .obj (bet.activity runtime (walletOf runtime address))) ∧
      page.historyComplete = some complete := by
  obtain ⟨wallet, taken, listed⟩ := Result.bind_eq_ok.mp listed
  obtain ⟨desired, bounded, listed⟩ := Result.bind_eq_ok.mp listed
  obtain ⟨data, answered, listed⟩ := Result.bind_eq_ok.mp listed
  obtain ⟨bets, read, listed⟩ := Result.bind_eq_ok.mp listed
  obtain ⟨complete, ended, same⟩ := Result.bind_eq_ok.mp listed
  obtain rfl := requireActivityIdentity_eq_ok taken
  obtain ⟨rfl, positive⟩ := boundedLimit_eq_ok bounded
  obtain rfl := Except.ok.inj same
  exact ⟨positive, data, bets, complete, answered, read, ended, rfl, rfl⟩

theorem short_of_isComplete {data : Item} {limit : Nat} (ended : isComplete runtime settings data limit = .ok true) :
    ∃ v3Bets liveBets, Feed.rawActivityRows [text "v3Bets"] (.obj data) = some v3Bets ∧
      Feed.rawActivityRows [text "liveBets"] (.obj data) = some liveBets ∧
      v3Bets.length < limit ∧ liveBets.length < limit := by
  unfold isComplete at ended
  split at ended
  · rename_i v3Bets liveBets first second
    split at ended
    · rename_i short
      exact ⟨v3Bets, liveBets, first, second, short⟩
    · cases ended
  · cases ended

/-- Sorting and clipping leave no bet exactly where no row is one. -/
theorem normalized_eq_nil {v3Bets liveBets : List Json} {limit : Nat} {bets : List Bet}
    (read : normalized runtime settings v3Bets liveBets limit = .ok bets) :
    bets = [] ↔ ∀ row ∈ feedRows v3Bets liveBets, fill? (betOf runtime settings) row = none := by
  obtain ⟨found, rows, same⟩ := Result.bind_eq_ok.mp read
  cases same
  rw [readRows_eq_ok rows, List.take_eq_nil_iff, ← List.filterMap_eq_nil_iff]
  have positive : clip limit ≠ 0 := by
    unfold clip
    omega
  rw [or_iff_right positive]
  constructor
  · intro sorted
    exact List.nil_perm.mp (sorted ▸ List.perm_insertionSort _ _)
  · intro none
    rw [none]
    rfl

theorem timestamp_activity (wallet : Text) (bet : Bet) :
    (bet.activity runtime wallet).get "timestamp" = .float bet.timestamp := by
  rw [Bet.activity, get_record]
  rfl

end Values

end MarketSentinel.Listing.Azuro
