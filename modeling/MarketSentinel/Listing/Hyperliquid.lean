import MarketSentinel.Listing.Records

/-! Fills of outcome contracts at Hyperliquid.

A fill is named by its transaction, or by a number where the transaction is missing.
-/

set_option autoImplicit false

namespace MarketSentinel.Listing.Hyperliquid

open Python Wallet

/-- An admitted fill; its identifier has no outer blanks. -/
structure Fill where
  outcomeId : Nat
  sideIndex : Nat
  side : Text
  size : PyFloat
  price : Option PyFloat
  fillId : Text
  timestamp : Int
  raw : Item
  solid : strip fillId = fillId
  named : fillId ≠ []

section Values

variable (runtime : Runtime)

/-- The number after the mark of an outcome coin. -/
def coinEncoding : Text → Reading Nat
  | mark :: digits =>
    if mark.val = 35 ∧ digits ≠ [] ∧ digits.all isDigit then
      if digits.length ≤ maxIntDigits then pure (digitsValue digits) else .raise
    else failure
  | [] => failure

def sideOf (written : Text) : Option Text :=
  if written = text "B" ∨ written = text "BUY" then some (text "BUY")
  else if written = text "A" ∨ written = text "S" ∨ written = text "SELL" then some (text "SELL")
  else none

/-- `_probability`: strictly between zero and one. -/
def probability (value : Json) : Except Fault (Option PyFloat) := do
  let floats := runtime.floats
  if blank value then return none
  else return (← finiteOf runtime value).filter fun price =>
    floats.lt (floats.literal 0) price && floats.lt price (floats.literal 1)

/-- `int(float(value or 0))`, and zero for what is no number. -/
def wholeSeconds (value : Json) : Except Fault Int :=
  match runtime.floats.parse (if value.truthy then value else .int 0) with
  | .error .invalid => .ok 0
  | .error .overflow => .error .raised
  | .ok number =>
    match runtime.floats.toInt number with
    | .ok whole => .ok whole
    | .error .invalid => .ok 0
    | .error .overflow => .error .raised

/-- Above ten thousand million the time counts milliseconds. -/
def timestampSeconds (value : Json) : Except Fault Int := do
  let whole ← wholeSeconds runtime value
  return if 10000000000 < whole then whole / 1000 else whole

/-- `_activity_from_fill`, up to the record. -/
def fillOf (row : Json) : Reading Fill := do
  let some fill := Feed.asItem row | failure
  let encoding ← coinEncoding (label runtime fill ["coin"])
  guard (encoding % 10 ≤ 1)
  let some side := sideOf (runtime.casing.upper (label runtime fill ["side"])) | failure
  let some size ← OptionT.lift (positiveOf runtime (fill.get "sz")) | failure
  let price ← OptionT.lift (probability runtime (fill.get "px"))
  if named : label runtime fill ["hash", "tid", "oid"] ≠ [] then
    let timestamp ← OptionT.lift (timestampSeconds runtime (firstField fill ["time", "timestamp"]))
    pure
      { outcomeId := encoding / 10, sideIndex := encoding % 10, side, size, price,
        fillId := label runtime fill ["hash", "tid", "oid"], timestamp, raw := fill,
        solid := strip_strip _, named }
  else failure

def Fill.contractId (fill : Fill) : Text :=
  text "outcome:" ++ natText fill.outcomeId ++ text ":" ++ natText fill.sideIndex

def Fill.activity (wallet : Text) (fill : Fill) : Item :=
  record [("type", .str (text "TRADE")), ("proxyWallet", .str wallet), ("wallet", .str wallet),
    ("asset", .str fill.contractId), ("contract_id", .str fill.contractId), ("marketId", .str (natText fill.outcomeId)),
    ("side", .str fill.side), ("size", .float fill.size), ("shares", .float fill.size),
    ("price", (fill.price.map Json.float).getD .null), ("timestamp", .int fill.timestamp),
    ("transactionHash", .str (text "hyperliquid-fill:" ++ fill.fillId)), ("activity_id", .str fill.fillId),
    ("slug", .str (text "outcome:" ++ natText fill.outcomeId)),
    ("outcome", .str (text (if fill.sideIndex = 0 then "YES" else "NO"))), ("raw", .obj fill.raw)]

def clip (limit : Nat) : Nat := max 1 (min (if limit = 0 then 25 else limit) 100)

theorem one_le_clip (limit : Nat) : 1 ≤ clip limit := le_max_left _ _

theorem clip_le {limit : Nat} (positive : 1 ≤ limit) : clip limit ≤ limit := by
  unfold clip
  split <;> omega

/-- The request has no limit: an answer is the newest fills that the venue still has. -/
def listActivity (wallet : Text) (limit : Nat) (respond : Nat → Json) : Except Fault Feed.Page := do
  let wallet ← requireActivityIdentity runtime wallet
  match respond (clip limit) with
  | .arr rows =>
    let fills ← gather (fillOf runtime) (clip limit) rows
    return Feed.activitySnapshot (fills.map fun fill => fill.activity wallet) (.arr rows) (clip limit) [] false
      (some true)
  | _ => .error (.configuration (text "Hyperliquid userFills returned an invalid payload."))

variable {runtime} in
theorem listActivity_eq_ok {address : Text} {limit : Nat} {respond : Nat → Json} {page : Feed.Page}
    (listed : listActivity runtime address limit respond = .ok page) : ∃ rows fills, respond (clip limit) = .arr rows ∧
      gather (fillOf runtime) (clip limit) rows = .ok fills ∧
      page = Feed.activitySnapshot (fills.map (Fill.activity (walletOf runtime address))) (.arr rows) (clip limit) []
        false (some true) := by
  obtain ⟨wallet, taken, listed⟩ := Result.bind_eq_ok.mp listed
  obtain rfl := requireActivityIdentity_eq_ok taken
  split at listed
  · rename_i rows answered
    obtain ⟨fills, read, same⟩ := Result.bind_eq_ok.mp listed
    cases same
    exact ⟨rows, fills, answered, read, rfl⟩
  · cases listed

theorem timestamp_activity (wallet : Text) (fill : Fill) :
    (fill.activity wallet).get "timestamp" = .int fill.timestamp := by
  rw [Fill.activity, get_record]
  rfl

/-- The record of a fill is known by the fill's identifier alone. -/
theorem activityKey_activity (wallet : Text) (fill : Fill) :
    activityKey runtime.toSpelling (fill.activity wallet) = text "activity-id:" ++ fill.fillId := by
  have explicit : either runtime.toSpelling (fill.activity wallet) "activityId" "activity_id" = fill.fillId := by
    have truth : (Json.str fill.fillId).truthy = true := decide_eq_true fill.named
    unfold either Fill.activity
    rw [get_record, get_record]
    change strip (if Json.null.truthy = true then _ else runtime.orEmpty (.str fill.fillId)) = fill.fillId
    rw [if_neg (by decide), Spelling.orEmpty, if_pos truth]
    exact fill.solid
  unfold activityKey
  dsimp only
  rw [explicit, if_pos fill.named]

end Values

end MarketSentinel.Listing.Hyperliquid
