import MarketSentinel.Library.Dict
import MarketSentinel.Library.Floats

/-! Readings of the public rows of positions, activity and trades.

A field may go by several names, and by any casing of them. Amounts are exact, so
a number that is read from a row is finite, infinite or not a number at all.
-/

set_option autoImplicit false

namespace MarketSentinel.Mdd

open Python

abbrev Row := Dict Text Json

structure Runtime where
  casing : Casing
  /-- `str(value)` of what is not a text. -/
  spell : Json → Text

def Runtime.str (runtime : Runtime) (value : Json) : Text :=
  match value with
  | .str value => value
  | other => runtime.spell other

def magnitude : PyFloat → PyFloat
  | .finite value => .finite |value|
  | .inf _ => .inf false
  | .nan => .nan

/-- `_safe_float(value, None)`; another default is written with `getD`. -/
def safeFloat (value : Json) : Option PyFloat :=
  if value = .null ∨ value = .str [] then none else (PyFloat.ofJson value).toOption

/-- `_safe_int(value, None)`. -/
def safeInt (value : Json) : Option Int :=
  (safeFloat value).bind fun number => (PyFloat.toInt number).toOption

def finiteNumber (value : Json) : Option ℚ :=
  match value with
  | .int value => some value
  | .float (.finite value) => some value
  | .str value =>
    match floatText value with
    | some (.finite value) => some value
    | _ => none
  | _ => none

/-- A positive whole second up to `latest`. -/
def eventTimestamp (latest : Int) (value : Json) : Option Int :=
  (finiteNumber value).bind fun number =>
    if number.den = 1 ∧ 0 < number ∧ number ≤ latest then some number.num else none

def Row.get (row : Row) (key : String) : Json := (Dict.get? row (text key)).getD .null

def Row.hasAny (row : Row) (keys : List String) : Bool := keys.any fun key => (Dict.get? row (text key)).isSome

section Lookup

variable (runtime : Runtime) (row : Row)

/-- The fields under their lower-cased names, where a later field replaces an earlier one. -/
def lowerMap : Row := row.foldl (fun fields entry => Dict.set fields (runtime.casing.lower entry.1) entry.2) []

def lookup (keys : List String) : Json :=
  match keys.findSome? fun key => Dict.get? row (text key) with
  | some value => value
  | none => (keys.findSome? fun key => Dict.get? (lowerMap runtime row) (runtime.casing.lower (text key))).getD .null

/-- `str(_lookup(row, *keys) or "").strip()`. -/
def nameAt (keys : List String) : Text :=
  let value := lookup runtime row keys
  strip (if value.truthy then runtime.str value else [])

/-! ## Positions -/

def nativePosition : List String := ["current_size", "total_size", "entry_cost_usdc", "total_cost_usdc"]

def positionTotalPnl : Option PyFloat :=
  match finiteNumber (lookup runtime row ["total_pnl", "totalPnl"]) with
  | some total => some (.finite total)
  | none =>
    if row.hasAny ["current_size", "entry_cost_usdc", "unrealized_pnl"] then
      match finiteNumber (row.get "realized_pnl"), finiteNumber (row.get "unrealized_pnl") with
      | some realized, some unrealized => some (.finite (realized + unrealized))
      | _, _ => none
    else
      let present := [safeFloat (lookup runtime row ["cashPnl", "cash_pnl"]),
        safeFloat (lookup runtime row ["realizedPnl", "realized_pnl"])].filterMap id
      if present = [] then none else some (present.foldl PyFloat.add (.finite 0))

/-- The cost with the reported fee, when there is one. -/
def withFees (value : ℚ) (source : String) (fees : Option ℚ) : Option ℚ × Text :=
  match fees with
  | some fees => (some (value + fees), text source ++ text "_with_reported_entry_fees")
  | none => (some value, text source ++ text "_fee_component_unavailable")

def product (quantity price : Option ℚ) : Option ℚ :=
  match quantity, price with
  | some quantity, some price => some (quantity * price)
  | _, _ => none

def unavailable : Option ℚ × Text := (none, text "unavailable")

/-- The capital of a row of Data API v2. -/
def nativeCapital (closed : Bool) : Option ℚ × Text :=
  if closed then
    -- The entry basis of a closed row describes what is left of it, not what was spent.
    match product (finiteNumber (row.get "total_size")) (finiteNumber (row.get "avg_price")) with
    | some capital => (some capital, text "v2_lifetime_bought_shares_times_average_price_fee_component_unverified")
    | none => unavailable
  else
    match finiteNumber (row.get "total_cost_usdc") with
    | some gross => (some gross, text "v2_total_cost_usdc")
    | none =>
      let fees := finiteNumber (row.get "entry_fees_usdc")
      match finiteNumber (row.get "entry_cost_usdc") with
      | some value => withFees value "v2_entry_cost_usdc" fees
      | none =>
        match product (finiteNumber (row.get "current_size")) (finiteNumber (row.get "avg_price")) with
        | some value => withFees value "v2_held_shares_times_average_price" fees
        | none => unavailable

def legacyCapital (closed : Bool) : Option ℚ × Text :=
  match finiteNumber (lookup runtime row ["grossInitialValue", "gross_initial_value"]) with
  | some gross => (some gross, text "gross_initial_value")
  | none =>
    let fees := finiteNumber (lookup runtime row ["entryFeesUsdc", "entry_fees_usdc"])
    match finiteNumber (lookup runtime row ["initialValue", "initial_value"]) with
    | some value => withFees value "initial_value" fees
    | none =>
      -- Closed rows describe bought shares, open rows what is left of them.
      let quantity := finiteNumber (if closed then lookup runtime row ["totalBought", "total_bought"]
        else lookup runtime row ["size"])
      match product quantity (finiteNumber (lookup runtime row ["avgPrice", "avg_price"])) with
      | some value =>
        withFees value (if closed then "bought_shares_times_average_price" else "held_shares_times_average_price") fees
      | none => unavailable

def positionCapital (closed : Bool) : Option ℚ × Text :=
  if row.hasAny nativePosition then nativeCapital row closed else legacyCapital runtime row closed

def positionCurrentValues : List ℚ :=
  row.filterMap fun entry =>
    if runtime.casing.lower entry.1 ∈ [text "currentvalue", text "current_value"] then finiteNumber entry.2 else none

/-! ## Trades -/

def tradeNotional : PyFloat :=
  match safeFloat (lookup runtime row ["usdcSize", "usdc_size", "notional", "value", "cash"]) with
  | some explicit => magnitude explicit
  | none =>
    match safeFloat (lookup runtime row ["size", "tokens"]),
      safeFloat (lookup runtime row ["price", "avgPrice", "avg_price"]) with
    | some size, some price => magnitude (PyFloat.mul size price)
    | _, _ => .finite 0

def tradeSide : Text :=
  let value := lookup runtime row ["side"]
  runtime.casing.upper (strip (if value.truthy then runtime.str value else []))

def tradeTokenId : Text :=
  nameAt runtime row ["asset", "token", "tokenId", "token_id", "assetId", "asset_id", "market"]

def tradeSize : Option PyFloat := (safeFloat (lookup runtime row ["size", "tokens", "amount"])).map magnitude

def tradePrice : Option PyFloat := safeFloat (lookup runtime row ["price", "avgPrice", "avg_price"])

/-- A transaction hash as a member of a key; numbers that are equal are one member. -/
inductive Hashed where
  | none
  | number (value : PyFloat)
  | name (value : Text)
  deriving DecidableEq

/-- Lists and objects cannot be hashed. -/
def hashed (value : Json) : Option Hashed :=
  match value with
  | .null => some .none
  | .bool value => some (.number (.finite (if value then 1 else 0)))
  | .int value => some (.number (.finite value))
  | .float value => some (.number value)
  | .str value => some (.name value)
  | .arr _ | .obj _ => none

structure TradeKey where
  transactionHash : Option Hashed
  tokenId : Text
  timestamp : Int
  side : Text
  size : Option PyFloat
  price : Option PyFloat
  deriving DecidableEq

def transactionHash : Json := lookup runtime row ["transactionHash", "transaction_hash", "txHash", "hash"]

def tradeTimestamp : Int := (safeInt (lookup runtime row ["timestamp"])).getD 0

def tradeKey : TradeKey where
  transactionHash := hashed (transactionHash runtime row)
  tokenId := tradeTokenId runtime row
  timestamp := tradeTimestamp runtime row
  side := tradeSide runtime row
  size := tradeSize runtime row
  price := tradePrice runtime row

/-- The type of a row of either feed; a row without one is a trade. -/
def rowType : Text :=
  let value := lookup runtime row ["type"]
  runtime.casing.upper (strip (if value.truthy then runtime.str value else text "TRADE"))

end Lookup

end MarketSentinel.Mdd
