import MarketSentinel.Live.Trader

/-! What an audit reads out of the answers of the venue. -/

set_option autoImplicit false

namespace MarketSentinel.Live

open Python

section Identifiers

def isHexDigit (c : CodePoint) : Bool :=
  isDigit c || (97 ≤ c.val && c.val ≤ 102) || (65 ≤ c.val && c.val ≤ 70)

/-- `0x(?:[0-9a-fA-F]{40}|[0-9a-fA-F]{64})` on the whole text. -/
def isHexId : Text → Bool
  | zero :: x :: digits =>
    zero.val == 48 && x.val == 120 && (digits.length == 40 || digits.length == 64) && digits.all isHexDigit
  | _ => false

def isEvmAddressLike (value : Text) : Bool := (strip value).length == 42 && isHexId (strip value)

/-- The spelling an audit keeps: only the digits are lower-cased. -/
def lowerHex (candidate : Text) : Text := candidate.take 2 ++ (candidate.drop 2).map asciiLower

/-- Only a text can spell a hexadecimal identifier, so other values never match. -/
def hexField (payload : Dict Text Json) (field : Text) : Option Text :=
  match payload.get? field with
  | some (.str value) => if isHexId (strip value) then some (lowerHex (strip value)) else none
  | _ => none

def extractOrderId (payload : Dict Text Json) : Text := (orderIdFields.findSome? (hexField payload)).getD []

def cancelResponseContains (payload : Dict Text Json) (orderId : Text) : Bool :=
  match payload.get? (text "canceled") with
  | some (.arr canceled) => decide (orderId ≠ []) && canceled.any fun item => decide (item = .str orderId)
  | _ => false

/-- `payload.get(first) or payload.get(second)`. -/
def firstTruthy (payload : Dict Text Json) (first second : Text) : Option Json :=
  match payload.get? first with
  | some value => if value.truthy then some value else payload.get? second
  | none => payload.get? second

end Identifiers

section AfterCancellation

variable (runtime : Runtime)

def underscored (status : Text) : Text := status.map fun c => if c.val = 45 ∨ c.val = 32 then 95 else c

def orderStateIsCancelled (payload : Dict Text Json) (orderId : Text) : Bool :=
  if orderId ≠ [] ∧ extractOrderId payload ≠ orderId then false
  else
    match firstTruthy payload (text "status") (text "orderStatus") with
    | some (.str status) =>
      decide (underscored (runtime.casing.upper (strip status)) ∈
        ["CANCELED", "CANCELLED", "ORDER_STATUS_CANCELED", "ORDER_STATUS_CANCELLED"].map text)
    | _ => false

structure ZeroFill where
  verified : Bool := false
  orderIdentityMatches : Bool := false
  sizeMatchedZero : Bool := false
  associatedTradesEmpty : Bool := false
  deriving DecidableEq

/-- The nearest float of a number. -/
def rounded (value : ℚ) : PyFloat :=
  match runtime.rounding.nearest value with
  | some nearest => .finite nearest
  | none => .inf (decide (value < 0))

def PyFloat.rounded (value : PyFloat) : PyFloat :=
  match value with
  | .finite exact_ => Live.rounded runtime exact_
  | other => other

/-- `float(str(value))`, where a spelling that is no number gives nothing. -/
def floatOfSpelling : Json → Option PyFloat
  | .int value => some (rounded runtime value)
  | .float value => some value
  | .str value => (floatText value).map (PyFloat.rounded runtime)
  | _ => none

def present (payload : Dict Text Json) (fields : List String) : List Json :=
  fields.filterMap fun field => payload.get? (text field)

def orderZeroFillEvidence (payload : Dict Text Json) (orderId : Text) : ZeroFill :=
  let identityMatches := decide (orderId ≠ [] ∧ extractOrderId payload = orderId)
  match present payload ["size_matched", "sizeMatched"],
      present payload ["associate_trades", "associated_trades", "associateTrades"] with
  | [size], [trades] =>
    match floatOfSpelling runtime size with
    | none => { orderIdentityMatches := identityMatches }
    | some matched =>
      let sizeZero := decide (matched = .finite 0)
      let tradesEmpty := decide (trades = .arr [])
      { verified := identityMatches && sizeZero && tradesEmpty, orderIdentityMatches := identityMatches,
        sizeMatchedZero := sizeZero, associatedTradesEmpty := tradesEmpty }
  | _, _ => { orderIdentityMatches := identityMatches }

end AfterCancellation

end MarketSentinel.Live
