import MarketSentinel.Library.Decimal
import MarketSentinel.Library.Rounding
import MarketSentinel.Venue.Preflight

/-! Orders that are signed outside and forwarded as they are.

An adapter compares the signed fields with the order that passed the shared
checks. What a venue reads in a payload is its terms.
-/

set_option autoImplicit false

namespace MarketSentinel.Venue

open Python

/-- An order that is not sent: the adapter refuses it, `MarketHTTPError` ends it, or an exception that the adapter does
not expect. -/
inductive Stopped where
  | refused (why : Refused)
  | http (message : Text)
  | raised
  deriving DecidableEq

def refuse {α : Type} (message : Text) : Except Stopped α := .error (.refused (.configuration message))

def require (holds : Prop) [Decidable holds] (message : Text) : Except Stopped Unit :=
  if holds then .ok () else refuse message

def demand {α : Type} (found : Option α) (message : Text) : Except Stopped α :=
  match found with
  | some value => .ok value
  | none => refuse message

def orRaise {α : Type} : Option α → Except Stopped α
  | some value => .ok value
  | none => .error .raised

def checked {α : Type} (result : Except Refused α) : Except Stopped α := result.mapError .refused

section Steps

variable {α : Type} {holds : Prop} [Decidable holds] {message : Text} {found : Option α} {value : α}

theorem require_eq_ok {u : Unit} : require holds message = .ok u ↔ holds := by
  unfold require
  split
  · rename_i yes
    exact ⟨fun _ => yes, fun _ => rfl⟩
  · rename_i no
    exact ⟨fun stopped => (nomatch stopped), fun yes => absurd yes no⟩

theorem demand_eq_ok : demand found message = .ok value ↔ found = some value := by
  cases found with
  | none => exact ⟨fun stopped => (nomatch stopped), fun none => (nomatch none)⟩
  | some other =>
    constructor
    · rintro ⟨⟩
      rfl
    · rintro ⟨⟩
      rfl

theorem orRaise_eq_ok : orRaise found = .ok value ↔ found = some value := by
  cases found with
  | none => exact ⟨fun stopped => (nomatch stopped), fun none => (nomatch none)⟩
  | some other =>
    constructor
    · rintro ⟨⟩
      rfl
    · rintro ⟨⟩
      rfl

theorem checked_eq_ok {result : Except Refused α} : checked result = .ok value ↔ result = .ok value := by
  cases result with
  | error why => exact ⟨fun stopped => (nomatch stopped), fun stopped => (nomatch stopped)⟩
  | ok other =>
    constructor
    · rintro ⟨⟩
      rfl
    · rintro ⟨⟩
      rfl

end Steps

def field (fields : Dict Text Json) (name : String) : Json := (fields.get? (text name)).getD .null

/-- `value in (None, "")`. -/
def blank (value : Json) : Bool := decide (value = .null ∨ value = .str [])

def asObject : Json → Option (Dict Text Json)
  | .obj fields => some fields
  | _ => none

/-- `first or second` of two fields. -/
def firstOf (fields : Dict Text Json) (name other : String) : Json :=
  if (field fields name).truthy then field fields name else field fields other

/-- `set(fields) == {..}`. -/
def hasExactly (fields : Dict Text Json) (names : List String) : Bool :=
  (fields.map Prod.fst).all (· ∈ names.map text) && (names.map text).all (· ∈ fields.map Prod.fst)

def onlyNames (fields : Dict Text Json) (names : List String) : Bool := (fields.map Prod.fst).all (· ∈ names.map text)

/-- The names outside a list, and the wanted names without a value, in the order that a message lists them. -/
def unknownNames (fields : Dict Text Json) (names : List String) : Text :=
  List.intercalate (text ", ") (((fields.map Prod.fst).filter (· ∉ names.map text)).insertionSort (· ≤ ·)) ++ text "."

def blankNames (fields : Dict Text Json) (names : List String) : Text :=
  List.intercalate (text ", ") ((names.filter fun name => blank (field fields name)).map text) ++ text "."

def isHexDigit (c : CodePoint) : Bool := isDigit c || (97 ≤ c.val && c.val ≤ 102) || (65 ≤ c.val && c.val ≤ 70)

/-- What follows `0x`. -/
def hexBody (t : Text) : Option Text := if text "0x" <+: t then some (t.drop 2) else none

def isHex (t : Text) (length : Nat) : Bool := (hexBody t).any fun body => decide (body.length = length) && body.all isHexDigit

/-- `text.isdigit()` and `int(text)`, for what `int` can read. -/
def uintOfText (t : Text) : Option Nat :=
  if t = [] then none
  else (t.mapM decimalDigit).bind fun digits => if digits.length ≤ maxIntDigits then some (Nat.ofDigits 10 digits.reverse) else none

/-- `raw.rsplit(":", 1)`. -/
def splitLast (raw : Text) : Option (Text × Text) :=
  match (split 58 raw).reverse with
  | last :: first :: rest => some (List.intercalate [58] (first :: rest).reverse, last)
  | _ => none

section Numbers

variable (runtime : Runtime)

/-- `str(value)`. -/
def str : Json → Text
  | .str value => value
  | .int value => intText value
  | .bool value => text (if value then "True" else "False")
  | .null => text "None"
  | value => runtime.spell value

/-- `str(value or "")`. -/
def strOrEmpty (value : Json) : Text := if value.truthy then str runtime value else []

/-- `Decimal(str(value))`, for finite numbers. -/
def decimalOf (value : Json) : Option ℚ := (Decimal.ofText (str runtime value)).map Decimal.value

/-- A truth value is no number on the wire. -/
def isBool : Json → Bool
  | .bool _ => true
  | _ => false

/-- `not isinstance(value, bool)` and `str(value).strip().isdigit()`. -/
def wireUint (value : Json) : Option Nat := if isBool value then none else uintOfText (strip (str runtime value))

variable {runtime} in
/-- What `int` reads, `Decimal` reads as the same number. -/
theorem decimalOf_of_wireUint {value : Json} {number : Nat} (read : wireUint runtime value = some number) :
    decimalOf runtime value = some (number : ℚ) := by
  unfold wireUint at read
  split at read
  · cases read
  · unfold uintOfText at read
    split at read
    · cases read
    · rename_i nonempty
      obtain ⟨digits, found, short⟩ := Option.bind_eq_some_iff.mp read
      split at short
      · rename_i few
        cases short
        refine Decimal.value_ofText_digits found ?_ few
        rintro rfl
        cases shape : strip (str runtime value) with
        | nil => exact nonempty shape
        | cons c rest =>
          rw [shape, List.mapM_cons] at found
          obtain ⟨_, _, found⟩ := Option.bind_eq_some_iff.mp found
          obtain ⟨_, _, found⟩ := Option.bind_eq_some_iff.mp found
          cases found
      · cases short

/-- `int(value)`, which truncates a float. -/
def intOf : Json → Except Stopped (Option Int)
  | .int value => .ok (some value)
  | .bool value => .ok (some (if value then 1 else 0))
  | .float (.finite value) => .ok (some (value.num.tdiv value.den))
  | .float (.inf _) => .error .raised
  | .str value => .ok (intOfText value)
  | _ => .ok none

/-- The arithmetic context of the runtime keeps 28 digits. -/
def inContext (q : ℚ) : ℚ := roundSignificant 28 q

/-- Integers of at most 28 digits, at any scale, are kept. -/
theorem inContext_eq_self {n e : ℤ} (short : |n| < 10 ^ 28) : inContext (n * (10 : ℚ) ^ e) = n * (10 : ℚ) ^ e :=
  roundSignificant_eq_self short

/-- At most 28 digits, at any scale. -/
def FewDigits (q : ℚ) : Prop := ∃ n e : ℤ, |n| < 10 ^ 28 ∧ q = n * (10 : ℚ) ^ e

theorem FewDigits.kept {q : ℚ} (few : FewDigits q) : inContext q = q := by
  obtain ⟨n, e, short, rfl⟩ := few
  exact inContext_eq_self short

theorem FewDigits.scale {q : ℚ} (few : FewDigits q) (places : ℤ) : FewDigits (q * (10 : ℚ) ^ places) := by
  obtain ⟨n, e, short, rfl⟩ := few
  exact ⟨n, e + places, short, by rw [zpow_add₀ (by norm_num), mul_assoc]⟩

/-- What an order asks for, or what a venue reads in a signed payload. -/
structure Terms (κ : Type) where
  contract : κ
  buys : Bool
  quantity : ℚ
  price : ℚ
  deriving DecidableEq

def buys (side : Text) : Bool := decide (runtime.casing.upper side = text "BUY")

/-- The size of an order, as the number that the float prints as. -/
def quantityOf (order : OrderRequest) : Option ℚ := decimalOf runtime (.float order.size)

def priceOf (order : OrderRequest) : Option ℚ := order.limitPrice.bind fun price => decimalOf runtime (.float price)

/-- The terms of an order for the contract that it names at the venue. -/
def Asks {κ : Type} (order : OrderRequest) (contract : κ) (terms : Terms κ) : Prop :=
  terms.contract = contract ∧ terms.buys = buys runtime order.side ∧ quantityOf runtime order = some terms.quantity ∧
    priceOf runtime order = some terms.price

end Numbers

/-- Metadata that agree on some names. -/
def SameFields (names : List String) (first second : Dict Text Json) : Prop :=
  ∀ name ∈ names, first.get? (text name) = second.get? (text name)

theorem SameFields.field {names : List String} {first second : Dict Text Json} (same : SameFields names first second)
    {name : String} (member : name ∈ names) : Venue.field first name = Venue.field second name := by
  rw [Venue.field, Venue.field, same name member]

/-- The adapters here keep the shared exposure and take both sides. -/
def signedAdapter (marketId displayName : String) : MarketAdapter where
  marketId := text marketId
  displayName := text displayName
  liveTrading := true
  liveOrderSides := ["BUY", "SELL"].map text
  liveOrderExposureModel := text "full_size_upper_bound"
  liveOrderExposure _ size limitPrice := .ok (fullSizeExposure size limitPrice)

end MarketSentinel.Venue
