import Mathlib.Algebra.Order.Ring.Rat
import MarketSentinel.Library.Dict
import MarketSentinel.Library.Json
import MarketSentinel.Library.Result

/-! Checked fields of a configuration document. -/

set_option autoImplicit false

namespace MarketSentinel.Config

open Python

/-- `float(value)` of a number or a text; an integer that is too large has none. -/
def floatOf (rounding : FloatRounding) : Json → Option PyFloat
  | .int value => (rounding.nearest value).map .finite
  | .float value => some value
  | .str t => (floatText t).map fun value =>
    match value with
    | .finite exact_ =>
      match rounding.nearest exact_ with
      | some nearest => .finite nearest
      | none => .inf (decide (exact_ < 0))
    | special => special
  | _ => none

def quoted (before key after : String) : Text := text before ++ text key ++ text after

/-- A finite number between its bounds. -/
def configNumber (rounding : FloatRounding) (value : Json) (key : String) (minimum : ℚ) (maximum : Option ℚ)
    (positive : Bool) : Except Text ℚ :=
  match floatOf rounding value with
  | none => .error (quoted "Configuration field '" key "' must be a finite number.")
  | some (.finite number) =>
    if number < minimum ∨ (maximum.any fun maximum => decide (maximum < number)) = true ∨
        (positive = true ∧ number ≤ 0) then
      .error (quoted "Configuration field '" key "' is outside its supported range.")
    else .ok number
  | some _ => .error (quoted "Configuration field '" key "' is outside its supported range.")

def probability (rounding : FloatRounding) (value : Json) (key : String) : Except Text ℚ :=
  configNumber rounding value key 0 (some 1) false

/-- A price is a probability; an absent or blank one is unavailable. -/
def alertProbability (rounding : FloatRounding) (value : Json) (key : String) : Except Text (Option ℚ) :=
  if value = .null ∨ value = .str [] then .ok none else (probability rounding value key).map some

variable {rounding : FloatRounding}

end MarketSentinel.Config
