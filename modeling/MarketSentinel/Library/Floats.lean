import Mathlib.Algebra.Order.Ring.Rat
import MarketSentinel.Library.Json

/-! Floats with the operations of the runtime, and exact ones to run examples on.

Two programs that compute the same expressions agree whatever the operations do, so
the operations have no laws here except on what is not a number at all.
-/

set_option autoImplicit false

namespace Python

inductive FloatError where
  /-- `TypeError` or `ValueError`. -/
  | invalid
  | overflow
  deriving DecidableEq

structure Floats (F : Type) where
  /-- `float(value)`. -/
  parse : Json → Except FloatError F
  literal : ℚ → F
  add : F → F → F
  sub : F → F → F
  mul : F → F → F
  div : F → F → F
  lt : F → F → Bool
  le : F → F → Bool
  /-- `int(value)`. -/
  toInt : F → Except FloatError Int
  isZero : F → Bool
  parse_null : parse .null = .error .invalid
  parse_empty : parse (.str []) = .error .invalid

namespace Floats

variable {F : Type} (floats : Floats F)

/-- `max(a, b)`: the first one unless the second is larger. -/
def max (a b : F) : F := if floats.lt a b then b else a

/-- `min(a, b)`: the first one unless the second is smaller. -/
def min (a b : F) : F := if floats.lt b a then b else a

/-- `value or other`. -/
def orElse (value other : F) : F := if floats.isZero value then other else value

end Floats

namespace PyFloat

def add : PyFloat → PyFloat → PyFloat
  | .finite a, .finite b => .finite (a + b)
  | .nan, _ | _, .nan => .nan
  | .inf a, .inf b => if a = b then .inf a else .nan
  | .inf a, .finite _ | .finite _, .inf a => .inf a

def isNegative : PyFloat → Bool
  | .finite value => decide (value < 0)
  | .inf negative => negative
  | .nan => false

def mul : PyFloat → PyFloat → PyFloat
  | .finite a, .finite b => .finite (a * b)
  | .nan, _ | _, .nan => .nan
  | a, b => if a = .finite 0 ∨ b = .finite 0 then .nan else .inf (a.isNegative != b.isNegative)

/-- Division by something that is not zero. -/
def div : PyFloat → PyFloat → PyFloat
  | .finite a, .finite b => .finite (a / b)
  | .finite _, .inf _ => .finite 0
  | .inf a, .finite b => .inf (a != decide (b < 0))
  | _, _ => .nan

def ofJson : Json → Except FloatError PyFloat
  | .bool value => .ok (.finite (if value then 1 else 0))
  | .int value => .ok (.finite value)
  | .float value => .ok value
  | .str value =>
    match floatText value with
    | some value => .ok value
    | none => .error .invalid
  | _ => .error .invalid

/-- Truncation towards zero. -/
def toInt : PyFloat → Except FloatError Int
  | .finite value => .ok (value.num.tdiv value.den)
  | .inf _ => .error .overflow
  | .nan => .error .invalid

def exact : Floats PyFloat where
  parse := ofJson
  literal := .finite
  add := add
  sub a b := add a b.neg
  mul := mul
  div := div
  lt := lt
  le a b := lt a b || decide (a = b ∧ a ≠ .nan)
  toInt := toInt
  isZero value := decide (value = .finite 0)
  parse_null := rfl
  parse_empty := by decide

section Finite

variable (a b : ℚ)

@[simp] theorem exact_literal : exact.literal a = .finite a := rfl

@[simp] theorem exact_lt : exact.lt (.finite a) (.finite b) = decide (a < b) := rfl

@[simp] theorem exact_add : exact.add (.finite a) (.finite b) = .finite (a + b) := rfl

@[simp] theorem exact_sub : exact.sub (.finite a) (.finite b) = .finite (a - b) :=
  congrArg PyFloat.finite (sub_eq_add_neg a b).symm

@[simp] theorem exact_mul : exact.mul (.finite a) (.finite b) = .finite (a * b) := rfl

@[simp] theorem exact_div : exact.div (.finite a) (.finite b) = .finite (a / b) := rfl

@[simp] theorem exact_le : exact.le (.finite a) (.finite b) = decide (a ≤ b) := by
  simp [exact, PyFloat.lt, le_iff_lt_or_eq]

@[simp] theorem exact_max : exact.max (.finite a) (.finite b) = .finite (max a b) := by
  unfold Floats.max
  rw [exact_lt]
  by_cases above : a < b
  · rw [decide_eq_true above, max_eq_right above.le]
    rfl
  · rw [decide_eq_false above, max_eq_left (not_lt.mp above)]
    rfl

@[simp] theorem exact_min : exact.min (.finite a) (.finite b) = .finite (min a b) := by
  unfold Floats.min
  rw [exact_lt]
  by_cases below : b < a
  · rw [decide_eq_true below, min_eq_right below.le]
    rfl
  · rw [decide_eq_false below, min_eq_left (not_lt.mp below)]
    rfl

end Finite

end PyFloat

end Python
