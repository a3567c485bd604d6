import MarketSentinel.Library.Floats
import MarketSentinel.Library.Rounding

/-! Floats of 53 binary digits: every result is the float nearest to the exact one. -/

set_option autoImplicit false

namespace Python

/-- The distance between neighbouring floats of the size of `q`. -/
def floatUnit (q : ℚ) : ℚ := (2 : ℚ) ^ max (Int.log 2 |q| - 52) (-1074)

/-- The nearest number of 53 binary digits, however large it is. -/
def nearestBinary (q : ℚ) : ℚ := roundToUnit (floatUnit q) q

def largestFloat : ℚ := (2 ^ 53 - 1) * 2 ^ 971

def binary64 : FloatRounding where
  nearest q := if |nearestBinary q| ≤ largestFloat then some (nearestBinary q) else none

/-- A result as a float: what is too large becomes an infinity. -/
def FloatRounding.round (rounding : FloatRounding) : PyFloat → PyFloat
  | .finite q =>
    match rounding.nearest q with
    | some nearest => .finite nearest
    | none => .inf (decide (q < 0))
  | special => special

/-- `round(x, digits)` of a float: the float nearest to the decimal that is nearest to `x`. -/
def FloatRounding.roundDigits (rounding : FloatRounding) (digits : Nat) : PyFloat → PyFloat
  | .finite q => rounding.round (.finite (roundTo digits q))
  | special => special

/-- `float(value)`: an integer that is too large for a float raises `OverflowError`. -/
def PyFloat.float : Json → Except FloatError PyFloat
  | .int value =>
    match binary64.nearest value with
    | some nearest => .ok (.finite nearest)
    | none => .error .overflow
  | value => (PyFloat.ofJson value).map binary64.round

theorem floatUnit_pos (q : ℚ) : 0 < floatUnit q := zpow_pos (by norm_num) _

theorem floatUnit_neg (q : ℚ) : floatUnit (-q) = floatUnit q := by rw [floatUnit, abs_neg, floatUnit]

theorem nearestBinary_neg (q : ℚ) : nearestBinary (-q) = -nearestBinary q := by
  rw [nearestBinary, floatUnit_neg, roundToUnit_neg, nearestBinary]

theorem nearestBinary_zero : nearestBinary 0 = 0 := roundToUnit_zero (floatUnit_pos 0)

/-- The error is half a unit of the last binary digit, and tiny below the normal numbers. -/
theorem abs_nearestBinary_sub_le (q : ℚ) : |nearestBinary q - q| ≤ |q| * 2 ^ (-53 : ℤ) + 2 ^ (-1075 : ℤ) := by
  have tiny : (0 : ℚ) < 2 ^ (-1075 : ℤ) := zpow_pos (by norm_num) _
  by_cases zero : q = 0
  · rw [zero, nearestBinary_zero, sub_zero, abs_zero, zero_mul, zero_add]
    exact tiny.le
  refine (abs_roundToUnit_sub_le (floatUnit_pos q) q).trans ?_
  -- the unit belongs to the size of the number, or is the least there is
  rcases max_choice (Int.log 2 |q| - 52) (-1074) with normal | subnormal
  · have below : (2 : ℚ) ^ Int.log 2 |q| ≤ |q| := by
      exact_mod_cast Int.zpow_log_le_self (b := 2) (by norm_num) (abs_pos.mpr zero)
    have unit : floatUnit q / 2 = (2 : ℚ) ^ Int.log 2 |q| * 2 ^ (-53 : ℤ) := by
      rw [floatUnit, normal, sub_eq_add_neg, zpow_add₀ (by norm_num)]
      norm_num
      ring
    calc floatUnit q / 2 ≤ |q| * 2 ^ (-53 : ℤ) := by
          rw [unit]
          gcongr
      _ ≤ |q| * 2 ^ (-53 : ℤ) + 2 ^ (-1075 : ℤ) := le_add_of_nonneg_right tiny.le
  · have unit : floatUnit q / 2 = 2 ^ (-1075 : ℤ) := by
      rw [floatUnit, subnormal, div_eq_mul_inv, ← zpow_sub_one₀ (by norm_num)]
      norm_num
    rw [unit]
    exact le_add_of_nonneg_left (by positivity)

section Monotone

variable {a b : ℚ}

/-- A power of two is kept by every unit that divides it. -/
theorem roundToUnit_zpow {e k : ℤ} (divides : e ≤ k) : roundToUnit ((2 : ℚ) ^ e) ((2 : ℚ) ^ k) = (2 : ℚ) ^ k := by
  obtain ⟨n, rfl⟩ := Int.le.dest divides
  have multiple : (2 : ℚ) ^ (e + n) = ((2 ^ n : ℤ) : ℚ) * (2 : ℚ) ^ e := by
    rw [zpow_add₀ (by norm_num), zpow_natCast, mul_comm]
    push_cast
    rfl
  rw [multiple, roundToUnit_mul (zpow_pos (by norm_num) _)]

/-- Where the unit grows, a power of two stands between the two numbers. -/
theorem nearestBinary_mono_of_pos (positive : 0 < a) (le : a ≤ b) : nearestBinary a ≤ nearestBinary b := by
  have logs : Int.log 2 a ≤ Int.log 2 b := Int.log_mono_right positive le
  have above : a ≤ (2 : ℚ) ^ (Int.log 2 a + 1) := by
    exact_mod_cast (Int.lt_zpow_succ_log_self (b := 2) (by norm_num) a).le
  have below : (2 : ℚ) ^ Int.log 2 b ≤ b := by
    exact_mod_cast Int.zpow_log_le_self (b := 2) (by norm_num) (positive.trans_le le)
  unfold nearestBinary floatUnit
  rw [abs_of_pos positive, abs_of_pos (positive.trans_le le)]
  by_cases same : max (Int.log 2 a - 52) (-1074) = max (Int.log 2 b - 52) (-1074)
  · rw [same]
    exact roundToUnit_mono (zpow_pos (by norm_num) _) le
  have between : a ≤ (2 : ℚ) ^ Int.log 2 b := above.trans (zpow_le_zpow_right₀ (by norm_num) (by omega))
  calc roundToUnit ((2 : ℚ) ^ max (Int.log 2 a - 52) (-1074)) a
      ≤ roundToUnit ((2 : ℚ) ^ max (Int.log 2 a - 52) (-1074)) ((2 : ℚ) ^ Int.log 2 b) :=
        roundToUnit_mono (zpow_pos (by norm_num) _) between
    _ = (2 : ℚ) ^ Int.log 2 b := roundToUnit_zpow (by omega)
    _ = roundToUnit ((2 : ℚ) ^ max (Int.log 2 b - 52) (-1074)) ((2 : ℚ) ^ Int.log 2 b) :=
        (roundToUnit_zpow (by omega)).symm
    _ ≤ roundToUnit ((2 : ℚ) ^ max (Int.log 2 b - 52) (-1074)) b := roundToUnit_mono (zpow_pos (by norm_num) _) below

theorem nearestBinary_nonneg (nonneg : 0 ≤ a) : 0 ≤ nearestBinary a := by
  have unit := floatUnit_pos a
  calc 0 = roundToUnit (floatUnit a) 0 := (roundToUnit_zero unit).symm
    _ ≤ nearestBinary a := roundToUnit_mono unit nonneg

theorem nearestBinary_mono (le : a ≤ b) : nearestBinary a ≤ nearestBinary b := by
  rcases lt_trichotomy a 0 with negative | rfl | positive
  · by_cases below : b < 0
    -- rounding is odd, so two negative numbers are two positive ones in a mirror
    · have mirrored := nearestBinary_mono_of_pos (neg_pos.mpr below) (neg_le_neg le)
      rw [nearestBinary_neg, nearestBinary_neg] at mirrored
      exact neg_le_neg_iff.mp mirrored
    · have upper := nearestBinary_nonneg (not_lt.mp below)
      have lower := nearestBinary_nonneg (neg_pos.mpr negative).le
      rw [nearestBinary_neg] at lower
      linarith
  · rw [nearestBinary_zero]
    exact nearestBinary_nonneg le
  · exact nearestBinary_mono_of_pos positive le

end Monotone

section Range

theorem nearestBinary_largest : nearestBinary largestFloat = largestFloat := by decide +kernel

/-- A number in the range of the floats is rounded to a float. -/
theorem binary64_round {q : ℚ} (range : |q| ≤ largestFloat) : binary64.round (.finite q) = .finite (nearestBinary q) := by
  obtain ⟨lower, upper⟩ := abs_le.mp range
  have within : |nearestBinary q| ≤ largestFloat := by
    rw [abs_le, ← nearestBinary_largest, ← nearestBinary_neg]
    exact ⟨nearestBinary_mono lower, nearestBinary_mono upper⟩
  simp only [FloatRounding.round, binary64]
  rw [if_pos within]

/-- From `2 ^ 52` on, floats have no fractional part. -/
theorem nearestBinary_whole {q : ℚ} (large : 2 ^ 52 ≤ |q|) : ∃ n : ℤ, nearestBinary q = n := by
  have exponent : 52 ≤ Int.log 2 |q| := by
    rw [← Int.zpow_le_iff_le_log (b := 2) (by norm_num) (lt_of_lt_of_le (by norm_num) large)]
    exact_mod_cast large
  obtain ⟨k, shift⟩ := Int.le.dest exponent
  have unit : floatUnit q = ((2 ^ k : ℤ) : ℚ) := by
    rw [floatUnit, max_eq_left (by omega), ← shift, add_sub_cancel_left, zpow_natCast]
    push_cast
    rfl
  refine ⟨halfEven (q / floatUnit q) * 2 ^ k, ?_⟩
  rw [nearestBinary, roundToUnit, unit]
  push_cast
  rfl

/-- Rounding a float to decimals stays in the range: where it could leave it, floats are integers. -/
theorem binary64_roundDigits {q : ℚ} (range : |nearestBinary q| ≤ largestFloat) (digits : Nat) :
    binary64.roundDigits digits (.finite (nearestBinary q)) = .finite (nearestBinary (roundTo digits (nearestBinary q))) := by
  apply binary64_round
  rcases le_or_gt (2 ^ 52) |q| with large | small
  · obtain ⟨n, whole⟩ := nearestBinary_whole large
    have kept : roundTo digits (nearestBinary q) = nearestBinary q := by
      apply roundTo_eq_self (n := n * 10 ^ digits)
      rw [whole]
      push_cast
      rfl
    rwa [kept]
  -- below 2 ^ 52 both roundings together move the number by little
  · have relative : |q| * (2 : ℚ) ^ (-53 : ℤ) ≤ |q| :=
      mul_le_of_le_one_right (abs_nonneg q) (zpow_le_one_of_nonpos₀ (by norm_num) (by norm_num))
    have tiny : (2 : ℚ) ^ (-1075 : ℤ) ≤ 1 := zpow_le_one_of_nonpos₀ (by norm_num) (by norm_num)
    have half := half_unit_le digits
    have first := abs_sub_abs_le_abs_sub (nearestBinary q) q
    have second := abs_sub_abs_le_abs_sub (roundTo digits (nearestBinary q)) (nearestBinary q)
    have error := abs_nearestBinary_sub_le q
    have moved := abs_roundTo_sub_le digits (nearestBinary q)
    calc |roundTo digits (nearestBinary q)| ≤ 2 * 2 ^ 52 + 2 := by linarith
      _ ≤ largestFloat := by decide +kernel

end Range

/-- Float operations, as a rounding of the exact results. -/
structure Arithmetic where
  round : ℚ → ℚ
  monotone : Monotone round
  one : round 1 = 1

def binaryArithmetic : Arithmetic where
  round := nearestBinary
  monotone _ _ := nearestBinary_mono
  one := by decide +kernel

/-- A result below a float was below it before it was rounded. -/
theorem Arithmetic.lt_of_round_lt (arithmetic : Arithmetic) {result bound : ℚ} (float : arithmetic.round bound = bound)
    (below : arithmetic.round result < bound) : result < bound := by
  by_contra above
  have rounded := arithmetic.monotone (not_lt.mp above)
  rw [float] at rounded
  exact absurd below (not_lt.mpr rounded)

end Python
