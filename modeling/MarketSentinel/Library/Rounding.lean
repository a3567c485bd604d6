import Mathlib.Algebra.Order.Floor.Defs
import Mathlib.Algebra.Order.Ring.Abs
import Mathlib.Data.Int.Log
import Mathlib.Data.Rat.Floor
import Mathlib.Tactic.FieldSimp
import Mathlib.Tactic.Linarith
import Mathlib.Tactic.NormNum

/-! Rounding to the multiples of a unit and to decimal digits, ties to the even one. -/

set_option autoImplicit false

namespace Python

/-- The nearest integer; of two equally near ones the even one. -/
def halfEven (q : ℚ) : ℤ :=
  if q - ⌊q⌋ < 1 / 2 then ⌊q⌋
  else if 1 / 2 < q - ⌊q⌋ then ⌊q⌋ + 1
  else if ⌊q⌋ % 2 = 0 then ⌊q⌋
  else ⌊q⌋ + 1

/-- `round(q, digits)`. -/
def roundTo (digits : Nat) (q : ℚ) : ℚ := halfEven (q * 10 ^ digits) / 10 ^ digits

/-- The nearest multiple of a unit. -/
def roundToUnit (unit q : ℚ) : ℚ := halfEven (q / unit) * unit

section HalfEven

theorem abs_halfEven_sub_le (q : ℚ) : |halfEven q - q| ≤ 1 / 2 := by
  have below := Int.floor_le q
  have above := Int.lt_floor_add_one q
  unfold halfEven
  split_ifs <;> rw [abs_le] <;> constructor <;> push_cast <;> linarith

theorem halfEven_intCast (n : ℤ) : halfEven n = n := by
  unfold halfEven
  rw [Int.floor_intCast, sub_self, if_pos (by norm_num)]

theorem floor_le_halfEven (q : ℚ) : ⌊q⌋ ≤ halfEven q := by
  unfold halfEven
  split_ifs <;> omega

theorem halfEven_le_floor_add_one (q : ℚ) : halfEven q ≤ ⌊q⌋ + 1 := by
  unfold halfEven
  split_ifs <;> omega

theorem halfEven_mono {a b : ℚ} (le : a ≤ b) : halfEven a ≤ halfEven b := by
  rcases (Int.floor_mono le).lt_or_eq with apart | same
  · calc halfEven a ≤ ⌊a⌋ + 1 := halfEven_le_floor_add_one a
      _ ≤ ⌊b⌋ := apart
      _ ≤ halfEven b := floor_le_halfEven b
  -- between the same two integers the fractions decide
  · unfold halfEven
    rw [same]
    split_ifs <;> first | omega | (exfalso; linarith)

theorem halfEven_neg (q : ℚ) : halfEven (-q) = -halfEven q := by
  by_cases whole : (⌊q⌋ : ℚ) = q
  · rw [← whole, ← Int.cast_neg, halfEven_intCast, halfEven_intCast]
  have below : (⌊q⌋ : ℚ) < q := lt_of_le_of_ne (Int.floor_le q) whole
  have above := Int.lt_floor_add_one q
  have floor : ⌊-q⌋ = -⌊q⌋ - 1 := by
    rw [Int.floor_eq_iff]
    push_cast
    constructor <;> linarith
  unfold halfEven
  rw [floor]
  push_cast
  split_ifs <;> first | omega | (exfalso; linarith)

end HalfEven

section Units

variable {unit : ℚ}

theorem abs_roundToUnit_sub_le (positive : 0 < unit) (q : ℚ) : |roundToUnit unit q - q| ≤ unit / 2 := by
  have moved : roundToUnit unit q - q = (halfEven (q / unit) - q / unit) * unit := by
    rw [roundToUnit, sub_mul, div_mul_cancel₀ _ positive.ne']
  calc |roundToUnit unit q - q| = |(halfEven (q / unit) : ℚ) - q / unit| * unit := by
        rw [moved, abs_mul, abs_of_pos positive]
    _ ≤ 1 / 2 * unit := by
        gcongr
        exact abs_halfEven_sub_le _
    _ = unit / 2 := by ring

/-- A multiple of the unit is kept. -/
theorem roundToUnit_mul (positive : 0 < unit) (n : ℤ) : roundToUnit unit (n * unit) = n * unit := by
  rw [roundToUnit, mul_div_cancel_right₀ _ positive.ne', halfEven_intCast]

theorem roundToUnit_zero (positive : 0 < unit) : roundToUnit unit 0 = 0 := by
  have kept := roundToUnit_mul positive 0
  rwa [Int.cast_zero, zero_mul] at kept

theorem roundToUnit_mono (positive : 0 < unit) {a b : ℚ} (le : a ≤ b) : roundToUnit unit a ≤ roundToUnit unit b := by
  have quotient : a / unit ≤ b / unit := by gcongr
  exact mul_le_mul_of_nonneg_right (by exact_mod_cast halfEven_mono quotient) positive.le

theorem roundToUnit_neg (unit q : ℚ) : roundToUnit unit (-q) = -roundToUnit unit q := by
  rw [roundToUnit, neg_div, halfEven_neg, Int.cast_neg, neg_mul, roundToUnit]

end Units

/-- Rounding moves a number by half a unit of the last digit at most. -/
theorem abs_roundTo_sub_le (digits : Nat) (q : ℚ) : |roundTo digits q - q| ≤ 1 / (2 * 10 ^ digits) := by
  have unit : (0 : ℚ) < 10 ^ digits := by positivity
  have moved : roundTo digits q - q = (halfEven (q * 10 ^ digits) - q * 10 ^ digits) / 10 ^ digits := by
    unfold roundTo
    field_simp
  calc |roundTo digits q - q| = |(halfEven (q * 10 ^ digits) : ℚ) - q * 10 ^ digits| / 10 ^ digits := by
        rw [moved, abs_div, abs_of_pos unit]
    _ ≤ 1 / 2 / 10 ^ digits := by
        gcongr
        exact abs_halfEven_sub_le _
    _ = 1 / (2 * 10 ^ digits) := by rw [div_div]

/-- Half a unit of a decimal digit. -/
theorem half_unit_le (digits : Nat) : 1 / (2 * 10 ^ digits) ≤ (1 : ℚ) / 2 := by
  have power : (1 : ℚ) ≤ 10 ^ digits := one_le_pow₀ (by norm_num)
  gcongr
  linarith

theorem roundTo_nonneg (digits : Nat) {q : ℚ} (nonneg : 0 ≤ q) : 0 ≤ roundTo digits q := by
  have below := halfEven_mono (mul_nonneg nonneg (by positivity : (0 : ℚ) ≤ 10 ^ digits))
  rw [← Int.cast_zero, halfEven_intCast] at below
  exact div_nonneg (by exact_mod_cast below) (by positivity)

/-- One unit of the last of `digits` significant digits. -/
def lastUnit (digits : Nat) (q : ℚ) : ℚ := (10 : ℚ) ^ (Int.log 10 |q| + 1 - digits)

/-- A number with at most `digits` significant digits, the nearest to `q`. -/
def roundSignificant (digits : Nat) (q : ℚ) : ℚ := if q = 0 then 0 else roundToUnit (lastUnit digits q) q

/-- A number with few enough decimals is kept. -/
theorem roundTo_eq_self {digits : Nat} {q : ℚ} {n : ℤ} (short : q * 10 ^ digits = n) : roundTo digits q = q := by
  have unit : (10 : ℚ) ^ digits ≠ 0 := by positivity
  rw [roundTo, short, halfEven_intCast, ← short, mul_div_cancel_right₀ q unit]

theorem lastUnit_pos (digits : Nat) (q : ℚ) : 0 < lastUnit digits q := zpow_pos (by norm_num) _

/-- A number that has few enough digits is kept. -/
theorem roundSignificant_eq_self {digits : Nat} {n : ℤ} {e : ℤ} (short : |n| < 10 ^ digits) :
    roundSignificant digits (n * (10 : ℚ) ^ e) = n * (10 : ℚ) ^ e := by
  unfold roundSignificant
  split_ifs with zero
  · exact zero.symm
  -- the last unit divides a power of ten that is no smaller
  have power : (0 : ℚ) < (10 : ℚ) ^ e := zpow_pos (by norm_num) _
  have size : |(n : ℚ) * (10 : ℚ) ^ e| < (10 : ℚ) ^ ((digits : ℤ) + e) := by
    rw [abs_mul, abs_of_pos power, zpow_add₀ (by norm_num), zpow_natCast]
    gcongr
    exact_mod_cast short
  have positive : 0 < |(n : ℚ) * (10 : ℚ) ^ e| := abs_pos.mpr zero
  have below : (10 : ℚ) ^ Int.log 10 |(n : ℚ) * (10 : ℚ) ^ e| ≤ |(n : ℚ) * (10 : ℚ) ^ e| := by
    exact_mod_cast Int.zpow_log_le_self (b := 10) (by norm_num) positive
  have places : Int.log 10 |(n : ℚ) * (10 : ℚ) ^ e| < (digits : ℤ) + e :=
    (zpow_lt_zpow_iff_right₀ (by norm_num : (1 : ℚ) < 10)).mp (below.trans_lt size)
  obtain ⟨k, gap⟩ := Int.le.dest (Int.lt_add_one_iff.mp (by omega : Int.log 10 |(n : ℚ) * (10 : ℚ) ^ e| + 1 - digits < e + 1))
  have unit : (10 : ℚ) ^ e = (10 : ℚ) ^ k * lastUnit digits (n * (10 : ℚ) ^ e) := by
    calc (10 : ℚ) ^ e = (10 : ℚ) ^ (Int.log 10 |(n : ℚ) * (10 : ℚ) ^ e| + 1 - digits + (k : ℤ)) := by rw [gap]
      _ = (10 : ℚ) ^ k * lastUnit digits (n * (10 : ℚ) ^ e) := by
        rw [zpow_add₀ (by norm_num), zpow_natCast, mul_comm]
        rfl
  have whole : (n : ℚ) * (10 : ℚ) ^ e = ((n * 10 ^ k : ℤ) : ℚ) * lastUnit digits (n * (10 : ℚ) ^ e) := by
    push_cast
    rw [mul_assoc, ← unit]
  have kept := roundToUnit_mul (lastUnit_pos digits (n * (10 : ℚ) ^ e)) (n * 10 ^ k)
  rwa [← whole] at kept

/-- Rounding to significant digits has a bounded relative error. -/
theorem abs_roundSignificant_sub_le (digits : Nat) (q : ℚ) :
    |roundSignificant digits q - q| ≤ |q| * (10 : ℚ) ^ (1 - (digits : ℤ)) / 2 := by
  unfold roundSignificant
  split_ifs with zero
  · simp [zero]
  have unit := lastUnit_pos digits q
  have below : (10 : ℚ) ^ Int.log 10 |q| ≤ |q| := by
    exact_mod_cast Int.zpow_log_le_self (b := 10) (by norm_num) (abs_pos.mpr zero)
  have small : lastUnit digits q ≤ |q| * (10 : ℚ) ^ (1 - (digits : ℤ)) := by
    rw [lastUnit, add_sub_assoc, zpow_add₀ (by norm_num)]
    exact mul_le_mul_of_nonneg_right below (zpow_pos (by norm_num) _).le
  calc |roundToUnit (lastUnit digits q) q - q| ≤ lastUnit digits q / 2 := abs_roundToUnit_sub_le unit q
    _ ≤ |q| * (10 : ℚ) ^ (1 - (digits : ℤ)) / 2 := by linarith

end Python
