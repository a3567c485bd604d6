import Mathlib.Algebra.Order.Floor.Ring
import Mathlib.Algebra.Ring.Int.Parity
import Mathlib.Tactic.Positivity
import MarketSentinel.Library.Rounding

/-! Numbers written as whole multiples of a unit.

Two ways to round differ in where a tie goes. What matters to the writer is on
which side of the number the written one lies.
-/

set_option autoImplicit false

namespace Python

/-- What becomes of a number halfway between two integers. -/
inductive Ties where
  | even
  | up
  deriving DecidableEq

/-- `ROUND_HALF_UP`, where a tie moves away from zero. -/
def halfUp (q : ℚ) : ℤ := if 0 ≤ q then ⌊q + 1 / 2⌋ else -⌊-q + 1 / 2⌋

namespace Ties

def nearest : Ties → ℚ → ℤ
  | even, q => halfEven q
  | up, q => halfUp q

/-- A number that is not rounded up. -/
def Down (ties : Ties) (q : ℚ) : Prop :=
  q - ⌊q⌋ < 1 / 2 ∨ (q - ⌊q⌋ = 1 / 2 ∧ ties = even ∧ ⌊q⌋ % 2 = 0)

/-- A number that is not rounded down. -/
def Up (ties : Ties) (q : ℚ) : Prop := q = ⌊q⌋ ∨ ¬ ties.Down q

instance (ties : Ties) (q : ℚ) : Decidable (ties.Down q) := inferInstanceAs (Decidable (_ ∨ _))

instance (ties : Ties) (q : ℚ) : Decidable (ties.Up q) := inferInstanceAs (Decidable (_ ∨ _))

section Sides

variable (ties : Ties) {q : ℚ}

theorem nearest_eq (positive : 0 ≤ q) : ties.nearest q = if ties.Down q then ⌊q⌋ else ⌊q⌋ + 1 := by
  have below := Int.floor_le q
  have above := Int.lt_floor_add_one q
  cases ties with
  | up =>
    rw [nearest, halfUp, if_pos positive]
    split_ifs with down
    · rcases down with small | ⟨_, other, _⟩
      · apply Int.floor_eq_iff.mpr
        constructor <;> linarith
      · cases other
    · have large : 1 / 2 ≤ q - ⌊q⌋ := by
        by_contra small
        exact down (.inl (not_le.mp small))
      apply Int.floor_eq_iff.mpr
      push_cast
      constructor <;> linarith
  | even =>
    rw [nearest, halfEven]
    by_cases small : q - ⌊q⌋ < 1 / 2
    · rw [if_pos small, if_pos (.inl small)]
    · by_cases large : 1 / 2 < q - ⌊q⌋
      · have not_down : ¬ even.Down q := by
          rintro (less | ⟨tie, _⟩) <;> linarith
        rw [if_neg small, if_pos large, if_neg not_down]
      · have tie : q - ⌊q⌋ = 1 / 2 := le_antisymm (not_lt.mp large) (not_lt.mp small)
        rw [if_neg small, if_neg large]
        congr 1
        simp [Down, tie]

theorem nearest_nonpos (negative : q ≤ 0) : ties.nearest q ≤ 0 := by
  have below := Int.floor_le q
  cases ties with
  | up =>
    rw [nearest, halfUp]
    split_ifs with positive
    · have zero : q = 0 := le_antisymm negative positive
      rw [zero]
      norm_num
    · have half : 0 ≤ ⌊-q + 1 / 2⌋ := Int.floor_nonneg.mpr (by linarith)
      omega
  | even =>
    have moved := (abs_le.mp (abs_halfEven_sub_le q)).2
    have small : (halfEven q : ℚ) < 1 := by linarith
    have whole : halfEven q < 1 := by exact_mod_cast small
    exact Int.lt_add_one_iff.mp whole

theorem nearest_le_iff (positive : 0 ≤ q) : (ties.nearest q : ℚ) ≤ q ↔ ties.Down q := by
  have below := Int.floor_le q
  have above := Int.lt_floor_add_one q
  rw [ties.nearest_eq positive]
  split_ifs with down
  · exact iff_of_true below down
  · apply iff_of_false _ down
    push_cast
    linarith

theorem le_nearest_iff (positive : 0 ≤ q) : q ≤ ties.nearest q ↔ ties.Up q := by
  have below := Int.floor_le q
  have above := Int.lt_floor_add_one q
  rw [ties.nearest_eq positive]
  split_ifs with down
  · constructor
    · intro least
      exact .inl (le_antisymm least below)
    · rintro (whole | up)
      · exact whole.le
      · exact absurd down up
  · apply iff_of_true _ (.inr down)
    push_cast
    linarith

theorem nearest_of_down (positive : 0 ≤ q) (down : ties.Down q) : ties.nearest q = ⌊q⌋ := by
  rw [ties.nearest_eq positive, if_pos down]

theorem nearest_of_up (positive : 0 ≤ q) (up : ties.Up q) : ties.nearest q = ⌈q⌉ := by
  have above := Int.lt_floor_add_one q
  have least := (ties.le_nearest_iff positive).mpr up
  apply le_antisymm
  · rw [ties.nearest_eq positive]
    rcases up with whole | notDown
    · have down : ties.Down q := .inl (by rw [← whole]; norm_num)
      rw [if_pos down]
      exact Int.floor_le_ceil q
    · rw [if_neg notDown]
      -- a number that is no integer has its ceiling above its floor
      apply Int.add_one_le_of_lt
      apply Int.lt_ceil.mpr
      apply lt_of_le_of_ne (Int.floor_le q)
      intro whole
      apply notDown
      left
      rw [← whole]
      norm_num
  · exact Int.ceil_le.mpr least

end Sides

/-- The multiple of one part in `scale` that is written for a number. -/
def onGrid (ties : Ties) (scale q : ℚ) : ℚ := ties.nearest (q * scale) / scale

section Grid

variable (ties : Ties) {scale q : ℚ}

theorem onGrid_le_iff (unit : 0 < scale) (positive : 0 ≤ q) : ties.onGrid scale q ≤ q ↔ ties.Down (q * scale) := by
  rw [onGrid, div_le_iff₀ unit]
  exact ties.nearest_le_iff (mul_nonneg positive unit.le)

theorem le_onGrid_iff (unit : 0 < scale) (positive : 0 ≤ q) : q ≤ ties.onGrid scale q ↔ ties.Up (q * scale) := by
  rw [onGrid, le_div_iff₀ unit]
  exact ties.le_nearest_iff (mul_nonneg positive unit.le)

theorem onGrid_pos_iff (unit : 0 < scale) : 0 < ties.onGrid scale q ↔ 0 < ties.nearest (q * scale) := by
  rw [onGrid, div_pos_iff_of_pos_right unit, Int.cast_pos]

theorem onGrid_lt_one_iff (unit : 0 < scale) : ties.onGrid scale q < 1 ↔ (ties.nearest (q * scale) : ℚ) < scale := by
  rw [onGrid, div_lt_one unit]

/-- What is written is positive and no more than the number. -/
theorem onGrid_fits_iff (unit : 0 < scale) :
    0 < ties.onGrid scale q ∧ ties.onGrid scale q ≤ q ↔ 1 ≤ q * scale ∧ ties.Down (q * scale) := by
  constructor
  · rintro ⟨some, fits⟩
    have positive : 0 ≤ q := some.le.trans fits
    have down := (ties.onGrid_le_iff unit positive).mp fits
    have written := (ties.onGrid_pos_iff unit).mp some
    rw [ties.nearest_of_down (mul_nonneg positive unit.le) down] at written
    have least : ((1 : ℤ) : ℚ) ≤ q * scale := Int.le_floor.mp written
    exact ⟨by exact_mod_cast least, down⟩
  · rintro ⟨least, down⟩
    have positive : 0 ≤ q := by
      by_contra negative
      have := mul_neg_of_neg_of_pos (not_le.mp negative) unit
      linarith
    have written : 0 < ⌊q * scale⌋ := Int.le_floor.mpr (by exact_mod_cast least)
    constructor
    · rw [ties.onGrid_pos_iff unit, ties.nearest_of_down (mul_nonneg positive unit.le) down]
      exact written
    · exact (ties.onGrid_le_iff unit positive).mpr down

/-- A number whose multiple of the unit lies below it, above zero and below one. -/
structure Below (ties : Ties) (scale q : ℚ) : Prop where
  down : ties.Down (q * scale)
  least : 1 ≤ q * scale
  most : (⌊q * scale⌋ : ℚ) < scale

/-- A number whose multiple of the unit lies above it, above zero and below one. -/
structure Above (ties : Ties) (scale q : ℚ) : Prop where
  up : ties.Up (q * scale)
  least : 0 < q
  most : (⌈q * scale⌉ : ℚ) < scale

theorem below_iff (unit : 0 < scale) :
    (0 < ties.onGrid scale q ∧ ties.onGrid scale q < 1) ∧ ties.onGrid scale q ≤ q ↔ ties.Below scale q := by
  constructor
  · rintro ⟨⟨some, one⟩, fits⟩
    obtain ⟨least, down⟩ := (ties.onGrid_fits_iff unit).mp ⟨some, fits⟩
    have most := (ties.onGrid_lt_one_iff unit).mp one
    rw [ties.nearest_of_down (zero_le_one.trans least) down] at most
    exact ⟨down, least, most⟩
  · rintro ⟨down, least, most⟩
    obtain ⟨some, fits⟩ := (ties.onGrid_fits_iff unit).mpr ⟨least, down⟩
    refine ⟨⟨some, ?_⟩, fits⟩
    rw [ties.onGrid_lt_one_iff unit, ties.nearest_of_down (zero_le_one.trans least) down]
    exact most

theorem above_iff (unit : 0 < scale) :
    (0 < ties.onGrid scale q ∧ ties.onGrid scale q < 1) ∧ q ≤ ties.onGrid scale q ↔ ties.Above scale q := by
  by_cases positive : 0 < q
  · have multiple : 0 < q * scale := mul_pos positive unit
    rw [ties.onGrid_lt_one_iff unit, ties.le_onGrid_iff unit positive.le]
    constructor
    · rintro ⟨⟨_, most⟩, up⟩
      rw [ties.nearest_of_up multiple.le up] at most
      exact ⟨up, positive, most⟩
    · rintro ⟨up, _, most⟩
      have ceiling := ties.nearest_of_up multiple.le up
      rw [ties.onGrid_pos_iff unit, ceiling]
      exact ⟨⟨Int.ceil_pos.mpr multiple, most⟩, up⟩
  · apply iff_of_false
    · rintro ⟨⟨some, _⟩, _⟩
      have written := (ties.onGrid_pos_iff unit).mp some
      have nothing := ties.nearest_nonpos (mul_nonpos_of_nonpos_of_nonneg (not_lt.mp positive) unit.le)
      omega
    · rintro ⟨_, some, _⟩
      exact positive some

end Grid

end Ties

end Python
