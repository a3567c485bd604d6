import Mathlib.Algebra.Order.Field.Basic
import Mathlib.Algebra.BigOperators.Group.List.Basic
import Mathlib.Tactic.FieldSimp
import Mathlib.Tactic.Linarith
import Mathlib.Tactic.Ring

/-! Average-cost positions over an ordered field.

A position carries the average price exactly while it is open. Fills are signed:
a sell has a negative quantity, and a short position has a negative size.
-/

set_option autoImplicit false

namespace AverageCost

variable {α : Type*} [Field α]

/-- One execution; a sell carries a negative quantity. -/
structure Fill (α : Type*) where
  quantity : α
  price : α
  deriving DecidableEq

structure Position (α : Type*) [Zero α] where
  size : α
  average : Option α
  realized : α
  known : average.isSome ↔ size ≠ 0

def Position.flat : Position α := ⟨0, none, 0, by simp⟩

/-- The cost of the open quantity; it is zero when the position is flat. -/
def Position.basis (p : Position α) : α := p.size * p.average.getD 0

theorem Position.average_eq_none (p : Position α) (flat : p.size = 0) : p.average = none := by
  cases known : p.average with
  | none => rfl
  | some average => exact absurd flat (p.known.mp (by simp [known]))

variable [LinearOrder α]

/-- A fill on the other side that is larger than the open quantity. -/
def Flips (size quantity : α) : Prop := size * quantity < 0 ∧ |size| < |quantity|

instance (size quantity : α) : Decidable (Flips size quantity) := by
  unfold Flips; infer_instance

/-- The profit a fill closes; only a fill on the other side closes anything. -/
def gain (p : Position α) (f : Fill α) : α :=
  if p.size * f.quantity < 0 then
    min |p.size| |f.quantity| * (f.price - p.average.getD 0) * (if 0 < p.size then 1 else -1)
  else 0

def nextAverage (p : Position α) (f : Fill α) : Option α :=
  if p.size + f.quantity = 0 then none
  else if p.size = 0 ∨ Flips p.size f.quantity then some f.price
  else if 0 < p.size * f.quantity then
    some ((|p.size| * p.average.getD 0 + |f.quantity| * f.price) / |p.size + f.quantity|)
  else p.average

theorem nextAverage_known (p : Position α) (f : Fill α) :
    (nextAverage p f).isSome ↔ p.size + f.quantity ≠ 0 := by
  unfold nextAverage
  by_cases closed : p.size + f.quantity = 0
  · simp [closed]
  · rw [if_neg closed]
    by_cases fresh : p.size = 0 ∨ Flips p.size f.quantity
    · simp [fresh, closed]
    · rw [if_neg fresh]
      split
      · simp [closed]
      · simp only [closed, ne_eq, not_false_eq_true, iff_true]
        exact p.known.mpr fun flat => fresh (Or.inl flat)

/-- Opening, adding, reducing, closing and flipping are one operation. -/
def Position.apply (p : Position α) (f : Fill α) : Position α where
  size := p.size + f.quantity
  average := nextAverage p f
  realized := p.realized + gain p f
  known := nextAverage_known p f

def Position.run (p : Position α) (fills : List (Fill α)) : Position α :=
  fills.foldl Position.apply p

@[simp] theorem Position.run_nil (p : Position α) : p.run [] = p := rfl

@[simp] theorem Position.run_cons (p : Position α) (f : Fill α) (rest : List (Fill α)) :
    p.run (f :: rest) = (p.apply f).run rest := rfl

theorem Position.run_append (p : Position α) (first second : List (Fill α)) :
    p.run (first ++ second) = (p.run first).run second :=
  List.foldl_append

/-! ## Conservation -/

/-- The signed cost of a list of fills. -/
def cost (fills : List (Fill α)) : α := (fills.map fun f => f.quantity * f.price).sum

def quantity (fills : List (Fill α)) : α := (fills.map fun f => f.quantity).sum

theorem run_size (p : Position α) (fills : List (Fill α)) :
    (p.run fills).size = p.size + quantity fills := by
  induction fills generalizing p with
  | nil => simp [quantity]
  | cons f rest ih =>
    rw [Position.run_cons, ih, quantity, quantity, List.map_cons, List.sum_cons]
    exact add_assoc _ _ _

section Ordered

variable [IsStrictOrderedRing α]

private theorem add_basis (size quantity a price : α) (same : 0 < size * quantity) :
    (size + quantity) * ((|size| * a + |quantity| * price) / |size + quantity|) =
      size * a + quantity * price := by
  rcases pos_and_pos_or_neg_and_neg_of_mul_pos same with ⟨long, buy⟩ | ⟨short, sell⟩
  · have opened : size + quantity ≠ 0 := (add_pos long buy).ne'
    rw [abs_of_pos long, abs_of_pos buy, abs_of_pos (add_pos long buy)]
    field_simp
  · have opened : size + quantity ≠ 0 := (add_neg short sell).ne
    rw [abs_of_neg short, abs_of_neg sell, abs_of_neg (add_neg short sell)]
    field_simp
    ring

/-- What a fill on the other side realizes, in terms of the quantity it closes. -/
private theorem gain_reduce (size quantity spread : α) (opposed : size * quantity < 0)
    (within : ¬|size| < |quantity|) :
    min |size| |quantity| * spread * (if 0 < size then 1 else -1) = -(quantity * spread) := by
  rw [min_eq_right (not_lt.mp within)]
  rcases mul_neg_iff.mp opposed with ⟨long, sell⟩ | ⟨short, buy⟩
  · rw [abs_of_neg sell, if_pos long]; ring
  · rw [abs_of_pos buy, if_neg short.not_gt]; ring

private theorem gain_flip (size quantity spread : α) (opposed : size * quantity < 0)
    (beyond : |size| < |quantity|) :
    min |size| |quantity| * spread * (if 0 < size then 1 else -1) = size * spread := by
  rw [min_eq_left beyond.le]
  rcases mul_neg_iff.mp opposed with ⟨long, _⟩ | ⟨short, _⟩
  · rw [abs_of_pos long, if_pos long]; ring
  · rw [abs_of_neg short, if_neg short.not_gt]; ring

/-- A fill moves its own cost from the basis to the realized profit, and nothing else. -/
theorem apply_balance (p : Position α) (f : Fill α) :
    (p.apply f).realized - (p.apply f).basis = p.realized - p.basis - f.quantity * f.price := by
  have total : (p.apply f).realized - (p.apply f).basis =
      p.realized + gain p f - (p.size + f.quantity) * (nextAverage p f).getD 0 := rfl
  rw [total, Position.basis]
  unfold gain nextAverage
  rcases lt_trichotomy (p.size * f.quantity) 0 with opposed | flat | same
  · rw [if_pos opposed]
    by_cases beyond : |p.size| < |f.quantity|
    · have opened : p.size + f.quantity ≠ 0 := by
        intro closed
        rw [eq_neg_of_add_eq_zero_left closed, abs_neg] at beyond
        exact lt_irrefl _ beyond
      rw [gain_flip _ _ _ opposed beyond, if_neg opened, if_pos (Or.inr ⟨opposed, beyond⟩)]
      simp only [Option.getD_some]
      ring
    · rw [gain_reduce _ _ _ opposed beyond]
      by_cases closed : p.size + f.quantity = 0
      · rw [if_pos closed, closed, eq_neg_of_add_eq_zero_left closed]
        ring
      · have open_ : p.size ≠ 0 := left_ne_zero_of_mul opposed.ne
        rw [if_neg closed, if_neg (by simp [open_, Flips, beyond]), if_neg opposed.not_gt]
        ring
  · rw [if_neg flat.not_lt]
    rcases mul_eq_zero.mp flat with empty | none
    · by_cases closed : p.size + f.quantity = 0
      · have nothing : f.quantity = 0 := by simpa [empty] using closed
        simp [empty, nothing]
      · rw [if_neg closed, if_pos (Or.inl empty), empty, Option.getD_some]
        ring
    · by_cases closed : p.size + f.quantity = 0
      · have empty : p.size = 0 := by simpa [none] using closed
        simp [empty, none]
      · have open_ : p.size ≠ 0 := by simpa [none] using closed
        simp [open_, none, Flips]
  · have opened : p.size + f.quantity ≠ 0 := by
      rcases pos_and_pos_or_neg_and_neg_of_mul_pos same with ⟨long, buy⟩ | ⟨short, sell⟩
      · exact (add_pos long buy).ne'
      · exact (add_neg short sell).ne
    have open_ : p.size ≠ 0 := left_ne_zero_of_mul same.ne'
    rw [if_neg same.not_gt, if_neg opened, if_neg (by simp [open_, Flips, same.not_gt]), if_pos same]
    rw [Option.getD_some, add_basis _ _ _ _ same]
    ring

theorem run_balance (p : Position α) (fills : List (Fill α)) :
    (p.run fills).realized - (p.run fills).basis = p.realized - p.basis - cost fills := by
  induction fills generalizing p with
  | nil => simp [cost]
  | cons f rest ih =>
    rw [Position.run_cons, ih, apply_balance, cost, cost, List.map_cons, List.sum_cons]
    ring

end Ordered

/-! ## The average stays among the prices of the episode -/

/-- The fills since the position was last opened or flipped. -/
def episode (size : α) (since : List (Fill α)) : List (Fill α) → List (Fill α)
  | [] => since
  | f :: rest =>
    episode (size + f.quantity) (if size = 0 ∨ Flips size f.quantity then [f] else since ++ [f]) rest

/-- A value between the lowest and the highest price of the fills. -/
def Among (fills : List (Fill α)) (value : α) : Prop :=
  (∃ low ∈ fills, low.price ≤ value) ∧ ∃ high ∈ fills, value ≤ high.price

omit [Field α] in
theorem Among.append {fills : List (Fill α)} {value : α} (among : Among fills value) (f : Fill α) :
    Among (fills ++ [f]) value := by
  obtain ⟨⟨low, lowIn, below⟩, high, highIn, above⟩ := among
  exact ⟨⟨low, List.mem_append_left _ lowIn, below⟩, high, List.mem_append_left _ highIn, above⟩

variable [IsStrictOrderedRing α]

/-- A weighted average lies between its two values. -/
private theorem weighted_between (w v a b : α) (hw : 0 < w) (hv : 0 < v) :
    min a b ≤ (w * a + v * b) / (w + v) ∧ (w * a + v * b) / (w + v) ≤ max a b := by
  have positive : 0 < w + v := add_pos hw hv
  constructor
  · rw [le_div_iff₀ positive]
    nlinarith [min_le_left a b, min_le_right a b]
  · rw [div_le_iff₀ positive]
    nlinarith [le_max_left a b, le_max_right a b]

private theorem abs_add_of_same (size quantity : α) (same : 0 < size * quantity) :
    |size + quantity| = |size| + |quantity| := by
  rcases pos_and_pos_or_neg_and_neg_of_mul_pos same with ⟨long, buy⟩ | ⟨short, sell⟩
  · rw [abs_of_pos long, abs_of_pos buy, abs_of_pos (add_pos long buy)]
  · rw [abs_of_neg short, abs_of_neg sell, abs_of_neg (add_neg short sell)]; ring

theorem Among.weighted {fills : List (Fill α)} {a : α} (among : Among fills a) (f : Fill α)
    (w v : α) (hw : 0 < w) (hv : 0 < v) :
    Among (fills ++ [f]) ((w * a + v * f.price) / (w + v)) := by
  obtain ⟨⟨low, lowIn, below⟩, high, highIn, above⟩ := among
  obtain ⟨least, greatest⟩ := weighted_between w v a f.price hw hv
  constructor
  · rcases min_le_iff.mp least with old | new
    · exact ⟨low, List.mem_append_left _ lowIn, below.trans old⟩
    · exact ⟨f, by simp, new⟩
  · rcases le_max_iff.mp greatest with old | new
    · exact ⟨high, List.mem_append_left _ highIn, old.trans above⟩
    · exact ⟨f, by simp, new⟩

theorem apply_among (p : Position α) (f : Fill α) (since : List (Fill α))
    (among : ∀ a, p.average = some a → Among since a) (a : α) (average : (p.apply f).average = some a) :
    Among (if p.size = 0 ∨ Flips p.size f.quantity then [f] else since ++ [f]) a := by
  change nextAverage p f = some a at average
  unfold nextAverage at average
  by_cases closed : p.size + f.quantity = 0
  · simp [closed] at average
  · rw [if_neg closed] at average
    by_cases fresh : p.size = 0 ∨ Flips p.size f.quantity
    · rw [if_pos fresh] at average ⊢
      cases average
      exact ⟨⟨f, by simp, le_rfl⟩, f, by simp, le_rfl⟩
    · rw [if_neg fresh] at average ⊢
      by_cases same : 0 < p.size * f.quantity
      · rw [if_pos same] at average
        obtain ⟨old, held⟩ := Option.isSome_iff_exists.mp (p.known.mpr fun flat => fresh (Or.inl flat))
        rw [held, Option.getD_some, abs_add_of_same _ _ same] at average
        cases average
        exact (among old held).weighted f _ _ (abs_pos.mpr (left_ne_zero_of_mul same.ne'))
          (abs_pos.mpr (right_ne_zero_of_mul same.ne'))
      · rw [if_neg same] at average
        exact (among a average).append f

theorem run_among (p : Position α) (fills since : List (Fill α))
    (among : ∀ a, p.average = some a → Among since a) (a : α) (average : (p.run fills).average = some a) :
    Among (episode p.size since fills) a := by
  induction fills generalizing p since with
  | nil => exact among a average
  | cons f rest ih =>
    exact ih (p.apply f) _ (apply_among p f since among) average

end AverageCost
