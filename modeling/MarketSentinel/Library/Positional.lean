import Mathlib.Data.List.GetD
import Mathlib.Data.List.TakeWhile
import Mathlib.Data.Nat.Digits.Lemmas
import Mathlib.Tactic.Linarith
import Mathlib.Tactic.NormNum

/-! Numbers written in two bases, with their leading zeros kept one for one.

Digits stand most significant first. Rewriting a numeral in another base and
back gives the numeral again, so the two notations name the same things.
-/

set_option autoImplicit false

namespace Positional

/-- The number that digits denote, read one after another. -/
def value (base : Nat) (digits : List Nat) : Nat := digits.foldl (fun number digit => number * base + digit) 0

def leading (digits : List Nat) : Nat := (digits.takeWhile fun digit => decide (digit = 0)).length

/-- The digits of a number that repeated division leaves; zero has none. -/
def numeral (base number : Nat) : List Nat := (Nat.digits base number).reverse

/-- The same number in another base behind as many zeros. -/
def convert (source target : Nat) (digits : List Nat) : List Nat :=
  List.replicate (leading digits) 0 ++ numeral target (value source digits)

variable {base source target : Nat} {digits : List Nat}

theorem foldl_value (start : Nat) (digits : List Nat) :
    digits.foldl (fun number digit => number * base + digit) start =
      start * base ^ digits.length + Nat.ofDigits base digits.reverse := by
  induction digits generalizing start with
  | nil => simp
  | cons digit rest ih =>
    rw [List.foldl_cons, ih, List.reverse_cons, Nat.ofDigits_append, List.length_cons, List.length_reverse,
      Nat.ofDigits_singleton, pow_succ]
    ring

theorem value_eq_ofDigits (base : Nat) (digits : List Nat) : value base digits = Nat.ofDigits base digits.reverse := by
  rw [value, foldl_value, Nat.zero_mul, Nat.zero_add]

/-- Zeros in front count for nothing. -/
@[simp] theorem value_zeros (base count : Nat) (digits : List Nat) :
    value base (List.replicate count 0 ++ digits) = value base digits := by
  simp [value_eq_ofDigits, Nat.ofDigits_append_replicate_zero]

theorem value_lt (large : 1 < base) (valid : ∀ digit ∈ digits, digit < base) :
    value base digits < base ^ digits.length := by
  rw [value_eq_ofDigits, ← List.length_reverse]
  apply Nat.ofDigits_lt_base_pow_length large
  simpa using valid

/-- Digits are zeros and then a numeral that begins with none. -/
theorem zeros_append_rest (digits : List Nat) :
    ∃ rest, digits = List.replicate (leading digits) 0 ++ rest ∧ ∀ first ∈ rest.head?, first ≠ 0 := by
  refine ⟨digits.dropWhile fun digit => decide (digit = 0), ?_, ?_⟩
  · have zeros : digits.takeWhile (fun digit => decide (digit = 0)) = List.replicate (leading digits) 0 := by
      apply List.eq_replicate_of_mem
      intro digit member
      simpa using List.mem_takeWhile_imp member
    rw [← zeros, List.takeWhile_append_dropWhile]
  · intro first shown zero
    have kept := List.head?_dropWhile_not (fun digit => decide (digit = 0)) digits
    rw [Option.mem_def] at shown
    rw [shown] at kept
    simp [zero] at kept

theorem leading_zeros (count : Nat) {rest : List Nat} (nonzero : ∀ first ∈ rest.head?, first ≠ 0) :
    leading (List.replicate count 0 ++ rest) = count := by
  induction count with
  | zero =>
    cases rest with
    | nil => rfl
    | cons first rest =>
      have first_ne : first ≠ 0 := nonzero first rfl
      simp [leading, first_ne]
  | succ count ih =>
    rw [List.replicate_succ, List.cons_append]
    unfold leading at ih ⊢
    rw [List.takeWhile_cons_of_pos (by simp), List.length_cons, ih]

theorem numeral_head (base number : Nat) : ∀ first ∈ (numeral base number).head?, first ≠ 0 := by
  intro first shown
  rw [numeral, List.head?_reverse] at shown
  obtain ⟨some, rfl⟩ := List.mem_getLast?_eq_getLast shown
  exact Nat.getLast_digit_ne_zero base (Nat.digits_ne_nil_iff_ne_zero.mp some)

theorem numeral_lt (large : 1 < base) (number : Nat) : ∀ digit ∈ numeral base number, digit < base := by
  intro digit member
  exact Nat.digits_lt_base large (List.mem_reverse.mp member)

@[simp] theorem value_numeral (base number : Nat) : value base (numeral base number) = number := by
  rw [value_eq_ofDigits, numeral, List.reverse_reverse, Nat.ofDigits_digits]

/-- A numeral without leading zeros is the numeral of its number. -/
theorem numeral_value (large : 1 < base) (valid : ∀ digit ∈ digits, digit < base)
    (nonzero : ∀ first ∈ digits.head?, first ≠ 0) : numeral base (value base digits) = digits := by
  rw [numeral, value_eq_ofDigits, Nat.digits_ofDigits base large, List.reverse_reverse]
  · simpa using valid
  · intro some
    have first : digits ≠ [] := by simpa using some
    rw [List.getLast_reverse]
    exact nonzero _ (List.head_mem_head? first)

theorem convert_lt (large : 1 < target) : ∀ digit ∈ convert source target digits, digit < target := by
  intro digit member
  rcases List.mem_append.mp member with zero | digit_of
  · rw [List.eq_of_mem_replicate zero]
    omega
  · exact numeral_lt large _ digit digit_of

/-- Rewriting a numeral and rewriting it back changes nothing. -/
theorem convert_convert (large : 1 < source) (valid : ∀ digit ∈ digits, digit < source) :
    convert target source (convert source target digits) = digits := by
  obtain ⟨rest, shape, nonzero⟩ := zeros_append_rest digits
  have member : ∀ digit ∈ rest, digit < source := by
    intro digit inside
    apply valid
    rw [shape]
    exact List.mem_append_right _ inside
  have number : value source digits = value source rest := by rw [shape, value_zeros]
  unfold convert
  rw [leading_zeros _ (numeral_head _ _), value_zeros, value_numeral, number, numeral_value large member nonzero]
  exact shape.symm

/-- A numeral that begins with no zero denotes at least the power of its length less one. -/
theorem pow_le_value (nonzero : ∀ first ∈ digits.head?, first ≠ 0) (some : digits ≠ []) :
    base ^ (digits.length - 1) ≤ value base digits := by
  cases digits with
  | nil => exact absurd rfl some
  | cons first rest =>
    have positive : 1 ≤ first := Nat.one_le_iff_ne_zero.mpr (nonzero first rfl)
    rw [value, List.foldl_cons, foldl_value, List.length_cons, Nat.add_sub_cancel]
    calc base ^ rest.length ≤ first * base ^ rest.length := Nat.le_mul_of_pos_left _ positive
      _ = (0 * base + first) * base ^ rest.length := by simp
      _ ≤ _ := Nat.le_add_right _ _

/-- How long a numeral becomes, when `step` digits of the old base say no more than `width` of the new. -/
theorem length_convert_lt {step width : Nat} (large : 1 < source) (wide : 1 < target)
    (valid : ∀ digit ∈ digits, digit < source) (fits : source ^ step ≤ target ^ width) (some : step ≠ 0)
    (longer : step ≤ width) : step * (convert source target digits).length < width * digits.length + step := by
  obtain ⟨rest, shape, nonzero⟩ := zeros_append_rest digits
  have member : ∀ digit ∈ rest, digit < source := by
    intro digit inside
    apply valid
    rw [shape]
    exact List.mem_append_right _ inside
  have number : value source digits = value source rest := by rw [shape, value_zeros]
  have length : digits.length = leading digits + rest.length := by
    conv_lhs => rw [shape]
    simp
  have zeros : step * leading digits ≤ width * leading digits := Nat.mul_le_mul_right _ longer
  rw [convert, List.length_append, List.length_replicate, number, length, Nat.mul_add, Nat.mul_add]
  cases written : (numeral target (value source rest)).length with
  | zero => omega
  | succ count =>
    -- The number is below a power of the old base and not below one of the new.
    have below := value_lt large member
    have above : target ^ count ≤ value source rest := by
      have nonempty : numeral target (value source rest) ≠ [] := by
        intro none
        rw [none] at written
        cases written
      have bound := @pow_le_value target _ (numeral_head target (value source rest)) nonempty
      rwa [value_numeral, written] at bound
    have powers : target ^ (count * step) < target ^ (width * rest.length) := by
      calc target ^ (count * step) = (target ^ count) ^ step := pow_mul ..
        _ ≤ (value source rest) ^ step := Nat.pow_le_pow_left above step
        _ < (source ^ rest.length) ^ step := Nat.pow_lt_pow_left below some
        _ = (source ^ step) ^ rest.length := by rw [← pow_mul, ← pow_mul, Nat.mul_comm]
        _ ≤ (target ^ width) ^ rest.length := Nat.pow_le_pow_left fits _
        _ = target ^ (width * rest.length) := (pow_mul ..).symm
    have exponents := (Nat.pow_lt_pow_iff_right wide).mp powers
    rw [Nat.mul_succ, Nat.mul_comm step count]
    omega

/-! ## Digits as symbols -/

section Symbols

variable {α : Type*} [DecidableEq α] {symbols : List α}

/-- The digit that a symbol stands for. -/
def digit? (symbols : List α) (symbol : α) : Option Nat :=
  if symbol ∈ symbols then some (symbols.idxOf symbol) else none

theorem digit?_getD (distinct : symbols.Nodup) {digit : Nat} (valid : digit < symbols.length) (default : α) :
    digit? symbols (symbols.getD digit default) = some digit := by
  have here : symbols.getD digit default = symbols[digit] := List.getD_eq_getElem _ _ valid
  rw [digit?, here, if_pos (List.getElem_mem valid), distinct.idxOf_getElem]

/-- Written digits are read as they are. -/
theorem mapM_digit?_symbols (distinct : symbols.Nodup) {digits : List Nat}
    (valid : ∀ digit ∈ digits, digit < symbols.length) (default : α) :
    (digits.map (symbols.getD · default)).mapM (digit? symbols) = some digits := by
  induction digits with
  | nil => rfl
  | cons digit rest ih =>
    obtain ⟨here, later⟩ := List.forall_mem_cons.mp valid
    rw [List.map_cons, List.mapM_cons, digit?_getD distinct here, ih later]
    rfl

/-- Digits that were read are in range, and written give what was read. -/
theorem symbols_of_mapM_digit? {written : List α} {digits : List Nat} (default : α)
    (read : written.mapM (digit? symbols) = some digits) :
    (∀ digit ∈ digits, digit < symbols.length) ∧ digits.map (symbols.getD · default) = written := by
  induction written generalizing digits with
  | nil =>
    cases read
    simp
  | cons symbol rest ih =>
    rw [List.mapM_cons] at read
    by_cases member : symbol ∈ symbols
    · rw [digit?, if_pos member] at read
      cases later : rest.mapM (digit? symbols) with
      | none =>
        rw [later] at read
        cases read
      | some others =>
        rw [later] at read
        cases read
        obtain ⟨valid, same⟩ := ih later
        have inside := List.idxOf_lt_length_of_mem member
        refine ⟨List.forall_mem_cons.mpr ⟨inside, valid⟩, ?_⟩
        rw [List.map_cons, same, List.getD_eq_getElem _ _ inside, List.getElem_idxOf]
    · rw [digit?, if_neg member] at read
      cases read

theorem length_takeWhile_map {β : Type*} [DecidableEq β] {written : β → α} {a : α} {b : β} {l : List β}
    (same : ∀ x ∈ l, written x = a ↔ x = b) :
    ((l.map written).takeWhile fun x => decide (x = a)).length = (l.takeWhile fun x => decide (x = b)).length := by
  induction l with
  | nil => rfl
  | cons x rest ih =>
    obtain ⟨here, later⟩ := List.forall_mem_cons.mp same
    rw [List.map_cons]
    by_cases first : x = b
    · rw [List.takeWhile_cons_of_pos (by simpa using here.mpr first), List.takeWhile_cons_of_pos (by simpa using first),
        List.length_cons, List.length_cons, ih later]
    · rw [List.takeWhile_cons_of_neg (by simpa using mt here.mp first), List.takeWhile_cons_of_neg (by simpa using first)]
      rfl

end Symbols

end Positional
