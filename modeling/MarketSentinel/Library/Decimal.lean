import Mathlib.Data.Nat.Digits.Lemmas
import Mathlib.Algebra.Order.Field.Basic
import Mathlib.Algebra.GroupWithZero.Basic
import Mathlib.Tactic.NormNum
import Mathlib.Tactic.Positivity
import Mathlib.Tactic.Linarith
import MarketSentinel.Library.Number

/-! Decimal numbers as the runtime's `Decimal` reads and writes them.

A decimal keeps its digits and its exponent, so equal numbers have many decimals. A
number in lowest terms, with no zero at its end, has one.
-/

set_option autoImplicit false

namespace Python

def digitPoint (digit : Nat) : CodePoint := Fin.ofNat 0x110000 (48 + digit)

/-- `str` of a natural number. -/
def natText (n : Nat) : Text := if n = 0 then [48] else (Nat.digits 10 n).reverse.map digitPoint

/-- `str` of an integer. -/
def intText : Int → Text
  | .ofNat n => natText n
  | .negSucc n => 45 :: natText (n + 1)

theorem digitPoint_val {digit : Nat} (small : digit < 10) : (digitPoint digit).val = 48 + digit := by
  simp only [digitPoint, Fin.ofNat]
  omega

theorem isDigit_digitPoint {digit : Nat} (small : digit < 10) : isDigit (digitPoint digit) = true := by
  simp only [isDigit, digitPoint_val small, Bool.and_eq_true, decide_eq_true_eq]
  omega

/-- Reading digits from the left is the value of the digits from the right. -/
theorem digitsValue_map (digits : List Nat) (small : ∀ digit ∈ digits, digit < 10) :
    digitsValue (digits.map digitPoint) = Nat.ofDigits 10 digits.reverse := by
  induction digits using List.reverseRecOn with
  | nil => rfl
  | append_singleton digits digit ih =>
    have before := ih fun other member => small other (List.mem_append_left _ member)
    have last := small digit (List.mem_append_right _ (List.mem_singleton_self digit))
    unfold digitsValue at before ⊢
    rw [List.map_append, List.foldl_append, before, List.reverse_append]
    simp only [List.map_cons, List.map_nil, List.foldl_cons, List.foldl_nil, digitPoint_val last,
      List.reverse_singleton, List.singleton_append, Nat.ofDigits_cons]
    omega

theorem natText_digits (n : Nat) : ∃ digits : List Nat, digits ≠ [] ∧ (∀ digit ∈ digits, digit < 10) ∧
    natText n = digits.map digitPoint ∧ Nat.ofDigits 10 digits.reverse = n := by
  unfold natText
  split
  · rename_i zero
    exact ⟨[0], by simp, by simp, rfl, by simp [zero]⟩
  · rename_i positive
    refine ⟨(Nat.digits 10 n).reverse, ?_, ?_, rfl, ?_⟩
    · rw [Ne, List.reverse_eq_nil_iff]
      exact Nat.digits_ne_nil_iff_ne_zero.mpr positive
    · intro digit member
      exact Nat.digits_lt_base (by norm_num) (List.mem_reverse.mp member)
    · rw [List.reverse_reverse, Nat.ofDigits_digits]

theorem digitsValue_natText (n : Nat) : digitsValue (natText n) = n := by
  obtain ⟨digits, _, small, spelled, value⟩ := natText_digits n
  rw [spelled, digitsValue_map digits small, value]

theorem natText_ne_nil (n : Nat) : natText n ≠ [] := by
  obtain ⟨digits, some, _, spelled, _⟩ := natText_digits n
  rw [spelled]
  simpa using some

theorem isDigit_natText (n : Nat) : ∀ c ∈ natText n, isDigit c = true := by
  obtain ⟨digits, _, small, spelled, _⟩ := natText_digits n
  rw [spelled]
  intro c member
  obtain ⟨digit, inside, rfl⟩ := List.mem_map.mp member
  exact isDigit_digitPoint (small digit inside)

/-- A finite decimal: a sign, the digits from the most significant one, and an exponent. -/
structure Decimal where
  negative : Bool
  digits : List Nat
  exponent : Int
  deriving DecidableEq

namespace Decimal

def maxEmax : Int := 999999999999999999

def minEtiny : Int := -1999999999999999997

/-- Other numbers cannot be read exactly, and reading is exact or fails. -/
def Representable (d : Decimal) : Prop := minEtiny ≤ d.exponent ∧ d.exponent + d.digits.length - 1 ≤ maxEmax

instance (d : Decimal) : Decidable d.Representable := by unfold Representable; infer_instance

/-- Decimal digits and nothing else become ASCII; anything else is refused later. -/
def plainPoint (c : CodePoint) : CodePoint :=
  if c.val ≤ 127 then c
  else match decimalDigit c with
    | some digit => digitPoint digit
    | none => 63

/-- Digits with an optional sign. -/
def signedDigits (t : Text) : Option Int :=
  let digits := if t.head? = some 45 ∨ t.head? = some 43 then t.tail else t
  if digits ≠ [] ∧ digits.all isDigit then
    some (if t.head? = some 45 then -(digitsValue digits : Int) else digitsValue digits)
  else none

def exponentPart : Text → Option Int
  | [] => some 0
  | mark :: rest => if mark.val = 101 ∨ mark.val = 69 then signedDigits rest else none

/-- The digits of a coefficient, without the zeros before the first other one. -/
def significant (digits : Text) : List Nat :=
  match (digits.map fun c => c.val - 48).dropWhile (· == 0) with
  | [] => [0]
  | kept => kept

/-- The digits and the exponent of a number without a sign. -/
def magnitude (body : Text) : Option (List Nat × Int) :=
  let whole := body.takeWhile isDigit
  let rest := body.dropWhile isDigit
  let dotted := decide (rest.head? = some 46)
  let fraction := if dotted then rest.tail.takeWhile isDigit else []
  let rest := if dotted then rest.tail.dropWhile isDigit else rest
  if whole = [] ∧ fraction = [] then none
  else (exponentPart rest).map fun power => (significant (whole ++ fraction), power - fraction.length)

/-- `Decimal(text)` where it is a finite number, and nothing where it is refused, infinite
or not a number. Every underscore is skipped. -/
def ofText (t : Text) : Option Decimal :=
  let plain := ((strip t).filter (· ≠ 95)).map plainPoint
  let body := if plain.head? = some 45 ∨ plain.head? = some 43 then plain.tail else plain
  (magnitude body).bind fun (digits, exponent) =>
    let number : Decimal := ⟨decide (plain.head? = some 45), digits, exponent⟩
    if number.Representable then some number else none

def coefficient (d : Decimal) : Nat := Nat.ofDigits 10 d.digits.reverse

def value (d : Decimal) : ℚ := (if d.negative then -1 else 1) * ((d.coefficient : ℚ) * (10 : ℚ) ^ d.exponent)

/-- Digits from one to nine places, with no zero before them unless it is the only one. -/
structure Valid (d : Decimal) : Prop where
  some : d.digits ≠ []
  small : ∀ digit ∈ d.digits, digit < 10
  leading : d.digits = [0] ∨ d.digits.head? ≠ .some 0
  representable : d.Representable

example : ofText (text " -1_0.250E+1 ") = some ⟨true, [1, 0, 2, 5, 0], -2⟩ := by decide

theorem significant_valid (digits : Text) (ascii : ∀ c ∈ digits, isDigit c = true) :
    significant digits ≠ [] ∧ (∀ digit ∈ significant digits, digit < 10) ∧
      (significant digits = [0] ∨ (significant digits).head? ≠ some 0) := by
  have small : ∀ digit ∈ (digits.map fun c => c.val - 48).dropWhile (· == 0), digit < 10 := by
    intro digit member
    obtain ⟨c, inside, rfl⟩ := List.mem_map.mp ((List.dropWhile_sublist _).mem member)
    have bounds := ascii c inside
    simp only [isDigit, Bool.and_eq_true, decide_eq_true_eq] at bounds
    omega
  have first := List.head?_dropWhile_not (· == 0) (digits.map fun c => c.val - 48)
  unfold significant
  split
  · simp
  · rename_i kept some
    refine ⟨some, small, Or.inr fun zero => ?_⟩
    rw [zero] at first
    simp at first

theorem magnitude_valid {body : Text} {digits : List Nat} {exponent : Int}
    (read : magnitude body = some (digits, exponent)) :
    digits ≠ [] ∧ (∀ digit ∈ digits, digit < 10) ∧ (digits = [0] ∨ digits.head? ≠ some 0) := by
  unfold magnitude at read
  dsimp only at read
  have all : ∀ c ∈ body.takeWhile isDigit ++ (if decide ((body.dropWhile isDigit).head? = some 46) = true
      then (body.dropWhile isDigit).tail.takeWhile isDigit else []), isDigit c = true := by
    intro c member
    rcases List.mem_append.mp member with whole | fraction
    · exact List.mem_takeWhile_imp whole
    · split at fraction
      · exact List.mem_takeWhile_imp fraction
      · cases fraction
  by_cases empty : body.takeWhile isDigit = [] ∧ (if decide ((body.dropWhile isDigit).head? = some 46) = true
      then (body.dropWhile isDigit).tail.takeWhile isDigit else []) = []
  · rw [if_pos empty] at read
    cases read
  · rw [if_neg empty] at read
    obtain ⟨power, _, same⟩ := Option.map_eq_some_iff.mp read
    obtain ⟨rfl, _⟩ := Prod.mk.inj same
    exact significant_valid _ all

theorem ofText_valid {t : Text} {d : Decimal} (read : ofText t = some d) : d.Valid := by
  unfold ofText at read
  dsimp only at read
  obtain ⟨⟨digits, exponent⟩, found, checked⟩ := Option.bind_eq_some_iff.mp read
  dsimp only at checked
  split at checked
  · rename_i representable
    obtain rfl := Option.some.inj checked
    obtain ⟨some, small, leading⟩ := magnitude_valid found
    exact ⟨some, small, leading, representable⟩
  · cases checked

/-- A text with any other code point is no number. -/
theorem ofText_points {t : Text} {d : Decimal} (read : ofText t = some d) {c : CodePoint} (member : c ∈ t)
    (ascii : c.val ≤ 127) (solid : isSpace c = false) :
    isDigit c = true ∨ c.val ∈ [95, 45, 43, 46, 101, 69] := by
  have signed : ∀ (rest : Text) (n : Int), signedDigits rest = some n → c ∈ rest →
      isDigit c = true ∨ c.val = 45 ∨ c.val = 43 := by
    intro rest n found inside
    unfold signedDigits at found
    dsimp only at found
    by_cases sign : rest.head? = some 45 ∨ rest.head? = some 43
    · simp only [sign, if_true] at found
      split at found
      · rename_i digits
        cases rest with
        | nil => cases inside
        | cons first rest =>
          rcases List.mem_cons.mp inside with rfl | later
          · rcases sign with minus | plus
            · exact Or.inr (Or.inl (by rw [Option.some.inj minus]; rfl))
            · exact Or.inr (Or.inr (by rw [Option.some.inj plus]; rfl))
          · exact Or.inl (List.all_eq_true.mp digits.2 c later)
      · cases found
    · simp only [sign, if_false] at found
      split at found
      · rename_i digits
        exact Or.inl (List.all_eq_true.mp digits.2 c inside)
      · cases found
  have power : ∀ (rest : Text) (n : Int), exponentPart rest = some n → c ∈ rest →
      isDigit c = true ∨ c.val ∈ [45, 43, 101, 69] := by
    intro rest n found inside
    cases rest with
    | nil => cases inside
    | cons mark rest =>
      rw [exponentPart] at found
      split at found
      · rename_i letter
        rcases List.mem_cons.mp inside with rfl | later
        · exact Or.inr (by rcases letter with same | same <;> simp [same])
        · exact (signed rest n found later).imp_right fun either => by rcases either with same | same <;> simp [same]
      · cases found
  have body : ∀ (body : Text) (number : List Nat × Int), magnitude body = some number → c ∈ body →
      isDigit c = true ∨ c.val ∈ [45, 43, 46, 101, 69] := by
    intro body number found inside
    unfold magnitude at found
    dsimp only at found
    have cut := List.takeWhile_append_dropWhile (p := isDigit) (l := body)
    rw [← cut] at inside
    rcases List.mem_append.mp inside with whole | rest
    · exact Or.inl (List.mem_takeWhile_imp whole)
    by_cases dotted : (body.dropWhile isDigit).head? = some 46
    · simp only [dotted, decide_true, if_true] at found
      split at found
      · cases found
      · obtain ⟨n, exponent, _⟩ := Option.map_eq_some_iff.mp found
        cases shape : body.dropWhile isDigit with
        | nil =>
          rw [shape] at rest
          cases rest
        | cons point after =>
          rw [shape] at rest dotted exponent
          rcases List.mem_cons.mp rest with rfl | later
          · exact Or.inr (by rw [Option.some.inj dotted]; decide)
          · rw [List.tail_cons] at exponent
            have halves := List.takeWhile_append_dropWhile (p := isDigit) (l := after)
            rw [← halves] at later
            rcases List.mem_append.mp later with fraction | last
            · exact Or.inl (List.mem_takeWhile_imp fraction)
            · exact (power _ n exponent last).imp_right fun mark => by
                simp only [List.mem_cons] at mark ⊢
                tauto
    · simp only [dotted, decide_false, Bool.false_eq_true, if_false] at found
      split at found
      · cases found
      · obtain ⟨n, exponent, _⟩ := Option.map_eq_some_iff.mp found
        exact (power _ n exponent rest).imp_right fun mark => by
          simp only [List.mem_cons] at mark ⊢
          tauto
  by_cases underscore : c = 95
  · exact Or.inr (by rw [underscore]; decide)
  have plain : c ∈ ((strip t).filter (· ≠ 95)).map plainPoint := by
    refine List.mem_map.mpr ⟨c, List.mem_filter.mpr ⟨?_, by simpa using underscore⟩, by rw [plainPoint, if_pos ascii]⟩
    have counts := @count_stripWhere isSpace c solid t
    exact List.count_pos_iff.mp (by rw [strip, counts]; exact List.count_pos_iff.mpr member)
  unfold ofText at read
  dsimp only at read
  obtain ⟨number, found, _⟩ := Option.bind_eq_some_iff.mp read
  have wider : ∀ {n : Nat}, n ∈ [45, 43, 46, 101, 69] → n ∈ [95, 45, 43, 46, 101, 69] := List.mem_cons_of_mem 95
  generalize ((strip t).filter (· ≠ 95)).map plainPoint = t at plain found
  split at found
  · rename_i sign
    cases t with
    | nil => cases plain
    | cons first rest =>
      rcases List.mem_cons.mp plain with rfl | later
      · refine Or.inr (wider ?_)
        rcases sign with minus | plus
        · rw [Option.some.inj minus]
          decide
        · rw [Option.some.inj plus]
          decide
      · exact (body rest number found later).imp_right wider
  · exact (body _ number found plain).imp_right wider

/-! ## Written without a point -/

/-- The sign, the digits and the exponent of a decimal. -/
def spelled (d : Decimal) : Text :=
  (if d.negative then [45] else []) ++ d.digits.map digitPoint ++ 101 :: intText d.exponent

theorem signedDigits_intText (n : Int) : signedDigits (intText n) = some n := by
  have unsigned : ∀ n : Nat, (natText n).head? ≠ some 45 ∧ (natText n).head? ≠ some 43 := by
    intro n
    cases shape : natText n with
    | nil => simp
    | cons c rest =>
      have digit := isDigit_natText n c (shape ▸ List.mem_cons_self)
      simp only [isDigit, Bool.and_eq_true, decide_eq_true_eq] at digit
      constructor
      · rintro ⟨⟩
        exact absurd digit.1 (by decide)
      · rintro ⟨⟩
        exact absurd digit.1 (by decide)
  have all : ∀ n : Nat, (natText n).all isDigit = true := fun n => List.all_eq_true.mpr (isDigit_natText n)
  cases n with
  | ofNat n =>
    obtain ⟨minus, plus⟩ := unsigned n
    simp only [signedDigits, intText, minus, plus, or_self, if_false, all, ne_eq, natText_ne_nil,
      not_false_eq_true, and_self, if_true, digitsValue_natText, Int.ofNat_eq_natCast]
  | negSucc n =>
    simp only [signedDigits, intText, List.head?_cons, true_or, if_true, List.tail_cons, all, ne_eq,
      natText_ne_nil, not_false_eq_true, and_self, digitsValue_natText, Int.negSucc_eq, Nat.cast_add,
      Nat.cast_one]

theorem significant_map {digits : List Nat} (some : digits ≠ []) (small : ∀ digit ∈ digits, digit < 10)
    (leading : digits = [0] ∨ digits.head? ≠ .some 0) : significant (digits.map digitPoint) = digits := by
  have back : (digits.map digitPoint).map (fun c => c.val - 48) = digits := by
    rw [List.map_map]
    conv_rhs => rw [← List.map_id digits]
    refine List.map_congr_left fun digit member => ?_
    simp [digitPoint_val (small digit member)]
  unfold significant
  rw [back]
  rcases leading with rfl | leading
  · rfl
  · cases digits with
    | nil => exact absurd rfl some
    | cons first rest =>
      have nonzero : first ≠ 0 := fun zero => leading (by rw [zero]; rfl)
      rw [List.dropWhile_cons_of_neg (by simpa using nonzero)]

theorem mem_spelled {d : Decimal} (valid : d.Valid) {c : CodePoint} (member : c ∈ d.spelled) :
    isDigit c = true ∨ c = 45 ∨ c = 101 := by
  unfold spelled at member
  rcases List.mem_append.mp member with front | back
  · rcases List.mem_append.mp front with sign | shown
    · split at sign
      · exact Or.inr (Or.inl (List.mem_singleton.mp sign))
      · cases sign
    · obtain ⟨digit, inside, rfl⟩ := List.mem_map.mp shown
      exact Or.inl (isDigit_digitPoint (valid.small digit inside))
  · rcases List.mem_cons.mp back with mark | power
    · exact Or.inr (Or.inr mark)
    · cases exponent : d.exponent with
      | ofNat n =>
        rw [exponent] at power
        exact Or.inl (isDigit_natText n c power)
      | negSucc n =>
        rw [exponent] at power
        rcases List.mem_cons.mp power with minus | digit
        · exact Or.inr (Or.inl minus)
        · exact Or.inl (isDigit_natText (n + 1) c digit)

/-- A decimal is read back from what is written. -/
theorem ofText_spelled {d : Decimal} (valid : d.Valid) : ofText d.spelled = some d := by
  have plain : ∀ c ∈ d.spelled, isSpace c = false ∧ c ≠ 95 ∧ plainPoint c = c := by
    intro c member
    have bounds : 45 ≤ c.val ∧ c.val ≤ 101 ∧ c.val ≠ 95 := by
      rcases mem_spelled valid member with digit | rfl | rfl
      · simp only [isDigit, Bool.and_eq_true, decide_eq_true_eq] at digit
        omega
      · decide
      · decide
    refine ⟨?_, fun same => bounds.2.2 (by rw [same]; rfl), ?_⟩
    · unfold isSpace
      simp only [Bool.or_eq_false_iff, Bool.and_eq_false_iff, decide_eq_false_iff_not, beq_eq_false_iff_ne]
      omega
    · rw [plainPoint, if_pos (by omega)]
  have same : ((strip d.spelled).filter (· ≠ 95)).map plainPoint = d.spelled := by
    rw [strip_eq_self fun c member => (plain c member).1, List.filter_eq_self.mpr]
    · conv_rhs => rw [← List.map_id d.spelled]
      exact List.map_congr_left fun c member => (plain c member).2.2
    · exact fun c member => by simpa using (plain c member).2.1
  have digits : ∀ c ∈ d.digits.map digitPoint, isDigit c = true := by
    intro c member
    obtain ⟨digit, inside, rfl⟩ := List.mem_map.mp member
    exact isDigit_digitPoint (valid.small digit inside)
  have number : magnitude (d.digits.map digitPoint ++ 101 :: intText d.exponent) = some (d.digits, d.exponent) := by
    have mark : isDigit 101 = false := by decide
    have whole : (d.digits.map digitPoint ++ 101 :: intText d.exponent).takeWhile isDigit = d.digits.map digitPoint := by
      rw [List.takeWhile_append_of_pos digits, List.takeWhile_cons_of_neg (by simp [mark]), List.append_nil]
    have rest : (d.digits.map digitPoint ++ 101 :: intText d.exponent).dropWhile isDigit = 101 :: intText d.exponent := by
      rw [List.dropWhile_append_of_pos digits, List.dropWhile_cons_of_neg (by simp [mark])]
    have undotted : ¬(some (101 : CodePoint) = some 46) := by decide
    unfold magnitude
    simp only [whole, rest, List.head?_cons, undotted, decide_false, Bool.false_eq_true, if_false, and_true,
      List.map_eq_nil_iff, valid.some, List.append_nil, List.length_nil, Nat.cast_zero, sub_zero]
    have power : exponentPart (101 :: intText d.exponent) = some d.exponent := by
      rw [exponentPart, if_pos (by decide), signedDigits_intText]
    rw [power, significant_map valid.some valid.small valid.leading]
    rfl
  -- The first code point tells the sign: a digit is none.
  have unsigned : ∀ first rest, d.digits.map digitPoint = first :: rest → first ≠ 45 ∧ first ≠ 43 := by
    intro first rest shape
    have digit := digits first (shape ▸ List.mem_cons_self)
    simp only [isDigit, Bool.and_eq_true, decide_eq_true_eq] at digit
    constructor
    · rintro rfl
      exact absurd digit.1 (by decide)
    · rintro rfl
      exact absurd digit.1 (by decide)
  obtain ⟨negative, digitsOf, exponent⟩ := d
  unfold ofText
  rw [same]
  dsimp only at number unsigned ⊢
  cases negative with
  | true =>
    have representable := valid.representable
    simp only [spelled, if_true, List.cons_append, List.nil_append, List.head?_cons, true_or, List.tail_cons,
      number, Option.bind_some, decide_true]
    rw [if_pos representable]
  | false =>
    have representable := valid.representable
    cases shape : digitsOf.map digitPoint with
    | nil => exact absurd (List.map_eq_nil_iff.mp shape) valid.some
    | cons first rest =>
      obtain ⟨minus, plus⟩ := unsigned first rest shape
      rw [shape] at number
      simp only [spelled, Bool.false_eq_true, if_false, List.nil_append, shape, List.cons_append, List.head?_cons,
        Option.some.injEq, minus, plus, or_self, decide_false] at number ⊢
      rw [number, Option.bind_some, if_pos representable]

/-! ## Lowest terms -/

/-- Two numbers whose last digit is not zero have one exponent. -/
theorem lowest_terms {n m : Nat} {e f : Int} (left : n % 10 ≠ 0) (right : m % 10 ≠ 0)
    (same : (n : ℚ) * (10 : ℚ) ^ e = (m : ℚ) * (10 : ℚ) ^ f) : n = m ∧ e = f := by
  have one : ∀ (n m : Nat) (e f : Int), n % 10 ≠ 0 → e ≤ f →
      (n : ℚ) * (10 : ℚ) ^ e = (m : ℚ) * (10 : ℚ) ^ f → n = m ∧ e = f := by
    intro n m e f last order same
    obtain ⟨k, rfl⟩ := Int.le.dest order
    have positive : (0 : ℚ) < (10 : ℚ) ^ e := zpow_pos (by norm_num) e
    rw [zpow_add₀ (by norm_num), zpow_natCast, mul_comm ((10 : ℚ) ^ e), ← mul_assoc] at same
    have whole : n = m * 10 ^ k := by exact_mod_cast mul_right_cancel₀ positive.ne' same
    cases k with
    | zero => exact ⟨by simpa using whole, by simp⟩
    | succ k =>
      rw [pow_succ, ← mul_assoc] at whole
      exact absurd (by rw [whole, Nat.mul_mod_left]) last
  rcases le_total e f with order | order
  · exact one n m e f left order same
  · obtain ⟨values, exponents⟩ := one m n f e right order same.symm
    exact ⟨values.symm, exponents.symm⟩

/-! ## Digits alone -/

theorem plainPoint_digit {c : CodePoint} {digit : Nat} (read : decimalDigit c = some digit) :
    c ≠ 95 ∧ plainPoint c = digitPoint digit := by
  have small := decimalDigit_lt read
  by_cases ascii : c.val ≤ 127
  · have value := decimalDigit_ascii read ascii
    constructor
    · rintro rfl
      exact absurd value (by change ¬(95 = 48 + digit); omega)
    · rw [plainPoint, if_pos ascii]
      exact Fin.ext (value.trans (digitPoint_val small).symm)
  · refine ⟨fun same => ascii (by rw [same]; decide), ?_⟩
    rw [plainPoint, if_neg ascii, read]

theorem plainPoint_digits {t : Text} {digits : List Nat} (read : t.mapM decimalDigit = some digits) :
    (t.filter (· ≠ 95)).map plainPoint = digits.map digitPoint ∧ ∀ digit ∈ digits, digit < 10 := by
  induction t generalizing digits with
  | nil =>
    cases read
    exact ⟨rfl, fun _ member => nomatch member⟩
  | cons c rest ih =>
    rw [List.mapM_cons] at read
    obtain ⟨digit, first, read⟩ := Option.bind_eq_some_iff.mp read
    obtain ⟨others, later, read⟩ := Option.bind_eq_some_iff.mp read
    cases read
    obtain ⟨same, small⟩ := ih later
    obtain ⟨plain, point⟩ := plainPoint_digit first
    constructor
    · rw [List.filter_cons_of_pos (by simpa using plain), List.map_cons, List.map_cons, same, point]
    · intro other member
      rcases List.mem_cons.mp member with rfl | inside
      · exact decimalDigit_lt first
      · exact small other inside

theorem coefficient_significant (digits : List Nat) (small : ∀ digit ∈ digits, digit < 10) :
    Nat.ofDigits 10 (significant (digits.map digitPoint)).reverse = Nat.ofDigits 10 digits.reverse := by
  have back : (digits.map digitPoint).map (fun c => c.val - 48) = digits := by
    rw [List.map_map]
    conv_rhs => rw [← List.map_id digits]
    refine List.map_congr_left fun digit member => ?_
    simp [digitPoint_val (small digit member)]
  have dropped : ∀ digits : List Nat, Nat.ofDigits 10 (digits.dropWhile (· == 0)).reverse = Nat.ofDigits 10 digits.reverse := by
    intro digits
    induction digits with
    | nil => rfl
    | cons digit rest ih =>
      by_cases zero : digit = 0
      · rw [List.dropWhile_cons_of_pos (by simpa using zero), ih, List.reverse_cons, Nat.ofDigits_append, zero]
        simp
      · rw [List.dropWhile_cons_of_neg (by simpa using zero)]
  have value := dropped digits
  unfold significant
  rw [back]
  split
  · rename_i empty
    rw [empty] at value
    exact value
  · exact value

/-- Digits alone are the number they spell. -/
theorem value_ofText_digits {t : Text} {digits : List Nat} (read : (strip t).mapM decimalDigit = .some digits)
    (nonempty : digits ≠ []) (short : digits.length ≤ 4300) :
    (ofText t).map value = .some ((Nat.ofDigits 10 digits.reverse : Nat) : ℚ) := by
  obtain ⟨plain, small⟩ := plainPoint_digits read
  have all : ∀ c ∈ digits.map digitPoint, isDigit c = true := by
    intro c member
    obtain ⟨digit, inside, rfl⟩ := List.mem_map.mp member
    exact isDigit_digitPoint (small digit inside)
  have unsigned : ¬((digits.map digitPoint).head? = .some 45 ∨ (digits.map digitPoint).head? = .some 43) := by
    cases digits with
    | nil => exact absurd rfl nonempty
    | cons digit rest =>
      have first := all _ List.mem_cons_self
      simp only [isDigit, Bool.and_eq_true, decide_eq_true_eq] at first
      rintro (minus | plus)
      · rw [Option.some.inj minus] at first
        exact absurd first.1 (by decide)
      · rw [Option.some.inj plus] at first
        exact absurd first.1 (by decide)
  have number : magnitude (digits.map digitPoint) = .some (significant (digits.map digitPoint), 0) := by
    have rest : (digits.map digitPoint).dropWhile isDigit = [] := List.dropWhile_eq_nil_iff.mpr all
    have whole : (digits.map digitPoint).takeWhile isDigit = digits.map digitPoint := List.takeWhile_eq_self_iff.mpr all
    unfold magnitude
    simp [rest, whole, nonempty, exponentPart]
  have places : (significant (digits.map digitPoint)).length ≤ 4300 := by
    have fewer := (List.dropWhile_sublist (· == 0) (l := (digits.map digitPoint).map fun c => c.val - 48)).length_le
    rw [List.length_map, List.length_map] at fewer
    unfold significant
    split
    · simp
    · exact fewer.trans short
  have unsignedMinus : ¬(digits.map digitPoint).head? = .some 45 := fun minus => unsigned (Or.inl minus)
  have fits : (⟨decide ((digits.map digitPoint).head? = .some 45), significant (digits.map digitPoint), 0⟩ :
      Decimal).Representable := by
    unfold Representable minEtiny maxEmax
    dsimp only
    omega
  have parsed : ofText t = .some ⟨decide ((digits.map digitPoint).head? = .some 45), significant (digits.map digitPoint), 0⟩ := by
    unfold ofText
    simp only [plain, unsigned, if_false, number, Option.bind_some, if_pos fits]
  rw [parsed, Option.map_some, value, coefficient, decide_eq_false unsignedMinus]
  simp [coefficient_significant digits small]

end Decimal

/-- Longer digit strings are refused by the runtime. -/
def maxIntDigits : Nat := 4300

/-- `int(text)`: digits, with single underscores between them. -/
def intOfText (t : Text) : Option Int :=
  let plain := (strip t).map Decimal.plainPoint
  let body := if plain.head? = some 45 ∨ plain.head? = some 43 then plain.tail else plain
  let digits := body.filter (· ≠ 95)
  if (split 95 body).all (fun part => decide (part ≠ []) && part.all isDigit) ∧ digits.length ≤ maxIntDigits then
    some (if plain.head? = some 45 then -(digitsValue digits : Int) else digitsValue digits)
  else none

end Python
