import Mathlib.Data.List.DropRight
import Mathlib.Data.List.Lex
import Mathlib.Data.Fin.Basic
import Mathlib.Order.Fin.Basic

/-! Texts as sequences of code points.

A text is ordered by code point and may hold unpaired surrogates, as a Python
string may. Case folding is a table of the runtime: its laws are fields.
-/

set_option autoImplicit false

namespace Python

abbrev CodePoint := Fin 0x110000

abbrev Text := List CodePoint

instance codePoint_neZero : @NeZero Nat Zero.ofOfNat0 0x110000 := ⟨by decide⟩

instance codePoint_lawful : LawfulBEq CodePoint := inferInstance

instance text_lawful : LawfulBEq Text := inferInstance

def text (literal : String) : Text :=
  literal.toList.map fun c => Fin.ofNat 0x110000 c.toNat

theorem text_injective : Function.Injective text := by
  intro first second same
  have points : Function.Injective fun c : Char => (Fin.ofNat 0x110000 c.toNat : CodePoint) := by
    intro a b same
    have small : ∀ c : Char, c.toNat < 0x110000 := fun c => by
      rcases c.valid with low | high
      · exact lt_trans low (by decide)
      · exact high.2
    have values := congrArg Fin.val same
    simp only [Fin.ofNat, Nat.mod_eq_of_lt (small a), Nat.mod_eq_of_lt (small b)] at values
    exact Char.toNat_inj.mp values
  exact String.toList_injective (List.map_injective_iff.mpr points same)

/-- `str.isspace` on one code point. -/
def isSpace (c : CodePoint) : Bool :=
  let n := c.val
  (9 ≤ n && n ≤ 13) || (0x1c ≤ n && n ≤ 0x20) || n == 0x85 || n == 0xa0 || n == 0x1680 ||
    (0x2000 ≤ n && n ≤ 0x200a) || n == 0x2028 || n == 0x2029 || n == 0x202f || n == 0x205f || n == 0x3000

/-- Without surrogates, as a text must be to leave the runtime in UTF-8. -/
def encodable (t : Text) : Bool := t.all fun c => c.val < 0xd800 || 0xdfff < c.val

/-- `str.lstrip` and `str.rstrip` on the code points that a test selects. -/
def stripWhere (drop : CodePoint → Bool) (t : Text) : Text :=
  ((t.dropWhile drop).reverse.dropWhile drop).reverse

def strip (t : Text) : Text := stripWhere isSpace t

/-- `str.split` at one code point; the parts are never empty as a list. -/
def split (separator : CodePoint) : Text → List Text
  | [] => [[]]
  | c :: rest =>
    if c = separator then [] :: split separator rest
    else
      match split separator rest with
      | [] => [[c]]
      | first :: others => (c :: first) :: others

theorem split_ne_nil (separator : CodePoint) (t : Text) : split separator t ≠ [] := by
  induction t with
  | nil => simp [split]
  | cons c rest ih =>
    unfold split
    split
    · simp
    · split <;> simp

theorem length_split (separator : CodePoint) (t : Text) :
    (split separator t).length = t.count separator + 1 := by
  induction t with
  | nil => rfl
  | cons c rest ih =>
    unfold split
    by_cases here : c = separator
    · simp [here, ih]
    · rw [if_neg here, List.count_cons_of_ne here]
      split
      · rename_i empty
        exact absurd empty (split_ne_nil separator rest)
      · rename_i first others parts
        rw [parts] at ih
        simpa using ih

theorem count_dropWhile {drop : CodePoint → Bool} {c : CodePoint} (kept : drop c = false) (t : Text) :
    (t.dropWhile drop).count c = t.count c := by
  induction t with
  | nil => rfl
  | cons first rest ih =>
    by_cases dropped : drop first
    · have other : first ≠ c := fun same => by simp [same, kept] at dropped
      rw [List.dropWhile_cons_of_pos dropped, ih, List.count_cons_of_ne other]
    · rw [List.dropWhile_cons_of_neg dropped]

/-- Stripping other code points keeps every occurrence. -/
theorem count_stripWhere {drop : CodePoint → Bool} {c : CodePoint} (kept : drop c = false) (t : Text) :
    (stripWhere drop t).count c = t.count c := by
  rw [stripWhere, List.count_reverse, count_dropWhile kept, List.count_reverse, count_dropWhile kept]

theorem count_stripWhere_le (drop : CodePoint → Bool) (c : CodePoint) (t : Text) :
    (stripWhere drop t).count c ≤ t.count c := by
  have inner := (List.dropWhile_sublist drop (l := t)).count_le c
  have outer := (List.dropWhile_sublist drop (l := (t.dropWhile drop).reverse)).count_le c
  rw [List.count_reverse] at outer
  rw [stripWhere, List.count_reverse]
  exact outer.trans inner

theorem stripWhere_stripWhere (drop : CodePoint → Bool) (t : Text) :
    stripWhere drop (stripWhere drop t) = stripWhere drop t := by
  have first : (stripWhere drop t).dropWhile drop = stripWhere drop t := by
    rw [List.dropWhile_eq_self_iff]
    intro long kept
    have part : stripWhere drop t <+: t.dropWhile drop := List.rdropWhile_prefix drop _
    have longer : 0 < (t.dropWhile drop).length := long.trans_le part.length_le
    have start := List.dropWhile_get_zero_not drop t longer
    rw [part.getElem long] at kept
    exact start kept
  unfold stripWhere at first ⊢
  rw [first, List.reverse_reverse, List.dropWhile_idempotent]

theorem strip_strip (t : Text) : strip (strip t) = strip t := stripWhere_stripWhere isSpace t

/-- A text without blanks is its own strip. -/
theorem strip_eq_self {t : Text} (solid : ∀ c ∈ t, isSpace c = false) : strip t = t := by
  have keeps : ∀ l : Text, (∀ c ∈ l, isSpace c = false) → l.dropWhile isSpace = l := by
    intro l solid
    cases l with
    | nil => rfl
    | cons c rest => exact List.dropWhile_cons_of_neg (by simp [solid c List.mem_cons_self])
  unfold strip stripWhere
  rw [keeps t solid, keeps t.reverse fun c member => solid c (List.mem_reverse.mp member), List.reverse_reverse]

theorem strip_ne_nil {t : Text} {c : CodePoint} (member : c ∈ t) (solid : isSpace c = false) : strip t ≠ [] := by
  intro nothing
  unfold strip stripWhere at nothing
  have inner := List.dropWhile_eq_nil_iff.mp (List.reverse_eq_nil_iff.mp nothing)
  have kept : (t.dropWhile isSpace) ≠ [] := fun none => by
    rw [List.dropWhile_eq_nil_iff.mp none c member] at solid
    cases solid
  have first := inner _ (List.mem_reverse.mpr (List.head_mem kept))
  have last := List.head_dropWhile_not isSpace kept
  rw [first] at last
  cases last

private def asciiUpper (c : CodePoint) : CodePoint :=
  if 97 ≤ c.val ∧ c.val ≤ 122 then Fin.ofNat 0x110000 (c.val - 32) else c

def asciiLower (c : CodePoint) : CodePoint :=
  if 65 ≤ c.val ∧ c.val ≤ 90 then Fin.ofNat 0x110000 (c.val + 32) else c

/-- The runtime's `str.upper` and `str.lower`. -/
structure Casing where
  upper : Text → Text
  lower : Text → Text
  upper_upper : ∀ t, upper (upper t) = upper t
  lower_lower : ∀ t, lower (lower t) = lower t
  lower_ascii : ∀ t : Text, (∀ c ∈ t, c.val < 128) → lower t = t.map asciiLower

private theorem asciiUpper_idem (c : CodePoint) : asciiUpper (asciiUpper c) = asciiUpper c := by
  unfold asciiUpper
  by_cases small : 97 ≤ c.val ∧ c.val ≤ 122
  · have value : (Fin.ofNat 0x110000 (c.val - 32)).val = c.val - 32 := by
      simp only [Fin.ofNat]; omega
    rw [if_pos small, if_neg (by rw [value]; omega)]
  · rw [if_neg small, if_neg small]

private theorem asciiLower_idem (c : CodePoint) : asciiLower (asciiLower c) = asciiLower c := by
  unfold asciiLower
  by_cases large : 65 ≤ c.val ∧ c.val ≤ 90
  · have value : (Fin.ofNat 0x110000 (c.val + 32)).val = c.val + 32 := by
      simp only [Fin.ofNat]; omega
    rw [if_pos large, if_neg (by rw [value]; omega)]
  · rw [if_neg large, if_neg large]

/-- The casing of the ASCII letters, which agrees with the runtime on ASCII texts. -/
def asciiCasing : Casing where
  upper := List.map asciiUpper
  lower := List.map asciiLower
  upper_upper t := by simp [asciiUpper_idem]
  lower_lower t := by simp [asciiLower_idem]
  lower_ascii _ _ := rfl

private theorem isSpace_asciiUpper (c : CodePoint) : isSpace (asciiUpper c) = isSpace c := by
  unfold asciiUpper
  split
  · rename_i small
    have value : (Fin.ofNat 0x110000 (c.val - 32)).val = c.val - 32 := by
      simp only [Fin.ofNat]
      omega
    have letter : isSpace c = false := by
      unfold isSpace
      simp only [Bool.or_eq_false_iff, Bool.and_eq_false_iff, decide_eq_false_iff_not, beq_eq_false_iff_ne]
      omega
    have capital : isSpace (Fin.ofNat 0x110000 (c.val - 32)) = false := by
      unfold isSpace
      simp only [value, Bool.or_eq_false_iff, Bool.and_eq_false_iff, decide_eq_false_iff_not, beq_eq_false_iff_ne]
      omega
    rw [letter, capital]
  · rfl

theorem stripWhere_map {drop : CodePoint → Bool} {f : CodePoint → CodePoint} (same : ∀ c, drop (f c) = drop c)
    (t : Text) : stripWhere drop (t.map f) = (stripWhere drop t).map f := by
  have composed : drop ∘ f = drop := funext same
  unfold stripWhere
  rw [List.dropWhile_map, ← List.map_reverse, List.dropWhile_map, ← List.map_reverse, composed]

theorem stripWhere_sublist (drop : CodePoint → Bool) (t : Text) : (stripWhere drop t).Sublist t := by
  unfold stripWhere
  have inner := (List.dropWhile_sublist drop (l := (t.dropWhile drop).reverse)).reverse
  rw [List.reverse_reverse] at inner
  exact inner.trans (List.dropWhile_sublist drop)

/-- Upper-casing ASCII letters moves no blank. -/
theorem asciiCasing_upper_solid (t : Text) (solid : strip (asciiCasing.upper t) = asciiCasing.upper t) :
    strip t = t := by
  refine (stripWhere_sublist isSpace t).eq_of_length ?_
  have same : (stripWhere isSpace t).map asciiUpper = t.map asciiUpper := by
    rw [← stripWhere_map isSpace_asciiUpper]
    exact solid
  have lengths := congrArg List.length same
  rwa [List.length_map, List.length_map] at lengths

end Python
