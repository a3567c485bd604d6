import Mathlib.Algebra.Field.Rat
import Mathlib.Data.Rat.Defs
import MarketSentinel.Library.Text

/-! Numbers of the runtime read over exact rational arithmetic.

A float is a rational, an infinity or not a number; no result is rounded.
-/

set_option autoImplicit false

namespace Python

inductive PyFloat where
  | finite (value : ℚ)
  | inf (negative : Bool)
  | nan
  deriving DecidableEq

/-- The zeros of the runtime's decimal digit runs; each run has ten digits. -/
private def digitZeros : List Nat :=
  [0x30, 0x660, 0x6f0, 0x7c0, 0x966, 0x9e6, 0xa66, 0xae6, 0xb66, 0xbe6, 0xc66, 0xce6, 0xd66, 0xde6,
    0xe50, 0xed0, 0xf20, 0x1040, 0x1090, 0x17e0, 0x1810, 0x1946, 0x19d0, 0x1a80, 0x1a90, 0x1b50,
    0x1bb0, 0x1c40, 0x1c50, 0xa620, 0xa8d0, 0xa900, 0xa9d0, 0xa9f0, 0xaa50, 0xabf0, 0xff10, 0x104a0,
    0x10d30, 0x11066, 0x110f0, 0x11136, 0x111d0, 0x112f0, 0x11450, 0x114d0, 0x11650, 0x116c0,
    0x11730, 0x118e0, 0x11950, 0x11c50, 0x11d50, 0x11da0, 0x16a60, 0x16ac0, 0x16b50, 0x1d7ce,
    0x1d7d8, 0x1d7e2, 0x1d7ec, 0x1d7f6, 0x1e140, 0x1e2f0, 0x1e950, 0x1fbf0]

/-- `str.isdecimal` and the digit's value. -/
def decimalDigit (c : CodePoint) : Option Nat :=
  (digitZeros.find? fun first => decide (first ≤ c.val ∧ c.val < first + 10)).map (c.val - ·)

theorem decimalDigit_lt {c : CodePoint} {digit : Nat} (read : decimalDigit c = some digit) : digit < 10 := by
  obtain ⟨first, found, rfl⟩ := Option.map_eq_some_iff.mp read
  have bounds : first ≤ c.val ∧ c.val < first + 10 := by simpa using List.find?_some found
  omega

theorem decimalDigit_ascii {c : CodePoint} {digit : Nat} (read : decimalDigit c = some digit) (ascii : c.val ≤ 127) :
    c.val = 48 + digit := by
  obtain ⟨first, found, rfl⟩ := Option.map_eq_some_iff.mp read
  have bounds : first ≤ c.val ∧ c.val < first + 10 := by simpa using List.find?_some found
  have only : ∀ first ∈ digitZeros, first ≤ 127 → first = 48 := by decide
  have zero := only first (List.mem_of_find?_eq_some found) (bounds.1.trans ascii)
  omega

/-- Digits and blanks become ASCII before a number is read; anything else is refused later. -/
private def plainPoint (c : CodePoint) : CodePoint :=
  if c.val < 127 then c
  else if isSpace c then 32
  else match decimalDigit c with
    | some digit => Fin.ofNat 0x110000 (48 + digit)
    | none => 63

private def isBlank (c : CodePoint) : Bool := (9 ≤ c.val && c.val ≤ 13) || c.val == 32

def isDigit (c : CodePoint) : Bool := 48 ≤ c.val && c.val ≤ 57

/-- An underscore must stand between two digits. -/
private def dropUnderscores : Bool → Text → Option Text
  | _, [] => some []
  | afterDigit, c :: rest =>
    if c.val = 95 then
      if afterDigit && (rest.head?.map isDigit).getD false then dropUnderscores false rest else none
    else (dropUnderscores (isDigit c) rest).map (c :: ·)

def digitsValue (digits : Text) : Nat :=
  digits.foldl (fun value c => 10 * value + (c.val - 48)) 0

/-- An exponent part, or nothing. -/
private def exponent : Text → Option Int
  | [] => some 0
  | mark :: rest =>
    if mark.val = 101 ∨ mark.val = 69 then
      let negative := rest.head? = some 45
      let digits := if rest.head? = some 45 ∨ rest.head? = some 43 then rest.tail else rest
      if digits ≠ [] ∧ digits.all isDigit then
        some (if negative then -(digitsValue digits : Int) else digitsValue digits)
      else none
    else none

/-- `digits` times a power of ten. -/
def scaled (digits : Nat) (power : Int) : ℚ :=
  match power with
  | .ofNat n => (digits : ℚ) * (10 : ℚ) ^ n
  | .negSucc n => (digits : ℚ) / (10 : ℚ) ^ (n + 1)

private def unsigned (body : Text) : Option PyFloat :=
  let whole := body.takeWhile isDigit
  let rest := body.dropWhile isDigit
  let dotted := decide (rest.head? = some 46)
  let fraction := if dotted then rest.tail.takeWhile isDigit else []
  let rest := if dotted then rest.tail.dropWhile isDigit else rest
  if whole = [] ∧ fraction = [] then none
  else (exponent rest).map fun power =>
    .finite (scaled (digitsValue (whole ++ fraction)) (power - fraction.length))

def PyFloat.neg : PyFloat → PyFloat
  | .finite value => .finite (-value)
  | .inf negative => .inf !negative
  | .nan => .nan

/-- Python's `<`; not-a-number is below and above nothing. -/
def PyFloat.lt : PyFloat → PyFloat → Bool
  | .finite a, .finite b => decide (a < b)
  | .finite _, .inf negative => !negative
  | .inf negative, .finite _ => negative
  | .inf a, .inf b => a && !b
  | _, _ => false

/-- `float(text)`, with the exact decimal value in place of the nearest double. -/
def floatText (t : Text) : Option PyFloat := do
  let plain ← dropUnderscores false (stripWhere isBlank (t.map plainPoint))
  let negative := decide (plain.head? = some 45)
  let body := if negative ∨ plain.head? = some 43 then plain.tail else plain
  let word := asciiCasing.lower body
  let value ←
    if word = text "inf" ∨ word = text "infinity" then some (.inf false)
    else if word = text "nan" then some .nan
    else unsigned body
  return if negative then value.neg else value

/-- The nearest float, or nothing when the value is too large for one. -/
structure FloatRounding where
  nearest : ℚ → Option ℚ

/-- Rounding that keeps every value, as the runtime does on short decimals. -/
def exactRounding : FloatRounding := ⟨some⟩

example : floatText (text " -1_0.25e1 ") = some (.finite (-205 / 2)) := by decide +kernel

end Python
