import Mathlib.Data.Fin.Basic
import MarketSentinel.Library.Layout

/-! Floats in their 64 bits. What is not a number has many patterns, every other value has one. -/

set_option autoImplicit false

inductive Binary64 where
  | nan
  | infinity (negative : Bool)
  /-- The exponent is the biased one. -/
  | finite (negative : Bool) (exponent : Fin 2047) (fraction : Fin (2 ^ 52))
  deriving DecidableEq

namespace Binary64

def ofBits (bits : Nat) : Binary64 :=
  let negative := decide (bits / 2 ^ 63 % 2 = 1)
  let exponent := bits / 2 ^ 52 % 2048
  if finite : exponent < 2047 then .finite negative ⟨exponent, finite⟩ ⟨bits % 2 ^ 52, Nat.mod_lt _ (by decide)⟩
  else if bits % 2 ^ 52 = 0 then .infinity negative
  else .nan

/-- The bits of a value; a quiet pattern for what is not a number. -/
def bits : Binary64 → Nat
  | .nan => 0x7ff8000000000000
  | .infinity negative => negative.toNat * 2 ^ 63 + 2047 * 2 ^ 52
  | .finite negative exponent fraction => negative.toNat * 2 ^ 63 + exponent * 2 ^ 52 + fraction

theorem bits_lt (value : Binary64) : value.bits < 2 ^ 64 := by
  cases value with
  | nan => decide
  | infinity negative => cases negative <;> decide
  | finite negative exponent fraction =>
    have exponentLt := exponent.isLt
    have fractionLt := fraction.isLt
    simp only [bits]
    cases negative <;> simp only [Bool.toNat_false, Bool.toNat_true] <;> omega

theorem ofBits_bits (value : Binary64) : ofBits value.bits = value := by
  cases value with
  | nan => decide
  | infinity negative => cases negative <;> decide
  | finite negative exponent fraction =>
    have exponentLt := exponent.isLt
    have fractionLt := fraction.isLt
    have exponents : (bits (.finite negative exponent fraction)) / 2 ^ 52 % 2048 = exponent := by
      simp only [bits]
      cases negative <;> simp only [Bool.toNat_false, Bool.toNat_true] <;> omega
    have fractions : (bits (.finite negative exponent fraction)) % 2 ^ 52 = fraction := by
      simp only [bits]
      cases negative <;> simp only [Bool.toNat_false, Bool.toNat_true] <;> omega
    have signs : (bits (.finite negative exponent fraction)) / 2 ^ 63 % 2 = negative.toNat := by
      simp only [bits]
      cases negative <;> simp only [Bool.toNat_false, Bool.toNat_true] <;> omega
    unfold ofBits
    rw [dif_pos (by rw [exponents]; exact exponentLt)]
    simp only [exponents, fractions, signs]
    cases negative <;> rfl

/-- The pattern of a number is its only one. -/
theorem bits_ofBits {pattern : Nat} (fits : pattern < 2 ^ 64) (number : ofBits pattern ≠ .nan) :
    (ofBits pattern).bits = pattern := by
  have sign : (decide (pattern / 2 ^ 63 % 2 = 1)).toNat = pattern / 2 ^ 63 := by
    by_cases negative : pattern / 2 ^ 63 % 2 = 1
    · rw [decide_eq_true negative, Bool.toNat_true]
      omega
    · rw [decide_eq_false negative, Bool.toNat_false]
      omega
  unfold ofBits at number ⊢
  dsimp only at number ⊢
  split
  · simp only [bits, sign]
    omega
  · rename_i special
    rw [dif_neg special] at number
    split
    · simp only [bits, sign]
      omega
    · rename_i payload
      rw [if_neg payload] at number
      exact absurd rfl number

variable {ε : Type} (failure : ε)

open Layout

/-- `struct.unpack("<d", take(8))[0]`. -/
def reader : Reader ε Binary64 := ofBits <$> unsigned failure 8

theorem reader_reads :
    Reads (reader failure) (Through (fun pattern : Fin (2 ^ 64) => ofBits pattern) fun pattern => little 8 pattern) := by
  have fits : 256 ^ 8 = 2 ^ 64 := rfl
  apply ((unsigned_reads failure fits).map ofBits).congr
  intro value written
  constructor
  · rintro ⟨_, ⟨pattern, rfl, rfl⟩, rfl⟩
    exact ⟨pattern, rfl, rfl⟩
  · rintro ⟨pattern, rfl, rfl⟩
    exact ⟨_, ⟨pattern, rfl, rfl⟩, rfl⟩

end Binary64
