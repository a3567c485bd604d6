import MarketSentinel.Venue.Base58
import MarketSentinel.Venue.SignedWire

/-! Solana transactions that a wallet has signed, and the request that forwards them.

An adapter takes the transaction as canonical base64. What it sends is the same text.
-/

set_option autoImplicit false

namespace MarketSentinel.Venue

open Python

def base64Alphabet : Text := text "ABCDEFGHIJKLMNOPQRSTUVWXYZabcdefghijklmnopqrstuvwxyz0123456789+/"

def sextet (character : CodePoint) : Option Nat := Positional.digit? base64Alphabet character

/-- `base64.b64decode(value, validate=True)`; padding that follows full groups is ignored. -/
def base64Decode : Text → Option Bytes
  | [] => some []
  | [a, b, 61, 61] => do
    let number := (← sextet a) * 64 + (← sextet b)
    return [UInt8.ofNat (number / 16)]
  | [a, b, c, 61] => do
    let number := ((← sextet a) * 64 + (← sextet b)) * 64 + (← sextet c)
    return [UInt8.ofNat (number / 1024), UInt8.ofNat (number / 4)]
  | a :: b :: c :: d :: rest => do
    let number := (((← sextet a) * 64 + (← sextet b)) * 64 + (← sextet c)) * 64 + (← sextet d)
    let tail ← if rest.all fun character => decide (character = 61) then some [] else base64Decode rest
    return [UInt8.ofNat (number / 65536), UInt8.ofNat (number / 256), UInt8.ofNat number] ++ tail
  | _ => none

def base64Symbol (number : Nat) : CodePoint := base64Alphabet.getD (number % 64) 0

/-- `base64.b64encode(raw)`. -/
def base64Encode : Bytes → Text
  | [] => []
  | [x] =>
    let number := x.toNat * 16
    [base64Symbol (number / 64), base64Symbol number, 61, 61]
  | [x, y] =>
    let number := (x.toNat * 256 + y.toNat) * 4
    [base64Symbol (number / 4096), base64Symbol (number / 64), base64Symbol number, 61]
  | x :: y :: z :: rest =>
    let number := (x.toNat * 256 + y.toNat) * 256 + z.toNat
    [base64Symbol (number / 262144), base64Symbol (number / 4096), base64Symbol (number / 64), base64Symbol number] ++
      base64Encode rest

/-- The bytes of a signed transaction; three adapters differ in the name that their messages begin with. -/
def decodeSignedTransaction (venue : String) (value : Text) : Except Stopped Bytes := do
  let malformed := text venue ++ text " live orders require a canonical base64 wallet-signed transaction."
  require (value ≠ [] ∧ value.length ≤ 1400000 ∧ value.length % 4 = 0) malformed
  let raw ← demand (base64Decode value) malformed
  require (64 ≤ raw.length ∧ raw.length ≤ 1000000) (text venue ++ text " signed transaction has an invalid size.")
  require (base64Encode raw = value) (text venue ++ text " signed transaction must use canonical base64 encoding.")
  return raw

/-- `needle in raw`. -/
def containsBytes (raw needle : Bytes) : Prop := needle <:+: raw

instance (raw needle : Bytes) : Decidable (containsBytes raw needle) := by
  unfold containsBytes
  infer_instance

/-- `self._value(row, *names)`: the first field that is neither missing nor empty. -/
def firstFilled (fields : Dict Text Json) (names : List String) : Json :=
  ((names.map (field fields)).find? fun value => ! blank value).getD .null

/-- `str(first or second or "").strip()` of two fields. -/
def strippedOf (runtime : Runtime) (fields : Dict Text Json) (name other : String) : Text :=
  strip (strOrEmpty runtime (firstOf fields name other))

/-! ## Instruction bytes -/

def hexDigit (n : Nat) : CodePoint := (text "0123456789abcdef").getD n 0

/-- `data.hex()`. -/
def hexText (data : Bytes) : Text := data.flatMap fun byte => [hexDigit (byte.toNat / 16), hexDigit (byte.toNat % 16)]

/-- `number.to_bytes(width, "little")`, which raises where the number does not fit. -/
def toLittle (width : Nat) (number : Int) : Except Stopped Bytes :=
  if 0 ≤ number ∧ number < 256 ^ width then .ok ((Nat.digitsAppend 256 width number.toNat).map UInt8.ofNat)
  else .error .raised

/-- `int.from_bytes(data, "little")`. -/
def fromLittle (data : Bytes) : Nat := Nat.ofDigits 256 (data.map UInt8.toNat)

theorem toLittle_eq_ok {width : Nat} {number : Int} {data : Bytes} (written : toLittle width number = .ok data) :
    0 ≤ number ∧ number < 256 ^ width ∧ data.length = width ∧ (fromLittle data : Int) = number := by
  unfold toLittle at written
  split at written
  · rename_i range
    cases written
    obtain ⟨positive, small⟩ := range
    have fits : number.toNat < 256 ^ width := by
      zify
      rwa [Int.toNat_of_nonneg positive]
    have valid : ∀ digit ∈ Nat.digitsAppend 256 width number.toNat, digit < 256 := by
      intro digit member
      exact Nat.lt_of_mem_digitsAppend (by decide) width digit member
    refine ⟨positive, small, ?_, ?_⟩
    · rw [List.length_map, Nat.length_digitsAppend (by decide) width fits]
    · rw [fromLittle, map_toNat_ofNat valid, Nat.digitsAppend, Nat.ofDigits_append_replicate_zero,
        Nat.ofDigits_digits]
      exact Int.toNat_of_nonneg positive
  · cases written

/-- A text without the prefix that marks it as hexadecimal. -/
def withoutHexMark (value : Text) : Text := if text "0x" <+: value then value.drop 2 else value

def reviewedData (runtime : Runtime) (metadata : Dict Text Json) : Text :=
  withoutHexMark (runtime.casing.lower (strip (strOrEmpty runtime (field metadata "instruction_data"))))

/-- The errors that an adapter raises on purpose. -/
def Stopped.isAdapterError : Stopped → Prop
  | .refused (.unsupportedFeature _ _) => True
  | .refused (.configuration _) => True
  | .refused .overflow => False
  | .http _ => True
  | .raised => False

/-- `int(config.get(key, default))` as a positive scale. -/
def positiveScale (config : Dict Text Json) (key message : String) (usual : Int) : Except Stopped Int := do
  let number ← demand (← intOf ((config.get? (text key)).getD (.int usual))) (text message)
  require (0 < number) (text message)
  return number

/-- `int(round(number * scale))` in floats; a product or a scale that is too large for one raises. -/
def rawUnits (number : ℚ) (scale : Int) : Except Stopped Int :=
  match PyFloat.float (.int scale) with
  | .ok (.finite factor) =>
    match binary64.round (.finite (number * factor)) with
    | .finite product => .ok (halfEven product)
    | _ => .error .raised
  | _ => .error .raised

/-! ## Failures -/

/-- A step that fails with an adapter error, if it fails. -/
abbrev Graceful {α : Type} (result : Except Stopped α) : Prop := Result.FailsWith Stopped.isAdapterError result

section Graceful

variable {α : Type}

theorem refuse_graceful (message : Text) : Graceful (refuse message : Except Stopped α) := Result.failsWith_error trivial

theorem require_graceful (holds : Prop) [Decidable holds] (message : Text) : Graceful (require holds message) := by
  unfold require
  split
  · exact Result.failsWith_ok ()
  · exact refuse_graceful message

theorem demand_graceful (found : Option α) (message : Text) : Graceful (demand found message) := by
  cases found with
  | some value => exact Result.failsWith_ok value
  | none => exact refuse_graceful message

theorem checked_graceful {result : Except Refused α} (bounded : Result.FailsWith (· ≠ .overflow) result) :
    Graceful (checked result) := by
  cases result with
  | ok value => exact Result.failsWith_ok value
  | error why =>
    apply Result.failsWith_error
    cases why with
    | unsupportedFeature marketId feature => trivial
    | configuration message => trivial
    | overflow => exact bounded _ rfl rfl

theorem decodeSignedTransaction_graceful (venue : String) (value : Text) :
    Graceful (decodeSignedTransaction venue value) := by
  refine (require_graceful _ _).bind fun _ _ => ?_
  refine (demand_graceful _ _).bind fun _ _ => ?_
  refine (require_graceful _ _).bind fun _ _ => ?_
  refine (require_graceful _ _).bind fun _ _ => ?_
  exact Result.failsWith_ok _

/-- A number that fits is written. -/
theorem toLittle_graceful {width : Nat} {number : Int} (positive : 0 ≤ number) (small : number < 256 ^ width) :
    Graceful (toLittle width number) := by
  unfold toLittle
  rw [if_pos ⟨positive, small⟩]
  exact Result.failsWith_ok _

theorem readKey_bounded (highest : Nat) (malformed invalid wrongLength value : Text) :
    Result.FailsWith (· ≠ .overflow) (readKey highest malformed invalid wrongLength value) := by
  unfold readKey
  split
  · exact Result.failsWith_error (by simp)
  split
  · exact Result.failsWith_error (by simp)
  dsimp only
  split
  · exact Result.failsWith_ok _
  · exact Result.failsWith_error (by simp)

theorem lamasBase58Decode_bounded (value : Text) : Result.FailsWith (· ≠ .overflow) (lamasBase58Decode value) := by
  unfold lamasBase58Decode
  split
  · rename_i failed
    exact Result.failsWith_error (readKey_bounded _ _ _ _ _ _ failed)
  · split
    · exact Result.failsWith_error (by simp)
    · exact Result.failsWith_ok _

end Graceful

end MarketSentinel.Venue
