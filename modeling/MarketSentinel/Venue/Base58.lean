import Mathlib.Data.Nat.Size
import MarketSentinel.Library.Positional
import MarketSentinel.Venue.Preflight

/-! Solana identities: four readers of base58 keys.

A key is a text of base58 digits in which every leading `1` is a zero byte. Each
reader limits the length of the text and wants exactly 32 bytes.
-/

set_option autoImplicit false

namespace MarketSentinel.Venue

open Python

abbrev Bytes := List UInt8

def solanaAlphabet : Text := text "123456789ABCDEFGHJKLMNPQRSTUVWXYZabcdefghijkmnopqrstuvwxyz"

/-- `_SOLANA_INDEX[character]`. -/
def solanaIndex (character : CodePoint) : Option Nat := Positional.digit? solanaAlphabet character

/-- `_BASE58_ALPHABET[remainder]`. -/
def base58Symbol (remainder : Nat) : CodePoint := solanaAlphabet.getD remainder 0

/-- `[1-9A-HJ-NP-Za-km-z]`. -/
def isBase58 (character : CodePoint) : Bool :=
  let n := character.val
  (49 ≤ n && n ≤ 57) || (65 ≤ n && n ≤ 72) || (74 ≤ n && n ≤ 78) || (80 ≤ n && n ≤ 90) ||
    (97 ≤ n && n ≤ 107) || (109 ≤ n && n ≤ 122)

/-- `len(value) - len(value.lstrip(mark))`. -/
def leadingCount {α : Type} [DecidableEq α] (mark : α) (value : List α) : Nat :=
  value.length - (value.dropWhile fun x => decide (x = mark)).length

/-- `int.from_bytes(value, "big")`. -/
def bigEndian (value : Bytes) : Nat := Positional.value 256 (value.map UInt8.toNat)

/-- `number.to_bytes((number.bit_length() + 7) // 8, "big")`. -/
def minimalBytes (number : Nat) : Bytes :=
  (Nat.digitsAppend 256 ((Nat.size number + 7) / 8) number).reverse.map UInt8.ofNat

def base58Encode (value : Bytes) : Text :=
  let encoded := (Positional.numeral 58 (bigEndian value)).map base58Symbol
  List.replicate (leadingCount 0 value) (base58Symbol 0) ++
    if encoded = [] then (if value = [] then text "1" else []) else encoded

/-- The bytes of base58 digits, or a refusal with one of three messages. -/
def readKey (highest : Nat) (malformed invalid wrongLength : Text) (value : Text) : Except Refused Bytes :=
  if ¬(value.all isBase58 = true ∧ 32 ≤ value.length ∧ value.length ≤ highest) then .error (.configuration malformed)
  else
    match value.mapM solanaIndex with
    | none => .error (.configuration invalid)
    | some digits =>
      let decoded := List.replicate (leadingCount (base58Symbol 0) value) 0 ++ minimalBytes (Positional.value 58 digits)
      if decoded.length = 32 then .ok decoded else .error (.configuration wrongLength)

/-- A wallet identity that may already be tagged, in its canonical tagged form. -/
def normalizeSolanaIdentity (casing : Casing) (raw : Text) : Option Text :=
  let value := strip raw
  let value := if (text "solana:").isPrefixOf (casing.lower value) then
    strip ((value.dropWhile fun c => decide (c ≠ 58)).drop 1) else value
  match readKey 44 [] [] [] value with
  | .ok _ => some (text "solana:" ++ value)
  | .error _ => none

/-- MetaDAO's reader gives the text back. -/
def decodeSolanaAddress (label value : Text) : Except Refused Text :=
  let value := strip value
  let say (message : String) := text "MetaDAO " ++ label ++ text message
  match readKey 64 (say " must be a canonical base58 public key.") (say " contains an invalid base58 character.")
    (say " must decode to exactly 32 bytes.") value with
  | .ok _ => .ok value
  | .error refused => .error refused

def hedgehogBase58Decode (value : Text) : Except Refused Bytes :=
  readKey 64 (text "Hedgehog public key must be a canonical base58 value.")
    (text "Hedgehog public key contains an invalid base58 character.")
    (text "Hedgehog public key must decode to exactly 32 bytes.") (strip value)

/-- Lamas writes the bytes again and compares. -/
def lamasBase58Decode (value : Text) : Except Refused Bytes :=
  match readKey 64 (text "Lamas public key must be a canonical base58 value.")
    (text "Lamas public key contains an invalid base58 character.")
    (text "Lamas public key must decode to exactly 32 bytes.") (strip value) with
  | .error refused => .error refused
  | .ok decoded =>
    if base58Encode decoded ≠ strip value then
      .error (.configuration (text "Lamas public key is not canonical base58."))
    else .ok decoded

/-! ## Bytes and digits -/

theorem solanaAlphabet_nodup : solanaAlphabet.Nodup := by decide

theorem solanaAlphabet_length : solanaAlphabet.length = 58 := by decide

/-- The class of the expression is the alphabet. -/
theorem isBase58_iff (character : CodePoint) : isBase58 character = true ↔ character ∈ solanaAlphabet := by
  have small : ∀ n : Fin 128, isBase58 (n.castLE (by decide)) = decide (n.castLE (by decide) ∈ solanaAlphabet) := by
    decide +kernel
  have ascii : solanaAlphabet.all (fun c => decide (c.val < 128)) = true := by decide
  by_cases low : character.val < 128
  · have here := small ⟨character.val, low⟩
    have same : (⟨character.val, low⟩ : Fin 128).castLE (by decide) = character := rfl
    rw [same] at here
    rw [here, decide_eq_true_eq]
  · constructor
    · intro listed
      simp only [isBase58, Bool.or_eq_true, Bool.and_eq_true, decide_eq_true_eq] at listed
      omega
    · intro member
      exact absurd (of_decide_eq_true (List.all_eq_true.mp ascii character member)) low

theorem isSpace_of_mem_solanaAlphabet {character : CodePoint} (member : character ∈ solanaAlphabet) :
    isSpace character = false := by
  have solid : solanaAlphabet.all (fun c => !isSpace c) = true := by decide
  simpa using List.all_eq_true.mp solid character member

theorem leadingCount_eq {α : Type} [DecidableEq α] (mark : α) (value : List α) :
    leadingCount mark value = (value.takeWhile fun x => decide (x = mark)).length := by
  have parts := congrArg List.length (@List.takeWhile_append_dropWhile α (fun x => decide (x = mark)) value)
  rw [List.length_append] at parts
  unfold leadingCount
  omega

/-- The least number of bytes is the number of digits in base 256. -/
theorem size_eq_digits (number : Nat) : (Nat.size number + 7) / 8 = (Nat.digits 256 number).length := by
  by_cases zero : number = 0
  · subst zero
    simp
  · have positive := Nat.pos_of_ne_zero zero
    have below : Nat.size number ≤ 8 * (Nat.digits 256 number).length := by
      rw [Nat.size_le, pow_mul]
      exact Nat.lt_base_pow_length_digits (by decide)
    have above : 8 * ((Nat.digits 256 number).length - 1) < Nat.size number := by
      rw [Nat.lt_size, pow_mul]
      have bound := @Positional.pow_le_value 256 _ (Positional.numeral_head 256 number) (by
        intro none
        exact Nat.digits_ne_nil_iff_ne_zero.mpr zero (List.reverse_eq_nil_iff.mp none))
      rw [Positional.value_numeral] at bound
      simpa [Positional.numeral] using bound
    have some : (Nat.digits 256 number).length ≠ 0 :=
      fun none => Nat.digits_ne_nil_iff_ne_zero.mpr zero (List.length_eq_zero_iff.mp none)
    omega

theorem minimalBytes_eq (number : Nat) :
    minimalBytes number = (Positional.numeral 256 number).map UInt8.ofNat := by
  rw [minimalBytes, size_eq_digits, Nat.digitsAppend, Nat.sub_self, List.replicate_zero, List.append_nil]
  rfl

theorem map_ofNat_toNat (value : Bytes) : (value.map UInt8.toNat).map UInt8.ofNat = value := by
  simp [Function.comp_def]

theorem map_toNat_ofNat {digits : List Nat} (valid : ∀ digit ∈ digits, digit < 256) :
    (digits.map UInt8.ofNat).map UInt8.toNat = digits := by
  rw [List.map_map]
  conv_rhs => rw [← List.map_id digits]
  apply List.map_congr_left
  intro digit member
  exact UInt8.toNat_ofNat_of_lt (valid digit member)

theorem toNat_lt_of_mem {value : Bytes} : ∀ digit ∈ value.map UInt8.toNat, digit < 256 := by
  intro digit member
  obtain ⟨byte, _, rfl⟩ := List.mem_map.mp member
  exact byte.toNat_lt

/-- Writing in base 58 what is not empty. -/
theorem base58Encode_eq {value : Bytes} (some : value ≠ []) :
    base58Encode value = (Positional.convert 256 58 (value.map UInt8.toNat)).map base58Symbol := by
  have zeros : leadingCount 0 value = Positional.leading (value.map UInt8.toNat) := by
    rw [leadingCount_eq, Positional.leading]
    refine (Positional.length_takeWhile_map fun byte _ => ?_).symm
    rw [← UInt8.toNat_inj]
    rfl
  unfold base58Encode Positional.convert
  rw [List.map_append, List.map_replicate, zeros]
  unfold bigEndian
  cases (Positional.numeral 58 (Positional.value 256 (value.map UInt8.toNat))).map base58Symbol with
  | nil => simp [some]
  | cons first rest => simp

/-- Reading base 58 digits, a zero for each leading `1`. -/
theorem decoded_eq {value : Text} {digits : List Nat} (read : value.mapM solanaIndex = some digits) :
    List.replicate (leadingCount (base58Symbol 0) value) 0 ++ minimalBytes (Positional.value 58 digits) =
      (Positional.convert 58 256 digits).map UInt8.ofNat := by
  obtain ⟨valid, written⟩ := Positional.symbols_of_mapM_digit? 0 read
  rw [solanaAlphabet_length] at valid
  have zeros : leadingCount (base58Symbol 0) value = Positional.leading digits := by
    rw [leadingCount_eq, Positional.leading, ← written]
    apply Positional.length_takeWhile_map
    intro digit member
    have apart : ∀ digit : Fin 58, base58Symbol digit = base58Symbol 0 ↔ digit.val = 0 := by decide
    exact apart ⟨digit, valid digit member⟩
  rw [zeros, minimalBytes_eq, Positional.convert, List.map_append, List.map_replicate]
  rfl

/-! ## What the readers accept -/

theorem ne_nil_of_length {key : Bytes} (full : key.length = 32) : key ≠ [] := by
  intro none
  rw [none] at full
  cases full

/-- Thirty-two bytes take between 32 and 44 digits. -/
theorem length_base58Encode {value : Bytes} (full : value.length = 32) :
    32 ≤ (base58Encode value).length ∧ (base58Encode value).length ≤ 44 := by
  have some := ne_nil_of_length full
  set digits := Positional.convert 256 58 (value.map UInt8.toNat) with digits_def
  have back : Positional.convert 58 256 digits = value.map UInt8.toNat :=
    Positional.convert_convert (by decide) toNat_lt_of_mem
  -- 256 ^ 8 is below 58 ^ 11, so eight bytes take eleven digits at most
  have above := @Positional.length_convert_lt 256 58 (value.map UInt8.toNat) 8 11 (by decide) (by decide)
    toNat_lt_of_mem (by decide) (by decide) (by decide)
  have below := @Positional.length_convert_lt 58 256 digits 1 1 (by decide) (by decide)
    (Positional.convert_lt (by decide)) (by decide) (by decide) (by decide)
  rw [← digits_def, List.length_map, full] at above
  rw [back, List.length_map, full] at below
  simp only [Nat.one_mul] at below
  rw [base58Encode_eq some, List.length_map, ← digits_def]
  omega

theorem base58Encode_symbols {value : Bytes} (some : value ≠ []) :
    ∀ c ∈ base58Encode value, c ∈ solanaAlphabet := by
  intro c member
  rw [base58Encode_eq some] at member
  obtain ⟨digit, inside, rfl⟩ := List.mem_map.mp member
  have valid := Positional.convert_lt (by decide) digit inside
  rw [← solanaAlphabet_length] at valid
  rw [base58Symbol, List.getD_eq_getElem _ _ valid]
  exact List.getElem_mem valid

/-- A key is read exactly from what its 32 bytes are written as. -/
theorem readKey_eq_ok {highest : Nat} (enough : 44 ≤ highest) {malformed invalid wrongLength value : Text}
    {key : Bytes} : readKey highest malformed invalid wrongLength value = .ok key ↔
      key.length = 32 ∧ value = base58Encode key := by
  unfold readKey
  constructor
  · intro accepted
    split at accepted
    · cases accepted
    split at accepted
    · cases accepted
    rename_i digits read
    simp only [decoded_eq read] at accepted
    split at accepted
    · rename_i full
      cases accepted
      obtain ⟨valid, written⟩ := Positional.symbols_of_mapM_digit? 0 read
      rw [solanaAlphabet_length] at valid
      have some := ne_nil_of_length full
      refine ⟨full, ?_⟩
      rw [base58Encode_eq some, map_toNat_ofNat (Positional.convert_lt (by decide)),
        Positional.convert_convert (by decide) valid]
      exact written.symm
    · cases accepted
  · rintro ⟨full, rfl⟩
    have filled := ne_nil_of_length full
    obtain ⟨short, long⟩ := length_base58Encode full
    have symbols := base58Encode_symbols filled
    have listed : (base58Encode key).all isBase58 = true := by
      rw [List.all_eq_true]
      exact fun c member => (isBase58_iff c).mpr (symbols c member)
    have read : (base58Encode key).mapM solanaIndex =
        some (Positional.convert 256 58 (key.map UInt8.toNat)) := by
      rw [base58Encode_eq filled]
      apply Positional.mapM_digit?_symbols solanaAlphabet_nodup
      rw [solanaAlphabet_length]
      exact Positional.convert_lt (by decide)
    rw [if_neg (not_not.mpr ⟨listed, short, long.trans enough⟩), read]
    simp only [decoded_eq read]
    rw [Positional.convert_convert (by decide) toNat_lt_of_mem, map_ofNat_toNat, if_pos full]

theorem base58Encode_injective {first second : Bytes} (full : first.length = 32) (other : second.length = 32)
    (same : base58Encode first = base58Encode second) : first = second := by
  have read : readKey 44 [] [] [] (base58Encode first) = .ok first := (readKey_eq_ok le_rfl).mpr ⟨full, rfl⟩
  have again : readKey 44 [] [] [] (base58Encode first) = .ok second := (readKey_eq_ok le_rfl).mpr ⟨other, same⟩
  exact Except.ok.inj (read.symm.trans again)

theorem strip_base58Encode {key : Bytes} (some : key ≠ []) : strip (base58Encode key) = base58Encode key :=
  strip_eq_self fun c member => isSpace_of_mem_solanaAlphabet (base58Encode_symbols some c member)

/-- What a reader of keys does: it accepts what 32 bytes are written as, and gives those bytes. -/
structure ReadsKeys (decode : Text → Except Refused Bytes) : Prop where
  accepts : ∀ raw key, decode raw = .ok key ↔ key.length = 32 ∧ strip raw = base58Encode key
  returns : ∀ key : Bytes, key.length = 32 → decode (base58Encode key) = .ok key

theorem ReadsKeys.of_accepts {decode : Text → Except Refused Bytes}
    (accepts : ∀ raw key, decode raw = .ok key ↔ key.length = 32 ∧ strip raw = base58Encode key) : ReadsKeys decode :=
  ⟨accepts, fun key full => (accepts _ key).mpr ⟨full, strip_base58Encode (ne_nil_of_length full)⟩⟩

private theorem longest : 44 ≤ 64 := by decide

theorem hedgehogBase58Decode_reads : ReadsKeys hedgehogBase58Decode :=
  ReadsKeys.of_accepts fun _ _ => readKey_eq_ok longest

theorem lamasBase58Decode_reads : ReadsKeys lamasBase58Decode := by
  apply ReadsKeys.of_accepts
  intro raw key
  unfold lamasBase58Decode
  split
  · rename_i refused stopped
    constructor
    · intro accepted
      cases accepted
    · intro written
      rw [(readKey_eq_ok longest).mpr written] at stopped
      cases stopped
  · rename_i decoded read
    obtain ⟨full, written⟩ := (readKey_eq_ok longest).mp read
    rw [if_neg (not_not.mpr written.symm)]
    constructor
    · rintro ⟨⟩
      exact ⟨full, written⟩
    · rintro ⟨other, again⟩
      rw [base58Encode_injective full other (written.symm.trans again)]

/-- The readers that give a text back accept the same. -/
theorem decodeSolanaAddress_eq_ok {label raw address : Text} :
    decodeSolanaAddress label raw = .ok address ↔
      address = strip raw ∧ ∃ key : Bytes, key.length = 32 ∧ strip raw = base58Encode key := by
  unfold decodeSolanaAddress
  simp only
  split
  · rename_i key read
    have written := (readKey_eq_ok longest).mp read
    constructor
    · rintro ⟨⟩
      exact ⟨rfl, key, written⟩
    · rintro ⟨rfl, _⟩
      rfl
  · rename_i refused stopped
    constructor
    · intro accepted
      cases accepted
    · rintro ⟨_, key, written⟩
      rw [(readKey_eq_ok longest).mpr written] at stopped
      cases stopped

/-- A wallet identity without its tag, if it has one. -/
def untagged (casing : Casing) (raw : Text) : Text :=
  if (text "solana:").isPrefixOf (casing.lower (strip raw)) then
    strip (((strip raw).dropWhile fun c => decide (c ≠ 58)).drop 1)
  else strip raw

theorem normalizeSolanaIdentity_eq_some {casing : Casing} {raw identity : Text} :
    normalizeSolanaIdentity casing raw = some identity ↔
      ∃ key : Bytes, key.length = 32 ∧ untagged casing raw = base58Encode key ∧
        identity = text "solana:" ++ base58Encode key := by
  change (match readKey 44 [] [] [] (untagged casing raw) with
    | .ok _ => some (text "solana:" ++ untagged casing raw)
    | .error _ => none) = some identity ↔ _
  split
  · rename_i key read
    obtain ⟨full, written⟩ := (readKey_eq_ok le_rfl).mp read
    rw [written]
    constructor
    · rintro ⟨⟩
      exact ⟨key, full, rfl, rfl⟩
    · rintro ⟨other, _, same, rfl⟩
      rw [same]
  · rename_i refused stopped
    constructor
    · intro accepted
      cases accepted
    · rintro ⟨key, full, written, _⟩
      rw [(readKey_eq_ok le_rfl).mpr ⟨full, written⟩] at stopped
      cases stopped

/-- A key written plainly has no tag. -/
theorem untagged_base58Encode (casing : Casing) {raw : Text} {key : Bytes} (full : key.length = 32)
    (written : strip raw = base58Encode key) : untagged casing raw = base58Encode key := by
  have symbols := base58Encode_symbols (ne_nil_of_length full)
  have lowered : casing.lower (strip raw) = (base58Encode key).map asciiLower := by
    rw [written]
    apply casing.lower_ascii
    intro c member
    have ascii : solanaAlphabet.all (fun c => decide (c.val < 128)) = true := by decide
    exact of_decide_eq_true (List.all_eq_true.mp ascii c (symbols c member))
  have untouched : ¬(text "solana:").isPrefixOf (casing.lower (strip raw)) = true := by
    rw [lowered, List.isPrefixOf_iff_prefix]
    intro tagged
    -- No symbol of a key lowers to a colon.
    have colon : (58 : CodePoint) ∈ (base58Encode key).map asciiLower :=
      tagged.subset (by decide)
    obtain ⟨c, member, same⟩ := List.mem_map.mp colon
    have never : solanaAlphabet.all (fun c => decide (asciiLower c ≠ 58)) = true := by decide
    exact of_decide_eq_true (List.all_eq_true.mp never c (symbols c member)) same
  rw [untagged, if_neg untouched, written]

end MarketSentinel.Venue
