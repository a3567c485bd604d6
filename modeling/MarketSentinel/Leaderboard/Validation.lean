import Mathlib.Algebra.Order.Ring.Rat
import MarketSentinel.Library.Dict
import MarketSentinel.Library.Json
import MarketSentinel.Library.Result

/-! Source identities and economics of leaderboard rows.

A page is checked before it is normalized, and a row again before it is stored
and after it was read back.
-/

set_option autoImplicit false

namespace MarketSentinel.Leaderboard

open Python

abbrev Row := Dict Text Json

def walletAliases : List Text :=
  [text "proxyWallet", text "proxy_wallet", text "wallet", text "address", text "userAddress"]

def pnlAliases : List Text :=
  [text "pnl", text "pnlUsd", text "pnl_usd", text "profit", text "profitLoss", text "realizedPnl",
    text "realizedPnlUsd"]

def volumeAliases : List Text :=
  [text "volume", text "volumeUsd", text "volume_usd", text "vol", text "totalVolume", text "totalVolumeUsd"]

def mddUsdAliases : List Text :=
  [text "mdd", text "mddUsd", text "mdd_usd", text "maxDrawdown", text "max_drawdown", text "maxDrawdownUsd"]

def mddPctAliases : List Text :=
  [text "mddPct", text "mdd_pct", text "maxDrawdownPct", text "max_drawdown_pct"]

def invalid {α : Type} (field : String) : Except Text α :=
  .error (text "Leaderboard has an invalid, missing, or contradictory " ++ text field ++
    text "; board coverage is unknown.")

/-! ## Wallet addresses -/

def isHexDigit (c : CodePoint) : Bool :=
  isDigit c || (97 ≤ c.val && c.val ≤ 102) || (65 ≤ c.val && c.val ≤ 70)

/-- `0x` and forty hexadecimal digits, outer blanks aside. -/
def isWalletAddress (t : Text) : Bool :=
  match strip t with
  | a :: b :: digits => decide (a = 48 ∧ b = 120 ∧ digits.length = 40) && digits.all isHexDigit
  | _ => false

def normalizeWallet (casing : Casing) (t : Text) : Option Text :=
  if isWalletAddress (strip t) then some (casing.lower (strip t)) else none

section Fields

variable (casing : Casing) (rounding : FloatRounding)

/-! ## Numbers -/

/-- `float(value)` of a number or a text, when it is finite. -/
def floatValue : Json → Option ℚ
  | .int value => rounding.nearest value
  | .float (.finite value) => some value
  | .str value =>
    match floatText value with
    | some (.finite exact_) => rounding.nearest exact_
    | _ => none
  | _ => none

def number (value : Json) (field : String) (nonnegative integer : Bool) : Except Text ℚ :=
  match floatValue rounding value with
  | none => invalid field
  | some number =>
    if (nonnegative ∧ number < 0) ∨ (integer ∧ number.den ≠ 1) then invalid field else .ok number

def aliasValues (row : Row) (keys : List Text) : List Json :=
  let nested := [text "user", text "profile", text "trader"].filterMap fun key =>
    match row.get? key with
    | some (.obj fields) => some fields
    | _ => none
  (row :: nested).flatMap fun source => keys.filterMap source.get?

def numericAlias (row : Row) (keys : List Text) (field : String) (required nonnegative integer : Bool) :
    Except Text (Option ℚ) :=
  let values := aliasValues row keys
  let values := if required then values else values.filter fun value => decide (value ≠ .null)
  match values with
  | [] => if required then invalid field else .ok none
  | value :: rest => do
    let first ← number rounding value field nonnegative integer
    let others ← rest.mapM fun value => number rounding value field nonnegative integer
    if others.all fun other => decide (other = first) then .ok (some first) else invalid field

def requiredAlias (row : Row) (keys : List Text) (field : String) (nonnegative : Bool) : Except Text ℚ := do
  match ← numericAlias rounding row keys field true nonnegative false with
  | some value => .ok value
  | none => invalid field

/-- `pnl / volume * 100` in floats. -/
def performanceRatio (pnl volume : ℚ) : Option ℚ := do
  let quotient ← rounding.nearest (pnl / volume)
  rounding.nearest (quotient * 100)

structure SourceFields where
  wallet : Text
  pnl : ℚ
  volume : ℚ
  rank : Option Int
  tradeCount : Int
  mddUsd : Option ℚ
  mddPct : Option ℚ
  deriving DecidableEq

def sourceWallet (row : Row) (version : Nat) : Except Text Text :=
  let values := aliasValues row (if version = 2 then [text "user_id"] else walletAliases)
  let wallets := values.map fun value =>
    match value with
    | .str value => normalizeWallet casing (casing.lower (strip value))
    | _ => none
  match wallets with
  | some wallet :: rest =>
    if rest.all fun other => decide (other = some wallet) then .ok wallet else invalid "wallet identity"
  | _ => invalid "wallet identity"

/-- Validate source identities and economics before normalization or pagination. -/
def sourceLeaderboardFields (row : Json) (version : Nat) : Except Text SourceFields :=
  match row with
  | .obj row => do
    let wallet ← sourceWallet casing row version
    let pnl ← requiredAlias rounding row (if version = 2 then [text "pnl"] else pnlAliases) "PnL" false
    let volume ← requiredAlias rounding row (if version = 2 then [text "volume"] else volumeAliases) "volume" true
    if version = 1 ∧ 0 < volume ∧ performanceRatio rounding pnl volume = none then
      invalid "derived PnL/volume ratio"
    else do
      let rank ← numericAlias rounding row [text "rank", text "position"] "rank" false true true
      if rank.any fun rank => decide (rank < 1) then invalid "rank"
      else do
        let trades ← numericAlias rounding row
          [text "trades", text "tradeCount", text "trade_count", text "totalTrades"] "trade count" false true true
        let mddUsd ← numericAlias rounding row mddUsdAliases "dollar drawdown" false true false
        let mddPct ← numericAlias rounding row mddPctAliases "percentage drawdown" false true false
        return {
          wallet := wallet
          pnl := pnl
          volume := volume
          rank := rank.map Rat.num
          tradeCount := (trades.map Rat.num).getD 0
          mddUsd := mddUsd
          mddPct := mddPct }
  | _ => invalid "row object"

/-! ## Stored rows -/

def Row.read (row : Row) (key : String) : Json := (row.get? (text key)).getD .null

/-- The source version of a row: native rows of version 2 carry a user identity. -/
def rawVersion : Json → Nat
  | .obj raw => if (Dict.get? raw (text "user_id")).isSome then 2 else 1
  | _ => 1

/-- `math.isclose` with the tolerances of the stored ratio. -/
def closeRatio (first second : ℚ) : Bool :=
  decide (|first - second| ≤ max (max |first| |second| / 10 ^ 12) (1 / 10 ^ 9))

def checkRatio (ratio : Json) (pnl : ℚ) (volume : Option ℚ) : Except Text Unit := do
  let expected := match volume with
    | some volume => if 0 < volume then some (performanceRatio rounding pnl volume) else none
    | none => none
  if expected = some none then invalid "derived PnL/volume ratio"
  else if ratio = .null then return ()
  else do
    let value ← number rounding ratio "stored PnL/volume ratio" false false
    match expected with
    | some (some expected) => if closeRatio value expected then return () else invalid "stored PnL/volume ratio"
    | _ => invalid "stored PnL/volume ratio"

def checkDrawdown (value : Json) : Except Text Unit :=
  if value = .null then return ()
  else do
    let _ ← number rounding value "stored drawdown" true false
    return ()

def storedWallet (row : Row) : Except Text Text :=
  match row.read "wallet" with
  | .str wallet =>
    match normalizeWallet casing (casing.lower (strip wallet)) with
    | some wallet => .ok wallet
    | none => invalid "stored wallet identity"
  | _ => invalid "stored wallet identity"

/-- Native rows have no monetary volume. -/
def storedVolume (row : Row) (version : Nat) : Except Text (Option ℚ) :=
  if version = 2 then .ok none
  else (number rounding (row.read "volume_usd") "stored volume" true false).map some

/-- The row must say what its source document says. -/
def checkBinding (row : Row) (raw : Dict Text Json) (version : Nat) (wallet : Text) (pnl : ℚ)
    (volume : Option ℚ) : Except Text Unit := do
  let fields ← sourceLeaderboardFields casing rounding (.obj raw) version
  if fields.wallet ≠ wallet ∨ fields.pnl ≠ pnl ∨ (version = 1 ∧ some fields.volume ≠ volume) then
    invalid "stored source binding"
  else if version = 2 then do
    let shares ← number rounding (row.read "volume_shares") "stored share volume" true false
    if shares ≠ fields.volume then invalid "stored share volume binding" else return ()
  else return ()

def validateStoredLeaderboardRow (row : Row) : Except Text Unit := do
  let wallet ← storedWallet casing row
  let pnl ← number rounding (row.read "pnl_usd") "stored PnL" false false
  let raw := row.read "raw"
  let version := rawVersion raw
  if (row.get? (text "source_api_version")).any fun value => decide (value ≠ .int version) then
    invalid "stored source version"
  else do
    let volume ← storedVolume rounding row version
    if version = 2 ∧ (row.read "volume_usd" ≠ .null ∨ row.read "roi_pct" ≠ .null) then
      invalid "v2 share volume represented as monetary turnover"
    else do
      checkRatio rounding (row.read "roi_pct") pnl volume
      checkDrawdown rounding (row.read "mdd_usd")
      checkDrawdown rounding (row.read "mdd_pct")
      match raw with
      | .obj source =>
        if version = 2 ∨ aliasValues source (walletAliases ++ pnlAliases ++ volumeAliases) ≠ [] then
          checkBinding casing rounding row source version wallet pnl volume
        else return ()
      | _ => if (row.get? (text "raw")).isSome then invalid "stored source object" else return ()

end Fields

/-! ## What the validators promise -/

variable {casing : Casing} {rounding : FloatRounding}

theorem asciiLower_hex {c : CodePoint} (hex : isHexDigit c = true) :
    isHexDigit (asciiLower c) = true ∧ (asciiLower c).val < 128 ∧ isSpace (asciiLower c) = false := by
  unfold asciiLower
  split
  · rename_i upper
    have value : (Fin.ofNat 0x110000 (c.val + 32)).val = c.val + 32 := by
      simp only [Fin.ofNat]; omega
    simp only [isHexDigit, isDigit, isSpace, Bool.or_eq_true, Bool.and_eq_true, decide_eq_true_eq] at hex ⊢
    simp only [value, Bool.or_eq_false_iff, Bool.and_eq_false_iff, decide_eq_false_iff_not, beq_eq_false_iff_ne]
    omega
  · simp only [isHexDigit, isDigit, isSpace, Bool.or_eq_true, Bool.and_eq_true, decide_eq_true_eq] at hex ⊢
    simp only [Bool.or_eq_false_iff, Bool.and_eq_false_iff, decide_eq_false_iff_not, beq_eq_false_iff_ne]
    omega

theorem address_shape {t : Text} (address : isWalletAddress t = true) :
    ∃ digits, strip t = 48 :: 120 :: digits ∧ digits.length = 40 ∧ ∀ c ∈ digits, isHexDigit c = true := by
  unfold isWalletAddress at address
  split at address
  · rename_i first second digits shape
    rw [Bool.and_eq_true, decide_eq_true_iff, List.all_eq_true] at address
    obtain ⟨⟨rfl, rfl, long⟩, hex⟩ := address
    exact ⟨digits, shape, long, hex⟩
  · cases address

theorem hex_ascii {c : CodePoint} (hex : isHexDigit c = true) : c.val < 128 := by
  simp only [isHexDigit, isDigit, Bool.or_eq_true, Bool.and_eq_true, decide_eq_true_eq] at hex
  omega

/-- A normalized wallet is its own normal form. -/
theorem normalizeWallet_again {t wallet : Text} (normal : normalizeWallet casing t = some wallet) :
    normalizeWallet casing (casing.lower (strip t)) = some wallet := by
  unfold normalizeWallet at normal
  split at normal
  · rename_i address
    cases normal
    obtain ⟨digits, shape, long, hex⟩ := address_shape address
    rw [strip_strip] at shape
    have ascii : ∀ c ∈ strip t, c.val < 128 := by
      rw [shape]
      intro c member
      rcases List.mem_cons.mp member with rfl | member
      · decide
      · rcases List.mem_cons.mp member with rfl | member
        · decide
        · exact hex_ascii (hex c member)
    have lowered : casing.lower (strip t) = 48 :: 120 :: digits.map asciiLower := by
      rw [casing.lower_ascii _ ascii, shape]
      rfl
    have solid : ∀ c ∈ casing.lower (strip t), isSpace c = false := by
      rw [lowered]
      intro c member
      rcases List.mem_cons.mp member with rfl | member
      · decide
      · rcases List.mem_cons.mp member with rfl | member
        · decide
        · obtain ⟨d, among, rfl⟩ := List.mem_map.mp member
          exact (asciiLower_hex (hex d among)).2.2
    have again : isWalletAddress (strip (casing.lower (strip t))) = true := by
      unfold isWalletAddress
      rw [strip_strip, strip_eq_self solid, lowered]
      simp only [List.length_map, long, List.all_map, Bool.and_eq_true, decide_true, true_and, List.all_eq_true]
      exact fun c member => (asciiLower_hex (hex c member)).1
    unfold normalizeWallet
    rw [if_pos again, strip_eq_self solid, casing.lower_lower]
  · cases normal

/-- A stored row of the native source that says what its document says. -/
structure Native (casing : Casing) (rounding : FloatRounding) (row : Row) (document : Dict Text Json)
    (fields : SourceFields) : Prop where
  raw : row.read "raw" = .obj document
  version : rawVersion (.obj document) = 2
  source : sourceLeaderboardFields casing rounding (.obj document) 2 = .ok fields
  wallet : storedWallet casing row = .ok fields.wallet
  pnl : number rounding (row.read "pnl_usd") "stored PnL" false false = .ok fields.pnl
  shares : number rounding (row.read "volume_shares") "stored share volume" true false = .ok fields.volume
  volume : row.read "volume_usd" = .null
  ratio : row.read "roi_pct" = .null
  mddUsd : checkDrawdown rounding (row.read "mdd_usd") = .ok ()
  mddPct : checkDrawdown rounding (row.read "mdd_pct") = .ok ()

theorem checkRatio_null (pnl : ℚ) : checkRatio rounding .null pnl none = .ok () := by
  simp [checkRatio, pure, Except.pure]

/-- A native row that passes the row validator. -/
theorem validate_native {row : Row} (version : rawVersion (row.read "raw") = 2)
    (passed : validateStoredLeaderboardRow casing rounding row = .ok ()) :
    ∃ document fields, Native casing rounding row document fields := by
  obtain ⟨document, source⟩ : ∃ document, row.read "raw" = .obj document := by
    cases shape : row.read "raw" <;> simp [shape, rawVersion] at version
    exact ⟨_, rfl⟩
  unfold validateStoredLeaderboardRow at passed
  obtain ⟨wallet, stored, rest⟩ := Result.bind_eq_ok.mp passed
  obtain ⟨pnl, pnlRead, rest⟩ := Result.bind_eq_ok.mp rest
  simp only [version] at rest
  split at rest
  · cases rest
  obtain ⟨volume, volumeRead, rest⟩ := Result.bind_eq_ok.mp rest
  simp only [storedVolume, if_true, Except.ok.injEq] at volumeRead
  split at rest
  · cases rest
  rename_i monetary
  simp only [true_and, not_or, not_not] at monetary
  obtain ⟨_, _, rest⟩ := Result.bind_eq_ok.mp rest
  obtain ⟨_, mddUsd, rest⟩ := Result.bind_eq_ok.mp rest
  obtain ⟨_, mddPct, rest⟩ := Result.bind_eq_ok.mp rest
  simp only [source, true_or, if_true] at rest
  unfold checkBinding at rest
  obtain ⟨fields, own, rest⟩ := Result.bind_eq_ok.mp rest
  split at rest
  · cases rest
  rename_i bound
  simp only [not_or, not_not] at bound
  simp only [if_true] at rest
  obtain ⟨shares, sharesRead, rest⟩ := Result.bind_eq_ok.mp rest
  split at rest
  · cases rest
  rename_i same
  exact ⟨document, fields, source, source ▸ version, own, bound.1 ▸ stored, bound.2.1 ▸ pnlRead,
    (not_not.mp same) ▸ sharesRead, monetary.1, monetary.2, mddUsd, mddPct⟩

/-- A native row that names no other version passes the row validator. -/
theorem native_validate {row : Row} {document : Dict Text Json} {fields : SourceFields}
    (native : Native casing rounding row document fields)
    (versioned : ∀ value, row.get? (text "source_api_version") = some value → value = .int 2) :
    validateStoredLeaderboardRow casing rounding row = .ok () := by
  have agrees : ((row.get? (text "source_api_version")).any fun value => decide (value ≠ .int (2 : Nat))) = false := by
    cases given : row.get? (text "source_api_version") with
    | none => rfl
    | some value => simp [versioned value given]
  have version : rawVersion (row.read "raw") = 2 := by rw [native.raw, native.version]
  have bound : checkBinding casing rounding row document 2 fields.wallet fields.pnl none = .ok () := by
    unfold checkBinding
    refine Result.bind_eq_ok.mpr ⟨fields, native.source, ?_⟩
    rw [if_neg (by simp), if_pos rfl]
    exact Result.bind_eq_ok.mpr ⟨fields.volume, native.shares, if_neg (by simp)⟩
  unfold validateStoredLeaderboardRow
  refine Result.bind_eq_ok.mpr ⟨fields.wallet, native.wallet, Result.bind_eq_ok.mpr ⟨fields.pnl, native.pnl, ?_⟩⟩
  simp only [version, agrees, Bool.false_eq_true, if_false]
  refine Result.bind_eq_ok.mpr ⟨none, if_pos rfl, ?_⟩
  rw [if_neg (by simp [native.volume, native.ratio])]
  refine Result.bind_eq_ok.mpr ⟨(), by rw [native.ratio, checkRatio_null], ?_⟩
  refine Result.bind_eq_ok.mpr ⟨(), native.mddUsd, Result.bind_eq_ok.mpr ⟨(), native.mddPct, ?_⟩⟩
  simp only [native.raw, true_or, if_true]
  exact bound

end MarketSentinel.Leaderboard
