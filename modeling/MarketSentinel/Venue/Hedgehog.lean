import MarketSentinel.Venue.SignedTransaction

/-! The Hedgehog deposit that a signed transaction carries. -/

set_option autoImplicit false

namespace MarketSentinel.Venue.Hedgehog

open Python

/-- The catalogue leaves live trading out of the capabilities. -/
def adapter (liveTrading : Bool) : MarketAdapter where
  marketId := text "hedgehog_markets"
  displayName := text "Hedgehog Markets"
  liveTrading
  liveOrderSides := [text "BUY"]
  liveOrderExposureModel := text "full_size_upper_bound"
  liveOrderExposure _ size limitPrice := .ok (fullSizeExposure size limitPrice)

/-- The fields of a decoded market account that an order reads. -/
structure MarketV1 where
  state : Nat
  closeTimestamp : Int
  amounts : List Nat

structure Outside where
  /-- `_read_market`, from the cache or from the chain. -/
  readMarket : Text → Except Stopped MarketV1
  now : ℚ
  /-- `str.isdigit` of one character. -/
  isDigit : CodePoint → Bool

/-- What `sendTransaction` is called with, and what has been reviewed of it. -/
structure Submission where
  signed : Text
  raw : Bytes
  programId : Text
  marketAccount : Text
  option : Nat
  amountRaw : Int
  instructionData : Bytes
  deriving DecidableEq

def depositDiscriminator : UInt8 := 4

section Model

variable (runtime : Runtime) (config : Dict Text Json) (outside : Outside)

/-- `_pubkey`: a key in its canonical text. -/
def pubkey (value : Text) (label : String) : Except Stopped Text :=
  if strip value = [] then refuse (text "Hedgehog " ++ text label ++ text " is required.")
  else do
    let key ← checked (hedgehogBase58Decode (strip value))
    return base58Encode key

def programId : Except Stopped Text := do
  let configured := field config "hedgehog_program_id"
  let key ← checked (hedgehogBase58Decode (if configured.truthy then str runtime configured
    else text "PARrVs6F5egaNuz8g6pKJyU4ze3eX5xGZCFb3GLiVvu"))
  return base58Encode key

def amountScale : Except Stopped Int :=
  positiveScale config "hedgehog_amount_scale" "Hedgehog amount scale must be a positive integer." 1000000

def splitContractId (contractId : Text) : Except Stopped (Text × Nat) := do
  let wrong := text "Hedgehog contract id must be '<market-account>:<option-index>'."
  require (strip contractId = contractId) wrong
  match split 58 contractId with
  | [account, optionText] =>
    require (optionText ≠ [] ∧ optionText.all outside.isDigit = true)
      (text "Hedgehog contract option index must be a non-negative integer.")
    -- `int` refuses digits that are no decimal digits
    let option ← orRaise (uintOfText optionText)
    require (option ≤ 255) (text "Hedgehog contract option index is outside the supported range.")
    let account ← pubkey account "market account"
    return (account, option)
  | _ => refuse wrong

def status (row : MarketV1) : Text :=
  if row.state = 0 ∧ 0 < row.closeTimestamp ∧ (row.closeTimestamp : ℚ) ≤ outside.now then text "closed"
  else if row.state = 0 then text "active"
  else if row.state = 1 then text "resolved"
  else text "invalid"

/-- Every check before `sendTransaction`. -/
def placeLiveOrder (liveTrading : Bool) (order : OrderRequest) : Except Stopped Submission := do
  let adapter := adapter liveTrading
  checked (ensureCapability adapter)
  checked (ensureOrderMarket adapter order)
  let audit ← checked (preflightLiveOrder runtime adapter config order (text "Hedgehog live trading"))
  require (configBool runtime config "hedgehog_submit_signed_transactions")
    (text ("Hedgehog live trading requires hedgehog_submit_signed_transactions=true " ++
      "after reviewing the signed transaction."))
  require ((firstOf config "hedgehog_rpc_url" "solana_rpc_url").truthy)
    (text "Hedgehog live orders require hedgehog_rpc_url or solana_rpc_url for transaction submission.")
  let (account, option) ← splitContractId outside order.contractId
  -- the outcomes of the market are read here and never compared with the option
  let row ← outside.readMarket account
  require (status outside row = text "active") (text "Hedgehog live orders require an active MarketV1 account.")
  let scale ← amountScale config
  let amountRaw ← rawUnits audit.size scale
  require (0 < amountRaw) (text "Hedgehog order size is below the configured raw-unit precision.")
  let signed := strippedOf runtime order.metadata "signed_transaction" "signedTransaction"
  -- the bytes are decoded, not inspected
  let raw ← decodeSignedTransaction "Hedgehog" signed
  let reviewedProgram ← pubkey (strOrEmpty runtime (firstOf order.metadata "program_id" "programId")) "program id"
  let expectedProgram ← programId runtime config
  require (reviewedProgram = expectedProgram)
    (text "Hedgehog signed transaction metadata targets an unexpected program.")
  require (strip (strOrEmpty runtime (field order.metadata "instruction")) = text "DepositV1")
    (text "Hedgehog live orders require reviewed DepositV1 instruction metadata.")
  let marketAccount ← pubkey (strOrEmpty runtime (firstOf order.metadata "market_account" "marketAccount"))
    "market account"
  require (marketAccount = account)
    (text "Hedgehog signed transaction metadata targets a different market account.")
  let reviewedOption ← demand (← intOf (field order.metadata "option"))
    (text "Hedgehog live orders require a reviewed integer option metadata field.")
  require (reviewedOption = option)
    (text "Hedgehog signed transaction metadata targets a different outcome option.")
  let reviewedAmount ← demand (← intOf (field order.metadata "amount_raw"))
    (text "Hedgehog live orders require a reviewed amount_raw metadata field.")
  require (reviewedAmount = amountRaw)
    (text "Hedgehog signed transaction amount does not match the requested order size.")
  -- `to_bytes` raises for an amount of 2 ^ 64 or more
  let amount ← toLittle 8 amountRaw
  let expectedData := [depositDiscriminator, UInt8.ofNat option] ++ amount
  require (reviewedData runtime order.metadata = hexText expectedData)
    (text ("Hedgehog live orders require reviewed DepositV1 instruction_data " ++
      "matching option and amount_raw."))
  return { signed, raw, programId := expectedProgram, marketAccount := account, option, amountRaw,
           instructionData := expectedData }

/-- The option and the amount of a deposit instruction. -/
def readDeposit : Bytes → Option (Nat × Nat)
  | 4 :: option :: amount => if amount.length = 8 then some (option.toNat, fromLittle amount) else none
  | _ => none

/-- What a forwarded deposit has been checked for: its metadata, neither the outcomes of the market nor the bytes. -/
structure Deposited (order : OrderRequest) (submission : Submission) : Prop where
  terms : ∃ account scale size row, splitContractId outside order.contractId = .ok (account, submission.option) ∧
    amountScale config = .ok scale ∧ order.size = .finite size ∧ rawUnits size scale = .ok submission.amountRaw ∧
    submission.marketAccount = account ∧ outside.readMarket account = .ok row ∧ status outside row = text "active"
  data : ∃ amount, readDeposit submission.instructionData = some (submission.option, amount) ∧
    (amount : Int) = submission.amountRaw
  range : 1 ≤ submission.amountRaw ∧ submission.amountRaw < 2 ^ 64
  written : reviewedData runtime order.metadata = hexText submission.instructionData
  program : pubkey (strOrEmpty runtime (firstOf order.metadata "program_id" "programId")) "program id" =
    .ok submission.programId ∧ programId runtime config = .ok submission.programId
  account : pubkey (strOrEmpty runtime (firstOf order.metadata "market_account" "marketAccount")) "market account" =
    .ok submission.marketAccount

/-- No number that a call reads is infinite, too large for a float or, as the amount, for its eight bytes; the option
is in decimal digits, and a market that cannot be read is an adapter error. -/
structure Legible (order : OrderRequest) : Prop where
  caps : CapsFit config (text "hedgehog_markets")
  option : Graceful (splitContractId outside order.contractId)
  reads : ∀ account, Graceful (outside.readMarket account)
  scale : Graceful (amountScale config)
  amount : ∀ size scale, order.size = .finite size → amountScale config = .ok scale →
    ∃ amountRaw, rawUnits size scale = .ok amountRaw ∧ amountRaw < 2 ^ 64
  reviewed : ∀ name ∈ ["option", "amount_raw"], Graceful (intOf (field order.metadata name))

end Model

theorem placeLiveOrder_unsupported (runtime : Runtime) (config : Dict Text Json) (outside : Outside)
    (order : OrderRequest) :
    placeLiveOrder runtime config outside false order =
      .error (.refused (.unsupportedFeature (text "hedgehog_markets") (text "live_trading"))) := rfl

section Gate

variable {runtime : Runtime} {config : Dict Text Json} {outside : Outside}

theorem splitContractId_option {contractId account : Text} {option : Nat}
    (read : splitContractId outside contractId = .ok (account, option)) : option ≤ 255 := by
  obtain ⟨_, _, read⟩ := Result.bind_eq_ok.mp read
  split at read
  · obtain ⟨_, _, read⟩ := Result.bind_eq_ok.mp read
    obtain ⟨number, _, read⟩ := Result.bind_eq_ok.mp read
    obtain ⟨_, small, read⟩ := Result.bind_eq_ok.mp read
    obtain ⟨_, _, read⟩ := Result.bind_eq_ok.mp read
    rw [require_eq_ok] at small
    cases read
    exact small
  · cases read

/-- With the capability, what is forwarded says in its metadata what the order says. -/
theorem placeLiveOrder_deposited {liveTrading : Bool} {order : OrderRequest} {submission : Submission}
    (placed : placeLiveOrder runtime config outside liveTrading order = .ok submission) :
    Deposited runtime config outside order submission := by
  obtain ⟨_, _, placed⟩ := Result.bind_eq_ok.mp placed
  obtain ⟨_, _, placed⟩ := Result.bind_eq_ok.mp placed
  obtain ⟨audit, passed, placed⟩ := Result.bind_eq_ok.mp placed
  obtain ⟨_, _, placed⟩ := Result.bind_eq_ok.mp placed
  obtain ⟨_, _, placed⟩ := Result.bind_eq_ok.mp placed
  obtain ⟨⟨account, option⟩, split, placed⟩ := Result.bind_eq_ok.mp placed
  obtain ⟨row, held, placed⟩ := Result.bind_eq_ok.mp placed
  obtain ⟨_, active, placed⟩ := Result.bind_eq_ok.mp placed
  obtain ⟨scale, scaled, placed⟩ := Result.bind_eq_ok.mp placed
  obtain ⟨amountRaw, counted, placed⟩ := Result.bind_eq_ok.mp placed
  obtain ⟨_, positive, placed⟩ := Result.bind_eq_ok.mp placed
  obtain ⟨_, _, placed⟩ := Result.bind_eq_ok.mp placed
  obtain ⟨program, readProgram, placed⟩ := Result.bind_eq_ok.mp placed
  obtain ⟨expected, expects, placed⟩ := Result.bind_eq_ok.mp placed
  obtain ⟨_, sameProgram, placed⟩ := Result.bind_eq_ok.mp placed
  obtain ⟨_, _, placed⟩ := Result.bind_eq_ok.mp placed
  obtain ⟨market, readMarket, placed⟩ := Result.bind_eq_ok.mp placed
  obtain ⟨_, sameMarket, placed⟩ := Result.bind_eq_ok.mp placed
  obtain ⟨_, _, placed⟩ := Result.bind_eq_ok.mp placed
  obtain ⟨_, _, placed⟩ := Result.bind_eq_ok.mp placed
  obtain ⟨_, _, placed⟩ := Result.bind_eq_ok.mp placed
  obtain ⟨_, _, placed⟩ := Result.bind_eq_ok.mp placed
  obtain ⟨_, _, placed⟩ := Result.bind_eq_ok.mp placed
  obtain ⟨_, _, placed⟩ := Result.bind_eq_ok.mp placed
  obtain ⟨amount, written, placed⟩ := Result.bind_eq_ok.mp placed
  obtain ⟨_, reviewed, placed⟩ := Result.bind_eq_ok.mp placed
  obtain rfl := Except.ok.inj placed
  rw [require_eq_ok] at active positive sameProgram sameMarket reviewed
  rw [checked_eq_ok] at passed
  obtain ⟨_, small, length, back⟩ := toLittle_eq_ok written
  -- the option was checked to fit one byte, and `to_bytes` raised unless the amount fits eight
  have byte : (UInt8.ofNat option).toNat = option :=
    UInt8.toNat_ofNat_of_lt (Nat.lt_succ_of_le (splitContractId_option split))
  have read : readDeposit ([depositDiscriminator, UInt8.ofNat option] ++ amount) = some (option, fromLittle amount) := by
    simp [readDeposit, depositDiscriminator, length, byte]
  exact {
    terms := ⟨account, scale, audit.size, row, split, scaled, (preflightLiveOrder_approved passed).size, counted,
      rfl, held, active⟩
    data := ⟨fromLittle amount, read, back⟩
    range := ⟨positive, by simpa using small⟩
    written := reviewed
    program := ⟨sameProgram ▸ readProgram, expects⟩
    account := sameMarket ▸ readMarket }

theorem pubkey_graceful (value : Text) (label : String) : Graceful (pubkey value label) := by
  unfold pubkey
  split
  · exact refuse_graceful _
  · refine (checked_graceful (readKey_bounded _ _ _ _ _)).bind fun _ _ => ?_
    exact Result.failsWith_ok _

theorem programId_graceful : Graceful (programId runtime config) := by
  refine (checked_graceful (readKey_bounded _ _ _ _ _)).bind fun _ _ => ?_
  exact Result.failsWith_ok _

/-- A call that reads its numbers and sends nothing ends in an adapter error. -/
theorem placeLiveOrder_graceful {order : OrderRequest} (legible : Legible config outside order) (liveTrading : Bool) :
    Graceful (placeLiveOrder runtime config outside liveTrading order) := by
  have bounded := @preflightLiveOrder_bounded runtime (adapter liveTrading) config legible.caps
    (fun _ _ _ => Result.failsWith_ok _) order (text "Hedgehog live trading")
  unfold placeLiveOrder
  refine (checked_graceful (ensureCapability_bounded _)).bind fun _ _ => ?_
  refine (checked_graceful (ensureOrderMarket_bounded _ _)).bind fun _ _ => ?_
  refine (checked_graceful bounded).bind fun audit passed => ?_
  refine (require_graceful _ _).bind fun _ _ => ?_
  refine (require_graceful _ _).bind fun _ _ => ?_
  refine legible.option.bind fun contract _ => ?_
  refine (legible.reads _).bind fun row _ => ?_
  refine (require_graceful _ _).bind fun _ _ => ?_
  refine legible.scale.bind fun scale scaled => ?_
  obtain ⟨amountRaw, counted, small⟩ :=
    legible.amount audit.size scale (preflightLiveOrder_approved (checked_eq_ok.mp passed)).size scaled
  rw [counted]
  refine (Result.failsWith_ok amountRaw).bind fun _ same => ?_
  obtain rfl := Except.ok.inj same
  refine (require_graceful _ _).bind fun _ positive => ?_
  refine (decodeSignedTransaction_graceful _ _).bind fun _ _ => ?_
  refine (pubkey_graceful _ _).bind fun _ _ => ?_
  refine programId_graceful.bind fun _ _ => ?_
  refine (require_graceful _ _).bind fun _ _ => ?_
  refine (require_graceful _ _).bind fun _ _ => ?_
  refine (pubkey_graceful _ _).bind fun _ _ => ?_
  refine (require_graceful _ _).bind fun _ _ => ?_
  refine (legible.reviewed "option" (by simp)).bind fun _ _ => ?_
  refine (demand_graceful _ _).bind fun _ _ => ?_
  refine (require_graceful _ _).bind fun _ _ => ?_
  refine (legible.reviewed "amount_raw" (by simp)).bind fun _ _ => ?_
  refine (demand_graceful _ _).bind fun _ _ => ?_
  refine (require_graceful _ _).bind fun _ _ => ?_
  refine (toLittle_graceful (require_eq_ok.mp positive).le (by simpa using small)).bind fun _ _ => ?_
  refine (require_graceful _ _).bind fun _ _ => ?_
  exact Result.failsWith_ok _

end Gate

section Examples

def plainRuntime : Runtime where
  casing := asciiCasing
  spell _ := []
  general _ := []

def depositConfig : Dict Text Json :=
  [(text "live_trading_enabled", .bool true), (text "live_trading_confirmed", .bool true),
    (text "hedgehog_submit_signed_transactions", .bool true), (text "solana_rpc_url", .str (text "https://rpc"))]

/-- Every account is an open market of two outcomes. -/
def twoOutcomes : Outside where
  readMarket _ := .ok ⟨0, 0, [5, 7]⟩
  now := 0
  isDigit := isDigit

def poolAccount : Text := text "11111111111111111111111111111112"

def usualProgram : Text := text "PARrVs6F5egaNuz8g6pKJyU4ze3eX5xGZCFb3GLiVvu"

/-- A transaction of nothing but zeros. -/
def emptyTransaction : Bytes := List.replicate 66 0

def deposit (option : String) (size : ℚ) (metadata : Dict Text Json) : OrderRequest where
  marketId := text "hedgehog_markets"
  contractId := poolAccount ++ text (":" ++ option)
  side := text "BUY"
  size := .finite size
  limitPrice := none
  metadata := [(text "signed_transaction", .str (base64Encode emptyTransaction)), (text "program_id", .str usualProgram),
    (text "instruction", .str (text "DepositV1")), (text "market_account", .str poolAccount)] ++ metadata

end Examples

end MarketSentinel.Venue.Hedgehog
