import MarketSentinel.Venue.Hedgehog

/-! The Lamas prediction that a signed transaction carries, and the gate of both Solana venues. -/

set_option autoImplicit false

namespace MarketSentinel.Venue.Lamas

open Python

/-- The catalogue leaves live trading out of the capabilities. -/
def adapter (liveTrading : Bool) : MarketAdapter where
  marketId := text "lamas_finance"
  displayName := text "Lamas Finance"
  liveTrading
  liveOrderSides := [text "BUY"]
  liveOrderExposureModel := text "full_size_upper_bound"
  liveOrderExposure _ size limitPrice := .ok (fullSizeExposure size limitPrice)

inductive Game where
  | upOrDown
  | pricePredict
  deriving DecidableEq

def Game.name : Game → Text
  | .upOrDown => text "up_or_down"
  | .pricePredict => text "price_predict"

/-- The fields of a decoded round account that an order reads. -/
inductive Round where
  | upOrDown (stage unixTimeEndLiveStage minBetAmount : Nat)
  | pricePredict (finalized : Nat)

def Round.game : Round → Game
  | .upOrDown .. => .upOrDown
  | .pricePredict _ => .pricePredict

structure Outside where
  /-- `_read_event`, from the cache or from the chain; the round is decoded for its game. -/
  readEvent : (game : Game) → Text → Except Stopped { round : Round // round.game = game }
  clock : ℚ
  /-- `hashlib.sha256(b"global:predict").digest()[:8]`. -/
  discriminator : Bytes
  discriminator_length : discriminator.length = 8

structure Submission where
  signed : Text
  raw : Bytes
  programId : Text
  roundAccount : Text
  game : Game
  outcome : Text
  amountRaw : Int
  instructionData : Bytes
  deriving DecidableEq

section Model

variable (runtime : Runtime) (config : Dict Text Json) (outside : Outside)

def amountScale : Except Stopped Int :=
  positiveScale config "lamas_finance_amount_scale" "Lamas amount scale must be a positive integer." 1000000000

def priceScale : Except Stopped Int :=
  positiveScale config "lamas_finance_price_scale" "Lamas price scale must be a positive integer." 1000000000000

def pubkey (value : Text) (label : String) : Except Stopped Text :=
  if strip value = [] then refuse (text "Lamas " ++ text label ++ text " is required.")
  else do
    let key ← checked (lamasBase58Decode (strip value))
    return base58Encode key

/-- `_program_id(game, None)`: the published program of the game. -/
def programId (game : Game) : Except Stopped Text := do
  let key ← checked (lamasBase58Decode (match game with
    | .pricePredict => text "SqFtqbsedB3HVwYd89wxTwL4UXV5JASq3JoPcApjNMJ"
    | .upOrDown => text "BbCEshx6obrBjzWPXBRxq99GcFVPB8ioe48pUYr711zy"))
  return base58Encode key

def splitContractId (contractId : Text) : Except Stopped (Game × Text × Text) := do
  let wrong := text "Lamas contract id must be '<program>:<round-account>:<outcome>'."
  require (strip contractId = contractId) wrong
  match split 58 contractId with
  | [name, account, outcome] => do
    let game ← demand ([Game.upOrDown, .pricePredict].find? fun game => decide (game.name = name))
      (text "Lamas contract id has an unknown program.")
    let account ← pubkey account "round account"
    return (game, account, runtime.casing.upper (strip outcome))
  | _ => refuse wrong

/-- `_is_open`: the round is active or live and its end has not passed. -/
def isOpen : Round → Bool
  | .upOrDown stage ends _ => decide ((stage = 1 ∨ stage = 2) ∧ ¬(ends ≠ 0 ∧ (ends : ℚ) ≤ outside.clock))
  | .pricePredict finalized => decide (finalized = 0)

def validateAmountRaw (amountRaw : Int) : Except Stopped Unit := do
  require (0 < amountRaw) (text "Lamas order size is below the configured raw-unit precision.")
  require (amountRaw < 2 ^ 64) (text "Lamas order size exceeds the u64 raw-unit range.")

/-- `int(row["min_bet_amount"] or config or 0)`, whose exceptions nobody catches. -/
def minimumBet (round : Round) : Except Stopped Int :=
  let configured := field config "lamas_finance_min_bet_amount"
  let otherwise : Except Stopped Int := if configured.truthy then do orRaise (← intOf configured) else .ok 0
  match round with
  | .upOrDown _ _ minimum => if minimum ≠ 0 then .ok minimum else otherwise
  | .pricePredict _ => otherwise

def isBelowZero : PyFloat → Bool
  | .finite value => decide (value ≤ 0)
  | .inf negative => negative
  | .nan => false

/-- `int(round(float(predict_price) * price_scale))`. -/
def scaledPrice (price : Json) : Except Stopped Int := do
  let value ← match PyFloat.float price with
    | .ok value => Except.ok value
    | .error .invalid => refuse (text "Lamas predict_price must be numeric.")
    | .error .overflow => .error .raised
  require (isBelowZero value = false) (text "Lamas predict_price must be positive.")
  let scale ← priceScale config
  -- rounding an infinity or no number raises
  match value with
  | .finite value => rawUnits value scale
  | _ => .error .raised

/-- The predicted price in raw units. -/
def predictPriceRaw (metadata : Dict Text Json) : Except Stopped Int := do
  let given := field metadata "predict_price_raw"
  let rawValue ← (if given ≠ .null then Except.ok given else do
    let price := field metadata "predict_price"
    require (price ≠ .null)
      (text ("Lamas PricePredict paper/live intents require " ++
        "metadata['predict_price'] or ['predict_price_raw']."))
    let raw ← scaledPrice config price
    return Json.int raw)
  let raw ← demand (← intOf rawValue) (text "Lamas predict_price_raw must be an integer.")
  require (0 < raw ∧ raw < 2 ^ 128) (text "Lamas predict_price_raw is outside the u128 range.")
  return raw

/-- `_build_intent`: the instruction of a prediction. -/
def buildIntent (game : Game) (outcome : Text) (amountRaw : Int) (metadata : Dict Text Json) : Except Stopped Bytes :=
  match game with
  | .upOrDown => do
    require (outcome = text "YES" ∨ outcome = text "NO") (text "Lamas UpOrDown outcome must be YES or NO.")
    let amount ← toLittle 8 amountRaw
    return outside.discriminator ++ (if outcome = text "YES" then 1 else 0) :: amount
  | .pricePredict => do
    require (outcome = text "REFERENCE") (text "Lamas PricePredict outcome must be REFERENCE.")
    let price ← predictPriceRaw config metadata
    let amount ← toLittle 8 amountRaw
    let price ← toLittle 16 price
    return outside.discriminator ++ (amount ++ price)

/-- Every check before `sendTransaction`. -/
def placeLiveOrder (liveTrading : Bool) (order : OrderRequest) : Except Stopped Submission := do
  let adapter := adapter liveTrading
  checked (ensureCapability adapter)
  checked (ensureOrderMarket adapter order)
  let audit ← checked (preflightLiveOrder runtime adapter config order (text "Lamas Finance live trading"))
  require (configBool runtime config "lamas_finance_submit_signed_transactions")
    (text ("Lamas live trading requires lamas_finance_submit_signed_transactions=true " ++
      "after reviewing the signed transaction."))
  require ((firstOf config "lamas_finance_rpc_url" "solana_rpc_url").truthy)
    (text "Lamas live orders require lamas_finance_rpc_url or solana_rpc_url for transaction submission.")
  let (game, account, outcome) ← splitContractId runtime order.contractId
  let row ← outside.readEvent game account
  require (isOpen outside row.val) (text "Lamas live orders require an open prediction round.")
  let scale ← amountScale config
  let amountRaw ← rawUnits audit.size scale
  validateAmountRaw amountRaw
  let minimum ← minimumBet config row.val
  require (minimum = 0 ∨ minimum ≤ amountRaw) (text "Lamas order size is below the round's minimum bet amount.")
  let signed := strippedOf runtime order.metadata "signed_transaction" "signedTransaction"
  let raw ← decodeSignedTransaction "Lamas" signed
  let reviewedProgram ← pubkey (strOrEmpty runtime (firstOf order.metadata "program_id" "programId")) "program id"
  let expectedProgram ← programId game
  require (reviewedProgram = expectedProgram)
    (text "Lamas signed transaction metadata targets an unexpected program.")
  let programKey ← checked (lamasBase58Decode expectedProgram)
  -- from here on the bytes of the transaction are searched as well as its metadata
  require (containsBytes raw programKey)
    (text "Lamas signed transaction does not contain the reviewed program address.")
  require (strip (strOrEmpty runtime (field order.metadata "instruction")) = text "predict")
    (text "Lamas live orders require reviewed predict instruction metadata.")
  let roundAccount ← pubkey (strOrEmpty runtime (firstOf order.metadata "round_account" "roundAccount"))
    "round account"
  require (roundAccount = account) (text "Lamas signed transaction targets a different round account.")
  let instruction ← buildIntent config outside game outcome amountRaw order.metadata
  let accountKey ← checked (lamasBase58Decode account)
  require (containsBytes raw accountKey)
    (text "Lamas signed transaction does not contain the reviewed round account.")
  require (containsBytes raw instruction)
    (text "Lamas signed transaction does not contain the reviewed predict instruction.")
  require (reviewedData runtime order.metadata = hexText instruction)
    (text "Lamas signed transaction instruction_data does not match the reviewed intent.")
  return { signed, raw, programId := expectedProgram, roundAccount := account, game, outcome, amountRaw,
           instructionData := instruction }

/-- The outcome and the amount of a prediction, as the program of the game reads them. -/
def readPredict (discriminator : Bytes) (game : Game) (data : Bytes) : Option (Text × Nat) :=
  if data.take 8 ≠ discriminator then none
  else
    -- a flag and eight bytes, or eight and sixteen bytes
    match game, data.drop 8 with
    | .upOrDown, flag :: amount =>
      if amount.length ≠ 8 then none
      else if flag = 1 then some (text "YES", fromLittle amount)
      else if flag = 0 then some (text "NO", fromLittle amount)
      else none
    | .upOrDown, [] => none
    | .pricePredict, body =>
      if body.length = 24 then some (text "REFERENCE", fromLittle (body.take 8)) else none

/-- What a reviewed submission has been checked for. -/
structure Reviewed (order : OrderRequest) (submission : Submission) : Prop where
  terms : ∃ account scale size row, splitContractId runtime order.contractId =
      .ok (submission.game, account, submission.outcome) ∧
    amountScale config = .ok scale ∧ order.size = .finite size ∧ rawUnits size scale = .ok submission.amountRaw ∧
    submission.roundAccount = account ∧ outside.readEvent submission.game account = .ok row
  data : ∃ amount, readPredict outside.discriminator submission.game submission.instructionData =
      some (submission.outcome, amount) ∧ (amount : Int) = submission.amountRaw
  range : 1 ≤ submission.amountRaw ∧ submission.amountRaw < 2 ^ 64
  written : reviewedData runtime order.metadata = hexText submission.instructionData
  program : ∃ key, lamasBase58Decode submission.programId = .ok key ∧ containsBytes submission.raw key
  account : ∃ key, lamasBase58Decode submission.roundAccount = .ok key ∧ containsBytes submission.raw key
  instruction : containsBytes submission.raw submission.instructionData

/-- No number that a call reads is infinite, too large for a float or no integer where nobody catches that, and a round
that cannot be read is an adapter error. -/
structure Legible (order : OrderRequest) : Prop where
  caps : CapsFit config (text "lamas_finance")
  reads : ∀ game account, Graceful (outside.readEvent game account)
  scale : Graceful (amountScale config)
  amount : ∀ size scale, order.size = .finite size → amountScale config = .ok scale → Graceful (rawUnits size scale)
  minimum : ∀ round, Graceful (minimumBet config round)
  price : Graceful (predictPriceRaw config order.metadata)

end Model

theorem placeLiveOrder_unsupported (runtime : Runtime) (config : Dict Text Json) (outside : Outside)
    (order : OrderRequest) :
    placeLiveOrder runtime config outside false order =
      .error (.refused (.unsupportedFeature (text "lamas_finance") (text "live_trading"))) := rfl

section Gate

variable {runtime : Runtime} {config : Dict Text Json} {outside : Outside}

/-- The program of the game reads back what the intent was built from. -/
theorem readPredict_buildIntent {game : Game} {outcome : Text} {amountRaw : Int} {metadata : Dict Text Json}
    {data : Bytes} (built : buildIntent config outside game outcome amountRaw metadata = .ok data) :
    ∃ amount, readPredict outside.discriminator game data = some (outcome, amount) ∧ (amount : Int) = amountRaw := by
  have front : ∀ body : Bytes, (outside.discriminator ++ body).take 8 = outside.discriminator ∧
      (outside.discriminator ++ body).drop 8 = body := by
    intro body
    exact ⟨List.take_left' outside.discriminator_length, List.drop_left' outside.discriminator_length⟩
  cases game with
  | upOrDown =>
    -- one byte for the outcome, then the amount
    obtain ⟨_, known, built⟩ := Result.bind_eq_ok.mp built
    obtain ⟨amount, written, built⟩ := Result.bind_eq_ok.mp built
    obtain rfl := Except.ok.inj built
    obtain ⟨_, _, length, back⟩ := toLittle_eq_ok written
    rw [require_eq_ok] at known
    obtain ⟨taken, dropped⟩ := front ((if outcome = text "YES" then 1 else 0) :: amount)
    refine ⟨fromLittle amount, ?_, back⟩
    unfold readPredict
    rw [if_neg (not_not.mpr taken)]
    simp only [dropped]
    have apart : text "NO" ≠ text "YES" := by decide
    rcases known with rfl | rfl
    · simp [length]
    · simp [length, apart]
  | pricePredict =>
    -- the amount, then the predicted price, which the reader skips
    obtain ⟨_, known, built⟩ := Result.bind_eq_ok.mp built
    obtain ⟨price, _, built⟩ := Result.bind_eq_ok.mp built
    obtain ⟨amount, written, built⟩ := Result.bind_eq_ok.mp built
    obtain ⟨priced, writtenPrice, built⟩ := Result.bind_eq_ok.mp built
    obtain rfl := Except.ok.inj built
    obtain ⟨_, _, length, back⟩ := toLittle_eq_ok written
    obtain ⟨_, _, priceLength, _⟩ := toLittle_eq_ok writtenPrice
    rw [require_eq_ok] at known
    obtain ⟨taken, dropped⟩ := front (amount ++ priced)
    refine ⟨fromLittle amount, ?_, back⟩
    unfold readPredict
    rw [if_neg (not_not.mpr taken)]
    simp only [dropped]
    simp [length, priceLength, known, List.take_left' length]

/-- With the capability, a forwarded transaction is reviewed in every respect. -/
theorem placeLiveOrder_reviewed {liveTrading : Bool} {order : OrderRequest} {submission : Submission}
    (placed : placeLiveOrder runtime config outside liveTrading order = .ok submission) :
    Reviewed runtime config outside order submission := by
  obtain ⟨_, _, placed⟩ := Result.bind_eq_ok.mp placed
  obtain ⟨_, _, placed⟩ := Result.bind_eq_ok.mp placed
  obtain ⟨audit, passed, placed⟩ := Result.bind_eq_ok.mp placed
  obtain ⟨_, _, placed⟩ := Result.bind_eq_ok.mp placed
  obtain ⟨_, _, placed⟩ := Result.bind_eq_ok.mp placed
  obtain ⟨⟨game, account, outcome⟩, split, placed⟩ := Result.bind_eq_ok.mp placed
  obtain ⟨row, held, placed⟩ := Result.bind_eq_ok.mp placed
  obtain ⟨_, _, placed⟩ := Result.bind_eq_ok.mp placed
  obtain ⟨scale, scaled, placed⟩ := Result.bind_eq_ok.mp placed
  obtain ⟨amountRaw, counted, placed⟩ := Result.bind_eq_ok.mp placed
  obtain ⟨_, amounts, placed⟩ := Result.bind_eq_ok.mp placed
  obtain ⟨_, _, placed⟩ := Result.bind_eq_ok.mp placed
  obtain ⟨_, _, placed⟩ := Result.bind_eq_ok.mp placed
  obtain ⟨raw, _, placed⟩ := Result.bind_eq_ok.mp placed
  obtain ⟨_, _, placed⟩ := Result.bind_eq_ok.mp placed
  obtain ⟨program, _, placed⟩ := Result.bind_eq_ok.mp placed
  obtain ⟨_, _, placed⟩ := Result.bind_eq_ok.mp placed
  obtain ⟨programKey, readProgram, placed⟩ := Result.bind_eq_ok.mp placed
  obtain ⟨_, hasProgram, placed⟩ := Result.bind_eq_ok.mp placed
  obtain ⟨_, _, placed⟩ := Result.bind_eq_ok.mp placed
  obtain ⟨_, _, placed⟩ := Result.bind_eq_ok.mp placed
  obtain ⟨_, _, placed⟩ := Result.bind_eq_ok.mp placed
  obtain ⟨data, built, placed⟩ := Result.bind_eq_ok.mp placed
  obtain ⟨accountKey, readAccount, placed⟩ := Result.bind_eq_ok.mp placed
  obtain ⟨_, hasAccount, placed⟩ := Result.bind_eq_ok.mp placed
  obtain ⟨_, hasData, placed⟩ := Result.bind_eq_ok.mp placed
  obtain ⟨_, reviewed, placed⟩ := Result.bind_eq_ok.mp placed
  -- all checks have passed; what is left is the submission
  obtain rfl := Except.ok.inj placed
  rw [checked_eq_ok] at passed readProgram readAccount
  rw [require_eq_ok] at hasProgram hasAccount hasData reviewed
  obtain ⟨_, positive, small⟩ := Result.bind_eq_ok.mp amounts
  rw [require_eq_ok] at positive small
  exact {
    terms := ⟨account, scale, audit.size, row, split, scaled, (preflightLiveOrder_approved passed).size, counted,
      rfl, held⟩
    data := readPredict_buildIntent built
    range := ⟨positive, small⟩
    written := reviewed
    program := ⟨programKey, readProgram, hasProgram⟩
    account := ⟨accountKey, readAccount, hasAccount⟩
    instruction := hasData }

theorem pubkey_graceful (value : Text) (label : String) : Graceful (pubkey value label) := by
  unfold pubkey
  split
  · exact refuse_graceful _
  · refine (checked_graceful (lamasBase58Decode_bounded _)).bind fun _ _ => ?_
    exact Result.failsWith_ok _

theorem programId_graceful (game : Game) : Graceful (programId game) := by
  refine (checked_graceful (lamasBase58Decode_bounded _)).bind fun _ _ => ?_
  exact Result.failsWith_ok _

theorem splitContractId_graceful (contractId : Text) : Graceful (splitContractId runtime contractId) := by
  unfold splitContractId
  refine (require_graceful _ _).bind fun _ _ => ?_
  split
  · refine (demand_graceful _ _).bind fun _ _ => ?_
    refine (pubkey_graceful _ _).bind fun _ _ => ?_
    exact Result.failsWith_ok _
  · exact refuse_graceful _

theorem validateAmountRaw_graceful (amountRaw : Int) : Graceful (validateAmountRaw amountRaw) :=
  (require_graceful _ _).bind fun _ _ => require_graceful _ _

theorem predictPriceRaw_range {metadata : Dict Text Json} {raw : Int} (read : predictPriceRaw config metadata = .ok raw) :
    0 < raw ∧ raw < 2 ^ 128 := by
  obtain ⟨_, _, read⟩ := Result.bind_eq_ok.mp read
  obtain ⟨_, _, read⟩ := Result.bind_eq_ok.mp read
  obtain ⟨_, _, read⟩ := Result.bind_eq_ok.mp read
  obtain ⟨_, range, read⟩ := Result.bind_eq_ok.mp read
  cases read
  exact require_eq_ok.mp range

/-- Both numbers of an intent fit their bytes. -/
theorem buildIntent_graceful {amountRaw : Int} {metadata : Dict Text Json}
    (price : Graceful (predictPriceRaw config metadata)) (positive : 0 < amountRaw) (small : amountRaw < 2 ^ 64)
    (game : Game) (outcome : Text) : Graceful (buildIntent config outside game outcome amountRaw metadata) := by
  have amount : Graceful (toLittle 8 amountRaw) := toLittle_graceful positive.le (by simpa using small)
  cases game with
  | upOrDown =>
    refine (require_graceful _ _).bind fun _ _ => ?_
    refine amount.bind fun _ _ => ?_
    exact Result.failsWith_ok _
  | pricePredict =>
    refine (require_graceful _ _).bind fun _ _ => ?_
    refine price.bind fun raw read => ?_
    obtain ⟨above, below⟩ := predictPriceRaw_range read
    refine amount.bind fun _ _ => ?_
    refine (toLittle_graceful above.le (by simpa using below)).bind fun _ _ => ?_
    exact Result.failsWith_ok _

/-- A call that reads its numbers and sends nothing ends in an adapter error. -/
theorem placeLiveOrder_graceful {order : OrderRequest} (legible : Legible config outside order) (liveTrading : Bool) :
    Graceful (placeLiveOrder runtime config outside liveTrading order) := by
  have bounded := @preflightLiveOrder_bounded runtime (adapter liveTrading) config legible.caps
    (fun _ _ _ => Result.failsWith_ok _) order (text "Lamas Finance live trading")
  unfold placeLiveOrder
  refine (checked_graceful (ensureCapability_bounded _)).bind fun _ _ => ?_
  refine (checked_graceful (ensureOrderMarket_bounded _ _)).bind fun _ _ => ?_
  refine (checked_graceful bounded).bind fun audit passed => ?_
  have size := (preflightLiveOrder_approved (checked_eq_ok.mp passed)).size
  refine (require_graceful _ _).bind fun _ _ => ?_
  refine (require_graceful _ _).bind fun _ _ => ?_
  refine (splitContractId_graceful _).bind fun _ _ => ?_
  refine (legible.reads _ _).bind fun _ _ => ?_
  refine (require_graceful _ _).bind fun _ _ => ?_
  refine legible.scale.bind fun scale scaled => ?_
  refine (legible.amount audit.size scale size scaled).bind fun amountRaw _ => ?_
  refine (validateAmountRaw_graceful amountRaw).bind fun _ range => ?_
  obtain ⟨_, positive, small⟩ := Result.bind_eq_ok.mp range
  refine (legible.minimum _).bind fun _ _ => ?_
  refine (require_graceful _ _).bind fun _ _ => ?_
  refine (decodeSignedTransaction_graceful _ _).bind fun _ _ => ?_
  refine (pubkey_graceful _ _).bind fun _ _ => ?_
  refine (programId_graceful _).bind fun _ _ => ?_
  refine (require_graceful _ _).bind fun _ _ => ?_
  refine (checked_graceful (lamasBase58Decode_bounded _)).bind fun _ _ => ?_
  refine (require_graceful _ _).bind fun _ _ => ?_
  refine (require_graceful _ _).bind fun _ _ => ?_
  refine (pubkey_graceful _ _).bind fun _ _ => ?_
  refine (require_graceful _ _).bind fun _ _ => ?_
  refine (buildIntent_graceful legible.price (require_eq_ok.mp positive) (require_eq_ok.mp small) _ _).bind fun _ _ => ?_
  refine (checked_graceful (lamasBase58Decode_bounded _)).bind fun _ _ => ?_
  refine (require_graceful _ _).bind fun _ _ => ?_
  refine (require_graceful _ _).bind fun _ _ => ?_
  refine (require_graceful _ _).bind fun _ _ => ?_
  exact Result.failsWith_ok _

end Gate

section Examples

def openRound : Outside where
  readEvent game _ := .ok (match game with
    | .upOrDown => ⟨.upOrDown 1 0 0, rfl⟩
    | .pricePredict => ⟨.pricePredict 0, rfl⟩)
  clock := 0
  discriminator := [254, 114, 112, 244, 37, 49, 32, 128]
  discriminator_length := rfl

def predictionConfig : Dict Text Json :=
  [(text "live_trading_enabled", .bool true), (text "live_trading_confirmed", .bool true),
    (text "lamas_finance_submit_signed_transactions", .bool true), (text "solana_rpc_url", .str (text "https://rpc"))]

def usualProgram : Text := text "BbCEshx6obrBjzWPXBRxq99GcFVPB8ioe48pUYr711zy"

/-- Two units on YES. -/
def yesInstruction : Bytes := [254, 114, 112, 244, 37, 49, 32, 128, 1, 0, 148, 53, 119, 0, 0, 0, 0]

def yesTransaction : Bytes :=
  ((lamasBase58Decode usualProgram).toOption.getD []) ++ List.replicate 31 0 ++ [1] ++ yesInstruction

def prediction : OrderRequest where
  marketId := text "lamas_finance"
  contractId := text "up_or_down:11111111111111111111111111111112:YES"
  side := text "BUY"
  size := .finite 2
  limitPrice := none
  metadata := [(text "signed_transaction", .str (base64Encode yesTransaction)), (text "program_id", .str usualProgram),
    (text "instruction", .str (text "predict")), (text "round_account", .str (text "11111111111111111111111111111112")),
    (text "instruction_data", .str (hexText yesInstruction))]

end Examples

end MarketSentinel.Venue.Lamas
