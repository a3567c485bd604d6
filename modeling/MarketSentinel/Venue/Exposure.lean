import MarketSentinel.Venue.Preflight

/-! What an approved order can lose once it is on the wire.

Betfair and Matchbook are sent decimal odds, which are rounded after the checks. Azuro is sent
a signed bet that the adapter never reads; as catalogued it is not sent anything.
-/

set_option autoImplicit false

namespace MarketSentinel.Venue

open Python

inductive BetSide where
  | back
  | lay
  deriving DecidableEq

/-- A bet in decimal odds. Its numbers are the floats that their texts on the wire read back to. -/
structure Bet where
  side : BetSide
  stake : ℚ
  odds : PyFloat
  deriving DecidableEq

/-- The request that places an order. A text of digits for an identifier is sent as a number. -/
inductive Placement where
  | betfair (marketId selectionId : Text) (bet : Bet) (persistenceType : Text) (handicap customerRef : Option Text)
  | matchbook (runnerId : Text) (bet : Bet) (keepInPlay : Bool)
  | azuro (endpoint environment bettor betOwner : Text) (clientBetData : Dict Text Json) (bettorSignature : Text)

/-- The most that a bet can lose, unless there is no bound. -/
def Bet.loss (bet : Bet) : Option ℚ :=
  match bet.side, bet.odds with
  | .back, _ => some bet.stake
  | .lay, .finite odds => some (bet.stake * (odds - 1))
  | .lay, _ => none

/-- The amount inside the signed data of a bet, if it can be read. -/
def signedAmount (clientBetData : Dict Text Json) : Option ℚ :=
  match clientBetData.get? (text "bet") with
  | some (.obj bet) =>
    match PyFloat.ofJson ((Dict.get? bet (text "amount")).getD .null) with
    | .ok (.finite amount) => some amount
    | _ => none
  | _ => none

def Placement.loss : Placement → Option ℚ
  | .betfair _ _ bet _ _ _ => bet.loss
  | .matchbook _ bet _ => bet.loss
  | .azuro _ _ _ _ clientBetData _ => signedAmount clientBetData

section Shared

variable (runtime : Runtime)

def lays (side : Text) : Bool := decide (runtime.casing.upper side ∈ ["SELL", "LAY"].map text)

/-- `1.0 / probability`. -/
def decimalOdds (probability : ℚ) : PyFloat := binary64.round (.finite (1 / probability))

/-- `size * ((1.0 / limit_price) - 1.0)`. -/
def liability (size limitPrice : ℚ) : PyFloat :=
  binary64.round ((PyFloat.finite size).mul (binary64.round ((decimalOdds limitPrice).add (.finite (-1)))))

/-- `live_order_exposure` of the two betting exchanges. -/
def betExposure (name : String) (side : Text) (size : ℚ) (limitPrice : Option ℚ) : Except Refused PyFloat :=
  if lays runtime side = false then .ok (.finite size)
  else
    match limitPrice with
    | some price =>
      if 1 < price then .error (.configuration (text name ++
        text " LAY preflight requires a probability greater than 0 and at most 1."))
      else .ok (liability size price)
    | none => .error (.configuration (text name ++
        text " LAY preflight requires a probability greater than 0 and at most 1."))

def safeProbability : PyFloat → Option ℚ
  | .finite number => if 0 ≤ number ∧ number ≤ 1 then some number else none
  | _ => none

/-- The parts of a contract id, as many as `count` and none of them empty. -/
def splitContractId (count : Nat) (message : String) (contractId : Text) : Except Refused (List Text) :=
  let parts := (split 58 contractId).map strip
  if parts.length ≠ count ∨ [] ∈ parts then .error (.configuration (text message)) else .ok parts

def isPositiveNumber : PyFloat → Bool
  | .finite number => decide (0 < number)
  | _ => false

/-- The checks of `_validate_order` that follow the contract id. -/
def validateBet (side size probability : String) (order : OrderRequest) : Except Refused Unit :=
  if runtime.casing.upper order.side ∉ ["BUY", "SELL", "BACK", "LAY"].map text then
    .error (.configuration (text side))
  else if isPositiveNumber order.size = false then .error (.configuration (text size))
  else if order.limitPrice.any fun price => (safeProbability price).isNone then
    .error (.configuration (text probability))
  else .ok ()

/-- The side, the stake and the rounded odds of an order. -/
def betOf (digits : Nat) (order : OrderRequest) (stake probability : ℚ) : Bet :=
  { side := if lays runtime order.side then .lay else .back
    stake
    odds := binary64.roundDigits digits (decimalOdds probability) }

/-- The probability that the odds of an order are computed from. -/
def oddsProbability (missing outside : String) (order : OrderRequest) : Except Refused ℚ :=
  match order.limitPrice with
  | none => .error (.configuration (text missing))
  | some price =>
    match safeProbability price with
    | some probability =>
      if probability ≤ 0 then .error (.configuration (text outside)) else .ok probability
    | none => .error (.configuration (text outside))

end Shared

section Adapters

variable (runtime : Runtime)

def betfair : MarketAdapter where
  marketId := text "betfair_exchange"
  displayName := text "Betfair Exchange"
  liveTrading := true
  liveOrderSides := ["BUY", "SELL", "BACK", "LAY"].map text
  liveOrderExposureModel := text "exchange_stake_or_lay_liability"
  liveOrderExposure := betExposure runtime "Betfair"

def matchbook : MarketAdapter where
  marketId := text "matchbook"
  displayName := text "Matchbook"
  liveTrading := true
  liveOrderSides := ["BUY", "SELL", "BACK", "LAY"].map text
  liveOrderExposureModel := text "exchange_stake_or_lay_liability"
  liveOrderExposure := betExposure runtime "Matchbook"

/-- Azuro keeps the shared exposure. It is catalogued without the capability to send live orders. -/
def azuro (liveTrading : Bool) : MarketAdapter where
  marketId := text "azuro"
  displayName := text "Azuro"
  liveTrading
  liveOrderSides := [text "BUY"]
  liveOrderExposureModel := text "full_size_upper_bound"
  liveOrderExposure _ size limitPrice := .ok (fullSizeExposure size limitPrice)

/-- The first of two spellings of a field that is set. -/
def eitherField (fields : Dict Text Json) (field other : String) : Text :=
  let first := spelled runtime ((fields.get? (text field)).getD .null)
  if first = [] then spelled runtime ((fields.get? (text other)).getD .null) else first

def present (value : Text) : Option Text := if value = [] then none else some value

/-- `str(handicap)` of a handicap that is given. -/
def handicapOf (metadata : Dict Text Json) : Option Text :=
  match metadata.get? (text "handicap") with
  | none | some .null | some (.str []) => none
  | some (.str value) => some value
  | some other => some (runtime.spell other)

/-- `session` fails where the credentials of the venue are missing. -/
def placeBetfairOrder (session : Except Refused Unit) (config : Dict Text Json) (order : OrderRequest) :
    Except Refused (Preflight × Placement) := do
  ensureCapability (betfair runtime)
  ensureOrderMarket (betfair runtime) order
  let parts ← splitContractId 2 "Betfair contract id must be MARKET_ID:SELECTION_ID." order.contractId
  validateBet runtime "Betfair paper order side must be BUY/SELL or BACK/LAY."
    "Betfair paper order stake must be positive."
    "Betfair paper order limit probability must be between 0 and 1." order
  let preflight ← preflightLiveOrder runtime (betfair runtime) config order (text "live trading")
  -- everything below follows the checks of the cap, the rounding of the odds included
  let probability ← oddsProbability "Betfair live orders require a limit probability."
    "Betfair live order limit probability must be greater than 0 and at most 1." order
  session
  let persistence := eitherField runtime order.metadata "persistence_type" "persistenceType"
  let configured := spelled runtime ((config.get? (text "betfair_persistence_type")).getD .null)
  return (preflight, .betfair (parts.getD 0 []) (parts.getD 1 []) (betOf runtime 4 order preflight.size probability)
    (if persistence ≠ [] then persistence else if configured ≠ [] then configured else text "LAPSE")
    (handicapOf runtime order.metadata)
    (present (eitherField runtime order.metadata "customer_ref" "customerRef")))

def placeMatchbookOrder (session : Except Refused Unit) (config : Dict Text Json) (order : OrderRequest) :
    Except Refused (Preflight × Placement) := do
  ensureCapability (matchbook runtime)
  ensureOrderMarket (matchbook runtime) order
  let parts ← splitContractId 3 "Matchbook contract id must be EVENT_ID:MARKET_ID:RUNNER_ID." order.contractId
  validateBet runtime "Matchbook order side must be BUY/SELL or BACK/LAY."
    "Matchbook order stake must be positive and finite."
    "Matchbook order limit probability must be between 0 and 1." order
  let preflight ← preflightLiveOrder runtime (matchbook runtime) config order (text "live trading")
  let probability ← oddsProbability "Matchbook live orders require a limit probability."
    "Matchbook live order probability must be greater than 0 and at most 1." order
  session
  return (preflight, .matchbook (parts.getD 2 []) (betOf runtime 8 order preflight.size probability)
    (((order.metadata.get? (text "keep_in_play")).map Json.truthy).getD
      (configBool runtime config "matchbook_keep_in_play")))

def validateAzuro (order : OrderRequest) : Except Refused Unit :=
  if runtime.casing.upper order.side ≠ text "BUY" then
    .error (.configuration (text "Azuro orders must use side BUY because bets select an outcome."))
  else if isPositiveNumber order.size = false then
    .error (.configuration (text "Azuro order size must be positive."))
  else if order.limitPrice.any fun price => !isPositiveNumber price then
    .error (.configuration (text "Azuro limit price must be positive decimal odds."))
  else .ok ()

/-- Who bets; `bettorAddress` is the credential from the environment. -/
def azuroBettor (bettorAddress : Except Refused Text) (config : Dict Text Json) (order : OrderRequest) :
    Except Refused Text :=
  let given := spelled runtime ((order.metadata.get? (text "bettor")).getD .null)
  let configured := spelled runtime ((config.get? (text "azuro_bettor_address")).getD .null)
  if given ≠ [] then .ok given else if configured ≠ [] then .ok configured else bettorAddress

def azuroOrderType (order : OrderRequest) : Text :=
  let named := spelled runtime ((order.metadata.get? (text "order_type")).getD .null)
  runtime.casing.lower (if named = [] then text "ordinar" else named)

/-- `_live_order_payload`. -/
def azuroPayload (bettorAddress : Except Refused Text) (config : Dict Text Json) (order : OrderRequest) :
    Except Refused Placement :=
  if azuroOrderType runtime order ∉ ["ordinar", "combo"].map text then
    .error (.configuration (text "Azuro order_type must be ordinar or combo."))
  else
    match azuroBettor runtime bettorAddress config order with
    | .error e => .error e
    | .ok bettor =>
      let owner := spelled runtime ((order.metadata.get? (text "bet_owner")).getD .null)
      let environment := spelled runtime ((order.metadata.get? (text "environment")).getD .null)
      let standing := eitherField runtime config "azuro_environment" "environment"
      -- the signed data go out as they are; nothing compares them with the order
      match order.metadata.get? (text "client_bet_data"),
          ((order.metadata.get? (text "bettor_signature")).getD .null).truthy with
      | some (.obj clientBetData), true =>
        .ok (.azuro (text "/bet/orders/" ++ azuroOrderType runtime order)
          (if environment ≠ [] then environment else if standing ≠ [] then standing else text "PolygonUSDT")
          bettor (if owner = [] then bettor else owner) clientBetData
          (spelled runtime ((order.metadata.get? (text "bettor_signature")).getD .null)))
      | _, _ => .error (.configuration (text ("Azuro live trading requires pre-signed client_bet_data and " ++
          "bettor_signature from a user wallet.")))

def placeAzuroOrder (liveTrading : Bool) (bettorAddress : Except Refused Text) (config : Dict Text Json)
    (order : OrderRequest) : Except Refused (Preflight × Placement) := do
  ensureCapability (azuro liveTrading)
  ensureOrderMarket (azuro liveTrading) order
  let _ ← splitContractId 3 "Azuro contract id must be GAME_ID:CONDITION_ID:OUTCOME_ID." order.contractId
  validateAzuro runtime order
  let preflight ← preflightLiveOrder runtime (azuro liveTrading) config order (text "live trading")
  let placement ← azuroPayload runtime bettorAddress config order
  return (preflight, placement)

end Adapters

/-- The adapters whose exposure does not follow from the size alone. -/
inductive Exchange where
  | betfair
  | matchbook
  | azuro (liveTrading : Bool)

section Sending

variable (runtime : Runtime)

def Exchange.adapter : Exchange → MarketAdapter
  | .betfair => Venue.betfair runtime
  | .matchbook => Venue.matchbook runtime
  | .azuro liveTrading => Venue.azuro liveTrading

/-- What the adapter learns from its surroundings: whether it has a session and who bets. -/
structure Credentials where
  session : Except Refused Unit
  bettorAddress : Except Refused Text

/-- `place_live_order`, with the request it sends. -/
def Exchange.placeLiveOrder (exchange : Exchange) (credentials : Credentials) (config : Dict Text Json)
    (order : OrderRequest) : Except Refused (Preflight × Placement) :=
  match exchange with
  | .betfair => placeBetfairOrder runtime credentials.session config order
  | .matchbook => placeMatchbookOrder runtime credentials.session config order
  | .azuro liveTrading => placeAzuroOrder runtime liveTrading credentials.bettorAddress config order

/-- A lay leaves room below the cap for half a unit of the last digit of its odds and for the rounding of
the floats on the way there. -/
def RoomForOdds (digits : Nat) (order : OrderRequest) (cap : ℚ) : Prop :=
  lays runtime order.side = true → ∀ size probability : ℚ, order.size = .finite size →
    order.limitPrice = some (.finite probability) →
    size * (1 / probability - 1) + size * (1 / (2 * 10 ^ digits) + 1 / probability / 2 ^ 51) ≤ cap

/-- The signed bet names an amount, and the cap covers it. -/
def SignedWithin (order : OrderRequest) (cap : ℚ) : Prop :=
  ∃ clientBetData amount, order.metadata.get? (text "client_bet_data") = some (.obj clientBetData) ∧
    signedAmount clientBetData = some amount ∧ amount ≤ cap

/-- What an order must meet for the cap to cover what is sent. -/
def Exchange.Covered (order : OrderRequest) (cap : ℚ) : Exchange → Prop
  | .betfair => RoomForOdds runtime 4 order cap
  | .matchbook => RoomForOdds runtime 8 order cap
  | .azuro _ => SignedWithin order cap

def Placement.Within (placement : Placement) (cap : ℚ) : Prop := ∃ loss, placement.loss = some loss ∧ loss ≤ cap

/-- The bet that is sent is made from the order that passed the checks. -/
structure BetSent (adapter : MarketAdapter) (digits : Nat) (config : Dict Text Json) (order : OrderRequest)
    (preflight : Preflight) (placement : Placement) : Prop where
  approved : Approved runtime adapter config order preflight
  exposure : adapter.liveOrderExposure = betExposure runtime "Betfair" ∨
    adapter.liveOrderExposure = betExposure runtime "Matchbook"
  bet : ∃ probability, order.limitPrice = some (.finite probability) ∧ 0 < probability ∧ probability ≤ 1 ∧
    placement.loss = (betOf runtime digits order preflight.size probability).loss

end Sending

section Odds

/-- Float odds, rounded to decimals, are above the exact ones by half a unit of the last digit and float errors. -/
theorem roundDigits_decimalOdds_le (digits : Nat) {probability : ℚ} (positive : 0 < probability) (atMost : probability ≤ 1)
    (range : |nearestBinary (1 / probability)| ≤ largestFloat) :
    ∃ odds, binary64.roundDigits digits (decimalOdds probability) = .finite odds ∧
      odds ≤ 1 / probability + (1 / (2 * 10 ^ digits) + 1 / probability / 2 ^ 51) := by
  have finite : decimalOdds probability = .finite (nearestBinary (1 / probability)) := by
    simp only [decimalOdds, FloatRounding.round, binary64]
    rw [if_pos range]
  refine ⟨_, by rw [finite, binary64_roundDigits range], ?_⟩
  set exact_ := 1 / probability
  set decimal := roundTo digits (nearestBinary exact_)
  have above : 1 ≤ exact_ := by
    rw [le_div_iff₀ positive, one_mul]
    exact atMost
  have half := half_unit_le digits
  -- three roundings: of the quotient, of the odds to decimals, of these decimals to a float
  have quotient := (abs_le.mp (abs_nearestBinary_sub_le exact_)).2
  have rounded := (abs_le.mp (abs_roundTo_sub_le digits (nearestBinary exact_))).2
  have below : 0 ≤ decimal := roundTo_nonneg digits (nearestBinary_nonneg (zero_le_one.trans above))
  have written := (abs_le.mp (abs_nearestBinary_sub_le decimal)).2
  have tiny : (2 : ℚ) ^ (-1075 : ℤ) ≤ exact_ * 2 ^ (-53 : ℤ) / 8 := by
    calc (2 : ℚ) ^ (-1075 : ℤ) ≤ 2 ^ (-53 : ℤ) / 8 := by decide +kernel
      _ ≤ exact_ * 2 ^ (-53 : ℤ) / 8 := by
        gcongr
        exact le_mul_of_one_le_left (by positivity) above
  rw [abs_of_nonneg below] at written
  rw [abs_of_nonneg (zero_le_one.trans above)] at quotient
  have unit : (2 : ℚ) ^ (-53 : ℤ) = 1 / 2 ^ 53 := by norm_num
  rw [unit] at tiny quotient written
  nlinarith

end Odds

section Losses

variable {runtime : Runtime}

theorem limitPrice_finite {adapter : MarketAdapter} {order : OrderRequest} {probability : ℚ}
    (given : order.limitPrice = some (.finite probability)) (positive : 0 < probability) :
    limitPrice adapter order = .ok (some probability) := by
  unfold limitPrice
  rw [given]
  simp only [finiteFloat]
  rw [if_neg (not_le.mpr positive)]

theorem safeProbability_eq_some {price : PyFloat} {probability : ℚ} (read : safeProbability price = some probability) :
    price = .finite probability ∧ probability ≤ 1 := by
  cases price with
  | finite number =>
    simp only [safeProbability] at read
    split_ifs at read with within
    cases read
    exact ⟨rfl, within.2⟩
  | inf negative => cases read
  | nan => cases read

theorem oddsProbability_ok {missing outside : String} {order : OrderRequest} {probability : ℚ}
    (read : oddsProbability missing outside order = .ok probability) :
    order.limitPrice = some (.finite probability) ∧ 0 < probability ∧ probability ≤ 1 := by
  unfold oddsProbability at read
  cases given : order.limitPrice with
  | none =>
    rw [given] at read
    cases read
  | some price =>
    simp only [given] at read
    cases safe : safeProbability price with
    | none =>
      rw [safe] at read
      cases read
    | some number =>
      simp only [safe] at read
      split_ifs at read with above
      cases read
      obtain ⟨rfl, atMost⟩ := safeProbability_eq_some safe
      exact ⟨rfl, not_le.mp above, atMost⟩

theorem placeBetfairOrder_sent {session : Except Refused Unit} {config : Dict Text Json} {order : OrderRequest}
    {preflight : Preflight} {placement : Placement}
    (sent : placeBetfairOrder runtime session config order = .ok (preflight, placement)) :
    BetSent runtime (betfair runtime) 4 config order preflight placement := by
  unfold placeBetfairOrder at sent
  obtain ⟨_, _, sent⟩ := Result.bind_eq_ok.mp sent
  obtain ⟨_, _, sent⟩ := Result.bind_eq_ok.mp sent
  obtain ⟨_, _, sent⟩ := Result.bind_eq_ok.mp sent
  obtain ⟨_, _, sent⟩ := Result.bind_eq_ok.mp sent
  obtain ⟨_, passed, sent⟩ := Result.bind_eq_ok.mp sent
  obtain ⟨probability, read, sent⟩ := Result.bind_eq_ok.mp sent
  obtain ⟨_, _, sent⟩ := Result.bind_eq_ok.mp sent
  cases sent
  obtain ⟨limit, positive, atMost⟩ := oddsProbability_ok read
  exact ⟨preflightLiveOrder_approved passed, .inl rfl, probability, limit, positive, atMost, rfl⟩

theorem placeMatchbookOrder_sent {session : Except Refused Unit} {config : Dict Text Json} {order : OrderRequest}
    {preflight : Preflight} {placement : Placement}
    (sent : placeMatchbookOrder runtime session config order = .ok (preflight, placement)) :
    BetSent runtime (matchbook runtime) 8 config order preflight placement := by
  unfold placeMatchbookOrder at sent
  obtain ⟨_, _, sent⟩ := Result.bind_eq_ok.mp sent
  obtain ⟨_, _, sent⟩ := Result.bind_eq_ok.mp sent
  obtain ⟨_, _, sent⟩ := Result.bind_eq_ok.mp sent
  obtain ⟨_, _, sent⟩ := Result.bind_eq_ok.mp sent
  obtain ⟨_, passed, sent⟩ := Result.bind_eq_ok.mp sent
  obtain ⟨probability, read, sent⟩ := Result.bind_eq_ok.mp sent
  obtain ⟨_, _, sent⟩ := Result.bind_eq_ok.mp sent
  cases sent
  obtain ⟨limit, positive, atMost⟩ := oddsProbability_ok read
  exact ⟨preflightLiveOrder_approved passed, .inr rfl, probability, limit, positive, atMost, rfl⟩

/-- The signed bet is the one of the metadata. -/
theorem azuroPayload_loss {bettorAddress : Except Refused Text} {config : Dict Text Json} {order : OrderRequest}
    {placement : Placement} (built : azuroPayload runtime bettorAddress config order = .ok placement) :
    ∃ clientBetData, order.metadata.get? (text "client_bet_data") = some (.obj clientBetData) ∧
      placement.loss = signedAmount clientBetData := by
  unfold azuroPayload at built
  dsimp only at built
  split at built
  · cases built
  split at built
  · cases built
  split at built
  · rename_i given _
    cases built
    exact ⟨_, given, rfl⟩
  · cases built

theorem placeAzuroOrder_sent {liveTrading : Bool} {bettorAddress : Except Refused Text} {config : Dict Text Json}
    {order : OrderRequest} {preflight : Preflight} {placement : Placement}
    (sent : placeAzuroOrder runtime liveTrading bettorAddress config order = .ok (preflight, placement)) :
    liveTrading = true ∧ azuroPayload runtime bettorAddress config order = .ok placement := by
  unfold placeAzuroOrder at sent
  obtain ⟨_, capable, sent⟩ := Result.bind_eq_ok.mp sent
  obtain ⟨_, _, sent⟩ := Result.bind_eq_ok.mp sent
  obtain ⟨_, _, sent⟩ := Result.bind_eq_ok.mp sent
  obtain ⟨_, _, sent⟩ := Result.bind_eq_ok.mp sent
  obtain ⟨_, _, sent⟩ := Result.bind_eq_ok.mp sent
  obtain ⟨_, built, sent⟩ := Result.bind_eq_ok.mp sent
  cases sent
  refine ⟨?_, built⟩
  unfold ensureCapability at capable
  split_ifs at capable with live
  exact live

/-- The checks of a back compare its stake with the cap. -/
theorem BetSent.back {adapter : MarketAdapter} {digits : Nat} {config : Dict Text Json} {order : OrderRequest}
    {preflight : Preflight} {placement : Placement} {cap : ℚ}
    (sent : BetSent runtime adapter digits config order preflight placement)
    (back : lays runtime order.side = false) (capped : preflight.maxNotional = some cap) : placement.Within cap := by
  obtain ⟨probability, _, _, _, loss⟩ := sent.bet
  have exposed := sent.approved.exposure
  have stake : preflight.size = preflight.approxNotional := by
    rcases sent.exposure with exposure | exposure <;>
    · rw [exposure] at exposed
      unfold betExposure at exposed
      rw [if_pos back] at exposed
      exact PyFloat.finite.inj (Except.ok.inj exposed)
  refine ⟨preflight.size, ?_, ?_⟩
  · rw [loss, betOf, back]
    rfl
  · rw [stake]
    exact sent.approved.capped cap capped

/-- An exposure that is finite was computed from finite odds. -/
theorem liability_finite {size price exposure : ℚ} (positive : 0 < size) (read : liability size price = .finite exposure) :
    |nearestBinary (1 / price)| ≤ largestFloat := by
  by_contra above
  have infinite : decimalOdds price = .inf (decide (1 / price < 0)) := by
    simp only [decimalOdds, FloatRounding.round, binary64]
    rw [if_neg above]
  rw [liability, infinite] at read
  have unbounded : (PyFloat.finite size).mul (.inf (decide (1 / price < 0))) = .inf _ := if_neg (by simp [positive.ne'])
  simp only [PyFloat.add, FloatRounding.round, unbounded] at read
  cases read

theorem BetSent.lay {adapter : MarketAdapter} {digits : Nat} {config : Dict Text Json} {order : OrderRequest}
    {preflight : Preflight} {placement : Placement} {cap : ℚ}
    (sent : BetSent runtime adapter digits config order preflight placement) (lay : lays runtime order.side = true)
    (room : RoomForOdds runtime digits order cap) : placement.Within cap := by
  obtain ⟨probability, limit, positive, atMost, loss⟩ := sent.bet
  -- preflight and wire start from the same probability
  have price : preflight.limitPrice = some probability := by
    have read := sent.approved.price
    rw [limitPrice_finite limit positive] at read
    exact (Except.ok.inj read).symm
  -- the exposure that passed is finite, so the odds are
  have range : |nearestBinary (1 / probability)| ≤ largestFloat := by
    have exposed := sent.approved.exposure
    rw [price] at exposed
    rcases sent.exposure with exposure | exposure <;>
    · rw [exposure] at exposed
      unfold betExposure at exposed
      rw [if_neg (by simp [lay])] at exposed
      simp only [if_neg (not_lt.mpr atMost)] at exposed
      exact liability_finite sent.approved.positive (Except.ok.inj exposed)
  obtain ⟨odds, rounded, bound⟩ := roundDigits_decimalOdds_le digits positive atMost range
  refine ⟨preflight.size * (odds - 1), ?_, ?_⟩
  · rw [loss, betOf, lay, rounded]
    rfl
  · have left := room lay preflight.size probability sent.approved.size limit
    have size := sent.approved.positive
    calc preflight.size * (odds - 1)
        ≤ preflight.size * (1 / probability + (1 / (2 * 10 ^ digits) + 1 / probability / 2 ^ 51) - 1) := by gcongr
      _ = preflight.size * (1 / probability - 1) +
          preflight.size * (1 / (2 * 10 ^ digits) + 1 / probability / 2 ^ 51) := by ring
      _ ≤ cap := left

theorem BetSent.maxNotional {adapter : MarketAdapter} {digits : Nat} {config : Dict Text Json} {order : OrderRequest}
    {preflight : Preflight} {placement : Placement} {cap : ℚ}
    (sent : BetSent runtime adapter digits config order preflight placement)
    (capped : positiveConfigFloat config adapter.marketId "live_trading_max_notional" = .ok (some cap)) :
    preflight.maxNotional = some cap := by
  have read := sent.approved.maxNotional
  rw [capped] at read
  exact (Except.ok.inj read).symm

theorem BetSent.within {adapter : MarketAdapter} {digits : Nat} {config : Dict Text Json} {order : OrderRequest}
    {preflight : Preflight} {placement : Placement} {cap : ℚ}
    (sent : BetSent runtime adapter digits config order preflight placement) (capped : preflight.maxNotional = some cap)
    (room : RoomForOdds runtime digits order cap) : placement.Within cap := by
  cases side : lays runtime order.side with
  | false => exact sent.back side capped
  | true => exact sent.lay side room

theorem azuroPayload_within {bettorAddress : Except Refused Text} {config : Dict Text Json} {order : OrderRequest}
    {placement : Placement} (built : azuroPayload runtime bettorAddress config order = .ok placement) (cap : ℚ) :
    placement.Within cap ↔ SignedWithin order cap := by
  obtain ⟨clientBetData, given, loss⟩ := azuroPayload_loss built
  constructor
  · rintro ⟨amount, read, within⟩
    exact ⟨clientBetData, amount, given, loss ▸ read, within⟩
  · rintro ⟨other, amount, same, read, within⟩
    rw [given] at same
    cases same
    exact ⟨amount, loss.trans read, within⟩

end Losses

section Examples

def plainRuntime : Runtime where
  casing := asciiCasing
  spell _ := []
  general _ := []

def signedIn : Credentials := ⟨.ok (), .ok (text "0x01")⟩

/-- Live trading with a cap on the exposure. -/
def liveConfig (cap : String) : Dict Text Json :=
  [(text "live_trading_enabled", .bool true), (text "live_trading_confirmed", .bool true),
    (text "live_trading_max_notional", .str (text cap))]

def layOrder (marketId contractId : String) (size probability : ℚ) : OrderRequest where
  marketId := text marketId
  contractId := text contractId
  side := text "LAY"
  size := .finite size
  limitPrice := some (.finite (nearestBinary probability))
  metadata := []

/-- The most that an order loses that goes out. -/
def sentLoss (exchange : Exchange) (cap : String) (order : OrderRequest) : Option ℚ :=
  (exchange.placeLiveOrder plainRuntime signedIn (liveConfig cap) order).toOption.bind fun sent => sent.2.loss

end Examples

end MarketSentinel.Venue
