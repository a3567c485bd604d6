import MarketSentinel.Quotes.Orders

/-! What rounding does to an approved order.

A venue is written a size and a price on two grids. The price may be that of the
other side, one minus the price of the order.
-/

set_option autoImplicit false

namespace MarketSentinel.Quotes

open Python Wallet
open Venue (Runtime Refused Stopped OrderRequest Preflight MarketAdapter Terms)

/-- How an adapter writes an order, before it rounds. -/
structure Written where
  ties : Ties
  sizeScale : ℚ
  priceScale : ℚ
  /-- The price of the other side is written. -/
  mirrored : Bool
  contract : Text
  buys : Bool
  size : ℚ
  limit : ℚ
  deriving DecidableEq

namespace Written

/-- The price that goes on the grid. -/
def price (written : Written) : ℚ := if written.mirrored then 1 - written.limit else written.limit

/-- The terms that can be read back. -/
def terms (written : Written) : Terms Text where
  contract := written.contract
  buys := written.buys
  quantity := written.ties.onGrid written.sizeScale written.size
  price :=
    if written.mirrored then 1 - written.ties.onGrid written.priceScale written.price
    else written.ties.onGrid written.priceScale written.price

/-- The grids have room for the order: its size is not rounded up, and its price not against the account. -/
structure Fits (written : Written) : Prop where
  least : 1 ≤ written.size * written.sizeScale
  size : written.ties.Down (written.size * written.sizeScale)
  price : if written.buys = written.mirrored then written.ties.Above written.priceScale written.price
    else written.ties.Below written.priceScale written.price

/-- The terms stay within the order. -/
structure Within (written : Written) : Prop where
  some : 0 < written.terms.quantity
  size : written.terms.quantity ≤ written.size
  inside : 0 < written.terms.price ∧ written.terms.price < 1
  better : if written.buys then written.terms.price ≤ written.limit else written.limit ≤ written.terms.price

theorem within_iff_fits {written : Written} (sizeUnit : 0 < written.sizeScale) (priceUnit : 0 < written.priceScale) :
    written.Within ↔ written.Fits := by
  have sizes := @Ties.onGrid_fits_iff written.ties _ written.size sizeUnit
  have below := @Ties.below_iff written.ties _ written.price priceUnit
  have above := @Ties.above_iff written.ties _ written.price priceUnit
  have prices : (0 < written.terms.price ∧ written.terms.price < 1) ∧
      (if written.buys then written.terms.price ≤ written.limit else written.limit ≤ written.terms.price) ↔
        if written.buys = written.mirrored then written.ties.Above written.priceScale written.price
        else written.ties.Below written.priceScale written.price := by
    -- buying at a price is selling the other side at its complement, so the mirror turns the comparison around
    cases mirrored : written.mirrored with
    | false =>
      have own : written.price = written.limit := by simp [price, mirrored]
      cases written.buys with
      | false => simpa [terms, mirrored, own] using own ▸ above
      | true => simpa [terms, mirrored, own] using own ▸ below
    | true =>
      have other : written.limit = 1 - written.price := by simp [price, mirrored]
      have inside : (0 < written.terms.price ∧ written.terms.price < 1) ↔
          0 < written.ties.onGrid written.priceScale written.price ∧
            written.ties.onGrid written.priceScale written.price < 1 := by
        simp [terms, mirrored, and_comm]
      have shown : written.terms.price = 1 - written.ties.onGrid written.priceScale written.price := by
        simp [terms, mirrored]
      rw [inside, shown, other]
      cases written.buys with
      | false => simpa only [Bool.false_eq_true, if_false, sub_le_sub_iff_left] using below
      | true => simpa only [if_true, sub_le_sub_iff_left] using above
  constructor
  · rintro ⟨some, size, inside, better⟩
    obtain ⟨least, down⟩ := sizes.mp ⟨some, size⟩
    exact ⟨least, down, prices.mp ⟨inside, better⟩⟩
  · rintro ⟨least, down, fits⟩
    obtain ⟨some, size⟩ := sizes.mpr ⟨least, down⟩
    obtain ⟨inside, better⟩ := prices.mpr fits
    exact ⟨some, size, inside, better⟩

end Written

section Plans

variable (runtime : Runtime)

/-- A number of an order, when it is finite. -/
def numberOf (value : PyFloat) : Option ℚ := Listing.finite (.float value)

/-- Kalshi: hundredths of a contract and ten thousandths of a dollar, for YES. -/
def Kalshi.plan (order : OrderRequest) : Option Written := do
  let (ticker, outcome) ← (Kalshi.splitContractId runtime order.contractId).toOption
  let size ← numberOf order.size
  let limit ← order.limitPrice.bind numberOf
  return ⟨.even, 10 ^ 2, 10 ^ 4, decide (outcome = .no), ticker, Venue.buys runtime order.side, size, limit⟩

/-- Smarkets: the two scales. -/
def Smarkets.plan (config : Item) (order : OrderRequest) : Option Written := do
  let (marketId, contractId) ← (Smarkets.splitContractId order.contractId).toOption
  let size ← numberOf order.size
  let limit ← order.limitPrice.bind Smarkets.probability
  let priceScale ← (Smarkets.priceScale config).toOption
  let quantityScale ← (Smarkets.quantityScale config).toOption
  return ⟨.even, quantityScale, priceScale, false, marketId ++ text ":" ++ contractId, Venue.buys runtime order.side, size,
    limit⟩

/-- SX Bet: units of the token, and odds for a maker who takes the other outcome of what is sold. -/
def SxBet.plan (config : Item) (order : OrderRequest) : Option Written := do
  let (marketHash, _) ← (SxBet.splitContractId runtime order.contractId).toOption
  let size ← numberOf order.size
  let limit ← order.limitPrice.bind numberOf
  let decimals ← (SxBet.baseTokenDecimals config).toOption
  return ⟨.up, 10 ^ decimals, SxBet.oddsScale, !Venue.buys runtime order.side, marketHash, Venue.buys runtime order.side,
    size, limit⟩

def Writer.plan (writer : Writer) (config : Item) (order : OrderRequest) : Option Written :=
  match writer with
  | .kalshi => Kalshi.plan runtime order
  | .smarkets => Smarkets.plan runtime config order
  | .sxBet => SxBet.plan runtime config order

/-- An order that was sent, with its plan. -/
structure Sent (writer : Writer) (config : Item) (order : OrderRequest) (preflight : Preflight) (body : Body)
    (written : Written) : Prop where
  passed : Venue.preflightLiveOrder runtime writer.adapter config order (text "live trading") = .ok preflight
  planned : writer.plan runtime config order = some written
  shown : body.terms runtime config order = some written.terms
  size : written.size = preflight.size
  buys : written.buys = Venue.buys runtime order.side
  sizeUnit : 0 < written.sizeScale
  priceUnit : 0 < written.priceScale
  /-- A limit price in another unit is written as a price of no contract. -/
  limit : ∃ limit, writer.limit order = some limit ∧
    (written.limit = limit ∨ ¬ (0 < written.terms.price ∧ written.terms.price < 1))

/-- What a body asks for stays within the approved order and its limit price. -/
structure StaysWithin (writer : Writer) (config : Item) (order : OrderRequest) (preflight : Preflight) (limit : ℚ)
    (terms : Terms Text) : Prop where
  side : terms.buys = Venue.buys runtime order.side
  positive : 0 < terms.quantity
  size : terms.quantity ≤ preflight.size
  capped : ∀ cap, Venue.positiveConfigFloat config writer.adapter.marketId "live_trading_max_size" = .ok (some cap) →
    terms.quantity ≤ cap
  inside : 0 < terms.price ∧ terms.price < 1
  better : if terms.buys then terms.price ≤ limit else limit ≤ terms.price

end Plans

section Sending

variable {runtime : Runtime} {config : Item} {order : OrderRequest} {preflight : Preflight}

/-- The limit price of an approved order is a number above zero. -/
theorem limit_of_approved {adapter : MarketAdapter} (approved : Venue.Approved runtime adapter config order preflight)
    {limit : PyFloat} (given : order.limitPrice = some limit) : ∃ number, limit = .finite number := by
  have checked := approved.price
  unfold Venue.limitPrice at checked
  rw [given] at checked
  cases read : Venue.finiteFloat "limit price" limit with
  | error why =>
    simp only [read] at checked
    cases checked
  | ok number => exact ⟨number, Venue.finiteFloat_ok read⟩

/-- What a payload says, from the contract and the limit price that the order names. -/
theorem Kalshi.buildLiveOrderPayload_ok {fresh : Text} {payload : Kalshi.LivePayload}
    (built : Kalshi.buildLiveOrderPayload runtime config fresh order = .ok payload) :
    ∃ outcome limit, Kalshi.splitContractId runtime order.contractId = .ok (payload.ticker, outcome) ∧
      order.limitPrice = some limit ∧ payload.count = Kalshi.fixedDecimal 2 order.size ∧
      payload.side = (Kalshi.yesSideOrder runtime order.side outcome limit).1 ∧
      payload.price = Kalshi.fixedDecimal 4 (Kalshi.yesSideOrder runtime order.side outcome limit).2 := by
  unfold Kalshi.buildLiveOrderPayload at built
  obtain ⟨⟨ticker, outcome⟩, contract, built⟩ := Result.bind_eq_ok.mp built
  cases given : order.limitPrice with
  | none =>
    simp only [given] at built
    cases built
  | some limit =>
    simp only [given] at built
    split at built
    · cases built
    · split at built
      · cases built
      · cases built
        exact ⟨outcome, limit, contract, rfl, rfl, rfl, rfl⟩

/-- Both outcomes are written as an order on YES. -/
theorem Kalshi.terms_of_yesSideOrder {outcome : Kalshi.Outcome} {limit size : ℚ} {payload : Kalshi.LivePayload}
    (count : payload.count = Kalshi.fixedDecimal 2 (.finite size))
    (side : payload.side = (Kalshi.yesSideOrder runtime order.side outcome (.finite limit)).1)
    (price : payload.price = Kalshi.fixedDecimal 4 (Kalshi.yesSideOrder runtime order.side outcome (.finite limit)).2) :
    payload.terms outcome = some (Written.terms ⟨.even, 10 ^ 2, 10 ^ 4, decide (outcome = .no), payload.ticker,
      Venue.buys runtime order.side, size, limit⟩) := by
  unfold Kalshi.LivePayload.terms
  cases outcome with
  | yes =>
    simp only [Kalshi.yesSideOrder] at side price
    simp only [count, side, price, Kalshi.fixedDecimal]
    cases bought : decide (runtime.casing.upper order.side = text "BUY") with
    | true => simp [Venue.buys, bought, Written.terms, Written.price, Ties.onGrid, Ties.nearest, roundTo]
    | false => simp [Venue.buys, bought, Written.terms, Written.price, Ties.onGrid, Ties.nearest, roundTo]
  | no =>
    simp only [Kalshi.yesSideOrder, PyFloat.exact_sub] at side price
    simp only [count, side, price, Kalshi.fixedDecimal]
    cases bought : decide (runtime.casing.upper order.side = text "BUY") with
    | true => simp [Venue.buys, bought, Written.terms, Written.price, Ties.onGrid, Ties.nearest, roundTo]
    | false => simp [Venue.buys, bought, Written.terms, Written.price, Ties.onGrid, Ties.nearest, roundTo]

theorem validateTerms_ok {side size price : String} {accepts : PyFloat → Bool} {u : Unit}
    (valid : validateTerms runtime side size price accepts order = .ok u) {limit : PyFloat}
    (given : order.limitPrice = some limit) : accepts limit = true := by
  unfold validateTerms at valid
  rw [given] at valid
  split_ifs at valid with _ _ refused
  simpa using refused

/-- A limit price in cents is written as dollars, where no contract trades. -/
theorem Kalshi.outside_of_cents {written : Written} (scale : written.priceScale = 10 ^ 4)
    (cents : 1 < written.limit) : ¬ (0 < written.terms.price ∧ written.terms.price < 1) := by
  have unit : (0 : ℚ) < written.priceScale := by
    rw [scale]
    norm_num
  rintro ⟨above, below⟩
  cases mirrored : written.mirrored with
  | false =>
    have shown : written.terms.price = written.ties.onGrid written.priceScale written.limit := by
      simp [Written.terms, Written.price, mirrored]
    rw [shown, written.ties.onGrid_lt_one_iff unit] at below
    have multiple : (10 ^ 4 : ℚ) < written.limit * written.priceScale := by
      rw [scale]
      linarith
    have whole : (10 ^ 4 : ℤ) ≤ ⌊written.limit * written.priceScale⌋ := by
      apply Int.le_floor.mpr
      push_cast
      exact multiple.le
    have least : (10 ^ 4 : ℤ) ≤ written.ties.nearest (written.limit * written.priceScale) := by
      rw [written.ties.nearest_eq (by linarith)]
      split_ifs <;> omega
    have least : (10 ^ 4 : ℚ) ≤ written.ties.nearest (written.limit * written.priceScale) := by exact_mod_cast least
    rw [scale] at below least
    linarith
  | true =>
    have shown : written.terms.price = 1 - written.ties.onGrid written.priceScale (1 - written.limit) := by
      simp [Written.terms, Written.price, mirrored]
    have some : 0 < written.ties.onGrid written.priceScale (1 - written.limit) := by linarith
    have written_pos := (written.ties.onGrid_pos_iff unit).mp some
    have nothing := written.ties.nearest_nonpos (mul_nonpos_of_nonpos_of_nonneg (by linarith : 1 - written.limit ≤ 0) unit.le)
    omega

theorem Kalshi.safeProbability_number {number probability : ℚ}
    (read : Kalshi.safeProbability (.float (.finite number)) = some probability) : number = probability ∨ 1 < number := by
  obtain ⟨_, found, read⟩ := Option.bind_eq_some_iff.mp read
  cases found
  split_ifs at read
  cases read
  unfold Kalshi.dollarsOf
  split_ifs with cents
  · exact .inr cents
  · exact .inl rfl

theorem Kalshi.placeLiveOrder_sent {headers : Except Refused Unit} {fresh : Text} {payload : Kalshi.LivePayload}
    (sent : Kalshi.placeLiveOrder runtime headers config fresh order = .ok (preflight, payload)) :
    ∃ written, Sent runtime .kalshi config order preflight (.kalshi payload) written := by
  unfold Kalshi.placeLiveOrder at sent
  obtain ⟨_, _, sent⟩ := Result.bind_eq_ok.mp sent
  obtain ⟨_, valid, sent⟩ := Result.bind_eq_ok.mp sent
  obtain ⟨_, passed, sent⟩ := Result.bind_eq_ok.mp sent
  split_ifs at sent
  obtain ⟨_, built, sent⟩ := Result.bind_eq_ok.mp sent
  obtain ⟨_, _, sent⟩ := Result.bind_eq_ok.mp sent
  cases sent
  have approved := Venue.preflightLiveOrder_approved passed
  obtain ⟨outcome, limit, contract, given, count, side, price⟩ := Kalshi.buildLiveOrderPayload_ok built
  obtain ⟨limit, rfl⟩ := limit_of_approved approved given
  rw [approved.size] at count
  have accepted : ∃ probability, Kalshi.safeProbability (.float (.finite limit)) = some probability := by
    obtain ⟨_, _, valid⟩ := Result.bind_eq_ok.mp valid
    obtain ⟨_, _, valid⟩ := Result.bind_eq_ok.mp valid
    exact Option.isSome_iff_exists.mp (validateTerms_ok valid given)
  obtain ⟨probability, accepted⟩ := accepted
  refine ⟨⟨.even, 10 ^ 2, 10 ^ 4, decide (outcome = .no), payload.ticker, Venue.buys runtime order.side, preflight.size,
    limit⟩, passed, ?_, ?_, rfl, rfl, by norm_num, by norm_num, probability, ?_, ?_⟩
  · simp only [Writer.plan, Kalshi.plan, contract, approved.size, given, Except.toOption]
    rfl
  · simp only [Body.terms, contract, Except.toOption, Option.bind_some]
    exact Kalshi.terms_of_yesSideOrder count side price
  · rw [Writer.limit, given]
    exact accepted
  · rcases Kalshi.safeProbability_number accepted with same | cents
    · exact .inl same
    · exact .inr (Kalshi.outside_of_cents rfl cents)

theorem Smarkets.positiveScale_pos {key : String} {default scale : ℚ} (usual : 0 < default)
    (read : Smarkets.positiveScale config key default = .ok scale) : 0 < scale := by
  unfold Smarkets.positiveScale at read
  dsimp only at read
  split at read
  · cases read
    exact usual
  · split at read
    · split_ifs at read with refused
      cases read
      exact not_le.mp refused
    all_goals cases read

theorem Smarkets.placeLiveOrder_sent {headers : Except Refused Unit} {body : Smarkets.Body}
    (sent : Smarkets.placeLiveOrder runtime headers config order = .ok (preflight, body)) :
    ∃ written, Sent runtime .smarkets config order preflight (.smarkets body) written := by
  unfold Smarkets.placeLiveOrder at sent
  obtain ⟨_, _, sent⟩ := Result.bind_eq_ok.mp sent
  obtain ⟨_, _, sent⟩ := Result.bind_eq_ok.mp sent
  obtain ⟨_, passed, sent⟩ := Result.bind_eq_ok.mp sent
  obtain ⟨_, built, sent⟩ := Result.bind_eq_ok.mp sent
  obtain ⟨_, _, sent⟩ := Result.bind_eq_ok.mp sent
  cases sent
  have approved := Venue.preflightLiveOrder_approved passed
  unfold Smarkets.orderPayload at built
  split at built
  · cases built
  obtain ⟨⟨marketId, contractId⟩, contract, built⟩ := Result.bind_eq_ok.mp built
  cases likely : order.limitPrice.bind Smarkets.probability with
  | none =>
    simp only [likely] at built
    cases built
  | some limit =>
    simp only [likely] at built
    obtain ⟨priceScale, readPrice, built⟩ := Result.bind_eq_ok.mp built
    obtain ⟨quantityScale, readQuantity, built⟩ := Result.bind_eq_ok.mp built
    cases built
    refine ⟨⟨.even, quantityScale, priceScale, false, marketId ++ text ":" ++ contractId, Venue.buys runtime order.side,
      preflight.size, limit⟩, passed, ?_, ?_, rfl, rfl, Smarkets.positiveScale_pos (by norm_num) readQuantity,
      Smarkets.positiveScale_pos (by norm_num) readPrice, limit, likely, .inl rfl⟩
    · simp only [Writer.plan, Smarkets.plan, contract, approved.size, likely, readPrice, readQuantity, Except.toOption]
      rfl
    · have sides : decide ((if Venue.buys runtime order.side then text "buy" else text "sell") = text "buy") =
          Venue.buys runtime order.side := by
        cases Venue.buys runtime order.side with
        | true => rfl
        | false => decide
      change Smarkets.Body.terms config _ = _
      unfold Smarkets.Body.terms
      simp only [readPrice, readQuantity, sides, Except.toOption]
      rfl

theorem SxBet.toUnits_ok {scale : ℚ} {value : PyFloat} {units : ℤ} (read : SxBet.toUnits scale value = .ok units) :
    ∃ number, value = .finite number ∧ units = halfUp (number * scale) := by
  unfold SxBet.toUnits at read
  split at read
  · split_ifs at read
    cases read
    exact ⟨_, rfl, rfl⟩
  · cases read

/-- What an order on the wire says, from the contract and the limit price that were asked for. -/
theorem SxBet.buildUnsignedOrder_ok {surroundings : SxBet.Surroundings} {unsigned : SxBet.UnsignedOrder}
    (built : SxBet.buildUnsignedOrder runtime surroundings config order = .ok unsigned) :
    ∃ isOne limit decimals, SxBet.splitContractId runtime order.contractId = .ok (unsigned.marketHash, isOne) ∧
      order.limitPrice = some limit ∧ SxBet.baseTokenDecimals config = .ok decimals ∧
      SxBet.toUnits (10 ^ decimals) order.size = .ok unsigned.totalBetSize ∧
      SxBet.toOddsUnits (SxBet.makerPrice runtime order.side limit) = .ok unsigned.percentageOdds ∧
      unsigned.isMakerBettingOutcomeOne = if Venue.buys runtime order.side then isOne else !isOne := by
  unfold SxBet.buildUnsignedOrder at built
  obtain ⟨⟨marketHash, isOne⟩, contract, built⟩ := Result.bind_eq_ok.mp built
  obtain ⟨limit, given, built⟩ := Result.bind_eq_ok.mp built
  obtain ⟨selected, limited, built⟩ := Result.bind_eq_ok.mp built
  obtain ⟨_, _, built⟩ := Result.bind_eq_ok.mp built
  obtain ⟨_, _, built⟩ := Result.bind_eq_ok.mp built
  obtain ⟨decimals, digits, built⟩ := Result.bind_eq_ok.mp built
  obtain ⟨totalBetSize, sized, built⟩ := Result.bind_eq_ok.mp built
  obtain ⟨percentageOdds, priced, built⟩ := Result.bind_eq_ok.mp built
  obtain ⟨_, _, built⟩ := Result.bind_eq_ok.mp built
  obtain ⟨_, _, built⟩ := Result.bind_eq_ok.mp built
  cases built
  have kept : selected = limit := by
    have read := Venue.checked_eq_ok.mp limited
    unfold SxBet.limitProbability at read
    split at read
    · cases read
    · exact (Except.ok.inj read).symm
  rw [kept] at priced
  exact ⟨isOne, limit, decimals, Venue.checked_eq_ok.mp contract, Venue.demand_eq_ok.mp given, digits, sized, priced, rfl⟩

theorem SxBet.placeLiveOrder_sent {surroundings : SxBet.Surroundings} {unsigned : SxBet.UnsignedOrder} {signature : Text}
    (sent : SxBet.placeLiveOrder runtime surroundings config order = .ok (preflight, unsigned, signature)) :
    ∃ written, Sent runtime .sxBet config order preflight (.sxBet unsigned signature) written := by
  unfold SxBet.placeLiveOrder at sent
  obtain ⟨_, _, sent⟩ := Result.bind_eq_ok.mp sent
  obtain ⟨_, _, sent⟩ := Result.bind_eq_ok.mp sent
  obtain ⟨_, passed, sent⟩ := Result.bind_eq_ok.mp sent
  obtain ⟨_, signed, sent⟩ := Result.bind_eq_ok.mp sent
  cases sent
  have passed := Venue.checked_eq_ok.mp passed
  have approved := Venue.preflightLiveOrder_approved passed
  have built : SxBet.buildUnsignedOrder runtime surroundings config order = .ok unsigned := by
    unfold SxBet.signedOrder at signed
    obtain ⟨_, built, signed⟩ := Result.bind_eq_ok.mp signed
    dsimp only at signed
    split at signed
    · cases signed
      exact built
    · obtain ⟨_, _, signed⟩ := Result.bind_eq_ok.mp signed
      obtain ⟨_, _, signed⟩ := Result.bind_eq_ok.mp signed
      cases signed
      exact built
  obtain ⟨isOne, limit, decimals, contract, given, digits, sized, priced, side⟩ := SxBet.buildUnsignedOrder_ok built
  obtain ⟨limit, rfl⟩ := limit_of_approved approved given
  rw [approved.size] at sized
  obtain ⟨_, same, sized⟩ := SxBet.toUnits_ok sized
  cases same
  obtain ⟨odds, price, priced⟩ := SxBet.toUnits_ok priced
  refine ⟨⟨.up, 10 ^ decimals, SxBet.oddsScale, !Venue.buys runtime order.side, unsigned.marketHash,
    Venue.buys runtime order.side, preflight.size, limit⟩, passed, ?_, ?_, rfl, rfl, zpow_pos (by norm_num) _,
    by norm_num [SxBet.oddsScale], limit, by rw [Writer.limit, given]; rfl, .inl rfl⟩
  · simp only [Writer.plan, SxBet.plan, contract, approved.size, given, digits, Except.toOption]
    rfl
  · simp only [Body.terms, contract, digits, Except.toOption, SxBet.UnsignedOrder.terms]
    unfold SxBet.makerPrice at price
    cases bought : Venue.buys runtime order.side with
    | true =>
      rw [bought] at side price
      cases price
      simp [side, sized, priced, Written.terms, Written.price, Ties.onGrid, Ties.nearest]
    | false =>
      rw [bought] at side price
      rw [if_neg (by decide), PyFloat.exact_sub] at price
      cases price
      simp [side, sized, priced, Written.terms, Written.price, Ties.onGrid, Ties.nearest]

theorem Writer.placeLiveOrder_sent {writer : Writer} {surroundings : Surroundings} {body : Body}
    (sent : writer.placeLiveOrder runtime surroundings config order = .ok (preflight, body)) :
    ∃ written, Sent runtime writer config order preflight body written := by
  cases writer with
  | kalshi =>
    obtain ⟨_, placed, sent⟩ := Result.bind_eq_ok.mp sent
    cases sent
    exact Kalshi.placeLiveOrder_sent (Venue.checked_eq_ok.mp placed)
  | smarkets =>
    obtain ⟨_, placed, sent⟩ := Result.bind_eq_ok.mp sent
    cases sent
    exact Smarkets.placeLiveOrder_sent (Venue.checked_eq_ok.mp placed)
  | sxBet =>
    obtain ⟨_, placed, sent⟩ := Result.bind_eq_ok.mp sent
    cases sent
    exact SxBet.placeLiveOrder_sent placed

theorem Sent.staysWithin_iff {writer : Writer} {body : Body} {written : Written}
    (sent : Sent runtime writer config order preflight body written) {limit : ℚ} (same : written.limit = limit) :
    StaysWithin runtime writer config order preflight limit written.terms ↔ written.Within := by
  subst same
  constructor
  · rintro ⟨_, some, size, _, inside, better⟩
    exact ⟨some, sent.size ▸ size, inside, better⟩
  · rintro ⟨some, size, inside, better⟩
    have approved : written.terms.quantity ≤ preflight.size := sent.size ▸ size
    refine ⟨sent.buys, some, approved, ?_, inside, better⟩
    intro cap capped
    exact approved.trans (Venue.preflightLiveOrder_size_le sent.passed capped)

end Sending

/-- A sent order stays within the approved one exactly when the venue's grids have room for its size and its price. -/
theorem placeLiveOrder_staysWithin_iff (runtime : Runtime) (writer : Writer) (surroundings : Surroundings) (config : Item)
    (order : OrderRequest) (preflight : Preflight) (body : Body)
    (placed : writer.placeLiveOrder runtime surroundings config order = .ok (preflight, body)) :
    (∃ limit terms, writer.limit order = some limit ∧ body.terms runtime config order = some terms ∧
      StaysWithin runtime writer config order preflight limit terms) ↔
      ∃ written, writer.plan runtime config order = some written ∧ written.Fits := by
  obtain ⟨written, sent⟩ := Writer.placeLiveOrder_sent placed
  obtain ⟨limit, named, same⟩ := sent.limit
  have fits := Written.within_iff_fits sent.sizeUnit sent.priceUnit
  have planned : (∃ other, writer.plan runtime config order = some other ∧ other.Fits) ↔ written.Fits := by
    constructor
    · rintro ⟨_, found, fits⟩
      rw [sent.planned] at found
      cases found
      exact fits
    · intro fits
      exact ⟨written, sent.planned, fits⟩
  rw [planned, ← fits]
  constructor
  · rintro ⟨_, _, found, shown, within⟩
    rw [named] at found
    rw [sent.shown] at shown
    cases found
    cases shown
    rcases same with same | outside
    · exact (sent.staysWithin_iff same).mp within
    · exact absurd within.inside outside
  · intro within
    rcases same with same | outside
    · exact ⟨limit, _, named, sent.shown, (sent.staysWithin_iff same).mpr within⟩
    · exact absurd within.inside outside

/-! ## Orders that are rounded up -/

def liveConfig : Item := Venue.liveConfig "100"

def ready : Surroundings where
  headers := .ok ()
  fresh := text "pmacg-1"
  sxBet :=
    { now := 0, randomBits := 7, makerAddress := .ok (text "0x01"), privateKey := .ok (text "key")
      signOrder := fun _ _ => .ok (text "0x02") }

def orderAt (marketId contractId side : String) (size limit : ℚ) : OrderRequest :=
  ⟨text marketId, text contractId, text side, .finite size, some (.finite limit), []⟩

/-- The approved size with the size and the price that are read back, when the order is sent. -/
def readBack (writer : Writer) (order : OrderRequest) : Option (ℚ × ℚ × ℚ) :=
  (writer.placeLiveOrder Venue.plainRuntime ready liveConfig order).toOption.bind fun sent =>
    (sent.2.terms Venue.plainRuntime liveConfig order).map fun terms => (sent.1.size, terms.quantity, terms.price)

/-- An order that is sent and does not stay within what was approved. -/
def SentBeyond (writer : Writer) (order : OrderRequest) : Prop :=
  ∃ preflight body, writer.placeLiveOrder Venue.plainRuntime ready liveConfig order = .ok (preflight, body) ∧
    ¬ ∃ limit terms, writer.limit order = some limit ∧ body.terms Venue.plainRuntime liveConfig order = some terms ∧
      StaysWithin Venue.plainRuntime writer liveConfig order preflight limit terms

theorem sentBeyond_of_readBack {writer : Writer} {order : OrderRequest} {size quantity price : ℚ}
    (read : readBack writer order = some (size, quantity, price)) (beyond : size < quantity ∨ 1 ≤ price) :
    SentBeyond writer order := by
  obtain ⟨⟨preflight, body⟩, placed, read⟩ := Option.bind_eq_some_iff.mp read
  obtain ⟨terms, shown, read⟩ := Option.map_eq_some_iff.mp read
  refine ⟨preflight, body, Result.toOption_eq_some placed, ?_⟩
  rintro ⟨_, _, _, found, within⟩
  rw [shown] at found
  cases found
  cases read
  rcases beyond with more | outside
  · exact absurd within.size (not_le.mpr more)
  · exact absurd within.inside.2 (not_lt.mpr outside)

/-- Each venue is sent more than was approved, and Kalshi forty dollars for a limit price of 40 cents. -/
theorem orders_sent_beyond :
    SentBeyond .kalshi (orderAt "kalshi" "T:YES" "BUY" (249 / 250) (2 / 5)) ∧
    SentBeyond .kalshi (orderAt "kalshi" "T:YES" "BUY" 2 40) ∧
    SentBeyond .smarkets (orderAt "smarkets" "1:2" "BUY" (1 / 16000) (2 / 5)) ∧
    SentBeyond .sxBet (orderAt "sx_bet" "0xaa:ONE" "BUY" (2000001 / 2000000) (2 / 5)) := by
  refine ⟨?_, ?_, ?_, ?_⟩
  · exact @sentBeyond_of_readBack _ _ (249 / 250) 1 (2 / 5) (by decide +kernel) (Or.inl (by norm_num))
  · exact @sentBeyond_of_readBack _ _ 2 2 40 (by decide +kernel) (Or.inr (by norm_num))
  · exact @sentBeyond_of_readBack _ _ (1 / 16000) (1 / 10000) (2 / 5) (by decide +kernel) (Or.inl (by norm_num))
  · exact @sentBeyond_of_readBack _ _ (2000001 / 2000000) (1000001 / 1000000) (2 / 5) (by decide +kernel)
      (Or.inl (by norm_num))

/-- Two contracts of NO at 0.37 are written as YES asks at 0.63, which the grids have room for. -/
theorem no_order_staysWithin :
    ∃ preflight body, Writer.kalshi.placeLiveOrder Venue.plainRuntime ready liveConfig
        (orderAt "kalshi" "T:NO" "BUY" 2 (37 / 100)) = .ok (preflight, body) ∧
      ∃ limit terms, Writer.kalshi.limit (orderAt "kalshi" "T:NO" "BUY" 2 (37 / 100)) = some limit ∧
        body.terms Venue.plainRuntime liveConfig (orderAt "kalshi" "T:NO" "BUY" 2 (37 / 100)) = some terms ∧
        StaysWithin Venue.plainRuntime .kalshi liveConfig (orderAt "kalshi" "T:NO" "BUY" 2 (37 / 100)) preflight limit
          terms := by
  have read : readBack .kalshi (orderAt "kalshi" "T:NO" "BUY" 2 (37 / 100)) = some (2, 2, 37 / 100) := by decide +kernel
  obtain ⟨⟨preflight, body⟩, placed, _⟩ := Option.bind_eq_some_iff.mp read
  have placed := Result.toOption_eq_some placed
  have planned : Writer.kalshi.plan Venue.plainRuntime liveConfig (orderAt "kalshi" "T:NO" "BUY" 2 (37 / 100)) =
      some ⟨.even, 10 ^ 2, 10 ^ 4, true, text "T", true, 2, 37 / 100⟩ := by decide +kernel
  have above : Ties.even.Above (10 ^ 4) (1 - 37 / 100) := ⟨by decide +kernel, by decide +kernel, by decide +kernel⟩
  have fits : (⟨.even, 10 ^ 2, 10 ^ 4, true, text "T", true, 2, 37 / 100⟩ : Written).Fits :=
    ⟨by norm_num, by decide +kernel, above⟩
  exact ⟨preflight, body, placed, (placeLiveOrder_staysWithin_iff _ _ _ _ _ _ _ placed).mpr ⟨_, planned, fits⟩⟩

end MarketSentinel.Quotes
