import MarketSentinel.Venue.Context
import MarketSentinel.Venue.Hyperliquid
import MarketSentinel.Venue.Myriad
import MarketSentinel.Venue.PredictFun
import MarketSentinel.Venue.Probable

/-! What the five signed venues are sent for an order.

The payload asks for what the order asks for. Myriad and Predict.fun build a
wrapper around a bare signed order from further metadata.
-/

set_option autoImplicit false

namespace MarketSentinel.Venue

open Python

/-- Sending the order with other metadata that agree on some names sends the same. -/
def DeterminedBy (names : List String) (place : OrderRequest → Except Stopped (Dict Text Json)) : Prop :=
  ∀ order metadata payload other, SameFields names order.metadata metadata → place order = .ok payload →
    place { order with metadata := metadata } = .ok other → payload = other

section Sources

variable {runtime : Runtime} {config : Dict Text Json}

theorem Hyperliquid.determined : DeterminedBy ["signed_action"] (Hyperliquid.placeLiveOrder runtime config) := by
  intro order metadata payload other same placed replaced
  have first := (Hyperliquid.placeLiveOrder_bound placed).1
  have second := (Hyperliquid.placeLiveOrder_bound replaced).1
  rw [same.field (by simp)] at first
  exact Option.some.inj (first.symm.trans second)

theorem Context.determined (doubles : Context.Doubles) (trader apiKey : Option Text) :
    DeterminedBy ["context_order", "signed_order"] (Context.placeLiveOrder runtime doubles config trader apiKey) := by
  intro order metadata payload other same placed replaced
  have first := (Context.placeLiveOrder_reads placed).1
  have second := (Context.placeLiveOrder_reads replaced).1
  have newer : field order.metadata "context_order" = field metadata "context_order" := same.field (by simp)
  have older : field order.metadata "signed_order" = field metadata "signed_order" := same.field (by simp)
  rw [Context.signedPayload, firstOf, newer, older] at first
  exact Option.some.inj (first.symm.trans second)

theorem Probable.determined (markets : Probable.Markets) (address : Option Text) :
    DeterminedBy ["probable_payload", "signed_order", "order"]
      (Probable.placeLiveOrder runtime markets config address) := by
  intro order metadata payload other same placed replaced
  obtain ⟨wallet, outer, signed, selected, rfl, given, -⟩ := Probable.placeLiveOrder_bound placed
  obtain ⟨wallet', outer', signed', selected', rfl, given', -⟩ := Probable.placeLiveOrder_bound replaced
  rw [Probable.selectSigned_same same] at selected
  cases selected.symm.trans selected'
  cases given.symm.trans given'
  rfl

theorem Myriad.determined : DeterminedBy Myriad.payloadFields (Myriad.placeLiveOrder runtime config) := by
  intro order metadata payload other same placed replaced
  have built : ∀ {order payload}, Myriad.placeLiveOrder runtime config order = .ok payload →
      Myriad.liveOrderPayload runtime config order.metadata = .ok payload := by
    intro order payload placed
    obtain ⟨_, _, placed⟩ := Result.bind_eq_ok.mp placed
    obtain ⟨_, _, placed⟩ := Result.bind_eq_ok.mp placed
    obtain ⟨_, _, placed⟩ := Result.bind_eq_ok.mp placed
    obtain ⟨_, built, placed⟩ := Result.bind_eq_ok.mp placed
    obtain ⟨_, _, placed⟩ := Result.bind_eq_ok.mp placed
    cases placed
    exact built
  exact Myriad.liveOrderPayload_eq same (built placed) (built replaced)

theorem PredictFun.determined (getMarket : Text → Except Stopped (Dict Text Json)) :
    DeterminedBy PredictFun.payloadFields (PredictFun.placeLiveOrder runtime getMarket config) := by
  intro order metadata payload other same placed replaced
  have built : ∀ {order payload}, PredictFun.placeLiveOrder runtime getMarket config order = .ok payload →
      PredictFun.liveOrderPayload runtime order.metadata order.limitPrice = .ok payload := by
    intro order payload placed
    obtain ⟨_, _, placed⟩ := Result.bind_eq_ok.mp placed
    obtain ⟨_, _, placed⟩ := Result.bind_eq_ok.mp placed
    obtain ⟨_, _, placed⟩ := Result.bind_eq_ok.mp placed
    obtain ⟨_, built, placed⟩ := Result.bind_eq_ok.mp placed
    obtain ⟨_, _, placed⟩ := Result.bind_eq_ok.mp placed
    cases placed
    exact built
  have first := built placed
  rw [PredictFun.liveOrderPayload_same same] at first
  exact Except.ok.inj (first.symm.trans (built replaced))

end Sources

/-- A payload that one of the five adapters forwards binds the contract, the side, the size and the
limit price of the order, and comes from the named metadata alone. -/
theorem signed_orders_bound (runtime : Runtime) (config : Dict Text Json) :
    (DeterminedBy ["signed_action"] (Hyperliquid.placeLiveOrder runtime config) ∧
      ∀ order payload, Hyperliquid.placeLiveOrder runtime config order = .ok payload →
        ∃ outcomeId side terms, Hyperliquid.splitContractId order.contractId = .ok (outcomeId, side) ∧
          Hyperliquid.readTerms payload = some terms ∧
          Asks runtime order (Hyperliquid.assetId outcomeId side) terms) ∧
    (DeterminedBy Myriad.payloadFields (Myriad.placeLiveOrder runtime config) ∧
      ∀ order payload, Myriad.placeLiveOrder runtime config order = .ok payload → Myriad.Plain runtime payload →
        ∃ marketId outcomeId market outcome terms, Myriad.splitContractId order.contractId = .ok (marketId, outcomeId) ∧
          wireUint runtime (.str marketId) = some market ∧ wireUint runtime (.str outcomeId) = some outcome ∧
          Myriad.readTerms runtime payload = some terms ∧ Asks runtime order (market, (outcome : Int)) terms) ∧
    (∀ markets address, DeterminedBy ["probable_payload", "signed_order", "order"]
        (Probable.placeLiveOrder runtime markets config address) ∧
      ∀ order payload, Probable.placeLiveOrder runtime markets config address order = .ok payload →
        ∃ token decimals size price terms, Probable.canonicalToken runtime markets order.contractId = .ok token ∧
          Probable.amountDecimals config = .ok decimals ∧ quantityOf runtime order = some size ∧
          priceOf runtime order = some price ∧ Probable.readTerms runtime decimals payload = some terms ∧
          terms.contract = token ∧ terms.buys = buys runtime order.side ∧
          (FewDigits size → FewDigits (size * price) → Asks runtime order token terms)) ∧
    (∀ getMarket, DeterminedBy PredictFun.payloadFields (PredictFun.placeLiveOrder runtime getMarket config) ∧
      ∀ order payload, PredictFun.placeLiveOrder runtime getMarket config order = .ok payload →
        ∃ marketId token terms, PredictFun.contractToken runtime getMarket order.contractId = .ok (marketId, token) ∧
          PredictFun.readTerms runtime payload = some terms ∧ PredictFun.Close runtime order token terms) ∧
    (∀ doubles trader apiKey, DeterminedBy ["context_order", "signed_order"]
        (Context.placeLiveOrder runtime doubles config trader apiKey) ∧
      ∀ order payload, Context.placeLiveOrder runtime doubles config trader apiKey order = .ok payload →
        ∃ marketId outcomeIndex size terms, Context.splitContractId order.contractId = .ok (marketId, outcomeIndex) ∧
          order.size = .finite size ∧ Context.readTerms runtime payload = some terms ∧
          terms.contract = (Context.canonicalId runtime marketId, (outcomeIndex : Int)) ∧
          terms.buys = buys runtime order.side ∧
          (size * 1000000 ≤ 2 ^ 51 → |terms.quantity - size| ≤ 1 / 1000000) ∧
          ∀ limit ∈ order.limitPrice, ∃ price, Context.limitOf limit = some price ∧
            |terms.price - price| ≤ 1 / 1000000) := by
  refine ⟨⟨Hyperliquid.determined, fun order payload placed => (Hyperliquid.placeLiveOrder_bound placed).2⟩,
    ⟨Myriad.determined, fun order payload placed plain => Myriad.placeLiveOrder_bound placed plain⟩,
    fun markets address => ⟨Probable.determined markets address, ?_⟩,
    fun getMarket => ⟨PredictFun.determined getMarket, fun order payload placed => PredictFun.placeLiveOrder_close placed⟩,
    fun doubles trader apiKey => ⟨Context.determined doubles trader apiKey, ?_⟩⟩
  · intro order payload placed
    obtain ⟨_, _, _, _, _, _, bound⟩ := Probable.placeLiveOrder_bound placed
    exact bound
  · intro order payload placed
    obtain ⟨-, marketId, outcomeIndex, size, contract, sized, positive, limits, read⟩ :=
      Context.placeLiveOrder_reads placed
    refine ⟨marketId, outcomeIndex, size, _, contract, sized, read, rfl, rfl, Context.abs_units_sub_le positive.le, ?_⟩
    intro limit given
    obtain ⟨probable, probed⟩ := limits limit given
    obtain ⟨price, limited⟩ : ∃ price, Context.limitOf limit = some price := by
      cases limit with
      | finite number => exact ⟨_, rfl⟩
      | inf negative => cases probed
      | nan => cases probed
    refine ⟨price, limited, ?_⟩
    rw [Option.mem_def] at given
    simp only [given, Option.bind_some, probed, Option.getD_some]
    exact Context.abs_price_sub_le limited probed

/-- A runtime that prints three floats. -/
def threeFloats : Runtime where
  casing := asciiCasing
  spell value :=
    if value = .float (.finite 2) then text "2.0"
    else if value = .float (.finite (1 / 2)) then text "0.5"
    else if value = .float (.finite 10000000000) then text "10000000000.0"
    else []
  general _ := []

def openConfig : Dict Text Json :=
  [(text "live_trading_enabled", .bool true), (text "live_trading_confirmed", .bool true),
    (text "myriad_network_id", .int 56)]

def myriadOrder (size : ℚ) (amount force : String) : OrderRequest where
  marketId := text "myriad_markets"
  contractId := text "12:0"
  side := text "BUY"
  size := .finite size
  limitPrice := some (.finite (1 / 2))
  metadata :=
    [(text "order", .obj
        [(text "trader", .str (text "0x00112233445566778899aabbccddeeff00112233")), (text "marketId", .int 12),
          (text "outcomeId", .int 0), (text "side", .int 0), (text "amount", .str (text amount)),
          (text "price", .str (text "500000000000000000")), (text "minFillAmount", .int 0), (text "nonce", .int 1),
          (text "expiration", .int 0)]),
      (text "signature", .str (text "0xabcd")), (text "time_in_force", .str (text force))]

def forwardedByMyriad (order : OrderRequest) : Option (Dict Text Json) :=
  (Myriad.placeLiveOrder threeFloats openConfig order).toOption

def twoShares (force : String) : OrderRequest := myriadOrder 2 "2000000000000000000" force

def tenBillionShares : OrderRequest := myriadOrder 10000000000 "10000000000000000000000000001" "GTC"

/-- One signed order is forwarded with two times in force, and an amount one unit of 1e-18 above the size is forwarded. -/
theorem myriad_forwards_more :
    (firstOf (twoShares "GTC").metadata "order" "signed_order" = firstOf (twoShares "FOK").metadata "order" "signed_order" ∧
      ∃ payload other, forwardedByMyriad (twoShares "GTC") = some payload ∧
        forwardedByMyriad (twoShares "FOK") = some other ∧ payload ≠ other) ∧
    ∃ payload terms, forwardedByMyriad tenBillionShares = some payload ∧
      Myriad.readTerms threeFloats payload = some terms ∧
      quantityOf threeFloats tenBillionShares = some 10000000000 ∧ terms.quantity ≠ 10000000000 := by
  constructor
  · refine ⟨by decide +kernel, _, _, Option.eq_some_of_isSome (by decide +kernel),
      Option.eq_some_of_isSome (by decide +kernel), ?_⟩
    decide +kernel
  · refine ⟨_, _, Option.eq_some_of_isSome (by decide +kernel), Option.eq_some_of_isSome (by decide +kernel), ?_, ?_⟩
    · decide +kernel
    · decide +kernel

end MarketSentinel.Venue
