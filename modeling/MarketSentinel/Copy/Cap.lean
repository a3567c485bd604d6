import Mathlib.Algebra.Order.Field.Rat
import Mathlib.Tactic.Positivity
import MarketSentinel.Copy.Agreement

/-! The cap of a copy: how large an accepted order can be.

The cap divides by the limit price. A limit of zero, which the engines compute when the
quote of a sale is not above the slippage, leaves the size of the source trade as it is.
-/

set_option autoImplicit false

namespace MarketSentinel.Copy

open Python Program

section Live

variable {F : Type} (runtime : Runtime F)

deriving instance DecidableEq for Shares, PaperOrderRequest

/-- What a preview answers: live settings have the order checked by the adapter as well. -/
inductive Web.Answer (F : Type) where
  | skipped (reason : Text)
  | simulation (order : PaperOrderRequest F) (pricing : Web.Pricing F)
  | livePreflight (order : PaperOrderRequest F) (pricing : Web.Pricing F) (blocked : Bool)

/-- A preview for any settings; `preflight` is whether `adapter.preflight_live_order` returns. -/
def Web.previewActivity (cfg : CopyConfig F) (live : Bool) (preflight : PaperOrderRequest F → Bool)
    (adapter : Adapter F) (moment : Moment F) : Program Web.Raised ConflictState (Web.Answer F) := do
  let preview ← Web.copyTradePreviewFromActivity runtime cfg adapter moment
  match preview with
  | .skipped reason => return .skipped reason
  | .simulation order pricing =>
    if live then return .livePreflight order pricing (!preflight order) else return .simulation order pricing

/-- The order of a preview that is neither skipped nor blocked. -/
def Web.placed (result : Except Web.Raised (Web.Answer F)) : Option (PaperOrderRequest F) :=
  match result with
  | .ok (.simulation order _) => some order
  | .ok (.livePreflight order _ blocked) => if blocked then none else some order
  | _ => none

/-- Why a live copy of this age is not tried, if it is not. -/
def App.staleness (manualReplayAuthorized : Bool) (moment : Moment F) : Option App.CopyActivityOutcome :=
  let floats := runtime.floats
  match App.safeFloat runtime (moment.activity.get "timestamp") none with
  | none => some (App.rejected "live_activity_timestamp_missing"
      "Live copy dispatch requires a source activity timestamp.")
  | some raw =>
    if floats.le raw (floats.literal 0) then
      some (App.rejected "live_activity_timestamp_missing" "Live copy dispatch requires a source activity timestamp.")
    else
      let timestamp :=
        if floats.le (floats.literal 1000000000000) raw then floats.div raw (floats.literal 1000) else raw
      let age := floats.sub moment.now timestamp
      if floats.lt age (floats.literal (-60)) ∨ floats.lt (floats.literal 300) age ∧ manualReplayAuthorized = false then
        some (App.rejected "live_activity_timestamp_stale"
          "The source activity timestamp is outside the live-copy freshness window.")
      else none

/-- A live copy is refused on every market, after the same checks as a simulated one. -/
def App.liveCopy (blocker : Text) (cfg : CopyConfig F) (adapter : Adapter F) (manualReplayAuthorized : Bool)
    (moment : Moment F) : Program FloatError ConflictState App.CopyActivityOutcome :=
  let marketId := App.activityMarket cfg
  match App.staleness runtime manualReplayAuthorized moment with
  | some outcome => pure outcome
  | none =>
    match App.screen runtime cfg.copytrading adapter marketId moment.activity with
    | .error outcome => pure outcome
    | .ok (side, tokenId) =>
      let quote := if side = text "BUY" then (moment.quotes tokenId).2 else (moment.quotes tokenId).1
      if marketId = text "polymarket" ∧ quote.isNone = true then
        pure ⟨.retryable, text "live_quote_unavailable",
          text "A fresh executable-side quote is required before live dispatch."⟩
      else
        match App.sizing runtime cfg.copytrading marketId side tokenId moment with
        | .error outcome => pure outcome
        | .ok _ => do
          let conflict ← App.copyConflictReason runtime cfg.copytrading moment
          match conflict with
          | some _ => return App.rejected "conflict_guard" "Copy conflict guard rejected this activity."
          | none =>
            if marketId ≠ text "polymarket" then
              return App.rejected "live_market_not_supported"
                "Live copy trading is not supported for the selected market."
            else return ⟨.rejected, text "polymarket_clob_v2_migration_required", blocker⟩

/-- One activity of the selected market, for any settings. -/
def App.handleActivity (blocker : Text) (cfg : CopyConfig F) (live : Bool) (adapter : Adapter F)
    (persistenceError manualReplayAuthorized : Bool) (moment : Moment F) :
    Program FloatError ConflictState (App.CopyActivityOutcome × Option (PaperOrderRequest F)) :=
  if live = true ∧ persistenceError = false then do
    let outcome ← App.liveCopy runtime blocker cfg adapter manualReplayAuthorized moment
    return (outcome, none)
  else App.copyTradeFromActivity runtime cfg adapter persistenceError moment

end Live

section Terms

variable {F : Type} (runtime : Runtime F)

/-- The size of the source trade, zero when it has none that can be read. -/
def sourceSize (activity : Activity) : F :=
  let floats := runtime.floats
  floats.orElse ((App.safeFloat runtime (activity.get "size") (some (floats.literal 0))).getD (floats.literal 0))
    (floats.literal 0)

/-- The side of a copied activity. -/
def copySide (activity : Activity) : Text := runtime.casing.upper (strip (fieldText runtime activity "side"))

/-- The best quote of the side, else the price of the activity, else a default. -/
def quoted (side : Text) (quotes : Option F × Option F) (rawPrice : Option F) : F :=
  if side = text "BUY" then (quotes.2.or rawPrice).getD (runtime.floats.literal (99 / 100))
  else (quotes.1.or rawPrice).getD (runtime.floats.literal (1 / 100))

/-- The price that the limit of a copy starts from. -/
def reference (moment : Moment F) : F :=
  quoted runtime (copySide runtime moment.activity)
    (moment.quotes (strip (eitherText runtime moment.activity "asset" "contract_id")))
    (App.safeFloat runtime (moment.activity.get "price") none)

variable (floats : Floats F)

def tolerance (settings : CopyTradeSettings F) : F :=
  floats.max (floats.literal 0) (floats.min settings.slippage (floats.literal 1))

def cap (settings : CopyTradeSettings F) : F := floats.max (floats.literal (1 / 100)) settings.maxUsdcPerTrade

def limitOf (side : Text) (reference tolerance : F) : F :=
  if side = text "BUY" then floats.min (floats.literal 1) (floats.add reference tolerance)
  else floats.max (floats.literal 0) (floats.sub reference tolerance)

def sizeOf (marketId side : Text) (wanted cap limit : F) : F :=
  if isBudgetMarket marketId = true ∧ side = text "BUY" then if floats.lt cap wanted then cap else wanted
  else if floats.lt (floats.literal 0) limit then
    if floats.lt (floats.div cap limit) wanted then floats.div cap limit else wanted
  else wanted

/-- The numbers of a copy on a market other than Azuro. -/
structure Numbers (settings : CopyTradeSettings F) (marketId side tokenId : Text) (moment : Moment F)
    (size limit : F) : Prop where
  priced : limit = limitOf runtime.floats side
    (quoted runtime side (moment.quotes tokenId) (App.safeFloat runtime (moment.activity.get "price") none))
    (tolerance runtime.floats settings)
  sized : size = sizeOf runtime.floats marketId side
    (runtime.floats.max (runtime.floats.literal 0)
      (runtime.floats.mul (sourceSize runtime moment.activity) settings.scale))
    (cap runtime.floats settings) limit
  positive : runtime.floats.le size (runtime.floats.literal 0) = false

end Terms

section Sizing

variable {F : Type} {runtime : Runtime F} {settings : CopyTradeSettings F} {marketId side tokenId : Text}
  {moment : Moment F}

theorem safeFloat_read {value : Json} {default read : Option F}
    (done : Web.safeFloat runtime value default = .ok read) : read = App.safeFloat runtime value default := by
  refine Except.ok.inj (done.symm.trans (safeFloat_agree (fun overflow => ?_) default))
  unfold Web.safeFloat at done
  split at done
  · rename_i missing
    rcases missing with rfl | rfl
    · rw [runtime.floats.parse_null] at overflow
      cases overflow
    · rw [runtime.floats.parse_empty] at overflow
      cases overflow
  · rw [overflow] at done
    cases done

theorem passed {α : Type} {stop : Prop} [Decidable stop] {refused result wanted : α}
    (done : (if stop then refused else result) = wanted) (differs : refused ≠ wanted) :
    ¬stop ∧ result = wanted := by
  split at done
  · exact absurd done differs
  · exact ⟨‹_›, done⟩

theorem limitPrice_preview (other : marketId ≠ text "azuro") (activity : Activity) (quotes : Option F × Option F)
    (rawPrice : Option F) (slippage : F) :
    Web.limitPrice runtime marketId side activity quotes rawPrice slippage =
      .ok (some (limitOf runtime.floats side (quoted runtime side quotes rawPrice) slippage)) := by
  unfold Web.limitPrice limitOf quoted
  rw [if_neg other]
  split_ifs <;> rfl

theorem limitPrice_desktop (other : marketId ≠ text "azuro") (activity : Activity) (quotes : Option F × Option F)
    (rawPrice : Option F) (slip : F) :
    App.limitPrice runtime marketId side activity quotes rawPrice slip =
      .ok (limitOf runtime.floats side (quoted runtime side quotes rawPrice) slip) := by
  unfold App.limitPrice limitOf quoted
  rw [if_neg other]
  split_ifs <;> rfl

theorem numbers_desktop (other : marketId ≠ text "azuro") {size limit : F}
    (done : App.sizing runtime settings marketId side tokenId moment = .ok (size, limit)) :
    Numbers runtime settings marketId side tokenId moment size limit := by
  unfold App.sizing at done
  dsimp only at done
  rw [limitPrice_desktop other, if_neg other] at done
  obtain ⟨computed, found, done⟩ := Result.bind_eq_ok.mp done
  cases found
  obtain ⟨positive, same⟩ := passed done nofun
  cases same
  exact ⟨rfl, rfl, Bool.eq_false_iff.mpr positive⟩

/-- The preview caps through an optional bound, which comes to the same size. -/
theorem bounded_size (floats : Floats F) (wanted cap limit : F) :
    (let bound :=
      if isBudgetMarket marketId = true ∧ side = text "BUY" then some cap
      else if floats.lt (floats.literal 0) limit then some (floats.div cap limit)
      else none
    if bound.any fun bound => floats.lt bound wanted then bound.getD wanted else wanted) =
      sizeOf floats marketId side wanted cap limit := by
  unfold sizeOf
  split_ifs <;> simp_all

theorem numbers_preview (other : marketId ≠ text "azuro") {sized : Web.Sizing F}
    (done : Web.sizing runtime settings marketId side tokenId moment = .ok (.ok sized)) :
    Numbers runtime settings marketId side tokenId moment sized.size sized.limitPrice := by
  unfold Web.sizing at done
  dsimp only at done
  obtain ⟨readSize, size, done⟩ := Result.bind_eq_ok.mp done
  obtain ⟨rawPrice, price, done⟩ := Result.bind_eq_ok.mp done
  rw [limitPrice_preview other, if_neg other, safeFloat_read size, safeFloat_read price] at done
  obtain ⟨computed, found, done⟩ := Result.bind_eq_ok.mp done
  cases found
  dsimp only at done
  rw [bounded_size] at done
  obtain ⟨positive, same⟩ := passed done nofun
  cases same
  exact ⟨rfl, rfl, Bool.eq_false_iff.mpr positive⟩

end Sizing

section Accepted

variable {F : Type} {runtime : Runtime F} {cfg : CopyConfig F} {adapter : Adapter F} {moment : Moment F}

variable (runtime cfg adapter) in
/-- The order is the answer of a preview or of the desktop application in some state. -/
def Accepted (live : Bool) (moment : Moment F) (state : ConflictState) (order : PaperOrderRequest F) : Prop :=
  (∃ preflight, Web.placed (Web.previewActivity runtime cfg live preflight adapter moment state).1 = some order) ∨
  (∃ blocker persistenceError manualReplayAuthorized, App.accepted
    (App.handleActivity runtime blocker cfg live adapter persistenceError manualReplayAuthorized moment state).1 =
      some order)

variable (runtime) in
/-- The numbers of the order are those of the copy of the activity. -/
def Computed (settings : CopyTradeSettings F) (moment : Moment F) (order : PaperOrderRequest F) : Prop :=
  order.side = copySide runtime moment.activity ∧
  Numbers runtime settings order.marketId order.side (strip (eitherText runtime moment.activity "asset" "contract_id"))
    moment order.size order.limitPrice

theorem screen_preview {settings : CopyTradeSettings F} {marketId side tokenId : Text} {activity : Activity}
    (through : Web.screen runtime settings adapter marketId activity = .ok (side, tokenId)) :
    side = copySide runtime activity ∧ tokenId = strip (eitherText runtime activity "asset" "contract_id") := by
  unfold Web.screen at through
  dsimp only at through
  split_ifs at through
  cases through
  exact ⟨rfl, rfl⟩

theorem screen_desktop {settings : CopyTradeSettings F} {marketId side tokenId : Text} {activity : Activity}
    (through : App.screen runtime settings adapter marketId activity = .ok (side, tokenId)) :
    side = copySide runtime activity ∧ tokenId = strip (eitherText runtime activity "asset" "contract_id") := by
  unfold App.screen at through
  dsimp only at through
  split_ifs at through with _ _ _ unknown
  cases through
  have known : runtime.casing.upper (fieldText runtime activity "side") = text "BUY" ∨
      runtime.casing.upper (fieldText runtime activity "side") = text "SELL" := by tauto
  -- A side in capitals without blanks had none before.
  have bare : strip (fieldText runtime activity "side") = fieldText runtime activity "side" := by
    refine runtime.upper_solid _ ?_
    rcases known with buy | sell
    · rw [buy, buy_solid]
    · rw [sell, sell_solid]
  exact ⟨by rw [copySide, bare], rfl⟩

theorem guarded_order {settings : CopyTradeSettings F} {marketId side tokenId : Text} {sized : Web.Sizing F}
    {state last : ConflictState} {order : PaperOrderRequest F} {pricing : Web.Pricing F}
    (done : Web.guardedPreview runtime settings marketId side tokenId sized moment state =
      (.ok (.simulation order pricing), last)) :
    order.marketId = marketId ∧ order.side = side ∧ order.size = sized.size ∧ order.limitPrice = sized.limitPrice := by
  unfold Web.guardedPreview at done
  cases looked : Web.copyTradeConflictReason runtime settings moment state with
  | mk result next =>
    cases result with
    | error e =>
      rw [bind_error looked] at done
      cases done
    | ok conflict =>
      rw [bind_ok looked] at done
      cases conflict with
      | some reason => cases done
      | none =>
        dsimp only at done
        cases odds : Web.safeFloat runtime (moment.activity.get "odds") none with
        | error e =>
          rw [odds] at done
          cases done
        | ok rawOdds =>
          rw [odds] at done
          cases done
          exact ⟨rfl, rfl, rfl, rfl⟩

theorem paper_order {settings : CopyTradeSettings F} {marketId side tokenId : Text} {size limitPrice : F}
    {state : ConflictState} {order : PaperOrderRequest F}
    (done : App.accepted (App.paperCopy runtime settings adapter marketId side tokenId size limitPrice moment state).1 =
      some order) :
    order.marketId = marketId ∧ order.side = side ∧ order.size = size ∧ order.limitPrice = limitPrice := by
  unfold App.paperCopy at done
  cases looked : App.copyConflictReason runtime settings moment state with
  | mk result next =>
    cases result with
    | error e =>
      rw [bind_error looked] at done
      cases done
    | ok conflict =>
      rw [bind_ok looked] at done
      cases conflict with
      | some reason => exact absurd done (by simp [accepted_nothing])
      | none =>
        dsimp only at done
        have kept (committed : App.accepted (((App.commitCopyConflict runtime settings moment >>= fun _ =>
            pure (⟨.completed, text "paper_order_completed",
              text "Copy simulation completed without live dispatch."⟩, some ⟨marketId, tokenId, side, size, limitPrice,
                App.orderShares marketId side moment.activity size⟩)) next).1) = some order) :
            order.marketId = marketId ∧ order.side = side ∧ order.size = size ∧ order.limitPrice = limitPrice := by
          cases stored : App.commitCopyConflict runtime settings moment next with
          | mk result last =>
            cases result with
            | error e =>
              rw [bind_error stored] at committed
              cases committed
            | ok _ =>
              rw [bind_ok stored] at committed
              cases committed
              exact ⟨rfl, rfl, rfl, rfl⟩
        cases placing : adapter.placePaperOrder ⟨marketId, tokenId, side, size, limitPrice,
            App.orderShares marketId side moment.activity size⟩ with
        | failed =>
          rw [placing] at done
          cases done
        | rejected =>
          rw [placing] at done
          cases done
        | accepted =>
          rw [placing] at done
          exact kept done
        | unsupported =>
          rw [placing] at done
          exact kept done

theorem computed_preview {live : Bool} {preflight : PaperOrderRequest F → Bool} {state : ConflictState}
    {order : PaperOrderRequest F} (other : cfg.selectedMarketId ≠ text "azuro")
    (placed : Web.placed (Web.previewActivity runtime cfg live preflight adapter moment state).1 = some order) :
    Computed runtime cfg.copytrading moment order := by
  obtain ⟨pricing, last, previewed⟩ : ∃ pricing last, Web.copyTradePreviewFromActivity runtime cfg adapter moment state =
      (.ok (.simulation order pricing), last) := by
    unfold Web.previewActivity at placed
    cases run : Web.copyTradePreviewFromActivity runtime cfg adapter moment state with
    | mk result last =>
      cases result with
      | error e =>
        rw [bind_error run] at placed
        cases placed
      | ok preview =>
        rw [bind_ok run] at placed
        cases preview with
        | skipped reason => cases placed
        | simulation previewed pricing =>
          dsimp only at placed
          split_ifs at placed
          · simp only [Web.placed, pure_apply] at placed
            split_ifs at placed
            cases placed
            exact ⟨pricing, last, rfl⟩
          · cases placed
            exact ⟨pricing, last, rfl⟩
  unfold Web.copyTradePreviewFromActivity at previewed
  cases market : Web.requireSelectedMarket cfg with
  | error e =>
    rw [market] at previewed
    cases previewed
  | ok marketId =>
    have selected : marketId = cfg.selectedMarketId := by
      unfold Web.requireSelectedMarket at market
      split_ifs at market
      exact (Except.ok.inj market).symm
    rw [market, bind_value] at previewed
    cases screened : Web.screen runtime cfg.copytrading adapter marketId moment.activity with
    | error reason =>
      rw [screened] at previewed
      cases previewed
    | ok found =>
      obtain ⟨side, tokenId⟩ := found
      obtain ⟨ofSide, ofToken⟩ := screen_preview screened
      rw [screened] at previewed
      cases sizing : Web.sizing runtime cfg.copytrading marketId side tokenId moment with
      | error e =>
        simp only [sizing] at previewed
        cases previewed
      | ok result =>
        simp only [sizing, bind_value] at previewed
        cases result with
        | error reason => cases previewed
        | ok sized =>
          obtain ⟨sameMarket, sameSide, sameSize, sameLimit⟩ := guarded_order previewed
          have numbers := numbers_preview (selected ▸ other) sizing
          refine ⟨sameSide.trans ofSide, ?_⟩
          rw [sameMarket, sameSide, sameSize, sameLimit, ← ofToken]
          exact numbers

theorem computed_desktop {live persistenceError manualReplayAuthorized : Bool} {blocker : Text} {state : ConflictState}
    {order : PaperOrderRequest F} (other : cfg.selectedMarketId ≠ text "azuro")
    (placed : App.accepted (App.handleActivity runtime blocker cfg live adapter persistenceError
      manualReplayAuthorized moment state).1 = some order) :
    Computed runtime cfg.copytrading moment order := by
  have market : App.activityMarket cfg ≠ text "azuro" := by
    unfold App.activityMarket
    split_ifs
    · decide
    · exact other
  unfold App.handleActivity at placed
  split_ifs at placed with refused
  · cases run : App.liveCopy runtime blocker cfg adapter manualReplayAuthorized moment state with
    | mk result last =>
      cases result with
      | error e =>
        rw [bind_error run] at placed
        cases placed
      | ok outcome =>
        rw [bind_ok run, pure_apply, accepted_nothing] at placed
        cases placed
  · unfold App.copyTradeFromActivity at placed
    split_ifs at placed
    · cases placed
    · cases screened : App.screen runtime cfg.copytrading adapter (App.activityMarket cfg) moment.activity with
      | error outcome =>
        simp [screened, accepted_nothing] at placed
      | ok found =>
        obtain ⟨side, tokenId⟩ := found
        obtain ⟨ofSide, ofToken⟩ := screen_desktop screened
        simp only [screened] at placed
        cases sizing : App.sizing runtime cfg.copytrading (App.activityMarket cfg) side tokenId moment with
        | error outcome => simp [sizing, accepted_nothing] at placed
        | ok found =>
          simp only [sizing] at placed
          obtain ⟨sameMarket, sameSide, sameSize, sameLimit⟩ := paper_order placed
          refine ⟨sameSide.trans ofSide, ?_⟩
          rw [sameMarket, sameSide, sameSize, sameLimit, ← ofToken]
          exact numbers_desktop market sizing

theorem Accepted.computed {live : Bool} {state : ConflictState} {order : PaperOrderRequest F}
    (other : cfg.selectedMarketId ≠ text "azuro") (accepted : Accepted runtime cfg adapter live moment state order) :
    Computed runtime cfg.copytrading moment order := by
  obtain ⟨preflight, placed⟩ | ⟨blocker, persistenceError, manualReplayAuthorized, placed⟩ := accepted
  · exact computed_preview other placed
  · exact computed_desktop other placed

end Accepted

section Exact

open PyFloat

/-- Numbers are exact; the rest of the runtime is any. -/
def exactly (runtime : Runtime PyFloat) : Runtime PyFloat := { runtime with floats := exact }

variable {settings : CopyTradeSettings PyFloat}

theorem tolerance_finite (settings : CopyTradeSettings PyFloat) : ∃ s, tolerance exact settings = .finite s := by
  unfold tolerance
  cases settings.slippage with
  | finite value => exact ⟨max 0 (min value 1), by simp [exact_literal]⟩
  | inf negative => cases negative <;> exact ⟨_, rfl⟩
  | nan => exact ⟨_, rfl⟩

theorem cap_positive {bound : ℚ} (finite : settings.maxUsdcPerTrade = .finite bound) :
    ∃ c, cap exact settings = .finite c ∧ 0 < c := by
  refine ⟨max (1 / 100) bound, ?_, lt_max_of_lt_left (by norm_num)⟩
  rw [cap, finite, exact_literal, exact_max]

/-- The reference price clears the slippage: a purchase ends above zero, a sale starts above it. -/
def Clears (side : Text) (reference tolerance : PyFloat) : Prop :=
  if side = text "BUY" then exact.le (exact.add reference tolerance) (.finite 0) = false
  else exact.lt tolerance reference = true

theorem limit_positive_iff (side : Text) (reference : PyFloat) (s : ℚ) :
    exact.lt (.finite 0) (limitOf exact side reference (.finite s)) = true ↔ Clears side reference (.finite s) := by
  unfold limitOf Clears
  cases reference with
  | finite value =>
    simp only [exact_literal, exact_add, exact_sub, exact_min, exact_max]
    split_ifs <;> simp
  | inf negative =>
    cases negative with
    | false => split_ifs <;> exact iff_of_true rfl rfl
    | true => split_ifs <;> exact iff_of_false Bool.false_ne_true nofun
  | nan =>
    split_ifs
    · exact iff_of_true rfl rfl
    · exact iff_of_false Bool.false_ne_true nofun

/-- Nothing that is positive after the cut at zero was changed by it. -/
theorem wanted_cases (product : PyFloat) :
    (∃ w : ℚ, exact.max (.finite 0) product = .finite w ∧ (0 < w → product = .finite w)) ∨
      exact.max (.finite 0) product = .inf false ∧ product = .inf false := by
  cases product with
  | finite value =>
    refine .inl ⟨max 0 value, exact_max 0 value, fun positive => ?_⟩
    rw [max_eq_right_of_lt (lt_max_iff.mp positive |>.resolve_left (lt_irrefl 0))]
  | inf negative =>
    cases negative with
    | false => exact .inr ⟨rfl, rfl⟩
    | true => exact .inl ⟨0, rfl, fun positive => absurd positive (lt_irrefl 0)⟩
  | nan => exact .inl ⟨0, rfl, fun positive => absurd positive (lt_irrefl 0)⟩

/-- A positive bound on what is wanted leaves a number between zero and both. -/
theorem bounded_cases {product size : PyFloat} {bound : ℚ} (above : 0 < bound)
    (sized : size = if exact.lt (.finite bound) (exact.max (.finite 0) product) then .finite bound
      else exact.max (.finite 0) product)
    (positive : exact.le size (.finite 0) = false) :
    ∃ v : ℚ, size = .finite v ∧ 0 < v ∧ v ≤ bound ∧ exact.le (.finite v) product = true := by
  obtain ⟨w, wanted, kept⟩ | ⟨wanted, infinite⟩ := wanted_cases product
  · simp only [wanted, exact_lt, decide_eq_true_eq] at sized
    split_ifs at sized with exceeds
    · refine ⟨bound, sized, above, le_rfl, ?_⟩
      rw [kept (above.trans exceeds), exact_le, decide_eq_true exceeds.le]
    · have more : 0 < w := by simpa [sized] using positive
      refine ⟨w, sized, more, not_lt.mp exceeds, ?_⟩
      rw [kept more, exact_le, decide_eq_true le_rfl]
  · rw [wanted] at sized
    exact ⟨bound, sized, above, le_rfl, by rw [infinite]; rfl⟩

theorem bounded_nothing {product size : PyFloat}
    (sized : size = if exact.lt (.finite 0) (exact.max (.finite 0) product) then .finite 0
      else exact.max (.finite 0) product) : exact.le size (.finite 0) = true := by
  obtain ⟨w, wanted, _⟩ | ⟨wanted, _⟩ := wanted_cases product
  · simp only [wanted, exact_lt, decide_eq_true_eq] at sized
    split_ifs at sized with exceeds
    · rw [sized, exact_le, decide_eq_true le_rfl]
    · rw [sized, exact_le, decide_eq_true (not_lt.mp exceeds)]
  · rw [wanted] at sized
    rw [sized]
    rfl

/-- What an accepted copy may be: its size, its limit and the two together. -/
structure WithinCap (runtime : Runtime PyFloat) (settings : CopyTradeSettings PyFloat) (moment : Moment PyFloat)
    (order : PaperOrderRequest PyFloat) : Prop where
  positive : exact.lt (.finite 0) order.size = true
  scaled : exact.le order.size (exact.mul (sourceSize (exactly runtime) moment.activity) settings.scale) = true
  priced : exact.lt (.finite 0) order.limitPrice = true
  capped :
    if isBudgetMarket order.marketId = true ∧ order.side = text "BUY" then
      exact.le order.size (cap exact settings) = true
    else exact.le (exact.mul order.size order.limitPrice) (cap exact settings) = true

/-- The activity, the quotes and the slippage give the copy a limit above zero. -/
def Quoted (runtime : Runtime PyFloat) (settings : CopyTradeSettings PyFloat) (moment : Moment PyFloat) : Prop :=
  Clears (copySide runtime moment.activity) (reference (exactly runtime) moment) (tolerance exact settings)

theorem computed_within {runtime : Runtime PyFloat} {moment : Moment PyFloat} {order : PaperOrderRequest PyFloat}
    {bound : ℚ} (finite : settings.maxUsdcPerTrade = .finite bound)
    (computed : Computed (exactly runtime) settings moment order)
    (priced : exact.lt (.finite 0) order.limitPrice = true) : WithinCap runtime settings moment order := by
  obtain ⟨_, numbers⟩ := computed
  obtain ⟨c, capped, above⟩ := cap_positive finite
  have sized := numbers.sized
  simp only [exactly, exact_literal, capped, sizeOf, priced, if_true] at sized
  by_cases budget : isBudgetMarket order.marketId = true ∧ order.side = text "BUY"
  · rw [if_pos budget] at sized
    obtain ⟨v, size, positive, below, scaled⟩ := bounded_cases above sized numbers.positive
    refine ⟨?_, ?_, priced, ?_⟩
    · rw [size, exact_lt, decide_eq_true positive]
    · rw [size]
      exact scaled
    · rw [if_pos budget, size, capped, exact_le, decide_eq_true below]
  · rw [if_neg budget] at sized
    cases limit : order.limitPrice with
    | finite l =>
      have lifted : 0 < l := by simpa [limit] using priced
      rw [limit, exact_div] at sized
      obtain ⟨v, size, positive, below, scaled⟩ := bounded_cases (div_pos above lifted) sized numbers.positive
      refine ⟨?_, ?_, priced, ?_⟩
      · rw [size, exact_lt, decide_eq_true positive]
      · rw [size]
        exact scaled
      · rw [if_neg budget, size, limit, capped, exact_mul, exact_le, decide_eq_true ((le_div_iff₀ lifted).mp below)]
    | inf negative =>
      -- A bound of nothing leaves no size at all.
      rw [limit] at sized
      exact absurd numbers.positive (by rw [exactly, exact_literal, bounded_nothing sized]; exact nofun)
    | nan =>
      rw [limit] at priced
      cases priced

/-- An accepted copy stays within the cap exactly when its reference price clears the slippage. -/
theorem accepted_within_cap_iff (runtime : Runtime PyFloat) (cfg : CopyConfig PyFloat) (adapter : Adapter PyFloat)
    (live : Bool) (moment : Moment PyFloat) (state : ConflictState) (order : PaperOrderRequest PyFloat) (bound : ℚ)
    (finite : cfg.copytrading.maxUsdcPerTrade = .finite bound) (other : cfg.selectedMarketId ≠ text "azuro")
    (accepted : Accepted (exactly runtime) cfg adapter live moment state order) :
    WithinCap runtime cfg.copytrading moment order ↔ Quoted runtime cfg.copytrading moment := by
  have computed := accepted.computed other
  obtain ⟨side, numbers⟩ := computed
  obtain ⟨s, tolerated⟩ := tolerance_finite cfg.copytrading
  have limit : exact.lt (.finite 0) order.limitPrice = true ↔ Quoted runtime cfg.copytrading moment := by
    rw [numbers.priced, side, Quoted, tolerated]
    change exact.lt (.finite 0) (limitOf exact _ _ (tolerance exact cfg.copytrading)) = true ↔ _
    rw [tolerated]
    exact limit_positive_iff _ _ s
  constructor
  · intro within
    exact limit.mp within.priced
  · intro quoted
    exact computed_within finite ⟨side, numbers⟩ (limit.mpr quoted)

end Exact

section Examples

open PyFloat

theorem accepted_within_cap_iff_purchase :
    ∃ order, Accepted (exactly exactRuntime) followOne acceptingAdapter false (purchase (text "w") (text "BUY")) [] order ∧
      (WithinCap exactRuntime followOne.copytrading (purchase (text "w") (text "BUY")) order ↔
        Quoted exactRuntime followOne.copytrading (purchase (text "w") (text "BUY"))) := by
  have placed : (Web.placed (Web.previewActivity (exactly exactRuntime) followOne false (fun _ => true)
      acceptingAdapter (purchase (text "w") (text "BUY")) []).1).isSome = true := by decide +kernel
  obtain ⟨order, found⟩ := Option.isSome_iff_exists.mp placed
  have accepted : Accepted (exactly exactRuntime) followOne acceptingAdapter false (purchase (text "w") (text "BUY")) [] order :=
    .inl ⟨_, found⟩
  exact ⟨order, accepted, accepted_within_cap_iff exactRuntime followOne acceptingAdapter false _ [] order 25 rfl
    (by decide) accepted⟩

/-- A sale of a million shares while the best bid is a cent and the slippage is two. -/
def cheapSale : Moment PyFloat where
  activity := [(text "proxyWallet", .str (text "w")), (text "side", .str (text "SELL")), (text "asset", .str (text "t")),
    (text "size", .int 1000000), (text "price", .str (text "0.5")), (text "timestamp", .int 1000)]
  now := .finite 1000
  quotes _ := (some (.finite (1 / 100)), none)

def followSales : CopyConfig PyFloat :=
  { followOne with copytrading := { followOne.copytrading with allowSells := true } }

/-- Both engines take the whole sale at a limit of zero, although a copy may cost no more than 25. -/
theorem cheap_sale_uncapped :
    ∃ order : PaperOrderRequest PyFloat,
      Web.placed (Web.previewActivity exactRuntime followSales false (fun _ => true) acceptingAdapter cheapSale []).1 =
        some order ∧
      App.accepted (App.handleActivity exactRuntime [] followSales false acceptingAdapter false false cheapSale []).1 =
        some order ∧
      order.size = .finite 1000000 ∧ order.limitPrice = .finite 0 ∧
      ¬WithinCap exactRuntime followSales.copytrading cheapSale order := by
  refine ⟨⟨text "polymarket", text "t", text "SELL", .finite 1000000, .finite 0, none⟩, ?_, ?_, rfl, rfl, ?_⟩
  · decide +kernel
  · decide +kernel
  · intro within
    exact absurd within.priced (by decide)

end Examples

end MarketSentinel.Copy
