import MarketSentinel.Copy.Desktop
import MarketSentinel.Copy.Preview
import MarketSentinel.Library.Result
import MarketSentinel.Library.Transition

/-! The preview and the desktop engine in lockstep.

They differ in one normalisation: only the preview strips the side of an activity.
-/

set_option autoImplicit false

namespace MarketSentinel.Copy

open Python Program

variable {F : Type} {runtime : Runtime F}

/-- Every number of an activity that is too large for a float stops a preview. -/
def Readable (runtime : Runtime F) (activity : Activity) : Prop :=
  ∀ field ∈ ["size", "price", "odds", "timestamp"], runtime.floats.parse (activity.get field) ≠ .error .overflow

/-- A side that a copy can have stands without blanks around it. -/
def BareSide (runtime : Runtime F) (activity : Activity) : Prop :=
  let side := fieldText runtime activity "side"
  runtime.casing.upper (strip side) = text "BUY" ∨ runtime.casing.upper (strip side) = text "SELL" → strip side = side

structure Plain (runtime : Runtime F) (activity : Activity) : Prop where
  side : BareSide runtime activity
  numbers : Readable runtime activity

section Numbers

theorem safeFloat_agree {value : Json} (readable : runtime.floats.parse value ≠ .error .overflow) (default : Option F) :
    Web.safeFloat runtime value default = .ok (App.safeFloat runtime value default) := by
  unfold Web.safeFloat App.safeFloat
  split
  · rename_i missing
    rcases missing with rfl | rfl
    · rw [runtime.floats.parse_null]
    · rw [runtime.floats.parse_empty]
  · cases parsed : runtime.floats.parse value with
    | ok number => rfl
    | error e =>
      cases e with
      | invalid => rfl
      | overflow => exact absurd parsed readable

theorem timestamp_agree {moment : Moment F} (readable : Readable runtime moment.activity) :
    Web.activityTimestamp runtime moment =
      match App.itemTimestamp runtime moment with
      | .ok timestamp => .ok timestamp
      | .error e => .error (.number e) := by
  have read := safeFloat_agree (readable "timestamp" (by decide)) (some moment.now)
  unfold Web.activityTimestamp App.itemTimestamp
  rw [read]
  rfl

end Numbers

section Guards

variable (settings : CopyTradeSettings F) {moment : Moment F}

/-- The preview stores at once what the desktop engine stores after the order. -/
theorem guards_agree (readable : Readable runtime moment.activity)
    (bare : strip (fieldText runtime moment.activity "side") = fieldText runtime moment.activity "side")
    (state : ConflictState) :
    match App.copyConflictReason runtime settings moment state with
    | (.error e, next) => Web.copyTradeConflictReason runtime settings moment state = (.error (.number e), next)
    | (.ok (some _), next) => ∃ reason, Web.copyTradeConflictReason runtime settings moment state = (.ok (some reason), next)
    | (.ok none, next) => ∃ last, App.commitCopyConflict runtime settings moment next = (.ok (), last) ∧
        Web.copyTradeConflictReason runtime settings moment state = (.ok none, last) := by
  have keys : App.copyGuardKey runtime moment.activity = Web.copyTradeGuardKey runtime moment.activity := rfl
  unfold App.copyConflictReason Web.copyTradeConflictReason App.commitCopyConflict
  rw [keys, bare]
  by_cases off : settings.conflictGuard = false
  · rw [if_pos off, if_pos (Or.inl off), if_pos off]
    exact ⟨state, rfl, rfl⟩
  · by_cases empty : Web.copyTradeGuardKey runtime moment.activity = []
    · rw [if_neg off, if_pos empty, if_pos (Or.inr empty), if_neg off, if_pos empty]
      exact ⟨state, rfl, rfl⟩
    · rw [if_neg off, if_neg empty, if_neg (not_or.mpr ⟨off, empty⟩), if_neg off, if_neg empty]
      rw [timestamp_agree readable]
      cases App.itemTimestamp runtime moment with
      | error e => rfl
      | ok timestamp =>
        simp only [bind_value, bind_modify, bind_state]
        cases found : Dict.get? (evict (max 0 settings.conflictWindowSeconds) timestamp state)
            (Web.copyTradeGuardKey runtime moment.activity) with
        | none => exact ⟨_, rfl, rfl⟩
        | some existing =>
          by_cases own : existing.wallet = runtime.casing.lower (strip (fieldText runtime moment.activity "proxyWallet"))
          · simp only [if_pos own]
            exact ⟨_, rfl, rfl⟩
          · simp only [if_neg own]
            by_cases opposite : existing.side ≠ [] ∧
                runtime.casing.upper existing.side ≠ runtime.casing.upper (fieldText runtime moment.activity "side")
            · simp only [if_pos opposite]
              exact ⟨_, rfl⟩
            · simp only [if_neg opposite]
              exact ⟨_, rfl⟩

end Guards

section Orders

variable {settings : CopyTradeSettings F} {adapter : Adapter F} {moment : Moment F}

theorem buy_solid : strip (text "BUY") = text "BUY" := by decide

theorem sell_solid : strip (text "SELL") = text "SELL" := by decide

/-- Either engine takes a side only without blanks around it. -/
theorem sides_agree (bare : BareSide runtime moment.activity) :
    strip (fieldText runtime moment.activity "side") = fieldText runtime moment.activity "side" ∨
    let stripped := runtime.casing.upper (strip (fieldText runtime moment.activity "side"))
    let raw := runtime.casing.upper (fieldText runtime moment.activity "side")
    (stripped ≠ text "BUY" ∧ stripped ≠ text "SELL") ∧ raw ≠ text "BUY" ∧ raw ≠ text "SELL" := by
  by_cases same : strip (fieldText runtime moment.activity "side") = fieldText runtime moment.activity "side"
  · exact .inl same
  · refine .inr ⟨not_or.mp fun side => same (bare side), fun buy => same ?_, fun sell => same ?_⟩
    · exact runtime.upper_solid _ (by rw [buy, buy_solid])
    · exact runtime.upper_solid _ (by rw [sell, sell_solid])

/-- Both engines let the same activities through to their numbers. -/
theorem screens_agree (bare : BareSide runtime moment.activity) (marketId : Text) :
    (Web.screen runtime settings adapter marketId moment.activity).toOption =
      (App.screen runtime settings adapter marketId moment.activity).toOption := by
  unfold Web.screen App.screen
  obtain same | ⟨stripped, raw⟩ := sides_agree bare
  · rw [same]
    dsimp only
    split_ifs <;> rfl
  · dsimp only
    simp only [if_pos stripped, if_pos raw]
    split_ifs <;> rfl

theorem screen_bare (bare : BareSide runtime moment.activity) {marketId : Text} {found : Text × Text}
    (passed : App.screen runtime settings adapter marketId moment.activity = .ok found) :
    strip (fieldText runtime moment.activity "side") = fieldText runtime moment.activity "side" := by
  obtain same | ⟨_, raw⟩ := sides_agree bare
  · exact same
  · unfold App.screen at passed
    dsimp only at passed
    simp only [if_pos raw] at passed
    split_ifs at passed

theorem limits_agree {marketId side : Text} {quotes : Option F × Option F} {rawPrice : Option F} {slippage : F}
    (readable : Readable runtime moment.activity) :
    Web.limitPrice runtime marketId side moment.activity quotes rawPrice slippage =
      .ok (App.limitPrice runtime marketId side moment.activity quotes rawPrice slippage).toOption := by
  unfold Web.limitPrice App.limitPrice
  split_ifs
  · rw [safeFloat_agree (readable "odds" (by decide))]
    simp only [bind, Except.bind]
    cases App.safeFloat runtime (moment.activity.get "odds") none with
    | some odds =>
      dsimp only
      split_ifs <;> rfl
    | none =>
      cases rawPrice with
      | none => rfl
      | some price =>
        dsimp only
        by_cases positive : runtime.floats.lt (runtime.floats.literal 0) price = true
        · simp only [if_pos positive]
          split_ifs <;> rfl
        · simp only [if_neg positive]
          rfl
  · rfl
  · rfl

/-- Both engines compute the same size and the same limit, or no copy. -/
theorem sizings_agree (settings : CopyTradeSettings F) (marketId side tokenId : Text) (readable : Readable runtime moment.activity) :
    (Web.sizing runtime settings marketId side tokenId moment).map
        (fun sized => sized.toOption.map fun sized => (sized.size, sized.limitPrice)) =
      .ok (App.sizing runtime settings marketId side tokenId moment).toOption := by
  unfold Web.sizing App.sizing
  dsimp only
  rw [safeFloat_agree (readable "size" (by decide)), safeFloat_agree (readable "price" (by decide))]
  simp only [bind, Except.bind, limits_agree readable]
  cases App.limitPrice runtime marketId side moment.activity
      (if marketId = text "azuro" then (none, none) else moment.quotes tokenId)
      (App.safeFloat runtime (moment.activity.get "price") none)
      (runtime.floats.max (runtime.floats.literal 0) (runtime.floats.min settings.slippage (runtime.floats.literal 1)))
      with
  | error outcome => rfl
  | ok limit =>
    simp only [Except.toOption]
    split_ifs <;> simp_all [Except.map, pure, Except.pure]

end Orders

section Lockstep

variable (runtime) (cfg : CopyConfig F) (adapter : Adapter F)

/-- The copy that a preview would place. -/
def Web.accepted (result : Except Web.Raised (Web.Preview F)) : Option (PaperOrderRequest F) :=
  match result with
  | .ok (.simulation order _) => some order
  | _ => none

/-- The copy that the desktop engine completed. -/
def App.accepted (result : Except FloatError (App.CopyActivityOutcome × Option (PaperOrderRequest F))) :
    Option (PaperOrderRequest F) :=
  match result with
  | .ok (outcome, order) => if outcome.state = .completed then order else none
  | .error _ => none

def previewStep (state : ConflictState) (moment : Moment F) : Option (PaperOrderRequest F) × ConflictState :=
  let (result, next) := Web.copyTradePreviewFromActivity runtime cfg adapter moment state
  (Web.accepted result, next)

/-- One activity of a desktop application whose configuration could be stored. -/
def desktopStep (state : ConflictState) (moment : Moment F) : Option (PaperOrderRequest F) × ConflictState :=
  let (result, next) := App.copyTradeFromActivity runtime cfg adapter false moment state
  (App.accepted result, next)

variable {runtime cfg adapter}

theorem accepted_nothing (outcome : App.CopyActivityOutcome) :
    App.accepted (F := F) (.ok (outcome, none)) = none := by
  unfold App.accepted
  dsimp only
  split_ifs <;> rfl

theorem previewStep_screened {marketId : Text} (state : ConflictState) {moment : Moment F}
    (market : Web.requireSelectedMarket cfg = .ok marketId)
    (stopped : (Web.screen runtime cfg.copytrading adapter marketId moment.activity).toOption = none) :
    previewStep runtime cfg adapter state moment = (none, state) := by
  unfold previewStep Web.copyTradePreviewFromActivity
  rw [market, bind_value]
  cases screened : Web.screen runtime cfg.copytrading adapter marketId moment.activity with
  | error reason => rfl
  | ok found =>
    rw [screened] at stopped
    cases stopped

/-- Behind the same size and the same limit the engines place the same order and keep the same guard. -/
theorem orders_agree (accepts : ∀ order, adapter.placePaperOrder order = .accepted) (settings : CopyTradeSettings F)
    (marketId side tokenId : Text) (sized : Web.Sizing F) {moment : Moment F}
    (readable : Readable runtime moment.activity)
    (bare : strip (fieldText runtime moment.activity "side") = fieldText runtime moment.activity "side")
    (state : ConflictState) :
    let previewed := Web.guardedPreview runtime settings marketId side tokenId sized moment state
    let copied := App.paperCopy runtime settings adapter marketId side tokenId sized.size sized.limitPrice moment state
    Web.accepted previewed.1 = App.accepted copied.1 ∧ previewed.2 = copied.2 := by
  have guards := guards_agree settings readable bare state
  unfold Web.guardedPreview App.paperCopy
  cases looked : App.copyConflictReason runtime settings moment state with
  | mk result next =>
    rw [looked] at guards
    cases result with
    | error e =>
      rw [bind_error looked, bind_error guards]
      exact ⟨rfl, rfl⟩
    | ok conflict =>
      cases conflict with
      | some reason =>
        obtain ⟨other, guards⟩ := guards
        rw [bind_ok looked, bind_ok guards]
        exact ⟨rfl, rfl⟩
      | none =>
        obtain ⟨last, committed, guards⟩ := guards
        rw [bind_ok looked, bind_ok guards, safeFloat_agree (readable "odds" (by decide))]
        simp only [accepts, bind_value]
        rw [bind_ok committed]
        exact ⟨rfl, rfl⟩

/-- The engines do the same with one activity. -/
theorem steps_agree (selected : cfg.selectedMarketId ≠ []) (enabled : cfg.marketEnabled = true)
    (accepts : ∀ order, adapter.placePaperOrder order = .accepted) (state : ConflictState) (moment : Moment F)
    (plain : Plain runtime moment.activity) :
    previewStep runtime cfg adapter state moment = desktopStep runtime cfg adapter state moment := by
  have market : Web.requireSelectedMarket cfg = .ok cfg.selectedMarketId := by
    rw [Web.requireSelectedMarket, if_neg selected, if_pos enabled]
  have same : App.activityMarket cfg = cfg.selectedMarketId := if_neg selected
  have screens : (Web.screen runtime cfg.copytrading adapter cfg.selectedMarketId moment.activity).toOption =
      (App.screen runtime cfg.copytrading adapter cfg.selectedMarketId moment.activity).toOption :=
    screens_agree plain.side cfg.selectedMarketId
  unfold desktopStep App.copyTradeFromActivity
  simp only [same, Bool.false_eq_true, if_false]
  cases screened : App.screen runtime cfg.copytrading adapter cfg.selectedMarketId moment.activity with
  | error outcome =>
    rw [previewStep_screened state market (by rw [screens, screened]; rfl)]
    exact congrArg (·, state) (accepted_nothing outcome).symm
  | ok found =>
    obtain ⟨side, tokenId⟩ := found
    have previewed : Web.screen runtime cfg.copytrading adapter cfg.selectedMarketId moment.activity =
        .ok (side, tokenId) := Result.toOption_eq_some (by rw [screens, screened]; rfl)
    have sizings := sizings_agree cfg.copytrading cfg.selectedMarketId side tokenId plain.numbers
    obtain ⟨result, previewSized, sizings⟩ := Result.map_eq_ok.mp sizings
    unfold previewStep Web.copyTradePreviewFromActivity
    rw [market, bind_value, previewed]
    simp only [previewSized, bind_value]
    cases sized : App.sizing runtime cfg.copytrading cfg.selectedMarketId side tokenId moment with
    | error outcome =>
      rw [sized] at sizings
      cases result with
      | ok found => cases sizings
      | error reason => exact congrArg (·, state) (accepted_nothing outcome).symm
    | ok numbers =>
      obtain ⟨size, limit⟩ := numbers
      rw [sized] at sizings
      cases result with
      | error reason => cases sizings
      | ok found =>
        cases sizings
        have orders := orders_agree accepts cfg.copytrading cfg.selectedMarketId side tokenId found plain.numbers
          (screen_bare plain.side screened) state
        exact Prod.ext orders.1 orders.2

/-- On activities with readable numbers and a bare side the preview and the desktop engine accept the same copies. -/
theorem preview_matches_desktop (runtime : Runtime F) (cfg : CopyConfig F) (adapter : Adapter F)
    (moments : List (Moment F)) (selected : cfg.selectedMarketId ≠ []) (enabled : cfg.marketEnabled = true)
    (accepts : ∀ order, adapter.placePaperOrder order = .accepted)
    (plain : ∀ moment ∈ moments, Plain runtime moment.activity) :
    Transition.trace (previewStep runtime cfg adapter) [] moments =
      Transition.trace (desktopStep runtime cfg adapter) [] moments :=
  Transition.trace_congr (fun moment => Plain runtime moment.activity) (fun state moment => steps_agree selected enabled accepts state moment) [] moments plain

end Lockstep

section Examples

def exactRuntime : Runtime PyFloat where
  casing := asciiCasing
  upper_solid := asciiCasing_upper_solid
  floats := PyFloat.exact
  spell _ := []
  activityIdentity _ raw := some raw
  activityKey _ := []

def followOne : CopyConfig PyFloat where
  selectedMarketId := text "polymarket"
  marketEnabled := true
  copytrading :=
    { enabled := true, followWallet := text "w", followWallets := [], scale := .finite 1,
      maxUsdcPerTrade := .finite 25, slippage := .finite (1 / 50), allowSells := false, conflictGuard := true,
      conflictWindowSeconds := 300 }

def acceptingAdapter : Adapter PyFloat := { displayName := [], copyTrading := true, placePaperOrder _ := .accepted }

/-- A purchase of ten shares of one token at one half. -/
def purchase (wallet side : Text) : Moment PyFloat where
  activity := [(text "proxyWallet", .str wallet), (text "side", .str side), (text "asset", .str (text "t")),
    (text "size", .int 10), (text "price", .str (text "0.5")), (text "timestamp", .int 1000)]
  now := .finite 1000
  quotes _ := (none, none)

def followTwo : CopyConfig PyFloat :=
  { followOne with copytrading := { followOne.copytrading with followWallets := [text "v"] } }

/-- Two followed wallets buy one token: the guard of both engines lets the first purchase pass only. -/
theorem preview_matches_desktop_twice :
    let bought := [purchase (text "w") (text "BUY"), purchase (text "v") (text "BUY")]
    Transition.trace (previewStep exactRuntime followTwo acceptingAdapter) [] bought =
        Transition.trace (desktopStep exactRuntime followTwo acceptingAdapter) [] bought ∧
      (Transition.trace (desktopStep exactRuntime followTwo acceptingAdapter) [] bought).1.map Option.isSome =
        [true, false] := by
  refine ⟨preview_matches_desktop exactRuntime followTwo acceptingAdapter _ (by decide) rfl (fun _ => rfl)
    fun moment member => ?_, by decide +kernel⟩
  rcases List.mem_pair.mp member with rfl | rfl <;> exact ⟨fun _ => by decide, by unfold Readable; decide⟩

/-- The preview accepts a purchase whose side has a blank before it, the desktop engine rejects it. -/
theorem padded_side_splits_engines :
    (Transition.trace (previewStep exactRuntime followOne acceptingAdapter) [] [purchase (text "w") (text " BUY")]).1.map
        Option.isSome = [true] ∧
      (Transition.trace (desktopStep exactRuntime followOne acceptingAdapter) [] [purchase (text "w") (text " BUY")]).1.map
        Option.isSome = [false] := by
  decide +kernel

end Examples

end MarketSentinel.Copy
