import MarketSentinel.Listing.Consumption

/-! The listing adapters under the poller.

Four of the six list every fill with a fractional time. Hyperliquid lists the fills
of one transaction under one name, and Myriad tells them apart by their terms only.
-/

set_option autoImplicit false

namespace MarketSentinel.Listing

open Python Wallet

inductive Adapter where
  | azuro (settings : Azuro.Settings)
  | context
  | probable
  | predictFun (account : Json)
  | hyperliquid
  | myriad (settings : Myriad.Settings)

/-- The raw rows of a wallet at a venue, newest first; only Azuro has a second feed. -/
structure History where
  rows : List Json
  liveRows : List Json := []

section Adapters

variable (runtime : Runtime)

def listActivity (adapter : Adapter) (address : Text) (respond : Nat → Json) (limit : Nat) : Except Fault Feed.Page :=
  match adapter with
  | .azuro settings => Azuro.listActivity runtime settings address limit respond
  | .context => Context.listActivity runtime address limit respond
  | .probable => Probable.listActivity runtime address limit respond
  | .predictFun account => PredictFun.listActivity runtime account address limit respond
  | .hyperliquid => Hyperliquid.listActivity runtime address limit respond
  | .myriad settings => Myriad.listActivity runtime settings address limit respond

/-- The limit that an adapter sends upstream for a limit that it takes. -/
def requestLimit (adapter : Adapter) (limit : Nat) : Nat :=
  match adapter with
  | .hyperliquid => Hyperliquid.clip limit
  | .myriad _ => Myriad.clip limit
  | .azuro _ | .context | .probable | .predictFun _ => limit

/-- Every fill of a history, as its adapter lists it. -/
def fills (adapter : Adapter) (wallet : Text) (history : History) : List Item :=
  match adapter with
  | .azuro settings => ((Azuro.feedRows history.rows history.liveRows).filterMap
      (fill? (Azuro.betOf runtime settings))).map (Azuro.Bet.activity runtime wallet)
  | .context => (history.rows.filterMap (fill? (Context.orderOf runtime wallet))).map (Context.Order.activity wallet)
  | .probable => (history.rows.filterMap (fill? (Probable.tradeOf runtime))).map (Probable.Trade.activity wallet)
  | .predictFun _ => (history.rows.filterMap (fill? (PredictFun.eventOf runtime))).map
      (PredictFun.Event.activity runtime wallet)
  | .hyperliquid => (history.rows.filterMap (fill? (Hyperliquid.fillOf runtime))).map (Hyperliquid.Fill.activity wallet)
  | .myriad settings => (history.rows.filterMap (fill? (Myriad.eventOf runtime settings))).map
      (Myriad.Event.activity runtime wallet)

/-- A payload is an honest answer of a venue with that history. -/
def Answers (adapter : Adapter) (wallet : Text) (history : History) (limit : Nat) (payload : Json) : Prop :=
  let follows := (Feed.hasFollowingPage · payload)
  let raw := fun names : List String => Feed.rawActivityRows (names.map text) payload
  match adapter with
  | .azuro _ => ∀ data, Azuro.betHistory runtime wallet payload = .ok data →
      Serves history.rows (Azuro.rowsUnder data "v3Bets") (Feed.rawActivityRows [text "v3Bets"] (.obj data))
        (fun _ => false) limit ∧
      Serves history.liveRows (Azuro.rowsUnder data "liveBets") (Feed.rawActivityRows [text "liveBets"] (.obj data))
        (fun _ => false) limit
  | .context => Serves history.rows (Context.rows payload) (raw Context.rowNames) follows limit
  | .probable => Serves history.rows (Probable.rows payload) (raw Probable.rowNames) follows limit
  | .predictFun _ => Serves history.rows (listFromPayload PredictFun.rowNames payload) (raw PredictFun.rowNames) follows
      limit
  | .hyperliquid => ∀ rows, payload = .arr rows → rows <+: history.rows
  | .myriad _ => Serves history.rows (Myriad.rows payload) (raw Myriad.rowNames) follows limit

/-- A venue with one history of a wallet, whose fills it serves newest first. -/
structure Upstream (adapter : Adapter) (address : Text) where
  history : History
  respond : Nat → Json
  answers : ∀ limit, Answers runtime adapter (walletOf runtime address) history limit (respond limit)
  newestFirst : (fills runtime adapter (walletOf runtime address) history).Pairwise Feed.Newer

/-- What an answer must be like for the poller. -/
def Suits (adapter : Adapter) (wallet : Text) (limit : Nat) (payload : Json) : Prop :=
  match adapter with
  -- These list a fractional time, so that there must be no fill.
  | .azuro settings => ∀ data, Azuro.betHistory runtime wallet payload = .ok data →
      ∀ row ∈ Azuro.feedRows (Azuro.rowsUnder data "v3Bets") (Azuro.rowsUnder data "liveBets"),
        fill? (Azuro.betOf runtime settings) row = none
  | .context => ∀ row ∈ Context.rows payload, fill? (Context.orderOf runtime wallet) row = none
  | .probable => ∀ row ∈ Probable.rows payload, fill? (Probable.tradeOf runtime) row = none
  | .predictFun _ => ∀ row ∈ listFromPayload PredictFun.rowNames payload, fill? (PredictFun.eventOf runtime) row = none
  -- No two of the first fills share a transaction, or what stands for it.
  | .hyperliquid =>
    let first := (((Feed.arrayOf payload).getD []).filterMap (fill? (Hyperliquid.fillOf runtime))).take limit
    (∀ fill ∈ first, 0 < fill.timestamp) ∧ (first.map Hyperliquid.Fill.fillId).Nodup
  -- No two of the first events share a transaction and the digest of their terms.
  | .myriad settings =>
    let first := ((Myriad.rows payload).filterMap (fill? (Myriad.eventOf runtime settings))).take limit
    (∀ event ∈ first, 0 < event.timestamp) ∧ (first.map (Myriad.Event.mark runtime wallet)).Nodup

end Adapters

section Consumption

variable {runtime : Runtime} {adapter : Adapter} {address : Text} {limit : Nat} {page : Feed.Page}

theorem rowsConsumable_iff_suits {respond : Nat → Json}
    (listed : listActivity runtime adapter address respond limit = .ok page) :
    RowsConsumable runtime.toSpelling page ↔
      Suits runtime adapter (walletOf runtime address) (requestLimit adapter limit)
        (respond (requestLimit adapter limit)) := by
  cases adapter with
  | azuro settings =>
    obtain ⟨_, data, bets, _, answered, read, _, shape, _⟩ := Azuro.listActivity_eq_ok listed
    rw [rowsConsumable_iff_none shape fun bet => ⟨_, Azuro.timestamp_activity _ bet⟩, Azuro.normalized_eq_nil read]
    constructor
    · intro none other again
      have same : Except.ok data = Except.ok other := answered.symm.trans again
      cases same
      exact none
    · intro suits
      exact suits data answered
  | context =>
    obtain ⟨_, read⟩ := Context.listActivity_eq_ok listed
    exact gatherPage_consumable_iff read fun order => ⟨_, Context.timestamp_activity _ order⟩
  | probable =>
    obtain ⟨_, read⟩ := Probable.listActivity_eq_ok listed
    exact gatherPage_consumable_iff read fun trade => ⟨_, Probable.timestamp_activity _ trade⟩
  | predictFun account =>
    obtain ⟨_, read⟩ := PredictFun.listActivity_eq_ok listed
    exact gatherPage_consumable_iff read fun event => ⟨_, PredictFun.timestamp_activity _ event⟩
  | hyperliquid =>
    obtain ⟨rows, fills, answered, read, rfl⟩ := Hyperliquid.listActivity_eq_ok listed
    have first := gather_eq_ok read
    rw [max_eq_left (Hyperliquid.one_le_clip limit)] at first
    have shape : (fills.map (Hyperliquid.Fill.activity (walletOf runtime address))).map Json.obj =
        fills.map fun fill => .obj (fill.activity (walletOf runtime address)) := List.map_map
    rw [rowsConsumable_iff_names shape (Hyperliquid.timestamp_activity _) (Hyperliquid.activityKey_activity runtime _),
      first]
    simp only [Suits, requestLimit, answered, Feed.arrayOf, Option.getD_some]
  | myriad settings =>
    obtain rfl := Myriad.listActivity_eq_ok listed
    rw [rowsConsumable_iff_names List.map_map (Myriad.timestamp_activity runtime _)
      (Myriad.activityKey_activity runtime _)]
    rfl

/-- An answer of the upstream shows its history; a float time must not be shown. -/
theorem shows_of_answers {history : History} {respond : Nat → Json}
    (answers : Answers runtime adapter (walletOf runtime address) history (requestLimit adapter limit)
      (respond (requestLimit adapter limit)))
    (listed : listActivity runtime adapter address respond limit = .ok page)
    (suits : Suits runtime adapter (walletOf runtime address) (requestLimit adapter limit)
      (respond (requestLimit adapter limit))) :
    Shows (fills runtime adapter (walletOf runtime address) history) page ∧ (1 ≤ limit → page.rows.length ≤ limit) := by
  cases adapter with
  | azuro settings =>
    obtain ⟨positive, data, bets, complete, answered, read, ended, shape, claim⟩ := Azuro.listActivity_eq_ok listed
    have none := suits data answered
    obtain rfl := (Azuro.normalized_eq_nil read).mpr none
    refine ⟨⟨[], _, rfl, shape, ?_⟩, fun _ => by rw [shape]; exact Nat.zero_le _⟩
    cases complete with
    | false => exact Or.inl claim
    | true =>
      right
      obtain ⟨served, live⟩ := answers data answered
      obtain ⟨v3Bets, liveBets, first, second, short, shortLive⟩ := Azuro.short_of_isComplete ended
      rw [first] at served
      rw [second] at live
      rw [served.whole short rfl, live.whole shortLive rfl, ← List.filterMap_eq_nil_iff] at none
      exact List.map_eq_nil_iff.mpr none
  | context =>
    obtain ⟨positive, read⟩ := Context.listActivity_eq_ok listed
    obtain ⟨shows, bound⟩ := gatherPage_shows read positive answers
    exact ⟨shows, fun _ => bound⟩
  | probable =>
    obtain ⟨positive, read⟩ := Probable.listActivity_eq_ok listed
    obtain ⟨shows, bound⟩ := gatherPage_shows read positive answers
    exact ⟨shows, fun _ => bound⟩
  | predictFun account =>
    obtain ⟨positive, read⟩ := PredictFun.listActivity_eq_ok listed
    obtain ⟨shows, bound⟩ := gatherPage_shows read positive answers
    exact ⟨shows, fun _ => bound⟩
  | hyperliquid =>
    obtain ⟨rows, listedFills, answered, read, rfl⟩ := Hyperliquid.listActivity_eq_ok listed
    have first := gather_eq_ok read
    rw [max_eq_left (Hyperliquid.one_le_clip limit)] at first
    obtain ⟨older, split⟩ := answers rows answered
    have cut : history.rows.filterMap (fill? (Hyperliquid.fillOf runtime)) =
        listedFills ++ ((rows.filterMap (fill? (Hyperliquid.fillOf runtime))).drop (Hyperliquid.clip limit) ++
          older.filterMap (fill? (Hyperliquid.fillOf runtime))) := by
      rw [← split, first, List.filterMap_append, ← List.append_assoc, List.take_append_drop]
    refine ⟨⟨_, _, (congrArg _ cut).trans List.map_append, rfl, Or.inl rfl⟩, fun positive => ?_⟩
    rw [Feed.activitySnapshot, List.length_map, List.length_map, first]
    exact (List.length_take_le _ _).trans (Hyperliquid.clip_le positive)
  | myriad settings =>
    obtain rfl := Myriad.listActivity_eq_ok listed
    refine ⟨shows_of_snapshot answers rfl _ _, fun positive => ?_⟩
    rw [Feed.activitySnapshot, List.length_map, List.length_map]
    exact (List.length_take_le _ _).trans (Myriad.clip_le positive)

/-- For every upstream: the poller takes what an adapter lists, and returns every fill from the
cursor on exactly once, if and only if every answer that is listed suits it. -/
theorem adapter_activity_consumable_iff (runtime : Runtime) (adapter : Adapter) (address : Text)
    (upstream : Upstream runtime adapter address) :
    Consumable runtime.toSpelling (listActivity runtime adapter address upstream.respond)
        (fills runtime adapter (walletOf runtime address) upstream.history) ↔
      ∀ limit page, listActivity runtime adapter address upstream.respond limit = .ok page →
        Suits runtime adapter (walletOf runtime address) (requestLimit adapter limit)
          (upstream.respond (requestLimit adapter limit)) := by
  constructor
  · intro consumable limit page listed
    exact (rowsConsumable_iff_suits listed).mp (consumable.rows limit page listed)
  · intro suits
    have shows : ∀ limit page, listActivity runtime adapter address upstream.respond limit = .ok page →
        Shows (fills runtime adapter (walletOf runtime address) upstream.history) page ∧
          (1 ≤ limit → page.rows.length ≤ limit) := fun limit page listed =>
      shows_of_answers (upstream.answers _) listed (suits limit page listed)
    exact consumable_of_rows upstream.newestFirst
      (fun limit page positive listed => (shows limit page listed).2 positive)
      (fun limit page listed => (shows limit page listed).1)
      fun limit page listed => (rowsConsumable_iff_suits listed).mpr (suits limit page listed)

end Consumption

/-! ## Two histories that stop the poller, and one that does not -/

def plainRuntime : Runtime where
  toSpelling := plainSpelling
  floats := PyFloat.exact
  localSeconds _ := none
  utcSeconds _ := none
  lower_ne_nil t given := by simpa [plainSpelling, asciiCasing] using given

def plainAddress : Text := text "0x" ++ List.replicate 40 49

def betRow (id : String) (second : Int) : Json :=
  .obj (record [("betId", .str (text id)), ("amount", .int 5000000), ("createdBlockTimestamp", .int second),
    ("createdTxHash", .str (text ("0x" ++ id))), ("odds", .int 2),
    ("selections", .arr [.obj (record [("outcome", .obj (record [("outcomeId", .str (text "29")),
      ("condition", .obj (record [("conditionId", .str (text "7")), ("gameId", .str (text "3"))]))]))])])])

def betRows : List Json := [betRow "a" 1700000000]

def polygon : Adapter := .azuro ⟨text "PolygonUSDT", .int 6⟩

def betData (limit : Nat) : Item := record [("v3Bets", .arr (betRows.take limit)), ("liveBets", .arr [])]

theorem betHistory_betData (limit : Nat) : Azuro.betHistory plainRuntime (walletOf plainRuntime plainAddress)
    (.obj (record [("data", .obj (betData limit))])) = .ok (betData limit) := by
  have address : Leaderboard.isWalletAddress (walletOf plainRuntime plainAddress) = true := by decide +kernel
  have errors : (record [("data", .obj (betData limit))]).get "errors" = .null := by
    rw [get_record]
    rfl
  have data : (record [("data", .obj (betData limit))]).get "data" = .obj (betData limit) := by
    rw [get_record]
    rfl
  rw [Azuro.betHistory, address, if_neg (by decide)]
  dsimp only
  rw [errors, data]

theorem feeds_betData (limit : Nat) :
    Dict.get? (betData limit) (text "v3Bets") = some (.arr (betRows.take limit)) ∧
      Dict.get? (betData limit) (text "liveBets") = some (.arr []) := by
  have other : text "v3Bets" ≠ text "liveBets" := by decide
  unfold betData record
  rw [List.map_cons, List.map_cons, Dict.get?, if_pos rfl, Dict.get?, if_neg other, Dict.get?, if_pos rfl]
  exact ⟨rfl, rfl⟩

def betHistory : History := ⟨betRows, []⟩

theorem betData_answers (limit : Nat) : Answers plainRuntime polygon (walletOf plainRuntime plainAddress) betHistory limit
    (.obj (record [("data", .obj (betData limit))])) := by
  intro data answered
  cases (betHistory_betData limit).symm.trans answered
  obtain ⟨bets, live⟩ := feeds_betData limit
  refine ⟨⟨limit, le_refl _, ?_, fun rows raw => ?_, fun short => absurd short (lt_irrefl _)⟩,
    ⟨limit, le_refl _, ?_, fun rows raw => ?_, fun short => absurd short (lt_irrefl _)⟩⟩
  · rw [Azuro.rowsUnder, Item.get, bets]
    rfl
  · rw [Feed.rawActivityRows, List.filterMap_cons, bets] at raw
    exact (Option.some.inj raw).symm
  · rw [Azuro.rowsUnder, Item.get, live, betHistory, List.take_nil]
    rfl
  · rw [Feed.rawActivityRows, List.filterMap_cons, live] at raw
    rw [betHistory, List.take_nil]
    exact (Option.some.inj raw).symm

theorem betHistory_newestFirst :
    (fills plainRuntime polygon (walletOf plainRuntime plainAddress) betHistory).Pairwise Feed.Newer := by
  decide +kernel

/-- One bet. -/
def oneBet : Upstream plainRuntime polygon plainAddress where
  history := betHistory
  respond limit := .obj (record [("data", .obj (betData limit))])
  answers := betData_answers
  newestFirst := betHistory_newestFirst

def fillRow (hash : String) (trade second : Int) : Json :=
  .obj (record [("coin", .str (text "#50")), ("side", .str (text "B")), ("sz", .str (text "2")), ("px", .str (text "0.4")),
    ("hash", .str (text hash)), ("tid", .int trade), ("time", .int (1000 * second))])

/-- Two fills of one transaction, each with a trade number of its own. -/
def twoFills : Upstream plainRuntime .hyperliquid plainAddress where
  history := ⟨[fillRow "0xf1" 2 1700000000, fillRow "0xf1" 1 1700000000], []⟩
  respond _ := .arr [fillRow "0xf1" 2 1700000000, fillRow "0xf1" 1 1700000000]
  answers _ rows same := by
    cases same
    exact List.prefix_refl _
  newestFirst := by decide +kernel

/-- Two fills of two transactions. -/
def distinctFills : Upstream plainRuntime .hyperliquid plainAddress where
  history := ⟨[fillRow "0xf2" 2 1700000000, fillRow "0xf1" 1 1700000000], []⟩
  respond _ := .arr [fillRow "0xf2" 2 1700000000, fillRow "0xf1" 1 1700000000]
  answers _ rows same := by
    cases same
    exact List.prefix_refl _
  newestFirst := by decide +kernel

theorem distinct_fills_consumable :
    Consumable plainSpelling (listActivity plainRuntime .hyperliquid plainAddress distinctFills.respond)
      (fills plainRuntime .hyperliquid (walletOf plainRuntime plainAddress) distinctFills.history) := by
  refine (adapter_activity_consumable_iff plainRuntime .hyperliquid plainAddress distinctFills).mpr fun limit page _ => ?_
  have positive : ∀ fill ∈ ([fillRow "0xf2" 2 1700000000, fillRow "0xf1" 1 1700000000].filterMap
      (fill? (Hyperliquid.fillOf plainRuntime))), 0 < fill.timestamp := by decide +kernel
  have names : (([fillRow "0xf2" 2 1700000000, fillRow "0xf1" 1 1700000000].filterMap
      (fill? (Hyperliquid.fillOf plainRuntime))).map Hyperliquid.Fill.fillId).Nodup := by decide +kernel
  exact ⟨fun fill member => positive fill (List.mem_of_mem_take member),
    names.sublist ((List.take_sublist _ _).map Hyperliquid.Fill.fillId)⟩

def plainSource (listing : Nat → Except Fault Feed.Page) : Feed.Source where
  loader _ limit := answerOf (listing limit)
  expiredBefore _ := false
  expiredAfter _ := false
  maximumTimestamp := 1800000000

/-- A well-formed bet, and well-formed fills with distinct trade numbers: the poller gets none of them. -/
theorem two_histories_refused :
    (Feed.collectAdapterActivity plainSpelling
        (plainSource (listActivity plainRuntime polygon plainAddress oneBet.respond)) 0 25 =
      some (.error .timestamps) ∧
      ¬Consumable plainSpelling (listActivity plainRuntime polygon plainAddress oneBet.respond)
        (fills plainRuntime polygon (walletOf plainRuntime plainAddress) oneBet.history)) ∧
    (Feed.collectAdapterActivity plainSpelling
        (plainSource (listActivity plainRuntime .hyperliquid plainAddress twoFills.respond)) 0 25 =
      some (.error .identity) ∧
      ¬Consumable plainSpelling (listActivity plainRuntime .hyperliquid plainAddress twoFills.respond)
        (fills plainRuntime .hyperliquid (walletOf plainRuntime plainAddress) twoFills.history)) := by
  have bet : Feed.collectAdapterActivity plainSpelling
      (plainSource (listActivity plainRuntime polygon plainAddress oneBet.respond)) 0 25 = some (.error .timestamps) := by
    decide +kernel
  have trades : Feed.collectAdapterActivity plainSpelling
      (plainSource (listActivity plainRuntime .hyperliquid plainAddress twoFills.respond)) 0 25 =
        some (.error .identity) := by
    decide +kernel
  have past : ∀ fill ∈ fills plainRuntime polygon (walletOf plainRuntime plainAddress) oneBet.history,
      ¬(1800000000 : Int) < Feed.timestampOf fill := by
    decide +kernel
  refine ⟨⟨bet, fun consumable => ?_⟩, ⟨trades, fun consumable => ?_⟩⟩
  · obtain ⟨fill, member, late⟩ := (consumable.accepted _ (fun _ _ => rfl) 0 25 _ bet).2.2 rfl
    exact past fill member late
  · exact (consumable.accepted _ (fun _ _ => rfl) 0 25 _ trades).2.1 rfl

end MarketSentinel.Listing
