import Mathlib.Data.List.Perm.Basic
import MarketSentinel.Library.Observations
import MarketSentinel.Mdd.Rows

/-! Validation of every financial row before any of them can establish a risk.

A row has issues of its own, and issues with other rows: the same position or fill twice,
or observations of one second whose order nothing proves.
-/

set_option autoImplicit false

namespace MarketSentinel.Mdd

open Python Observations

inductive Source where
  | closedPositions
  | openPositions
  | activityEvents
  | tradeRows
  deriving DecidableEq

def Source.name : Source → Text
  | .closedPositions => text "closed_positions"
  | .openPositions => text "open_positions"
  | .activityEvents => text "activity_events"
  | .tradeRows => text "trade_rows"

def Source.all : List Source := [.closedPositions, .openPositions, .activityEvents, .tradeRows]

inductive CoverageStatus where
  | notRequested
  | endOfResults
  | limitReached
  | coverageUnproven
  deriving DecidableEq

structure Coverage where
  status : CoverageStatus
  returned : Nat
  limit : Nat
  firstTimestamp : Option Int
  lastTimestamp : Option Int
  rowsWithoutTimestamp : Nat
  sourceApi : Option Text
  exhaustionEvidence : Option Text
  deriving DecidableEq

structure MddInputs where
  wallet : Text
  closedPositions : List Json
  openPositions : List Json
  activityEvents : List Json
  tradeRows : List Json
  cacheHit : Bool := false
  historyCoverage : Dict Source Coverage := []

def MddInputs.rows (inputs : MddInputs) : Source → List Json
  | .closedPositions => inputs.closedPositions
  | .openPositions => inputs.openPositions
  | .activityEvents => inputs.activityEvents
  | .tradeRows => inputs.tradeRows

inductive Issue where
  | invalidRowShape
  | invalidNumericField
  | invalidProbabilityPrice
  | inconsistentPositionEntryCost
  | inconsistentPositionPnl
  | inconsistentCurrentPositionValue
  | inconsistentUnrealizedPositionPnl
  | invalidTimestamp
  | invalidRealizedPnl
  | duplicatePositionObservation
  | invalidOpenPnl
  | invalidTradeSide
  | invalidTradeNotional
  | ambiguousTradeIdentity
  | ambiguousTimestampOrder
  deriving DecidableEq

def Issue.name : Issue → Text
  | .invalidRowShape => text "invalid_row_shape"
  | .invalidNumericField => text "invalid_numeric_field"
  | .invalidProbabilityPrice => text "invalid_probability_price"
  | .inconsistentPositionEntryCost => text "inconsistent_position_entry_cost"
  | .inconsistentPositionPnl => text "inconsistent_position_pnl"
  | .inconsistentCurrentPositionValue => text "inconsistent_current_position_value"
  | .inconsistentUnrealizedPositionPnl => text "inconsistent_unrealized_position_pnl"
  | .invalidTimestamp => text "invalid_timestamp"
  | .invalidRealizedPnl => text "invalid_realized_pnl"
  | .duplicatePositionObservation => text "duplicate_position_observation"
  | .invalidOpenPnl => text "invalid_open_pnl"
  | .invalidTradeSide => text "invalid_trade_side"
  | .invalidTradeNotional => text "invalid_trade_notional"
  | .ambiguousTradeIdentity => text "ambiguous_trade_identity"
  | .ambiguousTimestampOrder => text "ambiguous_timestamp_order"

inductive Failure where
  /-- `TypeError: unhashable type`. -/
  | unhashable
  | invalid (message : Text)
  deriving DecidableEq

def signedNames : List String :=
  ["realizedpnl", "realized_pnl", "cashpnl", "cash_pnl", "totalpnl", "total_pnl", "unrealized_pnl"]

def priceNames : List String := ["price", "avgprice", "avg_price", "current_price"]

def nonnegativeNames : List String :=
  ["totalbought", "total_bought", "initialvalue", "initial_value", "currentvalue", "current_value",
    "grossinitialvalue", "gross_initial_value", "entryfeesusdc", "entry_fees_usdc",
    "usdcsize", "usdc_size", "notional", "value", "cash", "size", "tokens", "amount",
    "current_size", "total_size", "entry_cost_usdc", "total_cost_usdc"] ++ priceNames

def numericNames : List String := signedNames ++ nonnegativeNames

def priceFields : List Text := priceNames.map text

def nonnegativeFields : List Text := nonnegativeNames.map text

def numericFields : List Text := numericNames.map text

/-- Components are rounded to six decimal places. -/
def tolerance : ℚ := 1000001 / 10 ^ 12

/-- `math.isclose` without a relative tolerance. -/
def isClose (within first second : ℚ) : Bool := decide (|first - second| ≤ within)

section Rows

variable (runtime : Runtime) (latest : Int)

def entryIssues (entry : Text × Json) : List Issue :=
  let name := runtime.casing.lower entry.1
  if name ∈ numericFields ∧ entry.2 ≠ .null then
    match finiteNumber entry.2 with
    | none => [.invalidNumericField]
    | some number =>
      if name ∈ nonnegativeFields ∧ number < 0 then [.invalidNumericField]
      else if name ∈ priceFields ∧ 1 < number then [.invalidProbabilityPrice]
      else []
  else []

def fieldIssues (row : Row) : List Issue := row.flatMap (entryIssues runtime)

def costIssues (row : Row) : List Issue :=
  let initial := finiteNumber (lookup runtime row ["entry_cost_usdc", "initialValue", "initial_value"])
  let fees := finiteNumber (lookup runtime row ["entryFeesUsdc", "entry_fees_usdc"])
  match finiteNumber (lookup runtime row ["total_cost_usdc", "grossInitialValue", "gross_initial_value"]) with
  | none => []
  | some gross =>
    let exceeds := fun value : Option ℚ => value.any fun value => decide (tolerance < value - gross)
    let apart := match initial, fees with
      | some initial, some fees => !isClose tolerance gross (initial + fees)
      | _, _ => false
    if exceeds initial || exceeds fees || apart then [.inconsistentPositionEntryCost] else []

def pnlIssues (row : Row) : List Issue :=
  if (Dict.get? row (text "total_pnl")).isSome then
    match finiteNumber (row.get "total_pnl"), finiteNumber (row.get "realized_pnl"),
      finiteNumber (row.get "unrealized_pnl") with
    | some total, some realized, some unrealized =>
      if isClose tolerance total (realized + unrealized) then [] else [.inconsistentPositionPnl]
    | _, _, _ => []
  else []

def valueIssues (row : Row) : List Issue :=
  match finiteNumber (row.get "current_size"), finiteNumber (row.get "current_price"),
    finiteNumber (row.get "current_value") with
  | some quantity, some price, some currentValue =>
    if isClose tolerance currentValue (quantity * price) then [] else [.inconsistentCurrentPositionValue]
  | _, _, _ => []

def unrealizedIssues (row : Row) : List Issue :=
  match finiteNumber (row.get "unrealized_pnl"), finiteNumber (row.get "entry_cost_usdc"),
    finiteNumber (row.get "current_value") with
  | some unrealized, some entryCost, some currentValue =>
    if isClose tolerance unrealized (currentValue - entryCost) then [] else [.inconsistentUnrealizedPositionPnl]
  | _, _, _ => []

def positionIssues (row : Row) : List Issue :=
  costIssues runtime row ++ pnlIssues row ++ valueIssues row ++ unrealizedIssues row

def positionTimestamp (row : Row) : Option Int :=
  eventTimestamp latest (lookup runtime row ["last_event_at", "timestamp"])

def eventSecond (row : Row) : Option Int := eventTimestamp latest (lookup runtime row ["timestamp"])

def realizedPnl (row : Row) : Option ℚ := finiteNumber (lookup runtime row ["realizedPnl", "realized_pnl"])

def openPnl (row : Row) : Option ℚ :=
  match positionTotalPnl runtime row with
  | some (.finite pnl) => some pnl
  | _ => none

def closedIssues (row : Row) : List Issue :=
  (if (positionTimestamp runtime latest row).isNone then [.invalidTimestamp] else []) ++
    (if (realizedPnl runtime row).isNone then [.invalidRealizedPnl] else [])

def openIssues (row : Row) : List Issue :=
  (if (openPnl runtime row).isNone then [.invalidOpenPnl] else []) ++
    match positionCurrentValues runtime row with
    | [] => []
    | first :: rest =>
      if rest.any fun value => !isClose tolerance value first then [.inconsistentCurrentPositionValue] else []

/-- Rows of the activity feed are trades when their type, with its outer blanks, says so. -/
def isTrade (source : Source) (row : Row) : Bool :=
  match source with
  | .tradeRows => true
  | .activityEvents =>
    let value := lookup runtime row ["type"]
    decide (runtime.casing.upper (if value.truthy then runtime.str value else text "TRADE") = text "TRADE")
  | _ => false

def buySell : List Text := [text "BUY", text "SELL"]

def tradeIssues (row : Row) : List Issue :=
  (if (eventSecond runtime latest row).isNone then [.invalidTimestamp] else []) ++
    (if tradeSide runtime row ∈ buySell then [] else [.invalidTradeSide]) ++
    match tradeNotional runtime row with
    | .finite notional => if notional ≤ 0 then [.invalidTradeNotional] else []
    | _ => [.invalidTradeNotional]

/-- The issues a row has on its own. -/
def ownIssues (source : Source) (row : Json) : List Issue :=
  match row with
  | .obj row =>
    fieldIssues runtime row ++
      match source with
      | .closedPositions => positionIssues runtime row ++ closedIssues runtime latest row
      | .openPositions => positionIssues runtime row ++ openIssues runtime row
      | _ => if isTrade runtime source row then tradeIssues runtime latest row else []
  | _ => [.invalidRowShape]

/-! ## Rows that concern each other -/

/-- A closed position in the second of its last event. -/
def closedObservation (row : Json) : Option (Int × ℚ) :=
  match row with
  | .obj row =>
    match positionTimestamp runtime latest row, realizedPnl runtime row with
    | some timestamp, some pnl => some (timestamp, pnl)
    | _, _ => none
  | _ => none

/-- A row of Data API v2 sums up a holding; an older one is an observation of its second. -/
def positionIdentity (source : Source) (row : Json) : Option (Text × Int) :=
  match row with
  | .obj fields =>
    let asset := tradeTokenId runtime fields
    if asset = [] then none
    else
      match source with
      | .closedPositions => (closedObservation runtime latest row).map fun observation =>
          (asset, if Row.hasAny fields ["current_size", "total_size"] then 0 else observation.1)
      | .openPositions => some (asset, 0)
      | _ => none
  | _ => none

/-- A fill of a named token in its second. -/
def tradeObservation (source : Source) (row : Json) : Option ((Text × Int) × Text) :=
  match row with
  | .obj row =>
    if isTrade runtime source row then
      match eventSecond runtime latest row with
      | some timestamp =>
        if tradeTokenId runtime row = [] then none
        else some ((tradeTokenId runtime row, timestamp), tradeSide runtime row)
      | none => none
    else none
  | _ => none

/-- Not-a-number is found by no other row. -/
def TradeKey.findable (key : TradeKey) : Bool := decide (key.size ≠ some .nan ∧ key.price ≠ some .nan)

/-- The key of a fill with a transaction hash. -/
def tradeIdentity (source : Source) (row : Json) : Option TradeKey :=
  match row with
  | .obj fields =>
    let key := tradeKey runtime fields
    if (tradeObservation runtime latest source row).isSome ∧ (transactionHash runtime fields).truthy ∧ key.findable then
      some key
    else none
  | _ => none

/-- A hash that is looked up and cannot be. -/
def unhashable (source : Source) (row : Json) : Bool :=
  match row with
  | .obj fields => (tradeObservation runtime latest source row).isSome && (transactionHash runtime fields).truthy &&
      (hashed (transactionHash runtime fields)).isNone
  | _ => false

def mixedSigns (observations : List ℚ) : Bool :=
  observations.any (fun pnl => decide (0 < pnl)) && observations.any fun pnl => decide (pnl < 0)

/-- `{side for ...} == {"BUY", "SELL"}`. -/
def mixedSides (observations : List Text) : Bool :=
  decide (text "BUY" ∈ observations ∧ text "SELL" ∈ observations ∧ ∀ side ∈ observations, side ∈ buySell)

end Rows

/-! ## The report -/

structure SourceQuality where
  rows : Nat
  invalidRows : Nat
  reasons : Dict Text Nat
  deriving DecidableEq

structure Quality where
  valid : Bool
  sources : List (Source × SourceQuality)
  deriving DecidableEq

section Report

variable (runtime : Runtime) (latest : Int) (inputs : MddInputs)

/-- The rows of both feeds with a place: the feed and the position in it. -/
def tradeObservations : List ((Source × Nat) × ((Text × Int) × Text)) :=
  Source.all.flatMap fun source =>
    numbered (tradeObservation runtime latest source) (inputs.rows source) |>.map fun seen => ((source, seen.1), seen.2)

def issuesAt (source : Source) (index : Nat) (row : Json) : List Issue :=
  let rows := inputs.rows source
  ownIssues runtime latest source row ++
    (if index ∈ repeated (numbered (positionIdentity runtime latest source) rows) then
      [.duplicatePositionObservation] else []) ++
    (if index ∈ repeated (numbered (tradeIdentity runtime latest source) rows) then [.ambiguousTradeIdentity] else []) ++
    (if source = .closedPositions ∧ index ∈ clashing mixedSigns (numbered (closedObservation runtime latest) rows) ∨
        (source, index) ∈ clashing mixedSides (tradeObservations runtime latest inputs) then
      [.ambiguousTimestampOrder] else [])

/-- The issues of each row of a source, without repetition. -/
def sourceIssues (source : Source) : List (List Issue) :=
  (inputs.rows source).zipIdx.map fun entry => (issuesAt runtime latest inputs source entry.2 entry.1).dedup

/-- Each row counts once for each of its reasons, in the order of their names. -/
def reasonsOf (issues : List (List Issue)) : Dict Text Nat :=
  let names := issues.flatMap fun issues => (issues.map Issue.name).insertionSort (· ≤ ·)
  names.foldl (fun reasons name => Dict.set reasons name ((Dict.get? reasons name).getD 0 + 1)) []

def qualityOf (issues : List (List Issue)) : SourceQuality where
  rows := issues.length
  invalidRows := issues.countP fun issues => !issues.isEmpty
  reasons := reasonsOf issues

def sourceQuality : Except Failure Quality :=
  if Source.all.any fun source => (inputs.rows source).any (unhashable runtime latest source) then .error .unhashable
  else
    let sources := Source.all.map fun source => (source, qualityOf (sourceIssues runtime latest inputs source))
    .ok ⟨sources.all fun source => source.2.invalidRows == 0, sources⟩

/-! ## What a valid report comes to -/

/-- Rows that are sound each and together. -/
structure Sound : Prop where
  hashable : ∀ source, ∀ row ∈ inputs.rows source, unhashable runtime latest source row = false
  own : ∀ source, ∀ row ∈ inputs.rows source, ownIssues runtime latest source row = []
  positions : ∀ source, ((inputs.rows source).filterMap (positionIdentity runtime latest source)).Nodup
  trades : ∀ source, ((inputs.rows source).filterMap (tradeIdentity runtime latest source)).Nodup
  signs : ∀ second, mixedSigns ((((inputs.rows .closedPositions).filterMap (closedObservation runtime latest)).filter
    fun seen => decide (seen.1 = second)).map Prod.snd) = false
  sides : ∀ place, mixedSides (((Source.all.flatMap fun source =>
    (inputs.rows source).filterMap (tradeObservation runtime latest source)).filter
      fun seen => decide (seen.1 = place)).map Prod.snd) = false

variable {runtime latest inputs}

theorem Source.mem_all (source : Source) : source ∈ Source.all := by
  cases source <;> simp [Source.all]

theorem tradeObservations_seen : (tradeObservations runtime latest inputs).map Prod.snd =
    Source.all.flatMap fun source => (inputs.rows source).filterMap (tradeObservation runtime latest source) := by
  rw [tradeObservations, List.map_flatMap]
  congr 1
  funext source
  rw [List.map_map, ← numbered_seen]
  rfl

/-- A place that is clashing in the trades is the place of a row. -/
theorem tradeObservations_places {source : Source} {index : Nat}
    (member : (source, index) ∈ (tradeObservations runtime latest inputs).map Prod.fst) :
    ∃ row, (inputs.rows source)[index]? = some row := by
  obtain ⟨⟨place, seen⟩, among, same⟩ := List.mem_map.mp member
  obtain ⟨feed, _, numbered_⟩ := List.mem_flatMap.mp among
  obtain ⟨⟨i, observed⟩, inside, built⟩ := List.mem_map.mp numbered_
  cases built
  cases same
  obtain ⟨row, at_place, _⟩ := mem_numbered.mp inside
  exact ⟨row, at_place⟩

theorem place_numbered {β : Type} {see : Json → Option β} {rows : List Json} {index : Nat}
    (member : index ∈ (numbered see rows).map Prod.fst) : ∃ row, rows[index]? = some row := by
  obtain ⟨⟨place, seen⟩, among, rfl⟩ := List.mem_map.mp member
  obtain ⟨row, at_place, _⟩ := mem_numbered.mp among
  exact ⟨row, at_place⟩

/-- A list of places is empty when no row has one of them. -/
theorem eq_nil_of_places {places : List Nat} {rows : List Json}
    (rowed : ∀ index ∈ places, ∃ row, rows[index]? = some row)
    (none : ∀ index row, rows[index]? = some row → index ∉ places) : places = [] := by
  apply List.eq_nil_iff_forall_not_mem.mpr
  intro index member
  obtain ⟨row, at_place⟩ := rowed index member
  exact none index row at_place member

theorem issuesAt_eq_nil {source : Source} {index : Nat} {row : Json} :
    issuesAt runtime latest inputs source index row = [] ↔
      ownIssues runtime latest source row = [] ∧
        index ∉ repeated (numbered (positionIdentity runtime latest source) (inputs.rows source)) ∧
        index ∉ repeated (numbered (tradeIdentity runtime latest source) (inputs.rows source)) ∧
        (source = .closedPositions → index ∉ clashing mixedSigns
          (numbered (closedObservation runtime latest) (inputs.rows source))) ∧
        (source, index) ∉ clashing mixedSides (tradeObservations runtime latest inputs) := by
  simp only [issuesAt, List.append_eq_nil_iff, ite_eq_right_iff, List.cons_ne_nil, imp_false, not_or, not_and, and_assoc]

/-- The report is valid exactly when no row has an issue. -/
theorem sourceQuality_valid :
    (∃ quality, sourceQuality runtime latest inputs = .ok quality ∧ quality.valid = true) ↔
      (∀ source, ∀ row ∈ inputs.rows source, unhashable runtime latest source row = false) ∧
        ∀ source index row, (inputs.rows source)[index]? = some row →
          issuesAt runtime latest inputs source index row = [] := by
  have reported : ∀ source, ((qualityOf (sourceIssues runtime latest inputs source)).invalidRows == 0) = true ↔
      ∀ index row, (inputs.rows source)[index]? = some row → issuesAt runtime latest inputs source index row = [] := by
    intro source
    rw [beq_iff_eq, qualityOf, List.countP_eq_zero]
    simp only [sourceIssues, List.forall_mem_map, Prod.forall, List.mem_zipIdx_iff_getElem?]
    constructor
    · intro clean index row at_place
      have empty := clean row index at_place
      rw [Bool.not_eq_true', Bool.not_eq_false, List.isEmpty_iff, List.dedup_eq_nil] at empty
      exact empty
    · intro clean row index at_place
      rw [clean index row at_place]
      decide
  unfold sourceQuality
  by_cases raises : (Source.all.any fun source => (inputs.rows source).any (unhashable runtime latest source)) = true
  · rw [if_pos raises]
    refine iff_of_false (by rintro ⟨_, ⟨⟩, _⟩) ?_
    rintro ⟨hashable, _⟩
    obtain ⟨source, _, found⟩ := List.any_eq_true.mp raises
    obtain ⟨row, member, here⟩ := List.any_eq_true.mp found
    rw [hashable source row member] at here
    cases here
  · rw [if_neg raises]
    have hashable : ∀ source, ∀ row ∈ inputs.rows source, unhashable runtime latest source row = false := by
      intro source row member
      by_contra raised
      exact raises (List.any_eq_true.mpr ⟨source, source.mem_all,
        List.any_eq_true.mpr ⟨row, member, Bool.not_eq_false _ ▸ raised⟩⟩)
    constructor
    · rintro ⟨_, ⟨⟩, valid⟩
      refine ⟨hashable, fun source => (reported source).mp ?_⟩
      exact List.all_eq_true.mp valid (source, _) (List.mem_map_of_mem source.mem_all)
    · rintro ⟨_, clean⟩
      refine ⟨_, rfl, List.all_eq_true.mpr ?_⟩
      rintro entry member
      obtain ⟨source, _, rfl⟩ := List.mem_map.mp member
      exact (reported source).mpr (clean source)

/-- The report is valid exactly when the rows are sound. -/
theorem sourceQuality_valid_iff :
    (∃ quality, sourceQuality runtime latest inputs = .ok quality ∧ quality.valid = true) ↔
      Sound runtime latest inputs := by
  rw [sourceQuality_valid]
  have signs := @clashing_eq_nil _ _ _ _ mixedSigns rfl
    (numbered (closedObservation runtime latest) (inputs.rows .closedPositions))
  have sides := @clashing_eq_nil _ _ _ _ mixedSides (by decide) (tradeObservations runtime latest inputs)
  rw [numbered_seen] at signs
  rw [tradeObservations_seen] at sides
  constructor
  · rintro ⟨hashable, clean⟩
    have each := fun source index row at_place => issuesAt_eq_nil.mp (clean source index row at_place)
    refine ⟨hashable, fun source row member => ?_, fun source => ?_, fun source => ?_, signs.mp ?_, sides.mp ?_⟩
    · obtain ⟨index, at_place⟩ := List.getElem?_of_mem member
      exact (each source index row at_place).1
    · rw [← numbered_seen, ← repeated_eq_nil (numbered_places _ _)]
      apply eq_nil_of_places fun index member => place_numbered (repeated_places member)
      exact fun index row at_place => (each source index row at_place).2.1
    · rw [← numbered_seen, ← repeated_eq_nil (numbered_places _ _)]
      apply eq_nil_of_places fun index member => place_numbered (repeated_places member)
      exact fun index row at_place => (each source index row at_place).2.2.1
    · apply eq_nil_of_places fun index member => place_numbered (clashing_places member)
      exact fun index row at_place => (each .closedPositions index row at_place).2.2.2.1 rfl
    · apply List.eq_nil_iff_forall_not_mem.mpr
      rintro ⟨source, index⟩ member
      obtain ⟨row, at_place⟩ := tradeObservations_places (clashing_places member)
      exact (each source index row at_place).2.2.2.2 member
  · intro sound
    refine ⟨sound.hashable, fun source index row at_place => issuesAt_eq_nil.mpr ⟨?_, ?_, ?_, ?_, ?_⟩⟩
    · exact sound.own source row (List.mem_of_getElem? at_place)
    · rw [(repeated_eq_nil (numbered_places _ _)).mpr (numbered_seen _ _ ▸ sound.positions source)]
      exact List.not_mem_nil
    · rw [(repeated_eq_nil (numbered_places _ _)).mpr (numbered_seen _ _ ▸ sound.trades source)]
      exact List.not_mem_nil
    · rintro rfl
      rw [signs.mpr sound.signs]
      exact List.not_mem_nil
    · rw [sides.mpr sound.sides]
      exact List.not_mem_nil

/-- Rows in another order are as sound as before. -/
theorem Sound.perm {others : MddInputs} (sound : Sound runtime latest inputs)
    (perm : ∀ source, (inputs.rows source).Perm (others.rows source)) : Sound runtime latest others where
  hashable source row member := sound.hashable source row ((perm source).mem_iff.mpr member)
  own source row member := sound.own source row ((perm source).mem_iff.mpr member)
  positions source := ((perm source).filterMap _).nodup_iff.mp (sound.positions source)
  trades source := ((perm source).filterMap _).nodup_iff.mp (sound.trades source)
  signs second := by
    have same := ((((perm .closedPositions).filterMap (closedObservation runtime latest)).filter
      fun seen => decide (seen.1 = second)).map Prod.snd)
    rw [← sound.signs second, mixedSigns, mixedSigns, same.any_eq, same.any_eq]
  sides place := by
    have feeds : (Source.all.flatMap fun source => (inputs.rows source).filterMap (tradeObservation runtime latest source)).Perm
        (Source.all.flatMap fun source => (others.rows source).filterMap (tradeObservation runtime latest source)) :=
      List.Perm.flatMap_left _ fun source _ => (perm source).filterMap _
    have same := (feeds.filter fun seen => decide (seen.1 = place)).map Prod.snd
    rw [← sound.sides place, mixedSides, mixedSides, decide_eq_decide]
    simp only [same.mem_iff]

end Report

end MarketSentinel.Mdd
