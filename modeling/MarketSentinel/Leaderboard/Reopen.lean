import MarketSentinel.Leaderboard.Store
import MarketSentinel.Library.FirstBy
import MarketSentinel.Library.Transition

/-! The store reopens after every run of its operations.

The committed pages are a cursor chain, the retained rows are the first
observations of their wallets, and the metadata says where the chain ends. A
resumed scan of a new store is the one start the metadata does not describe.
-/

set_option autoImplicit false

namespace MarketSentinel.Leaderboard

open Python

variable {runtime : Runtime} {casing : Casing} {rounding : FloatRounding}

/-! ## Stored rows stay valid -/

theorem fields_wallet (row : StoredRow) : row.fields.read "wallet" = .str row.wallet := rfl

theorem fields_unversioned (row : StoredRow) : row.fields.get? (text "source_api_version") = none := rfl

/-- SQLite converts the text to the float that `float` reads from it. -/
def Runtime.Converts (runtime : Runtime) (t : Text) : Prop :=
  floatValue runtime.rounding (runtime.columnReal t) = floatValue runtime.rounding (.str t)

/-- The numbers of a native row are converted to their floats, if they are texts. -/
def Row.Converts (runtime : Runtime) (row : Row) : Prop :=
  ∀ key ∈ ["pnl_usd", "volume_shares"], ∀ t, row.read key = .str t → runtime.Converts t

/-- A number keeps its value in a REAL column. -/
theorem bindReal_value {value stored : Json} {q : ℚ} (converts : ∀ t, value = .str t → runtime.Converts t)
    (bound : bindReal runtime value = .ok stored) (read : floatValue runtime.rounding value = some q) :
    floatValue runtime.rounding stored = some q := by
  cases value with
  | null => cases read
  | bool value => cases read
  | arr items => cases read
  | obj fields => cases read
  | int value =>
    unfold bindReal at bound
    simp only [floatValue] at read
    simp only [read] at bound
    split at bound
    · cases bound
      rfl
    · cases bound
  | float value =>
    cases value with
    | finite value =>
      cases bound
      exact read
    | inf negative => cases read
    | nan => cases read
  | str value =>
    obtain ⟨kept, encoded, rfl⟩ := Result.map_eq_ok.mp bound
    unfold bindText at encoded
    split at encoded
    · cases encoded
      rw [converts value rfl, read]
    · cases encoded

theorem number_bindReal {value stored : Json} {field : String} {nonnegative integer : Bool} {q : ℚ}
    (converts : ∀ t, value = .str t → runtime.Converts t)
    (read : number runtime.rounding value field nonnegative integer = .ok q)
    (bound : bindReal runtime value = .ok stored) :
    number runtime.rounding stored field nonnegative integer = .ok q := by
  unfold number at read ⊢
  cases parsed : floatValue runtime.rounding value with
  | none => simp [parsed, invalid] at read
  | some parsedValue =>
    rw [bindReal_value converts bound parsed]
    simpa only [parsed] using read

theorem bindReal_null {stored : Json} (bound : bindReal runtime .null = .ok stored) : stored = .null := by
  cases bound
  rfl

theorem bindText_eq {t stored : Text} (bound : bindText t = .ok stored) : stored = t := by
  unfold bindText at bound
  split at bound
  · cases bound
    rfl
  · cases bound

/-- A stored row that the row validator accepts with its present drawdowns. -/
def StoredRow.Valid (casing : Casing) (rounding : FloatRounding) (row : StoredRow) : Prop :=
  ∃ document fields, Native casing rounding row.fields document fields

theorem StoredRow.Valid.passes {row : StoredRow} (valid : row.Valid casing rounding) :
    validateStoredLeaderboardRow casing rounding row.fields = .ok () := by
  obtain ⟨document, fields, native⟩ := valid
  exact native_validate native fun value given => by simp [fields_unversioned] at given

/-- Drawdowns that the row validator accepts. -/
def Enrichment.Accepted (rounding : FloatRounding) (mdd : Enrichment) : Prop :=
  checkDrawdown rounding (drawdownColumn mdd.mddUsd) = .ok () ∧ checkDrawdown rounding (drawdownColumn mdd.mddPct) = .ok ()

theorem checkDrawdown_finite {drawdown : ℚ} (sign : 0 ≤ drawdown) :
    checkDrawdown rounding (drawdownColumn (some (.finite drawdown))) = .ok () := by
  simp [drawdownColumn, checkDrawdown, number, floatValue, not_lt.mpr sign, bind, Except.bind, pure, Except.pure]

theorem StoredRow.Valid.accepted {row : StoredRow} (valid : row.Valid casing rounding) : row.mdd.Accepted rounding := by
  obtain ⟨document, fields, native⟩ := valid
  exact ⟨native.mddUsd, native.mddPct⟩

/-- New drawdowns that are accepted keep a row valid. -/
theorem StoredRow.Valid.enrich {row : StoredRow} (valid : row.Valid casing rounding) {mdd : Enrichment}
    (accepted : mdd.Accepted rounding) : ({ row with mdd := mdd } : StoredRow).Valid casing rounding := by
  obtain ⟨document, fields, native⟩ := valid
  exact ⟨document, fields, native.raw, native.version, native.source, native.wallet, native.pnl, native.shares,
    native.volume, native.ratio, accepted.1, accepted.2⟩

/-- What a bound row takes over from a native row. -/
theorem bindRow_native {row : Row} {document : Dict Text Json} {fields : SourceFields} {pageOffset pageIndex : Nat}
    {stored : StoredRow} (native : Native runtime.casing runtime.rounding row document fields)
    (converts : row.Converts runtime) (bound : bindRow runtime pageOffset pageIndex row = .ok stored) :
    stored.Valid runtime.casing runtime.rounding ∧ stored.wallet ≠ [] ∧ stored.pageOffset = pageOffset ∧
      stored.pageIndex = pageIndex ∧ stored.id = 0 ∧ stored.mdd = {} := by
  obtain ⟨given, readWallet, normal⟩ : ∃ given, row.read "wallet" = .str given ∧
      normalizeWallet runtime.casing (runtime.casing.lower (strip given)) = some fields.wallet := by
    have wallet := native.wallet
    unfold storedWallet at wallet
    split at wallet
    · rename_i given shape
      split at wallet
      · rename_i normal
        cases wallet
        exact ⟨given, shape, normal⟩
      · cases wallet
    · cases wallet
  have named : given ≠ [] := by
    rintro rfl
    rw [show strip [] = [] from rfl, runtime.casing.lower_ascii [] (by simp)] at normal
    cases normal
  have truthy : (row.read "wallet").truthy = true := by
    rw [readWallet]
    exact decide_eq_true named
  unfold bindRow at bound
  obtain ⟨rank, _, rest⟩ := Result.bind_eq_ok.mp bound
  obtain ⟨displayName, _, rest⟩ := Result.bind_eq_ok.mp rest
  obtain ⟨wallet, walletBound, rest⟩ := Result.bind_eq_ok.mp rest
  obtain ⟨pnlUsd, pnlBound, rest⟩ := Result.bind_eq_ok.mp rest
  obtain ⟨volumeUsd, volumeBound, rest⟩ := Result.bind_eq_ok.mp rest
  obtain ⟨volumeShares, sharesBound, rest⟩ := Result.bind_eq_ok.mp rest
  obtain ⟨roiPct, roiBound, rest⟩ := Result.bind_eq_ok.mp rest
  obtain ⟨tradeCount, _, rest⟩ := Result.bind_eq_ok.mp rest
  rw [if_pos truthy, readWallet, runtime.show_str] at walletBound
  rw [native.volume] at volumeBound
  rw [native.ratio] at roiBound
  simp only [native.raw] at rest
  split at rest
  · cases rest
    have spelled := bindText_eq walletBound
    refine ⟨⟨document, fields, rfl, native.version, native.source, ?_,
      number_bindReal (converts "pnl_usd" (by simp)) native.pnl pnlBound,
      number_bindReal (converts "volume_shares" (by simp)) native.shares sharesBound, bindReal_null volumeBound, bindReal_null roiBound, rfl, rfl⟩,
      ?_, rfl, rfl, rfl, rfl⟩
    · unfold storedWallet
      simp only [fields_wallet, spelled, normalizeWallet_again normal]
    · rw [spelled]
      intro empty
      change runtime.casing.lower (strip given) = [] at empty
      rw [empty] at normal
      cases normal
  · cases rest

/-! ## The committed pages as a cursor chain -/

/-- One committed page with its observations, as the store accepted it. -/
structure Recorded where
  ordinal : Nat
  limit : Nat
  rows : List Row
  sourceCursor : Option Text
  nextCursor : Option Text
  bound : List StoredRow

def Recorded.page (runtime : Runtime) (r : Recorded) : Page :=
  ⟨r.ordinal, r.limit, r.rows.length, runtime.pageDigest r.rows, walletMembershipFingerprint runtime r.rows, 2,
    r.sourceCursor, r.nextCursor⟩

def lastNext (history : List Recorded) : Option Text := history.getLast?.bind Recorded.nextCursor

def sources (history : List Recorded) : List Text := history.filterMap Recorded.sourceCursor

def observations (history : List Recorded) : List StoredRow := history.flatMap Recorded.bound

/-- A page that continues the chain at its end. -/
structure Continues (runtime : Runtime) (history : List Recorded) (r : Recorded) : Prop where
  ordinal : r.ordinal = history.length
  source : r.sourceCursor = lastNext history
  more : history ≠ [] → lastNext history ≠ none
  cursors : validCursor? r.sourceCursor = true ∧ validCursor? r.nextCursor = true
  fresh : ∀ cursor, r.nextCursor = some cursor → cursor ∉ sources (history ++ [r])
  bounds : 1 ≤ r.limit ∧ r.limit ≤ 1000 ∧ r.rows.length ≤ r.limit
  valid : ∀ row ∈ r.rows, validateStoredLeaderboardRow runtime.casing runtime.rounding row = .ok ()
  native : ∀ row ∈ r.rows, rawVersion (row.read "raw") = 2
  converts : ∀ row ∈ r.rows, row.Converts runtime
  bound : r.rows.zipIdx.mapM (fun (row, index) => bindRow runtime r.ordinal index row) = .ok r.bound

inductive Chain (runtime : Runtime) : List Recorded → Prop where
  | nil : Chain runtime []
  | snoc {history : List Recorded} {r : Recorded} (chain : Chain runtime history)
      (continues : Continues runtime history r) : Chain runtime (history ++ [r])

variable {history : List Recorded}

@[simp] theorem lastNext_concat (history : List Recorded) (r : Recorded) :
    lastNext (history ++ [r]) = r.nextCursor := by
  simp [lastNext]

@[simp] theorem sources_concat (history : List Recorded) (r : Recorded) :
    sources (history ++ [r]) = sources history ++ r.sourceCursor.toList := by
  cases cursor : r.sourceCursor <;> simp [sources, cursor]

theorem Chain.ordinals (chain : Chain runtime history) :
    history.map Recorded.ordinal = List.range history.length := by
  induction chain with
  | nil => rfl
  | snoc chain continues ih => simp [ih, continues.ordinal, List.range_succ]

theorem Chain.ordinal_lt (chain : Chain runtime history) {r : Recorded} (member : r ∈ history) :
    r.ordinal < history.length := by
  rw [← List.mem_range, ← chain.ordinals]
  exact List.mem_map_of_mem member

theorem Chain.eq_of_ordinal (chain : Chain runtime history) {first second : Recorded} (left : first ∈ history)
    (right : second ∈ history) (same : first.ordinal = second.ordinal) : first = second :=
  List.inj_on_of_nodup_map (chain.ordinals ▸ List.nodup_range) left right same

theorem Chain.last_fresh (chain : Chain runtime history) {cursor : Text} (last : lastNext history = some cursor) :
    cursor ∉ sources history := by
  cases chain with
  | nil => cases last
  | snoc chain continues =>
    rw [lastNext_concat] at last
    exact continues.fresh cursor last

theorem Chain.sources_nodup (chain : Chain runtime history) : (sources history).Nodup := by
  induction chain with
  | nil => exact List.nodup_nil
  | snoc chain continues ih =>
    rw [sources_concat, continues.source]
    cases last : lastNext _ with
    | none => simpa using ih
    | some cursor =>
      refine List.nodup_append.mpr ⟨ih, List.nodup_singleton cursor, fun other old own among same => ?_⟩
      rw [same, List.mem_singleton.mp among] at old
      exact chain.last_fresh last old

def walkOf (history : List Recorded) : Walk :=
  ⟨lastNext history, (sources history).reverse, history.length, false⟩

theorem walkPages_concat (w : Walk) (pages : List Page) (page : Page) :
    walkPages w (pages ++ [page]) = walkPages w pages >>= fun w => walkPage w page := by
  induction pages generalizing w with
  | nil =>
    change walkPage w page >>= (fun next => walkPages next []) = walkPage w page
    cases walkPage w page <;> rfl
  | cons first rest ih =>
    change walkPage w first >>= (fun next => walkPages next (rest ++ [page])) = _
    simp only [ih]
    change _ = (walkPage w first >>= fun next => walkPages next rest) >>= _
    rw [bind_assoc]

theorem walkPage_continues {r : Recorded} (continues : Continues runtime history r) :
    walkPage (walkOf history) (r.page runtime) = .ok (walkOf (history ++ [r])) := by
  have started : ¬((walkOf history).count ≠ 0 ∧ (walkOf history).expected = none) := fun ⟨some_, none_⟩ =>
    continues.more (List.length_pos_iff.mp (Nat.pos_of_ne_zero some_)) none_
  -- the validator consumes the cursor it expects before it looks at the next one
  have consumed : (walkOf history).expected.toList ++ (walkOf history).consumed = (sources (history ++ [r])).reverse := by
    rw [sources_concat, List.reverse_append, continues.source]
    cases last : lastNext history <;> simp [walkOf, last]
  have fresh : ¬((r.page runtime).nextCursor.any fun cursor =>
      decide (cursor ∈ (sources (history ++ [r])).reverse)) = true := by
    rw [Option.any_eq_true]
    rintro ⟨cursor, next, repeated⟩
    exact continues.fresh cursor next (List.mem_reverse.mp (of_decide_eq_true repeated))
  unfold walkPage
  rw [if_neg (show (r.page runtime).sourceVersion ≠ 1 by simp [Recorded.page]),
    if_neg (by simp [Recorded.page, walkOf, continues.ordinal]), if_neg started,
    if_neg (by simp [Recorded.page, continues.cursors.1, continues.cursors.2]),
    if_neg (not_not.mpr (show (r.page runtime).sourceCursor = (walkOf history).expected from continues.source))]
  simp only [consumed]
  rw [if_neg fresh, if_neg (by simpa [Recorded.page] using continues.bounds)]
  simp [walkOf, Recorded.page]

theorem Chain.walk (chain : Chain runtime history) :
    walkPages {} (history.map (Recorded.page runtime)) = .ok (walkOf history) := by
  induction chain with
  | nil => rfl
  | snoc chain continues ih =>
    rw [List.map_append, List.map_singleton, walkPages_concat, ih]
    exact walkPage_continues continues

theorem Chain.sorted (chain : Chain runtime history) :
    (history.map (Recorded.page runtime)).insertionSort (fun first second => first.pageOffset ≤ second.pageOffset) =
      history.map (Recorded.page runtime) := by
  refine List.Pairwise.insertionSort_eq ?_
  have ordered : (history.map Recorded.ordinal).Pairwise (· ≤ ·) := by
    rw [chain.ordinals]
    exact List.pairwise_le_range
  rw [List.pairwise_map] at ordered ⊢
  exact ordered

theorem Chain.find_page (chain : Chain runtime history) {r : Recorded} (member : r ∈ history) :
    ((history.map (Recorded.page runtime)).find? fun page => decide (page.pageOffset = r.ordinal)) =
      some (r.page runtime) := by
  cases found : (history.map (Recorded.page runtime)).find? fun page => decide (page.pageOffset = r.ordinal) with
  | none =>
    have missing := List.find?_eq_none.mp found (r.page runtime) (List.mem_map_of_mem member)
    exact absurd (decide_eq_true rfl) missing
  | some page =>
    have ordinal : page.pageOffset = r.ordinal := by simpa using List.find?_some found
    obtain ⟨other, among, rfl⟩ := List.mem_map.mp (List.mem_of_find?_eq_some found)
    rw [chain.eq_of_ordinal among member ordinal]

/-! ## The observations of a chain -/

/-- What a committed page says about each of its bound rows. -/
structure Observed (runtime : Runtime) (r : Recorded) (row : StoredRow) : Prop where
  valid : row.Valid runtime.casing runtime.rounding
  wallet : row.wallet ≠ []
  pageOffset : row.pageOffset = r.ordinal
  pageIndex : row.pageIndex < r.rows.length
  id : row.id = 0
  mdd : row.mdd = {}

theorem Continues.observed {r : Recorded} (continues : Continues runtime history r) {row : StoredRow}
    (member : row ∈ r.bound) : Observed runtime r row := by
  obtain ⟨⟨given, index⟩, among, bound⟩ := Result.mem_of_mapM continues.bound member
  obtain ⟨_, small, at_⟩ := List.mem_zipIdx among
  have held : given ∈ r.rows := by
    rw [at_]
    exact List.getElem_mem _
  obtain ⟨document, fields, native⟩ := validate_native (continues.native given held) (continues.valid given held)
  obtain ⟨valid, wallet, pageOffset, pageIndex, id, mdd⟩ := bindRow_native native (continues.converts given held) bound
  exact ⟨valid, wallet, pageOffset, by simpa [pageIndex] using small, id, mdd⟩

theorem Chain.observed (chain : Chain runtime history) {r : Recorded} (member : r ∈ history) {row : StoredRow}
    (among : row ∈ r.bound) : Observed runtime r row := by
  induction chain with
  | nil => cases member
  | snoc chain continues ih =>
    rcases List.mem_append.mp member with old | own
    · exact ih old
    · rw [List.mem_singleton.mp own] at among ⊢
      exact continues.observed among

/-- Each page contributes one observation for each of its rows. -/
theorem Chain.count_observations (chain : Chain runtime history) {r : Recorded} (member : r ∈ history) :
    ((observations history).countP fun row => decide (row.pageOffset = r.ordinal)) = r.rows.length := by
  induction chain with
  | nil => cases member
  | @snoc history last chain continues ih =>
    have split_ : observations (history ++ [last]) = observations history ++ last.bound := by
      simp [observations]
    rw [split_, List.countP_append]
    rcases List.mem_append.mp member with old | own
    -- the last page has an ordinal of its own
    · have none_ : (last.bound.countP fun row => decide (row.pageOffset = r.ordinal)) = 0 := by
        refine List.countP_eq_zero.mpr fun row among => ?_
        have before := chain.ordinal_lt old
        simp only [(continues.observed among).pageOffset, continues.ordinal, decide_eq_true_eq]
        omega
      rw [none_, ih old, Nat.add_zero]
    · rw [List.mem_singleton.mp own]
      -- no earlier page has its ordinal
      have none_ : ((observations history).countP fun row => decide (row.pageOffset = last.ordinal)) = 0 := by
        refine List.countP_eq_zero.mpr fun row among => ?_
        obtain ⟨earlier, old, held⟩ := List.mem_flatMap.mp among
        have before := chain.ordinal_lt old
        simp only [(chain.observed old held).pageOffset, continues.ordinal, decide_eq_true_eq]
        omega
      have all : (last.bound.countP fun row => decide (row.pageOffset = last.ordinal)) = last.bound.length :=
        List.countP_eq_length.mpr fun row among => decide_eq_true (continues.observed among).pageOffset
      rw [none_, all, Nat.zero_add, Result.mapM_length continues.bound, List.length_zipIdx]

/-! ## Sound stores open -/

/-- The tables with the pages they were committed from. The history is a history variable:
no operation reads it. -/
structure World where
  tables : Tables
  history : List Recorded

/-- What the metadata says about the committed pages. -/
structure Describes (metadata : Metadata) (history : List Recorded) : Prop where
  version : metadata.sourceApiVersion = some 2 ∨ (metadata.sourceApiVersion = none ∧ history = [] ∧
    metadata.v2NextCursor = none ∧ metadata.scanComplete = none)
  cursor : metadata.sourceApiVersion = some 2 → metadata.v2NextCursor = some (lastNext history)
  page : metadata.v2NextPage.getD 0 = history.length
  unset : metadata.scanComplete = none → history = []
  running : metadata.scanComplete = some false →
    metadata.stopReason.getD [] = [] ∧ (history ≠ [] → lastNext history ≠ none)
  ended : metadata.scanComplete = some true → history ≠ [] ∧
    ((lastNext history = none ∧ metadata.stopReason.getD [] = endOfResults) ∨
      (lastNext history ≠ none ∧ metadata.stopReason.getD [] = repeatedPage))

/-- A row as it was observed, before its identity and its enrichment. -/
def StoredRow.observed (row : StoredRow) : StoredRow := { row with id := 0, mdd := {} }

structure Sound (runtime : Runtime) (w : World) : Prop where
  chain : Chain runtime w.history
  pages : w.tables.pages = w.history.map (Recorded.page runtime)
  describes : Describes w.tables.metadata w.history
  retained : w.tables.rows.map StoredRow.observed =
    FirstBy.keepFirst StoredRow.wallet (observations w.history)
  valid : ∀ row ∈ w.tables.rows, row.Valid runtime.casing runtime.rounding

variable {w : World}

theorem Sound.observation (sound : Sound runtime w) {row : StoredRow} (member : row ∈ w.tables.rows) :
    ∃ r ∈ w.history, row.observed ∈ r.bound := by
  have kept : row.observed ∈ FirstBy.keepFirst StoredRow.wallet (observations w.history) := by
    rw [← sound.retained]
    exact List.mem_map_of_mem member
  exact List.mem_flatMap.mp ((FirstBy.keepFirst_sublist _ _).subset kept)

theorem Sound.not_misplaced (sound : Sound runtime w) : w.tables.rows.any (misplaced w.tables.pages) = false := by
  rw [List.any_eq_false]
  intro row member
  obtain ⟨r, among, held⟩ := sound.observation member
  have seen := sound.chain.observed among held
  have offset : row.pageOffset = r.ordinal := seen.pageOffset
  have index : row.pageIndex < r.rows.length := seen.pageIndex
  unfold misplaced
  rw [sound.pages, offset, sound.chain.find_page among]
  simp [Recorded.page, index]

theorem Sound.not_excessive (sound : Sound runtime w) : w.tables.pages.any (excessive w.tables.rows) = false := by
  rw [List.any_eq_false, sound.pages]
  intro page member
  obtain ⟨r, among, rfl⟩ := List.mem_map.mp member
  have counted : (w.tables.rows.countP fun row => decide (row.pageOffset = r.ordinal)) ≤ r.rows.length := by
    calc (w.tables.rows.countP fun row => decide (row.pageOffset = r.ordinal))
        = ((w.tables.rows.map StoredRow.observed).countP fun row => decide (row.pageOffset = r.ordinal)) := by
          rw [List.countP_map]
          rfl
      _ ≤ ((observations w.history).countP fun row => decide (row.pageOffset = r.ordinal)) := by
          rw [sound.retained]
          exact (FirstBy.keepFirst_sublist _ _).countP_le
      _ = r.rows.length := sound.chain.count_observations among
  unfold excessive
  exact fun chosen => not_lt.mpr counted (of_decide_eq_true chosen)

/-- The metadata passes as soon as it says whether the scan is complete. -/
theorem Describes.checks {metadata : Metadata} (describes : Describes metadata history)
    (version : metadata.sourceApiVersion = some 2) :
    checkProgress metadata (walkOf history) = .ok () ↔ metadata.scanComplete ≠ none := by
  have started : (walkOf history).count ≠ 0 ↔ history ≠ [] := by
    simp [walkOf]
  have exhausted : endOfResults ≠ [] := by decide
  have differ : repeatedPage ≠ endOfResults := by decide
  have expected : (walkOf history).expected = lastNext history := rfl
  unfold checkProgress
  rw [if_neg (by simp [walkOf, version, describes.page, describes.cursor version])]
  simp only [started, expected]
  cases complete : metadata.scanComplete with
  | none => simp
  | some value =>
    cases value with
    | false =>
      obtain ⟨reason, more⟩ := describes.running complete
      by_cases begun : history = []
      · simp [reason, begun]
      · simp [reason, begun, more begun, exhausted.symm]
    | true =>
      obtain ⟨begun, ⟨last, reason⟩ | ⟨last, reason⟩⟩ := describes.ended complete
      · simp [reason, begun, last]
      · simp [reason, begun, last, differ]

/-- A sound store opens unchanged, unless its scan was prepared and has no completion entry. -/
theorem Sound.opens (sound : Sound runtime w) :
    openStore runtime.casing runtime.rounding (some w.tables) = .ok w.tables ↔
      (w.tables.metadata.sourceApiVersion = some 2 → w.tables.metadata.scanComplete ≠ none) := by
  have rows : validateDurableRows runtime.casing runtime.rounding w.tables.rows = .ok () :=
    Result.forM_eq_ok.mpr fun row member => (sound.valid row member).passes
  have walked : walkPages {} (w.tables.pages.insertionSort fun first second => first.pageOffset ≤ second.pageOffset) =
      .ok (walkOf w.history) := by
    rw [sound.pages, sound.chain.sorted, sound.chain.walk]
  have chain : validateCursorChain w.tables =
      if w.tables.metadata.sourceApiVersion = some 2 then checkProgress w.tables.metadata (walkOf w.history)
      else .ok () := by
    unfold validateCursorChain
    rw [walked]
    simp only [Except.bind, bind, sound.not_misplaced, sound.not_excessive, Bool.false_eq_true, or_self, if_false]
    -- without a version the chain is not looked at, and is empty
    rcases sound.describes.version with version | ⟨version, empty, _⟩
    · simp [version]
    · simp [version, walkOf, empty, pure, Except.pure]
  unfold openStore
  simp only [rows, chain, bind, Except.bind]
  by_cases version : w.tables.metadata.sourceApiVersion = some 2
  · rw [if_pos version]
    simp only [version, true_imp_iff, ← sound.describes.checks version]
    cases checked : checkProgress w.tables.metadata (walkOf w.history) with
    | error message => simp
    | ok passed => simp [pure, Except.pure]
  · simp [version, pure, Except.pure]

theorem opened_same {t next : Tables} (opened : openStore casing rounding (some t) = .ok next) : next = t := by
  unfold openStore at opened
  obtain ⟨_, _, rest⟩ := Result.bind_eq_ok.mp opened
  obtain ⟨_, _, rest⟩ := Result.bind_eq_ok.mp rest
  cases rest
  rfl

/-! ## What an operation does to a sound store -/

/-- Every condition of a new cursor page. -/
structure Admitted (t : Tables) (pageOffset : Nat) (rows : List Row) (sourceCursor nextCursor : Option Text) :
    Prop where
  cursors : validCursor? sourceCursor = true ∧ validCursor? nextCursor = true
  ordinal : pageOffset = t.metadata.v2NextPage.getD 0
  native : ∀ row ∈ rows, rawVersion (row.read "raw") = 2
  continued : ∀ previous, t.metadata.v2NextCursor = some previous → previous = sourceCursor
  start : t.metadata.v2NextCursor = none → sourceCursor = none ∧ pageOffset = 0
  open_ : t.metadata.v2NextCursor ≠ none → t.metadata.scanComplete ≠ some true
  fresh : ∀ cursor, nextCursor = some cursor → some cursor ≠ sourceCursor ∧ consumed t.pages cursor = false

theorem admitCursorPage_ok {t : Tables} {pageOffset : Nat} {rows : List Row} {sourceCursor nextCursor : Option Text}
    (passed : admitCursorPage t pageOffset rows sourceCursor nextCursor = .ok ()) :
    Admitted t pageOffset rows sourceCursor nextCursor := by
  unfold admitCursorPage at passed
  dsimp only at passed
  split at passed
  · cases passed
  rename_i cursors
  split at passed
  · cases passed
  rename_i ordinal
  split at passed
  · cases passed
  rename_i native
  split at passed
  · cases passed
  split at passed
  · cases passed
  rename_i continued
  split at passed
  · cases passed
  rename_i start
  split at passed
  · cases passed
  rename_i open_
  split at passed
  · cases passed
  split at passed
  · cases passed
  split at passed
  · cases passed
  rename_i fresh
  simp only [not_or, Bool.not_eq_false] at cursors
  refine ⟨cursors, not_not.mp ordinal, fun row member => ?_, fun previous known => ?_, fun missing => ?_,
    fun known complete => open_ ⟨known, complete⟩, fun cursor next => ?_⟩
  · rw [Bool.not_eq_false, List.all_eq_true] at native
    exact of_decide_eq_true (native row member)
  · by_contra other
    exact continued (by simp [known, other])
  · by_contra other
    exact start ⟨missing, by tauto⟩
  · simpa [next] using fresh

/-- What recording a page of the cursor source can do. -/
inductive Recording (runtime : Runtime) (t : Tables) (pageOffset pageLimit : Nat) (rows : List Row)
    (sourceCursor nextCursor : Option Text) : Tables × Except Text Bool → Prop where
  | refused (message : Text) : Recording runtime t pageOffset pageLimit rows sourceCursor nextCursor (t, .error message)
  | known : Recording runtime t pageOffset pageLimit rows sourceCursor nextCursor (t, .ok true)
  | repeated (duplicate : Page) (member : duplicate ∈ t.pages)
      (admitted : Admitted t pageOffset rows sourceCursor nextCursor) :
      Recording runtime t pageOffset pageLimit rows sourceCursor nextCursor
        ({ t with metadata := { t.metadata with
          scanComplete := some true
          stopReason := some repeatedPage
          stopOffset := some pageOffset
          repeatedPageOffset := some duplicate.pageOffset } }, .ok false)
  | committed (bound : List StoredRow) (admitted : Admitted t pageOffset rows sourceCursor nextCursor)
      (bounds : 1 ≤ pageLimit ∧ pageLimit ≤ 1000 ∧ rows.length ≤ pageLimit)
      (valid : ∀ row ∈ rows, validateStoredLeaderboardRow runtime.casing runtime.rounding row = .ok ())
      (bind_ : rows.zipIdx.mapM (fun (row, index) => bindRow runtime pageOffset index row) = .ok bound) :
      Recording runtime t pageOffset pageLimit rows sourceCursor nextCursor
        ({ metadata := { t.metadata with
            scanComplete := some (decide (nextCursor = none))
            stopReason := some (if decide (nextCursor = none) then endOfResults else [])
            sourceApiVersion := some 2
            v2NextCursor := some nextCursor
            v2NextPage := some (pageOffset + 1) }
           pages := t.pages ++ [⟨pageOffset, pageLimit, rows.length, runtime.pageDigest rows,
            walletMembershipFingerprint runtime rows, 2, sourceCursor, nextCursor⟩]
           rows := bound.foldl insertRow t.rows }, .ok true)

theorem recordPage_cases (runtime : Runtime) (t : Tables) (offset limit : Int) (rows : List Row)
    (sourceCursor nextCursor : Option Text) :
    Recording runtime t offset.toNat limit.toNat rows sourceCursor nextCursor
      (recordPage runtime t offset limit rows 2 sourceCursor nextCursor) := by
  unfold recordPage
  split
  · exact .refused _
  rename_i bounds
  simp only [true_and, not_not] at bounds
  have limit_ : (max 1 limit).toNat = limit.toNat := by omega
  have natural : 1 ≤ limit.toNat ∧ limit.toNat ≤ 1000 ∧ rows.length ≤ limit.toNat := by omega
  split
  · exact .refused _
  rename_i passed
  have valid := Result.forM_eq_ok.mp passed
  rw [limit_]
  unfold transaction
  cases body : commitPage runtime t offset.toNat limit.toNat rows 2 sourceCursor nextCursor with
  | error message => exact .refused message
  | ok result =>
    obtain ⟨next, kept⟩ := result
    unfold commitPage at body
    rw [if_neg (by simp)] at body
    split at body
    · split at body
      · cases body
      · cases body
        exact .known
    · obtain ⟨_, admitted, rest⟩ := Result.bind_eq_ok.mp body
      have admitted := admitCursorPage_ok admitted
      dsimp only at rest
      split at rest
      · rename_i duplicate found
        cases rest
        split at found
        · cases found
        · exact .repeated duplicate (List.mem_of_find?_eq_some found) admitted
      · obtain ⟨bound, bind_, rest⟩ := Result.bind_eq_ok.mp rest
        cases rest
        exact .committed bound admitted natural valid bind_

/-! ## Steps -/

def boundRows (runtime : Runtime) (pageOffset : Nat) (rows : List Row) : List StoredRow :=
  match rows.zipIdx.mapM fun (row, index) => bindRow runtime pageOffset index row with
  | .ok bound => bound
  | .error _ => []

/-- Record a page; a new page on the file joins the history. -/
def World.record (runtime : Runtime) (w : World) (offset limit : Int) (rows : List Row)
    (sourceCursor nextCursor : Option Text) : World :=
  let next := (recordPage runtime w.tables offset limit rows 2 sourceCursor nextCursor).1
  ⟨next, if next.pages = w.tables.pages then w.history
    else w.history ++ [⟨offset.toNat, limit.toNat, rows, sourceCursor, nextCursor,
      boundRows runtime offset.toNat rows⟩]⟩

/-- A drawdown is null or `0 <= drawdown`. -/
def nonnegative : Option PyFloat → Prop
  | none => True
  | some (.finite drawdown) => 0 ≤ drawdown
  | some (.inf negative) => negative = false
  | some .nan => False

def MddSummary.Nonnegative (summary : MddSummary) : Prop := nonnegative summary.mddUsd ∧ nonnegative summary.mddPct

def MddSummary.Finite (summary : MddSummary) : Prop :=
  summary.available = true → summary.mddUsd ≠ some (.inf false) ∧ summary.mddPct ≠ some (.inf false)

/-- Which scans are resumed, which pages are recorded and which drawdowns are set. -/
structure Conditions where
  resumed : World → Prop
  recorded : List Row → Prop
  drawn : MddSummary → Prop

def Conditions.any : Conditions := ⟨fun _ => True, fun _ => True, fun _ => True⟩

/-- A store that says whether its scan is complete. -/
def World.Marked (w : World) : Prop := w.tables.metadata.scanComplete ≠ none

/-- Only marked stores are resumed, texts are converted to their floats, and drawdowns are finite. -/
def Conditions.met (runtime : Runtime) : Conditions :=
  ⟨World.Marked, fun rows => ∀ row ∈ rows, row.Converts runtime, MddSummary.Finite⟩

/-- One operation of an open store, or a new construction after a close or a crash, where
the conditions allow it. -/
inductive StoreStep (runtime : Runtime) (conditions : Conditions) : World → World → Prop where
  | prepare {w : World} (signature : Signature) (resume : Bool) (native : signature.native = true)
      (ready : resume = true → conditions.resumed w) :
      StoreStep runtime conditions w ⟨(prepare w.tables signature resume).1, if resume then w.history else []⟩
  | recordPage {w : World} (offset limit : Int) (rows : List Row) (sourceCursor nextCursor : Option Text)
      (ready : conditions.recorded rows) :
      StoreStep runtime conditions w (w.record runtime offset limit rows sourceCursor nextCursor)
  | prepareMdd {w : World} (serialized : Text) :
      StoreStep runtime conditions w ⟨(prepareMdd w.tables serialized).1, w.history⟩
  | setMdd {w : World} (rowId : Nat) (payload : Option MddSummary) (error : Option Text)
      (sign : ∀ summary ∈ payload, summary.Nonnegative) (ready : ∀ summary ∈ payload, conditions.drawn summary) :
      StoreStep runtime conditions w ⟨(setMdd w.tables rowId payload error).1, w.history⟩
  | reopen {w : World} (next : Tables)
      (opened : openStore runtime.casing runtime.rounding (some w.tables) = .ok next) :
      StoreStep runtime conditions w ⟨next, w.history⟩

theorem insert_retained {rows bound : List StoredRow}
    (fresh : ∀ row ∈ bound, row.wallet ≠ [] ∧ row.id = 0 ∧ row.mdd = {}) :
    (bound.foldl insertRow rows).map StoredRow.observed =
      bound.foldl (FirstBy.keep StoredRow.wallet) (rows.map StoredRow.observed) := by
  induction bound generalizing rows with
  | nil => rfl
  | cons row rest ih =>
    obtain ⟨named, id, mdd⟩ := fresh row List.mem_cons_self
    have own : ∀ number, ({ row with id := number } : StoredRow).observed = row := by
      intro number
      cases row
      simp only at id mdd
      subst id mdd
      rfl
    have keys : (rows.map StoredRow.observed).map StoredRow.wallet = rows.map StoredRow.wallet := by
      rw [List.map_map]
      rfl
    have one : (insertRow rows row).map StoredRow.observed =
        FirstBy.keep StoredRow.wallet (rows.map StoredRow.observed) row := by
      unfold insertRow FirstBy.keep
      rw [keys]
      by_cases known : row.wallet ∈ rows.map StoredRow.wallet
      · rw [if_pos ⟨named, known⟩, if_pos known]
      · rw [if_neg (fun both => known both.2), if_neg known, List.map_append, List.map_singleton]
        rw [own]
    rw [List.foldl_cons, List.foldl_cons, ih fun other later => fresh other (List.mem_cons_of_mem row later), one]

theorem mem_insert {rows bound : List StoredRow} {row : StoredRow} (member : row ∈ bound.foldl insertRow rows) :
    row ∈ rows ∨ ∃ own ∈ bound, ∃ id, row = { own with id := id } := by
  induction bound generalizing rows with
  | nil => exact Or.inl member
  | cons first rest ih =>
    rcases ih member with old | ⟨own, later, id, same⟩
    · unfold insertRow at old
      split at old
      · exact Or.inl old
      · rcases List.mem_append.mp old with old | new
        · exact Or.inl old
        · exact Or.inr ⟨first, List.mem_cons_self, _, List.mem_singleton.mp new⟩
    · exact Or.inr ⟨own, List.mem_cons_of_mem first later, id, same⟩

/-- Only the enrichment of the rows changes. -/
theorem Sound.enriched (sound : Sound runtime w) (change : StoredRow → Enrichment) (metadata : Metadata)
    (accepted : ∀ row ∈ w.tables.rows, (change row).Accepted runtime.rounding) (describes : Describes metadata w.history) :
    Sound runtime ⟨{ w.tables with
      rows := w.tables.rows.map fun row => { row with mdd := change row }, metadata := metadata }, w.history⟩ where
  chain := sound.chain
  pages := sound.pages
  describes := describes
  retained := by
    rw [← sound.retained, List.map_map]
    rfl
  valid := by
    intro row member
    obtain ⟨old, held, rfl⟩ := List.mem_map.mp member
    exact (sound.valid old held).enrich (accepted old held)

theorem prepareMdd_sound (sound : Sound runtime w) (serialized : Text) :
    Sound runtime ⟨(prepareMdd w.tables serialized).1, w.history⟩ := by
  unfold prepareMdd
  split
  · exact sound
  · dsimp only [transaction]
    have rows : (w.tables.rows.map fun row =>
        if decide (row.mdd.status ≠ .pending ∨ row.mdd.summary ≠ none) = true then { row with mdd := {} } else row) =
        w.tables.rows.map fun row => { row with
          mdd := if row.mdd.status ≠ .pending ∨ row.mdd.summary ≠ none then {} else row.mdd } := by
      refine List.map_congr_left fun row _ => ?_
      by_cases stale : row.mdd.status ≠ .pending ∨ row.mdd.summary ≠ none <;> simp [stale]
    rw [rows]
    refine sound.enriched _ _ (fun row member => ?_) ⟨sound.describes.version, sound.describes.cursor,
      sound.describes.page, sound.describes.unset, sound.describes.running, sound.describes.ended⟩
    split
    · exact ⟨rfl, rfl⟩
    · exact (sound.valid row member).accepted

theorem updateRow_sound (sound : Sound runtime w) (rowId : Nat) (change : Enrichment → Enrichment)
    (accepted : ∀ mdd, mdd.Accepted runtime.rounding → (change mdd).Accepted runtime.rounding) :
    Sound runtime ⟨{ w.tables with rows := updateRow rowId change w.tables.rows }, w.history⟩ := by
  have rows : updateRow rowId change w.tables.rows = w.tables.rows.map fun row => { row with
      mdd := if row.id = rowId then change row.mdd else row.mdd } := by
    unfold updateRow
    refine List.map_congr_left fun row _ => ?_
    by_cases own : row.id = rowId <;> simp [own]
  rw [rows]
  refine sound.enriched _ _ (fun row member => ?_) sound.describes
  split
  · exact accepted _ (sound.valid row member).accepted
  · exact (sound.valid row member).accepted

theorem checkDrawdown_nonnegative {drawdown : Option PyFloat} (sign : nonnegative drawdown)
    (finite : drawdown ≠ some (.inf false)) : checkDrawdown rounding (drawdownColumn drawdown) = .ok () := by
  cases drawdown with
  | none => rfl
  | some drawdown =>
    cases drawdown with
    | finite drawdown => exact checkDrawdown_finite sign
    | inf negative =>
      -- an infinite drawdown is stored, and refused when the store is opened
      obtain rfl : negative = false := sign
      exact absurd rfl finite
    | nan => cases sign

theorem setMdd_sound (sound : Sound runtime w) (rowId : Nat) (payload : Option MddSummary) (error : Option Text)
    (sign : ∀ summary ∈ payload, summary.Nonnegative) (finite : ∀ summary ∈ payload, summary.Finite) :
    Sound runtime ⟨(setMdd w.tables rowId payload error).1, w.history⟩ := by
  unfold setMdd
  cases payload with
  | none =>
    dsimp only
    cases bound : bindText ((error.getD (text "MDD unavailable")).take 512) with
    | error message => exact sound
    | ok message => exact updateRow_sound sound rowId _ fun mdd old => old
  | some summary =>
    dsimp only
    cases named : summary.method.mapM bindText with
    | error message => exact sound
    | ok method =>
      cases bound : bindText summary.source with
      | error message => exact sound
      | ok source =>
        refine updateRow_sound sound rowId _ fun mdd _ => ?_
        have given := sign summary rfl
        have small := finite summary rfl
        cases available : summary.available with
        | false => exact ⟨rfl, rfl⟩
        | true =>
          exact ⟨checkDrawdown_nonnegative given.1 (small available).1,
            checkDrawdown_nonnegative given.2 (small available).2⟩

/-- The metadata of a resumed scan: a new store is set to the start of the cursor chain. -/
def resumed (metadata : Metadata) (signature : Option Text) : Metadata :=
  if metadata.sourceApiVersion = none then
    { metadata with
      signature := signature
      sourceApiVersion := some 2
      v2NextCursor := some none
      v2NextPage := some 0 }
  else { metadata with signature := signature }

theorem prepare_resume (t : Tables) (signature : Signature) (native : signature.native = true) :
    (prepare t signature true).1 = t ∨
      ∃ name, (prepare t signature true).1 = { t with metadata := resumed t.metadata name } := by
  unfold prepare
  dsimp only
  by_cases differ : t.metadata.signature.getD [] ≠ [] ∧ t.metadata.signature.getD [] ≠ signature.serialized
  · left
    simp [differ, transaction, bind, Except.bind]
  · right
    by_cases unnamed : t.metadata.signature.getD [] = []
    · refine ⟨some signature.serialized, ?_⟩
      by_cases version : t.metadata.sourceApiVersion = none <;>
        simp [unnamed, native, version, transaction, resumed, bind, Except.bind, pure, Except.pure]
    · refine ⟨t.metadata.signature, ?_⟩
      have same : t.metadata.signature.getD [] = signature.serialized :=
        not_not.mp fun other => differ ⟨unnamed, other⟩
      rw [same] at unnamed
      by_cases version : t.metadata.sourceApiVersion = none <;>
        simp [same, unnamed, native, version, transaction, resumed, bind, Except.bind, pure, Except.pure]

theorem resumed_describes {metadata : Metadata} (describes : Describes metadata history) (signature : Option Text) :
    Describes (resumed metadata signature) history := by
  unfold resumed
  rcases describes.version with version | ⟨version, rfl, _, unset⟩
  · rw [if_neg (by simp [version])]
    exact ⟨Or.inl version, describes.cursor, describes.page, describes.unset, describes.running, describes.ended⟩
  · rw [if_pos version]
    exact ⟨Or.inl rfl, fun _ => rfl, rfl, fun _ => rfl, by simp [unset], by simp [unset]⟩

theorem prepare_sound (sound : Sound runtime w) (signature : Signature) (resume : Bool)
    (native : signature.native = true) :
    Sound runtime ⟨(prepare w.tables signature resume).1, if resume then w.history else []⟩ := by
  cases resume with
  | false =>
    have started : (prepare w.tables signature false).1 = ⟨{
        signature := some signature.serialized
        scanComplete := some false
        sourceApiVersion := some 2
        v2NextCursor := some none
        v2NextPage := some 0 }, [], []⟩ := by
      simp [prepare, transaction, native, bind, Except.bind, pure, Except.pure]
    -- prepare without resume starts over: no page, no row, and a completion entry
    rw [started]
    exact ⟨.nil, rfl, ⟨Or.inl rfl, fun _ => rfl, rfl, fun _ => rfl, by simp, by simp⟩, rfl, by simp⟩
  | true =>
    rcases prepare_resume w.tables signature native with same | ⟨name, changed⟩
    · rw [same]
      exact sound
    · rw [changed]
      exact ⟨sound.chain, sound.pages, resumed_describes sound.describes name, sound.retained, sound.valid⟩

/-- A page is admitted only while the chain goes on. -/
theorem Sound.running (sound : Sound runtime w) {pageOffset : Nat} {rows : List Row}
    {sourceCursor nextCursor : Option Text}
    (admitted : Admitted w.tables pageOffset rows sourceCursor nextCursor) (begun : w.history ≠ []) :
    lastNext w.history ≠ none := by
  rcases sound.describes.version with version | ⟨_, empty, _, _⟩
  · cases complete : w.tables.metadata.scanComplete with
    | none => exact absurd (sound.describes.unset complete) begun
    | some value =>
      cases value with
      | false => exact (sound.describes.running complete).2 begun
      | true => exact absurd complete (admitted.open_ (by simp [sound.describes.cursor version]))
  · exact absurd empty begun

/-- An admitted page continues the chain. -/
theorem Sound.continues (sound : Sound runtime w) {pageOffset pageLimit : Nat} {rows : List Row}
    {sourceCursor nextCursor : Option Text} {bound : List StoredRow}
    (admitted : Admitted w.tables pageOffset rows sourceCursor nextCursor)
    (bounds : 1 ≤ pageLimit ∧ pageLimit ≤ 1000 ∧ rows.length ≤ pageLimit)
    (valid : ∀ row ∈ rows, validateStoredLeaderboardRow runtime.casing runtime.rounding row = .ok ())
    (converts : ∀ row ∈ rows, row.Converts runtime)
    (bind_ : rows.zipIdx.mapM (fun (row, index) => bindRow runtime pageOffset index row) = .ok bound) :
    Continues runtime w.history ⟨pageOffset, pageLimit, rows, sourceCursor, nextCursor, bound⟩ where
  ordinal := admitted.ordinal.trans sound.describes.page
  source := by
    rcases sound.describes.version with version | ⟨_, empty, missing, _⟩
    · exact (admitted.continued _ (sound.describes.cursor version)).symm
    · rw [empty]
      exact (admitted.start missing).1
  more := sound.running admitted
  cursors := admitted.cursors
  fresh := by
    intro cursor next among
    obtain ⟨other, free⟩ := admitted.fresh cursor next
    rw [sources_concat, List.mem_append] at among
    rcases among with old | own
    · obtain ⟨r, held, source⟩ := List.mem_filterMap.mp old
      rw [sound.pages] at free
      have missing := List.any_eq_false.mp free (r.page runtime) (List.mem_map_of_mem held)
      exact missing (decide_eq_true ⟨rfl, source⟩)
    · exact other (Option.mem_toList.mp own).symm
  bounds := bounds
  valid := valid
  native := admitted.native
  converts := converts
  bound := bind_

theorem record_sound (sound : Sound runtime w) (offset limit : Int) (rows : List Row)
    (sourceCursor nextCursor : Option Text) (converts : ∀ row ∈ rows, row.Converts runtime) :
    Sound runtime (w.record runtime offset limit rows sourceCursor nextCursor) := by
  have recorded := recordPage_cases runtime w.tables offset limit rows sourceCursor nextCursor
  unfold World.record
  generalize recordPage runtime w.tables offset limit rows 2 sourceCursor nextCursor = outcome at recorded
  cases recorded with
  | refused message => simpa using sound
  | known => simpa using sound
  | repeated duplicate member admitted =>
    dsimp only
    rw [if_pos rfl]
    -- a repeated page is on the file, so the scan has begun
    have begun : w.history ≠ [] := by
      rintro empty
      rw [sound.pages, empty] at member
      cases member
    refine ⟨sound.chain, sound.pages, ?_, sound.retained, sound.valid⟩
    have version : w.tables.metadata.sourceApiVersion = some 2 :=
      sound.describes.version.resolve_right fun fresh => begun fresh.2.1
    exact ⟨Or.inl version, sound.describes.cursor, sound.describes.page, by simp, by simp,
      fun _ => ⟨begun, Or.inr ⟨sound.running admitted begun, rfl⟩⟩⟩
  | committed bound admitted bounds valid bind_ =>
    -- the page joins the chain, and its new wallets the rows
    have continues := sound.continues admitted bounds valid converts bind_
    have own : boundRows runtime offset.toNat rows = bound := by
      unfold boundRows
      rw [bind_]
    have grown : ∀ page, ¬w.tables.pages ++ [page] = w.tables.pages := by simp
    dsimp only
    rw [if_neg (grown _), own]
    refine ⟨.snoc sound.chain continues, ?_, ?_, ?_, fun row member => ?_⟩
    · simp [sound.pages, Recorded.page]
    · refine ⟨Or.inl rfl, fun _ => by rw [lastNext_concat], ?_, by simp, ?_, ?_⟩
      · simp [admitted.ordinal, sound.describes.page]
      · intro running
        have more : nextCursor ≠ none := by simpa using running
        exact ⟨by simp [more], fun _ => by rwa [lastNext_concat]⟩
      · intro ended
        have last : nextCursor = none := by simpa using ended
        exact ⟨by simp, Or.inl ⟨by rwa [lastNext_concat], by simp [last]⟩⟩
    · rw [insert_retained, sound.retained]
      · simp [observations, FirstBy.keepFirst_append]
      · intro row among
        have seen := continues.observed among
        exact ⟨seen.wallet, seen.id, seen.mdd⟩
    · rcases mem_insert member with old | ⟨row, among, id, rfl⟩
      · exact sound.valid row old
      · exact (continues.observed among).valid

/-- The conditions allow no page and no drawdown that the store cannot read back. -/
structure Conditions.Readable (runtime : Runtime) (conditions : Conditions) : Prop where
  recorded : ∀ rows, conditions.recorded rows → ∀ row ∈ rows, row.Converts runtime
  drawn : ∀ summary, conditions.drawn summary → summary.Finite

variable {conditions : Conditions}

theorem step_sound {before after : World} (readable : conditions.Readable runtime) (sound : Sound runtime before)
    (step : StoreStep runtime conditions before after) : Sound runtime after := by
  cases step with
  | prepare signature resume native ready => exact prepare_sound sound signature resume native
  | recordPage offset limit rows sourceCursor nextCursor ready =>
    exact record_sound sound offset limit rows sourceCursor nextCursor (readable.recorded rows ready)
  | prepareMdd serialized => exact prepareMdd_sound sound serialized
  | setMdd rowId payload error sign ready =>
    exact setMdd_sound sound rowId payload error sign fun summary given => readable.drawn summary (ready summary given)
  | reopen next opened => exact opened_same opened ▸ sound

/-! ## Whole runs -/

/-- The store on a new file. -/
def World.Start (runtime : Runtime) (w : World) : Prop :=
  openStore runtime.casing runtime.rounding none = .ok w.tables ∧ w.history = []

def World.Reachable (runtime : Runtime) (conditions : Conditions) : World → Prop :=
  Transition.Reachable (World.Start runtime) (StoreStep runtime conditions)

theorem start_sound (start : w.Start runtime) : Sound runtime w := by
  obtain ⟨opened, empty⟩ := start
  cases w with
  | mk tables history =>
    cases opened
    cases empty
    exact ⟨.nil, rfl, ⟨Or.inr ⟨rfl, rfl, rfl, rfl⟩, by simp, rfl, fun _ => rfl, by simp, by simp⟩,
      rfl, by simp⟩

theorem reachable_sound (readable : conditions.Readable runtime) (reachable : w.Reachable runtime conditions) :
    Sound runtime w :=
  @Transition.reachable_invariant _ (World.Start runtime) (StoreStep runtime conditions) (Sound runtime)
    (fun _ start => start_sound start) (fun _ _ sound step => step_sound readable sound step) w reachable

theorem prepare_marked {t : Tables} {signature : Signature} {resume : Bool}
    (native : signature.native = true) (ready : resume = true → t.metadata.scanComplete ≠ none) :
    (prepare t signature resume).1.metadata.scanComplete ≠ none := by
  cases resume with
  | false => simp [prepare, transaction, native, bind, Except.bind, pure, Except.pure]
  | true =>
    rcases prepare_resume t signature native with same | ⟨name, changed⟩
    · rw [same]
      exact ready rfl
    · rw [changed]
      unfold resumed
      split <;> exact ready rfl

theorem record_marked {t : Tables} (offset limit : Int) (rows : List Row) (sourceCursor nextCursor : Option Text)
    (marked : t.metadata.sourceApiVersion = some 2 → t.metadata.scanComplete ≠ none) :
    (recordPage runtime t offset limit rows 2 sourceCursor nextCursor).1.metadata.sourceApiVersion = some 2 →
      (recordPage runtime t offset limit rows 2 sourceCursor nextCursor).1.metadata.scanComplete ≠ none := by
  have recorded := recordPage_cases runtime t offset limit rows sourceCursor nextCursor
  generalize recordPage runtime t offset limit rows 2 sourceCursor nextCursor = outcome at recorded
  cases recorded with
  | refused message => exact marked
  | known => exact marked
  | repeated duplicate member admitted => simp
  | committed bound admitted bounds valid bind_ => simp

theorem setMdd_metadata (t : Tables) (rowId : Nat) (payload : Option MddSummary) (error : Option Text) :
    (setMdd t rowId payload error).1.metadata = t.metadata := by
  unfold setMdd
  cases payload with
  | none =>
    dsimp only
    cases bindText ((error.getD (text "MDD unavailable")).take 512) <;> rfl
  | some summary =>
    dsimp only
    cases summary.method.mapM bindText with
    | error message => rfl
    | ok method => cases bindText summary.source <;> rfl

theorem prepareMdd_metadata (t : Tables) (serialized : Text) :
    (prepareMdd t serialized).1.metadata.sourceApiVersion = t.metadata.sourceApiVersion ∧
      (prepareMdd t serialized).1.metadata.scanComplete = t.metadata.scanComplete := by
  unfold prepareMdd
  split
  · exact ⟨rfl, rfl⟩
  · exact ⟨rfl, rfl⟩

/-- Where only marked stores are resumed, a scan that started is marked. -/
theorem step_marked {before after : World}
    (marked : before.tables.metadata.sourceApiVersion = some 2 → before.Marked)
    (step : StoreStep runtime (.met runtime) before after) :
    after.tables.metadata.sourceApiVersion = some 2 → after.Marked := by
  cases step with
  | prepare signature resume native ready => exact fun _ => prepare_marked native ready
  | recordPage offset limit rows sourceCursor nextCursor ready =>
    exact record_marked offset limit rows sourceCursor nextCursor marked
  | prepareMdd serialized =>
    unfold World.Marked
    rw [(prepareMdd_metadata _ serialized).1, (prepareMdd_metadata _ serialized).2]
    exact marked
  | setMdd rowId payload error sign ready =>
    unfold World.Marked
    rw [setMdd_metadata]
    exact marked
  | reopen next opened => exact opened_same opened ▸ marked

theorem reachable_marked (reachable : w.Reachable runtime (.met runtime)) :
    w.tables.metadata.sourceApiVersion = some 2 → w.Marked := by
  refine @Transition.reachable_invariant _ (World.Start runtime) (StoreStep runtime (.met runtime))
    (fun w => w.tables.metadata.sourceApiVersion = some 2 → w.Marked) (fun s start => ?_)
    (fun _ _ marked step => step_marked marked step) w reachable
  obtain ⟨opened, _⟩ := start
  cases s
  cases opened
  simp

theorem Chain.linked (chain : Chain runtime history) {i : Nat} {first second : Recorded}
    (here : history[i]? = some first) (next : history[i + 1]? = some second) :
    first.nextCursor ≠ none ∧ second.sourceCursor = first.nextCursor := by
  induction chain with
  | nil => cases here
  | @snoc history r chain continues ih =>
    have inside : i + 1 < (history ++ [r]).length := (List.getElem?_eq_some_iff.mp next).1
    rw [List.length_append, List.length_singleton] at inside
    rw [List.getElem?_append_left (by omega)] at here
    by_cases last : i + 1 < history.length
    · rw [List.getElem?_append_left last] at next
      exact ih here next
    · -- The second page is the one that continued the chain.
      have final : i = history.length - 1 := by omega
      have begun : history ≠ [] := fun empty => by simp [empty] at here
      have own : r = second := by
        rw [List.getElem?_append_right (by omega), show i + 1 - history.length = 0 by omega] at next
        exact Option.some.inj next
      have cursor : lastNext history = first.nextCursor := by
        rw [lastNext, List.getLast?_eq_getElem?, ← final, here]
        rfl
      rw [← own, continues.source, ← cursor]
      exact ⟨continues.more begun, rfl⟩

theorem Chain.first (chain : Chain runtime history) {r : Recorded} (here : history[0]? = some r) :
    r.sourceCursor = none := by
  induction chain with
  | nil => cases here
  | @snoc history last chain continues ih =>
    cases history with
    | nil =>
      cases here
      exact continues.source
    | cons head tail => exact ih here

theorem Chain.accepted (chain : Chain runtime history) {r : Recorded} (member : r ∈ history) :
    (1 ≤ r.limit ∧ r.limit ≤ 1000 ∧ r.rows.length ≤ r.limit) ∧
      ∀ row ∈ r.rows, validateStoredLeaderboardRow runtime.casing runtime.rounding row = .ok () := by
  induction chain with
  | nil => cases member
  | snoc chain continues ih =>
    rcases List.mem_append.mp member with old | own
    · exact ih old
    · rw [List.mem_singleton.mp own]
      exact ⟨continues.bounds, continues.valid⟩

/-- Recording a committed page again changes nothing. -/
theorem Sound.identical (sound : Sound runtime w) {r : Recorded} (member : r ∈ w.history) :
    recordPage runtime w.tables r.ordinal r.limit r.rows 2 r.sourceCursor r.nextCursor = (w.tables, .ok true) := by
  obtain ⟨bounds, valid⟩ := sound.chain.accepted member
  have passed : (r.rows.forM fun row => validateStoredLeaderboardRow runtime.casing runtime.rounding row) = .ok () :=
    Result.forM_eq_ok.mpr valid
  have found := sound.chain.find_page member
  rw [← sound.pages] at found
  have limit_ : (max 1 (r.limit : Int)).toNat = r.limit := by omega
  unfold recordPage
  rw [if_neg (by omega), passed]
  dsimp only
  rw [limit_, Int.toNat_natCast]
  simp [transaction, commitPage, found, Recorded.page, pure, Except.pure]

/-- What holds of a store in every run: it reopens, its pages are one cursor chain, its rows
are the first observations, and no repeated or failed operation changes it. -/
structure Durable (runtime : Runtime) (w : World) : Prop where
  reopens : openStore runtime.casing runtime.rounding (some w.tables) = .ok w.tables
  pages : w.tables.pages = w.history.map (Recorded.page runtime)
  contiguous : w.tables.pages.map Page.pageOffset = List.range w.tables.pages.length
  first : ∀ page, w.tables.pages[0]? = some page → page.sourceCursor = none
  linked : ∀ i first second, w.tables.pages[i]? = some first → w.tables.pages[i + 1]? = some second →
    first.nextCursor ≠ none ∧ second.sourceCursor = first.nextCursor
  consumedOnce : (w.tables.pages.filterMap Page.sourceCursor).Nodup
  retainedOnce : (w.tables.rows.map StoredRow.wallet).Nodup
  retained : ∀ observation ∈ observations w.history, observation.wallet ∈ w.tables.rows.map StoredRow.wallet
  earliest : ∀ row ∈ w.tables.rows, ∃ before after,
    observations w.history = before ++ row.observed :: after ∧ row.wallet ∉ before.map StoredRow.wallet
  identical : ∀ r ∈ w.history,
    recordPage runtime w.tables r.ordinal r.limit r.rows 2 r.sourceCursor r.nextCursor = (w.tables, .ok true)
  recordFails : ∀ offset limit rows sourceCursor nextCursor next message,
    recordPage runtime w.tables offset limit rows 2 sourceCursor nextCursor = (next, .error message) →
      next = w.tables
  prepareFails : ∀ signature resume next message,
    prepare w.tables signature resume = (next, .error message) → next = w.tables
  prepareMddFails : ∀ serialized next message,
    prepareMdd w.tables serialized = (next, .error message) → next = w.tables
  setMddFails : ∀ rowId payload error next message,
    setMdd w.tables rowId payload error = (next, .error message) → next = w.tables

theorem transaction_fails {α : Type} {t next : Tables} {body : Except Text (Tables × α)} {message : Text}
    (failed : transaction t body = (next, .error message)) : next = t := by
  unfold transaction at failed
  split at failed
  · cases failed
  · cases failed
    rfl

private def sampleRuntime : Runtime where
  casing := asciiCasing
  rounding := exactRounding
  columnReal t := match floatText t with
    | some value => .float value
    | none => .str t
  show_ value := match value with
    | .str t => t
    | _ => []
  show_str := show_text
  pageDigest rows := rows.flatMap fun row => match row.read "wallet" with
    | .str wallet => wallet
    | _ => []
  sourceDigest _ := []
  walletsDigest wallets := wallets.flatten

private def newStore : World := ⟨.empty, []⟩

private def scanSignature : Signature := ⟨text "\x7b\"source_api_version\":2\x7d", true⟩

private def sampleWallet : Text := text "0x00000000000000000000000000000000000000ab"

private def sampleRow : Row :=
  [(text "rank", .int 1), (text "wallet", .str sampleWallet), (text "display_name", .str (text "a")),
    (text "pnl_usd", .str (text "5")), (text "volume_shares", .float (.finite 7)),
    (text "source_api_version", .int 2), (text "raw", .obj [(text "user_id", .str sampleWallet),
      (text "pnl", .int 5), (text "volume", .int 7)])]

/-- Any scan may be resumed. -/
private def readBack : Conditions :=
  ⟨fun _ => True, fun rows => ∀ row ∈ rows, row.Converts sampleRuntime, MddSummary.Finite⟩

/-- The first page of a scan, and a drawdown for its row. -/
private def samplePage : World :=
  (⟨(prepare newStore.tables scanSignature false).1, []⟩ : World).record sampleRuntime 0 2 [sampleRow] none
    (some (text "c"))

private def sampleSummary : MddSummary := ⟨true, some (.finite 2), none, some (text "m"), [], [], text "\x7b\x7d"⟩

private theorem sample_converts (t : Text) : sampleRuntime.Converts t := by
  unfold Runtime.Converts floatValue
  cases read : floatText t with
  | none => simp [sampleRuntime, read]
  | some value => cases value <;> simp [sampleRuntime, read, exactRounding]

example : (setMdd samplePage.tables 1 (some sampleSummary) none).1.rows.map
    (fun row => (row.wallet, row.pnlUsd, row.mdd.mddUsd)) =
      [(sampleWallet, .float (.finite 5), some (.finite 2))] := by
  decide +kernel

end MarketSentinel.Leaderboard
