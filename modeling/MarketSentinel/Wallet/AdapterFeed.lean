import Mathlib.Data.List.Sort
import MarketSentinel.Wallet.Identity

/-! Reading a recent feed until it covers the cursor.

An adapter lists its newest fills up to a limit. The limit grows until the feed is
exhausted or reaches behind the cursor; a feed that does neither is refused.
-/

set_option autoImplicit false

namespace MarketSentinel.Wallet.Feed

open Python

/-- `ActivityHistoryIncompleteError` by its cause, or the failure of the loader itself. -/
inductive Incomplete where
  | budget
  | malformed
  | timestamps
  | identity
  | uncovered
  | loader
  deriving DecidableEq

def Incomplete.message : Incomplete → Text
  | .budget => text "Recent wallet feed exceeded its bounded budget; cursor unchanged."
  | .malformed => text "Wallet activity response is malformed; cursor unchanged."
  | .timestamps => text "Wallet activity timestamps are invalid; cursor unchanged."
  | .identity => text "Wallet activity fill identity is repeated or ambiguous; cursor unchanged."
  | .uncovered => text "Recent wallet feed does not cover the saved cursor; backfill/reconcile before advancing."
  | .loader => []

/-! ## Snapshots -/

/-- A list of rows; an `ActivitySnapshot` also says whether and how it covers the history. -/
structure Page where
  rows : List Json
  historyComplete : Option Bool := none
  historyContiguous : Option Bool := none

mutual

/-- Python's `==` on documents: numbers by value, objects in any order of their fields. -/
def sameJson : Json → Json → Bool
  | .arr a, .arr b => sameItems a b
  | .obj a, .obj b => decide (a.length = b.length) && sameFields a b
  | .str a, .str b => decide (a = b)
  | .null, .null => true
  | a, b =>
    match a.numeric, b.numeric with
    | some x, some y => decide (x = y ∧ x ≠ .nan)
    | _, _ => false

def sameItems : List Json → List Json → Bool
  | [], [] => true
  | a :: as, b :: bs => sameJson a b && sameItems as bs
  | _, _ => false

def sameFields : List (Text × Json) → List (Text × Json) → Bool
  | [], _ => true
  | (key, a) :: as, others =>
    (match Dict.get? others key with
      | some b => sameJson a b
      | none => false) && sameFields as others

end

def arrayOf : Json → Option (List Json)
  | .arr items => some items
  | _ => none

mutual

/-- The raw rows of a payload; an unknown shape has none. Fields are unique. -/
def rawActivityRows (keys : List Text) : Json → Option (List Json)
  | .arr rows => some rows
  | .obj fields =>
    match keys.filterMap fun key => (Dict.get? fields key).bind arrayOf with
    | [] => (nestedRows keys (text "data") fields).orElse fun _ => nestedRows keys (text "result") fields
    | first :: others => if others.all (sameItems first) then some first else none
  | _ => none

def nestedRows (keys : List Text) (name : Text) : List (Text × Json) → Option (List Json)
  | [] => none
  | (key, value) :: rest =>
    if key = name then
      match value with
      | .obj fields => rawActivityRows keys (.obj fields)
      | _ => none
    else nestedRows keys name rest

end

def followingKeys : List Text :=
  [text "nextCursor", text "next_cursor", text "nextPage", text "next_page", text "hasMore", text "has_more",
    text "hasNextPage"]

def totalKeys : List Text := [text "total", text "totalCount", text "total_count"]

def envelopeKeys : List Text := [text "data", text "result", text "pagination", text "meta", text "pageInfo"]

/-- `value not in (None, "", False, 0)`. -/
def announces (value : Json) : Bool :=
  match value with
  | .null => false
  | .str t => decide (t ≠ [])
  | value => decide (value.numeric ≠ some (.finite 0))

def declares (rowCount : Nat) : Json → Bool
  | .int declared => decide ((rowCount : Int) < declared)
  | _ => false

mutual

def hasFollowingPage (rowCount : Nat) : Json → Bool
  | .obj fields =>
    followingKeys.any (fun key => announces ((Dict.get? fields key).getD .null)) ||
      totalKeys.any (fun key => ((Dict.get? fields key).map (declares rowCount)).getD false) ||
      nestedFollowingPage rowCount fields
  | _ => false

def nestedFollowingPage (rowCount : Nat) : List (Text × Json) → Bool
  | [] => false
  | (key, value) :: rest =>
    (decide (key ∈ envelopeKeys) && hasFollowingPage rowCount value) || nestedFollowingPage rowCount rest

end

/-- The normalized rows with what the raw page proves about the end of the history. -/
def activitySnapshot (items : List Item) (payload : Json) (effectiveLimit : Nat) (rowKeys : List Text)
    (completeWindow : Bool) (historyContiguous : Option Bool) : Page where
  rows := items.map .obj
  historyComplete := some <| completeWindow &&
    match rawActivityRows rowKeys payload with
    | none => false
    | some raw => decide (raw.length < effectiveLimit) && decide (items.length ≤ effectiveLimit) &&
        !hasFollowingPage raw.length payload
  historyContiguous := some (historyContiguous.getD completeWindow)

/-! ## The growing limit -/

inductive Answer where
  | page (page : Page)
  | other
  | raised

/-- The loader with the clock of each of its calls. -/
structure Source where
  loader : Nat → Nat → Answer
  expiredBefore : Nat → Bool
  expiredAfter : Nat → Bool
  /-- The current time with the accepted clock skew. -/
  maximumTimestamp : Int

def maximumRequest : Nat := 5000

def asItem : Json → Option Item
  | .obj fields => some fields
  | _ => none

def timestampOf (item : Item) : Int :=
  match item.get "timestamp" with
  | .int value => value
  | _ => 0

def validTimestamp (maximum : Int) (item : Item) : Bool :=
  match item.get "timestamp" with
  | .int value => decide (0 < value ∧ value ≤ maximum)
  | _ => false

def Newer (first second : Item) : Prop := timestampOf second ≤ timestampOf first

instance : DecidableRel Newer := fun first second => by unfold Newer; infer_instance

instance : Std.Total Newer := ⟨fun first second => le_total (timestampOf second) (timestampOf first)⟩

instance : IsTrans Item Newer := ⟨fun _ _ _ left right => le_trans right left⟩

def newestFirst (items : List Item) : List Item := items.insertionSort Newer

variable (spelling : Spelling)

def signature (items : List Item) : List Text := items.map (activityKey spelling)

/-- The checked rows of a page. -/
def readPage (maximum : Int) (requested : Nat) (page : Page) : Except Incomplete (List Item) :=
  if requested < page.rows.length then .error .malformed
  else match page.rows.mapM asItem with
    | none => .error .malformed
    | some items =>
      if !items.all (validTimestamp maximum) then .error .timestamps
      else if ¬(signature spelling items).Nodup then .error .identity
      else .ok items

/-- The page is the whole history, or reaches behind the cursor without a gap. -/
def covers (since : Int) (requested : Nat) (page : Page) (items : List Item) : Bool :=
  page.historyComplete.getD (decide (items.length < requested)) ||
    (page.historyContiguous.getD true && decide (0 < since) &&
      (items.map timestampOf).min?.any fun oldest => decide (oldest < since))

/-- At most `fuel` calls of the loader; nothing when it still goes on. -/
def expand (source : Source) (since : Int) :
    Nat → Nat → Nat → Option (List Text) → Option (Except Incomplete (List Item))
  | 0, _, _, _ => none
  | fuel + 1, call, requested, previous =>
    if source.expiredBefore call then some (.error .budget)
    else match source.loader call requested with
      | .raised => some (.error .loader)
      | .other => some (.error (if source.expiredAfter call then .budget else .malformed))
      | .page page =>
        if source.expiredAfter call then some (.error .budget)
        else match readPage spelling source.maximumTimestamp requested page with
          | .error refusal => some (.error refusal)
          | .ok items =>
            if covers since requested page items then some (.ok (newestFirst items))
            else if maximumRequest ≤ requested ∨ previous = some (signature spelling items) then
              some (.error .uncovered)
            else expand source since fuel (call + 1) (min (requested * 2) maximumRequest) (some (signature spelling items))

def firstRequest (pageSize : Int) : Nat := (max 1 (min pageSize maximumRequest)).toNat

/-- Thirteen doublings take the smallest request beyond the largest one. -/
def collectAdapterActivity (source : Source) (since pageSize : Int) : Option (Except Incomplete (List Item)) :=
  expand spelling source since 14 0 (firstRequest pageSize) none

/-! ## Termination -/

variable {spelling}

theorem expand_finishes (source : Source) (since : Int) {fuel call requested : Nat} {previous : Option (List Text)}
    (enough : maximumRequest ≤ requested * 2 ^ fuel) :
    (expand spelling source since (fuel + 1) call requested previous).isSome = true := by
  induction fuel generalizing call requested previous with
  | zero =>
    have last : maximumRequest ≤ requested := by simpa using enough
    rw [expand]
    repeat' split
    all_goals first | rfl | skip
    rename_i going
    exact absurd (Or.inl last) going
  | succ fuel ih =>
    have next : maximumRequest ≤ min (requested * 2) maximumRequest * 2 ^ fuel := by
      rcases le_total (requested * 2) maximumRequest with small | large
      · rw [min_eq_left small]
        rw [pow_succ] at enough
        calc maximumRequest ≤ requested * (2 ^ fuel * 2) := enough
          _ = requested * 2 * 2 ^ fuel := by ring
      · rw [min_eq_right large]
        exact Nat.le_mul_of_pos_right _ (by positivity)
    rw [expand]
    repeat' split
    all_goals first | rfl | exact ih next

theorem firstRequest_bounds (pageSize : Int) : 1 ≤ firstRequest pageSize ∧ firstRequest pageSize ≤ maximumRequest := by
  unfold firstRequest maximumRequest
  omega

theorem collectAdapterActivity_finishes (source : Source) (since pageSize : Int) :
    ∃ outcome, collectAdapterActivity spelling source since pageSize = some outcome := by
  refine Option.isSome_iff_exists.mp (expand_finishes source since ?_)
  have first := (firstRequest_bounds pageSize).1
  calc maximumRequest ≤ 1 * 2 ^ 13 := by decide
    _ ≤ firstRequest pageSize * 2 ^ 13 := Nat.mul_le_mul_right _ first

/-! ## Completeness -/

/-- Only a page that covers the history back to the cursor is returned. -/
theorem expand_ok {source : Source} {since : Int} {fuel call requested : Nat} {previous : Option (List Text)}
    {items : List Item} (returned : expand spelling source since fuel call requested previous = some (.ok items)) :
    ∃ call limit page rows, source.loader call limit = .page page ∧
      readPage spelling source.maximumTimestamp limit page = .ok rows ∧
      covers since limit page rows = true ∧ items = newestFirst rows := by
  induction fuel generalizing call requested previous with
  | zero => cases returned
  | succ fuel ih =>
    rw [expand] at returned
    split at returned
    · cases returned
    · cases answer : source.loader call requested with
      | raised =>
        rw [answer] at returned
        cases returned
      | other =>
        rw [answer] at returned
        cases returned
      | page page =>
        rw [answer] at returned
        dsimp only at returned
        split at returned
        · cases returned
        · cases read : readPage spelling source.maximumTimestamp requested page with
          | error refusal =>
            rw [read] at returned
            cases returned
          | ok rows =>
            rw [read] at returned
            dsimp only at returned
            split at returned
            · rename_i covered
              cases returned
              exact ⟨call, requested, page, rows, answer, read, covered, rfl⟩
            · split at returned
              · cases returned
              · exact ih returned

/-- Rows are refused for what one page shows, which was asked for with a positive limit. -/
theorem expand_error {source : Source} {since : Int} {fuel call requested : Nat} {previous : Option (List Text)}
    {refusal : Incomplete} (positive : 1 ≤ requested)
    (returned : expand spelling source since fuel call requested previous = some (.error refusal))
    (ofRows : refusal = .malformed ∨ refusal = .timestamps ∨ refusal = .identity) :
    ∃ call limit, 1 ≤ limit ∧ (source.loader call limit = .other ∨
      ∃ page, source.loader call limit = .page page ∧
        readPage spelling source.maximumTimestamp limit page = .error refusal) := by
  have other : refusal ≠ .budget ∧ refusal ≠ .loader ∧ refusal ≠ .uncovered := by
    rcases ofRows with rfl | rfl | rfl <;> decide
  induction fuel generalizing call requested previous with
  | zero => cases returned
  | succ fuel ih =>
    rw [expand] at returned
    split at returned
    · cases returned
      exact absurd rfl other.1
    · cases answer : source.loader call requested with
      | raised =>
        rw [answer] at returned
        cases returned
        exact absurd rfl other.2.1
      | other => exact ⟨call, requested, positive, Or.inl answer⟩
      | page page =>
        rw [answer] at returned
        dsimp only at returned
        split at returned
        · cases returned
          exact absurd rfl other.1
        · cases read : readPage spelling source.maximumTimestamp requested page with
          | error cause =>
            rw [read] at returned
            cases returned
            exact ⟨call, requested, positive, Or.inr ⟨page, answer, read⟩⟩
          | ok rows =>
            rw [read] at returned
            dsimp only at returned
            split at returned
            · cases returned
            · split at returned
              · cases returned
                exact absurd rfl other.2.2
              · exact ih (le_min (by omega) (by decide)) returned

theorem readPage_ok {maximum : Int} {requested : Nat} {page : Page} {rows : List Item}
    (read : readPage spelling maximum requested page = .ok rows) :
    page.rows.mapM asItem = some rows ∧ rows.Nodup := by
  unfold readPage at read
  split at read
  · cases read
  · cases mapped : page.rows.mapM asItem with
    | none =>
      rw [mapped] at read
      cases read
    | some items =>
      rw [mapped] at read
      dsimp only at read
      split_ifs at read with _ distinct
      cases read
      exact ⟨rfl, distinct.of_map⟩

theorem mapM_asItem (items : List Item) : (items.map Json.obj).mapM asItem = some items := by
  induction items with
  | nil => rfl
  | cons item items ih =>
    rw [List.map_cons, List.mapM_cons, ih]
    rfl

/-- A fixed history of raw rows, newest first, and what the adapter makes of a row. -/
structure Upstream where
  history : List Json
  normalise : Json → Option Item

def Upstream.fills (upstream : Upstream) : List Item := upstream.history.filterMap upstream.normalise

/-- A snapshot of the newest raw rows. A page that ends before its limit is the end of the
history, or its envelope announces a following page, or the adapter knows a filter. -/
def Upstream.Answers (upstream : Upstream) (limit : Nat) (page : Page) : Prop :=
  ∃ (count effectiveLimit : Nat) (payload : Json) (rowKeys : List Text) (completeWindow : Bool)
    (historyContiguous : Option Bool),
    count ≤ effectiveLimit ∧ effectiveLimit ≤ limit ∧
    (∀ raw, rawActivityRows rowKeys payload = some raw → raw = upstream.history.take count) ∧
    (count < effectiveLimit → upstream.history.length ≤ count ∨ hasFollowingPage count payload = true ∨
      completeWindow = false) ∧
    page = activitySnapshot ((upstream.history.take count).filterMap upstream.normalise) payload effectiveLimit
      rowKeys completeWindow historyContiguous

theorem newestFirst_perm (items : List Item) : (newestFirst items).Perm items := List.perm_insertionSort Newer items

/-- A full raw page, or one with a following page, is not the whole history. -/
theorem activitySnapshot_incomplete {payload : Json} {effectiveLimit : Nat} {rowKeys : List Text}
    (more : ∀ raw, rawActivityRows rowKeys payload = some raw →
      effectiveLimit ≤ raw.length ∨ hasFollowingPage raw.length payload = true)
    (items : List Item) (completeWindow : Bool) (historyContiguous : Option Bool) :
    (activitySnapshot items payload effectiveLimit rowKeys completeWindow historyContiguous).historyComplete =
      some false := by
  unfold activitySnapshot
  dsimp only
  cases found : rawActivityRows rowKeys payload with
  | none => simp
  | some raw =>
    rcases more raw found with full | following
    · simp [Nat.not_lt.mpr full]
    · simp [following]

/-- A page that is not the whole history covers the cursor only from behind it. -/
theorem not_covers {since : Int} {page : Page} {items : List Item} (incomplete : page.historyComplete = some false)
    (recent : ∀ item ∈ items, since ≤ timestampOf item) (requested : Nat) :
    covers since requested page items = false := by
  unfold covers
  cases least : (items.map timestampOf).min? with
  | none => simp [incomplete]
  | some oldest =>
    obtain ⟨item, member, same⟩ := List.mem_map.mp (List.min?_mem least)
    have late : ¬oldest < since := same ▸ not_lt.mpr (recent item member)
    simp [incomplete, late]

/-- What is older than every row of a page that is not the whole history, is older than the cursor that it covers. -/
theorem older_of_covers {since : Int} {requested : Nat} {page : Page} {rows : List Item}
    (covered : covers since requested page rows = true) (incomplete : page.historyComplete = some false) {item : Item}
    (older : ∀ other ∈ rows, Newer other item) : timestampOf item < since := by
  by_contra recent
  have late : ∀ other ∈ rows, since ≤ timestampOf other := fun other member =>
    (not_lt.mp recent).trans (older other member)
  rw [not_covers incomplete late requested] at covered
  cases covered

/-- The rows of a page that covers the cursor contain every fill from the cursor on. -/
theorem mem_of_covers {upstream : Upstream} (ordered : upstream.fills.Pairwise Newer) {limit : Nat} {page : Page}
    (answers : upstream.Answers limit page) {rows : List Item} (read : page.rows.mapM asItem = some rows)
    {since : Int} (covered : covers since limit page rows = true) :
    (∀ item ∈ rows, item ∈ upstream.fills) ∧
      ∀ item ∈ upstream.fills, since ≤ timestampOf item → item ∈ rows := by
  obtain ⟨count, effectiveLimit, payload, rowKeys, window, contiguous, inside, _, raw, honest, rfl⟩ := answers
  have same : rows = (upstream.history.take count).filterMap upstream.normalise :=
    Option.some.inj (read.symm.trans (mapM_asItem _))
  subst same
  have cut : upstream.fills = (upstream.history.take count).filterMap upstream.normalise ++
      (upstream.history.drop count).filterMap upstream.normalise := by
    rw [← List.filterMap_append, List.take_append_drop]
    rfl
  refine ⟨fun item member => cut ▸ List.mem_append_left _ member, fun item member recent => ?_⟩
  rw [cut] at member ordered
  rcases List.mem_append.mp member with shown | hidden
  · exact shown
  exfalso
  have unread : count < upstream.history.length := by
    by_contra whole
    rw [List.drop_eq_nil_iff.mpr (not_lt.mp whole)] at hidden
    cases hidden
  by_cases complete : (activitySnapshot ((upstream.history.take count).filterMap upstream.normalise) payload
      effectiveLimit rowKeys window contiguous).historyComplete = some false
  · -- Not the whole history: the hidden fill is older than every row shown.
    exact absurd recent (not_le.mpr (older_of_covers covered complete fun other shown =>
      (List.pairwise_append.mp ordered).2.2 other shown item hidden))
  · -- The whole history: then nothing is hidden.
    refine complete (activitySnapshot_incomplete (fun found shape => ?_) _ window contiguous)
    rw [raw found shape, List.length_take, min_eq_left unread.le]
    rcases inside.eq_or_lt with full | short
    · exact Or.inl full.ge
    · rcases honest short with whole | following | filtered
      · exact absurd unread (not_lt.mpr whole)
      · exact Or.inr following
      · refine absurd ?_ complete
        simp [activitySnapshot, filtered]

/-- Every collection ends. A returned one is newest first and has every fill from the cursor
on exactly once; no page that hides some of them counts as complete. -/
theorem adapter_activity_complete (spelling : Spelling) (upstream : Upstream)
    (ordered : upstream.fills.Pairwise Newer) (source : Source)
    (answers : ∀ call limit page, source.loader call limit = .page page → upstream.Answers limit page)
    (since pageSize : Int) :
    (∀ any : Source, ∃ outcome, collectAdapterActivity spelling any since pageSize = some outcome) ∧
    (∀ items, collectAdapterActivity spelling source since pageSize = some (.ok items) →
      items.Pairwise Newer ∧ (∀ item ∈ items, item ∈ upstream.fills) ∧
        ∀ item ∈ upstream.fills, since ≤ timestampOf item → items.count item = 1) ∧
    (∀ (items : List Item) (payload : Json) (effectiveLimit : Nat) (rowKeys : List Text) (window : Bool)
      (contiguous : Option Bool) (requested : Nat),
      (∀ raw, rawActivityRows rowKeys payload = some raw →
        effectiveLimit ≤ raw.length ∨ hasFollowingPage raw.length payload = true) →
      (∀ item ∈ items, since ≤ timestampOf item) →
      covers since requested (activitySnapshot items payload effectiveLimit rowKeys window contiguous) items =
        false) := by
  refine ⟨fun any => collectAdapterActivity_finishes any since pageSize, fun items returned => ?_,
    fun items payload effectiveLimit rowKeys window contiguous requested more recent =>
      not_covers (activitySnapshot_incomplete more items window contiguous) recent requested⟩
  obtain ⟨call, limit, page, rows, answer, read, covered, rfl⟩ := expand_ok returned
  obtain ⟨mapped, distinct⟩ := readPage_ok read
  obtain ⟨sound, complete⟩ := mem_of_covers ordered (answers call limit page answer) mapped covered
  have perm := newestFirst_perm rows
  refine ⟨List.pairwise_insertionSort Newer rows, fun item member => sound item (perm.mem_iff.mp member),
    fun item member recent => ?_⟩
  rw [perm.count_eq]
  exact List.count_eq_one_of_mem distinct (complete item member recent)

def listed (id : String) (timestamp : Int) : Item :=
  [(text "activityId", .str (text id)), (text "timestamp", .int timestamp)]

/-- Three rows, of which the second is no fill; two fills share the second of the cursor. -/
def threeRows : Upstream where
  history := [.obj (listed "b" 7), .null, .obj (listed "a" 7)]
  normalise := asItem

def threeRowSource : Source where
  loader _ limit := .page (activitySnapshot ((threeRows.history.take limit).filterMap asItem)
    (.arr (threeRows.history.take limit)) limit [] true none)
  expiredBefore _ := false
  expiredAfter _ := false
  maximumTimestamp := 1000

theorem adapter_activity_complete_three : ∃ items,
    collectAdapterActivity plainSpelling threeRowSource 7 2 = some (.ok items) ∧
      items.count (listed "b" 7) = 1 ∧ items.count (listed "a" 7) = 1 := by
  have answers : ∀ call limit page, threeRowSource.loader call limit = .page page →
      threeRows.Answers limit page := by
    rintro call limit page ⟨⟩
    refine ⟨limit, limit, .arr (threeRows.history.take limit), [], true, none, le_refl _, le_refl _,
      fun raw found => ?_, fun short => absurd short (lt_irrefl _), rfl⟩
    simpa [rawActivityRows] using found.symm
  have ordered : threeRows.fills.Pairwise Newer := by decide
  have complete := (adapter_activity_complete plainSpelling threeRows ordered threeRowSource answers 7 2).2.1
  have returned : collectAdapterActivity plainSpelling threeRowSource 7 2 =
      some (.ok [listed "b" 7, listed "a" 7]) := by decide
  obtain ⟨_, _, once⟩ := complete _ returned
  exact ⟨_, returned, once _ (by decide) (by decide), once _ (by decide) (by decide)⟩

end MarketSentinel.Wallet.Feed
