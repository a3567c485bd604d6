import MarketSentinel.Listing.Azuro
import MarketSentinel.Listing.Context
import MarketSentinel.Listing.Hyperliquid
import MarketSentinel.Listing.Myriad
import MarketSentinel.Listing.PredictFun
import MarketSentinel.Listing.Probable

/-! What the poller makes of the listed activity.

The poller takes whole seconds and one key for each row. An adapter that lists a
fill with a fractional time, or two fills under one name, stops it.
-/

set_option autoImplicit false

namespace MarketSentinel.Listing

open Python Wallet

/-! ## Rows that the poller takes -/

structure RowsConsumable (spelling : Spelling) (page : Feed.Page) : Prop where
  timestamps : ∀ row ∈ page.rows, ∃ item : Item, row = .obj item ∧ ∃ t : Int, item.get "timestamp" = .int t ∧ 0 < t
  identities : ((page.rows.filterMap Feed.asItem).map (activityKey spelling)).Nodup

section Rows

variable {spelling : Spelling} {page : Feed.Page} {Fill : Type} {fills : List Fill} {activity : Fill → Item}
  (shape : page.rows = fills.map fun fill => .obj (activity fill))

include shape

theorem items_of_shape : page.rows.filterMap Feed.asItem = fills.map activity := by
  rw [shape, List.filterMap_map]
  exact congrFun (List.filterMap_eq_map (f := activity)) fills

/-- Times with a fraction are refused, whatever they are. -/
theorem rowsConsumable_iff_none (fractional : ∀ fill, ∃ t, (activity fill).get "timestamp" = .float t) :
    RowsConsumable spelling page ↔ fills = [] := by
  constructor
  · intro consumable
    refine List.eq_nil_iff_forall_not_mem.mpr fun fill member => ?_
    have row : Json.obj (activity fill) ∈ page.rows := by
      rw [shape]
      exact List.mem_map_of_mem member
    obtain ⟨item, same, t, whole, _⟩ := consumable.timestamps _ row
    cases same
    obtain ⟨other, float⟩ := fractional fill
    rw [whole] at float
    cases float
  · rintro rfl
    rw [List.map_nil] at shape
    exact ⟨by simp [shape], by simp [shape]⟩

/-- Where the time is whole and one name tells the rows apart, these decide. -/
theorem rowsConsumable_iff_names {time : Fill → Int} {name : Fill → Text} {mark : Text}
    (whole : ∀ fill, (activity fill).get "timestamp" = .int (time fill))
    (key : ∀ fill, activityKey spelling (activity fill) = mark ++ name fill) :
    RowsConsumable spelling page ↔ (∀ fill ∈ fills, 0 < time fill) ∧ (fills.map name).Nodup := by
  have keys : (page.rows.filterMap Feed.asItem).map (activityKey spelling) = (fills.map name).map (mark ++ ·) := by
    rw [items_of_shape shape, List.map_map, List.map_map]
    exact List.map_congr_left fun fill _ => key fill
  have names := List.nodup_map_iff (l := fills.map name) (List.append_right_injective mark)
  constructor
  · intro consumable
    refine ⟨fun fill member => ?_, names.mp (keys ▸ consumable.identities)⟩
    have row : Json.obj (activity fill) ∈ page.rows := by
      rw [shape]
      exact List.mem_map_of_mem member
    obtain ⟨item, same, t, read, positive⟩ := consumable.timestamps _ row
    cases same
    rw [whole] at read
    cases read
    exact positive
  · rintro ⟨positive, distinct⟩
    refine ⟨fun row member => ?_, keys ▸ names.mpr distinct⟩
    rw [shape] at member
    obtain ⟨fill, inside, rfl⟩ := List.mem_map.mp member
    exact ⟨activity fill, rfl, time fill, whole fill, positive fill inside⟩

end Rows

/-! ## What a page shows of the history -/

/-- The newest fills, and all of them where the page claims the whole history. -/
def Shows (fills : List Item) (page : Feed.Page) : Prop :=
  ∃ shown hidden, fills = shown ++ hidden ∧ page.rows = shown.map .obj ∧
    (page.historyComplete = some false ∨ hidden = [])

/-- An answer shows the newest rows, at most as many as asked for. It is shorter only where
the history ends or its envelope announces another page. -/
def Serves (history shown : List Json) (raw : Option (List Json)) (following : Nat → Bool) (limit : Nat) : Prop :=
  ∃ count, count ≤ limit ∧ shown = history.take count ∧ (∀ rows, raw = some rows → rows = history.take count) ∧
    (count < limit → history.length ≤ count ∨ following count = true)

/-- Raw rows that count as the end of the history are the whole history. -/
theorem Serves.whole {history shown rows : List Json} {following : Nat → Bool} {limit : Nat}
    (serves : Serves history shown (some rows) following limit) (short : rows.length < limit)
    (last : following rows.length = false) : shown = history := by
  obtain ⟨count, _, rfl, raw, honest⟩ := serves
  obtain rfl := raw rows rfl
  by_contra cut
  have more : count < history.length := by
    by_contra all
    exact cut (List.take_of_length_le (not_lt.mp all))
  rw [List.length_take, min_eq_left more.le] at short last
  rcases honest short with ended | announced
  · exact absurd more (not_lt.mpr ended)
  · rw [last] at announced
    cases announced

section Snapshots

variable {Fill : Type} {fillOf : Json → Reading Fill} {activity : Fill → Item} {history shown : List Json}
  {payload : Json} {keys : List Text} {desired : Nat} {fills : List Fill}

/-- A snapshot of the first fills shows the history as its answer does. -/
theorem shows_of_snapshot
    (serves : Serves history shown (Feed.rawActivityRows keys payload) (Feed.hasFollowingPage · payload) desired)
    (first : fills = (shown.filterMap (fill? fillOf)).take desired)
    (window : Bool) (contiguous : Option Bool) :
    Shows ((history.filterMap (fill? fillOf)).map activity)
      (Feed.activitySnapshot (fills.map activity) payload desired keys window contiguous) := by
  have cut : fills ++ (shown.filterMap (fill? fillOf)).drop desired = shown.filterMap (fill? fillOf) :=
    first ▸ List.take_append_drop desired _
  generalize (shown.filterMap (fill? fillOf)).drop desired = rest at cut
  have part : ∃ count, shown = history.take count := by
    obtain ⟨count, _, same, _⟩ := serves
    exact ⟨count, same⟩
  obtain ⟨count, prefix_⟩ := part
  have split : history.filterMap (fill? fillOf) =
      fills ++ (rest ++ (history.drop count).filterMap (fill? fillOf)) := by
    rw [← List.append_assoc, cut, prefix_, ← List.filterMap_append, List.take_append_drop]
  refine ⟨fills.map activity, (rest ++ (history.drop count).filterMap (fill? fillOf)).map activity,
    by rw [split, List.map_append], rfl, ?_⟩
  by_cases open_ : (Feed.activitySnapshot (fills.map activity) payload desired keys window contiguous).historyComplete =
      some false
  · exact Or.inl open_
  · -- The whole history: every row is shown, and there are too few of them to clip.
    right
    unfold Feed.activitySnapshot at open_
    dsimp only at open_
    cases found : Feed.rawActivityRows keys payload with
    | none =>
      rw [found] at open_
      simp at open_
    | some raw =>
      rw [found] at open_ serves
      simp only [Option.some.injEq, Bool.and_eq_false_iff, decide_eq_false_iff_not, Bool.not_eq_false', not_or,
        not_not, List.length_map] at open_
      obtain ⟨_, ⟨short, _⟩, last⟩ := open_
      have everything := serves.whole short (by simpa using last)
      have rows : raw = history := by
        obtain ⟨other, _, same, rows, _⟩ := serves
        exact (rows raw rfl).trans (same.symm.trans everything)
      have few : (shown.filterMap (fill? fillOf)).length ≤ desired :=
        calc (shown.filterMap (fill? fillOf)).length ≤ shown.length := List.length_filterMap_le _ _
          _ = raw.length := by rw [everything, rows]
          _ ≤ desired := short.le
      have complete : fills = shown.filterMap (fill? fillOf) := first.trans (List.take_of_length_le few)
      rw [everything, split] at complete
      rw [List.map_eq_nil_iff]
      exact List.self_eq_append_right.mp complete

variable {rowNames : List String} {page : Feed.Page}
  (read : gatherPage fillOf activity shown payload desired rowNames = .ok page)

include read

/-- A gathered page with fractional times is consumable exactly when it has no row. -/
theorem gatherPage_consumable_iff {spelling : Spelling}
    (fractional : ∀ fill, ∃ t, (activity fill).get "timestamp" = .float t) :
    RowsConsumable spelling page ↔ ∀ row ∈ shown, fill? fillOf row = none := by
  obtain ⟨fills, gathered, same⟩ := Result.bind_eq_ok.mp read
  obtain rfl := Except.ok.inj same
  have shape : (fills.map activity).map Json.obj = fills.map fun fill => .obj (activity fill) := List.map_map
  rw [rowsConsumable_iff_none shape fractional, gather_eq_ok gathered, List.take_eq_nil_iff, or_iff_right (by omega),
    List.filterMap_eq_nil_iff]

theorem gatherPage_shows (positive : 1 ≤ desired)
    (serves : Serves history shown (Feed.rawActivityRows (rowNames.map text) payload)
      (Feed.hasFollowingPage · payload) desired) :
    Shows ((history.filterMap (fill? fillOf)).map activity) page ∧ page.rows.length ≤ desired := by
  obtain ⟨fills, gathered, same⟩ := Result.bind_eq_ok.mp read
  have first := gather_eq_ok gathered
  rw [max_eq_left positive] at first
  obtain rfl := Except.ok.inj same
  refine ⟨shows_of_snapshot serves first true none, ?_⟩
  rw [Feed.activitySnapshot, List.length_map, List.length_map, first]
  exact List.length_take_le _ _

end Snapshots

/-! ## The poller on a listing -/

def answerOf : Except Fault Feed.Page → Feed.Answer
  | .ok page => .page page
  | .error _ => .raised

/-- The poller takes every row of a listing, of which only the limit changes, and what it
returns has every fill from the cursor on exactly once. -/
structure Consumable (spelling : Spelling) (listing : Nat → Except Fault Feed.Page) (fills : List Item) : Prop where
  rows : ∀ limit page, listing limit = .ok page → RowsConsumable spelling page
  accepted : ∀ source : Feed.Source, (∀ call limit, source.loader call limit = answerOf (listing limit)) →
    ∀ (since pageSize : Int) (refusal : Feed.Incomplete),
      Feed.collectAdapterActivity spelling source since pageSize = some (.error refusal) →
      refusal ≠ .malformed ∧ refusal ≠ .identity ∧
        (refusal = .timestamps → ∃ fill ∈ fills, source.maximumTimestamp < Feed.timestampOf fill)
  complete : ∀ source : Feed.Source, (∀ call limit, source.loader call limit = answerOf (listing limit)) →
    ∀ (since pageSize : Int) (items : List Item),
      Feed.collectAdapterActivity spelling source since pageSize = some (.ok items) →
      (∀ item ∈ items, item ∈ fills) ∧ ∀ fill ∈ fills, since ≤ Feed.timestampOf fill → items.count fill = 1

section Polling

variable {spelling : Spelling} {listing : Nat → Except Fault Feed.Page} {fills : List Item}

/-- A page of consumable rows is read, unless a row lies in the future. -/
theorem readPage_of_rows {page : Feed.Page} {limit : Nat} {maximum : Int} (rows : RowsConsumable spelling page)
    (bounded : page.rows.length ≤ limit) {shown : List Item} (shape : page.rows = shown.map .obj)
    {refusal : Feed.Incomplete} (refused : Feed.readPage spelling maximum limit page = .error refusal) :
    refusal = .timestamps ∧ ∃ item ∈ shown, maximum < Feed.timestampOf item := by
  have keys := rows.identities
  rw [items_of_shape shape, List.map_id'] at keys
  unfold Feed.readPage at refused
  rw [if_neg (not_lt.mpr bounded), shape, Feed.mapM_asItem] at refused
  dsimp only at refused
  by_cases valid : shown.all (Feed.validTimestamp maximum) = true
  · rw [valid, Feed.signature, if_neg (by decide), if_neg (not_not.mpr keys)] at refused
    cases refused
  · rw [if_pos (by simpa using valid)] at refused
    cases refused
    refine ⟨rfl, ?_⟩
    obtain ⟨item, member, invalid⟩ := not_forall₂.mp (mt List.all_eq_true.mpr valid)
    refine ⟨item, member, ?_⟩
    have row : Json.obj item ∈ page.rows := shape ▸ List.mem_map_of_mem member
    obtain ⟨_, same, t, whole, positive⟩ := rows.timestamps _ row
    cases same
    unfold Feed.timestampOf
    rw [whole]
    simp only [Feed.validTimestamp, whole, decide_eq_true_eq, not_and, not_le] at invalid
    exact invalid positive

theorem consumable_of_rows (ordered : fills.Pairwise Feed.Newer)
    (bounded : ∀ limit page, 1 ≤ limit → listing limit = .ok page → page.rows.length ≤ limit)
    (shows : ∀ limit page, listing limit = .ok page → Shows fills page)
    (rows : ∀ limit page, listing limit = .ok page → RowsConsumable spelling page) :
    Consumable spelling listing fills where
  rows := rows
  accepted := by
    intro source loads since pageSize refusal returned
    have ofPage : (refusal = .malformed ∨ refusal = .timestamps ∨ refusal = .identity) →
        refusal = .timestamps ∧ ∃ fill ∈ fills, source.maximumTimestamp < Feed.timestampOf fill := by
      intro ofRows
      obtain ⟨call, limit, positive, answer⟩ :=
        Feed.expand_error (Feed.firstRequest_bounds pageSize).1 returned ofRows
      rw [loads] at answer
      cases listed : listing limit with
      | error fault =>
        rw [listed] at answer
        rcases answer with other | ⟨page, same, _⟩
        · cases other
        · cases same
      | ok page =>
        rw [listed] at answer
        rcases answer with other | ⟨_, same, refused⟩
        · cases other
        · cases same
          obtain ⟨shown, hidden, split, shape, _⟩ := shows limit page listed
          obtain ⟨cause, item, member, late⟩ := readPage_of_rows (rows limit page listed)
            (bounded limit page positive listed) shape refused
          exact ⟨cause, item, split ▸ List.mem_append_left _ member, late⟩
    refine ⟨?_, ?_, fun late => (ofPage (Or.inr (Or.inl late))).2⟩
    · rintro rfl
      cases (ofPage (Or.inl rfl)).1
    · rintro rfl
      cases (ofPage (Or.inr (Or.inr rfl))).1
  complete := by
    intro source loads since pageSize items returned
    obtain ⟨call, limit, page, listedRows, answer, read, covered, rfl⟩ := Feed.expand_ok returned
    rw [loads] at answer
    cases listed : listing limit with
    | error fault =>
      rw [listed] at answer
      cases answer
    | ok other =>
      rw [listed] at answer
      cases answer
      obtain ⟨shown, hidden, rfl, shape, whole⟩ := shows limit page listed
      obtain ⟨mapped, distinct⟩ := Feed.readPage_ok read
      rw [shape, Feed.mapM_asItem] at mapped
      obtain rfl : listedRows = shown := (Option.some.inj mapped).symm
      have perm := Feed.newestFirst_perm listedRows
      refine ⟨fun item member => List.mem_append_left _ (perm.mem_iff.mp member), fun fill member recent => ?_⟩
      rw [perm.count_eq]
      refine List.count_eq_one_of_mem distinct ((List.mem_append.mp member).resolve_right fun unseen => ?_)
      rcases whole with incomplete | none
      · exact absurd recent (not_le.mpr (Feed.older_of_covers covered incomplete fun item inside =>
          (List.pairwise_append.mp ordered).2.2 item inside fill unseen))
      · rw [none] at unseen
        cases unseen

end Polling

end MarketSentinel.Listing
