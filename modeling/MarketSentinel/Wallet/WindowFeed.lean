import MarketSentinel.Wallet.AdapterFeed

/-! Reading a time window that is split at the provider's offset ceiling.

A window is read page by page. A window with too many fills is discarded and its two
halves are read instead, down to one second; the records of completed windows are merged.
-/

set_option autoImplicit false

namespace MarketSentinel.Wallet.Windowed

open Python Feed

/-- `ActivityHistoryIncompleteError` by its cause, or the failure of the loader itself. -/
inductive Refusal where
  | clock
  | budget
  | contract
  | malformed
  | timestamp
  | order
  | duplicate
  | repeatedFill
  | escaped
  | repeatedPage
  | capacity
  | second
  | loader
  deriving DecidableEq

def Refusal.message : Refusal → Text
  | .clock => text "Wallet cursor is ahead of the current clock; cursor unchanged."
  | .budget => text "Wallet history read exceeded its bounded budget; cursor unchanged."
  | .contract => text "Wallet activity response violated its page contract; cursor unchanged."
  | .malformed => text "Wallet activity page contains a malformed record; cursor unchanged."
  | .timestamp => text "Wallet activity timestamp is invalid; cursor unchanged."
  | .order => text "Wallet activity page is not in documented timestamp order; cursor unchanged."
  | .duplicate => text "Wallet fills have an ambiguous duplicate identity; cursor unchanged."
  | .repeatedFill => text "Wallet activity endpoint repeated a fill across pages; cursor unchanged."
  | .escaped => text "Wallet activity escaped the fixed history window; cursor unchanged."
  | .repeatedPage => text "Wallet activity endpoint repeated a page; cursor unchanged."
  | .capacity => text "Wallet activity backlog exceeds capacity; cursor unchanged."
  | .second => text "Too many wallet fills share one second for safe pagination; cursor unchanged."
  | .loader => []

/-- The timestamp of a record, which a truth value is not. -/
def intOf : Json → Option Int
  | .int value => some value
  | .float (.finite value) => some (value.num.tdiv value.den)
  | .str t => intOfText t
  | _ => none

def recordTimestamp (item : Item) : Option Int := intOf (item.get "timestamp")

/-- `int(item["timestamp"])` of an accepted record. -/
def secondOf (item : Item) : Int := (recordTimestamp item).getD 0

structure Query where
  start : Int
  stop : Int
  offset : Nat
  limit : Nat

inductive Reply where
  | rows (rows : List Json)
  | other
  | raised

/-- The loader and the clock at each request. -/
structure Source where
  loader : Nat → Query → Reply
  expired : Nat → Bool

structure Bounds where
  pageSize : Nat
  maximumItems : Int
  maximumRequests : Int
  offsetCeiling : Int

/-- A window that is being read. -/
structure Window where
  start : Int
  stop : Int
  offset : Nat := 0
  accepted : Dict Text Item := []
  previousPage : Option (List Text) := none
  precedingTimestamp : Option Int := none

/-- What the rows of one page have shown so far. -/
structure PageState where
  keys : List Text := []
  reachedCursor : Bool := false
  previousTs : Option Int := none
  accepted : Dict Text Item

structure Completed where
  start : Int
  stop : Int
  records : Dict Text Item

/-- The merged records. `completed` keeps what each completed window accepted; no branch
reads it. -/
structure Collection where
  results : Dict Text Item := []
  completed : List Completed := []

structure State where
  window : Window
  /-- The windows still to be read, the next one first. -/
  windows : List (Int × Int)
  collection : Collection := {}

inductive Progress where
  | going (state : State)
  | done (collection : Collection)

variable (spelling : Spelling)

def readRow (window : Window) (state : PageState) (row : Json) : Except Refusal PageState :=
  match asItem row with
  | none => .error .malformed
  | some item =>
    match recordTimestamp item with
    | none => .error .timestamp
    | some timestamp =>
      if timestamp < 0 ∨ (∃ previous ∈ state.previousTs, previous < timestamp) ∨
          (state.previousTs = none ∧ ∃ preceding ∈ window.precedingTimestamp, preceding < timestamp) then
        .error .order
      else
        let key := activityKey spelling item
        if key ∈ state.keys then .error .duplicate
        else
          let state := { state with keys := state.keys ++ [key], previousTs := some timestamp }
          if timestamp < window.start then .ok { state with reachedCursor := true }
          else if timestamp ≤ window.stop then
            if key ∈ state.accepted.map Prod.fst then .error .repeatedFill
            else .ok { state with accepted := state.accepted.set key item }
          else .error .escaped

def readRows (window : Window) (rows : List Json) : Except Refusal PageState :=
  rows.foldlM (readRow spelling window) { accepted := window.accepted }

def Collection.complete (collection : Collection) (window : Completed) : Collection where
  results := collection.results.update window.records
  completed := collection.completed ++ [window]

/-- One page of the current window. -/
def advance (bounds : Bounds) (state : State) (rows : List Json) : Except Refusal Progress :=
  let window := state.window
  if bounds.pageSize < rows.length then .error .contract
  else match readRows spelling window rows with
    | .error refusal => .error refusal
    | .ok page =>
      if rows ≠ [] ∧ window.previousPage = some page.keys then .error .repeatedPage
      else if bounds.maximumItems < (page.accepted.length + state.collection.results.length : Nat) then
        .error .capacity
      else if rows.length < bounds.pageSize ∨ page.reachedCursor then
        let collection := state.collection.complete ⟨window.start, window.stop, page.accepted⟩
        match state.windows with
        | [] => .ok (.done collection)
        | (start, stop) :: windows => .ok (.going ⟨{ start, stop }, windows, collection⟩)
      else if bounds.offsetCeiling < (window.offset + bounds.pageSize : Nat) then
        if window.start = window.stop then .error .second
        else
          let middle := window.start + (window.stop - window.start) / 2
          .ok (.going ⟨{ start := window.start, stop := middle }, (middle + 1, window.stop) :: state.windows,
            state.collection⟩)
      else .ok (.going { state with window := { window with
        offset := window.offset + bounds.pageSize
        accepted := page.accepted
        previousPage := some page.keys
        precedingTimestamp := page.previousTs.orElse fun _ => window.precedingTimestamp } })

def State.query (bounds : Bounds) (state : State) : Query :=
  ⟨state.window.start, state.window.stop, state.window.offset, bounds.pageSize⟩

/-- At most `fuel` requests; nothing when the loop still goes on. -/
def run (bounds : Bounds) (source : Source) : Nat → Nat → State → Option (Except Refusal Collection)
  | 0, _, _ => none
  | fuel + 1, request, state =>
    if source.expired request ∨ bounds.maximumRequests ≤ request then some (.error .budget)
    else match source.loader request (state.query bounds) with
      | .raised => some (.error .loader)
      | .other => some (.error .contract)
      | .rows rows =>
        match advance spelling bounds state rows with
        | .error refusal => some (.error refusal)
        | .ok (.done collection) => some (.ok collection)
        | .ok (.going next) => run bounds source fuel (request + 1) next

/-- The arguments of the collection; `stop` is the given end or the current second. -/
structure Arguments where
  since : Int
  stop : Int
  pageSize : Int
  maximumItems : Int
  maximumRequests : Int
  offsetCeiling : Int

def Arguments.lower (arguments : Arguments) : Int := max 1 arguments.since

def Arguments.bounds (arguments : Arguments) : Bounds where
  pageSize := (max 1 (min arguments.pageSize 500)).toNat
  maximumItems := arguments.maximumItems
  maximumRequests := arguments.maximumRequests
  offsetCeiling := arguments.offsetCeiling

def collectWindows (source : Source) (arguments : Arguments) : Option (Except Refusal Collection) :=
  if arguments.stop < arguments.lower then some (.error .clock)
  else run spelling arguments.bounds source (arguments.maximumRequests.toNat + 1) 0
    ⟨{ start := arguments.lower, stop := arguments.stop }, [], {}⟩

def Later (first second : Item) : Prop := secondOf second ≤ secondOf first

instance : DecidableRel Later := fun first second => by unfold Later; infer_instance

instance : Std.Total Later := ⟨fun first second => le_total (secondOf second) (secondOf first)⟩

instance : IsTrans Item Later := ⟨fun _ _ _ left right => le_trans right left⟩

def Collection.sorted (collection : Collection) : List Item := (collection.results.map Prod.snd).insertionSort Later

def collectPolymarketActivity (source : Source) (arguments : Arguments) : Option (Except Refusal (List Item)) :=
  (collectWindows spelling source arguments).map (Except.map Collection.sorted)

/-! ## The loop -/

variable {spelling} {bounds : Bounds} {source : Source}

/-- Every request is counted, so the request budget ends the loop. -/
theorem run_finishes {fuel request : Nat} {state : State} (within : request ≤ bounds.maximumRequests.toNat)
    (enough : bounds.maximumRequests.toNat < request + fuel) :
    (run spelling bounds source fuel request state).isSome = true := by
  induction fuel generalizing request state with
  | zero => omega
  | succ fuel ih =>
    rw [run]
    split
    · rfl
    · rename_i open_
      have more : request + 1 ≤ bounds.maximumRequests.toNat := by
        have budget := not_le.mp fun spent => open_ (Or.inr spent)
        omega
      split
      · rfl
      · rfl
      · split
        · rfl
        · rfl
        · exact ih more (by omega)

/-- What holds of the state from the first request on, and of the collection at the end. -/
theorem run_ok {invariant : State → Prop} {post : Collection → Prop}
    (going : ∀ request state rows next, invariant state → source.loader request (state.query bounds) = .rows rows →
      advance spelling bounds state rows = .ok (.going next) → invariant next)
    (done : ∀ request state rows collection, invariant state →
      source.loader request (state.query bounds) = .rows rows →
      advance spelling bounds state rows = .ok (.done collection) → post collection)
    {fuel request : Nat} {state : State} (start : invariant state) {collection : Collection}
    (returned : run spelling bounds source fuel request state = some (.ok collection)) : post collection := by
  induction fuel generalizing request state with
  | zero => cases returned
  | succ fuel ih =>
    rw [run] at returned
    split at returned
    · cases returned
    · cases reply : source.loader request (state.query bounds) with
      | raised =>
        rw [reply] at returned
        cases returned
      | other =>
        rw [reply] at returned
        cases returned
      | rows rows =>
        rw [reply] at returned
        dsimp only at returned
        cases advanced : advance spelling bounds state rows with
        | error refusal =>
          rw [advanced] at returned
          cases returned
        | ok progress =>
          rw [advanced] at returned
          cases progress with
          | going next => exact ih (going request state rows next start reply advanced) returned
          | done final =>
            cases returned
            exact done request state rows collection start reply advanced

def entryOf (spelling : Spelling) (item : Item) : Text × Item := (activityKey spelling item, item)

/-- A row that is read is a record of the window or lies before it. -/
theorem readRow_ok {window : Window} {state next : PageState} {row : Json}
    (read : readRow spelling window state row = .ok next) :
    ∃ item, row = .obj item ∧ recordTimestamp item = some (secondOf item) ∧
      ((secondOf item < window.start ∧ next.accepted = state.accepted ∧ next.reachedCursor = true) ∨
        (window.start ≤ secondOf item ∧ secondOf item ≤ window.stop ∧
          activityKey spelling item ∉ state.accepted.map Prod.fst ∧
          next.accepted = state.accepted ++ [entryOf spelling item] ∧ next.reachedCursor = state.reachedCursor)) := by
  unfold readRow at read
  cases shape : asItem row with
  | none =>
    rw [shape] at read
    cases read
  | some item =>
    rw [shape] at read
    dsimp only at read
    have same : row = .obj item := by
      cases row with
      | obj fields => rw [Option.some.inj shape]
      | null | bool | int | float | str | arr => cases shape
    cases time : recordTimestamp item with
    | none =>
      rw [time] at read
      cases read
    | some timestamp =>
      rw [time] at read
      dsimp only at read
      have second : secondOf item = timestamp := by rw [secondOf, time]; rfl
      refine ⟨item, same, by rw [second, time], ?_⟩
      split_ifs at read with order duplicate before within repeated
      · cases read
        exact Or.inl ⟨second ▸ before, rfl, rfl⟩
      · cases read
        exact Or.inr ⟨second ▸ not_lt.mp before, second ▸ within, repeated, Dict.set_of_notMem repeated item, rfl⟩

/-- A page adds exactly its records that do not lie before the window. -/
theorem readRows_from {window : Window} {rows : List Json} {state page : PageState}
    (read : rows.foldlM (readRow spelling window) state = .ok page) :
    ∃ items : List Item, rows = items.map .obj ∧ (∀ item ∈ items, secondOf item ≤ window.stop ∨
        secondOf item < window.start) ∧
      page.accepted = state.accepted ++
        (items.filter fun item => decide (window.start ≤ secondOf item)).map (entryOf spelling) ∧
      ((state.accepted.map Prod.fst).Nodup → (page.accepted.map Prod.fst).Nodup) ∧
      page.reachedCursor = (state.reachedCursor || items.any fun item => decide (secondOf item < window.start)) := by
  induction rows generalizing state with
  | nil =>
    cases read
    exact ⟨[], rfl, by simp, by simp, id, by simp⟩
  | cons row rows ih =>
    rw [List.foldlM_cons] at read
    cases first : readRow spelling window state row with
    | error refusal =>
      rw [first] at read
      cases read
    | ok next =>
      rw [first] at read
      obtain ⟨item, rfl, _, cases_⟩ := readRow_ok first
      obtain ⟨items, rfl, inside, accepted, distinct, reached⟩ := ih read
      refine ⟨item :: items, rfl, ?_, ?_, ?_, ?_⟩
      · intro other member
        rcases List.mem_cons.mp member with rfl | later
        · rcases cases_ with ⟨before, _⟩ | ⟨_, within, _⟩
          · exact Or.inr before
          · exact Or.inl within
        · exact inside other later
      · rcases cases_ with ⟨before, same, _⟩ | ⟨from_, _, _, added, _⟩
        · rw [accepted, same, List.filter_cons_of_neg (by simpa using before)]
        · rw [accepted, added, List.filter_cons_of_pos (by simpa using from_), List.map_cons, List.append_assoc]
          rfl
      · intro unique
        refine distinct ?_
        rcases cases_ with ⟨_, same, _⟩ | ⟨_, _, new, added, _⟩
        · rwa [same]
        · rw [added, List.map_append, List.nodup_append]
          refine ⟨unique, List.nodup_singleton _, fun key member other own equal => new ?_⟩
          have same : key = activityKey spelling item := equal.trans (List.mem_singleton.mp own)
          exact same ▸ member
      · rcases cases_ with ⟨before, _, flagged⟩ | ⟨from_, _, _, _, kept⟩
        · rw [reached, flagged, List.any_cons, decide_eq_true before]
          simp
        · rw [reached, kept, List.any_cons, decide_eq_false (not_lt.mpr from_), Bool.false_or]

/-- A window is completed, split in two, or read on. -/
theorem advance_ok {state : State} {rows : List Json} {progress : Progress}
    (advanced : advance spelling bounds state rows = .ok progress) :
    ∃ page, readRows spelling state.window rows = .ok page ∧ rows.length ≤ bounds.pageSize ∧
      ((rows.length < bounds.pageSize ∨ page.reachedCursor = true) ∧
          (let collection :=
            state.collection.complete ⟨state.window.start, state.window.stop, page.accepted⟩
          (state.windows = [] ∧ progress = .done collection) ∨
            ∃ start stop windows, state.windows = (start, stop) :: windows ∧
              progress = .going ⟨{ start, stop }, windows, collection⟩) ∨
        (¬(rows.length < bounds.pageSize ∨ page.reachedCursor = true) ∧ state.window.start ≠ state.window.stop ∧
          let middle := state.window.start + (state.window.stop - state.window.start) / 2
          progress = .going ⟨{ start := state.window.start, stop := middle },
            (middle + 1, state.window.stop) :: state.windows, state.collection⟩) ∨
        (¬(rows.length < bounds.pageSize ∨ page.reachedCursor = true) ∧
          ∃ previous preceding, progress = .going { state with window := { state.window with
            offset := state.window.offset + bounds.pageSize
            accepted := page.accepted
            previousPage := previous
            precedingTimestamp := preceding } })) := by
  unfold advance at advanced
  dsimp only at advanced
  split at advanced
  · cases advanced
  rename_i fits
  cases read : readRows spelling state.window rows with
  | error refusal =>
    rw [read] at advanced
    cases advanced
  | ok page =>
    rw [read] at advanced
    dsimp only at advanced
    refine ⟨page, rfl, not_lt.mp fits, ?_⟩
    split at advanced
    · cases advanced
    split at advanced
    · cases advanced
    split at advanced
    · rename_i complete
      refine Or.inl ⟨complete, ?_⟩
      cases rest : state.windows with
      | nil =>
        rw [rest] at advanced
        cases advanced
        exact Or.inl ⟨rfl, rfl⟩
      | cons next windows =>
        rw [rest] at advanced
        cases advanced
        exact Or.inr ⟨next.1, next.2, windows, rfl, rfl⟩
    rename_i full
    split at advanced
    · split at advanced
      · cases advanced
      · rename_i wide
        cases advanced
        exact Or.inr (Or.inl ⟨full, wide, rfl⟩)
    · cases advanced
      exact Or.inr (Or.inr ⟨full, _, _, rfl⟩)

theorem readRows_ok {window : Window} {rows : List Json} {page : PageState}
    (read : readRows spelling window rows = .ok page) :
    ∃ items : List Item, rows = items.map .obj ∧
      (∀ item ∈ items, secondOf item ≤ window.stop ∨ secondOf item < window.start) ∧
      page.accepted = window.accepted ++
        (items.filter fun item => decide (window.start ≤ secondOf item)).map (entryOf spelling) ∧
      ((window.accepted.map Prod.fst).Nodup → (page.accepted.map Prod.fst).Nodup) ∧
      page.reachedCursor = items.any fun item => decide (secondOf item < window.start) := by
  obtain ⟨items, same, inside, accepted, distinct, reached⟩ := readRows_from read
  exact ⟨items, same, inside, accepted, distinct, by rw [reached, Bool.false_or]⟩

/-! ## Honest providers -/

/-- A fixed set of fills with distinct identities, in a fixed order. -/
structure Provider (spelling : Spelling) where
  fills : List Item
  distinct : (fills.map (activityKey spelling)).Nodup

def Provider.slice (provider : Provider spelling) (start stop : Int) : List Item :=
  provider.fills.filter fun fill => decide (start ≤ secondOf fill ∧ secondOf fill ≤ stop)

/-- Every answer is the asked part of the fills in the asked window. -/
def Provider.Serves (provider : Provider spelling) (source : Source) : Prop :=
  ∀ request query rows, source.loader request query = .rows rows →
    rows = (((provider.slice query.start query.stop).drop query.offset).take query.limit).map .obj

/-- The merged records and the windows to read make up the whole window. -/
structure Covering (provider : Provider spelling) (target : List Item) (state : State) : Prop where
  order : state.window.start ≤ state.window.stop ∧ ∀ next ∈ state.windows, next.1 ≤ next.2
  accepted : state.window.accepted =
    ((provider.slice state.window.start state.window.stop).take state.window.offset).map (entryOf spelling)
  results : state.collection.results = (state.collection.results.map Prod.snd).map (entryOf spelling)
  cover : (state.collection.results.map Prod.snd ++ (provider.slice state.window.start state.window.stop ++
    state.windows.flatMap fun next => provider.slice next.1 next.2)).Perm target

variable {provider : Provider spelling} {start stop middle : Int}

/-- A window holds what its two parts hold. -/
theorem slice_split (low : start ≤ middle + 1) (high : middle ≤ stop) :
    (provider.slice start stop).Perm (provider.slice start middle ++ provider.slice (middle + 1) stop) := by
  have halves := List.filter_append_perm (fun fill => decide (secondOf fill ≤ middle)) (provider.slice start stop)
  refine halves.symm.trans (List.Perm.of_eq ?_)
  unfold Provider.slice
  rw [List.filter_filter, List.filter_filter]
  congr 1
  · refine List.filter_congr fun fill _ => ?_
    rw [← Bool.decide_and]
    exact decide_eq_decide.mpr ⟨fun inside => by omega, fun inside => by omega⟩
  · refine List.filter_congr fun fill _ => ?_
    rw [← decide_not, ← Bool.decide_and]
    exact decide_eq_decide.mpr ⟨fun inside => by omega, fun inside => by omega⟩

theorem keys_entryOf (items : List Item) : (items.map (entryOf spelling)).map Prod.fst = items.map (activityKey spelling) := by
  rw [List.map_map]
  rfl

theorem values_entryOf (items : List Item) : (items.map (entryOf spelling)).map Prod.snd = items := by
  rw [List.map_map]
  exact List.map_id items

/-- An honest page adds the next fills of the window, and none lies before it. -/
theorem readRows_honest {state : State} {target : List Item} (covering : Covering provider target state)
    {rows : List Json} {page : PageState}
    (honest : rows = (((provider.slice state.window.start state.window.stop).drop state.window.offset).take
      bounds.pageSize).map .obj)
    (read : readRows spelling state.window rows = .ok page) :
    page.reachedCursor = false ∧
      page.accepted = ((provider.slice state.window.start state.window.stop).take
        (state.window.offset + bounds.pageSize)).map (entryOf spelling) := by
  obtain ⟨items, same, _, accepted, _, reached⟩ := readRows_ok read
  have served : items =
      ((provider.slice state.window.start state.window.stop).drop state.window.offset).take bounds.pageSize :=
    List.map_injective_iff.mpr (fun _ _ => Json.obj.inj) (same.symm.trans honest)
  have inside : ∀ item ∈ items, state.window.start ≤ secondOf item := by
    intro item member
    rw [served] at member
    have chosen := List.mem_of_mem_drop (List.mem_of_mem_take member)
    exact (of_decide_eq_true (List.mem_filter.mp chosen).2).1
  refine ⟨?_, ?_⟩
  · rw [reached, List.any_eq_false]
    exact fun item member => by simpa using inside item member
  · rw [accepted, List.filter_eq_self.mpr fun item member => decide_eq_true (inside item member), served,
      covering.accepted, ← List.map_append, ← List.take_add]

/-- The last page of a window completes it. -/
theorem page_whole {state : State} {target : List Item} (covering : Covering provider target state)
    {rows : List Json} {page : PageState}
    (honest : rows = (((provider.slice state.window.start state.window.stop).drop state.window.offset).take
      bounds.pageSize).map .obj)
    (read : readRows spelling state.window rows = .ok page)
    (ended : rows.length < bounds.pageSize ∨ page.reachedCursor = true) :
    page.accepted = (provider.slice state.window.start state.window.stop).map (entryOf spelling) := by
  obtain ⟨unreached, accepted⟩ := readRows_honest covering honest read
  have short : rows.length < bounds.pageSize := ended.resolve_right (by simp [unreached])
  rw [accepted, List.take_of_length_le]
  rw [honest, List.length_map, List.length_take, List.length_drop] at short
  omega

/-- Completing the window merges all its fills. -/
theorem covering_complete {state : State} {target : List Item} (covering : Covering provider target state)
    (sub : target.Sublist provider.fills) {records : Dict Text Item}
    (whole : records = (provider.slice state.window.start state.window.stop).map (entryOf spelling)) :
    (state.collection.results.update records).map Prod.snd =
        state.collection.results.map Prod.snd ++ provider.slice state.window.start state.window.stop ∧
      state.collection.results.update records =
        ((state.collection.results.update records).map Prod.snd).map (entryOf spelling) := by
  have keys : (state.collection.results.map Prod.fst ++ records.map Prod.fst).Nodup := by
    have all := (covering.cover.map (activityKey spelling)).nodup_iff.mpr ((sub.map _).nodup provider.distinct)
    rw [covering.results, whole, keys_entryOf, keys_entryOf, ← List.map_append]
    refine ((List.Sublist.append_left (List.sublist_append_left _ _) _).map _).nodup all
  have merged := Dict.update_of_nodup keys
  have values : (state.collection.results.update records).map Prod.snd =
      state.collection.results.map Prod.snd ++ provider.slice state.window.start state.window.stop := by
    rw [merged, List.map_append, whole, values_entryOf]
  refine ⟨values, ?_⟩
  rw [values, merged, List.map_append, ← covering.results, whole]

theorem covering_going {state next : State} {target : List Item} (covering : Covering provider target state)
    (sub : target.Sublist provider.fills) {rows : List Json}
    (honest : rows = (((provider.slice state.window.start state.window.stop).drop state.window.offset).take
      bounds.pageSize).map .obj)
    (advanced : advance spelling bounds state rows = .ok (.going next)) : Covering provider target next := by
  obtain ⟨page, read, _, ⟨ended, final | ⟨start, stop, windows, rest, same⟩⟩ | ⟨_, wide, same⟩ | ⟨_, _, _, same⟩⟩ :=
    advance_ok advanced
  · cases final.2
  · obtain ⟨values, entries⟩ := covering_complete covering sub (page_whole covering honest read ended)
    cases same
    refine ⟨?_, by simp, entries, ?_⟩
    · exact List.forall_mem_cons.mp (rest ▸ covering.order.2)
    · have cover := covering.cover
      rw [rest] at cover
      change ((state.collection.results.update page.accepted).map Prod.snd ++ _).Perm target
      rw [values, List.append_assoc]
      exact cover
  · obtain ⟨ordered, later⟩ := covering.order
    cases same
    have low : state.window.start ≤ state.window.start + (state.window.stop - state.window.start) / 2 := by omega
    have high : state.window.start + (state.window.stop - state.window.start) / 2 < state.window.stop := by omega
    refine ⟨⟨low, List.forall_mem_cons.mpr ⟨high, later⟩⟩, by simp, covering.results, ?_⟩
    refine List.Perm.trans (List.Perm.append_left _ ?_) covering.cover
    rw [List.flatMap_cons, ← List.append_assoc]
    exact (slice_split (low.trans (Int.le_add_one le_rfl)) high.le).symm.append_right _
  · obtain ⟨_, accepted⟩ := readRows_honest covering honest read
    cases same
    exact ⟨covering.order, accepted, covering.results, covering.cover⟩

theorem covering_done {state : State} {target : List Item} (covering : Covering provider target state)
    (sub : target.Sublist provider.fills) {rows : List Json} {collection : Collection}
    (honest : rows = (((provider.slice state.window.start state.window.stop).drop state.window.offset).take
      bounds.pageSize).map .obj)
    (advanced : advance spelling bounds state rows = .ok (.done collection)) :
    (collection.results.map Prod.snd).Perm target := by
  obtain ⟨page, read, _, ⟨ended, ⟨rest, same⟩ | ⟨_, _, _, _, final⟩⟩ | ⟨_, _, final⟩ | ⟨_, _, _, final⟩⟩ :=
    advance_ok advanced
  · obtain ⟨values, _⟩ := covering_complete covering sub (page_whole covering honest read ended)
    have cover := covering.cover
    rw [rest, List.flatMap_nil, List.append_nil] at cover
    cases same
    change ((state.collection.results.update page.accepted).map Prod.snd).Perm target
    rw [values]
    exact cover
  · cases final
  · cases final
  · cases final

/-- What an honest provider's collection holds. -/
theorem collectWindows_honest {arguments : Arguments} (provider : Provider spelling) (serves : provider.Serves source)
    {collection : Collection} (returned : collectWindows spelling source arguments = some (.ok collection)) :
    (collection.results.map Prod.snd).Perm (provider.slice arguments.lower arguments.stop) := by
  unfold collectWindows at returned
  split at returned
  · cases returned
  · rename_i ahead
    have sub : (provider.slice arguments.lower arguments.stop).Sublist provider.fills := List.filter_sublist
    have start : Covering provider (provider.slice arguments.lower arguments.stop)
        ⟨{ start := arguments.lower, stop := arguments.stop }, [], {}⟩ :=
      ⟨⟨not_lt.mp ahead, by simp⟩, by simp, by simp, by simp⟩
    let post : Collection → Prop := fun collection =>
      (collection.results.map Prod.snd).Perm (provider.slice arguments.lower arguments.stop)
    have ends : post collection := by
      refine run_ok ?_ ?_ start returned
      · exact fun request state rows next covering reply => covering_going covering sub (serves request _ rows reply)
      · exact fun request state rows collection covering reply =>
          covering_done covering sub (serves request _ rows reply)
    exact ends

/-! ## Any provider -/

def Apart (first second : Int × Int) : Prop := first.2 < second.1 ∨ second.2 < first.1

/-- The accepted records of a window lie in it, each under its own key. -/
structure Sound (spelling : Spelling) (start stop : Int) (records : Dict Text Item) : Prop where
  distinct : (records.map Prod.fst).Nodup
  keyed : ∀ entry ∈ records, entry = entryOf spelling entry.2
  inside : ∀ entry ∈ records, start ≤ secondOf entry.2 ∧ secondOf entry.2 ≤ stop

def Completed.interval (window : Completed) : Int × Int := (window.start, window.stop)

/-- Completed windows are apart, sound and merged in their order. -/
structure Merged (spelling : Spelling) (collection : Collection) : Prop where
  apart : (collection.completed.map Completed.interval).Pairwise Apart
  sound : ∀ window ∈ collection.completed, Sound spelling window.start window.stop window.records
  results : collection.results = Dict.update [] (collection.completed.flatMap Completed.records)

/-- All windows are apart: completed, being read, and still to be read. -/
structure Separate (spelling : Spelling) (state : State) : Prop where
  order : state.window.start ≤ state.window.stop ∧ ∀ next ∈ state.windows, next.1 ≤ next.2
  apart : (state.collection.completed.map Completed.interval ++
    (state.window.start, state.window.stop) :: state.windows).Pairwise Apart
  sound : Sound spelling state.window.start state.window.stop state.window.accepted
  completed : ∀ window ∈ state.collection.completed, Sound spelling window.start window.stop window.records
  results : state.collection.results = Dict.update [] (state.collection.completed.flatMap Completed.records)

theorem sound_empty (spelling : Spelling) (start stop : Int) : Sound spelling start stop [] :=
  ⟨List.nodup_nil, by simp, by simp⟩

theorem apart_split {before after : List (Int × Int)} (low : start ≤ middle + 1) (high : middle ≤ stop)
    (apart : (before ++ (start, stop) :: after).Pairwise Apart) :
    (before ++ (start, middle) :: (middle + 1, stop) :: after).Pairwise Apart := by
  obtain ⟨first, rest, cross⟩ := List.pairwise_append.mp apart
  obtain ⟨own, rest⟩ := List.pairwise_cons.mp rest
  refine List.pairwise_append.mpr ⟨first, List.pairwise_cons.mpr ⟨?_, List.pairwise_cons.mpr ⟨?_, rest⟩⟩, ?_⟩
  · intro other member
    rcases List.mem_cons.mp member with rfl | later
    · exact Or.inl (by omega)
    · exact (own other later).imp (fun below => by dsimp only at *; omega) (fun above => above)
  · intro other later
    exact (own other later).imp (fun below => below) (fun above => by dsimp only at *; omega)
  · intro other earlier next member
    rcases List.mem_cons.mp member with rfl | member
    · exact (cross other earlier _ List.mem_cons_self).imp (fun below => below) (fun above => by dsimp only at *; omega)
    rcases List.mem_cons.mp member with rfl | later
    · exact (cross other earlier _ List.mem_cons_self).imp (fun below => by dsimp only at *; omega) (fun above => above)
    · exact cross other earlier next (List.mem_cons_of_mem _ later)

/-- A page keeps the records of its window sound. -/
theorem sound_page {window : Window} (sound : Sound spelling window.start window.stop window.accepted)
    {rows : List Json} {page : PageState} (read : readRows spelling window rows = .ok page) :
    Sound spelling window.start window.stop page.accepted := by
  obtain ⟨items, _, inside, accepted, distinct, _⟩ := readRows_ok read
  have chosen : ∀ entry ∈ (items.filter fun item => decide (window.start ≤ secondOf item)).map (entryOf spelling),
      entry = entryOf spelling entry.2 ∧ window.start ≤ secondOf entry.2 ∧ secondOf entry.2 ≤ window.stop := by
    intro entry member
    obtain ⟨item, kept, rfl⟩ := List.mem_map.mp member
    obtain ⟨present, from_⟩ := List.mem_filter.mp kept
    have started := of_decide_eq_true from_
    exact ⟨rfl, started, (inside item present).resolve_right (not_lt.mpr started)⟩
  refine ⟨distinct sound.distinct, fun entry member => ?_, fun entry member => ?_⟩
  · rcases List.mem_append.mp (accepted ▸ member) with old | new
    · exact sound.keyed entry old
    · exact (chosen entry new).1
  · rcases List.mem_append.mp (accepted ▸ member) with old | new
    · exact sound.inside entry old
    · exact (chosen entry new).2

theorem merged_complete {state : State} (separate : Separate spelling state) {records : Dict Text Item}
    (sound : Sound spelling state.window.start state.window.stop records) :
    let collection := state.collection.complete ⟨state.window.start, state.window.stop, records⟩
    (∀ window ∈ collection.completed, Sound spelling window.start window.stop window.records) ∧
      collection.results = Dict.update [] (collection.completed.flatMap Completed.records) ∧
      (collection.completed.map Completed.interval ++ state.windows).Pairwise Apart := by
  refine ⟨?_, ?_, ?_⟩
  · intro window member
    rcases List.mem_append.mp member with old | new
    · exact separate.completed window old
    · rw [List.mem_singleton.mp new]
      exact sound
  · simp only [Collection.complete, List.flatMap_append, List.flatMap_cons, List.flatMap_nil, List.append_nil]
    rw [separate.results]
    exact (List.foldl_append).symm
  · simp only [Collection.complete, List.map_append, List.map_cons, List.map_nil, List.append_assoc,
      List.singleton_append]
    exact separate.apart

theorem separate_going {state next : State} (separate : Separate spelling state) {rows : List Json}
    (advanced : advance spelling bounds state rows = .ok (.going next)) : Separate spelling next := by
  obtain ⟨page, read, _, ⟨_, final | ⟨start, stop, windows, rest, same⟩⟩ | ⟨_, wide, same⟩ | ⟨_, _, _, same⟩⟩ :=
    advance_ok advanced
  · cases final.2
  · obtain ⟨completed, results, apart⟩ := merged_complete separate (sound_page separate.sound read)
    cases same
    refine ⟨List.forall_mem_cons.mp (rest ▸ separate.order.2), ?_, sound_empty spelling start stop, completed, results⟩
    rw [rest] at apart
    exact apart
  · obtain ⟨ordered, later⟩ := separate.order
    cases same
    have low : state.window.start ≤ state.window.start + (state.window.stop - state.window.start) / 2 := by omega
    have high : state.window.start + (state.window.stop - state.window.start) / 2 < state.window.stop := by omega
    have apart := apart_split (low.trans (Int.le_add_one le_rfl)) high.le separate.apart
    exact ⟨⟨low, List.forall_mem_cons.mpr ⟨high, later⟩⟩, apart, sound_empty spelling _ _, separate.completed,
      separate.results⟩
  · cases same
    exact ⟨separate.order, separate.apart, sound_page separate.sound read, separate.completed, separate.results⟩

theorem separate_done {state : State} (separate : Separate spelling state) {rows : List Json}
    {collection : Collection} (advanced : advance spelling bounds state rows = .ok (.done collection)) :
    Merged spelling collection := by
  obtain ⟨page, read, _, ⟨_, ⟨rest, same⟩ | ⟨_, _, _, _, final⟩⟩ | ⟨_, _, final⟩ | ⟨_, _, _, final⟩⟩ :=
    advance_ok advanced
  · obtain ⟨completed, results, apart⟩ := merged_complete separate (sound_page separate.sound read)
    cases same
    rw [rest, List.append_nil] at apart
    exact ⟨apart, completed, results⟩
  · cases final
  · cases final
  · cases final

theorem collectWindows_merged {arguments : Arguments} {collection : Collection}
    (returned : collectWindows spelling source arguments = some (.ok collection)) : Merged spelling collection := by
  unfold collectWindows at returned
  split at returned
  · cases returned
  · rename_i ahead
    have start : Separate spelling ⟨{ start := arguments.lower, stop := arguments.stop }, [], {}⟩ :=
      ⟨⟨not_lt.mp ahead, by simp⟩, by simp, sound_empty spelling _ _, by simp, rfl⟩
    refine run_ok ?_ ?_ start returned
    · exact fun request state rows next separate _ => separate_going separate
    · exact fun request state rows collection separate _ => separate_done separate

/-- Every record of a completed window is returned. -/
def Collection.Keeps (collection : Collection) : Prop :=
  ∀ window ∈ collection.completed, ∀ entry ∈ window.records, entry.2 ∈ collection.sorted

instance (collection : Collection) : Decidable collection.Keeps := by
  unfold Collection.Keeps
  infer_instance

/-- No identity was accepted in two completed windows. -/
def Collection.Distinct (collection : Collection) : Prop :=
  ((collection.completed.flatMap Completed.records).map Prod.fst).Nodup

theorem mem_sorted {collection : Collection} {item : Item} :
    item ∈ collection.sorted ↔ item ∈ collection.results.map Prod.snd :=
  (List.perm_insertionSort Later _).mem_iff

/-- Records of different windows are different: their seconds are. -/
theorem records_nodup {collection : Collection} (merged : Merged spelling collection) :
    (collection.completed.flatMap Completed.records).Nodup := by
  refine List.nodup_flatMap.mpr ⟨fun window member => (merged.sound window member).distinct.of_map, ?_⟩
  refine List.Pairwise.imp_of_mem ?_ (List.pairwise_map.mp merged.apart)
  intro first second left right apart
  refine List.disjoint_left.mpr fun entry own other => ?_
  obtain ⟨low, high⟩ := (merged.sound first left).inside entry own
  obtain ⟨low', high'⟩ := (merged.sound second right).inside entry other
  rcases apart with before | after
  · exact absurd (low'.trans high) (not_le.mpr before)
  · exact absurd (low.trans high') (not_le.mpr after)

/-- Merging loses nothing exactly when no identity is in two windows. -/
theorem keeps_iff {collection : Collection} (merged : Merged spelling collection) :
    collection.Keeps ↔ collection.Distinct := by
  have keyed : ∀ entry ∈ collection.completed.flatMap Completed.records, entry = entryOf spelling entry.2 := by
    intro entry member
    obtain ⟨window, inside, own⟩ := List.mem_flatMap.mp member
    exact (merged.sound window inside).keyed entry own
  constructor
  · intro keeps
    -- All records survive under their own keys, so a key determines its record.
    have kept : ∀ entry ∈ collection.completed.flatMap Completed.records, entry ∈ collection.results := by
      intro entry member
      obtain ⟨window, inside, own⟩ := List.mem_flatMap.mp member
      obtain ⟨stored, present, same⟩ := List.mem_map.mp (mem_sorted.mp (keeps window inside entry own))
      have known : stored ∈ collection.completed.flatMap Completed.records := by
        rw [merged.results] at present
        exact (Dict.mem_update present).resolve_left List.not_mem_nil
      rw [keyed entry member, ← same, ← keyed stored known]
      exact present
    have unique : (collection.results.map Prod.fst).Nodup := by
      rw [merged.results]
      exact Dict.nodup_update (by simp) _
    refine (records_nodup merged).map_on fun first left second right same => ?_
    exact List.inj_on_of_nodup_map unique (kept first left) (kept second right) same
  · intro distinct window inside entry own
    have all : collection.results = collection.completed.flatMap Completed.records := by
      rw [merged.results, Dict.update_of_nodup (by simpa [Collection.Distinct] using distinct), List.nil_append]
    refine mem_sorted.mpr (List.mem_map.mpr ⟨entry, ?_, rfl⟩)
    rw [all]
    exact List.mem_flatMap.mpr ⟨window, inside, own⟩

/-- Every collection ends. An honest provider's fills of the whole window are returned once,
newest first; any provider's accepted records are all returned exactly when no identity was
accepted in two completed windows. -/
theorem window_activity_complete (spelling : Spelling) (source : Source) (arguments : Arguments) :
    (∃ outcome, collectPolymarketActivity spelling source arguments = some outcome) ∧
    (∀ provider : Provider spelling, provider.Serves source → ∀ items,
      collectPolymarketActivity spelling source arguments = some (.ok items) →
      items.Perm (provider.slice arguments.lower arguments.stop) ∧ items.Pairwise Later) ∧
    (∀ collection, collectWindows spelling source arguments = some (.ok collection) →
      (collection.Keeps ↔ collection.Distinct)) := by
  refine ⟨?_, fun provider serves items returned => ?_, fun collection returned =>
    keeps_iff (collectWindows_merged returned)⟩
  · refine Option.isSome_iff_exists.mp ?_
    rw [collectPolymarketActivity, Option.isSome_map]
    unfold collectWindows
    split
    · rfl
    · refine run_finishes (Nat.zero_le _) ?_
      simp [Arguments.bounds]
  · obtain ⟨outcome, collected, same⟩ := Option.map_eq_some_iff.mp returned
    cases outcome with
    | error refusal => cases same
    | ok collection =>
      cases same
      exact ⟨(List.perm_insertionSort Later _).trans (collectWindows_honest provider serves collected),
        List.pairwise_insertionSort Later _⟩

def fourSeconds : Arguments where
  since := 1
  stop := 4
  pageSize := 2
  maximumItems := 50000
  maximumRequests := 200
  offsetCeiling := 0

def threeFills : Provider plainSpelling where
  fills := [listed "c" 4, listed "b" 3, listed "a" 1]
  distinct := by decide

def Provider.honest (provider : Provider plainSpelling) : Source where
  loader _ query := .rows ((((provider.slice query.start query.stop).drop query.offset).take query.limit).map .obj)
  expired _ := false

/-- Two fills fill a page, so that the window and its later half are split. -/
theorem window_activity_complete_split : ∃ items,
    collectPolymarketActivity plainSpelling threeFills.honest fourSeconds = some (.ok items) ∧
      items.Perm (threeFills.slice 1 4) ∧ items.Pairwise Later ∧
      (collectWindows plainSpelling threeFills.honest fourSeconds).map
        (Except.map fun collection => collection.completed.map fun window => (window.start, window.stop)) =
          some (.ok [(1, 2), (3, 3), (4, 4)]) := by
  have returned : collectPolymarketActivity plainSpelling threeFills.honest fourSeconds =
      some (.ok [listed "c" 4, listed "b" 3, listed "a" 1]) := by decide
  have serves : threeFills.Serves threeFills.honest := fun request query rows answered => by
    cases answered
    rfl
  obtain ⟨every, newest⟩ := (window_activity_complete plainSpelling threeFills.honest fourSeconds).2.1 threeFills serves _ returned
  exact ⟨_, returned, every, newest, by decide⟩

/-- A provider that gives one identity in both halves of a window, at different seconds. -/
def forgetful : Source where
  loader _ query := .rows <|
    if query.start = query.stop then []
    else if query.start = 1 ∧ query.stop = 4 then [.obj (listed "b" 4), .obj (listed "a" 4)]
    else [.obj (listed "same" query.start)]
  expired _ := false

theorem record_overwritten : ∃ collection, collectWindows plainSpelling forgetful fourSeconds = some (.ok collection) ∧
    ¬collection.Keeps := by
  have returned : (collectWindows plainSpelling forgetful fourSeconds).any (fun outcome =>
      match outcome with
      | .ok collection => decide (¬collection.Keeps)
      | .error _ => false) = true := by decide
  cases outcome : collectWindows plainSpelling forgetful fourSeconds with
  | none =>
    rw [outcome] at returned
    cases returned
  | some result =>
    rw [outcome] at returned
    cases result with
    | error refusal => cases returned
    | ok collection => exact ⟨collection, rfl, of_decide_eq_true returned⟩

end MarketSentinel.Wallet.Windowed
