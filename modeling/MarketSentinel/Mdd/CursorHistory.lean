import Mathlib.Data.Rat.Defs
import Mathlib.Algebra.Order.Ring.Rat
import MarketSentinel.Library.Dict
import MarketSentinel.Library.Json

/-! Bounded reads of a paged history, whose end only the cursor proves.

The loader may answer anything, and differently at each page; the clock may read anything.
-/

set_option autoImplicit false

namespace MarketSentinel.Mdd

open Python

structure PageRequest where
  page : Nat
  limit : Nat
  cursor : Option Text
  timeout : ℚ

structure HistoryPage where
  data : List Json
  nextCursor : Option Text

structure PublicHistoryRows where
  rows : List Json
  historyComplete : Bool
  deriving DecidableEq

structure Budget where
  limit : Int
  pageSize : Nat := 500
  timeoutSeconds : ℚ := 60
  maximumPages : Nat := 200

def isObject : Json → Bool
  | .obj _ => true
  | _ => false

/-- The state of the cursor: null ends the history, and no cursor may come back. -/
def cursorState (seen : List Text) : Json → Option (Option Text)
  | .null => some none
  | .str cursor => if strip cursor = [] ∨ cursor ∈ seen then none else some (some cursor)
  | _ => none

def readPage (seen : List Text) (envelope : Json) : Except Text HistoryPage :=
  match envelope with
  | .obj page =>
    match Dict.get? page (text "data") with
    | some (.arr data) =>
      match Dict.get? page (text "pagination") with
      | some (.obj pagination) =>
        match Dict.get? pagination (text "next_cursor") with
        | none => .error (text "Data API v2 history lacks a next-cursor state; coverage is unknown.")
        | some next =>
          match cursorState seen next with
          | none => .error (text "Data API v2 history repeated or invalidated its cursor; coverage is unknown.")
          | some nextCursor =>
            if data.all isObject then .ok ⟨data, nextCursor⟩
            else .error (text "Data API v2 history contains malformed rows; coverage is unknown.")
      | _ => .error (text "Data API v2 history lacks a next-cursor state; coverage is unknown.")
    | _ => .error (text "Data API v2 history envelope is malformed; coverage is unknown.")
  | _ => .error (text "Data API v2 history envelope is malformed; coverage is unknown.")

section Fetch

variable (loader : PageRequest → Except Text Json) (elapsed : Nat → ℚ) (budget : Budget) (limit : Nat)

/-- The pages left, the page to read, and what was read before it. -/
def historyLoop : Nat → Nat → List Json → Option Text → List Text → Except Text PublicHistoryRows
  | 0, _, _, _, _ => .error (text "Data API v2 history exceeded its page budget; coverage is unknown.")
  | pages + 1, page, rows, cursor, cursors => do
    let remaining := budget.timeoutSeconds - elapsed page
    if remaining ≤ 0 then
      .error (text "Data API v2 history exceeded its bounded read budget; coverage is unknown.")
    else
      let capacity := limit - rows.length
      let envelope ← loader ⟨page, min budget.pageSize capacity, cursor, min 15 remaining⟩
      let read ← readPage cursors envelope
      let kept := rows ++ read.data.take capacity
      match read.nextCursor with
      | none => .ok ⟨kept, decide (read.data.length ≤ capacity)⟩
      | some next =>
        if limit ≤ kept.length then .ok ⟨kept, false⟩
        else historyLoop pages (page + 1) kept (some next) (cursors ++ [next])

def fetchCursorHistory : Except Text PublicHistoryRows :=
  if budget.limit ≤ 0 then .ok ⟨[], false⟩
  else historyLoop loader elapsed budget budget.limit.toNat budget.maximumPages 0 [] none []

end Fetch

/-! ## The walk along the cursors -/

def cursorsOf (pages : List HistoryPage) : List Text := pages.filterMap HistoryPage.nextCursor

def rowsOf (pages : List HistoryPage) : List Json := pages.flatMap HistoryPage.data

/-- Pages that a loader served one after the other, each for the cursor of the one before, and
the cursor to go on with; nothing when the last page ended the history. -/
inductive Walk (loader : PageRequest → Except Text Json) : List HistoryPage → Option (Option Text) → Prop
  | start : Walk loader [] (some none)
  | turn {pages : List HistoryPage} {cursor : Option Text} {request : PageRequest} {envelope : Json} {page : HistoryPage}
      (before : Walk loader pages (some cursor)) (asked : request.page = pages.length ∧ request.cursor = cursor)
      (served : loader request = .ok envelope) (read : readPage (cursorsOf pages) envelope = .ok page) :
      Walk loader (pages ++ [page]) (page.nextCursor.map some)

section Walks

variable {loader : PageRequest → Except Text Json} {elapsed : Nat → ℚ} {budget : Budget} {limit : Nat}

theorem cursorState_fresh {seen : List Text} {value : Json} {cursor : Text}
    (state : cursorState seen value = some (some cursor)) : cursor ∉ seen := by
  cases value with
  | str given =>
    simp only [cursorState] at state
    split at state
    · cases state
    · rename_i fresh
      obtain rfl := Option.some.inj (Option.some.inj state)
      exact fun member => fresh (Or.inr member)
  | null => cases state
  | bool value => cases state
  | int value => cases state
  | float value => cases state
  | arr items => cases state
  | obj fields => cases state

theorem readPage_ok {seen : List Text} {envelope : Json} {page : HistoryPage} (read : readPage seen envelope = .ok page) :
    (∀ row ∈ page.data, isObject row = true) ∧ ∀ cursor ∈ page.nextCursor, cursor ∉ seen := by
  unfold readPage at read
  split at read
  · split at read
    · split at read
      · split at read
        · cases read
        · split at read
          · cases read
          · rename_i data _ _ _ _ next _ _ nextCursor state
            split at read
            · rename_i objects
              obtain rfl := Except.ok.inj read
              refine ⟨List.all_eq_true.mp objects, ?_⟩
              rintro cursor here
              exact cursorState_fresh (state.trans (congrArg some here))
            · cases read
      · cases read
    · cases read
  · cases read

/-- No cursor is followed twice. -/
theorem Walk.cursors_nodup {pages : List HistoryPage} {state : Option (Option Text)} (walk : Walk loader pages state) :
    (cursorsOf pages).Nodup := by
  induction walk with
  | start => exact List.nodup_nil
  | turn before asked served read ih =>
    rename_i pages cursor request envelope page
    have fresh := (readPage_ok read).2
    rw [cursorsOf, List.filterMap_append]
    cases next : page.nextCursor with
    | none => simpa [next, cursorsOf] using ih
    | some cursor =>
      rw [List.nodup_append]
      refine ⟨ih, by simp [next], ?_⟩
      intro old member other single same
      have there : other = cursor := by simpa [next] using single
      exact fresh cursor (by rw [next]; rfl) (there ▸ same ▸ member)

/-- What a finished read has: the first rows of a walk, all of them exactly when the walk ended
within the limit, and as many as the limit otherwise. -/
structure ReadOf (loader : PageRequest → Except Text Json) (limit : Nat) (result : PublicHistoryRows)
    (pages : List HistoryPage) (state : Option (Option Text)) : Prop where
  walk : Walk loader pages state
  rows : result.rows = (rowsOf pages).take limit
  complete : result.historyComplete = true ↔ state = none ∧ (rowsOf pages).length ≤ limit
  full : result.historyComplete = false → result.rows.length = limit

theorem rowsOf_concat (pages : List HistoryPage) (page : HistoryPage) : rowsOf (pages ++ [page]) = rowsOf pages ++ page.data := by
  simp [rowsOf]

theorem cursorsOf_concat {pages : List HistoryPage} {page : HistoryPage} {next : Text} (going : page.nextCursor = some next) :
    cursorsOf (pages ++ [page]) = cursorsOf pages ++ [next] := by
  simp [cursorsOf, going]

theorem historyLoop_walk {left : Nat} {pages : List HistoryPage} {cursor : Option Text} {result : PublicHistoryRows}
    (walk : Walk loader pages (some cursor)) (room : (rowsOf pages).length < limit)
    (finished : historyLoop loader elapsed budget limit left pages.length (rowsOf pages) cursor (cursorsOf pages) = .ok result) :
    ∃ more state, ReadOf loader limit result (pages ++ more) state ∧ more.length ≤ left := by
  induction left generalizing pages cursor with
  | zero => cases finished
  | succ left ih =>
    rw [historyLoop] at finished
    dsimp only at finished
    split at finished
    · cases finished
    cases served : loader ⟨pages.length, min budget.pageSize (limit - (rowsOf pages).length), cursor,
        min 15 (budget.timeoutSeconds - elapsed pages.length)⟩ with
    | error message =>
      rw [served] at finished
      cases finished
    | ok envelope =>
      rw [served] at finished
      cases read : readPage (cursorsOf pages) envelope with
      | error message =>
        simp only [Bind.bind, Except.bind, read] at finished
        cases finished
      | ok page =>
        simp only [Bind.bind, Except.bind, read] at finished
        -- the page continues the walk; three things may follow: its end, a full limit, another page
        have turned := Walk.turn walk ⟨rfl, rfl⟩ served read
        have kept : rowsOf pages ++ page.data.take (limit - (rowsOf pages).length) = (rowsOf (pages ++ [page])).take limit := by
          rw [rowsOf_concat, List.take_append, List.take_of_length_le room.le]
        have total : (rowsOf (pages ++ [page])).length = (rowsOf pages).length + page.data.length := by
          rw [rowsOf_concat, List.length_append]
        rw [kept] at finished
        cases next : page.nextCursor with
        | none =>
          simp only [next] at finished turned
          obtain rfl := Except.ok.inj finished
          refine ⟨[page], none, ⟨turned, rfl, ?_, ?_⟩, by simp⟩
          · rw [decide_eq_true_iff, total]
            constructor
            · exact fun fits => ⟨rfl, by omega⟩
            · exact fun ends => by omega
          · intro truncated
            have beyond := of_decide_eq_false truncated
            rw [List.length_take, total]
            omega
        | some cursor' =>
          simp only [next] at finished turned
          split at finished
          · rename_i reached
            obtain rfl := Except.ok.inj finished
            refine ⟨[page], some (some cursor'), ⟨turned, rfl, by simp, fun _ => ?_⟩, by simp⟩
            rw [List.length_take] at reached ⊢
            omega
          · rename_i short
            have whole : (rowsOf (pages ++ [page])).take limit = rowsOf (pages ++ [page]) := by
              apply List.take_of_length_le
              rw [List.length_take] at short
              omega
            rw [whole] at finished short
            have later := ih turned (not_le.mp short) (by
              rw [cursorsOf_concat next, List.length_append]
              exact finished)
            obtain ⟨more, state, reads, few⟩ := later
            refine ⟨page :: more, state, ?_, by simpa using few⟩
            rwa [List.append_assoc] at reads

theorem fetchCursorHistory_read {result : PublicHistoryRows} (positive : 0 < budget.limit)
    (finished : fetchCursorHistory loader elapsed budget = .ok result) :
    ∃ pages state, ReadOf loader budget.limit.toNat result pages state ∧ pages.length ≤ budget.maximumPages := by
  rw [fetchCursorHistory, if_neg (not_le.mpr positive)] at finished
  have room : (rowsOf []).length < budget.limit.toNat := by
    simp only [rowsOf, List.flatMap_nil, List.length_nil]
    omega
  obtain ⟨pages, state, reads, few⟩ := historyLoop_walk Walk.start room finished
  exact ⟨pages, state, reads, few⟩

/-- A history that was read is the beginning of a walk along fresh cursors; it is called complete
exactly when it is all of a walk that ended with a null cursor, and has as many rows as were
asked for otherwise. -/
theorem fetchCursorHistory_walk {result : PublicHistoryRows} (positive : 0 < budget.limit)
    (finished : fetchCursorHistory loader elapsed budget = .ok result) :
    ∃ pages state, Walk loader pages state ∧ (cursorsOf pages).Nodup ∧ pages.length ≤ budget.maximumPages ∧
      result.rows = (rowsOf pages).take budget.limit.toNat ∧
      (result.historyComplete = true ↔ state = none ∧ (rowsOf pages).length ≤ budget.limit.toNat) ∧
      (result.historyComplete = false → result.rows.length = budget.limit.toNat) := by
  obtain ⟨pages, state, reads, few⟩ := fetchCursorHistory_read positive finished
  exact ⟨pages, state, reads.walk, reads.walk.cursors_nodup, few, reads.rows, reads.complete, reads.full⟩

/-- A page of two rows and a last page of one. -/
def twoPages (request : PageRequest) : Except Text Json :=
  match request.cursor with
  | none => .ok (.obj [(text "data", .arr [.obj [], .obj []]),
      (text "pagination", .obj [(text "next_cursor", .str (text "n"))])])
  | some _ => .ok (.obj [(text "data", .arr [.obj []]), (text "pagination", .obj [(text "next_cursor", .null)])])

theorem fetchCursorHistory_twoPages :
    ∃ result pages state, fetchCursorHistory twoPages (fun _ => 0) { limit := 10 } = .ok result ∧
      result.historyComplete = true ∧ Walk twoPages pages state ∧ result.rows = (rowsOf pages).take 10 := by
  have finished : fetchCursorHistory twoPages (fun _ => 0) { limit := 10 } =
      .ok ⟨[.obj [], .obj [], .obj []], true⟩ := by decide +kernel
  obtain ⟨pages, state, walk, _, _, rows, _⟩ := fetchCursorHistory_walk (by decide) finished
  exact ⟨_, pages, state, finished, rfl, walk, rows⟩

end Walks

end MarketSentinel.Mdd
