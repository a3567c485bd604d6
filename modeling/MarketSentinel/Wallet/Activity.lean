import Mathlib.Data.List.Sort
import MarketSentinel.Library.Dict
import MarketSentinel.Library.Text

/-! Wallet activity cursors.

A cursor is a timestamp with the identities seen at it. Remembering a fill moves
the timestamp forward and forgets identities that the timestamp already excludes.
-/

set_option autoImplicit false

namespace MarketSentinel.Wallet

open Python

/-- A normalized upstream fill: the identities, time, market and hash that polling reads. -/
structure Fill where
  key : Text
  legacyKey : Option Text
  timestamp : Int
  slug : Text
  transactionHash : Text
  deriving DecidableEq

def Fill.Before (first second : Fill) : Prop := first.timestamp ≤ second.timestamp

instance : DecidableRel Fill.Before := fun first second => by unfold Fill.Before; infer_instance

instance : Std.Total Fill.Before := ⟨fun first second => le_total first.timestamp second.timestamp⟩

instance : IsTrans Fill Fill.Before := ⟨fun _ _ _ => le_trans⟩

structure Cursor where
  lastSeenTs : Int
  lastSeenTx : Text
  seenActivityKeys : List Text
  activityKeyTimestamps : Dict Text Int
  deriving DecidableEq

def Cursor.empty : Cursor := ⟨0, [], [], []⟩

/-- A tracked wallet; `cursor` holds the cursor fields of `activityCursorMarketId`. -/
structure WalletWatch where
  wallet : Text
  enabled : Bool
  cursor : Cursor
  activityCursorMarketId : Text
  activityCursors : Dict Text Cursor
  onlyMarketSlug : Text
  deriving DecidableEq

def cursorForMarket (watch : WalletWatch) (marketId : Text) : Cursor :=
  if marketId = watch.activityCursorMarketId then watch.cursor
  else (watch.activityCursors.get? marketId).getD Cursor.empty

def maxActivityKeys : Nat := 10000

/-- The identities without a known time, or with one the timestamp does not exclude. -/
def Cursor.keptKeys (cursor : Cursor) (next : Int) : List Text :=
  cursor.seenActivityKeys.filter fun value =>
    match cursor.activityKeyTimestamps.get? value with
    | some known => decide (next ≤ known)
    | none => true

def addKey (keys : List Text) (key : Text) : List Text := if key ∈ keys then keys else keys ++ [key]

/-- The cursor after a fill, or nothing when its identity ledger is full. -/
def Cursor.remember (cursor : Cursor) (item : Fill) : Option Cursor :=
  let next := max cursor.lastSeenTs item.timestamp
  let keys := addKey (cursor.keptKeys next) item.key
  let known := cursor.activityKeyTimestamps.filter fun entry => decide (next ≤ entry.2)
  if maxActivityKeys < keys.length then none
  else some {
    lastSeenTs := next
    lastSeenTx := if item.transactionHash = [] then cursor.lastSeenTx else item.transactionHash
    seenActivityKeys := keys
    activityKeyTimestamps := Dict.set known item.key item.timestamp }

theorem mem_keptKeys (cursor : Cursor) (next : Int) (key : Text) :
    key ∈ cursor.keptKeys next ↔ key ∈ cursor.seenActivityKeys ∧
      ∀ known, cursor.activityKeyTimestamps.get? key = some known → next ≤ known := by
  unfold Cursor.keptKeys
  rw [List.mem_filter]
  cases cursor.activityKeyTimestamps.get? key <;> simp

theorem mem_addKey (keys : List Text) (key other : Text) :
    other ∈ addKey keys key ↔ other = key ∨ other ∈ keys := by
  unfold addKey
  split
  · rename_i present
    exact ⟨Or.inr, fun either => either.elim (fun same => same ▸ present) id⟩
  · rw [List.mem_append, List.mem_singleton, or_comm]

/-- Replace the cursor of a market, keeping the cursor of the market that was selected. -/
def WalletWatch.withCursor (watch : WalletWatch) (marketId : Text) (cursor : Cursor) : WalletWatch :=
  if marketId = watch.activityCursorMarketId then { watch with cursor := cursor }
  else { watch with
    activityCursors := watch.activityCursors.set watch.activityCursorMarketId watch.cursor
    activityCursorMarketId := marketId
    cursor := cursor }

def rememberActivity (watch : WalletWatch) (item : Fill) (marketId : Text) : Option WalletWatch :=
  ((cursorForMarket watch marketId).remember item).map (watch.withCursor marketId)

@[simp] theorem cursorForMarket_withCursor (watch : WalletWatch) (marketId : Text) (cursor : Cursor) :
    cursorForMarket (watch.withCursor marketId cursor) marketId = cursor := by
  unfold WalletWatch.withCursor
  split
  · rename_i selected
    simp [cursorForMarket, selected]
  · simp [cursorForMarket]

/-- Other markets keep their cursors, the previously selected one included. -/
theorem cursorForMarket_withCursor_ne (watch : WalletWatch) {marketId other : Text} (cursor : Cursor)
    (different : other ≠ marketId) :
    cursorForMarket (watch.withCursor marketId cursor) other = cursorForMarket watch other := by
  unfold WalletWatch.withCursor
  by_cases selected : marketId = watch.activityCursorMarketId
  · have elsewhere : other ≠ watch.activityCursorMarketId := selected ▸ different
    simp [selected, cursorForMarket, elsewhere]
  · rw [if_neg selected]
    by_cases current : other = watch.activityCursorMarketId
    · subst current
      simp [cursorForMarket, different]
    · simp [cursorForMarket, different, current, Dict.get?_set_ne _ (Ne.symm current)]

/-! ## The cursor as a record of consumption -/

/-- The fills of an honest upstream, with the identities remembered from before them. -/
structure History where
  earlier : List Text
  fills : List Fill
  distinct : (fills.map Fill.key).Nodup
  fresh : ∀ fill ∈ fills, fill.key ∉ earlier

/-- A new identity joins the history. -/
def History.append (history : History) (fill : Fill) (unseen : fill.key ∉ history.earlier)
    (new : fill.key ∉ history.fills.map Fill.key) : History where
  earlier := history.earlier
  fills := history.fills ++ [fill]
  distinct := by
    rw [List.map_append, List.nodup_append]
    refine ⟨history.distinct, by simp, ?_⟩
    intro key member other last
    rw [List.map_singleton, List.mem_singleton] at last
    exact fun same => new (last ▸ same ▸ member)
  fresh := by
    intro other member
    rcases List.mem_append.mp member with old | last
    · exact history.fresh other old
    · rw [List.mem_singleton.mp last]
      exact unseen

theorem History.eq_of_key (history : History) {first second : Fill} (left : first ∈ history.fills)
    (right : second ∈ history.fills) (same : first.key = second.key) : first = second :=
  List.inj_on_of_nodup_map history.distinct left right same

/-- The next poll reads the fill as new. -/
def Eligible (cursor : Cursor) (fill : Fill) : Prop :=
  cursor.lastSeenTs ≤ fill.timestamp ∧ fill.key ∉ cursor.seenActivityKeys

/-- The cursor excludes exactly the consumed fills, which are a chronological prefix. -/
structure Records (cursor : Cursor) (history : History) (consumed : List Fill) : Prop where
  member : ∀ fill ∈ consumed, fill ∈ history.fills
  once : consumed.Nodup
  ordered : consumed.Pairwise fun first second => first.timestamp ≤ second.timestamp
  passed : ∀ fill ∈ consumed, fill.timestamp ≤ cursor.lastSeenTs
  pending : ∀ fill ∈ history.fills, fill ∉ consumed → cursor.lastSeenTs ≤ fill.timestamp
  remembered : ∀ fill ∈ consumed, cursor.lastSeenTs ≤ fill.timestamp → fill.key ∈ cursor.seenActivityKeys
  keys : ∀ key ∈ cursor.seenActivityKeys, key ∈ history.earlier ∨ ∃ fill ∈ consumed, fill.key = key
  dated : ∀ entry ∈ cursor.activityKeyTimestamps,
    entry.1 ∈ history.earlier ∨ ∃ fill ∈ consumed, entry = (fill.key, fill.timestamp)

variable {cursor : Cursor} {history : History} {consumed : List Fill}

theorem Records.eligible_iff (records : Records cursor history consumed) {fill : Fill}
    (member : fill ∈ history.fills) : Eligible cursor fill ↔ fill ∉ consumed := by
  constructor
  · rintro ⟨recent, unseen⟩ used
    exact unseen (records.remembered fill used recent)
  · intro unused
    refine ⟨records.pending fill member unused, fun seen => ?_⟩
    rcases records.keys fill.key seen with old | ⟨other, used, same⟩
    · exact history.fresh fill member old
    · exact unused (history.eq_of_key (records.member other used) member same ▸ used)

/-- The consumed fills begin a chronological order of the whole history. -/
theorem Records.prefix_of_history (records : Records cursor history consumed) :
    ∃ rest, (consumed ++ rest).Perm history.fills ∧
      (consumed ++ rest).Pairwise fun first second => first.timestamp ≤ second.timestamp := by
  let unused := history.fills.filter fun fill => decide (fill ∉ consumed)
  have sorted : (unused.insertionSort Fill.Before).Perm unused := List.perm_insertionSort _ _
  have nodup : history.fills.Nodup := history.distinct.of_map
  refine ⟨unused.insertionSort Fill.Before, ?_, ?_⟩
  · refine (List.perm_ext_iff_of_nodup ?_ nodup).mpr fun fill => ?_
    · refine List.nodup_append.mpr ⟨records.once, sorted.nodup_iff.mpr (nodup.filter _), ?_⟩
      rintro fill used other pending rfl
      have unread := (List.mem_filter.mp (sorted.mem_iff.mp pending)).2
      exact of_decide_eq_true unread used
    · rw [List.mem_append, sorted.mem_iff, List.mem_filter, decide_eq_true_iff]
      constructor
      · exact fun either => either.elim (records.member fill) And.left
      · intro member
        by_cases used : fill ∈ consumed
        · exact Or.inl used
        · exact Or.inr ⟨member, used⟩
  · refine List.pairwise_append.mpr ⟨records.ordered, List.pairwise_insertionSort _ _, ?_⟩
    intro first used second pending
    obtain ⟨member, unread⟩ := List.mem_filter.mp (sorted.mem_iff.mp pending)
    exact (records.passed first used).trans (records.pending second member (of_decide_eq_true unread))

/-- What the bounded ledger holds after a fill. -/
theorem remember_eq {next : Cursor} {item : Fill} (remembered : cursor.remember item = some next) :
    next.lastSeenTs = max cursor.lastSeenTs item.timestamp ∧
    (∀ key, key ∈ next.seenActivityKeys ↔ key = item.key ∨ (key ∈ cursor.seenActivityKeys ∧
      ∀ known, cursor.activityKeyTimestamps.get? key = some known → next.lastSeenTs ≤ known)) ∧
    (∀ entry ∈ next.activityKeyTimestamps,
      entry = (item.key, item.timestamp) ∨ entry ∈ cursor.activityKeyTimestamps) := by
  unfold Cursor.remember at remembered
  simp only at remembered
  split at remembered
  · cases remembered
  · cases remembered
    refine ⟨rfl, fun key => ?_, fun entry member => ?_⟩
    · rw [mem_addKey, mem_keptKeys]
    · rcases Dict.mem_set member with rfl | old
      · exact Or.inl rfl
      · exact Or.inr (List.mem_filter.mp old).1

/-- Consuming the oldest pending fill keeps the record. -/
theorem remember_records {next : Cursor} {item : Fill} (records : Records cursor history consumed)
    (member : item ∈ history.fills) (unused : item ∉ consumed)
    (oldest : ∀ fill ∈ history.fills, fill ∉ consumed → item.timestamp ≤ fill.timestamp)
    (remembered : cursor.remember item = some next) :
    Records next history (consumed ++ [item]) := by
  obtain ⟨time, keys, dates⟩ := remember_eq remembered
  have advanced : next.lastSeenTs = item.timestamp := by
    rw [time, max_eq_right (records.pending item member unused)]
  refine ⟨?_, ?_, ?_, ?_, ?_, ?_, ?_, ?_⟩
  · intro fill used
    rcases List.mem_append.mp used with old | last
    · exact records.member fill old
    · rwa [List.mem_singleton.mp last]
  · refine List.nodup_append.mpr ⟨records.once, by simp, ?_⟩
    intro fill used other last same
    exact unused (List.mem_singleton.mp last ▸ same ▸ used)
  · refine List.pairwise_append.mpr ⟨records.ordered, by simp, ?_⟩
    intro fill used other last
    rw [List.mem_singleton.mp last]
    exact (records.passed fill used).trans (records.pending item member unused)
  · intro fill used
    rw [advanced]
    rcases List.mem_append.mp used with old | last
    · exact (records.passed fill old).trans (records.pending item member unused)
    · rw [List.mem_singleton.mp last]
  · intro fill known unread
    rw [advanced]
    exact oldest fill known fun old => unread (List.mem_append_left _ old)
  · intro fill used recent
    rw [keys]
    rcases List.mem_append.mp used with old | last
    · refine Or.inr ⟨records.remembered fill old ?_, fun known found => ?_⟩
      · exact (time ▸ le_max_left _ _ : cursor.lastSeenTs ≤ next.lastSeenTs).trans recent
      · -- A dated identity of the history carries the time of its own fill.
        rcases records.dated _ (Dict.mem_of_get? found) with before | ⟨other, usedOther, same⟩
        · exact absurd before (history.fresh fill (records.member fill old))
        · obtain ⟨sameKey, rfl⟩ := Prod.ext_iff.mp same
          rw [← history.eq_of_key (records.member fill old) (records.member other usedOther) sameKey]
          exact recent
    · exact Or.inl (by rw [List.mem_singleton.mp last])
  · intro key seen
    rcases (keys key).mp seen with rfl | ⟨old, _⟩
    · exact Or.inr ⟨item, by simp, rfl⟩
    · exact (records.keys key old).imp_right fun ⟨fill, used, same⟩ =>
        ⟨fill, List.mem_append_left _ used, same⟩
  · intro entry present
    rcases dates entry present with rfl | old
    · exact Or.inr ⟨item, by simp, rfl⟩
    · exact (records.dated entry old).imp_right fun ⟨fill, used, same⟩ =>
        ⟨fill, List.mem_append_left _ used, same⟩

/-- A new fill at or after the cursor joins the pending ones. -/
theorem append_records {fill : Fill} (records : Records cursor history consumed)
    (unseen : fill.key ∉ history.earlier) (new : fill.key ∉ history.fills.map Fill.key)
    (recent : cursor.lastSeenTs ≤ fill.timestamp) :
    Records cursor (history.append fill unseen new) consumed where
  member other used := List.mem_append_left _ (records.member other used)
  once := records.once
  ordered := records.ordered
  passed := records.passed
  pending other member unused := by
    rcases List.mem_append.mp member with old | last
    · exact records.pending other old unused
    · rwa [List.mem_singleton.mp last]
  remembered := records.remembered
  keys := records.keys
  dated := records.dated

end MarketSentinel.Wallet
