import Mathlib.Data.List.Sort
import MarketSentinel.Library.Json
import MarketSentinel.Wallet.Polling

/-! Durable idempotency dispositions of web mutations.

An entry keeps the hashes of the client key and of the canonical request. Only
completed and rejected entries make room for new ones, and a completed wallet
receipt only after the client acknowledged it.
-/

set_option autoImplicit false

namespace MarketSentinel.Journal

open Python Wallet

inductive MutationJournalState where
  | pending
  | retryable
  | completed
  | rejected
  | ambiguous
  deriving DecidableEq

/-- The durable replayable batch of a wallet poll. -/
structure Receipt (Activity : Type) where
  result : PollResult Activity
  message : Text
  receiptId : Text
  deriving DecidableEq

/-- A stored response: the complete receipt of a wallet poll, or another document. -/
inductive Response (Activity : Type) where
  | receipt (receipt : Receipt Activity)
  | document (value : Json)
  deriving DecidableEq

def Response.empty {Activity : Type} : Response Activity := .document (.obj [])

structure MutationJournalEntry (Activity : Type) where
  keyHash : Text
  method : Text
  path : Text
  requestHash : Text
  live : Bool
  state : MutationJournalState := .pending
  responseStatus : Nat := 0
  response : Response Activity := .empty
  outcomeCode : Text := []
  outcomeMessage : Text := []
  id : Text
  createdAt : Nat
  updatedAt : Nat
  replayAuthorizedAt : Nat := 0
  deriving DecidableEq

abbrev Entry := MutationJournalEntry

def maxMutationJournalEntries : Nat := 256

def maxUnacknowledgedWalletPollReceipts : Nat := 16

def pollPath : Text := text "/api/wallets/poll"

def acknowledgedCode : Text := text "wallet_delivery_batch_acknowledged"

def committedBatchCode : Text := text "wallet_delivery_batch_committed"

variable {Activity : Type}

/-- A completed wallet poll receipt that no client has acknowledged. -/
def Unacknowledged (entry : Entry Activity) : Prop :=
  entry.state = .completed ∧ entry.path = pollPath ∧ entry.outcomeCode ≠ acknowledgedCode

instance (entry : Entry Activity) : Decidable (Unacknowledged entry) := by
  unfold Unacknowledged; infer_instance

def Removable (entry : Entry Activity) : Prop :=
  (entry.state = .completed ∨ entry.state = .rejected) ∧
    ¬(entry.state = .completed ∧ entry.path = pollPath ∧ entry.outcomeCode ≠ acknowledgedCode)

instance (entry : Entry Activity) : Decidable (Removable entry) := by
  unfold Removable; infer_instance

/-- Eviction order: update time, creation time, then identity. -/
def Older (first second : Entry Activity) : Prop :=
  first.updatedAt < second.updatedAt ∨ (first.updatedAt = second.updatedAt ∧
    (first.createdAt < second.createdAt ∨ (first.createdAt = second.createdAt ∧ first.id ≤ second.id)))

instance : DecidableRel (@Older Activity) := fun first second => by
  unfold Older; infer_instance

/-- Append an entry, evicting the oldest removable one when the journal is full. -/
def appendMutationJournal (journal : List (Entry Activity)) (entry : Entry Activity) :
    Option (List (Entry Activity)) :=
  if maxMutationJournalEntries ≤ journal.length then
    match (journal.filter fun item => decide (Removable item)).insertionSort Older with
    | [] => none
    | victim :: _ => some (journal.filter (fun item => decide (item.id ≠ victim.id)) ++ [entry])
  else some (journal ++ [entry])

inductive Resolution where
  | confirmedDispatched
  | confirmedNotDispatched
  | discard
  deriving DecidableEq

def resolution? (casing : Casing) (resolution : Text) : Option Resolution :=
  let normalized := (casing.lower (strip resolution)).map fun c => if c = 45 then 95 else c
  if normalized = text "confirmed_dispatched" then some .confirmedDispatched
  else if normalized = text "confirmed_not_dispatched" then some .confirmedNotDispatched
  else if normalized = text "discard" then some .discard
  else none

/-- An operator's disposition of an unresolved live entry. -/
def Entry.resolve (entry : Entry Activity) (resolution : Resolution) (stored : Response Activity)
    (now : Nat) : Entry Activity :=
  match resolution with
  | .confirmedDispatched => { entry with
      state := .completed
      responseStatus := 200
      response := stored
      outcomeCode := text "manual_dispatch_confirmed"
      outcomeMessage := text "Operator confirmed the live mutation in venue history."
      replayAuthorizedAt := 0
      updatedAt := now }
  | .confirmedNotDispatched => { entry with
      state := .retryable
      responseStatus := 0
      response := .empty
      outcomeCode := text "manual_dispatch_cleared"
      outcomeMessage := text "Operator confirmed no venue dispatch; one retry is authorized."
      replayAuthorizedAt := now
      updatedAt := now }
  | .discard => { entry with
      state := .rejected
      responseStatus := 409
      response := .empty
      outcomeCode := text "manual_dispatch_discarded"
      outcomeMessage := text "Operator discarded the ambiguous mutation without retry."
      replayAuthorizedAt := 0
      updatedAt := now }

inductive ReconcileError where
  | notFound
  | notReconcilable
  | unknownResolution
  deriving DecidableEq

def updateEntry (id : Text) (change : Entry Activity → Entry Activity) (journal : List (Entry Activity)) :
    List (Entry Activity) :=
  journal.map fun entry => if entry.id = id then change entry else entry

/-- Record a venue reconciliation; `stored` is the bounded response kept on confirmation. -/
def reconcileAmbiguousMutation (casing : Casing) (journal : List (Entry Activity)) (entryId resolution : Text)
    (stored : Response Activity) (now : Nat) : Except ReconcileError (List (Entry Activity)) :=
  match journal.find? fun entry => entry.id = entryId with
  | none => .error .notFound
  | some entry =>
    if entry.live = true ∧ (entry.state = .pending ∨ entry.state = .ambiguous) then
      match resolution? casing resolution with
      | none => .error .unknownResolution
      | some resolution => .ok (updateEntry entry.id (·.resolve resolution stored now) journal)
    else .error .notReconcilable

/-! ## Journals with one entry for each identity and each key -/

def Distinct (journal : List (Entry Activity)) : Prop :=
  (journal.map MutationJournalEntry.id).Nodup ∧ (journal.map MutationJournalEntry.keyHash).Nodup

instance (journal : List (Entry Activity)) : Decidable (Distinct journal) := by
  unfold Distinct; infer_instance

variable {journal after : List (Entry Activity)} {entry first second : Entry Activity}

theorem Distinct.eq_of_id (distinct : Distinct journal) (left : first ∈ journal) (right : second ∈ journal)
    (same : first.id = second.id) : first = second :=
  List.inj_on_of_nodup_map distinct.1 left right same

theorem Distinct.eq_of_key (distinct : Distinct journal) (left : first ∈ journal) (right : second ∈ journal)
    (same : first.keyHash = second.keyHash) : first = second :=
  List.inj_on_of_nodup_map distinct.2 left right same

theorem mem_updateEntry {id : Text} {change : Entry Activity → Entry Activity}
    (member : entry ∈ updateEntry id change journal) :
    entry ∈ journal ∨ ∃ old ∈ journal, old.id = id ∧ entry = change old := by
  obtain ⟨old, held, rfl⟩ := List.mem_map.mp member
  by_cases same : old.id = id
  · exact Or.inr ⟨old, held, same, if_pos same⟩
  · rw [if_neg same]
    exact Or.inl held

theorem updated_mem {id : Text} (change : Entry Activity → Entry Activity)
    (member : entry ∈ journal) (same : entry.id = id) :
    change entry ∈ updateEntry id change journal :=
  List.mem_map.mpr ⟨entry, member, if_pos same⟩

/-- A change that keeps identity and key keeps them distinct. -/
theorem Distinct.update (distinct : Distinct journal) (id : Text) {change : Entry Activity → Entry Activity}
    (identity : ∀ item, (change item).id = item.id) (key : ∀ item, (change item).keyHash = item.keyHash) :
    Distinct (updateEntry id change journal) := by
  have ids : (updateEntry id change journal).map MutationJournalEntry.id = journal.map MutationJournalEntry.id := by
    rw [updateEntry, List.map_map]
    refine List.map_congr_left fun item _ => ?_
    dsimp only [Function.comp]
    split
    · exact identity item
    · rfl
  have hashes : (updateEntry id change journal).map MutationJournalEntry.keyHash =
      journal.map MutationJournalEntry.keyHash := by
    rw [updateEntry, List.map_map]
    refine List.map_congr_left fun item _ => ?_
    dsimp only [Function.comp]
    split
    · exact key item
    · rfl
  exact ⟨ids ▸ distinct.1, hashes ▸ distinct.2⟩

/-- What an append does: it adds the entry and evicts at most one removable one. -/
theorem append_cases (distinct : Distinct journal)
    (appended : appendMutationJournal journal entry = some after) :
    after = journal ++ [entry] ∨ ∃ victim ∈ journal, Removable victim ∧
      ∀ item, item ∈ after ↔ item = entry ∨ (item ∈ journal ∧ item ≠ victim) := by
  unfold appendMutationJournal at appended
  split at appended
  · split at appended
    · cases appended
    · rename_i victim rest sorted
      cases appended
      have listed : victim ∈ journal.filter fun item => decide (Removable item) := by
        rw [← List.mem_insertionSort Older, sorted]
        exact List.mem_cons_self
      obtain ⟨member, removable⟩ := List.mem_filter.mp listed
      refine Or.inr ⟨victim, member, of_decide_eq_true removable, fun item => ?_⟩
      rw [List.mem_append, List.mem_filter, List.mem_singleton, decide_eq_true_iff, or_comm]
      constructor
      · exact Or.imp_right fun ⟨kept, other⟩ => ⟨kept, fun same => other (same ▸ rfl)⟩
      · exact Or.imp_right fun ⟨kept, other⟩ =>
          ⟨kept, fun same => other (distinct.eq_of_id kept member same)⟩
  · cases appended
    exact Or.inl rfl

/-- An unresolved entry and an unacknowledged receipt survive every append. -/
theorem append_keeps (distinct : Distinct journal)
    (appended : appendMutationJournal journal entry = some after) {item : Entry Activity}
    (member : item ∈ journal) (kept : ¬Removable item) : item ∈ after := by
  rcases append_cases distinct appended with rfl | ⟨victim, _, removable, exact_⟩
  · exact List.mem_append_left _ member
  · exact (exact_ item).mpr (Or.inr ⟨member, fun same => kept (same ▸ removable)⟩)

theorem mem_append_cases (distinct : Distinct journal)
    (appended : appendMutationJournal journal entry = some after) {item : Entry Activity}
    (member : item ∈ after) : item = entry ∨ item ∈ journal := by
  rcases append_cases distinct appended with rfl | ⟨victim, _, _, exact_⟩
  · exact (List.mem_append.mp member).symm.imp_left List.mem_singleton.mp
  · exact ((exact_ item).mp member).imp_right And.left

theorem entry_mem_append (appended : appendMutationJournal journal entry = some after) : entry ∈ after := by
  unfold appendMutationJournal at appended
  split at appended
  · split at appended
    · cases appended
    · cases appended
      simp
  · cases appended
    simp

end MarketSentinel.Journal
