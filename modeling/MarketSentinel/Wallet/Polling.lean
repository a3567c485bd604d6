import Mathlib.Data.List.Sort
import MarketSentinel.Library.Result
import MarketSentinel.Wallet.Activity

/-! One staged poll of the tracked wallets.

Complete reads establish coverage; only emitted fills and known filter skips are
consumed. Nothing is published unless the whole poll succeeds.
-/

set_option autoImplicit false

namespace MarketSentinel.Wallet

open Python

def walletPollBatchItems : Nat := 100

def maxObservedItems : Nat := 50000

/-- An event or a response that does not fit, or any other failure. -/
inductive Refusal where
  | tooLarge
  | other
  deriving DecidableEq

structure Delivery (Activity : Type) where
  walletIndex : Nat
  item : Fill
  activity : Activity
  deriving DecidableEq

/-- The staged copies of one poll. `consumed` lists the fills this poll consumed,
emitted or filtered; no branch reads it. -/
structure Staged (Activity : Type) where
  wallets : List WalletWatch
  recent : List Activity
  emitted : List (Delivery Activity)
  consumedFiltered : Nat
  remaining : Int
  consumed : List (Nat × Fill)
  deriving DecidableEq

structure PollResult (Activity : Type) where
  activity : List Activity
  problems : List Text
  polledWallets : Nat
  deliveredActivity : Nat
  hasMore : Bool
  remainingActivity : Option Int
  consumedFiltered : Nat
  batchLimit : Nat
  deriving DecidableEq

inductive Collected where
  | items (newestFirst : List Fill)
  | failed (problem : Text)
  | cancelled

/-- What a poll meets outside: upstream reads, response budgets, payloads and copy
previews. A deadline that expires is a failure of the next of them. -/
structure Environment (Activity : Type) where
  collect : Nat → Collected
  preflight : Staged Activity → PollResult Activity → Except Refusal Unit
  payload : WalletWatch → Fill → Except Refusal Activity
  preview : Staged Activity → Fill → Activity → Except Refusal Activity

inductive Interruption where
  | problem (text : Text)
  | cancelled

/-- A pending fill; the last three positions order the delivery. -/
structure Candidate where
  walletIndex : Nat
  itemIndex : Nat
  item : Fill

def matchesSlug (watch : WalletWatch) (item : Fill) : Bool :=
  watch.onlyMarketSlug = [] || item.slug = watch.onlyMarketSlug

def legacyProblem : Text :=
  text "Legacy transaction checkpoint requires fill reconciliation; cursor unchanged."

def capacityProblem : Text :=
  text "Aggregate wallet history exceeds the bounded poll capacity; cursor unchanged."

def walletProblem (watch : WalletWatch) (problem : Text) : Interruption :=
  .problem (watch.wallet ++ text ": " ++ problem)

/-- The new fills of one wallet, oldest first. -/
def candidatesOf (watch : WalletWatch) (cursor : Cursor) (walletIndex : Nat) :
    List Text → Nat → List Fill → Except Interruption (List Candidate)
  | _, _, [] => .ok []
  | seen, itemIndex, item :: rest =>
    if item.key ∈ seen ∨ item.timestamp < cursor.lastSeenTs then
      candidatesOf watch cursor walletIndex seen (itemIndex + 1) rest
    else if item.legacyKey.any fun legacy => decide (legacy ≠ [] ∧ legacy ≠ item.key ∧ legacy ∈ seen) then
      .error (walletProblem watch legacyProblem)
    else
      (candidatesOf watch cursor walletIndex (item.key :: seen) (itemIndex + 1) rest).map
        (⟨walletIndex, itemIndex, item⟩ :: ·)

variable {Activity : Type}

/-- The candidates of every enabled wallet; positions in the whole list order the
enabled wallets as positions among them do. -/
def gather (env : Environment Activity) (marketId : Text) :
    Nat → List (WalletWatch × Nat) → Except Interruption (List Candidate)
  | _, [] => .ok []
  | observed, (watch, walletIndex) :: rest =>
    if watch.enabled then
      match env.collect walletIndex with
      | .cancelled => .error .cancelled
      | .failed problem => .error (walletProblem watch problem)
      | .items items =>
        if maxObservedItems < observed + items.length then .error (walletProblem watch capacityProblem)
        else do
          let cursor := cursorForMarket watch marketId
          let own ← candidatesOf watch cursor walletIndex cursor.seenActivityKeys 0 items.reverse
          let others ← gather env marketId (observed + items.length) rest
          return own ++ others
    else gather env marketId observed rest

/-- Time, then wallet, then upstream order. -/
def Candidate.Before (first second : Candidate) : Prop :=
  first.item.timestamp < second.item.timestamp ∨
    (first.item.timestamp = second.item.timestamp ∧
      (first.walletIndex < second.walletIndex ∨
        (first.walletIndex = second.walletIndex ∧ first.itemIndex ≤ second.itemIndex)))

instance : DecidableRel Candidate.Before := fun first second => by
  unfold Candidate.Before; infer_instance

def Staged.result (s : Staged Activity) (maxBatchItems : Nat) : PollResult Activity where
  activity := (s.emitted.map Delivery.activity).reverse
  problems := []
  polledWallets := (s.wallets.filter WalletWatch.enabled).length
  deliveredActivity := s.emitted.length
  hasMore := decide (0 < s.remaining)
  remainingActivity := some s.remaining
  consumedFiltered := s.consumedFiltered
  batchLimit := maxBatchItems

/-- A poll that met a problem reports it and nothing else. -/
def problemResult (wallets : List WalletWatch) (problem : Text) (maxBatchItems : Nat) : PollResult Activity where
  activity := []
  problems := [problem]
  polledWallets := (wallets.filter WalletWatch.enabled).length
  deliveredActivity := 0
  hasMore := true
  remainingActivity := none
  consumedFiltered := 0
  batchLimit := maxBatchItems

/-- Emit an event and show it in the bounded recent view. -/
def Staged.emit (s : Staged Activity) (walletIndex : Nat) (item : Fill) (activity : Activity) :
    Staged Activity :=
  { s with
    emitted := s.emitted ++ [⟨walletIndex, item, activity⟩]
    remaining := s.remaining - 1
    recent := (activity :: s.recent).take 100 }

/-- Move the wallet's cursor past the fill. -/
def Staged.consume (s : Staged Activity) (walletIndex : Nat) (item : Fill) (watch : WalletWatch) :
    Staged Activity :=
  { s with
    wallets := s.wallets.set walletIndex watch
    consumed := s.consumed ++ [(walletIndex, item)] }

section Poll

variable (env : Environment Activity) (marketId : Text) (maxBatchItems : Nat) (advanceSeen : Bool)

def advance (watch : WalletWatch) (item : Fill) : Except Refusal WalletWatch :=
  if advanceSeen then
    match rememberActivity watch item marketId with
    | some next => .ok next
    | none => .error .other
  else .ok watch

/-- Consume one candidate: skip it when filtered, else emit it and enrich it with a preview. -/
def attempt (s : Staged Activity) (watch : WalletWatch) (c : Candidate) : Except Refusal (Staged Activity) := do
  let next ← advance marketId advanceSeen watch c.item
  let s := s.consume c.walletIndex c.item next
  if matchesSlug watch c.item then
    let activity ← env.payload next c.item
    let raw := s.emit c.walletIndex c.item activity
    -- Oversized raw events do not trigger copy work.
    env.preflight raw (raw.result maxBatchItems)
    let enriched ← env.preview raw c.item activity
    let full := s.emit c.walletIndex c.item enriched
    env.preflight full (full.result maxBatchItems)
    return full
  else
    let skipped := { s with consumedFiltered := s.consumedFiltered + 1 }
    env.preflight skipped (skipped.result maxBatchItems)
    return skipped

structure Progress (Activity : Type) where
  staged : Staged Activity
  blocked : List Nat
  deliveryFull : Bool

def Progress.block (p : Progress Activity) (walletIndex : Nat) : Progress Activity :=
  { p with blocked := walletIndex :: p.blocked, deliveryFull := true }

/-- One candidate. A blocked wallet consumes nothing more in this poll. -/
def deliver (p : Progress Activity) (c : Candidate) : Except Refusal (Progress Activity) :=
  match p.staged.wallets[c.walletIndex]? with
  | none => .ok p
  | some watch =>
    if c.walletIndex ∈ p.blocked then .ok p
    else if matchesSlug watch c.item ∧ (p.deliveryFull = true ∨ maxBatchItems ≤ p.staged.emitted.length) then
      .ok (p.block c.walletIndex)
    else
      match attempt env marketId maxBatchItems advanceSeen p.staged watch c with
      | .ok staged => .ok { p with staged := staged }
      | .error .tooLarge =>
        if p.staged.emitted = [] then .error .tooLarge else .ok (p.block c.walletIndex)
      | .error .other => .error .other

def deliverAll (p : Progress Activity) : List Candidate → Except Refusal (Progress Activity)
  | [] => .ok p
  | c :: rest => do
    let next ← deliver env marketId maxBatchItems advanceSeen p c
    deliverAll next rest

inductive PollError where
  | batchLimit
  | refused (refusal : Refusal)
  | cancelled
  deriving DecidableEq

/-- A published batch, or a problem that leaves wallets and recent view unpublished. -/
inductive PollOutcome (Activity : Type) where
  | published (staged : Staged Activity) (result : PollResult Activity)
  | incomplete (result : PollResult Activity)
  deriving DecidableEq

def refuse {α : Type} (x : Except Refusal α) : Except PollError α := x.mapError .refused

def startStaged (wallets : List WalletWatch) (recent : List Activity) : Staged Activity :=
  ⟨wallets, recent.take 100, [], 0, 0, []⟩

/-- The number of gathered candidates that pass their wallet's filter. -/
def matchingCount (wallets : List WalletWatch) (candidates : List Candidate) : Nat :=
  candidates.countP fun c => (wallets[c.walletIndex]?).any fun watch => matchesSlug watch c.item

def startProgress (wallets : List WalletWatch) (recent : List Activity) (candidates : List Candidate) :
    Progress Activity :=
  ⟨{ startStaged wallets recent with remaining := matchingCount wallets candidates }, [], false⟩

def pollWalletActivity (wallets : List WalletWatch) (recent : List Activity) :
    Except PollError (PollOutcome Activity) :=
  if 1 ≤ maxBatchItems ∧ maxBatchItems ≤ walletPollBatchItems then do
    let staged := startStaged wallets recent
    refuse (env.preflight staged (staged.result maxBatchItems))
    match gather env marketId 0 wallets.zipIdx with
    | .error .cancelled => .error .cancelled
    | .error (.problem problem) => .ok (.incomplete (problemResult wallets problem maxBatchItems))
    | .ok candidates =>
      let final ← refuse (deliverAll env marketId maxBatchItems advanceSeen
        (startProgress wallets recent candidates) (candidates.insertionSort Candidate.Before))
      refuse (env.preflight final.staged (final.staged.result maxBatchItems))
      return .published final.staged (final.staged.result maxBatchItems)
  else .error .batchLimit

variable {env marketId maxBatchItems advanceSeen}

theorem refuse_eq_ok {α : Type} {x : Except Refusal α} {a : α} : refuse x = .ok a ↔ x = .ok a := by
  cases x <;> simp [refuse, Except.mapError]

/-- A published poll delivered every gathered candidate in order. -/
theorem poll_published {wallets : List WalletWatch} {recent : List Activity} {s : Staged Activity}
    {result : PollResult Activity}
    (success : pollWalletActivity env marketId maxBatchItems advanceSeen wallets recent =
      .ok (.published s result)) :
    ∃ candidates final, gather env marketId 0 wallets.zipIdx = .ok candidates ∧
      deliverAll env marketId maxBatchItems advanceSeen (startProgress wallets recent candidates)
        (candidates.insertionSort Candidate.Before) = .ok final ∧
      s = final.staged ∧ result = final.staged.result maxBatchItems := by
  unfold pollWalletActivity at success
  split at success
  · obtain ⟨_, _, rest⟩ := Result.bind_eq_ok.mp success
    cases gathered : gather env marketId 0 wallets.zipIdx with
    | error interruption => cases interruption <;> simp [gathered] at rest
    | ok candidates =>
      simp only [gathered] at rest
      obtain ⟨final, delivered, rest⟩ := Result.bind_eq_ok.mp rest
      obtain ⟨_, _, published⟩ := Result.bind_eq_ok.mp rest
      cases published
      exact ⟨candidates, final, rfl, refuse_eq_ok.mp delivered, rfl, rfl⟩
  · cases success

end Poll

end MarketSentinel.Wallet
