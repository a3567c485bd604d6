import Mathlib.Logic.Function.Basic
import Mathlib.Algebra.Order.Ring.Rat
import Mathlib.Tactic.Linarith
import MarketSentinel.Library.Dict
import MarketSentinel.Library.Text

/-! Pacing of the requests to a venue by the limiter that its adapters share.

A step is one section under a lock, or one look at the clock. An interval is finite,
a clock never goes back, and clock arithmetic is exact: no sum of times is rounded.
-/

set_option autoImplicit false

namespace MarketSentinel.Venue.Pacing

open Python

/-- `holder` is the dispatch that holds the lock of the schedule. -/
structure RateLimiter where
  minIntervalSeconds : ℚ
  nextAllowedAt : ℚ
  holder : Option Nat

namespace RateLimiter

def new (minIntervalSeconds : ℚ) : RateLimiter := ⟨max 0 minIntervalSeconds, 0, none⟩

/-- The section of `strengthen_interval`. -/
def strengthenInterval (limiter : RateLimiter) (interval : ℚ) : RateLimiter where
  minIntervalSeconds := max limiter.minIntervalSeconds interval
  nextAllowedAt :=
    if 0 < limiter.nextAllowedAt then limiter.nextAllowedAt + max 0 (interval - limiter.minIntervalSeconds)
    else limiter.nextAllowedAt
  holder := limiter.holder

/-- The end of a slot in which a request was dispatched. -/
def reserve (limiter : RateLimiter) (now : ℚ) : RateLimiter where
  minIntervalSeconds := limiter.minIntervalSeconds
  nextAllowedAt := max now limiter.nextAllowedAt + limiter.minIntervalSeconds
  holder := none

end RateLimiter

/-- The limiter of a venue, and the adapters that were added to its weak set. -/
structure SharedRateLimiter where
  limiter : Nat
  owners : List Nat

/-- Where an adapter stands: its constructor compares the intervals, may wait for the lock, and returns. -/
inductive Stage where
  | absent
  | comparing
  | locking
  | ready
  | collected
  deriving DecidableEq

def Stage.live : Stage → Bool
  | .comparing | .locking | .ready => true
  | _ => false

structure Adapter where
  venue : Text
  interval : ℚ
  limiter : Nat
  stage : Stage

/-- Where a dispatch stands: it holds the lock, waited long enough, runs, and has ended. -/
inductive Slot where
  | absent
  | held
  | cleared
  | running
  | ended
  deriving DecidableEq

/-- `strictest` is the strictest interval that was registered for the venue when the slot was obtained. -/
structure Dispatch where
  adapter : Nat
  slot : Slot
  strictest : ℚ

/-- The start of a request, with the limiter and the interval of its adapter. -/
structure Start where
  adapter : Nat
  venue : Text
  interval : ℚ
  limiter : Nat
  dispatch : Nat
  started : ℚ
  strictest : ℚ

def maxSharedRateLimiters : Nat := 1024

structure World where
  clock : ℚ
  registry : Dict Text SharedRateLimiter
  limiters : Nat → RateLimiter
  adapters : Nat → Adapter
  created : List Nat
  dispatches : Nat → Dispatch
  slots : List Nat
  log : List Start

namespace World

def liveOwners (world : World) (entry : SharedRateLimiter) : List Nat :=
  entry.owners.filter fun owner => (world.adapters owner).stage.live

def removable (world : World) (entry : SharedRateLimiter) : Bool :=
  decide (world.liveOwners entry = []) && decide ((world.limiters entry.limiter).nextAllowedAt ≤ world.clock)

def setAdapter (world : World) (id : Nat) (adapter : Adapter) : World :=
  { world with adapters := Function.update world.adapters id adapter, created := world.created ++ [id] }

/-- The section of `_venue_rate_limiter` under the lock of the registry. -/
def venueRateLimiter (world : World) (id : Nat) (venue : Text) (interval : ℚ) : World :=
  match world.registry.get? venue with
  | some entry =>
    { world.setAdapter id ⟨venue, interval, entry.limiter, .comparing⟩ with
      registry := world.registry.set venue { entry with owners := entry.owners ++ [id] } }
  | none =>
    if interval ≤ 0 then
      { world.setAdapter id ⟨venue, interval, id, .ready⟩ with
        limiters := Function.update world.limiters id (.new 0) }
    else
      let registry : Dict Text SharedRateLimiter := world.registry.filter fun entry => !world.removable entry.2
      if maxSharedRateLimiters ≤ registry.length then
        { world.setAdapter id ⟨venue, interval, id, .collected⟩ with registry := registry }
      else
        { world.setAdapter id ⟨venue, interval, id, .comparing⟩ with
          registry := registry.set venue ⟨id, [id]⟩
          limiters := Function.update world.limiters id (.new interval) }

/-- The strictest interval of the adapters of a venue that are live and whose constructor has returned. -/
def strictest (world : World) (venue : Text) : ℚ :=
  ((world.created.filter fun id =>
    decide ((world.adapters id).venue = venue ∧ (world.adapters id).stage = .ready)).map
      fun id => (world.adapters id).interval).foldr max 0

def setStage (world : World) (id : Nat) (stage : Stage) : World :=
  { world with adapters := Function.update world.adapters id { world.adapters id with stage } }

def limiterOf (world : World) (id : Nat) : RateLimiter := world.limiters (world.adapters id).limiter

def setLimiter (world : World) (id : Nat) (limiter : RateLimiter) : World :=
  { world with limiters := Function.update world.limiters (world.adapters id).limiter limiter }

def setSlot (world : World) (dispatch : Nat) (slot : Slot) : World :=
  { world with dispatches := Function.update world.dispatches dispatch { world.dispatches dispatch with slot } }

def start (world : World) (id dispatch : Nat) (strictest : ℚ) : Start where
  adapter := id
  venue := (world.adapters id).venue
  interval := (world.adapters id).interval
  limiter := (world.adapters id).limiter
  dispatch := dispatch
  started := world.clock
  strictest := strictest

end World

inductive Action where
  | tick (now : ℚ)
  | create (id : Nat) (venue : Text) (interval : ℚ)
  | compare (id : Nat)
  | strengthen (id : Nat)
  | collect (id : Nat)
  | free (id : Nat)
  | acquire (dispatch id : Nat)
  | clear (dispatch : Nat)
  | abandon (dispatch : Nat)
  | dispatch (dispatch : Nat)
  | finish (dispatch : Nat)

/-- One step, when it can be taken. -/
def step (world : World) : Action → Option World
  | .tick now => if world.clock ≤ now then some { world with clock := now } else none
  | .create id venue interval =>
    if (world.adapters id).stage = .absent ∧ 0 ≤ interval then some (world.venueRateLimiter id venue interval) else none
  -- the look at the interval before the lock is taken
  | .compare id =>
    if (world.adapters id).stage = .comparing then
      some (world.setStage id
        (if (world.adapters id).interval ≤ (world.limiterOf id).minIntervalSeconds then .ready else .locking))
    else none
  | .strengthen id =>
    if (world.adapters id).stage = .locking ∧ (world.limiterOf id).holder = none then
      some ((world.setLimiter id ((world.limiterOf id).strengthenInterval (world.adapters id).interval)).setStage id .ready)
    else none
  -- an adapter in a slot is referred to, and a constructor may give up waiting for the lock
  | .collect id =>
    if (world.adapters id).stage = .locking ∨
        ((world.adapters id).stage = .ready ∧ ∀ dispatch ∈ world.slots, (world.dispatches dispatch).adapter ≠ id) then
      some (world.setStage id .collected)
    else none
  -- a limiter without an interval gives no slots
  | .free id =>
    if (world.adapters id).stage = .ready ∧ (world.limiterOf id).minIntervalSeconds ≤ 0 then
      some { world with log := world.log ++ [world.start id 0 0] }
    else none
  | .acquire dispatch id =>
    if (world.adapters id).stage = .ready ∧ 0 < (world.limiterOf id).minIntervalSeconds ∧ (world.limiterOf id).holder = none ∧
        (world.dispatches dispatch).slot = .absent then
      some { world.setLimiter id { world.limiterOf id with holder := some dispatch } with
        dispatches := Function.update world.dispatches dispatch ⟨id, .held, world.strictest (world.adapters id).venue⟩
        slots := world.slots ++ [dispatch] }
    else none
  | .clear dispatch =>
    if (world.dispatches dispatch).slot = .held ∧
        (world.limiterOf (world.dispatches dispatch).adapter).nextAllowedAt ≤ world.clock then
      some (world.setSlot dispatch .cleared)
    else none
  | .abandon dispatch =>
    if (world.dispatches dispatch).slot = .held then
      let id := (world.dispatches dispatch).adapter
      some { (world.setLimiter id { world.limiterOf id with holder := none }).setSlot dispatch .ended with
        slots := world.slots.filter fun other => decide (other ≠ dispatch) }
    else none
  | .dispatch dispatch =>
    if (world.dispatches dispatch).slot = .cleared then
      let id := (world.dispatches dispatch).adapter
      some { world.setSlot dispatch .running with
        log := world.log ++ [world.start id dispatch (world.dispatches dispatch).strictest] }
    else none
  | .finish dispatch =>
    if (world.dispatches dispatch).slot = .running then
      let id := (world.dispatches dispatch).adapter
      some { (world.setLimiter id ((world.limiterOf id).reserve world.clock)).setSlot dispatch .ended with
        slots := world.slots.filter fun other => decide (other ≠ dispatch) }
    else none

def run (world : World) (actions : List Action) : Option World := actions.foldlM step world

/-- No adapter yet, at some reading of the clock. -/
def initial (clock : ℚ) : World where
  clock := clock
  registry := []
  limiters _ := .new 0
  adapters _ := ⟨[], 0, 0, .absent⟩
  created := []
  dispatches _ := ⟨0, .absent, 0⟩
  slots := []
  log := []

end MarketSentinel.Venue.Pacing
