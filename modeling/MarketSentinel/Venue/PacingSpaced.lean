import MarketSentinel.Library.Transition
import MarketSentinel.Venue.Pacing

/-! The invariant of the pacing of requests, and the spacing of the requests in every run. -/

set_option autoImplicit false

namespace MarketSentinel.Venue.Pacing

open Python

def Slot.busy : Slot → Bool
  | .held | .cleared | .running => true
  | _ => false

/-- What two requests of one venue satisfy, the earlier one first. -/
def Spaced (world : World) (earlier later : Start) : Prop :=
  0 < earlier.interval → 0 < later.interval → earlier.venue = later.venue →
    earlier.started + earlier.strictest ≤ later.started ∧
    (earlier.limiter = later.limiter → earlier.started + later.strictest ≤ later.started) ∧
    ((world.adapters earlier.adapter).stage.live = true → earlier.limiter = later.limiter)

namespace World

variable (world : World)

@[simp] theorem setStage_venue (id : Nat) (stage : Stage) (other : Nat) :
    ((world.setStage id stage).adapters other).venue = (world.adapters other).venue := by
  by_cases same : other = id
  · subst same
    simp [setStage]
  · simp [setStage, same]

@[simp] theorem setStage_interval (id : Nat) (stage : Stage) (other : Nat) :
    ((world.setStage id stage).adapters other).interval = (world.adapters other).interval := by
  by_cases same : other = id
  · subst same
    simp [setStage]
  · simp [setStage, same]

@[simp] theorem setStage_limiter (id : Nat) (stage : Stage) (other : Nat) :
    ((world.setStage id stage).adapters other).limiter = (world.adapters other).limiter := by
  by_cases same : other = id
  · subst same
    simp [setStage]
  · simp [setStage, same]

theorem setStage_stage (id : Nat) (stage : Stage) (other : Nat) :
    ((world.setStage id stage).adapters other).stage =
      if other = id then stage else (world.adapters other).stage := by
  by_cases same : other = id
  · simp [setStage, same]
  · simp [setStage, same]

@[simp] theorem setStage_registry (id : Nat) (stage : Stage) : (world.setStage id stage).registry = world.registry := rfl

@[simp] theorem setStage_dispatches (id : Nat) (stage : Stage) :
    (world.setStage id stage).dispatches = world.dispatches := rfl

@[simp] theorem setStage_clock (id : Nat) (stage : Stage) : (world.setStage id stage).clock = world.clock := rfl

@[simp] theorem setStage_limiterOf (id : Nat) (stage : Stage) (other : Nat) :
    (world.setStage id stage).limiterOf other = world.limiterOf other := by
  unfold limiterOf
  rw [setStage_limiter]
  rfl

theorem setLimiter_limiters (id : Nat) (limiter : RateLimiter) (other : Nat) :
    (world.setLimiter id limiter).limiters other =
      if other = (world.adapters id).limiter then limiter else world.limiters other := by
  simp [setLimiter, Function.update_apply]

@[simp] theorem setSlot_adapter (dispatch : Nat) (slot : Slot) (other : Nat) :
    ((world.setSlot dispatch slot).dispatches other).adapter = (world.dispatches other).adapter := by
  by_cases same : other = dispatch
  · subst same
    simp [setSlot]
  · simp [setSlot, same]

@[simp] theorem setSlot_strictest (dispatch : Nat) (slot : Slot) (other : Nat) :
    ((world.setSlot dispatch slot).dispatches other).strictest = (world.dispatches other).strictest := by
  by_cases same : other = dispatch
  · subst same
    simp [setSlot]
  · simp [setSlot, same]

theorem setSlot_slot (dispatch : Nat) (slot : Slot) (other : Nat) :
    ((world.setSlot dispatch slot).dispatches other).slot =
      if other = dispatch then slot else (world.dispatches other).slot := by
  by_cases same : other = dispatch
  · simp [setSlot, same]
  · simp [setSlot, same]

end World

/-- What holds after every run. -/
structure Invariant (world : World) : Prop where
  unique : (world.registry.map Prod.fst).Nodup
  bounded : world.registry.length ≤ maxSharedRateLimiters
  entryKnown : ∀ venue entry, world.registry.get? venue = some entry → (world.adapters entry.limiter).stage ≠ .absent
  adapterKnown : ∀ id, (world.adapters id).stage ≠ .absent →
    (world.adapters (world.adapters id).limiter).stage ≠ .absent
  shared : ∀ id, (world.adapters id).stage.live = true → 0 < (world.adapters id).interval →
    ∃ entry, world.registry.get? (world.adapters id).venue = some entry ∧
      entry.limiter = (world.adapters id).limiter ∧ id ∈ entry.owners
  interval : ∀ limiter, 0 ≤ (world.limiters limiter).minIntervalSeconds
  next : ∀ limiter, 0 ≤ (world.limiters limiter).nextAllowedAt
  registered : ∀ id, (world.adapters id).stage = .ready →
    (world.adapters id).interval ≤ (world.limiterOf id).minIntervalSeconds
  busy : ∀ dispatch, (world.dispatches dispatch).slot.busy = true →
    (world.adapters (world.dispatches dispatch).adapter).stage = .ready ∧ dispatch ∈ world.slots ∧
    (world.limiterOf (world.dispatches dispatch).adapter).holder = some dispatch ∧
    (0 < (world.adapters (world.dispatches dispatch).adapter).interval →
      (world.dispatches dispatch).strictest ≤ (world.limiterOf (world.dispatches dispatch).adapter).minIntervalSeconds)
  cleared : ∀ dispatch, (world.dispatches dispatch).slot = .cleared →
    (world.limiterOf (world.dispatches dispatch).adapter).nextAllowedAt ≤ world.clock
  logged : ∀ start ∈ world.log, (world.adapters start.adapter).stage ≠ .absent ∧
    (world.adapters start.adapter).venue = start.venue ∧ (world.adapters start.adapter).interval = start.interval ∧
    (world.adapters start.adapter).limiter = start.limiter
  begun : ∀ start ∈ world.log, start.started ≤ world.clock
  strict : ∀ start ∈ world.log, 0 < start.interval →
    start.strictest ≤ (world.limiters start.limiter).minIntervalSeconds
  -- a request runs in its slot, or its end was reserved
  reserved : ∀ start ∈ world.log, 0 < start.interval →
    ((world.dispatches start.dispatch).slot = .running ∧ (world.dispatches start.dispatch).adapter = start.adapter) ∨
    (0 < (world.limiters start.limiter).nextAllowedAt ∧
      start.started + (world.limiters start.limiter).minIntervalSeconds ≤ (world.limiters start.limiter).nextAllowedAt)
  -- the schedule of a request is the one of its venue, or it was dropped after the interval
  current : ∀ start ∈ world.log, 0 < start.interval →
    (∃ entry, world.registry.get? start.venue = some entry ∧ entry.limiter = start.limiter) ∨
    start.started + start.strictest ≤ world.clock
  spaced : world.log.Pairwise (Spaced world)

theorem initial_invariant (clock : ℚ) : Invariant (initial clock) where
  unique := List.nodup_nil
  bounded := Nat.zero_le _
  entryKnown _ _ found := by cases found
  adapterKnown _ known := absurd rfl known
  shared _ live := by cases live
  interval _ := le_refl 0
  next _ := le_refl 0
  registered _ ready := by cases ready
  busy _ taken := by cases taken
  cleared _ waited := by cases waited
  logged _ member := by cases member
  begun _ member := by cases member
  strict _ member := by cases member
  reserved _ member := by cases member
  current _ member := by cases member
  spaced := List.Pairwise.nil

namespace Invariant

variable {world : World}

theorem tick (invariant : Invariant world) {now : ℚ} (later : world.clock ≤ now) :
    Invariant { world with clock := now } :=
  { invariant with
    cleared dispatch waited := le_trans (invariant.cleared dispatch waited) later
    begun start member := le_trans (invariant.begun start member) later
    current start member paced := (invariant.current start member paced).imp_right fun passed => le_trans passed later }

/-- An adapter reaches another stage; no slot is left behind. -/
theorem restaged (invariant : Invariant world) (id : Nat) (stage : Stage) (known : stage ≠ .absent)
    (live : (world.adapters id).stage.live = true)
    (registers : stage = .ready → (world.adapters id).interval ≤ (world.limiterOf id).minIntervalSeconds)
    (free : stage = .ready ∨ ∀ dispatch, (world.dispatches dispatch).slot.busy = true →
      (world.dispatches dispatch).adapter ≠ id) :
    Invariant (world.setStage id stage) := by
  have knows : ∀ other, (world.adapters other).stage ≠ .absent →
      ((world.setStage id stage).adapters other).stage ≠ .absent := by
    intro other before
    rw [World.setStage_stage]
    split
    · exact known
    · exact before
  have lives : ∀ other, ((world.setStage id stage).adapters other).stage.live = true →
      (world.adapters other).stage.live = true := by
    intro other after
    rw [World.setStage_stage] at after
    by_cases same : other = id
    · rw [same]
      exact live
    · rwa [if_neg same] at after
  exact {
    unique := invariant.unique
    bounded := invariant.bounded
    entryKnown venue entry found := knows _ (invariant.entryKnown venue entry found)
    adapterKnown other before := by
      rw [World.setStage_limiter]
      apply knows
      apply invariant.adapterKnown
      rw [World.setStage_stage] at before
      by_cases same : other = id
      · rintro absent
        rw [same] at absent
        rw [absent] at live
        cases live
      · rwa [if_neg same] at before
    shared other after paced := by
      rw [World.setStage_interval] at paced
      simpa using invariant.shared other (lives other after) paced
    interval := invariant.interval
    next := invariant.next
    registered other ready := by
      rw [World.setStage_stage] at ready
      rw [World.setStage_interval, World.setStage_limiterOf]
      by_cases same : other = id
      · rw [if_pos same] at ready
        rw [same]
        exact registers ready
      · rw [if_neg same] at ready
        exact invariant.registered other ready
    busy dispatch taken := by
      obtain ⟨ready, slot, holder, strict⟩ := invariant.busy dispatch taken
      refine ⟨?_, slot, ?_, ?_⟩
      · rw [World.setStage_stage]
        split
        · rename_i same
          rcases free with stays | free
          · exact stays
          · exact absurd same (free dispatch taken)
        · exact ready
      · simpa using holder
      · simpa using strict
    cleared dispatch waited := by simpa using invariant.cleared dispatch waited
    logged start member := by
      obtain ⟨before, fields⟩ := invariant.logged start member
      exact ⟨knows _ before, by simpa using fields⟩
    begun := invariant.begun
    strict := invariant.strict
    reserved := invariant.reserved
    current := invariant.current
    spaced := invariant.spaced.imp fun spaced first second venue =>
      ⟨(spaced first second venue).1, (spaced first second venue).2.1,
        fun after => (spaced first second venue).2.2 (lives _ after)⟩ }

/-- An entry that can be removed belongs to a schedule whose requests are all over. -/
theorem passed (invariant : Invariant world) {start : Start} (member : start ∈ world.log) (paced : 0 < start.interval)
    {entry : SharedRateLimiter} (found : world.registry.get? start.venue = some entry)
    (same : entry.limiter = start.limiter) (removable : world.removable entry = true) :
    start.started + start.strictest ≤ world.clock := by
  obtain ⟨none, due⟩ : world.liveOwners entry = [] ∧ (world.limiters entry.limiter).nextAllowedAt ≤ world.clock := by
    simpa [World.removable] using removable
  have strict := invariant.strict start member paced
  rw [same] at due
  rcases invariant.reserved start member paced with ⟨running, adapter⟩ | ⟨-, ends⟩
  · -- the adapter of a running request is a live owner
    obtain ⟨-, venue, interval, -⟩ := invariant.logged start member
    obtain ⟨ready, -⟩ := invariant.busy start.dispatch (by rw [running]; rfl)
    rw [adapter] at ready
    have live : (world.adapters start.adapter).stage.live = true := by rw [ready]; rfl
    obtain ⟨other, foundOther, -, owner⟩ := invariant.shared start.adapter live (by rwa [interval])
    rw [venue, found] at foundOther
    cases foundOther
    have member : start.adapter ∈ world.liveOwners entry := List.mem_filter.mpr ⟨owner, live⟩
    rw [none] at member
    cases member
  · linarith

/-- A new adapter, with its limiter and its entry when it needs them. -/
theorem created (invariant : Invariant world) (id : Nat) (adapter : Adapter) (registry : Dict Text SharedRateLimiter)
    (limiters : Nat → RateLimiter) (fresh : (world.adapters id).stage = .absent) (present : adapter.stage ≠ .absent)
    (old : ∀ limiter, limiter ≠ id → limiters limiter = world.limiters limiter)
    (interval : 0 ≤ (limiters id).minIntervalSeconds) (next : 0 ≤ (limiters id).nextAllowedAt)
    (limiter : adapter.limiter = id ∨ (world.adapters adapter.limiter).stage ≠ .absent)
    (ready : adapter.stage = .ready → adapter.interval ≤ (limiters adapter.limiter).minIntervalSeconds)
    (unique : (registry.map Prod.fst).Nodup) (bounded : registry.length ≤ maxSharedRateLimiters)
    (entries : ∀ venue entry, registry.get? venue = some entry →
      entry.limiter = id ∨ (world.adapters entry.limiter).stage ≠ .absent)
    (kept : ∀ venue entry, world.registry.get? venue = some entry → world.removable entry = true ∨
      ∃ next, registry.get? venue = some next ∧ next.limiter = entry.limiter ∧ ∀ owner ∈ entry.owners, owner ∈ next.owners)
    (joined : adapter.stage.live = true → 0 < adapter.interval →
      ∃ entry, registry.get? adapter.venue = some entry ∧ entry.limiter = adapter.limiter ∧ id ∈ entry.owners) :
    Invariant { world.setAdapter id adapter with registry := registry, limiters := limiters } := by
  have here : Function.update world.adapters id adapter id = adapter := Function.update_self ..
  have elsewhere : ∀ other, other ≠ id → Function.update world.adapters id adapter other = world.adapters other :=
    fun other different => Function.update_of_ne different ..
  -- everything that is referred to has an adapter, and the new one is none of these
  have other : ∀ other, (world.adapters other).stage ≠ .absent → other ≠ id := by
    rintro other known rfl
    exact known fresh
  have knows : ∀ limiter, limiter = id ∨ (world.adapters limiter).stage ≠ .absent →
      (Function.update world.adapters id adapter limiter).stage ≠ .absent := by
    rintro limiter (rfl | known)
    · rwa [here]
    · rwa [elsewhere _ (other _ known)]
  have taken : ∀ dispatch, (world.dispatches dispatch).slot.busy = true →
      Function.update world.adapters id adapter (world.dispatches dispatch).adapter =
        world.adapters (world.dispatches dispatch).adapter ∧
      limiters (world.adapters (world.dispatches dispatch).adapter).limiter =
        world.limiters (world.adapters (world.dispatches dispatch).adapter).limiter := by
    intro dispatch busy
    have known : (world.adapters (world.dispatches dispatch).adapter).stage ≠ .absent := by
      rw [(invariant.busy dispatch busy).1]
      exact nofun
    exact ⟨elsewhere _ (other _ known), old _ (other _ (invariant.adapterKnown _ known))⟩
  have begun : ∀ start ∈ world.log, start.adapter ≠ id ∧ limiters start.limiter = world.limiters start.limiter := by
    intro start member
    obtain ⟨known, -, -, limiter⟩ := invariant.logged start member
    refine ⟨other _ known, old _ (other _ ?_)⟩
    rw [← limiter]
    exact invariant.adapterKnown _ known
  exact {
    unique := unique
    bounded := bounded
    entryKnown venue entry found := knows _ (entries venue entry found)
    adapterKnown another known := by
      show (Function.update world.adapters id adapter (Function.update world.adapters id adapter another).limiter).stage ≠ _
      replace known : (Function.update world.adapters id adapter another).stage ≠ .absent := known
      apply knows
      by_cases same : another = id
      · rw [same, here]
        exact limiter
      · rw [elsewhere _ same] at known ⊢
        exact Or.inr (invariant.adapterKnown another known)
    shared another live paced := by
      show ∃ entry, registry.get? (Function.update world.adapters id adapter another).venue = some entry ∧
        entry.limiter = (Function.update world.adapters id adapter another).limiter ∧ another ∈ entry.owners
      replace live : (Function.update world.adapters id adapter another).stage.live = true := live
      replace paced : 0 < (Function.update world.adapters id adapter another).interval := paced
      by_cases same : another = id
      · subst same
        rw [here] at live paced ⊢
        exact joined live paced
      · rw [elsewhere _ same] at live paced ⊢
        obtain ⟨entry, found, limiter, owner⟩ := invariant.shared another live paced
        -- a live owner keeps its entry from being removed
        rcases kept _ _ found with removable | ⟨next, found, keeps, owners⟩
        · have none : world.liveOwners entry = [] := by
            simp only [World.removable, Bool.and_eq_true, decide_eq_true_eq] at removable
            exact removable.1
          have member : another ∈ world.liveOwners entry := List.mem_filter.mpr ⟨owner, live⟩
          rw [none] at member
          cases member
        · exact ⟨next, found, keeps.trans limiter, owners another owner⟩
    interval another := by
      show 0 ≤ (limiters another).minIntervalSeconds
      by_cases same : another = id
      · rwa [same]
      · rw [old _ same]
        exact invariant.interval another
    next another := by
      show 0 ≤ (limiters another).nextAllowedAt
      by_cases same : another = id
      · rwa [same]
      · rw [old _ same]
        exact invariant.next another
    registered another stage := by
      show (Function.update world.adapters id adapter another).interval ≤
        (limiters (Function.update world.adapters id adapter another).limiter).minIntervalSeconds
      replace stage : (Function.update world.adapters id adapter another).stage = .ready := stage
      by_cases same : another = id
      · rw [same, here] at stage ⊢
        exact ready stage
      · rw [elsewhere _ same] at stage ⊢
        have known : (world.adapters another).stage ≠ .absent := by
          rw [stage]
          exact nofun
        rw [old _ (other _ (invariant.adapterKnown another known))]
        exact invariant.registered another stage
    busy dispatch busy := by
      have facts := invariant.busy dispatch busy
      obtain ⟨sameAdapter, sameLimiter⟩ := taken dispatch busy
      simpa only [World.limiterOf, World.setAdapter, sameAdapter, sameLimiter] using facts
    cleared dispatch waited := by
      have facts := invariant.cleared dispatch waited
      obtain ⟨sameAdapter, sameLimiter⟩ := taken dispatch (by rw [show (world.dispatches dispatch).slot = _ from waited]; rfl)
      simpa only [World.limiterOf, World.setAdapter, sameAdapter, sameLimiter] using facts
    logged start member := by
      simpa only [World.setAdapter, elsewhere _ (begun start member).1] using invariant.logged start member
    begun := invariant.begun
    strict start member paced := by
      simpa only [World.setAdapter, (begun start member).2] using invariant.strict start member paced
    reserved start member paced := by
      simpa only [World.setAdapter, (begun start member).2] using invariant.reserved start member paced
    current start member paced := by
      rcases invariant.current start member paced with ⟨entry, found, same⟩ | ended
      -- an entry is only dropped when the time it reserved has passed
      · rcases kept _ _ found with removable | ⟨next, found', keeps, -⟩
        · exact Or.inr (invariant.passed member paced found same removable)
        · exact Or.inl ⟨next, found', keeps.trans same⟩
      · exact Or.inr ended
    spaced := by
      refine invariant.spaced.imp_of_mem ?_
      intro earlier later member _ spaced first second venue
      obtain ⟨ends, same, live⟩ := spaced first second venue
      refine ⟨ends, same, fun alive => live ?_⟩
      simpa only [World.setAdapter, elsewhere _ (begun earlier member).1] using alive }

theorem venueRateLimiter (invariant : Invariant world) (id : Nat) (venue : Text) (interval : ℚ)
    (fresh : (world.adapters id).stage = .absent) :
    Invariant (world.venueRateLimiter id venue interval) := by
  have unchanged : ∀ venue entry, world.registry.get? venue = some entry → world.removable entry = true ∨
      ∃ next, world.registry.get? venue = some next ∧ next.limiter = entry.limiter ∧
        ∀ owner ∈ entry.owners, owner ∈ next.owners :=
    fun venue entry found => Or.inr ⟨entry, found, rfl, fun _ member => member⟩
  have known : ∀ venue entry, world.registry.get? venue = some entry →
      entry.limiter = id ∨ (world.adapters entry.limiter).stage ≠ .absent :=
    fun venue entry found => Or.inr (invariant.entryKnown venue entry found)
  unfold World.venueRateLimiter
  split
  · rename_i entry found
    -- the venue has an entry, which gets one more owner
    apply invariant.created id ⟨venue, interval, entry.limiter, .comparing⟩ _ world.limiters fresh (by rintro ⟨⟩)
      (fun _ _ => rfl) (invariant.interval id) (invariant.next id) (known venue entry found) (by rintro ⟨⟩)
    · exact Dict.nodup_set invariant.unique _ _
    · have keys := Dict.keys_set world.registry venue { entry with owners := entry.owners ++ [id] }
      rw [if_pos ((Dict.get?_isSome_iff _ _).mp (by rw [found]; rfl))] at keys
      have lengths := congrArg List.length keys
      rw [List.length_map, List.length_map] at lengths
      rw [lengths]
      exact invariant.bounded
    · intro other next foundNext
      rw [Dict.get?_set] at foundNext
      split at foundNext
      · cases foundNext
        exact known venue entry found
      · exact known other next foundNext
    · intro other next foundNext
      rw [Dict.get?_set]
      split
      · rename_i same
        rw [← same, found] at foundNext
        cases foundNext
        exact Or.inr ⟨_, rfl, rfl, fun owner member => List.mem_append_left _ member⟩
      · exact unchanged other next foundNext
    · intro _ _
      exact ⟨_, Dict.get?_set_self .., rfl, List.mem_append_right _ List.mem_cons_self⟩
  · rename_i missing
    split
    · rename_i none
      -- without an interval the adapter has a limiter of its own, outside of the registry
      have added : Function.update world.limiters id (RateLimiter.new 0) id = RateLimiter.new 0 := Function.update_self ..
      apply invariant.created id ⟨venue, interval, id, .ready⟩ world.registry _ fresh (by rintro ⟨⟩)
        (fun _ different => Function.update_of_ne different ..) _ _ (Or.inl rfl) _ invariant.unique invariant.bounded
        known unchanged (fun _ paced => absurd paced (not_lt.mpr none))
      · rw [added]
        exact le_max_left ..
      · rw [added]
        exact le_refl 0
      · intro _
        show interval ≤ (Function.update world.limiters id (RateLimiter.new 0) id).minIntervalSeconds
        rw [added]
        exact le_trans none (le_max_left ..)
    -- a new entry: expired entries without owners make room first
    · have stays : ∀ other next, world.registry.get? other = some next → world.removable next = true ∨
          Dict.get? (world.registry.filter fun entry => !world.removable entry.2) other = some next := by
        intro other next found
        cases removable : world.removable next with
        | true => exact Or.inl rfl
        | false => exact Or.inr ((Dict.get?_filter invariant.unique ..).mpr ⟨found, by simp [removable]⟩)
      have subset : ∀ other next,
          Dict.get? (world.registry.filter fun entry => !world.removable entry.2) other = some next →
            world.registry.get? other = some next :=
        fun other next found => ((Dict.get?_filter invariant.unique ..).mp found).1
      have unique : ((world.registry.filter fun entry => !world.removable entry.2).map Prod.fst).Nodup :=
        invariant.unique.sublist (List.filter_sublist.map _)
      dsimp only
      split
      · apply invariant.created id ⟨venue, interval, id, .collected⟩ _ world.limiters fresh (by rintro ⟨⟩)
          (fun _ _ => rfl) (invariant.interval id) (invariant.next id) (Or.inl rfl) (by rintro ⟨⟩) unique
          (le_trans (List.length_filter_le ..) invariant.bounded) (fun other next found => known other next (subset other next found))
          _ (by rintro ⟨⟩)
        intro other next found
        exact (stays other next found).imp_right fun found => ⟨next, found, rfl, fun _ member => member⟩
      · rename_i room
        have added : Function.update world.limiters id (RateLimiter.new interval) id = RateLimiter.new interval :=
          Function.update_self ..
        have new : venue ∉ (world.registry.filter fun entry => !world.removable entry.2).map Prod.fst := by
          rw [← Dict.get?_isSome_iff]
          intro found
          obtain ⟨entry, found⟩ := Option.isSome_iff_exists.mp found
          rw [subset venue entry found] at missing
          cases missing
        apply invariant.created id ⟨venue, interval, id, .comparing⟩ _ _ fresh (by rintro ⟨⟩)
          (fun _ different => Function.update_of_ne different ..) _ _ (Or.inl rfl) (by rintro ⟨⟩) (Dict.nodup_set unique _ _)
        · rw [Dict.set_of_notMem new, List.length_append, List.length_singleton]
          omega
        · intro other next found
          rw [Dict.get?_set] at found
          split at found
          · cases found
            exact Or.inl rfl
          · exact known other next (subset other next found)
        · intro other next found
          refine (stays other next found).imp_right fun found' => ?_
          have different : venue ≠ other := by
            rintro rfl
            rw [found] at missing
            cases missing
          exact ⟨next, by rwa [Dict.get?_set_ne _ different], rfl, fun _ member => member⟩
        · intro _ _
          exact ⟨_, Dict.get?_set_self .., rfl, List.mem_cons_self⟩
        · rw [added]
          exact le_max_left ..
        · rw [added]
          exact le_refl 0

/-- Two busy dispatches of one limiter are the same. -/
theorem alone (invariant : Invariant world) {dispatch other : Nat} (busy : (world.dispatches dispatch).slot.busy = true)
    (busyOther : (world.dispatches other).slot.busy = true)
    (same : (world.adapters (world.dispatches other).adapter).limiter =
      (world.adapters (world.dispatches dispatch).adapter).limiter) : other = dispatch := by
  have holder := (invariant.busy dispatch busy).2.2.1
  have holderOther := (invariant.busy other busyOther).2.2.1
  unfold World.limiterOf at holder holderOther
  rw [same, holder] at holderOther
  exact (Option.some.inj holderOther).symm

/-- The requests of a limiter that are not running were reserved. -/
theorem notRunning (invariant : Invariant world) {limiter : Nat}
    (idle : ∀ dispatch, (world.dispatches dispatch).slot = .running →
      (world.adapters (world.dispatches dispatch).adapter).limiter ≠ limiter)
    {start : Start} (member : start ∈ world.log) (paced : 0 < start.interval) (same : start.limiter = limiter) :
    0 < (world.limiters limiter).nextAllowedAt ∧
      start.started + (world.limiters limiter).minIntervalSeconds ≤ (world.limiters limiter).nextAllowedAt := by
  rcases invariant.reserved start member paced with ⟨running, adapter⟩ | reserved
  · apply absurd same
    rw [← (invariant.logged start member).2.2.2, ← adapter]
    exact idle _ running
  · rwa [same] at reserved

/-- The limiter of an adapter and its dispatches change, and those of the other limiters do not. -/
theorem relimited (invariant : Invariant world) (id : Nat) (limiter : RateLimiter) (dispatches : Nat → Dispatch)
    (slots : List Nat) (interval : (world.limiterOf id).minIntervalSeconds ≤ limiter.minIntervalSeconds)
    (next : 0 ≤ limiter.nextAllowedAt)
    (others : ∀ dispatch,
      (world.dispatches dispatch).slot.busy = true ∧
          (world.adapters (world.dispatches dispatch).adapter).limiter ≠ (world.adapters id).limiter ∨
        (dispatches dispatch).slot.busy = true ∧
          (world.adapters (dispatches dispatch).adapter).limiter ≠ (world.adapters id).limiter →
      dispatches dispatch = world.dispatches dispatch ∧ (dispatch ∈ world.slots → dispatch ∈ slots))
    (ours : ∀ dispatch, (dispatches dispatch).slot.busy = true →
      (world.adapters (dispatches dispatch).adapter).limiter = (world.adapters id).limiter →
      (world.adapters (dispatches dispatch).adapter).stage = .ready ∧ dispatch ∈ slots ∧
      limiter.holder = some dispatch ∧ (dispatches dispatch).slot ≠ .cleared ∧
      (0 < (world.adapters (dispatches dispatch).adapter).interval →
        (dispatches dispatch).strictest ≤ limiter.minIntervalSeconds))
    (reserved : ∀ start ∈ world.log, 0 < start.interval → start.limiter = (world.adapters id).limiter →
      0 < limiter.nextAllowedAt ∧ start.started + limiter.minIntervalSeconds ≤ limiter.nextAllowedAt) :
    Invariant { world.setLimiter id limiter with dispatches := dispatches, slots := slots } := by
  have here : Function.update world.limiters (world.adapters id).limiter limiter (world.adapters id).limiter = limiter :=
    Function.update_self ..
  have elsewhere : ∀ other, other ≠ (world.adapters id).limiter →
      Function.update world.limiters (world.adapters id).limiter limiter other = world.limiters other :=
    fun other different => Function.update_of_ne different ..
  have stricter : ∀ other, (world.limiters other).minIntervalSeconds ≤
      (Function.update world.limiters (world.adapters id).limiter limiter other).minIntervalSeconds := by
    intro other
    by_cases same : other = (world.adapters id).limiter
    · rw [same, here]
      exact interval
    · rw [elsewhere _ same]
  exact {
    unique := invariant.unique
    bounded := invariant.bounded
    entryKnown := invariant.entryKnown
    adapterKnown := invariant.adapterKnown
    shared := invariant.shared
    interval other := le_trans (invariant.interval other) (stricter other)
    next other := by
      show 0 ≤ (Function.update world.limiters (world.adapters id).limiter limiter other).nextAllowedAt
      by_cases same : other = (world.adapters id).limiter
      · rwa [same, here]
      · rw [elsewhere _ same]
        exact invariant.next other
    registered other ready := le_trans (invariant.registered other ready) (stricter _)
    busy dispatch taken := by
      show (world.adapters (dispatches dispatch).adapter).stage = .ready ∧ dispatch ∈ slots ∧
        (Function.update world.limiters (world.adapters id).limiter limiter
          (world.adapters (dispatches dispatch).adapter).limiter).holder = some dispatch ∧ _
      by_cases same : (world.adapters (dispatches dispatch).adapter).limiter = (world.adapters id).limiter
      · obtain ⟨ready, slot, holder, -, strict⟩ := ours dispatch taken same
        refine ⟨ready, slot, by rwa [same, here], fun paced => ?_⟩
        show _ ≤ (Function.update world.limiters (world.adapters id).limiter limiter
          (world.adapters (dispatches dispatch).adapter).limiter).minIntervalSeconds
        rw [same, here]
        exact strict paced
      · obtain ⟨unchanged, keeps⟩ := others dispatch (Or.inr ⟨taken, same⟩)
        replace taken : (dispatches dispatch).slot.busy = true := taken
        rw [unchanged] at taken same
        obtain ⟨ready, slot, holder, strict⟩ := invariant.busy dispatch taken
        rw [elsewhere _ (unchanged ▸ same), unchanged]
        exact ⟨ready, keeps slot, holder, fun paced => by
          simpa only [World.limiterOf, World.setLimiter, unchanged, elsewhere _ same] using strict (unchanged ▸ paced)⟩
    cleared dispatch waited := by
      replace waited : (dispatches dispatch).slot = .cleared := waited
      have taken : (dispatches dispatch).slot.busy = true := by rw [waited]; rfl
      by_cases same : (world.adapters (dispatches dispatch).adapter).limiter = (world.adapters id).limiter
      · exact absurd waited (ours dispatch taken same).2.2.2.1
      -- a dispatch of another limiter was not touched
      · obtain ⟨unchanged, -⟩ := others dispatch (Or.inr ⟨taken, same⟩)
        rw [unchanged] at waited same
        simpa only [World.limiterOf, World.setLimiter, unchanged, elsewhere _ same] using invariant.cleared dispatch waited
    logged := invariant.logged
    begun := invariant.begun
    strict start member paced := le_trans (invariant.strict start member paced) (stricter _)
    reserved start member paced := by
      show ((dispatches start.dispatch).slot = .running ∧ (dispatches start.dispatch).adapter = start.adapter) ∨
        (0 < (Function.update world.limiters (world.adapters id).limiter limiter start.limiter).nextAllowedAt ∧
          start.started + (Function.update world.limiters (world.adapters id).limiter limiter start.limiter).minIntervalSeconds ≤
            (Function.update world.limiters (world.adapters id).limiter limiter start.limiter).nextAllowedAt)
      by_cases same : start.limiter = (world.adapters id).limiter
      · rw [same, here]
        exact Or.inr (reserved start member paced same)
      · rw [elsewhere _ same]
        refine (invariant.reserved start member paced).imp_left ?_
        rintro ⟨running, adapter⟩
        have different : (world.adapters (world.dispatches start.dispatch).adapter).limiter ≠ (world.adapters id).limiter := by
          rwa [adapter, (invariant.logged start member).2.2.2]
        rw [(others _ (Or.inl ⟨by rw [running]; rfl, different⟩)).1]
        exact ⟨running, adapter⟩
    current := invariant.current
    spaced := invariant.spaced }

/-- A busy dispatch that was not running takes its next slot. -/
theorem reslotted (invariant : Invariant world) (dispatch : Nat) (slot : Slot)
    (busy : (world.dispatches dispatch).slot.busy = true) (notRunning : (world.dispatches dispatch).slot ≠ .running)
    (waited : slot = .cleared → (world.limiterOf (world.dispatches dispatch).adapter).nextAllowedAt ≤ world.clock) :
    Invariant (world.setSlot dispatch slot) :=
  { invariant with
    busy other taken := by
      have before : (world.dispatches other).slot.busy = true := by
        rw [World.setSlot_slot] at taken
        by_cases same : other = dispatch
        · rwa [same]
        · rwa [if_neg same] at taken
      have facts := invariant.busy other before
      rw [World.setSlot_adapter, World.setSlot_strictest]
      exact facts
    cleared other after := by
      rw [World.setSlot_slot] at after
      rw [World.setSlot_adapter]
      by_cases same : other = dispatch
      · rw [if_pos same] at after
        rw [same]
        exact waited after
      · rw [if_neg same] at after
        exact invariant.cleared other after
    reserved start member paced := by
      refine (invariant.reserved start member paced).imp_left ?_
      rintro ⟨running, adapter⟩
      have different : start.dispatch ≠ dispatch := by
        intro same
        rw [same] at running
        exact notRunning running
      rw [World.setSlot_slot, if_neg different, World.setSlot_adapter]
      exact ⟨running, adapter⟩ }

/-- A request starts when its limiter allows it. -/
theorem begins (invariant : Invariant world) (id dispatch : Nat) (strictest : ℚ)
    (ready : (world.adapters id).stage = .ready)
    (allowed : 0 < (world.adapters id).interval →
      ((world.dispatches dispatch).slot = .running ∧ (world.dispatches dispatch).adapter = id) ∧
      strictest ≤ (world.limiterOf id).minIntervalSeconds ∧
      ∀ start ∈ world.log, 0 < start.interval → start.limiter = (world.adapters id).limiter →
        start.started + (world.limiterOf id).minIntervalSeconds ≤ world.clock) :
    Invariant { world with log := world.log ++ [world.start id dispatch strictest] } := by
  have live : (world.adapters id).stage.live = true := by rw [ready]; rfl
  have extend : ∀ {property : Start → Prop}, (∀ start ∈ world.log, property start) →
      property (world.start id dispatch strictest) →
      ∀ start ∈ world.log ++ [world.start id dispatch strictest], property start := by
    intro property before new start member
    rcases List.mem_append.mp member with member | member
    · exact before start member
    · rw [List.mem_singleton.mp member]
      exact new
  exact {
    invariant with
    logged := by
      apply extend invariant.logged
      refine ⟨?_, rfl, rfl, rfl⟩
      show (world.adapters id).stage ≠ .absent
      rw [ready]
      exact nofun
    begun := extend invariant.begun (le_refl _)
    strict := extend invariant.strict fun paced => (allowed paced).2.1
    reserved := extend invariant.reserved fun paced => Or.inl (allowed paced).1
    current := by
      apply extend invariant.current
      intro paced
      obtain ⟨entry, found, limiter, -⟩ := invariant.shared id live paced
      exact Or.inl ⟨entry, found, limiter⟩
    spaced := by
      apply List.pairwise_append.mpr
      refine ⟨invariant.spaced, List.pairwise_singleton .., ?_⟩
      intro earlier member later last first second venue
      rw [List.mem_singleton.mp last] at second venue ⊢
      obtain ⟨-, strict, apart⟩ := allowed second
      obtain ⟨-, venueEarlier, intervalEarlier, limiterEarlier⟩ := invariant.logged earlier member
      obtain ⟨entry, found, limiter, -⟩ := invariant.shared id live second
      replace venue : earlier.venue = (world.adapters id).venue := venue
      have since : earlier.limiter = (world.adapters id).limiter → earlier.started + strictest ≤ world.clock := by
        intro same
        linarith [apart earlier member first same]
      refine ⟨?_, since, ?_⟩
      · show earlier.started + earlier.strictest ≤ world.clock
        -- either the entry is still the one of the earlier request, or its reserved time has passed
        rcases invariant.current earlier member first with ⟨other, foundOther, same⟩ | ended
        · rw [venue, found] at foundOther
          cases foundOther
          have shared := same.symm.trans limiter
          have least := invariant.strict earlier member first
          rw [shared] at least
          exact le_trans (add_le_add_right least _) (apart earlier member first shared)
        · exact ended
      · intro alive
        obtain ⟨other, foundOther, same, -⟩ := invariant.shared earlier.adapter alive (by rwa [intervalEarlier])
        rw [venueEarlier, venue, found] at foundOther
        cases foundOther
        rw [← limiterEarlier, ← same, limiter]
        rfl }

/-- The limiter of a ready adapter is at least as strict as every registered interval of its venue. -/
theorem strictest_le (invariant : Invariant world) {id : Nat} (ready : (world.adapters id).stage = .ready)
    (paced : 0 < (world.adapters id).interval) :
    world.strictest (world.adapters id).venue ≤ (world.limiterOf id).minIntervalSeconds := by
  have every : ∀ other ∈ world.created.filter (fun other => decide ((world.adapters other).venue = (world.adapters id).venue ∧
        (world.adapters other).stage = .ready)),
      (world.adapters other).interval ≤ (world.limiterOf id).minIntervalSeconds := by
    intro other member
    obtain ⟨venue, readyOther⟩ := of_decide_eq_true (List.mem_filter.mp member).2
    rcases lt_or_ge 0 (world.adapters other).interval with positive | none
    · obtain ⟨entry, found, limiter, -⟩ := invariant.shared id (by rw [ready]; rfl) paced
      obtain ⟨entryOther, foundOther, limiterOther, -⟩ := invariant.shared other (by rw [readyOther]; rfl) positive
      rw [venue, found] at foundOther
      cases foundOther
      have registered := invariant.registered other readyOther
      unfold World.limiterOf at registered ⊢
      rwa [← limiterOther, limiter] at registered
    · exact le_trans none (invariant.interval _)
  unfold World.strictest
  generalize world.created.filter _ = others at every
  induction others with
  | nil => exact invariant.interval _
  | cons other rest ih =>
    rw [List.map_cons, List.foldr_cons]
    apply max_le (every other List.mem_cons_self)
    exact ih fun another member => every another (List.mem_cons_of_mem _ member)

theorem strengthen (invariant : Invariant world) (id : Nat) (interval : ℚ) (idle : (world.limiterOf id).holder = none) :
    Invariant (world.setLimiter id ((world.limiterOf id).strengthenInterval interval)) := by
  have free : ∀ dispatch, (world.dispatches dispatch).slot.busy = true →
      (world.adapters (world.dispatches dispatch).adapter).limiter ≠ (world.adapters id).limiter := by
    intro dispatch busy same
    have holder := (invariant.busy dispatch busy).2.2.1
    unfold World.limiterOf at holder idle
    rw [same, idle] at holder
    cases holder
  apply invariant.relimited id _ world.dispatches world.slots (le_max_left ..)
  · simp only [RateLimiter.strengthenInterval]
    split
    · exact add_nonneg (invariant.next _) (le_max_left ..)
    · exact invariant.next _
  · intro dispatch _
    exact ⟨rfl, fun member => member⟩
  · intro dispatch busy same
    exact absurd same (free dispatch busy)
  · intro start member paced same
    obtain ⟨positive, ends⟩ := invariant.notRunning (fun dispatch running => free dispatch (by rw [running]; rfl))
      member paced same
    have raised : max (world.limiterOf id).minIntervalSeconds interval =
        (world.limiterOf id).minIntervalSeconds + max 0 (interval - (world.limiterOf id).minIntervalSeconds) := by
      rw [← max_add_add_left]
      simp
    simp only [RateLimiter.strengthenInterval]
    rw [if_pos (show 0 < (world.limiterOf id).nextAllowedAt from positive), raised]
    have increase : 0 ≤ max 0 (interval - (world.limiterOf id).minIntervalSeconds) := le_max_left ..
    unfold World.limiterOf at increase ⊢
    exact ⟨by linarith, by linarith⟩

theorem acquire (invariant : Invariant world) (dispatch id : Nat) (ready : (world.adapters id).stage = .ready)
    (idle : (world.limiterOf id).holder = none) (fresh : (world.dispatches dispatch).slot = .absent) :
    Invariant { world.setLimiter id { world.limiterOf id with holder := some dispatch } with
      dispatches := Function.update world.dispatches dispatch ⟨id, .held, world.strictest (world.adapters id).venue⟩
      slots := world.slots ++ [dispatch] } := by
  have free : ∀ other, (world.dispatches other).slot.busy = true →
      (world.adapters (world.dispatches other).adapter).limiter ≠ (world.adapters id).limiter := by
    intro other busy same
    have holder := (invariant.busy other busy).2.2.1
    unfold World.limiterOf at holder idle
    rw [same, idle] at holder
    cases holder
  apply invariant.relimited id { world.limiterOf id with holder := some dispatch } _ _ (le_refl _) (invariant.next _)
  · intro other busy
    by_cases same : other = dispatch
    · rw [same, Function.update_self, fresh] at busy
      rcases busy with ⟨busy, -⟩ | ⟨-, elsewhere⟩
      · cases busy
      · exact absurd rfl elsewhere
    · rw [Function.update_of_ne same]
      exact ⟨rfl, fun member => List.mem_append_left _ member⟩
  · intro other busy same
    by_cases here : other = dispatch
    · rw [here, Function.update_self]
      exact ⟨ready, List.mem_append_right _ List.mem_cons_self, rfl, nofun, fun paced => invariant.strictest_le ready paced⟩
    · rw [Function.update_of_ne here] at busy same
      exact absurd same (free other busy)
  · intro start member paced same
    exact invariant.notRunning (fun other running => free other (by rw [running]; rfl)) member paced same

/-- The end of a slot, with the limiter that it leaves. -/
theorem release (invariant : Invariant world) (dispatch : Nat) (limiter : RateLimiter)
    (busy : (world.dispatches dispatch).slot.busy = true)
    (interval : (world.limiterOf (world.dispatches dispatch).adapter).minIntervalSeconds ≤ limiter.minIntervalSeconds)
    (next : 0 ≤ limiter.nextAllowedAt)
    (reserved : ∀ start ∈ world.log, 0 < start.interval →
      start.limiter = (world.adapters (world.dispatches dispatch).adapter).limiter →
      0 < limiter.nextAllowedAt ∧ start.started + limiter.minIntervalSeconds ≤ limiter.nextAllowedAt) :
    Invariant { (world.setLimiter (world.dispatches dispatch).adapter limiter).setSlot dispatch .ended with
      slots := world.slots.filter fun other => decide (other ≠ dispatch) } := by
  apply invariant.relimited (world.dispatches dispatch).adapter limiter
    (Function.update world.dispatches dispatch { world.dispatches dispatch with slot := .ended }) _ interval next _ _ reserved
  · intro other taken
    have different : other ≠ dispatch := by
      rintro rfl
      rcases taken with ⟨-, elsewhere⟩ | ⟨taken, -⟩
      · exact elsewhere rfl
      · rw [Function.update_self] at taken
        cases taken
    refine ⟨Function.update_of_ne different .., fun member => ?_⟩
    exact List.mem_filter.mpr ⟨member, decide_eq_true different⟩
  · intro other taken same
    by_cases here : other = dispatch
    · rw [here, Function.update_self] at taken
      cases taken
    · rw [Function.update_of_ne here] at taken same
      exact absurd (invariant.alone busy taken same) here

theorem abandon (invariant : Invariant world) (dispatch : Nat) (held : (world.dispatches dispatch).slot = .held) :
    Invariant { (world.setLimiter (world.dispatches dispatch).adapter
        { world.limiterOf (world.dispatches dispatch).adapter with holder := none }).setSlot dispatch .ended with
      slots := world.slots.filter fun other => decide (other ≠ dispatch) } := by
  have busy : (world.dispatches dispatch).slot.busy = true := by rw [held]; rfl
  apply invariant.release dispatch { world.limiterOf (world.dispatches dispatch).adapter with holder := none } busy
    (le_refl _) (invariant.next _)
  intro start member paced same
  refine invariant.notRunning (fun other running sameOther => ?_) member paced same
  -- one limiter has one busy dispatch, which has just been cleared to start
  have here := invariant.alone busy (by rw [running]; rfl) sameOther
  rw [here, held] at running
  cases running

theorem finish (invariant : Invariant world) (dispatch : Nat) (running : (world.dispatches dispatch).slot = .running) :
    Invariant { (world.setLimiter (world.dispatches dispatch).adapter
        ((world.limiterOf (world.dispatches dispatch).adapter).reserve world.clock)).setSlot dispatch .ended with
      slots := world.slots.filter fun other => decide (other ≠ dispatch) } := by
  have busy : (world.dispatches dispatch).slot.busy = true := by rw [running]; rfl
  have least := invariant.interval (world.adapters (world.dispatches dispatch).adapter).limiter
  have due := invariant.next (world.adapters (world.dispatches dispatch).adapter).limiter
  have later : (world.limiterOf (world.dispatches dispatch).adapter).nextAllowedAt ≤
      max world.clock (world.limiterOf (world.dispatches dispatch).adapter).nextAllowedAt := le_max_right ..
  have now : world.clock ≤ max world.clock (world.limiterOf (world.dispatches dispatch).adapter).nextAllowedAt :=
    le_max_left ..
  apply invariant.release dispatch ((world.limiterOf (world.dispatches dispatch).adapter).reserve world.clock) busy
    (le_refl _)
  · simp only [RateLimiter.reserve]
    unfold World.limiterOf at later ⊢
    linarith
  · intro start member paced same
    simp only [RateLimiter.reserve]
    rcases invariant.reserved start member paced with ⟨runs, adapter⟩ | ⟨positive, ends⟩
    · -- the request that ends now
      have begun := invariant.begun start member
      obtain ⟨-, -, interval, limiter⟩ := invariant.logged start member
      have registered := (invariant.busy start.dispatch (by rw [runs]; rfl)).1
      rw [adapter] at registered
      replace registered := invariant.registered _ registered
      unfold World.limiterOf at registered now later ⊢
      rw [interval, limiter, same] at registered
      exact ⟨by linarith, by linarith⟩
    · rw [same] at positive ends
      unfold World.limiterOf at now later ⊢
      exact ⟨by linarith, by linarith⟩

theorem step (invariant : Invariant world) {action : Action} {next : World}
    (stepped : step world action = some next) : Invariant next := by
  cases action with
  | tick now =>
    obtain ⟨later, ended⟩ := Option.ite_none_right_eq_some.mp stepped
    cases ended
    exact invariant.tick later
  | create id venue interval =>
    obtain ⟨⟨fresh, -⟩, ended⟩ := Option.ite_none_right_eq_some.mp stepped
    cases ended
    exact invariant.venueRateLimiter id venue interval fresh
  | compare id =>
    obtain ⟨comparing, ended⟩ := Option.ite_none_right_eq_some.mp stepped
    cases ended
    have free : ∀ dispatch, (world.dispatches dispatch).slot.busy = true → (world.dispatches dispatch).adapter ≠ id := by
      rintro dispatch busy rfl
      rw [(invariant.busy dispatch busy).1] at comparing
      cases comparing
    apply invariant.restaged id _ _ (by rw [comparing]; rfl) _ (Or.inr free)
    · split
      · exact nofun
      · exact nofun
    · intro ready
      split at ready
      · assumption
      · cases ready
  | strengthen id =>
    obtain ⟨⟨locking, idle⟩, ended⟩ := Option.ite_none_right_eq_some.mp stepped
    cases ended
    apply (invariant.strengthen id _ idle).restaged id .ready nofun
    · show (world.adapters id).stage.live = true
      rw [locking]
      rfl
    · intro _
      show (world.adapters id).interval ≤
        ((world.setLimiter id ((world.limiterOf id).strengthenInterval (world.adapters id).interval)).limiters
          (world.adapters id).limiter).minIntervalSeconds
      rw [World.setLimiter_limiters, if_pos rfl]
      exact le_max_right ..
    · exact Or.inl rfl
  | collect id =>
    obtain ⟨stage, ended⟩ := Option.ite_none_right_eq_some.mp stepped
    cases ended
    apply invariant.restaged id .collected nofun _ nofun
    · rcases stage with locking | ⟨ready, free⟩
      · apply Or.inr
        rintro dispatch busy rfl
        rw [(invariant.busy dispatch busy).1] at locking
        cases locking
      · exact Or.inr fun dispatch busy => free dispatch (invariant.busy dispatch busy).2.1
    · rcases stage with locking | ⟨ready, -⟩
      · rw [locking]
        rfl
      · rw [ready]
        rfl
  | free id =>
    obtain ⟨⟨ready, none⟩, ended⟩ := Option.ite_none_right_eq_some.mp stepped
    cases ended
    refine invariant.begins id 0 0 ready fun paced => ?_
    exact absurd (le_trans (invariant.registered id ready) none) (not_le.mpr paced)
  | acquire dispatch id =>
    obtain ⟨⟨ready, -, idle, fresh⟩, ended⟩ := Option.ite_none_right_eq_some.mp stepped
    cases ended
    exact invariant.acquire dispatch id ready idle fresh
  | clear dispatch =>
    obtain ⟨⟨held, due⟩, ended⟩ := Option.ite_none_right_eq_some.mp stepped
    cases ended
    exact invariant.reslotted dispatch .cleared (by rw [held]; rfl) (by rw [held]; exact nofun) fun _ => due
  | abandon dispatch =>
    obtain ⟨held, ended⟩ := Option.ite_none_right_eq_some.mp stepped
    cases ended
    exact invariant.abandon dispatch held
  | dispatch dispatch =>
    obtain ⟨cleared, ended⟩ := Option.ite_none_right_eq_some.mp stepped
    cases ended
    have busy : (world.dispatches dispatch).slot.busy = true := by rw [cleared]; rfl
    obtain ⟨ready, -, -, strict⟩ := invariant.busy dispatch busy
    have slotted := invariant.reslotted dispatch .running busy (by rw [cleared]; exact nofun) nofun
    refine slotted.begins _ dispatch _ ready fun paced => ⟨⟨?_, ?_⟩, strict paced, ?_⟩
    · rw [World.setSlot_slot, if_pos rfl]
    · rw [World.setSlot_adapter]
    · intro start member pacedStart same
      have idle : ∀ other, (world.dispatches other).slot = .running →
          (world.adapters (world.dispatches other).adapter).limiter ≠
            (world.adapters (world.dispatches dispatch).adapter).limiter := by
        intro other running sameOther
        have here := invariant.alone busy (by rw [running]; rfl) sameOther
        rw [here, cleared] at running
        cases running
      exact le_trans (invariant.notRunning idle member pacedStart same).2 (invariant.cleared dispatch cleared)
  | finish dispatch =>
    obtain ⟨running, ended⟩ := Option.ite_none_right_eq_some.mp stepped
    cases ended
    exact invariant.finish dispatch running

theorem run (invariant : Invariant world) {actions : List Action} {last : World}
    (ran : run world actions = some last) : Invariant last :=
  Transition.foldlM_invariant Invariant (fun _ => True) (fun _ holds stepped => holds.step stepped) ran (fun _ _ => trivial) invariant

end Invariant

/-- In every run the requests of a venue keep the registered intervals, those of the later one as long as the
schedule of the earlier one was not dropped, and live adapters share it. -/
theorem requests_spaced (clock : ℚ) (actions : List Action) (world : World)
    (ran : run (initial clock) actions = some world) :
    world.log.Pairwise (Spaced world) ∧
    (∀ id other, (world.adapters id).stage.live = true → (world.adapters other).stage.live = true →
      0 < (world.adapters id).interval → 0 < (world.adapters other).interval →
      (world.adapters id).venue = (world.adapters other).venue →
      (world.adapters id).limiter = (world.adapters other).limiter) ∧
    world.registry.length ≤ maxSharedRateLimiters := by
  have invariant := (initial_invariant clock).run ran
  refine ⟨invariant.spaced, ?_, invariant.bounded⟩
  intro id other live liveOther paced pacedOther venue
  obtain ⟨entry, found, limiter, -⟩ := invariant.shared id live paced
  obtain ⟨entryOther, foundOther, limiterOther, -⟩ := invariant.shared other liveOther pacedOther
  rw [← venue, found] at foundOther
  cases foundOther
  rw [← limiter, limiterOther]

/-- A request with the interval 1, and after a pause of 2 the creation of an adapter of another venue and a request
with the interval 10. -/
def churn : List Action :=
  [.create 1 (text "a") 1, .compare 1, .acquire 1 1, .clear 1, .dispatch 1, .finish 1, .collect 1, .tick 12,
    .create 2 (text "b") 1, .create 3 (text "a") 10, .compare 3, .acquire 2 3, .clear 2, .dispatch 2]

theorem churn_log : (run (initial 10) churn).map (fun world => world.log.map fun start =>
    (start.venue, start.interval, start.started, start.strictest)) = some [((text "a"), 1, 10, 1), ((text "a"), 10, 12, 10)] := by
  decide +kernel

/-- The later request comes sooner than its own interval after the earlier one. -/
theorem requests_closer : ¬∀ (clock : ℚ) (actions : List Action) (world : World),
    run (initial clock) actions = some world →
    world.log.Pairwise fun earlier later => 0 < earlier.interval → 0 < later.interval → earlier.venue = later.venue →
      earlier.started + later.strictest ≤ later.started := by
  intro spaced
  have ran := churn_log
  obtain ⟨world, reached, log⟩ := Option.map_eq_some_iff.mp ran
  have apart : (world.log.map fun start => (start.venue, start.interval, start.started, start.strictest)).Pairwise
      fun earlier later => 0 < earlier.2.1 → 0 < later.2.1 → earlier.1 = later.1 →
        earlier.2.2.1 + later.2.2.2 ≤ later.2.2.1 := List.pairwise_map.mpr (spaced 10 churn world reached)
  rw [log] at apart
  have close := List.rel_of_pairwise_cons apart List.mem_cons_self (by decide +kernel) (by decide +kernel) rfl
  exact absurd close (by decide +kernel)

/-- Both requests of the run keep the interval of the earlier one. -/
theorem requests_spaced_churn : ∃ world, run (initial 10) churn = some world ∧ world.log.length = 2 ∧
    world.log.Pairwise (Spaced world) := by
  obtain ⟨world, reached, log⟩ := Option.map_eq_some_iff.mp churn_log
  have lengths := congrArg List.length log
  rw [List.length_map] at lengths
  exact ⟨world, reached, lengths, (requests_spaced 10 churn world reached).1⟩

end MarketSentinel.Venue.Pacing
