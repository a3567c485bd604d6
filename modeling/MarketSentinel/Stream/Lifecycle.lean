import MarketSentinel.Stream.Client

/-! Generations of a client: what starting, stopping and editing leave true in every run.

A stopped worker may live on. `start` does nothing while it does, and leaves the client stopped.
-/

set_option autoImplicit false

namespace MarketSentinel.Stream

open Python

/-! ## Messages -/

theorem mem_sorted (ids : Finset Text) (id : Text) : id ∈ sorted ids ↔ id ∈ ids := Finset.mem_sort _

theorem listed_idItems (ids : Finset Text) :
    ((sorted ids).map Json.str).filterMap idOf = sorted ids := by
  rw [List.filterMap_map]
  exact List.filterMap_some

theorem sorted_toFinset (ids : Finset Text) : (sorted ids).toFinset = ids := by
  ext id
  rw [List.mem_toFinset, mem_sorted]

section Keys

private theorem assets_operation : text "assets_ids" ≠ text "operation" := text_injective.ne (by simp)

private theorem type_operation : text "type" ≠ text "operation" := text_injective.ne (by simp)

private theorem custom_operation : text "custom_feature_enabled" ≠ text "operation" := text_injective.ne (by simp)

private theorem auth_operation : text "auth" ≠ text "operation" := text_injective.ne (by simp)

private theorem markets_operation : text "markets" ≠ text "operation" := text_injective.ne (by simp)

private theorem auth_markets : text "auth" ≠ text "markets" := text_injective.ne (by simp)

private theorem type_markets : text "type" ≠ text "markets" := text_injective.ne (by simp)

private theorem subscribe_unsubscribe : text "subscribe" ≠ text "unsubscribe" := text_injective.ne (by simp)

theorem kept_sorted {ids : Finset Text} (solid : [] ∉ ids) :
    (sorted ids).filter (fun id => decide (id ≠ [])) = sorted ids := by
  apply List.filter_eq_self.mpr
  intro id member
  apply decide_eq_true
  rintro rfl
  exact solid ((mem_sorted ..).mp member)

theorem listedIds_head (client : Client) (ids : Finset Text) (rest : List (Text × Json)) :
    listedIds client ((idsField client, idItems (sorted ids)) :: rest) = ids := by
  simp only [listedIds, Dict.get?, if_true, idItems, listed_idItems, sorted_toFinset]

theorem applied_of_none {client : Client} {subscribed : Finset Text} {message : Dict Text Json}
    (silent : message.get? (text "operation") = none) :
    applied client subscribed (.obj message) = subscribed ∪ listedIds client message := by
  simp only [applied, silent]

/-- The first message subscribes exactly its ids. -/
theorem applied_subscription (client : Client) {ids : Finset Text} (solid : [] ∉ ids) :
    applied client ∅ (subscription client (sorted ids)) = ids := by
  cases client with
  | market custom =>
    have silent : Dict.get? ([(text "assets_ids", idItems (sorted ids)), (text "type", .str (text "market"))] ++
        customFeature custom) (text "operation") = none := by
      cases custom <;>
        simp [customFeature, Dict.get?, assets_operation, type_operation, custom_operation]
    have listed := listedIds_head (.market custom) ids ((text "type", .str (text "market")) :: customFeature custom)
    rw [subscription, buildMarketSubscription, kept_sorted solid, applied_of_none silent, Finset.empty_union]
    exact listed
  | user auth =>
    rw [subscription, buildUserSubscription, kept_sorted solid, applied_of_none, Finset.empty_union]
    · by_cases none : sorted ids = []
      · have empty : ids = ∅ := by
          rw [← sorted_toFinset ids, none]
          rfl
        rw [if_pos none, empty]
        simp [listedIds, idsField, Dict.get?, auth_markets, type_markets]
      · rw [if_neg none]
        have listed := listedIds_head (.user auth) ids []
        simpa [listedIds, idsField, Dict.get?, auth_markets, type_markets] using listed
    · by_cases none : sorted ids = []
      · simp [none, Dict.get?, auth_operation, type_operation]
      · simp [none, Dict.get?, auth_operation, type_operation, markets_operation]

theorem applied_edit (client : Client) (operation : String) (subscribed ids : Finset Text) :
    applied client subscribed (edit client operation (sorted ids)) =
      if text operation = text "unsubscribe" then subscribed \ ids else subscribed ∪ ids := by
  cases client with
  | market custom =>
    have listed := listedIds_head (.market custom) ids ((text "operation", .str (text operation)) :: customFeature custom)
    simp only [idsField] at listed
    simp only [edit, applied, List.cons_append, List.nil_append, Dict.get?, if_neg assets_operation, if_true, listed]
  | user auth =>
    have listed := listedIds_head (.user auth) ids [(text "operation", .str (text operation))]
    simp only [idsField] at listed
    simp only [edit, applied, Dict.get?, if_neg markets_operation, if_true, listed]

end Keys

theorem subscribedIds_send (client : Client) (messages : List Json) (message : Json) :
    subscribedIds client (messages ++ [message]) = applied client (subscribedIds client messages) message := by
  rw [subscribedIds, List.foldl_append]
  rfl

theorem nil_notMem_normalized (ids : List Text) : [] ∉ normalized ids := by
  simp [normalized]

/-! ## The invariant -/

/-- The connection of a worker from the moment when it was marked. -/
def Stage.marked : Stage → Option Nat
  | .heading c _ | .syncing c _ | .removing c _ _ | .adding c _ _ | .receiving c _ | .clearing c => some c
  | _ => none

theorem Stage.connection_of_marked {stage : Stage} {c : Nat} (marked : stage.marked = some c) :
    stage.connection = some c := by
  cases stage <;> simp_all [Stage.marked, Stage.connection]

theorem World.clearConnection_eq (world : World) (generation c : Nat) : ∃ ws wsGeneration,
    world.clearConnection generation c =
      if world.connectedGeneration = some generation then
        { world with
          ws := ws
          wsGeneration := wsGeneration
          connectedGeneration := none
          connected := false }
      else { world with ws := ws, wsGeneration := wsGeneration } := by
  by_cases current : world.ws = some c ∧ world.wsGeneration = some generation
  · exact ⟨none, none, by simp only [World.clearConnection, if_pos current]⟩
  · exact ⟨world.ws, world.wsGeneration, by simp only [World.clearConnection, if_neg current]⟩

@[simp] theorem World.clearConnection_generation (world : World) (generation c : Nat) :
    (world.clearConnection generation c).generation = world.generation := by
  obtain ⟨ws, wsGeneration, cleared⟩ := world.clearConnection_eq generation c
  rw [cleared]
  split <;> rfl

@[simp] theorem World.clearConnection_workers (world : World) (generation c : Nat) :
    (world.clearConnection generation c).workers = world.workers := by
  obtain ⟨ws, wsGeneration, cleared⟩ := world.clearConnection_eq generation c
  rw [cleared]
  split <;> rfl

theorem World.snapshot_self (world : World) (c : Nat) : (world.snapshot c).snapshots c = world.ids :=
  Function.update_self ..

/-- What the messages of a worker's connection have subscribed, as it stands. -/
def Wired (client : Client) (opened : Nat) (sent : Nat → List Json) (snapshots : Nat → Finset Text) : Stage → Prop
  | .registering c | .greeting c => c < opened ∧ sent c = []
  | .subscribing c ids => c < opened ∧ sent c = [] ∧ ids = snapshots c ∧ [] ∉ ids
  | .marking c ids | .heading c ids | .syncing c ids | .receiving c ids =>
    c < opened ∧ subscribedIds client (sent c) = ids ∧ ids = snapshots c
  | .removing c ids current => c < opened ∧ subscribedIds client (sent c) = ids ∧ current = snapshots c
  | .adding c ids current => c < opened ∧ subscribedIds client (sent c) = ids ∧ current = snapshots c ∧ ids ⊆ current
  | _ => True

structure Invariant (client : Client) (world : World) : Prop where
  thread : world.thread = world.generation
  stop : world.stop = world.generation
  others : ∀ generation, generation ≠ world.generation →
    world.workers generation = .absent ∨ world.workers generation = .finished
  begun : 0 < world.generation → world.workers world.generation ≠ .absent
  unbegun : world.generation = 0 → world.workers 0 = .absent
  ended : world.workers world.generation = .finished → world.stopped world.generation = true
  -- the flag and the generation that set it go together
  flagged : ∀ generation, world.connectedGeneration = some generation →
    world.connected = true ∧ generation = world.generation
  marked : world.connected = true → world.connectedGeneration = some world.generation ∧
    world.stopped world.generation = false ∧
    ∃ c, world.ws = some c ∧ world.wsGeneration = some world.generation ∧
      (world.workers world.generation).marked = some c
  unsent : ∀ c, world.opened ≤ c → world.sent c = []
  wired : Wired client world.opened world.sent world.snapshots (world.workers world.generation)
  solid : [] ∉ world.ids

theorem initial_invariant (client : Client) (ids : List Text) : Invariant client (initial ids) where
  thread := rfl
  stop := rfl
  others _ _ := Or.inl rfl
  begun begun := absurd begun (lt_irrefl 0)
  unbegun _ := rfl
  ended ended := by cases ended
  flagged _ flagged := by cases flagged
  marked connected := by cases connected
  unsent _ _ := rfl
  wired := trivial
  solid := nil_notMem_normalized ids

namespace Invariant

variable {client : Client} {world : World}

theorem start (invariant : Invariant client world) : Invariant client world.start := by
  unfold World.start
  split
  · exact invariant
  · rename_i dead
    have new : ∀ generation, generation ≠ world.generation + 1 →
        Function.update world.workers (world.generation + 1) Stage.looking generation = world.workers generation :=
      fun generation different => Function.update_of_ne different ..
    have here : Function.update world.workers (world.generation + 1) Stage.looking (world.generation + 1) = .looking :=
      Function.update_self ..
    exact {
      thread := rfl
      stop := rfl
      others := by
        intro generation different
        show Function.update world.workers (world.generation + 1) Stage.looking generation = .absent ∨
          Function.update world.workers (world.generation + 1) Stage.looking generation = .finished
        rw [new _ different]
        by_cases last : generation = world.generation
        · rw [invariant.thread, ← last] at dead
          cases stage : world.workers generation <;> simp_all [Stage.alive]
        · exact invariant.others generation last
      begun _ := by
        show Function.update world.workers (world.generation + 1) Stage.looking (world.generation + 1) ≠ _
        rw [here]
        exact nofun
      unbegun none := absurd none (Nat.succ_ne_zero _)
      ended ended := by
        replace ended : Function.update world.workers (world.generation + 1) Stage.looking (world.generation + 1) = .finished :=
          ended
        rw [here] at ended
        cases ended
      flagged _ flagged := by cases flagged
      marked connected := by cases connected
      unsent := invariant.unsent
      wired := by
        show Wired client world.opened world.sent world.snapshots
          (Function.update world.workers (world.generation + 1) Stage.looking (world.generation + 1))
        rw [here]
        trivial
      solid := invariant.solid }

theorem stopCall (invariant : Invariant client world) : Invariant client world.stopCall :=
  { invariant with
    ended := fun _ => by
      show Function.update world.stopped world.stop true world.generation = true
      rw [invariant.stop, Function.update_self]
    flagged := fun _ flagged => by cases flagged
    marked := fun connected => by cases connected }

theorem edited (invariant : Invariant client world) {ids : Finset Text} (solid : [] ∉ ids) :
    Invariant client { world with ids := ids } :=
  { invariant with solid }

/-- The worker of the generation moves on; what it sends and keeps may change. -/
theorem moved (invariant : Invariant client world) {before after : Stage} {opened : Nat} {sent : Nat → List Json}
    {snapshots : Nat → Finset Text} (stage : world.workers world.generation = before)
    (active : before ≠ .absent) (present : after ≠ .absent)
    (ends : after = .finished → world.stopped world.generation = true)
    (marked : ∀ c, before.marked = some c → world.connected = true → after.marked = some c)
    (unsent : ∀ c, opened ≤ c → sent c = [])
    (wired : Wired client opened sent snapshots after) :
    Invariant client { world.moveTo world.generation after with opened := opened, sent := sent, snapshots := snapshots } := by
  have here : Function.update world.workers world.generation after world.generation = after := Function.update_self ..
  exact {
    invariant with
    others := by
      intro generation different
      replace different : generation ≠ world.generation := different
      show Function.update world.workers world.generation after generation = .absent ∨
        Function.update world.workers world.generation after generation = .finished
      rw [Function.update_of_ne different]
      exact invariant.others generation different
    begun := by
      intro _
      show Function.update world.workers world.generation after world.generation ≠ .absent
      rwa [here]
    unbegun := by
      intro none
      replace none : world.generation = 0 := none
      rw [none, invariant.unbegun none] at stage
      exact absurd stage.symm active
    ended := by
      intro ended
      replace ended : Function.update world.workers world.generation after world.generation = .finished := ended
      rw [here] at ended
      exact ends ended
    marked := by
      intro connected
      obtain ⟨flag, running, c, ws, wsGeneration, holds⟩ := invariant.marked connected
      refine ⟨flag, running, c, ws, wsGeneration, ?_⟩
      show (Function.update world.workers world.generation after world.generation).marked = some c
      rw [here]
      rw [stage] at holds
      exact marked c holds connected
    unsent := unsent
    wired := by
      show Wired client opened sent snapshots (Function.update world.workers world.generation after world.generation)
      rwa [here] }

/-- The worker only moves on. -/
theorem still (invariant : Invariant client world) {before after : Stage}
    (stage : world.workers world.generation = before) (active : before ≠ .absent) (present : after ≠ .absent)
    (ends : after = .finished → world.stopped world.generation = true)
    (marked : ∀ c, before.marked = some c → world.connected = true → after.marked = some c)
    (wired : Wired client world.opened world.sent world.snapshots after) :
    Invariant client (world.moveTo world.generation after) :=
  invariant.moved stage active present ends marked invariant.unsent wired

theorem registered (invariant : Invariant client world) {c : Nat} {next : World}
    (stage : world.workers world.generation = .registering c)
    (registers : world.registerConnection world.generation c = some next) :
    Invariant client (next.moveTo world.generation (.greeting c)) := by
  unfold World.registerConnection at registers
  split at registers
  · cases registers
  · cases registers
    have wired := invariant.wired
    rw [stage] at wired
    have unmarked : world.connected = false := by
      by_contra connected
      obtain ⟨-, -, other, -, -, holds⟩ := invariant.marked (Bool.eq_true_of_not_eq_false connected)
      rw [stage] at holds
      cases holds
    have base : Invariant client (world.moveTo world.generation (.greeting c)) :=
      invariant.still stage nofun nofun nofun nofun wired
    exact { base with
      marked := fun connected => by
        replace connected : world.connected = true := connected
        rw [unmarked] at connected
        cases connected }

theorem markedConnected (invariant : Invariant client world) {c : Nat} {sent : Finset Text} {next : World}
    (stage : world.workers world.generation = .marking c sent)
    (marks : world.markConnected world.generation c = some next) :
    Invariant client (next.moveTo world.generation (.heading c sent)) := by
  unfold World.markConnected at marks
  split at marks
  · rename_i checks
    cases marks
    obtain ⟨-, -, running, ws, wsGeneration⟩ := checks
    have wired := invariant.wired
    rw [stage] at wired
    have base : Invariant client (world.moveTo world.generation (.heading c sent)) :=
      invariant.still stage nofun nofun nofun nofun wired
    exact { base with
      flagged := fun generation flagged => by
        cases flagged
        exact ⟨rfl, rfl⟩
      marked := fun _ => by
        refine ⟨rfl, running, c, ws, wsGeneration, ?_⟩
        show (Function.update world.workers world.generation (Stage.heading c sent) world.generation).marked = some c
        rw [Function.update_self]
        rfl }
  · cases marks

theorem cleared (invariant : Invariant client world) {c : Nat} :
    Invariant client (world.clearConnection world.generation c) ∧
      (world.clearConnection world.generation c).connected = false := by
  obtain ⟨ws, wsGeneration, cleared⟩ := world.clearConnection_eq world.generation c
  rw [cleared]
  by_cases flagged : world.connectedGeneration = some world.generation
  · rw [if_pos flagged]
    exact ⟨{ invariant with flagged := nofun, marked := nofun }, rfl⟩
  · rw [if_neg flagged]
    have disconnected : world.connected = false := by
      apply Bool.eq_false_of_not_eq_true
      intro connected
      exact flagged (invariant.marked connected).1
    exact ⟨{ invariant with
      marked := fun connected => by
        replace connected : world.connected = true := connected
        rw [disconnected] at connected
        cases connected }, disconnected⟩

/-- A message goes out on an open connection. -/
theorem wrote (invariant : Invariant client world) {before after : Stage} {c : Nat} {message : Json}
    (stage : world.workers world.generation = before) (active : before ≠ .absent) (present : after ≠ .absent)
    (runs : after ≠ .finished) (marked : ∀ c, before.marked = some c → after.marked = some c) (opened : c < world.opened)
    (wired : Wired client world.opened (world.send c message).sent world.snapshots after) :
    Invariant client ((world.send c message).moveTo world.generation after) := by
  apply invariant.moved stage active present (fun ended => absurd ended runs) (fun c holds _ => marked c holds) _ wired
  intro d unopened
  have other : d ≠ c := by omega
  show Function.update world.sent c (world.sent c ++ [message]) d = []
  rw [Function.update_of_ne other]
  exact invariant.unsent d unopened

theorem snapped (invariant : Invariant client world) {before after : Stage} {c : Nat}
    (stage : world.workers world.generation = before) (active : before ≠ .absent) (present : after ≠ .absent)
    (runs : after ≠ .finished) (marked : ∀ c, before.marked = some c → after.marked = some c)
    (wired : Wired client world.opened world.sent (world.snapshot c).snapshots after) :
    Invariant client ((world.snapshot c).moveTo world.generation after) :=
  invariant.moved stage active present (fun ended => absurd ended runs) (fun c holds _ => marked c holds)
    invariant.unsent wired

theorem subscribedIds_sent (c : Nat) (message : Json) :
    subscribedIds client ((world.send c message).sent c) = applied client (subscribedIds client (world.sent c)) message := by
  show subscribedIds client (Function.update world.sent c (world.sent c ++ [message]) c) = _
  rw [Function.update_self, subscribedIds_send]

theorem advanced (invariant : Invariant client world) {generation : Nat} {works : Bool} {next : World}
    (advances : world.advance client generation works = some next) : Invariant client next := by
  -- only the worker of the current generation is left to move
  by_cases current : generation = world.generation
  swap
  · rcases invariant.others generation current with absent | finished
    · simp [World.advance, absent] at advances
    · simp [World.advance, finished] at advances
  subst current
  have wired := invariant.wired
  unfold World.advance at advances
  cases stage : world.workers world.generation with
  | absent | finished => simp [stage] at advances
  | looking =>
    simp only [stage] at advances
    cases stopped : world.stopped world.generation with
    | true =>
      simp only [stopped, if_true] at advances
      cases advances
      exact invariant.still stage nofun nofun (fun _ => stopped) nofun trivial
    | false =>
      simp only [stopped] at advances
      cases advances
      exact invariant.still stage nofun nofun nofun nofun trivial
  | connecting =>
    simp only [stage] at advances
    split at advances
    · cases advances
      exact invariant.moved stage nofun nofun nofun nofun (fun c unopened => invariant.unsent c (by omega))
        ⟨Nat.lt_succ_self _, invariant.unsent _ (Nat.le_refl _)⟩
    · cases advances
      exact invariant.still stage nofun nofun nofun nofun trivial
  | registering c =>
    simp only [stage] at advances
    split at advances
    · rename_i registers
      cases advances
      -- the connection becomes the current one under the lock that the generation was checked in
      exact invariant.registered stage registers
    · cases advances
      exact invariant.still stage nofun nofun nofun nofun trivial
  | greeting c =>
    rw [stage] at wired
    simp only [stage] at advances
    cases advances
    refine invariant.snapped stage nofun nofun nofun nofun ?_
    exact ⟨wired.1, wired.2, (world.snapshot_self c).symm, invariant.solid⟩
  | subscribing c ids =>
    rw [stage] at wired
    simp only [stage] at advances
    split at advances
    · cases advances
      obtain ⟨opened, unsent, kept, solid⟩ := wired
      refine invariant.wrote stage nofun nofun nofun nofun opened ?_
      refine ⟨opened, ?_, kept⟩
      rw [subscribedIds_sent, unsent]
      exact applied_subscription client solid
    · cases advances
      exact invariant.still stage nofun nofun nofun nofun trivial
  | marking c ids =>
    simp only [stage] at advances
    split at advances
    · rename_i marks
      cases advances
      exact invariant.markedConnected stage marks
    · cases advances
      exact invariant.still stage nofun nofun nofun nofun trivial
  | heading c ids =>
    rw [stage] at wired
    simp only [stage] at advances
    cases stopped : world.stopped world.generation with
    | true =>
      simp only [stopped, if_true] at advances
      cases advances
      exact invariant.still stage nofun nofun nofun (fun _ holds _ => holds) trivial
    | false =>
      simp only [stopped] at advances
      cases advances
      exact invariant.still stage nofun nofun nofun (fun _ holds _ => holds) wired
  | syncing c ids =>
    rw [stage] at wired
    simp only [stage] at advances
    cases advances
    refine invariant.snapped stage nofun nofun nofun (fun _ holds => holds) ?_
    exact ⟨wired.1, wired.2.1, (world.snapshot_self c).symm⟩
  | removing c ids current =>
    rw [stage] at wired
    obtain ⟨opened, subscribed, kept⟩ := wired
    simp only [stage] at advances
    split at advances
    · rename_i removed
      cases advances
      -- nothing to unsubscribe: what the venue knows of is still wanted
      have within : ids ⊆ current := Finset.sdiff_eq_empty_iff_subset.mp removed
      exact invariant.still stage nofun nofun nofun (fun _ holds _ => holds) ⟨opened, subscribed, kept, within⟩
    · split at advances
      · cases advances
        refine invariant.wrote stage nofun nofun nofun (fun _ holds => holds) opened ?_
        refine ⟨opened, ?_, kept, ?_⟩
        · rw [subscribedIds_sent, applied_edit, if_pos rfl, subscribed]
        · rw [Finset.sdiff_sdiff_self_left]
          exact Finset.inter_subset_right
      · cases advances
        exact invariant.still stage nofun nofun nofun (fun _ holds _ => holds) trivial
  | adding c ids current =>
    rw [stage] at wired
    obtain ⟨opened, subscribed, kept, within⟩ := wired
    simp only [stage] at advances
    split at advances
    · rename_i added
      cases advances
      -- nothing to subscribe either: the venue knows of exactly what is wanted
      have same : ids = current := Finset.Subset.antisymm within (Finset.sdiff_eq_empty_iff_subset.mp added)
      exact invariant.still stage nofun nofun nofun (fun _ holds _ => holds) ⟨opened, subscribed, same.trans kept⟩
    · split at advances
      · cases advances
        refine invariant.wrote stage nofun nofun nofun (fun _ holds => holds) opened ?_
        refine ⟨opened, ?_, ?_⟩
        · rw [subscribedIds_sent, applied_edit, if_neg subscribe_unsubscribe, subscribed]
        · rw [Finset.union_sdiff_of_subset within]
          exact kept
      · cases advances
        exact invariant.still stage nofun nofun nofun (fun _ holds _ => holds) trivial
  | receiving c ids =>
    rw [stage] at wired
    simp only [stage] at advances
    cases works with
    | true =>
      cases advances
      exact invariant.still stage nofun nofun nofun (fun _ holds _ => holds) wired
    | false =>
      cases advances
      exact invariant.still stage nofun nofun nofun (fun _ holds _ => holds) trivial
  | clearing c =>
    simp only [stage] at advances
    cases advances
    obtain ⟨cleared, disconnected⟩ := invariant.cleared (c := c)
    have here : (world.clearConnection world.generation c).workers (world.clearConnection world.generation c).generation =
        .clearing c := by
      simpa using stage
    have rested : Invariant client ((world.clearConnection world.generation c).moveTo
        (world.clearConnection world.generation c).generation .resting) :=
      cleared.still here nofun nofun nofun (fun _ _ connected => by rw [disconnected] at connected; cases connected) trivial
    rwa [World.clearConnection_generation] at rested
  | resting =>
    simp only [stage] at advances
    cases stopped : world.stopped world.generation with
    | true =>
      simp only [stopped, if_true] at advances
      cases advances
      exact invariant.still stage nofun nofun (fun _ => stopped) nofun trivial
    | false =>
      simp only [stopped] at advances
      cases advances
      exact invariant.still stage nofun nofun nofun nofun trivial

end Invariant

end MarketSentinel.Stream
