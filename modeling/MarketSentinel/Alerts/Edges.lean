import MarketSentinel.Alerts.Alert
import MarketSentinel.Library.FirstBy
import MarketSentinel.Library.Transition

/-! Rising edges over whole runs.

An event records a rising edge as long as no evaluation sees a once-alert that is
still marked triggered away from its condition.
-/

set_option autoImplicit false

namespace MarketSentinel.Alerts

open Python

/-- An alert and its price at the previous evaluation since its watched fields changed.
No operation reads the history variable. -/
structure Tracked where
  alert : PriceAlert
  previous : Option ℚ
  deriving DecidableEq

structure World where
  tracked : List Tracked
  events : List AlertEvent
  deriving DecidableEq

def World.alerts (w : World) : List PriceAlert := w.tracked.map Tracked.alert

/-- One evaluation: the contract, its prices and the stamps of new events. -/
structure Tick where
  marketId : Text
  contractId : Text
  priceState : PriceState
  stamps : Nat → Text × Int

section Steps

variable (runtime : Runtime)

def Tick.key (tick : Tick) : Text × Text := alertPriceStateKey runtime tick.marketId tick.contractId

/-- The price that an enabled alert of the contract sees. -/
def seenPrice (tick : Tick) (alert : PriceAlert) : Option ℚ :=
  if alert.enabled = true ∧ alertMarketId runtime alert = (tick.key runtime).1 ∧
      alert.tokenId = (tick.key runtime).2 then
    match priceValues runtime tick.priceState (tick.key runtime) with
    | .ok values => values.get alert.source
    | .error _ => none
  else none

/-- The condition holds now and did not hold, or had no price, before. -/
def Tracked.rises (tick : Tick) (tracked : Tracked) : Bool :=
  (seenPrice runtime tick tracked.alert).any fun value => alertCondition tracked.alert value &&
    !tracked.previous.any (alertCondition tracked.alert)

def Tracked.after (tick : Tick) (tracked : Tracked) (alert : PriceAlert) : Tracked :=
  ⟨alert, (seenPrice runtime tick tracked.alert).or tracked.previous⟩

/-- An evaluation that succeeds moves the history variables on. -/
def World.evaluate (w : World) (tick : Tick) : World × Except Failure (List Text) :=
  match evaluateAlertsForContract runtime w.alerts w.events tick.marketId tick.contractId tick.priceState tick.stamps with
  | (alerts, events, .ok messages) =>
    (⟨List.zipWith (Tracked.after runtime tick) w.tracked alerts, events⟩, .ok messages)
  | (alerts, events, .error failure) =>
    (⟨List.zipWith (fun tracked alert => ⟨alert, tracked.previous⟩) w.tracked alerts, events⟩, .error failure)

/-- A once-alert that is marked triggered sees no price away from its condition. -/
def Latched (tick : Tick) (alert : PriceAlert) : Prop :=
  alert.once = true ∧ alert.triggered = true ∧ ∃ value, seenPrice runtime tick alert = some value ∧
    alertCondition alert value = false

/-- The steps of a run; an evaluation may happen where `admissible` allows it. -/
inductive Step (admissible : World → Tick → Prop) : World → World → Prop where
  | evaluate {w : World} (tick : Tick) (allowed : admissible w tick) : Step admissible w (w.evaluate runtime tick).1
  | create {w : World} (knownMarket : Text → Bool) (ready : Text → Except Text Unit) (payload : Dict Text Json)
      (freshId : Text) (alert : PriceAlert)
      (accepted : alertFromPayload runtime knownMarket ready payload none freshId = .ok alert) :
      Step admissible w { w with tracked := w.tracked ++ [⟨alert, none⟩] }
  | edit {w : World} (knownMarket : Text → Bool) (ready : Text → Except Text Unit) (payload : Dict Text Json)
      (freshId : Text) (before after : List Tracked) (old : Tracked) (alert : PriceAlert)
      (place : w.tracked = before ++ old :: after)
      (accepted : alertFromPayload runtime knownMarket ready payload (some old.alert) freshId = .ok alert) :
      Step admissible w { w with tracked := before ++
        ⟨alert, if watched alert ≠ watched old.alert then none else old.previous⟩ :: after }
  | toggle {w : World} (before after : List Tracked) (old : Tracked)
      (place : w.tracked = before ++ old :: after) :
      Step admissible w { w with tracked := before ++
        ⟨{ old.alert with enabled := !old.alert.enabled }, old.previous⟩ :: after }
  | delete {w : World} (before after : List Tracked) (old : Tracked)
      (place : w.tracked = before ++ old :: after) :
      Step admissible w { w with tracked := before ++ after }
  | acknowledge {w : World} (eventId : Text) (now : Int) (events : List AlertEvent)
      (found : acknowledgeAlertEvent w.events eventId now = .ok events) :
      Step admissible w { w with events := events }

def World.Start (w : World) : Prop := w = ⟨[], []⟩

def World.Reachable (admissible : World → Tick → Prop) : World → Prop :=
  Transition.Reachable World.Start (Step runtime admissible)

/-- No evaluation sees a latched once-alert. -/
def Unlatched (w : World) (tick : Tick) : Prop := ∀ alert ∈ w.alerts, ¬Latched runtime tick alert

end Steps

/-! ## History -/

/-- Appending events keeps what is unread and all that is new, within the capacity. -/
theorem appendAlertEvents_ok {stored events history : List AlertEvent}
    (appended : appendAlertEvents stored events = .ok history) (bounded : stored.length ≤ maxAlertEvents)
    (distinct : (stored.map AlertEvent.id).Nodup) :
    (∃ kept, history = kept ++ events ∧ kept.Sublist stored ∧
      ∀ event ∈ stored, event.acknowledgedAt = 0 → event ∈ kept) ∧
      (∀ event ∈ events, event.id ∉ stored.map AlertEvent.id) ∧ history.length ≤ maxAlertEvents ∧ (history.map AlertEvent.id).Nodup := by
  unfold appendAlertEvents at appended
  split at appended
  · rename_i empty
    cases appended
    subst empty
    exact ⟨⟨stored, (List.append_nil stored).symm, List.Sublist.refl _, fun _ member _ => member⟩,
      by simp, bounded, distinct⟩
  split at appended
  · cases appended
  dsimp only at appended
  split at appended
  · cases appended
  rename_i unique
  rw [not_not] at unique
  split at appended
  · cases appended
  rename_i room
  cases appended
  -- only acknowledged events are removed, the oldest first and as many as there is no room for
  set removable := (stored.filter fun event => decide (event.acknowledgedAt ≠ 0)).mergeSort olderEvent with removable_
  set removeCount := (stored ++ events).length - maxAlertEvents with removeCount_
  have oldOnes : ∀ event ∈ removable.take removeCount, event ∈ stored ∧ event.acknowledgedAt ≠ 0 := by
    intro event member
    have sorted := List.mem_of_mem_take member
    rw [removable_, List.mem_mergeSort, List.mem_filter, decide_eq_true_eq] at sorted
    exact sorted
  set removed := (removable.take removeCount).map AlertEvent.id with removed_
  have ids : (stored ++ events).map AlertEvent.id = stored.map AlertEvent.id ++ events.map AlertEvent.id :=
    List.map_append
  have unknown : ∀ event ∈ events, event.id ∉ stored.map AlertEvent.id := by
    intro event member held
    rw [ids] at unique
    exact (List.nodup_append.mp unique).2.2 event.id held event.id (List.mem_map_of_mem member) rfl
  have fresh : ∀ event ∈ events, event.id ∉ removed := by
    intro event member held
    obtain ⟨old, among, same⟩ := List.mem_map.mp held
    exact unknown event member (same ▸ List.mem_map_of_mem (oldOnes old among).1)
  have once : removed.Nodup := by
    have sorted : (removable.map AlertEvent.id).Nodup :=
      (((List.mergeSort_perm _ _).map _).nodup_iff).mpr ((List.filter_sublist.map _).nodup distinct)
    exact ((List.take_sublist _ _).map _).nodup sorted
  have among : removed ⊆ (stored ++ events).map AlertEvent.id := by
    intro id held
    obtain ⟨old, taken, rfl⟩ := List.mem_map.mp held
    exact List.mem_map_of_mem (List.mem_append_left _ (oldOnes old taken).1)
  refine ⟨⟨stored.filter fun event => decide (event.id ∉ removed), ?_, List.filter_sublist, ?_⟩, unknown, ?_,
    (List.filter_sublist.map _).nodup unique⟩
  · rw [List.filter_append, List.filter_eq_self.mpr fun event member => decide_eq_true (fresh event member)]
  · intro event member unread
    refine List.mem_filter.mpr ⟨member, decide_eq_true fun held => ?_⟩
    obtain ⟨old, taken, same⟩ := List.mem_map.mp held
    obtain ⟨held, read⟩ := oldOnes old taken
    rw [List.inj_on_of_nodup_map distinct held member same] at read
    exact read unread
  · have counted := FirstBy.length_filter_keys (fun event : AlertEvent => decide (event.id ∉ removed))
      (fun _ => decide_eq_true_iff) unique once among
    have taken : removed.length = removeCount := by
      rw [removed_, List.length_map, List.length_take]
      omega
    omega

/-! ## What an evaluation does -/

variable {runtime : Runtime} {tick : Tick} {w : World}

/-- The change of an alert at the price it sees. -/
def changeAt (runtime : Runtime) (tick : Tick) (alert : PriceAlert) : Option Change :=
  (seenPrice runtime tick alert).map (decideAlert alert)

theorem evaluateAlert_ok {values : PriceValues} {alert : PriceAlert} {change : Option Change}
    (read : priceValues runtime tick.priceState (tick.key runtime) = .ok values)
    (decided : evaluateAlert runtime (tick.key runtime) values alert = .ok change) :
    change = changeAt runtime tick alert := by
  unfold evaluateAlert at decided
  unfold changeAt seenPrice
  rw [read]
  split at decided
  · rename_i disabled
    cases decided
    simp [disabled]
  · rename_i enabled
    split at decided
    · rename_i other
      cases decided
      rw [if_neg fun own => other.elim (fun differ => differ own.2.1) (fun differ => differ own.2.2)]
      rfl
    · rename_i same
      rw [not_or, not_not, not_not] at same
      obtain ⟨_, _, rest⟩ := Result.bind_eq_ok.mp decided
      cases rest
      rw [if_pos ⟨Bool.not_eq_false _ ▸ enabled, same.1, same.2⟩]

/-- An alert is as its history variable says, and marked triggered only under its condition. -/
structure Follows (tracked : Tracked) : Prop where
  value : tracked.alert.lastValue = tracked.previous
  latched : tracked.alert.triggered = true →
    ∃ value, tracked.previous = some value ∧ alertCondition tracked.alert value = true

/-- An alert fires exactly at a rising edge. -/
theorem Follows.fires {tracked : Tracked} (follows : Follows tracked) (value : ℚ) :
    (decideAlert tracked.alert value).fires =
      (alertCondition tracked.alert value && !tracked.previous.any (alertCondition tracked.alert)) := by
  unfold decideAlert
  dsimp only
  rw [follows.value]
  cases triggered : tracked.alert.triggered with
  | true =>
    obtain ⟨last, previous, held⟩ := follows.latched triggered
    simp [previous, held]
  | false =>
    cases previous : tracked.previous with
    | none => simp
    | some last => cases alertCondition tracked.alert last <;> simp

theorem Follows.crossing {tracked : Tracked} (follows : Follows tracked) :
    crossing tracked.alert (changeAt runtime tick tracked.alert) =
      if tracked.rises runtime tick then
        (seenPrice runtime tick tracked.alert).map fun value => (tracked.alert, value)
      else none := by
  unfold Alerts.crossing changeAt Tracked.rises
  cases seenPrice runtime tick tracked.alert with
  | none => rfl
  | some value =>
    simp only [Option.map_some, Option.bind_some, Option.any_some, follows.fires value]
    rfl

theorem firing_changes {tracked : List Tracked} (follows : ∀ entry ∈ tracked, Follows entry) :
    (firing (tracked.map Tracked.alert) ((tracked.map Tracked.alert).map (changeAt runtime tick))).map
      (fun crossing => crossing.1.id) =
      (tracked.filter (Tracked.rises runtime tick)).map fun entry => entry.alert.id := by
  induction tracked with
  | nil => rfl
  | cons entry rest ih =>
    have later := ih fun other member => follows other (List.mem_cons_of_mem entry member)
    unfold firing at later ⊢
    simp only [List.map_cons, List.zip_cons_cons, List.filterMap_cons, List.filter_cons,
      (follows entry List.mem_cons_self).crossing]
    by_cases rises : entry.rises runtime tick = true
    · obtain ⟨value, seen⟩ : ∃ value, seenPrice runtime tick entry.alert = some value := by
        unfold Tracked.rises at rises
        cases seen : seenPrice runtime tick entry.alert with
        | none => simp [seen] at rises
        | some value => exact ⟨value, rfl⟩
      simp only [rises, if_true, seen, Option.map_some, List.map_cons, later]
    · rw [Bool.not_eq_true] at rises
      simp only [rises, Bool.false_eq_true, if_false]
      exact later

/-- A successful evaluation: the events of the rising edges, and each alert changed on its own. -/
theorem evaluate_ok {messages : List Text} (follows : ∀ entry ∈ w.tracked, Follows entry)
    (done : (w.evaluate runtime tick).2 = .ok messages) :
    ∃ events history, appendAlertEvents w.events events = .ok history ∧
      events.map AlertEvent.alertId =
        (w.tracked.filter (Tracked.rises runtime tick)).map (fun entry => entry.alert.id) ∧
      (w.evaluate runtime tick).1 = ⟨w.tracked.map fun entry =>
        entry.after runtime tick (entry.alert.apply (changeAt runtime tick entry.alert)), history⟩ := by
  have key : alertPriceStateKey runtime tick.marketId tick.contractId = tick.key runtime := rfl
  unfold World.evaluate evaluateAlertsForContract at done ⊢
  simp only [key] at done ⊢
  cases decided : priceValues runtime tick.priceState (tick.key runtime) >>= fun values =>
      w.alerts.mapM (evaluateAlert runtime (tick.key runtime) values) with
  | error message => simp [decided] at done
  | ok changes =>
    obtain ⟨values, read, each⟩ := Result.bind_eq_ok.mp decided
    have all := Result.mapM_eq_map (fun alert change found => evaluateAlert_ok read found) each
    subst all
    simp only [decided] at done ⊢
    obtain ⟨events, events_⟩ : ∃ events, events =
        (firing w.alerts (w.alerts.map (changeAt runtime tick))).zipIdx.map fun entry =>
          crossingEvent runtime (tick.key runtime) entry.1.1 entry.1.2 (tick.stamps entry.2) := ⟨_, rfl⟩
    simp only [← events_] at done ⊢
    cases appended : appendAlertEvents w.events events with
    | error failure => simp [appended] at done
    | ok history =>
      refine ⟨events, history, appended, ?_, ?_⟩
      · rw [← firing_changes follows, events_, List.map_map]
        calc _ = ((firing w.alerts (w.alerts.map (changeAt runtime tick))).zipIdx.map Prod.fst).map
              (fun crossing => crossing.1.id) := by
              rw [List.map_map]
              rfl
          _ = _ := by
            rw [List.zipIdx_map_fst]
            rfl
      · simp only [World.alerts, List.map_map, List.zipWith_map_left, List.zipWith_map_right, List.zipWith_self,
          Function.comp_apply]

/-! ## Runs -/

/-- The invariant of a run. -/
structure Inv (w : World) : Prop where
  follows : ∀ entry ∈ w.tracked, Follows entry
  bounded : w.events.length ≤ maxAlertEvents
  distinct : (w.events.map AlertEvent.id).Nodup

/-- An evaluated alert follows its history variable again, unless it was latched. -/
theorem Follows.after {entry : Tracked} (follows : Follows entry) (free : ¬Latched runtime tick entry.alert) :
    Follows (entry.after runtime tick (entry.alert.apply (changeAt runtime tick entry.alert))) := by
  unfold Tracked.after changeAt
  cases seen : seenPrice runtime tick entry.alert with
  | none => exact ⟨follows.value, follows.latched⟩
  | some value =>
    refine ⟨rfl, fun marked => ⟨value, rfl, ?_⟩⟩
    change (decideAlert entry.alert value).triggered = true at marked
    change alertCondition entry.alert value = true
    by_contra away
    rw [Bool.not_eq_true] at away
    unfold decideAlert at marked
    simp only [away, Bool.false_and, Bool.false_or] at marked
    cases once : entry.alert.once with
    | false => cases triggered : entry.alert.triggered <;> simp [once, triggered] at marked
    | true =>
      refine free ⟨once, ?_, value, seen, away⟩
      simpa [once] using marked

theorem evaluate_error {failure : Failure} (failed : (w.evaluate runtime tick).2 = .error failure) :
    (w.evaluate runtime tick).1 = w := by
  have same : List.zipWith (fun (tracked : Tracked) alert => (⟨alert, tracked.previous⟩ : Tracked)) w.tracked w.alerts =
      w.tracked := by
    rw [World.alerts, List.zipWith_map_right, List.zipWith_self]
    exact List.map_id _
  unfold World.evaluate evaluateAlertsForContract at failed ⊢
  dsimp only at failed ⊢
  generalize (priceValues runtime tick.priceState (alertPriceStateKey runtime tick.marketId tick.contractId) >>=
    fun values => w.alerts.mapM
      (evaluateAlert runtime (alertPriceStateKey runtime tick.marketId tick.contractId) values)) = decided at failed ⊢
  cases decided with
  | error message => simp only [same]
  | ok changes =>
    dsimp only at failed ⊢
    generalize appendAlertEvents w.events _ = appended at failed ⊢
    cases appended with
    | error failure => simp only [same]
    | ok history => cases failed

theorem evaluate_inv (inv : Inv w) (free : Unlatched runtime w tick) : Inv (w.evaluate runtime tick).1 := by
  cases outcome : (w.evaluate runtime tick).2 with
  | error failure => rwa [evaluate_error outcome]
  | ok messages =>
    obtain ⟨events, history, appended, _, after⟩ := evaluate_ok inv.follows outcome
    obtain ⟨_, _, bounded, distinct⟩ := appendAlertEvents_ok appended inv.bounded inv.distinct
    rw [after]
    refine ⟨fun entry member => ?_, bounded, distinct⟩
    obtain ⟨old, held, rfl⟩ := List.mem_map.mp member
    exact (inv.follows old held).after (free old.alert (List.mem_map_of_mem held))

/-- A created or edited alert keeps its latch only with its watched fields. -/
theorem edited_follows {knownMarket : Text → Bool} {ready : Text → Except Text Unit} {payload : Dict Text Json}
    {freshId : Text} {old : Tracked} {alert : PriceAlert} (follows : Follows old)
    (accepted : alertFromPayload runtime knownMarket ready payload (some old.alert) freshId = .ok alert) :
    Follows ⟨alert, if watched alert ≠ watched old.alert then none else old.previous⟩ := by
  unfold alertFromPayload at accepted
  obtain ⟨candidate, _, rest⟩ := Result.bind_eq_ok.mp accepted
  obtain ⟨_, _, rest⟩ := Result.bind_eq_ok.mp rest
  cases rest
  by_cases same : watched { candidate with
      id := old.alert.id, lastValue := old.alert.lastValue, triggered := old.alert.triggered } = watched old.alert
  · rw [if_neg (not_not.mpr same), if_neg (not_not.mpr same)]
    refine ⟨follows.value, fun triggered => ?_⟩
    obtain ⟨value, previous, held⟩ := follows.latched triggered
    refine ⟨value, previous, ?_⟩
    simp only [watched, Prod.mk.injEq] at same
    unfold alertCondition at held ⊢
    simp only [same.2.2.1, same.2.2.2.1]
    exact held
  · rw [if_pos same]
    refine ⟨?_, fun triggered => by cases triggered⟩
    rw [if_pos]
    exact same

theorem created_follows {knownMarket : Text → Bool} {ready : Text → Except Text Unit} {payload : Dict Text Json}
    {freshId : Text} {alert : PriceAlert}
    (accepted : alertFromPayload runtime knownMarket ready payload none freshId = .ok alert) :
    Follows ⟨alert, none⟩ := by
  unfold alertFromPayload at accepted
  obtain ⟨candidate, made, rest⟩ := Result.bind_eq_ok.mp accepted
  obtain ⟨_, _, rest⟩ := Result.bind_eq_ok.mp rest
  cases rest
  unfold candidateAlert at made
  obtain ⟨threshold, _, rest⟩ := Result.bind_eq_ok.mp made
  split at rest
  · cases rest
  split at rest
  · cases rest
  split at rest
  · cases rest
  split at rest
  · cases rest
  · cases rest
  · obtain ⟨_, _, rest⟩ := Result.bind_eq_ok.mp rest
    obtain ⟨_, _, rest⟩ := Result.bind_eq_ok.mp rest
    cases rest
    exact ⟨rfl, fun triggered => by cases triggered⟩

theorem acknowledge_ok {stored events : List AlertEvent} {eventId : Text} {now : Int}
    (found : acknowledgeAlertEvent stored eventId now = .ok events) :
    events.length = stored.length ∧ events.map AlertEvent.id = stored.map AlertEvent.id ∧
      ∀ event ∈ stored, ∃ kept ∈ events, { kept with acknowledgedAt := event.acknowledgedAt } = event := by
  unfold acknowledgeAlertEvent at found
  split at found
  · cases found
  · rename_i index _
    cases found
    set read : AlertEvent → AlertEvent := fun event =>
      if event.acknowledgedAt = 0 then { event with acknowledgedAt := max event.createdAt now } else event with read_
    have keeps : ∀ event, { read event with acknowledgedAt := event.acknowledgedAt } = event := by
      intro event
      cases event
      simp only [read_]
      split <;> rfl
    have sameId : ∀ event, (read event).id = event.id := by
      intro event
      by_cases unread : event.acknowledgedAt = 0 <;> simp [read_, unread]
    refine ⟨List.length_modify _ _ _, List.ext_getElem? fun j => ?_, fun event member => ?_⟩
    · rw [List.getElem?_map, List.getElem?_map, List.getElem?_modify]
      by_cases here : index = j
      · cases stored[j]? <;> simp [here, sameId]
      · cases stored[j]? <;> simp [here]
    · obtain ⟨j, at_⟩ := List.getElem?_of_mem member
      have after := List.getElem?_modify read index stored j
      rw [at_] at after
      by_cases here : index = j
      · simp only [here, if_true] at after
        exact ⟨read event, List.mem_of_getElem? (here ▸ after), keeps event⟩
      · simp only [here, if_false] at after
        exact ⟨event, List.mem_of_getElem? after, rfl⟩

variable {admissible : World → Tick → Prop}

theorem step_inv {before after : World} (inv : Inv before) (step : Step runtime (Unlatched runtime) before after) :
    Inv after := by
  have replaced : ∀ {first last : List Tracked} {old new : Tracked}, before.tracked = first ++ old :: last →
      (Follows old → Follows new) → ∀ entry ∈ first ++ new :: last, Follows entry := by
    intro first last old new place edited entry member
    have held : ∀ other ∈ first ++ old :: last, Follows other := place ▸ inv.follows
    rcases List.mem_append.mp member with early | late
    · exact held entry (List.mem_append_left _ early)
    · rcases List.mem_cons.mp late with rfl | late
      · exact edited (held old (List.mem_append_right _ List.mem_cons_self))
      · exact held entry (List.mem_append_right _ (List.mem_cons_of_mem old late))
  cases step with
  | evaluate tick allowed => exact evaluate_inv inv allowed
  | create knownMarket ready payload freshId alert accepted =>
    refine ⟨fun entry member => ?_, inv.bounded, inv.distinct⟩
    rcases List.mem_append.mp member with old | own
    · exact inv.follows entry old
    · rw [List.mem_singleton.mp own]
      exact created_follows accepted
  | edit knownMarket ready payload freshId first last old alert place accepted =>
    exact ⟨replaced place fun follows => edited_follows follows accepted, inv.bounded, inv.distinct⟩
  | toggle first last old place =>
    exact ⟨replaced place fun follows => ⟨follows.value, follows.latched⟩, inv.bounded, inv.distinct⟩
  | delete first last old place =>
    refine ⟨fun entry member => inv.follows entry ?_, inv.bounded, inv.distinct⟩
    rw [place]
    exact List.mem_append.mpr ((List.mem_append.mp member).imp_right (List.mem_cons_of_mem old))
  | acknowledge eventId now events found =>
    obtain ⟨length, ids, _⟩ := acknowledge_ok found
    exact ⟨inv.follows, length ▸ inv.bounded, ids ▸ inv.distinct⟩

theorem reachable_inv (reachable : w.Reachable runtime (Unlatched runtime)) : Inv w :=
  @Transition.reachable_invariant _ World.Start (Step runtime (Unlatched runtime)) Inv
    (fun _ start => start ▸ ⟨by simp, Nat.zero_le _, List.nodup_nil⟩) (fun _ _ inv step => step_inv inv step) w reachable

/-- What holds of the alerts in a state of a run, whatever step comes next. -/
structure Lawful (runtime : Runtime) (w : World) : Prop where
  /-- An evaluation appends one event for each rising edge, in the order of the alerts. -/
  edges : ∀ tick messages, (w.evaluate runtime tick).2 = .ok messages → ∃ kept events,
    (w.evaluate runtime tick).1.events = kept ++ events ∧ kept.Sublist w.events ∧
      (∀ event ∈ events, event.id ∉ w.events.map AlertEvent.id) ∧
      events.map AlertEvent.alertId = (w.tracked.filter (Tracked.rises runtime tick)).map fun entry => entry.alert.id
  /-- A once-alert disables itself with its event, and no other alert is disabled. -/
  disarms : ∀ tick messages, (w.evaluate runtime tick).2 = .ok messages →
    (w.evaluate runtime tick).1.alerts.map PriceAlert.enabled =
      w.tracked.map fun entry => entry.alert.enabled && !(entry.alert.once && entry.rises runtime tick)
  failed : ∀ tick failure, (w.evaluate runtime tick).2 = .error failure → (w.evaluate runtime tick).1 = w
  unread : ∀ next, Step runtime (fun _ _ => True) w next → ∀ event ∈ w.events, event.acknowledgedAt = 0 →
    ∃ kept ∈ next.events, { kept with acknowledgedAt := 0 } = event
  bounded : w.events.length ≤ maxAlertEvents
  distinct : (w.events.map AlertEvent.id).Nodup

theorem step_unread (inv : Inv w) {next : World} (step : Step runtime (fun _ _ => True) w next) {event : AlertEvent}
    (member : event ∈ w.events) (unread : event.acknowledgedAt = 0) :
    ∃ kept ∈ next.events, { kept with acknowledgedAt := 0 } = event := by
  have self : { event with acknowledgedAt := 0 } = event := by rw [← unread]
  cases step with
  | evaluate tick allowed =>
    cases outcome : (w.evaluate runtime tick).2 with
    | error failure => exact ⟨event, by rwa [evaluate_error outcome], self⟩
    | ok messages =>
      obtain ⟨events, history, appended, _, after⟩ := evaluate_ok inv.follows outcome
      obtain ⟨⟨kept, split_, _, held⟩, _⟩ := appendAlertEvents_ok appended inv.bounded inv.distinct
      rw [after, split_]
      exact ⟨event, List.mem_append_left _ (held event member unread), self⟩
  | create knownMarket ready payload freshId alert accepted => exact ⟨event, member, self⟩
  | edit knownMarket ready payload freshId first last old alert place accepted => exact ⟨event, member, self⟩
  | toggle first last old place => exact ⟨event, member, self⟩
  | delete first last old place => exact ⟨event, member, self⟩
  | acknowledge eventId now events found =>
    obtain ⟨_, _, keeps⟩ := acknowledge_ok found
    obtain ⟨kept, among, same⟩ := keeps event member
    exact ⟨kept, among, unread ▸ same⟩

theorem disarms_of_ok (follows : ∀ entry ∈ w.tracked, Follows entry) {messages : List Text}
    (done : (w.evaluate runtime tick).2 = .ok messages) :
    (w.evaluate runtime tick).1.alerts.map PriceAlert.enabled =
      w.tracked.map fun entry => entry.alert.enabled && !(entry.alert.once && entry.rises runtime tick) := by
  obtain ⟨_, _, _, _, after⟩ := evaluate_ok follows done
  rw [after, World.alerts, List.map_map, List.map_map]
  refine List.map_congr_left fun entry member => ?_
  change (entry.alert.apply (changeAt runtime tick entry.alert)).enabled = _
  unfold changeAt Tracked.rises
  cases seen : seenPrice runtime tick entry.alert with
  | none => simp [PriceAlert.apply]
  | some value =>
    have fires := (follows entry member).fires value
    have own : (decideAlert entry.alert value).enabled =
        (entry.alert.enabled && !((decideAlert entry.alert value).fires && entry.alert.once)) := by
      change (if ((decideAlert entry.alert value).fires && entry.alert.once) = true then false else _) = _
      cases (decideAlert entry.alert value).fires && entry.alert.once <;> simp
    change (decideAlert entry.alert value).enabled = _
    rw [own, fires, Bool.and_comm entry.alert.once]
    rfl

/-- In every run in which no evaluation sees a latched once-alert, alerts record their rising
edges, once each, and no unread event is lost. -/
theorem alerts_lawful (runtime : Runtime) (w : World) (reachable : w.Reachable runtime (Unlatched runtime)) :
    Lawful runtime w := by
  have inv := reachable_inv reachable
  refine ⟨fun tick messages done => ?_, fun tick messages done => disarms_of_ok inv.follows done,
    fun tick failure failed => evaluate_error failed,
    fun next step event member unread => step_unread inv step member unread, inv.bounded, inv.distinct⟩
  obtain ⟨events, history, appended, rising, after⟩ := evaluate_ok inv.follows done
  obtain ⟨⟨kept, split_, part, _⟩, new, _⟩ := appendAlertEvents_ok appended inv.bounded inv.distinct
  exact ⟨kept, events, by rw [after, split_], part, new, rising⟩

private def sampleRuntime : Runtime where
  casing := asciiCasing
  rounding := exactRounding
  show_ value := match value with
    | .str t => t
    | _ => []
  formatG value := if value < 1 / 2 then text "0.4" else if value = 1 / 2 then text "0.5" else text "0.6"

private def onceAlert : PriceAlert where
  tokenId := text "t"
  label := text "Yes"
  direction := .above
  threshold := 1 / 2
  source := .lastTrade
  once := true
  enabled := true
  marketId := text "kalshi"
  id := text "a1"

private def request : Dict Text Json :=
  [(text "market_id", .str (text "kalshi")), (text "contract_id", .str (text "t")), (text "label", .str (text "Yes")),
    (text "threshold", .float (.finite (1 / 2)))]

private def tickAt (price : ℚ) (id : String) : Tick where
  marketId := text "kalshi"
  contractId := text "t"
  priceState := [((text "kalshi", text "t"), [(text "last_trade", .float (.finite price))])]
  stamps _ := (text id, 1)

private theorem create_once (admissible : World → Tick → Prop) :
    Step sampleRuntime admissible ⟨[], []⟩ ⟨[⟨onceAlert, none⟩], []⟩ :=
  .create (fun _ => true) (fun _ => .ok ()) request (text "a1") onceAlert (by decide +kernel)

private def firedOnce : Tracked :=
  ⟨{ onceAlert with enabled := false, lastValue := some (6 / 10), triggered := true }, some (6 / 10)⟩

/-- The alert fired, was enabled again and saw a price above its threshold once more. -/
private def stillAbove : World :=
  ((⟨[⟨{ firedOnce.alert with enabled := true }, firedOnce.previous⟩],
    ((⟨[⟨onceAlert, none⟩], []⟩ : World).evaluate sampleRuntime (tickAt (6 / 10) "e1")).1.events⟩ : World).evaluate
    sampleRuntime (tickAt (6 / 10) "e2")).1

private def acknowledged : World :=
  { stillAbove with events := stillAbove.events.map fun event => { event with acknowledgedAt := 5 } }

private theorem unlatched_of_all {w : World} {tick : Tick} (free : (w.alerts.all fun alert => !(alert.once && alert.triggered &&
    (seenPrice sampleRuntime tick alert).any fun value => !alertCondition alert value)) = true) :
    Unlatched sampleRuntime w tick := by
  rintro alert member ⟨once, triggered, value, seen, away⟩
  simpa [once, triggered, seen, away] using List.all_eq_true.mp free alert member

/-- A once-alert that was created, fired, was enabled again above its threshold and was acknowledged. -/
theorem alerts_lawful_acknowledged : Lawful sampleRuntime acknowledged := by
  have fired : ((⟨[⟨onceAlert, none⟩], []⟩ : World).evaluate sampleRuntime (tickAt (6 / 10) "e1")).1.tracked =
      [] ++ firedOnce :: [] := by decide +kernel
  have start : Unlatched sampleRuntime ⟨[⟨onceAlert, none⟩], []⟩ (tickAt (6 / 10) "e1") :=
    unlatched_of_all (by decide +kernel)
  have above : Unlatched sampleRuntime ⟨[⟨{ firedOnce.alert with enabled := true }, firedOnce.previous⟩],
      ((⟨[⟨onceAlert, none⟩], []⟩ : World).evaluate sampleRuntime (tickAt (6 / 10) "e1")).1.events⟩
      (tickAt (6 / 10) "e2") := unlatched_of_all (by decide +kernel)
  have found : acknowledgeAlertEvent stillAbove.events (text "e1") 5 = .ok acknowledged.events := by decide +kernel
  exact alerts_lawful sampleRuntime _ ⟨⟨[], []⟩, rfl, .tail (.tail (.tail (.tail (.single (create_once _))
    (.evaluate (tickAt (6 / 10) "e1") start)) (.toggle [] [] firedOnce fired))
    (.evaluate (tickAt (6 / 10) "e2") above)) (.acknowledge (text "e1") 5 acknowledged.events found)⟩

/-- The alert after it fired, was enabled again and saw a price below its threshold. -/
private def firedAgain : World :=
  ((⟨[⟨{ firedOnce.alert with enabled := !firedOnce.alert.enabled }, firedOnce.previous⟩],
    ((⟨[⟨onceAlert, none⟩], []⟩ : World).evaluate sampleRuntime (tickAt (6 / 10) "e1")).1.events⟩ : World).evaluate
    sampleRuntime (tickAt (4 / 10) "e2")).1

/-- A once-alert that fired and was enabled again misses its next rising edge. -/
theorem reenabled_alert_misses_edge :
    firedAgain.Reachable sampleRuntime (fun _ _ => True) ∧
      firedAgain.tracked.map (Tracked.rises sampleRuntime (tickAt (6 / 10) "e3")) = [true] ∧
      (firedAgain.evaluate sampleRuntime (tickAt (6 / 10) "e3")).2 = .ok [] ∧
      ¬Lawful sampleRuntime firedAgain := by
  have fired : ((⟨[⟨onceAlert, none⟩], []⟩ : World).evaluate sampleRuntime (tickAt (6 / 10) "e1")).1.tracked =
      [] ++ firedOnce :: [] := by decide +kernel
  have silent : (firedAgain.evaluate sampleRuntime (tickAt (6 / 10) "e3")).2 = .ok [] := by decide +kernel
  refine ⟨⟨⟨[], []⟩, rfl, ?_⟩, by decide +kernel, silent, fun lawful => ?_⟩
  · exact .tail (.tail (.tail (.single (create_once _)) (.evaluate (tickAt (6 / 10) "e1") trivial))
      (.toggle [] [] firedOnce fired)) (.evaluate (tickAt (4 / 10) "e2") trivial)
  · obtain ⟨kept, events, same, _, new, rising⟩ := lawful.edges _ _ silent
    have count : events.map AlertEvent.alertId = [text "a1"] := rising.trans (by decide +kernel)
    have unchanged : (firedAgain.evaluate sampleRuntime (tickAt (6 / 10) "e3")).1.events = firedAgain.events := by
      decide +kernel
    cases events with
    | nil => cases count
    | cons event rest =>
      refine new event List.mem_cons_self (List.mem_map_of_mem ?_)
      rw [← unchanged, same]
      exact List.mem_append_right _ List.mem_cons_self

end MarketSentinel.Alerts
