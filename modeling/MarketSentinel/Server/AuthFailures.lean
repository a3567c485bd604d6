import Mathlib.Algebra.Order.Ring.Rat
import Mathlib.Data.Finset.Card
import Mathlib.Data.List.MinMax
import Mathlib.Data.List.Pairwise
import Mathlib.Order.RelClasses
import Mathlib.Tactic.Linarith
import MarketSentinel.Library.Dict
import MarketSentinel.Library.Doubles
import MarketSentinel.Library.Text
import MarketSentinel.Library.Transition

/-! The limit on failed attempts with an API token.

Clock readings are floats, and so is the time between two of them, which is rounded. A client is tracked by
its last attempts that were let through, and the client whose last attempt is oldest makes room for a new one.
-/

set_option autoImplicit false

namespace MarketSentinel.Server

open Python

structure AuthFailureLimiter where
  arithmetic : Arithmetic
  maxAttempts : Nat
  windowSeconds : ℚ
  maxClients : Nat
  attempts : Dict Text (List ℚ)
  attemptsPositive : 0 < maxAttempts
  windowPositive : 0 < windowSeconds
  windowFloat : arithmetic.round windowSeconds = windowSeconds
  clientsPositive : 0 < maxClients

structure Failure where
  now : ℚ
  clientId : Text
  deriving DecidableEq

def Failure.key (failure : Failure) : Text :=
  (if failure.clientId = [] then text "unknown" else failure.clientId).take 256

/-- The attempts for which `now - timestamp < self.window_seconds`. -/
def recent (arithmetic : Arithmetic) (window now : ℚ) (attempts : List ℚ) : List ℚ :=
  attempts.filter fun timestamp => decide (arithmetic.round (now - timestamp) < window)

/-- `int(value)`. -/
def truncated (value : ℚ) : ℤ := value.num.tdiv value.den

namespace AuthFailureLimiter

def new (arithmetic : Arithmetic) (maxAttempts : ℤ) (windowSeconds : ℚ)
    (float : arithmetic.round windowSeconds = windowSeconds) (maxClients : ℤ) : AuthFailureLimiter where
  arithmetic
  maxAttempts := (max 1 maxAttempts).toNat
  windowSeconds := max 1 windowSeconds
  maxClients := (max 1 maxClients).toNat
  attempts := []
  attemptsPositive := by omega
  windowPositive := lt_of_lt_of_le one_pos (le_max_left 1 windowSeconds)
  windowFloat := by
    rcases max_choice 1 windowSeconds with larger | larger <;> rw [larger]
    · exact arithmetic.one
    · exact float
  clientsPositive := by omega

def tracked (limiter : AuthFailureLimiter) (key : Text) : List ℚ := (limiter.attempts.get? key).getD []

/-- `min(self._attempts, key=...)`: the first of the clients with the oldest last attempt. -/
def oldestKey (limiter : AuthFailureLimiter) (now : ℚ) : Option Text :=
  (limiter.attempts.argmin fun entry => entry.2.getLastD now).map Prod.fst

/-- A new client takes the place of an old one when all places are taken. -/
def makeRoom (limiter : AuthFailureLimiter) (failure : Failure) : Dict Text (List ℚ) :=
  if (limiter.attempts.get? failure.key).isNone ∧ limiter.maxClients ≤ limiter.attempts.length then
    match limiter.oldestKey failure.now with
    | some oldest => limiter.attempts.erase oldest
    | none => limiter.attempts
  else limiter.attempts

def recordFailure (limiter : AuthFailureLimiter) (failure : Failure) : Option ℤ × AuthFailureLimiter :=
  let round := limiter.arithmetic.round
  let attempts := recent limiter.arithmetic limiter.windowSeconds failure.now (limiter.tracked failure.key)
  -- a refused failure is not recorded, so a client is free again when its oldest attempt has expired
  if limiter.maxAttempts ≤ attempts.length then
    let remaining := round (limiter.windowSeconds - round (failure.now - attempts.headD failure.now))
    (some (max 1 (truncated (round (remaining + round (999 / 1000))))),
      { limiter with attempts := limiter.attempts.set failure.key attempts })
  else (none, { limiter with attempts := (limiter.makeRoom failure).set failure.key (attempts ++ [failure.now]) })

/-- The limiter after some failures. -/
def after (limiter : AuthFailureLimiter) (failures : List Failure) : AuthFailureLimiter :=
  (Transition.trace recordFailure limiter failures).2

/-- The failures for which nothing is returned. -/
def admitted (limiter : AuthFailureLimiter) (failures : List Failure) : List Failure :=
  ((failures.zip (Transition.trace recordFailure limiter failures).1).filter fun pair => pair.2.isNone).map Prod.fst

section Runs

variable {limiter : AuthFailureLimiter} {failures : List Failure} {failure : Failure}

theorem after_concat : limiter.after (failures ++ [failure]) = ((limiter.after failures).recordFailure failure).2 := by
  unfold after
  rw [Transition.trace_append]
  rfl

theorem admitted_concat : limiter.admitted (failures ++ [failure]) =
    limiter.admitted failures ++
      if ((limiter.after failures).recordFailure failure).1.isNone then [failure] else [] := by
  unfold admitted
  rw [Transition.trace_append]
  change ((List.zip _ (_ ++ [((limiter.after failures).recordFailure failure).1])).filter _).map _ = _
  rw [List.zip_append (Transition.trace_length recordFailure limiter failures).symm, List.filter_append, List.map_append]
  congr 1
  simp only [List.zip_cons_cons, List.zip_nil_right, List.filter_cons, List.filter_nil]
  split <;> rfl

theorem recordFailure_limits :
    (limiter.recordFailure failure).2.maxAttempts = limiter.maxAttempts ∧
      (limiter.recordFailure failure).2.windowSeconds = limiter.windowSeconds ∧
      (limiter.recordFailure failure).2.maxClients = limiter.maxClients ∧
      (limiter.recordFailure failure).2.arithmetic = limiter.arithmetic := by
  unfold recordFailure
  dsimp only
  split <;> exact ⟨rfl, rfl, rfl, rfl⟩

theorem after_limits : (limiter.after failures).maxAttempts = limiter.maxAttempts ∧
    (limiter.after failures).windowSeconds = limiter.windowSeconds ∧
    (limiter.after failures).maxClients = limiter.maxClients ∧
    (limiter.after failures).arithmetic = limiter.arithmetic := by
  induction failures using List.reverseRecOn with
  | nil => exact ⟨rfl, rfl, rfl, rfl⟩
  | append_singleton failures failure ih =>
    obtain ⟨attempts, window, clients, arithmetic⟩ := @recordFailure_limits (limiter.after failures) failure
    rw [after_concat, attempts, window, clients, arithmetic]
    exact ih

end Runs

/-- Each client has one entry, with an attempt in it, and there are not too many. -/
structure Bounded (limiter : AuthFailureLimiter) : Prop where
  unique : (limiter.attempts.map Prod.fst).Nodup
  filled : ∀ entry ∈ limiter.attempts, entry.2 ≠ []
  length_le : limiter.attempts.length ≤ limiter.maxClients

theorem bounded_of_fresh {limiter : AuthFailureLimiter} (fresh : limiter.attempts = []) : Bounded limiter := by
  constructor <;> simp [fresh]

section Step

variable {limiter : AuthFailureLimiter} {failure : Failure}

theorem oldestKey_mem {now : ℚ} {oldest : Text} (least : limiter.oldestKey now = some oldest) :
    ∃ times, (oldest, times) ∈ limiter.attempts ∧
      ∀ entry ∈ limiter.attempts, times.getLastD now ≤ entry.2.getLastD now := by
  obtain ⟨entry, minimal, rfl⟩ := Option.map_eq_some_iff.mp least
  have member := List.argmin_mem (Option.mem_def.mpr minimal)
  exact ⟨entry.2, member, fun other inside => List.le_of_mem_argmin inside (Option.mem_def.mpr minimal)⟩

theorem oldestKey_eq_none {now : ℚ} : limiter.oldestKey now = none ↔ limiter.attempts = [] := by
  rw [oldestKey, Option.map_eq_none_iff, List.argmin_eq_none]

theorem makeRoom_sublist : (limiter.makeRoom failure).Sublist limiter.attempts := by
  unfold makeRoom
  split
  · split
    · exact List.filter_sublist
    · exact List.Sublist.refl _
  · exact List.Sublist.refl _

/-- There is room for a new client. -/
theorem makeRoom_length (bounded : Bounded limiter) (new : limiter.attempts.get? failure.key = none) :
    (limiter.makeRoom failure).length < limiter.maxClients := by
  have within := bounded.length_le
  unfold makeRoom
  split
  · rename_i full
    cases least : limiter.oldestKey failure.now with
    | none =>
      have empty := oldestKey_eq_none.mp least
      have positive := limiter.clientsPositive
      rw [empty] at full
      exact absurd full.2 (Nat.not_le_of_lt positive)
    | some oldest =>
      obtain ⟨times, member, _⟩ := oldestKey_mem least
      have smaller : (limiter.attempts.erase oldest).length < limiter.attempts.length := by
        apply List.length_filter_lt_length_iff_exists.mpr
        exact ⟨_, member, by simp⟩
      simp only
      omega
  · rename_i free
    rw [new] at free
    simp at free
    omega

theorem makeRoom_known {times : List ℚ} (known : limiter.attempts.get? failure.key = some times) :
    limiter.makeRoom failure = limiter.attempts := by
  unfold makeRoom
  rw [known]
  simp

theorem Bounded.set {attempts : Dict Text (List ℚ)} {key : Text} {times : List ℚ} (bounded : Bounded limiter)
    (kept : attempts.Sublist limiter.attempts) (filled : times ≠ [])
    (room : attempts.get? key = none → attempts.length < limiter.maxClients) :
    Bounded { limiter with attempts := attempts.set key times } where
  unique := Dict.nodup_set (bounded.unique.sublist (kept.map Prod.fst)) key times
  filled := by
    intro entry member
    obtain rfl | old := Dict.mem_set member
    · exact filled
    · exact bounded.filled entry (kept.subset old)
  length_le := by
    have keys := congrArg List.length (Dict.keys_set attempts key times)
    have within := kept.length_le.trans bounded.length_le
    rw [List.length_map] at keys
    split at keys
    · rw [keys, List.length_map]
      exact within
    · rename_i new
      have absent : attempts.get? key = none := by
        rw [← Option.not_isSome_iff_eq_none, Dict.get?_isSome_iff]
        exact new
      have less := room absent
      simp at keys
      simp only
      omega

theorem Bounded.recordFailure (bounded : Bounded limiter) : Bounded (limiter.recordFailure failure).2 := by
  unfold AuthFailureLimiter.recordFailure
  dsimp only
  split
  · rename_i blocked
    have positive := limiter.attemptsPositive
    apply bounded.set (List.Sublist.refl _)
    · intro empty
      rw [empty, List.length_nil] at blocked
      omega
    · intro new
      rw [tracked, new] at blocked
      simp [recent] at blocked
      omega
  · apply bounded.set makeRoom_sublist (by simp)
    intro absent
    cases known : limiter.attempts.get? failure.key with
    | none => exact makeRoom_length bounded known
    | some times =>
      rw [makeRoom_known known, known] at absent
      cases absent

end Step

/-- The times of a client among some failures. -/
def times (key : Text) (failures : List Failure) : List ℚ :=
  (failures.filter fun failure => decide (failure.key = key)).map Failure.now

theorem times_append (key : Text) (failures others : List Failure) :
    times key (failures ++ others) = times key failures ++ times key others := by
  simp [times]

theorem mem_times {key : Text} {failures : List Failure} {time : ℚ} :
    time ∈ times key failures ↔ ∃ failure ∈ failures, failure.key = key ∧ failure.now = time := by
  simp [times, and_assoc]

section Tracking

variable {limiter : AuthFailureLimiter} {failures : List Failure} {failure : Failure}

theorem Bounded.after (bounded : Bounded limiter) : Bounded (limiter.after failures) := by
  induction failures using List.reverseRecOn with
  | nil => exact bounded
  | append_singleton failures failure ih =>
    rw [after_concat]
    exact ih.recordFailure

theorem admitted_sublist : (limiter.admitted failures).Sublist failures := by
  induction failures using List.reverseRecOn with
  | nil => exact List.Sublist.refl _
  | append_singleton failures failure ih =>
    rw [admitted_concat]
    apply ih.append
    split
    · exact List.Sublist.refl _
    · exact List.nil_sublist _

/-- What is tracked after a refused failure. -/
theorem tracked_refused (refused : (limiter.recordFailure failure).1.isNone = false) (key : Text) :
    (limiter.recordFailure failure).2.tracked key =
      if failure.key = key then recent limiter.arithmetic limiter.windowSeconds failure.now (limiter.tracked key)
      else limiter.tracked key := by
  unfold recordFailure at refused ⊢
  dsimp only at refused ⊢
  split at refused
  · rename_i blocked
    rw [if_pos blocked]
    unfold tracked
    dsimp only
    rw [Dict.get?_set]
    split
    · rename_i same
      rw [← same]
      rfl
    · rfl
  · cases refused

/-- What is tracked after a failure that is let through: the client that made room is forgotten. -/
theorem tracked_admitted (let_through : (limiter.recordFailure failure).1.isNone = true) (key : Text) :
    (limiter.recordFailure failure).2.tracked key =
      if failure.key = key then
        recent limiter.arithmetic limiter.windowSeconds failure.now (limiter.tracked key) ++ [failure.now]
      else ((limiter.makeRoom failure).get? key).getD [] := by
  unfold recordFailure at let_through ⊢
  dsimp only at let_through ⊢
  split at let_through
  · cases let_through
  · rename_i free
    rw [if_neg free]
    unfold tracked
    dsimp only
    rw [Dict.get?_set]
    split
    · rename_i same
      rw [← same]
      rfl
    · rfl

theorem makeRoom_get? (key : Text) :
    (limiter.makeRoom failure).get? key = limiter.attempts.get? key ∨
      (limiter.makeRoom failure).get? key = none ∧ limiter.attempts.get? failure.key = none ∧
        limiter.maxClients ≤ limiter.attempts.length ∧ limiter.oldestKey failure.now = some key := by
  unfold makeRoom
  split
  · rename_i full
    split
    · rename_i oldest least
      rw [Dict.get?_erase]
      split
      · rename_i same
        exact .inr ⟨rfl, Option.isNone_iff_eq_none.mp full.1, full.2, same ▸ least⟩
      · exact .inl rfl
    · exact .inl rfl
  · exact .inl rfl

theorem admitted_iff : (limiter.recordFailure failure).1.isNone = true ↔
    (recent limiter.arithmetic limiter.windowSeconds failure.now (limiter.tracked failure.key)).length <
      limiter.maxAttempts := by
  unfold recordFailure
  dsimp only
  split
  · rename_i blocked
    simp [Nat.not_lt.mpr blocked]
  · rename_i free
    simp [Nat.not_le.mp free]

/-- Only failures that were let through are tracked. -/
theorem tracked_sublist (fresh : limiter.attempts = []) (key : Text) :
    ((limiter.after failures).tracked key).Sublist (times key (limiter.admitted failures)) := by
  induction failures using List.reverseRecOn generalizing key with
  | nil =>
    change (limiter.tracked key).Sublist _
    rw [tracked, fresh]
    exact List.nil_sublist _
  | append_singleton failures failure ih =>
    rw [after_concat, admitted_concat, times_append]
    cases outcome : ((limiter.after failures).recordFailure failure).1.isNone with
    | false =>
      rw [tracked_refused outcome, if_neg Bool.false_ne_true]
      have whole : (times key []) = [] := rfl
      rw [whole, List.append_nil]
      split
      · exact List.filter_sublist.trans (ih key)
      · exact ih key
    | true =>
      rw [tracked_admitted outcome, if_pos rfl]
      split
      · rename_i same
        have own : times key [failure] = [failure.now] := by simp [times, same]
        rw [own]
        exact (List.filter_sublist.trans (ih key)).append (List.Sublist.refl _)
      · apply List.Sublist.trans _ (List.sublist_append_left _ _)
        obtain kept | ⟨gone, _⟩ := @makeRoom_get? (limiter.after failures) failure key
        · rw [kept]
          exact ih key
        · rw [gone]
          exact List.nil_sublist _

/-- Distinct clients that fail in the half open interval of the window from a start. -/
def failingClients (window start : ℚ) (failures : List Failure) : Finset Text :=
  ((failures.filter fun failure => decide (start ≤ failure.now ∧ failure.now < start + window)).map Failure.key).toFinset

/-- In no window do too many clients fail. -/
def Uncrowded (limiter : AuthFailureLimiter) (failures : List Failure) : Prop :=
  ∀ start, (failingClients limiter.windowSeconds start failures).card ≤ limiter.maxClients

theorem mem_failingClients {window start : ℚ} {key : Text} : key ∈ failingClients window start failures ↔
    ∃ failure ∈ failures, failure.key = key ∧ start ≤ failure.now ∧ failure.now < start + window := by
  simp only [failingClients, List.mem_toFinset, List.mem_map, List.mem_filter, decide_eq_true_eq]
  constructor
  · rintro ⟨failure, ⟨member, inside⟩, same⟩
    exact ⟨failure, member, same, inside⟩
  · rintro ⟨failure, member, same, inside⟩
    exact ⟨failure, ⟨member, inside⟩, same⟩

theorem Uncrowded.prefix {others : List Failure} (uncrowded : Uncrowded limiter (failures ++ others)) :
    Uncrowded limiter failures := by
  intro start
  apply (Finset.card_le_card _).trans (uncrowded start)
  intro key member
  obtain ⟨failure, inside, rest⟩ := mem_failingClients.mp member
  exact mem_failingClients.mpr ⟨failure, List.mem_append_left _ inside, rest⟩

/-- The recent failures lie in one half open window. -/
theorem exists_start {window now : ℚ} (positive : 0 < window) (failures : List Failure) :
    ∃ start, start ≤ now ∧ now < start + window ∧ ∀ failure ∈ failures, now - failure.now < window → start ≤ failure.now := by
  induction failures with
  | nil => exact ⟨now, le_refl _, by linarith, by simp⟩
  | cons failure failures ih =>
    obtain ⟨start, before, inside, covers⟩ := ih
    by_cases late : now - failure.now < window
    · refine ⟨min start failure.now, (min_le_left _ _).trans before, ?_, ?_⟩
      · rcases min_choice start failure.now with least | least <;> rw [least] <;> linarith
      · intro other member recently
        obtain rfl | member := List.mem_cons.mp member
        · exact min_le_right _ _
        · exact (min_le_left _ _).trans (covers other member recently)
    · refine ⟨start, before, inside, ?_⟩
      intro other member recently
      obtain rfl | member := List.mem_cons.mp member
      · exact absurd recently late
      · exact covers other member recently

/-- What is tracked is in the order of time. -/
theorem tracked_sorted (fresh : limiter.attempts = []) (ordered : failures.Pairwise fun a b => a.now ≤ b.now) (key : Text) :
    ((limiter.after failures).tracked key).Pairwise (· ≤ ·) := by
  apply List.Pairwise.sublist (tracked_sublist fresh key)
  apply List.Pairwise.map Failure.now (fun _ _ before => before)
  exact ordered.sublist (List.filter_sublist.trans admitted_sublist)

/-- When a client makes room, its attempts are measured to be out of the window. -/
theorem evicted_expired (fresh : limiter.attempts = []) (uncrowded : Uncrowded limiter (failures ++ [failure]))
    (ordered : (failures ++ [failure]).Pairwise fun a b => a.now ≤ b.now) {oldest : Text}
    (new : (limiter.after failures).attempts.get? failure.key = none)
    (full : limiter.maxClients ≤ (limiter.after failures).attempts.length)
    (least : (limiter.after failures).oldestKey failure.now = some oldest) :
    ∀ time ∈ (limiter.after failures).tracked oldest,
      limiter.windowSeconds ≤ limiter.arithmetic.round (failure.now - time) := by
  have bounded : Bounded (limiter.after failures) := (bounded_of_fresh fresh).after
  have own_times : ∀ {key : Text} {times : List ℚ}, (key, times) ∈ (limiter.after failures).attempts →
      (limiter.after failures).tracked key = times := by
    intro key times member
    rw [tracked, Dict.get?_of_mem bounded.unique member]
    rfl
  obtain ⟨past, member, minimal⟩ := oldestKey_mem least
  rw [own_times member]
  have ascending : past.Pairwise (· ≤ ·) := own_times member ▸ tracked_sorted fresh (List.pairwise_append.mp ordered).1 oldest
  have expired : limiter.windowSeconds ≤ limiter.arithmetic.round (failure.now - past.getLastD failure.now) := by
    by_contra measured
    -- what is measured to be within the window is within it: the window is a float
    have live := limiter.arithmetic.lt_of_round_lt limiter.windowFloat (not_le.mp measured)
    obtain ⟨start, _, inside, covers⟩ :=
      @exists_start limiter.windowSeconds failure.now limiter.windowPositive (failures ++ [failure])
    -- every tracked client and the new one fail in the window that ends now
    have all_fail : (failure.key :: (limiter.after failures).attempts.map Prod.fst).toFinset ⊆
        failingClients limiter.windowSeconds start (failures ++ [failure]) := by
      intro key among
      apply mem_failingClients.mpr
      obtain rfl | known := List.mem_cons.mp (List.mem_toFinset.mp among)
      · have last : failure ∈ failures ++ [failure] := by simp
        have positive := limiter.windowPositive
        exact ⟨failure, last, rfl, covers failure last (by linarith), inside⟩
      · obtain ⟨entry, held, rfl⟩ := List.mem_map.mp known
        have latest : entry.2.getLastD failure.now ∈ entry.2 := by
          rw [List.getLastD_eq_getLast?, List.getLast?_eq_some_getLast (bounded.filled entry held)]
          exact List.getLast_mem _
        have tracks := @tracked_sublist limiter failures fresh entry.1
        rw [own_times held] at tracks
        have among := tracks.subset latest
        obtain ⟨earlier, let_through, same, timed⟩ := mem_times.mp among
        have happened := List.mem_append_left [failure] (admitted_sublist.subset let_through)
        have before : earlier.now ≤ failure.now :=
          (List.pairwise_append.mp ordered).2.2 _ (admitted_sublist.subset let_through) _ List.mem_cons_self
        have later := minimal entry held
        exact ⟨earlier, happened, same, covers earlier happened (by rw [timed]; linarith), by linarith⟩
    have distinct : (failure.key :: (limiter.after failures).attempts.map Prod.fst).Nodup := by
      apply List.nodup_cons.mpr ⟨_, bounded.unique⟩
      rw [← Dict.get?_isSome_iff, new]
      exact Bool.false_ne_true
    have fewer := (Finset.card_le_card all_fail).trans (uncrowded start)
    rw [List.toFinset_card_of_nodup distinct, List.length_cons, List.length_map] at fewer
    omega
  intro time held
  have latest : time ≤ past.getLastD failure.now := by
    rw [List.getLastD_eq_getLast?, List.getLast?_eq_some_getLast (List.ne_nil_of_mem held)]
    exact ascending.rel_getLast held
  exact expired.trans (limiter.arithmetic.monotone (by linarith))

variable {arithmetic : Arithmetic}

theorem recent_recent {window now later : ℚ} (before : now ≤ later) (attempts : List ℚ) :
    recent arithmetic window later (recent arithmetic window now attempts) = recent arithmetic window later attempts := by
  unfold recent
  rw [List.filter_filter]
  apply List.filter_congr
  intro time _
  rw [← Bool.decide_and, decide_eq_decide]
  constructor
  · exact And.left
  · intro live
    exact ⟨live, lt_of_le_of_lt (arithmetic.monotone (by linarith)) live⟩

theorem recent_append (window now : ℚ) (attempts others : List ℚ) :
    recent arithmetic window now (attempts ++ others) =
      recent arithmetic window now attempts ++ recent arithmetic window now others :=
  List.filter_append _ _

/-- No recent attempt is lost. -/
theorem recent_tracked (fresh : limiter.attempts = []) (uncrowded : Uncrowded limiter failures)
    (ordered : failures.Pairwise fun a b => a.now ≤ b.now) (key : Text) {now : ℚ}
    (past : ∀ failure ∈ failures, failure.now ≤ now) :
    recent limiter.arithmetic limiter.windowSeconds now ((limiter.after failures).tracked key) =
      recent limiter.arithmetic limiter.windowSeconds now (times key (limiter.admitted failures)) := by
  induction failures using List.reverseRecOn generalizing key now with
  | nil =>
    change recent _ _ _ (limiter.tracked key) = _
    rw [tracked, fresh]
    rfl
  | append_singleton failures failure ih =>
    have earlier := fun key {now : ℚ} => @ih uncrowded.prefix (List.pairwise_append.mp ordered).1 key now
    have before : ∀ other ∈ failures, other.now ≤ now := fun other member => past other (List.mem_append_left _ member)
    have last : failure.now ≤ now := past failure (by simp)
    rw [after_concat, admitted_concat, times_append]
    cases outcome : ((limiter.after failures).recordFailure failure).1.isNone with
    | false =>
      rw [tracked_refused outcome, if_neg Bool.false_ne_true]
      have whole : times key [] = [] := rfl
      rw [whole, List.append_nil, ← earlier key before]
      split
      · rw [after_limits.2.1, after_limits.2.2.2, recent_recent last]
      · rfl
    | true =>
      rw [tracked_admitted outcome, if_pos rfl]
      split
      · rename_i same
        have own : times key [failure] = [failure.now] := by simp [times, same]
        rw [own, recent_append, recent_append, after_limits.2.1, after_limits.2.2.2, recent_recent last, earlier key before]
      · rename_i other
        have none_own : times key [failure] = [] := by simp [times, other]
        rw [none_own, List.append_nil, ← earlier key before]
        obtain kept | ⟨gone, new, full, least⟩ := @makeRoom_get? (limiter.after failures) failure key
        · rw [kept]
          rfl
        · rw [after_limits.2.2.1] at full
          -- the client that made room has nothing recent left to lose
          have expired := evicted_expired fresh uncrowded ordered new full least
          rw [gone]
          symm
          apply List.filter_eq_nil_iff.mpr
          intro time held
          simp only [decide_eq_true_eq, not_lt]
          exact (expired time held).trans (limiter.arithmetic.monotone (by linarith))

theorem recent_times_length {window now : ℚ} (key : Text) (failures : List Failure) :
    (recent arithmetic window now (times key failures)).length =
      failures.countP fun failure => decide (failure.key = key ∧ arithmetic.round (now - failure.now) < window) := by
  rw [recent, times, List.filter_map, List.length_map, List.filter_filter, List.countP_eq_length_filter]
  congr 1
  apply List.filter_congr
  intro failure _
  simp [Bool.and_comm]

/-- A client with few recent attempts that were let through is let through. -/
theorem recordFailure_eq_none (fresh : limiter.attempts = [])
    (few : ((limiter.admitted failures).countP fun earlier =>
      decide (earlier.key = failure.key ∧ failure.now - earlier.now < limiter.windowSeconds)) < limiter.maxAttempts) :
    ((limiter.after failures).recordFailure failure).1 = none := by
  apply Option.isNone_iff_eq_none.mp
  apply admitted_iff.mpr
  rw [after_limits.1, after_limits.2.1, after_limits.2.2.2]
  have kept : ((limiter.after failures).tracked failure.key).Sublist (times failure.key (limiter.admitted failures)) :=
    tracked_sublist fresh failure.key
  -- only admitted failures are tracked, and what is measured to be recent is recent
  have measured := (kept.filter fun timestamp =>
    decide (limiter.arithmetic.round (failure.now - timestamp) < limiter.windowSeconds)).length_le
  refine lt_of_le_of_lt (measured.trans ?_) few
  change (recent _ _ _ _).length ≤ _
  rw [recent_times_length]
  apply List.countP_mono_left
  intro earlier _ counted
  obtain ⟨same, live⟩ := of_decide_eq_true counted
  exact decide_eq_true ⟨same, limiter.arithmetic.lt_of_round_lt limiter.windowFloat live⟩

/-- In a span that is measured to be shorter than the window a client is let through a bounded number of times. -/
theorem admitted_le (fresh : limiter.attempts = []) (uncrowded : Uncrowded limiter failures)
    (ordered : failures.Pairwise fun a b => a.now ≤ b.now) {span : ℚ}
    (short : ∀ elapsed < span, limiter.arithmetic.round elapsed < limiter.windowSeconds) (key : Text) (start : ℚ) :
    ((limiter.admitted failures).countP fun failure =>
      decide (failure.key = key ∧ start ≤ failure.now ∧ failure.now < start + span)) ≤ limiter.maxAttempts := by
  induction failures using List.reverseRecOn with
  | nil => exact Nat.zero_le _
  | append_singleton failures failure ih =>
    have sorted := (List.pairwise_append.mp ordered).1
    have earlier := ih uncrowded.prefix sorted
    rw [admitted_concat]
    split
    · rename_i let_through
      rw [List.countP_append, List.countP_singleton]
      split
      · rename_i inside
        obtain ⟨rfl, _, within⟩ := of_decide_eq_true inside
        -- the last failure was let through, so fewer than the maximum before it were recent
        have free := admitted_iff.mp let_through
        rw [after_limits.1, after_limits.2.1, after_limits.2.2.2,
          recent_tracked fresh uncrowded.prefix sorted failure.key
            (fun other member => (List.pairwise_append.mp ordered).2.2 other member _ List.mem_cons_self),
          recent_times_length] at free
        apply lt_of_le_of_lt _ free
        apply List.countP_mono_left
        intro other _ counted
        obtain ⟨same, after_start, _⟩ := of_decide_eq_true counted
        exact decide_eq_true ⟨same, short _ (by linarith)⟩
      · exact earlier
    · rw [List.append_nil]
      exact earlier

end Tracking

/-- The number of tracked clients is bounded. When in no window too many clients fail, a client is let through a bounded
number of times in each span in which every elapsed time is rounded to less than the window; without rounding that is the
window itself. It is let through whenever few enough of its failures that were let through are recent. -/
theorem recordFailure_bounded (arithmetic : Arithmetic) (maxAttempts : ℤ) (windowSeconds : ℚ) (maxClients : ℤ)
    (float : arithmetic.round windowSeconds = windowSeconds) (failures : List Failure)
    (ordered : failures.Pairwise fun a b => a.now ≤ b.now) :
    let limiter := new arithmetic maxAttempts windowSeconds float maxClients
    (limiter.after failures).attempts.length ≤ limiter.maxClients ∧
    (Uncrowded limiter failures → ∀ span, (∀ elapsed < span, arithmetic.round elapsed < limiter.windowSeconds) →
      ∀ key start, ((limiter.admitted failures).countP fun failure =>
        decide (failure.key = key ∧ start ≤ failure.now ∧ failure.now < start + span)) ≤ limiter.maxAttempts) ∧
    ∀ failure : Failure, ((limiter.admitted failures).countP fun earlier =>
        decide (earlier.key = failure.key ∧ failure.now - earlier.now < limiter.windowSeconds)) < limiter.maxAttempts →
      ((limiter.after failures).recordFailure failure).1 = none := by
  intro limiter
  have fresh : limiter.attempts = [] := rfl
  refine ⟨?_, ?_, ?_⟩
  · have bounded : Bounded (limiter.after failures) := (bounded_of_fresh fresh).after
    rw [← after_limits.2.2.1]
    exact bounded.length_le
  · intro uncrowded span short
    exact admitted_le fresh uncrowded ordered short
  · intro failure few
    exact recordFailure_eq_none fresh few

section Minutes

/-- Ten attempts in a minute, as shipped. -/
def shipped : AuthFailureLimiter := new binaryArithmetic 10 60 (by decide +kernel) 1024

theorem shipped_uncrowded {failures : List Failure} (few : (failures.map Failure.key).toFinset.card ≤ 1024) :
    Uncrowded shipped failures := by
  intro start
  apply (Finset.card_le_card _).trans few
  intro key fails
  obtain ⟨failure, among, rfl, _⟩ := mem_failingClients.mp fails
  exact List.mem_toFinset.mpr (List.mem_map_of_mem among)

/-- Ten failures at 0.3 and one at 60.3, which is less than a minute later. -/
def minute : List Failure :=
  List.replicate 10 ⟨nearestBinary (3 / 10), text "a"⟩ ++ [⟨nearestBinary (603 / 10), text "a"⟩]

/-- The float `60.3 - 0.3` is `60.0`, so that all eleven are let through. -/
theorem eleven_let_through : minute.Pairwise (fun a b => a.now ≤ b.now) ∧ Uncrowded shipped minute ∧
    ¬ (shipped.admitted minute).countP (fun failure => decide (failure.key = text "a" ∧
      nearestBinary (3 / 10) ≤ failure.now ∧ failure.now < nearestBinary (3 / 10) + shipped.windowSeconds)) ≤
        shipped.maxAttempts := by
  refine ⟨by decide +kernel, shipped_uncrowded (by decide +kernel), by decide +kernel⟩

/-- Two clients fail within one minute. -/
def twoClients : List Failure := [⟨0, text "a"⟩, ⟨1, text "b"⟩, ⟨2, text "a"⟩]

theorem recordFailure_two_clients :
    (shipped.admitted twoClients).countP (fun failure =>
      decide (failure.key = text "a" ∧ 0 ≤ failure.now ∧ failure.now < 0 + 59)) ≤ shipped.maxAttempts := by
  have short : ∀ elapsed < 59, binaryArithmetic.round elapsed < shipped.windowSeconds := by
    intro elapsed below
    calc binaryArithmetic.round elapsed ≤ nearestBinary 59 := nearestBinary_mono below.le
      _ < shipped.windowSeconds := by decide +kernel
  exact (recordFailure_bounded binaryArithmetic 10 60 1024 _ twoClients (by decide +kernel)).2.1
    (shipped_uncrowded (by decide +kernel)) 59 short (text "a") 0

end Minutes

end AuthFailureLimiter

end MarketSentinel.Server
