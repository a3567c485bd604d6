import MarketSentinel.Library.Transition
import MarketSentinel.Wallet.Polling

/-! Exactly-once staged delivery over whole runs of polls.

The upstream histories grow between polls. A run records per wallet and market
which fills were consumed and which were delivered.
-/

set_option autoImplicit false

namespace MarketSentinel.Wallet

open Python

variable {Activity : Type}

/-! ## Candidates -/

theorem candidatesOf_spec {watch : WalletWatch} {cursor : Cursor} {walletIndex : Nat} {items : List Fill}
    {seen : List Text} {itemIndex : Nat} {cs : List Candidate}
    (distinct : (items.map Fill.key).Nodup)
    (gathered : candidatesOf watch cursor walletIndex seen itemIndex items = .ok cs) :
    (∀ c ∈ cs, c.walletIndex = walletIndex) ∧ (cs.map Candidate.item).Sublist items ∧
      ∀ fill, fill ∈ cs.map Candidate.item ↔
        fill ∈ items ∧ fill.key ∉ seen ∧ cursor.lastSeenTs ≤ fill.timestamp := by
  induction items generalizing seen itemIndex cs with
  | nil =>
    cases gathered
    simp
  | cons item rest ih =>
    rw [List.map_cons, List.nodup_cons] at distinct
    unfold candidatesOf at gathered
    by_cases skipped : item.key ∈ seen ∨ item.timestamp < cursor.lastSeenTs
    · rw [if_pos skipped] at gathered
      obtain ⟨own, sub, exact_⟩ := ih distinct.2 gathered
      refine ⟨own, sub.trans (List.sublist_cons_self _ _), fun fill => ?_⟩
      rw [exact_]
      constructor
      · exact fun ⟨member, rest⟩ => ⟨List.mem_cons_of_mem _ member, rest⟩
      · rintro ⟨member, unseen, recent⟩
        rcases List.mem_cons.mp member with rfl | later
        · exact (skipped.elim unseen fun old => absurd recent (not_le.mpr old)).elim
        · exact ⟨later, unseen, recent⟩
    · rw [if_neg skipped] at gathered
      rw [not_or, not_lt] at skipped
      split at gathered
      · cases gathered
      · obtain ⟨others, found, rfl⟩ := Result.map_eq_ok.mp gathered
        obtain ⟨own, sub, exact_⟩ := ih distinct.2 found
        refine ⟨List.forall_mem_cons.mpr ⟨rfl, own⟩, by simpa using sub.cons_cons item, fun fill => ?_⟩
        rw [List.map_cons, List.mem_cons, exact_]
        constructor
        · rintro (rfl | ⟨member, unseen, recent⟩)
          · exact ⟨List.mem_cons_self, skipped⟩
          · exact ⟨List.mem_cons_of_mem _ member, fun old => unseen (List.mem_cons_of_mem _ old), recent⟩
        · rintro ⟨member, unseen, recent⟩
          rcases List.mem_cons.mp member with rfl | later
          · exact Or.inl rfl
          · refine Or.inr ⟨later, ?_, recent⟩
            intro either
            rcases List.mem_cons.mp either with same | old
            · exact distinct.1 (same ▸ List.mem_map_of_mem later)
            · exact unseen old

/-- The gathered candidates are exactly the new fills of the enabled wallets, once each. -/
theorem gather_spec {env : Environment Activity} {marketId : Text} {New : Nat → Fill → Prop}
    {observed : Nat} {entries : List (WalletWatch × Nat)} {cs : List Candidate}
    (indices : (entries.map Prod.snd).Nodup)
    (honest : ∀ watch walletIndex, (watch, walletIndex) ∈ entries → watch.enabled →
      ∀ items, env.collect walletIndex = .items items → (items.map Fill.key).Nodup ∧
        ∀ fill, (fill ∈ items ∧ Eligible (cursorForMarket watch marketId) fill) ↔ New walletIndex fill)
    (gathered : gather env marketId observed entries = .ok cs) :
    (cs.map fun c => (c.walletIndex, c.item)).Nodup ∧
      (∀ c ∈ cs, (∃ watch, (watch, c.walletIndex) ∈ entries ∧ watch.enabled) ∧ New c.walletIndex c.item) ∧
      ∀ watch walletIndex, (watch, walletIndex) ∈ entries → watch.enabled →
        ∀ fill, New walletIndex fill → ∃ c ∈ cs, c.walletIndex = walletIndex ∧ c.item = fill := by
  induction entries generalizing observed cs with
  | nil =>
    cases gathered
    simp
  | cons entry rest ih =>
    obtain ⟨watch, walletIndex⟩ := entry
    rw [List.map_cons, List.nodup_cons] at indices
    have later := fun watch walletIndex member => honest watch walletIndex (List.mem_cons_of_mem _ member)
    unfold gather at gathered
    by_cases enabled : watch.enabled
    · rw [if_pos enabled] at gathered
      cases collected : env.collect walletIndex with
      | cancelled => simp [collected] at gathered
      | failed problem => simp [collected] at gathered
      | items items =>
        obtain ⟨distinct, new⟩ := honest watch walletIndex List.mem_cons_self enabled items collected
        simp only [collected] at gathered
        split at gathered
        · cases gathered
        · obtain ⟨own, ownGathered, remainder⟩ := Result.bind_eq_ok.mp gathered
          obtain ⟨others, othersGathered, combined⟩ := Result.bind_eq_ok.mp remainder
          cases combined
          obtain ⟨nodup, each, every⟩ := ih indices.2 later othersGathered
          have reversed : (items.reverse.map Fill.key).Nodup := by
            rw [List.map_reverse]
            exact List.nodup_reverse.mpr distinct
          obtain ⟨mine, sub, exact_⟩ := candidatesOf_spec reversed ownGathered
          have ownNew : ∀ fill, fill ∈ own.map Candidate.item ↔ New walletIndex fill := by
            intro fill
            rw [exact_, ← new, List.mem_reverse, Eligible]
            tauto
          refine ⟨?_, ?_, ?_⟩
          · rw [List.map_append, List.nodup_append]
            refine ⟨?_, nodup, ?_⟩
            · have unique : (own.map Candidate.item).Nodup := sub.nodup reversed.of_map
              refine List.Nodup.of_map Prod.snd ?_
              rw [List.map_map]
              exact unique
            · intro first member second other same
              obtain ⟨a, inOwn, rfl⟩ := List.mem_map.mp member
              obtain ⟨b, inOthers, rfl⟩ := List.mem_map.mp other
              -- candidates of different wallets differ in the index of the wallet
              have index : a.walletIndex = b.walletIndex := congrArg Prod.fst same
              rw [mine a inOwn] at index
              obtain ⟨⟨other, entry, _⟩, _⟩ := each b inOthers
              exact indices.1 (List.mem_map.mpr ⟨_, entry, index.symm⟩)
          · intro c member
            rcases List.mem_append.mp member with inOwn | inOthers
            · rw [mine c inOwn]
              exact ⟨⟨watch, List.mem_cons_self, enabled⟩, (ownNew c.item).mp (List.mem_map_of_mem inOwn)⟩
            · obtain ⟨⟨other, entry, active⟩, newItem⟩ := each c inOthers
              exact ⟨⟨other, List.mem_cons_of_mem _ entry, active⟩, newItem⟩
          · intro other otherIndex member otherEnabled fill newFill
            rcases List.mem_cons.mp member with same | below
            · cases same
              obtain ⟨c, inOwn, item⟩ := List.mem_map.mp ((ownNew fill).mpr newFill)
              exact ⟨c, List.mem_append_left _ inOwn, mine c inOwn, item⟩
            · obtain ⟨c, inOthers, found⟩ := every other otherIndex below otherEnabled fill newFill
              exact ⟨c, List.mem_append_right _ inOthers, found⟩
    · rw [if_neg enabled] at gathered
      obtain ⟨nodup, each, every⟩ := ih indices.2 later gathered
      refine ⟨nodup, fun c member => ?_, ?_⟩
      · obtain ⟨⟨other, entry, active⟩, newItem⟩ := each c member
        exact ⟨⟨other, List.mem_cons_of_mem _ entry, active⟩, newItem⟩
      intro other otherIndex member otherEnabled
      rcases List.mem_cons.mp member with same | below
      · cases same
        exact absurd otherEnabled enabled
      · exact every other otherIndex below otherEnabled

/-! ## Worlds -/

/-- The tracked wallets, their upstream histories, and what was consumed and
delivered per wallet and market. The last two are history variables. -/
structure World (Activity : Type) where
  wallets : List WalletWatch
  recent : List Activity
  history : Nat → Text → History
  consumed : Nat → Text → List Fill
  delivered : Nat → Text → List Fill

def ofWallet (walletIndex : Nat) (events : List (Nat × Fill)) : List Fill :=
  (events.filter fun event => event.1 = walletIndex).map Prod.snd

theorem ofWallet_append_one (walletIndex : Nat) (events : List (Nat × Fill)) (index : Nat) (fill : Fill) :
    ofWallet walletIndex (events ++ [(index, fill)]) =
      ofWallet walletIndex events ++ if index = walletIndex then [fill] else [] := by
  unfold ofWallet
  rw [List.filter_append, List.map_append]
  by_cases same : index = walletIndex <;> simp [same]

def Staged.consumedOf (s : Staged Activity) (walletIndex : Nat) : List Fill := ofWallet walletIndex s.consumed

def Staged.deliveredOf (s : Staged Activity) (walletIndex : Nat) : List Fill :=
  ofWallet walletIndex (s.emitted.map fun event => (event.walletIndex, event.item))

def World.publish (w : World Activity) (marketId : Text) (s : Staged Activity) : World Activity where
  wallets := s.wallets
  recent := s.recent
  history := w.history
  consumed walletIndex other :=
    w.consumed walletIndex other ++ if other = marketId then s.consumedOf walletIndex else []
  delivered walletIndex other :=
    w.delivered walletIndex other ++ if other = marketId then s.deliveredOf walletIndex else []

/-- The collector returns exactly the fills from the cursor's timestamp on, in any order. -/
def Honest (env : Environment Activity) (w : World Activity) (marketId : Text) : Prop :=
  ∀ walletIndex watch, w.wallets[walletIndex]? = some watch → watch.enabled →
    ∀ items, env.collect walletIndex = .items items →
      items.Perm ((w.history walletIndex marketId).fills.filter fun fill =>
        decide ((cursorForMarket watch marketId).lastSeenTs ≤ fill.timestamp))

/-- A new fill arrives, or a poll of the selected market succeeds. -/
inductive Step : World Activity → World Activity → Prop where
  | arrive {w : World Activity} (walletIndex : Nat) (marketId : Text) (fill : Fill)
      (unseen : fill.key ∉ (w.history walletIndex marketId).earlier)
      (new : fill.key ∉ (w.history walletIndex marketId).fills.map Fill.key)
      (recent : ∀ watch, w.wallets[walletIndex]? = some watch →
        (cursorForMarket watch marketId).lastSeenTs ≤ fill.timestamp) :
      Step w { w with history := fun index market =>
        if index = walletIndex ∧ market = marketId then
          (w.history walletIndex marketId).append fill unseen new
        else w.history index market }
  | poll {w : World Activity} (env : Environment Activity) (marketId : Text) (maxBatchItems : Nat)
      (s : Staged Activity) (result : PollResult Activity) (honest : Honest env w marketId)
      (success : pollWalletActivity env marketId maxBatchItems true w.wallets w.recent =
        .ok (.published s result)) :
      Step w (w.publish marketId s)

/-- Nothing consumed yet; the ledgers hold only identities from before the histories. -/
structure Start (w : World Activity) : Prop where
  consumed : ∀ walletIndex marketId, w.consumed walletIndex marketId = []
  delivered : ∀ walletIndex marketId, w.delivered walletIndex marketId = []
  recent : ∀ walletIndex watch, w.wallets[walletIndex]? = some watch → ∀ marketId,
    ∀ fill ∈ (w.history walletIndex marketId).fills,
      (cursorForMarket watch marketId).lastSeenTs ≤ fill.timestamp
  keys : ∀ walletIndex watch, w.wallets[walletIndex]? = some watch → ∀ marketId,
    ∀ key ∈ (cursorForMarket watch marketId).seenActivityKeys, key ∈ (w.history walletIndex marketId).earlier
  dated : ∀ walletIndex watch, w.wallets[walletIndex]? = some watch → ∀ marketId,
    ∀ entry ∈ (cursorForMarket watch marketId).activityKeyTimestamps,
      entry.1 ∈ (w.history walletIndex marketId).earlier

/-- Every cursor records its consumption, and the deliveries are the matching part of it. -/
def World.Consistent (w : World Activity) : Prop :=
  ∀ walletIndex watch, w.wallets[walletIndex]? = some watch → ∀ marketId,
    Records (cursorForMarket watch marketId) (w.history walletIndex marketId)
      (w.consumed walletIndex marketId) ∧
    w.delivered walletIndex marketId =
      (w.consumed walletIndex marketId).filter (matchesSlug watch)

theorem start_consistent {w : World Activity} (start : Start w) : w.Consistent := by
  intro walletIndex watch known marketId
  rw [start.consumed, start.delivered]
  refine ⟨⟨by simp, by simp, by simp, by simp, ?_, by simp, ?_, ?_⟩, rfl⟩
  · exact fun fill member _ => start.recent _ _ known _ fill member
  · exact fun key seen => Or.inl (start.keys _ _ known _ key seen)
  · exact fun entry present => Or.inl (start.dated _ _ known _ entry present)

/-! ## The staged loop -/

section Loop

variable (w : World Activity) (marketId : Text)

/-- What one poll preserves: the staged cursors record the fills this poll consumed too. -/
structure Tracks (s : Staged Activity) : Prop where
  length : s.wallets.length = w.wallets.length
  settings : ∀ (walletIndex : Nat) (watch old : WalletWatch), s.wallets[walletIndex]? = some watch →
    w.wallets[walletIndex]? = some old → watch.onlyMarketSlug = old.onlyMarketSlug
  records : ∀ walletIndex watch, s.wallets[walletIndex]? = some watch → ∀ market,
    Records (cursorForMarket watch market) (w.history walletIndex market)
      (w.consumed walletIndex market ++ if market = marketId then s.consumedOf walletIndex else [])
  delivered : ∀ walletIndex watch, s.wallets[walletIndex]? = some watch →
    s.deliveredOf walletIndex = (s.consumedOf walletIndex).filter (matchesSlug watch)

variable {w marketId}

theorem attempt_spec {env : Environment Activity} {maxBatchItems : Nat} {s next : Staged Activity}
    {watch : WalletWatch} {c : Candidate}
    (attempted : attempt env marketId maxBatchItems true s watch c = .ok next) :
    ∃ moved, rememberActivity watch c.item marketId = some moved ∧
      next.wallets = s.wallets.set c.walletIndex moved ∧
      next.consumed = s.consumed ++ [(c.walletIndex, c.item)] ∧
      (next.emitted.map fun event => (event.walletIndex, event.item)) =
        (s.emitted.map fun event => (event.walletIndex, event.item)) ++
          if matchesSlug watch c.item then [(c.walletIndex, c.item)] else [] := by
  unfold attempt at attempted
  obtain ⟨moved, advanced, rest⟩ := Result.bind_eq_ok.mp attempted
  have remembered : rememberActivity watch c.item marketId = some moved := by
    unfold advance at advanced
    rw [if_pos rfl] at advanced
    cases found : rememberActivity watch c.item marketId with
    | none => simp [found] at advanced
    | some other => simpa [found] using advanced
  refine ⟨moved, remembered, ?_⟩
  by_cases matching : matchesSlug watch c.item
  · simp only [matching, if_true] at rest ⊢
    obtain ⟨activity, _, rest⟩ := Result.bind_eq_ok.mp rest
    obtain ⟨_, _, rest⟩ := Result.bind_eq_ok.mp rest
    obtain ⟨enriched, _, rest⟩ := Result.bind_eq_ok.mp rest
    obtain ⟨_, _, rest⟩ := Result.bind_eq_ok.mp rest
    cases rest
    exact ⟨rfl, rfl, by simp [Staged.emit, Staged.consume]⟩
  · simp only [matching] at rest ⊢
    obtain ⟨_, _, rest⟩ := Result.bind_eq_ok.mp rest
    cases rest
    exact ⟨rfl, rfl, by simp [Staged.consume]⟩

theorem rememberActivity_spec {watch moved : WalletWatch} {item : Fill}
    (remembered : rememberActivity watch item marketId = some moved) :
    moved.onlyMarketSlug = watch.onlyMarketSlug ∧
      (cursorForMarket watch marketId).remember item = some (cursorForMarket moved marketId) ∧
      ∀ other, other ≠ marketId → cursorForMarket moved other = cursorForMarket watch other := by
  obtain ⟨cursor, next, rfl⟩ := Option.map_eq_some_iff.mp remembered
  refine ⟨?_, ?_, fun other different => cursorForMarket_withCursor_ne watch cursor different⟩
  · unfold WalletWatch.withCursor
    split <;> rfl
  · rw [cursorForMarket_withCursor, next]

theorem matchesSlug_congr {first second : WalletWatch} (same : first.onlyMarketSlug = second.onlyMarketSlug) :
    matchesSlug first = matchesSlug second := by
  funext item
  rw [matchesSlug, matchesSlug, same]

theorem tracks_attempt {env : Environment Activity} {maxBatchItems : Nat} {s next : Staged Activity}
    {watch : WalletWatch} {c : Candidate} (tracks : Tracks w marketId s)
    (known : s.wallets[c.walletIndex]? = some watch)
    (member : c.item ∈ (w.history c.walletIndex marketId).fills)
    (unused : c.item ∉ w.consumed c.walletIndex marketId ++ s.consumedOf c.walletIndex)
    (oldest : ∀ fill ∈ (w.history c.walletIndex marketId).fills,
      fill ∉ w.consumed c.walletIndex marketId ++ s.consumedOf c.walletIndex →
      c.item.timestamp ≤ fill.timestamp)
    (attempted : attempt env marketId maxBatchItems true s watch c = .ok next) :
    Tracks w marketId next := by
  obtain ⟨moved, remembered, wallets, consumed, emitted⟩ := attempt_spec attempted
  obtain ⟨slug, cursor, others⟩ := rememberActivity_spec remembered
  have bound : c.walletIndex < s.wallets.length := (List.getElem?_eq_some_iff.mp known).1
  have consumedOf : ∀ index, next.consumedOf index =
      s.consumedOf index ++ if c.walletIndex = index then [c.item] else [] := by
    intro index
    rw [Staged.consumedOf, consumed, ofWallet_append_one]
    rfl
  have deliveredOf : ∀ index, next.deliveredOf index = s.deliveredOf index ++
      if c.walletIndex = index ∧ matchesSlug watch c.item then [c.item] else [] := by
    intro index
    rw [Staged.deliveredOf, emitted]
    by_cases matching : matchesSlug watch c.item
    · rw [if_pos matching, ofWallet_append_one]
      simp [matching, Staged.deliveredOf]
    · simp [matching, Staged.deliveredOf]
  -- A wallet of the next state is the moved one or an untouched one.
  have either : ∀ index after, next.wallets[index]? = some after →
      (index = c.walletIndex ∧ after = moved) ∨ (index ≠ c.walletIndex ∧ s.wallets[index]? = some after) := by
    intro index after found
    rw [wallets] at found
    by_cases same : index = c.walletIndex
    · subst same
      rw [List.getElem?_set_self bound] at found
      exact Or.inl ⟨rfl, (Option.some.inj found).symm⟩
    · rw [List.getElem?_set_ne (Ne.symm same)] at found
      exact Or.inr ⟨same, found⟩
  refine ⟨?_, ?_, ?_, ?_⟩
  · rw [wallets, List.length_set, tracks.length]
  · intro index after old found before
    rcases either index after found with ⟨rfl, rfl⟩ | ⟨_, unchanged⟩
    · exact slug.trans (tracks.settings _ _ _ known before)
    · exact tracks.settings _ _ _ unchanged before
  · intro index after found market
    rcases either index after found with ⟨rfl, rfl⟩ | ⟨different, unchanged⟩
    · by_cases selected : market = marketId
      · subst selected
        have records := tracks.records _ _ known market
        rw [if_pos rfl] at records ⊢
        rw [consumedOf, if_pos rfl, ← List.append_assoc]
        exact remember_records records member unused oldest cursor
      · rw [others market selected, if_neg selected]
        simpa [selected] using tracks.records _ _ known market
    · rw [consumedOf, if_neg (Ne.symm different), List.append_nil]
      exact tracks.records _ _ unchanged market
  · intro index after found
    rw [consumedOf, deliveredOf, List.filter_append]
    rcases either index after found with ⟨rfl, rfl⟩ | ⟨different, unchanged⟩
    · rw [tracks.delivered _ _ known, matchesSlug_congr slug]
      by_cases matching : matchesSlug watch c.item <;> simp [matching]
    · rw [tracks.delivered _ _ unchanged]
      simp [Ne.symm different]

/-- The candidates still to come are the pending fills of the wallets not blocked yet. -/
structure Pending (w : World Activity) (marketId : Text) (p : Progress Activity) (cs : List Candidate) :
    Prop where
  known : ∀ c ∈ cs, c.walletIndex < p.staged.wallets.length
  distinct : (cs.map fun c => (c.walletIndex, c.item)).Nodup
  ordered : cs.Pairwise fun first second => first.item.timestamp ≤ second.item.timestamp
  each : ∀ c ∈ cs, c.walletIndex ∉ p.blocked →
    c.item ∈ (w.history c.walletIndex marketId).fills ∧
      c.item ∉ w.consumed c.walletIndex marketId ++ p.staged.consumedOf c.walletIndex
  every : ∀ c ∈ cs, c.walletIndex ∉ p.blocked → ∀ fill ∈ (w.history c.walletIndex marketId).fills,
    fill ∉ w.consumed c.walletIndex marketId ++ p.staged.consumedOf c.walletIndex →
      ∃ d ∈ cs, d.walletIndex = c.walletIndex ∧ d.item = fill

/-- A candidate of a blocked wallet is passed over. -/
theorem pending_skip {p next : Progress Activity} {c : Candidate} {cs : List Candidate}
    (pending : Pending w marketId p (c :: cs)) (staged : next.staged = p.staged)
    (grows : ∀ index ∈ p.blocked, index ∈ next.blocked) (blocked : c.walletIndex ∈ next.blocked) :
    Pending w marketId next cs where
  known d member := staged ▸ pending.known d (List.mem_cons_of_mem _ member)
  distinct := (List.nodup_cons.mp pending.distinct).2
  ordered := (List.pairwise_cons.mp pending.ordered).2
  each d member free :=
    staged ▸ pending.each d (List.mem_cons_of_mem _ member) fun old => free (grows _ old)
  every d member free fill filled unread := by
    obtain ⟨e, among, index, item⟩ := pending.every d (List.mem_cons_of_mem _ member)
      (fun old => free (grows _ old)) fill filled (staged ▸ unread)
    rcases List.mem_cons.mp among with rfl | later
    · exact absurd (index ▸ blocked) free
    · exact ⟨e, later, index, item⟩

theorem deliver_step {env : Environment Activity} {maxBatchItems : Nat} {p next : Progress Activity}
    {c : Candidate} {cs : List Candidate} (tracks : Tracks w marketId p.staged)
    (pending : Pending w marketId p (c :: cs))
    (delivered : deliver env marketId maxBatchItems true p c = .ok next) :
    Tracks w marketId next.staged ∧ Pending w marketId next cs := by
  unfold deliver at delivered
  have bound := pending.known c List.mem_cons_self
  have known := List.getElem?_eq_getElem bound
  generalize p.staged.wallets[c.walletIndex] = watch at known
  rw [known] at delivered
  dsimp only at delivered
  by_cases blocked : c.walletIndex ∈ p.blocked
  · rw [if_pos blocked] at delivered
    cases delivered
    exact ⟨tracks, pending_skip pending rfl (fun _ => id) blocked⟩
  · rw [if_neg blocked] at delivered
    have blocking : Tracks w marketId (p.block c.walletIndex).staged ∧
        Pending w marketId (p.block c.walletIndex) cs :=
      ⟨tracks, pending_skip pending rfl (fun _ => List.mem_cons_of_mem _) List.mem_cons_self⟩
    split at delivered
    · cases delivered
      exact blocking
    · cases attempted : attempt env marketId maxBatchItems true p.staged watch c with
      | error refusal =>
        cases refusal with
        | tooLarge =>
          simp only [attempted] at delivered
          split at delivered
          · cases delivered
          · cases delivered
            exact blocking
        | other => simp [attempted] at delivered
      | ok staged =>
        simp only [attempted, Except.ok.injEq] at delivered
        subst delivered
        obtain ⟨member, unused⟩ := pending.each c List.mem_cons_self blocked
        -- the candidates come in the order of time, so no unread fill of the wallet is older
        have oldest : ∀ fill ∈ (w.history c.walletIndex marketId).fills,
            fill ∉ w.consumed c.walletIndex marketId ++ p.staged.consumedOf c.walletIndex →
            c.item.timestamp ≤ fill.timestamp := by
          intro fill filled unread
          obtain ⟨d, among, _, rfl⟩ := pending.every c List.mem_cons_self blocked fill filled unread
          rcases List.mem_cons.mp among with rfl | later
          · exact le_rfl
          · exact (List.pairwise_cons.mp pending.ordered).1 d later
        refine ⟨tracks_attempt tracks known member unused oldest attempted, ?_⟩
        obtain ⟨moved, _, wallets, consumed, _⟩ := attempt_spec attempted
        have distinct := List.nodup_cons.mp pending.distinct
        have consumedOf : ∀ index, staged.consumedOf index =
            p.staged.consumedOf index ++ if c.walletIndex = index then [c.item] else [] := by
          intro index
          rw [Staged.consumedOf, consumed, ofWallet_append_one]
          rfl
        refine ⟨?_, distinct.2, (List.pairwise_cons.mp pending.ordered).2, ?_, ?_⟩
        · intro d later
          rw [wallets, List.length_set]
          exact pending.known d (List.mem_cons_of_mem _ later)
        · intro d later free
          obtain ⟨filled, unread⟩ := pending.each d (List.mem_cons_of_mem _ later) free
          refine ⟨filled, ?_⟩
          rw [consumedOf, ← List.append_assoc]
          intro used
          rcases List.mem_append.mp used with old | new
          · exact unread old
          · split at new
            · rename_i same
              exact distinct.1 (List.mem_map.mpr ⟨d, later, Prod.ext same.symm (List.mem_singleton.mp new)⟩)
            · cases new
        · intro d later free fill filled unread
          rw [consumedOf, ← List.append_assoc, List.mem_append, not_or] at unread
          obtain ⟨e, among, index, rfl⟩ :=
            pending.every d (List.mem_cons_of_mem _ later) free fill filled unread.1
          rcases List.mem_cons.mp among with rfl | below
          · exact absurd (by simp [index]) unread.2
          · exact ⟨e, below, index, rfl⟩

theorem deliverAll_tracks {env : Environment Activity} {maxBatchItems : Nat} {p final : Progress Activity}
    {cs : List Candidate} (tracks : Tracks w marketId p.staged) (pending : Pending w marketId p cs)
    (delivered : deliverAll env marketId maxBatchItems true p cs = .ok final) :
    Tracks w marketId final.staged := by
  induction cs generalizing p with
  | nil =>
    cases delivered
    exact tracks
  | cons c rest ih =>
    obtain ⟨next, first, remainder⟩ := Result.bind_eq_ok.mp delivered
    obtain ⟨nextTracks, nextPending⟩ := deliver_step tracks pending first
    exact ih nextTracks nextPending remainder

end Loop

/-! ## Whole runs -/

instance : Std.Total Candidate.Before where
  total first second := by
    unfold Candidate.Before
    omega

instance : IsTrans Candidate Candidate.Before where
  trans first second third := by
    unfold Candidate.Before
    omega

theorem sorted_candidates (cs : List Candidate) :
    (cs.insertionSort Candidate.Before).Pairwise fun first second =>
      first.item.timestamp ≤ second.item.timestamp := by
  refine (List.pairwise_insertionSort Candidate.Before cs).imp ?_
  intro first second before
  rcases before with earlier | ⟨same, _⟩
  · exact earlier.le
  · exact same.le

variable {w : World Activity} {marketId : Text}

/-- An honest read offers the unconsumed fills as the new ones. -/
theorem honest_new {env : Environment Activity} (consistent : w.Consistent) (honest : Honest env w marketId) :
    ∀ watch walletIndex, (watch, walletIndex) ∈ w.wallets.zipIdx → watch.enabled →
      ∀ items, env.collect walletIndex = .items items → (items.map Fill.key).Nodup ∧
        ∀ fill, (fill ∈ items ∧ Eligible (cursorForMarket watch marketId) fill) ↔
          (fill ∈ (w.history walletIndex marketId).fills ∧ fill ∉ w.consumed walletIndex marketId) := by
  intro watch walletIndex entry enabled items collected
  have known := List.mk_mem_zipIdx_iff_getElem?.mp entry
  have read := honest walletIndex watch known enabled items collected
  have records := (consistent walletIndex watch known marketId).1
  constructor
  · refine (read.map Fill.key).nodup_iff.mpr ?_
    exact (w.history walletIndex marketId).distinct.sublist (List.filter_sublist.map _)
  · intro fill
    rw [read.mem_iff, List.mem_filter, decide_eq_true_iff]
    constructor
    · rintro ⟨⟨member, _⟩, eligible⟩
      exact ⟨member, (records.eligible_iff member).mp eligible⟩
    · rintro ⟨member, unused⟩
      have eligible := (records.eligible_iff member).mpr unused
      exact ⟨⟨member, eligible.1⟩, eligible⟩

theorem poll_tracks {env : Environment Activity} {maxBatchItems : Nat} {s : Staged Activity}
    {result : PollResult Activity} (consistent : w.Consistent) (honest : Honest env w marketId)
    (success : pollWalletActivity env marketId maxBatchItems true w.wallets w.recent =
      .ok (.published s result)) : Tracks w marketId s := by
  obtain ⟨cs, final, gathered, delivered, rfl, rfl⟩ := poll_published success
  have indices : (w.wallets.zipIdx.map Prod.snd).Nodup := by
    rw [List.zipIdx_map_snd]
    exact List.nodup_range'
  obtain ⟨distinct, each, every⟩ := gather_spec indices (honest_new consistent honest) gathered
  have sorted : (cs.insertionSort Candidate.Before).Perm cs := List.perm_insertionSort _ _
  have nothing : ∀ index, (startProgress w.wallets w.recent cs).staged.consumedOf index = [] := fun _ => rfl
  refine deliverAll_tracks ⟨rfl, ?_, ?_, fun _ _ _ => rfl⟩ ⟨?_, ?_, sorted_candidates cs, ?_, ?_⟩ delivered
  · intro index watch old after before
    rw [show w.wallets[index]? = some watch from after] at before
    cases before
    rfl
  · intro index watch known market
    simpa [nothing] using (consistent index watch known market).1
  · intro c member
    obtain ⟨⟨watch, entry, _⟩, _⟩ := each c (sorted.mem_iff.mp member)
    exact (List.getElem?_eq_some_iff.mp (List.mk_mem_zipIdx_iff_getElem?.mp entry)).1
  · exact (sorted.map _).nodup_iff.mpr distinct
  · intro c member _
    rw [nothing, List.append_nil]
    exact (each c (sorted.mem_iff.mp member)).2
  · intro c member _ fill filled unread
    rw [nothing, List.append_nil] at unread
    obtain ⟨⟨watch, entry, enabled⟩, _⟩ := each c (sorted.mem_iff.mp member)
    obtain ⟨d, among, found⟩ := every watch c.walletIndex entry enabled fill ⟨filled, unread⟩
    exact ⟨d, sorted.mem_iff.mpr among, found⟩

theorem step_consistent {before after : World Activity} (consistent : before.Consistent)
    (step : Step before after) : after.Consistent := by
  cases step with
  | arrive walletIndex marketId fill unseen new recent =>
    intro index watch known market
    dsimp only
    by_cases here : index = walletIndex ∧ market = marketId
    · obtain ⟨rfl, rfl⟩ := here
      rw [if_pos ⟨rfl, rfl⟩]
      obtain ⟨records, delivered⟩ := consistent index watch known market
      exact ⟨append_records records unseen new (recent watch known), delivered⟩
    · rw [if_neg here]
      exact consistent index watch known market
  | poll env marketId maxBatchItems s result honest success =>
    have tracks := poll_tracks consistent honest success
    intro index watch known market
    obtain ⟨old, before⟩ : ∃ old, before.wallets[index]? = some old := by
      have bound := (List.getElem?_eq_some_iff.mp known).1
      rw [show (before.publish marketId s).wallets.length = before.wallets.length from tracks.length] at bound
      exact ⟨_, List.getElem?_eq_getElem bound⟩
    refine ⟨tracks.records index watch known market, ?_⟩
    have settings := matchesSlug_congr (tracks.settings index watch old known before)
    change _ ++ _ = List.filter _ (_ ++ _)
    rw [List.filter_append, (consistent index old before market).2, settings]
    split
    · rw [tracks.delivered index watch known, settings]
    · rfl

private def sampleFill (key : String) (timestamp : Int) : Fill :=
  ⟨text key, none, timestamp, text "rain", text "0x1"⟩

private def sampleWatch : WalletWatch :=
  ⟨text "0xabc", true, ⟨5, [], [], []⟩, text "polymarket", [], []⟩

private def sampleHistory : History :=
  ⟨[], [sampleFill "a" 7, sampleFill "b" 7], by decide, by decide⟩

private def noHistory : History := ⟨[], [], by simp, by simp⟩

/-- Two fills of one second, delivered in batches of one. -/
private def sampleWorld : World Unit where
  wallets := [sampleWatch]
  recent := []
  history walletIndex marketId :=
    if walletIndex = 0 ∧ marketId = text "polymarket" then sampleHistory else noHistory
  consumed _ _ := []
  delivered _ _ := []

private def sampleEnvironment : Environment Unit where
  collect _ := .items [sampleFill "b" 7, sampleFill "a" 7]
  preflight _ _ := .ok ()
  payload _ _ := .ok ()
  preview _ _ _ := .ok ()

private def sampleMoved : WalletWatch :=
  { sampleWatch with cursor := ⟨7, text "0x1", [text "a"], [(text "a", 7)]⟩ }

private def sampleStaged : Staged Unit :=
  ⟨[sampleMoved], [()], [⟨0, sampleFill "a" 7, ()⟩], 0, 1, [(0, sampleFill "a" 7)]⟩

private theorem sample_start : Start sampleWorld where
  consumed _ _ := rfl
  delivered _ _ := rfl
  recent walletIndex watch known marketId fill member := by
    cases walletIndex with
    | zero =>
      cases known
      have filled : ∀ fill ∈ sampleHistory.fills, 5 ≤ fill.timestamp := by decide
      have time : (cursorForMarket sampleWatch marketId).lastSeenTs ≤ 5 := by
        unfold cursorForMarket
        split
        · exact le_rfl
        · exact (by decide : (0 : Int) ≤ 5)
      by_cases here : marketId = text "polymarket"
      · have member : fill ∈ sampleHistory.fills := by simpa [sampleWorld, here] using member
        exact time.trans (filled fill member)
      · simp [sampleWorld, here, noHistory] at member
    | succ n => cases known
  keys walletIndex watch known marketId key seen := by
    cases walletIndex with
    | zero =>
      cases known
      unfold cursorForMarket at seen
      split at seen <;> cases seen
    | succ n => cases known
  dated walletIndex watch known marketId entry present := by
    cases walletIndex with
    | zero =>
      cases known
      unfold cursorForMarket at present
      split at present <;> cases present
    | succ n => cases known

private theorem sample_honest : Honest sampleEnvironment sampleWorld (text "polymarket") := by
  intro walletIndex watch known _ items collected
  match walletIndex with
  | 0 =>
    cases known
    cases collected
    have read : (((sampleWorld.history 0 (text "polymarket")).fills.filter fun fill =>
        decide ((cursorForMarket sampleWatch (text "polymarket")).lastSeenTs ≤ fill.timestamp))) =
          [sampleFill "a" 7, sampleFill "b" 7] := by decide
    rw [read]
    exact List.Perm.swap _ _ _
  | n + 1 => cases known

end MarketSentinel.Wallet
