import Mathlib.Algebra.Order.Ring.Rat
import Mathlib.Algebra.BigOperators.Group.List.Basic
import Mathlib.Data.List.Induction
import Mathlib.Tactic.Linarith
import MarketSentinel.Library.Dict
import MarketSentinel.Library.Recency
import MarketSentinel.Library.Transition

/-! The cache of downloaded histories.

Entries stand in the order of their last use. Times are exact, and the encoding of
values is any function that may refuse one.
-/

set_option autoImplicit false

namespace MarketSentinel.Mdd

open Python

abbrev Bytes := List UInt8

/-- `_encode`, which raises on what is not JSON, and `json.loads`. -/
structure Codec (Value : Type) where
  encode : Value → Option Bytes
  loads : Bytes → Value

structure CacheEntry where
  stored : ℚ
  expires : ℚ
  value : Bytes
  deriving DecidableEq

structure BoundedJsonCache where
  maxEntries : Nat
  maxBytes : Nat
  entries : Dict Bytes CacheEntry
  bytes : ℤ
  entriesPositive : 0 < maxEntries
  bytesPositive : 0 < maxBytes

def entrySize (entry : Bytes × CacheEntry) : Nat := entry.1.length + entry.2.value.length

namespace BoundedJsonCache

def new (maxEntries maxBytes : Nat) (positive : 0 < maxEntries ∧ 0 < maxBytes) : BoundedJsonCache where
  maxEntries := maxEntries
  maxBytes := maxBytes
  entries := []
  bytes := 0
  entriesPositive := positive.1
  bytesPositive := positive.2

def remove (cache : BoundedJsonCache) (key : Bytes) : BoundedJsonCache :=
  match cache.entries.get? key with
  | some entry =>
    { cache with entries := cache.entries.erase key, bytes := cache.bytes - (key.length + entry.value.length : Nat) }
  | none => cache

def expire (cache : BoundedJsonCache) (now : ℚ) : BoundedJsonCache :=
  cache.entries.foldl (fun cache entry => if entry.2.expires ≤ now then cache.remove entry.1 else cache) cache

def moveToEnd (cache : BoundedJsonCache) (key : Bytes) (entry : CacheEntry) : BoundedJsonCache :=
  { cache with entries := cache.entries.erase key ++ [(key, entry)] }

variable {Value : Type} (codec : Codec Value)

/-- An answer, or nothing inside the outer option when encoding the key raises. -/
def get (cache : BoundedJsonCache) (now : ℚ) (key : Value) (maxAgeSeconds : ℚ) :
    Option (Option Value) × BoundedJsonCache :=
  match codec.encode key with
  | none => (none, cache)
  | some encodedKey =>
    let cache := cache.expire now
    match cache.entries.get? encodedKey with
    | none => (some none, cache)
    | some entry =>
      if maxAgeSeconds ≤ 0 ∨ maxAgeSeconds ≤ now - entry.stored then (some none, cache)
      else (some (some (codec.loads entry.value)), cache.moveToEnd encodedKey entry)

theorem remove_length_lt {cache : BoundedJsonCache} {entry : Bytes × CacheEntry} {rest : Dict Bytes CacheEntry}
    (first : cache.entries = entry :: rest) : (cache.remove entry.1).entries.length < cache.entries.length := by
  have found : cache.entries.get? entry.1 = some entry.2 := by
    rw [first]
    exact if_pos rfl
  unfold remove
  rw [found]
  apply List.length_filter_lt_length_iff_exists.mpr
  exact ⟨entry, first ▸ List.mem_cons_self, by simp⟩

/-- The loop that removes the least recently used entries until a new one of a size fits. -/
def makeRoom (cache : BoundedJsonCache) (size : Nat) : BoundedJsonCache :=
  match _first : cache.entries with
  | [] => cache
  | entry :: _ =>
    if cache.maxEntries ≤ cache.entries.length ∨ cache.maxBytes < cache.bytes + size then
      (cache.remove entry.1).makeRoom size
    else cache
termination_by cache.entries.length
decreasing_by exact remove_length_lt _first

/-- Whether the value was stored, or nothing when encoding raises. -/
def put (cache : BoundedJsonCache) (now : ℚ) (key value : Value) (ttlSeconds : ℚ) :
    Option Bool × BoundedJsonCache :=
  if ttlSeconds ≤ 0 then (some false, cache)
  else
    match codec.encode key, codec.encode value with
    | some encodedKey, some encodedValue =>
      let size := encodedKey.length + encodedValue.length
      let cache := (cache.expire now).remove encodedKey
      if cache.maxBytes < size then (some false, cache)
      else
        let cache := cache.makeRoom size
        (some true, { cache with
          entries := cache.entries.set encodedKey ⟨now, now + ttlSeconds, encodedValue⟩
          bytes := cache.bytes + size })
    | _, _ => (none, cache)

def clear (cache : BoundedJsonCache) : BoundedJsonCache := { cache with entries := [], bytes := 0 }

structure Stats where
  entries : Nat
  serializedBytes : ℤ
  maxEntries : Nat
  maxSerializedBytes : Nat

def stats (cache : BoundedJsonCache) (now : ℚ) : Stats × BoundedJsonCache :=
  let cache := cache.expire now
  (⟨cache.entries.length, cache.bytes, cache.maxEntries, cache.maxBytes⟩, cache)

end BoundedJsonCache

inductive Operation (Value : Type) where
  | get (key : Value) (maxAgeSeconds : ℚ)
  | put (key value : Value) (ttlSeconds : ℚ)
  | clear
  | stats

structure CacheCall (Value : Type) where
  now : ℚ
  operation : Operation Value

inductive CacheResult (Value : Type) where
  | got (answer : Option (Option Value))
  | put (stored : Option Bool)
  | cleared
  | stats (stats : BoundedJsonCache.Stats)

namespace BoundedJsonCache

variable {Value : Type} (codec : Codec Value)

def serve (cache : BoundedJsonCache) (call : CacheCall Value) : CacheResult Value × BoundedJsonCache :=
  match call.operation with
  | .get key maxAgeSeconds =>
    let (answer, next) := cache.get codec call.now key maxAgeSeconds
    (.got answer, next)
  | .put key value ttlSeconds =>
    let (stored, next) := cache.put codec call.now key value ttlSeconds
    (.put stored, next)
  | .clear => (.cleared, cache.clear)
  | .stats =>
    let (stats, next) := cache.stats call.now
    (.stats stats, next)

/-! ## What each operation leaves -/

def total (entries : Dict Bytes CacheEntry) : Nat := (entries.map entrySize).sum

/-- A cache whose counter is the one of its entries. -/
def withEntries (cache : BoundedJsonCache) (entries : Dict Bytes CacheEntry) : BoundedJsonCache :=
  { cache with entries := entries, bytes := total entries }

/-- Each key has one entry, and the counter is the one of the entries. -/
structure Exact (cache : BoundedJsonCache) : Prop where
  unique : (cache.entries.map Prod.fst).Nodup
  counter : cache.bytes = total cache.entries

def live (cache : BoundedJsonCache) (now : ℚ) : Dict Bytes CacheEntry :=
  cache.entries.filter fun entry => decide (now < entry.2.expires)

/-- Some entries and a new one pass a limit. -/
def Exceeds (cache : BoundedJsonCache) (size : Nat) (entries : Dict Bytes CacheEntry) : Prop :=
  cache.maxEntries ≤ entries.length ∨ cache.maxBytes < total entries + size

section Lists

variable {cache : BoundedJsonCache}

theorem Exact.withEntries_self (exact : Exact cache) : cache.withEntries cache.entries = cache := by
  unfold withEntries
  rw [← exact.counter]

theorem exact_withEntries {entries : Dict Bytes CacheEntry} (unique : (entries.map Prod.fst).Nodup) :
    Exact (cache.withEntries entries) := ⟨unique, rfl⟩

theorem Exact.sublist {entries : Dict Bytes CacheEntry} (exact : Exact cache) (kept : entries.Sublist cache.entries) :
    Exact (cache.withEntries entries) := exact_withEntries (exact.unique.sublist (kept.map Prod.fst))

theorem erase_of_get?_eq_none {entries : Dict Bytes CacheEntry} {key : Bytes} (absent : entries.get? key = none) :
    entries.erase key = entries := by
  apply List.filter_eq_self.mpr
  intro entry member
  apply decide_eq_true
  rintro rfl
  have known := (Dict.get?_isSome_iff entries entry.1).mpr (List.mem_map_of_mem member)
  rw [absent] at known
  cases known

theorem erase_perm {entries : Dict Bytes CacheEntry} (unique : (entries.map Prod.fst).Nodup) {key : Bytes}
    {entry : CacheEntry} (found : entries.get? key = some entry) :
    (entries.erase key ++ [(key, entry)]).Perm entries := by
  induction entries with
  | nil => cases found
  | cons first rest ih =>
    obtain ⟨new, unique⟩ := List.nodup_cons.mp unique
    unfold Dict.get? at found
    by_cases here : first.1 = key
    · rw [if_pos here] at found
      cases found
      have others : Dict.erase rest key = rest := by
        apply erase_of_get?_eq_none
        rw [← Option.not_isSome_iff_eq_none, Dict.get?_isSome_iff, ← here]
        exact new
      rw [Dict.erase, List.filter_cons_of_neg (by simp [here])]
      change (Dict.erase rest key ++ _).Perm _
      rw [others, ← here]
      exact List.perm_append_singleton first rest
    · rw [if_neg here] at found
      rw [Dict.erase, List.filter_cons_of_pos (by simp [here])]
      exact (ih unique found).cons first

theorem total_append (entries others : Dict Bytes CacheEntry) : total (entries ++ others) = total entries + total others := by
  simp [total]

theorem total_le {entries kept : Dict Bytes CacheEntry} (fewer : kept.Sublist entries) : total kept ≤ total entries := by
  induction fewer with
  | slnil => exact Nat.le_refl _
  | cons entry _ ih =>
    simp only [total, List.map_cons, List.sum_cons] at ih ⊢
    omega
  | cons_cons entry _ ih =>
    simp only [total, List.map_cons, List.sum_cons] at ih ⊢
    omega

theorem total_erase {entries : Dict Bytes CacheEntry} (unique : (entries.map Prod.fst).Nodup) {key : Bytes}
    {entry : CacheEntry} (found : entries.get? key = some entry) :
    total entries = total (entries.erase key) + (key.length + entry.value.length) := by
  have same : total (entries.erase key ++ [(key, entry)]) = total entries :=
    ((erase_perm unique found).map entrySize).sum_eq
  rw [← same, total_append]
  rfl

theorem Exact.remove_eq (exact : Exact cache) (key : Bytes) :
    cache.remove key = cache.withEntries (cache.entries.erase key) := by
  unfold remove
  cases found : cache.entries.get? key with
  | none => rw [erase_of_get?_eq_none found, exact.withEntries_self]
  | some entry =>
    have counted := total_erase exact.unique found
    simp only [withEntries, exact.counter, counted]
    congr 1
    omega

theorem foldl_remove (now : ℚ) (entries : Dict Bytes CacheEntry) (exact : Exact cache) :
    entries.foldl (fun cache entry => if entry.2.expires ≤ now then cache.remove entry.1 else cache) cache =
      cache.withEntries (cache.entries.filter fun entry =>
        decide (∀ other ∈ entries, other.2.expires ≤ now → entry.1 ≠ other.1)) := by
  induction entries generalizing cache with
  | nil =>
    rw [List.foldl_nil, List.filter_eq_self.mpr (by simp), exact.withEntries_self]
  | cons first rest ih =>
    rw [List.foldl_cons]
    split
    · rename_i expired
      have kept : Exact (cache.withEntries (cache.entries.erase first.1)) := exact.sublist List.filter_sublist
      have both : (cache.entries.erase first.1).filter
            (fun entry => decide (∀ other ∈ rest, other.2.expires ≤ now → entry.1 ≠ other.1)) =
          cache.entries.filter fun entry => decide (∀ other ∈ first :: rest, other.2.expires ≤ now → entry.1 ≠ other.1) := by
        rw [Dict.erase, List.filter_filter]
        apply List.filter_congr
        intro entry _
        rw [← Bool.decide_and, decide_eq_decide, List.forall_mem_cons]
        constructor
        · rintro ⟨others, other⟩
          exact ⟨fun _ => other, others⟩
        · rintro ⟨other, others⟩
          exact ⟨others, other expired⟩
      rw [exact.remove_eq, ih kept, ← both]
      rfl
    · rename_i kept
      rw [ih exact]
      congr 1
      apply List.filter_congr
      intro entry _
      simp [kept]

theorem Exact.expire_eq (exact : Exact cache) (now : ℚ) : cache.expire now = cache.withEntries (cache.live now) := by
  rw [expire, foldl_remove now _ exact]
  congr 1
  apply List.filter_congr
  intro entry member
  rw [decide_eq_decide]
  constructor
  · intro kept
    by_contra expired
    exact kept entry member (not_lt.mp expired) rfl
  · intro lives other inside expired same
    have equal := List.inj_on_of_nodup_map exact.unique inside member same.symm
    rw [equal] at expired
    exact absurd lives (not_lt.mpr expired)

/-- Room is made by dropping entries from the front, as few as needed. -/
theorem Exact.makeRoom_eq (exact : Exact cache) (size : Nat) :
    ∃ n, cache.makeRoom size = cache.withEntries (cache.entries.drop n) ∧
      (∀ m < n, Exceeds cache size (cache.entries.drop m)) ∧
      (cache.entries.drop n = [] ∨ ¬ Exceeds cache size (cache.entries.drop n)) := by
  induction entries : cache.entries generalizing cache with
  | nil =>
    refine ⟨0, ?_, by simp, .inl rfl⟩
    unfold makeRoom
    split
    · rw [List.drop_nil, ← entries, exact.withEntries_self]
    · rename_i more
      rw [entries] at more
      cases more
  | cons first rest ih =>
    unfold makeRoom
    split
    · rename_i none
      rw [entries] at none
      cases none
    · rename_i entry others same
      rw [entries] at same
      cases same
      have counted : (cache.bytes : ℤ) = (total (first :: rest) : Nat) := entries ▸ exact.counter
      split
      · rename_i full
        have gone : cache.entries.erase first.1 = rest := by
          obtain ⟨new, _⟩ := List.nodup_cons.mp (entries ▸ exact.unique)
          rw [entries, Dict.erase, List.filter_cons_of_neg (by simp)]
          apply List.filter_eq_self.mpr
          intro other member
          apply decide_eq_true
          rintro same
          exact new (same ▸ List.mem_map_of_mem member)
        have next := exact.remove_eq first.1
        rw [gone] at next
        have kept : Exact (cache.withEntries rest) := exact.sublist (entries ▸ List.sublist_cons_self first rest)
        obtain ⟨n, made, needed, fits⟩ := ih kept rfl
        refine ⟨n + 1, ?_, ?_, fits⟩
        · rw [next, made]
          rfl
        · intro m below
          cases m with
          | zero =>
            rw [counted, entries] at full
            obtain full | full := full
            · exact .inl full
            · refine .inr ?_
              rw [List.drop_zero]
              omega
          | succ m => exact needed m (by omega)
      · rename_i free
        refine ⟨0, ?_, by simp, .inr ?_⟩
        · rw [List.drop_zero, ← entries, exact.withEntries_self]
        · rw [List.drop_zero]
          rw [counted, entries] at free
          rintro (full | full)
          · exact free (.inl full)
          · exact free (.inr (by omega))

theorem Exact.moveToEnd_eq (exact : Exact cache) {key : Bytes} {entry : CacheEntry}
    (found : cache.entries.get? key = some entry) :
    cache.moveToEnd key entry = cache.withEntries (cache.entries.erase key ++ [(key, entry)]) := by
  have counted := total_erase exact.unique found
  unfold moveToEnd withEntries
  rw [exact.counter, total_append, counted]
  rfl

/-- A key that was erased is set at the end. -/
theorem set_at_end {entries : Dict Bytes CacheEntry} {key : Bytes} (n : Nat) (entry : CacheEntry) :
    Dict.set ((entries.erase key).drop n) key entry = (entries.erase key).drop n ++ [(key, entry)] := by
  apply Dict.set_of_notMem
  intro member
  obtain ⟨other, inside, same⟩ := List.mem_map.mp member
  exact of_decide_eq_true (List.mem_filter.mp (List.mem_of_mem_drop inside)).2 same

end Lists

end BoundedJsonCache

structure Put where
  now : ℚ
  ttlSeconds : ℚ
  value : Bytes

def Put.entry (put : Put) : CacheEntry := ⟨put.now, put.now + put.ttlSeconds, put.value⟩

section Calls

variable {Value : Type} (codec : Codec Value)

/-- The key and the value of a call that reaches the entries to put something there. -/
def CacheCall.put? (call : CacheCall Value) : Option (Bytes × Put) :=
  match call.operation with
  | .put key value ttlSeconds =>
    if ttlSeconds ≤ 0 then none
    else
      match codec.encode key, codec.encode value with
      | some encodedKey, some encodedValue => some (encodedKey, ⟨call.now, ttlSeconds, encodedValue⟩)
      | _, _ => none
  | _ => none

/-- The key that a call used: it stored a value or returned one. -/
def CacheCall.used? (call : CacheCall Value) (result : CacheResult Value) : Option Bytes :=
  match call.operation, result with
  | .get key _, .got (some (some _)) => codec.encode key
  | .put key _ _, .put (some true) => codec.encode key
  | _, _ => none

end Calls

namespace BoundedJsonCache

section Served

variable {Value : Type} (codec : Codec Value)

/-- What a call returns and which entries it leaves. -/
inductive Served (cache : BoundedJsonCache) (call : CacheCall Value) :
    CacheResult Value → Dict Bytes CacheEntry → Prop where
  | cleared : call.operation = .clear → Served cache call .cleared []
  | kept {result : CacheResult Value} {entries : Dict Bytes CacheEntry} :
      call.put? codec = none → call.used? codec result = none → (∀ value, result ≠ .got (some (some value))) →
      entries = cache.entries ∨ entries = cache.live call.now → Served cache call result entries
  | read {key : Value} {maxAgeSeconds : ℚ} {encodedKey : Bytes} {entry : CacheEntry} :
      call.operation = .get key maxAgeSeconds → codec.encode key = some encodedKey →
      Dict.get? (cache.live call.now) encodedKey = some entry → 0 < maxAgeSeconds →
      call.now - entry.stored < maxAgeSeconds →
      Served cache call (.got (some (some (codec.loads entry.value))))
        (Dict.erase (cache.live call.now) encodedKey ++ [(encodedKey, entry)])
  | refused {key : Bytes} {put : Put} :
      call.put? codec = some (key, put) → cache.maxBytes < key.length + put.value.length →
      Served cache call (.put (some false)) (Dict.erase (cache.live call.now) key)
  | stored {key : Bytes} {put : Put} {n : Nat} :
      call.put? codec = some (key, put) → call.used? codec (.put (some true)) = some key →
      (∀ m < n, Exceeds cache (key.length + put.value.length) ((Dict.erase (cache.live call.now) key).drop m)) →
      ¬ Exceeds cache (key.length + put.value.length) ((Dict.erase (cache.live call.now) key).drop n) →
      Served cache call (.put (some true)) ((Dict.erase (cache.live call.now) key).drop n ++ [(key, put.entry)])

variable {codec} {cache : BoundedJsonCache}

theorem get_served (exact : Exact cache) (now : ℚ) (key : Value) (maxAgeSeconds : ℚ) : ∃ entries,
    Served codec cache ⟨now, .get key maxAgeSeconds⟩ (.got (cache.get codec now key maxAgeSeconds).1) entries ∧
      (cache.get codec now key maxAgeSeconds).2 = cache.withEntries entries := by
  unfold get
  rw [exact.expire_eq]
  cases encoded : codec.encode key with
  | none => exact ⟨_, .kept rfl rfl (by simp) (.inl rfl), exact.withEntries_self.symm⟩
  | some encodedKey =>
    dsimp only
    change ∃ entries, Served _ _ _ (.got (Prod.fst (match Dict.get? (cache.live now) encodedKey with
      | none => _ | some entry => _))) _ ∧ Prod.snd (match Dict.get? (cache.live now) encodedKey with
      | none => _ | some entry => _) = _
    cases found : Dict.get? (cache.live now) encodedKey with
    | none => exact ⟨_, .kept rfl rfl (by simp) (.inr rfl), rfl⟩
    | some entry =>
      dsimp only
      split
      · exact ⟨_, .kept rfl rfl (by simp) (.inr rfl), rfl⟩
      · rename_i young
        rw [not_or, not_le, not_le] at young
        have kept : Exact (cache.withEntries (cache.live now)) := exact.sublist List.filter_sublist
        exact ⟨_, .read rfl encoded found young.1 young.2, kept.moveToEnd_eq found⟩

theorem put_served (exact : Exact cache) (now : ℚ) (key value : Value) (ttlSeconds : ℚ) : ∃ entries,
    Served codec cache ⟨now, .put key value ttlSeconds⟩ (.put (cache.put codec now key value ttlSeconds).1) entries ∧
      (cache.put codec now key value ttlSeconds).2 = cache.withEntries entries := by
  unfold put
  split
  · rename_i never
    refine ⟨_, .kept ?_ rfl (by simp) (.inl rfl), exact.withEntries_self.symm⟩
    exact if_pos never
  · rename_i positive
    cases keyEncoded : codec.encode key with
    | none =>
      refine ⟨_, .kept ?_ rfl (by simp) (.inl rfl), exact.withEntries_self.symm⟩
      simp [CacheCall.put?, positive, keyEncoded]
    | some encodedKey =>
      cases valueEncoded : codec.encode value with
      | none =>
        refine ⟨_, .kept ?_ rfl (by simp) (.inl rfl), exact.withEntries_self.symm⟩
        simp [CacheCall.put?, positive, valueEncoded]
      | some encodedValue =>
        have puts : CacheCall.put? codec ⟨now, .put key value ttlSeconds⟩ =
            some (encodedKey, ⟨now, ttlSeconds, encodedValue⟩) := by
          simp [CacheCall.put?, positive, keyEncoded, valueEncoded]
        have lives : Exact (cache.withEntries (cache.live now)) := exact.sublist List.filter_sublist
        have others : Exact (cache.withEntries (Dict.erase (cache.live now) encodedKey)) :=
          exact.sublist (List.filter_sublist.trans List.filter_sublist)
        have removed : (cache.expire now).remove encodedKey =
            cache.withEntries (Dict.erase (cache.live now) encodedKey) := by
          rw [exact.expire_eq, lives.remove_eq]
          rfl
        dsimp only
        rw [removed]
        split
        · rename_i oversized
          exact ⟨_, .refused puts oversized, rfl⟩
        · rename_i sized
          obtain ⟨n, made, needed, fits⟩ := others.makeRoom_eq (encodedKey.length + encodedValue.length)
          rw [made]
          have room : ¬ Exceeds cache (encodedKey.length + encodedValue.length)
              ((Dict.erase (cache.live now) encodedKey).drop n) := by
            obtain empty | fits := fits
            · have positive := cache.entriesPositive
              rw [show (Dict.erase (cache.live now) encodedKey).drop n = [] from empty]
              rintro (full | full)
              · simp at full
                omega
              · simp [total] at full
                exact sized full
            · exact fits
          refine ⟨_, .stored puts keyEncoded needed room, ?_⟩
          simp only [withEntries]
          rw [set_at_end, total_append]
          simp [total, entrySize, Put.entry]

theorem Exact.served (exact : Exact cache) (call : CacheCall Value) : ∃ entries,
    Served codec cache call (cache.serve codec call).1 entries ∧
      (cache.serve codec call).2 = cache.withEntries entries := by
  obtain ⟨now, operation⟩ := call
  cases operation with
  | get key maxAgeSeconds => exact get_served exact now key maxAgeSeconds
  | put key value ttlSeconds => exact put_served exact now key value ttlSeconds
  | clear => exact ⟨[], .cleared rfl, rfl⟩
  | stats => exact ⟨_, .kept rfl rfl (by simp [serve]) (.inr rfl), exact.expire_eq now⟩

end Served

section Runs

variable {Value : Type} (codec : Codec Value)

/-- The cache after some calls. -/
def after (cache : BoundedJsonCache) (calls : List (CacheCall Value)) : BoundedJsonCache :=
  (Transition.trace (serve codec) cache calls).2

/-- The keys that some calls used, in order. -/
def uses (cache : BoundedJsonCache) (calls : List (CacheCall Value)) : List Bytes :=
  (calls.zip (Transition.trace (serve codec) cache calls).1).filterMap fun pair => pair.1.used? codec pair.2

/-- The last put of a key that reached the entries. -/
def latestPut (calls : List (CacheCall Value)) (key : Bytes) : Option Put :=
  (((calls.filterMap fun call => call.put? codec).filter fun put => decide (put.1 = key)).getLast?).map Prod.snd

variable {codec} {cache : BoundedJsonCache} {calls : List (CacheCall Value)} {call : CacheCall Value}

theorem after_concat : cache.after codec (calls ++ [call]) = ((cache.after codec calls).serve codec call).2 := by
  unfold after
  rw [Transition.trace_append]
  rfl

theorem uses_concat : cache.uses codec (calls ++ [call]) =
    cache.uses codec calls ++ (call.used? codec ((cache.after codec calls).serve codec call).1).toList := by
  unfold uses
  rw [Transition.trace_append]
  change ((List.zip _ (_ ++ [((cache.after codec calls).serve codec call).1])).filterMap _) = _
  rw [List.zip_append (Transition.trace_length (serve codec) cache calls).symm, List.filterMap_append]
  congr 1

theorem latestPut_other {key : Bytes} (other : ∀ put, call.put? codec ≠ some (key, put)) :
    latestPut codec (calls ++ [call]) key = latestPut codec calls key := by
  unfold latestPut
  rw [List.filterMap_append, List.filter_append]
  have nothing : ([call].filterMap fun call => call.put? codec).filter (fun put => decide (put.1 = key)) = [] := by
    rw [List.filterMap_cons]
    cases puts : call.put? codec with
    | none => rfl
    | some put =>
      apply List.filter_eq_nil_iff.mpr
      intro given member
      obtain rfl := List.mem_singleton.mp member
      intro same
      exact other given.2 (by rw [puts, ← of_decide_eq_true same])
  rw [nothing, List.append_nil]

theorem latestPut_own {key : Bytes} {put : Put} (puts : call.put? codec = some (key, put)) :
    latestPut codec (calls ++ [call]) key = some put := by
  unfold latestPut
  rw [List.filterMap_append, List.filter_append]
  have own : ([call].filterMap fun call => call.put? codec).filter (fun put => decide (put.1 = key)) = [(key, put)] := by
    simp [puts]
  rw [own, List.getLast?_concat]
  rfl

/-- What holds of the entries after any calls. -/
structure Kept (codec : Codec Value) (cache : BoundedJsonCache) (calls : List (CacheCall Value))
    (entries : Dict Bytes CacheEntry) : Prop where
  unique : (entries.map Prod.fst).Nodup
  length_le : entries.length ≤ cache.maxEntries
  total_le : total entries ≤ cache.maxBytes
  latest : ∀ entry ∈ entries, ∃ put, latestPut codec calls entry.1 = some put ∧ entry.2 = put.entry
  recency : (entries.map Prod.fst).Sublist (cache.uses codec calls).dedup

theorem put?_of_get {key : Value} {maxAgeSeconds : ℚ} (gets : call.operation = .get key maxAgeSeconds) :
    call.put? codec = none := by
  unfold CacheCall.put?
  rw [gets]

theorem Kept.sublist {entries kept : Dict Bytes CacheEntry} (holds : Kept codec cache calls entries)
    (fewer : kept.Sublist entries) : Kept codec cache calls kept where
  unique := holds.unique.sublist (fewer.map Prod.fst)
  length_le := fewer.length_le.trans holds.length_le
  total_le := (BoundedJsonCache.total_le fewer).trans holds.total_le
  latest := fun entry member => holds.latest entry (fewer.subset member)
  recency := (fewer.map Prod.fst).trans holds.recency

theorem live_sublist (now : ℚ) : (cache.live now).Sublist cache.entries := List.filter_sublist

theorem Kept.unused {entries : Dict Bytes CacheEntry} (holds : Kept codec cache calls entries)
    (unused : call.used? codec ((cache.after codec calls).serve codec call).1 = none)
    (others : ∀ entry ∈ entries, ∀ put, call.put? codec ≠ some (entry.1, put)) :
    Kept codec cache (calls ++ [call]) entries where
  unique := holds.unique
  length_le := holds.length_le
  total_le := holds.total_le
  latest := by
    intro entry member
    rw [latestPut_other (others entry member)]
    exact holds.latest entry member
  recency := by
    rw [uses_concat, unused, Option.toList_none, List.append_nil]
    exact holds.recency

/-- A call that uses a key moves it to the end. -/
theorem Kept.used {entries : Dict Bytes CacheEntry} {key : Bytes} {entry : CacheEntry}
    (holds : Kept codec cache calls entries) (away : key ∉ entries.map Prod.fst)
    (used : call.used? codec ((cache.after codec calls).serve codec call).1 = some key)
    (others : ∀ entry ∈ entries, ∀ put, call.put? codec ≠ some (entry.1, put))
    (own : ∃ put, latestPut codec (calls ++ [call]) key = some put ∧ entry = put.entry)
    (room : entries.length < cache.maxEntries) (fits : total entries + entrySize (key, entry) ≤ cache.maxBytes) :
    Kept codec cache (calls ++ [call]) (entries ++ [(key, entry)]) where
  unique := by
    rw [List.map_append]
    refine List.nodup_append.mpr ⟨holds.unique, List.nodup_singleton _, ?_⟩
    intro other member last same equal
    have last_is : last = key := List.mem_singleton.mp same
    rw [equal, last_is] at member
    exact away member
  length_le := by
    rw [List.length_append]
    exact room
  total_le := by
    rw [total_append]
    exact fits
  latest := by
    intro other member
    obtain old | new := List.mem_append.mp member
    · rw [latestPut_other (others other old)]
      exact holds.latest other old
    · rw [List.mem_singleton.mp new]
      exact own
  recency := by
    rw [uses_concat, used, Option.toList_some, Recency.dedup_concat, List.map_append]
    apply List.Sublist.append _ (List.Sublist.refl _)
    have apart : (entries.map Prod.fst).filter (fun other => decide (other ≠ key)) = entries.map Prod.fst := by
      apply List.filter_eq_self.mpr
      intro other member
      apply decide_eq_true
      rintro rfl
      exact away member
    rw [← apart]
    exact holds.recency.filter _

theorem erase_sublist (entries : Dict Bytes CacheEntry) (key : Bytes) : (entries.erase key).Sublist entries :=
  List.filter_sublist

theorem erase_away {entries kept : Dict Bytes CacheEntry} {key : Bytes} (fewer : kept.Sublist (entries.erase key)) :
    key ∉ kept.map Prod.fst := by
  intro member
  obtain ⟨other, inside, same⟩ := List.mem_map.mp member
  exact of_decide_eq_true (List.mem_filter.mp (fewer.subset inside)).2 same

/-- One call keeps what holds of the entries. -/
theorem Kept.served {entries : Dict Bytes CacheEntry}
    (limits : (cache.after codec calls).maxEntries = cache.maxEntries ∧ (cache.after codec calls).maxBytes = cache.maxBytes)
    (holds : Kept codec cache calls (cache.after codec calls).entries)
    (served : Served codec (cache.after codec calls) call ((cache.after codec calls).serve codec call).1 entries) :
    Kept codec cache (calls ++ [call]) entries := by
  have lives := holds.sublist (live_sublist call.now)
  generalize result : ((cache.after codec calls).serve codec call).1 = outcome at served
  cases served with
  | cleared clears =>
    refine (holds.sublist (List.nil_sublist _)).unused ?_ (by simp)
    rw [result]
    unfold CacheCall.used?
    rw [clears]
  | kept silent unused _ same =>
    obtain rfl | rfl := same
    · exact holds.unused (result ▸ unused) (by simp [silent])
    · exact lives.unused (result ▸ unused) (by simp [silent])
  | @read key maxAgeSeconds encodedKey entry gets encoded found _ _ =>
    have silent := @put?_of_get _ codec call _ _ gets
    have perm := erase_perm lives.unique found
    refine (lives.sublist (erase_sublist _ encodedKey)).used ?_ ?_ (by simp [silent]) ?_ ?_ ?_
    · exact erase_away (List.Sublist.refl _)
    · rw [result]
      unfold CacheCall.used?
      rw [gets]
      exact encoded
    · rw [latestPut_other (by simp [silent])]
      exact lives.latest _ (Dict.mem_of_get? found)
    · have whole := perm.length_eq
      have within := lives.length_le
      rw [List.length_append, List.length_singleton] at whole
      omega
    · have whole := total_erase lives.unique found
      have within := lives.total_le
      rw [whole] at within
      exact within
  | @refused key put puts _ =>
    refine (lives.sublist (erase_sublist _ key)).unused ?_ ?_
    · rw [result]
      unfold CacheCall.used?
      cases call.operation <;> rfl
    · intro entry member other same
      rw [puts] at same
      cases same
      exact erase_away (List.Sublist.refl _) (List.mem_map_of_mem member)
  | @stored key put n puts used _ room =>
    have fewer := List.drop_sublist n (Dict.erase ((cache.after codec calls).live call.now) key)
    rw [Exceeds, limits.1, limits.2, not_or, not_le, not_lt] at room
    refine (lives.sublist (fewer.trans (erase_sublist _ key))).used (erase_away fewer) (result ▸ used) ?_ ?_ room.1 room.2
    · intro entry member other same
      rw [puts] at same
      cases same
      exact erase_away fewer (List.mem_map_of_mem member)
    · exact ⟨put, latestPut_own puts, rfl⟩

/-- The invariant of a cache that began empty. -/
theorem after_kept (empty : cache.entries = []) (zero : cache.bytes = 0) :
    (cache.after codec calls).maxEntries = cache.maxEntries ∧ (cache.after codec calls).maxBytes = cache.maxBytes ∧
      (cache.after codec calls).bytes = total (cache.after codec calls).entries ∧
      Kept codec cache calls (cache.after codec calls).entries := by
  induction calls using List.reverseRecOn with
  | nil =>
    change _ ∧ _ ∧ cache.bytes = total cache.entries ∧ Kept codec cache [] cache.entries
    rw [empty, zero]
    exact ⟨rfl, rfl, rfl, by simp, by simp, by simp [total], by simp, by simp⟩
  | append_singleton calls call ih =>
    obtain ⟨maxEntries, maxBytes, counter, holds⟩ := ih
    have exact : Exact (cache.after codec calls) := ⟨holds.unique, counter⟩
    obtain ⟨entries, served, next⟩ := exact.served call
    have kept := holds.served ⟨maxEntries, maxBytes⟩ served
    rw [after_concat, next]
    exact ⟨maxEntries, maxBytes, rfl, kept⟩

/-- A value that is returned is the one of the latest put of its key, which was stored a short time ago. -/
theorem returned_latest (holds : Kept codec cache calls (cache.after codec calls).entries)
    {key : Value} {maxAgeSeconds : ℚ} {value : Value} {entries : Dict Bytes CacheEntry}
    (gets : call.operation = .get key maxAgeSeconds)
    (served : Served codec (cache.after codec calls) call (.got (some (some value))) entries) :
    ∃ encodedKey put, codec.encode key = some encodedKey ∧ latestPut codec calls encodedKey = some put ∧
      value = codec.loads put.value ∧ encodedKey.length + put.value.length ≤ cache.maxBytes ∧
      call.now - put.now < min put.ttlSeconds maxAgeSeconds := by
  cases served with
  | kept _ _ nothing _ => exact absurd rfl (nothing value)
  | read same encoded found positive young =>
    rw [gets] at same
    cases same
    have member := Dict.mem_of_get? found
    obtain ⟨put, latest, stored⟩ := holds.latest _ (List.mem_of_mem_filter member)
    cases stored
    have lives : call.now < put.now + put.ttlSeconds := of_decide_eq_true (List.mem_filter.mp member).2
    refine ⟨_, put, encoded, latest, rfl, ?_, lt_min (by linarith) young⟩
    have one := total_erase holds.unique (Dict.get?_of_mem holds.unique (List.mem_of_mem_filter member))
    have within := holds.total_le
    change _ = _ + (_ + put.value.length) at one
    omega

/-- A live entry goes away when the cache is cleared, when its key is put, or when the put of another key would pass a
limit with it and all entries used since; the ones that stay were used since. -/
theorem dropped_why (holds : Kept codec cache calls (cache.after codec calls).entries)
    (limits : (cache.after codec calls).maxEntries = cache.maxEntries ∧ (cache.after codec calls).maxBytes = cache.maxBytes)
    {result : CacheResult Value} {entries : Dict Bytes CacheEntry}
    (served : Served codec (cache.after codec calls) call result entries) {key : Bytes} {entry : CacheEntry}
    (present : (cache.after codec calls).entries.get? key = some entry) (lives : call.now < entry.expires)
    (gone : entries.get? key = none) :
    call.operation = .clear ∨ ∃ own put, call.put? codec = some (own, put) ∧
      (own = key ∨ ∃ older younger,
        Dict.erase ((cache.after codec calls).live call.now) own = older ++ (key, entry) :: younger ∧
        Exceeds cache (own.length + put.value.length) ((key, entry) :: younger) ∧
        ∀ other, (entries.get? other).isSome → other ≠ own →
          ∃ before since, cache.uses codec calls = before ++ since ∧ key ∉ since ∧ other ∈ since) := by
  have alive : (key, entry) ∈ (cache.after codec calls).live call.now :=
    List.mem_filter.mpr ⟨Dict.mem_of_get? present, decide_eq_true lives⟩
  have stays : ∀ {kept : Dict Bytes CacheEntry}, key ∈ kept.map Prod.fst → kept.get? key ≠ none := by
    intro kept member nothing
    have some := (Dict.get?_isSome_iff kept key).mpr member
    rw [nothing] at some
    cases some
  cases served with
  | cleared clears => exact .inl clears
  | kept _ _ _ same =>
    obtain rfl | rfl := same
    · rw [present] at gone
      cases gone
    · exact absurd gone (stays (List.mem_map_of_mem alive))
  | read _ _ found _ _ =>
    have perm := erase_perm (holds.sublist (live_sublist call.now)).unique found
    exact absurd gone (stays ((perm.map Prod.fst).mem_iff.mpr (List.mem_map_of_mem alive)))
  | @refused own put puts _ =>
    refine .inr ⟨own, put, puts, ?_⟩
    by_cases same : own = key
    · exact .inl same
    · have inside : (key, entry) ∈ Dict.erase ((cache.after codec calls).live call.now) own :=
        List.mem_filter.mpr ⟨alive, decide_eq_true (Ne.symm same)⟩
      exact absurd gone (stays (List.mem_map_of_mem inside))
  | @stored own put n puts _ needed _ =>
    refine .inr ⟨own, put, puts, ?_⟩
    by_cases same : own = key
    · exact .inl same
    · right
      have inside : (key, entry) ∈ Dict.erase ((cache.after codec calls).live call.now) own :=
        List.mem_filter.mpr ⟨alive, decide_eq_true (Ne.symm same)⟩
      have ordered := (holds.sublist ((erase_sublist _ own).trans (live_sublist call.now))).recency
      generalize Dict.erase ((cache.after codec calls).live call.now) own = others at inside needed gone ordered ⊢
      obtain ⟨m, below, here⟩ := List.mem_iff_getElem.mp inside
      -- the first n entries were dropped, and the lost one is among them
      have early : m < n := by
        by_contra late
        have kept : (key, entry) ∈ others.drop n :=
          List.mem_drop_iff_getElem.mpr ⟨m - n, by omega, by simp [Nat.add_sub_cancel' (not_lt.mp late), here]⟩
        exact absurd gone (stays (List.mem_map_of_mem (List.mem_append_left _ kept)))
      have split : others.drop m = (key, entry) :: others.drop (m + 1) := by
        rw [List.drop_eq_getElem_cons below, here]
      refine ⟨others.take m, others.drop (m + 1), ?_, ?_, ?_⟩
      · rw [← split, List.take_append_drop]
      · have full := needed m early
        rw [split] at full
        unfold Exceeds at full ⊢
        rwa [limits.1, limits.2] at full
      · intro other held apart
        apply Recency.unused_since
        refine List.Sublist.trans ?_ ordered
        obtain ⟨found, member, rfl⟩ := List.mem_map.mp ((Dict.get?_isSome_iff _ other).mp held)
        obtain member | last := List.mem_append.mp member
        · have tail : [(key, entry), found].Sublist (others.drop m) := by
            rw [split]
            apply List.Sublist.cons_cons
            apply List.singleton_sublist.mpr
            exact (List.drop_sublist_drop_left others (by omega)).subset member
          exact (tail.trans (List.drop_sublist m others)).map Prod.fst
        · rw [List.mem_singleton.mp last] at apart
          exact absurd rfl apart

end Runs

/-- After any calls the counter is the one of the entries and the limits hold. A value that is returned is the one of the
latest put of its key that reached the entries, which fitted and is young enough. A live entry goes away when the cache is
cleared, when its key is put, or when it stands in the way of another key, the least recently used ones first. -/
theorem memoryCache_exact {Value : Type} (codec : Codec Value) (maxEntries maxBytes : Nat)
    (positive : 0 < maxEntries ∧ 0 < maxBytes) (calls : List (CacheCall Value)) :
    let start := new maxEntries maxBytes positive
    let cache := start.after codec calls
    (cache.bytes = total cache.entries ∧ total cache.entries ≤ maxBytes ∧ cache.entries.length ≤ maxEntries) ∧
    ∀ call : CacheCall Value,
      (∀ key maxAgeSeconds value, call.operation = .get key maxAgeSeconds →
        (cache.serve codec call).1 = .got (some (some value)) →
        ∃ encodedKey put, codec.encode key = some encodedKey ∧ latestPut codec calls encodedKey = some put ∧
          value = codec.loads put.value ∧ encodedKey.length + put.value.length ≤ maxBytes ∧
          call.now - put.now < min put.ttlSeconds maxAgeSeconds) ∧
      ∀ key entry, cache.entries.get? key = some entry → call.now < entry.expires →
        (cache.serve codec call).2.entries.get? key = none →
        call.operation = .clear ∨ ∃ own put, call.put? codec = some (own, put) ∧
          (own = key ∨ ∃ older younger, Dict.erase (cache.live call.now) own = older ++ (key, entry) :: younger ∧
            Exceeds start (own.length + put.value.length) ((key, entry) :: younger) ∧
            ∀ other, ((cache.serve codec call).2.entries.get? other).isSome → other ≠ own →
              ∃ before since, start.uses codec calls = before ++ since ∧ key ∉ since ∧ other ∈ since) := by
  intro start cache
  obtain ⟨entriesLimit, bytesLimit, counter, holds⟩ :=
    @after_kept Value codec start calls rfl rfl
  refine ⟨⟨counter, holds.total_le, holds.length_le⟩, fun call => ?_⟩
  have exact : Exact cache := ⟨holds.unique, counter⟩
  obtain ⟨entries, served, next⟩ := exact.served call
  constructor
  · intro key maxAgeSeconds value gets returned
    rw [returned] at served
    exact returned_latest holds gets served
  · intro key entry present lives gone
    rw [next] at gone ⊢
    exact dropped_why holds ⟨entriesLimit, bytesLimit⟩ served present lives gone

section Examples

/-- Single digits as JSON. -/
def digits : Codec (Fin 10) where
  encode digit := some [UInt8.ofNat (48 + digit.val)]
  loads bytes := Fin.ofNat 10 ((bytes.headD 48).toNat - 48)

theorem digits_returned :
    (((new 2 100 (by decide)).after digits [⟨0, .put 1 2 10⟩, ⟨1, .put 1 3 0⟩]).serve digits ⟨2, .get 1 10⟩).1 =
      .got (some (some 2)) := by
  simp [after, Transition.trace, serve, put, get, digits, expire, new, remove, Dict.get?, makeRoom, Dict.set, moveToEnd]
  decide +kernel

/-- A put that may not be retained leaves the value of an earlier one. -/
theorem get_after_zero_ttl :
    ∃ value, (((new 2 100 (by decide)).after digits [⟨0, .put 1 2 10⟩, ⟨1, .put 1 3 0⟩]).serve digits ⟨2, .get 1 10⟩).1 =
      .got (some (some value)) ∧ value ≠ digits.loads [51] := by
  exact ⟨2, digits_returned, by decide⟩

/-- The value of the only put that reached the entries. -/
theorem get_digit :
    ∃ encodedKey put, digits.encode 1 = some encodedKey ∧
      latestPut digits [⟨0, .put 1 2 10⟩, ⟨1, .put 1 3 0⟩] encodedKey = some put ∧ digits.loads put.value = 2 := by
  obtain ⟨encodedKey, put, encoded, latest, same, _⟩ :=
    ((memoryCache_exact digits 2 100 (by decide) [⟨0, .put 1 2 10⟩, ⟨1, .put 1 3 0⟩]).2 ⟨2, .get 1 10⟩).1 1 10 2 rfl
      digits_returned
  exact ⟨encodedKey, put, encoded, latest, same.symm⟩

end Examples

end BoundedJsonCache

end MarketSentinel.Mdd
