import MarketSentinel.Leaderboard.Reopen
import MarketSentinel.Leaderboard.Scan

/-! Interrupted scans against the durable store.

A resumed scan knows the saved cursor and count, and nothing else of the pages
before it. Its decisions are compared with those of one uninterrupted scan.
-/

set_option autoImplicit false

namespace MarketSentinel.Leaderboard

open Python

/-- The page budget of one scan. -/
def maximumPages : Nat := 100000

section Disk

variable (runtime : Runtime) (serialized : Text) (scanLimit : Option Nat) (source : Request → Except Text Json)

def normalizedRows (scanned : Nat) (page : PageData) : Except Text (List Row) :=
  page.rows.zipIdx.mapM fun (row, index) => normalizePolymarketLeaderboardRow runtime row (scanned + index + 1)

/-- The page callback of a disk-backed scan. -/
def savePage (t : Tables) (s : ScanState) (page : PageData) : Tables × Except Text Bool :=
  match normalizedRows runtime s.scanned page with
  | .error message => (t, .error message)
  | .ok rows => recordPage runtime t s.pageIndex page.limit rows 2 s.cursor page.nextCursor

/-- The completion reason of saved progress. -/
def Progress.reason (state : Progress) : CompletionReason :=
  if state.stopReason = endOfResults then .endOfResults
  else if state.stopReason = repeatedPage then .repeatedPage
  else .scanLimitReached

/-- One run of the command: open the database, prepare it and scan from its progress. -/
def runDiskBacked (resume : Bool) (isCancelled : Nat → Bool) (saved : Option Tables) : Tables × Outcome :=
  match openStore runtime.casing runtime.rounding saved with
  | .error _ => (saved.getD .empty, .raised)
  | .ok t =>
    match prepare t ⟨serialized, true⟩ resume with
    | (t, .error _) => (t, .raised)
    | (t, .ok ()) =>
      let state := t.progress
      if state.scanComplete = false ∧ scanLimit.all (fun limit => decide (state.scanned < limit)) then
        (scanLeaderboardV2 runtime scanLimit isCancelled (fun _ => source) (savePage runtime) maximumPages
          state.scanned state.nextOffset state.nextCursor t).2
      else (t, .completed state.reason)

/-- An interrupted run is resumed; every other end is the end of the scan. -/
def afterRun (resume : Tables → Tables × Outcome) : Tables × Outcome → Tables × Outcome
  | (t, .completed .cancelled) => resume t
  | ended => ended

/-- Resume after each interruption; the last run is not interrupted. -/
def resumeRuns : List (Nat → Bool) → Tables → Tables × Outcome
  | [], t => runDiskBacked runtime serialized scanLimit source true (fun _ => false) (some t)
  | isCancelled :: rest, t =>
    afterRun (resumeRuns rest) (runDiskBacked runtime serialized scanLimit source true isCancelled (some t))

/-- A scan on a new database, interrupted where the tests say. -/
def interruptedScan : List (Nat → Bool) → Tables × Outcome
  | [] => runDiskBacked runtime serialized scanLimit source false (fun _ => false) none
  | isCancelled :: rest =>
    afterRun (resumeRuns runtime serialized scanLimit source rest)
      (runDiskBacked runtime serialized scanLimit source false isCancelled none)

def uninterruptedScan : Tables × Outcome := interruptedScan runtime serialized scanLimit source []

/-- The same committed pages and rows, and the same completion reason. -/
def SameScan (first second : Tables × Outcome) : Prop :=
  first.1.pages = second.1.pages ∧ first.1.rows = second.1.rows ∧ first.2 = second.2

instance (first second : Tables × Outcome) : Decidable (SameScan first second) :=
  inferInstanceAs (Decidable (_ ∧ _ ∧ _))

/-! ## What a page is, whatever the scanner remembers -/

/-- A well formed page with its fingerprints. -/
def inspect (payload : Json) : Except Text Examined := do
  let envelope ← readEnvelope payload
  let page ← readRows runtime envelope
  let fingerprint ← fingerprintOf runtime page.rows
  let membership ← membershipOf runtime page.rows
  return ⟨page, fingerprint, membership, false⟩

/-- The next cursor of the page was visited. -/
def ScanState.revisits (s : ScanState) (page : PageData) : Bool :=
  page.nextCursor.any fun cursor => decide (cursor ∈ s.visitedCursors)

/-- The page or its membership was observed. -/
def ScanState.recognizes (s : ScanState) (examined : Examined) : Bool :=
  decide (examined.page.rows ≠ [] ∧ (examined.fingerprint ∈ s.fingerprints ∨
    examined.membership ∈ s.memberships ∨
    ∀ wallet ∈ pageWallets runtime examined.page.rows, wallet ∈ s.observedWallets))

theorem readRows_page {envelope : Envelope} {page : PageData} (read : readRows runtime envelope = .ok page) :
    page.rows = envelope.rows ∧ page.nextCursor = envelope.nextCursor ∧
      1 ≤ page.limit ∧ page.limit ≤ 1000 ∧ page.rows.length ≤ page.limit ∧
      ∀ row ∈ page.rows, ∃ fields, sourceLeaderboardFields runtime.casing runtime.rounding row 2 = .ok fields := by
  unfold readRows at read
  split at read
  · split at read
    · rename_i limit _ bounds
      obtain ⟨_, checked, rest⟩ := Result.bind_eq_ok.mp read
      cases rest
      refine ⟨rfl, rfl, ?_, ?_, ?_, fun row member => ?_⟩
      · dsimp only
        omega
      · dsimp only
        omega
      · dsimp only
        omega
      · obtain ⟨fields, valid, _⟩ := Result.bind_eq_ok.mp (Result.forM_eq_ok.mp checked row member)
        exact ⟨fields, valid⟩
    · cases read
  · cases read

/-- The scanner's check of a page: its form first, then the memory. -/
theorem examine_eq (s : ScanState) (payload : Json) :
    examine runtime s payload = (match readEnvelope payload with
      | .error message => .error message
      | .ok envelope =>
        if (envelope.nextCursor.any fun cursor => decide (cursor ∈ s.visitedCursors)) = true then
          .error (text "Leaderboard v2 repeated a cursor; no page was committed.")
        else (inspect runtime payload).map fun examined =>
          { examined with repeated := s.recognizes runtime examined }) := by
  unfold examine inspect
  cases readEnvelope payload with
  | error message => rfl
  | ok envelope =>
    simp only [bind, Except.bind]
    split
    · rfl
    · cases readRows runtime envelope with
      | error message => rfl
      | ok page =>
        simp only
        cases fingerprintOf runtime page.rows with
        | error message => rfl
        | ok fingerprint =>
          simp only
          cases membershipOf runtime page.rows <;> rfl

theorem inspect_ok {payload : Json} {examined : Examined} (inspected : inspect runtime payload = .ok examined) :
    ∃ envelope, readEnvelope payload = .ok envelope ∧ readRows runtime envelope = .ok examined.page ∧
      examined.repeated = false := by
  unfold inspect at inspected
  obtain ⟨envelope, read, rest⟩ := Result.bind_eq_ok.mp inspected
  obtain ⟨page, rows, rest⟩ := Result.bind_eq_ok.mp rest
  obtain ⟨fingerprint, _, rest⟩ := Result.bind_eq_ok.mp rest
  obtain ⟨membership, _, rest⟩ := Result.bind_eq_ok.mp rest
  cases rest
  exact ⟨envelope, read, rows, rfl⟩

theorem examine_error {s : ScanState} {payload : Json} {message : Text}
    (inspected : inspect runtime payload = .error message) : ∃ other, examine runtime s payload = .error other := by
  rw [examine_eq]
  cases readEnvelope payload with
  | error message => exact ⟨message, rfl⟩
  | ok envelope =>
    simp only [inspected]
    split
    · exact ⟨_, rfl⟩
    · exact ⟨message, rfl⟩

theorem examine_ok {s : ScanState} {payload : Json} {examined : Examined}
    (inspected : inspect runtime payload = .ok examined) :
    examine runtime s payload =
      if s.revisits examined.page then .error (text "Leaderboard v2 repeated a cursor; no page was committed.")
      else .ok { examined with repeated := s.recognizes runtime examined } := by
  obtain ⟨envelope, read, rows, _⟩ := inspect_ok runtime inspected
  rw [examine_eq, read]
  simp only [inspected, ScanState.revisits, (readRows_page runtime rows).2.1]
  split <;> rfl

/-- One page of the loop, with the memory consulted last. -/
theorem scanLoop_succ (isCancelled : Nat → Bool) (fuel : Nat) (s : ScanState) (t : Tables) :
    scanLoop runtime scanLimit isCancelled (fun _ => source) (savePage runtime) (fuel + 1) s t =
      if s.limitReached scanLimit then (s, t, .completed .scanLimitReached)
      else if isCancelled s.pageIndex then (s, t, .completed .cancelled)
      else
        match source (s.request scanLimit) >>= inspect runtime with
        | .error _ => (s, t, .raised)
        | .ok examined =>
          if s.revisits examined.page then (s, t, .raised)
          else if s.recognizes runtime examined then (s, t, .completed .repeatedPage)
          else
            match savePage runtime t s examined.page with
            | (t, .error _) => (s, t, .raised)
            | (t, .ok false) => (s, t, .completed .repeatedPage)
            | (t, .ok true) =>
              if examined.page.nextCursor = none then (s.advance runtime examined, t, .completed .endOfResults)
              else scanLoop runtime scanLimit isCancelled (fun _ => source) (savePage runtime) fuel
                (s.advance runtime examined) t := by
  rw [scanLoop]
  split
  · rfl
  · split
    · rfl
    · cases source (s.request scanLimit) with
      | error message => rfl
      | ok payload =>
        simp only [bind, Except.bind]
        cases inspected : inspect runtime payload with
        | error message =>
          obtain ⟨other, failed⟩ := examine_error runtime (s := s) inspected
          rw [failed]
        | ok examined =>
          rw [examine_ok runtime inspected]
          by_cases visited : s.revisits examined.page
          · simp only [visited, if_true]
          · rw [if_neg visited]
            dsimp only
            rw [if_neg visited]
            split
            · rfl
            · obtain ⟨next, result⟩ := savePage runtime t s examined.page
              cases result with
              | error message => rfl
              | ok kept => cases kept <;> rfl

end Disk

/-! ## The memory of a resumed scan -/

section Memory

variable (runtime : Runtime)

def lastCursor (seen : List Examined) : Option Text := seen.getLast?.bind fun examined => examined.page.nextCursor

def rowTotal (seen : List Examined) : Nat := (seen.map fun examined => examined.page.rows.length).sum

/-- The memory a scan starts with after these pages. -/
def startAfter (seen : List Examined) : ScanState :=
  { scanned := rowTotal seen, pageIndex := seen.length, cursor := lastCursor seen
    visitedCursors := (lastCursor seen).toList }

/-- The memory after these pages of a scan that was resumed after the first `start` of them. -/
def memoryFrom (start : Nat) (seen : List Examined) : ScanState :=
  (seen.drop start).foldl (ScanState.advance runtime) (startAfter (seen.take start))

/-- A board that may have another page after these. -/
def Open (seen : List Examined) : Prop := seen = [] ∨ lastCursor seen ≠ none

instance (seen : List Examined) : Decidable (Open seen) := inferInstanceAs (Decidable (_ ∨ _))

variable {runtime} {start : Nat} {seen : List Examined} {examined : Examined}

@[simp] theorem lastCursor_concat (seen : List Examined) (examined : Examined) :
    lastCursor (seen ++ [examined]) = examined.page.nextCursor := by
  simp [lastCursor]

@[simp] theorem rowTotal_concat (seen : List Examined) (examined : Examined) :
    rowTotal (seen ++ [examined]) = rowTotal seen + examined.page.rows.length := by
  simp [rowTotal]

theorem memoryFrom_concat (within : start ≤ seen.length) :
    memoryFrom runtime start (seen ++ [examined]) = (memoryFrom runtime start seen).advance runtime examined := by
  unfold memoryFrom
  rw [List.drop_append_of_le_length within, List.take_append_of_le_length within, List.foldl_append]
  rfl

theorem memoryFrom_length (seen : List Examined) : memoryFrom runtime seen.length seen = startAfter seen := by
  unfold memoryFrom
  rw [List.drop_length, List.take_length]
  rfl

/-- Induction on the pages since a scan was resumed. -/
@[elab_as_elim]
theorem since_induction {motive : (seen : List Examined) → start ≤ seen.length → Prop}
    (resumed : ∀ seen (here : start = seen.length), motive seen here.le)
    (page : ∀ seen examined (reached : start ≤ seen.length), motive seen reached →
      motive (seen ++ [examined]) (by rw [List.length_append]; omega))
    (seen : List Examined) (within : start ≤ seen.length) : motive seen within := by
  induction seen using List.reverseRecOn with
  | nil => exact resumed [] (Nat.le_zero.mp within)
  | append_singleton seen examined ih =>
    have length : (seen ++ [examined]).length = seen.length + 1 := by simp
    by_cases reached : start ≤ seen.length
    · exact page seen examined reached (ih reached)
    · exact resumed _ (by omega)

variable (runtime) in
theorem memoryFrom_progress (within : start ≤ seen.length) :
    (memoryFrom runtime start seen).scanned = rowTotal seen ∧
      (memoryFrom runtime start seen).pageIndex = seen.length ∧
      (memoryFrom runtime start seen).cursor = lastCursor seen := by
  induction seen, within using since_induction with
  | resumed seen here =>
    subst here
    rw [memoryFrom_length]
    exact ⟨rfl, rfl, rfl⟩
  | page seen examined reached ih =>
    rw [memoryFrom_concat reached]
    simp [ScanState.advance, ih.1, ih.2.1]

/-- A memory that knows at most as much. -/
structure ScanState.Within (less more : ScanState) : Prop where
  fingerprints : less.fingerprints ⊆ more.fingerprints
  memberships : less.memberships ⊆ more.memberships
  wallets : less.observedWallets ⊆ more.observedWallets
  cursors : less.visitedCursors ⊆ more.visitedCursors

theorem append_within {α : Type} {less more : List α} (within : less ⊆ more) (last : List α) :
    less ++ last ⊆ more ++ last :=
  List.append_subset.mpr ⟨List.subset_append_of_subset_left last within, List.subset_append_right more last⟩

theorem ScanState.Within.advance {less more : ScanState} (within : less.Within more) (examined : Examined) :
    (less.advance runtime examined).Within (more.advance runtime examined) where
  fingerprints := append_within within.fingerprints _
  memberships := by
    unfold ScanState.advance
    dsimp only
    split
    · exact within.memberships
    · exact append_within within.memberships _
  wallets := append_within within.wallets _
  cursors := append_within within.cursors _

theorem ScanState.Within.recognizes {less more : ScanState} (within : less.Within more)
    (known : less.recognizes runtime examined = true) : more.recognizes runtime examined = true := by
  unfold ScanState.recognizes at known ⊢
  obtain ⟨some_, why⟩ := of_decide_eq_true known
  refine decide_eq_true ⟨some_, ?_⟩
  rcases why with same | same | observed
  · exact Or.inl (within.fingerprints same)
  · exact Or.inr (Or.inl (within.memberships same))
  · exact Or.inr (Or.inr fun wallet member => within.wallets (observed wallet member))

theorem ScanState.revisits_iff {s : ScanState} {page : PageData} :
    s.revisits page = true ↔ ∃ cursor, page.nextCursor = some cursor ∧ cursor ∈ s.visitedCursors := by
  unfold ScanState.revisits
  cases page.nextCursor <;> simp

theorem ScanState.Within.revisits {less more : ScanState} (within : less.Within more) {page : PageData}
    (visited : less.revisits page = true) : more.revisits page = true := by
  obtain ⟨cursor, next, member⟩ := ScanState.revisits_iff.mp visited
  exact ScanState.revisits_iff.mpr ⟨cursor, next, within.cursors member⟩

variable (runtime) in
/-- An uninterrupted scan has visited every next cursor. -/
theorem memory_visited (seen : List Examined) :
    (memoryFrom runtime 0 seen).visitedCursors = seen.filterMap fun examined => examined.page.nextCursor := by
  have within := Nat.zero_le seen.length
  induction seen, within using since_induction with
  | resumed seen here =>
    rw [List.length_eq_zero_iff.mp here.symm]
    rfl
  | page seen examined reached ih =>
    rw [memoryFrom_concat reached, List.filterMap_append, ← ih]
    cases cursor : examined.page.nextCursor <;> simp [ScanState.advance, cursor]

variable (runtime) in
theorem memory_within (within : start ≤ seen.length) :
    (memoryFrom runtime start seen).Within (memoryFrom runtime 0 seen) := by
  induction seen, within using since_induction with
  | resumed seen here =>
    subst here
    rw [memoryFrom_length]
    refine ⟨List.nil_subset _, List.nil_subset _, List.nil_subset _, fun cursor member => ?_⟩
    rw [memory_visited runtime]
    obtain ⟨examined, last, next⟩ := Option.bind_eq_some_iff.mp (Option.mem_toList.mp member)
    exact List.mem_filterMap.mpr ⟨examined, List.mem_of_getLast? last, next⟩
  | page seen examined reached ih =>
    rw [memoryFrom_concat reached, memoryFrom_concat (Nat.zero_le _)]
    exact ih.advance examined

theorem memory_request (scanLimit : Option Nat) (within : start ≤ seen.length) :
    (memoryFrom runtime start seen).request scanLimit = (memoryFrom runtime 0 seen).request scanLimit := by
  obtain ⟨scanned, _, cursor⟩ := memoryFrom_progress runtime within
  obtain ⟨scanned', _, cursor'⟩ := memoryFrom_progress runtime (Nat.zero_le seen.length)
  unfold ScanState.request
  rw [scanned, cursor, scanned', cursor']

theorem memory_limit (scanLimit : Option Nat) (within : start ≤ seen.length) :
    (memoryFrom runtime start seen).limitReached scanLimit =
      (memoryFrom runtime 0 seen).limitReached scanLimit := by
  unfold ScanState.limitReached
  rw [(memoryFrom_progress runtime within).1, (memoryFrom_progress runtime (Nat.zero_le _)).1]

theorem memory_save (t : Tables) (page : PageData) (within : start ≤ seen.length) :
    savePage runtime t (memoryFrom runtime start seen) page = savePage runtime t (memoryFrom runtime 0 seen) page := by
  obtain ⟨scanned, index, cursor⟩ := memoryFrom_progress runtime within
  obtain ⟨scanned', index', cursor'⟩ := memoryFrom_progress runtime (Nat.zero_le seen.length)
  unfold savePage
  rw [scanned, index, cursor, scanned', index', cursor']

end Memory

/-! ## Examined rows pass the store -/

section Rows

variable {runtime : Runtime}

theorem number_nonnegative {rounding : FloatRounding} {value : Json} {field : String} {integer : Bool} {q : ℚ}
    (read : number rounding value field true integer = .ok q) : 0 ≤ q := by
  unfold number at read
  split at read
  · cases read
  · split at read
    · cases read
    · rename_i valid
      cases read
      by_contra negative
      exact valid (Or.inl ⟨rfl, not_le.mp negative⟩)

theorem numericAlias_nonnegative {rounding : FloatRounding} {row : Row} {keys : List Text} {field : String}
    {required integer : Bool} {q : ℚ}
    (read : numericAlias rounding row keys field required true integer = .ok (some q)) : 0 ≤ q := by
  unfold numericAlias at read
  dsimp only at read
  generalize (if required then aliasValues row keys
    else (aliasValues row keys).filter fun value => decide (value ≠ .null)) = values at read
  cases values with
  | nil => cases required <;> cases read
  | cons value rest =>
    obtain ⟨first, found, tail⟩ := Result.bind_eq_ok.mp read
    obtain ⟨others, _, same⟩ := Result.bind_eq_ok.mp tail
    split at same
    · cases same
      exact number_nonnegative found
    · cases same

/-- The drawdowns and the volume of a source row are not negative, and its wallet is normal. -/
theorem sourceFields_normal {casing : Casing} {rounding : FloatRounding} {raw : Json} {fields : SourceFields}
    (read : sourceLeaderboardFields casing rounding raw 2 = .ok fields) :
    0 ≤ fields.volume ∧ (∀ value ∈ fields.mddUsd, 0 ≤ value) ∧ (∀ value ∈ fields.mddPct, 0 ≤ value) ∧
      ∃ given, normalizeWallet casing given = some fields.wallet := by
  unfold sourceLeaderboardFields at read
  split at read
  · rename_i row
    obtain ⟨wallet, identity, rest⟩ := Result.bind_eq_ok.mp read
    obtain ⟨pnl, _, rest⟩ := Result.bind_eq_ok.mp rest
    obtain ⟨volume, shares, rest⟩ := Result.bind_eq_ok.mp rest
    split at rest
    · cases rest
    obtain ⟨rank, _, rest⟩ := Result.bind_eq_ok.mp rest
    split at rest
    · cases rest
    obtain ⟨trades, _, rest⟩ := Result.bind_eq_ok.mp rest
    obtain ⟨mddUsd, usd, rest⟩ := Result.bind_eq_ok.mp rest
    obtain ⟨mddPct, pct, rest⟩ := Result.bind_eq_ok.mp rest
    cases rest
    refine ⟨?_, ?_, ?_, ?_⟩
    · unfold requiredAlias at shares
      obtain ⟨found, alias_, rest⟩ := Result.bind_eq_ok.mp shares
      cases found with
      | none => cases rest
      | some value =>
        cases rest
        exact numericAlias_nonnegative alias_
    · rintro value rfl
      exact numericAlias_nonnegative usd
    · rintro value rfl
      exact numericAlias_nonnegative pct
    · unfold sourceWallet at identity
      dsimp only at identity
      split at identity
      · rename_i first others shape
        split at identity
        · cases identity
          have member : some wallet ∈ some wallet :: others := List.mem_cons_self
          rw [← shape] at member
          obtain ⟨value, _, normal⟩ := List.mem_map.mp member
          cases value <;> first | cases normal | exact ⟨_, normal⟩
        · cases identity
      · cases identity
  · cases read

theorem number_finite {rounding : FloatRounding} {q : ℚ} {field : String} {nonnegative : Bool}
    (sign : nonnegative = true → 0 ≤ q) :
    number rounding (.float (.finite q)) field nonnegative false = .ok q := by
  unfold number floatValue
  refine if_neg ?_
  rintro (⟨given, negative⟩ | ⟨impossible, _⟩)
  · exact not_lt.mpr (sign given) negative
  · cases impossible

theorem storedWallet_of_normal {casing : Casing} {row : Row} {given wallet : Text} (held : row.read "wallet" = .str given)
    (normal : normalizeWallet casing (casing.lower (strip given)) = some wallet) : storedWallet casing row = .ok wallet := by
  unfold storedWallet
  simp only [held, normal]

/-- Normalizing a row of a well formed page gives a row the store accepts. -/
theorem normalize_native {raw : Json} {fields : SourceFields} (rank : Nat) (version : rawVersion raw = 2)
    (read : sourceLeaderboardFields runtime.casing runtime.rounding raw 2 = .ok fields) :
    ∃ row, normalizePolymarketLeaderboardRow runtime raw rank = .ok row ∧ row.read "raw" = raw ∧
      validateStoredLeaderboardRow runtime.casing runtime.rounding row = .ok () ∧ row.Converts runtime := by
  obtain ⟨document, rfl⟩ : ∃ document, raw = .obj document := by
    cases raw <;> simp [rawVersion] at version
    exact ⟨_, rfl⟩
  obtain ⟨volume, mddUsd, mddPct, given, normal⟩ := sourceFields_normal read
  have again : normalizeWallet runtime.casing fields.wallet = some fields.wallet := by
    have once := normalizeWallet_again normal
    unfold normalizeWallet at normal
    split at normal
    · rw [← Option.some.inj normal] at once ⊢
      exact once
    · cases normal
  have column : ∀ value : Option ℚ, (∀ number ∈ value, 0 ≤ number) → checkDrawdown runtime.rounding
      ((value.map fun number => Json.float (.finite number)).getD .null) = .ok () := by
    rintro (_ | number) sign
    · rfl
    · exact checkDrawdown_finite (sign number rfl)
  unfold normalizePolymarketLeaderboardRow
  simp only [version, read, bind, Except.bind, show ¬((2 : Nat) = 1 ∧ 0 < fields.volume) by simp, if_false]
  refine ⟨_, rfl, rfl, @native_validate _ _ _ document fields
    ⟨rfl, version, read, ?_, number_finite (by simp), number_finite fun _ => volume, rfl, rfl, ?_, ?_⟩ ?_, ?_⟩
  · exact storedWallet_of_normal rfl (normalizeWallet_again again)
  · exact column fields.mddUsd mddUsd
  · exact column fields.mddPct mddPct
  · intro value given
    exact (Option.some.inj given).symm
  · -- Both numbers are floats already.
    intro key named t spelled
    rcases List.mem_pair.mp named with rfl | rfl <;> cases spelled

theorem rawVersion_of_userId {row : Json} {value : Json} (read : userId row = .ok value) : rawVersion row = 2 := by
  unfold userId at read
  split at read
  · rename_i fields
    cases found : Dict.get? fields (text "user_id") with
    | none => simp [found] at read
    | some value => simp [rawVersion, found]
  · cases read

/-- The rows of a well formed page normalize to native rows the store accepts. -/
theorem inspect_rows {payload : Json} {examined : Examined} (inspected : inspect runtime payload = .ok examined)
    (scanned : Nat) :
    ∃ rows, normalizedRows runtime scanned examined.page = .ok rows ∧ rows.length = examined.page.rows.length ∧
      ∀ row ∈ rows, rawVersion (row.read "raw") = 2 ∧
        validateStoredLeaderboardRow runtime.casing runtime.rounding row = .ok () ∧ row.Converts runtime := by
  unfold inspect at inspected
  obtain ⟨envelope, _, rest⟩ := Result.bind_eq_ok.mp inspected
  obtain ⟨page, read, rest⟩ := Result.bind_eq_ok.mp rest
  obtain ⟨fingerprint, _, rest⟩ := Result.bind_eq_ok.mp rest
  obtain ⟨membership, members, rest⟩ := Result.bind_eq_ok.mp rest
  cases rest
  obtain ⟨_, _, _, _, _, valid⟩ := readRows_page runtime read
  obtain ⟨identities, named, _⟩ := Result.bind_eq_ok.mp members
  obtain ⟨rows, normal, each⟩ := Result.mapM_ok_of_forall (l := page.rows.zipIdx)
    (f := fun entry => normalizePolymarketLeaderboardRow runtime entry.1 (scanned + entry.2 + 1))
    (motive := fun row => rawVersion (row.read "raw") = 2 ∧
      validateStoredLeaderboardRow runtime.casing runtime.rounding row = .ok () ∧ row.Converts runtime) (by
      rintro ⟨raw, index⟩ member
      have among : raw ∈ page.rows := by
        obtain ⟨_, _, at_⟩ := List.mem_zipIdx member
        rw [at_]
        exact List.getElem_mem _
      obtain ⟨fields, read⟩ := valid raw among
      obtain ⟨value, identity⟩ := Result.forall_of_mapM_ok named raw among
      obtain ⟨row, normal, source, passed⟩ :=
        normalize_native (scanned + index + 1) (rawVersion_of_userId identity) read
      exact ⟨row, normal, source ▸ rawVersion_of_userId identity, passed⟩)
  refine ⟨rows, normal, ?_, each⟩
  rw [Result.mapM_length normal, List.length_zipIdx]

end Rows

/-! ## What the store does with a new page -/

section Store

variable {runtime : Runtime}

/-- The store's own test for a page it has under another ordinal. -/
def savedBefore (runtime : Runtime) (t : Tables) (rows : List Row) : Bool :=
  decide (rows ≠ []) && t.pages.any fun page => decide (page.fingerprint = runtime.pageDigest rows) ||
    decide (walletMembershipFingerprint runtime rows ≠ [] ∧
      page.walletFingerprint = walletMembershipFingerprint runtime rows)

/-- A cursor the store can hold. -/
def storable (cursor : Option Text) : Bool := validCursor? cursor && cursor.all encodable

theorem admitCursorPage_encodable {t : Tables} {pageOffset : Nat} {rows : List Row}
    {sourceCursor nextCursor : Option Text}
    (passed : admitCursorPage t pageOffset rows sourceCursor nextCursor = .ok ()) :
    nextCursor.all encodable = true := by
  unfold admitCursorPage at passed
  dsimp only at passed
  iterate 7
    split at passed
    · cases passed
  split at passed
  · cases passed
  · rename_i held
    exact (not_not.mp held).2

/-- What saving a new page can do. -/
inductive Saving (runtime : Runtime) (t : Tables) (pageOffset pageLimit : Nat) (rows : List Row)
    (sourceCursor nextCursor : Option Text) : Tables × Except Text Bool → Prop where
  | refused (message : Text)
      (why : admitCursorPage t pageOffset rows sourceCursor nextCursor = .ok () → savedBefore runtime t rows = false) :
      Saving runtime t pageOffset pageLimit rows sourceCursor nextCursor (t, .error message)
  | repeated (metadata : Metadata)
      (admitted : admitCursorPage t pageOffset rows sourceCursor nextCursor = .ok ())
      (known : savedBefore runtime t rows = true) :
      Saving runtime t pageOffset pageLimit rows sourceCursor nextCursor ({ t with metadata := metadata }, .ok false)
  | committed (kept : List StoredRow)
      (admitted : admitCursorPage t pageOffset rows sourceCursor nextCursor = .ok ())
      (new : savedBefore runtime t rows = false) :
      Saving runtime t pageOffset pageLimit rows sourceCursor nextCursor
        ({ metadata := { t.metadata with
            scanComplete := some (decide (nextCursor = none))
            stopReason := some (if decide (nextCursor = none) then endOfResults else [])
            sourceApiVersion := some 2
            v2NextCursor := some nextCursor
            v2NextPage := some (pageOffset + 1) }
           pages := t.pages ++ [⟨pageOffset, pageLimit, rows.length, runtime.pageDigest rows,
            walletMembershipFingerprint runtime rows, 2, sourceCursor, nextCursor⟩]
           rows := kept }, .ok true)

theorem recordPage_saving {t : Tables} {pageOffset pageLimit : Nat} {rows : List Row}
    {sourceCursor nextCursor : Option Text} (bounds : 1 ≤ pageLimit ∧ pageLimit ≤ 1000 ∧ rows.length ≤ pageLimit)
    (valid : ∀ row ∈ rows, validateStoredLeaderboardRow runtime.casing runtime.rounding row = .ok ())
    (new : ∀ page ∈ t.pages, page.pageOffset ≠ pageOffset) :
    Saving runtime t pageOffset pageLimit rows sourceCursor nextCursor
      (recordPage runtime t pageOffset pageLimit rows 2 sourceCursor nextCursor) := by
  have passed : (rows.forM fun row => validateStoredLeaderboardRow runtime.casing runtime.rounding row) = .ok () :=
    Result.forM_eq_ok.mpr valid
  have absent : (t.pages.find? fun page => decide (page.pageOffset = pageOffset)) = none :=
    List.find?_eq_none.mpr fun page member same => new page member (of_decide_eq_true same)
  have limit_ : (max 1 (pageLimit : Int)).toNat = pageLimit := by omega
  unfold recordPage
  rw [if_neg (by omega), passed]
  dsimp only
  rw [limit_, Int.toNat_natCast]
  unfold commitPage
  simp only [absent, admitPage, if_true]
  cases admitted : admitCursorPage t pageOffset rows sourceCursor nextCursor with
  | error message => exact .refused message (by simp [admitted])
  | ok done =>
    simp only [ne_eq, not_true_eq_false, and_false, if_false, bind, Except.bind]
    split
    · rename_i duplicate found
      split at found
      · cases found
      rename_i some_
      refine .repeated _ admitted ?_
      have shared := List.find?_some found
      rw [Bool.and_eq_true] at shared
      simp only [savedBefore, ne_eq, some_, not_false_eq_true, decide_true, Bool.true_and, List.any_eq_true]
      exact ⟨duplicate, List.mem_of_find?_eq_some found, shared.2⟩
    · rename_i missing
      have unknown : savedBefore runtime t rows = false := by
        split at missing
        · rename_i empty
          simp [savedBefore, empty]
        · refine Bool.and_eq_false_imp.mpr fun _ => List.any_eq_false.mpr fun page member shared => ?_
          have other := List.find?_eq_none.mp missing page member
          exact other (Bool.and_eq_true_iff.mpr ⟨decide_eq_true (new page member), shared⟩)
      cases rows.zipIdx.mapM fun entry => bindRow runtime pageOffset entry.2 entry.1 with
      | error message => exact .refused message fun _ => unknown
      | ok bound => exact .committed _ admitted unknown

theorem Chain.last_valid {history : List Recorded} (chain : Chain runtime history) :
    validCursor? (lastNext history) = true := by
  cases chain with
  | nil => rfl
  | snoc chain continues =>
    rw [lastNext_concat]
    exact continues.cursors.2

/-- The next cursors of a chain are the consumed ones and the last. -/
theorem Chain.mem_nexts {history : List Recorded} (chain : Chain runtime history) (cursor : Text) :
    cursor ∈ history.filterMap Recorded.nextCursor ↔ cursor ∈ sources history ∨ lastNext history = some cursor := by
  induction chain with
  | nil => simp [sources, lastNext]
  | @snoc history r chain continues ih =>
    have own : cursor ∈ [r].filterMap Recorded.nextCursor ↔ r.nextCursor = some cursor := by simp
    rw [List.filterMap_append, List.mem_append, ih, own, sources_concat, List.mem_append, lastNext_concat,
      continues.source, Option.mem_toList]

/-- The tables that a scan of these pages leaves. -/
structure Holds (runtime : Runtime) (serialized : Text) (seen : List Examined) (t : Tables) : Prop where
  sound : ∃ history, Sound runtime ⟨t, history⟩ ∧
    (history.map Recorded.nextCursor = seen.map fun examined => examined.page.nextCursor) ∧
    (history.map fun r => r.rows.length) = seen.map fun examined => examined.page.rows.length
  version : t.metadata.sourceApiVersion = some 2
  signature : t.metadata.signature = some serialized
  complete : t.metadata.scanComplete = some (decide ¬Open seen)
  encodable : (lastCursor seen).all encodable = true

variable {serialized : Text} {seen : List Examined} {t : Tables}

theorem Holds.start (runtime : Runtime) (serialized : Text) :
    prepare .empty ⟨serialized, true⟩ false = ((prepare .empty ⟨serialized, true⟩ false).1, .ok ()) ∧
      Holds runtime serialized [] (prepare .empty ⟨serialized, true⟩ false).1 := by
  have start : World.Start runtime ⟨.empty, []⟩ := ⟨rfl, rfl⟩
  refine ⟨rfl, ⟨[], ?_, rfl, rfl⟩, rfl, rfl, rfl, rfl⟩
  exact prepare_sound (start_sound start) ⟨serialized, true⟩ false rfl

theorem lastNext_eq {history : List Recorded}
    (nexts : history.map Recorded.nextCursor = seen.map fun examined => examined.page.nextCursor) :
    lastNext history = lastCursor seen := by
  have last := congrArg List.getLast? nexts
  rw [List.getLast?_map, List.getLast?_map] at last
  unfold lastNext lastCursor
  cases there : history.getLast? with
  | none =>
    rw [there, Option.map_none, eq_comm, Option.map_eq_none_iff] at last
    rw [last]
    rfl
  | some r =>
    rw [there, Option.map_some, eq_comm, Option.map_eq_some_iff] at last
    obtain ⟨examined, here, same⟩ := last
    rw [here]
    exact same.symm

/-- Opening the database and preparing it again changes nothing. -/
theorem Holds.reopened (holds : Holds runtime serialized seen t) :
    openStore runtime.casing runtime.rounding (some t) = .ok t ∧ prepare t ⟨serialized, true⟩ true = (t, .ok ()) := by
  obtain ⟨history, sound, _, _⟩ := holds.sound
  refine ⟨sound.opens.mpr fun _ => by simp [holds.complete], ?_⟩
  unfold prepare
  have same : t.metadata.signature.getD [] = serialized := by simp [holds.signature]
  by_cases unnamed : serialized = []
  · have again : { t with metadata := { t.metadata with signature := some serialized } } = t := by
      rw [← holds.signature]
    simp [same, unnamed, holds.version, transaction, bind, Except.bind, pure, Except.pure] at again ⊢
    exact again
  · simp [same, unnamed, holds.version, transaction, bind, Except.bind, pure, Except.pure]

theorem Holds.progress (holds : Holds runtime serialized seen t) :
    t.progress.scanned = rowTotal seen ∧ t.progress.nextOffset = seen.length ∧
      t.progress.nextCursor = lastCursor seen ∧ t.progress.scanComplete = decide ¬Open seen := by
  obtain ⟨history, sound, nexts, counts⟩ := holds.sound
  have length : history.length = seen.length := by simpa using congrArg List.length nexts
  refine ⟨?_, ?_, ?_, ?_⟩
  · change (t.pages.map Page.rowCount).sum = _
    rw [show t.pages = history.map (Recorded.page runtime) from sound.pages, List.map_map]
    exact congrArg List.sum counts
  · simp only [Tables.progress, holds.version, if_true]
    rw [show t.metadata.v2NextPage.getD 0 = history.length from sound.describes.page, length]
  · simp only [Tables.progress]
    rw [show t.metadata.v2NextCursor = some (lastNext history) from sound.describes.cursor holds.version,
      lastNext_eq nexts]
    rfl
  · simp only [Tables.progress, holds.complete]
    by_cases goes : Open seen <;> simp [goes]

theorem consumed_iff {history : List Recorded} (cursor : Text) :
    consumed (history.map (Recorded.page runtime)) cursor = true ↔ cursor ∈ sources history := by
  unfold consumed sources
  rw [List.any_map, List.any_eq_true, List.mem_filterMap]
  refine exists_congr fun r => and_congr_right fun _ => ?_
  exact ⟨fun used => (of_decide_eq_true used).2, fun used => decide_eq_true ⟨rfl, used⟩⟩

/-- A new page is admitted when its next cursor is new and can be held. -/
theorem Holds.admits (holds : Holds runtime serialized seen t) (goes : Open seen) {rows : List Row}
    {nextCursor : Option Text} (native : ∀ row ∈ rows, rawVersion (row.read "raw") = 2) :
    admitCursorPage t seen.length rows (lastCursor seen) nextCursor = .ok () ↔
      storable nextCursor = true ∧
        ∀ cursor, nextCursor = some cursor → cursor ∉ seen.filterMap fun examined => examined.page.nextCursor := by
  obtain ⟨history, sound, nexts, _⟩ := holds.sound
  have pages : t.pages = history.map (Recorded.page runtime) := sound.pages
  have chain : Chain runtime history := sound.chain
  have last := lastNext_eq nexts
  have visited : ∀ cursor, cursor ∈ (seen.filterMap fun examined => examined.page.nextCursor) ↔
      cursor ∈ sources history ∨ lastNext history = some cursor := by
    intro cursor
    rw [← chain.mem_nexts]
    have same := congrArg (List.filterMap id) nexts
    rw [List.filterMap_map, List.filterMap_map] at same
    exact (congrArg (cursor ∈ ·) same.symm).to_iff
  have fresh : ∀ cursor, (some cursor ≠ lastCursor seen ∧ consumed t.pages cursor = false) ↔
      cursor ∉ seen.filterMap fun examined => examined.page.nextCursor := by
    intro cursor
    rw [visited, not_or, ← last, pages, ← Bool.not_eq_true, consumed_iff, eq_comm, and_comm]
  constructor
  · intro passed
    have admitted := admitCursorPage_ok passed
    exact ⟨Bool.and_eq_true_iff.mpr ⟨admitted.cursors.2, admitCursorPage_encodable passed⟩,
      fun cursor next => (fresh cursor).mp (admitted.fresh cursor next)⟩
  · rintro ⟨held, new⟩
    obtain ⟨valid, encodes⟩ := Bool.and_eq_true_iff.mp held
    have source : validCursor? (lastCursor seen) = true := last ▸ chain.last_valid
    have next : t.metadata.v2NextCursor = some (lastCursor seen) := last ▸ sound.describes.cursor holds.version
    have ordinal : seen.length = t.metadata.v2NextPage.getD 0 := by
      rw [show t.metadata.v2NextPage.getD 0 = history.length from sound.describes.page]
      simpa using (congrArg List.length nexts).symm
    have running : t.metadata.scanComplete ≠ some true := by simp [holds.complete, goes]
    have unused : ¬((lastCursor seen).any (consumed t.pages)) = true := by
      rw [Option.any_eq_true]
      rintro ⟨cursor, there, used⟩
      rw [pages, consumed_iff] at used
      exact chain.last_fresh (last.trans there) used
    have unseen : ¬(nextCursor.any fun cursor => decide (some cursor = lastCursor seen) || consumed t.pages cursor) = true := by
      rw [Option.any_eq_true]
      rintro ⟨cursor, there, used⟩
      obtain ⟨other, free⟩ := (fresh cursor).mpr (new cursor there)
      simp [other, free] at used
    unfold admitCursorPage
    simp only [source, valid, Bool.true_eq_false, or_self, if_false, not_true_eq_false, ordinal, ne_eq,
      holds.version, Option.some.injEq, OfNat.ofNat_ne_one, next, Option.any_some, decide_false, reduceCtorEq,
      false_and, running, and_false, holds.encodable, encodes, and_self, unused, unseen]
    rw [if_neg (by simpa [List.all_eq_true] using native)]

theorem Holds.fresh_ordinal (holds : Holds runtime serialized seen t) :
    ∀ page ∈ t.pages, page.pageOffset ≠ seen.length := by
  obtain ⟨history, sound, nexts, _⟩ := holds.sound
  have pages : t.pages = history.map (Recorded.page runtime) := sound.pages
  have chain : Chain runtime history := sound.chain
  intro page member
  rw [pages] at member
  obtain ⟨r, among, rfl⟩ := List.mem_map.mp member
  have before := chain.ordinal_lt among
  have length : history.length = seen.length := by simpa using congrArg List.length nexts
  change r.ordinal ≠ seen.length
  omega

/-- Saving the next page of a scan, by cases. -/
theorem Holds.saves (holds : Holds runtime serialized seen t) {payload : Json} {examined : Examined}
    (inspected : inspect runtime payload = .ok examined) :
    ∃ rows, normalizedRows runtime (rowTotal seen) examined.page = .ok rows ∧
      (∀ row ∈ rows, rawVersion (row.read "raw") = 2) ∧ (∀ row ∈ rows, row.Converts runtime) ∧
      rows.length = examined.page.rows.length ∧
      savePage runtime t (memoryFrom runtime 0 seen) examined.page =
        recordPage runtime t seen.length examined.page.limit rows 2 (lastCursor seen) examined.page.nextCursor ∧
      Saving runtime t seen.length examined.page.limit rows (lastCursor seen) examined.page.nextCursor
        (savePage runtime t (memoryFrom runtime 0 seen) examined.page) := by
  obtain ⟨rows, normal, length, each⟩ := inspect_rows inspected (rowTotal seen)
  obtain ⟨envelope, _, read, _⟩ := inspect_ok runtime inspected
  obtain ⟨_, _, low, high, fits, _⟩ := readRows_page runtime read
  obtain ⟨scanned, index, cursor⟩ := memoryFrom_progress runtime (Nat.zero_le seen.length)
  have saved : savePage runtime t (memoryFrom runtime 0 seen) examined.page =
      recordPage runtime t seen.length examined.page.limit rows 2 (lastCursor seen) examined.page.nextCursor := by
    unfold savePage
    rw [scanned, index, cursor, normal]
  refine ⟨rows, normal, fun row member => (each row member).1, fun row member => (each row member).2.2, length, saved, ?_⟩
  rw [saved]
  exact recordPage_saving ⟨low, high, length ▸ fits⟩ (fun row member => (each row member).2.1) holds.fresh_ordinal

theorem Holds.commit (holds : Holds runtime serialized seen t) {payload : Json} {examined : Examined} {next : Tables}
    (inspected : inspect runtime payload = .ok examined)
    (saved : savePage runtime t (memoryFrom runtime 0 seen) examined.page = (next, .ok true)) :
    Holds runtime serialized (seen ++ [examined]) next ∧ next.pages ≠ t.pages := by
  obtain ⟨rows, _, _, converts, length, same, saving⟩ := holds.saves inspected
  obtain ⟨history, sound, nexts, counts⟩ := holds.sound
  have after := record_sound sound seen.length examined.page.limit rows (lastCursor seen) examined.page.nextCursor
    converts
  rw [saved] at saving
  cases saving with
  | committed kept admitted new =>
    have grown := congrArg Prod.fst (same.symm.trans saved)
    unfold World.record at after
    rw [grown] at after
    dsimp only at after
    have longer : ∀ page, ¬t.pages ++ [page] = t.pages := by simp
    rw [if_neg (longer _)] at after
    refine ⟨⟨⟨_, after, ?_, ?_⟩, rfl, holds.signature, ?_, ?_⟩, by simp⟩
    · simp [nexts]
    · simp [counts, length]
    · simp [Open]
    · rw [lastCursor_concat]
      exact admitCursorPage_encodable admitted

end Store

end MarketSentinel.Leaderboard
