import MarketSentinel.Leaderboard.Resume

/-! Interrupted scans commit what one scan commits, where the source allows it.

Every run of a session follows the uninterrupted scan page by page; only the page
at which that scan stops can be decided differently by a scan that was resumed.
-/

set_option autoImplicit false

namespace MarketSentinel.Leaderboard

open Python

section Sessions

variable (runtime : Runtime) (serialized : Text) (scanLimit : Option Nat) (source : Request → Except Text Json)

def freshTables : Tables := (prepare .empty ⟨serialized, true⟩ false).1

/-- What the source answers after these pages. -/
def nextPage (seen : List Examined) : Except Text Examined :=
  source ((memoryFrom runtime 0 seen).request scanLimit) >>= inspect runtime

def atLimit (seen : List Examined) : Bool := (memoryFrom runtime 0 seen).limitReached scanLimit

/-- The pages and tables that the uninterrupted scan goes through. -/
inductive Commits : List Examined → Tables → Prop where
  | start : Commits [] (freshTables serialized)
  | page {seen : List Examined} {t next : Tables} {examined : Examined} (before : Commits seen t) (goes : Open seen)
      (below : atLimit runtime scanLimit seen = false) (budget : seen.length < maximumPages)
      (answer : nextPage runtime scanLimit source seen = .ok examined)
      (cursor : (memoryFrom runtime 0 seen).revisits examined.page = false)
      (new : (memoryFrom runtime 0 seen).recognizes runtime examined = false)
      (saved : savePage runtime t (memoryFrom runtime 0 seen) examined.page = (next, .ok true)) :
      Commits (seen ++ [examined]) next

/-- No resumed scan takes the page for one it observed, unless it refuses its cursor. -/
def Unrecognized (seen : List Examined) (examined : Examined) : Prop :=
  ∀ start, 1 ≤ start → start ≤ seen.length → (memoryFrom runtime start seen).revisits examined.page = true ∨
    (memoryFrom runtime start seen).recognizes runtime examined = false

/-- The sources on which a resumed scan decides as the uninterrupted one.

A page of observed wallets is one the store has saved before, under a cursor it can hold;
a page that leads back to an old cursor, or that follows the page budget, is not taken
for an observed one by a scan that saw fewer pages. -/
structure Resumable : Prop where
  refreshed : ∀ seen t examined rows, Commits runtime serialized scanLimit source seen t → Open seen →
    atLimit runtime scanLimit seen = false → seen.length < maximumPages →
    nextPage runtime scanLimit source seen = .ok examined →
    (memoryFrom runtime 0 seen).revisits examined.page = false →
    (memoryFrom runtime 0 seen).recognizes runtime examined = true →
    normalizedRows runtime (rowTotal seen) examined.page = .ok rows →
    storable examined.page.nextCursor = true ∧ savedBefore runtime t rows = true
  cycled : ∀ seen t examined, Commits runtime serialized scanLimit source seen t → Open seen →
    atLimit runtime scanLimit seen = false → seen.length < maximumPages →
    nextPage runtime scanLimit source seen = .ok examined →
    (memoryFrom runtime 0 seen).revisits examined.page = true → Unrecognized runtime seen examined
  budget : ∀ seen t, Commits runtime serialized scanLimit source seen t → Open seen →
    seen.length = maximumPages → atLimit runtime scanLimit seen = false ∧
      ∀ examined, nextPage runtime scanLimit source seen = .ok examined → Unrecognized runtime seen examined ∧
        ((memoryFrom runtime 0 seen).revisits examined.page = true ∨
          ∃ message, savePage runtime t (memoryFrom runtime 0 seen) examined.page = (t, .error message))

/-- The tables and the outcome of a scan that was resumed after `start` of these pages. -/
def scanFrom (fuel : Nat) (isCancelled : Nat → Bool) (start : Nat) (seen : List Examined) (t : Tables) :
    Tables × Outcome :=
  (scanLoop runtime scanLimit isCancelled (fun _ => source) (savePage runtime) fuel (memoryFrom runtime start seen) t).2

def never (_ : Nat) : Bool := false

variable {runtime serialized scanLimit source} {start fuel : Nat} {seen : List Examined} {t next : Tables}
  {examined : Examined} {isCancelled : Nat → Bool}

theorem scanFrom_zero : scanFrom runtime scanLimit source 0 isCancelled start seen t = (t, .raised) := rfl

/-- One page of a resumed scan: only its cursors and its observed pages are its own. -/
theorem scanFrom_succ (within : start ≤ seen.length) :
    scanFrom runtime scanLimit source (fuel + 1) isCancelled start seen t =
      if atLimit runtime scanLimit seen then (t, .completed .scanLimitReached)
      else if isCancelled seen.length then (t, .completed .cancelled)
      else
        match nextPage runtime scanLimit source seen with
        | .error _ => (t, .raised)
        | .ok examined =>
          if (memoryFrom runtime start seen).revisits examined.page then (t, .raised)
          else if (memoryFrom runtime start seen).recognizes runtime examined then (t, .completed .repeatedPage)
          else
            match savePage runtime t (memoryFrom runtime 0 seen) examined.page with
            | (t, .error _) => (t, .raised)
            | (t, .ok false) => (t, .completed .repeatedPage)
            | (t, .ok true) =>
              if examined.page.nextCursor = none then (t, .completed .endOfResults)
              else scanFrom runtime scanLimit source fuel isCancelled start (seen ++ [examined]) t := by
  unfold scanFrom nextPage atLimit
  rw [scanLoop_succ, memory_limit scanLimit within, memory_request scanLimit within,
    (memoryFrom_progress runtime within).2.1]
  split
  · rfl
  · split
    · rfl
    · cases source ((memoryFrom runtime 0 seen).request scanLimit) >>= inspect runtime with
      | error message => rfl
      | ok examined =>
        dsimp only
        rw [memory_save t examined.page within, memoryFrom_concat within]
        split
        · rfl
        · split
          · rfl
          · obtain ⟨after, result⟩ := savePage runtime t (memoryFrom runtime 0 seen) examined.page
            cases result with
            | error message => rfl
            | ok kept =>
              cases kept with
              | false => rfl
              | true =>
                dsimp only
                split <;> rfl

theorem Commits.holds (commits : Commits runtime serialized scanLimit source seen t) :
    Holds runtime serialized seen t := by
  induction commits with
  | start => exact (Holds.start runtime serialized).2
  | page before goes below budget answer cursor new saved ih =>
    obtain ⟨payload, _, inspected⟩ := Result.bind_eq_ok.mp answer
    exact (ih.commit inspected saved).1

theorem open_concat : Open (seen ++ [examined]) ↔ examined.page.nextCursor ≠ none := by
  simp [Open]

/-- A resumed scan also commits a page that the uninterrupted scan commits. -/
theorem scanFrom_page (within : start ≤ seen.length) (below : atLimit runtime scanLimit seen = false)
    (answer : nextPage runtime scanLimit source seen = .ok examined)
    (cursor : (memoryFrom runtime 0 seen).revisits examined.page = false)
    (new : (memoryFrom runtime 0 seen).recognizes runtime examined = false)
    (saved : savePage runtime t (memoryFrom runtime 0 seen) examined.page = (next, .ok true))
    (goes : Open (seen ++ [examined])) (running : isCancelled seen.length = false) :
    scanFrom runtime scanLimit source (fuel + 1) isCancelled start seen t =
      scanFrom runtime scanLimit source fuel isCancelled start (seen ++ [examined]) next := by
  have less := memory_within runtime within
  have unvisited : (memoryFrom runtime start seen).revisits examined.page = false := by
    rw [← Bool.not_eq_true] at cursor ⊢
    exact fun visited => cursor (less.revisits visited)
  have unknown : (memoryFrom runtime start seen).recognizes runtime examined = false := by
    rw [← Bool.not_eq_true] at new ⊢
    exact fun known => new (less.recognizes known)
  rw [scanFrom_succ within]
  simp only [below, running, answer, unvisited, unknown, saved, open_concat.mp goes, Bool.false_eq_true, if_false]

/-- A scan that was resumed on the way reaches every later place of the uninterrupted scan. -/
theorem Commits.reaches (commits : Commits runtime serialized scanLimit source seen t) (goes : Open seen)
    (within : start ≤ seen.length) :
    ∃ before, Commits runtime serialized scanLimit source (seen.take start) before ∧ Open (seen.take start) ∧
      (start < seen.length → atLimit runtime scanLimit (seen.take start) = false) ∧
      ∀ fuel isCancelled, (∀ k, start ≤ k → k < seen.length → isCancelled k = false) →
        scanFrom runtime scanLimit source (fuel + (seen.length - start)) isCancelled start (seen.take start) before =
          scanFrom runtime scanLimit source fuel isCancelled start seen t := by
  induction commits with
  | start =>
    rw [Nat.le_zero.mp within]
    exact ⟨_, .start, goes, by simp, fun _ _ _ => rfl⟩
  | @page seen t next examined before open_ below budget answer cursor new saved ih =>
    have length : (seen ++ [examined]).length = seen.length + 1 := by simp
    by_cases inside : start ≤ seen.length
    · obtain ⟨first, commits, starts, unlimited, follows⟩ := ih open_ inside
      rw [List.take_append_of_le_length inside]
      refine ⟨first, commits, starts, fun _ => ?_, fun fuel isCancelled running => ?_⟩
      · rcases Nat.lt_or_ge start seen.length with earlier | here
        · exact unlimited earlier
        · rw [List.take_of_length_le here]
          exact below
      · rw [show fuel + ((seen ++ [examined]).length - start) = (fuel + 1) + (seen.length - start) by omega,
          follows (fuel + 1) isCancelled fun k low high => running k low (by omega)]
        exact scanFrom_page inside below answer cursor new saved goes (running seen.length inside (by omega))
    · have whole : start = (seen ++ [examined]).length := by omega
      rw [whole, List.take_length]
      refine ⟨next, .page before open_ below budget answer cursor new saved, goes, fun less => ?_, fun fuel _ _ => ?_⟩
      · exact absurd less (Nat.lt_irrefl _)
      · rw [Nat.sub_self, Nat.add_zero]

/-- Saving a page that leads back to a visited cursor fails. -/
theorem Commits.refuses_visited (commits : Commits runtime serialized scanLimit source seen t) (goes : Open seen)
    (answer : nextPage runtime scanLimit source seen = .ok examined)
    (visited : (memoryFrom runtime 0 seen).revisits examined.page = true) :
    ∃ message, savePage runtime t (memoryFrom runtime 0 seen) examined.page = (t, .error message) := by
  obtain ⟨payload, _, inspected⟩ := Result.bind_eq_ok.mp answer
  obtain ⟨rows, _, native, _, _, _, saving⟩ := commits.holds.saves inspected
  obtain ⟨cursor, there, member⟩ := ScanState.revisits_iff.mp visited
  rw [memory_visited runtime] at member
  have refused : admitCursorPage t seen.length rows (lastCursor seen) examined.page.nextCursor ≠ .ok () :=
    fun passed => ((commits.holds.admits goes native).mp passed).2 cursor there member
  cases outcome : savePage runtime t (memoryFrom runtime 0 seen) examined.page with
  | mk after result =>
    rw [outcome] at saving
    cases saving with
    | refused message why => exact ⟨message, rfl⟩
    | repeated metadata admitted known => exact absurd admitted refused
    | committed kept admitted new => exact absurd admitted refused

/-- A page that both the source and the store have shown before ends a resumed scan as well. -/
theorem Commits.repeats (commits : Commits runtime serialized scanLimit source seen t) (goes : Open seen)
    (answer : nextPage runtime scanLimit source seen = .ok examined)
    (cursor : (memoryFrom runtime 0 seen).revisits examined.page = false)
    (known : ∀ rows, normalizedRows runtime (rowTotal seen) examined.page = .ok rows →
      storable examined.page.nextCursor = true ∧ savedBefore runtime t rows = true) :
    ∃ metadata, savePage runtime t (memoryFrom runtime 0 seen) examined.page =
      ({ t with metadata := metadata }, .ok false) := by
  obtain ⟨payload, _, inspected⟩ := Result.bind_eq_ok.mp answer
  obtain ⟨rows, normal, native, _, _, _, saving⟩ := commits.holds.saves inspected
  obtain ⟨held, saved⟩ := known rows normal
  have admitted : admitCursorPage t seen.length rows (lastCursor seen) examined.page.nextCursor = .ok () := by
    refine (commits.holds.admits goes native).mpr ⟨held, fun next there member => ?_⟩
    rw [← memory_visited runtime] at member
    exact Bool.false_ne_true (cursor.symm.trans (ScanState.revisits_iff.mpr ⟨next, there, member⟩))
  cases outcome : savePage runtime t (memoryFrom runtime 0 seen) examined.page with
  | mk after result =>
    rw [outcome] at saving
    cases saving with
    | refused message why => exact absurd saved (by simp [why admitted])
    | repeated metadata admitted known => exact ⟨metadata, rfl⟩
    | committed kept admitted new => exact absurd saved (by simp [new])

theorem SameScan.refl (scan : Tables × Outcome) : SameScan scan scan := ⟨rfl, rfl, rfl⟩

theorem SameScan.trans {first second third : Tables × Outcome} (left : SameScan first second)
    (right : SameScan second third) : SameScan first third :=
  ⟨left.1.trans right.1, left.2.1.trans right.2.1, left.2.2.trans right.2.2⟩

/-- How one run of a session ends: where it was interrupted, at a place of the uninterrupted
scan; otherwise as the uninterrupted scan ends. -/
inductive RunEnds (runtime : Runtime) (serialized : Text) (scanLimit : Option Nat)
    (source : Request → Except Text Json) (isCancelled : Nat → Bool) (expected : Tables × Outcome) :
    Tables × Outcome → Prop where
  | interrupted {seen : List Examined} {t : Tables} (commits : Commits runtime serialized scanLimit source seen t)
      (goes : Open seen) (below : atLimit runtime scanLimit seen = false)
      (asked : isCancelled seen.length = true) :
      RunEnds runtime serialized scanLimit source isCancelled expected (t, .completed .cancelled)
  | ended {result : Tables × Outcome} (same : SameScan result expected)
      (final : result.2 ≠ .completed .cancelled) :
      RunEnds runtime serialized scanLimit source isCancelled expected result

/-- Every run of a session on a resumable source ends as the uninterrupted scan, or is cut. -/
theorem Resumable.run_ends (resumable : Resumable runtime serialized scanLimit source)
    (commits : Commits runtime serialized scanLimit source seen t) (goes : Open seen) (within : start ≤ seen.length)
    (rest : seen.length + fuel = maximumPages) :
    RunEnds runtime serialized scanLimit source isCancelled
      (scanFrom runtime scanLimit source fuel never 0 seen t)
      (scanFrom runtime scanLimit source (fuel + start) isCancelled start seen t) := by
  induction fuel generalizing seen t with
  | zero =>
    -- The uninterrupted scan is out of pages; a resumed one has pages left.
    rw [scanFrom_zero]
    cases start with
    | zero => exact .ended ⟨rfl, rfl, rfl⟩ (by simp [scanFrom_zero])
    | succ start =>
      obtain ⟨below, after⟩ := resumable.budget seen t commits goes rest
      rw [Nat.zero_add, scanFrom_succ within, below]
      by_cases asked : isCancelled seen.length
      · simp only [asked, Bool.false_eq_true, if_false, if_true]
        exact .interrupted commits goes below asked
      · simp only [asked, Bool.false_eq_true, if_false]
        cases answer : nextPage runtime scanLimit source seen with
        | error message => exact .ended ⟨rfl, rfl, rfl⟩ (by simp)
        | ok examined =>
          obtain ⟨unrecognized, refused⟩ := after examined answer
          dsimp only
          split
          · exact .ended ⟨rfl, rfl, rfl⟩ (by simp)
          · rename_i unvisited
            have unknown := (unrecognized (start + 1) (Nat.succ_le_succ (Nat.zero_le start)) within).resolve_left unvisited
            rw [if_neg (by simp [unknown])]
            obtain ⟨message, failed⟩ := refused.elim (commits.refuses_visited goes answer) id
            rw [failed]
            exact .ended ⟨rfl, rfl, rfl⟩ (by simp)
  | succ fuel ih =>
    have budget : seen.length < maximumPages := by omega
    rw [show fuel + 1 + start = fuel + start + 1 by omega, scanFrom_succ within, scanFrom_succ (Nat.zero_le _)]
    by_cases limit : atLimit runtime scanLimit seen = true
    · simp only [limit, if_true]
      exact .ended ⟨rfl, rfl, rfl⟩ (by simp)
    have below : atLimit runtime scanLimit seen = false := Bool.not_eq_true _ ▸ limit
    simp only [below, never, Bool.false_eq_true, if_false]
    by_cases asked : isCancelled seen.length = true
    · rw [if_pos asked]
      exact .interrupted commits goes below asked
    rw [if_neg asked]
    cases answer : nextPage runtime scanLimit source seen with
    | error message => exact .ended ⟨rfl, rfl, rfl⟩ (by simp)
    | ok examined =>
      dsimp only
      have less := memory_within runtime within
      by_cases visited : (memoryFrom runtime 0 seen).revisits examined.page = true
      · -- The uninterrupted scan refuses the cursor; a resumed scan or the store does.
        rw [if_pos visited]
        split
        · exact .ended ⟨rfl, rfl, rfl⟩ (by simp)
        · rename_i unvisited
          have later : 1 ≤ start := by
            by_contra early
            rw [Nat.lt_one_iff.mp (not_le.mp early)] at unvisited
            exact unvisited visited
          have unknown := (resumable.cycled seen t examined commits goes below budget answer visited start later
            within).resolve_left unvisited
          obtain ⟨message, failed⟩ := commits.refuses_visited goes answer visited
          rw [if_neg (by simp [unknown]), failed]
          exact .ended ⟨rfl, rfl, rfl⟩ (by simp)
      · rw [if_neg visited, if_neg fun early => visited (less.revisits early)]
        have cursor : (memoryFrom runtime 0 seen).revisits examined.page = false := Bool.not_eq_true _ ▸ visited
        by_cases known : (memoryFrom runtime 0 seen).recognizes runtime examined = true
        · -- The uninterrupted scan takes the page for a repeated one; otherwise the store does.
          rw [if_pos known]
          split
          · exact .ended ⟨rfl, rfl, rfl⟩ (by simp)
          · obtain ⟨metadata, repeated⟩ := commits.repeats goes answer cursor fun rows normal =>
              resumable.refreshed seen t examined rows commits goes below budget answer cursor known normal
            rw [repeated]
            exact .ended ⟨rfl, rfl, rfl⟩ (by simp)
        · have new : (memoryFrom runtime 0 seen).recognizes runtime examined = false := Bool.not_eq_true _ ▸ known
          rw [if_neg known, if_neg fun early => known (less.recognizes early)]
          cases outcome : savePage runtime t (memoryFrom runtime 0 seen) examined.page with
          | mk next result =>
            cases result with
            | error message => exact .ended ⟨rfl, rfl, rfl⟩ (by simp)
            | ok kept =>
              cases kept with
              | false => exact .ended ⟨rfl, rfl, rfl⟩ (by simp)
              | true =>
                dsimp only
                by_cases last : examined.page.nextCursor = none
                · rw [if_pos last, if_pos last]
                  exact .ended ⟨rfl, rfl, rfl⟩ (by simp)
                · rw [if_neg last, if_neg last]
                  exact ih (.page commits goes below budget answer cursor new outcome) (open_concat.mpr last)
                    (by rw [List.length_append]; omega) (by rw [List.length_append, List.length_singleton]; omega)

theorem memoryFrom_startAfter (commits : Commits runtime serialized scanLimit source seen t) :
    ({ scanned := t.progress.scanned, pageIndex := t.progress.nextOffset, cursor := t.progress.nextCursor
       visitedCursors := t.progress.nextCursor.toList } : ScanState) = memoryFrom runtime seen.length seen := by
  obtain ⟨scanned, offset, cursor, _⟩ := commits.holds.progress
  rw [memoryFrom_length, scanned, offset, cursor]
  rfl

/-- A run that starts from the progress of a place scans on from that place. -/
theorem Commits.scans (commits : Commits runtime serialized scanLimit source seen t) (goes : Open seen) :
    (scanLeaderboardV2 runtime scanLimit isCancelled (fun _ => source) (savePage runtime) maximumPages
      t.progress.scanned t.progress.nextOffset t.progress.nextCursor t).2 =
      scanFrom runtime scanLimit source maximumPages isCancelled seen.length seen t := by
  obtain ⟨scanned, offset, cursor, _⟩ := commits.holds.progress
  have continues : ¬((t.progress.nextOffset ≠ 0 ∨ t.progress.scanned ≠ 0) ∧ t.progress.nextCursor = none) := by
    rw [scanned, offset, cursor]
    rintro ⟨begun, none_⟩
    rcases goes with rfl | more
    · simp [rowTotal] at begun
    · exact more none_
  unfold scanLeaderboardV2
  dsimp only
  rw [if_neg continues, memoryFrom_startAfter commits]
  rfl

theorem Commits.unfinished (commits : Commits runtime serialized scanLimit source seen t) (goes : Open seen) :
    (t.progress.scanComplete = false ∧ (scanLimit.all fun limit => decide (t.progress.scanned < limit)) = true) ↔
      atLimit runtime scanLimit seen = false := by
  obtain ⟨scanned, _, _, complete⟩ := commits.holds.progress
  unfold atLimit ScanState.limitReached
  rw [complete, scanned, (memoryFrom_progress runtime (Nat.zero_le seen.length)).1]
  cases scanLimit <;> simp [goes]

/-- A resumed run. -/
theorem Commits.resumes (commits : Commits runtime serialized scanLimit source seen t) (goes : Open seen)
    (below : atLimit runtime scanLimit seen = false) :
    runDiskBacked runtime serialized scanLimit source true isCancelled (some t) =
      scanFrom runtime scanLimit source maximumPages isCancelled seen.length seen t := by
  obtain ⟨opened, prepared⟩ := commits.holds.reopened
  unfold runDiskBacked
  simp only [opened, prepared]
  rw [if_pos ((commits.unfinished goes).mpr below)]
  exact commits.scans goes

/-- The first run. -/
theorem starts (below : atLimit runtime scanLimit [] = false) :
    runDiskBacked runtime serialized scanLimit source false isCancelled none =
      scanFrom runtime scanLimit source maximumPages isCancelled 0 [] (freshTables serialized) := by
  have commits : Commits runtime serialized scanLimit source [] (freshTables serialized) := .start
  have prepared : prepare .empty ⟨serialized, true⟩ false = (freshTables serialized, .ok ()) := rfl
  unfold runDiskBacked openStore
  simp only [prepared]
  rw [if_pos ((commits.unfinished (Or.inl rfl)).mpr below)]
  exact commits.scans (Or.inl rfl)

/-- With a reached limit nothing is scanned. -/
theorem starts_limited (limit : atLimit runtime scanLimit [] = true) :
    runDiskBacked runtime serialized scanLimit source false isCancelled none =
      (freshTables serialized, .completed .scanLimitReached) := by
  have commits : Commits runtime serialized scanLimit source [] (freshTables serialized) := .start
  have prepared : prepare .empty ⟨serialized, true⟩ false = (freshTables serialized, .ok ()) := rfl
  unfold runDiskBacked openStore
  simp only [prepared]
  rw [if_neg fun more => Bool.false_ne_true (((commits.unfinished (Or.inl rfl)).mp more).symm.trans limit)]
  rfl

/-- From every place on the way, the uninterrupted scan ends as it does from the start. -/
theorem Commits.continues (commits : Commits runtime serialized scanLimit source seen t) (goes : Open seen)
    (budget : seen.length ≤ maximumPages) :
    scanFrom runtime scanLimit source maximumPages never 0 [] (freshTables serialized) =
      scanFrom runtime scanLimit source (maximumPages - seen.length) never 0 seen t := by
  obtain ⟨before, first, _, _, follows⟩ := commits.reaches goes (Nat.zero_le seen.length)
  rw [List.take_zero] at first follows
  have own : before = freshTables serialized := by
    generalize empty : ([] : List Examined) = none_ at first
    cases first with
    | start => rfl
    | page => simp at empty
  rw [← own, ← follows (maximumPages - seen.length) never fun _ _ _ => rfl]
  congr 1
  omega

theorem Commits.budget (commits : Commits runtime serialized scanLimit source seen t) : seen.length ≤ maximumPages := by
  cases commits with
  | start => exact Nat.zero_le _
  | page before goes below budget => rw [List.length_append, List.length_singleton]; omega

/-- How a run ends that starts at a place of the uninterrupted scan. -/
theorem Resumable.run_after (resumable : Resumable runtime serialized scanLimit source) (isCancelled : Nat → Bool)
    (commits : Commits runtime serialized scanLimit source seen t) (goes : Open seen) :
    RunEnds runtime serialized scanLimit source isCancelled
      (scanFrom runtime scanLimit source maximumPages never 0 [] (freshTables serialized))
      (scanFrom runtime scanLimit source maximumPages isCancelled seen.length seen t) := by
  have ends : RunEnds runtime serialized scanLimit source isCancelled _ _ :=
    resumable.run_ends commits goes (Nat.le_refl _) (Nat.add_sub_of_le commits.budget)
  rwa [← commits.continues goes commits.budget, Nat.sub_add_cancel commits.budget] at ends

/-- A session goes on from an interrupted run. -/
theorem RunEnds.after {expected result : Tables × Outcome} {resume : Tables → Tables × Outcome}
    (ends : RunEnds runtime serialized scanLimit source isCancelled expected result)
    (resumes : ∀ seen t, Commits runtime serialized scanLimit source seen t → Open seen →
      atLimit runtime scanLimit seen = false → isCancelled seen.length = true → SameScan (resume t) expected) :
    SameScan (afterRun resume result) expected := by
  cases ends with
  | interrupted commits goes below asked => exact resumes _ _ commits goes below asked
  | ended same final =>
    unfold afterRun
    split
    · exact absurd rfl final
    · exact same

/-- Resumed after interruptions, a scan on a resumable source ends as the uninterrupted one. -/
theorem Resumable.resumes (resumable : Resumable runtime serialized scanLimit source) (cuts : List (Nat → Bool))
    (commits : Commits runtime serialized scanLimit source seen t) (goes : Open seen)
    (below : atLimit runtime scanLimit seen = false) :
    SameScan (resumeRuns runtime serialized scanLimit source cuts t)
      (scanFrom runtime scanLimit source maximumPages never 0 [] (freshTables serialized)) := by
  induction cuts generalizing seen t with
  | nil =>
    rw [resumeRuns, commits.resumes goes below]
    generalize result : scanFrom runtime scanLimit source maximumPages (fun _ => false) seen.length seen t = last
    have ends := resumable.run_after (fun _ => false) commits goes
    rw [result] at ends
    cases ends with
    | interrupted _ _ _ asked => cases asked
    | ended same final => exact same
  | cons isCancelled rest ih =>
    rw [resumeRuns, commits.resumes goes below]
    exact (resumable.run_after isCancelled commits goes).after fun _ _ later goes below _ => ih later goes below

theorem uninterruptedScan_eq (below : atLimit runtime scanLimit [] = false) :
    uninterruptedScan runtime serialized scanLimit source =
      scanFrom runtime scanLimit source maximumPages never 0 [] (freshTables serialized) := starts below

/-- The interrupted scan on a resumable source. -/
theorem Resumable.same (resumable : Resumable runtime serialized scanLimit source) (cuts : List (Nat → Bool)) :
    SameScan (interruptedScan runtime serialized scanLimit source cuts)
      (uninterruptedScan runtime serialized scanLimit source) := by
  cases cuts with
  | nil => exact .refl _
  | cons isCancelled rest =>
    by_cases limit : atLimit runtime scanLimit [] = true
    · rw [interruptedScan, uninterruptedScan, interruptedScan, starts_limited limit, starts_limited limit]
      exact .refl _
    · have below : atLimit runtime scanLimit [] = false := Bool.not_eq_true _ ▸ limit
      rw [interruptedScan, uninterruptedScan_eq below, starts below]
      exact (resumable.run_after isCancelled .start (Or.inl rfl)).after fun _ _ later goes below _ =>
        resumable.resumes rest later goes below

/-! ### Sources on which a session differs -/

theorem Commits.unique {other : Tables} (commits : Commits runtime serialized scanLimit source seen t)
    (again : Commits runtime serialized scanLimit source seen other) : t = other := by
  induction commits generalizing other with
  | start =>
    generalize empty : ([] : List Examined) = none_ at again
    cases again with
    | start => rfl
    | page => simp at empty
  | @page seen t next examined before goes below budget answer cursor new saved ih =>
    generalize same : seen ++ [examined] = whole at again
    cases again with
    | start => simp at same
    | @page seen' t' next' examined' before' goes' below' budget' answer' cursor' new' saved' =>
      obtain ⟨rfl, own⟩ := List.append_inj' same rfl
      obtain rfl := List.singleton_inj.mp own
      obtain rfl := ih before'
      exact congrArg Prod.fst (saved.symm.trans saved')

/-- An interruption after this many pages. -/
def cutAfter (pages : Nat) (pageIndex : Nat) : Bool := decide (pageIndex = pages)

/-- An interrupted run stops at its place. -/
theorem Commits.cut (commits : Commits runtime serialized scanLimit source seen t) (goes : Open seen)
    (below : atLimit runtime scanLimit seen = false) (start fuel : Nat) (within : start ≤ seen.length)
    (enough : seen.length - start < fuel) {before : Tables}
    (first : Commits runtime serialized scanLimit source (seen.take start) before) :
    scanFrom runtime scanLimit source fuel (cutAfter seen.length) start (seen.take start) before =
      (t, .completed .cancelled) := by
  obtain ⟨own, commits', _, _, follows⟩ := commits.reaches goes within
  obtain rfl := first.unique commits'
  obtain ⟨spare, rfl⟩ : ∃ spare, fuel = spare + 1 + (seen.length - start) := ⟨fuel - (seen.length - start) - 1, by omega⟩
  rw [follows (spare + 1) (cutAfter seen.length) fun k _ less => decide_eq_false (by omega), scanFrom_succ within]
  simp [below, cutAfter]

/-- A session that is interrupted twice reaches every place with the memory of a late start. -/
theorem Commits.late_start (commits : Commits runtime serialized scanLimit source seen t) (goes : Open seen)
    (late : 1 ≤ start) (within : start ≤ seen.length)
    (below : start = seen.length → atLimit runtime scanLimit seen = false) :
    interruptedScan runtime serialized scanLimit source [cutAfter 1, cutAfter start] =
      scanFrom runtime scanLimit source (maximumPages - seen.length + start) never start seen t := by
  have budget := commits.budget
  have some_ : 1 ≤ seen.length := late.trans within
  obtain ⟨fresh, _, _, unlimited, _⟩ := commits.reaches goes (Nat.zero_le _)
  obtain ⟨first, commitsFirst, goesFirst, belowFirst, _⟩ := commits.reaches goes some_
  obtain ⟨middle, commitsMiddle, goesMiddle, belowMiddle, follows⟩ := commits.reaches goes within
  have lengthFirst : (seen.take 1).length = 1 := by rw [List.length_take]; omega
  have lengthMiddle : (seen.take start).length = start := by rw [List.length_take]; omega
  have belowFirst : atLimit runtime scanLimit (seen.take 1) = false := by
    rcases Nat.lt_or_ge 1 seen.length with more | single
    · exact belowFirst more
    · rw [List.take_of_length_le single]
      exact below (by omega)
  have belowMiddle : atLimit runtime scanLimit (seen.take start) = false := by
    rcases Nat.lt_or_ge start seen.length with more | last
    · exact belowMiddle more
    · rw [List.take_of_length_le last]
      exact below (by omega)
  have nested : (seen.take start).take 1 = seen.take 1 := by rw [List.take_take, Nat.min_eq_left late]
  have one := commitsFirst.cut goesFirst belowFirst 0 maximumPages (Nat.zero_le _)
    (by rw [lengthFirst]; simp [maximumPages]) .start
  have two := commitsMiddle.cut goesMiddle belowMiddle 1 maximumPages (by omega) (by rw [lengthMiddle]; omega)
    (nested ▸ commitsFirst)
  rw [lengthFirst, List.take_zero] at one
  rw [lengthMiddle, nested] at two
  have rest : maximumPages = maximumPages - seen.length + start + (seen.length - start) := by omega
  calc interruptedScan runtime serialized scanLimit source [cutAfter 1, cutAfter start]
      = resumeRuns runtime serialized scanLimit source [cutAfter start] first := by
        rw [interruptedScan, starts (unlimited some_), one]
        rfl
    _ = resumeRuns runtime serialized scanLimit source [] middle := by
        change afterRun _ (runDiskBacked runtime serialized scanLimit source true (cutAfter start) (some first)) = _
        rw [commitsFirst.resumes goesFirst belowFirst, lengthFirst, two]
        rfl
    _ = scanFrom runtime scanLimit source maximumPages never start (seen.take start) middle := by
        rw [resumeRuns, commitsMiddle.resumes goesMiddle belowMiddle, lengthMiddle]
        rfl
    _ = scanFrom runtime scanLimit source (maximumPages - seen.length + start) never start seen t := by
        rw [← follows (maximumPages - seen.length + start) never fun _ _ _ => rfl, ← rest]

variable (runtime) in
theorem savePage_pages (t : Tables) (s : ScanState) (page : PageData) :
    t.pages.length ≤ (savePage runtime t s page).1.pages.length := by
  unfold savePage
  cases normalizedRows runtime s.scanned page with
  | error message => exact Nat.le_refl _
  | ok rows =>
    have recorded := recordPage_cases runtime t s.pageIndex page.limit rows s.cursor page.nextCursor
    dsimp only
    generalize recordPage runtime t s.pageIndex page.limit rows 2 s.cursor page.nextCursor = outcome at recorded
    cases recorded with
    | refused message => exact Nat.le_refl _
    | known => exact Nat.le_refl _
    | repeated duplicate member admitted => exact Nat.le_refl _
    | committed bound admitted bounds valid bind_ => simp

/-- A scan only adds pages. -/
theorem scanFrom_pages (within : start ≤ seen.length) :
    t.pages.length ≤ (scanFrom runtime scanLimit source fuel isCancelled start seen t).1.pages.length := by
  induction fuel generalizing seen t with
  | zero => exact Nat.le_refl _
  | succ fuel ih =>
    rw [scanFrom_succ within]
    split
    · exact Nat.le_refl _
    · split
      · exact Nat.le_refl _
      · split
        · exact Nat.le_refl _
        · rename_i examined _
          split
          · exact Nat.le_refl _
          · split
            · exact Nat.le_refl _
            · have grows := savePage_pages runtime t (memoryFrom runtime 0 seen) examined.page
              split
              · rename_i saved
                rw [saved] at grows
                exact grows
              · rename_i saved
                rw [saved] at grows
                exact grows
              · rename_i saved
                rw [saved] at grows
                split
                · exact grows
                · exact grows.trans (ih (by rw [List.length_append]; omega))

/-- A scan that was just resumed takes no page for one it observed. -/
theorem startAfter_unknown (examined : Examined) : (startAfter seen).recognizes runtime examined = false := by
  unfold ScanState.recognizes startAfter
  refine decide_eq_false ?_
  rintro ⟨some_, same | same | observed⟩
  · cases same
  · cases same
  · obtain ⟨row, rest, shape⟩ := List.exists_cons_of_ne_nil some_
    have member : rowWallet runtime row ∈ pageWallets runtime examined.page.rows := by
      rw [shape]
      exact List.mem_cons_self
    exact absurd (observed _ member) List.not_mem_nil

theorem scanFrom_refuses (within : start ≤ seen.length) (below : atLimit runtime scanLimit seen = false)
    (answer : nextPage runtime scanLimit source seen = .ok examined)
    (visited : (memoryFrom runtime start seen).revisits examined.page = true) :
    scanFrom runtime scanLimit source (fuel + 1) never start seen t = (t, .raised) := by
  rw [scanFrom_succ within]
  simp [below, never, answer, visited]

theorem scanFrom_repeated (within : start ≤ seen.length) (below : atLimit runtime scanLimit seen = false)
    (answer : nextPage runtime scanLimit source seen = .ok examined)
    (unvisited : (memoryFrom runtime start seen).revisits examined.page = false)
    (known : (memoryFrom runtime start seen).recognizes runtime examined = true) :
    scanFrom runtime scanLimit source (fuel + 1) never start seen t = (t, .completed .repeatedPage) := by
  rw [scanFrom_succ within]
  simp [below, never, answer, unvisited, known]

/-- What saving the page tells about a scan that was just resumed and adds no page. -/
theorem scanFrom_saves (commits : Commits runtime serialized scanLimit source seen t)
    (below : atLimit runtime scanLimit seen = false)
    (answer : nextPage runtime scanLimit source seen = .ok examined)
    (unvisited : (memoryFrom runtime seen.length seen).revisits examined.page = false)
    (stays : (scanFrom runtime scanLimit source (fuel + 1) never seen.length seen t).1.pages = t.pages) :
    (∃ message, savePage runtime t (memoryFrom runtime 0 seen) examined.page = (t, .error message) ∧
      (scanFrom runtime scanLimit source (fuel + 1) never seen.length seen t).2 = .raised) ∨
    ∃ rows, normalizedRows runtime (rowTotal seen) examined.page = .ok rows ∧
      admitCursorPage t seen.length rows (lastCursor seen) examined.page.nextCursor = .ok () ∧
      savedBefore runtime t rows = true ∧
      (scanFrom runtime scanLimit source (fuel + 1) never seen.length seen t).2 = .completed .repeatedPage := by
  obtain ⟨payload, _, inspected⟩ := Result.bind_eq_ok.mp answer
  obtain ⟨rows, normal, _, _, _, _, saving⟩ := commits.holds.saves inspected
  have unknown : (memoryFrom runtime seen.length seen).recognizes runtime examined = false := by
    rw [memoryFrom_length]
    exact startAfter_unknown examined
  rw [scanFrom_succ (Nat.le_refl _)] at stays ⊢
  simp only [below, never, answer, unvisited, unknown, Bool.false_eq_true, if_false] at stays ⊢
  cases outcome : savePage runtime t (memoryFrom runtime 0 seen) examined.page with
  | mk after result =>
    rw [outcome] at saving stays
    cases saving with
    | refused message why => exact Or.inl ⟨message, rfl, rfl⟩
    | repeated metadata admitted known => exact Or.inr ⟨rows, normal, admitted, known, rfl⟩
    | committed kept admitted new =>
      dsimp only at stays
      split at stays
      · simp at stays
      · have grows := congrArg List.length stays
        have more : ∀ after : Tables, after.pages.length ≤
            (scanFrom runtime scanLimit source fuel never seen.length (seen ++ [examined]) after).1.pages.length :=
          fun _ => scanFrom_pages (by simp)
        have grown := (more _).trans_eq grows
        rw [List.length_append] at grown
        exact absurd grown (Nat.not_succ_le_self _)

section Exact

variable (same : ∀ cuts, SameScan (interruptedScan runtime serialized scanLimit source cuts)
  (uninterruptedScan runtime serialized scanLimit source))

include same

/-- Where sessions agree, a late start ends a place as the uninterrupted scan does. -/
theorem late_agrees (commits : Commits runtime serialized scanLimit source seen t) (goes : Open seen)
    (late : 1 ≤ start) (within : start ≤ seen.length)
    (below : start = seen.length → atLimit runtime scanLimit seen = false) :
    SameScan (scanFrom runtime scanLimit source (maximumPages - seen.length + start) never start seen t)
      (scanFrom runtime scanLimit source (maximumPages - seen.length) never 0 seen t) := by
  have unlimited : atLimit runtime scanLimit [] = false := by
    obtain ⟨_, _, _, unlimited, _⟩ := commits.reaches goes (Nat.zero_le _)
    rw [List.take_zero] at unlimited
    exact unlimited (by omega)
  rw [← commits.late_start goes late within below, ← commits.continues goes commits.budget,
    ← uninterruptedScan_eq unlimited]
  exact same _

theorem refreshed_of_same (commits : Commits runtime serialized scanLimit source seen t) (goes : Open seen)
    (below : atLimit runtime scanLimit seen = false) (budget : seen.length < maximumPages)
    (answer : nextPage runtime scanLimit source seen = .ok examined)
    (cursor : (memoryFrom runtime 0 seen).revisits examined.page = false)
    (known : (memoryFrom runtime 0 seen).recognizes runtime examined = true) {rows : List Row}
    (normal : normalizedRows runtime (rowTotal seen) examined.page = .ok rows) :
    storable examined.page.nextCursor = true ∧ savedBefore runtime t rows = true := by
  obtain ⟨spare, left⟩ : ∃ spare, maximumPages - seen.length = spare + 1 := ⟨maximumPages - seen.length - 1, by omega⟩
  have begun : 1 ≤ seen.length := by
    by_contra none_
    have empty : seen = [] := List.length_eq_zero_iff.mp (by omega)
    subst empty
    exact Bool.false_ne_true ((startAfter_unknown examined).symm.trans known)
  have agree := late_agrees same commits goes begun (Nat.le_refl _) fun _ => below
  rw [left, scanFrom_repeated (Nat.zero_le _) below answer cursor known,
    show spare + 1 + seen.length = (spare + seen.length) + 1 by omega] at agree
  have unvisited : (memoryFrom runtime seen.length seen).revisits examined.page = false := by
    rw [← Bool.not_eq_true] at cursor ⊢
    exact fun early => cursor ((memory_within runtime (Nat.le_refl _)).revisits early)
  obtain ⟨pages, _, outcome⟩ := agree
  rcases scanFrom_saves commits below answer unvisited pages with ⟨_, _, raised⟩ | ⟨own, found, admitted, saved, _⟩
  · rw [raised] at outcome
    cases outcome
  · rw [normal] at found
    cases found
    obtain ⟨payload, _, inspected⟩ := Result.bind_eq_ok.mp answer
    obtain ⟨own, again, native, _⟩ := commits.holds.saves inspected
    rw [normal] at again
    cases again
    exact ⟨((commits.holds.admits goes native).mp admitted).1, saved⟩

theorem unrecognized_of_same (commits : Commits runtime serialized scanLimit source seen t) (goes : Open seen)
    (below : atLimit runtime scanLimit seen = false)
    (answer : nextPage runtime scanLimit source seen = .ok examined)
    (raises : scanFrom runtime scanLimit source (maximumPages - seen.length) never 0 seen t = (t, .raised)) :
    Unrecognized runtime seen examined := by
  intro start late within
  have agree := late_agrees same commits goes late within fun _ => below
  obtain ⟨spare, left⟩ : ∃ spare, maximumPages - seen.length + start = spare + 1 :=
    ⟨maximumPages - seen.length + start - 1, by omega⟩
  rw [raises, left] at agree
  by_contra differs
  rw [not_or, Bool.not_eq_true, Bool.not_eq_false] at differs
  rw [scanFrom_repeated within below answer differs.1 differs.2] at agree
  cases agree.2.2

theorem resumable_of_same : Resumable runtime serialized scanLimit source where
  refreshed _ _ _ _ commits goes below budget answer cursor known normal :=
    refreshed_of_same same commits goes below budget answer cursor known normal
  cycled seen t examined commits goes below budget answer visited := by
    refine unrecognized_of_same same commits goes below answer ?_
    obtain ⟨spare, left⟩ : ∃ spare, maximumPages - seen.length = spare + 1 := ⟨maximumPages - seen.length - 1, by omega⟩
    rw [left]
    exact scanFrom_refuses (Nat.zero_le _) below answer visited
  budget seen t commits goes full := by
    have raises : scanFrom runtime scanLimit source (maximumPages - seen.length) never 0 seen t = (t, .raised) := by
      rw [full, Nat.sub_self]
      rfl
    have below : atLimit runtime scanLimit seen = false := by
      by_contra limit
      rw [Bool.not_eq_false] at limit
      have several : 1 < seen.length := by rw [full]; simp [maximumPages]
      have agree := late_agrees same commits goes (Nat.le_refl 1) several.le fun only => absurd only several.ne
      rw [raises, scanFrom_succ several.le, limit] at agree
      cases agree.2.2
    refine ⟨below, fun examined answer => ⟨unrecognized_of_same same commits goes below answer raises, ?_⟩⟩
    by_cases visited : (memoryFrom runtime 0 seen).revisits examined.page = true
    · exact Or.inl visited
    right
    have unvisited : (memoryFrom runtime seen.length seen).revisits examined.page = false := by
      rw [← Bool.not_eq_true]
      exact fun early => visited ((memory_within runtime (Nat.le_refl _)).revisits early)
    have some_ : 1 ≤ seen.length := by rw [full]; simp [maximumPages]
    have agree := late_agrees same commits goes some_ (Nat.le_refl _) fun _ => below
    obtain ⟨spare, left⟩ : ∃ spare, maximumPages - seen.length + seen.length = spare + 1 :=
      ⟨maximumPages - seen.length + seen.length - 1, by omega⟩
    rw [raises, left] at agree
    obtain ⟨pages, _, outcome⟩ := agree
    rcases scanFrom_saves commits below answer unvisited pages with ⟨message, failed, _⟩ | ⟨_, _, _, _, repeated⟩
    · exact ⟨message, failed⟩
    · rw [repeated] at outcome
      cases outcome

end Exact

end Sessions

private def boardRow (wallet : Text) : Json :=
  .obj [(text "user_id", .str wallet), (text "pnl", .int 5), (text "volume", .int 7)]

private def boardPage (wallets : List Text) (next : Option Text) : Json :=
  .obj [(text "data", .arr (wallets.map boardRow)), (text "pagination", .obj [(text "limit", .int 50),
    (text "next_cursor", match next with
      | some cursor => .str cursor
      | none => .null),
    (text "has_more", .bool next.isSome)])]

private def firstWallet : Text := text "0x00000000000000000000000000000000000000aa"

private def secondWallet : Text := text "0x00000000000000000000000000000000000000bb"

private def thirdWallet : Text := text "0x00000000000000000000000000000000000000cc"

/-- Three pages; the last one shows one wallet of the first again. -/
private def refreshedBoard : Request → Except Text Json
  | .first _ => .ok (boardPage [firstWallet, secondWallet] (some (text "c1")))
  | .next cursor =>
    if cursor = text "c1" then .ok (boardPage [thirdWallet] (some (text "c2")))
    else .ok (boardPage [firstWallet] none)

private def boardRuntime : Runtime where
  casing := asciiCasing
  rounding := exactRounding
  columnReal := .str
  show_ value := match value with
    | .str t => t
    | _ => []
  show_str := show_text
  pageDigest rows := rows.flatMap fun row => match row.read "wallet" with
    | .str wallet => wallet
    | _ => []
  sourceDigest rows := rows.flatMap fun row => match userId row with
    | .ok (.str wallet) => wallet
    | _ => []
  walletsDigest wallets := wallets.flatten

end MarketSentinel.Leaderboard
