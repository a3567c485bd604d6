import MarketSentinel.Backup.Catalog

/-! Publishing a backup and pruning the older ones.

A run is a sequence of changes to the directory and may be cut between any two
of them. Pruning ranks backups by the clock readings in their manifests, so a
clock that stepped back lets a run prune the backup it has just published.
-/

set_option autoImplicit false

namespace MarketSentinel.Backup

open Python

inductive Op (β : Type) where
  | replace (name : Text) (content : Content β)
  | unlink (name : Text)

def Op.apply {β : Type} (directory : Directory β) : Op β → Directory β
  | .replace name content => directory.put name (.regular content)
  | .unlink name => directory.unlink name

def applied {β : Type} (directory : Directory β) (ops : List (Op β)) : Directory β := ops.foldl Op.apply directory

/-- One reading of the wall clock with its two texts. The date and time come
before the offset of `isoformat`. -/
structure Clock (fromisoformat : Text → Moment) where
  instant : Int
  strftime : Text
  dateTime : Text
  solid : dateTime.all (! isSpace ·)
  reads : fromisoformat (dateTime ++ text "+00:00") = .at instant

structure Run {β : Type} (platform : Platform β) where
  retain : Nat
  clock : Clock platform.fromisoformat
  /-- `secrets.token_hex(4)`. -/
  token : Text
  sourceName : Text
  /-- The staged archive, its file count and its uncompressed bytes, unless building it fails. -/
  built : Option (Content β × Nat × Nat)

section Model

variable {β : Type} {platform : Platform β}

def Run.archiveName (run : Run platform) : Text :=
  backupPrefix ++ run.clock.strftime ++ text "-" ++ run.token ++ archiveSuffix

def Run.manifestName (run : Run platform) : Text := run.archiveName ++ manifestSuffix

def Run.manifest (run : Run platform) (archive : Content β) (fileCount uncompressedBytes : Nat) : Manifest :=
  [(text "archive", .str run.archiveName),
    (text "created_at", .str (run.clock.dateTime ++ text "Z")),
    (text "file_count", .int fileCount),
    (text "schema_version", .int schemaVersion),
    (text "sha256", .str (platform.sha256 archive)),
    (text "source_name", .str run.sourceName),
    (text "uncompressed_bytes", .int uncompressedBytes)]

variable (limits : Limits)

/-- The pair that is ready to be published. -/
def Run.staged (run : Run platform) : Option (Content β × Manifest) :=
  if run.retain < 1 ∨ limits.maxMembers < 1 ∨ limits.maxBytes < 1 ∨ limits.maxArchiveBytes < 1 then none
  else
    match run.built with
    | none => none
    | some (archive, fileCount, uncompressedBytes) =>
      if limits.maxArchiveBytes < platform.size archive then none
      else
        let manifest := run.manifest archive fileCount uncompressedBytes
        match verifyBackup platform limits run.archiveName archive (.document (.obj manifest)) with
        | .error _ => none
        | .ok _ => some (archive, manifest)

/-- The names that pruning removes, in order. -/
def pruneBackups (platform : Platform β) (directory : Directory β) (retain : Nat) : Option (List Text) :=
  match catalogVerifiedBackups platform limits directory with
  | none => none
  | some catalog =>
    some ((catalog.verified.drop retain).flatMap fun backup => [backup.archive, backup.archive ++ manifestSuffix])

def Run.publication (run : Run platform) (archive : Content β) (manifest : Manifest) : List (Op β) :=
  [.replace run.archiveName archive, .replace run.manifestName (.document (.obj manifest))]

/-- The changes that a run makes, and whether it returns normally after them. -/
def createBackup (directory : Directory β) (run : Run platform) : List (Op β) × Bool :=
  match run.staged limits with
  | none => ([], false)
  | some (archive, manifest) =>
    if (directory.get? run.archiveName).isSome ∨ (directory.get? run.manifestName).isSome then ([], false)
    else
      let publication := run.publication archive manifest
      match pruneBackups limits platform (applied directory publication) run.retain with
      | none => (publication, false)
      | some removed => (publication ++ removed.map .unlink, true)

/-- A run that ends, or is cut after some number of changes. -/
structure Attempt {β : Type} (platform : Platform β) where
  run : Run platform
  cut : Option Nat

def Attempt.after (attempt : Attempt platform) (directory : Directory β) : Directory β :=
  let ops := (createBackup limits directory attempt.run).1
  applied directory (match attempt.cut with | none => ops | some count => ops.take count)

def Attempt.Returns (attempt : Attempt platform) (directory : Directory β) : Prop :=
  attempt.cut = none ∧ (createBackup limits directory attempt.run).2 = true

def afterAll (directory : Directory β) (attempts : List (Attempt platform)) : Directory β :=
  attempts.foldl (fun directory attempt => attempt.after limits directory) directory

end Model

section Property

variable {β : Type} {platform : Platform β} (limits : Limits)

/-- A run gets to publish this pair in this directory. -/
def Run.Publishes (run : Run platform) (directory : Directory β) (archive : Content β) (manifest : Manifest) : Prop :=
  run.staged limits = some (archive, manifest) ∧ directory.get? run.archiveName = none ∧
    directory.get? run.manifestName = none

/-- The directory that pruning starts from. -/
def Attempt.Prunes (attempt : Attempt platform) (directory published : Directory β) : Prop :=
  ∃ archive manifest, attempt.run.Publishes limits directory archive manifest ∧ (∀ count ∈ attempt.cut, 2 ≤ count) ∧
    published = applied directory (attempt.run.publication archive manifest)

/-- A pair with both files present verifies, unless it was there before and did not. -/
def StillVerifies (platform : Platform β) (before after : Directory β) : Prop :=
  ∀ name, isArchiveName name → Paired after name →
    (Paired before name → Verifies platform limits before name) → Verifies platform limits after name

/-- The files that the catalog calls orphans or parts of an invalid pair. -/
def Catalog.unverifiedFiles (catalog : Catalog) : List Text :=
  catalog.orphanArchives ++ catalog.orphanManifests ++
    catalog.invalidPairs.flatMap fun name => [name, name ++ manifestSuffix]

/-- What retention promises of one attempt. -/
structure Attempt.Keeps (attempt : Attempt platform) (directory : Directory β) : Prop where
  own : attempt.Returns limits directory → Paired (attempt.after limits directory) attempt.run.archiveName ∧
    Verifies platform limits (attempt.after limits directory) attempt.run.archiveName
  unverified : ∀ published, attempt.Prunes limits directory published →
    ∀ catalog ∈ catalogVerifiedBackups platform limits published, ∀ file ∈ catalog.unverifiedFiles,
      (attempt.after limits directory).get? file = published.get? file
  enough : ∀ published, attempt.Prunes limits directory published →
    min attempt.run.retain (verifiedBackups platform limits published).length ≤
      (verifiedBackups platform limits (attempt.after limits directory)).length
  intact : StillVerifies limits platform directory (attempt.after limits directory)

/-- An attempt that nothing stops: it is not cut, publishes, and no manifest
has a creation time that UTC cannot hold. -/
def Attempt.Completes (attempt : Attempt platform) (directory : Directory β) : Prop :=
  attempt.cut = none ∧ (∃ archive manifest, attempt.run.Publishes limits directory archive manifest) ∧
    ∀ name, isArchiveName name → inspect platform limits directory name ≠ .overflow

/-- How many verified pairs the clock puts above the new backup. -/
def Run.newer (run : Run platform) (directory : Directory β) : Nat :=
  (verifiedBackups platform limits directory).countP fun backup =>
    toLex (run.clock.instant, run.archiveName) < backup.rank

end Property

section Changes

variable {β : Type} {platform : Platform β} {limits : Limits} {directory : Directory β}

theorem applied_append (ops later : List (Op β)) :
    applied directory (ops ++ later) = applied (applied directory ops) later :=
  List.foldl_append

theorem get?_unlinks (names : List Text) (directory : Directory β) (file : Text) :
    (applied directory (names.map Op.unlink)).get? file = if file ∈ names then none else directory.get? file := by
  induction names generalizing directory with
  | nil => rfl
  | cons name rest ih =>
    have step : applied directory ((name :: rest).map Op.unlink) = applied (directory.unlink name) (rest.map .unlink) := rfl
    rw [step, ih, Directory.get?_unlink]
    by_cases later : file ∈ rest
    · rw [if_pos later, if_pos (List.mem_cons_of_mem _ later)]
    · by_cases here : name = file
      · rw [if_neg later, if_pos here, if_pos (here ▸ List.mem_cons_self)]
      · rw [if_neg later, if_neg here, if_neg (by simp [later, Ne.symm here])]

theorem loadManifest_eq_ok {name : Text} {content : Content β} {payload : Manifest}
    (loaded : loadManifest name content = .ok payload) : content = .document (.obj payload) := by
  unfold loadManifest at loaded
  split at loaded
  · split_ifs at loaded
    split at loaded
    · split_ifs at loaded
      cases loaded
      rfl
    · cases loaded
  · cases loaded
  · cases loaded

theorem verifyBackup_eq_ok {name : Text} {archive manifest : Content β} {payload : Manifest}
    (verified : verifyBackup platform limits name archive manifest = .ok payload) :
    manifest = .document (.obj payload) := by
  unfold verifyBackup at verified
  cases loaded : loadManifest name manifest with
  | error fault => rw [loaded] at verified; cases verified
  | ok found =>
    rw [loaded] at verified
    have same : found = payload := by
      revert verified
      simp only [bind, Except.bind]
      split_ifs
      · simp
      · simp
      · split
        · simp
        · cases measure platform limits 0 0 _ with
          | error fault => simp
          | ok totals =>
            simp only
            split_ifs
            · simp
            · simp
            · simp
    exact same ▸ loadManifest_eq_ok loaded

theorem isArchiveName_archiveName (run : Run platform) : isArchiveName run.archiveName := by
  simp only [isArchiveName, Bool.and_eq_true, List.isPrefixOf_iff_prefix, List.isSuffixOf_iff_suffix]
  refine ⟨?_, List.suffix_append _ _⟩
  simp only [Run.archiveName, List.append_assoc]
  exact List.prefix_append _ _

/-- A run reads its own clock back from its manifest. -/
theorem manifestCreatedAt_manifest (run : Run platform) (archive : Content β) (fileCount uncompressedBytes : Nat) :
    manifestCreatedAt platform.fromisoformat (run.manifest archive fileCount uncompressedBytes) =
      .at run.clock.instant := by
  have field : Dict.get? (run.manifest archive fileCount uncompressedBytes) (text "created_at") =
      some (.str (run.clock.dateTime ++ text "Z")) := by
    have first : text "archive" ≠ text "created_at" := by decide
    rw [Run.manifest, Dict.get?, if_neg first, Dict.get?, if_pos rfl]
  have solid : strip (run.clock.dateTime ++ text "Z") = run.clock.dateTime ++ text "Z" := by
    refine strip_eq_self fun c member => ?_
    rcases List.mem_append.mp member with digits | zulu
    · simpa using List.all_eq_true.mp run.clock.solid c digits
    · cases List.mem_singleton.mp zulu
      decide
  have zulu : text "Z" = [90] := rfl
  unfold manifestCreatedAt
  rw [field]
  simp only [solid]
  rw [if_neg (by simp [zulu]), if_pos (by simp [zulu]), zulu, List.dropLast_concat]
  exact run.clock.reads

end Changes

section Published

variable {β : Type} {platform : Platform β} {limits : Limits} {directory : Directory β} {run : Run platform}
  {archive : Content β} {manifest : Manifest}

theorem Run.Publishes.verified (publishes : run.Publishes limits directory archive manifest) :
    verifyBackup platform limits run.archiveName archive (.document (.obj manifest)) = .ok manifest ∧
      manifestCreatedAt platform.fromisoformat manifest = .at run.clock.instant := by
  obtain ⟨staged, -, -⟩ := publishes
  unfold Run.staged at staged
  split at staged
  · cases staged
  · split at staged
    · cases staged
    · rename_i fileCount uncompressedBytes _
      split at staged
      · cases staged
      · simp only at staged
        split at staged
        · cases staged
        · rename_i payload verified
          cases staged
          have same := verifyBackup_eq_ok verified
          cases same
          exact ⟨verified, manifestCreatedAt_manifest run archive fileCount uncompressedBytes⟩

theorem get?_published (file : Text) :
    (applied directory (run.publication archive manifest)).get? file =
      if run.manifestName = file then some (.regular (.document (.obj manifest)))
      else if run.archiveName = file then some (.regular archive) else directory.get? file := by
  rw [Run.publication, applied, List.foldl_cons, List.foldl_cons, List.foldl_nil]
  simp only [Op.apply, Directory.get?_put]

theorem get?_published_archive {name : Text} (named : isArchiveName name) (other : name ≠ run.archiveName) :
    (applied directory (run.publication archive manifest)).get? name = directory.get? name := by
  rw [get?_published, if_neg fun same => archive_ne_manifest named same.symm, if_neg other.symm]

theorem get?_published_manifest {name : Text} (other : name ≠ run.archiveName) :
    (applied directory (run.publication archive manifest)).get? (name ++ manifestSuffix) =
      directory.get? (name ++ manifestSuffix) := by
  rw [get?_published, if_neg fun same : run.manifestName = name ++ manifestSuffix =>
      other (List.append_cancel_right same).symm,
    if_neg fun same => archive_ne_manifest (isArchiveName_archiveName run) same]

theorem inspect_published {name : Text} (named : isArchiveName name) (other : name ≠ run.archiveName) :
    inspect platform limits (applied directory (run.publication archive manifest)) name =
      inspect platform limits directory name :=
  inspect_congr (get?_published_archive named other) (get?_published_manifest other)

theorem Run.Publishes.inspect_own (publishes : run.Publishes limits directory archive manifest) :
    inspect platform limits (applied directory (run.publication archive manifest)) run.archiveName =
      .verified run.clock.instant manifest := by
  obtain ⟨verified, createdAt⟩ := publishes.verified
  have named := isArchiveName_archiveName run
  have own : (applied directory (run.publication archive manifest)).get? run.archiveName = some (.regular archive) := by
    rw [get?_published, if_neg fun same => archive_ne_manifest named same.symm, if_pos rfl]
  have sidecar : (applied directory (run.publication archive manifest)).get? (run.archiveName ++ manifestSuffix) =
      some (.regular (.document (.obj manifest))) := by
    rw [get?_published, if_pos (by rfl)]
  unfold inspect
  simp only [own, sidecar, verified, createdAt]

theorem Run.Publishes.not_verified_before (publishes : run.Publishes limits directory archive manifest)
    {createdAt : Int} {payload : Manifest} :
    inspect platform limits directory run.archiveName ≠ .verified createdAt payload :=
  fun verified => (paired_of_verified verified).1 publishes.2.1

def Run.published (run : Run platform) (manifest : Manifest) : VerifiedBackup :=
  ⟨run.archiveName, run.clock.instant, manifest⟩

/-- Publication adds the run's own backup to the verified ones. -/
theorem Run.Publishes.verifiedBackups_perm (publishes : run.Publishes limits directory archive manifest) :
    (verifiedBackups platform limits (applied directory (run.publication archive manifest))).Perm
      (run.published manifest :: verifiedBackups platform limits directory) := by
  have before : (verifiedBackups platform limits directory).Nodup := nodup_archives_verifiedBackups.of_map _
  have fresh : run.published manifest ∉ verifiedBackups platform limits directory := fun member =>
    publishes.not_verified_before ((mem_verifiedBackups_iff _).mp member).2
  rw [List.perm_ext_iff_of_nodup (nodup_archives_verifiedBackups.of_map _) (List.nodup_cons.mpr ⟨fresh, before⟩)]
  intro backup
  rw [List.mem_cons, mem_verifiedBackups_iff, mem_verifiedBackups_iff]
  constructor
  · rintro ⟨named, verified⟩
    by_cases own : backup.archive = run.archiveName
    · left
      rw [own, publishes.inspect_own] at verified
      obtain ⟨name, createdAt, payload⟩ := backup
      cases own
      cases verified
      rfl
    · exact Or.inr ⟨named, inspect_published named own ▸ verified⟩
  · rintro (rfl | ⟨named, verified⟩)
    · exact ⟨isArchiveName_archiveName run, publishes.inspect_own⟩
    · have other : backup.archive ≠ run.archiveName := fun own =>
        publishes.not_verified_before (own ▸ verified)
      exact ⟨named, (inspect_published named other).trans verified⟩

theorem Run.Publishes.newer_eq (publishes : run.Publishes limits directory archive manifest) :
    ((verifiedBackups platform limits (applied directory (run.publication archive manifest))).countP fun backup =>
      (run.published manifest).rank < backup.rank) = run.newer limits directory := by
  rw [publishes.verifiedBackups_perm.countP_eq, List.countP_cons_of_neg (by simp)]
  rfl

end Published

section Pruned

variable {β : Type} {platform : Platform β} {limits : Limits} {published : Directory β} {retain : Nat}
  {removed : List Text}

/-- Pruning goes through exactly when the catalog can date every pair. -/
theorem pruneBackups_isSome_iff (platform : Platform β) (limits : Limits) (published : Directory β) (retain : Nat) :
    (pruneBackups limits platform published retain).isSome ↔
    ∀ name, isArchiveName name → inspect platform limits published name ≠ .overflow := by
  have dated : (∀ name ∈ pairs published, inspect platform limits published name ≠ .overflow) ↔
      ∀ name, isArchiveName name → inspect platform limits published name ≠ .overflow := by
    constructor
    · intro listed name named overflows
      have paired : Paired published name := by
        unfold inspect at overflows
        split at overflows
        · rename_i own sidecar
          exact ⟨by rw [own]; exact Option.some_ne_none _, by rw [sidecar]; exact Option.some_ne_none _⟩
        · cases overflows
      exact listed name ((mem_pairs_iff name).mpr ⟨named, paired⟩) overflows
    · exact fun all name member => all name ((mem_pairs_iff name).mp member).1
  rw [← dated, pruneBackups, catalogVerifiedBackups]
  by_cases some_overflow : (pairs published).any fun name => inspect platform limits published name = .overflow
  · rw [if_pos some_overflow]
    obtain ⟨name, member, overflows⟩ := List.any_eq_true.mp some_overflow
    simp only [Option.isSome_none, Bool.false_eq_true, false_iff]
    exact fun all => all name member (of_decide_eq_true overflows)
  · rw [if_neg some_overflow]
    simp only [Option.isSome_some, true_iff]
    exact fun name member overflows => some_overflow (List.any_eq_true.mpr ⟨name, member, decide_eq_true overflows⟩)

/-- Pruning removes the pairs behind the `retain` that rank highest. -/
theorem pruneBackups_spec (prunes : pruneBackups limits platform published retain = some removed) :
    ∃ dropped : List VerifiedBackup,
      removed = dropped.flatMap (fun backup => [backup.archive, backup.archive ++ manifestSuffix]) ∧
      dropped = ((verifiedBackups platform limits published).insertionSort fun a b => b.rank ≤ a.rank).drop retain ∧
      ∀ backup, backup ∈ dropped ↔ backup ∈ verifiedBackups platform limits published ∧
        retain ≤ (verifiedBackups platform limits published).countP fun other => backup.rank < other.rank := by
  unfold pruneBackups catalogVerifiedBackups at prunes
  split_ifs at prunes
  cases prunes
  exact ⟨_, rfl, rfl, fun backup =>
    StableSort.mem_drop_insertionSort_iff VerifiedBackup.rank nodup_ranks_verifiedBackups backup retain⟩

/-- Pruning names no file outside the verified pairs behind the first `retain`. -/
theorem archive_mem_removed_iff (prunes : pruneBackups limits platform published retain = some removed) {name : Text}
    (named : isArchiveName name) :
    name ∈ removed ↔ ∃ createdAt manifest, inspect platform limits published name = .verified createdAt manifest ∧
      retain ≤ (verifiedBackups platform limits published).countP fun other =>
        toLex (createdAt, name) < other.rank := by
  obtain ⟨dropped, rfl, -, ranks⟩ := pruneBackups_spec prunes
  rw [List.mem_flatMap]
  constructor
  · rintro ⟨backup, behind, file⟩
    obtain ⟨member, many⟩ := (ranks backup).mp behind
    obtain ⟨own, verified⟩ := (mem_verifiedBackups_iff backup).mp member
    rcases List.mem_pair.mp file with rfl | rfl
    · exact ⟨_, _, verified, many⟩
    · exact absurd rfl (archive_ne_manifest named)
  · rintro ⟨createdAt, manifest, verified, many⟩
    exact ⟨⟨name, createdAt, manifest⟩,
      (ranks _).mpr ⟨(mem_verifiedBackups_iff _).mpr ⟨named, verified⟩, many⟩, List.mem_cons_self⟩

theorem manifest_mem_removed_iff (prunes : pruneBackups limits platform published retain = some removed) {name : Text} :
    name ++ manifestSuffix ∈ removed ↔ isArchiveName name ∧ name ∈ removed := by
  obtain ⟨dropped, rfl, -, ranks⟩ := pruneBackups_spec prunes
  simp only [List.mem_flatMap]
  constructor
  · rintro ⟨backup, behind, file⟩
    have named := ((mem_verifiedBackups_iff backup).mp ((ranks backup).mp behind).1).1
    rcases List.mem_pair.mp file with same | same
    · exact absurd same.symm (archive_ne_manifest named)
    · cases List.append_cancel_right same
      exact ⟨named, backup, behind, List.mem_cons_self⟩
  · rintro ⟨named, backup, behind, file⟩
    rcases List.mem_pair.mp file with rfl | rfl
    · exact ⟨backup, behind, List.mem_cons_of_mem _ List.mem_cons_self⟩
    · exact absurd rfl (archive_ne_manifest named)

theorem verified_of_mem_removed (prunes : pruneBackups limits platform published retain = some removed) {name : Text}
    (named : isArchiveName name) (gone : name ∈ removed) : Verifies platform limits published name := by
  obtain ⟨createdAt, manifest, verified, -⟩ := (archive_mem_removed_iff prunes named).mp gone
  exact ⟨createdAt, manifest, verified⟩

/-- What the catalog does not call verified is not removed. -/
theorem unverifiedFiles_kept (prunes : pruneBackups limits platform published retain = some removed) {catalog : Catalog}
    (cataloged : catalogVerifiedBackups platform limits published = some catalog) {file : Text}
    (unverified : file ∈ catalog.unverifiedFiles) : file ∉ removed := by
  unfold catalogVerifiedBackups at cataloged
  split_ifs at cataloged
  cases cataloged
  simp only [Catalog.unverifiedFiles, List.mem_append, List.mem_flatMap, List.mem_insertionSort, List.mem_filter,
    List.mem_map, decide_eq_true_iff] at unverified
  intro gone
  rcases unverified with (⟨archive, lone⟩ | ⟨name, ⟨-, lone⟩, rfl⟩) | ⟨name, ⟨pair, invalid⟩, own⟩
  · obtain ⟨named, -⟩ := (mem_archives_iff file).mp archive
    obtain ⟨_, _, verified⟩ := verified_of_mem_removed prunes named gone
    exact lone (mem_manifests_of_archive named (paired_of_verified verified).2)
  · obtain ⟨named, gone⟩ := (manifest_mem_removed_iff prunes).mp gone
    obtain ⟨_, _, verified⟩ := verified_of_mem_removed prunes named gone
    exact lone ((mem_archives_iff name).mpr ⟨named, (paired_of_verified verified).1⟩)
  · obtain ⟨named, -⟩ := (mem_pairs_iff name).mp pair
    have gone : name ∈ removed := by
      rcases List.mem_pair.mp own with rfl | rfl
      · exact gone
      · exact ((manifest_mem_removed_iff prunes).mp gone).2
    obtain ⟨_, _, verified⟩ := verified_of_mem_removed prunes named gone
    rw [invalid] at verified
    cases verified

variable {done : List Text}

/-- Wherever pruning stops, a pair with both files present is as it was. -/
theorem inspect_of_paired (platform : Platform β) (limits : Limits) {name : Text} (paired : Paired (applied published (done.map Op.unlink)) name) :
    Paired published name ∧
      inspect platform limits (applied published (done.map Op.unlink)) name = inspect platform limits published name := by
  obtain ⟨archive, sidecar⟩ := paired
  rw [get?_unlinks] at archive sidecar
  have own : name ∉ done := fun gone => archive (if_pos gone)
  have other : name ++ manifestSuffix ∉ done := fun gone => sidecar (if_pos gone)
  rw [if_neg own] at archive
  rw [if_neg other] at sidecar
  exact ⟨⟨archive, sidecar⟩, inspect_congr (by rw [get?_unlinks, if_neg own]) (by rw [get?_unlinks, if_neg other])⟩

/-- The first `retain` verified pairs survive any part of the pruning. -/
theorem enough_verified (prunes : pruneBackups limits platform published retain = some removed)
    (part : done <+: removed) : min retain (verifiedBackups platform limits published).length ≤
      (verifiedBackups platform limits (applied published (done.map Op.unlink))).length := by
  obtain ⟨dropped, -, isDrop, ranks⟩ := pruneBackups_spec prunes
  let sorted := (verifiedBackups platform limits published).insertionSort fun a b => b.rank ≤ a.rank
  have same : sorted.Perm (verifiedBackups platform limits published) := List.perm_insertionSort _ _
  have distinct : sorted.Nodup := same.nodup_iff.mpr (nodup_archives_verifiedBackups.of_map _)
  have kept : sorted.take retain ⊆ verifiedBackups platform limits (applied published (done.map Op.unlink)) := by
    intro backup member
    have listed := same.subset (List.mem_of_mem_take member)
    obtain ⟨named, verified⟩ := (mem_verifiedBackups_iff backup).mp listed
    have ahead : backup ∉ dropped := by
      rw [isDrop]
      exact fun behind => (List.nodup_append.mp ((List.take_append_drop retain sorted).symm ▸ distinct)).2.2
        backup member backup behind rfl
    have survives : backup.archive ∉ removed := by
      intro gone
      obtain ⟨createdAt, manifest, again, many⟩ := (archive_mem_removed_iff prunes named).mp gone
      obtain ⟨sameTime, sameManifest⟩ := Inspection.verified.inj (verified.symm.trans again)
      exact ahead ((ranks backup).mpr ⟨listed, by rw [← sameTime] at many; exact many⟩)
    have own : backup.archive ∉ done := fun gone => survives (part.subset gone)
    have sidecar : backup.archive ++ manifestSuffix ∉ done := fun gone =>
      survives ((manifest_mem_removed_iff prunes).mp (part.subset gone)).2
    refine (mem_verifiedBackups_iff backup).mpr ⟨named, ?_⟩
    rw [← verified]
    exact inspect_congr (by rw [get?_unlinks, if_neg own]) (by rw [get?_unlinks, if_neg sidecar])
  calc min retain (verifiedBackups platform limits published).length
      = (sorted.take retain).length := by rw [List.length_take, same.length_eq]
    _ ≤ _ := (List.subperm_of_subset ((List.take_sublist retain sorted).nodup distinct) kept).length_le

end Pruned

section Attempts

variable {β : Type} {platform : Platform β} {limits : Limits} {directory : Directory β} {attempt : Attempt platform}
  {archive : Content β} {manifest : Manifest}

theorem createBackup_of_publishes {run : Run platform} (publishes : run.Publishes limits directory archive manifest) :
    createBackup limits directory run =
      match pruneBackups limits platform (applied directory (run.publication archive manifest)) run.retain with
      | none => (run.publication archive manifest, false)
      | some removed => (run.publication archive manifest ++ removed.map .unlink, true) := by
  obtain ⟨staged, noArchive, noManifest⟩ := publishes
  simp only [createBackup, staged, noArchive, noManifest, Option.isSome_none, Bool.false_eq_true, or_self, if_false]

theorem createBackup_eq_nil {run : Run platform}
    (stops : ¬∃ archive manifest, run.Publishes limits directory archive manifest) :
    createBackup limits directory run = ([], false) := by
  unfold createBackup
  split
  · rfl
  · rename_i archive manifest staged
    split
    · rfl
    · rename_i free
      rw [not_or, Option.not_isSome_iff_eq_none, Option.not_isSome_iff_eq_none] at free
      exact absurd ⟨archive, manifest, staged, free.1, free.2⟩ stops

/-- Where an attempt can stop: before publication, between its two files, or
with both files published and some part of the pruning done. -/
inductive Stage (limits : Limits) (directory : Directory β) (attempt : Attempt platform) : Prop where
  | unchanged : attempt.after limits directory = directory →
      ¬ attempt.Returns limits directory → (∀ published, ¬ attempt.Prunes limits directory published) →
      ¬ attempt.Completes limits directory → Stage limits directory attempt
  | half (archive : Content β) (manifest : Manifest) :
      attempt.run.Publishes limits directory archive manifest →
      attempt.after limits directory = directory.put attempt.run.archiveName (.regular archive) →
      ¬ attempt.Returns limits directory → (∀ published, ¬ attempt.Prunes limits directory published) →
      ¬ attempt.Completes limits directory → Stage limits directory attempt
  | published (archive : Content β) (manifest : Manifest) (done : List Text) :
      attempt.run.Publishes limits directory archive manifest →
      attempt.after limits directory =
        applied (applied directory (attempt.run.publication archive manifest)) (done.map .unlink) →
      (∃ removed, done <+: removed ∧
        (pruneBackups limits platform (applied directory (attempt.run.publication archive manifest))
            attempt.run.retain = some removed ∧ (attempt.cut = none → done = removed) ∨
          pruneBackups limits platform (applied directory (attempt.run.publication archive manifest))
            attempt.run.retain = none ∧ removed = [])) → Stage limits directory attempt

theorem stage (limits : Limits) (directory : Directory β) (attempt : Attempt platform) :
    Stage limits directory attempt := by
  by_cases stops : ∃ archive manifest, attempt.run.Publishes limits directory archive manifest
  · obtain ⟨archive, manifest, publishes⟩ := stops
    obtain ⟨run, cut⟩ := attempt
    have early : ∀ count, count < 2 → cut = some count →
        ∀ published, ¬ Attempt.Prunes limits ⟨run, cut⟩ directory published := by
      rintro count small rfl published ⟨_, _, _, reached, _⟩
      have enough := reached count rfl
      omega
    rcases cut with _ | _ | _ | count
    · cases prunes : pruneBackups limits platform (applied directory (run.publication archive manifest)) run.retain with
      | none =>
        refine .published archive manifest [] publishes ?_ ⟨[], List.prefix_rfl, Or.inr ⟨prunes, rfl⟩⟩
        simp only [Attempt.after, createBackup_of_publishes publishes, prunes, List.map_nil]
        rfl
      | some removed =>
        refine .published archive manifest removed publishes ?_
          ⟨removed, List.prefix_rfl, Or.inl ⟨prunes, fun _ => rfl⟩⟩
        simp only [Attempt.after, createBackup_of_publishes publishes, prunes, applied_append]
    · exact .unchanged rfl (fun returns => nomatch returns.1) (early 0 (by decide) rfl) fun completes => nomatch completes.1
    · refine .half archive manifest publishes ?_ (fun returns => nomatch returns.1) (early 1 (by decide) rfl)
        fun completes => nomatch completes.1
      simp only [Attempt.after, createBackup_of_publishes publishes]
      split
      · rfl
      · rfl
    · cases prunes : pruneBackups limits platform (applied directory (run.publication archive manifest)) run.retain with
      | none =>
        refine .published archive manifest [] publishes ?_ ⟨[], List.prefix_rfl, Or.inr ⟨prunes, rfl⟩⟩
        simp only [Attempt.after, createBackup_of_publishes publishes, prunes, List.map_nil]
        rw [List.take_of_length_le (Nat.le_add_left 2 count)]
        rfl
      | some removed =>
        refine .published archive manifest (removed.take count) publishes ?_
          ⟨removed, List.take_prefix _ _, Or.inl ⟨prunes, fun ends => nomatch ends⟩⟩
        have part : (run.publication archive manifest ++ removed.map Op.unlink).take (count + 1 + 1) =
            run.publication archive manifest ++ (removed.take count).map Op.unlink := by
          rw [List.map_take]
          rfl
        simp only [Attempt.after, createBackup_of_publishes publishes, prunes]
        rw [part, applied_append]
  · have nothing := createBackup_eq_nil stops
    refine .unchanged ?_ ?_ ?_ fun completes => stops completes.2.1
    · simp only [Attempt.after, nothing, List.take_nil]
      split <;> rfl
    · rintro ⟨-, returned⟩
      rw [nothing] at returned
      cases returned
    · rintro published ⟨archive, manifest, publishes, -⟩
      exact stops ⟨archive, manifest, publishes⟩

/-- Nothing that publishing adds stops the catalog. -/
theorem dated_published_iff {run : Run platform} (publishes : run.Publishes limits directory archive manifest) :
    (∀ name, isArchiveName name →
      inspect platform limits (applied directory (run.publication archive manifest)) name ≠ .overflow) ↔
    ∀ name, isArchiveName name → inspect platform limits directory name ≠ .overflow := by
  constructor
  · intro dated name named overflows
    by_cases own : name = run.archiveName
    · have absent : inspect platform limits directory run.archiveName = .invalid := by
        unfold inspect
        rw [publishes.2.1]
      rw [own, absent] at overflows
      cases overflows
    · exact dated name named ((inspect_published named own).trans overflows)
  · intro dated name named overflows
    by_cases own : name = run.archiveName
    · rw [own, publishes.inspect_own] at overflows
      cases overflows
    · exact dated name named ((inspect_published named own).symm.trans overflows)

theorem returns_iff_completes : attempt.Returns limits directory ↔ attempt.Completes limits directory := by
  unfold Attempt.Returns Attempt.Completes
  refine and_congr_right fun _ => ?_
  by_cases stops : ∃ archive manifest, attempt.run.Publishes limits directory archive manifest
  · obtain ⟨archive, manifest, publishes⟩ := stops
    rw [← dated_published_iff publishes, ← pruneBackups_isSome_iff platform limits _ attempt.run.retain,
      createBackup_of_publishes publishes]
    cases pruneBackups limits platform (applied directory (attempt.run.publication archive manifest))
        attempt.run.retain with
    | none => simp
    | some removed => simpa using ⟨archive, manifest, publishes⟩
  · rw [createBackup_eq_nil stops]
    simp [stops]

theorem stillVerifies_refl : StillVerifies limits platform directory directory := fun _ _ paired was => was paired

theorem StillVerifies.trans {middle last : Directory β} (first : StillVerifies limits platform directory middle)
    (second : StillVerifies limits platform middle last) : StillVerifies limits platform directory last :=
  fun name named paired was => second name named paired fun before => first name named before was

theorem Run.Publishes.stillVerifies {run : Run platform} (publishes : run.Publishes limits directory archive manifest)
    (done : List Text) : StillVerifies limits platform directory
      (applied (applied directory (run.publication archive manifest)) (done.map .unlink)) := by
  intro name named paired was
  obtain ⟨before, same⟩ := inspect_of_paired platform limits paired
  unfold Verifies
  rw [same]
  by_cases own : name = run.archiveName
  · exact own ▸ ⟨_, _, publishes.inspect_own⟩
  · rw [inspect_published named own]
    refine was ⟨?_, ?_⟩
    · rw [← get?_published_archive named own]
      exact before.1
    · rw [← get?_published_manifest own]
      exact before.2

/-- At every cut a pair with both files present verifies, unless it was broken before. -/
theorem stillVerifies_after (attempt : Attempt platform) (directory : Directory β) :
    StillVerifies limits platform directory (attempt.after limits directory) := by
  cases stage limits directory attempt with
  | unchanged same =>
    rw [same]
    exact stillVerifies_refl
  | half archive manifest publishes same =>
    rw [same]
    intro name named paired was
    by_cases own : name = attempt.run.archiveName
    · -- the new manifest is not there yet
      have different : attempt.run.archiveName ≠ attempt.run.archiveName ++ manifestSuffix :=
        archive_ne_manifest (isArchiveName_archiveName _)
      refine absurd ?_ paired.2
      rw [own, Directory.get?_put, if_neg different]
      exact publishes.2.2
    · have archive_same : (directory.put attempt.run.archiveName (.regular archive)).get? name =
          directory.get? name := by
        rw [Directory.get?_put, if_neg (Ne.symm own)]
      have manifest_same : (directory.put attempt.run.archiveName (.regular archive)).get? (name ++ manifestSuffix) =
          directory.get? (name ++ manifestSuffix) := by
        rw [Directory.get?_put, if_neg (archive_ne_manifest (isArchiveName_archiveName _))]
      unfold Verifies
      rw [inspect_congr archive_same manifest_same]
      exact was ⟨archive_same ▸ paired.1, manifest_same ▸ paired.2⟩
  | published archive manifest done publishes same =>
    rw [same]
    exact publishes.stillVerifies done

/-- The new backup is pruned exactly when `retain` verified pairs rank above it. -/
theorem Run.Publishes.mem_removed_iff {run : Run platform} (publishes : run.Publishes limits directory archive manifest)
    {removed : List Text}
    (prunes : pruneBackups limits platform (applied directory (run.publication archive manifest)) run.retain =
      some removed) : run.archiveName ∈ removed ↔ run.retain ≤ run.newer limits directory := by
  rw [archive_mem_removed_iff prunes (isArchiveName_archiveName run), ← publishes.newer_eq, publishes.inspect_own]
  constructor
  · rintro ⟨createdAt, payload, same, many⟩
    cases same
    exact many
  · exact fun many => ⟨_, _, rfl, many⟩

theorem Attempt.Prunes.eq {published : Directory β} (prunes : attempt.Prunes limits directory published)
    (publishes : attempt.run.Publishes limits directory archive manifest) :
    published = applied directory (attempt.run.publication archive manifest) := by
  obtain ⟨ownArchive, ownManifest, own, -, rfl⟩ := prunes
  obtain ⟨rfl, rfl⟩ := Prod.mk.inj (Option.some.inj (own.1.symm.trans publishes.1))
  rfl

theorem keeps_iff (attempt : Attempt platform) (directory : Directory β) : attempt.Keeps limits directory ↔
    (attempt.Completes limits directory → attempt.run.newer limits directory < attempt.run.retain) := by
  cases stage limits directory attempt with
  | unchanged same stops early incomplete =>
    exact ⟨fun _ completes => absurd completes incomplete, fun _ => ⟨fun returns => absurd returns stops,
      fun published prunes => absurd prunes (early published), fun published prunes => absurd prunes (early published),
      stillVerifies_after attempt directory⟩⟩
  | half archive manifest publishes same stops early incomplete =>
    exact ⟨fun _ completes => absurd completes incomplete, fun _ => ⟨fun returns => absurd returns stops,
      fun published prunes => absurd prunes (early published), fun published prunes => absurd prunes (early published),
      stillVerifies_after attempt directory⟩⟩
  | published archive manifest done publishes same pruned =>
    obtain ⟨removed, part, pruned⟩ := pruned
    have ends : attempt.Completes limits directory → done = removed ∧
        pruneBackups limits platform (applied directory (attempt.run.publication archive manifest))
          attempt.run.retain = some removed := by
      intro completes
      rcases pruned with ⟨prunes, whole⟩ | ⟨prunes, -⟩
      · exact ⟨whole completes.1, prunes⟩
      · have dated := (pruneBackups_isSome_iff platform limits _ attempt.run.retain).mpr ((dated_published_iff publishes).mpr completes.2.2)
        rw [prunes] at dated
        cases dated
    constructor
    · intro keeps completes
      obtain ⟨rfl, prunes⟩ := ends completes
      rw [← Nat.not_le, ← publishes.mem_removed_iff prunes]
      intro gone
      have present := (keeps.own (returns_iff_completes.mpr completes)).1.1
      rw [same, get?_unlinks, if_pos gone] at present
      exact present rfl
    · intro few
      refine ⟨?_, ?_, ?_, stillVerifies_after attempt directory⟩
      · intro returns
        have completes := returns_iff_completes.mp returns
        obtain ⟨rfl, prunes⟩ := ends completes
        have survives : attempt.run.archiveName ∉ done := by
          rw [publishes.mem_removed_iff prunes]
          exact Nat.not_le.mpr (few completes)
        have sidecar : attempt.run.archiveName ++ manifestSuffix ∉ done := fun gone =>
          survives ((manifest_mem_removed_iff prunes).mp gone).2
        have verified : inspect platform limits (attempt.after limits directory) attempt.run.archiveName =
            .verified attempt.run.clock.instant manifest := by
          rw [same, ← publishes.inspect_own]
          exact inspect_congr (by rw [get?_unlinks, if_neg survives]) (by rw [get?_unlinks, if_neg sidecar])
        exact ⟨paired_of_verified verified, _, _, verified⟩
      · intro published prunes catalog cataloged file unverified
        cases prunes.eq publishes
        rw [same, get?_unlinks, if_neg]
        intro gone
        rcases pruned with ⟨prunes, -⟩ | ⟨-, rfl⟩
        · exact unverifiedFiles_kept prunes cataloged unverified (part.subset gone)
        · exact absurd (part.subset gone) List.not_mem_nil
      · intro published prunes
        cases prunes.eq publishes
        rw [same]
        rcases pruned with ⟨prunes, -⟩ | ⟨-, rfl⟩
        · exact enough_verified prunes part
        · rw [List.prefix_nil.mp part]
          exact min_le_right _ _

theorem stillVerifies_afterAll (attempts : List (Attempt platform)) (directory : Directory β) :
    StillVerifies limits platform directory (afterAll limits directory attempts) := by
  induction attempts generalizing directory with
  | nil => exact stillVerifies_refl
  | cons attempt rest ih => exact (stillVerifies_after attempt directory).trans (ih _)

/-- In a sequence of attempts everything promised is kept exactly when every
run that completes finds fewer than `retain` verified pairs above its own clock reading. -/
theorem retention_kept_iff (platform : Platform β) (limits : Limits) (directory : Directory β)
    (attempts : List (Attempt platform)) :
    (∀ earlier attempt later, attempts = earlier ++ attempt :: later →
      attempt.Keeps limits (afterAll limits directory earlier) ∧
        StillVerifies limits platform directory (afterAll limits directory (earlier ++ [attempt]))) ↔
    ∀ earlier attempt later, attempts = earlier ++ attempt :: later →
      attempt.Completes limits (afterAll limits directory earlier) →
        attempt.run.newer limits (afterAll limits directory earlier) < attempt.run.retain := by
  constructor
  · intro kept earlier attempt later split
    exact (keeps_iff attempt _).mp (kept earlier attempt later split).1
  · intro few earlier attempt later split
    exact ⟨(keeps_iff attempt _).mpr (few earlier attempt later split), stillVerifies_afterAll _ _⟩

end Attempts

/-- Archives of an empty state directory, and two midnights. -/
def emptyArchives : Platform Unit where
  size _ := 45
  sha256 _ := text "272adeccafe73e7009d51f2ec2be9871db5e0eb14239f483ea429be26c3c6402"
  members _ _ := some []
  safeMemberPath _ := true
  fromisoformat value :=
    if value = text "2026-01-01T00:00:00+00:00" then .at 1767225600000000
    else if value = text "2026-01-02T00:00:00+00:00" then .at 1767312000000000
    else .malformed

def emptyArchiveRun (clock : Clock emptyArchives.fromisoformat) (token : Text) : Run emptyArchives where
  retain := 1
  clock := clock
  token := token
  sourceName := text "state"
  built := some (.data (), 0, 0)

def aheadRun : Run emptyArchives :=
  emptyArchiveRun
    { instant := 1767312000000000, strftime := text "20260102T000000Z", dateTime := text "2026-01-02T00:00:00"
      solid := by decide, reads := by decide } (text "0a1b2c3d")

def steppedBackRun : Run emptyArchives :=
  emptyArchiveRun
    { instant := 1767225600000000, strftime := text "20260101T000000Z", dateTime := text "2026-01-01T00:00:00"
      solid := by decide, reads := by decide } (text "4e5f6a7b")

def usualLimits : Limits := ⟨10000, 1073741824, 268435456⟩

/-- A run whose clock stepped back by a day returns normally without its backup. -/
theorem stepped_back_run_prunes_itself :
    steppedBackRun.retain = 1 ∧
      Attempt.Returns usualLimits ⟨steppedBackRun, none⟩
        (afterAll usualLimits ⟨[], List.nodup_nil⟩ [⟨aheadRun, none⟩]) ∧
      (Attempt.after usualLimits ⟨steppedBackRun, none⟩
        (afterAll usualLimits ⟨[], List.nodup_nil⟩ [⟨aheadRun, none⟩])).get? steppedBackRun.archiveName = none ∧
      ¬ Attempt.Keeps usualLimits ⟨steppedBackRun, none⟩
        (afterAll usualLimits ⟨[], List.nodup_nil⟩ [⟨aheadRun, none⟩]) := by
  have returns : Attempt.Returns usualLimits ⟨steppedBackRun, none⟩
      (afterAll usualLimits ⟨[], List.nodup_nil⟩ [⟨aheadRun, none⟩]) := ⟨rfl, by decide⟩
  have gone : ((Attempt.after usualLimits ⟨steppedBackRun, none⟩
      (afterAll usualLimits ⟨[], List.nodup_nil⟩ [⟨aheadRun, none⟩])).get? steppedBackRun.archiveName).isNone := by
    decide
  rw [Option.isNone_iff_eq_none] at gone
  exact ⟨rfl, returns, gone, fun keeps => (keeps.own returns).1.1 gone⟩

end MarketSentinel.Backup
