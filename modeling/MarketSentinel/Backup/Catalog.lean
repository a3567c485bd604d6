import MarketSentinel.Library.Dict
import MarketSentinel.Library.Json
import MarketSentinel.Library.StableSort
import Mathlib.Data.Prod.Lex

/-! The backup directory and its catalog.

A backup is an archive beside a manifest. The staging directory of a backup
has a name that the catalog skips, so it is left out here.
-/

set_option autoImplicit false

namespace MarketSentinel.Backup

open Python

def backupPrefix : Text := text "market-sentinel-state-"

def archiveSuffix : Text := text ".tar.gz"

def manifestSuffix : Text := text ".json"

def schemaVersion : Int := 1

/-- A file holds a JSON document or other bytes. -/
inductive Content (β : Type) where
  | document (payload : Json)
  | data (bytes : β)

/-- A symbolic link, a directory or a special file is not a regular file. -/
inductive Entry (β : Type) where
  | regular (content : Content β)
  | other

structure Directory (β : Type) where
  entries : Dict Text (Entry β)
  distinct : (entries.map Prod.fst).Nodup

namespace Directory

variable {β : Type} (directory : Directory β)

def get? (name : Text) : Option (Entry β) := Dict.get? directory.entries name

def names : List Text := directory.entries.map Prod.fst

/-- `os.replace` of a staged file. -/
def put (name : Text) (entry : Entry β) : Directory β where
  entries := directory.entries.set name entry
  distinct := Dict.nodup_set directory.distinct name entry

def unlink (name : Text) : Directory β where
  entries := Dict.erase directory.entries name
  distinct := (Dict.keys_erase_sublist directory.entries name).nodup directory.distinct

@[simp] theorem get?_put (name other : Text) (entry : Entry β) :
    (directory.put name entry).get? other = if name = other then some entry else directory.get? other :=
  Dict.get?_set directory.entries name other entry

@[simp] theorem get?_unlink (name other : Text) :
    (directory.unlink name).get? other = if name = other then none else directory.get? other :=
  Dict.get?_erase directory.entries name other

theorem mem_names_iff (name : Text) : name ∈ directory.names ↔ directory.get? name ≠ none := by
  rw [names, ← Dict.get?_isSome_iff, Option.isSome_iff_ne_none]
  rfl

end Directory

structure Member where
  name : Text
  size : Nat
  /-- `member.isfile() or member.isdir()`. -/
  plain : Bool

structure Limits where
  maxMembers : Nat
  maxBytes : Nat
  maxArchiveBytes : Nat

/-- `datetime.fromisoformat` and the change to UTC: microseconds since the epoch. -/
inductive Moment where
  | malformed
  | naive
  | overflow
  | at (instant : Int)
  deriving DecidableEq

structure Platform (β : Type) where
  size : Content β → Nat
  sha256 : Content β → Text
  /-- The members of a complete bounded gzip and tar stream. -/
  members : Limits → Content β → Option (List Member)
  safeMemberPath : Text → Bool
  fromisoformat : Text → Moment

/-- Why a backup is refused. -/
inductive Fault where
  | unreadableManifest
  | schemaVersion
  | otherArchive
  | unusableChecksum
  | archiveSize
  | checksum
  | unreadableArchive
  | memberCount
  | unsafeMember
  | uncompressedSize
  | fileCount
  | byteCount
  deriving DecidableEq

abbrev Manifest := Dict Text Json

def loadManifest {β : Type} (archiveName : Text) : Content β → Except Fault Manifest
  | .document (.obj payload) =>
    if ! (Dict.get? payload (text "schema_version")).any (·.sameKey (.int schemaVersion)) then .error .schemaVersion
    else if Dict.get? payload (text "archive") ≠ some (.str archiveName) then .error .otherArchive
    else
      match Dict.get? payload (text "sha256") with
      | some (.str expected) => if expected.length ≠ 64 then .error .unusableChecksum else .ok payload
      | _ => .error .unusableChecksum
  | .document _ => .error .schemaVersion
  | .data _ => .error .unreadableManifest

def manifestCreatedAt (fromisoformat : Text → Moment) (payload : Manifest) : Moment :=
  match Dict.get? payload (text "created_at") with
  | some (.str value) =>
    let normalized := strip value
    if normalized = [] then .malformed
    else if normalized.getLast? = (text "Z").getLast? then fromisoformat (normalized.dropLast ++ text "+00:00")
    else fromisoformat normalized
  | _ => .malformed

section Reading

variable {β : Type} (platform : Platform β) (limits : Limits)

/-- The walk over the members adds up their sizes under both limits. -/
def measure (count total : Nat) : List Member → Except Fault (Nat × Nat)
  | [] => .ok (count, total)
  | member :: rest =>
    if limits.maxMembers < count + 1 then .error .memberCount
    else if ! platform.safeMemberPath member.name then .error .unsafeMember
    else if ! member.plain then .error .unsafeMember
    else if limits.maxBytes < total + member.size then .error .uncompressedSize
    else measure (count + 1) (total + member.size) rest

def verifyBackup (archiveName : Text) (archive manifest : Content β) : Except Fault Manifest := do
  let payload ← loadManifest archiveName manifest
  if limits.maxArchiveBytes < platform.size archive then .error .archiveSize
  else if Dict.get? payload (text "sha256") ≠ some (.str (platform.sha256 archive)) then .error .checksum
  else
    match platform.members limits archive with
    | none => .error .unreadableArchive
    | some members =>
      let (count, total) ← measure platform limits 0 0 members
      if ! (Dict.get? payload (text "file_count")).any (·.sameKey (.int count)) then .error .fileCount
      else if ! (Dict.get? payload (text "uncompressed_bytes")).any (·.sameKey (.int total)) then .error .byteCount
      else .ok payload

/-- What the catalog makes of one pair. A creation time that UTC cannot hold is
an error that the catalog does not catch. -/
inductive Inspection where
  | verified (createdAt : Int) (manifest : Manifest)
  | invalid
  | overflow
  deriving DecidableEq

def inspect (directory : Directory β) (archiveName : Text) : Inspection :=
  match directory.get? archiveName, directory.get? (archiveName ++ manifestSuffix) with
  | some (.regular archive), some (.regular manifest) =>
    match verifyBackup platform limits archiveName archive manifest with
    | .error _ => .invalid
    | .ok payload =>
      match manifestCreatedAt platform.fromisoformat payload with
      | .at createdAt => .verified createdAt payload
      | .overflow => .overflow
      | .malformed | .naive => .invalid
  | _, _ => .invalid

structure VerifiedBackup where
  archive : Text
  createdAt : Int
  manifest : Manifest

/-- Backups are ordered by creation time, then by name. -/
def VerifiedBackup.rank (backup : VerifiedBackup) : ℤ ×ₗ Text := toLex (backup.createdAt, backup.archive)

structure Catalog where
  verified : List VerifiedBackup
  orphanArchives : List Text
  orphanManifests : List Text
  invalidPairs : List Text

def isArchiveName (name : Text) : Bool := backupPrefix.isPrefixOf name && archiveSuffix.isSuffixOf name

def isManifestName (name : Text) : Bool :=
  ! isArchiveName name && backupPrefix.isPrefixOf name && (archiveSuffix ++ manifestSuffix).isSuffixOf name

variable (directory : Directory β)

def archives : List Text := directory.names.filter isArchiveName

/-- The archive names that the manifests belong to. -/
def manifests : List Text :=
  (directory.names.filter isManifestName).map fun name => name.take (name.length - manifestSuffix.length)

def pairs : List Text := ((archives directory).filter (· ∈ manifests directory)).insertionSort (· ≤ ·)

def verifiedBackup (archiveName : Text) : Option VerifiedBackup :=
  match inspect platform limits directory archiveName with
  | .verified createdAt manifest => some ⟨archiveName, createdAt, manifest⟩
  | _ => none

def verifiedBackups : List VerifiedBackup := (pairs directory).filterMap (verifiedBackup platform limits directory)

def catalogVerifiedBackups : Option Catalog :=
  if (pairs directory).any fun name => inspect platform limits directory name = .overflow then none
  else some {
    verified := (verifiedBackups platform limits directory).insertionSort fun a b => b.rank ≤ a.rank
    orphanArchives := ((archives directory).filter (· ∉ manifests directory)).insertionSort (· ≤ ·)
    orphanManifests :=
      (((manifests directory).filter (· ∉ archives directory)).map (· ++ manifestSuffix)).insertionSort (· ≤ ·)
    invalidPairs :=
      ((pairs directory).filter fun name => inspect platform limits directory name = .invalid).insertionSort (· ≤ ·) }

/-- Both files of a backup have a name in the directory. -/
def Paired (archiveName : Text) : Prop :=
  directory.get? archiveName ≠ none ∧ directory.get? (archiveName ++ manifestSuffix) ≠ none

/-- What the catalog calls verified. -/
def Verifies (archiveName : Text) : Prop :=
  ∃ createdAt manifest, inspect platform limits directory archiveName = .verified createdAt manifest

variable {platform limits directory}

private theorem last_letters_differ : (archiveSuffix.getLast?, manifestSuffix.getLast?) = (some 122, some 110) := by
  decide

theorem archive_ne_manifest {archiveName other : Text} (archive : isArchiveName archiveName) :
    archiveName ≠ other ++ manifestSuffix := by
  rintro rfl
  simp only [isArchiveName, Bool.and_eq_true, List.isSuffixOf_iff_suffix] at archive
  obtain ⟨-, front, same⟩ := archive
  obtain ⟨archiveEnd, manifestEnd⟩ := Prod.mk.inj last_letters_differ
  have last := congrArg List.getLast? same
  rw [List.getLast?_append, List.getLast?_append, archiveEnd, manifestEnd] at last
  cases last

theorem manifestName_isManifestName {archiveName : Text} (archive : isArchiveName archiveName) :
    isManifestName (archiveName ++ manifestSuffix) := by
  simp only [isArchiveName, Bool.and_eq_true, List.isPrefixOf_iff_prefix, List.isSuffixOf_iff_suffix] at archive
  obtain ⟨starts, ends⟩ := archive
  simp only [isManifestName, Bool.and_eq_true, Bool.not_eq_true', List.isPrefixOf_iff_prefix,
    List.isSuffixOf_iff_suffix]
  refine ⟨⟨?_, starts.trans (List.prefix_append _ _)⟩, ?_⟩
  · rw [← Bool.not_eq_true]
    exact fun other => archive_ne_manifest other rfl
  · obtain ⟨front, rfl⟩ := ends
    exact ⟨front, by rw [List.append_assoc]⟩

theorem mem_archives_iff (name : Text) :
    name ∈ archives directory ↔ isArchiveName name ∧ directory.get? name ≠ none := by
  rw [archives, List.mem_filter, directory.mem_names_iff, and_comm]

theorem mem_manifests_of_archive {name : Text} (archive : isArchiveName name)
    (present : directory.get? (name ++ manifestSuffix) ≠ none) : name ∈ manifests directory := by
  refine List.mem_map.mpr ⟨name ++ manifestSuffix, List.mem_filter.mpr ⟨?_, manifestName_isManifestName archive⟩, ?_⟩
  · exact (directory.mem_names_iff _).mpr present
  · rw [List.length_append, Nat.add_sub_cancel, List.take_left]

theorem manifest_of_mem_manifests {name : Text} (member : name ∈ manifests directory) :
    directory.get? (name ++ manifestSuffix) ≠ none := by
  obtain ⟨file, chosen, rfl⟩ := List.mem_map.mp member
  obtain ⟨listed, named⟩ := List.mem_filter.mp chosen
  simp only [isManifestName, Bool.and_eq_true, List.isSuffixOf_iff_suffix] at named
  obtain ⟨-, front, rfl⟩ := named
  rw [← List.append_assoc, List.length_append, Nat.add_sub_cancel, List.take_left, List.append_assoc]
  exact (directory.mem_names_iff _).mp listed

theorem mem_pairs_iff (name : Text) : name ∈ pairs directory ↔ isArchiveName name ∧ Paired directory name := by
  rw [pairs, List.mem_insertionSort, List.mem_filter, mem_archives_iff, decide_eq_true_iff]
  constructor
  · rintro ⟨⟨archive, present⟩, listed⟩
    exact ⟨archive, present, manifest_of_mem_manifests listed⟩
  · rintro ⟨archive, present, listed⟩
    exact ⟨⟨archive, present⟩, mem_manifests_of_archive archive listed⟩

theorem nodup_pairs : (pairs directory).Nodup :=
  (List.perm_insertionSort _ _).nodup_iff.mpr ((directory.distinct.filter _).filter _)

theorem paired_of_verified {name : Text} {createdAt : Int} {manifest : Manifest}
    (verified : inspect platform limits directory name = .verified createdAt manifest) : Paired directory name := by
  unfold inspect at verified
  split at verified
  · rename_i own sidecar
    exact ⟨by rw [own]; exact Option.some_ne_none _, by rw [sidecar]; exact Option.some_ne_none _⟩
  · cases verified

/-- The catalog looks at nothing but the two files of a pair. -/
theorem inspect_congr {other : Directory β} {name : Text} (archive : other.get? name = directory.get? name)
    (sidecar : other.get? (name ++ manifestSuffix) = directory.get? (name ++ manifestSuffix)) :
    inspect platform limits other name = inspect platform limits directory name := by
  unfold inspect
  rw [archive, sidecar]

theorem verifiedBackup_eq_some_iff (name : Text) (backup : VerifiedBackup) :
    verifiedBackup platform limits directory name = some backup ↔
      backup.archive = name ∧ inspect platform limits directory name = .verified backup.createdAt backup.manifest := by
  unfold verifiedBackup
  cases inspect platform limits directory name with
  | verified createdAt manifest =>
    constructor
    · intro found
      cases found
      exact ⟨rfl, rfl⟩
    · rintro ⟨rfl, same⟩
      cases same
      rfl
  | invalid => simp
  | overflow => simp

theorem mem_verifiedBackups_iff (backup : VerifiedBackup) :
    backup ∈ verifiedBackups platform limits directory ↔
      isArchiveName backup.archive ∧
        inspect platform limits directory backup.archive = .verified backup.createdAt backup.manifest := by
  rw [verifiedBackups, List.mem_filterMap]
  constructor
  · rintro ⟨name, member, found⟩
    obtain ⟨rfl, verified⟩ := (verifiedBackup_eq_some_iff _ _).mp found
    exact ⟨((mem_pairs_iff _).mp member).1, verified⟩
  · rintro ⟨archive, verified⟩
    exact ⟨backup.archive, (mem_pairs_iff _).mpr ⟨archive, paired_of_verified verified⟩,
      (verifiedBackup_eq_some_iff _ _).mpr ⟨rfl, verified⟩⟩

theorem nodup_archives_verifiedBackups :
    ((verifiedBackups platform limits directory).map VerifiedBackup.archive).Nodup := by
  have same : (verifiedBackups platform limits directory).map VerifiedBackup.archive =
      (pairs directory).filter fun name => (verifiedBackup platform limits directory name).isSome := by
    rw [verifiedBackups]
    induction pairs directory with
    | nil => rfl
    | cons name rest ih =>
      rw [List.filterMap_cons, List.filter_cons]
      cases found : verifiedBackup platform limits directory name with
      | none => exact ih
      | some backup => rw [List.map_cons, ih, ((verifiedBackup_eq_some_iff _ _).mp found).1]; rfl
  rw [same]
  exact nodup_pairs.filter _

theorem nodup_ranks_verifiedBackups :
    ((verifiedBackups platform limits directory).map VerifiedBackup.rank).Nodup := by
  refine List.Nodup.of_map (fun rank : ℤ ×ₗ Text => (ofLex rank).2) ?_
  rw [List.map_map]
  exact nodup_archives_verifiedBackups

end Reading

end MarketSentinel.Backup
