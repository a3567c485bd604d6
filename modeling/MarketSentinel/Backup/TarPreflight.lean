import Mathlib.Data.List.DropRight
import MarketSentinel.Library.Loop
import MarketSentinel.Library.Positional
import MarketSentinel.Library.Text

/-! The check of the tar headers before the stream of a backup is handed on.

Bytes are read and skipped at a cursor of their own; the offset counts along.
`_verified_archive` refuses a bound on the members below one.
-/

set_option autoImplicit false

namespace MarketSentinel.Backup

open Python Loop

abbrev Bytes := List UInt8

/-- A binary file at a position. -/
structure File where
  bytes : Bytes
  position : Nat

namespace File

def seek (file : File) (position : Nat) : File := { file with position }

/-- `seek` from `SEEK_CUR`. -/
def skip (file : File) (count : Nat) : File := { file with position := file.position + count }

/-- The next bytes, fewer of them before the end. -/
def read (file : File) (count : Nat) : Bytes × File :=
  let chunk := (file.bytes.drop file.position).take count
  (chunk, file.skip chunk.length)

end File

def tarBlockBytes : Nat := 512

def tarExtensionTypes : List Bytes := [[0x78], [0x67], [0x4C], [0x4B]]

def tarSupportedTypes : List Bytes := [[0], [0x30], [0x35]] ++ tarExtensionTypes

def defaultMaxTarMetadataBytes : Nat := 1048576

def zeroBlock : Bytes := List.replicate tarBlockBytes 0

def typeFlag (header : Bytes) : Bytes := (header.take 157).drop 156

def sizeField (header : Bytes) : Bytes := (header.take 136).drop 124

def isBlank (byte : UInt8) : Bool := decide (byte = 0x00) || decide (byte = 0x20)

def isOctal (byte : UInt8) : Bool := decide (0x30 ≤ byte) && decide (byte ≤ 0x37)

def octal (digits : Bytes) : Nat := Positional.value 8 (digits.map fun byte => byte.toNat - 0x30)

def parseTarSize (field : Bytes) : Except Text Nat :=
  if field.head?.all (fun first => decide (first &&& 0x80 ≠ 0)) then
    .error (text "backup archive contains an unsupported tar size encoding")
  else
    let value := (field.rdropWhile isBlank).dropWhile fun byte => decide (byte = 0x20)
    if value = [] then .ok 0
    else if value.any (! isOctal ·) then .error (text "backup archive contains an invalid tar size")
    else .ok (octal value)

def paddedSize (memberSize : Nat) : Nat := (memberSize + tarBlockBytes - 1) / tarBlockBytes * tarBlockBytes

/-- The state of the loop over the headers. -/
structure Scan where
  expanded : File
  offset : Nat
  zeroHeaders : Nat
  memberCount : Nat
  extensionCount : Nat
  extensionBytes : Nat

/-- The member counts, when they stay in their bounds. -/
def Scan.count (scan : Scan) (maxMembers : Nat) (flag : Bytes) (memberSize : Nat) : Except Text Scan :=
  if flag ∈ tarExtensionTypes then
    if maxMembers + 16 < scan.extensionCount + 1 ∨ defaultMaxTarMetadataBytes < scan.extensionBytes + memberSize then
      .error (text "backup archive tar metadata exceeds restore safety limits")
    else
      .ok { scan with
        extensionCount := scan.extensionCount + 1
        extensionBytes := scan.extensionBytes + memberSize }
  else if maxMembers < scan.memberCount + 1 then .error (text "backup archive exceeds restore safety limits")
  else .ok { scan with memberCount := scan.memberCount + 1 }

/-- One turn of the loop behind the end marker. -/
def endTurn (expandedBytes : Nat) (state : File × Nat) : Turn (File × Nat) (Except Text File) :=
  let (expanded, offset) := state
  if offset < expandedBytes then
    let (chunk, expanded) := expanded.read (min (1024 * 1024) (expandedBytes - offset))
    if chunk = [] ∨ chunk.any (· ≠ 0) then
      .done (.error (text "backup archive contains data after the tar end marker"))
    else .again (expanded, offset + chunk.length)
  else .done (.ok (expanded.seek 0))

theorem endTurn_lowers (expandedBytes : Nat) :
    Lowers (endTurn expandedBytes) fun state => expandedBytes - state.2 := by
  rintro ⟨expanded, offset⟩ next turned
  unfold endTurn File.read at turned
  dsimp only at turned
  split at turned
  · rename_i before
    split at turned
    · cases turned
    · rename_i zeros
      cases turned
      have some := List.length_pos_of_ne_nil (not_or.mp zeros).1
      dsimp only
      omega
  · cases turned

/-- One turn of the loop over the headers. -/
def headerTurn (expandedBytes maxMembers : Nat) (scan : Scan) : Turn Scan (Except Text File) :=
  if scan.offset < expandedBytes then
    let (header, expanded) := scan.expanded.read tarBlockBytes
    if header.length ≠ tarBlockBytes then .done (.error (text "backup archive has a truncated tar header"))
    else
      let offset := scan.offset + tarBlockBytes
      if header = zeroBlock then
        if scan.zeroHeaders + 1 < 2 then
          .again { scan with expanded := expanded, offset := offset, zeroHeaders := scan.zeroHeaders + 1 }
        else .done (run (endTurn expandedBytes) _ (endTurn_lowers expandedBytes) (expanded, offset))
      else if scan.zeroHeaders ≠ 0 then .done (.error (text "backup archive contains an incomplete tar end marker"))
      else if typeFlag header ∉ tarSupportedTypes then
        .done (.error (text "backup archive contains an unsupported member type"))
      else
        match parseTarSize (sizeField header) with
        | .error message => .done (.error message)
        | .ok memberSize =>
          match scan.count maxMembers (typeFlag header) memberSize with
          | .error message => .done (.error message)
          | .ok counted =>
            if expandedBytes < offset + paddedSize memberSize then
              .done (.error (text "backup archive member exceeds the bounded tar stream"))
            else
              .again { counted with
                expanded := expanded.skip (paddedSize memberSize)
                offset := offset + paddedSize memberSize }
  else .done (.error (text "backup archive has no complete tar end marker"))

theorem headerTurn_lowers (expandedBytes maxMembers : Nat) :
    Lowers (headerTurn expandedBytes maxMembers) fun scan => expandedBytes - scan.offset := by
  intro scan next turned
  unfold headerTurn tarBlockBytes at turned
  dsimp only at turned
  split at turned
  · rename_i before
    split at turned
    · cases turned
    · split at turned
      · split at turned
        · cases turned
          dsimp only
          omega
        · cases turned
      · split at turned
        · cases turned
        · split at turned
          · cases turned
          · split at turned
            · cases turned
            · split at turned
              · cases turned
              · split at turned
                · cases turned
                · cases turned
                  dsimp only
                  omega
  · cases turned

def Scan.start (expanded : File) : Scan := ⟨expanded.seek 0, 0, 0, 0, 0, 0⟩

/-- The file that is handed on, or the refusal. -/
def preflightTarHeaders (expanded : File) (expandedBytes maxMembers : Nat) : Except Text File :=
  run (headerTurn expandedBytes maxMembers) _ (headerTurn_lowers expandedBytes maxMembers) (Scan.start expanded)

/-! The grammar. -/

/-- Octal digits between spaces and a filling of spaces and NULs. -/
def OctalField (field : Bytes) (size : Nat) : Prop :=
  ∃ left digits right, field = left ++ digits ++ right ∧ (∀ byte ∈ left, byte = 0x20) ∧
    (∀ byte ∈ digits, isOctal byte = true) ∧ (∀ byte ∈ right, isBlank byte = true) ∧ size = octal digits

/-- A header with its content. -/
structure TarMember where
  header : Bytes
  size : Nat
  content : Bytes
  block : header.length = tarBlockBytes
  nonzero : header ≠ zeroBlock
  supported : typeFlag header ∈ tarSupportedTypes
  ascii : ∀ first ∈ (sizeField header).head?, first < 0x80
  sized : OctalField (sizeField header) size
  padded : content.length = paddedSize size

namespace TarMember

def bytes (member : TarMember) : Bytes := member.header ++ member.content

def extension (member : TarMember) : Bool := decide (typeFlag member.header ∈ tarExtensionTypes)

end TarMember

def extensionsOf (members : List TarMember) : List TarMember := members.filter TarMember.extension

def ordinaryOf (members : List TarMember) : List TarMember := members.filter (! TarMember.extension ·)

/-- Members in their bounds, two zero blocks, and zeros. -/
def TarArchive (maxMembers : Nat) (bytes : Bytes) : Prop :=
  ∃ (members : List TarMember) (filling : Bytes), bytes = members.flatMap TarMember.bytes ++ (zeroBlock ++ zeroBlock ++ filling) ∧
    (∀ byte ∈ filling, byte = 0) ∧ (ordinaryOf members).length ≤ maxMembers ∧
    (extensionsOf members).length ≤ maxMembers + 16 ∧
    ((extensionsOf members).map TarMember.size).sum ≤ defaultMaxTarMetadataBytes

/-! The size field. -/

theorem ascii_iff (byte : UInt8) : byte &&& 0x80 = 0 ↔ byte < 0x80 := by
  have every : ∀ bits : BitVec 8, bits &&& 0x80#8 = 0#8 ↔ bits < 0x80#8 := by decide
  rw [UInt8.lt_iff_toBitVec_lt, ← UInt8.toBitVec_inj]
  exact every byte.toBitVec

theorem isOctal_notBlank {byte : UInt8} (digit : isOctal byte = true) : isBlank byte = false := by
  have every : ∀ bits : BitVec 8, isOctal ⟨bits⟩ = true → isBlank ⟨bits⟩ = false := by decide
  exact every byte.toBitVec digit

/-- Trimming a field leaves its digits. -/
theorem trimmed {left digits right : Bytes} (spaces : ∀ byte ∈ left, byte = 0x20)
    (octals : ∀ byte ∈ digits, isOctal byte = true) (blanks : ∀ byte ∈ right, isBlank byte = true) :
    ((left ++ digits ++ right).rdropWhile isBlank).dropWhile (fun byte => decide (byte = 0x20)) = digits := by
  have behind : (left ++ digits ++ right).rdropWhile isBlank = (left ++ digits).rdropWhile isBlank := by
    unfold List.rdropWhile
    rw [List.reverse_append, List.dropWhile_append_of_pos]
    simpa using blanks
  rw [behind]
  rcases digits.eq_nil_or_concat with none | ⟨front, last, ends⟩
  · have all : (left ++ digits).rdropWhile isBlank = [] := by
      rw [List.rdropWhile_eq_nil_iff, none, List.append_nil]
      intro byte member
      rw [spaces byte member]
      rfl
    rw [all, none]
    rfl
  · have kept : (left ++ digits).rdropWhile isBlank = left ++ digits := by
      have notBlank := isOctal_notBlank (octals last (by rw [ends]; simp))
      rw [ends, List.concat_eq_append, ← List.append_assoc, List.rdropWhile_concat_neg]
      rw [notBlank]
      exact Bool.false_ne_true
    rw [kept, List.dropWhile_append_of_pos (by simpa using spaces)]
    cases digits with
    | nil => rfl
    | cons first rest =>
      have notBlank := isOctal_notBlank (octals first List.mem_cons_self)
      apply List.dropWhile_cons_of_neg
      simp only [isBlank, Bool.or_eq_false_iff] at notBlank
      rw [notBlank.2]
      exact Bool.false_ne_true

theorem parseTarSize_eq_ok (field : Bytes) (size : Nat) :
    parseTarSize field = .ok size ↔
      field ≠ [] ∧ (∀ first ∈ field.head?, first < 0x80) ∧ OctalField field size := by
  cases field with
  | nil => simp [parseTarSize]
  | cons first rest =>
    have encoding : ((first :: rest).head?.all fun first => decide (first &&& 0x80 ≠ 0)) = true ↔ ¬first < 0x80 := by
      rw [← ascii_iff]
      simp
    constructor
    · intro parsed
      unfold parseTarSize at parsed
      by_cases high : first < 0x80
      · rw [if_neg (by rw [encoding]; exact not_not.mpr high)] at parsed
        refine ⟨List.cons_ne_nil _ _, by simpa using high, ?_⟩
        generalize first :: rest = field at parsed
        dsimp only at parsed
        have ends := List.rdropWhile_append_rtakeWhile (p := isBlank) (l := field)
        have begins := List.takeWhile_append_dropWhile (p := fun byte : UInt8 => decide (byte = 0x20))
          (l := field.rdropWhile isBlank)
        generalize value : (field.rdropWhile isBlank).dropWhile (fun byte => decide (byte = 0x20)) = digits at parsed begins
        have split : field = (field.rdropWhile isBlank).takeWhile (fun byte => decide (byte = 0x20)) ++ digits ++
            field.rtakeWhile isBlank := by
          rw [begins, ends]
        refine ⟨_, digits, _, split, ?_, ?_, ?_, ?_⟩
        · intro byte member
          have space := List.mem_takeWhile_imp member
          exact of_decide_eq_true space
        · by_cases none : digits = []
          · rw [none]
            exact nofun
          · rw [if_neg none] at parsed
            by_cases wrong : digits.any (! isOctal ·) = true
            · rw [if_pos wrong] at parsed
              cases parsed
            · simpa using wrong
        · intro byte member
          exact List.mem_rtakeWhile_imp member
        · by_cases none : digits = []
          · rw [if_pos none] at parsed
            cases parsed
            rw [none]
            rfl
          · rw [if_neg none] at parsed
            by_cases wrong : digits.any (! isOctal ·) = true
            · rw [if_pos wrong] at parsed
              cases parsed
            · rw [if_neg wrong] at parsed
              cases parsed
              rfl
      · rw [if_pos (encoding.mpr high)] at parsed
        cases parsed
    · rintro ⟨-, low, left, digits, right, split, spaces, octals, blanks, rfl⟩
      have ascii : first < 0x80 := low first rfl
      unfold parseTarSize
      rw [if_neg (by rw [encoding]; exact not_not.mpr ascii), split, trimmed spaces octals blanks]
      by_cases none : digits = []
      · rw [if_pos none, none]
        rfl
      · rw [if_neg none, if_neg (by simpa using octals)]

/-! The loops. -/

variable {data : Bytes}

theorem File.read_at (position count : Nat) :
    (File.mk data position).read count =
      ((data.drop position).take count, ⟨data, position + min count (data.length - position)⟩) := by
  simp [File.read, File.skip]

/-- The loop behind the end marker accepts zeros. -/
theorem end_run (offset : Nat) (inside : offset ≤ data.length) (file : File) :
    run (endTurn data.length) _ (endTurn_lowers data.length) (⟨data, offset⟩, offset) = .ok file ↔
      (∀ byte ∈ data.drop offset, byte = 0) ∧ file = ⟨data, 0⟩ := by
  induction left : data.length - offset using Nat.strongRecOn generalizing offset with
  | ind left ih =>
    by_cases before : offset < data.length
    · have progress : 0 < min (1024 * 1024) (data.length - offset) := by omega
      have length : ((data.drop offset).take (min (1024 * 1024) (data.length - offset))).length =
          min (1024 * 1024) (data.length - offset) := by
        rw [List.length_take, List.length_drop]
        omega
      have cut := List.take_append_drop (min (1024 * 1024) (data.length - offset)) (data.drop offset)
      rw [List.drop_drop] at cut
      by_cases wrong : ((data.drop offset).take (min (1024 * 1024) (data.length - offset))).any (· ≠ 0) = true
      · have turned : endTurn data.length (⟨data, offset⟩, offset) =
            .done (.error (text "backup archive contains data after the tar end marker")) := by
          unfold endTurn
          dsimp only
          rw [if_pos before, File.read_at]
          exact if_pos (Or.inr wrong)
        rw [run_done _ turned]
        refine iff_of_false nofun fun ⟨zeros, _⟩ => ?_
        obtain ⟨byte, member, nonzero⟩ := List.any_eq_true.mp wrong
        exact absurd (zeros byte (List.mem_of_mem_take member)) (of_decide_eq_true nonzero)
      · have turned : endTurn data.length (⟨data, offset⟩, offset) =
            .again (⟨data, offset + min (1024 * 1024) (data.length - offset)⟩,
              offset + min (1024 * 1024) (data.length - offset)) := by
          have some : (data.drop offset).take (min (1024 * 1024) (data.length - offset)) ≠ [] := by
            apply List.ne_nil_of_length_pos
            omega
          unfold endTurn
          dsimp only
          rw [if_pos before, File.read_at]
          dsimp only
          rw [if_neg (not_or.mpr ⟨some, wrong⟩), length, min_eq_left (Nat.min_le_right ..)]
        rw [run_again _ turned, ih _ (by omega) _ (by omega) rfl]
        have zeros : ∀ byte ∈ (data.drop offset).take (min (1024 * 1024) (data.length - offset)), byte = 0 := by
          simpa using wrong
        apply and_congr_left'
        rw [← cut]
        simp only [List.mem_append]
        constructor
        · rintro rest byte (member | member)
          · exact zeros byte member
          · exact rest byte member
        · intro all byte member
          exact all byte (Or.inr member)
    · have turned : endTurn data.length (⟨data, offset⟩, offset) = .done (.ok ⟨data, 0⟩) := by
        unfold endTurn
        exact if_neg before
      rw [run_done _ turned, List.drop_eq_nil_of_le (Nat.not_lt.mp before)]
      simp [eq_comm]

/-- The budgets that members use up from a state on. -/
def Within (maxMembers : Nat) (scan : Scan) (members : List TarMember) : Prop :=
  scan.memberCount + (ordinaryOf members).length ≤ maxMembers ∧
  scan.extensionCount + (extensionsOf members).length ≤ maxMembers + 16 ∧
  scan.extensionBytes + ((extensionsOf members).map TarMember.size).sum ≤ defaultMaxTarMetadataBytes

theorem within_cons (maxMembers : Nat) (scan : Scan) (member : TarMember) (members : List TarMember) :
    Within maxMembers scan (member :: members) ↔
      ∃ counted, scan.count maxMembers (typeFlag member.header) member.size = .ok counted ∧
        Within maxMembers counted members := by
  unfold Within Scan.count ordinaryOf extensionsOf
  by_cases extension : typeFlag member.header ∈ tarExtensionTypes
  · have flagged : member.extension = true := decide_eq_true extension
    rw [if_pos extension, List.filter_cons_of_neg (by rw [flagged]; exact Bool.false_ne_true), List.filter_cons_of_pos flagged]
    by_cases exceeds : maxMembers + 16 < scan.extensionCount + 1 ∨
        defaultMaxTarMetadataBytes < scan.extensionBytes + member.size
    · rw [if_pos exceeds]
      simp only [List.length_cons, List.map_cons, List.sum_cons, reduceCtorEq, false_and, exists_false, iff_false]
      omega
    · rw [if_neg exceeds]
      simp only [List.length_cons, List.map_cons, List.sum_cons, Except.ok.injEq, exists_eq_left']
      omega
  · have unflagged : member.extension = false := decide_eq_false extension
    rw [if_neg extension, List.filter_cons_of_pos (by rw [unflagged]; rfl),
      List.filter_cons_of_neg (by rw [unflagged]; exact Bool.false_ne_true)]
    by_cases exceeds : maxMembers < scan.memberCount + 1
    · rw [if_pos exceeds]
      simp only [List.length_cons, reduceCtorEq, false_and, exists_false, iff_false]
      omega
    · rw [if_neg exceeds]
      simp only [List.length_cons, Except.ok.injEq, exists_eq_left']
      omega

theorem count_keeps {scan counted : Scan} {maxMembers memberSize : Nat} {flag : Bytes}
    (counts : scan.count maxMembers flag memberSize = .ok counted) (within : Within maxMembers scan []) :
    counted.zeroHeaders = scan.zeroHeaders ∧ Within maxMembers counted [] := by
  unfold Scan.count at counts
  unfold Within ordinaryOf extensionsOf at within ⊢
  simp only [List.filter_nil, List.map_nil, List.length_nil, List.sum_nil, Nat.add_zero] at within ⊢
  split at counts
  · split at counts
    · cases counts
    · cases counts
      dsimp only
      omega
  · split at counts
    · cases counts
    · cases counts
      dsimp only
      omega

/-- The bytes from a state on, as the grammar has them. -/
def Rest (maxMembers : Nat) (scan : Scan) (bytes : Bytes) : Prop :=
  ∃ (members : List TarMember) (filling : Bytes), bytes = members.flatMap TarMember.bytes ++ (zeroBlock ++ zeroBlock ++ filling) ∧
    (∀ byte ∈ filling, byte = 0) ∧ Within maxMembers scan members

theorem Rest.long {maxMembers : Nat} {scan : Scan} {bytes : Bytes} (rest : Rest maxMembers scan bytes) :
    tarBlockBytes ≤ bytes.length := by
  obtain ⟨members, filling, rfl, -⟩ := rest
  simp only [List.length_append, zeroBlock, List.length_replicate]
  omega

theorem rest_zero {maxMembers : Nat} {scan : Scan} (bounded : Within maxMembers scan []) (bytes : Bytes) :
    Rest maxMembers scan (zeroBlock ++ bytes) ↔ ∃ filling, bytes = zeroBlock ++ filling ∧ ∀ byte ∈ filling, byte = 0 := by
  constructor
  · rintro ⟨members, filling, split, zeros, -⟩
    cases members with
    | nil =>
      rw [List.flatMap_nil, List.nil_append, List.append_assoc] at split
      exact ⟨filling, List.append_cancel_left split, zeros⟩
    | cons member members =>
      rw [List.flatMap_cons, TarMember.bytes, List.append_assoc, List.append_assoc] at split
      have headers := List.append_inj_left split (by rw [member.block, zeroBlock, List.length_replicate])
      exact absurd headers.symm member.nonzero
  · rintro ⟨filling, rfl, zeros⟩
    exact ⟨[], filling, by simp, zeros, bounded⟩

theorem rest_member {maxMembers : Nat} {scan : Scan} {header : Bytes} (block : header.length = tarBlockBytes)
    (nonzero : header ≠ zeroBlock) (bytes : Bytes) :
    Rest maxMembers scan (header ++ bytes) ↔
      ∃ (member : TarMember) (counted : Scan) (after : Bytes), member.header = header ∧
        scan.count maxMembers (typeFlag header) member.size = .ok counted ∧ bytes = member.content ++ after ∧
        Rest maxMembers counted after := by
  constructor
  · rintro ⟨members, filling, split, zeros, within⟩
    cases members with
    | nil =>
      rw [List.flatMap_nil, List.nil_append, List.append_assoc] at split
      have headers := List.append_inj_left split (by rw [block, zeroBlock, List.length_replicate])
      exact absurd headers nonzero
    | cons member members =>
      rw [List.flatMap_cons, TarMember.bytes, List.append_assoc, List.append_assoc] at split
      obtain ⟨headers, contents⟩ := List.append_inj split (by rw [member.block, block])
      obtain ⟨counted, counts, within⟩ := (within_cons ..).mp within
      exact ⟨member, counted, _, headers.symm, by rwa [headers], contents, members, filling, rfl, zeros, within⟩
  · rintro ⟨member, counted, after, rfl, counts, rfl, members, filling, rfl, zeros, within⟩
    refine ⟨member :: members, filling, ?_, zeros, (within_cons ..).mpr ⟨counted, counts, within⟩⟩
    simp only [List.flatMap_cons, TarMember.bytes, List.append_assoc]

/-- A state of the loop over some bytes. -/
structure At (data : Bytes) (maxMembers : Nat) (scan : Scan) : Prop where
  expanded : scan.expanded = ⟨data, scan.offset⟩
  inside : scan.offset ≤ data.length
  zeroHeaders : scan.zeroHeaders ≤ 1
  bounded : Within maxMembers scan []

/-- What a turn does at a header. -/
theorem headerTurn_cut {maxMembers : Nat} {scan : Scan} (at_ : At data maxMembers scan) {header bytes : Bytes}
    (cut : data.drop scan.offset = header ++ bytes) (block : header.length = tarBlockBytes) :
    scan.offset + tarBlockBytes ≤ data.length ∧ data.drop (scan.offset + tarBlockBytes) = bytes ∧
    headerTurn data.length maxMembers scan =
      if header = zeroBlock then
        if scan.zeroHeaders + 1 < 2 then
          .again { scan with
            expanded := ⟨data, scan.offset + tarBlockBytes⟩
            offset := scan.offset + tarBlockBytes
            zeroHeaders := scan.zeroHeaders + 1 }
        else .done (run (endTurn data.length) _ (endTurn_lowers data.length)
          (⟨data, scan.offset + tarBlockBytes⟩, scan.offset + tarBlockBytes))
      else if scan.zeroHeaders ≠ 0 then .done (.error (text "backup archive contains an incomplete tar end marker"))
      else if typeFlag header ∉ tarSupportedTypes then
        .done (.error (text "backup archive contains an unsupported member type"))
      else
        match parseTarSize (sizeField header) with
        | .error message => .done (.error message)
        | .ok memberSize =>
          match scan.count maxMembers (typeFlag header) memberSize with
          | .error message => .done (.error message)
          | .ok counted =>
            if data.length < scan.offset + tarBlockBytes + paddedSize memberSize then
              .done (.error (text "backup archive member exceeds the bounded tar stream"))
            else
              .again { counted with
                expanded := ⟨data, scan.offset + tarBlockBytes + paddedSize memberSize⟩
                offset := scan.offset + tarBlockBytes + paddedSize memberSize } := by
  have size := congrArg List.length cut
  rw [List.length_drop, List.length_append, block] at size
  have positive : 0 < tarBlockBytes := by decide
  refine ⟨by omega, ?_, ?_⟩
  · rw [← List.drop_drop, cut, ← block, List.drop_left]
  · unfold headerTurn
    rw [if_pos (by omega), at_.expanded, File.read_at, cut, ← block, List.take_left, block, min_eq_left (by omega)]
    dsimp only
    rw [if_neg (not_not.mpr block)]
    rfl

theorem headerTurn_short {maxMembers : Nat} {scan : Scan} (at_ : At data maxMembers scan)
    (short : (data.drop scan.offset).length < tarBlockBytes) :
    ∃ message, headerTurn data.length maxMembers scan = .done (.error message) := by
  unfold headerTurn
  by_cases before : scan.offset < data.length
  · rw [if_pos before, at_.expanded, File.read_at]
    dsimp only
    rw [if_pos (by rw [List.length_take]; omega)]
    exact ⟨_, rfl⟩
  · rw [if_neg before]
    exact ⟨_, rfl⟩

/-- A whole header and the bytes behind it, or too few bytes. -/
theorem header_cases (bytes : Bytes) :
    bytes.length < tarBlockBytes ∨ ∃ header rest, bytes = header ++ rest ∧ header.length = tarBlockBytes := by
  by_cases short : bytes.length < tarBlockBytes
  · exact Or.inl short
  · refine Or.inr ⟨_, _, (List.take_append_drop tarBlockBytes bytes).symm, ?_⟩
    rw [List.length_take]
    omega

theorem headerTurn_at {maxMembers : Nat} {scan next : Scan} (at_ : At data maxMembers scan)
    (turned : headerTurn data.length maxMembers scan = .again next) : At data maxMembers next := by
  rcases header_cases (data.drop scan.offset) with short | ⟨header, bytes, cut, block⟩
  · obtain ⟨message, ends⟩ := headerTurn_short at_ short
    rw [ends] at turned
    cases turned
  · obtain ⟨inside, -, turn⟩ := headerTurn_cut at_ cut block
    rw [turn] at turned
    split at turned
    · split at turned
      · rename_i first
        cases turned
        exact ⟨rfl, inside, Nat.lt_succ_iff.mp first, at_.bounded⟩
      · cases turned
    · split at turned
      · cases turned
      · split at turned
        · cases turned
        · split at turned
          · cases turned
          · split at turned
            · cases turned
            · rename_i counted counts
              obtain ⟨zeroHeaders, bounded⟩ := count_keeps counts at_.bounded
              split at turned
              · cases turned
              · rename_i fits
                cases turned
                refine ⟨rfl, Nat.not_lt.mp fits, ?_, bounded⟩
                dsimp only
                rw [zeroHeaders]
                exact at_.zeroHeaders

/-- Behind the first zero block. -/
theorem marked_run {maxMembers : Nat} {scan : Scan} (at_ : At data maxMembers scan) (marked : scan.zeroHeaders = 1)
    (file : File) :
    run (headerTurn data.length maxMembers) _ (headerTurn_lowers data.length maxMembers) scan = .ok file ↔
      (∃ filling, data.drop scan.offset = zeroBlock ++ filling ∧ ∀ byte ∈ filling, byte = 0) ∧ file = ⟨data, 0⟩ := by
  rcases header_cases (data.drop scan.offset) with short | ⟨header, bytes, cut, block⟩
  · obtain ⟨message, ends⟩ := headerTurn_short at_ short
    rw [run_done _ ends]
    refine iff_of_false nofun fun ⟨⟨filling, zeros, _⟩, _⟩ => ?_
    rw [zeros, List.length_append, zeroBlock, List.length_replicate] at short
    omega
  · obtain ⟨inside, behind, turn⟩ := headerTurn_cut at_ cut block
    by_cases zero : header = zeroBlock
    · rw [if_pos zero, if_neg (by omega)] at turn
      rw [run_done _ turn, end_run _ inside, behind, cut, zero]
      simp
    · rw [if_neg zero, if_pos (by omega)] at turn
      rw [run_done _ turn]
      refine iff_of_false nofun fun ⟨⟨filling, zeros, _⟩, _⟩ => ?_
      rw [cut] at zeros
      exact zero (List.append_inj_left zeros (by rw [block, zeroBlock, List.length_replicate]))

/-- Before the end marker. -/
theorem headers_run {maxMembers : Nat} {scan : Scan} (at_ : At data maxMembers scan) (unmarked : scan.zeroHeaders = 0)
    (file : File) :
    run (headerTurn data.length maxMembers) _ (headerTurn_lowers data.length maxMembers) scan = .ok file ↔
      Rest maxMembers scan (data.drop scan.offset) ∧ file = ⟨data, 0⟩ := by
  induction scan using induct (headerTurn_lowers data.length maxMembers) with
  | turns scan ih =>
    rcases header_cases (data.drop scan.offset) with short | ⟨header, bytes, cut, block⟩
    · obtain ⟨message, ends⟩ := headerTurn_short at_ short
      rw [run_done _ ends]
      exact iff_of_false nofun fun ⟨rest, _⟩ => Nat.not_le.mpr short rest.long
    · obtain ⟨inside, behind, turn⟩ := headerTurn_cut at_ cut block
      by_cases zero : header = zeroBlock
      · rw [if_pos zero, if_pos (by omega)] at turn
        rw [run_again _ turn, marked_run (headerTurn_at at_ turn) (by rw [unmarked]), behind, cut, zero,
          rest_zero at_.bounded]
      · rw [cut, rest_member block zero]
        rw [if_neg zero, if_neg (not_not.mpr unmarked)] at turn
        -- a refusal contradicts what the header of a member carries
        by_cases supported : typeFlag header ∈ tarSupportedTypes
        · rw [if_neg (not_not.mpr supported)] at turn
          have sized : ∀ member : TarMember, member.header = header → parseTarSize (sizeField header) = .ok member.size := by
            rintro member rfl
            apply (parseTarSize_eq_ok ..).mpr
            refine ⟨?_, member.ascii, member.sized⟩
            intro none
            have length := congrArg List.length none
            simp only [sizeField, List.length_drop, List.length_take, member.block, tarBlockBytes, List.length_nil] at length
            omega
          cases parsed : parseTarSize (sizeField header) with
          | error message =>
            rw [parsed] at turn
            rw [run_done _ turn]
            refine iff_of_false nofun fun ⟨⟨member, _, _, same, _⟩, _⟩ => ?_
            rw [sized member same] at parsed
            cases parsed
          | ok memberSize =>
            rw [parsed] at turn
            dsimp only at turn
            have sizes : ∀ member : TarMember, member.header = header → member.size = memberSize := by
              intro member same
              rw [sized member same] at parsed
              cases parsed
              rfl
            cases counts : scan.count maxMembers (typeFlag header) memberSize with
            | error message =>
              rw [counts] at turn
              rw [run_done _ turn]
              refine iff_of_false nofun fun ⟨⟨member, _, _, same, counted, _⟩, _⟩ => ?_
              rw [sizes member same, counts] at counted
              cases counted
            | ok counted =>
              rw [counts] at turn
              dsimp only at turn
              by_cases fits : data.length < scan.offset + tarBlockBytes + paddedSize memberSize
              · rw [if_pos fits] at turn
                rw [run_done _ turn]
                refine iff_of_false nofun fun ⟨⟨member, _, after, same, _, contents, _⟩, _⟩ => ?_
                have lengths := congrArg List.length contents
                rw [← behind, List.length_drop, List.length_append, member.padded, sizes member same] at lengths
                omega
              · rw [if_neg fits] at turn
                have unmarkedNext : counted.zeroHeaders = 0 := by rw [(count_keeps counts at_.bounded).1, unmarked]
                rw [run_again _ turn, ih _ turn (headerTurn_at at_ turn) unmarkedNext]
                apply and_congr_left'
                dsimp only
                rw [← List.drop_drop, behind]
                constructor
                · intro rest
                  obtain ⟨-, ascii, octal⟩ := (parseTarSize_eq_ok ..).mp parsed
                  refine ⟨⟨header, memberSize, bytes.take (paddedSize memberSize), block, zero, supported, ascii, octal, ?_⟩,
                    counted, _, rfl, counts, (List.take_append_drop ..).symm, rest⟩
                  rw [List.length_take, ← behind, List.length_drop]
                  omega
                · rintro ⟨member, other, after, same, countsOther, contents, rest⟩
                  rw [sizes member same, counts] at countsOther
                  cases countsOther
                  rwa [contents, ← sizes member same, ← member.padded, List.drop_left]
        · rw [if_pos supported] at turn
          rw [run_done _ turn]
          refine iff_of_false nofun fun ⟨⟨member, _, _, same, _⟩, _⟩ => ?_
          exact supported (same ▸ member.supported)

theorem start_at (data : Bytes) (position maxMembers : Nat) : At data maxMembers (Scan.start ⟨data, position⟩) :=
  ⟨rfl, Nat.zero_le _, Nat.zero_le _, Nat.zero_le _, Nat.zero_le _, Nat.zero_le _⟩

/-- The check ends, accepts the grammar, rewinds the stream, and keeps the cursor inside of it. -/
theorem preflightTarHeaders_accepts (data : Bytes) (position maxMembers : Nat) :
    (∃ last, Relation.ReflTransGen (Again (headerTurn data.length maxMembers)) (Scan.start ⟨data, position⟩) last ∧
      headerTurn data.length maxMembers last = .done (preflightTarHeaders ⟨data, position⟩ data.length maxMembers)) ∧
    ((∃ file, preflightTarHeaders ⟨data, position⟩ data.length maxMembers = .ok file) ↔ TarArchive maxMembers data) ∧
    (∀ file, preflightTarHeaders ⟨data, position⟩ data.length maxMembers = .ok file → file = ⟨data, 0⟩) ∧
    ∀ scan, Relation.ReflTransGen (Again (headerTurn data.length maxMembers)) (Scan.start ⟨data, position⟩) scan →
      scan.expanded.position ≤ data.length := by
  have result := headers_run (start_at data position maxMembers) rfl
  refine ⟨run_ends .., ?_, fun file accepted => ((result file).mp accepted).2, ?_⟩
  · have grammar : Rest maxMembers (Scan.start ⟨data, position⟩) (data.drop 0) ↔ TarArchive maxMembers data := by
      simp only [Rest, Within, Scan.start, TarArchive, Nat.zero_add, List.drop_zero]
    rw [← grammar]
    constructor
    · rintro ⟨file, accepted⟩
      exact ((result file).mp accepted).1
    · intro rest
      exact ⟨_, (result _).mpr ⟨rest, rfl⟩⟩
  · intro scan reached
    have at_ : At data maxMembers scan := by
      induction reached with
      | refl => exact start_at data position maxMembers
      | tail _ turned ih => exact headerTurn_at ih turned
    rw [at_.expanded]
    exact at_.inside

end MarketSentinel.Backup
