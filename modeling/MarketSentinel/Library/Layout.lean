import Mathlib.Algebra.Order.Ring.Int
import Mathlib.Tactic.Linarith
import Mathlib.Tactic.Ring

/-! Binary layouts: readers that take bytes from the front, and what they read.

A reader `Reads` a relation between values and their bytes when it reads the
value off every one of its writings and reads nothing else. Sequences of such
readers read the sequences of the writings, and refuse every writing cut short.
-/

set_option autoImplicit false

namespace Layout

/-- The state is the bytes from the cursor on. -/
abbrev Reader (ε α : Type) := StateT (List UInt8) (Except ε) α

/-- A check between two readers. -/
def check {ε : Type} (holds : Prop) [Decidable holds] (failure : ε) : Reader ε Unit :=
  if holds then pure () else throw failure

/-- What a partial view makes of the value that is read. -/
def viewed {ε α β : Type} (reader : Reader ε α) (view : α → Option β) (failure : ε) : Reader ε β := do
  match view (← reader) with
  | some result => return result
  | none => throw failure

structure Reads {ε α : Type} (reader : Reader ε α) (writes : α → List UInt8 → Prop) : Prop where
  reads : ∀ {value : α} {written : List UInt8} (rest : List UInt8), writes value written →
    reader.run (written ++ rest) = .ok (value, rest)
  written : ∀ {bytes rest : List UInt8} {value : α}, reader.run bytes = .ok (value, rest) →
    ∃ written, bytes = written ++ rest ∧ writes value written

/-- One writing for each value of a type, which the reader shows in its own way. -/
def Through {α γ : Type} (shown : γ → α) (encode : γ → List UInt8) (value : α) (written : List UInt8) : Prop :=
  ∃ origin, value = shown origin ∧ written = encode origin

namespace Reads

variable {ε α β : Type} {reader : Reader ε α} {writes : α → List UInt8 → Prop}

theorem congr (reads : Reads reader writes) {other : α → List UInt8 → Prop}
    (same : ∀ value written, writes value written ↔ other value written) : Reads reader other where
  reads rest writing := reads.reads rest ((same ..).mpr writing)
  written read := by
    obtain ⟨written, split, writing⟩ := reads.written read
    exact ⟨written, split, (same ..).mp writing⟩

/-- A writing that is cut short is refused. -/
theorem short (reads : Reads reader writes) {value : α} {front back : List UInt8}
    (writing : writes value (front ++ back)) (some : back ≠ []) : ∃ failure, reader.run front = .error failure := by
  cases read : reader.run front with
  | error failure => exact ⟨failure, rfl⟩
  | ok result =>
    obtain ⟨other, rest⟩ := result
    obtain ⟨written, split, writingOther⟩ := reads.written read
    have whole := reads.reads [] writing
    rw [List.append_nil, split, List.append_assoc, reads.reads (rest ++ back) writingOther] at whole
    have nothing := congrArg Prod.snd (Except.ok.inj whole)
    exact absurd (List.append_eq_nil_iff.mp nothing).2 some

protected theorem pure (value : α) : Reads (pure value : Reader ε α) fun other written => other = value ∧ written = [] where
  reads rest writing := by
    obtain ⟨rfl, rfl⟩ := writing
    rfl
  written read := by
    cases read
    exact ⟨[], rfl, rfl, rfl⟩

protected theorem bind (reads : Reads reader writes) {next : α → Reader ε β} {then_ : α → β → List UInt8 → Prop}
    (readsNext : ∀ value, Reads (next value) (then_ value)) :
    Reads (reader >>= next) fun result written =>
      ∃ value front, writes value front ∧ ∃ back, then_ value result back ∧ written = front ++ back where
  reads rest writing := by
    obtain ⟨value, front, first, back, second, rfl⟩ := writing
    rw [StateT.run_bind, List.append_assoc, reads.reads (back ++ rest) first]
    exact (readsNext value).reads rest second
  written read := by
    rename_i bytes rest result
    rw [StateT.run_bind] at read
    cases first : reader.run bytes with
    | error failure =>
      rw [first] at read
      cases read
    | ok middle =>
      obtain ⟨value, between⟩ := middle
      rw [first] at read
      obtain ⟨front, rfl, writing⟩ := reads.written first
      obtain ⟨back, rfl, writingNext⟩ := (readsNext value).written read
      exact ⟨front ++ back, (List.append_assoc ..).symm, value, front, writing, back, writingNext, rfl⟩

/-- A reader with one writing for each value, in front of another. -/
theorem bind_through {γ : Type} {shown : γ → α} {encode : γ → List UInt8} (reads : Reads reader (Through shown encode))
    {next : α → Reader ε β} {then_ : γ → β → List UInt8 → Prop}
    (readsNext : ∀ origin, Reads (next (shown origin)) (then_ origin)) :
    Reads (reader >>= next) fun result written =>
      ∃ origin back, then_ origin result back ∧ written = encode origin ++ back where
  reads rest writing := by
    obtain ⟨origin, back, follows, rfl⟩ := writing
    rw [StateT.run_bind, List.append_assoc, reads.reads (back ++ rest) ⟨origin, rfl, rfl⟩]
    exact (readsNext origin).reads rest follows
  written read := by
    rename_i bytes rest result
    rw [StateT.run_bind] at read
    cases first : reader.run bytes with
    | error failure =>
      rw [first] at read
      cases read
    | ok middle =>
      obtain ⟨value, between⟩ := middle
      rw [first] at read
      obtain ⟨front, rfl, origin, rfl, rfl⟩ := reads.written first
      obtain ⟨back, rfl, follows⟩ := (readsNext origin).written read
      exact ⟨_, (List.append_assoc ..).symm, origin, back, follows, rfl⟩

theorem bind_check {holds : Prop} [Decidable holds] {failure : ε} {next : Unit → Reader ε β}
    {then_ : β → List UInt8 → Prop} (readsNext : Reads (next ()) then_) :
    Reads (check holds failure >>= next) fun result written => holds ∧ then_ result written := by
  unfold check
  by_cases checked : holds
  · rw [if_pos checked]
    apply readsNext.congr
    intro result written
    simp [checked]
  · rw [if_neg checked]
    exact { reads := fun rest writing => absurd writing.1 checked, written := fun read => nomatch read }

theorem check_pure {holds : Prop} [Decidable holds] {failure : ε} (value : β) :
    Reads (check holds failure >>= fun _ => pure value) fun result written => holds ∧ result = value ∧ written = [] :=
  Reads.bind_check (Reads.pure value)

protected theorem viewed (reads : Reads reader writes) (view : α → Option β) (failure : ε) :
    Reads (viewed reader view failure) fun result written => ∃ value, writes value written ∧ view value = some result := by
  have one : ∀ value, Reads (match view value with
      | some result => pure result
      | none => throw failure : Reader ε β) fun result written => written = [] ∧ view value = some result := by
    intro value
    cases seen : view value with
    | none => exact { reads := fun _ writing => (nomatch writing.2), written := fun read => nomatch read }
    | some result =>
      apply (Reads.pure result).congr
      intro other written
      simp [and_comm, eq_comm]
  apply (reads.bind one).congr
  intro result written
  constructor
  · rintro ⟨value, front, writing, back, ⟨rfl, seen⟩, rfl⟩
    exact ⟨value, by rwa [List.append_nil], seen⟩
  · rintro ⟨value, writing, seen⟩
    exact ⟨value, written, writing, [], ⟨rfl, seen⟩, (List.append_nil _).symm⟩

/-- Reading through a view of the values. -/
protected theorem map (reads : Reads reader writes) (view : α → β) :
    Reads (view <$> reader) fun result written => ∃ value, writes value written ∧ result = view value where
  reads rest writing := by
    obtain ⟨value, writing, rfl⟩ := writing
    rw [StateT.run_map, reads.reads rest writing]
    rfl
  written read := by
    rename_i bytes rest result
    rw [StateT.run_map] at read
    cases first : reader.run bytes with
    | error failure =>
      rw [first] at read
      cases read
    | ok middle =>
      rw [first] at read
      cases read
      obtain ⟨written, split, writing⟩ := reads.written first
      exact ⟨written, split, _, writing, rfl⟩

end Reads

section Parts

variable {ε α : Type} (failure : ε)

def take (size : Nat) : Reader ε (List UInt8) := fun bytes =>
  if bytes.length < size then .error failure else .ok (bytes.take size, bytes.drop size)

theorem take_reads (size : Nat) : Reads (take failure size) fun bytes written => bytes.length = size ∧ written = bytes where
  reads rest writing := by
    obtain ⟨rfl, rfl⟩ := writing
    simp [take, StateT.run]
  written read := by
    rename_i bytes rest value
    simp only [take, StateT.run] at read
    split at read
    · cases read
    · cases read
      refine ⟨_, (List.take_append_drop ..).symm, ?_, rfl⟩
      rw [List.length_take]
      omega

/-- One reader again and again. -/
def repeated (reader : Reader ε α) : Nat → Reader ε (List α)
  | 0 => pure []
  | count + 1 => do
    let value ← reader
    let values ← repeated reader count
    return value :: values

theorem repeated_reads {γ : Type} {reader : Reader ε α} {shown : γ → α} {encode : γ → List UInt8}
    (reads : Reads reader (Through shown encode)) (count : Nat) :
    Reads (repeated reader count) fun values written =>
      ∃ origins : List γ, origins.length = count ∧ values = origins.map shown ∧ written = origins.flatMap encode := by
  induction count with
  | zero =>
    apply (Reads.pure []).congr
    intro values written
    constructor
    · rintro ⟨rfl, rfl⟩
      exact ⟨[], rfl, rfl, rfl⟩
    · rintro ⟨origins, none, rfl, rfl⟩
      rw [List.length_eq_zero_iff.mp none]
      exact ⟨rfl, rfl⟩
  | succ count ih =>
    apply (reads.bind_through fun origin => ih.bind fun values => Reads.pure (shown origin :: values)).congr
    intro values written
    constructor
    · rintro ⟨origin, _, ⟨_, _, ⟨origins, rfl, rfl, rfl⟩, _, ⟨rfl, rfl⟩, rfl⟩, rfl⟩
      exact ⟨origin :: origins, rfl, rfl, by simp⟩
    · rintro ⟨origins, length, rfl, rfl⟩
      cases origins with
      | nil => cases length
      | cons origin origins =>
        refine ⟨origin, _, ⟨_, _, ⟨origins, Nat.succ.inj length, rfl, rfl⟩, [], ⟨rfl, rfl⟩, rfl⟩, ?_⟩
        rw [List.append_nil, List.flatMap_cons]

/-- The number that bytes denote, the lowest first. -/
def ofLittle (bytes : List UInt8) : Nat := bytes.foldr (fun byte number => byte.toNat + 256 * number) 0

def little : Nat → Nat → List UInt8
  | 0, _ => []
  | width + 1, number => UInt8.ofNat number :: little width (number / 256)

@[simp] theorem length_little (width number : Nat) : (little width number).length = width := by
  induction width generalizing number with
  | zero => rfl
  | succ width ih => rw [little, List.length_cons, ih]

theorem ofLittle_little {width number : Nat} (fits : number < 256 ^ width) : ofLittle (little width number) = number := by
  induction width generalizing number with
  | zero =>
    have zero : number = 0 := by simpa using fits
    rw [zero]
    rfl
  | succ width ih =>
    have smaller : number / 256 < 256 ^ width := by
      rw [pow_succ] at fits
      omega
    show (UInt8.ofNat number).toNat + 256 * ofLittle (little width (number / 256)) = number
    rw [ih smaller, UInt8.toNat_ofNat']
    omega

theorem ofLittle_lt (bytes : List UInt8) : ofLittle bytes < 256 ^ bytes.length := by
  induction bytes with
  | nil => exact Nat.one_pos
  | cons byte bytes ih =>
    have small := byte.toNat_lt
    show byte.toNat + 256 * ofLittle bytes < 256 ^ (bytes.length + 1)
    rw [pow_succ]
    omega

theorem little_ofLittle (bytes : List UInt8) : little bytes.length (ofLittle bytes) = bytes := by
  induction bytes with
  | nil => rfl
  | cons byte bytes ih =>
    have small := byte.toNat_lt
    have lowest : UInt8.ofNat (byte.toNat + 256 * ofLittle bytes) = byte := by
      apply UInt8.toNat_inj.mp
      rw [UInt8.toNat_ofNat']
      omega
    have others : (byte.toNat + 256 * ofLittle bytes) / 256 = ofLittle bytes := by omega
    show UInt8.ofNat (byte.toNat + 256 * ofLittle bytes) ::
      little bytes.length ((byte.toNat + 256 * ofLittle bytes) / 256) = byte :: bytes
    rw [lowest, others, ih]

def unsigned (width : Nat) : Reader ε Nat := ofLittle <$> take failure width

theorem unsigned_reads {width bound : Nat} (fits : 256 ^ width = bound) :
    Reads (unsigned failure width) (Through (fun number : Fin bound => number.val) fun number => little width number) := by
  subst fits
  apply ((take_reads failure width).map ofLittle).congr
  intro number written
  constructor
  · rintro ⟨_, ⟨length, rfl⟩, rfl⟩
    subst length
    exact ⟨⟨ofLittle written, ofLittle_lt written⟩, rfl, (little_ofLittle written).symm⟩
  · rintro ⟨number, rfl, rfl⟩
    exact ⟨_, ⟨length_little .., rfl⟩, (ofLittle_little number.isLt).symm⟩

/-- Two's complement. -/
def ofComplement (width number : Nat) : Int := if 2 * number < 256 ^ width then number else (number : Int) - 256 ^ width

def complement (width : Nat) (number : Int) : Nat := (number % 256 ^ width).toNat

def InRange (width : Nat) (number : Int) : Prop := -256 ^ width ≤ 2 * number ∧ 2 * number < 256 ^ width

theorem complement_lt (width : Nat) (number : Int) : complement width number < 256 ^ width := by
  have positive : (0 : Int) < 256 ^ width := by positivity
  have below := Int.emod_lt_of_pos number positive
  have above := Int.emod_nonneg number positive.ne'
  unfold complement
  zify
  rwa [Int.toNat_of_nonneg above]

theorem ofComplement_complement {width : Nat} {number : Int} (range : InRange width number) :
    ofComplement width (complement width number) = number := by
  have positive : (0 : Int) < 256 ^ width := by positivity
  obtain ⟨low, high⟩ := range
  have cast : ((complement width number : Nat) : Int) = number % 256 ^ width :=
    Int.toNat_of_nonneg (Int.emod_nonneg number positive.ne')
  unfold ofComplement
  rcases lt_or_ge number 0 with negative | nonnegative
  · have wrapped : number % 256 ^ width = number + 256 ^ width := by
      rw [← Int.add_emod_right, Int.emod_eq_of_lt (by linarith) (by linarith)]
    rw [if_neg]
    · rw [cast, wrapped]
      ring
    · zify
      rw [cast, wrapped]
      linarith
  · have same : number % 256 ^ width = number := Int.emod_eq_of_lt nonnegative (by linarith)
    rw [if_pos]
    · rw [cast, same]
    · zify
      rw [cast, same]
      exact high

theorem complement_ofComplement {width number : Nat} (fits : number < 256 ^ width) :
    InRange width (ofComplement width number) ∧ complement width (ofComplement width number) = number := by
  have bound : (number : Int) < 256 ^ width := by exact_mod_cast fits
  have nonnegative : (0 : Int) ≤ number := Int.natCast_nonneg number
  unfold ofComplement complement InRange
  split
  · rename_i low
    have small : 2 * (number : Int) < 256 ^ width := by exact_mod_cast low
    refine ⟨⟨by linarith, small⟩, ?_⟩
    rw [Int.emod_eq_of_lt nonnegative bound]
    rfl
  · rename_i high
    have large : (256 : Int) ^ width ≤ 2 * number := by exact_mod_cast Nat.not_lt.mp high
    refine ⟨⟨by linarith, by linarith⟩, ?_⟩
    rw [Int.sub_emod_right, Int.emod_eq_of_lt nonnegative bound]
    rfl

def signed (width : Nat) : Reader ε Int := ofComplement width <$> unsigned failure width

theorem signed_reads (width : Nat) :
    Reads (signed failure width) (Through (fun number : { number // InRange width number } => number.val)
      fun number => little width (complement width number)) := by
  have fits : 256 ^ width = 256 ^ width := rfl
  apply ((unsigned_reads failure fits).map (ofComplement width)).congr
  intro number written
  constructor
  · rintro ⟨_, ⟨raw, rfl, rfl⟩, rfl⟩
    obtain ⟨range, same⟩ := complement_ofComplement raw.isLt
    exact ⟨⟨_, range⟩, rfl, congrArg (little width) same.symm⟩
  · rintro ⟨number, rfl, rfl⟩
    exact ⟨_, ⟨⟨_, complement_lt width number⟩, rfl, rfl⟩, (ofComplement_complement number.property).symm⟩

end Parts

end Layout
