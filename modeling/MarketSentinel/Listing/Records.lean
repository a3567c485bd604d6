import MarketSentinel.Leaderboard.Validation
import MarketSentinel.Library.Floats
import MarketSentinel.Library.Result
import MarketSentinel.Wallet.AdapterFeed

/-! Reading a wallet's fills in the answers of a venue.

An adapter admits the rows that it can read as fills, up to a limit, and makes
one activity record of each. What it does not admit, it leaves out.
-/

set_option autoImplicit false

namespace MarketSentinel.Listing

open Python Wallet

/-- A listing that fails: a message for the operator, or an exception that no adapter expects. -/
inductive Fault where
  | configuration (message : Text)
  | http (message : Text)
  | raised
  deriving DecidableEq

structure Runtime extends Spelling where
  floats : Floats PyFloat
  /-- `datetime.fromisoformat(text).timestamp()` with `Z` for UTC; a time without a zone is local. -/
  localSeconds : Text → Option PyFloat
  /-- The same, with a time without a zone in UTC. -/
  utcSeconds : Text → Option PyFloat
  lower_ne_nil : ∀ t, t ≠ [] → casing.lower t ≠ []

/-- What a row is read as: a value, nothing, or a fault of the whole listing. -/
abbrev Reading := OptionT (Except Fault)

def Reading.raise {α : Type} : Reading α := OptionT.mk (.error .raised)

def Reading.refuse {α : Type} (message : String) : Reading α := OptionT.mk (.error (.configuration (text message)))

theorem Reading.bind_eq_some {α β : Type} {reading : Reading α} {next : α → Reading β} {result : β} :
    (reading >>= next).run = .ok (some result) ↔
      ∃ value, reading.run = .ok (some value) ∧ (next value).run = .ok (some result) := by
  rw [OptionT.run_bind]
  cases reading.run with
  | error fault =>
    constructor
    · intro read
      cases read
    · rintro ⟨_, read, _⟩
      cases read
  | ok found =>
    cases found with
    | none =>
      constructor
      · intro read
        cases read
      · rintro ⟨_, read, _⟩
        cases read
    | some value =>
      constructor
      · intro read
        exact ⟨value, rfl, read⟩
      · rintro ⟨_, same, read⟩
        cases same
        exact read

theorem Reading.guard_eq_some {p : Prop} [Decidable p] {value : Unit} :
    (guard p : Reading Unit).run = .ok (some value) ↔ p := by
  by_cases holds : p
  · simp only [guard, holds, iff_true]
    rfl
  · simp only [guard, holds, iff_false]
    intro read
    cases read

/-! ## Fields of a row -/

/-- `first or second or third`: the last value when none counts as true. -/
def firstTrue : List Json → Json
  | [] => .null
  | [value] => value
  | value :: rest => if value.truthy then value else firstTrue rest

def firstField (row : Item) (names : List String) : Json := firstTrue (names.map row.get)

/-- `value in (None, "")`. -/
def blank (value : Json) : Bool := decide (value = .null ∨ value = .str [])

/-- `str(first or second or "").strip()`, by the spelling alone. -/
def labelOf (spelling : Spelling) (row : Item) (names : List String) : Text :=
  strip (spelling.orEmpty (firstField row names))

section Values

variable (runtime : Runtime)

/-- `str(first or second or "").strip()`. -/
def label (row : Item) (names : List String) : Text := strip (runtime.orEmpty (firstField row names))

/-- `float(value)`; a `TypeError` or a `ValueError` gives nothing. -/
def floatOf (value : Json) : Except Fault (Option PyFloat) :=
  match runtime.floats.parse value with
  | .ok number => .ok (some number)
  | .error .invalid => .ok none
  | .error .overflow => .error .raised

def isFinite : PyFloat → Bool
  | .finite _ => true
  | _ => false

def finiteOf (value : Json) : Except Fault (Option PyFloat) := do
  return (← floatOf runtime value).filter isFinite

def isPositive (number : PyFloat) : Bool := isFinite number && runtime.floats.lt (runtime.floats.literal 0) number

def isNegative (number : PyFloat) : Bool := runtime.floats.lt number (runtime.floats.literal 0)

def positiveOf (value : Json) : Except Fault (Option PyFloat) := do
  return (← floatOf runtime value).filter (isPositive runtime)

/-- A share of one; above one it is taken as a count of the given scale. -/
def probabilityOf (scale : ℚ) (value : Json) : Except Fault (Option PyFloat) := do
  let floats := runtime.floats
  return (← finiteOf runtime value).bind fun number =>
    let share :=
      if floats.lt (floats.literal 1) number && floats.le number (floats.literal scale) then
        floats.div number (floats.literal scale)
      else number
    if floats.le (floats.literal 0) share && floats.le share (floats.literal 1) then some share else none

/-- Seconds; above the bound the number counts milliseconds. -/
def secondsOf (bound : ℚ) (number : PyFloat) : PyFloat :=
  let floats := runtime.floats
  if floats.lt (floats.literal bound) number then floats.div number (floats.literal 1000) else number

/-- `require_activity_identity` of an EVM venue. -/
def requireActivityIdentity (wallet : Text) : Except Fault Text :=
  match Leaderboard.normalizeWallet runtime.casing wallet with
  | some normalized => .ok normalized
  | none => .error (.configuration (text "Activity identity must be a valid 0x wallet/proxyWallet address."))

/-- The wallet under which an adapter lists, if it takes the address at all. -/
def walletOf (address : Text) : Text := (Leaderboard.normalizeWallet runtime.casing address).getD []

variable {runtime} in
theorem requireActivityIdentity_eq_ok {address wallet : Text}
    (taken : requireActivityIdentity runtime address = .ok wallet) : wallet = walletOf runtime address := by
  unfold requireActivityIdentity at taken
  unfold walletOf
  cases normal : Leaderboard.normalizeWallet runtime.casing address with
  | none =>
    rw [normal] at taken
    cases taken
  | some normalized =>
    rw [normal] at taken
    cases taken
    rfl

end Values

/-- A limit between one and a maximum, of an adapter that refuses any other. -/
def boundedLimit (limit maximum : Nat) (message : String) : Except Fault Nat :=
  if 1 ≤ limit ∧ limit ≤ maximum then .ok limit else .error (.configuration (text message))

theorem boundedLimit_eq_ok {limit maximum desired : Nat} {message : String}
    (taken : boundedLimit limit maximum message = .ok desired) : desired = limit ∧ 1 ≤ limit := by
  unfold boundedLimit at taken
  split at taken
  · rename_i inside
    cases taken
    exact ⟨rfl, inside.1⟩
  · cases taken

/-! ## Exact numbers and settings -/

/-- `float(value)` of a finite number, over exact arithmetic. -/
def finite (value : Json) : Option ℚ :=
  match PyFloat.ofJson value with
  | .ok (.finite number) => some number
  | _ => none

/-- `_positive_number`. -/
def positive (value : Json) : Option ℚ := (finite value).filter (0 < ·)

/-- `int(value)`; a `TypeError` or a `ValueError` gives nothing. -/
def intOf : Json → Except Fault (Option Int)
  | .int value => .ok (some value)
  | .bool value => .ok (some (if value then 1 else 0))
  | .float (.finite value) => .ok (some (value.num.tdiv value.den))
  | .float (.inf _) => .error .raised
  | .str value => .ok (intOfText value)
  | _ => .ok none

/-- `_value`: the first of some fields that is given and not empty. -/
def valueOf (row : Item) (names : List String) : Json := ((names.map row.get).find? fun value => ! blank value).getD .null

/-- `config.get(name, default)`. -/
def setting (config : Item) (name : String) (default : Json) : Json := (Dict.get? config (text name)).getD default

def refuse {α : Type} (message : String) : Except Fault α := .error (.configuration (text message))

/-! ## Rows of an answer -/

/-- The first of some fields that holds a list. -/
def listUnder (fields : Item) (names : List String) : Option (List Json) :=
  names.findSome? fun name => Feed.arrayOf (fields.get name)

/-- `_list_from_payload` of an adapter that looks no deeper. -/
def listFromPayload (names : List String) : Json → List Json
  | .arr rows => rows
  | .obj fields => (listUnder fields names).getD []
  | _ => []

section Gathering

variable {Row Fill : Type} (fillOf : Row → Reading Fill)

/-- The rows in order until the wanted number of fills is found. -/
def gather : Nat → List Row → Except Fault (List Fill)
  | _, [] => .ok []
  | desired, row :: rest => do
    match ← (fillOf row).run with
    | none => gather desired rest
    | some fill => if desired ≤ 1 then return [fill] else return fill :: (← gather (desired - 1) rest)

/-- All rows. -/
def readRows : List Row → Except Fault (List Fill)
  | [] => .ok []
  | row :: rest => do
    match ← (fillOf row).run with
    | none => readRows rest
    | some fill => return fill :: (← readRows rest)

/-- The fill that a row is read as. -/
def fill? (row : Row) : Option Fill :=
  match (fillOf row).run with
  | .ok found => found
  | .error _ => none

variable {fillOf}

theorem fill?_eq_some {row : Row} {fill : Fill} : fill? fillOf row = some fill ↔ (fillOf row).run = .ok (some fill) := by
  unfold fill?
  cases (fillOf row).run <;> simp

theorem readRows_eq_ok {rows : List Row} {fills : List Fill} (read : readRows fillOf rows = .ok fills) :
    fills = rows.filterMap (fill? fillOf) := by
  induction rows generalizing fills with
  | nil =>
    cases read
    rfl
  | cons row rest ih =>
    rw [readRows] at read
    obtain ⟨found, first, read⟩ := Result.bind_eq_ok.mp read
    have here : fill? fillOf row = found := by rw [fill?, first]
    rw [List.filterMap_cons, here]
    cases found with
    | none => exact ih read
    | some fill =>
      obtain ⟨others, later, same⟩ := Result.bind_eq_ok.mp read
      cases same
      rw [ih later]

/-- What is gathered are the first fills of the rows, at least one if there is any. -/
theorem gather_eq_ok {desired : Nat} {rows : List Row} {fills : List Fill}
    (read : gather fillOf desired rows = .ok fills) :
    fills = (rows.filterMap (fill? fillOf)).take (max desired 1) := by
  induction rows generalizing desired fills with
  | nil =>
    cases read
    rw [List.filterMap_nil, List.take_nil]
  | cons row rest ih =>
    rw [gather] at read
    obtain ⟨found, first, read⟩ := Result.bind_eq_ok.mp read
    have here : fill? fillOf row = found := by rw [fill?, first]
    rw [List.filterMap_cons, here]
    cases found with
    | none => exact ih read
    | some fill =>
      dsimp only at read ⊢
      split at read
      · rename_i last
        cases read
        rw [max_eq_right last, List.take_succ_cons, List.take_zero]
      · rename_i more
        obtain ⟨others, later, same⟩ := Result.bind_eq_ok.mp read
        cases same
        have next : max desired 1 = max (desired - 1) 1 + 1 := by omega
        rw [next, List.take_succ_cons, ih later]

end Gathering

theorem length_filterMap_le {α β : Type} {listed wanted : α → Option β} {entries : List α}
    (inside : ∀ entry ∈ entries, (listed entry).isSome → (wanted entry).isSome) :
    (entries.filterMap listed).length ≤ (entries.filterMap wanted).length := by
  induction entries with
  | nil => simp
  | cons entry rest ih =>
    obtain ⟨here, later⟩ := List.forall_mem_cons.mp inside
    have tail := ih later
    rw [List.filterMap_cons, List.filterMap_cons]
    cases first : listed entry with
    | none => cases wanted entry <;> simp <;> omega
    | some value =>
      obtain ⟨other, second⟩ := Option.isSome_iff_exists.mp (here (Option.isSome_iff_exists.mpr ⟨value, first⟩))
      rw [second]
      simpa using tail

/-- The page of an adapter that reads a bounded recent list. -/
def gatherPage {Fill : Type} (fillOf : Json → Reading Fill) (activity : Fill → Item) (rows : List Json) (payload : Json)
    (desired : Nat) (rowKeys : List String) : Except Fault Feed.Page := do
  let fills ← gather fillOf desired rows
  return Feed.activitySnapshot (fills.map activity) payload desired (rowKeys.map text) true none

/-! ## Activity records -/

/-- A record with its fields by name. -/
def record (fields : List (String × Json)) : Item := fields.map fun field => (text field.1, field.2)

theorem get_record (fields : List (String × Json)) (name : String) :
    (record fields).get name = (fields.lookup name).getD .null := by
  induction fields with
  | nil => rfl
  | cons field rest ih =>
    obtain ⟨key, value⟩ := field
    have inner : (record ((key, value) :: rest)).get name =
        if text key = text name then value else (record rest).get name := by
      unfold Item.get record
      rw [List.map_cons, Dict.get?]
      split <;> rfl
    rw [inner, ih]
    by_cases same : name = key
    · rw [if_pos (congrArg text same.symm), List.lookup_cons, same, beq_self_eq_true]
      rfl
    · rw [if_neg fun equal => same (text_injective equal).symm, List.lookup_cons, beq_false_of_ne same]

end MarketSentinel.Listing
