import MarketSentinel.Library.Decimal
import MarketSentinel.Library.Dict
import MarketSentinel.Library.Json
import MarketSentinel.Library.JsonString

/-! Stable identities of fills.

A fill with an identity of its own keeps it; a fill of a transaction is named by its
position there or by a digest of its fields; any other fill by its fields.
-/

set_option autoImplicit false

namespace MarketSentinel.Wallet

open Python

abbrev Item := Dict Text Json

/-- What the runtime makes of values and texts. -/
structure Spelling where
  casing : Casing
  /-- `str(value)` of what is not a text. -/
  spell : Json → Text
  /-- What counts as false is spelled in ASCII and without a bar. -/
  spell_false : ∀ value, value.truthy = false → ∀ c ∈ spell value, c.val < 128 ∧ c.val ≠ 124
  /-- The hexadecimal SHA-256 of an ASCII text. -/
  sha256 : Text → Text

def Item.get (item : Item) (field : String) : Json := (Dict.get? item (text field)).getD .null

variable (spelling : Spelling)

def Spelling.str (value : Json) : Text :=
  match value with
  | .str value => value
  | other => spelling.spell other

/-- `str(value or "")`. -/
def Spelling.orEmpty (value : Json) : Text := if value.truthy then spelling.str value else []

/-- `str(value if value is not None else "")`. -/
def Spelling.present (value : Json) : Text := if value = .null then [] else spelling.str value

/-- `str(item.get(first) or item.get(second) or "").strip()`. -/
def either (item : Item) (first second : String) : Text :=
  strip (if (item.get first).truthy then spelling.str (item.get first) else spelling.orEmpty (item.get second))

/-- The digits from the least significant one without zeros at their end, and the exponent. -/
def trimZeros : List Nat → Int → List Nat × Int
  | 0 :: next :: rest, exponent => trimZeros (next :: rest) (exponent + 1)
  | digits, exponent => (digits, exponent)

def decimalIdentity (number : Decimal) : Text :=
  let (digits, exponent) := trimZeros number.digits.reverse number.exponent
  if digits.all (· == 0) then text "0"
  else Decimal.spelled ⟨number.negative, digits.reverse, exponent⟩

/-- `_identity_number` of a stripped text. -/
def identityNumber (t : Text) : Text :=
  match Decimal.ofText t with
  | some number => decimalIdentity number
  | none => t

def transactionHash (item : Item) : Text :=
  let tx := either spelling item "transactionHash" "transaction_hash"
  if text "0x" <+: tx ∨ text "0X" <+: tx then spelling.casing.lower tx else tx

/-- The first position in the transaction that is given and not blank. -/
def fillIndex (item : Item) : Option Text :=
  ["logIndex", "log_index", "fillId", "trade_id"].findSome? fun field =>
    let index := strip (spelling.str (item.get field))
    if item.get field ≠ .null ∧ index ≠ [] then some index else none

def contract (item : Item) : Text := either spelling item "asset" "contract_id"

def lowerField (item : Item) (field : String) : Text :=
  spelling.casing.lower (strip (spelling.present (item.get field)))

def numberField (item : Item) (field : String) : Text := strip (spelling.present (item.get field))

/-- The digested fields, by name. -/
def fillFields (item : Item) : List (Text × Text) :=
  [(text "asset", contract spelling item), (text "outcome", lowerField spelling item "outcome"),
    (text "price", identityNumber (numberField spelling item "price")),
    (text "proxyWallet", lowerField spelling item "proxyWallet"), (text "side", lowerField spelling item "side"),
    (text "size", identityNumber (numberField spelling item "size")),
    (text "timestamp", identityNumber (numberField spelling item "timestamp"))]

def joinedFields : List String := ["timestamp", "proxyWallet", "asset", "side", "price", "size", "slug", "outcome"]

def joinedField (item : Item) (field : String) : Text :=
  spelling.casing.lower (strip (spelling.orEmpty (item.get field)))

def joinedTexts (item : Item) : List Text := joinedFields.map (joinedField spelling item)

def activityKey (item : Item) : Text :=
  let explicit := either spelling item "activityId" "activity_id"
  if explicit ≠ [] then text "activity-id:" ++ explicit
  else
    let tx := transactionHash spelling item
    if tx ≠ [] then
      match fillIndex spelling item with
      | some index => text "tx:" ++ tx ++ text ":fill:" ++ index
      | none =>
        if contract spelling item ≠ [] then
          text "tx:" ++ tx ++ text ":fill:" ++ spelling.sha256 (dumpsTexts (fillFields spelling item))
        else text "tx:" ++ tx
    else text "activity:" ++ List.intercalate [124] (joinedTexts spelling item)

/-! ## What a key identifies -/

/-- A number, or the text that is none. -/
inductive Quantity where
  | number (value : ℚ)
  | spelled (t : Text)
  deriving DecidableEq

def quantity (t : Text) : Quantity :=
  match Decimal.ofText t with
  | some number => .number number.value
  | none => .spelled t

structure Terms where
  timestamp : Quantity
  price : Quantity
  size : Quantity
  deriving DecidableEq

/-- The fill that an item denotes: its branch, and there every field that tells fills apart. -/
inductive Identity where
  | activityId (id : Text)
  | position (tx index : Text)
  | digested (tx asset outcome proxyWallet side : Text) (terms : Terms)
  | transaction (tx : Text)
  | untracked (proxyWallet asset side slug outcome : Text) (terms : Terms)
  deriving DecidableEq

/-- The numbers of an item without a transaction, in lower case like its other fields. -/
def loweredTerms (item : Item) : Terms where
  timestamp := quantity (lowerField spelling item "timestamp")
  price := quantity (lowerField spelling item "price")
  size := quantity (lowerField spelling item "size")

def terms (item : Item) : Terms where
  timestamp := quantity (numberField spelling item "timestamp")
  price := quantity (numberField spelling item "price")
  size := quantity (numberField spelling item "size")

def identity (item : Item) : Identity :=
  let explicit := either spelling item "activityId" "activity_id"
  if explicit ≠ [] then .activityId explicit
  else
    let tx := transactionHash spelling item
    if tx ≠ [] then
      match fillIndex spelling item with
      | some index => .position tx index
      | none =>
        if contract spelling item ≠ [] then
          .digested tx (contract spelling item) (lowerField spelling item "outcome")
            (lowerField spelling item "proxyWallet") (lowerField spelling item "side") (terms spelling item)
        else .transaction tx
    else .untracked (joinedField spelling item "proxyWallet") (joinedField spelling item "asset")
      (joinedField spelling item "side") (joinedField spelling item "slug") (joinedField spelling item "outcome")
      (loweredTerms spelling item)

/-! ## Numbers in lowest terms -/

theorem trimZeros_eq (digits : List Nat) (exponent : Int) :
    (trimZeros digits exponent).1 <:+ digits ∧
      (trimZeros digits exponent).2 + (trimZeros digits exponent).1.length = exponent + digits.length ∧
      exponent ≤ (trimZeros digits exponent).2 ∧
      (digits ≠ [] → (trimZeros digits exponent).1 ≠ []) ∧
      ((trimZeros digits exponent).1.head? = some 0 → (trimZeros digits exponent).1 = [0]) ∧
      ((Nat.ofDigits 10 (trimZeros digits exponent).1 : Nat) : ℚ) * (10 : ℚ) ^ (trimZeros digits exponent).2 =
        ((Nat.ofDigits 10 digits : Nat) : ℚ) * (10 : ℚ) ^ exponent := by
  induction digits, exponent using trimZeros.induct with
  | case1 next rest exponent ih =>
    obtain ⟨part, length, later, some, zero, value⟩ := ih
    rw [trimZeros]
    refine ⟨part.trans (List.suffix_cons 0 _), ?_, by omega, fun _ => some (List.cons_ne_nil next rest), zero, ?_⟩
    · rw [length, List.length_cons (a := 0)]
      push_cast
      ring
    · have shifted : Nat.ofDigits 10 (0 :: next :: rest) = 10 * Nat.ofDigits 10 (next :: rest) := by
        rw [Nat.ofDigits_cons, zero_add]
      rw [value, zpow_add_one₀ (by norm_num), shifted, Nat.cast_mul, Nat.cast_ofNat]
      ring
  | case2 digits exponent other =>
    have same : trimZeros digits exponent = (digits, exponent) := by
      unfold trimZeros
      split
      · exact absurd rfl (other _ _)
      · rfl
    rw [same]
    refine ⟨List.suffix_refl digits, rfl, le_refl exponent, id, fun zero => ?_, rfl⟩
    cases digits with
    | nil => cases zero
    | cons first rest =>
      obtain rfl : first = 0 := Option.some.inj zero
      cases rest with
      | nil => rfl
      | cons next rest => exact absurd rfl (other next rest)

/-- The decimal of the same number that ends in no zero. -/
def lowest (number : Decimal) : Decimal :=
  let (digits, exponent) := trimZeros number.digits.reverse number.exponent
  ⟨number.negative, digits.reverse, exponent⟩

theorem coefficient_lowest (number : Decimal) :
    (lowest number).coefficient = Nat.ofDigits 10 (trimZeros number.digits.reverse number.exponent).1 := by
  unfold lowest Decimal.coefficient
  rw [List.reverse_reverse]

theorem value_lowest (number : Decimal) : (lowest number).value = number.value := by
  obtain ⟨_, _, _, _, _, value⟩ := trimZeros_eq number.digits.reverse number.exponent
  rw [Decimal.value, Decimal.value, coefficient_lowest]
  exact congrArg _ value

theorem lowest_valid {number : Decimal} (valid : number.Valid) : (lowest number).Valid := by
  obtain ⟨part, length, later, some, _, _⟩ := trimZeros_eq number.digits.reverse number.exponent
  have nonempty := some (by simpa using valid.some)
  rw [List.length_reverse] at length
  refine ⟨?_, ?_, ?_, ?_⟩
  · simpa [lowest] using nonempty
  · intro digit member
    refine valid.small digit (List.mem_reverse.mp (part.subset ?_))
    simpa [lowest] using member
  · rcases valid.leading with zero | leading
    · left
      have single := part.length_le
      rw [zero, List.reverse_singleton] at part nonempty single
      have whole := part.eq_of_length (le_antisymm single (List.length_pos_of_ne_nil nonempty))
      simp [lowest, zero, whole]
    · right
      obtain ⟨front, cut⟩ := part
      have last := congrArg List.getLast? cut
      rw [List.getLast?_append_of_ne_nil _ nonempty, List.getLast?_reverse] at last
      simp only [lowest, List.head?_reverse, last]
      exact leading
  · obtain ⟨low, high⟩ := valid.representable
    refine ⟨low.trans later, ?_⟩
    simp only [lowest, List.length_reverse]
    rw [length]
    exact high

theorem decimalIdentity_eq (number : Decimal) :
    decimalIdentity number = if (lowest number).coefficient = 0 then text "0" else (lowest number).spelled := by
  have zeros : ∀ digits : List Nat, digits.all (· == 0) = true ↔ Nat.ofDigits 10 digits = 0 := by
    intro digits
    induction digits with
    | nil => simp
    | cons digit rest ih =>
      rw [List.all_cons, Bool.and_eq_true, ih, Nat.ofDigits_cons]
      simp
  rw [coefficient_lowest]
  unfold decimalIdentity lowest
  dsimp only
  exact if_congr (zeros _) rfl rfl

/-- The written identity of a number is read as the same number. -/
theorem ofText_decimalIdentity {number : Decimal} (valid : number.Valid) :
    ∃ read, Decimal.ofText (decimalIdentity number) = some read ∧ read.value = number.value := by
  rw [decimalIdentity_eq]
  split
  · rename_i zero
    refine ⟨⟨false, [0], 0⟩, by decide, ?_⟩
    rw [← value_lowest number, Decimal.value, Decimal.value, zero]
    simp [Decimal.coefficient]
  · exact ⟨_, Decimal.ofText_spelled (lowest_valid valid), value_lowest number⟩

/-- Nonzero numbers in lowest terms are equal only as written. -/
theorem lowest_eq {first second : Decimal} (left : first.Valid) (right : second.Valid)
    (nonzero : (lowest first).coefficient ≠ 0) (same : first.value = second.value) :
    lowest first = lowest second := by
  rw [← value_lowest first, ← value_lowest second] at same
  have power : ∀ e : Int, (0 : ℚ) < (10 : ℚ) ^ e := fun e => zpow_pos (by norm_num) e
  have other : (lowest second).coefficient ≠ 0 := by
    intro zero
    rw [Decimal.value, Decimal.value, zero] at same
    have positive : ((lowest first).coefficient : ℚ) * (10 : ℚ) ^ (lowest first).exponent ≠ 0 :=
      mul_ne_zero (Nat.cast_ne_zero.mpr nonzero) (power _).ne'
    split at same <;> simp_all
  have size : ∀ number : Decimal, (lowest number).coefficient ≠ 0 →
      (0 : ℚ) < ((lowest number).coefficient : ℚ) * (10 : ℚ) ^ (lowest number).exponent :=
    fun number nonzero => mul_pos (Nat.cast_pos.mpr (Nat.pos_of_ne_zero nonzero)) (power _)
  have last : ∀ number : Decimal, number.Valid → (lowest number).coefficient ≠ 0 →
      (lowest number).coefficient % 10 ≠ 0 := by
    intro number valid nonzero
    obtain ⟨part, _, _, _, zero, _⟩ := trimZeros_eq number.digits.reverse number.exponent
    rw [coefficient_lowest] at nonzero ⊢
    cases shape : (trimZeros number.digits.reverse number.exponent).1 with
    | nil => simp [shape] at nonzero
    | cons digit rest =>
      rw [shape] at nonzero zero part
      have small : digit < 10 := valid.small digit (List.mem_reverse.mp (part.subset List.mem_cons_self))
      rw [Nat.ofDigits_cons, Nat.add_mul_mod_self_left, Nat.mod_eq_of_lt small]
      rintro rfl
      rw [zero rfl] at nonzero
      simp at nonzero
  have signs : (lowest first).negative = (lowest second).negative := by
    have left := size first nonzero
    have right := size second other
    rw [Decimal.value, Decimal.value] at same
    cases negative : (lowest first).negative <;> cases opposite : (lowest second).negative
    · rfl
    · simp only [negative, opposite, if_true, Bool.false_eq_true, if_false] at same
      linarith
    · simp only [negative, opposite, if_true, Bool.false_eq_true, if_false] at same
      linarith
    · rfl
  rw [Decimal.value, Decimal.value, signs] at same
  have magnitudes : ((lowest first).coefficient : ℚ) * (10 : ℚ) ^ (lowest first).exponent =
      ((lowest second).coefficient : ℚ) * (10 : ℚ) ^ (lowest second).exponent :=
    mul_left_cancel₀ (by split <;> norm_num) same
  obtain ⟨coefficients, exponents⟩ := Decimal.lowest_terms (last first left nonzero) (last second right other) magnitudes
  have back : ∀ number : Decimal, number.Valid → (lowest number).coefficient ≠ 0 →
      (lowest number).digits = (Nat.digits 10 (lowest number).coefficient).reverse := by
    intro number valid nonzero
    have lowestValid := lowest_valid valid
    rw [Decimal.coefficient, Nat.digits_ofDigits 10 (by norm_num), List.reverse_reverse]
    · exact fun digit member => lowestValid.small digit (List.mem_reverse.mp member)
    · intro some zero
      rw [List.getLast_reverse] at zero
      rcases lowestValid.leading with alone | leading
      · exact nonzero (by simp [Decimal.coefficient, alone])
      · exact leading (by rw [List.head?_eq_some_head (by simpa using some), zero])
  have digits : (lowest first).digits = (lowest second).digits := by
    rw [back first left nonzero, back second right other, coefficients]
  cases shape : lowest first with
  | mk negative places exponent =>
    cases shape' : lowest second with
    | mk negative' places' exponent' =>
      simp only [shape, shape'] at signs digits exponents
      rw [signs, digits, exponents]

theorem decimalIdentity_eq_iff {first second : Decimal} (left : first.Valid) (right : second.Valid) :
    decimalIdentity first = decimalIdentity second ↔ first.value = second.value := by
  constructor
  · intro same
    obtain ⟨read, found, value⟩ := ofText_decimalIdentity left
    obtain ⟨other, found', value'⟩ := ofText_decimalIdentity right
    rw [same, found'] at found
    obtain rfl := Option.some.inj found
    exact value.symm.trans value'
  · intro same
    rw [decimalIdentity_eq, decimalIdentity_eq]
    by_cases zero : (lowest first).coefficient = 0
    · have none : (lowest second).coefficient = 0 := by
        by_contra nonzero
        exact nonzero (lowest_eq right left nonzero same.symm ▸ zero)
      rw [if_pos zero, if_pos none]
    · have equal := lowest_eq left right zero same
      rw [if_neg zero, if_neg (equal ▸ zero), equal]

/-- Identity numbers are equal exactly for equal numbers, or for the same text that is none. -/
theorem identityNumber_eq_iff (first second : Text) :
    identityNumber first = identityNumber second ↔ quantity first = quantity second := by
  have mixed : ∀ {number : Decimal} {t : Text}, number.Valid → Decimal.ofText t = none →
      decimalIdentity number ≠ t := by
    intro number t valid refused same
    obtain ⟨read, found, _⟩ := ofText_decimalIdentity valid
    rw [same, refused] at found
    cases found
  unfold identityNumber quantity
  cases left : Decimal.ofText first with
  | none =>
    cases right : Decimal.ofText second with
    | none => simp
    | some other => simpa using (mixed (Decimal.ofText_valid right) left).symm
  | some number =>
    cases right : Decimal.ofText second with
    | none => simpa using mixed (Decimal.ofText_valid left) right
    | some other => simpa using decimalIdentity_eq_iff (Decimal.ofText_valid left) (Decimal.ofText_valid right)

/-! ## What a key is rendered from -/

/-- What follows the transaction hash in a key. -/
inductive Part where
  | whole
  | position (index : Text)
  | digested

inductive Reading where
  | activityId (id : Text)
  | tracked (tx : Text) (part : Part)
  | untracked

def Part.suffix (item : Item) : Part → Text
  | .whole => []
  | .position index => text ":fill:" ++ index
  | .digested => text ":fill:" ++ spelling.sha256 (dumpsTexts (fillFields spelling item))

def reading (item : Item) : Reading :=
  let explicit := either spelling item "activityId" "activity_id"
  if explicit ≠ [] then .activityId explicit
  else
    let tx := transactionHash spelling item
    if tx ≠ [] then
      match fillIndex spelling item with
      | some index => .tracked tx (.position index)
      | none => if contract spelling item ≠ [] then .tracked tx .digested else .tracked tx .whole
    else .untracked

def Identity.reading : Identity → Reading
  | .activityId id => .activityId id
  | .position tx index => .tracked tx (.position index)
  | .digested tx _ _ _ _ _ => .tracked tx .digested
  | .transaction tx => .tracked tx .whole
  | .untracked _ _ _ _ _ _ => .untracked

theorem activityKey_eq (item : Item) : activityKey spelling item =
    match reading spelling item with
    | .activityId id => text "activity-id:" ++ id
    | .tracked tx part => text "tx:" ++ tx ++ part.suffix spelling item
    | .untracked => text "activity:" ++ List.intercalate [124] (joinedTexts spelling item) := by
  unfold activityKey reading
  dsimp only
  cases fillIndex spelling item with
  | some index => split_ifs <;> simp [Part.suffix]
  | none => split_ifs <;> simp [Part.suffix]

theorem identity_eq (item : Item) : identity spelling item =
    match reading spelling item with
    | .activityId id => .activityId id
    | .tracked tx .whole => .transaction tx
    | .tracked tx (.position index) => .position tx index
    | .tracked tx .digested =>
      .digested tx (contract spelling item) (lowerField spelling item "outcome")
        (lowerField spelling item "proxyWallet") (lowerField spelling item "side") (terms spelling item)
    | .untracked =>
      .untracked (joinedField spelling item "proxyWallet") (joinedField spelling item "asset")
        (joinedField spelling item "side") (joinedField spelling item "slug") (joinedField spelling item "outcome")
        (loweredTerms spelling item) := by
  unfold identity reading
  dsimp only
  cases fillIndex spelling item with
  | some index => split_ifs <;> rfl
  | none => split_ifs <;> rfl

theorem identity_reading (item : Item) : (identity spelling item).reading = reading spelling item := by
  rw [identity_eq]
  cases reading spelling item with
  | activityId id => rfl
  | tracked tx part => cases part <;> rfl
  | untracked => rfl

theorem fillFields_names (first second : Item) :
    (fillFields spelling first).map Prod.fst = (fillFields spelling second).map Prod.fst := by
  simp only [fillFields, List.map_cons, List.map_nil]

theorem fillFields_eq_iff (first second : Item) : fillFields spelling first = fillFields spelling second ↔
    contract spelling first = contract spelling second ∧
      lowerField spelling first "outcome" = lowerField spelling second "outcome" ∧
      lowerField spelling first "proxyWallet" = lowerField spelling second "proxyWallet" ∧
      lowerField spelling first "side" = lowerField spelling second "side" ∧
      terms spelling first = terms spelling second := by
  have same : ∀ {name left right : Text}, (name, left) = (name, right) → left = right := fun equal =>
    (Prod.mk.inj equal).2
  unfold fillFields terms
  constructor
  · intro equal
    obtain ⟨asset, equal⟩ := List.cons.inj equal
    obtain ⟨outcome, equal⟩ := List.cons.inj equal
    obtain ⟨price, equal⟩ := List.cons.inj equal
    obtain ⟨wallet, equal⟩ := List.cons.inj equal
    obtain ⟨side, equal⟩ := List.cons.inj equal
    obtain ⟨size, equal⟩ := List.cons.inj equal
    obtain ⟨timestamp, _⟩ := List.cons.inj equal
    refine ⟨same asset, same outcome, same wallet, same side, ?_⟩
    rw [(identityNumber_eq_iff _ _).mp (same timestamp), (identityNumber_eq_iff _ _).mp (same price),
      (identityNumber_eq_iff _ _).mp (same size)]
  · rintro ⟨asset, outcome, wallet, side, numbers⟩
    obtain ⟨timestamp, price, size⟩ := Terms.mk.inj numbers
    rw [asset, outcome, wallet, side, (identityNumber_eq_iff _ _).mpr price, (identityNumber_eq_iff _ _).mpr size,
      (identityNumber_eq_iff _ _).mpr timestamp]

/-! ## Fills without a transaction -/

theorem lower_nil : spelling.casing.lower [] = [] := spelling.casing.lower_ascii [] (by simp)

/-- A field is its spelling, or blank where the value counts as false. -/
theorem joinedField_cases (item : Item) (field : String) :
    joinedField spelling item field = lowerField spelling item field ∨
      joinedField spelling item field = [] ∧ 124 ∉ lowerField spelling item field := by
  unfold joinedField lowerField Spelling.orEmpty Spelling.present
  cases truth : (item.get field).truthy with
  | true =>
    have given : item.get field ≠ .null := by
      intro absent
      rw [absent] at truth
      cases truth
    rw [if_pos rfl, if_neg given]
    exact Or.inl rfl
  | false =>
    rw [if_neg (by decide)]
    refine Or.inr ⟨lower_nil spelling, ?_⟩
    split
    · rw [show strip [] = [] from rfl, lower_nil]
      exact List.not_mem_nil
    · have ascii : ∀ c ∈ spelling.str (item.get field), c.val < 128 ∧ c.val ≠ 124 := by
        unfold Spelling.str
        split
        · rename_i value same
          rw [same] at truth
          have blank : value = [] := by simpa [Json.truthy] using truth
          simp [blank]
        · exact spelling.spell_false _ truth
      have kept : ∀ c ∈ strip (spelling.str (item.get field)), c.val < 128 ∧ c.val ≠ 124 :=
        fun c member => ascii c ((stripWhere_sublist isSpace _).subset member)
      rw [spelling.casing.lower_ascii _ fun c member => (kept c member).1]
      intro bar
      obtain ⟨c, member, same⟩ := List.mem_map.mp bar
      obtain ⟨small, other⟩ := kept c member
      unfold asciiLower at same
      split at same
      · have value := congrArg Fin.val same
        simp only [Fin.ofNat] at value
        have bar : (124 : CodePoint).val = 124 := rfl
        omega
      · exact other (by rw [same]; rfl)

/-- Equal numbers are written alike, or without a bar. -/
theorem joinedField_alike (first second : Item) (field : String)
    (same : quantity (lowerField spelling first field) = quantity (lowerField spelling second field)) :
    joinedField spelling first field = joinedField spelling second field ∨
      (124 ∉ joinedField spelling first field ∧ 124 ∉ joinedField spelling second field) := by
  have plain : ∀ {t : Text} {number : Decimal}, Decimal.ofText t = some number → (124 : CodePoint) ∉ t := by
    intro t number read bar
    rcases Decimal.ofText_points read bar (by decide) (by decide) with digit | mark
    · exact absurd digit (by decide)
    · exact absurd mark (by decide)
  have blank : ∀ item : Item, 124 ∉ lowerField spelling item field → 124 ∉ joinedField spelling item field := by
    intro item free
    rcases joinedField_cases spelling item field with shown | ⟨hidden, _⟩
    · rwa [shown]
    · rw [hidden]
      exact List.not_mem_nil
  unfold quantity at same
  cases left : Decimal.ofText (lowerField spelling first field) with
  | some number =>
    cases right : Decimal.ofText (lowerField spelling second field) with
    | some other => exact Or.inr ⟨blank first (plain left), blank second (plain right)⟩
    | none =>
      rw [left, right] at same
      cases same
  | none =>
    cases right : Decimal.ofText (lowerField spelling second field) with
    | some other =>
      rw [left, right] at same
      cases same
    | none =>
      rw [left, right] at same
      have texts : lowerField spelling first field = lowerField spelling second field := Quantity.spelled.inj same
      rcases joinedField_cases spelling first field with shown | ⟨_, free⟩
      · rcases joinedField_cases spelling second field with shown' | ⟨_, free⟩
        · exact Or.inl (by rw [shown, shown', texts])
        · exact Or.inr ⟨blank first (texts ▸ free), blank second free⟩
      · exact Or.inr ⟨blank first free, blank second (texts ▸ free)⟩

/-- Items that denote one fill and are not written alike differ in their pieces. -/
theorem joinedTexts_eq_of_pieces {first second : Item} (left : reading spelling first = .untracked)
    (right : reading spelling second = .untracked) (same : identity spelling first = identity spelling second)
    (equal : pieces 124 (joinedTexts spelling first) = pieces 124 (joinedTexts spelling second)) :
    joinedTexts spelling first = joinedTexts spelling second := by
  rw [identity_eq, identity_eq, left, right] at same
  obtain ⟨wallet, asset, side, slug, outcome, numbers⟩ := Identity.untracked.inj same
  obtain ⟨timestamp, price, size⟩ := Terms.mk.inj numbers
  refine eq_of_pieces_eq rfl ?_ equal
  simp only [joinedTexts, joinedFields, List.map_cons, List.map_nil, List.zip_cons_cons, List.zip_nil_right,
    List.forall_mem_cons]
  exact ⟨joinedField_alike spelling first second _ timestamp, Or.inl wallet, Or.inl asset, Or.inl side,
    joinedField_alike spelling first second _ price, joinedField_alike spelling first second _ size,
    Or.inl slug, Or.inl outcome, by simp⟩

/-! ## Exactness -/

/-- Two items whose keys do not tell whether they are one fill. -/
inductive Confused (first second : Item) : Prop
  /-- The first transaction hash is the second one and the beginning of what follows it. -/
  | runsOn (tx more : Text) (part other : Part) (continued : more ≠ [])
      (left : reading spelling first = .tracked (tx ++ more) part)
      (right : reading spelling second = .tracked tx other)
      (spelled : other.suffix spelling second = more ++ part.suffix spelling first)
  /-- The position of the first fill is the digest of the second one. -/
  | borrowed (tx : Text)
      (left : reading spelling first =
        .tracked tx (.position (spelling.sha256 (dumpsTexts (fillFields spelling second)))))
      (right : reading spelling second = .tracked tx .digested)
  /-- The digested fields differ only in a surrogate pair against its character. -/
  | recoded (tx : Text) (left : reading spelling first = .tracked tx .digested)
      (right : reading spelling second = .tracked tx .digested)
      (different : fillFields spelling first ≠ fillFields spelling second)
      (units : ((fillFields spelling first).map fun field => utf16 field.2) =
        (fillFields spelling second).map fun field => utf16 field.2)
  /-- One fill without a transaction, whose numbers are spelled in two ways. -/
  | respelled (left : reading spelling first = .untracked) (right : reading spelling second = .untracked)
      (same : identity spelling first = identity spelling second)
      (different : joinedTexts spelling first ≠ joinedTexts spelling second)
  /-- Two fills without a transaction, whose fields have the same pieces between bars. -/
  | shifted (left : reading spelling first = .untracked) (right : reading spelling second = .untracked)
      (different : identity spelling first ≠ identity spelling second)
      (same : pieces 124 (joinedTexts spelling first) = pieces 124 (joinedTexts spelling second))

variable {spelling} {first second : Item}

theorem reading_eq (same : identity spelling first = identity spelling second) :
    reading spelling first = reading spelling second := by
  rw [← identity_reading, ← identity_reading, same]

theorem untracked_key_iff (left : reading spelling first = .untracked) (right : reading spelling second = .untracked) :
    activityKey spelling first = activityKey spelling second ↔
      pieces 124 (joinedTexts spelling first) = pieces 124 (joinedTexts spelling second) := by
  rw [activityKey_eq, activityKey_eq, left, right]
  exact (List.append_right_injective _).eq_iff.trans
    (intercalate_eq_iff 124 (by simp [joinedTexts, joinedFields]) (by simp [joinedTexts, joinedFields]))

theorem digested_identity_iff {tx : Text} (left : reading spelling first = .tracked tx .digested)
    (right : reading spelling second = .tracked tx .digested) :
    identity spelling first = identity spelling second ↔ fillFields spelling first = fillFields spelling second := by
  rw [fillFields_eq_iff, identity_eq, identity_eq, left, right, Identity.digested.injEq]
  exact and_iff_right rfl

theorem Confused.not_exact (confused : Confused spelling first second) :
    ¬(activityKey spelling first = activityKey spelling second ↔
      identity spelling first = identity spelling second) := by
  intro exact_
  cases confused with
  | runsOn tx more part other continued left right spelled =>
    have keys : activityKey spelling first = activityKey spelling second := by
      rw [activityKey_eq, activityKey_eq, left, right]
      simp [spelled]
    have same := reading_eq (exact_.mp keys)
    rw [left, right] at same
    exact continued (List.append_right_eq_self.mp (Reading.tracked.inj same).1)
  | borrowed tx left right =>
    have keys : activityKey spelling first = activityKey spelling second := by
      rw [activityKey_eq, activityKey_eq, left, right]
      rfl
    have same := reading_eq (exact_.mp keys)
    rw [left, right] at same
    cases same
  | recoded tx left right different units =>
    refine different ((digested_identity_iff left right).mp (exact_.mp ?_))
    rw [activityKey_eq, activityKey_eq, left, right]
    have texts := dumpsTexts_congr (fillFields_names spelling first second) units
    simp only [Part.suffix, texts]
  | respelled left right same different =>
    exact different (joinedTexts_eq_of_pieces spelling left right same
      ((untracked_key_iff left right).mp (exact_.mpr same)))
  | shifted left right different same =>
    exact different (exact_.mp ((untracked_key_iff left right).mpr same))

/-- Fills that are the same have the same key, or it depends on a number's spelling. -/
theorem key_eq_of_identity_eq (same : identity spelling first = identity spelling second) :
    activityKey spelling first = activityKey spelling second ∨ Confused spelling first second := by
  have right := reading_eq same
  cases left : reading spelling first with
  | untracked =>
    rw [left] at right
    by_cases written : joinedTexts spelling first = joinedTexts spelling second
    · exact Or.inl ((untracked_key_iff left right.symm).mpr (by rw [written]))
    · exact Or.inr (.respelled left right.symm same written)
  | activityId id =>
    rw [activityKey_eq, activityKey_eq, ← right, left]
    exact Or.inl rfl
  | tracked tx part =>
    left
    rw [activityKey_eq, activityKey_eq, ← right, left]
    rw [left] at right
    cases part with
    | whole => rfl
    | position index => rfl
    | digested => simp only [Part.suffix, (digested_identity_iff left right.symm).mp same]

/-- Two keys of one transaction: the same fill, or a confusion. -/
theorem identity_eq_of_suffix_eq {tx : Text} {part other : Part}
    (collisionFree : spelling.sha256 (dumpsTexts (fillFields spelling first)) =
      spelling.sha256 (dumpsTexts (fillFields spelling second)) →
      dumpsTexts (fillFields spelling first) = dumpsTexts (fillFields spelling second))
    (left : reading spelling first = .tracked tx part) (right : reading spelling second = .tracked tx other)
    (same : part.suffix spelling first = other.suffix spelling second) :
    identity spelling first = identity spelling second ∨ Confused spelling first second ∨
      Confused spelling second first := by
  cases part with
  | whole =>
    cases other with
    | whole => exact Or.inl (by rw [identity_eq, identity_eq, left, right])
    | position index => exact absurd (congrArg List.length same) (by simp [Part.suffix, text])
    | digested => exact absurd (congrArg List.length same) (by simp [Part.suffix, text])
  | position index =>
    cases other with
    | whole => exact absurd (congrArg List.length same) (by simp [Part.suffix, text])
    | position place =>
      obtain rfl : index = place := List.append_cancel_left same
      exact Or.inl (by rw [identity_eq, identity_eq, left, right])
    | digested =>
      obtain rfl : index = _ := List.append_cancel_left same
      exact Or.inr (Or.inl (.borrowed tx left right))
  | digested =>
    cases other with
    | whole => exact absurd (congrArg List.length same) (by simp [Part.suffix, text])
    | position index =>
      obtain rfl : _ = index := List.append_cancel_left same
      exact Or.inr (Or.inr (.borrowed tx right left))
    | digested =>
      have units := dumpsTexts_inj (fillFields_names spelling first second)
        (collisionFree (List.append_cancel_left same))
      by_cases equal : fillFields spelling first = fillFields spelling second
      · exact Or.inl ((digested_identity_iff left right).mpr equal)
      · exact Or.inr (Or.inl (.recoded tx left right equal units))

/-- The marks at the front of a key tell its branch. -/
theorem marks_differ (id tx joined : Text) :
    text "activity-id:" ++ id ≠ text "tx:" ++ tx ∧ text "activity-id:" ++ id ≠ text "activity:" ++ joined ∧
      text "tx:" ++ tx ≠ text "activity:" ++ joined := by
  refine ⟨fun same => ?_, fun same => ?_, fun same => ?_⟩
  · exact absurd (List.cons.inj same).1 (by decide)
  · have place := congrArg (fun key : Text => key[8]?) same
    simp [text] at place
  · exact absurd (List.cons.inj same).1 (by decide)

theorem identity_eq_of_key_eq
    (collisionFree : spelling.sha256 (dumpsTexts (fillFields spelling first)) =
      spelling.sha256 (dumpsTexts (fillFields spelling second)) →
      dumpsTexts (fillFields spelling first) = dumpsTexts (fillFields spelling second))
    (same : activityKey spelling first = activityKey spelling second) :
    identity spelling first = identity spelling second ∨ Confused spelling first second ∨
      Confused spelling second first := by
  have keys := same
  rw [activityKey_eq, activityKey_eq] at keys
  cases left : reading spelling first with
  | activityId id =>
    rw [left] at keys
    cases right : reading spelling second with
    | activityId other =>
      rw [right] at keys
      obtain rfl : id = other := List.append_cancel_left keys
      exact Or.inl (by rw [identity_eq, identity_eq, left, right])
    | tracked tx part =>
      rw [right] at keys
      dsimp only at keys
      rw [List.append_assoc] at keys
      exact absurd keys (marks_differ id _ []).1
    | untracked =>
      rw [right] at keys
      exact absurd keys (marks_differ id [] _).2.1
  | untracked =>
    rw [left] at keys
    cases right : reading spelling second with
    | activityId other =>
      rw [right] at keys
      exact absurd keys.symm (marks_differ other [] _).2.1
    | tracked tx part =>
      rw [right] at keys
      dsimp only at keys
      rw [List.append_assoc] at keys
      exact absurd keys.symm (marks_differ [] _ _).2.2
    | untracked =>
      by_cases equal : identity spelling first = identity spelling second
      · exact Or.inl equal
      · exact Or.inr (Or.inl (.shifted left right equal ((untracked_key_iff left right).mp same)))
  | tracked tx part =>
    rw [left] at keys
    cases right : reading spelling second with
    | activityId other =>
      rw [right] at keys
      dsimp only at keys
      rw [List.append_assoc] at keys
      exact absurd keys.symm (marks_differ other _ []).1
    | untracked =>
      rw [right] at keys
      dsimp only at keys
      rw [List.append_assoc] at keys
      exact absurd keys (marks_differ [] _ _).2.2
    | tracked tx' other =>
      rw [right] at keys
      dsimp only at keys
      rw [List.append_assoc, List.append_assoc] at keys
      -- Either the hashes end together, or the longer one runs on.
      rcases List.append_eq_append_iff.mp (List.append_cancel_left keys) with ⟨more, longer, spelled⟩ | ⟨more, longer, spelled⟩
      · by_cases ends : more = []
        · subst ends
          rw [List.append_nil] at longer
          subst longer
          exact identity_eq_of_suffix_eq collisionFree left right spelled
        · exact Or.inr (Or.inr (.runsOn tx more other part ends (longer ▸ right) left spelled))
      · by_cases ends : more = []
        · subst ends
          rw [List.append_nil] at longer
          subst longer
          exact identity_eq_of_suffix_eq collisionFree left right spelled.symm
        · exact Or.inr (Or.inl (.runsOn tx' more part other ends (longer ▸ left) right spelled))

/-- Keys are equal exactly for one fill, unless the items are confused. -/
theorem activity_key_exact_iff (spelling : Spelling) (first second : Item)
    (collisionFree : spelling.sha256 (dumpsTexts (fillFields spelling first)) =
      spelling.sha256 (dumpsTexts (fillFields spelling second)) →
      dumpsTexts (fillFields spelling first) = dumpsTexts (fillFields spelling second)) :
    (activityKey spelling first = activityKey spelling second ↔
      identity spelling first = identity spelling second) ↔
    ¬(Confused spelling first second ∨ Confused spelling second first) := by
  constructor
  · rintro exact_ (confused | confused)
    · exact confused.not_exact exact_
    · exact confused.not_exact (by rw [eq_comm, exact_, eq_comm])
  · intro clear
    constructor
    · intro same
      rcases identity_eq_of_key_eq collisionFree same with equal | confused
      · exact equal
      · exact absurd confused clear
    · intro same
      rcases key_eq_of_identity_eq same with equal | confused
      · exact equal
      · exact absurd (Or.inl confused) clear

def plainSpell : Json → Text
  | .null => text "None"
  | .bool value => if value then text "True" else text "False"
  | .int value => intText value
  | .float _ => text "0.0"
  | .str value => value
  | .arr _ => text "[]"
  | .obj _ => text "\x7b\x7d"

theorem plainSpell_false (value : Json) (counts : value.truthy = false) :
    ∀ c ∈ plainSpell value, c.val < 128 ∧ c.val ≠ 124 := by
  have plain : ∀ t : Text, (t.all fun c => decide (c.val < 128 ∧ c.val ≠ 124)) = true →
      ∀ c ∈ t, c.val < 128 ∧ c.val ≠ 124 := fun t all c member =>
    of_decide_eq_true (List.all_eq_true.mp all c member)
  cases value with
  | null => exact plain (text "None") (by decide)
  | bool value =>
    obtain rfl : value = false := counts
    exact plain (text "False") (by decide)
  | int value =>
    obtain rfl : value = 0 := by simpa [Json.truthy] using counts
    exact plain (text "0") (by decide)
  | float value => exact plain (text "0.0") (by decide)
  | str value =>
    obtain rfl : value = [] := by simpa [Json.truthy] using counts
    exact plain [] rfl
  | arr items => exact plain (text "[]") (by decide)
  | obj fields => exact plain (text "\x7b\x7d") (by decide)

/-- The spelling of the values in the examples below; no example digests a text. -/
def plainSpelling : Spelling where
  casing := asciiCasing
  spell := plainSpell
  spell_false := plainSpell_false
  sha256 := id

def logged (index : Int) : Item :=
  [(text "transactionHash", .str (text "0xAB")), (text "logIndex", .int index)]

theorem activity_key_exact_iff_logged :
    (activityKey plainSpelling (logged 1) = activityKey plainSpelling (logged 2) ↔
      identity plainSpelling (logged 1) = identity plainSpelling (logged 2)) ↔
    ¬(Confused plainSpelling (logged 1) (logged 2) ∨ Confused plainSpelling (logged 2) (logged 1)) :=
  activity_key_exact_iff plainSpelling (logged 1) (logged 2) id

def priced (price slug outcome : String) : Item :=
  [(text "timestamp", .int 1), (text "asset", .str (text "t")), (text "side", .str (text "BUY")),
    (text "price", .str (text price)), (text "slug", .str (text slug)), (text "outcome", .str (text outcome))]

/-- Without a transaction hash, another spelling of a price is another key, and a bar
inside a field makes two fills one key. -/
theorem untracked_fills_confused :
    (identity plainSpelling (priced "0.4" "a" "b") = identity plainSpelling (priced "0.40" "a" "b") ∧
      activityKey plainSpelling (priced "0.4" "a" "b") ≠ activityKey plainSpelling (priced "0.40" "a" "b")) ∧
    (identity plainSpelling (priced "0.4" "a|b" "c") ≠ identity plainSpelling (priced "0.4" "a" "b|c") ∧
      activityKey plainSpelling (priced "0.4" "a|b" "c") = activityKey plainSpelling (priced "0.4" "a" "b|c")) := by
  decide +kernel

end MarketSentinel.Wallet
