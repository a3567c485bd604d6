import MarketSentinel.Live.Verdict

/-! When a placed audit order gets its cancellation.

The audit lower-cases the identifier that the trader keeps as it came, so the two
agree exactly on the responses that already spell it in lower case.
-/

set_option autoImplicit false

namespace MarketSentinel.Live

open Python Program

section Readings

variable {runtime : Runtime} {response : Dict Text Json}

def isUpperCase (c : CodePoint) : Bool := 65 ≤ c.val && c.val ≤ 90

/-- A text that the trader takes for an identifier. -/
def isExactText (value : Json) : Bool :=
  match value with
  | .str value => decide (strip value = value ∧ value ≠ [])
  | _ => false

/-- A text that the audit takes for an identifier, perhaps between blanks. -/
def hexText (value : Json) : Option Text :=
  match value with
  | .str value => if isHexId (strip value) then some (strip value) else none
  | _ => none

/-- The first field that holds a text without outer blanks holds a hexadecimal identifier without upper-case
letters, and no field before it holds another identifier between blanks. -/
def SameReading (response : Dict Text Json) : Prop :=
  ∃ before field after value, orderIdFields = before ++ field :: after ∧
    response.get? field = some (.str value) ∧ isHexId value = true ∧ (∀ c ∈ value, isUpperCase c = false) ∧
    (∀ other ∈ before, ∀ held, response.get? other = some held → isExactText held = false) ∧
    ∀ earlier other later held padded, before = earlier ++ other :: later → response.get? other = some held →
      hexText held = some padded →
      (∀ o ∈ earlier, ∀ h, response.get? o = some h → hexText h = none) → lowerHex padded = value

theorem isHexDigit_bounds {c : CodePoint} (hex : isHexDigit c = true) : 48 ≤ c.val ∧ c.val ≤ 102 := by
  simp only [isHexDigit, isDigit, Bool.or_eq_true, Bool.and_eq_true, decide_eq_true_eq] at hex
  omega

theorem isHexId_cases {t : Text} (hex : isHexId t = true) :
    ∃ zero x digits, t = zero :: x :: digits ∧ zero.val = 48 ∧ x.val = 120 ∧
      (digits.length = 40 ∨ digits.length = 64) ∧ ∀ c ∈ digits, isHexDigit c = true := by
  match t, hex with
  | zero :: x :: digits, hex =>
    simp only [isHexId, Bool.and_eq_true, Bool.or_eq_true, beq_iff_eq, List.all_eq_true] at hex
    exact ⟨zero, x, digits, rfl, hex.1.1.1, hex.1.1.2, hex.1.2, hex.2⟩

theorem isHexId_bounds {t : Text} (hex : isHexId t = true) : ∀ c ∈ t, 48 ≤ c.val ∧ c.val ≤ 120 := by
  obtain ⟨zero, x, digits, rfl, first, second, _, each⟩ := isHexId_cases hex
  intro c member
  rcases List.mem_cons.mp member with rfl | member
  · omega
  · rcases List.mem_cons.mp member with rfl | member
    · omega
    · have bounds := isHexDigit_bounds (each c member)
      omega

theorem isHexId_solid {t : Text} (hex : isHexId t = true) : strip t = t := by
  refine strip_eq_self fun c member => ?_
  have bounds := isHexId_bounds hex c member
  unfold isSpace
  simp only [Bool.or_eq_false_iff, Bool.and_eq_false_iff, decide_eq_false_iff_not, beq_eq_false_iff_ne]
  omega

theorem asciiLower_same {c : CodePoint} (lower : isUpperCase c = false) : asciiLower c = c := by
  unfold asciiLower
  rw [if_neg]
  intro upper
  simp [isUpperCase, upper] at lower

theorem lowerHex_same {t : Text} (lower : ∀ c ∈ t, isUpperCase c = false) : lowerHex t = t := by
  have digits : (t.drop 2).map asciiLower = t.drop 2 := by
    conv_rhs => rw [← List.map_id (t.drop 2)]
    exact List.map_congr_left fun c member => asciiLower_same (lower c (List.mem_of_mem_drop member))
  rw [lowerHex, digits, List.take_append_drop]

theorem isHexDigit_lower {c : CodePoint} (hex : isHexDigit c = true) :
    isHexDigit (asciiLower c) = true ∧ isUpperCase (asciiLower c) = false := by
  unfold asciiLower
  split
  · rename_i upper
    have value : (Fin.ofNat 0x110000 (c.val + 32)).val = c.val + 32 := by
      simp only [Fin.ofNat]
      omega
    simp only [isHexDigit, isDigit, isUpperCase, value, Bool.or_eq_true, Bool.and_eq_true, decide_eq_true_eq,
      Bool.and_eq_false_iff, decide_eq_false_iff_not] at hex ⊢
    omega
  · rename_i lower
    refine ⟨hex, ?_⟩
    simp only [isUpperCase, Bool.and_eq_false_iff, decide_eq_false_iff_not]
    omega

/-- The spelling an audit keeps is a hexadecimal identifier in lower case. -/
theorem lowerHex_form {t : Text} (hex : isHexId t = true) :
    isHexId (lowerHex t) = true ∧ ∀ c ∈ lowerHex t, isUpperCase c = false := by
  obtain ⟨zero, x, digits, rfl, first, second, count, each⟩ := isHexId_cases hex
  change isHexId (zero :: x :: digits.map asciiLower) = true ∧
    ∀ c ∈ zero :: x :: digits.map asciiLower, isUpperCase c = false
  constructor
  · simp only [isHexId, first, second, List.length_map, Bool.and_eq_true, Bool.or_eq_true, beq_iff_eq, List.all_eq_true,
      List.mem_map, true_and]
    refine ⟨count, ?_⟩
    rintro _ ⟨c, member, rfl⟩
    exact (isHexDigit_lower (each c member)).1
  · intro c member
    rcases List.mem_cons.mp member with rfl | member
    · simp [isUpperCase, first]
    · rcases List.mem_cons.mp member with rfl | member
      · simp [isUpperCase, second]
      · obtain ⟨d, among, rfl⟩ := List.mem_map.mp member
        exact (isHexDigit_lower (each d among)).2

theorem hexField_eq (field : Text) : hexField response field = ((response.get? field).bind hexText).map lowerHex := by
  unfold hexField
  match response.get? field with
  | none => rfl
  | some (.str value) =>
    simp only [Option.bind_some, hexText]
    split <;> rfl
  | some .null | some (.bool _) | some (.int _) | some (.float _) | some (.arr _) | some (.obj _) => rfl

/-- The reading of one field by the trader. -/
def exactField (response : Dict Text Json) (field : Text) : Option Text :=
  match response.get? field with
  | some (.str value) => if strip value = value ∧ value ≠ [] then some value else none
  | _ => none

theorem exactOrderId_eq : exactOrderId response = orderIdFields.findSome? (exactField response) := rfl

theorem exactField_eq_some {field value : Text} : exactField response field = some value ↔
    response.get? field = some (.str value) ∧ strip value = value ∧ value ≠ [] := by
  unfold exactField
  match response.get? field with
  | none | some .null | some (.bool _) | some (.int _) | some (.float _) | some (.arr _) | some (.obj _) => simp
  | some (.str held) =>
    simp only [Option.ite_none_right_eq_some, Option.some.injEq, Json.str.injEq]
    constructor
    · rintro ⟨exact_, rfl⟩
      exact ⟨rfl, exact_⟩
    · rintro ⟨rfl, exact_⟩
      exact ⟨exact_, rfl⟩

theorem exactField_eq_none {field : Text} : exactField response field = none ↔
    ∀ held, response.get? field = some held → isExactText held = false := by
  unfold exactField
  match response.get? field with
  | none => simp
  | some .null | some (.bool _) | some (.int _) | some (.float _) | some (.arr _) | some (.obj _) => simp [isExactText]
  | some (.str held) => simp [isExactText]

theorem exactOrderId_eq_some {value : Text} : exactOrderId response = some value ↔
    ∃ before field after, orderIdFields = before ++ field :: after ∧ response.get? field = some (.str value) ∧
      strip value = value ∧ value ≠ [] ∧
      ∀ other ∈ before, ∀ held, response.get? other = some held → isExactText held = false := by
  rw [exactOrderId_eq, List.findSome?_eq_some_iff]
  constructor
  · rintro ⟨before, field, after, split, found, none⟩
    obtain ⟨held, solid⟩ := exactField_eq_some.mp found
    exact ⟨before, field, after, split, held, solid.1, solid.2, fun other member => exactField_eq_none.mp (none other member)⟩
  · rintro ⟨before, field, after, split, held, solid, given, none⟩
    exact ⟨before, field, after, split, exactField_eq_some.mpr ⟨held, solid, given⟩, fun other member =>
      exactField_eq_none.mpr (none other member)⟩

theorem hexField_eq_none {field : Text} :
    hexField response field = none ↔ ∀ held, response.get? field = some held → hexText held = none := by
  rw [hexField_eq]
  cases response.get? field <;> simp

theorem hexField_eq_some {field : Text} {orderId : Text} :
    hexField response field = some orderId ↔
      ∃ held padded, response.get? field = some held ∧ hexText held = some padded ∧ lowerHex padded = orderId := by
  rw [hexField_eq]
  cases response.get? field <;> simp

theorem hexText_hex {held : Json} {padded : Text} (found : hexText held = some padded) : isHexId padded = true := by
  unfold hexText at found
  split at found
  · split at found <;> cases found
    assumption
  · cases found

/-- An extracted identifier comes from the first field with a hexadecimal text. -/
theorem extractOrderId_eq {fields before later : List Text} {other held padded}
    (split : fields = before ++ other :: later) (found : response.get? other = some held)
    (hex : hexText held = some padded)
    (first : ∀ o ∈ before, ∀ h, response.get? o = some h → hexText h = none) :
    fields.findSome? (hexField response) = some (lowerHex padded) := by
  rw [List.findSome?_eq_some_iff]
  exact ⟨before, other, later, split, hexField_eq_some.mpr ⟨held, padded, found, hex, rfl⟩, fun o member =>
    hexField_eq_none.mpr (first o member)⟩

theorem canonicalIdentifier_hex {value : Text} (hex : isHexId value = true) (label : String) :
    canonicalIdentifier runtime value label = .ok value := by
  obtain ⟨zero, x, digits, rfl, first, second, count, each⟩ := isHexId_cases hex
  unfold canonicalIdentifier
  rw [if_neg, if_neg]
  · rintro (long | strange)
    · simp only [List.length_cons] at long
      omega
    · obtain ⟨c, member, unprintable⟩ := List.any_eq_true.mp strange
      have bounds := isHexId_bounds hex c member
      rw [runtime.printable_ascii c (by omega) (by omega)] at unprintable
      cases unprintable
  · rintro (empty | padded)
    · cases empty
    · exact padded (isHexId_solid hex).symm

theorem extractOrderId_form (extracted : extractOrderId response ≠ []) :
    isHexId (extractOrderId response) = true ∧ ∀ c ∈ extractOrderId response, isUpperCase c = false := by
  unfold extractOrderId at extracted ⊢
  cases found : orderIdFields.findSome? (hexField response) with
  | none => exact absurd (by rw [found]; rfl) extracted
  | some orderId =>
    obtain ⟨_, other, _, _, read, _⟩ := List.findSome?_eq_some_iff.mp found
    obtain ⟨held, padded, _, hex, rfl⟩ := hexField_eq_some.mp read
    exact lowerHex_form (hexText_hex hex)

/-- The two readers agree on an identifier exactly on a response with one reading. -/
theorem sameReading_iff (runtime : Runtime) :
    placedOrderId runtime response = .ok (extractOrderId response) ∧ extractOrderId response ≠ [] ↔
      SameReading response := by
  constructor
  · rintro ⟨placed, extracted⟩
    have exact_ : exactOrderId response = some (extractOrderId response) := by
      unfold placedOrderId at placed
      split at placed
      · rename_i value found
        rw [found, canonicalIdentifier_eq placed]
      · exact absurd (Except.ok.inj placed).symm extracted
    obtain ⟨before, field, after, split, held, solid, given, none⟩ := exactOrderId_eq_some.mp exact_
    have form := extractOrderId_form extracted
    refine ⟨before, field, after, extractOrderId response, split, held, form.1, form.2, none, ?_⟩
    rintro earlier other later held padded rfl found hex first
    rw [List.append_assoc] at split
    rw [extractOrderId, extractOrderId_eq split found hex first, Option.getD_some]
  · rintro ⟨before, field, after, value, split, held, hex, lower, none, padded⟩
    have given : value ≠ [] := by
      rintro rfl
      cases hex
    have extracted : extractOrderId response = value := by
      unfold extractOrderId
      cases found : before.findSome? (hexField response) with
      | some orderId =>
        rw [split, List.findSome?_append, found]
        obtain ⟨earlier, other, later, parts, read, first⟩ := List.findSome?_eq_some_iff.mp found
        obtain ⟨held, text_, at_, spelled, rfl⟩ := hexField_eq_some.mp read
        exact padded earlier other later held text_ parts at_ spelled fun o member =>
          hexField_eq_none.mp (first o member)
      | none =>
        have spelled : hexText (.str value) = some value := by
          rw [hexText, isHexId_solid hex, if_pos hex]
        rw [extractOrderId_eq split held spelled fun o member => hexField_eq_none.mp
          (List.findSome?_eq_none_iff.mp found o member), Option.getD_some, lowerHex_same lower]
    have exact_ : exactOrderId response = some value :=
      exactOrderId_eq_some.mpr ⟨before, field, after, split, held, isHexId_solid hex, given, none⟩
    rw [extracted, placedOrderId, exact_]
    exact ⟨canonicalIdentifier_hex hex _, given⟩

end Readings

section Runs

variable {runtime : Runtime} {audit : BoundedAudit} {client : Client RecoveryRecord} {writer : Writer}

def cancels {ρ : Type} : List (Event ρ) → List Text
  | [] => []
  | .client (.cancelOrder orderId) _ :: older => orderId :: cancels older
  | _ :: older => cancels older

def cancelled : List (ClientCall × Except Raised Json) → List Text
  | [] => []
  | (.cancelOrder orderId, _) :: older => orderId :: cancelled older
  | _ :: older => cancelled older

theorem cancelled_mutations {ρ : Type} (events : List (Event ρ)) : cancelled (mutations events) = cancels events := by
  induction events with
  | nil => rfl
  | cons event events ih =>
    cases event with
    | noted record written => exact ih
    | client call reply => cases call <;> simp [mutations, ClientCall.mutates, cancels, cancelled, ih]

/-- A posted order whose identifier the audit can read is cancelled when both read the same identifier. -/
def Settled (runtime : Runtime) (v : View) : Prop :=
  ∀ order response, (auditPost order, .ok (.obj response)) ∈ v.mutations → extractOrderId response ≠ [] →
    ((∃ orderId, orderId ≠ [] ∧ placedOrderId runtime response = .ok orderId ∧ cancelled v.mutations = [orderId]) ↔
      placedOrderId runtime response = .ok (extractOrderId response))

/-- One order was posted and the trader remembers its identifier. -/
structure Remembered (runtime : Runtime) (audit : BoundedAudit) (response : Dict Text Json) (v : View) : Prop where
  bounded : v.bounded = some audit
  unused : v.cancelAttempted = false
  posted : ∃ order, v.mutations = [(auditPost order, .ok (.obj response))]
  known : ∃ orderId, orderId ≠ [] ∧ placedOrderId runtime response = .ok orderId ∧ v.orderId = some orderId

theorem settled_quiet {v : View} (quiet : v.mutations = []) : Settled runtime v := by
  intro order response posted
  rw [quiet] at posted
  cases posted

/-- A response without an identifier to remember is never cancelled, and the two readings differ. -/
theorem settled_lost {v : View} {order : OrderArgs} {reply : Except Raised Json}
    (once : v.mutations = [(auditPost order, reply)])
    (lost : ∀ response orderId, reply = .ok (.obj response) → placedOrderId runtime response = .ok orderId →
      orderId = []) : Settled runtime v := by
  intro other response posted extracted
  rw [once, List.mem_singleton] at posted
  cases posted
  constructor
  · rintro ⟨orderId, given, placed, _⟩
    exact absurd (lost response orderId rfl placed) given
  · exact fun same => absurd (lost response _ rfl same) extracted

theorem rememberPlacement_remembers {order : OrderArgs} (response : Dict Text Json) :
    Triple (fun s : Session RecoveryRecord => Answered audit order (.ok (.obj response)) s.view ∧
        s.view.cancelAttempted = false)
      (rememberPlacement runtime response) (fun _ s => Remembered runtime audit response s.view)
      (fun s => Settled runtime s.view) := by
  refine Triple.state fun now ⟨answered, unused⟩ => ?_
  rw [show now.bounded = some audit from answered.bounded]
  cases placed : placedOrderId runtime response with
  | error e =>
    rintro s rfl
    refine settled_lost answered.once fun other orderId same found => ?_
    cases same
    cases placed.symm.trans found
  | ok orderId =>
    refine Triple.decided (fun missing s start => ?_) fun given => Triple.modify fun s start => ?_
    · subst start
      refine settled_lost answered.once fun other found same read => ?_
      cases same
      cases placed.symm.trans read
      exact not_not.mp (of_decide_eq_false missing)
    · subst start
      exact ⟨answered.bounded, unused, ⟨order, answered.once⟩, orderId, of_decide_eq_true given, placed, rfl⟩

/-- A trader that has not posted and not cancelled anything. -/
structure Idle (audit : BoundedAudit) (v : View) : Prop where
  bounded : v.bounded = some audit
  nothing : v.mutations = []
  unknown : v.orderId = none
  unused : v.cancelAttempted = false

theorem prepareBoundedPlacement_arms (token : Text) (price size : ℚ) (tif : Text) (postOnly : Bool) :
    Triple (fun s : Session RecoveryRecord => Idle audit s.view)
      (prepareBoundedPlacement runtime token price size tif postOnly)
      (fun _ s => (Armed audit s.view ∧ s.view.cancelAttempted = false) ∧ postOnly = true)
      (fun s => Settled runtime s.view) := by
  refine Triple.state fun now idle => ?_
  have failure : ∀ s : Session RecoveryRecord, s = now → Settled runtime s.view := fun s same =>
    settled_quiet (same ▸ idle.nothing)
  rw [show now.bounded = some audit from idle.bounded]
  refine Triple.check failure fun _ => Triple.check failure fun _ => Triple.check failure fun exact_ =>
    Triple.check failure fun _ => Triple.check failure fun _ => Triple.modify fun s start => ?_
  subst start
  exact ⟨⟨⟨idle.bounded, rfl, idle.nothing, idle.unknown⟩, idle.unused⟩, (Bool.and_eq_true_iff.mp exact_).2⟩

theorem call_unused {request : ClientCall} :
    Triple (fun s => s.view.cancelAttempted = false) (call client request) (fun _ s => s.view.cancelAttempted = false)
      (fun s => s.view.cancelAttempted = false) := by
  intro s unused
  unfold call
  cases client.respond s.events request <;> exact unused

theorem placeLimitOrder_remembers (tokenId side : Text) (price size : PyFloat) (tif : Text) (postOnly : Bool) :
    Triple (fun s => Idle audit s.view) (placeLimitOrder runtime client tokenId side price size tif postOnly)
      (fun response s => Remembered runtime audit response s.view ∧ client.installed = true)
      (fun s => Settled runtime s.view) := by
  have quiet : ∀ s : Session RecoveryRecord, Idle audit s.view → Settled runtime s.view := fun _ idle =>
    settled_quiet idle.nothing
  let Poised (v : View) : Prop := Armed audit v ∧ v.cancelAttempted = false
  have lost : ∀ s : Session RecoveryRecord, Poised s.view → Settled runtime s.view := fun _ poised =>
    settled_quiet poised.1.nothing
  refine Triple.value quiet fun token _ => Triple.value quiet fun sideValue _ => Triple.value quiet fun price _ =>
    Triple.check quiet fun _ => Triple.value quiet fun size _ => Triple.check quiet fun _ => ?_
  refine Triple.bind _ (prepareBoundedPlacement_arms token price size tif postOnly) fun _ => ?_
  intro s ⟨poised, post⟩
  subst post
  revert s
  refine Triple.check lost fun installed => keeps_bind (P := Poised) keeps_mutation lost fun _ =>
    keeps_bind (P := Poised) keeps_requireV2Server lost fun _ => keeps_bind (P := Poised) (call_read rfl) lost fun _ =>
    Triple.value lost fun _ _ => ?_
  refine Triple.bind _ ((call_post.both call_unused).weaken (fun _ => id) (fun _ _ => id) ?_) fun reply => ?_
  · rintro s ⟨⟨e, answered⟩, _⟩
    exact settled_lost answered.once fun _ _ same => by cases same
  · have refused : (∀ response, reply ≠ .obj response) → ∀ order (s : Session RecoveryRecord),
        Answered audit order (.ok reply) s.view ∧ s.view.cancelAttempted = false → Settled runtime s.view :=
      fun other order s answered => settled_lost answered.1.once fun response _ same =>
        absurd (Except.ok.inj same) (other response)
    cases reply with
    | obj response =>
      refine Triple.known rfl (Triple.bind _ (rememberPlacement_remembers response) fun _ => ?_)
      exact Triple.pure fun _ remembered => ⟨remembered, installed⟩
    | null | bool | int | float | str | arr =>
      exact Triple.value (refused (fun _ => by simp) _) fun _ mapped => by cases mapped

/-- The order was posted and its cancellation went out. -/
def CancelSent (response : Dict Text Json) (orderId : Text) (v : View) : Prop :=
  ∃ order answer, v.mutations = [(.cancelOrder orderId, answer), (auditPost order, .ok (.obj response))]

variable (client) in
/-- The venue always says that it speaks the second version. -/
def Versioned : Prop := ∀ history, requireVersion (client.respond history .version) = .ok ()

theorem requireV2Server_passes {P : View → Prop} (versioned : Versioned client) :
    Triple (fun s => P s.view) (requireV2Server client) (fun _ s => P s.view) (fun _ => False) := by
  refine Triple.bind (fun response s => requireVersion response = .ok () ∧ P s.view) ?_ fun response => ?_
  · intro s holds
    have read : Triple (fun s => P s.view) (call client .version) (fun _ s => P s.view) fun s => P s.view := call_read rfl
    have seen := read.final (fun _ _ => id) (fun _ => id) holds
    exact ⟨versioned s.events, seen⟩
  · rintro s ⟨passes, holds⟩
    rw [passes]
    exact holds

/-- The remembered identifier is cancelled, whatever the venue answers. -/
theorem cancelOrder_sends {response : Dict Text Json} (installed : client.installed = true)
    (versioned : Versioned client) (extracted : extractOrderId response ≠ [])
    (same : placedOrderId runtime response = .ok (extractOrderId response)) :
    Triple (fun s => Remembered runtime audit response s.view) (cancelOrder runtime client (extractOrderId response))
      (fun _ s => CancelSent response (extractOrderId response) s.view)
      (fun s => CancelSent response (extractOrderId response) s.view) := by
  refine Triple.known (canonicalIdentifier_hex (extractOrderId_form extracted).1 _) ?_
  let Latched (v : View) : Prop := v.bounded = some audit ∧ ∃ order, v.mutations = [(auditPost order, .ok (.obj response))]
  refine Triple.bind (fun _ s => Latched s.view) ?_ fun _ => ?_
  · refine Triple.state fun now remembered => ?_
    obtain ⟨orderId, _, placed, known⟩ := remembered.known
    cases same.symm.trans placed
    rw [show now.bounded = some audit from remembered.bounded, show now.orderId = some _ from known]
    refine Triple.decided (fun other => absurd other (by simp)) fun _ => ?_
    refine Triple.decided (fun used => absurd used ?_) fun _ => Triple.modify fun s start => ?_
    · rw [show now.cancelAttempted = false from remembered.unused]
      decide
    · subst start
      exact ⟨remembered.bounded, remembered.posted⟩
  · have sent : Triple (fun s => Latched s.view) (call client (.cancelOrder (extractOrderId response)))
        (fun _ s => CancelSent response (extractOrderId response) s.view)
        (fun s => CancelSent response (extractOrderId response) s.view) := by
      rintro s ⟨bounded, order, once⟩
      have done : CancelSent response (extractOrderId response) (s.noted (.client (.cancelOrder
          (extractOrderId response)) (client.respond s.events (.cancelOrder (extractOrderId response))))).view :=
        ⟨order, _, congrArg _ once⟩
      revert done
      unfold call
      cases client.respond s.events (.cancelOrder (extractOrderId response)) <;> exact id
    refine Triple.bind (fun _ s => Latched s.view) ?_ fun _ => Triple.bind (fun _ s => Latched s.view) ?_ fun _ => ?_
    · refine Triple.state fun now latched => ?_
      rw [show now.bounded = some audit from latched.1]
      exact Triple.pure (a := ()) fun _ start => start ▸ latched
    · refine Triple.state fun now latched => ?_
      rw [show now.bounded = some audit from latched.1]
      exact (requireV2Server_passes (P := Latched) versioned).weaken (fun _ start => start ▸ latched) (fun _ _ => id)
        fun _ impossible => impossible.elim
    · refine Triple.decided (fun missing => absurd installed (by rw [missing]; decide)) fun _ => ?_
      exact Triple.bind _ sent fun reply =>
        keeps_ofExcept (P := CancelSent response (extractOrderId response)) _

/-- Another identifier than the remembered one is refused before anything is sent. -/
theorem cancelOrder_refuses {response : Dict Text Json}
    (different : placedOrderId runtime response ≠ .ok (extractOrderId response)) :
    Triple (fun s => Remembered runtime audit response s.view) (cancelOrder runtime client (extractOrderId response))
      (fun _ _ => False) (fun s => Remembered runtime audit response s.view) := by
  refine Triple.value (fun _ => id) fun identifier canonical => Triple.bind (fun _ _ => False) ?_ fun _ _ impossible =>
    impossible.elim
  refine Triple.state fun now remembered => ?_
  obtain ⟨orderId, _, placed, known⟩ := remembered.known
  rw [show now.bounded = some audit from remembered.bounded, show now.orderId = some _ from known]
  refine Triple.check (fun s start => start ▸ remembered) fun same => ?_
  rw [canonicalIdentifier_eq canonical, decide_eq_true_iff] at same
  exact absurd (same ▸ placed) different

theorem settled_posted {v : View} {response : Dict Text Json} (posted : ∃ order,
    v.mutations = [(auditPost order, .ok (.obj response))])
    (different : extractOrderId response ≠ [] → placedOrderId runtime response ≠ .ok (extractOrderId response)) :
    Settled runtime v := by
  obtain ⟨order, once⟩ := posted
  intro other found member extracted
  rw [once, List.mem_singleton] at member
  cases member
  constructor
  · rintro ⟨orderId, _, _, one⟩
    rw [once] at one
    cases one
  · exact fun same => absurd same (different extracted)

theorem settled_sent {v : View} {response : Dict Text Json} (sent : CancelSent response (extractOrderId response) v)
    (same : placedOrderId runtime response = .ok (extractOrderId response)) : Settled runtime v := by
  obtain ⟨order, answer, twice⟩ := sent
  intro other found member extracted
  rw [twice, List.mem_cons, List.mem_singleton] at member
  obtain impossible | member := member
  · cases impossible
  · cases member
    exact ⟨fun _ => same, fun _ => ⟨extractOrderId response, extracted, same, by rw [twice]; rfl⟩⟩

theorem keeps_journal {P : View → Prop} {record : RecoveryRecord} {other : Session RecoveryRecord → Prop} :
    Triple (fun s => P s.view) (attempt (recoveryWrite writer record)) (fun _ s => P s.view) other :=
  fun _ holds => holds

theorem readAfterCancellation_keeps {P : View → Prop} (plan : Plan) (base : RecoveryRecord) (trail : AuditTrail)
    (orderId : Text) (cancelled : Dict Text Json) :
    Triple (fun s => P s.view) (readAfterCancellation runtime client writer plan base trail orderId cancelled)
      (fun _ s => P s.view) (fun s => P s.view) := by
  refine Triple.caught _ _ (getOrder_spec orderId) (fun postCancel => ?_) fun e =>
    Triple.bind _ keeps_journal fun _ => Triple.pure fun _ => id
  refine Triple.bind (fun _ s => P s.view) keeps_journal fun written => ?_
  split
  · split
    · exact Triple.pure fun _ => id
    · exact Triple.pure fun _ => id
  · exact Triple.pure fun _ => id

theorem cancelPlaced_settles (plan : Plan) (base : RecoveryRecord) (response : Dict Text Json)
    (installed : client.installed = true) (versioned : Versioned client) :
    Triple (fun s => Remembered runtime audit response s.view) (cancelPlaced runtime client writer plan base response)
      (fun _ s => Settled runtime s.view) (fun s => Settled runtime s.view) := by
  refine Triple.bind (fun _ s => Remembered runtime audit response s.view) keeps_journal fun _ => ?_
  split
  · rename_i missing
    exact Triple.pure fun s remembered => settled_posted remembered.posted fun extracted => absurd missing extracted
  · rename_i extracted
    by_cases same : placedOrderId runtime response = .ok (extractOrderId response)
    · refine Triple.caught _ _ ((cancelOrder_sends installed versioned extracted same).weaken (fun _ => id)
        (fun _ s sent => settled_sent (v := s.view) sent same) fun s sent => settled_sent (v := s.view) sent same)
        (fun answer => ?_) fun e => ?_
      · exact readAfterCancellation_keeps (P := Settled runtime) _ _ _ _ _
      · exact Triple.bind (fun _ s => Settled runtime s.view) keeps_journal fun _ => Triple.pure fun _ => id
    · refine Triple.caught (fun _ _ => False) _ (cancelOrder_refuses same) (fun _ _ impossible => impossible.elim)
        fun e => ?_
      refine Triple.bind (fun _ s => Remembered runtime audit response s.view) keeps_journal fun _ => ?_
      exact Triple.pure fun s remembered => settled_posted remembered.posted fun _ => same

theorem placeAndCancel_settles (plan : Plan) (order : PlannedOrder) (accountAddress : Text)
    (versioned : Versioned client) :
    Triple (fun s => Idle audit s.view) (placeAndCancel runtime client writer plan order accountAddress)
      (fun _ s => Settled runtime s.view) (fun s => Settled runtime s.view) := by
  refine Triple.bind (fun _ s => Idle audit s.view) keeps_journal fun pending => ?_
  cases pending with
  | error e => exact Triple.pure fun s idle => settled_quiet idle.nothing
  | ok done =>
    refine Triple.caught _ _ (placeLimitOrder_remembers _ _ _ _ _ _) (fun response => ?_) fun e =>
      Triple.bind (fun _ s => Settled runtime s.view) keeps_journal fun _ => Triple.pure fun _ => id
    rintro s ⟨remembered, installed⟩
    exact cancelPlaced_settles _ _ response installed versioned s remembered

theorem withTrader_settles (plan : Plan) (order : PlannedOrder) (funderAddress : Text) (versioned : Versioned client) :
    Triple (fun s => Idle audit s.view) (withTrader runtime client writer plan order funderAddress)
      (fun _ s => Settled runtime s.view) (fun s => Settled runtime s.view) := by
  have quiet : ∀ s : Session RecoveryRecord, Idle audit s.view → Settled runtime s.view := fun _ idle =>
    settled_quiet idle.nothing
  refine Triple.caught (fun _ s => Idle audit s.view) _ (account_spec funderAddress) (fun address => ?_) fun e =>
    Triple.pure quiet
  refine Triple.caught (fun _ s => Idle audit s.view) _ (balance_spec order) (fun covered => ?_) fun e =>
    Triple.pure quiet
  cases covered with
  | false => exact Triple.pure quiet
  | true => exact placeAndCancel_settles plan order address versioned

variable {surroundings : Surroundings} {request : LiveOrderCancelRequest}

theorem run_settles (versioned : Versioned surroundings.client) :
    Triple (fun s => s = { bounded := none }) (runLiveOrderCancelVerification runtime surroundings request)
      (fun _ s => Settled runtime s.view) (fun s => Settled runtime s.view) := by
  have quiet : ∀ s : Session RecoveryRecord, s = { bounded := none } → Settled runtime s.view := fun _ start =>
    settled_quiet (by rw [start]; rfl)
  refine Triple.value quiet fun plan _ => ?_
  split
  · cases surroundings.writer with
    | none => exact Triple.pure quiet
    | some writer =>
      cases geoblockBlocker surroundings.geoblock with
      | some message => exact Triple.pure quiet
      | none =>
        refine Triple.value quiet fun book _ => Triple.value quiet fun best _ => Triple.value quiet fun order _ => ?_
        split
        · exact Triple.pure quiet
        · refine Triple.bind (fun _ s => ∃ audit, Idle audit s.view) ?_ fun _ => ?_
          · refine Triple.value quiet fun audit _ => Triple.value quiet fun _ _ => Triple.modify ?_
            rintro _ rfl
            exact ⟨audit, rfl, rfl, rfl, rfl⟩
          · rintro s ⟨audit, idle⟩
            exact withTrader_settles _ order request.funderAddress versioned s idle
  · exact Triple.pure quiet

theorem mem_mutations {ρ : Type} {request : ClientCall} {reply : Except Raised Json} {events : List (Event ρ)}
    (mutates : request.mutates = true) (member : .client request reply ∈ events) : (request, reply) ∈ mutations events := by
  induction events with
  | nil => cases member
  | cons event events ih =>
    cases event with
    | noted record written => exact ih (List.mem_of_ne_of_mem (by simp) member)
    | client other answer =>
      unfold mutations
      rcases List.mem_cons.mp member with same | later
      · cases same
        rw [if_pos mutates]
        exact List.mem_cons_self
      · split
        · exact List.mem_cons_of_mem _ (ih later)
        · exact ih later

/-- When the venue accepted the order of an audit and the audit can read an identifier, the trader sends exactly
one cancellation, of the identifier that the venue returned, if and only if the response has one reading. -/
theorem audit_cancels_iff (runtime : Runtime) (surroundings : Surroundings) (request : LiveOrderCancelRequest)
    (order : OrderArgs) (response : Dict Text Json) (versioned : Versioned surroundings.client)
    (posted : .client (auditPost order) (.ok (.obj response)) ∈
      (runLiveOrderCancelVerification runtime surroundings request { bounded := none }).2.events)
    (extracted : extractOrderId response ≠ []) :
    (∃ orderId, orderId ≠ [] ∧ placedOrderId runtime response = .ok orderId ∧
      cancels (runLiveOrderCancelVerification runtime surroundings request { bounded := none }).2.events = [orderId]) ↔
    SameReading response := by
  have settled : Settled runtime
      (runLiveOrderCancelVerification runtime surroundings request { bounded := none }).2.view :=
    (run_settles versioned).final (fun _ _ => id) (fun _ => id) rfl
  have once := settled order response (mem_mutations rfl posted) extracted
  rw [← sameReading_iff runtime, and_iff_left extracted, ← once]
  simp only [Session.view, cancelled_mutations]

end Runs

section Examples

/-- Event-wise search for an accepted order. -/
def wasPosted (order : OrderArgs) (response : Dict Text Json) (events : List (Event RecoveryRecord)) : Bool :=
  events.any fun event =>
    match event with
    | .client request (.ok reply) => decide (request = auditPost order ∧ reply = .obj response)
    | _ => false

theorem mem_of_wasPosted {order : OrderArgs} {response : Dict Text Json} {events : List (Event RecoveryRecord)}
    (found : wasPosted order response events = true) : .client (auditPost order) (.ok (.obj response)) ∈ events := by
  obtain ⟨event, member, same⟩ := List.any_eq_true.mp found
  split at same
  · obtain ⟨rfl, rfl⟩ := of_decide_eq_true same
    exact member
  · cases same

def plainRuntime : Runtime where
  casing := asciiCasing
  rounding := exactRounding
  printable c := decide (32 ≤ c.val)
  printable_ascii _ low _ := decide_eq_true low
  general _ := text "g"
  authReadiness _ _ _ := []
  parseSignatureType _ := .ok 0

def auditRequest : LiveOrderCancelRequest where
  tokenId := text "1"
  side := text "BUY"
  price := .float (.finite (1 / 2))
  size := .float (.finite 1)
  tif := text "GTC"
  allowTokenIds := [text "1"]
  privateKey := text "k"
  funderAddress := text "0x" ++ List.replicate 40 49
  signatureType := .int 0
  apiKey := []
  apiSecret := []
  apiPassphrase := []
  execute := true
  cancelImmediately := true
  confirmation := confirmLiveOrderCancel
  maxSize := .float (.finite 5)
  maxNotional := .float (.finite 1)
  makerPriceBuffer := .float (.finite (1 / 200))

def auditOrder : OrderArgs := { tokenId := text "1", price := 1 / 2, size := 1, side := text "BUY" }

/-- A venue that accepts the order under an identifier and cancels whatever it is asked to. -/
def venue (orderId : Text) : Client RecoveryRecord where
  installed := true
  respond _ request :=
    match request with
    | .version => .ok (.obj [(text "version", .int 2)])
    | .createOrder _ => .ok (.obj (v2SignedOrderFields.map fun field => (field, .str (text "s"))))
    | .postOrder _ _ _ _ => .ok (.obj [(text "orderID", .str orderId)])
    | .cancelOrder orderId => .ok (.obj [(text "canceled", .arr [.str orderId])])
    | .read (.balanceAllowance _ _) => .ok (.obj [(text "balance", .str (text "1000000")),
        (text "allowances", .obj [(text "spender", .str (text "1000000"))])])
    | .read .openOrders => .ok (.arr [])
    | _ => .ok (.obj [])

def surroundingsOf (orderId : Text) : Surroundings where
  client := venue orderId
  geoblock := .ok (.obj [(text "blocked", .bool false)])
  orderbook _ := .ok [(text "asks", .arr [.obj [(text "price", .float (.finite (3 / 4)))]])]
  connect := .ok ()
  writer := some fun _ _ => .ok ()

def lowerId : Text := text "0x" ++ List.replicate 40 97

def upperId : Text := text "0x" ++ List.replicate 40 65

def auditRun (orderId : Text) : Except Raised Plan × Session RecoveryRecord :=
  runLiveOrderCancelVerification plainRuntime (surroundingsOf orderId) auditRequest { bounded := none }

theorem requireVersion_two : requireVersion (.ok (.obj [(text "version", .int 2)])) = .ok () := by decide +kernel

theorem venue_versioned (orderId : Text) : Versioned (surroundingsOf orderId).client := fun _ => requireVersion_two

theorem audit_cancels_iff_lower :
    (∃ orderId, orderId ≠ [] ∧ placedOrderId plainRuntime [(text "orderID", .str lowerId)] = .ok orderId ∧
      cancels (auditRun lowerId).2.events = [orderId]) ↔ SameReading [(text "orderID", .str lowerId)] :=
  audit_cancels_iff plainRuntime (surroundingsOf lowerId) auditRequest auditOrder _ (venue_versioned lowerId)
    (mem_of_wasPosted (by decide +kernel)) (by decide +kernel)

/-- A venue that spells its identifiers in upper case keeps the order: no cancellation is sent. -/
theorem upper_case_order_stays : (auditPost auditOrder, .ok (.obj [(text "orderID", .str upperId)])) ∈
      mutations (auditRun upperId).2.events ∧
    Versioned (surroundingsOf upperId).client ∧ extractOrderId [(text "orderID", .str upperId)] ≠ [] ∧
    cancels (auditRun upperId).2.events = [] :=
  ⟨mem_mutations rfl (mem_of_wasPosted (by decide +kernel)), venue_versioned upperId, by decide +kernel,
    by decide +kernel⟩

end Examples

end MarketSentinel.Live
