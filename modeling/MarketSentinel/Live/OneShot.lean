import MarketSentinel.Live.Trader

/-! What an audit trader can ever do at the venue.

The capability goes through three stages: nothing mutated, one order posted, that
order cancelled. Each latch is set before the call it guards.
-/

set_option autoImplicit false

namespace MarketSentinel.Live

open Python Program

section Stages

variable {ρ : Type}

/-- The calls that may have changed something at the venue, newest first. -/
def mutations : List (Event ρ) → List (ClientCall × Except Raised Json)
  | [] => []
  | .client call reply :: rest => if call.mutates then (call, reply) :: mutations rest else mutations rest
  | .noted _ _ :: rest => mutations rest

/-- What a session says about its capability. -/
structure View where
  bounded : Option BoundedAudit
  placementAttempted : Bool
  orderId : Option Text
  cancelAttempted : Bool
  mutations : List (ClientCall × Except Raised Json)

def Session.view (s : Session ρ) : View :=
  ⟨s.bounded, s.placementAttempted, s.orderId, s.cancelAttempted, mutations s.events⟩

variable (runtime : Runtime) (audit : BoundedAudit)

structure WithinCaps (order : OrderArgs) : Prop where
  token : order.tokenId = audit.tokenId
  size : order.size ≤ audit.maxSize
  notional : withinNotional runtime order.price order.size audit.maxNotional = true

/-- The call that posts an order of the audit. -/
def auditPost (order : OrderArgs) : ClientCall := .postOrder order (text "GTC") true false

/-- The identifier that the venue returned for the posted order. -/
def Returned (reply : Except Raised Json) (orderId : Text) : Prop :=
  ∃ response, reply = .ok (.obj response) ∧ placedOrderId runtime response = .ok orderId ∧ orderId ≠ []

inductive Stage (v : View) : Prop where
  | idle (nothing : v.mutations = []) (unknown : v.orderId = none)
  | posted (order : OrderArgs) (reply : Except Raised Json) (attempted : v.placementAttempted = true)
    (caps : WithinCaps runtime audit order) (once : v.mutations = [(auditPost order, reply)])
    (known : ∀ orderId, v.orderId = some orderId → Returned runtime reply orderId)
  | cancelled (order : OrderArgs) (reply answer : Except Raised Json) (orderId : Text)
    (attempted : v.placementAttempted = true) (caps : WithinCaps runtime audit order)
    (latched : v.cancelAttempted = true) (known : v.orderId = some orderId)
    (returned : Returned runtime reply orderId)
    (once : v.mutations = [(.cancelOrder orderId, answer), (auditPost order, reply)])

/-- An audit trader at any time. -/
structure OneShot (v : View) : Prop where
  bounded : v.bounded = some audit
  stage : Stage runtime audit v

/-- The placement is used up and nothing is posted yet. -/
structure Armed (v : View) : Prop where
  bounded : v.bounded = some audit
  attempted : v.placementAttempted = true
  nothing : v.mutations = []
  unknown : v.orderId = none

/-- One order is posted and its identifier is not known yet. -/
structure Answered (order : OrderArgs) (reply : Except Raised Json) (v : View) : Prop where
  bounded : v.bounded = some audit
  attempted : v.placementAttempted = true
  once : v.mutations = [(auditPost order, reply)]
  unknown : v.orderId = none

/-- The cancellation of the returned identifier is used up and not sent yet. -/
structure Cancelling (orderId : Text) (v : View) : Prop where
  bounded : v.bounded = some audit
  attempted : v.placementAttempted = true
  latched : v.cancelAttempted = true
  known : v.orderId = some orderId
  posted : ∃ order reply, WithinCaps runtime audit order ∧ Returned runtime reply orderId ∧
    v.mutations = [(auditPost order, reply)]

variable {runtime audit} {client : Client ρ} {v : View}

theorem Armed.oneShot (armed : Armed audit v) : OneShot runtime audit v :=
  ⟨armed.bounded, .idle armed.nothing armed.unknown⟩

theorem Answered.oneShot {order : OrderArgs} {reply : Except Raised Json} (answered : Answered audit order reply v)
    (caps : WithinCaps runtime audit order) : OneShot runtime audit v :=
  ⟨answered.bounded, .posted order reply answered.attempted caps answered.once fun orderId known => by
    rw [answered.unknown] at known
    cases known⟩

theorem Cancelling.oneShot {orderId : Text} (cancelling : Cancelling runtime audit orderId v) :
    OneShot runtime audit v := by
  obtain ⟨order, reply, caps, returned, once⟩ := cancelling.posted
  refine ⟨cancelling.bounded, .posted order reply cancelling.attempted caps once fun found known => ?_⟩
  cases cancelling.known.symm.trans known
  exact returned

/-- Whether a trader that was constructed for an audit mutated anything: it did not. -/
theorem OneShot.start (audit : BoundedAudit) : OneShot runtime audit (Session.view (ρ := ρ) { bounded := some audit }) :=
  ⟨rfl, .idle rfl rfl⟩

end Stages

section Calls

variable {ρ : Type} {runtime : Runtime} {audit : BoundedAudit} {client : Client ρ} {P : View → Prop}

theorem call_read {request : ClientCall} (harmless : request.mutates = false) :
    Triple (fun s => P s.view) (call client request) (fun _ s => P s.view) (fun s => P s.view) := by
  intro s holds
  have same : (s.noted (.client request (client.respond s.events request))).view = s.view := by
    unfold Session.view Session.noted
    rw [mutations, if_neg (by simp [harmless])]
  have kept : P (s.noted (.client request (client.respond s.events request))).view := by rwa [same]
  revert kept
  unfold call
  cases client.respond s.events request <;> exact id

/-- A program that touches neither the latches nor the venue. -/
theorem keeps_ofExcept {α : Type} (x : Except Raised α) :
    Triple (fun s : Session ρ => P s.view) (ofExcept x) (fun _ s => P s.view) (fun s => P s.view) :=
  Triple.ofExcept (fun _ _ _ holds => holds) (fun _ holds => holds)

theorem keeps_mutation :
    Triple (fun s : Session ρ => P s.view) mutation (fun _ s => P s.view) (fun s => P s.view) := by
  refine Triple.state fun now given => ?_
  exact Triple.require (fun _ s same => same ▸ given) (fun s same => same ▸ given)

theorem keeps_requireV2Server :
    Triple (fun s => P s.view) (requireV2Server client) (fun _ s => P s.view) (fun s => P s.view) := by
  refine Triple.bind (fun _ s => P s.view) ?_ fun response => keeps_ofExcept _
  exact Triple.attempt ((call_read rfl).weaken (fun _ => id) (fun _ _ => id) fun _ holds _ => holds)

end Calls

section Placement

variable {ρ : Type} {runtime : Runtime} {audit : BoundedAudit} {client : Client ρ}

theorem prepareBoundedPlacement_spec (token : Text) (price size : ℚ) (tif : Text) (postOnly : Bool) (side : Text) :
    Triple (fun s : Session ρ => OneShot runtime audit s.view)
      (prepareBoundedPlacement runtime token price size tif postOnly)
      (fun _ s => Armed audit s.view ∧ postOnly = true ∧
        WithinCaps runtime audit { tokenId := token, price, size, side })
      (fun s => OneShot runtime audit s.view) := by
  refine Triple.state fun now oneShot => ?_
  have failure : ∀ s, s = now → OneShot runtime audit s.view := fun s same => same ▸ oneShot
  rw [show now.bounded = some audit from oneShot.bounded]
  refine Triple.check failure fun fresh => Triple.check failure fun same => Triple.check failure fun exact_ =>
    Triple.check failure fun small => Triple.check failure fun cheap => Triple.modify fun s start => ?_
  subst start
  have unused : s.view.placementAttempted = false := by simpa [Session.view] using fresh
  obtain ⟨gtc, post⟩ := Bool.and_eq_true_iff.mp exact_
  refine ⟨?_, post, of_decide_eq_true same, of_decide_eq_true small, cheap⟩
  cases oneShot.stage with
  | idle nothing unknown => exact ⟨oneShot.bounded, rfl, nothing, unknown⟩
  | posted _ _ attempted => exact absurd (unused.symm.trans attempted) Bool.false_ne_true
  | cancelled _ _ _ _ attempted => exact absurd (unused.symm.trans attempted) Bool.false_ne_true

/-- The session keeps its view through a program. -/
theorem keeps_bind {α β : Type} {P : View → Prop} {program : Trading ρ α} {next : α → Trading ρ β}
    {post : β → Session ρ → Prop} {failed : Session ρ → Prop}
    (keeps : Triple (fun s => P s.view) program (fun _ s => P s.view) (fun s => P s.view))
    (lost : ∀ s : Session ρ, P s.view → failed s) (rest : ∀ a, Triple (fun s => P s.view) (next a) post failed) :
    Triple (fun s => P s.view) (program >>= next) post failed :=
  Triple.bind (fun _ s => P s.view) (keeps.weaken (fun _ => id) (fun _ _ => id) lost) rest

theorem call_post {order : OrderArgs} :
    Triple (fun s => Armed audit s.view) (call client (auditPost order))
      (fun reply s => Answered audit order (.ok reply) s.view)
      (fun s => ∃ e, Answered audit order (.error e) s.view) := by
  intro s armed
  have answered : Answered audit order (client.respond s.events (auditPost order))
      (s.noted (.client (auditPost order) (client.respond s.events (auditPost order)))).view := by
    refine ⟨armed.bounded, armed.attempted, ?_, armed.unknown⟩
    change mutations (.client (auditPost order) _ :: s.events) = _
    rw [mutations, if_pos (show (auditPost order).mutates = true from rfl),
      show mutations s.events = [] from armed.nothing]
  revert answered
  unfold call
  cases client.respond s.events (auditPost order) with
  | ok reply => exact id
  | error e => exact fun answered => ⟨_, answered⟩

theorem rememberPlacement_spec {order : OrderArgs} (caps : WithinCaps runtime audit order) (response : Dict Text Json) :
    Triple (fun s : Session ρ => Answered audit order (.ok (.obj response)) s.view)
      (rememberPlacement runtime response) (fun _ s => OneShot runtime audit s.view)
      (fun s => OneShot runtime audit s.view) := by
  refine Triple.state fun now answered => ?_
  have failure : ∀ s, s = now → OneShot runtime audit s.view := fun s same => same ▸ answered.oneShot caps
  rw [show now.bounded = some audit from answered.bounded]
  refine Triple.value failure fun orderId returned => Triple.check failure fun given => Triple.modify fun s start => ?_
  subst start
  refine ⟨answered.bounded, .posted order (.ok (.obj response)) answered.attempted caps answered.once ?_⟩
  rintro _ ⟨⟩
  exact ⟨response, rfl, returned, of_decide_eq_true given⟩

/-- A placement posts at most one order, within the caps, and only the first time. -/
theorem placeLimitOrder_spec (tokenId side : Text) (price size : PyFloat) (tif : Text) (postOnly : Bool) :
    Triple (fun s => OneShot runtime audit s.view)
      (placeLimitOrder runtime client tokenId side price size tif postOnly)
      (fun _ s => OneShot runtime audit s.view) (fun s => OneShot runtime audit s.view) := by
  have failure : ∀ s : Session ρ, OneShot runtime audit s.view → OneShot runtime audit s.view := fun _ => id
  have lost : ∀ s : Session ρ, Armed audit s.view → OneShot runtime audit s.view := fun _ armed => armed.oneShot
  refine Triple.value failure fun token _ => Triple.value failure fun sideValue _ => Triple.value failure fun price _ =>
    Triple.check failure fun _ => Triple.value failure fun size _ => Triple.check failure fun _ => ?_
  refine Triple.bind _ (prepareBoundedPlacement_spec token price size tif postOnly sideValue) fun _ => ?_
  -- From here on the capability is used up, whatever the client answers.
  intro s given
  obtain ⟨armed, post, caps⟩ := given
  subst post
  revert s
  refine Triple.check lost fun _ => keeps_bind keeps_mutation lost fun _ =>
    keeps_bind keeps_requireV2Server lost fun _ => keeps_bind (call_read rfl) lost fun signed =>
    Triple.value lost fun _ _ => ?_
  refine Triple.bind _ (call_post.weaken (fun _ => id) (fun _ _ => id) ?_) fun reply => ?_
  · rintro s ⟨e, answered⟩
    exact answered.oneShot caps
  · have answered : ∀ s : Session ρ, Answered audit _ (.ok reply) s.view → OneShot runtime audit s.view :=
      fun s holds => holds.oneShot caps
    refine Triple.value answered fun response mapped => ?_
    cases reply with
    | obj fields =>
      cases mapped
      exact Triple.bind _ (rememberPlacement_spec caps response) fun _ => Triple.pure fun _ => id
    | null | bool | int | float | str | arr => cases mapped

end Placement

section Cancellation

variable {ρ : Type} {runtime : Runtime} {audit : BoundedAudit} {client : Client ρ}

theorem prepareBoundedCancellation_spec (identifier : Text) :
    Triple (fun s : Session ρ => OneShot runtime audit s.view) (prepareBoundedCancellation identifier)
      (fun _ s => Cancelling runtime audit identifier s.view) (fun s => OneShot runtime audit s.view) := by
  refine Triple.state fun now oneShot => ?_
  have failure : ∀ s, s = now → OneShot runtime audit s.view := fun s same => same ▸ oneShot
  rw [show now.bounded = some audit from oneShot.bounded]
  cases known : now.orderId with
  | none => exact Triple.raise failure
  | some orderId =>
    refine Triple.check failure fun same => Triple.check failure fun fresh => Triple.modify fun s start => ?_
    subst start
    cases of_decide_eq_true same
    have unused : s.view.cancelAttempted = false := by simpa [Session.view] using fresh
    have found : s.view.orderId = some identifier := known
    cases oneShot.stage with
    | idle _ unknown =>
      rw [found] at unknown
      cases unknown
    | posted order reply attempted caps once returned =>
      exact ⟨oneShot.bounded, attempted, rfl, found, order, reply, caps, returned identifier found, once⟩
    | cancelled _ _ _ _ _ _ latched => exact absurd (unused.symm.trans latched) Bool.false_ne_true

theorem checkCancellationServer_spec {P : View → Prop} (bounded : ∀ v, P v → v.bounded = some audit) :
    Triple (fun s => P s.view) (checkCancellationServer client) (fun _ s => P s.view) (fun s => P s.view) := by
  refine Triple.state fun now given => ?_
  rw [show now.bounded = some audit from bounded _ given]
  exact keeps_requireV2Server.weaken (fun s same => same ▸ given) (fun _ _ => id) fun _ => id

theorem call_cancel {orderId : Text} :
    Triple (fun s => Cancelling runtime audit orderId s.view) (call client (.cancelOrder orderId))
      (fun _ s => OneShot runtime audit s.view) (fun s => OneShot runtime audit s.view) := by
  intro s cancelling
  obtain ⟨order, reply, caps, returned, once⟩ := cancelling.posted
  have done : OneShot runtime audit
      (s.noted (.client (.cancelOrder orderId) (client.respond s.events (.cancelOrder orderId)))).view := by
    refine ⟨cancelling.bounded, .cancelled order reply (client.respond s.events (.cancelOrder orderId)) orderId
      cancelling.attempted caps cancelling.latched cancelling.known returned ?_⟩
    change mutations (.client (.cancelOrder orderId) _ :: s.events) = _
    rw [mutations, if_pos (show (ClientCall.cancelOrder orderId).mutates = true from rfl),
      show mutations s.events = _ from once]
  revert done
  unfold call
  cases client.respond s.events (.cancelOrder orderId) <;> exact id

/-- A cancellation goes out once, for the identifier that the placement returned. -/
theorem cancelOrder_spec (orderId : Text) :
    Triple (fun s => OneShot runtime audit s.view) (cancelOrder runtime client orderId)
      (fun _ s => OneShot runtime audit s.view) (fun s => OneShot runtime audit s.view) := by
  have lost : ∀ (identifier : Text) (s : Session ρ), Cancelling runtime audit identifier s.view →
      OneShot runtime audit s.view := fun _ _ cancelling => cancelling.oneShot
  refine Triple.value (fun _ => id) fun identifier _ => ?_
  refine Triple.bind _ (prepareBoundedCancellation_spec identifier) fun _ => ?_
  refine keeps_bind keeps_mutation (lost identifier) fun _ => ?_
  refine keeps_bind (checkCancellationServer_spec fun _ cancelling => cancelling.bounded) (lost identifier) fun _ => ?_
  refine Triple.check (lost identifier) fun _ => Triple.bind _ call_cancel fun reply => ?_
  exact keeps_ofExcept _

end Cancellation

section Sessions

variable {ρ : Type} {runtime : Runtime} {audit : BoundedAudit} {client : Client ρ}

theorem productMutation_spec (operation : String) (request : ClientCall) :
    Triple (fun s => OneShot runtime audit s.view) (productMutation client operation request)
      (fun _ s => OneShot runtime audit s.view) (fun s => OneShot runtime audit s.view) := by
  -- The guard stops every audit trader, so the client is never called.
  refine Triple.bind (fun _ _ => False) ?_ fun _ _ impossible => impossible.elim
  refine Triple.state fun now oneShot => ?_
  rw [show now.bounded = some audit from oneShot.bounded]
  exact Triple.raise fun s same => same ▸ oneShot

theorem reads_spec {P : View → Prop} (tokenId side : Text) :
    Triple (fun s => P s.view) (getTradingBalanceAllowance runtime client tokenId side) (fun _ s => P s.view)
      (fun s => P s.view) := by
  refine Triple.value (fun _ => id) fun side _ => Triple.value (fun _ => id) fun token _ => ?_
  refine keeps_bind keeps_mutation (fun _ => id) fun _ => Triple.check (fun _ => id) fun _ => ?_
  exact keeps_bind (call_read rfl) (fun _ => id) fun reply => keeps_ofExcept _

theorem address_spec {P : View → Prop} (funderAddress : Text) :
    Triple (fun s => P s.view) (getTradingAccountAddress client funderAddress) (fun _ s => P s.view)
      (fun s => P s.view) := by
  unfold getTradingAccountAddress
  split
  · exact Triple.pure fun _ => id
  · exact keeps_bind (call_read rfl) (fun _ => id) fun reply => keeps_ofExcept _

theorem oneShot_invoke {s : Session ρ} (oneShot : OneShot runtime audit s.view) (method : Method) :
    OneShot runtime audit (s.invoke runtime client method).view := by
  cases method with
  | placeLimitOrder tokenId side price size tif postOnly =>
    exact (placeLimitOrder_spec tokenId side price size tif postOnly).final (fun _ _ => id) (fun _ => id) oneShot
  | cancelOrder orderId => exact (cancelOrder_spec orderId).final (fun _ _ => id) (fun _ => id) oneShot
  | getTradingBalanceAllowance tokenId side => exact (reads_spec tokenId side).final (fun _ _ => id) (fun _ => id) oneShot
  | getTradingAccountAddress funderAddress => exact (address_spec funderAddress).final (fun _ _ => id) (fun _ => id) oneShot
  | read read => exact (call_read rfl).final (fun _ _ => id) (fun _ => id) oneShot
  | placeMarketOrderAmount | cancelOrders | cancelAllOrders | cancelMarketOrders | placeMultipleOrders
  | sendHeartbeat => exact (productMutation_spec _ _).final (fun _ _ => id) (fun _ => id) oneShot

/-- Any sequence of method calls from outside. -/
theorem oneShot_run {s : Session ρ} (oneShot : OneShot runtime audit s.view) (methods : List Method) :
    OneShot runtime audit (methods.foldl (Session.invoke runtime client) s).view := by
  induction methods generalizing s with
  | nil => exact oneShot
  | cons method rest ih => exact ih (oneShot_invoke oneShot method)

end Sessions

end MarketSentinel.Live
