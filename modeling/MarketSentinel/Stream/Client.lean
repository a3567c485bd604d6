import Mathlib.Data.Finset.Sort
import Mathlib.Logic.Function.Basic
import MarketSentinel.Library.Dict
import MarketSentinel.Library.Json

/-! The WebSocket clients of the market channel and of the user channel.

A step is a section under a lock, a look at an event, or one call on a connection.
Generations, their stop events and their threads have the same numbers.
-/

set_option autoImplicit false

namespace MarketSentinel.Stream

open Python

structure Auth where
  apiKey : Text
  secret : Text
  passphrase : Text

inductive Client where
  | market (customFeatureEnabled : Bool)
  | user (auth : Auth)

def idsField : Client → Text
  | .market _ => text "assets_ids"
  | .user _ => text "markets"

def idItems (ids : List Text) : Json := .arr (ids.map .str)

def customFeature (enabled : Bool) : List (Text × Json) :=
  if enabled then [(text "custom_feature_enabled", .bool true)] else []

/-- `build_market_subscription`. -/
def buildMarketSubscription (tokenIds : List Text) (customFeatureEnabled : Bool) : Json :=
  .obj ([(text "assets_ids", idItems (tokenIds.filter fun id => decide (id ≠ []))), (text "type", .str (text "market"))] ++
    customFeature customFeatureEnabled)

/-- `build_user_subscription`. -/
def buildUserSubscription (auth : Auth) (markets : List Text) : Json :=
  let marketIds := markets.filter fun id => decide (id ≠ [])
  .obj ([(text "auth", .obj [(text "apiKey", .str auth.apiKey), (text "secret", .str auth.secret),
      (text "passphrase", .str auth.passphrase)]), (text "type", .str (text "user"))] ++
    if marketIds = [] then [] else [(text "markets", idItems marketIds)])

def subscription : Client → List Text → Json
  | .market custom, ids => buildMarketSubscription ids custom
  | .user auth, ids => buildUserSubscription auth ids

/-- The message of `_sync_subscriptions`. -/
def edit (client : Client) (operation : String) (ids : List Text) : Json :=
  match client with
  | .market custom =>
    .obj ([(text "assets_ids", idItems ids), (text "operation", .str (text operation))] ++ customFeature custom)
  | .user _ => .obj [(text "markets", idItems ids), (text "operation", .str (text operation))]

/-- `{str(id) for id in ids if id}`. -/
def normalized (ids : List Text) : Finset Text := (ids.filter fun id => decide (id ≠ [])).toFinset

/-- `sorted(ids)`. -/
def sorted (ids : Finset Text) : List Text := ids.sort (· ≤ ·)

/-- Where a worker stands, with its connection, the ids that it believes subscribed, and its last snapshot. -/
inductive Stage where
  | absent
  | looking
  | connecting
  | registering (connection : Nat)
  | greeting (connection : Nat)
  | subscribing (connection : Nat) (sent : Finset Text)
  | marking (connection : Nat) (sent : Finset Text)
  | heading (connection : Nat) (sent : Finset Text)
  | syncing (connection : Nat) (sent : Finset Text)
  | removing (connection : Nat) (sent current : Finset Text)
  | adding (connection : Nat) (sent current : Finset Text)
  | receiving (connection : Nat) (sent : Finset Text)
  | clearing (connection : Nat)
  | resting
  | finished

namespace Stage

/-- `thread.is_alive()`. -/
def alive : Stage → Bool
  | .absent | .finished => false
  | _ => true

def connection : Stage → Option Nat
  | .registering c | .greeting c | .subscribing c _ | .marking c _ | .heading c _ | .syncing c _ | .removing c _ _
  | .adding c _ _ | .receiving c _ | .clearing c => some c
  | _ => none

/-- Between two snapshots of a connection, with all messages sent. -/
def settled : Stage → Option Nat
  | .marking c _ | .heading c _ | .syncing c _ | .receiving c _ => some c
  | _ => none

end Stage

/-- `sent` and `snapshots` keep the messages and the last snapshot of each connection. -/
structure World where
  generation : Nat
  stop : Nat
  stopped : Nat → Bool
  thread : Nat
  workers : Nat → Stage
  ws : Option Nat
  wsGeneration : Option Nat
  connected : Bool
  connectedGeneration : Option Nat
  ids : Finset Text
  opened : Nat
  sent : Nat → List Json
  snapshots : Nat → Finset Text

namespace World

def start (world : World) : World :=
  if (world.workers world.thread).alive then world
  else
    let generation := world.generation + 1
    { world with
      generation := generation
      stop := generation
      stopped := Function.update world.stopped generation false
      connected := false
      connectedGeneration := none
      thread := generation
      workers := Function.update world.workers generation .looking }

/-- The section of `stop`; closing the connection and joining the thread change nothing here. -/
def stopCall (world : World) : World :=
  { world with
    stopped := Function.update world.stopped world.stop true
    connected := false
    connectedGeneration := none }

def isRunning (world : World) : Bool := (world.workers world.thread).alive && ! world.stopped world.stop

def isConnected (world : World) : Bool :=
  world.connected && decide (world.connectedGeneration = some world.generation) && ! world.stopped world.stop

def setTokens (world : World) (ids : List Text) : World := { world with ids := normalized ids }

def subscribe (world : World) (ids : List Text) : World := { world with ids := world.ids ∪ normalized ids }

def unsubscribe (world : World) (ids : List Text) : World := { world with ids := world.ids \ normalized ids }

def moveTo (world : World) (generation : Nat) (stage : Stage) : World :=
  { world with workers := Function.update world.workers generation stage }

def send (world : World) (connection : Nat) (message : Json) : World :=
  { world with sent := Function.update world.sent connection (world.sent connection ++ [message]) }

def snapshot (world : World) (connection : Nat) : World :=
  { world with snapshots := Function.update world.snapshots connection world.ids }

def registerConnection (world : World) (generation connection : Nat) : Option World :=
  if generation ≠ world.generation ∨ generation ≠ world.stop ∨ world.stopped generation = true then none
  else some { world with ws := some connection, wsGeneration := some generation }

def markConnected (world : World) (generation connection : Nat) : Option World :=
  if generation = world.generation ∧ generation = world.stop ∧ world.stopped generation = false ∧
      world.ws = some connection ∧ world.wsGeneration = some generation then
    some { world with connectedGeneration := some generation, connected := true }
  else none

def clearConnection (world : World) (generation connection : Nat) : World :=
  let world :=
    if world.ws = some connection ∧ world.wsGeneration = some generation then
      { world with ws := none, wsGeneration := none }
    else world
  if world.connectedGeneration = some generation then { world with connectedGeneration := none, connected := false }
  else world

/-- One step of the worker of a generation; a call on a connection works or fails. -/
def advance (client : Client) (world : World) (generation : Nat) (works : Bool) : Option World :=
  match world.workers generation with
  | .absent | .finished => none
  | .looking => some (world.moveTo generation (if world.stopped generation then .finished else .connecting))
  | .connecting =>
    if works then some { world.moveTo generation (.registering world.opened) with opened := world.opened + 1 }
    else some (world.moveTo generation .resting)
  | .registering c =>
    match world.registerConnection generation c with
    | some registered => some (registered.moveTo generation (.greeting c))
    | none => some (world.moveTo generation (.clearing c))
  | .greeting c => some ((world.snapshot c).moveTo generation (.subscribing c world.ids))
  | .subscribing c sent =>
    if works then some ((world.send c (subscription client (sorted sent))).moveTo generation (.marking c sent))
    else some (world.moveTo generation (.clearing c))
  | .marking c sent =>
    match world.markConnected generation c with
    | some marked => some (marked.moveTo generation (.heading c sent))
    | none => some (world.moveTo generation (.clearing c))
  | .heading c sent => some (world.moveTo generation (if world.stopped generation then .clearing c else .syncing c sent))
  | .syncing c sent => some ((world.snapshot c).moveTo generation (.removing c sent world.ids))
  | .removing c sent current =>
    let removed := sent \ current
    if removed = ∅ then some (world.moveTo generation (.adding c sent current))
    else if works then
      some ((world.send c (edit client "unsubscribe" (sorted removed))).moveTo generation (.adding c (sent \ removed) current))
    else some (world.moveTo generation (.clearing c))
  | .adding c sent current =>
    let added := current \ sent
    if added = ∅ then some (world.moveTo generation (.receiving c sent))
    else if works then
      some ((world.send c (edit client "subscribe" (sorted added))).moveTo generation (.receiving c (sent ∪ added)))
    else some (world.moveTo generation (.clearing c))
  -- the ping and the next message
  | .receiving c sent => some (world.moveTo generation (if works then .heading c sent else .clearing c))
  | .clearing c => some ((world.clearConnection generation c).moveTo generation .resting)
  | .resting => some (world.moveTo generation (if world.stopped generation then .finished else .looking))

end World

inductive Action where
  | start
  | stop
  | setTokens (ids : List Text)
  | subscribe (ids : List Text)
  | unsubscribe (ids : List Text)
  | worker (generation : Nat) (works : Bool)

/-- Only the market client has `set_tokens`. -/
def step (client : Client) (world : World) : Action → Option World
  | .start => some world.start
  | .stop => some world.stopCall
  | .setTokens ids =>
    match client with
    | .market _ => some (world.setTokens ids)
    | .user _ => none
  | .subscribe ids => some (world.subscribe ids)
  | .unsubscribe ids => some (world.unsubscribe ids)
  | .worker generation works => world.advance client generation works

def run (client : Client) (world : World) (actions : List Action) : Option World := actions.foldlM (step client) world

/-- A client that was constructed with some ids. -/
def initial (ids : List Text) : World where
  generation := 0
  stop := 0
  stopped _ := false
  thread := 0
  workers _ := .absent
  ws := none
  wsGeneration := none
  connected := false
  connectedGeneration := none
  ids := normalized ids
  opened := 0
  sent _ := []
  snapshots _ := ∅

/-! What the messages of a connection subscribe. -/

def idOf : Json → Option Text
  | .str id => some id
  | _ => none

def listedIds (client : Client) (message : Dict Text Json) : Finset Text :=
  match message.get? (idsField client) with
  | some (.arr items) => (items.filterMap idOf).toFinset
  | _ => ∅

def applied (client : Client) (subscribed : Finset Text) : Json → Finset Text
  | .obj message =>
    match Dict.get? message (text "operation") with
    | some (.str operation) =>
      if operation = text "unsubscribe" then subscribed \ listedIds client message
      else subscribed ∪ listedIds client message
    | _ => subscribed ∪ listedIds client message
  | _ => subscribed

def subscribedIds (client : Client) (messages : List Json) : Finset Text := messages.foldl (applied client) ∅

end MarketSentinel.Stream
