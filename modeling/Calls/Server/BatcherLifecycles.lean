import Calls.Batching.Batcher
import Calls.Server.Records

/-! The batchers of a node from when they are made until they are stopped. The requests look
them up, fill them and take them out while they hold the mutex of the node. The goroutines of
the batchers, and those that stop them, do not hold it. -/

set_option autoImplicit false

namespace Calls

open Batching (BatcherStep newBatcher)

inductive BatcherKind where
  | addSessions
  | removeSessions
  deriving DecidableEq

/-- A batcher of a node, with what its callbacks go by. Its items are numbered as they are pushed. -/
structure NodeBatcher where
  kind : BatcherKind
  channelID : String
  batcher : Batching.Batcher Nat
  deriving DecidableEq

/-- What the goroutine that holds `p.mut` does next. -/
inductive MutHolder where
  /-- Look the batcher up; `count` is of the members of the channel, or of the sessions of the call. -/
  | lookUp (kind : BatcherKind) (channelID : String) (count : Nat)
  | make (kind : BatcherKind) (channelID : String) (count : Nat)
  | register (kind : BatcherKind) (channelID : String) (batcher : Nat)
  | start (kind : BatcherKind) (channelID : String) (batcher : Nat)
  | push (kind : BatcherKind) (channelID : String) (batcher : Nat)
  | delete (channelID callID connID : String)
  | check (kind : BatcherKind) (channelID : String)
  | takeOut (kind : BatcherKind) (channelID : String) (batcher : Nat)
  | unlock
  deriving DecidableEq

structure BatcherNode where
  /-- `p.sessions`, with the calls of the sessions. -/
  sessions : StringMap String
  addSessionsBatchers : StringMap Nat
  removeSessionsBatchers : StringMap Nat
  /-- All that were made, whether or not they are in a map. -/
  batchers : List NodeBatcher
  pushes : Nat
  holder : Option MutHolder
  /-- The batchers for which a goroutine is about to call `Stop`. -/
  stopping : List Nat
  deriving DecidableEq

/-- `joinLeaveBatchingInterval`, in nanoseconds. -/
def joinLeaveBatchingInterval : Int := 1000000000

def BatcherKind.config (kind : BatcherKind) (count : Nat) : Batching.Config where
  interval := joinLeaveBatchingInterval
  size :=
    match kind with
    | .addSessions => min count maxJoinLeaveOpsBatchSize
    | .removeSessions => count
  preRunCb := true
  postRunCb := true

/-- `Empty` -/
def Batching.Batcher.empty {α : Type} (b : Batching.Batcher α) : Bool := b.itemsCh.length = 0

namespace BatcherNode

def initial : BatcherNode := ⟨.empty, .empty, .empty, [], 0, none, []⟩

def registered (node : BatcherNode) : BatcherKind → StringMap Nat
  | .addSessions => node.addSessionsBatchers
  | .removeSessions => node.removeSessionsBatchers

def setRegistered (node : BatcherNode) (kind : BatcherKind) (batchers : StringMap Nat) : BatcherNode :=
  match kind with
  | .addSessions => { node with addSessionsBatchers := batchers }
  | .removeSessions => { node with removeSessionsBatchers := batchers }

def hold (node : BatcherNode) (holder : MutHolder) : BatcherNode := { node with holder := some holder }

def setBatcher (node : BatcherNode) (id : Nat) (change : Batching.Batcher Nat → Batching.Batcher Nat) : BatcherNode :=
  { node with batchers := node.batchers.modify id fun b => { b with batcher := change b.batcher } }

def queue (node : BatcherNode) (id : Nat) : List Nat := ((node.batchers[id]?).map (·.batcher.itemsCh)).getD []

/-- What a removal does after it is done with the batcher of the kind. -/
def checked (node : BatcherNode) (kind : BatcherKind) (channelID : String) : BatcherNode :=
  match kind with
  | .addSessions => node.hold (.check .removeSessions channelID)
  | .removeSessions => node.hold .unlock

/-- The goroutine that holds `p.mut` goes on. -/
def advance (node : BatcherNode) : MutHolder → BatcherNode
  | .lookUp kind channelID count =>
    match (node.registered kind).get? channelID with
    | some id => node.hold (.push kind channelID id)
    | none => node.hold (if minMembersCountForBatching ≤ count then .make kind channelID count else .unlock)
  | .make kind channelID count =>
    match newBatcher Nat (kind.config count) with
    | .error _ => node.hold .unlock
    | .ok batcher =>
      let made : NodeBatcher := ⟨kind, channelID, batcher⟩
      { node with batchers := node.batchers ++ [made] }.hold (.register kind channelID node.batchers.length)
  | .register kind channelID id =>
    (node.setRegistered kind ((node.registered kind).set channelID id)).hold (.start kind channelID id)
  | .start kind channelID id => (node.setBatcher id fun b => (b.next? .start).getD b).hold (.push kind channelID id)
  | .push _ _ id =>
    { node.setBatcher id fun b => (b.next? (.push node.pushes)).getD b with pushes := node.pushes + 1 }.hold .unlock
  | .delete channelID callID connID =>
    let deleted := { node with sessions := node.sessions.erase connID }
    deleted.hold (if deleted.sessions.rows.any (·.2 = callID) then .unlock else .check .addSessions channelID)
  | .check kind channelID =>
    match (node.registered kind).get? channelID with
    | none => node.checked kind channelID
    | some id => if (node.queue id).isEmpty then node.hold (.takeOut kind channelID id) else node.checked kind channelID
  | .takeOut kind channelID id =>
    let erased := node.setRegistered kind ((node.registered kind).erase channelID)
    { erased with stopping := node.stopping ++ [id] }.checked kind channelID
  | .unlock => { node with holder := none }

end BatcherNode

/-- The steps of a batcher that its own goroutine takes. -/
def Batching.BatcherStep.own {α : Type} : BatcherStep α → Bool
  | .push _ | .start | .stop => false
  | _ => true

inductive BatcherNodeStep where
  /-- `handleJoin` locks `p.mut`. -/
  | join (channelID : String) (memberCount : Nat)
  /-- `removeSession` locks it. -/
  | leave (channelID : String) (sessionsCount : Nat)
  /-- `removeSessionFromCall` locks it, in an item of a batch or in the request itself: at any time, as far
  as the batchers go. -/
  | removal (channelID callID connID : String)
  /-- Something else changes the sessions while it holds `p.mut`. -/
  | other (sessions : StringMap String)
  | advance
  /-- The goroutine of a batcher goes on. Its callbacks take the lock of the call, for as long as it takes. -/
  | run (batcher : Nat) (step : BatcherStep Nat)
  | stop (batcher : Nat)

namespace BatcherNode

def lock? (node : BatcherNode) (holder : MutHolder) : Option BatcherNode :=
  if node.holder = none then some (node.hold holder) else none

def next? (node : BatcherNode) : BatcherNodeStep → Option BatcherNode
  | .join channelID memberCount => node.lock? (.lookUp .addSessions channelID memberCount)
  | .leave channelID sessionsCount => node.lock? (.lookUp .removeSessions channelID sessionsCount)
  | .removal channelID callID connID => node.lock? (.delete channelID callID connID)
  | .other sessions => if node.holder = none then some { node with sessions } else none
  | .advance => node.holder.map node.advance
  | .run id step =>
    if step.own then
      (node.batchers[id]?).bind fun b => (b.batcher.next? step).map fun after => node.setBatcher id fun _ => after
    else none
  | .stop id =>
    if id ∈ node.stopping then
      some { node.setBatcher id fun b => (b.next? .stop).getD b with stopping := node.stopping.erase id }
    else none

end BatcherNode

/-! ### What is seen of the batchers -/

inductive LifecycleEvent where
  | pushed (batcher item : Nat) (kind : BatcherKind) (channelID : String) (accepted : Bool)
  | begun (batcher item : Nat)
  /-- It is taken out of its map while so many items are queued, or `Stop` is called then. -/
  | takenOut (batcher queued : Nat)
  | stopped (batcher queued : Nat)
  deriving DecidableEq

/-- Whether a push is accepted. -/
def NodeBatcher.accepts (b : NodeBatcher) (item : Nat) : Bool :=
  match b.batcher.push item with
  | .ok _ => true
  | .error _ => false

def BatcherNode.event? (node : BatcherNode) : BatcherNodeStep → Option LifecycleEvent
  | .advance =>
    match node.holder with
    | some (.push kind channelID id) =>
      some (.pushed id node.pushes kind channelID ((node.batchers[id]?).any (·.accepts node.pushes)))
    | some (.takeOut _ _ id) => some (.takenOut id (node.queue id).length)
    | _ => none
  | .run id .receive => (node.queue id).head?.map (.begun id)
  | .stop id => some (.stopped id (node.queue id).length)
  | _ => none

/-- The node with the events so far, oldest first. -/
def batcherLifecycles : System (BatcherNode × List LifecycleEvent) BatcherNodeStep :=
  System.observed ⟨(· = .initial), BatcherNode.next?⟩ [] fun events node step _ => events ++ (node.event? step).toList

def LifecycleEvent.takenOut? : LifecycleEvent → Option Nat
  | .takenOut id _ => some id
  | _ => none

def LifecycleEvent.stopped? : LifecycleEvent → Option Nat
  | .stopped id _ => some id
  | _ => none

/-- The batcher is in the map of its kind, and it is not stopped. -/
def BatcherNode.Serves (node : BatcherNode) (id : Nat) (kind : BatcherKind) (channelID : String) : Prop :=
  (node.registered kind).get? channelID = some id ∧ ∃ b, node.batchers[id]? = some b ∧ b.batcher.stopCh = false

/-- What becomes of the batchers of a node, and of the joins and leaves in them. -/
structure LifecycleSafe (state : BatcherNode × List LifecycleEvent) : Prop where
  takenOutEmpty : ∀ id queued, .takenOut id queued ∈ state.2 → queued = 0
  stoppedEmpty : ∀ id queued, .stopped id queued ∈ state.2 → queued = 0
  notPushedAfter : state.2.Pairwise fun earlier later => ∀ id queued item kind channelID accepted,
    earlier = .takenOut id queued → later ≠ .pushed id item kind channelID accepted
  stoppedOnce : (state.2.filterMap LifecycleEvent.stopped?).Nodup
  waiting : ∀ id item kind channelID, .pushed id item kind channelID true ∈ state.2 → .begun id item ∉ state.2 →
    state.1.Serves id kind channelID ∧ item ∈ state.1.queue id

end Calls
