import Calls.Server.Nodes

/-! The session objects of a node. Goroutines keep pointers to them, so that an
object may be changed through one while it is in `p.sessions` under any key, or
not at all; here a pointer is the place of the object in the order of creation. -/

set_option autoImplicit false

namespace Calls

structure SessionObject extends SessionRecord where
  /-- The flag that lets only the first `removeSession` of the object through. -/
  removed : Bool
  deriving DecidableEq

def SessionRecord.fresh (us : SessionRecord) : SessionObject := { us with removed := false }

/-- The queue of a batcher. A batcher is forgotten when it is stopped. -/
structure Batcher (α : Type) where
  size : Nat
  items : List α
  deriving DecidableEq

def Batcher.push? {α : Type} (batcher : Batcher α) (item : α) : Option (Batcher α) :=
  if batcher.items.length < batcher.size then some { batcher with items := batcher.items ++ [item] } else none

def minMembersCountForBatching : Nat := 100

def maxJoinLeaveOpsBatchSize : Nat := 1000

/-- A client that joins, by its connection. -/
structure Joiner where
  userID : String
  channelID : String
  connID : String
  deriving DecidableEq

/-- A session that `addUserSession` has added to its call, and what the node that
added it goes by: an RTCD host serves all calls, or a node of the cluster this one. -/
structure Added where
  callID : String
  handlerID : String
  rtcd : Bool
  sendFails : Bool
  deriving DecidableEq

structure NodeRecords where
  objects : List SessionObject
  sessions : StringMap Nat
  addSessionsBatchers : StringMap (Batcher Joiner)
  removeSessionsBatchers : StringMap (Batcher Nat)
  sent : List ClusterMessage

namespace NodeRecords

def empty : NodeRecords := ⟨[], .empty, .empty, .empty, []⟩

/-- `p.sessions[key]` -/
def at? (node : NodeRecords) (key : String) : Option SessionObject :=
  (node.sessions.get? key).bind fun us => node.objects[us]?

def setObject (node : NodeRecords) (us : Nat) (object : SessionObject) : NodeRecords :=
  { node with objects := node.objects.set us object }

/-- Put a new object under a key. -/
def store (node : NodeRecords) (key : String) (object : SessionObject) : NodeRecords :=
  { node with objects := node.objects ++ [object], sessions := StringMap.set node.sessions key node.objects.length }

def delete (node : NodeRecords) (key : String) : NodeRecords := { node with sessions := node.sessions.erase key }

def send (node : NodeRecords) (msg : ClusterMessage) : NodeRecords := { node with sent := node.sent ++ [msg] }

/-- `hasSessionsForCall` -/
def hasSessionsForCall (node : NodeRecords) (callID : String) : Bool :=
  node.sessions.mapKeys.any fun key => (node.at? key).any (·.callID = callID)

/-- `addSessionToCall`, once it is known whether the session was added to the call. -/
def addSessionToCall (nodeID : String) (node : NodeRecords) (joiner : Joiner) : Option Added → NodeRecords
  | none => node
  | some added =>
    let us := newUserSession joiner.userID joiner.channelID joiner.connID added.callID
      (added.rtcd = false ∧ added.handlerID = nodeID)
    let stored := node.store joiner.connID us.fresh
    if added.rtcd = false ∧ added.handlerID ≠ nodeID ∧ added.sendFails = false then
      stored.send (.connect nodeID added.handlerID joiner.connID joiner.userID joiner.channelID added.callID)
    else stored

/-- `handleJoin`: the join is pushed to the batcher, or else run with what came of it. -/
def handleJoin (nodeID : String) (node : NodeRecords) (joiner : Joiner) (memberCount : Nat) (added : Option Added) :
    NodeRecords :=
  match node.addSessionsBatchers.get? joiner.channelID with
  | some batcher =>
    match batcher.push? joiner with
    | some pushed => { node with addSessionsBatchers := node.addSessionsBatchers.set joiner.channelID pushed }
    | none => node
  | none =>
    if minMembersCountForBatching ≤ memberCount then
      { node with
        addSessionsBatchers :=
          node.addSessionsBatchers.set joiner.channelID ⟨min memberCount maxJoinLeaveOpsBatchSize, [joiner]⟩ }
    else node.addSessionToCall nodeID joiner added

/-- The next item of a batch of joins is run, under the lock of the call. -/
def runJoin? (nodeID : String) (node : NodeRecords) (channelID : String) (added : Option Added) : Option NodeRecords :=
  match node.addSessionsBatchers.get? channelID with
  | some ⟨size, joiner :: items⟩ =>
    some ({ node with addSessionsBatchers := node.addSessionsBatchers.set channelID ⟨size, items⟩ }.addSessionToCall
      nodeID joiner added)
  | _ => none

/-- `handleEvent` for the messages about connections. -/
def handleEvent (node : NodeRecords) : ClusterMessage → NodeRecords
  | .connect _ _ connID userID channelID callID =>
    if (node.sessions.get? connID).isSome then node
    else node.store connID (newUserSession userID channelID connID callID true).fresh
  | .reconnect _ connID newConnID _ _ =>
    match node.sessions.get? connID with
    | none => node
    | some us =>
      match node.objects[us]? with
      | none => node
      | some object =>
        if object.wsReconnected then node
        else if object.rtc then node.setObject us { object with wsReconnected := true, connID := newConnID }
        else (node.setObject us { object with wsReconnected := true }).delete object.connID

/-- The object that a reconnecting client is taken to have had on this node. -/
def reconnecting? (node : NodeRecords) (connID prevConnID : String) : Option (Nat × SessionObject) :=
  ((node.sessions.get? connID).or (node.sessions.get? prevConnID)).bind fun us => (node.objects[us]?).map (us, ·)

/-- That object flagged, if there is one. -/
def marked (node : NodeRecords) (connID prevConnID : String) : NodeRecords :=
  match node.reconnecting? connID prevConnID with
  | none => node
  | some found => node.setObject found.1 { found.2 with wsReconnected := true }

/-- The object made for the new connection of a session. -/
def replacement (node : NodeRecords) (req : ReconnectRequest) (callID : String) : SessionObject :=
  SessionRecord.fresh
    { newUserSession req.userID req.channelID req.connID callID
        ((node.reconnecting? req.connID req.prevConnID).any (·.2.rtc)) with
      originalConnID := req.originalConnID }

/-- The part of `handleReconnect` under the mutex of the node, and the message
after it. The jobs of a bot may fail to be updated. -/
def handleReconnect (nodeID : String) (node : NodeRecords) (req : ReconnectRequest) (callID : String)
    (botFails sendFails : Bool) : NodeRecords :=
  if (node.reconnecting? req.connID req.prevConnID).any (·.2.wsReconnected) then node
  else
    let marked := node.marked req.connID req.prevConnID
    if botFails then marked
    else
      let replaced := (marked.delete req.originalConnID).store req.connID (node.replacement req callID)
      if sendFails then replaced
      else replaced.send (.reconnect nodeID req.prevConnID req.connID req.userID callID)

/-- The part of `handleLeave` for a session that has reconnected. -/
def clearReconnected (node : NodeRecords) (us : Nat) (connID : String) : NodeRecords :=
  if (node.objects[us]?).any fun object => object.wsReconnected ∧ node.sessions.get? connID = some us ∧ object.rtc = false
  then node.delete connID else node

/-- A batcher that has nothing to do is stopped. -/
def stopIfEmpty {α : Type} (batchers : StringMap (Batcher α)) (channelID : String) : StringMap (Batcher α) :=
  if (batchers.get? channelID).any (·.items.isEmpty) then batchers.erase channelID else batchers

/-- `removeSessionFromCall` under the mutex of the node. -/
def removeSessionFromCall (node : NodeRecords) (us : Nat) : NodeRecords :=
  match node.objects[us]? with
  | none => node
  | some object =>
    let deleted := node.delete object.connID
    if deleted.hasSessionsForCall object.callID then deleted
    else
      { deleted with
        addSessionsBatchers := stopIfEmpty deleted.addSessionsBatchers object.channelID
        removeSessionsBatchers := stopIfEmpty deleted.removeSessionsBatchers object.channelID }

/-- What comes of a call of `removeSession`. -/
inductive Removal where
  | alreadyRemoved
  | pushed
  | queueFull
  | lockFailed
  | run
  deriving DecidableEq

/-- `removeSession`. The flag is set before anything can fail. -/
def removeSession (node : NodeRecords) (us : Nat) (object : SessionObject) (sessionsCount : Nat) (locked : Bool) :
    Removal × NodeRecords :=
  if object.removed then (.alreadyRemoved, node)
  else
    let flagged := node.setObject us { object with removed := true }
    match flagged.removeSessionsBatchers.get? object.channelID with
    | some batcher =>
      match batcher.push? us with
      | some pushed =>
        (.pushed, { flagged with
          removeSessionsBatchers := flagged.removeSessionsBatchers.set object.channelID pushed })
      | none => (.queueFull, flagged)
    | none =>
      if minMembersCountForBatching ≤ sessionsCount then
        (.pushed, { flagged with
          removeSessionsBatchers := flagged.removeSessionsBatchers.set object.channelID ⟨sessionsCount, [us]⟩ })
      else if locked then (.run, flagged.removeSessionFromCall us)
      else (.lockFailed, flagged)

/-- The next item of a batch of removals, which is run under the lock of the call. -/
def popRemoval? (node : NodeRecords) (channelID : String) : Option (Nat × NodeRecords) :=
  match node.removeSessionsBatchers.get? channelID with
  | some ⟨size, us :: items⟩ =>
    some (us, { node with removeSessionsBatchers := node.removeSessionsBatchers.set channelID ⟨size, items⟩ })
  | _ => none

end NodeRecords

/-- What the goroutines of a node do with its session objects. -/
inductive RecordStep where
  | join (joiner : Joiner) (memberCount : Nat) (added : Option Added)
  | runJoin (channelID : String) (added : Option Added)
  | reconnect (req : ReconnectRequest) (callID : String) (botFails sendFails : Bool)
  | clear (us : Nat) (connID : String)
  | remove (us : Nat) (sessionsCount : Nat) (locked : Bool)
  | runRemove (channelID : String)

namespace NodeRecords

/-- The object whose `removeSessionFromCall` a step runs. -/
def removes? (node : NodeRecords) : RecordStep → Option Nat
  | .remove us sessionsCount locked =>
    (node.objects[us]?).bind fun object =>
      if (node.removeSession us object sessionsCount locked).1 = .run then some us else none
  | .runRemove channelID => (node.popRemoval? channelID).map Prod.fst
  | _ => none

def next? (nodeID : String) (node : NodeRecords) : RecordStep → Option NodeRecords
  | .join joiner memberCount added => some (node.handleJoin nodeID joiner memberCount added)
  | .runJoin channelID added => node.runJoin? nodeID channelID added
  | .reconnect req callID botFails sendFails => some (node.handleReconnect nodeID req callID botFails sendFails)
  | .clear us connID => some (node.clearReconnected us connID)
  | .remove us sessionsCount locked =>
    (node.objects[us]?).map fun object => (node.removeSession us object sessionsCount locked).2
  | .runRemove channelID => (node.popRemoval? channelID).map fun popped => popped.2.removeSessionFromCall popped.1

end NodeRecords

/-! ### The cluster -/

/-- The nodes, with the messages that each has handled by sender and number. -/
structure RecordsCluster where
  nodes : String → NodeRecords
  delivered : List (String × String × Nat)

inductive RecordsClusterStep where
  | act (nodeID : String) (step : RecordStep)
  | deliver (nodeID senderID : String) (number : Nat)

namespace RecordsCluster

def idle : RecordsCluster := ⟨fun _ => .empty, []⟩

def setNode (c : RecordsCluster) (nodeID : String) (node : NodeRecords) : RecordsCluster :=
  { c with nodes := Function.update c.nodes nodeID node }

/-- The message that a node has still to handle. -/
def pending? (c : RecordsCluster) (nodeID senderID : String) (number : Nat) : Option ClusterMessage :=
  if (nodeID, senderID, number) ∈ c.delivered then none
  else ((c.nodes senderID).sent[number]?).filter (·.reaches nodeID)

def next? (c : RecordsCluster) : RecordsClusterStep → Option RecordsCluster
  | .act nodeID step => ((c.nodes nodeID).next? nodeID step).map (c.setNode nodeID)
  | .deliver nodeID senderID number =>
    (c.pending? nodeID senderID number).map fun msg =>
      { c.setNode nodeID ((c.nodes nodeID).handleEvent msg) with
        delivered := (nodeID, senderID, number) :: c.delivered }

end RecordsCluster

def recordsCluster : System RecordsCluster RecordsClusterStep where
  init c := c = .idle
  next? := RecordsCluster.next?

end Calls
