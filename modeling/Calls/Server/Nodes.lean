import Calls.Server.Operations

/-! The nodes of a cluster. Each keeps a record of the sessions whose WebSocket
connection, or whose RTC side, it has; the nodes share the store and send each
other messages. The server vouches for the user of every connection. -/

set_option autoImplicit false

namespace Calls

/-- What a node keeps of a session, under the ID of the connection it was made for. -/
structure SessionRecord where
  userID : String
  channelID : String
  connID : String
  originalConnID : String
  callID : String
  /-- The node has the RTC side of the session too. -/
  rtc : Bool
  /-- The flag, and with it the channel that is closed when the flag is set. -/
  wsReconnected : Bool
  deriving DecidableEq

/-- `p.sessions` of a node. -/
abbrev NodeSessions := StringMap SessionRecord

def newUserSession (userID channelID connID callID : String) (rtc : Bool) : SessionRecord :=
  { userID, channelID, connID, originalConnID := connID, callID, rtc, wsReconnected := false }

inductive ClusterMessage where
  | connect (senderID targetID connID userID channelID callID : String)
  | reconnect (senderID connID newConnID userID callID : String)
  deriving DecidableEq

/-- A message without a target goes to every node but its sender. -/
def ClusterMessage.reaches (nodeID : String) : ClusterMessage → Bool
  | .connect _ targetID _ _ _ _ => nodeID = targetID
  | .reconnect senderID _ _ _ _ => nodeID ≠ senderID

namespace NodeSessions

/-- The record that a reconnecting client is taken to have had on this node. -/
def reconnecting? (sessions : NodeSessions) (connID prevConnID : String) : Option (String × SessionRecord) :=
  match sessions.get? connID with
  | some us => some (connID, us)
  | none => (sessions.get? prevConnID).map fun us => (prevConnID, us)

/-- Set the flag of a record and close its channel. -/
def reconnected (sessions : NodeSessions) (key : String) (us : SessionRecord) : NodeSessions :=
  sessions.set key { us with wsReconnected := true }

/-- `handleEvent` for the messages about connections. -/
def handleEvent (sessions : NodeSessions) : ClusterMessage → NodeSessions
  | .connect _ _ connID userID channelID callID =>
    if sessions.contains connID then sessions
    else sessions.set connID (newUserSession userID channelID connID callID true)
  | .reconnect _ connID newConnID _ _ =>
    match sessions.get? connID with
    | none => sessions
    | some us =>
      if us.wsReconnected then sessions
      else if us.rtc then sessions.set connID { us with wsReconnected := true, connID := newConnID }
      else (sessions.reconnected connID us).erase us.connID

/-- The end of the reader of a connection that was replaced by another one. -/
def clearReconnected (sessions : NodeSessions) (connID : String) : NodeSessions :=
  if (sessions.get? connID).any fun us => us.wsReconnected ∧ us.rtc = false then sessions.erase connID else sessions

end NodeSessions

/-! ### Reconnecting -/

/-- A reconnect message. Everything but the user and the connection is the client's word. -/
structure ReconnectRequest where
  userID : String
  connID : String
  channelID : String
  originalConnID : String
  prevConnID : String
  /-- The server's answer whether the user may post to the channel. -/
  permitted : Bool

/-- What a handler on one node acts on. -/
structure Node where
  world : World
  sessions : NodeSessions
  sent : List ClusterMessage

namespace Node

def onWorld {α : Type} (command : Handler α) : Command Node String α :=
  command.zoom Node.world fun world node => { node with world }

def modifySessions (change : NodeSessions → NodeSessions) : Command Node String Unit :=
  .modify fun node => { node with sessions := change node.sessions }

def sendClusterMessage (env : Env) (msg : ClusterMessage) : Command Node String Unit :=
  if env.clusterSendFails then .throw "failed to publish cluster event"
  else .modify fun node => { node with sent := node.sent ++ [msg] }

end Node

open Node

/-- The part of `handleReconnect` under the mutex of the node, and the message after it. -/
def replaceSession (env : Env) (req : ReconnectRequest) (callID : String) : Command Node String Unit := do
  let node ← .get
  let found := node.sessions.reconnecting? req.connID req.prevConnID
  Command.throwIf (found.any (·.2.wsReconnected) = true) "session already reconnected"
  Command.ifSome found fun found => modifySessions (·.reconnected found.1 found.2)
  Command.when
    ((onWorld (handleBotWSReconnect env req.connID req.prevConnID req.channelID)).mapError
      ("handleBotWSReconnect failed: " ++ ·))
    (env.isBot req.userID)
  let us :=
    { newUserSession req.userID req.channelID req.connID callID (found.any (·.2.rtc)) with
      originalConnID := req.originalConnID }
  modifySessions fun sessions => StringMap.set (sessions.erase req.originalConnID) req.connID us
  (sendClusterMessage env (.reconnect env.nodeID req.prevConnID req.connID req.userID callID)).ignoring

/-- `handleReconnect` until it starts to read from the new connection. -/
def handleReconnect (env : Env) (req : ReconnectRequest) : Command Node String Unit := do
  Command.throwIf (env.isBot req.userID = false ∧ req.permitted = false) "forbidden"
  let state ← onWorld (Handler.onStore (getCallState env req.channelID))
  match state with
  | none => .throw "no call ongoing"
  | some state => do
    Command.throwIf ((state.sessions.find? req.originalConnID).all (·.userID ≠ req.userID))
      "session not found in call state"
    replaceSession env req state.call.id

/-- The reconnect message as `WebSocketMessageHasBeenPosted` takes it. -/
def webSocketReconnect (env : Env) (req : ReconnectRequest) : Command Node String Unit := do
  Command.throwIf (req.channelID = "") "missing channelID"
  Command.throwIf (req.originalConnID = "") "missing originalConnID"
  Command.throwIf (req.prevConnID = "") "missing prevConnID"
  handleReconnect env req

/-! ### The cluster -/

structure Cluster where
  ops : Operations
  nodes : String → NodeSessions
  inFlight : List ClusterMessage

inductive ClusterStep where
  /-- A step of a join or a leave; the node of its environment runs it. -/
  | operation (step : OperationStep)
  | reconnect (env : Env) (req : ReconnectRequest)
  | deliver (nodeID : String) (msg : ClusterMessage)
  | clear (nodeID connID : String)

namespace Cluster

def idle : Cluster := ⟨.idle, fun _ => .empty, []⟩

def setNode (c : Cluster) (nodeID : String) (sessions : NodeSessions) : Cluster :=
  { c with nodes := fun other => if other = nodeID then sessions else c.nodes other }

/-- The call that a join has just added the session of a connection to. -/
def joinedCall? (before after : Operations) (channelID connID : String) : Option Call :=
  if before.world.store.sessions.contains connID then none
  else if after.world.store.sessions.contains connID then
    ((after.batch? channelID .joining).bind id).map CallState.call
  else none

/-- The record of a session that has joined, and the message to the node that has its RTC side. -/
def addRecord (c : Cluster) (env : Env) (channelID : String) (req : JoinRequest) (call : Call) : Cluster :=
  let handlerID := call.props.nodeID
  let us := newUserSession req.userID channelID req.connID call.id (env.rtcdHost = none ∧ handlerID = env.nodeID)
  let c := c.setNode env.nodeID ((c.nodes env.nodeID).set req.connID us)
  if env.rtcdHost = none ∧ handlerID ≠ env.nodeID ∧ env.clusterSendFails = false then
    { c with
      inFlight := c.inFlight ++ [.connect env.nodeID handlerID req.connID req.userID channelID call.id] }
  else c

/-- What a step of a join or a leave means for the records of its node. -/
def afterOperation (c : Cluster) (ops : Operations) : OperationStep → Cluster
  | .join env channelID req =>
    match joinedCall? c.ops ops channelID req.connID with
    | none => { c with ops }
    | some call => { c with ops }.addRecord env channelID req call
  | .leave env _ ref => { c with ops }.setNode env.nodeID ((c.nodes env.nodeID).erase ref.connID)
  | _ => { c with ops }

/-- Handle a reconnect message on its node. -/
def handle (c : Cluster) (env : Env) (req : ReconnectRequest) : Cluster :=
  let (_, node) := webSocketReconnect env req ⟨c.ops.world, c.nodes env.nodeID, []⟩
  { c.setNode env.nodeID node.sessions with
    ops := { c.ops with world := node.world }
    inFlight := c.inFlight ++ node.sent }

/-- Handle a reconnect message on its node and what it sends on every other node. -/
def handleEverywhere (c : Cluster) (env : Env) (req : ReconnectRequest) : Cluster :=
  let (_, node) := webSocketReconnect env req ⟨c.ops.world, c.nodes env.nodeID, []⟩
  { c.handle env req with
    nodes := fun nodeID =>
      if nodeID = env.nodeID then node.sessions else node.sent.foldl NodeSessions.handleEvent (c.nodes nodeID) }

/-- Whether the server has authenticated the connection of the step for its user. -/
def authentic (owner : String → String) : ClusterStep → Bool
  | .operation (.join _ _ req) => owner req.connID = req.userID
  | .reconnect _ req => owner req.connID = req.userID
  | _ => true

def next? (owner : String → String) (c : Cluster) (step : ClusterStep) : Option Cluster :=
  if authentic owner step then
    match step with
    | .operation step => (c.ops.next? step).map fun ops => c.afterOperation ops step
    | .reconnect env req =>
      -- The bot waits for the lock of the call.
      if env.isBot req.userID ∧ env.lockFails = false ∧ c.ops.held.contains req.channelID then none
      else some (c.handle env req)
    | .deliver nodeID msg =>
      if msg ∈ c.inFlight ∧ msg.reaches nodeID then some (c.setNode nodeID ((c.nodes nodeID).handleEvent msg))
      else none
    | .clear nodeID connID => some (c.setNode nodeID ((c.nodes nodeID).clearReconnected connID))
  else none

end Cluster

/-- A cluster without records yet, on a store whose sessions belong to the users of their connections. -/
def cluster (owner : String → String) : System Cluster ClusterStep where
  init c := c.ops.held = .empty ∧ (∀ session ∈ c.ops.world.store.sessions, session.userID = owner session.id) ∧
    (∀ nodeID, c.nodes nodeID = .empty) ∧ c.inFlight = []
  next? := Cluster.next? owner

end Calls
