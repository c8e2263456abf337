import Calls.Server.Roaming

/-! What clients and the RTC side of their sessions tell each other. A message of a
client waits for the reader of its session, which tells the RTC side or sends the
message on to the node that has it. What the RTC side has for a session goes to
the connection that an object of the session names. -/

set_option autoImplicit false

namespace Calls

inductive ClientMessageType where
  | join | leave | reconnect | sdp | ice | mute | unmute | voiceOn | voiceOff | screenOn | screenOff
  | videoOn | videoOff | raiseHand | unraiseHand | react | caption | metric | callState | ping
  deriving DecidableEq

inductive RTCMessageType where
  | sdp | ice | mute | unmute | screenOn | screenOff | videoOn | videoOff
  deriving DecidableEq

/-- The cluster messages that carry a message of a client. -/
inductive RelayType where
  | signaling | userState
  deriving DecidableEq

namespace ClientMessageType

/-- The other messages are handled at once, or by a goroutine of their own. -/
def queued : ClientMessageType → Bool
  | .join | .leave | .reconnect | .caption | .metric | .callState | .ping => false
  | _ => true

def needsData : ClientMessageType → Bool
  | .sdp | .ice | .screenOn | .videoOn | .react => true
  | _ => false

/-- `msg.Data`, from what the request has as the data of its message. -/
def data? (type : ClientMessageType) (data : Option (List UInt8)) : Option (List UInt8) :=
  if type.needsData then data else some []

/-- What `handleClientMsg` tells the RTC side, if that is on the same node. -/
def rtcType? : ClientMessageType → Option RTCMessageType
  | .sdp => some .sdp
  | .ice => some .ice
  | .mute => some .mute
  | .unmute => some .unmute
  | .screenOn => some .screenOn
  | .screenOff => some .screenOff
  | .videoOn => some .videoOn
  | .videoOff => some .videoOff
  | _ => none

/-- What `handleClientMsg` sends the message with, if the RTC side is on another node. -/
def relayType? : ClientMessageType → Option RelayType
  | .sdp | .ice => some .signaling
  | .mute | .unmute | .screenOn | .screenOff | .videoOn | .videoOff => some .userState
  | _ => none

end ClientMessageType

/-- What `handleEvent` of the other node tells the RTC side. -/
def RelayType.rtcType? : RelayType → ClientMessageType → Option RTCMessageType
  | .signaling, .sdp => some .sdp
  | .signaling, .ice => some .ice
  | .userState, .mute => some .mute
  | .userState, .unmute => some .unmute
  | .userState, .screenOn => some .screenOn
  | .userState, .screenOff => some .screenOff
  | .userState, .videoOn => some .videoOn
  | .userState, .videoOff => some .videoOff
  | _, _ => none

/-- Both ways tell the RTC side the same. -/
theorem RelayType.rtcType?_eq {type : ClientMessageType} {relay : RelayType} (relayed : type.relayType? = some relay) :
    relay.rtcType? type = type.rtcType? := by
  cases type <;> cases relayed <;> rfl

/-- A message that waits for a reader: who has posted it on which connection, and
the node and the object by whose reader it will be read. Messages are numbered. -/
structure PostedMessage where
  number : Nat
  userID : String
  connID : String
  nodeID : String
  us : Nat
  type : ClientMessageType
  data : List UInt8
  deriving DecidableEq

/-- The cluster message for a message of a client. -/
structure RelayedMessage where
  type : RelayType
  targetID : String
  connID : String
  userID : String
  channelID : String
  callID : String
  senderID : String
  clientMessage : PostedMessage
  deriving DecidableEq

/-- What the RTC side is told, by the node that has read the message or by the one it was sent to. -/
structure RTCMessage where
  nodeID : String
  sessionID : String
  type : RTCMessageType
  message : PostedMessage
  relayed : Bool
  deriving DecidableEq

/-- A signal event is for one connection, and names the session it is about. -/
structure SignalEvent where
  connectionID : String
  sessionID : String
  deriving DecidableEq

def msgChSize : Nat := 50

namespace NodeRecords

/-- `getSessionByOriginalID`, where the loop over the map comes to `key` first of those that match. -/
def getSessionByOriginalID? (node : NodeRecords) (sessionID key : String) : Option SessionObject :=
  match node.at? sessionID with
  | some us => some us
  | none => (node.at? key).filter fun us => us.originalConnID = sessionID

end NodeRecords

/-- The nodes with the messages of clients: those that wait in the channels of the
session objects, those on their way to another node, and those that the RTC side
was told; the signals that went out, and the user of each row of `calls_sessions`. -/
structure Signalling where
  records : RecordsCluster
  callsSessions : StringMap String
  wsMsgCh : String → Nat → List PostedMessage
  relayed : List RelayedMessage
  told : List RTCMessage
  signals : List SignalEvent
  posted : Nat

inductive SignallingStep where
  | act (nodeID : String) (step : RecordStep)
  | deliver (nodeID senderID : String) (number : Nat)
  /-- A session leaves its call. -/
  | leaveCall (sessionID : String)
  | post (nodeID userID connID : String) (type : ClientMessageType) (data : Option (List UInt8)) (limited : Bool)
  | read (nodeID : String) (us : Nat) (handlerID : String) (granted sends : Bool)
  | deliverRelayed (place : Nat) (key : String) (sends : Bool)
  | signal (nodeID sessionID key : String)

namespace Signalling

def idle : Signalling := ⟨.idle, .empty, fun _ _ => [], [], [], [], 0⟩

/-- The channel of one object. -/
def setChannel (s : Signalling) (nodeID : String) (us : Nat) (messages : List PostedMessage) : Signalling :=
  { s with wsMsgCh := Function.update s.wsMsgCh nodeID (Function.update (s.wsMsgCh nodeID) us messages) }

/-- `WebSocketMessageHasBeenPosted` for the messages that a reader takes. -/
def webSocketMessageHasBeenPosted (s : Signalling) (nodeID userID connID : String) (type : ClientMessageType)
    (data : Option (List UInt8)) (limited : Bool) : Signalling :=
  match (s.records.nodes nodeID).sessions.get? connID, type.data? data with
  | some us, some data =>
    if type.queued = true ∧ limited = false ∧ (s.wsMsgCh nodeID us).length < 2 * msgChSize then
      { s.setChannel nodeID us (s.wsMsgCh nodeID us ++ [⟨s.posted, userID, connID, nodeID, us, type, data⟩]) with
        posted := s.posted + 1 }
    else s
  | _, _ => s

/-- `sendRTCMessage`, which may fail. -/
def sendRTCMessage (s : Signalling) (message : RTCMessage) (sends : Bool) : Signalling :=
  if sends then { s with told := s.told ++ [message] } else s

def sendClusterMessage (s : Signalling) (message : RelayedMessage) (sends : Bool) : Signalling :=
  if sends then { s with relayed := s.relayed ++ [message] } else s

/-- `handleClientMsg`, as far as the RTC side hears of it. A message about the screen
or the camera may be refused before. -/
def handleClientMsg (s : Signalling) (nodeID : String) (us : SessionObject) (message : PostedMessage) (handlerID : String)
    (granted sends : Bool) : Signalling :=
  match message.type.relayType?, message.type.rtcType? with
  | some relay, some type =>
    if granted = false then s
    else if handlerID ≠ nodeID then
      s.sendClusterMessage
        { type := relay
          targetID := handlerID
          connID := us.originalConnID
          userID := us.userID
          channelID := us.channelID
          callID := us.callID
          senderID := nodeID
          clientMessage := message } sends
    else s.sendRTCMessage ⟨nodeID, us.originalConnID, type, message, false⟩ sends
  | _, _ => s

/-- `handleEvent` for a message of a client, on the node it was sent to. -/
def handleRelayed (s : Signalling) (message : RelayedMessage) (key : String) (sends : Bool) : Signalling :=
  match (s.records.nodes message.targetID).getSessionByOriginalID? message.connID key,
    message.type.rtcType? message.clientMessage.type with
  | some us, some type =>
    s.sendRTCMessage ⟨message.targetID, us.originalConnID, type, message.clientMessage, true⟩ sends
  | _, _ => s

/-- `wsWriter`, or `handleClientMsg` of the RTCD manager, with what the RTC side has for a session. -/
def writeSignal (s : Signalling) (nodeID sessionID key : String) : Signalling :=
  match (s.records.nodes nodeID).getSessionByOriginalID? sessionID key with
  | some us => { s with signals := s.signals ++ [⟨us.connID, sessionID⟩] }
  | none => s

/-- The rows of the sessions after a step that adds one. -/
def addRow (rows : StringMap String) : Option (Joiner × Added) → StringMap String
  | some (joiner, _) => rows.set joiner.connID joiner.userID
  | none => rows

/-- What a handler finds before it acts: the server vouches for the user of a connection,
and a client comes back to a session of its own that is in the call. -/
def admits (owner : String → String) (s : Signalling) : RecordStep → Bool
  | .join joiner _ _ => owner joiner.connID = joiner.userID
  | .reconnect req _ _ _ => owner req.connID = req.userID ∧ s.callsSessions.get? req.originalConnID = some req.userID
  | _ => true

def next? (owner : String → String) (s : Signalling) : SignallingStep → Option Signalling
  | .act nodeID step =>
    if admits owner s step then
      (s.records.next? (.act nodeID step)).map fun records =>
        { s with records, callsSessions := addRow s.callsSessions ((s.records.nodes nodeID).adds? step) }
    else none
  | .deliver nodeID senderID number =>
    (s.records.next? (.deliver nodeID senderID number)).map fun records => { s with records }
  | .leaveCall sessionID => some { s with callsSessions := s.callsSessions.erase sessionID }
  | .post nodeID userID connID type data limited =>
    if owner connID = userID then some (s.webSocketMessageHasBeenPosted nodeID userID connID type data limited) else none
  | .read nodeID us handlerID granted sends =>
    -- A message without a target would go to all nodes, but the handler of a call is always one node.
    if handlerID = "" ∧ nodeID ≠ "" then none
    else
      match (s.records.nodes nodeID).objects[us]?, s.wsMsgCh nodeID us with
      | some object, message :: waiting =>
        some ((s.setChannel nodeID us waiting).handleClientMsg nodeID object message handlerID granted sends)
      | _, _ => none
  | .deliverRelayed place key sends =>
    (s.relayed[place]?).map fun message =>
      { s with relayed := s.relayed.eraseIdx place }.handleRelayed message key sends
  | .signal nodeID sessionID key => some (s.writeSignal nodeID sessionID key)

end Signalling

/-- Nodes without sessions yet. -/
def signalling (owner : String → String) : System Signalling SignallingStep where
  init s := s = .idle
  next? := Signalling.next? owner

end Calls
