import Mathlib.Data.Option.Basic
import Calls.Library.System

/-! The connection of a client to the server. Every attempt to connect has its socket, and what
a socket does when it opens depends on whether the attempt was made after a failure. -/

set_option autoImplicit false

namespace Calls.Webapp

def wsMinReconnectRetryTimeMs : Int := 1000
def wsReconnectionTimeout : Int := 30000
def wsReconnectTimeIncrement : Int := 500

inductive WebSocketErrorType where
  | native
  | join
  | reconnectTimeout
  deriving DecidableEq

inductive ReadyState where
  | connecting
  | opened
  | closing
  | closed
  deriving DecidableEq

/-- A sequence number that is `none` is not a number. -/
structure Socket where
  connectionID : String
  sequenceNumber : Option Int
  isReconnect : Bool
  readyState : ReadyState := .connecting
  /-- Whether the handler of its closing is still attached. -/
  onclose : Bool := true
  deriving DecidableEq

structure MessageData where
  connectionID : String
  connID : String
  data : String
  deriving DecidableEq

inductive ServerMessage where
  | reply (seqReply : Int)
  | event (seq : Int) (event : String) (data : Option MessageData)
  deriving DecidableEq

/-- What the client emits to those who listen. -/
inductive Emission where
  | opened (originalConnID prevConnID : String) (isReconnect : Bool)
  | close (code : Nat)
  | error (type : WebSocketErrorType) (message : String)
  | event (event : String) (data : MessageData)
  | join
  | message (data : MessageData)
  deriving DecidableEq

/-- What is sent to the server. -/
inductive Request where
  | authenticationChallenge (token : String)
  | ping
  | join
  | reconnect (originalConnID prevConnID : String)
  | leave
  deriving DecidableEq

/-- The client, with the calls client that listens to it. `ws` is the place of its socket. -/
structure WebSocketClient where
  authToken : String
  ws : Option Nat := none
  sockets : List Socket := []
  seqNo : Int := 1
  serverSeqNo : Option Int := some 0
  connID : String := ""
  originalConnID : String := ""
  lastDisconnect : Int := 0
  reconnectRetryTime : Int := wsMinReconnectRetryTimeMs
  closed : Bool := false
  pingInterval : Bool := false
  waitingForPong : Bool := false
  expectedPongSeqNo : Int := 0
  /-- The attempts that a timer is to make. -/
  retries : Nat := 0
  /-- Whether the calls client listens. -/
  listening : Bool := true
  /-- Whether the calls client is to leave once the connection opens. -/
  leavesOnOpen : Bool := false
  /-- Whether the calls client was disconnected. -/
  disconnected : Bool := false
  emitted : List Emission := []
  sent : List (Int × Request) := []
  deriving DecidableEq

def Socket.isLive (socket : Socket) : Bool := socket.readyState = .connecting ∨ socket.readyState = .opened

/-- What `close` makes of a socket at once. -/
def Socket.close (socket : Socket) : Socket := { socket with readyState := if socket.isLive then .closing else socket.readyState }

namespace WebSocketClient

def socket? (client : WebSocketClient) : Option Socket := client.ws.bind (client.sockets[·]?)

/-- The state of the client's socket; without one it is as if it were closed. -/
def readyState (client : WebSocketClient) : ReadyState := (client.socket?.map Socket.readyState).getD .closed

def updateSocket (place : Nat) (update : Socket → Socket) (client : WebSocketClient) : WebSocketClient :=
  { client with sockets := client.sockets.modify place update }

def onSocket (update : Socket → Socket) (client : WebSocketClient) : WebSocketClient :=
  match client.ws with
  | none => client
  | some place => client.updateSocket place update

def emit (emission : Emission) (client : WebSocketClient) : WebSocketClient :=
  { client with emitted := client.emitted ++ [emission] }

def init (isReconnect : Bool) (client : WebSocketClient) : WebSocketClient :=
  if client.closed then client
  else
    { client with
      ws := some client.sockets.length
      sockets := client.sockets ++ [{ connectionID := client.connID, sequenceNumber := client.serverSeqNo, isReconnect }] }

/-- A message that is sent while the socket is not open is lost. -/
def send (request : Request) (client : WebSocketClient) : WebSocketClient :=
  { client with
    seqNo := client.seqNo + 1
    sent := if client.readyState = .opened then client.sent ++ [(client.seqNo, request)] else client.sent }

def ping (client : WebSocketClient) : WebSocketClient :=
  if client.readyState = .opened then
    { client with waitingForPong := true, expectedPongSeqNo := client.seqNo }.send .ping
  else client

def stopPingInterval (client : WebSocketClient) : WebSocketClient :=
  if client.pingInterval then { client with pingInterval := false, waitingForPong := false, expectedPongSeqNo := 0 } else client

def startPingInterval (client : WebSocketClient) : WebSocketClient :=
  if client.closed then client else { client.stopPingInterval with pingInterval := true }

def close (client : WebSocketClient) : WebSocketClient :=
  { ({ client with closed := true }.stopPingInterval.onSocket Socket.close) with
    ws := none, seqNo := 1, serverSeqNo := some 0, expectedPongSeqNo := 0, connID := "", originalConnID := "", listening := false
    leavesOnOpen := false }

def sendLeaveAndClose (client : WebSocketClient) : WebSocketClient :=
  match client.readyState with
  | .closing | .closed => client.close
  | .opened => (client.send .leave).close
  | .connecting => { client with closed := true, leavesOnOpen := true }

/-- `disconnect` of the calls client. -/
def disconnect (client : WebSocketClient) : WebSocketClient :=
  if client.disconnected then client else { client with disconnected := true }.sendLeaveAndClose

/-- The calls client hears of an error. -/
def emitError (type : WebSocketErrorType) (message : String) (client : WebSocketClient) : WebSocketClient :=
  let client := client.emit (.error type message)
  if client.listening ∧ type ≠ .native then client.disconnect else client

/-- The calls client hears that the connection is open: it joins the call, or reconnects to it. -/
def announceOpen (originalConnID prevConnID : String) (isReconnect : Bool) (client : WebSocketClient) : WebSocketClient :=
  let client := client.emit (.opened originalConnID prevConnID isReconnect)
  if client.listening then client.send (if isReconnect then .reconnect originalConnID prevConnID else .join) else client

def emitOpen (originalConnID prevConnID : String) (isReconnect : Bool) (client : WebSocketClient) : WebSocketClient :=
  let client := client.announceOpen originalConnID prevConnID isReconnect
  if client.leavesOnOpen then ({ client with leavesOnOpen := false }.send .leave).close else client

def reconnect (now : Int) (client : WebSocketClient) : WebSocketClient :=
  let client := if client.lastDisconnect = 0 then { client with lastDisconnect := now } else client
  if wsReconnectionTimeout ≤ now - client.lastDisconnect then
    { client with closed := true }.emitError .reconnectTimeout "max disconnected time reached"
  else { client with retries := client.retries + 1, reconnectRetryTime := client.reconnectRetryTime + wsReconnectTimeIncrement }

def closeHandler (code : Nat) (now : Int) (client : WebSocketClient) : WebSocketClient :=
  let client := client.stopPingInterval.emit (.close code)
  if client.closed then client else client.reconnect now

/-- `onopen` of the socket of an attempt. -/
def onopen (isReconnect : Bool) (client : WebSocketClient) : WebSocketClient :=
  let client := if client.authToken = "" then client else client.send (.authenticationChallenge client.authToken)
  let client :=
    if isReconnect then
      { client with lastDisconnect := 0, reconnectRetryTime := wsMinReconnectRetryTimeMs }.emitOpen
        client.originalConnID client.connID true
    else client
  client.startPingInterval.ping

/-- The client learns its connection, which is the original one if it knew none. -/
def setConnID (connectionID : String) (client : WebSocketClient) : WebSocketClient :=
  { client with
    connID := connectionID, serverSeqNo := some 0, seqNo := 1
    originalConnID := if client.originalConnID = "" then connectionID else client.originalConnID }

def eventPrefix : String := "custom_com.mattermost.calls"

/-- `onmessage` of the socket of an attempt. -/
def onmessage (isReconnect : Bool) (message : ServerMessage) (client : WebSocketClient) : WebSocketClient :=
  match message with
  | .reply seqReply =>
    if client.waitingForPong ∧ seqReply = client.expectedPongSeqNo then
      { client with waitingForPong := false, expectedPongSeqNo := 0 }
    -- A reply has no sequence number of its own.
    else { client with serverSeqNo := none }
  | .event seq event data? =>
    let client := { client with serverSeqNo := some (seq + 1) }
    match data? with
    | none => client
    | some data =>
      if event = "" then client
      else if event = "hello" then
        let client := if data.connectionID ≠ client.connID then (client.setConnID data.connectionID).emit (.event event data) else client
        if isReconnect then client else client.emitOpen client.originalConnID client.connID false
      else if client.connID = "" then client
      else
        let client := client.emit (.event event data)
        if data.connID ≠ client.connID ∧ data.connID ≠ client.originalConnID then client
        else if event = eventPrefix ++ "_join" then client.emit .join
        else if event = eventPrefix ++ "_error" then client.emitError .join data.data
        else if event = eventPrefix ++ "_signal" then client.emit (.message data)
        else client

/-- The timer of the pings has fired. -/
def pingTick (now : Int) (client : WebSocketClient) : WebSocketClient :=
  if client.waitingForPong ∧ client.ws ≠ none then
    (client.onSocket fun socket => { socket.close with onclose := false }).closeHandler 4000 now
  else client.ping

/-- The timer of a new attempt has fired. -/
def retry (client : WebSocketClient) : WebSocketClient :=
  let client := { client with retries := client.retries - 1 }
  if client.closed then client else client.init true

end WebSocketClient

/-- What happens to the client; the sockets are named by the places of their attempts. -/
inductive SocketStep where
  | opened (place : Nat)
  | received (place : Nat) (message : ServerMessage)
  | errored (place : Nat)
  /-- The connection goes down; its closing is told of later. -/
  | closing (place : Nat)
  | closed (place : Nat) (code : Nat) (now : Int)
  | pingTick (now : Int)
  | retry
  /-- The calls client disconnects. -/
  | disconnect

namespace WebSocketClient

def next? (client : WebSocketClient) : SocketStep → Option WebSocketClient
  | .opened place => do
    let socket ← client.sockets[place]?
    guard (socket.readyState = .connecting)
    return (client.updateSocket place fun socket => { socket with readyState := .opened }).onopen socket.isReconnect
  | .received place message => do
    let socket ← client.sockets[place]?
    guard (socket.readyState = .opened)
    return client.onmessage socket.isReconnect message
  | .errored place => do
    let _ ← client.sockets[place]?
    return client.emitError .native "websocket error"
  | .closing place => do
    let socket ← client.sockets[place]?
    guard socket.isLive
    return client.updateSocket place Socket.close
  | .closed place code now => do
    let socket ← client.sockets[place]?
    guard (socket.readyState ≠ .closed)
    let client := client.updateSocket place fun socket => { socket with readyState := .closed }
    return if socket.onclose then client.closeHandler code now else client
  | .pingTick now => do
    guard client.pingInterval
    return client.pingTick now
  | .retry => do
    guard (0 < client.retries)
    return client.retry
  | .disconnect => some client.disconnect

end WebSocketClient

end Calls.Webapp
