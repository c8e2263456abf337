import Calls.Server.Operations

/-! Screen sharing. A message to start or stop it waits in the channel of its
session until the reader of the session handles it, under the lock of the call
and on a state loaded for the occasion. -/

set_option autoImplicit false

namespace Calls

/-- What a node keeps of a session for as long as its reader runs. -/
structure UserSession where
  userID : String
  channelID : String
  connID : String
  originalConnID : String
  callID : String
  deriving DecidableEq

inductive ScreenMessage where
  | on
  | off
  deriving DecidableEq

/-- The call after a message of the given session, if it is accepted. -/
def Call.toggleScreen (now : Instant) (sessionID : String) (call : Call) : ScreenMessage → Except String Call
  | .on =>
    if call.props.screenSharingSessionID ≠ "" then
      .error ("cannot start screen sharing, someone else is sharing already: connID=" ++
        call.props.screenSharingSessionID)
    else
      .ok
        { call with
          props := { call.props with screenSharingSessionID := sessionID, screenStartAt := now.unix }
          stats := { call.stats with hasUsedScreenShare := true } }
  | .off =>
    if call.props.screenSharingSessionID ≠ sessionID then
      .error ("cannot stop screen sharing, someone else is sharing already: connID=" ++
        call.props.screenSharingSessionID)
    else
      let props := { call.props with screenSharingSessionID := "" }
      if 0 < props.screenStartAt then
        .ok
          { call with
            props := { props with screenStartAt := 0 }
            -- The time of earlier screens is overwritten here, not added to.
            stats := { call.stats with screenDuration := secondsSinceTimestamp now props.screenStartAt } }
      else .ok { call with props }

def ScreenMessage.event (us : UserSession) : ScreenMessage → WsEvent
  | .on => .userScreenOn us.userID us.originalConnID
  | .off => .userScreenOff (some us.userID) (some us.originalConnID)

/-- What goes to the RTC side or to the node that has it is not part of the world. -/
def handleClientMessageTypeScreen (env : Env) (us : UserSession) (msg : ScreenMessage) (handlerID : String) :
    Handler Unit :=
  if env.config.allowScreenSharing ≠ some true then .throw "screen sharing is not allowed"
  else do
    let state ← (lockCallReturnState env us.channelID).mapError ("failed to lock call: " ++ ·)
    match state with
    | none => .throw "no call ongoing"
    | some state =>
      match state.call.toggleScreen env.now us.originalConnID msg with
      | .error err => .throw err
      | .ok call => do
        (Handler.onStore (Store.updateCall env.faults call)).mapError ("failed to update call: " ++ ·)
        Command.throwIf (handlerID ≠ env.nodeID ∧ env.clusterSendFails = true) "failed to send cluster message"
        Handler.publish env (msg.event us) (state.toParticipants us.channelID)

/-! ### The readers of the sessions -/

/-- Joins and leaves together with the sessions that readers run for and the
messages in their channels, oldest first. -/
structure Readers where
  ops : Operations
  sessions : List UserSession
  queued : List (UserSession × ScreenMessage)
  deriving DecidableEq

inductive ReaderStep where
  | operation (step : OperationStep)
  /-- A message arrives and is put into the channel of its session. -/
  | post (us : UserSession) (msg : ScreenMessage)
  /-- The reader of a session takes the next message out of the channel and handles it. -/
  | read (env : Env) (us : UserSession) (msg : ScreenMessage) (handlerID : String)

def OperationStep.channelID : OperationStep → String
  | .lock _ channelID _ | .join _ channelID _ | .leave _ channelID _ | .unlock channelID => channelID

namespace Readers

def idle : Readers := ⟨.idle, [], []⟩

/-- The sessions whose readers a step starts. A reader is not stopped by the
removal of its session: it may take another message before it sees that it is to end. -/
def started (channelID : String) (before after : Store) : List UserSession :=
  (after.sessions.rows.filter fun session => session ∉ before.sessions.rows).map fun session =>
    { userID := session.userID, channelID, connID := session.id, originalConnID := session.id,
      callID := session.callID }

def next? (readers : Readers) : ReaderStep → Option Readers
  | .operation step => (readers.ops.next? step).map fun ops =>
    { readers with
      ops
      sessions := readers.sessions ++ started step.channelID readers.ops.world.store ops.world.store }
  | .post us msg =>
    if us ∈ readers.sessions then some { readers with queued := readers.queued ++ [(us, msg)] } else none
  | .read env us msg handlerID =>
    if readers.queued.find? (·.1 = us) = some (us, msg) ∧ readers.ops.held.contains us.channelID = false then
      let (_, world) := handleClientMessageTypeScreen env us msg handlerID readers.ops.world
      some
        { readers with
          ops := { readers.ops with world }
          queued := readers.queued.eraseP (·.1 = us) }
    else none

end Readers

/-- Joins, leaves and messages about screens, from a store on which nothing is under way yet. -/
def screenSharing (start : Store → Prop) : System Readers ReaderStep where
  init readers := readers.ops.held = .empty ∧ start readers.ops.world.store ∧ readers.sessions = [] ∧
    readers.queued = []
  next? := Readers.next?

def ReaderStep.env? : ReaderStep → Option Env
  | .operation step => step.env?
  | .post _ _ => none
  | .read env _ _ _ => some env

end Calls
