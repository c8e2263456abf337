import Calls.Server.ListedSessions

/-! The server of calls: the rooms, together with what members ask of it about a call that they need
not be in. They dismiss its notification, and the host, or an administrator, asks things of its
sessions. None of that waits for the batches of other requests: only a dismissal takes the lock. -/

set_option autoImplicit false

namespace Calls

open Command

/-- The events that say nothing of a call itself. -/
inductive NoticeEvent where
  | userDismissedNotification (userID callID : String)
  | hostMute (channelID sessionID : String)
  | hostScreenOff (channelID sessionID : String)
  | hostLowerHand (callID channelID sessionID hostID : String)
  | hostRemoved (callID channelID sessionID userID : String)
  deriving DecidableEq

/-- One call of the server's `PublishWebSocketEvent` with such an event. -/
structure Notice where
  ev : NoticeEvent
  channelID : String := ""
  userID : String := ""
  reliableClusterSend : Bool := false
  omitUsers : List String := []
  deriving DecidableEq

def WebSocketBroadcast.notice (broadcast : WebSocketBroadcast) (ev : NoticeEvent) : Notice :=
  { ev, channelID := broadcast.channelID, userID := broadcast.userID,
    reliableClusterSend := broadcast.reliableClusterSend, omitUsers := broadcast.omitUsers }

/-- `publishWebSocketEvent` on these events, of which the bot's joins and leaves are none. -/
def publishNotice (botID : String) (ev : NoticeEvent) (broadcast : WebSocketBroadcast) : List Notice :=
  let toBot := botID ≠ "" ∧ broadcast.channelID ≠ ""
  let broadcast := if toBot then { broadcast with omitUsers := [botID] ++ broadcast.omitUsers } else broadcast
  let forBot : List Notice := if toBot then [{ ev, userID := botID }] else []
  if broadcast.userIDs.isEmpty then forBot ++ [broadcast.notice ev]
  else forBot ++ (broadcast.userIDs.filter (· ≠ botID)).map fun userID =>
    ({ broadcast with userID } : WebSocketBroadcast).notice ev

/-- A session whose RTC side is closed, with the call and the node it is closed for. -/
structure RTCClose where
  userID : String
  connID : String
  channelID : String
  handlerID : String
  callID : String
  deriving DecidableEq

structure CallServer where
  ops : Operations
  notices : List Notice
  /-- The sessions that a host has removed and that are closed by force unless they leave in time. -/
  removing : List (String × String)
  closed : List RTCClose
  deriving DecidableEq

abbrev ServerHandler := Command CallServer String

namespace ServerHandler

def onWorld {α : Type} (handler : Handler α) : ServerHandler α :=
  handler.zoom (·.ops.world) fun world server => { server with ops := { server.ops with world } }

def notify (env : Env) (ev : NoticeEvent) (broadcast : WebSocketBroadcast) : ServerHandler Unit :=
  .modify fun server => { server with notices := server.notices ++ publishNotice env.botID ev broadcast }

end ServerHandler

open ServerHandler

/-! ### Dismissals -/

/-- `state.Call.Props.DismissedNotification[userID] = true`. -/
def Call.dismissNotification (userID : String) (call : Call) : Call :=
  { call with props := { call.props with dismissedNotification := call.props.dismissedNotification.set userID true } }

def handleDismissNotification (env : Env) (userID channelID : String) : ServerHandler Unit := do
  let state ← onWorld ((lockCallReturnState env channelID).mapError ("failed to lock call: " ++ ·))
  match state with
  | none => .throw errNoCallOngoing
  | some state => do
    onWorld ((Handler.onStore (Store.updateCall env.faults (state.call.dismissNotification userID))).mapError
      ("failed to update call: " ++ ·))
    -- For now, only the user who dismissed the notification is told.
    notify env (.userDismissedNotification userID state.call.id) { userID, reliableClusterSend := true }

/-! ### What a host asks of sessions -/

/-- A request that only the host or an administrator may make of the ongoing call. -/
def asHost (env : Env) (requesterID channelID : String) (body : CallState → ServerHandler Unit) : ServerHandler Unit := do
  let state ← onWorld (Handler.onStore (getCallState env channelID))
  match state with
  | none => .throw errNoCallOngoing
  | some state =>
    if requesterID ≠ state.call.getHostID ∧ env.hasManageSystem requesterID = false then .throw errNoPermissions
    else body state

/-- The body of a request about one session of the call. -/
def ofSession (state : CallState) (sessionID : String) (body : CallSession → ServerHandler Unit) : ServerHandler Unit :=
  match state.sessions.find? sessionID with
  | none => .throw errNotInCall
  | some ust => body ust

def muteSession (env : Env) (requesterID channelID sessionID : String) : ServerHandler Unit :=
  asHost env requesterID channelID fun state => ofSession state sessionID fun ust =>
    (notify env (.hostMute channelID sessionID) { userID := ust.userID, reliableClusterSend := true }).when
      (ust.unmuted = true)

def muteOthers (env : Env) (requesterID channelID : String) : ServerHandler Unit :=
  asHost env requesterID channelID fun state => Command.forEach (env.order.visit state.sessions.rows) fun s =>
    (notify env (.hostMute channelID s.id) { userID := s.userID, reliableClusterSend := true }).when
      (s.unmuted = true ∧ s.userID ≠ requesterID)

def screenOff (env : Env) (requesterID channelID sessionID : String) : ServerHandler Unit :=
  asHost env requesterID channelID fun state =>
    if state.call.props.screenSharingSessionID ≠ sessionID then pure ()
    else ofSession state sessionID fun ust =>
      notify env (.hostScreenOff channelID sessionID) { userID := ust.userID, reliableClusterSend := true }

def lowerHand (env : Env) (requesterID channelID sessionID : String) : ServerHandler Unit :=
  asHost env requesterID channelID fun state => ofSession state sessionID fun ust =>
    (notify env (.hostLowerHand state.call.id channelID sessionID requesterID)
      { userID := ust.userID, reliableClusterSend := true }).when (ust.raisedHand ≠ 0)

/-- The notice goes to all participants, who are shown that the user was removed. -/
def hostRemoveSession (env : Env) (requesterID channelID sessionID : String) : ServerHandler Unit :=
  asHost env requesterID channelID fun state => ofSession state sessionID fun ust => do
    notify env (.hostRemoved state.call.id channelID sessionID ust.userID) (state.toParticipants channelID)
    .modify fun server => { server with removing := server.removing ++ [(channelID, sessionID)] }

/-- The goroutine of `hostRemoveSession`, a few seconds later: a session that is still there is closed. -/
def closeRemovedSession (env : Env) (channelID sessionID : String) : ServerHandler Unit := do
  let state ← (onWorld (Handler.onStore (getCallState env channelID))).attempt
  match state with
  | .ok (some state) =>
    match state.sessions.find? sessionID with
    | none => pure ()
    | some ust => .modify fun server =>
      { server with
        closed := server.closed ++ [⟨ust.userID, sessionID, channelID, state.call.props.nodeID, state.call.id⟩] }
  | _ => pure ()

inductive HostControl where
  | muteSession (sessionID : String)
  | muteOthers
  | screenOff (sessionID : String)
  | lowerHand (sessionID : String)
  | removeSession (sessionID : String)
  deriving DecidableEq

def HostControl.handle (env : Env) (requesterID channelID : String) : HostControl → ServerHandler Unit
  | muteSession sessionID => Calls.muteSession env requesterID channelID sessionID
  | muteOthers => Calls.muteOthers env requesterID channelID
  | screenOff sessionID => Calls.screenOff env requesterID channelID sessionID
  | lowerHand sessionID => Calls.lowerHand env requesterID channelID sessionID
  | removeSession sessionID => Calls.hostRemoveSession env requesterID channelID sessionID

/-! ### The system -/

inductive ServerStep where
  | room (step : RoomStep)
  | dismiss (env : Env) (userID channelID : String)
  | control (env : Env) (requesterID channelID : String) (control : HostControl)
  | closeRemoved (env : Env) (channelID sessionID : String)

/-- The bot is known, and requests come from users who are logged in. -/
def ServerStep.authentic (ids : Identities) : ServerStep → Bool
  | room step => step.authentic ids
  | dismiss env userID _ => env.botID = ids.botID ∧ userID ≠ ""
  | control env requesterID _ _ => env.botID = ids.botID ∧ requesterID ≠ ""
  | closeRemoved env _ _ => env.botID = ids.botID

namespace CallServer

def idle : CallServer := ⟨.idle, [], [], []⟩

def next? (server : CallServer) : ServerStep → Option CallServer
  | .room step => (server.ops.room? step).map fun ops => { server with ops }
  | .dismiss env userID channelID =>
    if server.ops.held.contains channelID then none
    else some (handleDismissNotification env userID channelID server).2
  | .control env requesterID channelID control => some (control.handle env requesterID channelID server).2
  | .closeRemoved env channelID sessionID =>
    if (channelID, sessionID) ∈ server.removing then
      some (closeRemovedSession env channelID sessionID
        { server with removing := server.removing.erase (channelID, sessionID) }).2
    else none

end CallServer

def callServer (ids : Identities) : System CallServer ServerStep where
  init server := server = .idle
  next? server step := if step.authentic ids then server.next? step else none

/-- Every store operation of what a session does succeeds. -/
def ServerServes (server : CallServer) : ServerStep → Prop
  | .room step => RoomServes server.ops step
  | .dismiss _ _ _ | .control _ _ _ _ | .closeRemoved _ _ _ => True

end Calls
