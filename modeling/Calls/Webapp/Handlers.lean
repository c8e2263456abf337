import Calls.Server.World
import Calls.Webapp.Reducers

/-! What the client dispatches for the events that reach it. -/

set_option autoImplicit false

namespace Calls.Webapp

/-- What a handler reads besides the state. -/
structure Client where
  /-- The channel of the call that the client is in, if any. -/
  channelIDForCurrentCall : String
  now : Int

namespace PluginState

def numSessionsInCallInChannel (state : PluginState) (channelID : String) : Nat :=
  ((state.sessions.get? channelID).getD .empty).size

/-- The client also disconnects if this is the call that it is in. -/
def callEnd (channelID : String) (state : PluginState) : PluginState :=
  let callID := ((state.calls.get? channelID).map CallState.id).getD ""
  state.dispatch (.callEnd channelID callID)

def userLeft (channelID userID sessionID : String) (state : PluginState) : PluginState :=
  let state := state.dispatch (.userLeft channelID userID sessionID)
  if state.numSessionsInCallInChannel channelID = 0 then state.callEnd channelID else state

def hostChangeAtForCurrentCall (client : Client) (state : PluginState) : Int :=
  ((state.hosts.get? client.channelIDForCurrentCall).map HostState.hostChangeAt).getD 0

end PluginState

def UserSessionState.ofSession (session : UserStateClient) : UserSessionState :=
  { sessionID := some session.sessionID, userID := some session.userID, unmuted := some session.unmuted,
    video := some session.video, raisedHand := some session.raisedHand }

def getSessionsMapFromSessions (sessions : List UserStateClient) : StringMap UserSessionState :=
  sessions.foldl (fun map session => map.set session.sessionID (.ofSession session)) .empty

def loadCallState (client : Client) (channelID : String) (call : CallStateClient) (state : PluginState) : PluginState :=
  let hostChangeAt :=
    if state.hostChangeAtForCurrentCall client = 0 then call.startAt else state.hostChangeAtForCurrentCall client
  [.callState { id := call.id, channelID, startAt := call.startAt, ownerID := call.ownerID, threadID := call.threadID },
    .userScreenOn channelID call.screenSharingSessionID,
    .callHost channelID call.hostID hostChangeAt,
    .usersStates channelID (getSessionsMapFromSessions call.sessions)].foldl .dispatch state

/-- `ev.data.channelID || ev.broadcast.channel_id`. -/
def channelOf (broadcast : String) : WsEvent → String
  | .callStart _ channelID _ _ _ _ _ => if channelID = "" then broadcast else channelID
  | .callState channelID _ => channelID
  | _ => broadcast

/-- The handlers of the events that the client listens to. -/
def handleEvent (client : Client) (broadcast : String) (ev : WsEvent) (state : PluginState) : PluginState :=
  let channelID := channelOf broadcast ev
  match ev with
  | .callEnd => state.callEnd channelID
  | .callState _ call => loadCallState client channelID call state
  | .callStart id _ startAt threadID _ ownerID hostID =>
    (state.dispatch (.callState { id, channelID, startAt, ownerID, threadID })).dispatch (.callHost channelID hostID startAt)
  | .userJoined userID sessionID => state.dispatch (.userJoined channelID userID sessionID)
  | .userLeft userID sessionID => state.userLeft channelID userID sessionID
  | .userMuted userID sessionID => state.dispatch (.userMuted channelID userID sessionID)
  | .userUnmuted userID sessionID => state.dispatch (.userUnmuted channelID userID sessionID)
  | .userVoiceOn userID sessionID => state.dispatch (.userVoiceOn channelID userID sessionID)
  | .userVoiceOff userID sessionID => state.dispatch (.userVoiceOff channelID userID sessionID)
  | .userScreenOn _ sessionID => state.dispatch (.userScreenOn channelID sessionID)
  | .userScreenOff _ sessionID => state.dispatch (.userScreenOff channelID sessionID)
  | .userRaiseHand userID sessionID raisedHand => state.dispatch (.userRaiseHand channelID userID sessionID raisedHand)
  | .userUnraiseHand userID sessionID raisedHand => state.dispatch (.userLowerHand channelID userID sessionID raisedHand)
  | .userReacted userID sessionID timestamp =>
    if client.channelIDForCurrentCall ≠ channelID then state
    else state.dispatch (.userReacted channelID userID sessionID ⟨timestamp⟩)
  | .callHostChanged hostID _ => state.dispatch (.callHost channelID hostID client.now)
  | .userVideoOn userID sessionID => state.dispatch (.userVideoOn channelID userID sessionID)
  | .userVideoOff userID sessionID => state.dispatch (.userVideoOff channelID userID sessionID)
  -- Joins and errors are for the connection itself; jobs have reducers of their own.
  | .join _ | .error _ _ | .callJobState _ _ | .jobStop _ => state

end Calls.Webapp
