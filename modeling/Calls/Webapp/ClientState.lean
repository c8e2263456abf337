import Calls.Webapp.Handlers

/-! The rest of the client's state about calls: the jobs of recordings and live captions, the
calls whose notification was dismissed, and the calls that come in. -/

set_option autoImplicit false

namespace Calls.Webapp

/-- What is known of a job. The time of an error and the dismissal of the prompt are the client's own. -/
structure CallJobReduxState where
  type : Option JobType := none
  initAt : Option Int := none
  startAt : Option Int := none
  endAt : Option Int := none
  err : Option String := none
  errorAt : Option Int := none
  promptDismissedAt : Option Int := none
  deriving DecidableEq

namespace CallJobReduxState

/-- `{...old, ...new}`: a field that the new object lacks keeps its old value. -/
def merge (old new : CallJobReduxState) : CallJobReduxState :=
  { type := new.type <|> old.type
    initAt := new.initAt <|> old.initAt
    startAt := new.startAt <|> old.startAt
    endAt := new.endAt <|> old.endAt
    err := new.err <|> old.err
    errorAt := new.errorAt <|> old.errorAt
    promptDismissedAt := new.promptDismissedAt <|> old.promptDismissedAt }

/-- A job as the state of a call has it: an error that is empty is left out. -/
def ofSnapshot (job : JobStateClient) : CallJobReduxState :=
  { type := some job.type, initAt := some job.initAt, startAt := some job.startAt, endAt := some job.endAt
    err := if job.err = "" then none else some job.err }

/-- A job as an event tells of it, with the time at which the client hears of an error. -/
def ofEvent (now : Int) (job : JobStateClient) : CallJobReduxState :=
  { type := some job.type, initAt := some job.initAt, startAt := some job.startAt, endAt := some job.endAt
    err := some job.err, errorAt := if job.err = "" then none else some now }

end CallJobReduxState

abbrev CallsJobState := StringMap CallJobReduxState

inductive ChannelType where
  | dm
  | gm
  deriving DecidableEq

structure IncomingCallNotification where
  callID : String
  channelID : String
  callerID : String
  startAt : Int
  type : ChannelType
  deriving DecidableEq

inductive ClientAction where
  | plugin (action : Action)
  | receivedChannelState (id : String) (enabled : Option Bool)
  | localSessionClose (channelID : String)
  | callRecordingState (callID : String) (jobState : Option CallJobReduxState)
  | callRecPromptDismissed (callID : String) (dismissedAt : Int)
  | callLiveCaptionsState (callID : String) (jobState : Option CallJobReduxState)
  | dismissCall (callID : String)
  | addIncomingCall (call : IncomingCallNotification)
  | removeIncomingCall (callID : String)

/-- `{...state[callID], ...jobState}`; a job that is `null` spreads nothing. -/
def mergeJob (state : CallsJobState) (callID : String) (jobState : Option CallJobReduxState) : CallsJobState :=
  state.set callID (((state.get? callID).getD {}).merge (jobState.getD {}))

def channels (state : StringMap (Option Bool)) : ClientAction → StringMap (Option Bool)
  | .receivedChannelState id enabled => state.set id enabled
  | _ => state

def recordings (state : CallsJobState) : ClientAction → CallsJobState
  | .plugin .uninit => .empty
  | .localSessionClose channelID => state.erase channelID
  | .callRecordingState callID jobState => mergeJob state callID jobState
  | .callRecPromptDismissed callID dismissedAt => mergeJob state callID (some { promptDismissedAt := some dismissedAt })
  | _ => state

def callLiveCaptionsState (state : CallsJobState) : ClientAction → CallsJobState
  | .callLiveCaptionsState callID jobState => mergeJob state callID jobState
  | _ => state

def dismissedCalls (state : StringMap Bool) : ClientAction → StringMap Bool
  | .dismissCall callID => state.set callID true
  | _ => state

def incomingCalls (state : List IncomingCallNotification) : ClientAction → List IncomingCallNotification
  | .addIncomingCall call => state ++ [call]
  | .removeIncomingCall callID => state.filter fun call => call.callID ≠ callID
  | _ => state

structure ClientState where
  plugin : PluginState
  channels : StringMap (Option Bool)
  recordings : CallsJobState
  callLiveCaptionsState : CallsJobState
  dismissedCalls : StringMap Bool
  incomingCalls : List IncomingCallNotification
  deriving DecidableEq

namespace ClientState

def initial : ClientState := ⟨.initial, .empty, .empty, .empty, .empty, []⟩

def dispatch (state : ClientState) (action : ClientAction) : ClientState :=
  { plugin := match action with
      | .plugin action => state.plugin.dispatch action
      | _ => state.plugin
    channels := Webapp.channels state.channels action
    recordings := Webapp.recordings state.recordings action
    callLiveCaptionsState := Webapp.callLiveCaptionsState state.callLiveCaptionsState action
    dismissedCalls := Webapp.dismissedCalls state.dismissedCalls action
    incomingCalls := Webapp.incomingCalls state.incomingCalls action }

def dispatchAll (state : ClientState) (actions : List ClientAction) : ClientState := actions.foldl dispatch state

/-- The whole state of a call, as the server has it for the current user. -/
def loadCallState (client : Client) (currentUserID channelID : String) (call : CallStateClient) (state : ClientState) :
    ClientState :=
  let hostChangeAt :=
    if state.plugin.hostChangeAtForCurrentCall client = 0 then call.startAt else state.plugin.hostChangeAtForCurrentCall client
  state.dispatchAll <|
    [.plugin (.callState { id := call.id, channelID, startAt := call.startAt, ownerID := call.ownerID, threadID := call.threadID }),
      .callRecordingState channelID (call.recording.map .ofSnapshot),
      .callLiveCaptionsState channelID (call.liveCaptions.map .ofSnapshot),
      .plugin (.userScreenOn channelID call.screenSharingSessionID),
      .plugin (.callHost channelID call.hostID hostChangeAt)] ++
    (if call.dismissedNotification = some currentUserID then [.dismissCall call.id] else []) ++
    [.plugin (.usersStates channelID (getSessionsMapFromSessions call.sessions))]

/-- A call has started. What follows of its notification is asynchronous. -/
def handleCallStart (channelID callID : String) (startAt : Int) (ownerID hostID threadID : String) (state : ClientState) :
    ClientState :=
  state.dispatchAll
    [.callRecordingState channelID none,
      .callLiveCaptionsState channelID none,
      .plugin (.callState { id := callID, channelID, startAt, ownerID, threadID }),
      .plugin (.callHost channelID hostID startAt)]

def handleCallJobState (now : Int) (callID : String) (jobState : JobStateClient) (state : ClientState) : ClientState :=
  match jobState.type with
  | .recording => state.dispatch (.callRecordingState callID (some (.ofEvent now jobState)))
  | .captioning => state.dispatch (.callLiveCaptionsState callID (some (.ofEvent now jobState)))
  -- No reducer listens to an action without a type.
  | .transcribing => state

def callEnd (channelID : String) (state : ClientState) : ClientState :=
  let callID := ((state.plugin.calls.get? channelID).map CallState.id).getD ""
  state.dispatchAll [.plugin (.callEnd channelID callID), .removeIncomingCall callID]

end ClientState

end Calls.Webapp
