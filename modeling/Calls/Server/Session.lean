import Calls.Server.Jobs

/-! Sessions joining and leaving a call, from the point where the lock of the
call is held and its state is loaded. -/

set_option autoImplicit false

namespace Calls

open LockedHandler

/-- A request to join, as the server hands it over: the user and the connection
are authenticated. -/
structure JoinRequest where
  userID : String
  connID : String
  jobID : String := ""
  title : String := ""
  threadID : String := ""
  callsEnabled : Option Bool
  direct : Bool := false
  userID_ne : userID ≠ "" := by decide
  connID_ne : connID ≠ "" := by decide

/-- A request to join a channel that neither enables nor disables calls itself. -/
def JoinRequest.plain (userID connID jobID : String)
    (named : decide (userID ≠ "" ∧ connID ≠ "") = true := by exact Eq.refl true) : JoinRequest :=
  { userID, connID, jobID, callsEnabled := none,
    userID_ne := (of_decide_eq_true named).1, connID_ne := (of_decide_eq_true named).2 }

def errGroupCallsNotAllowed : String := "unlicensed servers only allow calls in DMs"

def userCanStartOrJoin (env : Env) (req : JoinRequest) : Except String Unit :=
  if req.direct = false ∧ env.groupCallsAllowed = false then .error errGroupCallsNotAllowed
  else if req.callsEnabled = some false then .error "calls are disabled in the channel"
  else if req.callsEnabled = some true then .ok ()
  else if env.config.defaultEnabled = some true then .ok ()
  else if env.hasManageSystem req.userID then .ok ()
  else .error "insufficient permissions"

def joinAllowed (env : Env) (state : CallState) : Bool :=
  match env.config.maxCallParticipants with
  | none => true
  | some limit => ¬ (limit ≠ 0 ∧ limit ≤ state.sessions.size)

/-- The call of a request that finds none ongoing, before its rtcd host is assigned. -/
def newCall (env : Env) (channelID : String) (req : JoinRequest) : Call :=
  { id := env.newID, createAt := env.now.unixMilli, startAt := env.now.unixMilli,
    ownerID := req.userID, channelID,
    props := { CallProps.zero with nodeID := env.nodeID } }

def newCallState (env : Env) (channelID : String) (req : JoinRequest) : Except String CallState :=
  let state : CallState :=
    { call := newCall env channelID req, sessions := .empty, recording := none, transcription := none,
      liveCaptions := none }
  match env.rtcdHost with
  | none => .ok state
  | some (.error err) => .error ("failed to get rtcd host: " ++ err)
  | some (.ok host) =>
    .ok { state with call := { state.call with props := { state.call.props with rtcdHost := host } } }

/-- The state a request works on: the one it was given, else that of a new call. -/
def stateToJoin (env : Env) (channelID : String) (state : Option CallState) (req : JoinRequest) :
    Except String CallState :=
  match state with
  | some state => .ok state
  | none =>
    match userCanStartOrJoin env req with
    | .error err => .error err
    | .ok () => newCallState env channelID req

/-- The checks made before anything is written. -/
def checkJoin (env : Env) (state : CallState) (req : JoinRequest) : Except String Unit :=
  if 0 < state.call.endAt then .error "call has ended"
  else if state.sessions.contains req.connID then .error "session is already connected"
  else if joinAllowed env state then .ok ()
  else .error "user cannot join because of limits"

/-- The live captions that start together with the transcription the bot joins for. -/
def captionsToStart (state : CallState) : Option CallJob :=
  state.liveCaptions.filter fun job => job.startAt = 0

/-- When the bot joins the call it means a job is starting: the jobs to tie to
the connection of the bot, in the order in which they are written, and the state with them. -/
def jobsToStart (env : Env) (state : CallState) (req : JoinRequest) :
    Except String (List CallJob × CallState) :=
  let starting (job : Option CallJob) := job.filter fun job => job.id = req.jobID ∧ job.startAt = 0
  if req.userID ≠ env.botID then .ok ([], state)
  else if state.recording.isNone ∧ state.transcription.isNone then .error "no job in progress"
  else
    match starting state.recording, starting state.transcription with
    | some recState, _ =>
      let recState := recState.withBot req.connID
      .ok ([recState], state.withJob recState .recording)
    | none, some trState =>
      let trState := trState.withBot req.connID
      match captionsToStart state with
      | none => .ok ([trState], state.withJob trState .transcribing)
      | some lcState =>
        let lcState := lcState.withBot req.connID
        .ok ([lcState, trState], (state.withJob lcState .captioning).withJob trState .transcribing)
    -- Failing here prevents the bot from joining without consent.
    | none, none => .error "job not in progress or already started"

def botJoin (env : Env) (state : CallState) (req : JoinRequest) : StoreCommand CallState :=
  match jobsToStart env state req with
  | .error err => .throw err
  | .ok (jobs, state) => do
    Command.forEach jobs fun job =>
      (Store.updateCallJob env.faults job).mapError ("failed to update call job: " ++ ·)
    pure state

namespace Call

def withHosts (call : Call) (hosts : List String) : Call :=
  { call with props := { call.props with hosts } }

/-- The host after a session joined. -/
def electOnJoin (env : Env) (sessions : SessionMap) (call : Call) : Call :=
  let newHostID := Calls.getHostID env.order env.botID call sessions
  if newHostID = call.getHostID then call else call.withHosts [newHostID]

def addParticipant (env : Env) (userID : String) (call : Call) : Call :=
  if userID = env.botID then call
  else { call with props := { call.props with participants := call.props.participants.set userID () } }

end Call

def newCallSession (env : Env) (call : Call) (req : JoinRequest) : CallSession :=
  { id := req.connID, callID := call.id, userID := req.userID, joinAt := env.now.unixMilli }

/-- The state in memory once the session of a request is added to `state`. -/
def joinedState (env : Env) (state : CallState) (req : JoinRequest) : CallState :=
  let sessions := state.sessions.put (newCallSession env state.call req)
  { state with sessions, call := (state.call.electOnJoin env sessions).addParticipant env req.userID }

/-- The writes of a join: the call, new or updated, then the session. -/
def writeJoin (env : Env) (state : CallState) (session : CallSession) : StoreCommand Unit := do
  (if state.sessions.size = 1 then
    (Store.createCall env.faults state.call).mapError ("failed to create call: " ++ ·)
  else
    (Store.updateCall env.faults state.call).mapError ("failed to update call: " ++ ·))
  (Store.createCallSession env.faults session).mapError ("failed to create call session: " ++ ·)

/-- `addUserSession` up to what it returns: the new state, or the error on which
its caller is given the original state back. -/
def addUserSession (env : Env) (channelID : String) (state : Option CallState) (req : JoinRequest) :
    Handler CallState :=
  match stateToJoin env channelID state req with
  | .error err => .throw err
  | .ok state =>
    match checkJoin env state req with
    | .error err => .throw err
    | .ok () => do
      let state ← Handler.onStore (botJoin env state req)
      let joined := joinedState env state req
      Handler.onStore (writeJoin env joined (newCallSession env state.call req))
      (Handler.publish env (.callHostChanged joined.call.getHostID joined.call.id)
        (joined.toParticipants channelID)).when (joined.call.getHostID ≠ state.call.getHostID)
      pure joined

/-! ### Leaving -/

namespace Call

/-- The call with the screen of a leaving session taken off. -/
def stopScreen (env : Env) (sessionID : String) (call : Call) : Call :=
  if call.props.screenSharingSessionID ≠ sessionID then call
  else
    let props := { call.props with screenSharingSessionID := "" }
    if 0 < props.screenStartAt then
      { call with
        props := { props with screenStartAt := 0 }
        stats :=
          { call.stats with
            screenDuration :=
              call.stats.screenDuration + secondsSinceTimestamp env.now props.screenStartAt } }
    else { call with props }

/-- The call with the video time of a session that leaves with its video on. -/
def stopVideo (env : Env) (sessionID : String) (call : Call) : Call :=
  match call.props.videoStartAt.get? sessionID with
  | none => call
  | some startTime =>
    if 0 < startTime then
      { call with
        props := { call.props with videoStartAt := call.props.videoStartAt.erase sessionID }
        stats :=
          { call.stats with
            videoDuration := call.stats.videoDuration + secondsSinceTimestamp env.now startTime } }
    else call

/-- Whether the host changes when a session of `userID` has left. -/
def losesHost (env : Env) (userID : String) (sessions : SessionMap) (call : Call) : Bool :=
  call.getHostID = userID ∧ 0 < sessions.size ∧ Calls.getHostID env.order env.botID call sessions ≠ userID

/-- The host after a session of `userID` left. -/
def electOnLeave (env : Env) (userID : String) (sessions : SessionMap) (call : Call) : Call :=
  let newHostID := Calls.getHostID env.order env.botID call sessions
  if call.losesHost env userID sessions then
    call.withHosts (if newHostID = "" then [] else [newHostID])
  else call

/-- The call as the last session leaves. -/
def finish (env : Env) (call : Call) : Call :=
  let screen :=
    if 0 < call.props.screenStartAt then secondsSinceTimestamp env.now call.props.screenStartAt else 0
  let video :=
    ((call.props.videoStartAt.rows.filter fun entry => 0 < entry.2).map fun entry =>
      secondsSinceTimestamp env.now entry.2).sum
  setCallEnded env.now
    { call with
      props := { call.props with videoStartAt := .empty }
      stats :=
        { call.stats with
          screenDuration := call.stats.screenDuration + screen
          videoDuration := call.stats.videoDuration + video } }

def finishIfEmpty (env : Env) (sessions : SessionMap) (call : Call) : Call :=
  if sessions.size = 0 then call.finish env else call

end Call

namespace CallState

def mapCall (cs : CallState) (change : Call → Call) : CallState := { cs with call := change cs.call }

def withoutSession (cs : CallState) (id : String) : CallState :=
  { cs with sessions := cs.sessions.erase id }

end CallState

/-- Take the screen of the leaving session off, if it was sharing. -/
def leaveScreen (env : Env) (channelID sessionID : String) : LockedHandler Unit := do
  let state ← getState
  Command.when (do
    modifyState (·.mapCall (·.stopScreen env sessionID))
    publishToParticipants env channelID (.userScreenOff none none))
    (state.call.props.screenSharingSessionID = sessionID)

/-- Take the video of the leaving session off, if it had any on. -/
def leaveVideo (env : Env) (channelID userID : String) (us : CallSession) : LockedHandler Unit :=
  Command.when (do
    modifyState (·.mapCall (·.stopVideo env us.id))
    publishToParticipants env channelID (.userVideoOff userID us.id))
    (us.video = true)

/-- If the bot is the only user left in the call any ongoing jobs are stopped. -/
def stopJobsOfBot (env : Env) (channelID : String) : LockedHandler Unit := do
  let state ← getState
  let stop (job : CallJob) := (onWorld (stopJob env channelID job.id env.botID)).ignoring
  Command.when (do
    Command.ifSome state.recording stop
    Command.ifSome state.transcription stop)
    (onlyUserLeft state.sessions env.botID)

/-- The job of the state that is in progress under the given connection. -/
def CallState.jobOfConn? (cs : CallState) (type : JobType) (connID : String) : Option CallJob :=
  (cs.job? type).filter fun job => job.endAt = 0 ∧ connID = job.props.botConnID

def recordingBotLeft (env : Env) (channelID originalConnID : String) : LockedHandler Unit := do
  let state ← getState
  Command.ifSome (state.jobOfConn? .recording originalConnID) fun recState => do
    saveJob env (recState.ended env.now) .recording
    (stopTranscribingJob env channelID).ignoring.when (state.inProgress .transcribing)
    publishJobState env channelID (recState.ended env.now)

def transcribingBotLeft (env : Env) (channelID originalConnID : String) : LockedHandler Unit := do
  let state ← getState
  Command.ifSome (state.jobOfConn? .transcribing originalConnID) fun trState => do
    saveJob env (trState.ended env.now) .transcribing
    (stopRecordingJob env channelID).ignoring.when (state.inProgress .recording)
    publishJobState env channelID (trState.ended env.now)
    Command.ifSome state.liveCaptions fun lcState => publishJobState env channelID lcState

def captioningBotLeft (env : Env) (connID : String) : LockedHandler Unit := do
  let state ← getState
  Command.ifSome (state.jobOfConn? .captioning connID) fun lcState =>
    saveJob env (lcState.ended env.now) .captioning

/-- What the leave of a session means for the jobs of the call. -/
def leaveJobs (env : Env) (channelID originalConnID connID : String) : LockedHandler Unit := do
  stopJobsOfBot env channelID
  recordingBotLeft env channelID originalConnID
  transcribingBotLeft env channelID originalConnID
  captioningBotLeft env connID

/-- Change the host if it was the user of the leaving session. -/
def leaveHost (env : Env) (channelID userID : String) : LockedHandler Unit := do
  let state ← getState
  Command.when (do
    modifyState (·.mapCall (·.electOnLeave env userID state.sessions))
    publishToParticipants env channelID
      (.callHostChanged (getHostID env.order env.botID state.call state.sessions) state.call.id))
    (state.call.losesHost env userID state.sessions = true)

/-- The last write of a removal. When the call has ended its post is updated
afterwards, with the participants that `setCallEnded` left in the props. -/
def saveLeave (env : Env) : LockedHandler Unit := do
  modifyState fun state => state.mapCall (·.finishIfEmpty env state.sessions)
  let state ← getState
  Command.deferring
    ((onStore (Store.updateCall env.faults state.call)).mapError ("failed to update call: " ++ ·))
    ((onWorld (updateCallPostEnded env state.call.postID state.call.props.participants.mapKeys)).ignoring.when
      (state.sessions.size = 0))

/-- The session that is leaving, as its record on the node names it. -/
structure SessionRef where
  userID : String
  originalConnID : String
  connID : String
  deriving DecidableEq

def removeUserSession (env : Env) (channelID : String) (ref : SessionRef) : LockedHandler Unit := do
  let state ← getState
  match state.sessions.find? ref.originalConnID with
  | none => .throw "session not found in call state"
  | some us => do
    (onStore (Store.deleteCallSession env.faults ref.originalConnID)).mapError
      ("failed to delete call session: " ++ ·)
    modifyState (·.withoutSession ref.originalConnID)
    leaveScreen env channelID ref.originalConnID
    leaveVideo env channelID ref.userID us
    leaveJobs env channelID ref.originalConnID ref.connID
    onWorld (Handler.publish env (.userLeft ref.userID ref.originalConnID)
      { channelID, reliableClusterSend := true })
    leaveHost env channelID ref.userID
    saveLeave env

end Calls
