import Calls.Server.World

/-! The state of an ongoing call as the handlers hold it in memory, how it is
loaded, and how a call is ended from the outside. -/

set_option autoImplicit false

namespace Calls

structure CallState where
  call : Call
  sessions : SessionMap
  recording : Option CallJob
  transcription : Option CallJob
  liveCaptions : Option CallJob
  deriving DecidableEq

def isUserIDInCall (sessions : SessionMap) (userID : String) : Bool :=
  sessions.rows.any fun session => session.userID = userID

/-- The loop of `getHostID`: keep a current host who is present, else the
participant who joined earliest. The bot cannot be host. -/
def pickHost (botID current : String) : List CallSession → CallSession → String
  | [], host => host.userID
  | session :: rest, host =>
    if session.userID = current then current
    else if session.userID = botID then pickHost botID current rest host
    else if host.userID = "" then pickHost botID current rest session
    else if session.joinAt < host.joinAt then pickHost botID current rest session
    else pickHost botID current rest host

/-- The host that a call with these sessions should have. -/
def getHostID (order : IterationOrder) (botID : String) (call : Call) (sessions : SessionMap) : String :=
  if call.props.hostLockedUserID ≠ "" ∧ isUserIDInCall sessions call.props.hostLockedUserID then
    call.props.hostLockedUserID
  else
    pickHost botID call.getHostID (order.visit sessions.rows)
      { id := "", callID := "", userID := "", joinAt := 0 }

def onlyUserLeft (sessions : SessionMap) (userID : String) : Bool :=
  sessions.rows.all (fun session => session.userID = userID) ∧ sessions.rows ≠ []

namespace CallState

def getStates (order : IterationOrder) (botID : String) (cs : CallState) : List UserStateClient :=
  ((order.visit cs.sessions.rows).filter fun session => session.userID ≠ botID).map fun session =>
    { sessionID := session.id, userID := session.userID, unmuted := session.unmuted,
      raisedHand := session.raisedHand, video := session.video }

def getClientState (order : IterationOrder) (botID userID : String) (cs : CallState) : CallStateClient :=
  { id := cs.call.id, startAt := cs.call.startAt, sessions := cs.getStates order botID,
    threadID := cs.call.threadID, postID := cs.call.postID,
    screenSharingSessionID := cs.call.props.screenSharingSessionID,
    ownerID := cs.call.ownerID, hostID := cs.call.getHostID,
    recording := cs.recording.map getClientStateFromCallJob,
    transcription := cs.transcription.map getClientStateFromCallJob,
    liveCaptions := cs.liveCaptions.map getClientStateFromCallJob,
    -- For now, only the user's own dismissed state is sent.
    dismissedNotification :=
      if cs.call.props.dismissedNotification.get? userID = some true then some userID else none }

/-- The broadcast to everybody in the call. -/
def toParticipants (cs : CallState) (channelID : String) : WebSocketBroadcast :=
  { channelID, reliableClusterSend := true, userIDs := getUserIDsFromSessions cs.sessions }

end CallState

def getCallStateFromCall (env : Env) (call : Call) : StoreCommand CallState := do
  let sessions ← (Store.getCallSessions env.faults call.id).mapError ("failed to get call sessions: " ++ ·)
  let jobs ← (Store.getActiveCallJobs env.faults call.id).mapError ("failed to get call jobs: " ++ ·)
  pure
    { call, sessions, recording := jobs .recording, transcription := jobs .transcribing,
      liveCaptions := jobs .captioning }

def getCallState (env : Env) (channelID : String) : StoreCommand (Option CallState) := do
  let call ← (Store.getActiveCallByChannelID env.faults channelID).mapError ("failed to get active call: " ++ ·)
  match call with
  | none => pure none
  | some call => do
    let state ← getCallStateFromCall env call
    pure (some state)

/-! ### The end of a call -/

def setCallEnded (now : Instant) (call : Call) : Call :=
  { call with
    endAt := now.unixMilli
    participants := call.props.participants.mapKeys
    props :=
      { call.props with
        rtcdHost := "", dismissedNotification := .empty, nodeID := "", hosts := [],
        participants := .empty } }

def updateCallPostEnded (env : Env) (postID : String) (participants : List String) : Handler Unit :=
  if postID = "" then .throw "postID should not be empty"
  else if env.faults (.getPost postID) then .throw "failed to get post"
  else do
    let world ← .get
    match world.posts.get? postID with
    | none => .throw "failed to get post"
    | some post =>
      if env.updatePostFails then .throw "failed to update post"
      else
        .modify fun world =>
          { world with
            posts := world.posts.set postID
              { post with endAt := some env.now.unixMilli, participants := some participants } }

/-- One iteration of the loop of `cleanCallState` over the active jobs. -/
def cleanCallJob (env : Env) (channelID : String) (job : CallJob) : Handler Unit :=
  let ended := job.ended env.now
  if job.endAt = 0 then do
    (Handler.onStore (Store.updateCallJob env.faults ended)).ignoring
    (Handler.publish env (.callJobState channelID (getClientStateFromCallJob ended))
      { channelID, reliableClusterSend := true }).when (job.type = .recording)
  else pure ()

/-- Meant to be called under the lock of the call's channel. -/
def cleanCallState (env : Env) (call : Call) : Handler Unit := do
  (updateCallPostEnded env call.postID call.props.participants.mapKeys).ignoring
  let call := if call.endAt = 0 then setCallEnded env.now call else call
  (Handler.onStore (Store.deleteCallsSessions env.faults call.id)).ignoring
  let jobs ← (Handler.onStore (Store.getActiveCallJobs env.faults call.id)).attempt
  let jobs := match jobs with
    | .ok jobs => [jobs .recording, jobs .transcribing, jobs .captioning].reduceOption
    | .error _ => []
  Command.forEach jobs (cleanCallJob env call.channelID)
  Handler.onStore (Store.updateCall env.faults call)

end Calls
