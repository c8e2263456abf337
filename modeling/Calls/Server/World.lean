import Calls.Db.Store

/-! What a handler of the plugin acts on besides its arguments: the store, the
call posts and the WebSocket events published so far; and what it is given by
its environment for the time of one run. -/

set_option autoImplicit false

namespace Calls

/-! ### WebSocket events -/

structure JobStateClient where
  type : JobType
  initAt : Int
  startAt : Int
  endAt : Int
  err : String
  deriving DecidableEq

def getClientStateFromCallJob (job : CallJob) : JobStateClient :=
  { type := job.type, initAt := job.initAt, startAt := job.startAt, endAt := job.endAt,
    err := job.props.err }

structure UserStateClient where
  sessionID : String
  userID : String
  unmuted : Bool
  raisedHand : Int
  video : Bool
  deriving DecidableEq

structure CallStateClient where
  id : String
  startAt : Int
  sessions : List UserStateClient
  threadID : String
  postID : String
  screenSharingSessionID : String
  ownerID : String
  hostID : String
  recording : Option JobStateClient
  transcription : Option JobStateClient
  liveCaptions : Option JobStateClient
  dismissedNotification : Option String
  deriving DecidableEq

inductive WsEvent where
  | userJoined (userID sessionID : String)
  | userLeft (userID sessionID : String)
  | userScreenOn (userID sessionID : String)
  | userScreenOff (userID sessionID : Option String)
  | userVideoOn (userID sessionID : String)
  | userVideoOff (userID sessionID : String)
  | userMuted (userID sessionID : String)
  | userUnmuted (userID sessionID : String)
  | userRaiseHand (userID sessionID : String) (raisedHand : Int)
  | userUnraiseHand (userID sessionID : String) (raisedHand : Int)
  | userVoiceOn (userID sessionID : String)
  | userVoiceOff (userID sessionID : String)
  | userReacted (userID sessionID : String) (timestamp : Int)
  | callStart (id channelID : String) (startAt : Int) (threadID postID ownerID hostID : String)
  | callState (channelID : String) (call : CallStateClient)
  | callEnd
  | join (connID : String)
  | error (data connID : String)
  | callHostChanged (hostID callID : String)
  | callJobState (callID : String) (jobState : JobStateClient)
  | jobStop (jobID : String)
  deriving DecidableEq

structure WebSocketBroadcast where
  channelID : String := ""
  userID : String := ""
  connectionID : String := ""
  reliableClusterSend : Bool := false
  omitUsers : List String := []
  userIDs : List String := []
  deriving DecidableEq

/-- One call of the server's `PublishWebSocketEvent`. -/
structure Delivery where
  ev : WsEvent
  channelID : String := ""
  userID : String := ""
  connectionID : String := ""
  reliableClusterSend : Bool := false
  omitUsers : List String := []
  deriving DecidableEq

def WebSocketBroadcast.toModel (broadcast : WebSocketBroadcast) (ev : WsEvent) : Delivery :=
  { ev, channelID := broadcast.channelID, userID := broadcast.userID,
    connectionID := broadcast.connectionID, reliableClusterSend := broadcast.reliableClusterSend,
    omitUsers := broadcast.omitUsers }

/-- The user a join or leave event is about. -/
def WsEvent.joinedOrLeft? : WsEvent → Option String
  | .userJoined userID _ => some userID
  | .userLeft userID _ => some userID
  | _ => none

/-- The deliveries that publishing an event asks the server for. -/
def publishWebSocketEvent (botID : String) (ev : WsEvent) (broadcast : WebSocketBroadcast) : List Delivery :=
  if ev.joinedOrLeft? = some botID then []
  else
    -- The bot is not a member of the channel and gets a copy of its own.
    let toBot := botID ≠ "" ∧ broadcast.channelID ≠ ""
    let broadcast := if toBot then { broadcast with omitUsers := [botID] ++ broadcast.omitUsers } else broadcast
    let forBot : List Delivery := if toBot then [{ ev, userID := botID }] else []
    if broadcast.userIDs.isEmpty then forBot ++ [broadcast.toModel ev]
    else forBot ++ (broadcast.userIDs.filter (· ≠ botID)).map fun userID =>
      ({ broadcast with userID } : WebSocketBroadcast).toModel ev

def getUserIDsFromSessions (sessions : SessionMap) : List String :=
  (sessions.rows.map CallSession.userID).dedup

/-! ### The world and its environment -/

/-- The post that announces a call, with the props the plugin sets. -/
structure CallPost where
  startAt : Int
  title : String
  endAt : Option Int := none
  participants : Option (List String) := none
  deriving DecidableEq

structure World where
  store : Store
  posts : StringMap CallPost
  published : List Delivery
  deriving DecidableEq

def World.empty : World := ⟨.empty, .empty, []⟩

structure Configuration where
  defaultEnabled : Option Bool := none
  maxCallParticipants : Option Int := none
  allowScreenSharing : Option Bool := some true
  enableRecordings : Option Bool := none
  enableTranscriptions : Option Bool := none
  enableLiveCaptions : Option Bool := none
  deriving DecidableEq

namespace Configuration

def recordingsEnabled (c : Configuration) : Bool := c.enableRecordings = some true

def transcriptionsEnabled (c : Configuration) : Bool :=
  c.recordingsEnabled ∧ c.enableTranscriptions = some true

def liveCaptionsEnabled (c : Configuration) : Bool :=
  c.recordingsEnabled ∧ c.transcriptionsEnabled ∧ c.enableLiveCaptions = some true

end Configuration

/-- The order in which one loop over a map of sessions visits them. -/
structure IterationOrder where
  visit : List CallSession → List CallSession
  perm : ∀ sessions, (visit sessions).Perm sessions

def IterationOrder.stored : IterationOrder := ⟨id, fun _ => .refl _⟩

/-- What one run of a handler finds: the clock, the node, the configuration, the
answers of the server and of the rtcd manager, and which store operations fail. -/
structure Env where
  now : Instant
  nodeID : String
  /-- Empty while there is no bot session. -/
  botID : String
  config : Configuration
  groupCallsAllowed : Bool
  hasManageSystem : String → Bool
  newID : String
  /-- The answer for a new call; nothing when calls are not handled by rtcd. -/
  rtcdHost : Option (Except String String)
  createPost : Except String String
  updatePostFails : Bool
  /-- The session could not be handed over to the RTC side. -/
  rtcJoinFails : Bool
  /-- The lock of the call is not acquired before the timeout. -/
  lockFails : Bool
  /-- A message to another node of the cluster cannot be sent. -/
  clusterSendFails : Bool
  order : IterationOrder
  faults : Faults

def Env.isBot (env : Env) (userID : String) : Bool := userID ≠ "" ∧ userID = env.botID

/-- Every store operation of the run succeeds. -/
def Env.StoreWorks (env : Env) : Prop := ∀ op, env.faults op = false

/-- A run that nothing interferes with, on a node that handles calls by itself. -/
def Env.quiet (now : Instant) (newID : String) : Env :=
  { now, nodeID := "node", botID := "bot", config := { defaultEnabled := some true },
    groupCallsAllowed := true, hasManageSystem := fun _ => false, newID, rtcdHost := none,
    createPost := .ok "post", updatePostFails := false, rtcJoinFails := false, lockFails := false,
    clusterSendFails := false, order := .stored, faults := .none }

/-- The updates of calls and jobs succeed. -/
structure Env.WritesWork (env : Env) : Prop where
  calls : ∀ callID, env.faults (.updateCall callID) = false
  jobs : ∀ jobID, env.faults (.updateCallJob jobID) = false

theorem Env.StoreWorks.writes {env : Env} (works : env.StoreWorks) : env.WritesWork :=
  ⟨fun _ => works _, fun _ => works _⟩

abbrev Handler := Command World String

namespace Handler

def onStore {α : Type} (command : StoreCommand α) : Handler α :=
  command.zoom World.store fun store world => { world with store }

def publish (env : Env) (ev : WsEvent) (broadcast : WebSocketBroadcast) : Handler Unit :=
  .modify fun world =>
    { world with published := world.published ++ publishWebSocketEvent env.botID ev broadcast }

end Handler

end Calls
