import Calls.Server.Session

/-! What the items of a batch do. A join or a leave that is not batched is a
batch of one: the state of the call is loaded once under the lock and handed
from item to item. -/

set_option autoImplicit false

namespace Calls

/-- The post of a new call and the thread it is in; both empty when it could not be created. -/
def createCallStartedPost (env : Env) (state : CallState) (req : JoinRequest) : Handler (String × String) :=
  match env.createPost with
  | .error _ => pure ("", "")
  | .ok postID => do
    Command.modify fun world =>
      { world with posts := world.posts.set postID { startAt := state.call.startAt, title := req.title } }
    pure (postID, if req.threadID = "" then postID else req.threadID)

/-- Announce a call whose first session has just joined. -/
def announceCall (env : Env) (channelID : String) (state : CallState) (req : JoinRequest) :
    Handler CallState := do
  let (postID, threadID) ← createCallStartedPost env state req
  let state := { state with call := { state.call with postID, threadID } }
  (Handler.onStore (Store.updateCall env.faults state.call)).ignoring
  Handler.publish env
    (.callStart state.call.id channelID state.call.startAt threadID postID state.call.ownerID
      state.call.getHostID)
    { channelID, reliableClusterSend := true }
  pure state

/-- Tell the new session, and then everybody else, that it is in the call. -/
def announceSession (env : Env) (channelID : String) (state : CallState) (req : JoinRequest) :
    Handler Unit := do
  Handler.publish env (.join req.connID) { connectionID := req.connID, reliableClusterSend := true }
  Handler.publish env (.userJoined req.userID req.connID) { channelID, reliableClusterSend := true }
  Command.ifSome (state.recording.filter fun _ => req.userID = env.botID) fun recState =>
    Handler.publish env (.callJobState channelID (getClientStateFromCallJob recState))
      (state.toParticipants channelID)
  Handler.publish env (.callState channelID (state.getClientState env.order env.botID req.userID))
    { userID := req.userID, reliableClusterSend := true }

/-- The item of a join: the state for the items after it, which is the original
one if the session could not be added. -/
def addSessionToCall (env : Env) (channelID : String) (state : Option CallState) (req : JoinRequest) :
    Handler (Option CallState) := do
  let result ← (addUserSession env channelID state req).attempt
  match result with
  | .error err => do
    Handler.publish env (.error err req.connID) { connectionID := req.connID, reliableClusterSend := true }
    pure state
  | .ok joined => do
    let joined ← (if joined.sessions.size = 1 then announceCall env channelID joined req else pure joined)
    (announceSession env channelID joined req).when (env.rtcJoinFails = false)
    pure (some joined)

/-- The item of a leave: the state is changed in place, also by a removal that fails. -/
def removeSessionFromCall (env : Env) (channelID : String) (state : Option CallState) (ref : SessionRef) :
    Handler (Option CallState) :=
  match state with
  -- The removal fails with "call state is nil".
  | none => pure none
  | some state => fun world =>
    let (_, after) := removeUserSession env channelID ref ⟨world, state⟩
    (.ok (some after.state), after.world)

end Calls
