import Calls.Server.Jobs

/-! The host of a call, or an administrator, makes another participant the host. -/

set_option autoImplicit false

namespace Calls

def errNoCallOngoing : String := "no call ongoing"
def errNoPermissions : String := "no permissions"
def errNotInCall : String := "requested session or user is not in the call"
def errNotAllowed : String := "not allowed"

namespace Call

/-- The host stays the same, but is locked where nobody is. -/
def lockHost (call : Call) (newHostID : String) : Call :=
  if call.props.hostLockedUserID = "" then { call with props := { call.props with hostLockedUserID := newHostID } }
  else call

/-- Another host, who is locked. -/
def replaceHost (call : Call) (newHostID : String) : Call :=
  { call with props := { call.props with hosts := [newHostID], hostLockedUserID := newHostID } }

/-- The call after `changeHost` has made its decision, if it accepts the request. -/
def changeHost (env : Env) (requesterID newHostID : String) (sessions : SessionMap) (call : Call) : Except String Call :=
  if requesterID ≠ call.getHostID ∧ env.hasManageSystem requesterID = false then .error errNoPermissions
  else if newHostID = env.botID then .error ("cannot assign the bot to be host: " ++ errNotAllowed)
  else if call.getHostID = newHostID then .ok (call.lockHost newHostID)
  else if isUserIDInCall sessions newHostID = false then .error errNotInCall
  else .ok (call.replaceHost newHostID)

end Call

def changeHost (env : Env) (requesterID channelID newHostID : String) : Handler Unit := do
  let state ← (lockCallReturnState env channelID).mapError ("failed to lock call: " ++ ·)
  match state with
  | none => .throw errNoCallOngoing
  | some state =>
    match state.call.changeHost env requesterID newHostID state.sessions with
    | .error err => .throw err
    | .ok call => do
      -- A host who is locked already is not written again.
      ((Handler.onStore (Store.updateCall env.faults call)).mapError ("failed to update call: " ++ ·)).when
        (state.call.getHostID ≠ newHostID ∨ state.call.props.hostLockedUserID = "")
      (Handler.publish env (.callHostChanged newHostID state.call.id) (state.toParticipants channelID)).when
        (state.call.getHostID ≠ newHostID)

end Calls
