import Calls.Server.Screen

/-! Cameras going on and off. The start of every video is kept with the call,
under the ID of its session. -/

set_option autoImplicit false

namespace Calls

inductive VideoMessage where
  | on
  | off
  deriving DecidableEq

/-- The statistics of the call after a message of the given session. -/
def Call.toggleVideo (now : Instant) (sessionID : String) (call : Call) : VideoMessage → Call
  | .on =>
    { call with
      props := { call.props with videoStartAt := call.props.videoStartAt.set sessionID now.unix }
      stats := { call.stats with hasUsedVideo := true } }
  | .off =>
    match call.props.videoStartAt.get? sessionID with
    | none => call
    | some startTime =>
      if 0 < startTime then
        { call with
          props := { call.props with videoStartAt := call.props.videoStartAt.erase sessionID }
          stats :=
            { call.stats with
              videoDuration := call.stats.videoDuration + secondsSinceTimestamp now startTime } }
      else call

def VideoMessage.event (us : UserSession) : VideoMessage → WsEvent
  | .on => .userVideoOn us.userID us.originalConnID
  | .off => .userVideoOff us.userID us.originalConnID

/-- `handleClientMsg` on a message about video. First the message goes to the RTC
side, or to the node that has it; `rtcSends` tells whether the former takes it. -/
def handleClientMessageTypeVideo (env : Env) (us : UserSession) (msg : VideoMessage) (handlerID : String)
    (rtcSends : Bool) : Handler Unit :=
  if handlerID ≠ env.nodeID ∧ env.clusterSendFails = true then .throw "failed to send cluster message"
  else if handlerID = env.nodeID ∧ rtcSends = false then .throw "failed to send RTC message"
  else do
    let state ← (lockCallReturnState env us.channelID).mapError ("failed to lock call: " ++ ·)
    match state with
    | none => .throw "channel state is missing from store"
    | some state =>
      match state.sessions.find? us.originalConnID with
      | none => .throw "user session is missing from call state"
      | some session => do
        let session := { session with video := msg = .on }
        let call := state.call.toggleVideo env.now us.originalConnID msg
        (Handler.onStore (Store.updateCallSession env.faults session)).mapError
          ("failed to update call session: " ++ ·)
        (Handler.onStore (Store.updateCall env.faults call)).mapError ("failed to update call: " ++ ·)
        Handler.publish env (msg.event us) (state.toParticipants us.channelID)

/-- A message about video gets through to the RTC side, and the call is locked. -/
structure VideoHandled (env : Env) (handlerID : String) (rtcSends : Bool) : Prop where
  remote : handlerID ≠ env.nodeID → env.clusterSendFails = false
  handled : handlerID = env.nodeID → rtcSends = true
  locks : env.lockFails = false

end Calls
