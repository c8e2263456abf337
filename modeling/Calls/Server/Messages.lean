import Calls.Server.CallRuns

/-! Messages about the microphone and the hand of a session, which change nothing
but the row of the session, and all messages of clients together with the joins
and leaves. -/

set_option autoImplicit false

namespace Calls

inductive MuteMessage where
  | mute
  | unmute
  deriving DecidableEq

inductive HandMessage where
  | raise
  | unraise
  deriving DecidableEq

def MuteMessage.event (us : UserSession) : MuteMessage → WsEvent
  | .mute => .userMuted us.userID us.originalConnID
  | .unmute => .userUnmuted us.userID us.originalConnID

def HandMessage.event (us : UserSession) (raisedHand : Int) : HandMessage → WsEvent
  | .raise => .userRaiseHand us.userID us.originalConnID raisedHand
  | .unraise => .userUnraiseHand us.userID us.originalConnID raisedHand

/-- What the handlers have in common: change the session of the message under the
lock, and tell the participants. -/
def updateSession (env : Env) (us : UserSession) (missing : String) (change : CallSession → CallSession)
    (event : CallSession → WsEvent) : Handler Unit := do
  let state ← (lockCallReturnState env us.channelID).mapError ("failed to lock call: " ++ ·)
  match state with
  | none => .throw "no call ongoing"
  | some state =>
    match state.sessions.find? us.originalConnID with
    | none => .throw missing
    | some session => do
      (Handler.onStore (Store.updateCallSession env.faults (change session))).mapError
        ("failed to update call session: " ++ ·)
      Handler.publish env (event (change session)) (state.toParticipants us.channelID)

def MuteMessage.change (msg : MuteMessage) (session : CallSession) : CallSession :=
  { session with unmuted := msg = .unmute }

def HandMessage.change (env : Env) (msg : HandMessage) (session : CallSession) : CallSession :=
  { session with raisedHand := if msg = .raise then env.now.unixMilli else 0 }

/-- `handleClientMsg` on a message about the microphone, which goes to the RTC side
first as one about video does. -/
def handleClientMessageTypeMute (env : Env) (us : UserSession) (msg : MuteMessage) (handlerID : String)
    (rtcSends : Bool) : Handler Unit :=
  if handlerID ≠ env.nodeID ∧ env.clusterSendFails = true then .throw "failed to send cluster message"
  else if handlerID = env.nodeID ∧ rtcSends = false then .throw "failed to send RTC message"
  else updateSession env us "user state is missing from call state" msg.change fun _ => msg.event us

/-- `handleClientMsg` on a message about the hand. -/
def handleClientMessageTypeHand (env : Env) (us : UserSession) (msg : HandMessage) : Handler Unit :=
  updateSession env us "user session is missing from call state" (msg.change env) fun session =>
    msg.event us session.raisedHand

/-! ### All that sessions do -/

inductive TrafficStep where
  | call (step : CallStep)
  | screen (env : Env) (us : UserSession) (msg : ScreenMessage) (handlerID : String)
  | mute (env : Env) (us : UserSession) (msg : MuteMessage) (handlerID : String) (rtcSends : Bool)
  | hand (env : Env) (us : UserSession) (msg : HandMessage)

def TrafficStep.env? : TrafficStep → Option Env
  | .call step => step.env?
  | .screen env _ _ _ | .mute env _ _ _ _ | .hand env _ _ => some env

def Operations.traffic? (ops : Operations) : TrafficStep → Option Operations
  | .call step => ops.call? step
  | .screen env us msg handlerID => ops.request us.channelID (handleClientMessageTypeScreen env us msg handlerID)
  | .mute env us msg handlerID rtcSends =>
    ops.request us.channelID (handleClientMessageTypeMute env us msg handlerID rtcSends)
  | .hand env us msg => ops.request us.channelID (handleClientMessageTypeHand env us msg)

/-- Joins, leaves, changes of the host and messages of clients. -/
def callTraffic : System Operations TrafficStep where
  init ops := ops = .idle
  next? := Operations.traffic?

/-- Every store operation of the step succeeds. -/
def TrafficServes (ops : Operations) : TrafficStep → Prop
  | .call step => StoreServes ops step
  | .screen env _ _ _ | .mute env _ _ _ _ | .hand env _ _ => env.StoreWorks

end Calls
