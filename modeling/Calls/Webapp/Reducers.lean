import Calls.Public

/-! The part of the client's state that is about calls, and the reducers that
bring it forward: sessions, calls, hosts and shared screens, by channel. -/

set_option autoImplicit false

namespace Calls.Webapp

structure Reaction where
  timestamp : Int
  deriving DecidableEq

/-- A field that an object lacks is `none`. A reaction that is `null` is not told from none. -/
structure UserSessionState where
  sessionID : Option String := none
  userID : Option String := none
  unmuted : Option Bool := none
  voice : Option Bool := none
  video : Option Bool := none
  raisedHand : Option Int := none
  reaction : Option Reaction := none
  deriving DecidableEq

abbrev SessionsState := StringMap (StringMap UserSessionState)

structure CallState where
  id : String
  startAt : Int
  channelID : String
  threadID : String
  ownerID : String
  deriving DecidableEq

structure HostState where
  hostID : String
  hostChangeAt : Int
  deriving DecidableEq

inductive Action where
  | uninit
  | callEnd (channelID callID : String)
  | userJoined (channelID userID sessionID : String)
  | userLeft (channelID userID sessionID : String)
  | usersStates (channelID : String) (states : StringMap UserSessionState)
  | userMuted (channelID userID sessionID : String)
  | userUnmuted (channelID userID sessionID : String)
  | userVoiceOn (channelID userID sessionID : String)
  | userVoiceOff (channelID userID sessionID : String)
  | userRaiseHand (channelID userID sessionID : String) (raisedHand : Int)
  | userLowerHand (channelID userID sessionID : String) (raisedHand : Int)
  | userReacted (channelID userID sessionID : String) (reaction : Reaction)
  | userReactedTimeout (channelID userID sessionID : String) (reaction : Reaction)
  | userVideoOn (channelID userID sessionID : String)
  | userVideoOff (channelID userID sessionID : String)
  | userScreenOn (channelID sessionID : String)
  | userScreenOff (channelID : String) (sessionID : Option String)
  | callState (data : CallState)
  | callHost (channelID hostID : String) (hostChangeAt : Int)

/-! ### Sessions -/

/-- The entry made for a session when nothing is known of its channel. -/
def newSession (sessionID userID : String) : UserSessionState :=
  { sessionID := some sessionID, userID := some userID, unmuted := some false, voice := some false,
    video := some false, raisedHand := some 0 }

/-- What the reducer does about one session: without the channel it makes the entry;
else it sets a field of the entry, which may not be there. -/
def patchSession (channelID sessionID : String) (created : UserSessionState)
    (change : UserSessionState → UserSessionState) (state : SessionsState) : SessionsState :=
  match state.get? channelID with
  | none => state.set channelID (StringMap.set .empty sessionID created)
  | some entries => state.set channelID (entries.set sessionID (change ((entries.get? sessionID).getD {})))

def sessions (state : SessionsState) : Action → SessionsState
  | .uninit => .empty
  | .callEnd channelID _ => state.erase channelID
  | .userJoined channelID userID sessionID =>
    state.set channelID (StringMap.set ((state.get? channelID).getD .empty) sessionID (newSession sessionID userID))
  | .userLeft channelID _ sessionID =>
    match state.get? channelID with
    | some entries => state.set channelID (entries.erase sessionID)
    | none => state
  | .usersStates channelID states => state.set channelID states
  | .userMuted channelID userID sessionID =>
    patchSession channelID sessionID (newSession sessionID userID) ({ · with unmuted := some false }) state
  | .userUnmuted channelID userID sessionID =>
    patchSession channelID sessionID { newSession sessionID userID with unmuted := some true }
      ({ · with unmuted := some true }) state
  | .userVoiceOn channelID userID sessionID =>
    patchSession channelID sessionID { newSession sessionID userID with voice := some true }
      ({ · with voice := some true }) state
  | .userVoiceOff channelID userID sessionID =>
    patchSession channelID sessionID (newSession sessionID userID) ({ · with voice := some false }) state
  | .userRaiseHand channelID userID sessionID raisedHand | .userLowerHand channelID userID sessionID raisedHand =>
    patchSession channelID sessionID { newSession sessionID userID with raisedHand := some raisedHand }
      ({ · with raisedHand := some raisedHand }) state
  | .userReacted channelID userID sessionID reaction =>
    patchSession channelID sessionID { newSession sessionID userID with reaction := some reaction }
      ({ · with reaction := some reaction }) state
  | .userReactedTimeout channelID _ sessionID reaction =>
    match state.get? channelID with
    | none => state
    | some entries =>
      match entries.get? sessionID with
      | none => state
      | some entry =>
        match entry.reaction with
        | none => state
        | some storedReaction =>
          if reaction.timestamp < storedReaction.timestamp then state
          else state.set channelID (entries.set sessionID { entry with reaction := none })
  | .userVideoOn channelID userID sessionID =>
    patchSession channelID sessionID { newSession sessionID userID with video := some true }
      ({ · with video := some true }) state
  | .userVideoOff channelID userID sessionID =>
    -- Unlike its siblings this one makes an entry that is unmuted.
    patchSession channelID sessionID { newSession sessionID userID with unmuted := some true }
      ({ · with video := some false }) state
  | .userScreenOn _ _ | .userScreenOff _ _ | .callState _ | .callHost _ _ _ => state

/-! ### Calls, hosts and screens -/

def calls (state : StringMap CallState) : Action → StringMap CallState
  | .uninit => .empty
  | .callState data => state.set data.channelID data
  | .callEnd channelID _ => state.erase channelID
  | _ => state

def hosts (state : StringMap HostState) : Action → StringMap HostState
  | .uninit => .empty
  | .callHost channelID hostID hostChangeAt => state.set channelID ⟨hostID, hostChangeAt⟩
  | _ => state

/-- Clear the shared screen of the channel if it is that of the session. -/
def clearScreen (channelID : String) (sessionID : Option String) (state : StringMap String) : StringMap String :=
  if sessionID ≠ state.get? channelID then state else state.set channelID ""

def screenSharingIDs (state : StringMap String) : Action → StringMap String
  | .uninit => .empty
  | .userScreenOn channelID sessionID => state.set channelID sessionID
  | .userLeft channelID _ sessionID => clearScreen channelID (some sessionID) state
  -- The end of a call names no session.
  | .callEnd channelID _ => clearScreen channelID none state
  | .userScreenOff channelID sessionID => clearScreen channelID sessionID state
  | _ => state

structure PluginState where
  sessions : SessionsState
  calls : StringMap CallState
  hosts : StringMap HostState
  screenSharingIDs : StringMap String
  deriving DecidableEq

namespace PluginState

def initial : PluginState := ⟨.empty, .empty, .empty, .empty⟩

def dispatch (state : PluginState) (action : Action) : PluginState :=
  { sessions := Webapp.sessions state.sessions action
    calls := Webapp.calls state.calls action
    hosts := Webapp.hosts state.hosts action
    screenSharingIDs := Webapp.screenSharingIDs state.screenSharingIDs action }

end PluginState

end Calls.Webapp
