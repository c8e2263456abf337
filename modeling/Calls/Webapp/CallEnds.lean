import Calls.Webapp.ClientState

/-! The end of a call at the client: what the reducers that listen to it make of the state, and
what is left of the call for the next one in the channel. -/

set_option autoImplicit false

namespace Calls.Webapp

/-- The call that the user is connected to through the widget of the desktop app. -/
structure WidgetSession where
  channelID : String
  sessionID : String
  deriving DecidableEq

/-- The actions of the state below, on top of those of the client's other state. -/
inductive WidgetAction where
  | client (action : ClientAction)
  | desktopWidgetConnected (channelID sessionID : String)
  | userJoinedTimeout (channelID userID : String)

def clientStateReducer (state : Option WidgetSession) : WidgetAction → Option WidgetSession
  | .client (.plugin .uninit) => none
  | .desktopWidgetConnected channelID sessionID => some ⟨channelID, sessionID⟩
  | .client (.plugin (.userLeft _ _ sessionID)) =>
    if some sessionID = state.map WidgetSession.sessionID then none else state
  | .client (.plugin (.callEnd channelID _)) =>
    if some channelID = state.map WidgetSession.channelID then none else state
  | _ => state

/-- Filtering what is not there leaves an entry that is undefined. -/
def forgetJoined (channelID userID : String) (state : StringMap (Option (List String))) : StringMap (Option (List String)) :=
  state.set channelID ((state.get? channelID).join.map fun users => users.filter (· ≠ userID))

def recentlyJoinedUsers (state : StringMap (Option (List String))) : WidgetAction → StringMap (Option (List String))
  | .client (.plugin .uninit) => .empty
  | .client (.plugin (.userJoined channelID userID _)) =>
    match (state.get? channelID).join with
    | none => state.set channelID (some [userID])
    | some users => state.set channelID (some (users ++ [userID]))
  | .client (.plugin (.userLeft channelID userID _)) => forgetJoined channelID userID state
  | .client (.plugin (.callEnd channelID _)) => state.set channelID (some [])
  | .userJoinedTimeout channelID userID => forgetJoined channelID userID state
  | _ => state

structure WidgetState where
  client : ClientState
  clientStateReducer : Option WidgetSession
  recentlyJoinedUsers : StringMap (Option (List String))
  deriving DecidableEq

namespace WidgetState

def initial : WidgetState := ⟨.initial, none, .empty⟩

def dispatch (state : WidgetState) (action : WidgetAction) : WidgetState :=
  { client := match action with
      | .client action => state.client.dispatch action
      | _ => state.client
    clientStateReducer := Webapp.clientStateReducer state.clientStateReducer action
    recentlyJoinedUsers := Webapp.recentlyJoinedUsers state.recentlyJoinedUsers action }

/-- The channel of the client of this window, else that of the widget. -/
def channelIDForCurrentCall (callsClient : Option String) (state : WidgetState) : String :=
  if callsClient.getD "" ≠ "" then callsClient.getD ""
  else (state.clientStateReducer.map WidgetSession.channelID).getD ""

/-- The client of this window, given by the channel of its call, disconnects, which closes its session. -/
def disconnect (callsClient : Option String) (state : WidgetState) : WidgetState :=
  match callsClient with
  | none => state
  | some channelID => state.dispatch (.client (.localSessionClose channelID))

def callEnd (callsClient : Option String) (channelID : String) (state : WidgetState) : WidgetState :=
  let state := if state.channelIDForCurrentCall callsClient = channelID then state.disconnect callsClient else state
  let callID := ((state.client.plugin.calls.get? channelID).map CallState.id).getD ""
  (state.dispatch (.client (.plugin (.callEnd channelID callID)))).dispatch (.client (.removeIncomingCall callID))

/-- The ID of the call that is known in the channel; empty if none is. -/
def callIDIn (channelID : String) (state : WidgetState) : String :=
  ((state.client.plugin.calls.get? channelID).map CallState.id).getD ""

/-- The session ID of the shared screen is not there, or it is empty. -/
def NoScreen (channelID : String) (state : WidgetState) : Prop :=
  (state.client.plugin.screenSharingIDs.get? channelID).getD "" = ""

/-- Nothing is left of the call in the channel. -/
structure Clean (channelID callID : String) (state : WidgetState) : Prop where
  sessions : state.client.plugin.sessions.get? channelID = none
  call : state.client.plugin.calls.get? channelID = none
  screen : state.NoScreen channelID
  joined : (state.recentlyJoinedUsers.get? channelID).join = some []
  widget : ∀ session, state.clientStateReducer = some session → session.channelID ≠ channelID
  incoming : ∀ call ∈ state.client.incomingCalls, call.callID ≠ callID

/-- What is known of other channels and other calls is as it was. -/
structure Untouched (channelID callID : String) (before after : WidgetState) : Prop where
  sessions : ∀ other, other ≠ channelID → after.client.plugin.sessions.get? other = before.client.plugin.sessions.get? other
  calls : ∀ other, other ≠ channelID → after.client.plugin.calls.get? other = before.client.plugin.calls.get? other
  screens : ∀ other, other ≠ channelID →
    after.client.plugin.screenSharingIDs.get? other = before.client.plugin.screenSharingIDs.get? other
  joined : ∀ other, other ≠ channelID → after.recentlyJoinedUsers.get? other = before.recentlyJoinedUsers.get? other
  widget : ∀ session, session.channelID ≠ channelID →
    (after.clientStateReducer = some session ↔ before.clientStateReducer = some session)
  incoming : after.client.incomingCalls.filter (fun call => call.callID ≠ callID) =
    before.client.incomingCalls.filter fun call => call.callID ≠ callID

/-- The end of a call leaves nothing of it behind and everything else alone. -/
def EndsCleanly (callsClient : Option String) (channelID : String) (state : WidgetState) : Prop :=
  (state.callEnd callsClient channelID).Clean channelID (state.callIDIn channelID) ∧
    state.Untouched channelID (state.callIDIn channelID) (state.callEnd callsClient channelID)

section
variable (callsClient : Option String) (channelID : String) (state : WidgetState)

/-- A client that disconnects closes its session, which is no matter of the state of calls. -/
theorem callEnd_eq : ∃ recordings, state.callEnd callsClient channelID =
    let callID := state.callIDIn channelID
    { client :=
        { state.client with
          plugin := state.client.plugin.dispatch (.callEnd channelID callID)
          recordings
          incomingCalls := state.client.incomingCalls.filter fun call => call.callID ≠ callID }
      clientStateReducer :=
        if some channelID = state.clientStateReducer.map WidgetSession.channelID then none else state.clientStateReducer
      recentlyJoinedUsers := state.recentlyJoinedUsers.set channelID (some []) } := by
  unfold callEnd disconnect
  split
  · cases callsClient with
    | none => exact ⟨_, rfl⟩
    | some client => exact ⟨_, rfl⟩
  · exact ⟨_, rfl⟩

theorem clearScreen_none_iff (screens : StringMap String) :
    (((clearScreen channelID none screens).get? channelID).getD "" = "") ↔ (screens.get? channelID).getD "" = "" := by
  unfold clearScreen
  cases known : screens.get? channelID with
  | none => simp
  | some sessionID => simp [known]

theorem clearScreen_other {other : String} (sessionID : Option String) (screens : StringMap String) (different : other ≠ channelID) :
    (clearScreen channelID sessionID screens).get? other = screens.get? other := by
  unfold clearScreen
  split
  · rfl
  · rw [StringMap.get?_set, if_neg different]

/-- It does exactly where no session shares its screen: the session of the shared screen is not named
by the end of a call. -/
theorem endsCleanly_iff : EndsCleanly callsClient channelID state ↔ state.NoScreen channelID := by
  obtain ⟨recordings, ended⟩ := callEnd_eq callsClient channelID state
  unfold EndsCleanly
  rw [ended]
  constructor
  · intro ends
    exact (clearScreen_none_iff channelID _).mp ends.1.screen
  · intro none
    refine ⟨⟨?_, ?_, (clearScreen_none_iff channelID _).mpr none, ?_, fun session held => ?_, fun call member => ?_⟩,
      fun other different => ?_, fun other different => ?_, fun other different => ?_, fun other different => ?_,
      fun session elsewhere => ?_, ?_⟩
    · simp [PluginState.dispatch, sessions]
    · simp [PluginState.dispatch, calls]
    · simp
    · dsimp only at held
      split at held
      · cases held
      · next elsewhere =>
        rintro rfl
        exact elsewhere (by rw [held]; rfl)
    · simpa using (List.mem_filter.mp member).2
    · simp [PluginState.dispatch, sessions, different]
    · simp [PluginState.dispatch, calls, different]
    · exact clearScreen_other channelID _ _ different
    · simp [different]
    · dsimp only
      split
      · next here =>
        refine iff_of_false (by simp) fun held => elsewhere ?_
        rw [held] at here
        exact (Option.some.inj here).symm
      · exact Iff.rfl
    · simp [List.filter_filter]

end

/-- Alice shares her screen in a call of the channel. -/
def aliceShares : WidgetState :=
  { WidgetState.initial with
    client :=
      (ClientState.initial.dispatchAll
        [.plugin (.callState { id := "call", startAt := 1000, channelID := "channel", threadID := "thread", ownerID := "alice" }),
          .plugin (.userJoined "channel" "alice" "conn-1"), .plugin (.userScreenOn "channel" "conn-1")]) }

/-- The call ends, and the next one in the channel starts with her screen. -/
theorem not_endsCleanly : ¬ ∀ callsClient channelID state, EndsCleanly callsClient channelID state := by
  intro all
  have none := (all none "channel" aliceShares).1.screen
  revert none
  unfold NoScreen
  decide

end WidgetState

end Calls.Webapp
