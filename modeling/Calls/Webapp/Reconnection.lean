import Calls.Webapp.Resync

/-! What the client does when its connection to the server is back: outside of a call it forgets
what it knows, and then it loads what it does not know of the calls in all channels. -/

set_option autoImplicit false

namespace Calls.Webapp

/-- What the server says of a channel. -/
structure CallChannelState where
  channelID : String
  enabled : Option Bool
  call : Option CallStateClient

/-- What the server says of all channels of the user, of each of them once. -/
abbrev ChannelsResponse := KeyedTable CallChannelState.channelID

namespace ClientState

/-- A start time of 0 is none. -/
def callStartAtForCallInChannel (state : ClientState) (channelID : String) : Int :=
  ((state.plugin.calls.get? channelID).map CallState.startAt).getD 0

end ClientState

/-- What the handler of a reconnection reads besides the state. -/
structure Reconnection where
  callsClient : Bool
  isCallsPopOut : Bool
  currentUserID : String
  channelIDForCurrentCall : String
  ringingEnabled : Bool

def CallState.ofSnapshot (channelID : String) (call : CallStateClient) : CallState :=
  { id := call.id, channelID, startAt := call.startAt, ownerID := call.ownerID, threadID := call.threadID }

namespace Reconnection

/-- The call that is loaded for a channel, if the client does not know of one. -/
def callToLoad (known : ClientState) (item : CallChannelState) : Option CallStateClient :=
  item.call.filter fun call => call.sessions ≠ [] ∧ known.callStartAtForCallInChannel item.channelID = 0

/-- The actions for one channel of the response. A notification follows asynchronously. -/
def fetchChannel (reconnection : Reconnection) (known : ClientState) (item : CallChannelState) : List ClientAction :=
  if reconnection.channelIDForCurrentCall = item.channelID then []
  else .receivedChannelState item.channelID item.enabled ::
    match callToLoad known item with
    | none => []
    | some call =>
      [.plugin (.callState (.ofSnapshot item.channelID call)),
        .plugin (.usersStates item.channelID (getSessionsMapFromSessions call.sessions))] ++
      if reconnection.ringingEnabled = true ∧ call.dismissedNotification = some reconnection.currentUserID then
        [.dismissCall call.id]
      else []

/-- The actions for all channels; there are none if the request fails. -/
def fetchChannels (reconnection : Reconnection) (known : ClientState) : Option ChannelsResponse → List ClientAction
  | none => []
  | some response => response.rows.flatMap (reconnection.fetchChannel known)

/-- A window that is popped out does not care about the calls of other channels. -/
def onActivate (reconnection : Reconnection) (response : Option ChannelsResponse) (state : ClientState) : ClientState :=
  if reconnection.currentUserID = "" then state
  else if reconnection.isCallsPopOut then state
  else state.dispatchAll (reconnection.fetchChannels state response)

/-- Whether the client forgets what it knows. -/
def resets (reconnection : Reconnection) : Bool :=
  ¬ reconnection.callsClient ∧ reconnection.channelIDForCurrentCall = ""

/-- The handler that is registered for reconnections. -/
def handle (reconnection : Reconnection) (response : Option ChannelsResponse) (state : ClientState) : ClientState :=
  reconnection.onActivate response (if reconnection.resets then state.dispatch (.plugin .uninit) else state)

end Reconnection

/-- The call of the channel, if there is one with a session. -/
def ChannelsResponse.call? (response : ChannelsResponse) (channelID : String) : Option CallStateClient :=
  (response.find? channelID).bind fun item => item.call.filter (·.sessions ≠ [])

/-- What the client has of the channel is the call with its sessions. -/
structure ClientState.Has (state : ClientState) (channelID : String) (call : CallStateClient) : Prop where
  entry : ∃ entry, state.plugin.calls.get? channelID = some entry ∧ entry.id = call.id ∧ entry.startAt = call.startAt
  sessions : ∃ entries, state.plugin.sessions.get? channelID = some entries ∧ ∀ sessionID,
    entries.get? sessionID = (call.sessions.findRev? fun session => session.sessionID = sessionID).map UserSessionState.ofSession

/-- Besides the call and its sessions the client has nothing of the channel. -/
structure ClientState.NothingElse (state : ClientState) (channelID : String) : Prop where
  host : state.plugin.hosts.get? channelID = none
  screen : state.plugin.screenSharingIDs.get? channelID = none
  recording : state.recordings.get? channelID = none
  liveCaptions : state.callLiveCaptionsState.get? channelID = none

/-- The call that the client has of the channel has ended, or another one has taken its place. -/
def ClientState.Outdated (state : ClientState) (response : ChannelsResponse) (channelID : String) : Prop :=
  ∃ entry, state.plugin.calls.get? channelID = some entry ∧ ∀ call, response.call? channelID = some call → call.id ≠ entry.id

/-- Apart from the channel of the current call the client has the calls of the response, and nothing is
left of those that it had before and that are not there any more. -/
structure AgreesWith (reconnection : Reconnection) (response : ChannelsResponse) (before after : ClientState) : Prop where
  calls : ∀ channelID, channelID ≠ reconnection.channelIDForCurrentCall →
    match response.call? channelID with
    | none => after.plugin.calls.get? channelID = none ∧ (before.Outdated response channelID → after.plugin.sessions.get? channelID = none)
    | some call => after.Has channelID call
  outdated : ∀ channelID, channelID ≠ reconnection.channelIDForCurrentCall → before.Outdated response channelID →
    after.NothingElse channelID

namespace Reconnection

variable (reconnection : Reconnection)

/-- Whether the calls of the channels are fetched at all. -/
def fetches : Bool := reconnection.currentUserID ≠ "" ∧ ¬ reconnection.isCallsPopOut

/-- What has to hold of the client for it to end up with the calls of the response. -/
structure Fits (response : ChannelsResponse) (before : ClientState) : Prop where
  /-- A client that forgets what it knows does not forget live captions. -/
  forgets : reconnection.resets = true → (reconnection.fetches = true ∨ ∀ channelID, channelID ≠ reconnection.channelIDForCurrentCall →
      response.call? channelID = none) ∧
    ∀ channelID, channelID ≠ reconnection.channelIDForCurrentCall → before.Outdated response channelID →
      before.callLiveCaptionsState.get? channelID = none
  /-- One that does not has no other calls than those of the response, except for calls without a start time. -/
  keeps : reconnection.resets = false → ∀ channelID, channelID ≠ reconnection.channelIDForCurrentCall →
    (match response.call? channelID with
      | none => before.plugin.calls.get? channelID = none
      | some call => (reconnection.fetches = true ∧ before.callStartAtForCallInChannel channelID = 0) ∨ before.Has channelID call) ∧
    (before.Outdated response channelID → before.NothingElse channelID)

/-! ### Fetching -/

section
variable {known state : ClientState} {response : ChannelsResponse} {channelID : String}

/-- What the calls of one channel and their sessions become when its item is loaded. -/
def loadItem (known : ClientState) (item : CallChannelState) (old : Option CallState × Option (StringMap UserSessionState)) :
    Option CallState × Option (StringMap UserSessionState) :=
  match callToLoad known item with
  | none => old
  | some call => (some (.ofSnapshot item.channelID call), some (getSessionsMapFromSessions call.sessions))

def callOf (channelID : String) (state : ClientState) : Option CallState × Option (StringMap UserSessionState) :=
  (state.plugin.calls.get? channelID, state.plugin.sessions.get? channelID)

theorem callOf_fetchChannel (item : CallChannelState) (elsewhere : channelID ≠ reconnection.channelIDForCurrentCall) :
    callOf channelID (state.dispatchAll (reconnection.fetchChannel known item)) =
      if item.channelID = channelID then loadItem known item (callOf channelID state) else callOf channelID state := by
  unfold fetchChannel loadItem
  by_cases current : reconnection.channelIDForCurrentCall = item.channelID
  · rw [if_pos current, if_neg (by rw [← current]; exact elsewhere.symm)]
    rfl
  · rw [if_neg current]
    cases callToLoad known item with
    | none =>
      dsimp only
      rw [ite_self]
      rfl
    | some call =>
      dsimp only
      have loaded : callOf channelID (state.dispatchAll (.receivedChannelState item.channelID item.enabled ::
          ([.plugin (.callState (.ofSnapshot item.channelID call)),
            .plugin (.usersStates item.channelID (getSessionsMapFromSessions call.sessions))] ++
          if reconnection.ringingEnabled = true ∧ call.dismissedNotification = some reconnection.currentUserID then
            [.dismissCall call.id]
          else []))) =
          callOf channelID ((state.dispatch (.plugin (.callState (.ofSnapshot item.channelID call)))).dispatch
            (.plugin (.usersStates item.channelID (getSessionsMapFromSessions call.sessions)))) := by
        split <;> rfl
      rw [loaded]
      by_cases same : item.channelID = channelID
      · subst same
        simp [callOf, ClientState.dispatch, PluginState.dispatch, Webapp.calls, Webapp.sessions, CallState.ofSnapshot]
      · simp [callOf, ClientState.dispatch, PluginState.dispatch, Webapp.calls, Webapp.sessions, CallState.ofSnapshot, same, Ne.symm same]

/-- Each channel has what its item of the response loads. -/
theorem callOf_fetchChannels (elsewhere : channelID ≠ reconnection.channelIDForCurrentCall) :
    callOf channelID (state.dispatchAll (reconnection.fetchChannels known (some response))) =
      (response.find? channelID).elim (callOf channelID state) fun item => loadItem known item (callOf channelID state) := by
  unfold fetchChannels ClientState.dispatchAll
  rw [List.foldl_flatMap]
  refine KeyedTable.read_foldl (fun state item same => ?_) (fun state item other => ?_) state
  · exact (reconnection.callOf_fetchChannel item elsewhere).trans (if_pos same)
  · exact (reconnection.callOf_fetchChannel item elsewhere).trans (if_neg other)

/-- What the client has of calls besides their entries and sessions. -/
def besides (state : ClientState) : StringMap HostState × StringMap String × CallsJobState × CallsJobState :=
  (state.plugin.hosts, state.plugin.screenSharingIDs, state.recordings, state.callLiveCaptionsState)

theorem besides_fetchChannels : besides (state.dispatchAll (reconnection.fetchChannels known (some response))) = besides state := by
  have fetched (item : CallChannelState) (state : ClientState) :
      besides (state.dispatchAll (reconnection.fetchChannel known item)) = besides state := by
    unfold fetchChannel
    split
    · rfl
    · split
      · rfl
      · split <;> rfl
  unfold fetchChannels ClientState.dispatchAll
  rw [List.foldl_flatMap]
  induction response.rows generalizing state with
  | nil => rfl
  | cons first rest ih =>
    rw [List.foldl_cons, ih]
    exact fetched first state

/-- What becomes of a channel other than that of the current call. -/
theorem handle_calls (before : ClientState) (elsewhere : channelID ≠ reconnection.channelIDForCurrentCall) :
    callOf channelID (reconnection.handle (some response) before) =
      let base := callOf channelID (if reconnection.resets then before.dispatch (.plugin .uninit) else before)
      match response.call? channelID with
      | none => base
      | some call =>
        if reconnection.fetches = true ∧ (base.1.map CallState.startAt).getD 0 = 0 then
          (some (.ofSnapshot channelID call), some (getSessionsMapFromSessions call.sessions))
        else base := by
  unfold handle
  generalize (if reconnection.resets then before.dispatch (.plugin .uninit) else before) = base
  dsimp only
  unfold onActivate fetches ChannelsResponse.call?
  by_cases fetching : reconnection.currentUserID ≠ "" ∧ ¬ reconnection.isCallsPopOut = true
  · rw [if_neg fetching.1, if_neg fetching.2, reconnection.callOf_fetchChannels elsewhere]
    cases found : response.find? channelID with
    | none => rfl
    | some item =>
      have named : item.channelID = channelID := (KeyedTable.find?_eq_some_iff.mp found).2
      subst named
      simp only [Option.elim_some, Option.bind_some, loadItem, callToLoad, ClientState.callStartAtForCallInChannel, callOf]
      cases item.call with
      | none => rfl
      | some call =>
        by_cases filled : call.sessions = [] <;>
          by_cases unknown : ((base.plugin.calls.get? item.channelID).map CallState.startAt).getD 0 = 0 <;>
            simp [Option.filter, filled, unknown, fetching.1, fetching.2]
  · have unfetched : (if reconnection.currentUserID = "" then base
        else if reconnection.isCallsPopOut = true then base
        else base.dispatchAll (reconnection.fetchChannels base (some response))) = base := by
      by_cases loggedIn : reconnection.currentUserID = ""
      · rw [if_pos loggedIn]
      · rw [if_neg loggedIn, if_pos (not_not.mp fun mainWindow => fetching ⟨loggedIn, mainWindow⟩)]
    rw [unfetched, decide_eq_false fetching]
    cases (response.find? channelID).bind fun item => item.call.filter (·.sessions ≠ []) with
    | none => rfl
    | some call => exact (if_neg fun loads => Bool.false_ne_true loads.1).symm

theorem handle_besides (before : ClientState) : besides (reconnection.handle (some response) before) =
    besides (if reconnection.resets then before.dispatch (.plugin .uninit) else before) := by
  unfold handle onActivate
  generalize (if reconnection.resets then before.dispatch (.plugin .uninit) else before) = base
  split
  · rfl
  · split
    · rfl
    · exact reconnection.besides_fetchChannels

end

end Reconnection

/-! ### Agreement -/

section
variable {left right : ClientState} {channelID : String} {call : CallStateClient}

theorem ClientState.Has.congr (same : Reconnection.callOf channelID left = Reconnection.callOf channelID right)
    (has : left.Has channelID call) : right.Has channelID call := by
  obtain ⟨calls, sessions⟩ := Prod.mk.inj same
  exact ⟨calls ▸ has.entry, sessions ▸ has.sessions⟩

theorem ClientState.Has.of_loaded (loaded : Reconnection.callOf channelID left =
    (some (.ofSnapshot channelID call), some (getSessionsMapFromSessions call.sessions))) : left.Has channelID call := by
  obtain ⟨calls, sessions⟩ := Prod.mk.inj loaded
  exact ⟨⟨_, calls, rfl, rfl⟩, ⟨_, sessions, getSessionsMapFromSessions_get? call.sessions⟩⟩

theorem ClientState.NothingElse.congr (same : Reconnection.besides left = Reconnection.besides right)
    (nothing : left.NothingElse channelID) : right.NothingElse channelID := by
  simp only [Reconnection.besides, Prod.mk.injEq] at same
  obtain ⟨hosts, screens, recordings, liveCaptions⟩ := same
  exact ⟨hosts ▸ nothing.host, screens ▸ nothing.screen, recordings ▸ nothing.recording, liveCaptions ▸ nothing.liveCaptions⟩

end

/-- After a reconnection the client agrees with the response exactly where it could forget all that it knew, or
knew nothing that had changed. -/
theorem agreesWith_iff_fits (reconnection : Reconnection) (response : ChannelsResponse) (before : ClientState) :
    AgreesWith reconnection response before (reconnection.handle (some response) before) ↔ reconnection.Fits response before := by
  have calls := fun channelID => @Reconnection.handle_calls reconnection response channelID before
  have besides := @Reconnection.handle_besides reconnection response before
  cases resets : reconnection.resets with
  | true =>
    simp only [resets, if_true] at calls besides
    have forgotten (channelID : String) : Reconnection.callOf channelID (before.dispatch (.plugin .uninit)) = (none, none) := rfl
    constructor
    · intro agrees
      refine ⟨fun _ => ⟨?_, fun channelID elsewhere outdated => ?_⟩, fun kept => by simp [resets] at kept⟩
      · by_contra neither
        simp only [not_or, not_forall] at neither
        obtain ⟨unfetched, channelID, elsewhere, present⟩ := neither
        obtain ⟨call, found⟩ := Option.ne_none_iff_exists'.mp present
        have has := agrees.calls channelID elsewhere
        have after := calls channelID elsewhere
        rw [found] at has after
        rw [forgotten] at after
        dsimp only at has after
        rw [if_neg fun loads => unfetched loads.1] at after
        obtain ⟨entry, known, -⟩ := has.entry
        rw [(Prod.mk.inj after).1] at known
        cases known
      · exact ((agrees.outdated channelID elsewhere outdated).congr besides).liveCaptions
    · intro facts
      obtain ⟨forgets, -⟩ := facts
      obtain ⟨fetched, captions⟩ := forgets resets
      refine ⟨fun channelID elsewhere => ?_, fun channelID elsewhere outdated => ?_⟩
      · have after := calls channelID elsewhere
        rw [forgotten] at after
        cases found : response.call? channelID with
        | none =>
          rw [found] at after
          obtain ⟨entry, sessions⟩ := Prod.mk.inj after
          exact ⟨entry, fun _ => sessions⟩
        | some call =>
          rw [found] at after
          rcases fetched with fetches | empty
          · dsimp only at after
            rw [if_pos ⟨fetches, rfl⟩] at after
            exact .of_loaded after
          · rw [empty channelID elsewhere] at found
            cases found
      · exact .congr besides.symm ⟨rfl, rfl, rfl, captions channelID elsewhere outdated⟩
  | false =>
    simp only [resets, Bool.false_eq_true, if_false] at calls besides
    constructor
    · intro agrees
      refine ⟨fun forgets => by simp [resets] at forgets, fun _ channelID elsewhere => ⟨?_, fun outdated => ?_⟩⟩
      · have has := agrees.calls channelID elsewhere
        have after := calls channelID elsewhere
        cases found : response.call? channelID with
        | none =>
          rw [found] at has after
          exact (Prod.mk.inj after).1.symm.trans has.1
        | some call =>
          rw [found] at has after
          by_cases loads : reconnection.fetches = true ∧ before.callStartAtForCallInChannel channelID = 0
          · exact .inl loads
          · exact .inr (has.congr (after.trans (if_neg loads)))
      · exact (agrees.outdated channelID elsewhere outdated).congr besides
    · intro facts
      obtain ⟨-, keeps⟩ := facts
      have fits := keeps resets
      refine ⟨fun channelID elsewhere => ?_, fun channelID elsewhere outdated => ?_⟩
      · have known := (fits channelID elsewhere).1
        have after := calls channelID elsewhere
        cases found : response.call? channelID with
        | none =>
          rw [found] at known after
          refine ⟨(Prod.mk.inj after).1.trans known, fun ⟨entry, stale, _⟩ => ?_⟩
          rw [known] at stale
          cases stale
        | some call =>
          rw [found] at known after
          dsimp only at known after
          by_cases loads : reconnection.fetches = true ∧ before.callStartAtForCallInChannel channelID = 0
          · exact .of_loaded (after.trans (if_pos loads))
          · exact (known.resolve_left loads).congr (after.trans (if_neg loads)).symm
      · exact ((fits channelID elsewhere).2 outdated).congr besides.symm

/-- Bob is in the call of his own channel. -/
def bobInCall : Reconnection :=
  { callsClient := true, isCallsPopOut := false, currentUserID := "bob", channelIDForCurrentCall := "own", ringingEnabled := false }

/-- The call of a channel that Alice has started. -/
def callOfAlice (callID : String) (startAt : Int) : CallStateClient :=
  { id := callID, startAt, sessions := [⟨"conn-1", "alice", false, 0, false⟩], threadID := "thread", postID := "post",
    screenSharingSessionID := "", ownerID := "alice", hostID := "alice", recording := none, transcription := none,
    liveCaptions := none, dismissedNotification := none }

/-- While Bob's client was disconnected the call of another channel ended and a new one started there: he
goes on seeing the old one. -/
theorem not_agreesWith : ¬ ∀ reconnection response before, AgreesWith reconnection response before
    (Reconnection.handle reconnection (some response) before) := by
  intro agrees
  let before := (ClientState.initial.handleCallStart "own" "mine" 1000 "bob" "bob" "thread").handleCallStart "other" "old" 2000
    "alice" "alice" "thread"
  let response : ChannelsResponse := ⟨[⟨"other", none, some (callOfAlice "new" 3000)⟩], by decide⟩
  have has : (bobInCall.handle (some response) before).Has "other" (callOfAlice "new" 3000) :=
    (agrees bobInCall response before).calls "other" (by decide)
  obtain ⟨entry, known, new, -⟩ := has.entry
  have old : ((bobInCall.handle (some response) before).plugin.calls.get? "other").map CallState.id = some "old" := by decide
  rw [known, Option.map_some, new] at old
  exact absurd old (by decide)

end Calls.Webapp
