import Calls.Webapp.CallEntries
import Calls.Webapp.SessionEntries

/-! The replica that a participant keeps of its call: the sessions of the users, the
host, and the session that shares its screen. -/

set_option autoImplicit false

namespace Calls.Webapp

/-- The entry without what is not published under the lock of the call. -/
def UserSessionState.settled (entry : UserSessionState) : UserSessionState :=
  { entry with voice := none, reaction := none }

/-- What the server has of a session, as an entry. -/
def UserSessionState.ofRow (row : CallSession) : UserSessionState :=
  { sessionID := some row.id, userID := some row.userID, unmuted := some row.unmuted, video := some row.video,
    raisedHand := some row.raisedHand }

/-- The entry that clients should have of a session of the call: none for the bot. -/
def shownEntry (botID : String) (rows : SessionMap) (sessionID : String) : Option UserSessionState :=
  ((rows.find? sessionID).filter fun row => row.userID ≠ botID).map .ofRow

/-- The state of a client for a channel is that of the call. -/
structure Replicates (botID channelID : String) (view : CallView) (state : PluginState) : Prop where
  entries : ∀ sessionID, (state.sessions.lookup channelID sessionID).map (·.settled) = shownEntry botID view.sessions sessionID
  host : (state.hosts.get? channelID).map HostState.hostID = some view.call.getHostID
  screen : (state.screenSharingIDs.get? channelID).getD "" = view.call.props.screenSharingSessionID

section
variable {botID sessionID other : String} {rows : SessionMap} {row : CallSession}

theorem shownEntry_user (found : rows.find? sessionID = some row) (user : row.userID ≠ botID) :
    shownEntry botID rows sessionID = some (.ofRow row) := by
  rw [shownEntry, found, Option.filter_some, if_pos (decide_eq_true user), Option.map_some]

theorem shownEntry_bot (found : rows.find? sessionID = some row) (bot : row.userID = botID) :
    shownEntry botID rows sessionID = none := by
  rw [shownEntry, found, Option.filter_some, if_neg (by simp [bot]), Option.map_none]

theorem shownEntry_none (absent : rows.find? sessionID = none) : shownEntry botID rows sessionID = none := by
  rw [shownEntry, absent]
  rfl

theorem shownEntry_put : shownEntry botID (rows.put row) other =
    if other = row.id then (if row.userID ≠ botID then some (.ofRow row) else none) else shownEntry botID rows other := by
  by_cases here : other = row.id
  · have found : (rows.put row).find? other = some row := by rw [KeyedTable.find?_put, if_pos here]
    rw [if_pos here]
    split
    · next user => exact shownEntry_user found user
    · next bot => exact shownEntry_bot found (not_not.mp bot)
  · rw [if_neg here, shownEntry, shownEntry, KeyedTable.find?_put, if_neg here]

theorem shownEntry_erase : shownEntry botID (rows.erase sessionID) other =
    if other = sessionID then none else shownEntry botID rows other := by
  by_cases here : other = sessionID
  · rw [if_pos here, shownEntry_none (by rw [KeyedTable.find?_erase, if_pos here])]
  · rw [if_neg here, shownEntry, shownEntry, KeyedTable.find?_erase, if_neg here]

end

/-- A screen is cleared if it is that of the session. -/
theorem clearScreen_some (channelID sessionID : String) (screens : StringMap String) :
    ((clearScreen channelID (some sessionID) screens).get? channelID).getD "" =
      if (screens.get? channelID).getD "" = sessionID then "" else (screens.get? channelID).getD "" := by
  unfold clearScreen
  split
  · next different =>
    cases shared : screens.get? channelID with
    | none => simp
    | some sharer => exact (if_neg fun same => different (by rw [shared, ← same]; rfl)).symm
  · next same =>
    have shared : screens.get? channelID = some sessionID := (not_not.mp same).symm
    rw [StringMap.get?_set, if_pos rfl, shared]
    exact (if_pos rfl).symm

namespace Replicates

variable {client : Client} {botID channelID sessionID userID : String} {view : CallView} {state after : PluginState}
  {row : CallSession}

/-- The replica knows of the sessions of users, and of no others. -/
theorem knows_iff (replicates : Replicates botID channelID view state) :
    state.Knows channelID sessionID ↔ ∃ row, view.sessions.find? sessionID = some row ∧ row.userID ≠ botID := by
  have known : state.Knows channelID sessionID ↔ (state.sessions.lookup channelID sessionID).isSome = true := by
    rw [PluginState.Knows, StringMap.contains_eq_isSome, SessionsState.lookup]
    cases state.sessions.get? channelID with
    | none => exact Iff.rfl
    | some entries => exact Iff.rfl
  rw [known, ← Option.isSome_map, replicates.entries, shownEntry, Option.isSome_map, Option.isSome_iff_exists]
  simp only [Option.filter_eq_some_iff, decide_eq_true_eq]

/-- The entry of a session of a user. -/
theorem entry (replicates : Replicates botID channelID view state) (found : view.sessions.find? sessionID = some row)
    (user : row.userID ≠ botID) : ∃ entries entry, state.sessions.get? channelID = some entries ∧
      entries.get? sessionID = some entry ∧ entry.settled = .ofRow row := by
  have shown := replicates.entries sessionID
  rw [shownEntry_user found user] at shown
  obtain ⟨entry, listed, settled⟩ := Option.map_eq_some_iff.mp shown
  obtain ⟨entries, known, listed⟩ := Option.bind_eq_some_iff.mp listed
  exact ⟨entries, entry, known, listed, settled⟩

/-- A call with the same host and the same screen. -/
theorem congr {call : Call} (replicates : Replicates botID channelID view state) (host : call.getHostID = view.call.getHostID)
    (screen : call.props.screenSharingSessionID = view.call.props.screenSharingSessionID) :
    Replicates botID channelID ⟨call, view.sessions⟩ state :=
  ⟨replicates.entries, by rw [host]; exact replicates.host, by rw [screen]; exact replicates.screen⟩

/-- A field of the entry of a user's session is set as it is in the row. -/
theorem patched (replicates : Replicates botID channelID view state) (found : view.sessions.find? sessionID = some row)
    (user : row.userID ≠ botID) (changed : CallSession) {created : UserSessionState} {change : UserSessionState → UserSessionState}
    (wrote : after.sessions = patchSession channelID sessionID created change state.sessions) (hosts : after.hosts = state.hosts)
    (screens : after.screenSharingIDs = state.screenSharingIDs) (settles : ∀ entry, (change entry).settled = change entry.settled)
    (same : change (.ofRow row) = .ofRow (row.updatedFrom changed)) :
    Replicates botID channelID ⟨view.call, view.sessions.modify sessionID (·.updatedFrom changed) fun row => row.updatedFrom_id _⟩
      after := by
  refine ⟨fun other => ?_, by rw [hosts]; exact replicates.host, by rw [screens]; exact replicates.screen⟩
  obtain ⟨entries, entry, known, listed, settled⟩ := replicates.entry found user
  rw [wrote, lookup_patchSession]
  by_cases here : other = sessionID
  · subst here
    have changedRow : (view.sessions.modify other (·.updatedFrom changed) fun row => row.updatedFrom_id _).find? other =
        some (row.updatedFrom changed) := by
      rw [KeyedTable.find?_modify, if_pos rfl, found, Option.map_some]
    rw [if_pos ⟨rfl, rfl⟩, shownEntry_user changedRow user, Option.map_some, patched, known]
    dsimp only
    rw [listed, Option.getD_some, settles, settled, same]
  · rw [if_neg fun both => here both.2, replicates.entries, shownEntry, shownEntry, KeyedTable.find?_modify, if_neg here]

theorem muted (replicates : Replicates botID channelID view state) (found : view.sessions.find? sessionID = some row)
    (user : row.userID ≠ botID) : Replicates botID channelID
      ⟨view.call, view.sessions.modify sessionID (·.updatedFrom { row with unmuted := false }) fun row => row.updatedFrom_id _⟩
      (handleEvent client channelID (.userMuted userID sessionID) state) := by
  have wrote : (handleEvent client channelID (.userMuted userID sessionID) state).sessions = patchSession channelID sessionID
      (newSession sessionID userID) ({ · with unmuted := some false }) state.sessions := rfl
  exact replicates.patched found user _ wrote rfl rfl (fun _ => rfl) rfl

theorem unmuted (replicates : Replicates botID channelID view state) (found : view.sessions.find? sessionID = some row)
    (user : row.userID ≠ botID) : Replicates botID channelID
      ⟨view.call, view.sessions.modify sessionID (·.updatedFrom { row with unmuted := true }) fun row => row.updatedFrom_id _⟩
      (handleEvent client channelID (.userUnmuted userID sessionID) state) := by
  have wrote : (handleEvent client channelID (.userUnmuted userID sessionID) state).sessions = patchSession channelID sessionID
      { newSession sessionID userID with unmuted := some true } ({ · with unmuted := some true }) state.sessions := rfl
  exact replicates.patched found user _ wrote rfl rfl (fun _ => rfl) rfl

theorem videoOn (replicates : Replicates botID channelID view state) (found : view.sessions.find? sessionID = some row)
    (user : row.userID ≠ botID) : Replicates botID channelID
      ⟨view.call, view.sessions.modify sessionID (·.updatedFrom { row with video := true }) fun row => row.updatedFrom_id _⟩
      (handleEvent client channelID (.userVideoOn userID sessionID) state) := by
  have wrote : (handleEvent client channelID (.userVideoOn userID sessionID) state).sessions = patchSession channelID sessionID
      { newSession sessionID userID with video := some true } ({ · with video := some true }) state.sessions := rfl
  exact replicates.patched found user _ wrote rfl rfl (fun _ => rfl) rfl

theorem videoOff (replicates : Replicates botID channelID view state) (found : view.sessions.find? sessionID = some row)
    (user : row.userID ≠ botID) : Replicates botID channelID
      ⟨view.call, view.sessions.modify sessionID (·.updatedFrom { row with video := false }) fun row => row.updatedFrom_id _⟩
      (handleEvent client channelID (.userVideoOff userID sessionID) state) := by
  have wrote : (handleEvent client channelID (.userVideoOff userID sessionID) state).sessions = patchSession channelID sessionID
      { newSession sessionID userID with unmuted := some true } ({ · with video := some false }) state.sessions := rfl
  exact replicates.patched found user _ wrote rfl rfl (fun _ => rfl) rfl

theorem handSet (replicates : Replicates botID channelID view state) (found : view.sessions.find? sessionID = some row)
    (user : row.userID ≠ botID) (raisedHand : Int) {ev : WsEvent}
    (about : ev = .userRaiseHand userID sessionID raisedHand ∨ ev = .userUnraiseHand userID sessionID raisedHand) :
    Replicates botID channelID
      ⟨view.call, view.sessions.modify sessionID (·.updatedFrom { row with raisedHand }) fun row => row.updatedFrom_id _⟩
      (handleEvent client channelID ev state) := by
  have wrote : (handleEvent client channelID ev state).sessions = patchSession channelID sessionID
      { newSession sessionID userID with raisedHand := some raisedHand } ({ · with raisedHand := some raisedHand })
      state.sessions := by
    obtain rfl | rfl := about <;> rfl
  have others : (handleEvent client channelID ev state).hosts = state.hosts ∧
      (handleEvent client channelID ev state).screenSharingIDs = state.screenSharingIDs := by
    obtain rfl | rfl := about <;> exact ⟨rfl, rfl⟩
  exact replicates.patched found user _ wrote others.1 others.2 (fun _ => rfl) rfl

/-- A session of a user joins. -/
theorem userJoined (replicates : Replicates botID channelID view state) (user : row.userID ≠ botID)
    (fresh : row.unmuted = false ∧ row.video = false ∧ row.raisedHand = 0) :
    Replicates botID channelID ⟨view.call, view.sessions.put row⟩
      (handleEvent client channelID (.userJoined row.userID row.id) state) := by
  refine ⟨fun other => ?_, replicates.host, replicates.screen⟩
  obtain ⟨muted, noVideo, handDown⟩ := fresh
  have entered : (newSession row.id row.userID).settled = .ofRow row := by
    rw [UserSessionState.ofRow, muted, noVideo, handDown]
    rfl
  have set : (handleEvent client channelID (.userJoined row.userID row.id) state).sessions.lookup channelID other = _ :=
    lookup_set_entry (newSession row.id row.userID)
  rw [set, shownEntry_put, if_pos user]
  by_cases here : other = row.id
  · rw [if_pos ⟨rfl, here⟩, if_pos here, Option.map_some, entered]
  · rw [if_neg fun both => here both.2, if_neg here, replicates.entries]

/-- The bot joins, which clients are not told of. -/
theorem botJoined (replicates : Replicates botID channelID view state) (bot : row.userID = botID)
    (absent : view.sessions.contains row.id = false) :
    Replicates botID channelID ⟨view.call, view.sessions.put row⟩ state := by
  refine ⟨fun other => ?_, replicates.host, replicates.screen⟩
  rw [replicates.entries, shownEntry_put]
  by_cases here : other = row.id
  · rw [if_pos here, if_neg (not_not.mpr bot), here]
    exact shownEntry_none (Option.not_isSome_iff_eq_none.mp (by rw [KeyedTable.contains] at absent; simp [absent]))
  · rw [if_neg here]

/-- A session of a user leaves others, and its screen goes with it. -/
theorem userLeft (replicates : Replicates botID channelID view state) (userID : String)
    (others : ∃ id, id ≠ sessionID ∧ state.Knows channelID id) {call : Call} (host : call.getHostID = view.call.getHostID)
    (screen : call.props.screenSharingSessionID =
      if view.call.props.screenSharingSessionID = sessionID then "" else view.call.props.screenSharingSessionID) :
    Replicates botID channelID ⟨call, view.sessions.erase sessionID⟩
      (handleEvent client channelID (.userLeft userID sessionID) state) := by
  have received : handleEvent client channelID (.userLeft userID sessionID) state =
      state.dispatch (.userLeft channelID userID sessionID) := PluginState.userLeft_eq_dispatch userID others
  rw [received]
  refine ⟨fun other => ?_, by rw [host]; exact replicates.host, ?_⟩
  · have left : (state.dispatch (.userLeft channelID userID sessionID)).sessions.lookup channelID other = _ :=
      lookup_userLeft userID
    rw [left, shownEntry_erase]
    by_cases here : other = sessionID
    · rw [if_pos ⟨rfl, here⟩, if_pos here, Option.map_none]
    · rw [if_neg fun both => here both.2, if_neg here, replicates.entries]
  · rw [screen, ← replicates.screen]
    exact clearScreen_some channelID sessionID state.screenSharingIDs

/-- The bot leaves, which clients are not told of. -/
theorem botLeft (replicates : Replicates botID channelID view state) (found : view.sessions.find? sessionID = some row)
    (bot : row.userID = botID) : Replicates botID channelID ⟨view.call, view.sessions.erase sessionID⟩ state := by
  refine ⟨fun other => ?_, replicates.host, replicates.screen⟩
  rw [replicates.entries, shownEntry_erase]
  by_cases here : other = sessionID
  · rw [if_pos here, here, shownEntry_bot found bot]
  · rw [if_neg here]

theorem hostChanged (replicates : Replicates botID channelID view state) {call : Call} (callID : String)
    (screen : call.props.screenSharingSessionID = view.call.props.screenSharingSessionID) :
    Replicates botID channelID ⟨call, view.sessions⟩ (handleEvent client channelID (.callHostChanged call.getHostID callID) state) := by
  refine ⟨replicates.entries, ?_, by rw [screen]; exact replicates.screen⟩
  simp only [handleEvent, channelOf, PluginState.dispatch, hosts, StringMap.get?_set, if_true, Option.map_some]

theorem screenOn (replicates : Replicates botID channelID view state) {call : Call} (host : call.getHostID = view.call.getHostID)
    (screen : call.props.screenSharingSessionID = sessionID) (userID : String) :
    Replicates botID channelID ⟨call, view.sessions⟩ (handleEvent client channelID (.userScreenOn userID sessionID) state) := by
  refine ⟨replicates.entries, by rw [host]; exact replicates.host, ?_⟩
  simp only [handleEvent, channelOf, PluginState.dispatch, screenSharingIDs, StringMap.get?_set, if_true, Option.getD_some, screen]

theorem screenOff (replicates : Replicates botID channelID view state) {call : Call} (host : call.getHostID = view.call.getHostID)
    (was : view.call.props.screenSharingSessionID = sessionID) (screen : call.props.screenSharingSessionID = "")
    (userID : Option String) :
    Replicates botID channelID ⟨call, view.sessions⟩
      (handleEvent client channelID (.userScreenOff userID (some sessionID)) state) := by
  refine ⟨replicates.entries, by rw [host]; exact replicates.host, ?_⟩
  have cleared := clearScreen_some channelID sessionID state.screenSharingIDs
  rw [if_pos (replicates.screen.trans was)] at cleared
  rw [screen]
  exact cleared

/-- A snapshot of the call, whatever the client had before. -/
theorem loaded (client : Client) (botID channelID userID : String) (order : IterationOrder) (cs : Calls.CallState) (prior : PluginState) :
    Replicates botID channelID cs.view (loadCallState client channelID (cs.getClientState order botID userID) prior) := by
  refine ⟨fun sessionID => ?_, ?_, ?_⟩
  · have lookup : (loadCallState client channelID (cs.getClientState order botID userID) prior).sessions.lookup channelID sessionID =
        (getSessionsMapFromSessions (cs.getStates order botID)).get? sessionID := (lookup_set _).trans (if_pos rfl)
    have shown {row : CallSession} : row ∈ (order.visit cs.sessions.rows).filter (fun row => row.userID ≠ botID) ↔
        row ∈ cs.sessions ∧ row.userID ≠ botID := by
      rw [List.mem_filter, (order.perm _).mem_iff, decide_eq_true_eq]
      exact Iff.rfl
    -- The entry of a state in the snapshot is that of the one row with its ID.
    have ofRow {entry : UserSessionState} (listed : (getSessionsMapFromSessions (cs.getStates order botID)).get? sessionID = some entry) :
        ∃ row, cs.sessions.find? sessionID = some row ∧ row.userID ≠ botID ∧ entry.settled = .ofRow row := by
      obtain ⟨session, member, named, rfl⟩ := get?_getSessionsMapFromSessions listed
      obtain ⟨row, stored, rfl⟩ := List.mem_map.mp member
      obtain ⟨inCall, user⟩ := shown.mp stored
      exact ⟨row, KeyedTable.find?_eq_some_iff.mpr ⟨inCall, named⟩, user, rfl⟩
    rw [lookup]
    cases listed : (getSessionsMapFromSessions (cs.getStates order botID)).get? sessionID with
    | some entry =>
      obtain ⟨row, found, user, settled⟩ := ofRow listed
      exact (congrArg some settled).trans (shownEntry_user found user).symm
    | none =>
      cases found : cs.sessions.find? sessionID with
      | none => exact (shownEntry_none found).symm
      | some row =>
        by_cases bot : row.userID = botID
        · exact (shownEntry_bot found bot).symm
        · obtain ⟨inCall, named⟩ := KeyedTable.find?_eq_some_iff.mp found
          have stated : ∃ session ∈ cs.getStates order botID, session.sessionID = sessionID :=
            ⟨_, List.mem_map_of_mem (shown.mpr ⟨inCall, bot⟩), named⟩
          obtain ⟨session, member, rfl⟩ := stated
          obtain ⟨entry, there⟩ := mem_getSessionsMapFromSessions member
          rw [there] at listed
          cases listed
  · exact congrArg (Option.map HostState.hostID) ((StringMap.get?_set _ _ _ _).trans (if_pos rfl))
  · exact congrArg (Option.getD · "") ((StringMap.get?_set _ _ _ _).trans (if_pos rfl))

/-- The end of a screen that names no session. -/
theorem unnamedScreenOff (replicates : Replicates botID channelID view state) :
    Replicates botID channelID view (handleEvent client channelID (.userScreenOff none none) state) := by
  refine ⟨replicates.entries, replicates.host, ?_⟩
  rw [← replicates.screen]
  show ((clearScreen channelID none state.screenSharingIDs).get? channelID).getD "" = _
  unfold clearScreen
  split
  · rfl
  · next unshared => rw [← not_not.mp unshared, StringMap.get?_set, if_pos rfl, Option.getD_some, Option.getD_none]

end Replicates

/-! ### Other channels -/

/-- The channel that an action is about. -/
def Action.channelID? : Action → Option String
  | .uninit => none
  | .callState data => some data.channelID
  | .callEnd channelID _ | .userJoined channelID _ _ | .userLeft channelID _ _ | .usersStates channelID _
  | .userMuted channelID _ _ | .userUnmuted channelID _ _ | .userVoiceOn channelID _ _ | .userVoiceOff channelID _ _
  | .userRaiseHand channelID _ _ _ | .userLowerHand channelID _ _ _ | .userReacted channelID _ _ _
  | .userReactedTimeout channelID _ _ _ | .userVideoOn channelID _ _ | .userVideoOff channelID _ _
  | .userScreenOn channelID _ | .userScreenOff channelID _ | .callHost channelID _ _ => some channelID

/-- Nothing has changed in the channel. -/
structure PluginState.SameIn (channelID : String) (before after : PluginState) : Prop where
  sessions : after.sessions.get? channelID = before.sessions.get? channelID
  hosts : after.hosts.get? channelID = before.hosts.get? channelID
  screens : after.screenSharingIDs.get? channelID = before.screenSharingIDs.get? channelID

namespace PluginState.SameIn

variable {channelID : String} {before middle after : PluginState}

theorem refl (state : PluginState) : SameIn channelID state state := ⟨rfl, rfl, rfl⟩

theorem trans (first : SameIn channelID before middle) (second : SameIn channelID middle after) : SameIn channelID before after :=
  ⟨second.sessions.trans first.sessions, second.hosts.trans first.hosts, second.screens.trans first.screens⟩

theorem dispatch {action : Action} {other : String} (about : action.channelID? = some other) (elsewhere : other ≠ channelID)
    (state : PluginState) : SameIn channelID state (state.dispatch action) := by
  have cleared (sessionID : Option String) (screens : StringMap String) :
      (clearScreen other sessionID screens).get? channelID = screens.get? channelID := by
    unfold clearScreen
    split
    · rfl
    · rw [StringMap.get?_set, if_neg (Ne.symm elsewhere)]
  cases action with
  | uninit => cases about
  | userReactedTimeout _ userID sessionID reaction =>
    cases about
    refine ⟨?_, rfl, rfl⟩
    simp only [PluginState.dispatch, Webapp.sessions]
    split
    · rfl
    · split
      · rfl
      · split
        · rfl
        · split
          · rfl
          · rw [StringMap.get?_set, if_neg (Ne.symm elsewhere)]
  | userLeft _ userID sessionID =>
    cases about
    refine ⟨?_, rfl, cleared _ _⟩
    simp only [PluginState.dispatch, Webapp.sessions]
    split
    · rw [StringMap.get?_set, if_neg (Ne.symm elsewhere)]
    · rfl
  | _ =>
    cases about
    refine ⟨?_, ?_, ?_⟩ <;>
      simp only [PluginState.dispatch, Webapp.sessions, Webapp.hosts, Webapp.screenSharingIDs, patchSession_eq, StringMap.get?_set,
        StringMap.get?_erase, Ne.symm elsewhere, if_false, cleared]

end PluginState.SameIn

section
variable {client : Client} {channelID : String}

/-- An event of another channel. -/
theorem handleEvent_elsewhere {broadcast : String} {ev : WsEvent} (elsewhere : channelOf broadcast ev ≠ channelID) (state : PluginState) :
    state.SameIn channelID (handleEvent client broadcast ev state) := by
  have quiet (action : Action) (about : action.channelID? = some (channelOf broadcast ev)) (state : PluginState) :
      state.SameIn channelID (state.dispatch action) := .dispatch about elsewhere state
  cases ev with
  | callEnd => exact quiet _ rfl state
  | callState other call =>
    exact (((quiet (.callState _) rfl state).trans (quiet (.userScreenOn other _) rfl _)).trans
      (quiet (.callHost other _ _) rfl _)).trans (quiet (.usersStates other _) rfl _)
  | callStart => exact (quiet (.callState _) rfl state).trans (quiet (.callHost _ _ _) rfl _)
  | userLeft userID sessionID =>
    have left := quiet (.userLeft broadcast userID sessionID) rfl state
    show state.SameIn channelID (state.userLeft broadcast userID sessionID)
    by_cases empty : (state.dispatch (.userLeft broadcast userID sessionID)).numSessionsInCallInChannel broadcast = 0
    · rw [PluginState.userLeft, if_pos empty]
      exact left.trans (quiet (.callEnd broadcast _) rfl _)
    · rw [PluginState.userLeft, if_neg empty]
      exact left
  | userReacted =>
    simp only [handleEvent]
    split
    · exact .refl state
    · exact quiet _ rfl state
  | join | error | callJobState | jobStop => exact .refl state
  | _ => exact quiet _ rfl state

theorem receive_elsewhere {deliveries : List Delivery} (elsewhere : ∀ delivery ∈ deliveries, channelOf delivery.channelID delivery.ev ≠ channelID)
    (state : PluginState) : state.SameIn channelID (receive client deliveries state) := by
  induction deliveries generalizing state with
  | nil => exact .refl state
  | cons delivery rest ih =>
    have here : state.SameIn channelID (handleEvent client delivery.channelID delivery.ev state) :=
      handleEvent_elsewhere (elsewhere delivery List.mem_cons_self) state
    exact here.trans (ih (fun other member => elsewhere other (List.mem_cons_of_mem _ member)) _)

end
theorem Replicates.same {botID channelID : String} {view : CallView} {before after : PluginState}
    (replicates : Replicates botID channelID view before) (same : before.SameIn channelID after) :
    Replicates botID channelID view after := by
  refine ⟨fun sessionID => ?_, by rw [same.hosts]; exact replicates.host, by rw [same.screens]; exact replicates.screen⟩
  rw [SessionsState.lookup, same.sessions]
  exact replicates.entries sessionID

/-! ### What the server tells of other channels -/

section
variable {member : String} {channels : String → Bool}

/-- What reaches the user of a publication to a channel is about this channel. -/
theorem channelOf_published {botID : String} (user : member ≠ botID) {ev : WsEvent} {target : String} {userIDs : List String}
    {delivery : Delivery} (sent : delivery ∈ (publishWebSocketEvent botID ev
      { channelID := target, reliableClusterSend := true, userIDs }).filter (·.heardBy member channels)) :
    channelOf delivery.channelID delivery.ev = channelOf target ev := by
  obtain ⟨omitUsers, -, -, published⟩ := publishWebSocketEvent_eq botID ev target true userIDs
  rw [published] at sent
  split at sent
  · cases sent
  · rw [List.filter_append, heardBy_forBot user channels ev _ fun toBot => toBot.1, List.nil_append] at sent
    obtain ⟨sent, -⟩ := List.mem_filter.mp sent
    split at sent
    · rw [List.mem_singleton.mp sent]
    · obtain ⟨userID, -, rfl⟩ := List.mem_map.mp sent
      rfl

variable {env : Env} (user : member ≠ env.botID) {target : String} {delivery : Delivery}
include user

theorem channelOf_participantNews {cs : Calls.CallState} {ev : Option WsEvent} (about : ∀ told, ev = some told → channelOf target told = target)
    (sent : delivery ∈ (participantNews env.botID target cs ev).filter (·.heardBy member channels)) :
    channelOf delivery.channelID delivery.ev = target := by
  cases ev with
  | none => cases sent
  | some told => exact (channelOf_published user sent).trans (about told rfl)

theorem channelOf_joinNews {req : JoinRequest} {state : Option Calls.CallState} {joined : Calls.CallState}
    (sent : delivery ∈ (joinNews env target req state joined).filter (·.heardBy member channels)) :
    channelOf delivery.channelID delivery.ev = target := by
  simp only [joinNews, hostNews, sessionNews, List.filter_append, List.mem_append] at sent
  rcases sent with (host | start) | session
  · split at host
    · exact channelOf_published user host
    · cases host
  · split at start
    · refine (channelOf_published user start).trans ?_
      simp only [channelOf, ite_self]
    · cases start
  · split at session
    · rw [List.filter_append, List.mem_append] at session
      rcases session with joined | snapshot
      · exact channelOf_published user joined
      · rw [ev_of_mem_publish (List.mem_filter.mp snapshot).1]
        rfl
    · cases session

theorem channelOf_leaveNews {ref : SessionRef} {us : CallSession} {held : Calls.CallState}
    (sent : delivery ∈ (leaveNews env target ref us held).filter (·.heardBy member channels)) :
    channelOf delivery.channelID delivery.ev = target := by
  simp only [leaveNews, List.filter_append, List.mem_append] at sent
  rcases sent with ((screen | video) | left) | host
  · split at screen
    · exact channelOf_published user screen
    · cases screen
  · split at video
    · exact channelOf_published user video
    · cases video
  · exact channelOf_published user left
  · split at host
    · exact channelOf_published user host
    · cases host

end

end Calls.Webapp
