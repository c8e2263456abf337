import Calls.Webapp.ClientState

/-! Loading the state of a call into that of the client. Jobs are merged into what is known of
them already, so what is left of an earlier call stays where the server says nothing. -/

set_option autoImplicit false

namespace Calls.Webapp

/-- The fields of a job that the server provides; no error is an empty one. -/
structure ServerFields where
  type : Option JobType := none
  initAt : Option Int := none
  startAt : Option Int := none
  endAt : Option Int := none
  err : String := ""
  deriving DecidableEq

def ServerFields.ofJob : Option JobStateClient → ServerFields
  | none => {}
  | some job =>
    { type := some job.type, initAt := some job.initAt, startAt := some job.startAt, endAt := some job.endAt, err := job.err }

def CallJobReduxState.serverFields (entry : CallJobReduxState) : ServerFields :=
  { type := entry.type, initAt := entry.initAt, startAt := entry.startAt, endAt := entry.endAt, err := entry.err.getD "" }

/-- What is known of the job of a channel. -/
def CallsJobState.entry (state : CallsJobState) (channelID : String) : CallJobReduxState := (state.get? channelID).getD {}

/-- What the client knows of the channel is what the server says of its call. -/
structure Resynced (channelID : String) (call : CallStateClient) (state : ClientState) : Prop where
  recording : (CallsJobState.entry state.recordings channelID).serverFields = .ofJob call.recording
  liveCaptions : (CallsJobState.entry state.callLiveCaptionsState channelID).serverFields = .ofJob call.liveCaptions
  sessions : ∃ entries, state.plugin.sessions.get? channelID = some entries ∧ ∀ sessionID,
    entries.get? sessionID = (call.sessions.findRev? fun session => session.sessionID = sessionID).map UserSessionState.ofSession
  screen : state.plugin.screenSharingIDs.get? channelID = some call.screenSharingSessionID
  host : (state.plugin.hosts.get? channelID).map HostState.hostID = some call.hostID
  call : state.plugin.calls.get? channelID =
    some { id := call.id, channelID, startAt := call.startAt, ownerID := call.ownerID, threadID := call.threadID }

/-- No field of a job is known of the channel. -/
structure NoJobFields (channelID : String) (state : ClientState) : Prop where
  recording : CallsJobState.entry state.recordings channelID = {}
  liveCaptions : CallsJobState.entry state.callLiveCaptionsState channelID = {}

/-- The job that the server has says all that is known of the old one. -/
def Overwrites (old : CallJobReduxState) : Option JobStateClient → Prop
  | none => old.serverFields = {}
  | some job => job.err = "" → old.err.getD "" = ""

/-! ### Jobs -/

@[simp] theorem CallsJobState.entry_mergeJob (state : CallsJobState) (channelID : String) (jobState : Option CallJobReduxState) :
    CallsJobState.entry (mergeJob state channelID jobState) channelID =
      (CallsJobState.entry state channelID).merge (jobState.getD {}) := by
  simp [CallsJobState.entry, mergeJob]

@[simp] theorem CallJobReduxState.merge_empty (old : CallJobReduxState) : old.merge {} = old := rfl

theorem CallJobReduxState.merge_snapshot_iff (old : CallJobReduxState) (job : Option JobStateClient) :
    (old.merge ((job.map .ofSnapshot).getD {})).serverFields = .ofJob job ↔ Overwrites old job := by
  cases job with
  | none => exact Iff.rfl
  | some job =>
    by_cases fine : job.err = "" <;> simp [merge, ofSnapshot, serverFields, ServerFields.ofJob, Overwrites, fine]

/-! ### Sessions -/

/-- Of several sessions with one ID the last one stays. -/
theorem getSessionsMapFromSessions_get? (sessions : List UserStateClient) (sessionID : String) :
    (getSessionsMapFromSessions sessions).get? sessionID =
      (sessions.findRev? fun session => session.sessionID = sessionID).map UserSessionState.ofSession := by
  have from_map (map : StringMap UserSessionState) :
      (sessions.foldl (fun map session => map.set session.sessionID (.ofSession session)) map).get? sessionID =
        ((sessions.findRev? fun session => session.sessionID = sessionID).map UserSessionState.ofSession).or (map.get? sessionID) := by
    induction sessions generalizing map with
    | nil => rfl
    | cons first rest ih =>
      rw [List.foldl_cons, ih, StringMap.get?_set, List.findRev?]
      cases rest.findRev? fun session => session.sessionID = sessionID with
      | some later => rfl
      | none =>
        by_cases same : first.sessionID = sessionID
        · simp [same]
        · simp [same, Ne.symm same]
  rw [getSessionsMapFromSessions, from_map, StringMap.get?_empty, Option.or_none]

/-! ### Loading -/

section
variable (client : Client) (currentUserID channelID : String) (call : CallStateClient) (state : ClientState)

/-- The part about sessions, hosts and screens is loaded as by a client that knows of nothing else. -/
theorem ClientState.loadCallState_plugin : (state.loadCallState client currentUserID channelID call).plugin =
    Webapp.loadCallState client channelID call state.plugin := by
  unfold loadCallState Webapp.loadCallState dispatchAll
  by_cases dismissed : call.dismissedNotification = some currentUserID <;> simp only [dismissed, if_true, if_false] <;> rfl

theorem ClientState.loadCallState_recordings : (state.loadCallState client currentUserID channelID call).recordings =
    mergeJob state.recordings channelID (call.recording.map .ofSnapshot) := by
  unfold loadCallState dispatchAll
  by_cases dismissed : call.dismissedNotification = some currentUserID <;> simp only [dismissed, if_true, if_false] <;> rfl

theorem ClientState.loadCallState_liveCaptions : (state.loadCallState client currentUserID channelID call).callLiveCaptionsState =
    mergeJob state.callLiveCaptionsState channelID (call.liveCaptions.map .ofSnapshot) := by
  unfold loadCallState dispatchAll
  by_cases dismissed : call.dismissedNotification = some currentUserID <;> simp only [dismissed, if_true, if_false] <;> rfl

/-- Everything but the jobs is replaced by what the server has. -/
theorem resynced_iff : Resynced channelID call (state.loadCallState client currentUserID channelID call) ↔
    Overwrites (CallsJobState.entry state.recordings channelID) call.recording ∧
      Overwrites (CallsJobState.entry state.callLiveCaptionsState channelID) call.liveCaptions := by
  have recording := CallJobReduxState.merge_snapshot_iff (CallsJobState.entry state.recordings channelID) call.recording
  have liveCaptions := CallJobReduxState.merge_snapshot_iff (CallsJobState.entry state.callLiveCaptionsState channelID) call.liveCaptions
  rw [← CallsJobState.entry_mergeJob, ← state.loadCallState_recordings client currentUserID channelID call] at recording
  rw [← CallsJobState.entry_mergeJob, ← state.loadCallState_liveCaptions client currentUserID channelID call] at liveCaptions
  constructor
  · intro resynced
    exact ⟨recording.mp resynced.recording, liveCaptions.mp resynced.liveCaptions⟩
  · intro facts
    obtain ⟨recordingOld, captionsOld⟩ := facts
    refine ⟨recording.mpr recordingOld, liveCaptions.mpr captionsOld, ⟨getSessionsMapFromSessions call.sessions, ?_, ?_⟩, ?_, ?_, ?_⟩
    · rw [ClientState.loadCallState_plugin]
      simp [Webapp.loadCallState, PluginState.dispatch, sessions]
    · exact getSessionsMapFromSessions_get? call.sessions
    all_goals
      rw [ClientState.loadCallState_plugin]
      simp [Webapp.loadCallState, PluginState.dispatch, screenSharingIDs, hosts, calls]

/-- The start of a call leaves the jobs of the channel as they were. -/
theorem noJobFields_handleCallStart (callID : String) (startAt : Int) (ownerID hostID threadID : String) :
    NoJobFields channelID (state.handleCallStart channelID callID startAt ownerID hostID threadID) ↔ NoJobFields channelID state := by
  have recording : CallsJobState.entry (state.handleCallStart channelID callID startAt ownerID hostID threadID).recordings channelID =
      CallsJobState.entry state.recordings channelID := CallsJobState.entry_mergeJob state.recordings channelID none
  have liveCaptions : CallsJobState.entry (state.handleCallStart channelID callID startAt ownerID hostID threadID).callLiveCaptionsState
      channelID = CallsJobState.entry state.callLiveCaptionsState channelID :=
    CallsJobState.entry_mergeJob state.callLiveCaptionsState channelID none
  constructor
  · intro cleared
    exact ⟨recording.symm.trans cleared.recording, liveCaptions.symm.trans cleared.liveCaptions⟩
  · intro cleared
    exact ⟨recording.trans cleared.recording, liveCaptions.trans cleared.liveCaptions⟩

/-- Loading the state of a call is a full resync, and the start of a call clears the jobs, exactly where
nothing is known of a job that the server does not say anew. -/
theorem fullResync_iff (callID : String) (startAt : Int) (ownerID hostID threadID : String) :
    (Resynced channelID call (state.loadCallState client currentUserID channelID call) ↔
      Overwrites (CallsJobState.entry state.recordings channelID) call.recording ∧
        Overwrites (CallsJobState.entry state.callLiveCaptionsState channelID) call.liveCaptions) ∧
    (NoJobFields channelID (state.handleCallStart channelID callID startAt ownerID hostID threadID) ↔ NoJobFields channelID state) :=
  ⟨resynced_iff client currentUserID channelID call state,
    noJobFields_handleCallStart channelID state callID startAt ownerID hostID threadID⟩

end

/-- A call is recorded and ends. -/
def recordedBefore : ClientState :=
  let recording : JobStateClient := { type := .recording, initAt := 1500, startAt := 1600, endAt := 2000, err := "" }
  ((ClientState.initial.handleCallStart "channel" "first" 1000 "alice" "alice" "thread").handleCallJobState 2001
    "channel" recording).callEnd "channel"

/-- What is known of the recording is still there when the next call of the channel starts, and when
its state is loaded, which has no recording. -/
theorem not_fullResync :
    (¬ ∀ client currentUserID channelID call state,
      Resynced channelID call (ClientState.loadCallState client currentUserID channelID call state)) ∧
    ¬ ∀ channelID callID startAt ownerID hostID threadID state,
      NoJobFields channelID (ClientState.handleCallStart channelID callID startAt ownerID hostID threadID state) := by
  constructor
  · intro resyncs
    let call : CallStateClient :=
      { id := "second", startAt := 3000, sessions := [], threadID := "thread", postID := "post", screenSharingSessionID := "",
        ownerID := "alice", hostID := "alice", recording := none, transcription := none, liveCaptions := none,
        dismissedNotification := none }
    have resynced := resyncs { channelIDForCurrentCall := "", now := 3001 } "bob" "channel" call recordedBefore
    exact absurd resynced.recording (by decide)
  · intro clears
    have cleared := clears "channel" "second" 3000 "alice" "alice" "thread" recordedBefore
    exact absurd cleared.recording (by decide)

end Calls.Webapp
