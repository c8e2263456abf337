import Calls.Server.ToldRequests

/-! The participants of a call were last told what its latest recording is, in runs of
all that happens to recordings. -/

set_option autoImplicit false

namespace Calls

open LockedHandler Command

/-- What a step relies on so that the participants go on knowing of the recording. -/
def TellsLatest (runs : RecordingRuns) : JobRunStep → Prop
  | .operation step => OpensKnowingly runs.ops step
  | .returned env index trID lcID result => ∀ start cs, runs.starts[index]? = some start →
      (lockCallReturnState env start.channelID runs.ops.world).1 = .ok (some cs) →
      match start.phase with
      | .recording userID => AnswerFits env ⟨runs.ops.world, cs⟩ result ∧
          ((∃ recState, cs.recording = some recState) → (∃ jobID, result = .ok jobID) → env.config.transcriptionsEnabled = true →
            TranscriptionBegins env cs runs.ops.world.store userID trID lcID)
      | .transcription liveCaptionsOn outer => OuterFits env runs.ops.world.store cs outer liveCaptionsOn result
  -- A recording whose bot does not join in time is ended in the store.
  | .recTimeout env channelID jobID => ∀ cs, (lockCallReturnState env channelID runs.ops.world).1 = .ok (some cs) →
      ∀ recState, cs.recording = some recState → recState.startAt = 0 → recState.props.jobID = jobID →
        env.faults (.updateCallJob recState.id) = false
  -- No recording is ended in the store with a transcription whose bot does not join in time.
  | .trTimeout env channelID jobID => ∀ cs, (lockCallReturnState env channelID runs.ops.world).1 = .ok (some cs) →
      ∀ trState recState, cs.transcription = some trState → trState.startAt = 0 → trState.props.jobID = jobID →
        cs.recording = some recState → env.faults (.updateCallJob recState.id) = true
  | _ => True

/-- The last event about a recording tells of the latest one of the ongoing call. -/
def World.ShowsRecordings (world : World) : Prop :=
  ∀ channelID call row, world.store.activeCall? channelID = some call → world.store.latestRecording? call.id = some row →
    world.toldPhase channelID = some row.phase

theorem ToldWorld.shows {world : World} (told : ToldWorld world) : world.ShowsRecordings := by
  intro channelID call row active latest
  obtain ⟨member, channel, running⟩ := Store.activeCall?_eq_some active
  simp only [Store.isActive, decide_eq_true_eq] at running
  subst channel
  refine told.told call member running.1 row.phase ?_
  rw [← Store.latestRecording?_jobsOf, latest]
  rfl

section
variable {env : Env} {channelID : String} {before : World} {cs : CallState}

theorem Store.Loads.savesRecording (world : ToldWorld before) (loads : before.store.Loads channelID (some cs)) {recState : CallJob}
    (held : cs.recording = some recState) :
    (⟨before, cs⟩ : LockedCall).savesRecording env = !env.faults (.updateCallJob recState.id) := by
  obtain ⟨-, -, sees, -⟩ := world.loaded loads
  have faults : env.faults (.updateCallJob recState.id) = !(⟨before, cs⟩ : LockedCall).savesRecording env :=
    (sees.memory .recording recState held).savesRecording
  rw [faults, Bool.not_not]

/-- A request that stops the recording at most. -/
theorem StepTells.of_stops {α : Type} {command : LockedHandler α} (world : ToldWorld before)
    (kept : ∀ seen, KeptByJobs env channelID (fun locked => locked.apartFromJobs = seen) →
      Maintains (fun locked => locked.apartFromJobs = seen) command)
    (stops : ∀ cs, (lockCallReturnState env channelID before).1 = .ok (some cs) → before.store.Loads channelID (some cs) →
      TellsRow channelID ⟨before, cs⟩ (command ⟨before, cs⟩).2) :
    StepTells channelID before (Calls.underLock env channelID command before).2 := by
  refine .underLock world (fun seen => kept seen (keptByJobs_apartFromJobs seen)) fun cs loaded loads => ?_
  exact (stops cs loaded loads).jobsTell (world.fine _)

theorem checkHost_wp {userID : String} {locked : LockedCall} {post : Except String Unit → LockedCall → Prop}
    (refused : ∀ err, post (.error err) locked) (host : post (.ok ()) locked) : (checkHost userID).wp post locked := by
  unfold checkHost
  rw [wp_bind, wp_getState, andThen_ok, wp_throwIf]
  exact ⟨fun _ => refused _, fun _ => host⟩

theorem checkHost_maintains {userID : String} {holds : LockedCall → Prop} : Maintains holds (checkHost userID) :=
  getState_maintains.bind fun _ => .throwIf _

theorem startRecording_tells (world : ToldWorld before) (userID : String) :
    StepTells channelID before (startRecording env channelID userID before).2 := by
  have apart : Preserves LockedCall.apartFromJobs (do
      checkHost userID
      beginRecordingJob env channelID userID) := fun seen =>
    checkHost_maintains.bind fun _ => (keptByJobs_apartFromJobs seen).writing.beginRecordingJob (fun job => createCallJob_apartFromJobs job seen) userID
  have tells : StepTells channelID before (Calls.underLock env channelID (do
      checkHost userID
      beginRecordingJob env channelID userID) before).2 := by
    refine .underLock world apart fun cs _ loads => ?_
    have untold := world.jobsTell loads
    change Command.wp _ (fun _ (after : LockedCall) => JobsTell channelID cs.call.id before after.world) _
    rw [wp_bind]
    exact checkHost_wp (fun _ => untold) (beginRecordingJob_tells world loads userID)
  unfold startRecording
  rw [bind_run]
  revert tells
  generalize Calls.underLock env channelID _ before = outcome
  obtain ⟨_ | _, after⟩ := outcome <;> exact fun tells => tells

theorem stopRecording_tells (world : ToldWorld before) (userID : String) :
    StepTells channelID before (stopRecording env channelID userID before).2 := by
  refine .of_stops world (fun seen kept => checkHost_maintains.bind fun _ => kept.writing.stopRecordingJob) fun cs _ loads => ?_
  obtain ⟨channel, -, sees, settled⟩ := world.loaded loads
  change Command.wp _ (fun _ (after : LockedCall) => TellsRow channelID ⟨before, cs⟩ after) _
  rw [wp_bind]
  refine checkHost_wp (fun _ => ⟨_, sees, settled.shown⟩) (andThen_ok.mpr ?_)
  exact wp_mono (stopRecordingJob_sees channel sees) fun _ _ stopped => ⟨_, stopped, (settled.stop _).shown⟩

theorem handleBotPostJobsStatus_stepTells (world : ToldWorld before) (jobID : String) (reported : JobStatus) :
    StepTells channelID before (Calls.underLock env channelID (handleBotPostJobsStatus env channelID jobID reported) before).2 := by
  refine .of_stops world (fun seen kept => kept.writing.handleBotPostJobsStatus jobID reported) fun cs _ loads => ?_
  obtain ⟨channel, fresh, sees, settled⟩ := world.loaded loads
  exact handleBotPostJobsStatus_tells channel settled fresh jobID reported sees

theorem recJobTimeoutChecker_stepTells (world : ToldWorld before) {jobID : String}
    (saves : ∀ cs, (lockCallReturnState env channelID before).1 = .ok (some cs) → ∀ recState, cs.recording = some recState →
      recState.startAt = 0 → recState.props.jobID = jobID → env.faults (.updateCallJob recState.id) = false) :
    StepTells channelID before (Calls.underLock env channelID (recJobTimeoutChecker env channelID jobID) before).2 := by
  refine .of_stops world (fun seen kept => kept.writing.recJobTimeoutChecker jobID) fun cs loaded loads => ?_
  obtain ⟨channel, fresh, sees, settled⟩ := world.loaded loads
  refine SeesStopped.tellsRow (recJobTimeoutChecker_sees channel jobID sees
    (fun recState held => (fresh .recording recState held).2) fun recState held waiting named => ?_) settled
  rw [loads.savesRecording world held, saves cs loaded recState held waiting named]
  rfl

theorem transcriptionJobTimeoutChecker_stepTells (world : ToldWorld before) {jobID : String}
    (unsaved : ∀ cs, (lockCallReturnState env channelID before).1 = .ok (some cs) → ∀ trState recState,
      cs.transcription = some trState → trState.startAt = 0 → trState.props.jobID = jobID → cs.recording = some recState →
        env.faults (.updateCallJob recState.id) = true) :
    StepTells channelID before (Calls.underLock env channelID (transcriptionJobTimeoutChecker env channelID jobID) before).2 := by
  refine .of_stops world (fun seen kept => kept.writing.transcriptionJobTimeoutChecker jobID) fun cs loaded loads => ?_
  obtain ⟨channel, fresh, sees, settled⟩ := world.loaded loads
  refine SeesStopped.tellsRow (transcriptionJobTimeoutChecker_sees channel jobID settled sees
    fun trState recState transcription waiting named held _ => ?_) settled
  rw [loads.savesRecording world held, unsaved cs loaded trState recState transcription waiting named held]
  rfl

theorem RecordingStart.answered_tells (world : ToldWorld before) {start : RecordingStart} {trID lcID : String} {result : RunJobResult}
    (fits : ∀ cs, (lockCallReturnState env start.channelID before).1 = .ok (some cs) →
      match start.phase with
      | .recording userID => AnswerFits env ⟨before, cs⟩ result ∧
          ((∃ recState, cs.recording = some recState) → (∃ jobID, result = .ok jobID) → env.config.transcriptionsEnabled = true →
            TranscriptionBegins env cs before.store userID trID lcID)
      | .transcription liveCaptionsOn outer => OuterFits env before.store cs outer liveCaptionsOn result) :
    StepTells start.channelID before (start.answered env trID lcID result before).2 := by
  obtain ⟨channelID, phase⟩ := start
  cases phase with
  | recording userID =>
    refine .underLock world (fun seen => ?_) fun cs loaded loads => ?_
    · refine ((keptByJobs_apartFromJobs seen).writing.continueRecordingJob (fun job => createCallJob_apartFromJobs job seen) _ _ _ result).bind
        fun _ => getState_maintains.bind fun _ => .pure _
    · obtain ⟨answer, begins⟩ := fits cs loaded
      change Command.wp _ (fun _ (after : LockedCall) => JobsTell channelID cs.call.id before after.world) _
      rw [wp_bind]
      refine wp_mono (continueRecordingJob_tells world loads answer begins) ?_
      rintro (err | trState) after tells <;> exact tells
  | transcription liveCaptionsOn outer =>
    have tells : StepTells channelID before (endRecordingStart env channelID liveCaptionsOn result outer before).2 :=
      endRecordingStart_tells world fits
    unfold answered
    dsimp only
    rw [bind_run]
    revert tells
    generalize endRecordingStart env channelID liveCaptionsOn result outer before = outcome
    obtain ⟨_ | _, after⟩ := outcome <;> exact fun tells => tells

end

/-! ### Runs -/

theorem Operations.handle_eq_some {α : Type} {ops after : Operations} {channelID : String} {handler : Handler α}
    {result : Except String α} (handled : ops.handle channelID handler = some (result, after)) :
    ops.held.contains channelID = false ∧ after = { ops with world := (handler ops.world).2 } := by
  unfold handle at handled
  split at handled
  · cases handled
  · next free =>
    cases handled
    exact ⟨by simpa using free, rfl⟩

theorem ToldInvariant.handle {α : Type} {runs after : RecordingRuns} {channelID : String} {handler : Handler α}
    (inv : ToldInvariant runs.ops) (tells : StepTells channelID runs.ops.world (handler runs.ops.world).2)
    (taken : runs.handle channelID handler = some after) : ToldInvariant after.ops := by
  obtain ⟨⟨result, ops⟩, handled, rfl⟩ := Option.map_eq_some_iff.mp taken
  obtain ⟨free, rfl⟩ := Operations.handle_eq_some handled
  exact inv.request free tells

theorem ToldInvariant.handleStart {others : List RecordingStart} {ops : Operations} {after : RecordingRuns} {channelID : String}
    {handler : Handler (List RecordingStart)} (inv : ToldInvariant ops) (tells : StepTells channelID ops.world (handler ops.world).2)
    (taken : RecordingRuns.handleStart others ops channelID handler = some after) : ToldInvariant after.ops := by
  obtain ⟨⟨result, ops⟩, handled, rfl⟩ := Option.map_eq_some_iff.mp taken
  obtain ⟨free, rfl⟩ := Operations.handle_eq_some handled
  exact inv.request free tells

theorem ToldInvariant.next {runs after : RecordingRuns} {label : JobRunStep} (inv : ToldInvariant runs.ops)
    (latest : TellsLatest runs label) (taken : runs.next? label = some after) : ToldInvariant after.ops := by
  cases label with
  | operation step =>
    obtain ⟨ops, moved, rfl⟩ := Option.map_eq_some_iff.mp taken
    exact inv.step latest moved
  | start env channelID userID =>
    refine inv.handleStart ?_ taken
    have tells : StepTells channelID runs.ops.world (startRecording env channelID userID runs.ops.world).2 :=
      startRecording_tells inv.world userID
    unfold RecordingStart.ask
    rw [bind_run]
    revert tells
    generalize startRecording env channelID userID runs.ops.world = outcome
    obtain ⟨_ | _, final⟩ := outcome <;> exact fun tells => tells
  | returned env index trID lcID result =>
    obtain ⟨start, found, taken⟩ := Option.bind_eq_some_iff.mp taken
    exact inv.handleStart (RecordingStart.answered_tells inv.world fun cs loaded => latest start cs found loaded) taken
  | stop env channelID userID => exact inv.handle (stopRecording_tells inv.world userID) taken
  | status env channelID jobID reported => exact inv.handle (handleBotPostJobsStatus_stepTells inv.world jobID reported) taken
  | recTimeout env channelID jobID => exact inv.handle (recJobTimeoutChecker_stepTells inv.world latest) taken
  | trTimeout env channelID jobID => exact inv.handle (transcriptionJobTimeoutChecker_stepTells inv.world latest) taken

theorem toldInvariant_idle : ToldInvariant Operations.idle where
  world :=
    { consistent := ⟨fun _ member => absurd member KeyedTable.not_mem_empty, fun _ member => absurd member KeyedTable.not_mem_empty⟩
      named := fun _ member => absurd member KeyedTable.not_mem_empty
      channels := fun _ member => absurd member KeyedTable.not_mem_empty
      owned := fun _ _ => rfl
      fine := fun _ => ⟨fun _ member => absurd member List.not_mem_nil, fun _ member => absurd member List.not_mem_nil⟩
      told := fun _ member => absurd member KeyedTable.not_mem_empty }
  tracks _ _ _ found := by cases found
  jobs _ _ _ found := by cases found

/-- In every run of joins, leaves and all that happens to jobs, in which nothing is told of a
recording that its row does not say, the last event about a recording tells of the latest row. -/
theorem showsRecordings_of_tellsLatest {runs : RecordingRuns} (reached : (recordingRuns.restrict TellsLatest).Reachable runs) :
    runs.ops.world.ShowsRecordings := by
  have start : ∀ runs, recordingRuns.init runs → ToldInvariant runs.ops := by
    intro runs same
    obtain rfl := same
    exact toldInvariant_idle
  have steps : ∀ before label after, ToldInvariant before.ops → TellsLatest before label →
      recordingRuns.next? before label = some after → ToldInvariant after.ops :=
    fun _ _ _ inv latest taken => inv.next latest taken
  have inv : ToldInvariant runs.ops := System.Reachable.invariant_of_allowed start steps reached
  exact inv.world.shows

/-! ### A recording that is stopped -/

/-- The condition on a step of a run without transcriptions, as a check. -/
def tellsLatest (runs : RecordingRuns) : JobRunStep → Bool
  | .operation (.join _ _ _) => runs.ops.world.store.calls.rows.isEmpty
  | .operation _ | .start _ _ _ | .stop _ _ _ | .status _ _ _ _ => true
  | .returned env index _ _ _ =>
    (runs.starts[index]?).all fun start =>
      match (lockCallReturnState env start.channelID runs.ops.world).1, start.phase with
      | .ok (some cs), .recording _ => !env.config.transcriptionsEnabled &&
          ((⟨runs.ops.world, cs⟩ : LockedCall).savesRecording env && cs.recording.all fun recState => recState.props.jobID = "")
      | .ok (some _), .transcription _ _ => false
      | _, _ => true
  | .recTimeout _ _ _ | .trTimeout _ _ _ => false

theorem tellsLatest_sound {runs : RecordingRuns} {label : JobRunStep} (checked : tellsLatest runs label = true) :
    TellsLatest runs label := by
  cases label with
  | operation step =>
    cases step with
    | join env channelID req =>
      intro _ _ row member
      have empty : runs.ops.world.store.calls.rows = [] := List.isEmpty_iff.mp checked
      rw [KeyedTable.mem_def, empty] at member
      cases member
    | lock | leave | unlock => trivial
  | returned env index trID lcID result =>
    intro start cs found loaded
    simp only [tellsLatest, found, Option.all_some, loaded] at checked
    cases phase : start.phase with
    | recording userID =>
      simp only [phase, Bool.and_eq_true, Bool.not_eq_true'] at checked
      refine ⟨fun recState held => ⟨checked.2.1, fun _ => ?_⟩, fun _ _ enabled => ?_⟩
      · rw [show cs.recording = some recState from held] at checked
        exact of_decide_eq_true checked.2.2
      · rw [enabled] at checked
        cases checked.1
    | transcription liveCaptionsOn outer =>
      rw [phase] at checked
      cases checked
  | recTimeout => cases checked
  | trTimeout => cases checked
  | start | stop | status => trivial

/-- What is in the store of the latest recording, and what was told of it. -/
def RecordingRuns.recordingPhases (runs : RecordingRuns) : Option JobPhase × Option JobPhase :=
  ((runs.ops.world.store.latestRecording? "call").map CallJob.phase, runs.ops.world.toldPhase "channel")

theorem showsRecordings_of_stop :
    ∃ runs, recordingRuns.run? .idle (aliceRecords ++ [answered 0 "job-1",
        .stop (.quiet 1020 "") "channel" "alice"]) = some runs ∧
      runs.recordingPhases = (some ⟨false, true⟩, some ⟨false, true⟩) ∧ runs.ops.world.ShowsRecordings := by
  have computed : (recordingRuns.run? .idle (aliceRecords ++ [answered 0 "job-1",
      .stop (.quiet 1020 "") "channel" "alice"])).map RecordingRuns.recordingPhases =
      some (some ⟨false, true⟩, some ⟨false, true⟩) := by decide +kernel
  obtain ⟨runs, ran, phases⟩ := Option.map_eq_some_iff.mp computed
  have checked : recordingRuns.checkAlong tellsLatest .idle (aliceRecords ++ [answered 0 "job-1",
      .stop (.quiet 1020 "") "channel" "alice"]) = true := by decide +kernel
  have meets : recordingRuns.MeetsAlong TellsLatest .idle _ := .of_check checked fun _ _ _ => tellsLatest_sound
  have start : (recordingRuns.restrict TellsLatest).Reachable .idle := .init rfl
  exact ⟨runs, ran, phases, showsRecordings_of_tellsLatest (start.restrict_run meets ran)⟩

/-- The environment of a server that transcribes recordings. -/
def Env.transcribing (now : Instant) : Env :=
  { Env.quiet now "" with config := { defaultEnabled := some true, enableRecordings := some true, enableTranscriptions := some true } }

/-- The bot of a transcription does not join: the recording ends with it, and after that the
participants are told of the recording as it was before. -/
theorem not_showsRecordings : ¬ ∀ runs, recordingRuns.Reachable runs → runs.ops.world.ShowsRecordings := by
  intro all
  let steps := aliceRecords ++ [.returned (.transcribing 1010) 0 "tr" "lc" (.ok "job-1"),
    .returned (.transcribing 1011) 0 "" "" (.ok "job-2"),
    .trTimeout (.transcribing 1500) "channel" "job-2"]
  have computed : (recordingRuns.run? .idle steps).map (fun runs =>
      ((runs.ops.world.store.activeCall? "channel").map Call.id, runs.recordingPhases)) =
      some (some "call", some ⟨false, true⟩, some ⟨false, false⟩) := by decide +kernel
  obtain ⟨runs, ran, phases⟩ := Option.map_eq_some_iff.mp computed
  obtain ⟨active, phases⟩ := Prod.mk.inj phases
  obtain ⟨call, found, named⟩ := Option.map_eq_some_iff.mp active
  obtain ⟨latest, told⟩ := Prod.mk.inj phases
  obtain ⟨row, stored, ended⟩ := Option.map_eq_some_iff.mp latest
  have shown := all runs (.run (.init rfl) ran) "channel" call row found (by rw [named]; exact stored)
  rw [told, ended] at shown
  cases shown

end Calls
