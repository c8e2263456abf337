import Calls.Server.RecordingHandlers

/-! What the requests about jobs make of the view of the recording, and on which
condition the last event still tells of its row. -/

set_option autoImplicit false

namespace Calls

open LockedHandler Command

section
variable {env : Env} {channelID : String} {before locked : LockedCall} {view : RecordingView}

/-- The handler has come to a view in which the last event tells of the row. -/
def TellsRow (channelID : String) (before locked : LockedCall) : Prop :=
  ∃ view, Sees channelID before view locked ∧ view.Shown

theorem SeesStopped.tellsRow (stopped : SeesStopped env channelID before view locked) (settled : view.Settled) :
    TellsRow channelID before locked :=
  stopped.elim (fun sees => ⟨_, sees, settled.shown⟩) fun sees => ⟨_, sees, (settled.stop _).shown⟩

/-- What keeps every view keeps that the last event tells of the row. -/
theorem TellsRow.maintains {α : Type} {command : LockedHandler α} (keeps : ∀ view, Maintains (Sees channelID before view) command) :
    Maintains (TellsRow channelID before) command := fun locked ⟨view, sees, shown⟩ => ⟨view, keeps view locked sees, shown⟩

theorem TellsRow.bind_getState {α : Type} {next : CallState → LockedHandler α}
    (keeps : ∀ state, (∀ type job, state.job? type = some job → JobOf before type job) →
      Maintains (TellsRow channelID before) (next state)) :
    Maintains (TellsRow channelID before) (getState >>= next) :=
  fun locked agrees => agrees.elim fun _ seen => keeps locked.state seen.1.memory locked agrees

theorem RecordingView.Shown.hold (shown : view.Shown) (type : JobType) (phase : JobPhase) : (view.hold type phase).Shown := by
  unfold RecordingView.hold
  split <;> exact shown

/-- The jobs of a state that has just been loaded. -/
def FreshJobs (locked : LockedCall) : Prop :=
  ∀ type job, locked.state.job? type = some job → job ∈ locked.world.store.jobs ∧ job.endAt = 0

theorem FreshJobs.mayWrite (fresh : FreshJobs before) {type : JobType} {job saved : CallJob}
    (held : before.state.job? type = some job) (same : saved.id = job.id) : MayWrite before saved :=
  fun _ => ⟨job, (fresh type job held).1, same.symm, (fresh type job held).2⟩

/-! ### Start timeouts -/

/-- A snapshot of a recording whose row could not be ended tells nothing new. -/
theorem RecordingView.Settled.tell_unsaved (settled : view.Settled) {phase : JobPhase} (held : view.memory = some phase)
    (running : phase.ended = false) : (view.stop false).tell .recording phase = view.stop false := by
  have told : view.told = some phase := settled.shown phase (settled.inStep phase held running)
  rw [RecordingView.stop_of_running held running, RecordingView.tell, if_pos rfl, if_neg Bool.false_ne_true, ← told]

/-- The recording is stopped with a transcription whose bot does not join in time; what
the participants are told last is a snapshot from before. -/
theorem transcriptionJobTimeoutChecker_sees (channel : channelID ≠ "") (jobID : String)
    (settled : view.Settled) (sees : Sees channelID before view locked)
    (unsaved : ∀ trState recState, locked.state.transcription = some trState → trState.startAt = 0 →
      trState.props.jobID = jobID → locked.state.recording = some recState → recState.endAt = 0 →
      before.savesRecording env = false) :
    (transcriptionJobTimeoutChecker env channelID jobID).wp
      (fun _ after => SeesStopped env channelID before view after) locked := by
  unfold transcriptionJobTimeoutChecker
  rw [wp_bind, wp_getState, andThen_ok]
  cases held : locked.state.transcription with
  | none => exact .inl sees
  | some trState =>
    dsimp only
    rw [wp_ite]
    refine ⟨fun _ => .inl sees, fun waiting => ?_⟩
    rw [not_or, not_not, not_not] at waiting
    have of : JobOf before .transcribing ((trState.ended env.now).withErr trTimeoutErr) :=
      (sees.memory .transcribing trState held).congr rfl
    have ended : MayWrite before ((trState.ended env.now).withErr trTimeoutErr) := .of_ended (trState.ended_ne env.now)
    refine (Succeeds.ignoring (saveJob_other of ended (by decide))).wp_bind sees fun _ middle seen => ?_
    have captions : Succeeds (Sees channelID before view)
        (ifSome (if env.config.liveCaptionsEnabled then locked.state.liveCaptions else none) fun lcState => do
          modifyState (·.withJob (lcState.ended env.now) .captioning)
          (onStore (Store.updateCallJob env.faults ((trState.ended env.now).withErr trTimeoutErr))).ignoring) := by
      refine .ifSome fun lcState found => ?_
      have lcHeld : locked.state.liveCaptions = some lcState := by
        split at found
        · exact found
        · cases found
      have lcOf : JobOf before .captioning (lcState.ended env.now) := (sees.memory .captioning lcState lcHeld).congr rfl
      refine .bind (.modify fun _ seen => ?_) fun _ => .ignoring (updateCallJob_other of ended (by decide))
      exact withJob_other lcOf (by decide) _ seen
    refine captions.wp_bind seen fun _ middle seen => ?_
    have last {final : LockedCall} (stopped : SeesStopped env channelID before view final) :
        (publishJobState env channelID ((trState.ended env.now).withErr trTimeoutErr)).wp
          (fun _ after => SeesStopped env channelID before view after) final :=
      SeesStopped.maintains (fun _ => publishJobState_other channel of (by decide)) _ stopped
    cases active : locked.state.recording.filter fun recState => recState.endAt = 0 with
    | none => exact last (.inl seen)
    | some recState =>
      obtain ⟨recording, running⟩ := Option.mem_filter_iff.mp active
      have running : recState.endAt = 0 := of_decide_eq_true running
      have unsaved := unsaved trState recState held waiting.1 waiting.2 recording running
      refine wp_bind.mpr (wp_ifSome_some.mpr (wp_bind.mpr (wp_ignoring.mpr ?_)))
      refine wp_mono (stopRecordingJob_sees channel seen) fun _ stopped stoppedSees => ?_
      rw [unsaved] at stoppedSees
      rw [andThen_ok]
      refine wp_mono (publishToParticipants_sees channel _ stoppedSees) ?_
      intro _ final facts
      obtain ⟨rfl, told⟩ := facts
      refine last (.inr ?_)
      rw [unsaved, ← settled.tell_unsaved (sees.memory_some recording) (CallJob.phase_running running)]
      have told : Sees channelID before ((view.stop false).tell recState.type recState.phase) final := told
      rwa [(sees.memory .recording recState recording).typed] at told

/-! ### Status updates from the bot -/

theorem jobFailed_sees (channel : channelID ≠ "") {jb : CallJob} {reported : JobStatus} (fresh : FreshJobs before)
    (held : before.state.job? reported.jobType = some jb) (sees : Sees channelID before view before) :
    (jobFailed env channelID jb reported).wp (fun _ after => SeesStopped env channelID before view after) before := by
  have of : JobOf before reported.jobType ((jb.ended env.now).withErr reported.error) := (sees.memory _ jb held).congr rfl
  have mayEnd : MayWrite before ((jb.ended env.now).withErr reported.error) := .of_ended (jb.ended_ne env.now)
  have transcribing (view : RecordingView) :
      Maintains (SeesStopped env channelID before view) (stopTranscribingJob env channelID) := stopTranscribingJob_stops channel
  by_cases recording : reported.jobType = .recording
  · rw [recording] at held of
    have memory := sees.memory_some held
    have running := (fresh .recording jb held).2
    have phase : ((jb.ended env.now).withErr reported.error).phase = jb.phase.toEnd := CallJob.phase_ended jb env.now
    have holds : view.hold .recording jb.phase.toEnd = view.stop false := by
      rw [RecordingView.stop_of_running memory (CallJob.phase_running running)]
      rfl
    have seen := sees.withJob of
    rw [phase, holds] at seen
    unfold jobFailed
    rw [wp_bind, wp_getState, andThen_ok, recording, wp_bind, modifyState, wp_modify, andThen_ok]
    have ended : (view.stop false).memory = some jb.phase.toEnd := holds ▸ rfl
    refine (Succeeds.ignoring (SeesStopped.keeps_ended transcribing ended rfl)).when.wp_bind seen fun _ middle seen => ?_
    have stops : Maintains (Sees channelID before (view.stop false)) (stopRecordingJob env channelID) :=
      SeesStopped.keeps_ended (fun _ => stopRecordingJob_stops channel) ended rfl
    refine (Succeeds.ignoring stops).when.wp_bind seen fun _ middle seen => ?_
    refine wp_bind.mpr (wp_mono (saveJob_sees seen of mayEnd) ?_)
    have again : (view.stop false).hold .recording jb.phase.toEnd = view.stop false := by
      rw [← holds]
      rfl
    have row : (view.stop false).save .recording jb.phase.toEnd = view.endRow jb.phase := by
      rw [← holds]
      rfl
    rw [of.savesRecording, phase, again, row]
    intro result after either
    rcases either with ⟨rfl, works, seen⟩ | ⟨⟨err, rfl⟩, fails, seen⟩
    · have same : ((jb.ended env.now).withErr reported.error).apartFromErr = (jb.ended env.now).apartFromErr := rfl
      rw [andThen_ok]
      refine wp_mono (tellEnded_sees channel memory running same of seen) ?_
      intro _ final facts
      obtain ⟨rfl, told⟩ := facts
      refine .inr ?_
      rwa [show before.savesRecording env = true by simpa using works]
    · refine .inr ?_
      rwa [show before.savesRecording env = false by simpa using fails]
  · have keeps : Maintains (SeesStopped env channelID before view) (jobFailed env channelID jb reported) :=
      SeesStopped.bind_getState fun _ _ => (SeesStopped.maintains fun _ => withJob_other of recording).bind fun _ =>
        (transcribing view).ignoring.when.bind fun _ => (stopRecordingJob_stops channel).ignoring.when.bind fun _ =>
          (SeesStopped.maintains fun _ => saveJob_other of mayEnd recording).bind fun _ =>
            SeesStopped.maintains fun _ => publishJobState_other channel of recording
    exact keeps before (.inl sees)

theorem withJob_tells {type : JobType} {job : CallJob} (of : JobOf before type job) :
    Maintains (TellsRow channelID before) (modifyState (·.withJob job type)) :=
  fun _ ⟨_, sees, shown⟩ => ⟨_, sees.withJob of, shown.hold type job.phase⟩

/-- What is told right after it was saved is told of the row. -/
theorem saveTold_tells (channel : channelID ≠ "") {type : JobType} {job : CallJob} (of : JobOf before type job)
    (may : MayWrite before job) : Maintains (TellsRow channelID before) (do
      saveJob env job type
      publishJobState env channelID job) := by
  refine .of_wp fun locked ⟨view, sees, shown⟩ => wp_bind.mpr (wp_mono (saveJob_sees sees of may) ?_)
  intro result middle either
  rcases either with ⟨rfl, -, seen⟩ | ⟨⟨err, rfl⟩, -, seen⟩
  · rw [andThen_ok]
    refine wp_mono (publishJobState_sees channel of seen) ?_
    intro _ after facts
    obtain ⟨rfl, told⟩ := facts
    refine ⟨_, told, ?_⟩
    unfold RecordingView.tell RecordingView.save RecordingView.hold
    split
    · exact fun _ same => same
    · exact shown
  · exact ⟨_, seen, shown.hold type job.phase⟩

theorem jobStarted_tells (channel : channelID ≠ "") (settled : view.Settled) (fresh : FreshJobs before)
    {jb : CallJob} {lcState : Option CallJob} {reported : JobStatus} (held : before.state.job? reported.jobType = some jb)
    (captions : ∀ job, lcState = some job → before.state.liveCaptions = some job) (sees : Sees channelID before view before) :
    (jobStarted env channelID jb lcState reported).wp (fun _ after => TellsRow channelID before after) before := by
  have of : JobOf before reported.jobType { jb with startAt := env.now.unixMilli } := (sees.memory _ jb held).congr rfl
  have may : MayWrite before { jb with startAt := env.now.unixMilli } := fresh.mayWrite held rfl
  have lcSaved : Maintains (TellsRow channelID before)
      (ifSome lcState fun lcState => saveJob env { lcState with startAt := env.now.unixMilli } .captioning) := by
    refine .ifSome fun job found => TellsRow.maintains fun _ => ?_
    have lcHeld : before.state.job? .captioning = some job := captions job found
    exact saveJob_other ((sees.memory .captioning job lcHeld).congr rfl) (fresh.mayWrite lcHeld rfl) (by decide)
  have keeps : Maintains (TellsRow channelID before) (jobStarted env channelID jb lcState reported) :=
    (Maintains.throwIf _).bind fun _ => (withJob_tells of).bind fun _ => lcSaved.bind fun _ => saveTold_tells channel of may
  exact keeps before ⟨view, sees, settled.shown⟩

theorem handleBotPostJobsStatus_tells (channel : channelID ≠ "") (settled : view.Settled) (fresh : FreshJobs before)
    (jobID : String) (reported : JobStatus) (sees : Sees channelID before view before) :
    (handleBotPostJobsStatus env channelID jobID reported).wp (fun _ after => TellsRow channelID before after) before := by
  have agrees : TellsRow channelID before before := ⟨view, sees, settled.shown⟩
  unfold handleBotPostJobsStatus
  rw [wp_bind, wp_getState, andThen_ok, wp_bind, wp_throwIf]
  refine ⟨fun _ => agrees, fun _ => ?_⟩
  rw [andThen_ok]
  cases held : before.state.job? reported.jobType with
  | none => exact agrees
  | some jb =>
    dsimp only
    rw [wp_bind, wp_throwIf]
    refine ⟨fun _ => agrees, fun _ => ?_⟩
    rw [andThen_ok, wp_bind, wp_throwIf]
    refine ⟨fun _ => agrees, fun _ => ?_⟩
    have last (lcState : Option CallJob) : Maintains (TellsRow channelID before) (do
        let state ← getState
        Command.ifSome (lcState.bind fun _ => state.liveCaptions) fun lcState => publishJobState env channelID lcState) := by
      refine TellsRow.bind_getState fun state memory => .ifSome fun job found => TellsRow.maintains fun _ => ?_
      obtain ⟨-, -, lcHeld⟩ := Option.bind_eq_some_iff.mp found
      exact publishJobState_other channel (memory .captioning job lcHeld) (by decide)
    rw [andThen_ok, wp_bind]
    refine wp_mono (show wp _ (fun _ after => TellsRow channelID before after) before from ?_) ?_
    · cases reported.status with
      | failed => exact wp_mono (jobFailed_sees channel fresh held sees) fun _ _ stopped => stopped.tellsRow settled
      | started =>
        refine jobStarted_tells channel settled fresh held (fun job found => ?_) sees
        split at found
        · exact found
        · cases found
    · intro either after agrees
      rcases either with err | value
      · exact agrees
      · exact last _ after agrees

/-! ### Starting -/

theorem relayError_other (channel : channelID ≠ "") {type : JobType} (other : type ≠ .recording) (err : String) :
    Maintains (Sees channelID before view) (relayError env channelID type err) := by
  intro locked sees
  have relay (job : CallJob) (held : locked.state.job? type = some job) : Maintains (Sees channelID before view) (do
      modifyState (·.withJob ((job.ended env.now).withErr err) type)
      publishJobState env channelID ((job.ended env.now).withErr err)) := by
    have of : JobOf before type ((job.ended env.now).withErr err) := (sees.memory type job held).congr rfl
    exact (withJob_other of other).bind fun _ => publishJobState_other channel of other
  exact Maintains.ifSome relay locked sees

/-- The error of a recording that has ended in its row. -/
theorem relayError_ended (channel : channelID ≠ "") {phase : JobPhase} (err : String)
    (sees : Sees channelID before (view.endRow phase) locked) :
    (relayError env channelID .recording err).wp (fun _ after => TellsRow channelID before after) locked := by
  have agrees (view : RecordingView) : ((view.endRow phase).tell .recording phase.toEnd).Shown := fun _ same => same
  unfold relayError
  rw [wp_bind, wp_getState, andThen_ok]
  cases held : locked.state.job? .recording with
  | none => cases (sees.memory_none held)
  | some job =>
    have of : JobOf before .recording ((job.ended env.now).withErr err) := (sees.memory .recording job held).congr rfl
    have same : some phase.toEnd = some job.phase := sees.memory_some held
    have ended : ((job.ended env.now).withErr err).phase = phase.toEnd := by
      have toEnd : ((job.ended env.now).withErr err).phase = job.phase.toEnd := CallJob.phase_ended job env.now
      rw [toEnd, ← Option.some.inj same]
      rfl
    have seen := sees.withJob of
    rw [ended] at seen
    rw [wp_ifSome_some, wp_bind, modifyState, wp_modify, andThen_ok]
    refine wp_mono (publishJobState_sees channel of seen) ?_
    intro _ after facts
    obtain ⟨rfl, told⟩ := facts
    rw [ended] at told
    exact ⟨_, told, agrees view⟩

/-- What the job service answers can be stored in the row of the recording that is found, and
none has been stored there. -/
def AnswerFits (env : Env) (before : LockedCall) (result : RunJobResult) : Prop :=
  ∀ recState, before.state.recording = some recState →
    before.savesRecording env = true ∧ ((∃ jobID, result = .ok jobID) → recState.props.jobID = "")

/-- A recording found in progress keeps its phase when the job is stored in its row. -/
theorem RecordingView.Settled.hold_save (settled : view.Settled) {phase : JobPhase} (held : view.memory = some phase)
    (running : phase.ended = false) : (view.hold .recording phase).save .recording phase = view := by
  have row := settled.inStep phase held running
  obtain ⟨memory, row, told⟩ := view
  cases held
  cases row
  rfl

theorem resumeRecordingJob_sees (channel : channelID ≠ "") (settled : view.Settled) (fresh : FreshJobs before)
    {result : RunJobResult} (fits : AnswerFits env before result) (sees : Sees channelID before view before) :
    (resumeRecordingJob env channelID result).wp (fun result after =>
      match result with
      | .ok recState => Sees channelID before view after ∧ JobOf before .recording recState ∧ view.told = some recState.phase
      | .error _ => TellsRow channelID before after) before := by
  unfold resumeRecordingJob
  rw [wp_bind, wp_getState, andThen_ok]
  cases held : before.state.recording with
  | none => exact ⟨view, sees, settled.shown⟩
  | some recState =>
    obtain ⟨saves, unanswered⟩ := fits recState held
    have running := (fresh .recording recState held).2
    have unended := CallJob.phase_running running
    have memory := sees.memory_some held
    have of := sees.memory .recording recState held
    have recording : before.state.job? .recording = some recState := held
    dsimp only
    rw [wp_onError]
    cases result with
    | error jobErr =>
      rw [wp_bind, wp_ignoring]
      refine wp_mono (endRecording_sees sees held running rfl) ?_
      intro _ after either
      rcases either with ⟨-, -, ended⟩ | ⟨-, fails, -⟩
      · exact relayError_ended channel _ ended
      · rw [saves] at fails
        cases fails
    | ok jobID =>
      have fits : JobOf before .recording (recState.withJobID jobID) := of.congr rfl
      rw [wp_bind, wp_throwIf]
      refine ⟨fun taken => absurd (unanswered ⟨jobID, rfl⟩) taken, fun _ => ?_⟩
      rw [andThen_ok, wp_bind]
      refine wp_mono (saveJob_sees sees fits (fresh.mayWrite recording rfl)) ?_
      have phase : (recState.withJobID jobID).phase = recState.phase := rfl
      rw [fits.savesRecording, saves, phase, settled.hold_save memory unended]
      intro _ after either
      rcases either with ⟨rfl, -, seen⟩ | ⟨-, fails, -⟩
      · exact ⟨seen, fits, settled.shown _ (settled.inStep _ memory unended)⟩
      · cases fails

theorem resumeTranscribingJob_sees (channel : channelID ≠ "") (fresh : FreshJobs before) (liveCaptionsOn : Bool)
    (result : RunJobResult) (sees : Sees channelID before view before) :
    (resumeTranscribingJob env channelID liveCaptionsOn result).wp (fun _ after => Sees channelID before view after) before := by
  have captions (job : CallJob) (found : (if liveCaptionsOn = true then before.state.liveCaptions else none) = some job) :
      before.state.job? .captioning = some job := by
    split at found
    · exact found
    · cases found
  unfold resumeTranscribingJob
  rw [wp_bind, wp_getState, andThen_ok]
  cases held : before.state.transcription with
  | none => exact sees
  | some trState =>
    have transcription : before.state.job? .transcribing = some trState := held
    have of := sees.memory .transcribing trState held
    have saves (change : CallJob → CallJob) (same : ∀ job, (change job).identity = job.identity) {job : CallJob} {type : JobType}
        (held : before.state.job? type = some job) (other : type ≠ .recording) :
        Maintains (Sees channelID before view) (saveJob env (change job) type) :=
      saveJob_other ((sees.memory type job held).congr (same job)) (fresh.mayWrite held (congrArg Prod.fst (same job))) other
    refine Maintains.onError ?_ (relayError_other channel (by decide)) before sees
    cases result with
    | error jobErr =>
      have failed := saves (fun job => (job.ended env.now).withErr jobErr) (fun _ => rfl) transcription (by decide)
      refine failed.ignoring.bind fun _ => Maintains.bind ?_ fun _ => .throw _
      exact .ifSome fun job found => (saves (·.ended env.now) (fun _ => rfl) (captions job found) (by decide)).ignoring
    | ok jobID =>
      have answered {job : CallJob} {type : JobType} := @saves (·.withJobID jobID) (fun _ => rfl) job type
      refine (Maintains.throwIf _).bind fun _ => (answered transcription (by decide)).bind fun _ => Maintains.bind ?_ fun _ => ?_
      · exact .ifSome fun job found => answered (captions job found) (by decide)
      · exact publishJobState_other channel (of.congr rfl) (by decide)

/-! ### Leaves -/

theorem recordingBotLeft_stops (channel : channelID ≠ "") (originalConnID : String) :
    Maintains (SeesStopped env channelID before view) (recordingBotLeft env channelID originalConnID) := by
  refine SeesStopped.maintains_of_stops fun view locked sees => ?_
  unfold recordingBotLeft
  rw [wp_bind, wp_getState, andThen_ok]
  cases bound : locked.state.jobOfConn? .recording originalConnID with
  | none => exact .inl sees
  | some recState =>
    obtain ⟨held, unended⟩ := Option.mem_filter_iff.mp bound
    have held : locked.state.recording = some recState := held
    have running : recState.endAt = 0 := (of_decide_eq_true unended).1
    rw [wp_ifSome_some]
    refine wp_bind.mpr (wp_mono (endRecording_sees sees held running rfl) ?_)
    intro _ middle either
    rcases either with ⟨rfl, works, ended⟩ | ⟨⟨err, rfl⟩, fails, seen⟩
    · have stops : Maintains (Sees channelID before (view.endRow recState.phase)) (stopTranscribingJob env channelID) :=
        SeesStopped.keeps_ended (fun _ => stopTranscribingJob_stops channel) rfl rfl
      rw [andThen_ok]
      refine (Succeeds.ignoring stops).when.wp_bind ended fun _ after seen => ?_
      have of : JobOf before .recording (recState.ended env.now) := (sees.memory .recording recState held).congr rfl
      refine wp_mono (tellEnded_sees channel (sees.memory_some held) running rfl of seen) ?_
      intro _ final facts
      obtain ⟨rfl, told⟩ := facts
      exact .inr (works ▸ told)
    · exact .inr (fails ▸ seen)

theorem transcribingBotLeft_stops (channel : channelID ≠ "") (originalConnID : String) :
    Maintains (SeesStopped env channelID before view) (transcribingBotLeft env channelID originalConnID) := by
  refine SeesStopped.bind_getState fun state memory => .ifSome fun trState bound => ?_
  have of := memory .transcribing trState (Option.mem_filter_iff.mp bound).1
  have ended : JobOf before .transcribing (trState.ended env.now) := of.congr rfl
  refine (SeesStopped.maintains fun _ => saveJob_other ended (.of_ended (trState.ended_ne env.now)) (by decide)).bind fun _ => ?_
  refine (stopRecordingJob_stops channel).ignoring.when.bind fun _ => ?_
  refine (SeesStopped.maintains fun _ => publishJobState_other channel ended (by decide)).bind fun _ => .ifSome fun lcState held => ?_
  exact SeesStopped.maintains fun _ => publishJobState_other channel (memory .captioning lcState held) (by decide)

theorem captioningBotLeft_stops (connID : String) :
    Maintains (SeesStopped env channelID before view) (captioningBotLeft env connID) := by
  refine SeesStopped.bind_getState fun state memory => .ifSome fun lcState bound => SeesStopped.maintains fun _ => ?_
  have of := memory .captioning lcState (Option.mem_filter_iff.mp bound).1
  exact saveJob_other (of.congr rfl) (.of_ended (lcState.ended_ne env.now)) (by decide)

theorem leaveJobs_stops (channel : channelID ≠ "") (originalConnID connID : String) :
    Maintains (SeesStopped env channelID before view) (leaveJobs env channelID originalConnID connID) := by
  have stop (job : CallJob) : Maintains (SeesStopped env channelID before view)
      (ignoring (onWorld (stopJob env channelID job.id env.botID))) :=
    (SeesStopped.maintains fun _ => stopJob_sees job.id).ignoring
  have alone : Maintains (SeesStopped env channelID before view) (stopJobsOfBot env channelID) :=
    SeesStopped.bind_getState fun _ _ => Maintains.when ((Maintains.ifSome fun job _ => stop job).bind fun _ => .ifSome fun job _ => stop job)
  exact alone.bind fun _ => (recordingBotLeft_stops channel originalConnID).bind fun _ =>
    (transcribingBotLeft_stops channel originalConnID).bind fun _ => captioningBotLeft_stops connID

/-! What the rest of a removal does, it does to the call, its sessions and its post. -/

theorem changeCall_sees {change : CallState → Call → Call} (keeps : ∀ state call, (change state call).id = call.id) :
    Maintains (Sees channelID before view) (modifyState fun state => state.mapCall (change state)) :=
  fun _ sees => sees.congr (keeps _ _) rfl (fun _ => rfl) (fun _ member => member) fun _ => rfl

theorem onStore_sees {α : Type} {command : StoreCommand α} (keeps : Preserves Store.jobs command) :
    Maintains (Sees channelID before view) (onStore command) := fun locked sees =>
  sees.congr rfl (keeps.run locked.world.store) (fun _ => rfl) (fun _ member => member) fun _ => rfl

theorem withoutSession_sees (sessionID : String) :
    Maintains (Sees channelID before view) (modifyState (·.withoutSession sessionID)) := fun _ sees =>
  sees.congr rfl rfl (fun _ => rfl) (fun _ member => (KeyedTable.mem_erase.mp member).1) fun _ => rfl

theorem updateCallPostEnded_sees (postID : String) (participants : List String) :
    Maintains (Sees channelID before view) (onWorld (updateCallPostEnded env postID participants)) := by
  refine fun locked sees => sees.congr rfl ?_ (fun _ => rfl) (fun _ member => member) fun other => ?_
  · exact congrArg (·.store.jobs) (updateCallPostEnded_world env postID participants locked.world)
  · exact congrArg (·.toldPhase other) (updateCallPostEnded_world env postID participants locked.world)

theorem removeUserSession_stops (channel : channelID ≠ "") (ref : SessionRef) :
    Maintains (SeesStopped env channelID before view) (removeUserSession env channelID ref) := by
  have quietly {α : Type} {command : LockedHandler α} (keeps : ∀ view, Maintains (Sees channelID before view) command) :
      Maintains (SeesStopped env channelID before view) command := SeesStopped.maintains keeps
  have tell {ev : WsEvent} (silent : ∀ other, ev.recordingPhase? other = none) :
      Maintains (SeesStopped env channelID before view) (publishToParticipants env channelID ev) :=
    SeesStopped.bind_getState fun _ _ => quietly fun _ => publish_sees silent
  have named {left right : Call} (same : left.identity = right.identity) : left.id = right.id := congrArg Prod.fst same
  refine SeesStopped.bind_getState fun state _ => ?_
  cases state.sessions.find? ref.originalConnID with
  | none => exact .throw _
  | some us =>
    have delete : Preserves Store.jobs (Store.deleteCallSession env.faults ref.originalConnID) :=
      .of_wp fun store => Store.wp_deleteCallSession (fun _ _ => rfl) fun _ => rfl
    have update (call : Call) : Preserves Store.jobs (Store.updateCall env.faults call) :=
      .of_wp fun store => Store.wp_updateCall (fun _ => rfl) fun _ _ => rfl
    have screen : Maintains (SeesStopped env channelID before view) (leaveScreen env channelID ref.originalConnID) :=
      SeesStopped.bind_getState fun _ _ => Maintains.when <| (quietly fun _ => changeCall_sees fun _ call =>
        named (call.stopScreen_kept env ref.originalConnID).1).bind fun _ => tell fun _ => rfl
    have video : Maintains (SeesStopped env channelID before view) (leaveVideo env channelID ref.userID us) :=
      Maintains.when <| (quietly fun _ => changeCall_sees fun _ call => named (call.stopVideo_kept env us.id).1).bind fun _ =>
        tell fun _ => rfl
    have host : Maintains (SeesStopped env channelID before view) (leaveHost env channelID ref.userID) :=
      SeesStopped.bind_getState fun held _ => Maintains.when <| (quietly fun _ => changeCall_sees fun _ call =>
        named (call.electOnLeave_same env ref.userID held.sessions).identity).bind fun _ => tell fun _ => rfl
    have save : Maintains (SeesStopped env channelID before view) (saveLeave env) := by
      refine (quietly fun _ => changeCall_sees fun state call => ?_).bind fun _ => SeesStopped.bind_getState fun held _ => ?_
      · unfold Call.finishIfEmpty
        split <;> rfl
      · exact .deferring (quietly fun _ => onStore_sees (update _)).mapError
          (quietly fun _ => updateCallPostEnded_sees _ _).ignoring.when
    exact (quietly fun _ => onStore_sees delete).mapError.bind fun _ => (quietly fun _ => withoutSession_sees _).bind fun _ =>
      screen.bind fun _ => video.bind fun _ => (leaveJobs_stops channel _ _).bind fun _ =>
        (quietly fun _ => publish_sees fun _ => rfl).bind fun _ => host.bind fun _ => save

end

end Calls
