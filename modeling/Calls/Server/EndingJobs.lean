import Calls.Server.OpenJobs
import Calls.Server.LeaveProperties

/-! The ways in which a recording or a transcription ends, and which jobs of the
call each of them leaves open. -/

set_option autoImplicit false

namespace Calls

open LockedHandler Command

section
variable {env : Env} {channelID : String} {locked : LockedCall}

/-! ### The bot leaves -/

theorem JobsEnded.jobOfConn?_isSome {inMemory saved : List JobType} {before after : LockedCall}
    (ended : JobsEnded env inMemory saved before after) (type : JobType) (connID : String) :
    (after.state.jobOfConn? type connID).isSome =
      (decide (type ∉ inMemory) && (before.state.jobOfConn? type connID).isSome) := by
  have bound (job : Option CallJob) : (job.filter fun job => job.endAt = 0 ∧ connID = job.props.botConnID).isSome =
      ((job.map CallJob.apartFromErr).filter fun job => job.endAt = 0 ∧ connID = job.props.botConnID).isSome := by
    cases job with
    | none => rfl
    | some job => simp [Option.filter, CallJob.apartFromErr, CallJob.withErr, apply_ite Option.isSome]
  unfold CallState.jobOfConn?
  rw [bound, ended.memory]
  by_cases listed : type ∈ inMemory
  · rw [if_pos listed]
    cases before.state.job? type with
    | none => simp [listed]
    | some job =>
      have unended := job.ended_ne env.now
      simp [listed, Option.filter, CallJob.apartFromErr, CallJob.withErr, unended]
  · rw [if_neg listed, ← bound]
    simp [listed]

theorem CallState.jobOfConn?_eq_some {cs : CallState} {type : JobType} {connID : String} {job : CallJob} :
    cs.jobOfConn? type connID = some job ↔ cs.job? type = some job ∧ job.endAt = 0 ∧ connID = job.props.botConnID := by
  simp [jobOfConn?, Option.filter_eq_some_iff]

theorem CallState.inProgress_of_bound {cs : CallState} {type : JobType} {connID : String}
    (bound : (cs.jobOfConn? type connID).isSome = true) : cs.inProgress type = true := by
  obtain ⟨job, found⟩ := Option.isSome_iff_exists.mp bound
  obtain ⟨held, unended, -⟩ := CallState.jobOfConn?_eq_some.mp found
  exact CallState.inProgress_iff.mpr ⟨job, held, unended⟩

namespace CallState

/-- The jobs that end when the session of the connection leaves, if it is the bot of the recording. -/
def endedByRecordingBot (cs : CallState) (connID : String) : List JobType :=
  if (cs.jobOfConn? .recording connID).isSome then .recording :: transcriptionTypes (cs.inProgress .transcribing)
  else []

def endedByTranscribingBot (cs : CallState) (connID : String) : List JobType :=
  if (cs.jobOfConn? .transcribing connID).isSome then .transcribing :: recordingTypes (cs.inProgress .recording)
  else []

def endedByCaptioningBot (cs : CallState) (connID : String) : List JobType :=
  if (cs.jobOfConn? .captioning connID).isSome then [.captioning] else []

/-- The jobs that end when a session leaves. -/
def endedByLeave (cs : CallState) (originalConnID connID : String) : List JobType :=
  (if (cs.jobOfConn? .recording originalConnID).isSome then cs.endedByRecordingBot originalConnID
    else cs.endedByTranscribingBot originalConnID) ++ cs.endedByCaptioningBot connID

end CallState

theorem recordingBotLeft_endsJobs (works : env.WritesWork) (valid : locked.JobsValid) (connID : String) :
    EndsJobs env (locked.state.endedByRecordingBot connID) (locked.state.endedByRecordingBot connID) locked
      (recordingBotLeft env channelID connID) := by
  apply EndsJobs.bind_getState
  unfold CallState.endedByRecordingBot
  cases found : locked.state.jobOfConn? .recording connID with
  | none => exact ⟨⟨(), rfl⟩, .refl env locked⟩
  | some recState =>
    rw [Option.isSome_some, if_pos rfl]
    show EndsJobs env ([.recording] ++ transcriptionTypes _) ([.recording] ++ transcriptionTypes _) locked _
    refine (saveJob_endsJobs _ works valid (CallState.jobOfConn?_eq_some.mp found).1 rfl).bind fun _ middle ended => ?_
    exact ((stopTranscribing_afterRecording works valid ended rfl 1).ignoring_when rfl id).bind_quiet fun _ _ =>
      publishJobState_endsJobs channelID

theorem transcribingBotLeft_endsJobs (works : env.WritesWork) (valid : locked.JobsValid) (connID : String) :
    EndsJobs env (locked.state.endedByTranscribingBot connID) (locked.state.endedByTranscribingBot connID) locked
      (transcribingBotLeft env channelID connID) := by
  apply EndsJobs.bind_getState
  unfold CallState.endedByTranscribingBot
  cases found : locked.state.jobOfConn? .transcribing connID with
  | none => exact ⟨⟨(), rfl⟩, .refl env locked⟩
  | some trState =>
    rw [Option.isSome_some, if_pos rfl]
    show EndsJobs env ([.transcribing] ++ recordingTypes _) ([.transcribing] ++ recordingTypes _) locked _
    refine (saveJob_endsJobs _ works valid (CallState.jobOfConn?_eq_some.mp found).1 rfl).bind fun _ middle ended => ?_
    refine ((stopRecording_afterTranscription works valid ended (by decide)).ignoring_when rfl id).bind_quiet
      fun _ last => ?_
    exact (publishJobState_endsJobs channelID).quiet_bind fun _ _ _ =>
      .ifSome (fun _ _ => publishJobState_endsJobs channelID) fun _ => .refl env _

theorem captioningBotLeft_endsJobs (works : env.WritesWork) (valid : locked.JobsValid) (connID : String) :
    EndsJobs env (locked.state.endedByCaptioningBot connID) (locked.state.endedByCaptioningBot connID) locked
      (captioningBotLeft env connID) := by
  apply EndsJobs.bind_getState
  unfold CallState.endedByCaptioningBot
  cases found : locked.state.jobOfConn? .captioning connID with
  | none => exact ⟨⟨(), rfl⟩, .refl env locked⟩
  | some lcState => exact saveJob_endsJobs _ works valid (CallState.jobOfConn?_eq_some.mp found).1 rfl

theorem stopJobsOfBot_endsJobs : EndsJobs env [] [] locked (stopJobsOfBot env channelID) := by
  apply EndsJobs.bind_getState
  have stops (job : CallJob) (locked : LockedCall) :
      EndsJobs env [] [] locked (onWorld (stopJob env channelID job.id env.botID)).ignoring :=
    (stopJob_endsNoJobs job.id locked).ignoring
  refine .when (fun _ => ?_) fun _ => .refl env locked
  exact EndsJobs.quiet_bind (.ifSome (fun job _ => stops job _) fun _ => .refl env _) fun _ _ _ =>
    .ifSome (fun job _ => stops job _) fun _ => .refl env _

/-- The bot of the transcription is looked for after the bot of the recording has ended what it ends. -/
theorem JobsEnded.endedByTranscribingBot {before after : LockedCall} {connID : String}
    (ended : JobsEnded env (before.state.endedByRecordingBot connID) (before.state.endedByRecordingBot connID) before after) :
    after.state.endedByTranscribingBot connID =
      if (before.state.jobOfConn? .recording connID).isSome then [] else before.state.endedByTranscribingBot connID := by
  unfold CallState.endedByTranscribingBot
  rw [ended.jobOfConn?_isSome, ended.inProgress]
  unfold CallState.endedByRecordingBot
  by_cases hit : (before.state.jobOfConn? .recording connID).isSome = true
  · by_cases active : before.state.inProgress .transcribing = true
    · simp [hit, active, transcriptionTypes]
    · have unbound : (before.state.jobOfConn? .transcribing connID).isSome = false := by
        rw [← Bool.not_eq_true]
        exact fun bound => active (CallState.inProgress_of_bound bound)
      simp [hit, unbound]
  · simp [hit]

theorem JobsEnded.endedByCaptioningBot {before after : LockedCall} {inMemory saved : List JobType}
    (ended : JobsEnded env inMemory saved before after) (connID : String) :
    after.state.endedByCaptioningBot connID =
      if .captioning ∈ inMemory then [] else before.state.endedByCaptioningBot connID := by
  unfold CallState.endedByCaptioningBot
  rw [ended.jobOfConn?_isSome]
  by_cases listed : .captioning ∈ inMemory <;> simp [listed]

/-- What ends no job does not change which jobs a leave ends. -/
theorem JobsEnded.endedByLeave {before after : LockedCall} (ended : JobsEnded env [] [] before after)
    (originalConnID connID : String) :
    after.state.endedByLeave originalConnID connID = before.state.endedByLeave originalConnID connID := by
  simp [CallState.endedByLeave, CallState.endedByRecordingBot, CallState.endedByTranscribingBot,
    CallState.endedByCaptioningBot, ended.jobOfConn?_isSome, ended.inProgress]

theorem leaveJobs_endsJobs (works : env.WritesWork) (valid : locked.JobsValid) (originalConnID connID : String) :
    EndsJobs env (locked.state.endedByLeave originalConnID connID) (locked.state.endedByLeave originalConnID connID) locked
      (leaveJobs env channelID originalConnID connID) := by
  unfold leaveJobs
  refine stopJobsOfBot_endsJobs.quiet_bind fun _ first nothing => ?_
  rw [← nothing.endedByLeave, CallState.endedByLeave]
  have validFirst := nothing.jobsValid valid
  generalize byRecording : first.state.endedByRecordingBot originalConnID = recording
  generalize byTranscribing : (if (first.state.jobOfConn? .recording originalConnID).isSome then []
    else first.state.endedByTranscribingBot originalConnID) = transcribing
  have second (middle : LockedCall) (ended : JobsEnded env recording recording first middle) :
      EndsJobs env transcribing transcribing middle (transcribingBotLeft env channelID originalConnID) := by
    rw [← byRecording] at ended
    rw [← byTranscribing, ← ended.endedByTranscribingBot]
    exact transcribingBotLeft_endsJobs works (ended.jobsValid validFirst) originalConnID
  have third (middle : LockedCall) (ended : JobsEnded env (recording ++ transcribing) (recording ++ transcribing) first middle) :
      EndsJobs env (if .captioning ∈ recording ++ transcribing then [] else first.state.endedByCaptioningBot connID)
        (if .captioning ∈ recording ++ transcribing then [] else first.state.endedByCaptioningBot connID) middle
        (captioningBotLeft env connID) := by
    rw [← ended.endedByCaptioningBot]
    exact captioningBotLeft_endsJobs works (ended.jobsValid validFirst) connID
  have both : recording ++ transcribing =
      if (first.state.jobOfConn? .recording originalConnID).isSome then recording
      else first.state.endedByTranscribingBot originalConnID := by
    rw [← byTranscribing, ← byRecording, CallState.endedByRecordingBot]
    split <;> simp
  rw [← both]
  have firstEnds : EndsJobs env recording recording first (recordingBotLeft env channelID originalConnID) :=
    byRecording ▸ recordingBotLeft_endsJobs works validFirst originalConnID
  have once (type : JobType) (listed : type ∈ first.state.endedByCaptioningBot connID) : type = .captioning := by
    unfold CallState.endedByCaptioningBot at listed
    split at listed <;> simp_all
  have same (type : JobType) : type ∈ recording ++ (transcribing ++
      if .captioning ∈ recording ++ transcribing then [] else first.state.endedByCaptioningBot connID) ↔
      type ∈ recording ++ transcribing ++ first.state.endedByCaptioningBot connID := by
    rw [← List.append_assoc]
    generalize recording ++ transcribing = bots
    rw [List.mem_append, List.mem_append]
    split
    · next listed =>
      constructor
      · exact fun either => either.elim .inl fun nowhere => absurd nowhere List.not_mem_nil
      · exact fun either => either.elim .inl fun captions => .inl (once type captions ▸ listed)
    · rfl
  exact (firstEnds.bind fun _ _ recEnded =>
    (second _ recEnded).bind fun _ last trEnded => third last (recEnded.trans trEnded)).congr same same

theorem ChangesCall.jobsEnded {change : Call → Call} {result : Except String Unit} {after : LockedCall}
    (changes : ChangesCall change locked result after) :
    (∃ value, result = .ok value) ∧ JobsEnded env [] [] locked after := by
  refine ⟨⟨(), changes.ok⟩, .of_same (by rw [changes.store]) fun type => ?_⟩
  rw [changes.state]
  cases type <;> rfl

theorem saveLeave_endsNoJobs : EndsNoJobs env (saveLeave env) := by
  refine EndsNoJobs.bind (.modifyState fun _ type => by cases type <;> rfl) fun _ => ?_
  intro locked
  apply EndsJobsAnyhow.bind_getState
  refine EndsNoJobs.deferring (.mapError (.onWorld ?_)) (EndsNoJobs.when (.ignoring (.onWorld ?_))) locked
  · refine .of_wp fun world => ?_
    rw [Handler.onStore, wp_zoom]
    exact Store.wp_updateCall (fun _ => rfl) fun _ _ => rfl
  · exact .of_run fun world => by rw [updateCallPostEnded_world]

/-- The session of a removal is deleted from the store, and then from memory. -/
theorem deleteSession_endsJobs {id : String} (deletes : env.faults (.deleteCallSession id) = false) :
    EndsJobs env [] [] locked ((onStore (Store.deleteCallSession env.faults id)).mapError
      ("failed to delete call session: " ++ ·)) := by
  refine EndsJobs.mapError ?_
  unfold EndsJobs
  rw [onStore, onWorld, wp_zoom, Handler.onStore, wp_zoom]
  refine Store.wp_deleteCallSession (fun err broken => ?_) fun _ => ⟨⟨(), rfl⟩, .of_same rfl fun _ => rfl⟩
  rw [deletes] at broken
  cases broken

theorem removeUserSession_endsJobs (works : env.WritesWork) (valid : locked.JobsValid) {ref : SessionRef}
    (deletes : env.faults (.deleteCallSession ref.originalConnID) = false)
    (present : locked.state.sessions.contains ref.originalConnID = true) :
    EndsJobsAnyhow env (locked.state.endedByLeave ref.originalConnID ref.connID)
      (locked.state.endedByLeave ref.originalConnID ref.connID) locked (removeUserSession env channelID ref) := by
  obtain ⟨us, found⟩ := Option.isSome_iff_exists.mp present
  apply EndsJobsAnyhow.bind_getState
  rw [found]
  refine EndsJobsAnyhow.quiet_bind (deleteSession_endsJobs deletes) fun _ deleted sameDeleted => ?_
  refine EndsJobsAnyhow.quiet_bind ⟨⟨(), rfl⟩, .of_same rfl fun type => by cases type <;> rfl⟩ fun _ left sameLeft => ?_
  refine EndsJobsAnyhow.quiet_bind (wp_mono (leaveScreen_spec env channelID left _) fun _ _ changes => changes.jobsEnded)
    fun _ screenLeft sameScreen => ?_
  refine EndsJobsAnyhow.quiet_bind (wp_mono (leaveVideo_spec env channelID screenLeft _ us) fun _ _ changes => changes.jobsEnded)
    fun _ videoLeft sameVideo => ?_
  have quiet := ((sameDeleted.trans sameLeft).trans sameScreen).trans sameVideo
  rw [← quiet.endedByLeave]
  refine (leaveJobs_endsJobs works (quiet.jobsValid valid) _ _).anyhow.bind_quiet fun _ => ?_
  refine EndsNoJobs.bind (.onWorld (.modify fun _ => rfl)) fun _ => EndsNoJobs.bind (fun hostless => ?_) fun _ =>
    saveLeave_endsNoJobs
  exact wp_mono (leaveHost_spec env channelID hostless _) fun _ _ changes => changes.jobsEnded.2

/-! ### Start timeouts and failures -/

/-- A recording whose start timed out ends together with the transcription. -/
theorem recJobTimeoutChecker_endsJobs (works : env.WritesWork) (valid : locked.JobsValid) {recState : CallJob}
    (held : locked.state.job? .recording = some recState) (waiting : recState.startAt = 0) :
    EndsJobsAnyhow env (.recording :: transcriptionTypes (locked.state.inProgress .transcribing))
      (.recording :: transcriptionTypes (locked.state.inProgress .transcribing)) locked
      (recJobTimeoutChecker env channelID recState.props.jobID) := by
  have recording : locked.state.recording = some recState := held
  apply EndsJobsAnyhow.bind_getState
  simp only [recording, waiting, ne_eq, not_true_eq_false, or_self, if_false]
  show EndsJobsAnyhow env ([.recording] ++ transcriptionTypes _) ([.recording] ++ transcriptionTypes _) locked _
  have saves := saveJob_endsJobs ((recState.withErr recTimeoutErr).ended env.now) works valid held rfl
  refine EndsJobsAnyhow.bind saves.anyhow.ignoring fun _ middle ended => ?_
  exact ((stopTranscribing_afterRecording works valid ended rfl 1).ignoring_when rfl id).anyhow.bind_quiet fun _ =>
    .publishJobState channelID _

/-- The live captions of a transcription whose start timed out are ended in memory
only: it is the row of the transcription that is written, once more. -/
theorem captionsOnTimeout_endsJobs (works : env.WritesWork) (valid : locked.JobsValid)
    {trState trHeld lcState lcHeld : CallJob} (transcription : locked.state.job? .transcribing = some trHeld)
    (sameTr : trState.apartFromErr = trHeld.apartFromErr) (ended : trState.endAt ≠ 0)
    (captions : locked.state.job? .captioning = some lcHeld) (sameLc : lcState.apartFromErr = lcHeld.apartFromErr) :
    EndsJobs env [.captioning] [.transcribing] locked (do
      modifyState (·.withJob (lcState.ended env.now) .captioning)
      (onStore (Store.updateCallJob env.faults trState)).ignoring) := by
  have sameEnded := congrArg (fun job => (job.ended env.now).apartFromErr) sameLc
  refine (withJob_endsJobs (lcState.ended env.now) captions sameEnded).bind fun _ middle lcEnded => ?_
  obtain ⟨now, found, sameNow⟩ := lcEnded.job?_of_some transcription
  rw [if_neg (by decide)] at sameNow
  refine (updateCallJob_endsJobs works found ?_ ?_ ended).anyhow.ignoring
  · exact CallJob.id_of_apartFromErr (sameTr.trans sameNow.symm)
  · rw [CallJob.isValid_congr (CallJob.identity_of_apartFromErr sameTr)]
    exact valid .transcribing trHeld transcription

theorem transcriptionJobTimeoutChecker_endsJobs (works : env.WritesWork) (valid : locked.JobsValid) {trState : CallJob}
    (held : locked.state.job? .transcribing = some trState) (waiting : trState.startAt = 0) :
    ∃ inMemory, EndsJobsAnyhow env inMemory (.transcribing :: recordingTypes (locked.state.inProgress .recording)) locked
      (transcriptionJobTimeoutChecker env channelID trState.props.jobID) := by
  have transcription : locked.state.transcription = some trState := held
  have saves : EndsJobs env [.transcribing] [.transcribing] locked
      (saveJob env ((trState.ended env.now).withErr trTimeoutErr) .transcribing).ignoring :=
    (saveJob_endsJobs ((trState.ended env.now).withErr trTimeoutErr) works valid held rfl).anyhow.ignoring
  have stops (middle : LockedCall) (inMemory saved : List JobType) (ended : JobsEnded env inMemory saved locked middle)
      (without : .transcribing ∈ inMemory ∧ .recording ∉ inMemory) (ev : CallJob → WsEvent) :
      EndsJobs env (recordingTypes (locked.state.inProgress .recording))
        (recordingTypes (locked.state.inProgress .recording)) middle
        (ifSome (locked.state.recording.filter fun recState => recState.endAt = 0) fun recState => do
          (stopRecordingJob env channelID).ignoring
          publishToParticipants env channelID (ev recState)) := by
    have ends : EndsJobs env _ _ middle (stopRecordingJob env channelID).ignoring :=
      (stopRecording_afterTranscription works valid ended without).ignoring
    refine .ifSome (fun recState _ => ends.bind_quiet fun _ _ => ⟨⟨(), rfl⟩, .of_same rfl fun _ => rfl⟩) fun idle => ?_
    have without : locked.state.inProgress .recording = false := by
      rw [← Bool.not_eq_true, CallState.inProgress_iff]
      intro facts
      obtain ⟨recState, active, unended⟩ := facts
      simp [show locked.state.recording = some recState from active, unended] at idle
    rw [without]
    exact .refl env middle
  generalize config : (if env.config.liveCaptionsEnabled = true then locked.state.liveCaptions else none) = lcState
  cases lcState with
  | none =>
    refine ⟨[.transcribing] ++ recordingTypes (locked.state.inProgress .recording), EndsJobsAnyhow.bind_getState ?_⟩
    simp only [transcription, waiting, ne_eq, not_true_eq_false, or_self, if_false, config]
    show EndsJobsAnyhow env _ ([.transcribing] ++ recordingTypes _) locked _
    refine EndsJobsAnyhow.bind saves fun _ middle trEnded => EndsJobsAnyhow.quiet_bind (.pure ()) fun _ last same => ?_
    exact (stops last _ _ (trEnded.trans same) (by decide) _).anyhow.bind_quiet fun _ => .publishJobState channelID _
  | some lcState =>
    have captions : locked.state.job? .captioning = some lcState := by
      split at config
      · exact config
      · cases config
    refine ⟨[.transcribing] ++ ([.captioning] ++ recordingTypes (locked.state.inProgress .recording)),
      EndsJobsAnyhow.bind_getState ?_⟩
    simp only [transcription, waiting, ne_eq, not_true_eq_false, or_self, if_false, config]
    have twice : ∀ type, type ∈ [JobType.transcribing] ++ ([.transcribing] ++
        recordingTypes (locked.state.inProgress .recording)) ↔
        type ∈ JobType.transcribing :: recordingTypes (locked.state.inProgress .recording) := by simp
    refine EndsJobsAnyhow.congr (EndsJobsAnyhow.bind saves fun _ middle trEnded => ?_) (fun _ => Iff.rfl) twice
    obtain ⟨trNow, trFound, trSame⟩ := trEnded.job?_of_some held
    obtain ⟨lcNow, lcFound, lcSame⟩ := trEnded.job?_of_some captions
    rw [if_pos (by decide)] at trSame
    rw [if_neg (by decide)] at lcSame
    refine EndsJobsAnyhow.bind (captionsOnTimeout_endsJobs works (trEnded.jobsValid valid) trFound ?_ ?_ lcFound lcSame.symm)
      fun _ last lcEnded => ?_
    · exact trSame.symm
    · exact trState.ended_ne env.now
    · exact (stops last _ _ (trEnded.trans lcEnded) (by decide) _).anyhow.bind_quiet fun _ => .publishJobState channelID _

/-- The jobs that end with a job of the type. -/
def CallState.endedWith (cs : CallState) : JobType → List JobType
  | .recording => .recording :: transcriptionTypes (cs.inProgress .transcribing)
  | .transcribing => .transcribing :: recordingTypes (cs.inProgress .recording)
  | .captioning => [.captioning]

theorem CallState.isSome_of_inProgress {cs : CallState} {type : JobType} (active : cs.inProgress type = true) :
    (cs.job? type).isSome = true := by
  obtain ⟨job, held, -⟩ := CallState.inProgress_iff.mp active
  rw [held]
  rfl

/-- The last write of a failed job, which has been ended in memory before. -/
theorem saveFailed_endsJobs (works : env.WritesWork) (valid : locked.JobsValid) {middle : LockedCall} {jb : CallJob}
    {type : JobType} {inMemory saved : List JobType} (ended : JobsEnded env inMemory saved locked middle)
    (held : locked.state.job? type = some jb) (listed : type ∈ inMemory) (err : String) :
    EndsJobs env [type] [type] middle (do
      saveJob env ((jb.ended env.now).withErr err) type
      publishJobState env channelID ((jb.ended env.now).withErr err)) := by
  obtain ⟨now, found, same⟩ := ended.job?_of_some held
  rw [if_pos listed] at same
  have again : ((jb.ended env.now).withErr err).apartFromErr = (now.ended env.now).apartFromErr :=
    congrArg (fun job => job.ended env.now) same.symm
  exact (saveJob_endsJobs _ works (ended.jobsValid valid) found again).bind_quiet fun _ _ =>
    publishJobState_endsJobs channelID

/-- A job that failed is saved after the jobs that depend on it have been stopped. -/
theorem jobFailed_endsJobs (works : env.WritesWork) (valid : locked.JobsValid) {jb : CallJob} {status : JobStatus}
    (held : locked.state.job? status.jobType = some jb) :
    EndsJobsAnyhow env (locked.state.endedWith status.jobType) (locked.state.endedWith status.jobType) locked
      (jobFailed env channelID jb status) := by
  obtain ⟨type, kind, err⟩ := status
  dsimp only at held
  apply EndsJobsAnyhow.bind_getState
  have memory : EndsJobs env [type] [] locked (modifyState (·.withJob ((jb.ended env.now).withErr err) type)) :=
    withJob_endsJobs _ held rfl
  have sameMemory (others : List JobType) (other : JobType) : other ∈ [type] ++ (others ++ [type]) ↔ other ∈ type :: others := by
    simp [or_comm]
  have sameSaved (others : List JobType) (other : JobType) : other ∈ others ++ [type] ↔ other ∈ type :: others := by
    simp [or_comm]
  have recordingStops (middle : LockedCall) (condition : Prop) [Decidable condition] (never : ¬ condition) :
      EndsJobs env [] [] middle ((stopRecordingJob env channelID).ignoring.when condition) :=
    .when (fun asked => absurd asked never) fun _ => .refl env middle
  have transcriptionStops (middle : LockedCall) (condition : Prop) [Decidable condition] (never : ¬ condition) :
      EndsJobs env [] [] middle ((stopTranscribingJob env channelID).ignoring.when condition) :=
    .when (fun asked => absurd asked never) fun _ => .refl env middle
  cases type with
  | recording =>
    refine EndsJobsAnyhow.congr (EndsJobsAnyhow.bind memory fun _ middle ended =>
      EndsJobsAnyhow.bind ((stopTranscribing_afterRecording works valid ended rfl 1).ignoring_when rfl fun active =>
        ⟨rfl, CallState.isSome_of_inProgress active⟩) fun _ last trEnded =>
      EndsJobsAnyhow.quiet_bind (recordingStops last _ (by simp)) fun _ final nothing =>
      (saveFailed_endsJobs works valid ((ended.trans trEnded).trans nothing) held (by simp) err).anyhow)
      (sameMemory _) (sameSaved _)
  | transcribing =>
    refine EndsJobsAnyhow.congr (EndsJobsAnyhow.bind memory fun _ middle ended =>
      EndsJobsAnyhow.quiet_bind (transcriptionStops middle _ (by simp)) fun _ next nothing =>
      EndsJobsAnyhow.bind ((stopRecording_afterTranscription works valid (ended.trans nothing) (by simp)).ignoring_when rfl
        fun active => ⟨rfl, CallState.isSome_of_inProgress active⟩) fun _ last recEnded =>
      (saveFailed_endsJobs works valid ((ended.trans nothing).trans recEnded) held (by simp) err).anyhow)
      (sameMemory _) (sameSaved _)
  | captioning =>
    refine EndsJobsAnyhow.congr (EndsJobsAnyhow.bind memory fun _ middle ended =>
      EndsJobsAnyhow.quiet_bind (transcriptionStops middle _ (by simp)) fun _ next nothing =>
      EndsJobsAnyhow.quiet_bind (recordingStops next _ (by simp)) fun _ last nothingElse =>
      (saveFailed_endsJobs works valid ((ended.trans nothing).trans nothingElse) held (by simp) err).anyhow)
      (sameMemory []) (sameSaved [])

/-- A failed status that the bot reports for a job of the state. -/
theorem handleBotPostJobsStatus_endsJobs (works : env.WritesWork) (valid : locked.JobsValid) {jb : CallJob}
    {type : JobType} (err : String) (held : locked.state.job? type = some jb) (accepted : type ≠ .captioning) :
    EndsJobsAnyhow env (locked.state.endedWith type) (locked.state.endedWith type) locked
      (handleBotPostJobsStatus env channelID jb.id ⟨type, .failed, err⟩) := by
  apply EndsJobsAnyhow.bind_getState
  refine EndsJobsAnyhow.bind_throwIf accepted ?_
  dsimp only
  rw [held]
  refine EndsJobsAnyhow.bind_throwIf (by simp) (EndsJobsAnyhow.bind_throwIf (by simp) ?_)
  refine (jobFailed_endsJobs works valid held).bind_quiet fun _ last => ?_
  exact EndsJobsAnyhow.bind_getState (EndsNoJobs.ifSome (fun _ => .publishJobState channelID _) last)

end

end Calls
