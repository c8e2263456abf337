import Calls.Server.Recordings
import Calls.Server.Session

/-! The handlers of jobs change jobs in memory, write rows of jobs and publish
about them. What each of these keeps, every handler keeps. -/

set_option autoImplicit false

namespace Calls

open LockedHandler Command

/-- An invariant of all that the handlers of jobs are made of, apart from new rows. -/
structure KeptByJobs (env : Env) (channelID : String) (holds : LockedCall → Prop) : Prop where
  memory : ∀ job type, Maintains holds (modifyState (·.withJob job type))
  update : ∀ job, Maintains holds (onStore (Store.updateCallJob env.faults job))
  tell : ∀ jobState, Maintains holds (publishToParticipants env channelID (.callJobState channelID jobState))
  stop : ∀ jobID, Maintains holds (onWorld (stopJob env channelID jobID env.botID))

namespace LockedHandler

theorem getState_maintains {holds : LockedCall → Prop} : Maintains holds getState := fun _ held => held

end LockedHandler

/-- An invariant of the handlers that only end jobs, where it holds with jobs in memory whose rows may be ended. -/
structure KeptByEnding (env : Env) (channelID : String) (held : CallJob → Prop) (holds : LockedCall → Prop) : Prop where
  held_of : ∀ locked, holds locked → ∀ type job, locked.state.job? type = some job → held job
  congr : ∀ job other, held job → other.identity = job.identity → held other
  memory : ∀ job type, held job → Maintains holds (modifyState (·.withJob job type))
  ends : ∀ job, held job → job.endAt ≠ 0 → Maintains holds (onStore (Store.updateCallJob env.faults job))
  tell : ∀ jobState, Maintains holds (publishToParticipants env channelID (.callJobState channelID jobState))
  stop : ∀ jobID, Maintains holds (onWorld (stopJob env channelID jobID env.botID))

/-- An invariant of the handlers that stop jobs. A job that they end is ended in memory and in the store,
and only what goes wrong afterwards is noted in memory alone. -/
structure KeptByStops (env : Env) (channelID : String) (held : JobType → CallJob → Prop) (holds : LockedCall → Prop) : Prop where
  held_of : ∀ locked, holds locked → ∀ type job, locked.state.job? type = some job → held type job
  ends : ∀ type job, held type job → job.endAt = 0 ∨ type = .captioning →
    Maintains holds (saveJob env (job.ended env.now) type)
  fails : ∀ type job err, held type job → job.endAt = 0 → type ≠ .captioning →
    Maintains holds (modifyState (·.withJob ((job.ended env.now).withErr err) type))
  tell : ∀ jobState, Maintains holds (publishToParticipants env channelID (.callJobState channelID jobState))
  stop : ∀ jobID, Maintains holds (onWorld (stopJob env channelID jobID env.botID))

/-- An invariant of all handlers of jobs, where their rows may be written. -/
structure KeptByWriting (env : Env) (channelID : String) (held : CallJob → Prop) (holds : LockedCall → Prop) : Prop
    extends KeptByEnding env channelID held holds where
  writes : ∀ job, held job → Maintains holds (onStore (Store.updateCallJob env.faults job))

theorem KeptByJobs.writing {env : Env} {channelID : String} {holds : LockedCall → Prop}
    (kept : KeptByJobs env channelID holds) : KeptByWriting env channelID (fun _ => True) holds where
  held_of _ _ _ _ _ := trivial
  congr _ _ _ _ := trivial
  memory job type _ := kept.memory job type
  ends job _ _ := kept.update job
  tell := kept.tell
  stop := kept.stop
  writes job _ := kept.update job

theorem CallJob.ended_ne (job : CallJob) (now : Instant) : (job.ended now).endAt ≠ 0 := by
  have := now.unixMilli_pos
  simp only [CallJob.ended]
  omega

namespace KeptByStops

variable {env : Env} {channelID : String} {held : JobType → CallJob → Prop} {holds : LockedCall → Prop}

/-- What follows on reading the state may rely on what is held of its jobs. -/
theorem bind_getState {α : Type} {next : CallState → LockedHandler α} (kept : KeptByStops env channelID held holds)
    (keeps : ∀ state, (∀ type job, state.job? type = some job → held type job) → Maintains holds (next state)) :
    Maintains holds (getState >>= next) :=
  fun locked held => keeps locked.state (kept.held_of locked held) locked held

theorem publishJobState (kept : KeptByStops env channelID held holds) (job : CallJob) :
    Maintains holds (publishJobState env channelID job) := kept.tell _

/-- Both stop functions at once, by induction on the depth of the recursion. -/
theorem stopFuel (kept : KeptByStops env channelID held holds) (fuel : Nat) :
    Maintains holds (stopRecordingJobFuel env channelID fuel) ∧
      Maintains holds (stopTranscribingJobFuel env channelID fuel) := by
  have failed (job : CallJob) (type : JobType) (own : held type job) (unended : job.endAt = 0) (other : type ≠ .captioning)
      (err : String) : Maintains holds (do
        modifyState (·.withJob ((job.ended env.now).withErr err) type)
        LockedHandler.publishJobState env channelID ((job.ended env.now).withErr err)) :=
    (kept.fails type job err own unended other).bind fun _ => kept.publishJobState _
  induction fuel with
  | zero =>
    constructor
    · rw [stopRecordingJobFuel]
      exact .throw _
    · rw [stopTranscribingJobFuel]
      exact .throw _
  | succ fuel ih =>
    obtain ⟨recordingKeeps, transcribingKeeps⟩ := ih
    constructor
    · rw [stopRecordingJobFuel]
      refine kept.bind_getState fun state own => ?_
      cases found : state.recording with
      | none => exact .throw _
      | some recState =>
        have ownRec := own .recording recState found
        dsimp only
        split
        · exact .throw _
        · next running =>
          have unended : recState.endAt = 0 := not_not.mp running
          refine (kept.ends .recording recState ownRec (.inl unended)).bind fun _ =>
            .onError ?_ fun err => failed recState _ ownRec unended (by decide) err
          refine transcribingKeeps.ignoring.when.bind fun _ => ?_
          refine (kept.stop _).mapError.bind fun _ => ?_
          exact (kept.publishJobState _).bind fun _ => .pure _
    · rw [stopTranscribingJobFuel]
      refine kept.bind_getState fun state own => ?_
      cases found : state.transcription with
      | none => exact .throw _
      | some trState =>
        have ownTr := own .transcribing trState found
        dsimp only
        split
        · exact .throw _
        · next running =>
          have unended : trState.endAt = 0 := not_not.mp running
          refine (kept.ends .transcribing trState ownTr (.inl unended)).bind fun _ => ?_
          -- The captions are ended again where they have ended already.
          have captions : Maintains holds (ifSome (state.liveCaptions.map (·.ended env.now)) fun lcState =>
              LockedHandler.saveJob env lcState .captioning) := by
            refine .ifSome fun lcState ended => ?_
            obtain ⟨previous, found, rfl⟩ := Option.map_eq_some_iff.mp ended
            exact kept.ends .captioning previous (own .captioning previous found) (.inr rfl)
          refine captions.bind fun _ => .onError ?_ fun err => failed trState _ ownTr unended (by decide) err
          refine (kept.stop _).mapError.bind fun _ => ?_
          refine recordingKeeps.ignoring.when.bind fun _ => ?_
          exact (kept.publishJobState _).bind fun _ => .ifSome fun _ _ => kept.publishJobState _

theorem stopRecordingJob (kept : KeptByStops env channelID held holds) :
    Maintains holds (stopRecordingJob env channelID) := (kept.stopFuel 2).1

theorem stopTranscribingJob (kept : KeptByStops env channelID held holds) :
    Maintains holds (stopTranscribingJob env channelID) := (kept.stopFuel 2).2

theorem leaveJobs (kept : KeptByStops env channelID held holds) (originalConnID connID : String) :
    Maintains holds (leaveJobs env channelID originalConnID connID) := by
  have bot : Maintains holds (stopJobsOfBot env channelID) :=
    getState_maintains.bind fun _ => Maintains.when <|
      (Maintains.ifSome fun _ _ => (kept.stop _).ignoring).bind fun _ => .ifSome fun _ _ => (kept.stop _).ignoring
  have saves {state : CallState} (own : ∀ type job, state.job? type = some job → held type job) {type : JobType} {connID : String}
      {job : CallJob} (bound : state.jobOfConn? type connID = some job) :
      Maintains holds (LockedHandler.saveJob env (job.ended env.now) type) := by
    obtain ⟨found, running⟩ := Option.mem_filter_iff.mp bound
    exact kept.ends type job (own type job found) (.inl (of_decide_eq_true running).1)
  have recording : Maintains holds (recordingBotLeft env channelID originalConnID) :=
    kept.bind_getState fun _ own => .ifSome fun _ bound => (saves own bound).bind fun _ =>
      kept.stopTranscribingJob.ignoring.when.bind fun _ => kept.publishJobState _
  have transcribing : Maintains holds (transcribingBotLeft env channelID originalConnID) :=
    kept.bind_getState fun _ own => .ifSome fun _ bound => (saves own bound).bind fun _ =>
      kept.stopRecordingJob.ignoring.when.bind fun _ => (kept.publishJobState _).bind fun _ =>
        .ifSome fun _ _ => kept.publishJobState _
  have captioning : Maintains holds (captioningBotLeft env connID) :=
    kept.bind_getState fun _ own => .ifSome fun _ bound => saves own bound
  exact bot.bind fun _ => recording.bind fun _ => transcribing.bind fun _ => captioning

end KeptByStops

namespace KeptByEnding

variable {env : Env} {channelID : String} {held : CallJob → Prop} {holds : LockedCall → Prop} {job : CallJob}

/-- What follows on reading the state may rely on what is held of its jobs. -/
theorem bind_getState {α : Type} {next : CallState → LockedHandler α} (kept : KeptByEnding env channelID held holds)
    (keeps : ∀ state, (∀ type job, state.job? type = some job → held job) → Maintains holds (next state)) :
    Maintains holds (getState >>= next) :=
  fun locked held => keeps locked.state (kept.held_of locked held) locked held

theorem saveEnded (kept : KeptByEnding env channelID held holds) (own : held job) (saved : CallJob) (type : JobType)
    (same : saved.identity = job.identity) (ended : saved.endAt ≠ 0) : Maintains holds (saveJob env saved type) :=
  (kept.memory saved type (kept.congr job saved own same)).bind fun _ =>
    (kept.ends saved (kept.congr job saved own same) ended).mapError

theorem publishJobState (kept : KeptByEnding env channelID held holds) (job : CallJob) :
    Maintains holds (publishJobState env channelID job) := kept.tell _

/-! ### Stopping -/

theorem stops (kept : KeptByEnding env channelID held holds) : KeptByStops env channelID (fun _ => held) holds where
  held_of := kept.held_of
  ends type job own _ := kept.saveEnded own (job.ended env.now) type rfl (job.ended_ne env.now)
  fails type job err own _ _ := kept.memory _ type (kept.congr job ((job.ended env.now).withErr err) own rfl)
  tell := kept.tell
  stop := kept.stop

theorem stopRecordingJob (kept : KeptByEnding env channelID held holds) :
    Maintains holds (stopRecordingJob env channelID) := kept.stops.stopRecordingJob

theorem stopTranscribingJob (kept : KeptByEnding env channelID held holds) :
    Maintains holds (stopTranscribingJob env channelID) := kept.stops.stopTranscribingJob

/-! ### Timeouts and failures -/

theorem recJobTimeoutChecker (kept : KeptByEnding env channelID held holds) (jobID : String) :
    Maintains holds (recJobTimeoutChecker env channelID jobID) := by
  refine kept.bind_getState fun state own => ?_
  cases found : state.recording with
  | none => exact .pure _
  | some recState =>
    have saves := kept.saveEnded (own .recording recState found) ((recState.withErr recTimeoutErr).ended env.now) .recording
      rfl (CallJob.ended_ne _ env.now)
    exact .ite (.pure _) (saves.ignoring.bind fun _ =>
      kept.stopTranscribingJob.ignoring.when.bind fun _ => kept.publishJobState _)

theorem transcriptionJobTimeoutChecker (kept : KeptByEnding env channelID held holds) (jobID : String) :
    Maintains holds (transcriptionJobTimeoutChecker env channelID jobID) := by
  refine kept.bind_getState fun state own => ?_
  cases found : state.transcription with
  | none => exact .pure _
  | some trState =>
    have ownTr := own .transcribing trState found
    have ended : ((trState.ended env.now).withErr trTimeoutErr).endAt ≠ 0 := trState.ended_ne env.now
    have saves := kept.saveEnded ownTr ((trState.ended env.now).withErr trTimeoutErr) .transcribing rfl ended
    refine .ite (.pure _) (saves.ignoring.bind fun _ => ?_)
    have captions : Maintains holds (ifSome (if env.config.liveCaptionsEnabled then state.liveCaptions else none)
        fun lcState => do
          modifyState (·.withJob (lcState.ended env.now) .captioning)
          (onStore (Store.updateCallJob env.faults ((trState.ended env.now).withErr trTimeoutErr))).ignoring) := by
      refine .ifSome fun lcState chosen => ?_
      split at chosen
      · exact (kept.memory _ _ (kept.congr lcState (lcState.ended env.now) (own .captioning lcState chosen) rfl)).bind fun _ =>
          (kept.ends _ (kept.congr trState ((trState.ended env.now).withErr trTimeoutErr) ownTr rfl) ended).ignoring
      · cases chosen
    refine captions.bind fun _ => ?_
    refine (Maintains.ifSome fun _ _ => kept.stopRecordingJob.ignoring.bind fun _ => kept.tell _).bind fun _ => ?_
    exact kept.publishJobState _

theorem jobFailed (kept : KeptByEnding env channelID held holds) (own : held job) (reported : JobStatus) :
    Maintains holds (jobFailed env channelID job reported) :=
  getState_maintains.bind fun _ =>
    (kept.memory _ _ (kept.congr job ((job.ended env.now).withErr reported.error) own rfl)).bind fun _ =>
      kept.stopTranscribingJob.ignoring.when.bind fun _ => kept.stopRecordingJob.ignoring.when.bind fun _ =>
        (kept.saveEnded own ((job.ended env.now).withErr reported.error) _ rfl (job.ended_ne env.now)).bind fun _ =>
          kept.publishJobState _

theorem relayError (kept : KeptByEnding env channelID held holds) (type : JobType) (err : String) :
    Maintains holds (relayError env channelID type err) :=
  kept.bind_getState fun _ own => .ifSome fun job found =>
    (kept.memory _ _ (kept.congr job ((job.ended env.now).withErr err) (own type job found) rfl)).bind fun _ =>
      kept.publishJobState _

theorem leaveJobs (kept : KeptByEnding env channelID held holds) (originalConnID connID : String) :
    Maintains holds (leaveJobs env channelID originalConnID connID) := kept.stops.leaveJobs originalConnID connID

end KeptByEnding

namespace KeptByWriting

variable {env : Env} {channelID : String} {held : CallJob → Prop} {holds : LockedCall → Prop} {job : CallJob}

theorem saveJob (kept : KeptByWriting env channelID held holds) (own : held job) (saved : CallJob) (type : JobType)
    (same : saved.identity = job.identity) : Maintains holds (saveJob env saved type) :=
  (kept.memory saved type (kept.congr job saved own same)).bind fun _ =>
    (kept.writes saved (kept.congr job saved own same)).mapError

/-! ### Statuses -/

theorem jobStarted (kept : KeptByWriting env channelID held holds) (own : held job) {lcState : Option CallJob}
    (captions : ∀ job, lcState = some job → held job) (reported : JobStatus) :
    Maintains holds (jobStarted env channelID job lcState reported) :=
  (Maintains.throwIf _).bind fun _ =>
    (kept.memory _ _ (kept.congr job { job with startAt := env.now.unixMilli } own rfl)).bind fun _ =>
      (Maintains.ifSome fun lcState found =>
        kept.saveJob (captions lcState found) { lcState with startAt := env.now.unixMilli } _ rfl).bind fun _ =>
          (kept.saveJob own { job with startAt := env.now.unixMilli } _ rfl).bind fun _ => kept.publishJobState _

theorem handleBotPostJobsStatus (kept : KeptByWriting env channelID held holds) (jobID : String) (reported : JobStatus) :
    Maintains holds (handleBotPostJobsStatus env channelID jobID reported) := by
  refine kept.bind_getState fun state own => (Maintains.throwIf _).bind fun _ => ?_
  dsimp only
  cases found : state.job? reported.jobType with
  | none => exact .throw _
  | some jb =>
    refine (Maintains.throwIf _).bind fun _ => (Maintains.throwIf _).bind fun _ => ?_
    refine Maintains.bind ?_ fun _ => getState_maintains.bind fun _ => .ifSome fun _ _ => kept.publishJobState _
    cases reported.status with
    | failed => exact kept.jobFailed (own _ jb found) reported
    | started =>
      refine kept.jobStarted (own _ jb found) (fun lcState chosen => ?_) reported
      split at chosen
      · exact own .captioning lcState chosen
      · cases chosen

/-! ### Starting -/

theorem beginRecordingJob (kept : KeptByWriting env channelID held holds)
    (creates : ∀ job, Maintains holds (onStore (Store.createCallJob env.faults job))) (userID : String) :
    Maintains holds (beginRecordingJob env channelID userID) :=
  getState_maintains.bind fun _ => (Maintains.throwIf _).bind fun _ => (creates _).mapError.bind fun _ =>
    (kept.publishJobState _).bind fun _ => .pure _

theorem beginTranscribingJob (kept : KeptByWriting env channelID held holds)
    (creates : ∀ job, Maintains holds (onStore (Store.createCallJob env.faults job))) (userID trID lcID : String) :
    Maintains holds (beginTranscribingJob env channelID userID trID lcID) :=
  getState_maintains.bind fun _ => (Maintains.throwIf _).bind fun _ => (Maintains.throwIf _).bind fun _ =>
    (creates _).mapError.bind fun _ => (creates _).mapError.when.bind fun _ =>
      (kept.publishJobState _).bind fun _ => .pure _

theorem resumeRecordingJob (kept : KeptByWriting env channelID held holds) (result : RunJobResult) :
    Maintains holds (resumeRecordingJob env channelID result) := by
  refine kept.bind_getState fun state own => ?_
  cases found : state.recording with
  | none => exact .throw _
  | some recState =>
    have ownRec := own .recording recState found
    refine .onError ?_ fun err => kept.relayError _ err
    cases result with
    | error jobErr =>
      exact (kept.saveJob ownRec ((recState.ended env.now).withErr jobErr) _ rfl).ignoring.bind fun _ => .throw _
    | ok jobID =>
      exact (Maintains.throwIf _).bind fun _ => (kept.saveJob ownRec (recState.withJobID jobID) _ rfl).bind fun _ => .pure _

theorem continueRecordingJob (kept : KeptByWriting env channelID held holds)
    (creates : ∀ job, Maintains holds (onStore (Store.createCallJob env.faults job))) (userID trID lcID : String)
    (result : RunJobResult) : Maintains holds (continueRecordingJob env channelID userID trID lcID result) := by
  refine (kept.resumeRecordingJob result).bind fun recState => .ite ?_ ?_
  · refine .onError ?_ fun err => kept.relayError _ err
    exact (kept.beginTranscribingJob creates _ _ _).mapError.bind fun _ => .pure _
  · exact (kept.publishJobState _).bind fun _ => .pure _

theorem resumeTranscribingJob (kept : KeptByWriting env channelID held holds) (liveCaptionsOn : Bool)
    (result : RunJobResult) : Maintains holds (resumeTranscribingJob env channelID liveCaptionsOn result) := by
  refine kept.bind_getState fun state own => ?_
  cases found : state.transcription with
  | none => exact .throw _
  | some trState =>
    have ownTr := own .transcribing trState found
    have captions (job : CallJob) (chosen : (if liveCaptionsOn = true then state.liveCaptions else none) = some job) :
        held job := by
      split at chosen
      · exact own .captioning job chosen
      · cases chosen
    refine .onError ?_ fun err => kept.relayError _ err
    cases result with
    | error jobErr =>
      refine (kept.saveJob ownTr ((trState.ended env.now).withErr jobErr) _ rfl).ignoring.bind fun _ => ?_
      exact (Maintains.ifSome fun lcState found =>
        (kept.saveJob (captions lcState found) (lcState.ended env.now) _ rfl).ignoring).bind fun _ => .throw _
    | ok jobID =>
      refine (Maintains.throwIf _).bind fun _ => (kept.saveJob ownTr (trState.withJobID jobID) _ rfl).bind fun _ => ?_
      exact (Maintains.ifSome fun lcState found =>
        kept.saveJob (captions lcState found) (lcState.withJobID jobID) _ rfl).bind fun _ => kept.publishJobState _

end KeptByWriting

end Calls
