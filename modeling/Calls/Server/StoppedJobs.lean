import Calls.Server.CoupledJobs
import Calls.Server.News

/-! The two stop functions call each other. However deep that could go, the second level never calls a third, and
where nothing fails each job in progress is stopped once. -/

set_option autoImplicit false

namespace Calls

open LockedHandler Command

/-! ### One level of the recursion -/

/-- `stopRecordingJob`, with what it calls to stop the transcription. -/
def stopRecordingLevel (env : Env) (channelID : String) (stopTranscribing : LockedHandler Unit) : LockedHandler JobStateClient := do
  let state ← getState
  match state.recording with
  | none => .throw "no recording in progress"
  | some recState =>
    if recState.endAt ≠ 0 then .throw "no recording in progress"
    else do
      let recState := recState.ended env.now
      saveJob env recState .recording
      Command.onError
        (do
          stopTranscribing.ignoring.when (state.inProgress .transcribing)
          (onWorld (stopJob env channelID recState.id env.botID)).mapError
            ("failed to stop recording job: " ++ ·)
          publishJobState env channelID recState
          pure (getClientStateFromCallJob recState))
        fun err => do
          modifyState (·.withJob (recState.withErr err) .recording)
          publishJobState env channelID (recState.withErr err)

/-- `stopTranscribingJob`, with what it calls to stop the recording. -/
def stopTranscribingLevel (env : Env) (channelID : String) (stopRecording : LockedHandler JobStateClient) : LockedHandler Unit := do
  let state ← getState
  match state.transcription with
  | none => .throw "no transcription in progress"
  | some trState =>
    if trState.endAt ≠ 0 then .throw "no transcription in progress"
    else do
      let trState := trState.ended env.now
      saveJob env trState .transcribing
      let lcState := state.liveCaptions.map (·.ended env.now)
      Command.ifSome lcState fun lcState => saveJob env lcState .captioning
      Command.onError
        (do
          (onWorld (stopJob env channelID trState.id env.botID)).mapError
            ("failed to stop transcription job: " ++ ·)
          stopRecording.ignoring.when (state.inProgress .recording)
          publishJobState env channelID trState
          Command.ifSome lcState fun lcState => publishJobState env channelID lcState)
        fun err => do
          modifyState (·.withJob (trState.withErr err) .transcribing)
          publishJobState env channelID (trState.withErr err)

section
variable {env : Env} {channelID : String}

theorem stopRecordingJobFuel_succ (fuel : Nat) :
    stopRecordingJobFuel env channelID (fuel + 1) =
      stopRecordingLevel env channelID (stopTranscribingJobFuel env channelID fuel) := by
  rw [stopRecordingJobFuel]
  rfl

theorem stopTranscribingJobFuel_succ (fuel : Nat) :
    stopTranscribingJobFuel env channelID (fuel + 1) =
      stopTranscribingLevel env channelID (stopRecordingJobFuel env channelID fuel) := by
  rw [stopTranscribingJobFuel]
  rfl

/-! ### The second level calls no third -/

theorem inProgress_of_saveJob {job : CallJob} {type other : JobType} {locked after : LockedCall} {result : Except String Unit}
    (saved : saveJob env (job.ended env.now) type locked = (result, after)) :
    after.state.inProgress other = if other = type then false else locked.state.inProgress other := by
  have memory : after.state = locked.state.withJob (job.ended env.now) type := by
    have update : Preserves LockedCall.state ((onStore (Store.updateCallJob env.faults (job.ended env.now))).mapError
        ("failed to update call job: " ++ ·)) := .mapError (.of_run fun _ => rfl)
    have ran := update.run { locked with state := locked.state.withJob (job.ended env.now) type }
    rw [saveJob, bind_run, modifyState, modify_run] at saved
    dsimp only at saved
    rw [saved] at ran
    exact ran
  rw [memory, CallState.inProgress_withJob_ended _ type other (job.ended_ne env.now)]

/-- Where the recording has ended, it does not matter what would stop it. -/
theorem stopTranscribingLevel_run {locked : LockedCall} (ended : locked.state.inProgress .recording = false)
    (stopRecording other : LockedHandler JobStateClient) :
    stopTranscribingLevel env channelID stopRecording locked = stopTranscribingLevel env channelID other locked := by
  refine bind_run_congr fun state after read => ?_
  cases read
  simp only [ended, Command.when, Bool.false_eq_true, if_false]

theorem stopRecordingLevel_run {locked : LockedCall} (ended : locked.state.inProgress .transcribing = false)
    (stopTranscribing other : LockedHandler Unit) :
    stopRecordingLevel env channelID stopTranscribing locked = stopRecordingLevel env channelID other locked := by
  refine bind_run_congr fun state after read => ?_
  cases read
  simp only [ended, Command.when, Bool.false_eq_true, if_false]

/-- The transcription is stopped once the recording has ended. -/
theorem stopRecordingLevel_congr {stopTranscribing other : LockedHandler Unit}
    (same : ∀ locked : LockedCall, locked.state.inProgress .recording = false → stopTranscribing locked = other locked) :
    stopRecordingLevel env channelID stopTranscribing = stopRecordingLevel env channelID other := by
  funext locked
  refine bind_run_congr fun state after read => ?_
  cases read
  cases locked.state.recording with
  | none => rfl
  | some recState =>
    by_cases before : recState.endAt ≠ 0
    · simp only [if_pos before]
    · simp only [if_neg before]
      refine bind_run_congr fun _ middle saved => ?_
      have ended : middle.state.inProgress .recording = false := by rw [inProgress_of_saveJob saved, if_pos rfl]
      exact onError_run_congr (bind_run_congr_left (ignoring_when_run_congr (same middle ended)))

theorem state_of_saveCaptions {captions : Option CallJob} {locked after : LockedCall} {result : Except String Unit}
    (saved : ifSome (captions.map (·.ended env.now)) (fun lcState => saveJob env lcState .captioning) locked = (result, after)) :
    after.state.inProgress .transcribing = locked.state.inProgress .transcribing := by
  cases captions with
  | none =>
    cases saved
    rfl
  | some lcState => rw [inProgress_of_saveJob saved, if_neg (by decide)]

theorem state_of_stopJob {jobID : String} {change : String → String} {locked after : LockedCall} {result : Except String Unit}
    (stopped : (onWorld (stopJob env channelID jobID env.botID)).mapError change locked = (result, after)) :
    after.state = locked.state := by
  have quiet : Preserves LockedCall.state ((onWorld (stopJob env channelID jobID env.botID)).mapError change) :=
    .mapError (.of_run fun _ => rfl)
  rw [← quiet.run locked, stopped]

theorem stopTranscribingLevel_congr {stopRecording other : LockedHandler JobStateClient}
    (same : ∀ locked : LockedCall, locked.state.inProgress .transcribing = false → stopRecording locked = other locked) :
    stopTranscribingLevel env channelID stopRecording = stopTranscribingLevel env channelID other := by
  funext locked
  refine bind_run_congr fun state after read => ?_
  cases read
  cases locked.state.transcription with
  | none => rfl
  | some trState =>
    by_cases before : trState.endAt ≠ 0
    · simp only [if_pos before]
    · simp only [if_neg before]
      refine bind_run_congr fun _ middle saved => ?_
      have ended : middle.state.inProgress .transcribing = false := by rw [inProgress_of_saveJob saved, if_pos rfl]
      refine bind_run_congr fun _ last captions => onError_run_congr (bind_run_congr fun _ final stopped => ?_)
      refine bind_run_congr_left (ignoring_when_run_congr (same final ?_))
      rw [state_of_stopJob stopped, state_of_saveCaptions captions, ended]

/-! ### Two levels are all -/

/-- Whatever a third level would do, two are the whole run. -/
theorem stopRecordingLevel_twice (third : LockedHandler JobStateClient) :
    stopRecordingLevel env channelID (stopTranscribingLevel env channelID third) = stopRecordingJob env channelID := by
  rw [stopRecordingJob, stopRecordingJobFuel_succ, stopTranscribingJobFuel_succ]
  exact stopRecordingLevel_congr fun _ ended => stopTranscribingLevel_run ended third _

theorem stopTranscribingLevel_twice (third : LockedHandler Unit) :
    stopTranscribingLevel env channelID (stopRecordingLevel env channelID third) = stopTranscribingJob env channelID := by
  rw [stopTranscribingJob, stopTranscribingJobFuel_succ, stopRecordingJobFuel_succ]
  exact stopTranscribingLevel_congr fun _ ended => stopRecordingLevel_run ended third _

end

/-! ### How often a job is stopped -/

/-- The job that its bot is told to stop. -/
def WsEvent.jobStop? : WsEvent → Option String
  | .jobStop jobID => some jobID
  | _ => none

/-- The jobs that were told to stop, in order and as often as they were told. -/
def World.jobStops (world : World) : List String := world.published.filterMap fun delivery => delivery.ev.jobStop?

theorem publish_jobStops (env : Env) {ev : WsEvent} (broadcast : WebSocketBroadcast) (other : ev.jobStop? = none) :
    Preserves World.jobStops (Handler.publish env ev broadcast) := by
  refine .of_run fun world => ?_
  have silent : (publishWebSocketEvent env.botID ev broadcast).filterMap (fun delivery => delivery.ev.jobStop?) = [] := by
    refine List.filterMap_eq_nil_iff.mpr fun delivery member => ?_
    rw [ev_of_mem_publish member, other]
  show (world.published ++ _).filterMap _ = world.published.filterMap _
  rw [List.filterMap_append, silent, List.append_nil]

theorem publishWebSocketEvent_jobStop (botID jobID : String) :
    publishWebSocketEvent botID (.jobStop jobID) { userID := botID, reliableClusterSend := true } =
      [{ ev := .jobStop jobID, userID := botID, reliableClusterSend := true }] := by
  simp [publishWebSocketEvent, WsEvent.joinedOrLeft?, WebSocketBroadcast.toModel]

/-- Nothing that the stop functions ask for is refused: no update of a job, and no stop of one. -/
structure StopsWork (env : Env) (channelID : String) (locked : LockedCall) : Prop where
  writes : env.WritesWork
  jobs : locked.JobsValid
  channel : channelID ≠ ""
  bot : env.botID ≠ ""

theorem CallJob.id_ne_of_isValid {job : CallJob} (valid : job.isValid = .ok ()) : job.id ≠ "" := by
  intro empty
  simp [isValid, empty] at valid

namespace LockedHandler

/-- A handler that does not fail, ends jobs of the given types and tells the given jobs to stop. -/
def Stops {α : Type} (env : Env) (ids : List String) (types : List JobType) (locked : LockedCall) (command : LockedHandler α) :
    Prop :=
  command.wp (fun result after => (∃ value, result = .ok value) ∧ JobsEnded env types types locked after ∧
    after.world.jobStops = locked.world.jobStops ++ ids) locked

namespace Stops

variable {α β : Type} {env : Env} {ids thenIDs : List String} {types thenTypes : List JobType} {locked : LockedCall}

/-- A handler that ends jobs and tells none of them. -/
theorem of_endsJobs {command : LockedHandler α} (ends : EndsJobs env types types locked command)
    (quiet : Preserves (fun locked => locked.world.jobStops) command) : Stops env [] types locked command := by
  refine ⟨ends.1, ends.2, ?_⟩
  rw [List.append_nil]
  exact quiet.run locked

theorem bind {first : LockedHandler α} {next : α → LockedHandler β} (firstStops : Stops env ids types locked first)
    (nextStops : ∀ value middle, JobsEnded env types types locked middle → Stops env thenIDs thenTypes middle (next value)) :
    Stops env (ids ++ thenIDs) (types ++ thenTypes) locked (first >>= next) := by
  unfold Stops
  rw [wp_bind]
  refine wp_mono firstStops ?_
  intro _ middle facts
  obtain ⟨⟨value, rfl⟩, ended, told⟩ := facts
  rw [andThen_ok]
  refine wp_mono (nextStops value middle ended) fun _ after effect => ⟨effect.1, ended.trans effect.2.1, ?_⟩
  rw [effect.2.2, told, List.append_assoc]

theorem silent_bind {first : LockedHandler α} {next : α → LockedHandler β} (firstStops : Stops env [] types locked first)
    (nextStops : ∀ value middle, JobsEnded env types types locked middle → Stops env ids thenTypes middle (next value)) :
    Stops env ids (types ++ thenTypes) locked (first >>= next) := firstStops.bind nextStops

theorem bind_silent {first : LockedHandler α} {next : α → LockedHandler β} (firstStops : Stops env ids types locked first)
    (silent : ∀ value middle, Stops env [] [] middle (next value)) : Stops env ids types locked (first >>= next) := by
  have both := firstStops.bind fun value middle _ => silent value middle
  rwa [List.append_nil, List.append_nil] at both

theorem ignoring {command : LockedHandler α} (stops : Stops env ids types locked command) :
    Stops env ids types locked command.ignoring := ⟨⟨(), rfl⟩, stops.2⟩

theorem onError {command : LockedHandler α} {handler : String → LockedHandler Unit} (stops : Stops env ids types locked command) :
    Stops env ids types locked (command.onError handler) := by
  unfold Stops
  rw [wp_onError]
  refine wp_mono stops ?_
  intro _ after facts
  obtain ⟨⟨value, rfl⟩, effect⟩ := facts
  exact ⟨⟨value, rfl⟩, effect⟩

theorem mapError {command : LockedHandler α} {change : String → String} (stops : Stops env ids types locked command) :
    Stops env ids types locked (command.mapError change) := by
  unfold Stops
  rw [wp_mapError]
  refine wp_mono stops ?_
  intro _ after facts
  obtain ⟨⟨value, rfl⟩, effect⟩ := facts
  exact ⟨⟨value, rfl⟩, effect⟩

theorem pure (value : α) : Stops env [] [] locked (Pure.pure value) := .of_endsJobs (.pure value) (.pure value)

end Stops

section
variable {env : Env} {channelID : String} {locked : LockedCall}

theorem publishJobState_jobStops (job : CallJob) :
    Preserves (fun locked => locked.world.jobStops) (publishJobState env channelID job) :=
  .of_run fun locked => (publish_jobStops env _ rfl).run locked.world

theorem publishJobState_stops (job : CallJob) : Stops env [] [] locked (publishJobState env channelID job) :=
  .of_endsJobs (publishJobState_endsJobs channelID) (publishJobState_jobStops job)

theorem saveJob_jobStops (job : CallJob) (type : JobType) :
    Preserves (fun locked => locked.world.jobStops) (saveJob env job type) :=
  (show Preserves _ (modifyState _) from .modify fun _ => rfl).bind fun _ => .mapError (.of_run fun _ => rfl)

end

end LockedHandler

/-! ### Each job once -/

section
variable {env : Env} {channelID : String} {locked : LockedCall}

theorem StopsWork.of_ended (works : StopsWork env channelID locked) {types : List JobType} {middle : LockedCall}
    (ended : JobsEnded env types types locked middle) : StopsWork env channelID middle :=
  { works with jobs := ended.jobsValid works.jobs }

theorem stopJob_stops (works : StopsWork env channelID locked) {before : LockedCall} {job : CallJob} {type : JobType}
    (held : before.state.job? type = some job) {types : List JobType} (ended : JobsEnded env types types before locked) :
    Stops env [job.id] [] locked (onWorld (stopJob env channelID job.id env.botID)) := by
  obtain ⟨now, found, same⟩ := ended.job?_of_some held
  have id : job.id = now.id := by
    rw [CallJob.id_of_apartFromErr same]
    split <;> rfl
  have known : job.id ≠ "" := id ▸ CallJob.id_ne_of_isValid (works.jobs type now found)
  have accepted : stopJob env channelID job.id env.botID =
      Handler.publish env (.jobStop job.id) { userID := env.botID, reliableClusterSend := true } := by
    rw [stopJob, if_neg works.channel, if_neg known, if_neg works.bot]
  rw [accepted]
  refine ⟨⟨(), rfl⟩, .of_same rfl fun _ => rfl, ?_⟩
  show (locked.world.published ++ publishWebSocketEvent _ _ _).filterMap _ = _
  rw [List.filterMap_append, publishWebSocketEvent_jobStop]
  rfl

theorem captions_stops (works : StopsWork env channelID locked) {middle : LockedCall} {types : List JobType}
    (ended : JobsEnded env types types locked middle) (unlisted : .captioning ∉ types) :
    Stops env [] [.captioning] middle
      (ifSome (locked.state.liveCaptions.map (·.ended env.now)) fun lcState => saveJob env lcState .captioning) := by
  refine .of_endsJobs (captions_endJobs works.writes works.jobs ended unlisted) ?_
  cases locked.state.liveCaptions with
  | none => exact .pure ()
  | some lcState => exact saveJob_jobStops _ _

/-- The recording is told to stop after what the transcription is stopped by. -/
theorem stopRecordingLevel_stops (works : StopsWork env channelID locked) (active : locked.state.inProgress .recording = true)
    {stopTranscribing : LockedHandler Unit} {ids : List String} {types : List JobType}
    (nested : ∀ middle, JobsEnded env [.recording] [.recording] locked middle →
      Stops env ids types middle (stopTranscribing.ignoring.when (locked.state.inProgress .transcribing))) :
    Stops env (ids ++ locked.state.jobIDs [.recording]) ([.recording] ++ types) locked
      (stopRecordingLevel env channelID stopTranscribing) := by
  obtain ⟨recState, held, unended⟩ := CallState.inProgress_iff.mp active
  have recording : locked.state.recording = some recState := held
  show Stops env _ _ locked (match locked.state.recording with | none => _ | some recState => _)
  rw [recording, CallState.jobIDs_of_some held]
  dsimp only
  rw [if_neg (not_not_intro unended)]
  have saves : Stops env [] [.recording] locked (saveJob env (recState.ended env.now) .recording) :=
    .of_endsJobs (saveJob_endsJobs _ works.writes works.jobs held rfl) (saveJob_jobStops _ _)
  refine saves.silent_bind fun _ middle recEnded => .onError ?_
  have told (last : LockedCall) (also : JobsEnded env types types middle last) :
      Stops env [recState.id] [] last ((onWorld (stopJob env channelID recState.id env.botID)).mapError
        ("failed to stop recording job: " ++ ·)) :=
    .mapError (stopJob_stops (works.of_ended (recEnded.trans also)) held (recEnded.trans also))
  rw [← List.append_nil types]
  exact (nested middle recEnded).bind fun _ last also => (told last also).bind_silent fun _ _ =>
    (publishJobState_stops _).bind_silent fun _ _ => .pure _

/-- The transcription is told to stop before what the recording is stopped by. -/
theorem stopTranscribingLevel_stops (works : StopsWork env channelID locked) (active : locked.state.inProgress .transcribing = true)
    {stopRecording : LockedHandler JobStateClient} {ids : List String} {types : List JobType}
    (nested : ∀ middle, JobsEnded env [.transcribing, .captioning] [.transcribing, .captioning] locked middle →
      Stops env ids types middle (stopRecording.ignoring.when (locked.state.inProgress .recording))) :
    Stops env (locked.state.jobIDs [.transcribing] ++ ids) ([.transcribing, .captioning] ++ types) locked
      (stopTranscribingLevel env channelID stopRecording) := by
  obtain ⟨trState, held, unended⟩ := CallState.inProgress_iff.mp active
  have transcription : locked.state.transcription = some trState := held
  show Stops env _ _ locked (match locked.state.transcription with | none => _ | some trState => _)
  rw [transcription, CallState.jobIDs_of_some held]
  dsimp only
  rw [if_neg (not_not_intro unended)]
  have saves : Stops env [] [.transcribing] locked (saveJob env (trState.ended env.now) .transcribing) :=
    .of_endsJobs (saveJob_endsJobs _ works.writes works.jobs held rfl) (saveJob_jobStops _ _)
  refine saves.silent_bind fun _ middle trEnded => (captions_stops works trEnded (by decide)).silent_bind
    fun _ last lcEnded => .onError ?_
  have both := trEnded.trans lcEnded
  refine (Stops.mapError (stopJob_stops (works.of_ended both) held both)).bind fun _ after told => ?_
  refine (nested after (both.trans told)).bind_silent fun _ final => (publishJobState_stops _).bind_silent fun _ _ => ?_
  cases locked.state.liveCaptions with
  | none => exact .pure ()
  | some lcState => exact publishJobState_stops _

/-! ### The two functions -/

/-- The jobs in progress, of those a bot is told to stop. -/
def CallState.stoppable (cs : CallState) : List JobType := [JobType.transcribing, .recording].filter (cs.inProgress ·)

theorem stopTranscribing_alone_stops (works : StopsWork env channelID locked) (alone : locked.state.inProgress .recording = false)
    (active : locked.state.inProgress .transcribing = true) (fuel : Nat) :
    Stops env (locked.state.jobIDs [.transcribing]) [.transcribing, .captioning] locked
      (stopTranscribingJobFuel env channelID (fuel + 1)) := by
  rw [stopTranscribingJobFuel_succ]
  have skipped (middle : LockedCall) : Stops env [] [] middle
      ((stopRecordingJobFuel env channelID fuel).ignoring.when (locked.state.inProgress .recording)) := by
    rw [alone]
    exact .pure ()
  have level := stopTranscribingLevel_stops works active fun middle _ => skipped middle
  rwa [List.append_nil, List.append_nil] at level

theorem stopRecording_alone_stops (works : StopsWork env channelID locked) (alone : locked.state.inProgress .transcribing = false)
    (active : locked.state.inProgress .recording = true) (fuel : Nat) :
    Stops env (locked.state.jobIDs [.recording]) [.recording] locked (stopRecordingJobFuel env channelID (fuel + 1)) := by
  rw [stopRecordingJobFuel_succ]
  have skipped (middle : LockedCall) : Stops env [] [] middle
      ((stopTranscribingJobFuel env channelID fuel).ignoring.when (locked.state.inProgress .transcribing)) := by
    rw [alone]
    exact .pure ()
  have level := stopRecordingLevel_stops works active fun middle _ => skipped middle
  rwa [List.append_nil] at level

/-- A handler that does not fail, and tells each job in progress to stop once and ends it in the store. -/
def StopsEach {α : Type} (locked : LockedCall) (command : LockedHandler α) : Prop :=
  command.wp (fun result after => (∃ value, result = .ok value) ∧
    after.world.jobStops = locked.world.jobStops ++ locked.state.jobIDs locked.state.stoppable ∧
    after.world.store.jobIdentities = locked.world.store.jobIdentities ∧
    ∀ type ∈ locked.state.stoppable, ∀ job, locked.state.job? type = some job →
      ∀ row ∈ after.world.store.jobs, row.id = job.id → row.endAt ≠ 0) locked

theorem LockedHandler.Stops.each {α : Type} {command : LockedHandler α} {ids : List String} {types : List JobType}
    (stops : Stops env ids types locked command) (kept : Preserves LockedCall.apart command)
    (told : ids = locked.state.jobIDs locked.state.stoppable) (listed : ∀ type ∈ locked.state.stoppable, type ∈ types) :
    StopsEach locked command := by
  subst told
  obtain ⟨succeeds, ended, told⟩ := stops
  refine ⟨succeeds, told, congrArg (fun apart => apart.1.2.2) (kept.run locked), ?_⟩
  intro type stopped job held row member same unended
  have listedID : job.id ∈ locked.state.jobIDs types := CallState.mem_jobIDs.mpr ⟨type, listed type stopped, job, held, rfl⟩
  have stillOpen : row.id ∈ (command locked).2.world.store.openJobs row.callID :=
    Store.mem_openJobs.mpr ⟨row, member, rfl, unended, rfl⟩
  exact (ended.rows.mem_openJobs.mp stillOpen).2 (same ▸ listedID)

theorem stopRecordingJob_each (works : StopsWork env channelID locked) (active : locked.state.inProgress .recording = true) :
    StopsEach locked (stopRecordingJob env channelID) := by
  have kept : Preserves LockedCall.apart (stopRecordingJob env channelID) :=
    fun seen => (keptByJobs_apart env channelID seen).writing.stopRecordingJob
  cases transcribing : locked.state.inProgress .transcribing with
  | false =>
    refine (stopRecording_alone_stops works transcribing active 1).each kept ?_ fun type stopped => ?_
    · simp [CallState.stoppable, active, transcribing]
    · simpa [CallState.stoppable, active, transcribing] using stopped
  | true =>
    have nested (middle : LockedCall) (ended : JobsEnded env [.recording] [.recording] locked middle) :
        Stops env (locked.state.jobIDs [.transcribing]) [.transcribing, .captioning] middle
          ((stopTranscribingJobFuel env channelID 1).ignoring.when (locked.state.inProgress .transcribing)) := by
      rw [transcribing, ← ended.jobIDs]
      refine (stopTranscribing_alone_stops (works.of_ended ended) ?_ ?_ 0).ignoring
      · rw [ended.inProgress, if_pos (by decide)]
      · rw [ended.inProgress, if_neg (by decide), transcribing]
    have level := stopRecordingLevel_stops works active nested
    rw [← stopRecordingJobFuel_succ] at level
    refine level.each kept ?_ fun type stopped => ?_
    · rw [← CallState.jobIDs_append]
      simp [CallState.stoppable, active, transcribing]
    · have here : type = .transcribing ∨ type = .recording := by simpa [CallState.stoppable, active, transcribing] using stopped
      obtain rfl | rfl := here <;> decide

theorem stopTranscribingJob_each (works : StopsWork env channelID locked) (active : locked.state.inProgress .transcribing = true) :
    StopsEach locked (stopTranscribingJob env channelID) := by
  have kept : Preserves LockedCall.apart (stopTranscribingJob env channelID) :=
    fun seen => (keptByJobs_apart env channelID seen).writing.stopTranscribingJob
  cases recording : locked.state.inProgress .recording with
  | false =>
    refine (stopTranscribing_alone_stops works recording active 1).each kept ?_ fun type stopped => ?_
    · simp [CallState.stoppable, active, recording]
    · have here : type = .transcribing := by simpa [CallState.stoppable, active, recording] using stopped
      simp [here]
  | true =>
    have nested (middle : LockedCall)
        (ended : JobsEnded env [.transcribing, .captioning] [.transcribing, .captioning] locked middle) :
        Stops env (locked.state.jobIDs [.recording]) [.recording] middle
          ((stopRecordingJobFuel env channelID 1).ignoring.when (locked.state.inProgress .recording)) := by
      rw [recording, ← ended.jobIDs]
      refine (stopRecording_alone_stops (works.of_ended ended) ?_ ?_ 0).ignoring
      · rw [ended.inProgress, if_pos (by decide)]
      · rw [ended.inProgress, if_neg (by decide), recording]
    have level := stopTranscribingLevel_stops works active nested
    rw [← stopTranscribingJobFuel_succ] at level
    refine level.each kept ?_ fun type stopped => ?_
    · rw [← CallState.jobIDs_append]
      simp [CallState.stoppable, active, recording]
    · have here : type = .transcribing ∨ type = .recording := by simpa [CallState.stoppable, active, recording] using stopped
      obtain rfl | rfl := here <;> decide

theorem stopRecordingJob_idle (idle : locked.state.inProgress .recording = false) :
    stopRecordingJob env channelID locked = (.error "no recording in progress", locked) := by
  rw [stopRecordingJob, stopRecordingJobFuel_succ]
  show (match locked.state.recording with | none => _ | some recState => _ : LockedHandler JobStateClient) locked = _
  cases held : locked.state.recording with
  | none => rfl
  | some recState =>
    dsimp only
    rw [if_pos (CallState.endAt_ne_of_idle idle held)]
    rfl

theorem stopTranscribingJob_idle (idle : locked.state.inProgress .transcribing = false) :
    stopTranscribingJob env channelID locked = (.error "no transcription in progress", locked) := by
  rw [stopTranscribingJob, stopTranscribingJobFuel_succ]
  show (match locked.state.transcription with | none => _ | some trState => _ : LockedHandler Unit) locked = _
  cases held : locked.state.transcription with
  | none => rfl
  | some trState =>
    dsimp only
    rw [if_pos (CallState.endAt_ne_of_idle idle held)]
    rfl

end

/-- Each function calls the other one, and what that calls in turn is never needed. Where its own job is in progress and
nothing is refused, a function stops both jobs that are, each once; else it stops none. -/
theorem stopJobs_twoLevels (env : Env) (channelID : String) :
    (stopRecordingJob env channelID = stopRecordingLevel env channelID (stopTranscribingJob env channelID) ∧
      stopTranscribingJob env channelID = stopTranscribingLevel env channelID (stopRecordingJob env channelID)) ∧
    ((∀ third, stopRecordingLevel env channelID (stopTranscribingLevel env channelID third) = stopRecordingJob env channelID) ∧
      ∀ third, stopTranscribingLevel env channelID (stopRecordingLevel env channelID third) = stopTranscribingJob env channelID) ∧
    ∀ locked : LockedCall,
      (locked.state.inProgress .recording = false →
        stopRecordingJob env channelID locked = (.error "no recording in progress", locked)) ∧
      (locked.state.inProgress .transcribing = false →
        stopTranscribingJob env channelID locked = (.error "no transcription in progress", locked)) ∧
      (StopsWork env channelID locked →
        (locked.state.inProgress .recording = true → StopsEach locked (stopRecordingJob env channelID)) ∧
        (locked.state.inProgress .transcribing = true → StopsEach locked (stopTranscribingJob env channelID))) := by
  refine ⟨⟨?_, ?_⟩, ⟨stopRecordingLevel_twice, stopTranscribingLevel_twice⟩,
    fun locked => ⟨stopRecordingJob_idle, stopTranscribingJob_idle, fun works => ?_⟩⟩
  · rw [← stopTranscribingLevel_twice (stopTranscribingJob env channelID), stopRecordingLevel_twice]
  · rw [← stopRecordingLevel_twice (stopRecordingJob env channelID), stopTranscribingLevel_twice]
  · exact ⟨stopRecordingJob_each works, stopTranscribingJob_each works⟩

theorem waitingCall_stopsWork : StopsWork (.quiet 2000 "") "channel" waitingCall where
  writes := ⟨fun _ => rfl, fun _ => rfl⟩
  jobs := waitingCall_holdsJobs.jobsValid waitingCall_valid
  channel := by decide
  bot := by decide

theorem stopJobs_waitingCall : StopsEach waitingCall (stopRecordingJob (.quiet 2000 "") "channel") ∧
    StopsEach waitingCall (stopTranscribingJob (.quiet 2000 "") "channel") :=
  have each := ((stopJobs_twoLevels (.quiet 2000 "") "channel").2.2 waitingCall).2.2 waitingCall_stopsWork
  ⟨each.1 rfl, each.2 rfl⟩

/-- The recording of the call is over, its transcription is not. -/
def halfStoppedCall : LockedCall where
  world := { waitingCall.world with store := waitingCall.world.store.saveJob ((startedJob "rec" .recording).ended 1500) }
  state := waitingCall.state.withJob ((startedJob "rec" .recording).ended 1500) .recording

/-- The transcription in progress is neither told to stop nor ended. -/
theorem not_stopped_halfStoppedCall :
    StopsWork (.quiet 2000 "") "channel" halfStoppedCall ∧ halfStoppedCall.state.inProgress .transcribing = true ∧
      (stopRecordingJob (.quiet 2000 "") "channel" halfStoppedCall).2.world.jobStops = [] ∧
      (stopRecordingJob (.quiet 2000 "") "channel" halfStoppedCall).2.world.store.jobs.rows.map (fun row => (row.id, row.endAt)) =
        [("rec", 1500), ("tr", 0), ("lc", 0)] := by
  refine ⟨{ waitingCall_stopsWork with jobs := ?_ }, by decide, by decide, by decide⟩
  exact waitingCall_stopsWork.jobs.withJob rfl

end Calls
