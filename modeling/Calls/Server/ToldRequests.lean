import Calls.Server.ToldRecordings

/-! What the requests about jobs leave of what the participants of a call were told of
its recording: a new recording is told of, and what goes with it is not one. -/

set_option autoImplicit false

namespace Calls

open LockedHandler Command

/-- The jobs of the call are fine, and its recording was told to the participants last. -/
structure JobsTell (channelID callID : String) (before after : World) : Prop where
  others : ∀ other, other ≠ callID → after.store.jobsOf other = before.store.jobsOf other
  fine : CallJobsFine (after.store.jobsOf callID)
  elsewhere : ∀ other, other ≠ channelID → after.toldPhase other = before.toldPhase other
  told : RecordingTold channelID (after.store.jobsOf callID) after

section
variable {env : Env} {channelID : String} {before after : World} {cs : CallState} {view : RecordingView}

theorem TellsRow.jobsTell {locked : LockedCall} (tells : TellsRow channelID ⟨before, cs⟩ locked)
    (fine : CallJobsFine (before.store.jobsOf cs.call.id)) : JobsTell channelID cs.call.id before locked.world := by
  obtain ⟨view, sees, shown⟩ := tells
  exact ⟨fun other different => sees.jobsOf_other different, sees.fine fine, sees.elsewhere, sees.told shown⟩

/-- A request that leaves the calls and the sessions alone. -/
theorem JobsTell.stepTells (world : ToldWorld before) (tracks : Tracks before.store.calls channelID cs.call)
    (calls : after.store.calls = before.store.calls) (sessions : after.store.sessions = before.store.sessions)
    (tells : JobsTell channelID cs.call.id before after) : StepTells channelID before after where
  consistent := calls ▸ world.consistent
  changes := calls ▸ .refl _ _
  rows := calls ▸ .refl _
  named := sessions ▸ world.named
  jobs := by
    intro callID
    by_cases here : callID = cs.call.id
    · subst here
      obtain ⟨row, member, named, channel, -⟩ := tracks.row
      exact .inr ⟨⟨row, member, named, channel⟩, tells.fine⟩
    · exact .inl (tells.others callID here)
  elsewhere := tells.elsewhere
  told := by
    intro row member ongoing here
    rw [world.current tracks member ongoing here]
    exact tells.told

/-- A handler under the lock, run on the state that is loaded for it. -/
theorem StepTells.underLock {α : Type} {command : LockedHandler α} (world : ToldWorld before)
    (apart : Preserves LockedCall.apartFromJobs command)
    (tells : ∀ cs, (lockCallReturnState env channelID before).1 = .ok (some cs) → before.store.Loads channelID (some cs) →
      JobsTell channelID cs.call.id before (command ⟨before, cs⟩).2.world) :
    StepTells channelID before (underLock env channelID command before).2 := by
  rcases underLock_cases env channelID command before with ⟨err, ran⟩ | ⟨cs, loaded, loads, ran⟩
  · rw [ran]
    exact .refl world
  · rw [ran]
    have kept := apart.run ⟨before, cs⟩
    simp only [LockedCall.apartFromJobs, Prod.mk.injEq] at kept
    exact JobsTell.stepTells world (loads.tracks world.consistent) kept.1 kept.2.1 (tells cs loaded loads)

/-- What a state that has just been loaded has to do with what was told. -/
theorem ToldWorld.loaded (world : ToldWorld before) (loads : before.store.Loads channelID (some cs)) :
    channelID ≠ "" ∧ FreshJobs ⟨before, cs⟩ ∧
      Sees channelID ⟨before, cs⟩ ((⟨before, cs⟩ : LockedCall).recordingView channelID) ⟨before, cs⟩ ∧
        ((⟨before, cs⟩ : LockedCall).recordingView channelID).Settled := by
  obtain ⟨member, channel, ongoing⟩ := loads.row
  have tracks := loads.tracks world.consistent
  have held : HeldJobs .leaving cs (before.store.jobsOf cs.call.id) := loads.heldJobs (world.fine _) world.named
  have told := world.told cs.call member ongoing
  rw [channel] at told
  exact ⟨world.channel tracks, loads.freshJobs, held.sees (world.fine _), held.settled told⟩

/-! ### What requests about jobs do not touch -/

theorem apartFromJobs_of_apart {α : Type} {command : LockedHandler α} (keeps : Preserves LockedCall.apart command) :
    Preserves LockedCall.apartFromJobs command := by
  refine .of_run fun locked => ?_
  have kept := keeps.run locked
  simp only [LockedCall.apart, Store.apartFromJobs, Prod.mk.injEq] at kept
  simp only [LockedCall.apartFromJobs, kept]

theorem keptByJobs_apartFromJobs (seen) : KeptByJobs env channelID (fun locked => locked.apartFromJobs = seen) where
  memory job type := apartFromJobs_of_apart (withJob_preserves job type) seen
  update job := apartFromJobs_of_apart (onStore_preserves (Store.updateCallJob_preserves job)) seen
  tell _ := apartFromJobs_of_apart (publishToParticipants_preserves env channelID _) seen
  stop jobID := apartFromJobs_of_apart (stopJob_preserves env channelID jobID env.botID) seen

theorem createCallJob_apartFromJobs (job : CallJob) :
    Preserves LockedCall.apartFromJobs (onStore (Store.createCallJob env.faults job)) := by
  refine .of_run fun locked => ?_
  have kept : (Store.createCallJob env.faults job).wp (fun _ after =>
      (after.calls, after.sessions, locked.world.posts) = locked.apartFromJobs) locked.world.store :=
    Store.wp_createCallJob (fun _ _ => rfl) fun _ _ _ => rfl
  exact kept

/-! ### New jobs -/

/-- A new row is the last one of its call. -/
theorem Store.jobsOf_insert? {store : Store} {job : CallJob} {jobs : KeyedTable CallJob.id}
    (inserted : store.jobs.insert? job = some jobs) (callID : String) : ({ store with jobs } : Store).jobsOf callID =
      if job.callID = callID then store.jobsOf callID ++ [job.withBot ""] else store.jobsOf callID := by
  unfold jobsOf
  rw [KeyedTable.filter_insert? inserted]
  split <;> simp_all

theorem latestRecording_append (jobs : List CallJob) (job : CallJob) :
    latestRecording (jobs ++ [job]) = if job.type = .recording then some job else latestRecording jobs := by
  unfold latestRecording
  rw [List.filter_append]
  split <;> simp_all

/-- A call whose state has no job of a type has no row of that type in progress. -/
theorem Store.Loads.ended {store : Store} {type : JobType} (loads : store.Loads channelID (some cs))
    (idle : cs.inProgress type = false) : ∀ job ∈ store.jobsOf cs.call.id, job.type = type → job.endAt ≠ 0 := by
  intro job member typed unended
  obtain ⟨row, rowMember, ofCall, rfl⟩ := Store.mem_jobsOf.mp member
  have held := loads.2.2 type
  cases found : store.activeCallJobs cs.call.id type with
  | none =>
    have empty := List.firstBy_eq_none_iff.mp found
    rw [List.filter_eq_nil_iff] at empty
    exact empty row rowMember (decide_eq_true ⟨ofCall, unended, typed⟩)
  | some current =>
    rw [found] at held
    obtain ⟨-, -, running, -⟩ := Store.activeCallJobs_eq_some found
    simp [CallState.inProgress, held, running] at idle

theorem ToldWorld.jobsTell (world : ToldWorld before) (loads : before.store.Loads channelID (some cs)) :
    JobsTell channelID cs.call.id before before := by
  obtain ⟨-, -, sees, settled⟩ := world.loaded loads
  exact TellsRow.jobsTell ⟨_, sees, settled.shown⟩ (world.fine _)

/-- What is left once a new row of the call is there: it is in progress, and the latest
recording if it is one. -/
structure JobCreated (job : CallJob) (before : World) (store : Store) : Prop where
  fresh : before.store.jobs.contains job.id = false
  jobs : ∀ callID, store.jobsOf callID =
    if job.callID = callID then before.store.jobsOf callID ++ [job.withBot ""] else before.store.jobsOf callID

theorem JobCreated.own {job : CallJob} {store : Store} (created : JobCreated job before store) :
    store.jobsOf job.callID = before.store.jobsOf job.callID ++ [job.withBot ""] := (created.jobs job.callID).trans (if_pos rfl)

theorem JobCreated.latest {job : CallJob} {store : Store} (created : JobCreated job before store) :
    latestRecording (store.jobsOf job.callID) =
      if job.type = .recording then some (job.withBot "") else latestRecording (before.store.jobsOf job.callID) := by
  rw [created.own]
  exact latestRecording_append _ _

theorem JobCreated.fine {job : CallJob} {store : Store} (created : JobCreated job before store) (valid : job.isValid = .ok ())
    (fine : CallJobsFine (before.store.jobsOf job.callID))
    (ended : job.type = .recording → ∀ other ∈ before.store.jobsOf job.callID, other.type = .recording → other.endAt ≠ 0) :
    CallJobsFine (store.jobsOf job.callID) := by
  rw [created.own]
  constructor
  · intro other member
    rcases List.mem_append.mp member with old | new
    · exact fine.valid other old
    · rw [List.mem_singleton.mp new, CallJob.isValid_withBot]
      exact valid
  · intro other member recording unended
    rw [latestRecording_append]
    rcases List.mem_append.mp member with old | new
    · have apart : (job.withBot "").type ≠ .recording := fun typed => ended typed other old recording unended
      rw [if_neg apart]
      exact fine.single other old recording unended
    · rw [List.mem_singleton.mp new] at recording ⊢
      rw [if_pos recording]
      rfl

theorem beginRecordingJob_tells (world : ToldWorld before) (loads : before.store.Loads channelID (some cs)) (userID : String) :
    (beginRecordingJob env channelID userID).wp (fun _ after => JobsTell channelID cs.call.id before after.world) ⟨before, cs⟩ := by
  have untold := world.jobsTell loads
  obtain ⟨channel, -, sees, -⟩ := world.loaded loads
  unfold beginRecordingJob
  rw [wp_bind, wp_getState, andThen_ok, wp_bind, wp_throwIf]
  refine ⟨fun _ => untold, fun idle => ?_⟩
  have ended := loads.ended (Bool.not_eq_true _ ▸ idle)
  rw [andThen_ok, wp_bind, wp_mapError, onStore, onWorld, wp_zoom, Handler.onStore, wp_zoom]
  refine Store.wp_createCallJob (fun _ _ => untold) fun jobs valid inserted => ?_
  have created : JobCreated (newCallJob env cs env.newID .recording userID) before { before.store with jobs } :=
    ⟨(KeyedTable.insert?_eq_some inserted).1, Store.jobsOf_insert? inserted⟩
  have published : (publishJobState env channelID (newCallJob env cs env.newID .recording userID)).wp
      (fun _ after => JobsTell channelID cs.call.id before after.world) ⟨{ before with store := { before.store with jobs } }, cs⟩ := by
    refine ⟨fun other different => ?_, created.fine valid (world.fine _) fun _ => ended, fun other different => ?_, fun phase latest => ?_⟩
    · exact (created.jobs other).trans (if_neg (Ne.symm different))
    · exact World.toldPhase_publish (if_neg fun both => different both.1.symm)
    · change (latestRecording (({ before.store with jobs } : Store).jobsOf cs.call.id)).map CallJob.phase = some phase at latest
      have own : latestRecording (({ before.store with jobs } : Store).jobsOf cs.call.id) =
          some ((newCallJob env cs env.newID .recording userID).withBot "") := created.latest.trans (if_pos rfl)
      rw [own] at latest
      have told : (WsEvent.callJobState channelID
          (getClientStateFromCallJob (newCallJob env cs env.newID .recording userID))).recordingPhase? channelID = some phase :=
        (if_pos ⟨rfl, rfl⟩).trans latest
      exact World.toldPhase_publish_told told (CallState.toParticipants_sent rfl channel sees.people)
  exact published

/-! ### The transcription that goes with a recording -/

/-- A new row that the store takes. -/
def Store.AcceptsJob (env : Env) (store : Store) (job : CallJob) : Prop :=
  job.isValid = .ok () ∧ env.faults (.createCallJob job.id) = false ∧ store.jobs.contains job.id = false

/-- The transcription that a recording is started with can be started too. -/
structure TranscriptionBegins (env : Env) (cs : CallState) (store : Store) (userID trID lcID : String) : Prop where
  idle : cs.inProgress .transcribing = false
  named : trID ≠ ""
  transcription : store.AcceptsJob env (newCallJob env cs trID .transcribing userID)
  captions : env.config.liveCaptionsEnabled = true → store.AcceptsJob env (newCallJob env cs lcID .captioning userID) ∧ lcID ≠ trID

/-- What is told stays true of a call that gets a job of another type. -/
theorem createCallJob_tells {locked : LockedCall} {job : CallJob} {callID : String}
    (accepts : locked.world.store.AcceptsJob env job) (other : job.type ≠ .recording) (ofCall : job.callID = callID)
    (tells : JobsTell channelID callID before locked.world) :
    (onStore (Store.createCallJob env.faults job)).wp (fun result after => result = .ok () ∧ after.state = locked.state ∧
      JobsTell channelID callID before after.world ∧
        ∀ id, id ≠ job.id → after.world.store.jobs.contains id = locked.world.store.jobs.contains id) locked := by
  obtain ⟨valid, works, free⟩ := accepts
  rw [onStore, onWorld, wp_zoom, Handler.onStore, wp_zoom]
  refine Store.wp_createCallJob (fun err refused => ?_) fun jobs _ inserted => ?_
  · rcases refused with invalid | fails | taken
    · exact absurd valid invalid
    · rw [works] at fails
      cases fails
    · rw [free] at taken
      cases taken
  · have created : JobCreated job locked.world { locked.world.store with jobs } := ⟨free, Store.jobsOf_insert? inserted⟩
    subst ofCall
    have latest : latestRecording (({ locked.world.store with jobs } : Store).jobsOf job.callID) =
        latestRecording (locked.world.store.jobsOf job.callID) := created.latest.trans (if_neg other)
    refine ⟨rfl, rfl, ⟨fun different apart => ?_, ?_, tells.elsewhere, fun phase row => tells.told phase (latest ▸ row)⟩, fun id apart => ?_⟩
    · exact ((created.jobs different).trans (if_neg (Ne.symm apart))).trans (tells.others different apart)
    · exact created.fine valid tells.fine fun recording => absurd recording other
    · dsimp only
      rw [KeyedTable.contains, KeyedTable.find?_insert? inserted, if_neg apart]
      rfl

theorem publishJobState_tells {callID : String} {job : CallJob} (other : job.type ≠ .recording) :
    Maintains (fun locked => JobsTell channelID callID before locked.world) (publishJobState env channelID job) := by
  intro locked tells
  have silent (channelID' : String) : (WsEvent.callJobState channelID (getClientStateFromCallJob job)).recordingPhase? channelID' = none :=
    if_neg fun both => other both.2
  have same (channelID' : String) : ((publishJobState env channelID job) locked).2.world.toldPhase channelID' = locked.world.toldPhase channelID' :=
    World.toldPhase_publish (silent channelID')
  refine ⟨tells.others, tells.fine, fun elsewhere different => (same elsewhere).trans (tells.elsewhere elsewhere different), fun phase row => ?_⟩
  exact (same channelID).trans (tells.told phase row)

theorem beginTranscribingJob_tells {locked : LockedCall} {userID trID lcID : String}
    (begins : TranscriptionBegins env locked.state locked.world.store userID trID lcID)
    (tells : JobsTell channelID locked.state.call.id before locked.world) :
    (beginTranscribingJob env channelID userID trID lcID).wp (fun result after => (∃ trState, result = .ok trState) ∧
      JobsTell channelID locked.state.call.id before after.world) locked := by
  unfold beginTranscribingJob
  rw [wp_bind, wp_getState, andThen_ok, wp_bind, wp_throwIf]
  refine ⟨fun running => ?_, fun _ => ?_⟩
  · rw [begins.idle] at running
    cases running
  rw [andThen_ok, wp_bind, wp_throwIf]
  refine ⟨fun unnamed => absurd unnamed begins.named, fun _ => ?_⟩
  rw [andThen_ok, wp_bind, wp_mapError]
  refine wp_mono (createCallJob_tells begins.transcription (by decide : JobType.transcribing ≠ .recording) rfl tells) ?_
  intro _ middle facts
  obtain ⟨rfl, same, tells, others⟩ := facts
  have published {final : LockedCall} (tells : JobsTell channelID locked.state.call.id before final.world) :
      (do
        publishJobState env channelID (newCallJob env locked.state trID .transcribing userID)
        pure (newCallJob env locked.state trID .transcribing userID) : LockedHandler CallJob).wp
        (fun result after => (∃ trState, result = .ok trState) ∧ JobsTell channelID locked.state.call.id before after.world) final :=
    ⟨⟨_, rfl⟩, publishJobState_tells (by decide : JobType.transcribing ≠ .recording) final tells⟩
  rw [Except.mapError, andThen_ok, wp_bind, wp_when]
  refine ⟨fun enabled => ?_, fun _ => published tells⟩
  obtain ⟨⟨valid, works, free⟩, apart⟩ := begins.captions enabled
  rw [wp_mapError]
  refine wp_mono (createCallJob_tells ⟨valid, works, (others lcID apart).trans free⟩ (by decide : JobType.captioning ≠ .recording) rfl tells) ?_
  intro _ final facts
  obtain ⟨rfl, -, tells, -⟩ := facts
  exact published tells

/-- What the state is once the job service has run the recording. -/
theorem resumeRecordingJob_ok (result : RunJobResult) (locked : LockedCall) :
    (resumeRecordingJob env channelID result).wp (fun ended after => ∀ recState, ended = .ok recState →
      after.state = locked.state.withJob recState .recording ∧ (∃ held, locked.state.recording = some held ∧ held.props.jobID = "") ∧
        ∃ jobID, result = .ok jobID) locked := by
  unfold resumeRecordingJob
  rw [wp_bind, wp_getState, andThen_ok]
  cases held : locked.state.recording with
  | none => exact fun _ ended => by cases ended
  | some recState =>
    dsimp only
    rw [wp_onError]
    cases result with
    | error jobErr =>
      rw [wp_bind, wp_ignoring]
      exact fun _ ended => by cases ended
    | ok jobID =>
      rw [wp_bind, wp_throwIf]
      refine ⟨fun _ _ ended => (by cases ended), fun untaken => ?_⟩
      rw [andThen_ok, wp_bind, LockedHandler.saveJob, wp_bind, modifyState, wp_modify, andThen_ok, wp_mapError]
      refine wp_iff_run.mpr fun ended after ran => ?_
      have state : after.state = locked.state.withJob (recState.withJobID jobID) .recording := (congrArg (·.2.state) ran).symm
      cases ended with
      | error err => exact fun _ failed => by cases failed
      | ok value =>
        intro _ returned
        cases returned
        exact ⟨state, ⟨recState, rfl, not_not.mp untaken⟩, jobID, rfl⟩

theorem Store.contains_of_identities {left right : Store} (same : left.jobIdentities = right.jobIdentities) {jobID : String}
    (free : right.jobs.contains jobID = false) : left.jobs.contains jobID = false := by
  refine KeyedTable.contains_eq_false_iff.mpr fun row member named => ?_
  have listed : row.identity ∈ left.jobIdentities := List.mem_map_of_mem member
  rw [same] at listed
  obtain ⟨other, otherMember, identity⟩ := List.mem_map.mp listed
  exact KeyedTable.contains_eq_false_iff.mp free other otherMember ((congrArg Prod.fst identity).trans named)

theorem Store.AcceptsJob.congr {left right : Store} {job other : CallJob} (accepts : right.AcceptsJob env job)
    (same : left.jobIdentities = right.jobIdentities) (equal : other = job) : left.AcceptsJob env other := by
  subst equal
  exact ⟨accepts.1, accepts.2.1, Store.contains_of_identities same accepts.2.2⟩

theorem newCallJob_congr {left right : CallState} (same : left.call.id = right.call.id) (id : String) (type : JobType)
    (userID : String) : newCallJob env left id type userID = newCallJob env right id type userID := by
  unfold newCallJob
  rw [same]

theorem RecordingView.tell_told {phase : JobPhase} (told : view.told = some phase) : view.tell .recording phase = view := by
  rw [RecordingView.tell, if_pos rfl, ← told]

theorem continueRecordingJob_tells (world : ToldWorld before) (loads : before.store.Loads channelID (some cs))
    {userID trID lcID : String} {result : RunJobResult} (fits : AnswerFits env ⟨before, cs⟩ result)
    (begins : (∃ recState, cs.recording = some recState) → (∃ jobID, result = .ok jobID) → env.config.transcriptionsEnabled = true →
      TranscriptionBegins env cs before.store userID trID lcID) :
    (continueRecordingJob env channelID userID trID lcID result).wp
      (fun _ after => JobsTell channelID cs.call.id before after.world) ⟨before, cs⟩ := by
  obtain ⟨channel, fresh, sees, settled⟩ := world.loaded loads
  have fine := world.fine cs.call.id
  unfold continueRecordingJob
  rw [wp_bind]
  refine wp_mono (wp_and (resumeRecordingJob_sees channel settled fresh fits sees) (resumeRecordingJob_ok result _)) ?_
  intro either middle facts
  obtain ⟨resumed, ended⟩ := facts
  rcases either with err | recState
  · exact TellsRow.jobsTell resumed fine
  · obtain ⟨seen, of, told⟩ := resumed
    obtain ⟨state, ⟨held, recording, -⟩, answered⟩ := ended recState rfl
    have tells : JobsTell channelID cs.call.id before middle.world := TellsRow.jobsTell ⟨_, seen, settled.shown⟩ fine
    rw [andThen_ok, wp_ite]
    constructor
    · intro enabled
      have begins := begins ⟨held, recording⟩ answered enabled
      have call : middle.state.call.id = cs.call.id := seen.callID
      have transcription : middle.state.job? .transcribing = cs.job? .transcribing := by
        rw [state]
        rfl
      have begins : TranscriptionBegins env middle.state middle.world.store userID trID lcID :=
        ⟨by rw [CallState.inProgress, transcription]; exact begins.idle, begins.named,
          begins.transcription.congr seen.identities (newCallJob_congr call _ _ _),
          fun captions => ⟨(begins.captions captions).1.congr seen.identities (newCallJob_congr call _ _ _), (begins.captions captions).2⟩⟩
      rw [← call] at tells ⊢
      rw [wp_onError, wp_bind, wp_mapError]
      refine wp_mono (beginTranscribingJob_tells begins tells) ?_
      intro _ after facts
      obtain ⟨⟨trState, rfl⟩, tells⟩ := facts
      exact tells
    · intro _
      rw [wp_bind]
      refine wp_mono (publishJobState_sees channel of seen) ?_
      intro _ after facts
      obtain ⟨rfl, published⟩ := facts
      rw [RecordingView.tell_told told] at published
      exact TellsRow.jobsTell ⟨_, published, settled.shown⟩ fine

/-! ### The end of a start -/

/-- The transcription is found and takes the answer of the job service, and so do its captions. -/
def transcriptionRuns (env : Env) (cs : CallState) (liveCaptionsOn : Bool) : RunJobResult → Bool
  | .error _ => false
  | .ok _ => cs.transcription.any fun trState => trState.props.jobID = "" ∧ env.faults (.updateCallJob trState.id) = false ∧
      (if liveCaptionsOn then cs.liveCaptions else none).all fun lcState => env.faults (.updateCallJob lcState.id) = false

/-- Whether a job is saved depends on its row only. -/
theorem saveJob_ended {locked : LockedCall} {job : CallJob} {type : JobType} (valid : job.isValid = .ok ()) :
    (saveJob env job type).wp (fun ended _ => (∃ err, ended = .error err) ∧ env.faults (.updateCallJob job.id) = true ∨
      ended = .ok () ∧ env.faults (.updateCallJob job.id) = false) locked := by
  rw [LockedHandler.saveJob, wp_bind, modifyState, wp_modify, andThen_ok, wp_mapError, onStore, onWorld, wp_zoom, Handler.onStore, wp_zoom]
  cases works : env.faults (.updateCallJob job.id) with
  | true =>
    have fails : Store.updateCallJob env.faults job = .throw "failed to run query" := by
      simp only [Store.updateCallJob, valid, Store.guarded, works, if_true]
    rw [fails]
    exact .inl ⟨⟨_, rfl⟩, rfl⟩
  | false =>
    rw [wp, Store.updateCallJob_run valid works]
    exact .inr ⟨rfl, rfl⟩

/-- How the start of a transcription ends. -/
theorem resumeTranscribingJob_ended (liveCaptionsOn : Bool) (result : RunJobResult) {locked : LockedCall} (valid : locked.JobsValid) :
    (resumeTranscribingJob env channelID liveCaptionsOn result).wp (fun ended _ =>
      if transcriptionRuns env locked.state liveCaptionsOn result = true then ended = .ok () else ∃ err, ended = .error err) locked := by
  unfold resumeTranscribingJob
  rw [wp_bind, wp_getState, andThen_ok]
  cases held : locked.state.transcription with
  | none => cases result <;> simp [transcriptionRuns, held]
  | some trState =>
    have transcription : locked.state.job? .transcribing = some trState := held
    have trValid := valid .transcribing trState transcription
    have lcValid (lcState : CallJob) (found : (if liveCaptionsOn = true then locked.state.liveCaptions else none) = some lcState) :
        lcState.isValid = .ok () := by
      split at found
      · exact valid .captioning lcState found
      · cases found
    dsimp only
    cases result with
    | error jobErr =>
      have runs : transcriptionRuns env locked.state liveCaptionsOn (.error jobErr) = false := rfl
      simp only [runs, Bool.false_eq_true, if_false]
      refine wp_onError_result.mpr (wp_bind.mpr (wp_ignoring.mpr (wp_mono (wp_true _ _) fun _ middle _ => ?_)))
      rw [andThen_ok]
      refine wp_bind.mpr (wp_mono (wp_true _ _) fun ended after _ => ?_)
      cases ended with
      | error err => exact ⟨err, rfl⟩
      | ok value => exact ⟨_, rfl⟩
    | ok jobID =>
      refine wp_onError_result.mpr (wp_bind.mpr (wp_throwIf.mpr ⟨fun taken => ?_, fun unanswered => ?_⟩))
      · have runs : transcriptionRuns env locked.state liveCaptionsOn (.ok jobID) = false := by
          simp [transcriptionRuns, held, taken]
        simp only [runs, Bool.false_eq_true, if_false]
        exact ⟨_, rfl⟩
      · rw [not_not] at unanswered
        rw [andThen_ok]
        refine wp_bind.mpr (wp_mono (saveJob_ended (show (trState.withJobID jobID).isValid = .ok () from trValid)) ?_)
        intro _ middle either
        rcases either with ⟨⟨err, rfl⟩, fails⟩ | ⟨rfl, works⟩
        · have fails : env.faults (.updateCallJob trState.id) = true := fails
          have runs : transcriptionRuns env locked.state liveCaptionsOn (.ok jobID) = false := by
            simp [transcriptionRuns, held, fails]
          simp only [runs, Bool.false_eq_true, if_false]
          exact ⟨err, rfl⟩
        · have works : env.faults (.updateCallJob trState.id) = false := works
          rw [andThen_ok]
          cases captions : (if liveCaptionsOn = true then locked.state.liveCaptions else none) with
          | none =>
            have runs : transcriptionRuns env locked.state liveCaptionsOn (.ok jobID) = true := by
              simp [transcriptionRuns, held, unanswered, works, captions]
            simp only [runs, if_true]
            rfl
          | some lcState =>
            refine wp_bind.mpr (wp_ifSome_some.mpr (wp_mono
              (saveJob_ended (show (lcState.withJobID jobID).isValid = .ok () from lcValid lcState captions)) ?_))
            intro _ after either
            rcases either with ⟨⟨err, rfl⟩, fails⟩ | ⟨rfl, lcWorks⟩
            · have fails : env.faults (.updateCallJob lcState.id) = true := fails
              have runs : transcriptionRuns env locked.state liveCaptionsOn (.ok jobID) = false := by
                simp [transcriptionRuns, held, captions, fails]
              simp only [runs, Bool.false_eq_true, if_false]
              exact ⟨err, rfl⟩
            · have lcWorks : env.faults (.updateCallJob lcState.id) = false := lcWorks
              have runs : transcriptionRuns env locked.state liveCaptionsOn (.ok jobID) = true := by
                simp [transcriptionRuns, held, unanswered, works, captions, lcWorks]
              simp only [runs, if_true]
              rfl

/-- What becomes of a start is told from the state it went on with: that fits where it
says of the recording what the latest row says. -/
def OuterFits (env : Env) (store : Store) (cs outer : CallState) (liveCaptionsOn : Bool) (result : RunJobResult) : Prop :=
  ∀ recState row, outer.recording = some recState → recState.type = .recording → store.latestRecording? cs.call.id = some row →
    row.phase = if transcriptionRuns env cs liveCaptionsOn result = true then recState.phase else recState.phase.toEnd

/-- The phase that the end of a start tells of a recording. -/
def CallJob.phaseAtEnd (job : CallJob) : Except String Unit → JobPhase
  | .ok _ => job.phase
  | .error _ => job.phase.toEnd

/-- Nothing but an event about the recording in `outer` may be new. -/
structure StartEnded (channelID : String) (outer : CallState) (ended : Except String Unit) (before after : World) : Prop where
  store : after.store = before.store
  elsewhere : ∀ other, other ≠ channelID → after.toldPhase other = before.toldPhase other
  told : after.toldPhase channelID = before.toldPhase channelID ∨ ∃ recState, outer.recording = some recState ∧
    recState.type = .recording ∧ after.toldPhase channelID = some (recState.phaseAtEnd ended)

theorem finishRecordingJob_ended (outer : CallState) (ended : Except String Unit) (world : World) :
    ((finishRecordingJob env channelID ended).runOn outer).wp (fun _ after => StartEnded channelID outer ended world after) world := by
  have told (job : CallJob) (state : CallState) (recState : CallJob) (held : outer.recording = some recState)
      (typed : job.type = recState.type) (phase : job.phase = recState.phaseAtEnd ended) : StartEnded channelID outer ended world
        (Handler.publish env (.callJobState channelID (getClientStateFromCallJob job)) (state.toParticipants channelID) world).2 := by
    refine ⟨rfl, fun other different => World.toldPhase_publish (if_neg fun both => different both.1.symm), ?_⟩
    rcases World.toldPhase_publish_cases env (.callJobState channelID (getClientStateFromCallJob job))
      (state.toParticipants channelID) world channelID with same | ⟨shown, telling, now⟩
    · exact .inl same
    · refine .inr ⟨recState, held, ?_, ?_⟩
      · by_contra other
        have silent : (WsEvent.callJobState channelID (getClientStateFromCallJob job)).recordingPhase? channelID = none :=
          if_neg fun both => other (typed.symm.trans both.2)
        rw [silent] at telling
        cases telling
      · have same : job.phase = shown := by
          simp only [WsEvent.recordingPhase?] at telling
          split at telling
          · exact Option.some.inj telling
          · cases telling
        rw [now, ← phase, same]
  cases held : outer.recording with
  | none =>
    have nothing : ((finishRecordingJob env channelID ended).runOn outer world).2 = world := by
      cases ended <;> simp only [finishRecordingJob, relayError, runOn, getState, bind_run, get_run, pure_run, held, CallState.job?, ifSome]
    unfold Command.wp
    rw [nothing]
    exact ⟨rfl, fun _ _ => rfl, .inl rfl⟩
  | some recState =>
    cases ended with
    | ok value =>
      have published : ((finishRecordingJob env channelID (.ok value)).runOn outer world).2 =
          (Handler.publish env (.callJobState channelID (getClientStateFromCallJob recState)) (outer.toParticipants channelID) world).2 := by
        simp only [finishRecordingJob, runOn, getState, bind_run, get_run, pure_run, held, ifSome]
        rfl
      unfold Command.wp
      rw [published]
      exact told recState outer recState held rfl rfl
    | error err =>
      let relayed := (recState.ended env.now).withErr ("failed to start transcribing job: " ++ err)
      have published : ((finishRecordingJob env channelID (.error err)).runOn outer world).2 =
          (Handler.publish env (.callJobState channelID (getClientStateFromCallJob relayed))
            ((outer.withJob relayed .recording).toParticipants channelID) world).2 := by
        simp only [finishRecordingJob, relayError, runOn, getState, bind_run, get_run, pure_run, CallState.job?, held, ifSome]
        rfl
      unfold Command.wp
      rw [published]
      exact told relayed _ recState held rfl (CallJob.phase_ended recState env.now)

/-- What is told at the end of a start leaves the store as it was. -/
theorem StartEnded.stepTells {middle : World} {outer : CallState} {ended : Except String Unit}
    (finished : StartEnded channelID outer ended middle after) (tells : StepTells channelID before middle)
    (fits : ∀ row ∈ before.store.calls, row.endAt = 0 → row.channelID = channelID → ∀ recState phase, outer.recording = some recState →
      recState.type = .recording → (latestRecording (middle.store.jobsOf row.id)).map CallJob.phase = some phase →
        phase = recState.phaseAtEnd ended) : StepTells channelID before after where
  consistent := finished.store ▸ tells.consistent
  changes := finished.store ▸ tells.changes
  rows := finished.store ▸ tells.rows
  named := finished.store ▸ tells.named
  jobs := finished.store ▸ tells.jobs
  elsewhere other different := (finished.elsewhere other different).trans (tells.elsewhere other different)
  told := by
    intro row member ongoing here phase latest
    rw [finished.store] at latest
    rcases finished.told with same | ⟨recState, held, typed, now⟩
    · rw [same]
      exact tells.told row member ongoing here phase latest
    · rw [now, fits row member ongoing here recState phase held typed latest]

theorem resumeTranscribingJob_apartFromJobs (liveCaptionsOn : Bool) (result : RunJobResult) :
    Preserves LockedCall.apartFromJobs (resumeTranscribingJob env channelID liveCaptionsOn result) :=
  fun seen => (keptByJobs_apartFromJobs seen).writing.resumeTranscribingJob liveCaptionsOn result

theorem ToldWorld.jobsValid (world : ToldWorld before) (loads : before.store.Loads channelID (some cs)) : cs.JobsValid := by
  obtain ⟨-, -, sees, -⟩ := world.loaded loads
  exact fun type job held => (sees.memory type job held).valid

theorem endRecordingStart_tells (world : ToldWorld before) {liveCaptionsOn : Bool} {result : RunJobResult} {outer : CallState}
    (fits : ∀ cs, (lockCallReturnState env channelID before).1 = .ok (some cs) → OuterFits env before.store cs outer liveCaptionsOn result) :
    StepTells channelID before (endRecordingStart env channelID liveCaptionsOn result outer before).2 := by
  have locks : (lockCallReturnState env channelID).wp _ before := lockCallReturnState_spec env channelID before
  unfold Command.wp at locks
  unfold endRecordingStart
  rw [bind_run]
  generalize lockCallReturnState env channelID before = loaded at locks fits
  obtain ⟨answer, after⟩ := loaded
  obtain ⟨rfl, ⟨⟨err, rfl⟩, -⟩ | ⟨state, rfl, loads, -⟩⟩ := locks
  · exact .refl world
  · dsimp only
    rw [bind_run]
    cases state with
    | none =>
      refine (finishRecordingJob_ended outer _ after).stepTells (.refl world) fun row member ongoing here => ?_
      -- There is no ongoing call in the channel.
      have active : Store.isActive row = true := by
        have written := world.consistent.written row member
        simp only [Store.isActive, decide_eq_true_eq]
        exact ⟨ongoing, written⟩
      rw [Store.activeCall?_eq_none_iff.mp loads row member here] at active
      cases active
    | some cs =>
      obtain ⟨channel, fresh, sees, settled⟩ := world.loaded loads
      have tracks := loads.tracks world.consistent
      have keeps : Preserves LockedCall.apartFromJobs (resumeTranscribingJob env channelID liveCaptionsOn result) :=
        resumeTranscribingJob_apartFromJobs liveCaptionsOn result
      have apart := keeps.run ⟨after, cs⟩
      simp only [LockedCall.apartFromJobs, Prod.mk.injEq] at apart
      have valid : LockedCall.JobsValid ⟨after, cs⟩ := world.jobsValid loads
      have ended : (resumeTranscribingJob env channelID liveCaptionsOn result).wp _ ⟨after, cs⟩ :=
        resumeTranscribingJob_ended liveCaptionsOn result valid
      have seen : (resumeTranscribingJob env channelID liveCaptionsOn result).wp _ ⟨after, cs⟩ :=
        resumeTranscribingJob_sees channel fresh liveCaptionsOn result sees
      unfold Command.wp at ended seen
      have tells : StepTells channelID after (resumeTranscribingJob env channelID liveCaptionsOn result ⟨after, cs⟩).2.world :=
        JobsTell.stepTells world tracks apart.1 apart.2.1 (TellsRow.jobsTell ⟨_, seen, settled.shown⟩ (world.fine _))
      refine (finishRecordingJob_ended outer _ _).stepTells tells ?_
      intro row member ongoing here recState phase held typed latest
      rw [world.current tracks member ongoing here] at latest
      have shown := LockedCall.recordingView_row (resumeTranscribingJob env channelID liveCaptionsOn result ⟨after, cs⟩).2 channelID
      rw [seen.view, seen.callID] at shown
      obtain ⟨stored, found, rfl⟩ := Option.map_eq_some_iff.mp (shown.trans latest)
      refine (fits cs rfl recState stored held typed found).trans ?_
      change _ = recState.phaseAtEnd (resumeTranscribingJob env channelID liveCaptionsOn result ⟨after, cs⟩).1
      split at ended
      · next runs => rw [if_pos runs, ended]; rfl
      · next fails =>
        obtain ⟨err, failed⟩ := ended
        rw [if_neg fails, failed]
        rfl

end

end Calls
