import Calls.Server.OpenJobs
import Calls.Server.RecordingViews

/-! What the handlers of jobs, run on a state in memory, make of the view of the
recording. -/

set_option autoImplicit false

namespace Calls

open LockedHandler Command

theorem CallJob.phase_ended (job : CallJob) (now : Instant) : (job.ended now).phase = job.phase.toEnd := by
  simp only [CallJob.phase, JobPhase.toEnd, job.ended_ne now, ne_eq, not_false_eq_true, decide_true]
  rfl

/-- A job of the call that a handler runs on, as far as its row goes. -/
structure JobOf (before : LockedCall) (type : JobType) (job : CallJob) : Prop where
  typed : job.type = type
  ofCall : job.callID = before.state.call.id
  listed : job.identity ∈ before.world.store.jobIdentities
  valid : job.isValid = .ok ()
  latest : type = .recording →
    (before.world.store.latestRecording? before.state.call.id).map CallJob.id = some job.id

theorem JobOf.congr {before : LockedCall} {type : JobType} {job other : CallJob} (of : JobOf before type job)
    (same : other.identity = job.identity) : JobOf before type other := by
  have valid := CallJob.isValid_congr same
  have fields := same
  simp only [CallJob.identity, Prod.mk.injEq] at fields
  obtain ⟨id, callID, typed, -, -⟩ := fields
  exact ⟨typed.trans of.typed, callID.trans of.ofCall, same ▸ of.listed, valid.trans of.valid, by rw [id]; exact of.latest⟩

/-- The row of the job may be written: it is not opened again. -/
def MayWrite (before : LockedCall) (job : CallJob) : Prop :=
  job.endAt = 0 → ∃ old ∈ before.world.store.jobs, old.id = job.id ∧ old.endAt = 0

theorem MayWrite.of_ended {before : LockedCall} {job : CallJob} (ended : job.endAt ≠ 0) : MayWrite before job :=
  fun unended => absurd unended ended

/-- What a handler that was run on `before` has come to, with the view it then has. -/
structure Sees (channelID : String) (before : LockedCall) (view : RecordingView) (locked : LockedCall) : Prop where
  callID : locked.state.call.id = before.state.call.id
  identities : locked.world.store.jobIdentities = before.world.store.jobIdentities
  others : ∀ callID, callID ≠ before.state.call.id →
    (locked.world.store.jobs.filter fun job => job.callID = callID) = before.world.store.jobs.filter fun job => job.callID = callID
  unopened : ∀ row ∈ locked.world.store.jobs, row.endAt = 0 →
    ∃ old ∈ before.world.store.jobs, old.id = row.id ∧ old.endAt = 0
  memory : ∀ type job, locked.state.job? type = some job → JobOf before type job
  people : ∀ session ∈ locked.state.sessions, session.userID ≠ ""
  elsewhere : ∀ other, other ≠ channelID → locked.world.toldPhase other = before.world.toldPhase other
  view : locked.recordingView channelID = view

namespace Sees

variable {env : Env} {channelID : String} {before locked : LockedCall} {view : RecordingView} {type : JobType} {job : CallJob}

/-- A change that none of this depends on. -/
theorem congr {after : LockedCall} (sees : Sees channelID before view locked)
    (call : after.state.call.id = locked.state.call.id) (jobs : after.world.store.jobs = locked.world.store.jobs)
    (memory : ∀ type, after.state.job? type = locked.state.job? type)
    (people : ∀ session ∈ after.state.sessions, session ∈ locked.state.sessions)
    (told : ∀ other, after.world.toldPhase other = locked.world.toldPhase other) : Sees channelID before view after where
  callID := call.trans sees.callID
  identities := by rw [Store.jobIdentities, jobs]; exact sees.identities
  others := by rw [jobs]; exact sees.others
  unopened := by rw [jobs]; exact sees.unopened
  memory type job held := sees.memory type job ((memory type).symm.trans held)
  people session member := sees.people session (people session member)
  elsewhere other different := (told other).trans (sees.elsewhere other different)
  view := by
    have recording : after.state.recording = locked.state.recording := memory .recording
    rw [← sees.view]
    simp only [LockedCall.recordingView, Store.latestRecording?, Store.recordings, recording, call, jobs, told]

theorem row_of (sees : Sees channelID before view locked) (of : JobOf before type job) :
    ∃ row ∈ locked.world.store.jobs, row.identity = job.identity := by
  have listed := of.listed
  rw [← sees.identities] at listed
  exact List.mem_map.mp listed

theorem latest_id (sees : Sees channelID before view locked) :
    (locked.world.store.latestRecording? locked.state.call.id).map CallJob.id =
      (before.world.store.latestRecording? before.state.call.id).map CallJob.id := by
  rw [sees.callID]
  exact Store.latestRecording?_id sees.identities _

/-- A job of another type is not in the row of the recording. -/
theorem latest_ne (sees : Sees channelID before view locked) (of : JobOf before type job) (other : type ≠ .recording)
    {row : CallJob} (latest : locked.world.store.latestRecording? locked.state.call.id = some row) : row.id ≠ job.id := by
  intro same
  obtain ⟨member, -, recording⟩ := Store.latestRecording?_eq_some latest
  obtain ⟨own, ownMember, identity⟩ := sees.row_of of
  simp only [CallJob.identity, Prod.mk.injEq] at identity
  have equal : row = own := KeyedTable.eq_of_key_eq member ownMember (same.trans identity.1.symm)
  rw [equal, identity.2.2.1, of.typed] at recording
  exact other recording

theorem withJob (sees : Sees channelID before view locked) (of : JobOf before type job) :
    Sees channelID before (view.hold type job.phase) { locked with state := locked.state.withJob job type } where
  callID := by rw [withJob_call]; exact sees.callID
  identities := sees.identities
  others := sees.others
  unopened := sees.unopened
  memory := by
    intro other held found
    rw [CallState.job?_withJob] at found
    split at found
    · next same => cases found; rwa [same]
    · exact sees.memory other held found
  people := by rw [withJob_sessions]; exact sees.people
  elsewhere := sees.elsewhere
  view := by
    rw [← sees.view]
    cases type <;> rfl

theorem saved (sees : Sees channelID before view locked) (of : JobOf before type job) (may : MayWrite before job) :
    Sees channelID before (view.save type job.phase)
      { locked with world := { locked.world with store := locked.world.store.saveJob job } } where
  callID := sees.callID
  identities := (Store.saveJob_jobIdentities _ _).trans sees.identities
  others := by
    intro callID other
    rw [← sees.others callID other]
    refine Store.filter_saveJob fun row member same ofOther => ?_
    obtain ⟨own, ownMember, identity⟩ := sees.row_of of
    simp only [CallJob.identity, Prod.mk.injEq] at identity
    rw [KeyedTable.eq_of_key_eq member ownMember (same.trans identity.1.symm), identity.2.1, of.ofCall] at ofOther
    exact other ofOther.symm
  unopened := by
    intro row member unended
    rcases Store.mem_saveJob.mp member with ⟨kept, -⟩ | ⟨previous, -, same, rfl⟩
    · exact sees.unopened row kept unended
    · obtain ⟨old, oldMember, named, open_⟩ := may unended
      exact ⟨old, oldMember, named.trans same.symm, open_⟩
  memory := sees.memory
  people := sees.people
  elsewhere := sees.elsewhere
  view := by
    have row : ((locked.world.store.saveJob job).latestRecording? locked.state.call.id).map CallJob.phase =
        if type = .recording then some job.phase
        else (locked.world.store.latestRecording? locked.state.call.id).map CallJob.phase := by
      rw [Store.latestRecording?_saveJob]
      split
      · next recording =>
        have named := sees.latest_id.trans (of.latest recording)
        obtain ⟨row, latest, same⟩ := Option.map_eq_some_iff.mp named
        rw [latest, Option.map_some, Option.map_some, if_pos same]
        rfl
      · next other =>
        cases latest : locked.world.store.latestRecording? locked.state.call.id with
        | none => rfl
        | some row => rw [Option.map_some, if_neg (sees.latest_ne of other latest)]
    rw [← sees.view]
    unfold RecordingView.save
    split at row <;> simp only [LockedCall.recordingView, if_true, if_false, *] <;> rfl

end Sees

/-! ### What the handlers are made of -/

section
variable {env : Env} {channelID : String} {before locked : LockedCall} {view : RecordingView} {type : JobType} {job : CallJob}

theorem updateCallJob_sees (sees : Sees channelID before view locked) (of : JobOf before type job) (may : MayWrite before job) :
    (onStore (Store.updateCallJob env.faults job)).wp (fun result after =>
      (result = .ok () ∧ env.faults (.updateCallJob job.id) = false ∧ Sees channelID before (view.save type job.phase) after) ∨
        ((∃ err, result = .error err) ∧ env.faults (.updateCallJob job.id) = true ∧ Sees channelID before view after)) locked := by
  rw [onStore, onWorld, wp_zoom, Handler.onStore, wp_zoom]
  cases works : env.faults (.updateCallJob job.id) with
  | false =>
    rw [wp, Store.updateCallJob_run of.valid works]
    exact .inl ⟨rfl, rfl, sees.saved of may⟩
  | true =>
    refine .inr ⟨?_, rfl, ?_⟩ <;>
      simp only [Store.updateCallJob, of.valid, Store.guarded, works, if_true, throw_run]
    · exact ⟨_, rfl⟩
    · exact sees

theorem saveJob_sees (sees : Sees channelID before view locked) (of : JobOf before type job) (may : MayWrite before job) :
    (saveJob env job type).wp (fun result after =>
      (result = .ok () ∧ env.faults (.updateCallJob job.id) = false ∧
        Sees channelID before ((view.hold type job.phase).save type job.phase) after) ∨
        ((∃ err, result = .error err) ∧ env.faults (.updateCallJob job.id) = true ∧
          Sees channelID before (view.hold type job.phase) after)) locked := by
  rw [LockedHandler.saveJob, wp_bind, modifyState, wp_modify, andThen_ok, wp_mapError]
  refine wp_mono (updateCallJob_sees (sees.withJob of) of may) ?_
  intro result after either
  rcases either with ⟨rfl, works, seen⟩ | ⟨⟨err, rfl⟩, fails, seen⟩
  · exact .inl ⟨rfl, works, seen⟩
  · exact .inr ⟨⟨_, rfl⟩, fails, seen⟩

/-- Events that are not about the recording of the call leave the view as it is. -/
theorem publish_sees {ev : WsEvent} {broadcast : WebSocketBroadcast} (silent : ∀ other, ev.recordingPhase? other = none) :
    Maintains (Sees channelID before view) (onWorld (Handler.publish env ev broadcast)) :=
  fun _ sees => sees.congr rfl rfl (fun _ => rfl) (fun _ member => member) fun other => World.toldPhase_publish (silent other)

theorem publishToParticipants_sees (channel : channelID ≠ "") (jobState : JobStateClient)
    (sees : Sees channelID before view locked) :
    (publishToParticipants env channelID (.callJobState channelID jobState)).wp (fun result after => result = .ok () ∧
      Sees channelID before (view.tell jobState.type jobState.phase) after) locked := by
  refine ⟨rfl, { sees with elsewhere := ?_, view := ?_ }⟩
  · intro other different
    refine (World.toldPhase_publish ?_).trans (sees.elsewhere other different)
    exact if_neg fun both => different both.1.symm
  · rw [← sees.view]
    by_cases recording : jobState.type = .recording
    · have telling : (WsEvent.callJobState channelID jobState).recordingPhase? channelID = some jobState.phase :=
        if_pos ⟨rfl, recording⟩
      have sent : publishWebSocketEvent env.botID (.callJobState channelID jobState)
          (locked.state.toParticipants channelID) ≠ [] := CallState.toParticipants_sent rfl channel sees.people
      rw [RecordingView.tell, if_pos recording, LockedCall.recordingView, LockedCall.recordingView]
      exact congrArg _ (World.toldPhase_publish_told telling sent)
    · rw [RecordingView.tell, if_neg recording, LockedCall.recordingView, LockedCall.recordingView]
      congr 1
      exact World.toldPhase_publish (if_neg fun both => recording both.2)

theorem publishJobState_sees (channel : channelID ≠ "") (of : JobOf before type job)
    (sees : Sees channelID before view locked) :
    (publishJobState env channelID job).wp (fun result after => result = .ok () ∧
      Sees channelID before (view.tell type job.phase) after) locked := by
  rw [← of.typed]
  exact publishToParticipants_sees channel (getClientStateFromCallJob job) sees

/-! Jobs of the other types -/

theorem withJob_other (of : JobOf before type job) (other : type ≠ .recording) :
    Maintains (Sees channelID before view) (modifyState (·.withJob job type)) := by
  intro locked sees
  have seen := sees.withJob of
  rwa [RecordingView.hold, if_neg other] at seen

theorem updateCallJob_other (of : JobOf before type job) (may : MayWrite before job) (other : type ≠ .recording) :
    Maintains (Sees channelID before view) (onStore (Store.updateCallJob env.faults job)) := by
  refine .of_wp fun locked sees => wp_mono (updateCallJob_sees sees of may) ?_
  intro result after either
  rcases either with ⟨-, -, seen⟩ | ⟨-, -, seen⟩
  · rwa [RecordingView.save, if_neg other] at seen
  · exact seen

theorem saveJob_other (of : JobOf before type job) (may : MayWrite before job) (other : type ≠ .recording) :
    Maintains (Sees channelID before view) (saveJob env job type) :=
  (withJob_other of other).bind fun _ => (updateCallJob_other of may other).mapError

theorem publishJobState_other (channel : channelID ≠ "") (of : JobOf before type job) (other : type ≠ .recording) :
    Maintains (Sees channelID before view) (publishJobState env channelID job) := by
  refine .of_wp fun locked sees => wp_mono (publishJobState_sees channel of sees) ?_
  intro _ after facts
  obtain ⟨-, seen⟩ := facts
  rwa [RecordingView.tell, if_neg other] at seen

theorem stopJob_sees (jobID : String) : Maintains (Sees channelID before view) (onWorld (stopJob env channelID jobID env.botID)) := by
  intro locked sees
  have stop : Maintains (fun world => Sees channelID before view { locked with world })
      (Handler.publish env (.jobStop jobID) { userID := env.botID, reliableClusterSend := true }) :=
    fun world => publish_sees (fun _ => rfl) { locked with world }
  exact stopJob_maintains stop locked.world sees

end

/-! ### Stopping -/

/-- The row of the latest recording can be written. -/
def LockedCall.savesRecording (env : Env) (locked : LockedCall) : Bool :=
  (locked.world.store.latestRecording? locked.state.call.id).all fun row => env.faults (.updateCallJob row.id) = false

theorem JobOf.savesRecording {env : Env} {before : LockedCall} {job : CallJob} (of : JobOf before .recording job) :
    env.faults (.updateCallJob job.id) = !before.savesRecording env := by
  obtain ⟨row, latest, named⟩ := Option.map_eq_some_iff.mp (of.latest rfl)
  rw [LockedCall.savesRecording, latest, Option.all_some, named]
  cases env.faults (.updateCallJob job.id) <;> rfl

/-- The view is as it was, or as it is once the recording is stopped. -/
def SeesStopped (env : Env) (channelID : String) (before : LockedCall) (view : RecordingView) (locked : LockedCall) : Prop :=
  Sees channelID before view locked ∨ Sees channelID before (view.stop (before.savesRecording env)) locked

section
variable {env : Env} {channelID : String} {before locked : LockedCall} {view : RecordingView}

namespace SeesStopped

theorem memory (stopped : SeesStopped env channelID before view locked) {type : JobType} {job : CallJob}
    (held : locked.state.job? type = some job) : JobOf before type job :=
  stopped.elim (fun sees => sees.memory type job held) fun sees => sees.memory type job held

/-- Where the recording has ended in memory there is nothing to stop. -/
theorem of_ended {phase : JobPhase} (stopped : SeesStopped env channelID before view locked)
    (held : view.memory = some phase) (ended : phase.ended = true) : Sees channelID before view locked := by
  unfold SeesStopped at stopped
  rwa [RecordingView.stop_of_ended held ended, or_self] at stopped

theorem again (stopped : SeesStopped env channelID before (view.stop (before.savesRecording env)) locked) :
    SeesStopped env channelID before view locked := by
  unfold SeesStopped at stopped
  rw [RecordingView.stop_stop, or_self] at stopped
  exact .inr stopped

/-- What keeps every view keeps that it is one of two. -/
theorem maintains {α : Type} {command : LockedHandler α} (keeps : ∀ view, Maintains (Sees channelID before view) command) :
    Maintains (SeesStopped env channelID before view) command :=
  fun locked stopped => stopped.elim (fun sees => .inl (keeps _ locked sees)) fun sees => .inr (keeps _ locked sees)

/-- What stops the recording at most does so also where it is stopped already. -/
theorem maintains_of_stops {α : Type} {command : LockedHandler α}
    (stops : ∀ view locked, Sees channelID before view locked →
      command.wp (fun _ after => SeesStopped env channelID before view after) locked) :
    Maintains (SeesStopped env channelID before view) command :=
  fun locked stopped => stopped.elim (stops _ locked) fun sees => (stops _ locked sees).again

/-- What follows on reading the state may rely on its jobs. -/
theorem bind_getState {α : Type} {next : CallState → LockedHandler α}
    (keeps : ∀ state, (∀ type job, state.job? type = some job → JobOf before type job) →
      Maintains (SeesStopped env channelID before view) (next state)) :
    Maintains (SeesStopped env channelID before view) (getState >>= next) :=
  fun locked stopped => keeps locked.state (fun _ _ held => stopped.memory held) locked stopped

end SeesStopped

namespace Sees

theorem memory_none (sees : Sees channelID before view locked) (held : locked.state.recording = none) : view.memory = none := by
  rw [← sees.view, LockedCall.recordingView, held]
  rfl

theorem memory_some (sees : Sees channelID before view locked) {recState : CallJob}
    (held : locked.state.recording = some recState) : view.memory = some recState.phase := by
  rw [← sees.view, LockedCall.recordingView, held]
  rfl

end Sees

theorem CallJob.phase_running {job : CallJob} (running : job.endAt = 0) : job.phase.ended = false := by
  simp [phase, running]

theorem CallJob.phase_of_apartFromErr {left right : CallJob} (same : left.apartFromErr = right.apartFromErr) :
    left.phase = right.phase := by
  have kept (job : CallJob) : job.phase = job.apartFromErr.phase := rfl
  rw [kept, same, ← kept]

/-- A recording in progress is ended in memory and, if that works, in its row. -/
theorem endRecording_sees {recState saved : CallJob} (sees : Sees channelID before view locked)
    (held : locked.state.recording = some recState) (running : recState.endAt = 0)
    (same : saved.apartFromErr = (recState.ended env.now).apartFromErr) :
    (saveJob env saved .recording).wp (fun result after =>
      (result = .ok () ∧ before.savesRecording env = true ∧ Sees channelID before (view.endRow recState.phase) after) ∨
      ((∃ err, result = .error err) ∧ before.savesRecording env = false ∧
        Sees channelID before (view.stop false) after)) locked := by
  have of : JobOf before .recording saved :=
    (sees.memory .recording recState held).congr ((CallJob.identity_of_apartFromErr same).trans rfl)
  have ended : saved.endAt ≠ 0 := by
    rw [CallJob.endAt_of_apartFromErr same]
    exact recState.ended_ne env.now
  have phase : saved.phase = recState.phase.toEnd := by
    rw [← CallJob.phase_ended recState env.now]
    exact CallJob.phase_of_apartFromErr same
  refine wp_mono (saveJob_sees sees of (.of_ended ended)) ?_
  rw [of.savesRecording, phase]
  intro result after either
  rcases either with ⟨rfl, works, seen⟩ | ⟨err, fails, seen⟩
  · exact .inl ⟨rfl, by simpa using works, seen⟩
  · refine .inr ⟨err, by simpa using fails, ?_⟩
    rwa [RecordingView.stop_of_running (sees.memory_some held) (CallJob.phase_running running)]

/-- Once the recording has ended in memory and in its row, the participants are told. -/
theorem tellEnded_sees (channel : channelID ≠ "") {recState told : CallJob} (held : view.memory = some recState.phase)
    (running : recState.endAt = 0) (same : told.apartFromErr = (recState.ended env.now).apartFromErr)
    (of : JobOf before .recording told) (sees : Sees channelID before (view.endRow recState.phase) locked) :
    (publishJobState env channelID told).wp (fun result after => result = .ok () ∧
      Sees channelID before (view.stop true) after) locked := by
  have phase : told.phase = recState.phase.toEnd := by
    rw [← CallJob.phase_ended recState env.now]
    exact CallJob.phase_of_apartFromErr same
  rw [← RecordingView.tell_endRow held (CallJob.phase_running running), ← phase]
  exact publishJobState_sees channel of sees

/-- What stops a recording at most leaves one alone that has ended in memory. -/
theorem SeesStopped.keeps_ended {α : Type} {command : LockedHandler α} {phase : JobPhase}
    (stops : ∀ view, Maintains (SeesStopped env channelID before view) command) (held : view.memory = some phase)
    (ended : phase.ended = true) : Maintains (Sees channelID before view) command :=
  fun locked sees => (stops _ locked (.inl sees)).of_ended held ended

/-- What a stop that fails late does: the recording gets the error, in memory only. -/
theorem stopFailed_sees (channel : channelID ≠ "") {recState : CallJob} (held : view.memory = some recState.phase)
    (running : recState.endAt = 0) (of : JobOf before .recording recState) (err : String)
    (sees : Sees channelID before (view.endRow recState.phase) locked) :
    (do modifyState (·.withJob ((recState.ended env.now).withErr err) .recording)
        publishJobState env channelID ((recState.ended env.now).withErr err) : LockedHandler Unit).wp
      (fun _ after => Sees channelID before (view.stop true) after) locked := by
  have failed : JobOf before .recording ((recState.ended env.now).withErr err) := of.congr rfl
  have phase : ((recState.ended env.now).withErr err).phase = recState.phase.toEnd := CallJob.phase_ended recState env.now
  have seen : Sees channelID before (view.endRow recState.phase) _ := phase ▸ sees.withJob failed
  rw [wp_bind, modifyState, wp_modify, andThen_ok]
  exact wp_mono (tellEnded_sees channel held running rfl failed seen) fun _ _ told => told.2

/-- The stop of a recording, with what it does to the transcription in between. -/
theorem stopRecordingJobFuel_sees (channel : channelID ≠ "") {fuel : Nat}
    (transcribing : ∀ view, Maintains (SeesStopped env channelID before view) (stopTranscribingJobFuel env channelID fuel))
    (sees : Sees channelID before view locked) :
    (stopRecordingJobFuel env channelID (fuel + 1)).wp
      (fun _ after => Sees channelID before (view.stop (before.savesRecording env)) after) locked := by
  rw [stopRecordingJobFuel, wp_bind, wp_getState, andThen_ok]
  cases held : locked.state.recording with
  | none =>
    rw [RecordingView.stop, sees.memory_none held]
    exact sees
  | some recState =>
    have memory := sees.memory_some held
    have of := sees.memory .recording recState held
    dsimp only
    rw [wp_ite]
    constructor
    · intro ended
      rw [RecordingView.stop_of_ended memory (by simpa [CallJob.phase] using ended)]
      exact sees
    · intro running
      have running : recState.endAt = 0 := not_not.mp running
      refine wp_bind.mpr (wp_mono (endRecording_sees sees held running rfl) ?_)
      intro result after either
      rcases either with ⟨rfl, works, ended⟩ | ⟨⟨err, rfl⟩, fails, seen⟩
      · rw [andThen_ok, works, wp_onError]
        have failed := fun err middle => @stopFailed_sees env channelID before middle view channel recState memory running of err
        refine (SeesStopped.keeps_ended transcribing rfl rfl).ignoring.when.wp_bind ended (fun _ middle seen => ?_) failed
        refine (stopJob_sees recState.id).mapError.wp_bind seen (fun _ middle seen => ?_) failed
        refine wp_bind.mpr (wp_mono (tellEnded_sees channel memory running rfl (of.congr rfl) seen) ?_)
        intro _ final facts
        obtain ⟨rfl, told⟩ := facts
        exact told
      · rw [fails]
        exact seen

/-- The stop of a transcription, with what it does to the recording in between. -/
theorem stopTranscribingJobFuel_sees (channel : channelID ≠ "") {fuel : Nat}
    (recording : ∀ view, Maintains (SeesStopped env channelID before view) (stopRecordingJobFuel env channelID fuel)) :
    Maintains (SeesStopped env channelID before view) (stopTranscribingJobFuel env channelID (fuel + 1)) := by
  rw [stopTranscribingJobFuel]
  refine SeesStopped.bind_getState fun state memory => ?_
  cases held : state.transcription with
  | none => exact .throw _
  | some trState =>
    have of := memory .transcribing trState held
    have ended : JobOf before .transcribing (trState.ended env.now) := of.congr rfl
    have saves {job : CallJob} {type : JobType} (of : JobOf before type job) (other : type ≠ .recording) :
        Maintains (SeesStopped env channelID before view) (saveJob env (job.ended env.now) type) :=
      SeesStopped.maintains fun _ => saveJob_other (of.congr rfl) (.of_ended (job.ended_ne env.now)) other
    have tells {job : CallJob} {type : JobType} (of : JobOf before type job) (other : type ≠ .recording) :
        Maintains (SeesStopped env channelID before view) (publishJobState env channelID job) :=
      SeesStopped.maintains fun _ => publishJobState_other channel of other
    have captions (lcState : CallJob) (some : state.liveCaptions.map (·.ended env.now) = some lcState) :
        ∃ job, JobOf before .captioning job ∧ lcState = job.ended env.now := by
      obtain ⟨job, found, rfl⟩ := Option.map_eq_some_iff.mp some
      exact ⟨job, memory .captioning job found, rfl⟩
    refine .ite (.throw _) ((saves of (by decide)).bind fun _ => ?_)
    refine (Maintains.ifSome fun lcState some => ?_).bind fun _ => .onError ?_ fun err => ?_
    · obtain ⟨job, of, rfl⟩ := captions lcState some
      exact saves of (by decide)
    · refine (SeesStopped.maintains fun _ => stopJob_sees _).mapError.bind fun _ => ?_
      refine (recording view).ignoring.when.bind fun _ => (tells ended (by decide)).bind fun _ => .ifSome fun lcState some => ?_
      obtain ⟨job, of, rfl⟩ := captions lcState some
      exact tells (of.congr rfl) (by decide)
    · have failed : JobOf before .transcribing ((trState.ended env.now).withErr err) := of.congr rfl
      exact (SeesStopped.maintains fun _ => withJob_other failed (by decide)).bind fun _ => tells failed (by decide)

/-- Both stop functions at once, by induction on the depth of the recursion. -/
theorem stopFuel_sees (channel : channelID ≠ "") (fuel : Nat) :
    (∀ view, Maintains (SeesStopped env channelID before view) (stopRecordingJobFuel env channelID fuel)) ∧
      ∀ view, Maintains (SeesStopped env channelID before view) (stopTranscribingJobFuel env channelID fuel) := by
  induction fuel with
  | zero =>
    constructor <;> intro view
    · rw [stopRecordingJobFuel]
      exact .throw _
    · rw [stopTranscribingJobFuel]
      exact .throw _
  | succ fuel ih =>
    obtain ⟨recording, transcribing⟩ := ih
    refine ⟨fun view => SeesStopped.maintains_of_stops fun view locked sees => ?_,
      fun view => stopTranscribingJobFuel_sees channel recording⟩
    exact wp_mono (stopRecordingJobFuel_sees channel transcribing sees) fun _ _ seen => .inr seen

theorem stopRecordingJob_sees (channel : channelID ≠ "") (sees : Sees channelID before view locked) :
    (stopRecordingJob env channelID).wp
      (fun _ after => Sees channelID before (view.stop (before.savesRecording env)) after) locked :=
  stopRecordingJobFuel_sees channel (stopFuel_sees channel 1).2 sees

theorem stopRecordingJob_stops (channel : channelID ≠ "") :
    Maintains (SeesStopped env channelID before view) (stopRecordingJob env channelID) := (stopFuel_sees channel 2).1 view

theorem stopTranscribingJob_stops (channel : channelID ≠ "") :
    Maintains (SeesStopped env channelID before view) (stopTranscribingJob env channelID) := (stopFuel_sees channel 2).2 view

/-! ### Start timeouts -/

/-- A recording that its bot has not joined in time is ended; its row is meant to be. -/
theorem recJobTimeoutChecker_sees (channel : channelID ≠ "") (jobID : String) (sees : Sees channelID before view locked)
    (fresh : ∀ recState, locked.state.recording = some recState → recState.endAt = 0)
    (saves : ∀ recState, locked.state.recording = some recState → recState.startAt = 0 → recState.props.jobID = jobID →
      before.savesRecording env = true) :
    (recJobTimeoutChecker env channelID jobID).wp (fun _ after => SeesStopped env channelID before view after) locked := by
  unfold recJobTimeoutChecker
  rw [wp_bind, wp_getState, andThen_ok]
  cases held : locked.state.recording with
  | none => exact .inl sees
  | some recState =>
    dsimp only
    rw [wp_ite]
    refine ⟨fun _ => .inl sees, fun waiting => ?_⟩
    rw [not_or, not_not, not_not] at waiting
    have running := fresh recState held
    have works := saves recState held waiting.1 waiting.2
    have memory := sees.memory_some held
    have of := sees.memory .recording recState held
    rw [wp_bind, wp_ignoring]
    refine wp_mono (endRecording_sees sees held running rfl) ?_
    intro result after either
    rcases either with ⟨-, -, ended⟩ | ⟨-, fails, -⟩
    · rw [andThen_ok]
      have stops : Maintains (Sees channelID before (view.endRow recState.phase)) (stopTranscribingJob env channelID) :=
        SeesStopped.keeps_ended (fun _ => stopTranscribingJob_stops channel) rfl rfl
      refine (Succeeds.ignoring stops).when.wp_bind ended fun _ middle seen => ?_
      refine wp_mono (tellEnded_sees channel memory running rfl (of.congr rfl) seen) fun _ _ told => Or.inr ?_
      rw [works]
      exact told.2
    · rw [works] at fails
      cases fails

end

end Calls
