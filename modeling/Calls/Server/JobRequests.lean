import Calls.Server.Recordings
import Calls.Server.OperationsProperties

/-! The requests about jobs. Each holds the lock of its call from the moment it has
loaded the state, and a start of a recording holds it up to three times. -/

set_option autoImplicit false

namespace Calls

open LockedHandler Command

inductive JobRequest where
  | start (userID : String)
  | recordingRan (userID trID lcID : String) (result : RunJobResult)
  | transcriptionRan (liveCaptionsOn : Bool) (result : RunJobResult)
  | stop
  | status (jobID : String) (reported : JobStatus)
  | recTimeout (jobID : String)
  | trTimeout (jobID : String)

namespace JobRequest

/-- What the request does while it holds the lock. -/
def run (env : Env) (channelID : String) : JobRequest → LockedHandler Unit
  | .start userID => (beginRecordingJob env channelID userID).ignoring
  | .recordingRan userID trID lcID result => (continueRecordingJob env channelID userID trID lcID result).ignoring
  | .transcriptionRan liveCaptionsOn result => resumeTranscribingJob env channelID liveCaptionsOn result
  | .stop => (stopRecordingJob env channelID).ignoring
  | .status jobID reported => handleBotPostJobsStatus env channelID jobID reported
  | .recTimeout jobID => recJobTimeoutChecker env channelID jobID
  | .trTimeout jobID => transcriptionJobTimeoutChecker env channelID jobID

/-- Lock the call, load its state and run the request on it, if there is a call. -/
def handle (env : Env) (channelID : String) (request : JobRequest) : Handler Unit := do
  let state ← lockCallReturnState env channelID
  Command.ifSome state fun state => (request.run env channelID).runOn state

end JobRequest

/-- What is kept by all that the handlers of jobs are made of is kept by every request. -/
theorem KeptByWriting.run {env : Env} {channelID : String} {held : CallJob → Prop} {holds : LockedCall → Prop}
    (kept : KeptByWriting env channelID held holds)
    (creates : ∀ job, Maintains holds (onStore (Store.createCallJob env.faults job))) (request : JobRequest) :
    Maintains holds (request.run env channelID) := by
  cases request with
  | start userID => exact (kept.beginRecordingJob creates userID).ignoring
  | recordingRan userID trID lcID result => exact (kept.continueRecordingJob creates userID trID lcID result).ignoring
  | transcriptionRan liveCaptionsOn result => exact kept.resumeTranscribingJob liveCaptionsOn result
  | stop => exact kept.stopRecordingJob.ignoring
  | status jobID reported => exact kept.handleBotPostJobsStatus jobID reported
  | recTimeout jobID => exact kept.recJobTimeoutChecker jobID
  | trTimeout jobID => exact kept.transcriptionJobTimeoutChecker jobID

/-- What requests about jobs leave alone: the calls, the sessions and the posts. -/
def LockedCall.apartFromJobs (locked : LockedCall) :
    KeyedTable Call.id × KeyedTable CallSession.id × StringMap CallPost :=
  (locked.world.store.calls, locked.world.store.sessions, locked.world.posts)

/-- The rows of jobs are valid, and nothing but jobs has changed. -/
def JobsOnly (before : LockedCall) (locked : LockedCall) : Prop :=
  locked.world.store.JobsValid ∧ locked.apartFromJobs = before.apartFromJobs

section
variable {before : LockedCall} (env : Env) (channelID : String)

theorem jobsOnly_of_apart {α : Type} {command : LockedHandler α} (keeps : Preserves LockedCall.apart command) :
    Maintains (JobsOnly before) command := by
  intro locked ⟨valid, same⟩
  have kept := keeps.run locked
  simp only [LockedCall.apart, Store.apartFromJobs, Prod.mk.injEq] at kept
  obtain ⟨⟨calls, sessions, jobs⟩, posts, -, -⟩ := kept
  refine ⟨valid.congr jobs, ?_⟩
  rw [← same]
  simp only [LockedCall.apartFromJobs, calls, sessions, posts]

theorem createCallJob_jobsOnly (job : CallJob) :
    Maintains (JobsOnly before) (onStore (Store.createCallJob env.faults job)) := by
  intro locked ⟨valid, same⟩
  have created : (Store.createCallJob env.faults job).wp (fun _ after =>
      after.JobsValid ∧ after.calls = locked.world.store.calls ∧ after.sessions = locked.world.store.sessions)
      locked.world.store := by
    refine Store.wp_createCallJob (fun _ _ => ⟨valid, rfl, rfl⟩) fun jobs jobValid inserted => ⟨fun row member => ?_, rfl, rfl⟩
    rcases (KeyedTable.mem_insert? inserted).mp member with old | rfl
    · exact valid row old
    · exact jobValid
  refine ⟨created.1, ?_⟩
  rw [← same]
  exact congrArg₂ (fun calls sessions => (calls, sessions, locked.world.posts)) created.2.1 created.2.2

theorem keptByJobs_jobsOnly : KeptByJobs env channelID (JobsOnly before) where
  memory job type := jobsOnly_of_apart (withJob_preserves job type)
  update job := jobsOnly_of_apart (onStore_preserves (Store.updateCallJob_preserves job))
  tell _ := jobsOnly_of_apart (publishToParticipants_preserves env channelID _)
  stop jobID := jobsOnly_of_apart (stopJob_preserves env channelID jobID env.botID)

/-- A request about jobs keeps the rows of jobs valid and touches no others. -/
theorem JobRequest.run_jobsOnly (request : JobRequest) : Maintains (JobsOnly before) (request.run env channelID) :=
  (keptByJobs_jobsOnly env channelID).writing.run (createCallJob_jobsOnly env) request

/-- What handling a request about jobs can do to the world. -/
theorem JobRequest.handle_spec (request : JobRequest) (world : World) (valid : world.store.JobsValid) :
    (request.handle env channelID).wp (fun _ after => after.store.JobsValid ∧ after.store.calls = world.store.calls ∧
      after.store.sessions = world.store.sessions ∧ after.posts = world.posts) world := by
  unfold JobRequest.handle
  rw [wp_bind]
  refine wp_mono (lockCallReturnState_spec env channelID world) ?_
  intro _ after facts
  obtain ⟨rfl, ⟨⟨err, rfl⟩, -⟩ | ⟨state, rfl, -⟩⟩ := facts
  · exact ⟨valid, rfl, rfl, rfl⟩
  · rw [andThen_ok]
    cases state with
    | none => exact ⟨valid, rfl, rfl, rfl⟩
    | some state =>
      have keeps : Maintains (JobsOnly ⟨after, state⟩) (request.run env channelID) := request.run_jobsOnly env channelID
      obtain ⟨jobs, same⟩ := keeps ⟨after, state⟩ ⟨valid, rfl⟩
      simp only [LockedCall.apartFromJobs, Prod.mk.injEq] at same
      exact ⟨jobs, same⟩

end

end Calls
