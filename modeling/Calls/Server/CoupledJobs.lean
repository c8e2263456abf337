import Calls.Server.EndingJobs

/-! A recording, its transcription and the live captions of the call are meant
to end together. -/

set_option autoImplicit false

namespace Calls

open LockedHandler Command

/-- The operations that end a recording or a transcription. -/
inductive EndingOp where
  | stopRequest
  | botLeaves (ref : SessionRef)
  | jobFailed (jobID : String) (type : JobType) (err : String)
  | recTimeout (jobID : String)
  | trTimeout (jobID : String)

namespace EndingOp

def run (env : Env) (channelID : String) : EndingOp → LockedHandler Unit
  | .stopRequest => (stopRecordingJob env channelID).ignoring
  | .botLeaves ref => removeUserSession env channelID ref
  | .jobFailed jobID type err => handleBotPostJobsStatus env channelID jobID ⟨type, .failed, err⟩
  | .recTimeout jobID => recJobTimeoutChecker env channelID jobID
  | .trTimeout jobID => transcriptionJobTimeoutChecker env channelID jobID

/-- The operation is about a recording or a transcription that is in progress. A bot
is that of a job whose connection is the original or the current one of its session. -/
def Concerns (cs : CallState) : EndingOp → Prop
  | .stopRequest => cs.inProgress .recording = true
  | .botLeaves ref => cs.sessions.contains ref.originalConnID = true ∧
      ∃ type job, type ≠ .captioning ∧ cs.job? type = some job ∧ job.endAt = 0 ∧
        (job.props.botConnID = ref.originalConnID ∨ job.props.botConnID = ref.connID)
  | .jobFailed jobID type _ => type ≠ .captioning ∧ ∃ job, cs.job? type = some job ∧ job.endAt = 0 ∧ job.id = jobID
  | .recTimeout jobID => ∃ job, cs.job? .recording = some job ∧ job.endAt = 0 ∧ job.startAt = 0 ∧ job.props.jobID = jobID
  | .trTimeout jobID =>
      ∃ job, cs.job? .transcribing = some job ∧ job.endAt = 0 ∧ job.startAt = 0 ∧ job.props.jobID = jobID

/-- The jobs whose rows the operation ends. -/
def ended (cs : CallState) : EndingOp → List JobType
  | .stopRequest | .recTimeout _ => cs.endedWith .recording
  | .botLeaves ref => cs.endedByLeave ref.originalConnID ref.connID
  | .jobFailed _ type _ => cs.endedWith type
  | .trTimeout _ => cs.endedWith .transcribing

/-- Nothing is forgotten: live captions in progress end with a recording, but with a
transcription alone only where it is their own bot that leaves; and a bot that
leaves is told by its original connection. -/
def EndsAll (cs : CallState) : EndingOp → Prop
  | .stopRequest | .recTimeout _ => True
  | .botLeaves ref => (cs.jobOfConn? .recording ref.originalConnID).isSome = true ∨
      (cs.jobOfConn? .transcribing ref.originalConnID).isSome = true ∧
        (cs.inProgress .captioning = true → (cs.jobOfConn? .captioning ref.connID).isSome = true)
  | .jobFailed _ type _ => type = .recording ∨ cs.inProgress .captioning = false
  | .trTimeout _ => cs.inProgress .captioning = false

end EndingOp

/-- The jobs of a state are rows of its call, and the open ones among its rows. -/
structure CallState.HoldsJobs (cs : CallState) (store : Store) : Prop where
  held : ∀ type job, cs.job? type = some job → job ∈ store.jobs ∧ job.callID = cs.call.id ∧ job.type = type
  unended : ∀ row ∈ store.jobs, row.callID = cs.call.id → row.endAt = 0 → cs.job? row.type = some row

/-- No job of the call is open. -/
def Store.NoOpenJobs (store : Store) (callID : String) : Prop :=
  ∀ row ∈ store.jobs, row.callID = callID → row.endAt ≠ 0

theorem Store.noOpenJobs_iff {store : Store} {callID : String} :
    store.NoOpenJobs callID ↔ ∀ id, id ∉ store.openJobs callID := by
  simp only [Store.mem_openJobs, NoOpenJobs]
  constructor
  · intro none id facts
    obtain ⟨job, member, call, unended, -⟩ := facts
    exact none job member call unended
  · intro none row member call unended
    exact none row.id ⟨row, member, call, unended, rfl⟩

namespace CallState.HoldsJobs

variable {cs : CallState} {store after : Store} {types : List JobType}

theorem mem_openJobs (holds : cs.HoldsJobs store) {id : String} :
    id ∈ store.openJobs cs.call.id ↔ ∃ type job, cs.job? type = some job ∧ job.endAt = 0 ∧ job.id = id := by
  rw [Store.mem_openJobs]
  constructor
  · intro facts
    obtain ⟨row, member, call, unended, named⟩ := facts
    exact ⟨row.type, row, holds.unended row member call unended, unended, named⟩
  · intro facts
    obtain ⟨type, job, held, unended, named⟩ := facts
    obtain ⟨member, call, -⟩ := holds.held type job held
    exact ⟨job, member, call, unended, named⟩

/-- Jobs of different types have different IDs. -/
theorem type_eq (holds : cs.HoldsJobs store) {left right : JobType} {job other : CallJob}
    (leftHeld : cs.job? left = some job) (rightHeld : cs.job? right = some other) (same : job.id = other.id) :
    left = right := by
  obtain ⟨member, -, type⟩ := holds.held left job leftHeld
  obtain ⟨otherMember, -, otherType⟩ := holds.held right other rightHeld
  rw [← type, ← otherType, KeyedTable.eq_of_key_eq member otherMember same]

/-- Nothing stays open exactly if every type in progress is among those that are ended. -/
theorem noOpenJobs_iff (holds : cs.HoldsJobs store) (closes : Store.Closes (cs.jobIDs types) store after) :
    after.NoOpenJobs cs.call.id ↔ ∀ type, cs.inProgress type = true → type ∈ types := by
  rw [Store.noOpenJobs_iff]
  simp only [closes.mem_openJobs, holds.mem_openJobs, CallState.mem_jobIDs, CallState.inProgress_iff, not_and, not_not]
  constructor
  · intro all type facts
    obtain ⟨job, held, unended⟩ := facts
    obtain ⟨other, listed, otherJob, otherHeld, same⟩ := all job.id ⟨type, job, held, unended, rfl⟩
    rw [holds.type_eq held otherHeld same.symm]
    exact listed
  · intro all id facts
    obtain ⟨type, job, held, unended, named⟩ := facts
    exact ⟨type, all type ⟨job, held, unended⟩, job, held, named⟩

theorem jobsValid (holds : cs.HoldsJobs store) (valid : store.JobsValid) : cs.JobsValid :=
  fun type job held => valid job (holds.held type job held).1

end CallState.HoldsJobs

/-- What an operation writes, if the store works. -/
theorem EndingOp.run_closes {env : Env} {channelID : String} {op : EndingOp} {before : LockedCall} (works : env.StoreWorks)
    (valid : before.JobsValid) (concerns : op.Concerns before.state) :
    (op.run env channelID).wp (fun _ after =>
      Store.Closes (before.state.jobIDs (op.ended before.state)) before.world.store after.world.store) before := by
  have closes {α : Type} {inMemory saved : List JobType} {command : LockedHandler α}
      (ends : EndsJobsAnyhow env inMemory saved before command) :
      command.wp (fun _ after => Store.Closes (before.state.jobIDs saved) before.world.store after.world.store) before :=
    wp_mono ends fun _ _ ended => ended.rows
  cases op with
  | stopRequest => exact closes (stopRecordingJob_endsJobs works.writes valid concerns rfl).ignoring.anyhow
  | botLeaves ref => exact closes (removeUserSession_endsJobs works.writes valid (works _) concerns.1)
  | jobFailed jobID type err =>
    obtain ⟨accepted, job, held, -, rfl⟩ := concerns
    exact closes (handleBotPostJobsStatus_endsJobs works.writes valid err held accepted)
  | recTimeout jobID =>
    obtain ⟨job, held, -, waiting, rfl⟩ := concerns
    exact closes (recJobTimeoutChecker_endsJobs works.writes valid held waiting)
  | trTimeout jobID =>
    obtain ⟨job, held, -, waiting, rfl⟩ := concerns
    obtain ⟨inMemory, ends⟩ := transcriptionJobTimeoutChecker_endsJobs works.writes valid held waiting
    exact closes ends

/-- Every type in progress is ended, on the condition that no live captions are forgotten. -/
theorem EndingOp.ended_iff {cs : CallState} {op : EndingOp} (concerns : op.Concerns cs)
    (coupled : cs.inProgress .captioning = true → cs.inProgress .transcribing = true) :
    (∀ type, cs.inProgress type = true → type ∈ op.ended cs) ↔ op.EndsAll cs := by
  have withRecording : ∀ type, cs.inProgress type = true → type ∈ cs.endedWith .recording := by
    intro type active
    cases type with
    | recording => exact List.mem_cons_self
    | transcribing => simp [CallState.endedWith, transcriptionTypes, active]
    | captioning => simp [CallState.endedWith, transcriptionTypes, coupled active]
  have withTranscription : (∀ type, cs.inProgress type = true → type ∈ cs.endedWith .transcribing) ↔
      cs.inProgress .captioning = false := by
    constructor
    · intro all
      rw [← Bool.not_eq_true]
      intro active
      have listed := all .captioning active
      simp only [CallState.endedWith, recordingTypes] at listed
      split at listed <;> simp at listed
    · intro none type active
      cases type with
      | recording => simp [CallState.endedWith, recordingTypes, active]
      | transcribing => exact List.mem_cons_self
      | captioning => rw [none] at active; cases active
  cases op with
  | stopRequest => exact ⟨fun _ => trivial, fun _ => withRecording⟩
  | recTimeout jobID => exact ⟨fun _ => trivial, fun _ => withRecording⟩
  | trTimeout jobID => exact withTranscription
  | jobFailed jobID type err =>
    cases type with
    | recording => exact ⟨fun _ => .inl rfl, fun _ => withRecording⟩
    | transcribing => exact withTranscription.trans ⟨.inr, fun either => either.resolve_left (by decide)⟩
    | captioning => exact absurd rfl concerns.1
  | botLeaves ref =>
    have captionsOnly (type : JobType) (listed : type ∈ cs.endedByCaptioningBot ref.connID) :
        type = .captioning ∧ (cs.jobOfConn? .captioning ref.connID).isSome = true := by
      unfold CallState.endedByCaptioningBot at listed
      split at listed <;> simp_all
    show (∀ type, _ → type ∈ cs.endedByLeave ref.originalConnID ref.connID) ↔ _
    unfold CallState.endedByLeave
    by_cases recordingBot : (cs.jobOfConn? .recording ref.originalConnID).isSome = true
    · rw [if_pos recordingBot, CallState.endedByRecordingBot, if_pos recordingBot]
      exact ⟨fun _ => .inl recordingBot, fun _ type active => List.mem_append_left _ (withRecording type active)⟩
    · rw [if_neg recordingBot, CallState.endedByTranscribingBot]
      by_cases transcribingBot : (cs.jobOfConn? .transcribing ref.originalConnID).isSome = true
      · rw [if_pos transcribingBot]
        constructor
        · refine fun all => .inr ⟨transcribingBot, fun active => ?_⟩
          have listed := all .captioning active
          simp only [recordingTypes, List.mem_append] at listed
          rcases listed with coupled | own
          · split at coupled <;> simp at coupled
          · exact (captionsOnly _ own).2
        · intro either type active
          rcases either with left | ⟨-, captionsEnd⟩
          · exact absurd left recordingBot
          · cases type with
            | recording => simp [recordingTypes, active]
            | transcribing => simp
            | captioning => simp [CallState.endedByCaptioningBot, captionsEnd active]
      · rw [if_neg transcribingBot, List.nil_append]
        constructor
        · intro all
          obtain ⟨-, type, job, accepted, held, unended, -⟩ := concerns
          exact absurd (captionsOnly type (all type (CallState.inProgress_iff.mpr ⟨job, held, unended⟩))).1 accepted
        · intro either
          rcases either with left | ⟨left, -⟩
          · exact absurd left recordingBot
          · exact absurd left transcribingBot

/-- An operation that ends a recording or a transcription leaves no job of the call
open exactly if it forgets no live captions and no bot has reconnected. -/
theorem noOpenJobs_iff_endsAll (env : Env) (channelID : String) (op : EndingOp) (before : LockedCall)
    (works : env.StoreWorks) (valid : before.world.store.JobsValid) (holds : before.state.HoldsJobs before.world.store)
    (coupled : before.state.inProgress .captioning = true → before.state.inProgress .transcribing = true)
    (concerns : op.Concerns before.state) :
    (op.run env channelID before).2.world.store.NoOpenJobs before.state.call.id ↔ op.EndsAll before.state := by
  have closes : Store.Closes _ _ (op.run env channelID before).2.world.store :=
    EndingOp.run_closes works (holds.jobsValid valid) concerns
  rw [holds.noOpenJobs_iff closes, EndingOp.ended_iff concerns coupled]

/-! ### A recorded call with captions -/

def startedJob (id : String) (type : JobType) : CallJob :=
  { id, callID := "call", type, creatorID := "alice", initAt := 1000, props := { jobID := "job" } }

/-- All three jobs are waiting for their bot. -/
def waitingCall : LockedCall where
  world :=
    { World.empty with
      store :=
        { Store.empty with
          jobs := ((KeyedTable.empty.put (startedJob "rec" .recording)).put (startedJob "tr" .transcribing)).put
            (startedJob "lc" .captioning) } }
  state :=
    { call := { id := "call", channelID := "channel", startAt := 1000, createAt := 1000, ownerID := "alice",
                props := CallProps.zero }
      sessions := .empty
      recording := some (startedJob "rec" .recording)
      transcription := some (startedJob "tr" .transcribing)
      liveCaptions := some (startedJob "lc" .captioning) }

theorem waitingCall_rows : waitingCall.world.store.jobs.rows =
    [startedJob "rec" .recording, startedJob "tr" .transcribing, startedJob "lc" .captioning] := by decide

theorem waitingCall_valid : waitingCall.world.store.JobsValid := by
  intro job member
  rw [KeyedTable.mem_def, waitingCall_rows] at member
  revert job
  decide

theorem waitingCall_holdsJobs : waitingCall.state.HoldsJobs waitingCall.world.store := by
  constructor
  · intro type job held
    rw [KeyedTable.mem_def, waitingCall_rows]
    cases type <;> cases held <;> decide
  · intro row member
    rw [KeyedTable.mem_def, waitingCall_rows] at member
    revert row
    decide

theorem noOpenJobs_of_stopRequest : (EndingOp.stopRequest.run (.quiet 2000 "") "channel"
    waitingCall).2.world.store.NoOpenJobs "call" :=
  (noOpenJobs_iff_endsAll (.quiet 2000 "") "channel" .stopRequest waitingCall (fun _ => rfl) waitingCall_valid
    waitingCall_holdsJobs (fun _ => rfl) rfl).mpr trivial

/-- The transcribing bot does not join in time: the live captions stay open. -/
theorem not_noOpenJobs :
    ¬ ∀ env channelID (op : EndingOp) before, env.StoreWorks → before.world.store.JobsValid →
      before.state.HoldsJobs before.world.store →
      (before.state.inProgress .captioning = true → before.state.inProgress .transcribing = true) →
      op.Concerns before.state →
      (op.run env channelID before).2.world.store.NoOpenJobs before.state.call.id := by
  intro all
  have none := all (.quiet 2000 "") "channel" (.trTimeout "job") waitingCall (fun _ => rfl) waitingCall_valid
    waitingCall_holdsJobs (fun _ => rfl) ⟨startedJob "tr" .transcribing, rfl, rfl, rfl, rfl⟩
  have rows : ((EndingOp.trTimeout "job").run (.quiet 2000 "") "channel"
      waitingCall).2.world.store.jobs.rows.map (fun row => (row.id, row.callID, row.endAt)) =
        [("rec", "call", 2000), ("tr", "call", 2000), ("lc", "call", 0)] := by decide
  have captions : ("lc", "call", 0) ∈ [("rec", "call", 2000), ("tr", "call", 2000), ("lc", "call", (0 : Int))] := by decide
  obtain ⟨row, member, seen⟩ := KeyedTable.exists_of_rows_map rows captions
  simp only [Prod.mk.injEq] at seen
  exact none row member seen.2.1 seen.2.2

end Calls
