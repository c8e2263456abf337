import Calls.Server.OngoingCalls
import Calls.Server.RecordingRequests

/-! What is kept of the jobs of every call between the items of the batches: of each
call as the store has it, and of the states that are held in memory. -/

set_option autoImplicit false

namespace Calls

open LockedHandler Command

/-- The jobs of a call, but for the connections of their bots. -/
def Store.jobsOf (store : Store) (callID : String) : List CallJob :=
  (store.jobs.filter fun job => job.callID = callID).rows.map (·.withBot "")

def latestRecording (jobs : List CallJob) : Option CallJob := (jobs.filter fun job => job.type = .recording).getLast?

theorem Store.mem_jobsOf {store : Store} {callID : String} {job : CallJob} :
    job ∈ store.jobsOf callID ↔ ∃ row ∈ store.jobs, row.callID = callID ∧ row.withBot "" = job := by
  simp [jobsOf, KeyedTable.mem_def, and_assoc]

theorem Store.latestRecording?_jobsOf (store : Store) (callID : String) :
    (store.latestRecording? callID).map (·.withBot "") = latestRecording (store.jobsOf callID) := by
  have typed : ((fun job : CallJob => decide (job.type = .recording)) ∘ fun job : CallJob => job.withBot "") =
      fun job : CallJob => decide (job.type = .recording) := rfl
  unfold latestRecording? recordings latestRecording jobsOf
  rw [List.filter_map, List.getLast?_map, typed, KeyedTable.rows_filter, KeyedTable.rows_filter, List.filter_filter]
  congr 2
  refine List.filter_congr fun job _ => ?_
  simp [Bool.and_comm]

/-- What holds of the jobs of a call: a recording in progress is the latest one. -/
structure CallJobsFine (jobs : List CallJob) : Prop where
  valid : ∀ job ∈ jobs, job.isValid = .ok ()
  single : ∀ job ∈ jobs, job.type = .recording → job.endAt = 0 → (latestRecording jobs).map CallJob.id = some job.id

/-- The jobs of a state in memory, compared with those of its call in the store. A batch
of joins has them as they are there. -/
structure HeldJobs (kind : BatchKind) (cs : CallState) (jobs : List CallJob) : Prop where
  listed : ∀ type job, cs.job? type = some job →
    job.type = type ∧ job.callID = cs.call.id ∧ ∃ row ∈ jobs, row.identity = job.identity
  latest : ∀ job, cs.recording = some job → (latestRecording jobs).map CallJob.id = some job.id
  inStep : ∀ job, cs.recording = some job → job.endAt = 0 → (latestRecording jobs).map CallJob.phase = some job.phase
  exact : kind = .joining → ∀ type job, cs.job? type = some job → job.withBot "" ∈ jobs
  people : ∀ session ∈ cs.sessions, session.userID ≠ ""

/-- The participants of the call were last told of its latest recording. -/
def RecordingTold (channelID : String) (jobs : List CallJob) (world : World) : Prop :=
  ∀ phase, (latestRecording jobs).map CallJob.phase = some phase → world.toldPhase channelID = some phase

section
variable {channelID : String} {world : World} {cs : CallState} {kind : BatchKind}

theorem LockedCall.recordingView_row (locked : LockedCall) (channelID : String) :
    (locked.recordingView channelID).row =
      (latestRecording (locked.world.store.jobsOf locked.state.call.id)).map CallJob.phase := by
  rw [← Store.latestRecording?_jobsOf, Option.map_map]
  rfl

/-- The latest recording, told by its row. -/
theorem Store.latestRecording?_id_jobsOf (store : Store) (callID : String) :
    (store.latestRecording? callID).map CallJob.id = (latestRecording (store.jobsOf callID)).map CallJob.id := by
  rw [← latestRecording?_jobsOf, Option.map_map]
  rfl

/-- A handler starts with what holds of the state in memory. -/
theorem HeldJobs.sees (held : HeldJobs kind cs (world.store.jobsOf cs.call.id))
    (fine : CallJobsFine (world.store.jobsOf cs.call.id)) :
    Sees channelID ⟨world, cs⟩ ((⟨world, cs⟩ : LockedCall).recordingView channelID) ⟨world, cs⟩ where
  callID := rfl
  identities := rfl
  others _ _ := rfl
  unopened row member unended := ⟨row, member, rfl, unended⟩
  memory := by
    intro type job found
    obtain ⟨typed, ofCall, row, member, same⟩ := held.listed type job found
    obtain ⟨own, ownMember, -, rfl⟩ := Store.mem_jobsOf.mp member
    refine ⟨typed, ofCall, List.mem_map.mpr ⟨own, ownMember, same⟩, ?_, ?_⟩
    · rw [← CallJob.isValid_congr same]
      exact fine.valid _ member
    · intro same
      obtain rfl := same
      rw [Store.latestRecording?_id_jobsOf]
      exact held.latest job found
  people := held.people
  elsewhere _ _ := rfl
  view := rfl

theorem HeldJobs.settled (held : HeldJobs kind cs (world.store.jobsOf cs.call.id))
    (told : RecordingTold channelID (world.store.jobsOf cs.call.id) world) :
    ((⟨world, cs⟩ : LockedCall).recordingView channelID).Settled := by
  constructor
  · intro phase row
    rw [LockedCall.recordingView_row] at row
    exact told phase row
  · intro phase memory running
    obtain ⟨job, recording, rfl⟩ := Option.map_eq_some_iff.mp memory
    rw [LockedCall.recordingView_row]
    refine held.inStep job recording ?_
    simpa [CallJob.phase] using running

namespace Sees

variable {before after : LockedCall} {view : RecordingView}

/-- The row that a row was before. -/
theorem previous (sees : Sees channelID before view after) {row : CallJob} (member : row ∈ after.world.store.jobs) :
    ∃ old ∈ before.world.store.jobs, old.identity = row.identity := by
  have listed : row.identity ∈ after.world.store.jobIdentities := List.mem_map_of_mem member
  rw [sees.identities] at listed
  exact List.mem_map.mp listed

theorem latest_jobsOf (sees : Sees channelID before view after) :
    (latestRecording (after.world.store.jobsOf before.state.call.id)).map CallJob.id =
      (latestRecording (before.world.store.jobsOf before.state.call.id)).map CallJob.id := by
  have same := sees.latest_id
  rwa [sees.callID, Store.latestRecording?_id_jobsOf, Store.latestRecording?_id_jobsOf] at same

theorem jobsOf_other (sees : Sees channelID before view after) {callID : String} (other : callID ≠ before.state.call.id) :
    after.world.store.jobsOf callID = before.world.store.jobsOf callID := by
  unfold Store.jobsOf
  rw [sees.others callID other]

/-- What a handler leaves of the jobs of its call. -/
theorem fine (sees : Sees channelID before view after) (fine : CallJobsFine (before.world.store.jobsOf before.state.call.id)) :
    CallJobsFine (after.world.store.jobsOf before.state.call.id) := by
  constructor
  · intro job member
    obtain ⟨row, rowMember, ofCall, rfl⟩ := Store.mem_jobsOf.mp member
    obtain ⟨old, oldMember, same⟩ := sees.previous rowMember
    have oldOf : old.callID = row.callID := congrArg (·.2.1) same
    have valid := fine.valid (old.withBot "") (Store.mem_jobsOf.mpr ⟨old, oldMember, oldOf.trans ofCall, rfl⟩)
    rwa [CallJob.isValid_withBot, CallJob.isValid_congr same] at valid
  · intro job member recording unended
    obtain ⟨row, rowMember, ofCall, rfl⟩ := Store.mem_jobsOf.mp member
    obtain ⟨old, oldMember, same⟩ := sees.previous rowMember
    obtain ⟨open_, openMember, named, oldUnended⟩ := sees.unopened row rowMember unended
    have equal : open_ = old := KeyedTable.eq_of_key_eq openMember oldMember (named.trans (congrArg Prod.fst same).symm)
    subst equal
    have oldOf : open_.callID = row.callID := congrArg (·.2.1) same
    have typed : open_.type = row.type := congrArg (·.2.2.1) same
    rw [sees.latest_jobsOf]
    exact (fine.single (open_.withBot "") (Store.mem_jobsOf.mpr ⟨open_, openMember, oldOf.trans ofCall, rfl⟩)
      (typed.trans recording) oldUnended).trans (congrArg some named)

/-- A batch of leaves goes on with the jobs that a removal left. -/
theorem held (sees : Sees channelID before view after) (settled : view.Settled) :
    HeldJobs .leaving after.state (after.world.store.jobsOf after.state.call.id) where
  listed := by
    intro type job found
    have of := sees.memory type job found
    obtain ⟨row, member, same⟩ := sees.row_of of
    have ofCall : row.callID = job.callID := congrArg (·.2.1) same
    refine ⟨of.typed, of.ofCall.trans sees.callID.symm, row.withBot "", Store.mem_jobsOf.mpr ⟨row, member, ?_, rfl⟩, same⟩
    rw [ofCall, of.ofCall, sees.callID]
  latest := by
    intro job found
    rw [sees.callID, sees.latest_jobsOf, ← Store.latestRecording?_id_jobsOf]
    exact (sees.memory .recording job found).latest rfl
  inStep := by
    intro job found unended
    rw [← LockedCall.recordingView_row after channelID, sees.view]
    exact settled.inStep _ (sees.memory_some found) (CallJob.phase_running unended)
  exact := fun joining => by cases joining
  people := sees.people

theorem told (sees : Sees channelID before view after) (shown : view.Shown) :
    RecordingTold channelID (after.world.store.jobsOf before.state.call.id) after.world := by
  intro phase latest
  have row := LockedCall.recordingView_row after channelID
  rw [sees.view, sees.callID, latest] at row
  rw [← shown phase row, ← sees.view]
  rfl

end Sees

end

end Calls
