import Calls.Server.JobRows

/-! The rows of jobs in runs: what the batches hold of them, and that each step writes to
the rows of one call at most. -/

set_option autoImplicit false

namespace Calls

open LockedHandler Command

/-! ### Leaves -/

/-- The rows of jobs, and the jobs in memory. -/
def LockedCall.allJobs (locked : LockedCall) : KeyedTable CallJob.id × (JobType → Option CallJob) :=
  (locked.world.store.jobs, locked.state.job?)

section
variable {env : Env} {channelID callID : String} {before : Store} {held : CallJob → Prop}

theorem RowsHeld.of_preserved {α : Type} {command : LockedHandler α} (keeps : Preserves LockedCall.allJobs command) :
    Maintains (RowsHeld held callID before) command := by
  intro locked kept
  have same := keeps.run locked
  simp only [LockedCall.allJobs, Prod.mk.injEq] at same
  exact ⟨same.2 ▸ kept.memory, kept.rows.congr same.1⟩

theorem ChangesCall.allJobs {change : Call → Call} {locked after : LockedCall} {result : Except String Unit}
    (changes : ChangesCall change locked result after) : after.allJobs = locked.allJobs := by
  have memory : after.state.job? = locked.state.job? := by
    rw [changes.state]
    funext type
    cases type <;> rfl
  simp only [LockedCall.allJobs, changes.store, memory]

theorem saveLeave_allJobs : Preserves LockedCall.allJobs (saveLeave env) := by
  have finish : Preserves LockedCall.allJobs
      (modifyState fun state => state.mapCall (·.finishIfEmpty env state.sessions)) :=
    .modify fun locked => congrArg (locked.world.store.jobs, ·) (by funext type; cases type <;> rfl)
  have update (call : Call) : Preserves LockedCall.allJobs (onStore (Store.updateCall env.faults call)) := by
    refine .of_wp fun locked => ?_
    rw [onStore, onWorld, wp_zoom, Handler.onStore, wp_zoom]
    exact Store.wp_updateCall (fun _ => rfl) fun _ _ => rfl
  have post (postID : String) (participants : List String) :
      Preserves LockedCall.allJobs (onWorld (updateCallPostEnded env postID participants)) := by
    refine .of_run fun locked => congrArg (·, locked.state.job?) ?_
    exact congrArg (·.store.jobs) (updateCallPostEnded_world env postID participants locked.world)
  exact fun seen => (finish seen).bind fun _ => getState_maintains.bind fun _ =>
    .deferring (update _ seen).mapError (post _ _ seen).ignoring.when

theorem removeUserSession_rows (ref : SessionRef) :
    Maintains (RowsHeld (CallJob.OfCall before callID) callID before) (removeUserSession env channelID ref) := by
  refine getState_maintains.bind fun state => ?_
  cases state.sessions.find? ref.originalConnID with
  | none => exact .throw _
  | some us =>
    have delete : Preserves LockedCall.allJobs (onStore (Store.deleteCallSession env.faults ref.originalConnID)) := by
      refine .of_wp fun locked => ?_
      rw [onStore, onWorld, wp_zoom, Handler.onStore, wp_zoom]
      exact Store.wp_deleteCallSession (fun _ _ => rfl) fun _ => rfl
    have screen : Preserves LockedCall.allJobs (leaveScreen env channelID ref.originalConnID) :=
      .of_wp fun locked => wp_mono (leaveScreen_spec env channelID locked _) fun _ _ changes => changes.allJobs
    have video : Preserves LockedCall.allJobs (leaveVideo env channelID ref.userID us) :=
      .of_wp fun locked => wp_mono (leaveVideo_spec env channelID locked _ us) fun _ _ changes => changes.allJobs
    have host : Preserves LockedCall.allJobs (leaveHost env channelID ref.userID) :=
      .of_wp fun locked => wp_mono (leaveHost_spec env channelID locked _) fun _ _ changes => changes.allJobs
    have jobs : Maintains (RowsHeld (CallJob.OfCall before callID) callID before)
        (leaveJobs env channelID ref.originalConnID ref.connID) := RowsHeld.keptByEnding.leaveJobs _ _
    refine (RowsHeld.of_preserved delete).mapError.bind fun _ => (RowsHeld.of_preserved ?_).bind fun _ =>
      (RowsHeld.of_preserved screen).bind fun _ => (RowsHeld.of_preserved video).bind fun _ => jobs.bind fun _ =>
        (RowsHeld.of_preserved ?_).bind fun _ => (RowsHeld.of_preserved host).bind fun _ =>
          RowsHeld.of_preserved saveLeave_allJobs
    · exact .modify fun locked => rfl
    · exact .of_run fun locked => rfl

end

/-! ### What batches hold -/

/-- The jobs of a state in memory are those of its call in the store. A batch of joins has them as they are there. -/
structure CallState.KnowsRows (store : Store) (kind : BatchKind) (cs : CallState) : Prop where
  own : ∀ type job, cs.job? type = some job → job.OfCall store cs.call.id
  stored : kind = .joining → cs.JobsStored store.jobsApartFromBots

/-- What batches hold of calls and jobs is what the store says of them. -/
structure RowsInvariant (ops : Operations) : Prop where
  mirrored : Mirrored ops
  held : ∀ channelID batch cs, ops.held.get? channelID = some batch → batch.state = some cs →
    cs.KnowsRows ops.world.store batch.kind

theorem Store.jobIdentities_apartFromBots (store : Store) :
    store.jobIdentities = store.jobsApartFromBots.map CallJob.identity := by
  unfold jobIdentities jobsApartFromBots
  rw [List.map_map]
  rfl

/-- Where rows change in their bots only, nothing is opened. -/
theorem Store.OpensRows.of_bots {before after : Store} (same : after.jobsApartFromBots = before.jobsApartFromBots)
    (callID : String) : before.OpensRows callID [] after := by
  have opened {row : CallJob} (member : row ∈ after.jobs) (unended : row.endAt = 0) : before.HasOpen row := by
    have listed : row.withBot "" ∈ before.jobsApartFromBots := same ▸ mem_jobsApartFromBots.mpr ⟨row, member, rfl⟩
    obtain ⟨old, oldMember, equal⟩ := mem_jobsApartFromBots.mp listed
    have identity : (old.withBot "").identity = (row.withBot "").identity := by rw [equal]
    have endAt : (old.withBot "").endAt = (row.withBot "").endAt := by rw [equal]
    exact ⟨old, oldMember, identity, endAt.trans unended⟩
  refine ⟨fun job member _ => same ▸ member, fun identity member => ?_, fun row member unended => .inl (opened member unended),
    fun row member _ _ unended _ closed => absurd (opened member unended) closed⟩
  rw [jobIdentities_apartFromBots, same, ← jobIdentities_apartFromBots]
  exact member

namespace CallState.KnowsRows

variable {before after : Store} {kind : BatchKind} {cs : CallState}

theorem of_loads {channelID : String} (loads : before.Loads channelID (some cs)) : cs.KnowsRows before kind := by
  have rows : ∀ type job, cs.job? type = some job → job ∈ before.jobs ∧ job.callID = cs.call.id := by
    intro type job held
    have found := loads.2.2 type
    rw [held] at found
    obtain ⟨member, ofCall, -, -⟩ := Store.activeCallJobs_eq_some found.symm
    exact ⟨member, ofCall⟩
  exact ⟨fun type job held => ⟨(rows type job held).2, List.mem_map_of_mem (rows type job held).1⟩,
    fun _ type job held => List.mem_map_of_mem (rows type job held).1⟩

/-- A change to the rows of another call. -/
theorem frame (knows : cs.KnowsRows before kind) {callID : String} {types : List JobType}
    (rows : before.OpensRows callID types after) (other : cs.call.id ≠ callID) : cs.KnowsRows after kind := by
  refine ⟨fun type job held => ⟨(knows.own type job held).1, rows.listed _ (knows.own type job held).2⟩,
    fun joining type job held => ?_⟩
  have ofCall : (job.withBot "").callID = cs.call.id := (knows.own type job held).1
  exact rows.others _ (knows.stored joining type job held) fun same => other (ofCall.symm.trans same)

theorem of_bots (knows : cs.KnowsRows before kind) (same : after.jobsApartFromBots = before.jobsApartFromBots) :
    cs.KnowsRows after kind := by
  refine ⟨fun type job held => ⟨(knows.own type job held).1, ?_⟩, fun joining => by rw [same]; exact knows.stored joining⟩
  rw [Store.jobIdentities_apartFromBots, same, ← Store.jobIdentities_apartFromBots]
  exact (knows.own type job held).2

end CallState.KnowsRows

/-- The calls that two channels have in memory are not the same one. -/
theorem CallState.MirroredBy.apart {store : Store} {channelID otherID : String} {cs other : CallState}
    (mirrored : cs.MirroredBy store channelID) (otherMirrored : other.MirroredBy store otherID)
    (different : otherID ≠ channelID) :
    other.call.id ≠ cs.call.id := by
  intro same
  have view := otherMirrored.view
  rw [same, mirrored.view] at view
  have calls : cs.call.apartFromPost = other.call.apartFromPost := congrArg CallView.call (Option.some.inj view)
  have channel : cs.call.apartFromPost.channelID = other.call.apartFromPost.channelID := by rw [calls]
  exact different (otherMirrored.channel.symm.trans (channel.symm.trans mirrored.channel))

/-! ### Steps -/

/-- The answer for a recording that the start of captions goes with, and the state it is handled on. -/
def RecordingRuns.StartsCaptions (runs : RecordingRuns) (cs : CallState) : JobRunStep → Prop
  | .returned env index _ _ result => ∃ channelID userID, runs.starts[index]? = some ⟨channelID, .recording userID⟩ ∧
      (lockCallReturnState env channelID runs.ops.world).1 = .ok (some cs) ∧ Calls.StartsCaptions env cs result
  | _ => False

/-- What a step makes of the rows of jobs. -/
inductive RowsChange (runs : RecordingRuns) (step : JobRunStep) (before after : Store) : Prop where
  | kept {callID : String} : before.OpensRows callID [] after → RowsChange runs step before after
  | opened {channelID : String} {cs : CallState} : before.Loads channelID (some cs) →
      OpensIdle cs.call.id (fun type => cs.inProgress type = false ∨ (type = .captioning ∧ runs.StartsCaptions cs step))
        before after →
      RowsChange runs step before after

namespace RowsInvariant

variable {ops : Operations} {runs after : RecordingRuns} {channelID : String} {world : World}

theorem idle : RowsInvariant .idle := ⟨.idle, fun _ _ _ found => by cases found⟩

/-- The batches of other channels, after a change to the rows of the call that this one has in memory. -/
theorem elsewhere (inv : RowsInvariant ops) {cs : CallState} {types : List JobType}
    (mirrored : cs.MirroredBy ops.world.store channelID) (rows : ops.world.store.OpensRows cs.call.id types world.store)
    {other : String} {batch : Batch} {held : CallState} (different : other ≠ channelID)
    (found : ops.held.get? other = some batch) (loaded : batch.state = some held) : held.KnowsRows world.store batch.kind :=
  (inv.held other batch held found loaded).frame rows
    (mirrored.apart (inv.mirrored.held other batch held found loaded) different)

/-- A request on a channel that no batch is running on. -/
theorem request (inv : RowsInvariant ops) (free : ops.held.contains channelID = false) (kept : KeepsCalls ops.world world)
    {idle : CallState → JobType → Prop} (rows : RequestRows channelID idle ops.world.store world.store) :
    RowsInvariant { ops with world } := by
  refine ⟨inv.mirrored.keepsCalls rfl kept, fun other batch held found loaded => ?_⟩
  have different : other ≠ channelID := by
    intro same
    obtain rfl := same
    rw [StringMap.contains_eq_isSome, found] at free
    cases free
  cases rows with
  | nothing same =>
    refine (inv.held other batch held found loaded).of_bots ?_
    unfold Store.jobsApartFromBots
    rw [same]
  | ran loads opens =>
    obtain ⟨types, rows, -⟩ := opens
    exact inv.elsewhere (loads.mirrored inv.mirrored.jobs).1 rows different found loaded

theorem of_hold {kind : BatchKind} {next : Option CallState}
    (mirrored : Mirrored (ops.holdBatch channelID kind next world))
    (here : ∀ cs, next = some cs → cs.KnowsRows world.store kind)
    (others : ∀ other batch held, other ≠ channelID → ops.held.get? other = some batch → batch.state = some held →
      held.KnowsRows world.store batch.kind) : RowsInvariant (ops.holdBatch channelID kind next world) := by
  refine ⟨mirrored, fun other batch held found loaded => ?_⟩
  rcases Operations.holdBatch_cases found with ⟨-, rfl⟩ | ⟨different, found⟩
  · exact here held loaded
  · exact others other batch held different found loaded

theorem joined (inv : RowsInvariant ops) {after : Operations} {env : Env} {req : JoinRequest} (mirrored : Mirrored after)
    (taken : ops.next? (.join env channelID req) = some after) :
    RowsInvariant after ∧ after.world.store.jobsApartFromBots = ops.world.store.jobsApartFromBots := by
  obtain ⟨state, next, world, running, effect, jobs, rfl⟩ := Operations.join_eq_some taken
  have known : ∀ cs, state = some cs → cs.KnowsRows ops.world.store .joining := fun cs loaded =>
    inv.held channelID _ cs (Operations.batch?_eq_some running) loaded
  obtain ⟨tells, origin⟩ := jobs fun cs loaded => (known cs loaded).stored rfl
  refine ⟨of_hold mirrored (fun cs loaded => ?_) fun other batch held _ found loaded =>
    (inv.held other batch held found loaded).of_bots tells.jobs, tells.jobs⟩
  refine ⟨fun type job found => ?_, fun _ => ?_⟩
  · obtain ⟨base, own, started, ownHeld, same, named⟩ := (origin cs loaded).held (effect.handedOn cs loaded) found
    have identity : (own.withBot "").identity = (job.withBot "").identity := by rw [same]
    have ofBase : own.OfCall world.store cs.call.id := named ▸ ((known base started).of_bots tells.jobs).own type own ownHeld
    exact ofBase.congr (show job.identity = own.identity from identity.symm)
  · rw [tells.jobs]
    exact (origin cs loaded).stored fun held started => (known held started).stored rfl

theorem left (inv : RowsInvariant ops) {after : Operations} {env : Env} {ref : SessionRef} (mirrored : Mirrored after)
    (taken : ops.next? (.leave env channelID ref) = some after) :
    RowsInvariant after ∧ ∃ callID, ops.world.store.OpensRows callID [] after.world.store := by
  obtain ⟨state, next, world, running, effect, removal, rfl⟩ := Operations.leave_eq_some taken
  have found := Operations.batch?_eq_some running
  cases state with
  | none =>
    cases effect
    exact ⟨of_hold mirrored (fun cs loaded => by cases loaded) fun other batch held _ found loaded =>
      inv.held other batch held found loaded, "", .refl _ _ _⟩
  | some cs =>
    obtain ⟨left, removed, rfl, rfl⟩ := removal cs rfl
    have held := inv.mirrored.held channelID _ cs found rfl
    have start : RowsHeld (CallJob.OfCall ops.world.store cs.call.id) cs.call.id ops.world.store ⟨ops.world, cs⟩ :=
      ⟨(inv.held channelID _ cs found rfl).own, .refl _ _ _⟩
    have kept := (@removeUserSession_rows env channelID _ _ ref) ⟨ops.world, cs⟩ start
    have callID : left.state.call.id = cs.call.id := by
      rw [← removed]
      exact Call.id_eq_of_identity (removeUserSession_spec env channelID ref ⟨ops.world, cs⟩).identity
    rw [removed] at kept
    refine ⟨of_hold mirrored (fun next loaded => ?_) fun other batch next different found loaded =>
      inv.elsewhere held kept.rows different found loaded, cs.call.id, kept.rows⟩
    cases loaded
    refine ⟨fun type job found => ?_, fun joining => by cases joining⟩
    obtain ⟨ofCall, listed⟩ := kept.memory type job found
    exact ⟨callID ▸ ofCall, kept.rows.listed _ listed⟩

theorem operation (inv : RowsInvariant ops) {after : Operations} {step : OperationStep} (serves : StoreServes ops (.operation step))
    (taken : ops.next? step = some after) :
    RowsInvariant after ∧ ∃ callID, ops.world.store.OpensRows callID [] after.world.store := by
  obtain ⟨mirrored, -⟩ := inv.mirrored.step serves taken
  cases step with
  | lock env channelID kind =>
    rcases Operations.next?_effect taken with - | ⟨free, loads⟩
    · exact ⟨inv, "", .refl _ _ _⟩
    · refine ⟨of_hold mirrored (fun cs loaded => ?_) fun other batch held _ found loaded =>
        inv.held other batch held found loaded, "", .refl _ _ _⟩
      subst loaded
      exact .of_loads loads
  | join env channelID req =>
    obtain ⟨kept, same⟩ := inv.joined mirrored taken
    exact ⟨kept, "", .of_bots same ""⟩
  | leave env channelID ref => exact inv.left mirrored taken
  | unlock channelID =>
    cases taken
    refine ⟨⟨mirrored, fun other batch held found loaded => ?_⟩, "", .refl _ _ _⟩
    rw [StringMap.get?_erase] at found
    split at found
    · cases found
    · exact inv.held other batch held found loaded

/-- The rows that a request leaves are those of a step. -/
theorem handled (inv : RowsInvariant ops) {α : Type} {runs : RecordingRuns} {step : JobRunStep} {handler : Handler α}
    {result : Except String α} {after : Operations} (handled : ops.handle channelID handler = some (result, after))
    (kept : KeepsCalls ops.world after.world)
    (rows : RequestRows channelID (fun cs type => cs.inProgress type = false ∨ (type = .captioning ∧ runs.StartsCaptions cs step))
      ops.world.store (handler ops.world).2.store) :
    RowsInvariant after ∧ RowsChange runs step ops.world.store after.world.store := by
  obtain ⟨free, rfl⟩ := Operations.handle_eq_some handled
  refine ⟨inv.request free kept rows, ?_⟩
  cases rows with
  | nothing same => exact .kept ((Store.OpensRows.refl "" [] _).congr same)
  | ran loads opens => exact .opened loads opens

theorem step (inv : RowsInvariant runs.ops) {label : JobRunStep}
    (serves : ∀ operation, label = .operation operation → StoreServes runs.ops (.operation operation))
    (taken : runs.next? label = some after) :
    RowsInvariant after.ops ∧ RowsChange runs label runs.ops.world.store after.ops.world.store := by
  rcases RecordingRuns.next?_cases taken inv.mirrored.jobs with ⟨operation, rfl, moved⟩ | ⟨other, -, kept⟩
  · obtain ⟨inv, callID, rows⟩ := inv.operation (serves operation rfl) moved
    exact ⟨inv, .kept rows⟩
  cases label with
  | operation operation => exact absurd rfl (other operation)
  | start env channelID userID =>
    obtain ⟨⟨result, ops⟩, ran, rfl⟩ := Option.map_eq_some_iff.mp taken
    refine inv.handled ran kept ?_
    unfold RecordingStart.ask
    rw [bind_pure_run]
    exact (startRecording_rows userID runs.ops.world).mono fun _ _ idle => .inl idle
  | returned env index trID lcID result =>
    obtain ⟨start, found, taken⟩ := Option.bind_eq_some_iff.mp taken
    obtain ⟨⟨starts, ops⟩, ran, rfl⟩ := Option.map_eq_some_iff.mp taken
    refine inv.handled ran kept (start.answered_rows trID lcID result runs.ops.world fun userID cs phase loaded captions => ?_)
    refine ⟨start.channelID, userID, ?_, loaded, captions⟩
    rw [← phase]
    exact found
  | stop env channelID userID =>
    obtain ⟨⟨result, ops⟩, ran, rfl⟩ := Option.map_eq_some_iff.mp taken
    refine inv.handled ran kept (underLock_rows_of_kept fun _ _ writing => ?_)
    exact checkHost_maintains.bind fun _ => writing.stopRecordingJob
  | status env channelID jobID reported =>
    obtain ⟨⟨result, ops⟩, ran, rfl⟩ := Option.map_eq_some_iff.mp taken
    exact inv.handled ran kept (underLock_rows_of_kept fun _ _ writing => writing.handleBotPostJobsStatus jobID reported)
  | recTimeout env channelID jobID =>
    obtain ⟨⟨result, ops⟩, ran, rfl⟩ := Option.map_eq_some_iff.mp taken
    exact inv.handled ran kept (underLock_rows_of_kept fun _ _ writing => writing.recJobTimeoutChecker jobID)
  | trTimeout env channelID jobID =>
    obtain ⟨⟨result, ops⟩, ran, rfl⟩ := Option.map_eq_some_iff.mp taken
    exact inv.handled ran kept (underLock_rows_of_kept fun _ _ writing => writing.transcriptionJobTimeoutChecker jobID)

end RowsInvariant

/-! ### Runs -/

def JobRunStep.env? : JobRunStep → Option Env
  | .operation step => step.env?
  | .start env _ _ | .stop env _ _ | .returned env _ _ _ _ | .status env _ _ _ | .recTimeout env _ _
  | .trTimeout env _ _ => some env

/-- Every store operation of the step succeeds. -/
structure StoreSucceeds (runs : RecordingRuns) (step : JobRunStep) : Prop where
  works : ∀ env, step.env? = some env → env.StoreWorks
  serves : ∀ operation, step = .operation operation → StoreServes runs.ops (.operation operation)

/-- Captions are started for calls that have none. -/
def CaptionsIdle (runs : RecordingRuns) (step : JobRunStep) : Prop :=
  ∀ cs, runs.StartsCaptions cs step → cs.inProgress .captioning = false

/-- The jobs that are loaded for a call are all of its jobs that have not ended. -/
structure Store.ShowsJobs (store : Store) : Prop where
  single : store.OneOpen
  shown : ∀ row ∈ store.jobs, row.endAt = 0 → store.activeCallJobs row.callID row.type = some row

theorem Store.OneOpen.showsJobs {store : Store} (one : store.OneOpen) : store.ShowsJobs := by
  refine ⟨one, fun row member unended => ?_⟩
  cases found : store.activeCallJobs row.callID row.type with
  | none =>
    have none := List.firstBy_eq_none_iff.mp found
    have listed : row ∈ store.jobs.rows.filter fun job => job.callID = row.callID ∧ job.endAt = 0 ∧ job.type = row.type :=
      List.mem_filter.mpr ⟨member, by simp [unended]⟩
    rw [none] at listed
    cases listed
  | some job =>
    obtain ⟨jobMember, ofCall, jobUnended, typed⟩ := Store.activeCallJobs_eq_some found
    rw [KeyedTable.eq_of_key_eq jobMember member (one job jobMember row member ofCall typed jobUnended unended)]

/-- Only one row of a type is open, and batches hold what the store says of the rows. -/
structure SingleJobs (runs : RecordingRuns) : Prop where
  rows : RowsInvariant runs.ops
  single : runs.ops.world.store.OneOpen

theorem SingleJobs.step {runs after : RecordingRuns} {label : JobRunStep} (inv : SingleJobs runs)
    (serves : StoreSucceeds runs label) (idle : CaptionsIdle runs label) (taken : runs.next? label = some after) :
    SingleJobs after := by
  obtain ⟨rows, change⟩ := inv.rows.step serves.serves taken
  refine ⟨rows, ?_⟩
  cases change with
  | kept opens => exact opens.oneOpen inv.single fun type member => absurd member List.not_mem_nil
  | opened loads opens =>
    obtain ⟨types, opens, idles⟩ := opens
    refine opens.oneOpen inv.single fun type member => loads.idle ?_
    rcases idles type member with free | ⟨rfl, starts⟩
    · exact free
    · exact idle _ starts

/-- The environment of a server with live captions. -/
def Env.captioning (now : Instant) (newID : String) : Env :=
  { Env.quiet now newID with
    config :=
      { defaultEnabled := some true, enableRecordings := some true, enableTranscriptions := some true,
        enableLiveCaptions := some true } }

/-- The job service answers for the recording and the transcription that Alice's call starts. -/
def aliceIsCaptioned : List JobRunStep := aliceRecords ++
  [.returned (.captioning 1010 "") 0 "tr" "lc" (.ok "job-1"), .returned (.captioning 1011 "") 0 "" "" (.ok "job-2")]

/-- The bot of the transcription does not join, and Alice asks for another recording. -/
def aliceRecordsAgain : List JobRunStep :=
  [.trTimeout (.captioning 1500 "") "channel" "job-2", .start (.captioning 1600 "second") "channel" "alice",
    .returned (.captioning 1610 "") 0 "tr-2" "lc-2" (.ok "job-3")]

/-- Whether the connection of a join is not in the store yet. -/
def joinsAnew (runs : RecordingRuns) : JobRunStep → Bool
  | .operation operation => joinsFree runs.ops (.operation operation)
  | _ => true

theorem storeSucceeds_of_joinsAnew {steps : List JobRunStep}
    (faultless : ∀ step ∈ steps, ∀ env, step.env? = some env → env.StoreWorks) (runs : RecordingRuns) : ∀ step ∈ steps, joinsAnew runs step = true → StoreSucceeds runs step := by
  intro step listed free
  refine ⟨faultless step listed, ?_⟩
  intro operation same
  obtain rfl := same
  refine ⟨fun env timed => faultless _ listed env timed, ?_⟩
  intro env channelID req state joins _ _
  cases joins
  simpa [joinsAnew, joinsFree] using free

/-- The condition on a step, as a check. -/
def captionsIdle (runs : RecordingRuns) : JobRunStep → Bool
  | .returned env index _ _ _ =>
    (runs.starts[index]?).all fun start =>
      match (lockCallReturnState env start.channelID runs.ops.world).1, start.phase with
      | .ok (some cs), .recording _ => !cs.inProgress .captioning
      | _, _ => true
  | _ => true

theorem captionsIdle_sound {runs : RecordingRuns} {step : JobRunStep} (checked : captionsIdle runs step = true) :
    CaptionsIdle runs step := by
  intro cs starts
  cases step with
  | returned env index trID lcID result =>
    obtain ⟨channelID, userID, found, loaded, -⟩ := starts
    simpa [captionsIdle, found, loaded] using checked
  | operation | start | stop | status | recTimeout | trTimeout => cases starts

/-- The jobs that have not ended. -/
def Store.unendedRows (store : Store) : List (String × String × JobType) :=
  (store.jobs.rows.filter fun row => row.endAt = 0).map fun row => (row.id, row.callID, row.type)

theorem aliceIsCaptioned_faultless :
    ∀ step ∈ aliceIsCaptioned ++ aliceRecordsAgain, ∀ env, step.env? = some env → env.StoreWorks := by
  intro step listed env timed
  simp only [aliceIsCaptioned, aliceRecordsAgain, aliceRecords, List.cons_append, List.nil_append, List.mem_cons, List.not_mem_nil,
    or_false] at listed
  rcases listed with rfl | rfl | rfl | rfl | rfl | rfl | rfl | rfl | rfl <;> cases timed <;> exact fun _ => rfl

end Calls
