import Calls.Server.Participants

/-! Which rows of jobs are open. A request writes to the rows of its own call only, and
opens none but those of the jobs it starts. -/

set_option autoImplicit false

namespace Calls

open LockedHandler Command

namespace Store

/-- There is an open row of the job, told by what no update changes. -/
def HasOpen (store : Store) (job : CallJob) : Prop := ∃ old ∈ store.jobs, old.identity = job.identity ∧ old.endAt = 0

/-- A call has at most one open row of each type. -/
def OneOpen (store : Store) : Prop :=
  ∀ row ∈ store.jobs, ∀ other ∈ store.jobs, row.callID = other.callID → row.type = other.type → row.endAt = 0 →
    other.endAt = 0 → row.id = other.id

/-- What is done to the rows of one call: of the given types one row each may be opened,
and the other open rows were open before. -/
structure OpensRows (callID : String) (types : List JobType) (before after : Store) : Prop where
  others : ∀ job ∈ before.jobsApartFromBots, job.callID ≠ callID → job ∈ after.jobsApartFromBots
  listed : ∀ identity ∈ before.jobIdentities, identity ∈ after.jobIdentities
  opens : ∀ row ∈ after.jobs, row.endAt = 0 → before.HasOpen row ∨ (row.callID = callID ∧ row.type ∈ types)
  single : ∀ row ∈ after.jobs, ∀ other ∈ after.jobs, row.endAt = 0 → other.endAt = 0 → ¬ before.HasOpen row →
    ¬ before.HasOpen other → row.type = other.type → row.id = other.id

theorem mem_jobsApartFromBots {store : Store} {job : CallJob} :
    job ∈ store.jobsApartFromBots ↔ ∃ row ∈ store.jobs, row.withBot "" = job := List.mem_map

theorem mem_jobIdentities {store : Store} {identity : String × String × JobType × String × Int} :
    identity ∈ store.jobIdentities ↔ ∃ row ∈ store.jobs, row.identity = identity := List.mem_map

theorem identity_of_id {store : Store} {job row : CallJob} (listed : job.identity ∈ store.jobIdentities)
    (member : row ∈ store.jobs) (named : row.id = job.id) : row.identity = job.identity := by
  obtain ⟨own, ownMember, same⟩ := mem_jobIdentities.mp listed
  have sameID : own.id = job.id := congrArg Prod.fst same
  rw [KeyedTable.eq_of_key_eq member ownMember (named.trans sameID.symm), same]

theorem HasOpen.congr {store : Store} {job other : CallJob} (opened : store.HasOpen job)
    (same : other.identity = job.identity) : store.HasOpen other := by
  obtain ⟨old, member, identity, unended⟩ := opened
  exact ⟨old, member, identity.trans same.symm, unended⟩

theorem HasOpen.of_mem {store : Store} {row : CallJob} (member : row ∈ store.jobs) (unended : row.endAt = 0) :
    store.HasOpen row := ⟨row, member, rfl, unended⟩

namespace OpensRows

variable {callID : String} {types : List JobType} {before store : Store} {job : CallJob}

theorem refl (callID : String) (types : List JobType) (store : Store) : OpensRows callID types store store where
  others _ member _ := member
  listed _ member := member
  opens _ member unended := .inl (.of_mem member unended)
  single _ member _ _ unended _ closed := absurd (.of_mem member unended) closed

theorem congr {after : Store} (rows : OpensRows callID types before store) (same : after.jobs = store.jobs) :
    OpensRows callID types before after := by
  obtain ⟨calls, sessions, jobs⟩ := after
  cases same
  exact ⟨rows.others, rows.listed, rows.opens, rows.single⟩

theorem mono {more : List JobType} (rows : OpensRows callID types before store) (sub : types ⊆ more) :
    OpensRows callID more before store where
  others := rows.others
  listed := rows.listed
  opens row member unended := (rows.opens row member unended).imp_right fun opened => ⟨opened.1, sub opened.2⟩
  single := rows.single

/-- A job of the call is saved that has ended, or whose row was open before. -/
theorem saved (rows : OpensRows callID types before store) (ofCall : job.callID = callID)
    (listed : job.identity ∈ before.jobIdentities) (may : job.endAt = 0 → before.HasOpen job) :
    OpensRows callID types before (store.saveJob job) := by
  have own {row : CallJob} (member : row ∈ store.jobs) (named : row.id = job.id) : row.identity = job.identity :=
    identity_of_id (rows.listed _ listed) member named
  -- An open row is one of those that were not written, or it was open before.
  have cases_ {row : CallJob} (member : row ∈ (store.saveJob job).jobs) (unended : row.endAt = 0) :
      row ∈ store.jobs ∨ before.HasOpen row := by
    rcases mem_saveJob.mp member with ⟨kept, -⟩ | ⟨previous, old, named, rfl⟩
    · exact .inl kept
    · have same : (previous.updatedFrom job).identity = job.identity := (own old named :)
      exact .inr ((may unended).congr same)
  refine ⟨fun other member elsewhere => ?_, fun identity member => ?_, fun row member unended => ?_,
    fun row member other otherMember unended otherUnended closed otherClosed => ?_⟩
  · obtain ⟨row, stored, rfl⟩ := mem_jobsApartFromBots.mp (rows.others other member elsewhere)
    refine mem_jobsApartFromBots.mpr ⟨row, mem_saveJob.mpr (.inl ⟨stored, fun named => elsewhere ?_⟩), rfl⟩
    have same : row.callID = job.callID := congrArg (·.2.1) (own stored named)
    exact same.trans ofCall
  · rw [saveJob_jobIdentities]
    exact rows.listed identity member
  · exact (cases_ member unended).elim (fun kept => rows.opens row kept unended) .inl
  · exact rows.single row ((cases_ member unended).resolve_right closed) other
      ((cases_ otherMember otherUnended).resolve_right otherClosed) unended otherUnended closed otherClosed

theorem created {jobs : KeyedTable CallJob.id} (rows : OpensRows callID types before store)
    (inserted : store.jobs.insert? job = some jobs) (ofCall : job.callID = callID) (first : job.type ∉ types) :
    OpensRows callID (job.type :: types) before { store with jobs } := by
  have cases_ {row : CallJob} (member : row ∈ jobs) : row ∈ store.jobs ∨ row = job :=
    (KeyedTable.mem_insert? inserted).mp member
  have kept {row : CallJob} (member : row ∈ store.jobs) : row ∈ jobs := (KeyedTable.mem_insert? inserted).mpr (.inl member)
  refine ⟨fun other member elsewhere => ?_, fun identity member => ?_, fun row member unended => ?_,
    fun row member other otherMember unended otherUnended closed otherClosed same => ?_⟩
  · obtain ⟨row, stored, named⟩ := mem_jobsApartFromBots.mp (rows.others other member elsewhere)
    exact mem_jobsApartFromBots.mpr ⟨row, kept stored, named⟩
  · obtain ⟨row, stored, named⟩ := mem_jobIdentities.mp (rows.listed identity member)
    exact mem_jobIdentities.mpr ⟨row, kept stored, named⟩
  · rcases cases_ member with old | rfl
    · exact (rows.opens row old unended).imp_right fun opened => ⟨opened.1, List.mem_cons_of_mem _ opened.2⟩
    · exact .inr ⟨ofCall, List.mem_cons_self⟩
  · have typed {row : CallJob} (old : row ∈ store.jobs) (unended : row.endAt = 0) (closed : ¬ before.HasOpen row) :
        row.type ∈ types := ((rows.opens row old unended).resolve_left closed).2
    obtain old | rfl := cases_ member <;> obtain otherOld | rfl := cases_ otherMember
    · exact rows.single row old other otherOld unended otherUnended closed otherClosed same
    · exact absurd (same ▸ typed old unended closed) first
    · exact absurd (same ▸ typed otherOld otherUnended otherClosed) first
    · rfl

/-- Only one row of a type is open after it where none of the types that are opened was open before. -/
theorem oneOpen (rows : OpensRows callID types before store) (one : before.OneOpen)
    (idle : ∀ type ∈ types, ∀ row ∈ before.jobs, row.callID = callID → row.type = type → row.endAt ≠ 0) : store.OneOpen := by
  have apart {row other : CallJob} (member : row ∈ store.jobs) (unended : row.endAt = 0) (closed : ¬ before.HasOpen row)
      (opened : before.HasOpen other) (sameCall : row.callID = other.callID) (sameType : row.type = other.type) : False := by
    obtain ⟨ofCall, typed⟩ := (rows.opens row member unended).resolve_left closed
    obtain ⟨old, oldMember, same, oldUnended⟩ := opened
    have oldCall : old.callID = other.callID := congrArg (·.2.1) same
    have oldType : old.type = other.type := congrArg (·.2.2.1) same
    exact idle row.type typed old oldMember (oldCall.trans (sameCall.symm.trans ofCall)) (oldType.trans sameType.symm) oldUnended
  intro row member other otherMember sameCall sameType unended otherUnended
  by_cases opened : before.HasOpen row <;> by_cases otherOpened : before.HasOpen other
  · obtain ⟨old, oldMember, same, oldUnended⟩ := opened
    obtain ⟨otherOld, otherOldMember, otherSame, otherOldUnended⟩ := otherOpened
    simp only [CallJob.identity, Prod.mk.injEq] at same otherSame
    rw [← same.1, ← otherSame.1]
    refine one old oldMember otherOld otherOldMember ?_ ?_ oldUnended otherOldUnended
    · rw [same.2.1, otherSame.2.1, sameCall]
    · rw [same.2.2.1, otherSame.2.2.1, sameType]
  · exact (apart otherMember otherUnended otherOpened opened sameCall.symm sameType.symm).elim
  · exact (apart member unended opened otherOpened sameCall sameType).elim
  · exact rows.single row member other otherMember unended otherUnended opened otherOpened sameType

end OpensRows

end Store

/-! ### Handlers of jobs -/

/-- A job of the call that there is a row of. -/
def CallJob.OfCall (store : Store) (callID : String) (job : CallJob) : Prop :=
  job.callID = callID ∧ job.identity ∈ store.jobIdentities

/-- A job of the call whose row is open. -/
def CallJob.OpenOfCall (store : Store) (callID : String) (job : CallJob) : Prop := job.callID = callID ∧ store.HasOpen job

theorem CallJob.OfCall.congr {store : Store} {callID : String} {job other : CallJob} (own : job.OfCall store callID)
    (same : other.identity = job.identity) : other.OfCall store callID :=
  ⟨(congrArg (·.2.1) same).trans own.1, same ▸ own.2⟩

theorem CallJob.OpenOfCall.congr {store : Store} {callID : String} {job other : CallJob} (own : job.OpenOfCall store callID)
    (same : other.identity = job.identity) : other.OpenOfCall store callID :=
  ⟨(congrArg (·.2.1) same).trans own.1, own.2.congr same⟩

theorem CallJob.OpenOfCall.listed {store : Store} {callID : String} {job : CallJob} (own : job.OpenOfCall store callID) :
    job.identity ∈ store.jobIdentities := by
  obtain ⟨-, old, member, same, -⟩ := own
  exact Store.mem_jobIdentities.mpr ⟨old, member, same⟩

/-- What a handler that works on a call keeps: the jobs in memory are among those it may hold. -/
structure RowsHeld (held : CallJob → Prop) (callID : String) (before : Store) (locked : LockedCall) : Prop where
  memory : ∀ type job, locked.state.job? type = some job → held job
  rows : Store.OpensRows callID [] before locked.world.store

namespace RowsHeld

variable {env : Env} {channelID callID : String} {before : Store} {held : CallJob → Prop} {locked : LockedCall} {job : CallJob}

theorem withJob (kept : RowsHeld held callID before locked) (own : held job) (type : JobType) :
    RowsHeld held callID before { locked with state := locked.state.withJob job type } := by
  refine ⟨fun other found same => ?_, kept.rows⟩
  rw [CallState.job?_withJob] at same
  split at same
  · cases same
    exact own
  · exact kept.memory other found same

theorem save (kept : RowsHeld held callID before locked) (ofCall : job.callID = callID)
    (listed : job.identity ∈ before.jobIdentities) (may : job.endAt = 0 → before.HasOpen job) :
    (onStore (Store.updateCallJob env.faults job)).wp (fun _ after => RowsHeld held callID before after) locked := by
  rw [onStore, onWorld, wp_zoom, Handler.onStore, wp_zoom]
  exact Store.wp_updateCallJob (fun _ => kept) fun _ _ => ⟨kept.memory, kept.rows.saved ofCall listed may⟩

theorem stopJob (jobID : String) : Maintains (RowsHeld held callID before) (onWorld (stopJob env channelID jobID env.botID)) := by
  have same : Preserves World.store (Calls.stopJob env channelID jobID env.botID) :=
    fun _ => stopJob_maintains (.modify fun _ same => same)
  exact fun locked kept => ⟨kept.memory, kept.rows.congr (congrArg Store.jobs (same.run locked.world))⟩

/-- Handlers that end jobs keep it with all jobs of the call that have a row. -/
theorem keptByEnding : KeptByEnding env channelID (CallJob.OfCall before callID)
    (RowsHeld (CallJob.OfCall before callID) callID before) where
  held_of _ kept := kept.memory
  congr _ _ own same := own.congr same
  memory _ type own _ kept := kept.withJob own type
  ends _ own ended _ kept := kept.save own.1 own.2 fun unended => absurd unended ended
  tell _ _ kept := ⟨kept.memory, kept.rows⟩
  stop jobID := stopJob jobID

/-- All handlers keep it with the jobs of the call whose rows are open. -/
theorem keptByWriting : KeptByWriting env channelID (CallJob.OpenOfCall before callID)
    (RowsHeld (CallJob.OpenOfCall before callID) callID before) where
  held_of _ kept := kept.memory
  congr _ _ own same := own.congr same
  memory _ type own _ kept := kept.withJob own type
  ends _ own _ _ kept := kept.save own.1 own.listed fun _ => own.2
  tell _ _ kept := ⟨kept.memory, kept.rows⟩
  stop jobID := stopJob jobID
  writes _ own _ kept := kept.save own.1 own.listed fun _ => own.2

end RowsHeld

section
variable {env : Env} {channelID : String} {before : Store} {cs : CallState}

/-- The jobs of a state that has just been loaded are those of its call whose rows are open. -/
theorem Store.Loads.rowsHeld {world : World} (loads : world.store.Loads channelID (some cs)) :
    RowsHeld (CallJob.OpenOfCall world.store cs.call.id) cs.call.id world.store ⟨world, cs⟩ := by
  refine ⟨fun type job held => ?_, .refl _ _ _⟩
  have found := loads.2.2 type
  rw [show cs.job? type = some job from held] at found
  obtain ⟨member, ofCall, unended, -⟩ := Store.activeCallJobs_eq_some found.symm
  exact ⟨ofCall, .of_mem member unended⟩

/-- A call whose state has no job of a type in progress has no open row of that type. -/
theorem Store.Loads.idle {type : JobType} (loads : before.Loads channelID (some cs)) (idle : cs.inProgress type = false) :
    ∀ row ∈ before.jobs, row.callID = cs.call.id → row.type = type → row.endAt ≠ 0 := by
  intro row member ofCall typed
  exact loads.ended idle (row.withBot "") (Store.mem_jobsOf.mpr ⟨row, member, ofCall, rfl⟩) typed

/-! ### New jobs -/

theorem createCallJob_rows {callID : String} {types : List JobType} {job : CallJob} {locked : LockedCall}
    (rows : before.OpensRows callID types locked.world.store) (ofCall : job.callID = callID) (first : job.type ∉ types) :
    (onStore (Store.createCallJob env.faults job)).wp (fun _ after => after.state = locked.state ∧
      before.OpensRows callID (job.type :: types) after.world.store) locked := by
  rw [onStore, onWorld, wp_zoom, Handler.onStore, wp_zoom]
  exact Store.wp_createCallJob (fun _ _ => ⟨rfl, rows.mono (List.subset_cons_self _ _)⟩) fun jobs _ inserted =>
    ⟨rfl, rows.created inserted ofCall first⟩

/-- What a request may open: rows of types of which no job is in progress. -/
def OpensIdle (callID : String) (idle : JobType → Prop) (before after : Store) : Prop :=
  ∃ types, before.OpensRows callID types after ∧ ∀ type ∈ types, idle type

theorem OpensIdle.none {callID : String} {idle : JobType → Prop} {after : Store} (rows : before.OpensRows callID [] after) :
    OpensIdle callID idle before after := ⟨[], rows, fun _ member => absurd member List.not_mem_nil⟩

theorem OpensIdle.mono {callID : String} {idle weaker : JobType → Prop} {after : Store}
    (opened : OpensIdle callID idle before after) (imp : ∀ type, idle type → weaker type) : OpensIdle callID weaker before after := by
  obtain ⟨types, rows, idles⟩ := opened
  exact ⟨types, rows, fun type member => imp type (idles type member)⟩

theorem beginRecordingJob_rows {locked : LockedCall} (userID : String)
    (rows : before.OpensRows locked.state.call.id [] locked.world.store) :
    (beginRecordingJob env channelID userID).wp (fun _ after => OpensIdle locked.state.call.id
      (fun type => locked.state.inProgress type = false) before after.world.store) locked := by
  unfold beginRecordingJob
  rw [wp_bind, wp_getState, andThen_ok, wp_bind, wp_throwIf]
  refine ⟨fun _ => .none rows, fun running => ?_⟩
  have idle : locked.state.inProgress .recording = false := by simpa using running
  rw [andThen_ok, wp_bind, wp_mapError]
  refine wp_mono (createCallJob_rows rows rfl List.not_mem_nil) ?_
  have recording {after : Store} (opened : before.OpensRows locked.state.call.id [.recording] after) :
      OpensIdle locked.state.call.id (fun type => locked.state.inProgress type = false) before after := by
    refine ⟨_, opened, fun type member => ?_⟩
    rw [List.mem_singleton.mp member]
    exact idle
  rintro (err | value) after ⟨-, opened⟩ <;> exact recording opened

/-- Which rows the start of a transcription opens. -/
def TranscriptionOpens (env : Env) (cs : CallState) (type : JobType) : Prop :=
  cs.inProgress .transcribing = false ∧
    (type = .transcribing ∨ type = .captioning ∧ env.config.liveCaptionsEnabled = true)

theorem beginTranscribingJob_rows {locked : LockedCall} (userID trID lcID : String)
    (rows : before.OpensRows locked.state.call.id [] locked.world.store) :
    (beginTranscribingJob env channelID userID trID lcID).wp (fun _ after =>
      OpensIdle locked.state.call.id (TranscriptionOpens env locked.state) before after.world.store) locked := by
  unfold beginTranscribingJob
  rw [wp_bind, wp_getState, andThen_ok, wp_bind, wp_throwIf]
  refine ⟨fun _ => .none rows, fun running => ?_⟩
  rw [andThen_ok, wp_bind, wp_throwIf]
  refine ⟨fun _ => .none rows, fun _ => ?_⟩
  have idle : locked.state.inProgress .transcribing = false := by simpa using running
  rw [andThen_ok, wp_bind, wp_mapError]
  refine wp_mono (createCallJob_rows rows rfl List.not_mem_nil) ?_
  have transcribing {after : Store} (opened : before.OpensRows locked.state.call.id [.transcribing] after) :
      OpensIdle locked.state.call.id (TranscriptionOpens env locked.state) before after :=
    ⟨_, opened, fun type member => ⟨idle, .inl (List.mem_singleton.mp member)⟩⟩
  intro either middle facts
  obtain ⟨-, opened⟩ := facts
  rcases either with err | value
  · exact transcribing opened
  · rw [Except.mapError, andThen_ok, wp_bind, wp_when]
    refine ⟨fun enabled => ?_, fun _ => transcribing opened⟩
    rw [wp_mapError]
    refine wp_mono (createCallJob_rows opened rfl (by simp [newCallJob])) ?_
    have both {after : Store} (opened : before.OpensRows locked.state.call.id [.captioning, .transcribing] after) :
        OpensIdle locked.state.call.id (TranscriptionOpens env locked.state) before after := by
      refine ⟨_, opened, fun type member => ⟨idle, ?_⟩⟩
      rcases List.mem_cons.mp member with rfl | member
      · exact .inr ⟨rfl, enabled⟩
      · exact .inl (List.mem_singleton.mp member)
    rintro (err | value) after ⟨-, opened⟩ <;> exact both opened

/-- The captions that an answer for a recording starts, together with its transcription. -/
def StartsCaptions (env : Env) (cs : CallState) (result : RunJobResult) : Prop :=
  env.config.liveCaptionsEnabled = true ∧ (∃ jobID, result = .ok jobID) ∧
    (∃ recState, cs.recording = some recState ∧ recState.props.jobID = "") ∧ cs.inProgress .transcribing = false

theorem relayError_store (type : JobType) (err : String) :
    Preserves (fun locked => locked.world.store) (relayError env channelID type err) := by
  refine .of_wp fun locked => ?_
  unfold relayError
  rw [wp_bind, wp_getState, andThen_ok]
  cases locked.state.job? type <;> rfl

/-- The answer for a recording opens the rows of the jobs that go with it. -/
theorem continueRecordingJob_rows {world : World} (loads : world.store.Loads channelID (some cs)) (userID trID lcID : String)
    (result : RunJobResult) :
    (continueRecordingJob env channelID userID trID lcID result).wp (fun _ after => OpensIdle cs.call.id
      (fun type => cs.inProgress type = false ∨ (type = .captioning ∧ StartsCaptions env cs result))
      world.store after.world.store) ⟨world, cs⟩ := by
  have kept : KeptByWriting env channelID _ (RowsHeld (CallJob.OpenOfCall world.store cs.call.id) cs.call.id world.store) :=
    RowsHeld.keptByWriting
  have resumed : (resumeRecordingJob env channelID result).wp (fun _ after =>
      RowsHeld (CallJob.OpenOfCall world.store cs.call.id) cs.call.id world.store after) ⟨world, cs⟩ :=
    kept.resumeRecordingJob result ⟨world, cs⟩ loads.rowsHeld
  unfold continueRecordingJob
  rw [wp_bind]
  refine wp_mono (wp_and resumed (resumeRecordingJob_ok result _)) ?_
  intro either middle facts
  obtain ⟨held, ended⟩ := facts
  rcases either with err | recState
  · exact .none held.rows
  · obtain ⟨state, unanswered, answered⟩ := ended recState rfl
    have call : middle.state.call.id = cs.call.id := by rw [state, withJob_call]
    have transcribing : middle.state.inProgress .transcribing = cs.inProgress .transcribing := by rw [state]; rfl
    rw [andThen_ok, wp_ite]
    refine ⟨fun _ => ?_, fun _ => .none held.rows⟩
    rw [wp_onError, wp_bind, wp_mapError]
    refine wp_mono (beginTranscribingJob_rows userID trID lcID (call ▸ held.rows)) ?_
    intro began after opened
    have opened : OpensIdle cs.call.id
        (fun type => cs.inProgress type = false ∨ (type = .captioning ∧ StartsCaptions env cs result)) world.store
        after.world.store := by
      refine (call ▸ opened).mono fun type opens => ?_
      obtain ⟨idle, rfl | ⟨rfl, enabled⟩⟩ := opens
      · exact .inl (transcribing.symm.trans idle)
      · exact .inr ⟨rfl, enabled, answered, unanswered, transcribing.symm.trans idle⟩
    cases began with
    | ok trState => exact opened
    | error err =>
      have same : (relayError env channelID .recording ("failed to start transcribing job: " ++ err) after).2.world.store =
          after.world.store := (relayError_store .recording _).run after
      rw [← same] at opened
      exact opened

/-- What a request under the lock of a channel makes of the rows: those of the call it has loaded. -/
inductive RequestRows (channelID : String) (idle : CallState → JobType → Prop) (before after : Store) : Prop where
  | nothing : after.jobs = before.jobs → RequestRows channelID idle before after
  | ran {cs : CallState} : before.Loads channelID (some cs) → OpensIdle cs.call.id (idle cs) before after →
      RequestRows channelID idle before after

theorem RequestRows.mono {idle weaker : CallState → JobType → Prop} {after : Store}
    (rows : RequestRows channelID idle before after) (imp : ∀ cs type, idle cs type → weaker cs type) : RequestRows channelID weaker before after := by
  cases rows with
  | nothing same => exact .nothing same
  | ran loads opens => exact .ran loads (opens.mono (imp _))

theorem underLock_rows {α : Type} {command : LockedHandler α} {idle : CallState → JobType → Prop} {world : World}
    (opens : ∀ cs, (lockCallReturnState env channelID world).1 = .ok (some cs) → world.store.Loads channelID (some cs) →
      OpensIdle cs.call.id (idle cs) world.store (command ⟨world, cs⟩).2.world.store) :
    RequestRows channelID idle world.store (underLock env channelID command world).2.store := by
  rcases underLock_cases env channelID command world with ⟨err, ran⟩ | ⟨cs, loaded, loads, ran⟩
  · rw [ran]
    exact .nothing rfl
  · rw [ran]
    exact .ran loads (opens cs loaded loads)

/-- A request that opens no row. -/
theorem underLock_rows_of_kept {α : Type} {command : LockedHandler α} {idle : CallState → JobType → Prop} {world : World}
    (keeps : ∀ held holds, KeptByWriting env channelID held holds → Maintains holds command) :
    RequestRows channelID idle world.store (underLock env channelID command world).2.store :=
  underLock_rows fun _ _ loads => .none (keeps _ _ RowsHeld.keptByWriting _ loads.rowsHeld).rows

theorem startRecording_rows (userID : String) (world : World) :
    RequestRows channelID (fun cs type => cs.inProgress type = false) world.store
      (startRecording env channelID userID world).2.store := by
  unfold startRecording
  rw [bind_pure_run]
  refine underLock_rows fun cs _ loads => ?_
  have began : (do checkHost userID; beginRecordingJob env channelID userID : LockedHandler CallJob).wp (fun _ after =>
      OpensIdle cs.call.id (fun type => cs.inProgress type = false) world.store after.world.store) ⟨world, cs⟩ := by
    rw [wp_bind]
    refine checkHost_wp (fun _ => .none (.refl _ _ _)) ?_
    rw [andThen_ok]
    exact @beginRecordingJob_rows env channelID world.store ⟨world, cs⟩ userID (.refl _ _ _)
  exact began

theorem finishRecordingJob_store (ended : Except String Unit) :
    Preserves (fun locked => locked.world.store) (finishRecordingJob env channelID ended) := by
  cases ended with
  | error err => exact relayError_store _ _
  | ok value =>
    refine .of_wp fun locked => ?_
    unfold finishRecordingJob
    rw [wp_bind, wp_getState, andThen_ok]
    cases locked.state.recording <;> rfl

theorem endRecordingStart_rows (liveCaptionsOn : Bool) (result : RunJobResult) (outer : CallState)
    (idle : CallState → JobType → Prop) (world : World) :
    RequestRows channelID idle world.store (endRecordingStart env channelID liveCaptionsOn result outer world).2.store := by
  have finishes (middle : World) (ended : Except String Unit) :
      ((finishRecordingJob env channelID ended).runOn outer middle).2.store = middle.store :=
    (finishRecordingJob_store ended).run ⟨middle, outer⟩
  change Command.wp _ (fun _ after => RequestRows channelID idle world.store after.store) world
  unfold endRecordingStart
  rw [wp_bind]
  refine wp_mono (lockCallReturnState_spec env channelID world) ?_
  intro _ middle facts
  obtain ⟨rfl, ⟨⟨err, rfl⟩, -⟩ | ⟨state, rfl, loads, -⟩⟩ := facts
  · exact .nothing rfl
  · rw [andThen_ok, wp_bind, wp_attempt]
    cases state with
    | none => exact .nothing (congrArg Store.jobs (finishes middle _))
    | some cs =>
      have writing : KeptByWriting env channelID _ (RowsHeld (CallJob.OpenOfCall middle.store cs.call.id) cs.call.id middle.store) :=
        RowsHeld.keptByWriting
      have kept := writing.resumeTranscribingJob liveCaptionsOn result ⟨middle, cs⟩ loads.rowsHeld
      refine .ran loads ?_
      rw [finishes]
      exact .none kept.rows

/-- The answer of the job service for a start: `starts` are the states it starts captions on. -/
theorem RecordingStart.answered_rows (start : RecordingStart) (trID lcID : String) (result : RunJobResult) (world : World)
    {starts : CallState → Prop}
    (started : ∀ userID cs, start.phase = .recording userID → (lockCallReturnState env start.channelID world).1 = .ok (some cs) →
      StartsCaptions env cs result → starts cs) :
    RequestRows start.channelID (fun cs type => cs.inProgress type = false ∨ (type = .captioning ∧ starts cs)) world.store
      (start.answered env trID lcID result world).2.store := by
  obtain ⟨channelID, phase⟩ := start
  cases phase with
  | recording userID =>
    refine underLock_rows fun cs loaded loads => ?_
    have continued := @continueRecordingJob_rows env channelID cs world loads userID trID lcID result
    unfold Command.wp at continued
    rw [bind_run]
    revert continued
    generalize continueRecordingJob env channelID userID trID lcID result ⟨world, cs⟩ = outcome
    obtain ⟨_ | _, after⟩ := outcome <;>
      exact fun opened => opened.mono fun type idle => idle.imp_right fun both => ⟨both.1, started userID cs rfl loaded both.2⟩
  | transcription liveCaptionsOn outer =>
    unfold answered
    dsimp only
    rw [bind_pure_run]
    exact endRecordingStart_rows liveCaptionsOn result outer _ world

end

end Calls
