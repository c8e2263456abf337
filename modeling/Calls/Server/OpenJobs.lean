import Calls.Server.JobsProperties

/-! Which jobs are still open in the store after a handler has run, when nothing
that it asks the store for fails. -/

set_option autoImplicit false

namespace Calls

open LockedHandler Command

namespace Store

/-- The IDs of the un-ended jobs of a call. -/
def openJobs (store : Store) (callID : String) : List String :=
  (store.jobs.rows.filter fun job => job.callID = callID ∧ job.endAt = 0).map CallJob.id

/-- Of the open jobs those with the given IDs are gone, and no others. -/
def Closes (ids : List String) (before after : Store) : Prop :=
  ∀ callID, after.openJobs callID = (before.openJobs callID).filter fun id => id ∉ ids

theorem mem_openJobs {store : Store} {callID id : String} :
    id ∈ store.openJobs callID ↔ ∃ job ∈ store.jobs, job.callID = callID ∧ job.endAt = 0 ∧ job.id = id := by
  simp [openJobs, KeyedTable.mem_def, and_assoc]

theorem Closes.of_jobs_eq {before after : Store} (same : after.jobs = before.jobs) : Closes [] before after := by
  intro callID
  simp [openJobs, same]

theorem Closes.trans {first second : List String} {before middle after : Store}
    (left : Closes first before middle) (right : Closes second middle after) :
    Closes (first ++ second) before after := by
  intro callID
  rw [right, left, List.filter_filter]
  apply List.filter_congr
  intro id _
  simp [Bool.and_comm]

theorem Closes.congr {ids others : List String} {before after : Store} (closes : Closes ids before after)
    (same : ∀ id, id ∈ ids ↔ id ∈ others) : Closes others before after := by
  intro callID
  rw [closes]
  simp only [same]

theorem Closes.mem_openJobs {ids : List String} {before after : Store} (closes : Closes ids before after)
    {callID id : String} : id ∈ after.openJobs callID ↔ id ∈ before.openJobs callID ∧ id ∉ ids := by
  rw [closes]
  simp

theorem closes_saveJob (store : Store) {job : CallJob} (ended : job.endAt ≠ 0) :
    Closes [job.id] store (store.saveJob job) := by
  intro callID
  dsimp only [openJobs, saveJob, KeyedTable.modify]
  induction store.jobs.rows with
  | nil => rfl
  | cons row rows ih =>
    by_cases written : row.id = job.id
    · by_cases counted : row.callID = callID ∧ row.endAt = 0 <;>
        simp_all [CallJob.updatedFrom]
    · by_cases counted : row.callID = callID ∧ row.endAt = 0 <;> simp_all

end Store

namespace CallState

/-- The IDs of the jobs of the given types that the state holds. -/
def jobIDs (cs : CallState) (types : List JobType) : List String :=
  types.filterMap fun type => (cs.job? type).map CallJob.id

@[simp] theorem jobIDs_nil (cs : CallState) : cs.jobIDs [] = [] := rfl

theorem jobIDs_append (cs : CallState) (left right : List JobType) :
    cs.jobIDs (left ++ right) = cs.jobIDs left ++ cs.jobIDs right := List.filterMap_append

theorem jobIDs_of_some {cs : CallState} {type : JobType} {job : CallJob} (held : cs.job? type = some job) :
    cs.jobIDs [type] = [job.id] := by simp [jobIDs, held]

theorem mem_jobIDs {cs : CallState} {types : List JobType} {id : String} :
    id ∈ cs.jobIDs types ↔ ∃ type ∈ types, ∃ job, cs.job? type = some job ∧ job.id = id := by
  simp [jobIDs]

theorem inProgress_iff {cs : CallState} {type : JobType} :
    cs.inProgress type = true ↔ ∃ job, cs.job? type = some job ∧ job.endAt = 0 := by
  simp [inProgress, Option.any_eq_true]

theorem endAt_ne_of_idle {cs : CallState} {type : JobType} {job : CallJob} (idle : cs.inProgress type = false)
    (held : cs.job? type = some job) : job.endAt ≠ 0 := by
  intro unended
  rw [inProgress_iff.mpr ⟨job, held, unended⟩] at idle
  cases idle

theorem inProgress_withJob_ended (cs : CallState) {job : CallJob} (type other : JobType) (ended : job.endAt ≠ 0) :
    (cs.withJob job type).inProgress other = (if other = type then false else cs.inProgress other) := by
  unfold inProgress
  rw [job?_withJob]
  split
  · simp [ended]
  · rfl

end CallState

/-- A job but for the text of its error. -/
def CallJob.apartFromErr (job : CallJob) : CallJob := job.withErr ""

theorem CallJob.identity_of_apartFromErr {left right : CallJob} (same : left.apartFromErr = right.apartFromErr) :
    left.identity = right.identity := by
  have kept (job : CallJob) : job.identity = job.apartFromErr.identity := rfl
  rw [kept, same, ← kept]

theorem CallJob.endAt_of_apartFromErr {left right : CallJob} (same : left.apartFromErr = right.apartFromErr) :
    left.endAt = right.endAt := by
  have kept (job : CallJob) : job.endAt = job.apartFromErr.endAt := rfl
  rw [kept, same, ← kept]

theorem CallJob.id_of_apartFromErr {left right : CallJob} (same : left.apartFromErr = right.apartFromErr) :
    left.id = right.id := by
  have identity := CallJob.identity_of_apartFromErr same
  simp only [CallJob.identity, Prod.mk.injEq] at identity
  exact identity.1

/-- The jobs of some types are ended in memory, those of some types in the store, and no others. -/
structure JobsEnded (env : Env) (inMemory saved : List JobType) (before after : LockedCall) : Prop where
  memory : ∀ type, (after.state.job? type).map CallJob.apartFromErr =
    if type ∈ inMemory then (before.state.job? type).map fun job => (job.ended env.now).apartFromErr
    else (before.state.job? type).map CallJob.apartFromErr
  rows : Store.Closes (before.state.jobIDs saved) before.world.store after.world.store

namespace JobsEnded

variable {env : Env} {inMemory saved thenInMemory thenSaved : List JobType} {before middle after : LockedCall}

theorem refl (env : Env) (locked : LockedCall) : JobsEnded env [] [] locked locked :=
  ⟨fun _ => rfl, .of_jobs_eq rfl⟩

theorem of_same (rows : after.world.store.jobs = before.world.store.jobs)
    (memory : ∀ type, after.state.job? type = before.state.job? type) : JobsEnded env [] [] before after :=
  ⟨fun type => by simp [memory], .of_jobs_eq rows⟩

theorem congr {others rows : List JobType} (ended : JobsEnded env inMemory saved before after)
    (sameMemory : ∀ type, type ∈ inMemory ↔ type ∈ others) (sameRows : ∀ type, type ∈ saved ↔ type ∈ rows) :
    JobsEnded env others rows before after := by
  refine ⟨fun type => ?_, ended.rows.congr fun id => ?_⟩
  · rw [ended.memory]
    simp only [sameMemory]
  · simp only [CallState.mem_jobIDs, sameRows]

/-- A job is told from the one that was there before by its end and its error only. -/
theorem job?_eq_some (ended : JobsEnded env inMemory saved before after) {type : JobType} {job : CallJob}
    (held : after.state.job? type = some job) : ∃ previous, before.state.job? type = some previous ∧
      job.apartFromErr = (if type ∈ inMemory then previous.ended env.now else previous).apartFromErr := by
  have memory := ended.memory type
  rw [held] at memory
  split at memory
  · next listed =>
    obtain ⟨previous, found, same⟩ := Option.map_eq_some_iff.mp memory.symm
    exact ⟨previous, found, by rw [if_pos listed, same]⟩
  · next unlisted =>
    obtain ⟨previous, found, same⟩ := Option.map_eq_some_iff.mp memory.symm
    exact ⟨previous, found, by rw [if_neg unlisted, same]⟩

theorem job?_of_some (ended : JobsEnded env inMemory saved before after) {type : JobType} {job : CallJob}
    (held : before.state.job? type = some job) : ∃ now, after.state.job? type = some now ∧
      now.apartFromErr = (if type ∈ inMemory then job.ended env.now else job).apartFromErr := by
  have memory := ended.memory type
  rw [held] at memory
  split at memory
  · next listed =>
    rw [if_pos listed]
    exact Option.map_eq_some_iff.mp memory
  · next unlisted =>
    rw [if_neg unlisted]
    exact Option.map_eq_some_iff.mp memory

theorem job?_of_none (ended : JobsEnded env inMemory saved before after) {type : JobType}
    (absent : before.state.job? type = none) : after.state.job? type = none := by
  have memory := ended.memory type
  rw [absent] at memory
  split at memory <;> exact Option.map_eq_none_iff.mp memory

theorem jobIDs (ended : JobsEnded env inMemory saved before after) (types : List JobType) :
    after.state.jobIDs types = before.state.jobIDs types := by
  have ids (job : Option CallJob) : job.map CallJob.id = (job.map CallJob.apartFromErr).map CallJob.id := by
    cases job <;> rfl
  unfold CallState.jobIDs
  congr 1
  funext type
  rw [ids, ended.memory]
  split
  · cases before.state.job? type <;> rfl
  · exact (ids _).symm

theorem trans (left : JobsEnded env inMemory saved before middle)
    (right : JobsEnded env thenInMemory thenSaved middle after) :
    JobsEnded env (inMemory ++ thenInMemory) (saved ++ thenSaved) before after := by
  constructor
  · intro type
    have again (job : Option CallJob) : (job.map fun job => (job.ended env.now).apartFromErr) =
        (job.map CallJob.apartFromErr).map (·.ended env.now) := by
      cases job <;> rfl
    rw [right.memory, again, left.memory]
    by_cases inLeft : type ∈ inMemory <;> by_cases inRight : type ∈ thenInMemory <;>
      cases before.state.job? type <;> simp [inLeft, inRight, CallJob.ended, CallJob.apartFromErr, CallJob.withErr]
  · rw [CallState.jobIDs_append, ← left.jobIDs thenSaved]
    exact left.rows.trans right.rows

theorem inProgress (ended : JobsEnded env inMemory saved before after) (type : JobType) :
    after.state.inProgress type = if type ∈ inMemory then false else before.state.inProgress type := by
  have ends (job : Option CallJob) : job.any (fun job => job.endAt = 0) =
      (job.map CallJob.apartFromErr).any fun job => job.endAt = 0 := by
    cases job <;> rfl
  unfold CallState.inProgress
  rw [ends, ended.memory]
  split
  · cases before.state.job? type with
    | none => rfl
    | some job => simpa [CallJob.apartFromErr, CallJob.withErr] using job.ended_ne env.now
  · exact (ends _).symm

theorem jobsValid (ended : JobsEnded env inMemory saved before after) (valid : before.JobsValid) : after.JobsValid := by
  intro type job held
  obtain ⟨previous, found, same⟩ := ended.job?_eq_some held
  have kept : job.identity = previous.identity := by
    have identity := CallJob.identity_of_apartFromErr same
    split at identity <;> exact identity
  rw [CallJob.isValid_congr kept]
  exact valid type previous found

end JobsEnded

namespace LockedHandler

/-- A handler that does not fail and ends jobs of the given types, in memory and in the store. -/
def EndsJobs {α : Type} (env : Env) (inMemory saved : List JobType) (locked : LockedCall) (command : LockedHandler α) :
    Prop :=
  command.wp (fun result after => (∃ value, result = .ok value) ∧ JobsEnded env inMemory saved locked after) locked

namespace EndsJobs

variable {α β : Type} {env : Env} {inMemory saved thenInMemory thenSaved : List JobType} {locked : LockedCall}

theorem congr {command : LockedHandler α} {others rows : List JobType} (ends : EndsJobs env inMemory saved locked command)
    (sameMemory : ∀ type, type ∈ inMemory ↔ type ∈ others) (sameRows : ∀ type, type ∈ saved ↔ type ∈ rows) :
    EndsJobs env others rows locked command :=
  wp_mono ends fun _ _ effect => ⟨effect.1, effect.2.congr sameMemory sameRows⟩

theorem pure (value : α) : EndsJobs env [] [] locked (Pure.pure value) :=
  ⟨⟨value, rfl⟩, .of_same rfl fun _ => rfl⟩

theorem bind {first : LockedHandler α} {next : α → LockedHandler β} (firstEnds : EndsJobs env inMemory saved locked first)
    (nextEnds : ∀ value middle, JobsEnded env inMemory saved locked middle →
      EndsJobs env thenInMemory thenSaved middle (next value)) :
    EndsJobs env (inMemory ++ thenInMemory) (saved ++ thenSaved) locked (first >>= next) := by
  unfold EndsJobs
  rw [wp_bind]
  refine wp_mono firstEnds ?_
  intro _ middle facts
  obtain ⟨⟨value, rfl⟩, ended⟩ := facts
  rw [andThen_ok]
  exact wp_mono (nextEnds value middle ended) fun _ _ effect => ⟨effect.1, ended.trans effect.2⟩

/-- A first part that ends no job. -/
theorem quiet_bind {first : LockedHandler α} {next : α → LockedHandler β} (quiet : EndsJobs env [] [] locked first)
    (nextEnds : ∀ value middle, JobsEnded env [] [] locked middle → EndsJobs env inMemory saved middle (next value)) :
    EndsJobs env inMemory saved locked (first >>= next) := quiet.bind nextEnds

/-- A last part that ends no job. -/
theorem bind_quiet {first : LockedHandler α} {next : α → LockedHandler β}
    (firstEnds : EndsJobs env inMemory saved locked first) (quiet : ∀ value middle, EndsJobs env [] [] middle (next value)) :
    EndsJobs env inMemory saved locked (first >>= next) :=
  (firstEnds.bind fun value middle _ => quiet value middle).congr (by simp) (by simp)

theorem bind_getState {next : CallState → LockedHandler α} (ends : EndsJobs env inMemory saved locked (next locked.state)) :
    EndsJobs env inMemory saved locked (getState >>= next) := ends

theorem mapError {command : LockedHandler α} {change : String → String} (ends : EndsJobs env inMemory saved locked command) :
    EndsJobs env inMemory saved locked (command.mapError change) := by
  unfold EndsJobs
  rw [wp_mapError]
  refine wp_mono ends ?_
  intro _ after facts
  obtain ⟨⟨value, rfl⟩, ended⟩ := facts
  exact ⟨⟨value, rfl⟩, ended⟩

theorem when {condition : Prop} [Decidable condition] {command : LockedHandler Unit}
    (ends : condition → EndsJobs env inMemory saved locked command)
    (skipped : ¬ condition → JobsEnded env inMemory saved locked locked) :
    EndsJobs env inMemory saved locked (command.when condition) := by
  unfold Command.when
  split
  · next holds => exact ends holds
  · next fails => exact ⟨⟨(), rfl⟩, skipped fails⟩

theorem ifSome {value : Option α} {body : α → LockedHandler Unit}
    (ends : ∀ held, value = some held → EndsJobs env inMemory saved locked (body held))
    (absent : value = none → JobsEnded env inMemory saved locked locked) :
    EndsJobs env inMemory saved locked (Command.ifSome value body) := by
  cases value with
  | none => exact ⟨⟨(), rfl⟩, absent rfl⟩
  | some value => exact ends value rfl

end EndsJobs

/-- A handler that ends jobs of the given types, also where it fails. -/
def EndsJobsAnyhow {α : Type} (env : Env) (inMemory saved : List JobType) (locked : LockedCall)
    (command : LockedHandler α) : Prop :=
  command.wp (fun _ after => JobsEnded env inMemory saved locked after) locked

/-- A handler that ends no job and does not touch one but for its error. -/
def EndsNoJobs {α : Type} (env : Env) (command : LockedHandler α) : Prop :=
  ∀ locked, EndsJobsAnyhow env [] [] locked command

theorem EndsJobs.anyhow {α : Type} {env : Env} {inMemory saved : List JobType} {locked : LockedCall}
    {command : LockedHandler α} (ends : EndsJobs env inMemory saved locked command) :
    EndsJobsAnyhow env inMemory saved locked command := ends.2

namespace EndsJobsAnyhow

variable {α β : Type} {env : Env} {inMemory saved thenInMemory thenSaved : List JobType} {locked : LockedCall}

theorem congr {command : LockedHandler α} {others rows : List JobType}
    (ends : EndsJobsAnyhow env inMemory saved locked command)
    (sameMemory : ∀ type, type ∈ inMemory ↔ type ∈ others) (sameRows : ∀ type, type ∈ saved ↔ type ∈ rows) :
    EndsJobsAnyhow env others rows locked command := wp_mono ends fun _ _ effect => effect.congr sameMemory sameRows

theorem ignoring {command : LockedHandler α} (ends : EndsJobsAnyhow env inMemory saved locked command) :
    EndsJobs env inMemory saved locked command.ignoring := ⟨⟨(), rfl⟩, ends⟩

theorem bind_getState {next : CallState → LockedHandler α}
    (ends : EndsJobsAnyhow env inMemory saved locked (next locked.state)) :
    EndsJobsAnyhow env inMemory saved locked (getState >>= next) := ends

theorem bind {first : LockedHandler α} {next : α → LockedHandler β} (firstEnds : EndsJobs env inMemory saved locked first)
    (nextEnds : ∀ value middle, JobsEnded env inMemory saved locked middle →
      EndsJobsAnyhow env thenInMemory thenSaved middle (next value)) :
    EndsJobsAnyhow env (inMemory ++ thenInMemory) (saved ++ thenSaved) locked (first >>= next) := by
  unfold EndsJobsAnyhow
  rw [wp_bind]
  refine wp_mono firstEnds ?_
  intro _ middle facts
  obtain ⟨⟨value, rfl⟩, ended⟩ := facts
  rw [andThen_ok]
  exact wp_mono (nextEnds value middle ended) fun _ _ effect => ended.trans effect

theorem quiet_bind {first : LockedHandler α} {next : α → LockedHandler β} (quiet : EndsJobs env [] [] locked first)
    (nextEnds : ∀ value middle, JobsEnded env [] [] locked middle →
      EndsJobsAnyhow env inMemory saved middle (next value)) :
    EndsJobsAnyhow env inMemory saved locked (first >>= next) := bind quiet nextEnds

/-- What follows a check that passes. -/
theorem bind_throwIf {condition : Prop} [Decidable condition] {error : String} {next : Unit → LockedHandler α}
    (passes : ¬ condition) (ends : EndsJobsAnyhow env inMemory saved locked (next ())) :
    EndsJobsAnyhow env inMemory saved locked (Command.throwIf condition error >>= next) := by
  rw [Command.throwIf, if_neg passes]
  exact ends

theorem bind_quiet {first : LockedHandler α} {next : α → LockedHandler β}
    (firstEnds : EndsJobsAnyhow env inMemory saved locked first) (quiet : ∀ value, EndsNoJobs env (next value)) :
    EndsJobsAnyhow env inMemory saved locked (first >>= next) := by
  unfold EndsJobsAnyhow
  rw [wp_bind]
  refine wp_mono firstEnds fun result middle ended => ?_
  cases result with
  | error err => exact ended
  | ok value => exact wp_mono (quiet value middle) fun _ _ effect => (ended.trans effect).congr (by simp) (by simp)

theorem onError {command : LockedHandler α} {handler : String → LockedHandler Unit}
    (ends : EndsJobsAnyhow env inMemory saved locked command)
    (quiet : ∀ err middle, JobsEnded env inMemory saved locked middle → EndsJobsAnyhow env [] [] middle (handler err)) :
    EndsJobsAnyhow env inMemory saved locked (command.onError handler) := by
  unfold EndsJobsAnyhow
  rw [wp_onError]
  refine wp_mono ends fun result middle ended => ?_
  cases result with
  | ok value => exact ended
  | error err =>
    exact wp_mono (quiet err middle ended) fun _ _ effect => (ended.trans effect).congr (by simp) (by simp)

theorem when {condition : Prop} [Decidable condition] {command : LockedHandler Unit}
    (ends : condition → EndsJobsAnyhow env inMemory saved locked command)
    (skipped : ¬ condition → JobsEnded env inMemory saved locked locked) :
    EndsJobsAnyhow env inMemory saved locked (command.when condition) := by
  unfold Command.when
  split
  · next holds => exact ends holds
  · next fails => exact skipped fails

/-- A handler that ends jobs only where `active`, asked for at least there. -/
theorem ignoring_when {condition : Prop} [Decidable condition] {command : LockedHandler α} {active : Bool}
    {types : Bool → List JobType} (ends : EndsJobsAnyhow env (types active) (types active) locked command)
    (nothing : types false = []) (asked : active = true → condition) :
    EndsJobs env (types active) (types active) locked (command.ignoring.when condition) := by
  refine .when (fun _ => ends.ignoring) fun unasked => ?_
  cases active with
  | true => exact absurd (asked rfl) unasked
  | false =>
    rw [nothing]
    exact .refl env locked

end EndsJobsAnyhow

namespace EndsNoJobs

variable {α β : Type} {env : Env}

theorem bind {first : LockedHandler α} {next : α → LockedHandler β}
    (firstQuiet : EndsNoJobs env first) (nextQuiet : ∀ value, EndsNoJobs env (next value)) :
    EndsNoJobs env (first >>= next) := fun locked => (firstQuiet locked).bind_quiet nextQuiet

theorem pure (value : α) : EndsNoJobs env (Pure.pure value) := fun _ => (EndsJobs.pure value).anyhow

theorem mapError {command : LockedHandler α} {change : String → String} (quiet : EndsNoJobs env command) :
    EndsNoJobs env (command.mapError change) := by
  intro locked
  unfold EndsJobsAnyhow
  rw [wp_mapError]
  exact quiet locked

theorem ifSome {value : Option β} {body : β → LockedHandler Unit} (quiet : ∀ held, EndsNoJobs env (body held)) :
    EndsNoJobs env (Command.ifSome value body) := by
  cases value with
  | none => exact pure ()
  | some value => exact quiet value

theorem ignoring {command : LockedHandler α} (quiet : EndsNoJobs env command) : EndsNoJobs env command.ignoring := quiet

theorem when {condition : Prop} [Decidable condition] {command : LockedHandler Unit} (quiet : EndsNoJobs env command) :
    EndsNoJobs env (command.when condition) :=
  fun locked => .when (fun _ => quiet locked) fun _ => .refl env locked

theorem deferring {command : LockedHandler α} {last : LockedHandler Unit} (quiet : EndsNoJobs env command)
    (lastQuiet : EndsNoJobs env last) : EndsNoJobs env (command.deferring last) := by
  intro locked
  unfold EndsJobsAnyhow
  rw [wp_deferring]
  exact wp_mono (quiet locked) fun _ middle ended =>
    wp_mono (lastQuiet middle) fun _ _ effect => ended.trans effect

/-- A change of the state in memory that leaves its jobs alone. -/
theorem modifyState {change : CallState → CallState} (keeps : ∀ state type, (change state).job? type = state.job? type) :
    EndsNoJobs env (modifyState change) := fun locked => .of_same rfl (keeps locked.state)

/-- A handler that works on the world without touching the table of jobs. -/
theorem onWorld {command : Handler α} (keeps : Preserves (fun world => world.store.jobs) command) :
    EndsNoJobs env (onWorld command) :=
  fun locked => .of_same (keeps.run locked.world) fun _ => rfl

theorem publishToParticipants (channelID : String) (ev : WsEvent) :
    EndsNoJobs env (publishToParticipants env channelID ev) := fun _ => .of_same rfl fun _ => rfl

theorem publishJobState (channelID : String) (job : CallJob) :
    EndsNoJobs env (publishJobState env channelID job) := publishToParticipants channelID _

end EndsNoJobs

/-! ### Ending one job -/

section
variable {env : Env} {locked : LockedCall} {type : JobType} {job : CallJob}

theorem publishJobState_endsJobs (channelID : String) : EndsJobs env [] [] locked (publishJobState env channelID job) :=
  ⟨⟨(), rfl⟩, .of_same rfl fun _ => rfl⟩

theorem withJob_endsJobs (saved : CallJob) (held : locked.state.job? type = some job)
    (same : saved.apartFromErr = (job.ended env.now).apartFromErr) :
    EndsJobs env [type] [] locked (modifyState (·.withJob saved type)) := by
  refine ⟨⟨(), rfl⟩, fun other => ?_, .of_jobs_eq rfl⟩
  show ((locked.state.withJob saved type).job? other).map CallJob.apartFromErr = _
  rw [CallState.job?_withJob]
  by_cases here : other = type
  · rw [here, held, if_pos rfl, if_pos (List.mem_singleton_self type), Option.map_some, Option.map_some, same]
  · rw [if_neg here, if_neg (by simpa using here)]

theorem updateCallJob_endsJobs {saved : CallJob} (works : env.WritesWork) (held : locked.state.job? type = some job)
    (same : saved.id = job.id) (valid : saved.isValid = .ok ()) (ended : saved.endAt ≠ 0) :
    EndsJobs env [] [type] locked (onStore (Store.updateCallJob env.faults saved)) := by
  unfold EndsJobs
  rw [onStore, onWorld, wp_zoom, Handler.onStore, wp_zoom, wp, Store.updateCallJob_run valid (works.jobs _)]
  refine ⟨⟨(), rfl⟩, fun _ => rfl, ?_⟩
  rw [CallState.jobIDs_of_some held, ← same]
  exact Store.closes_saveJob _ ended

theorem saveJob_endsJobs (saved : CallJob) (works : env.WritesWork) (valid : locked.JobsValid) (held : locked.state.job? type = some job)
    (same : saved.apartFromErr = (job.ended env.now).apartFromErr) :
    EndsJobs env [type] [type] locked (saveJob env saved type) := by
  have identity := CallJob.identity_of_apartFromErr same
  have ended : saved.endAt = (job.ended env.now).endAt := CallJob.endAt_of_apartFromErr same
  refine (withJob_endsJobs saved held same).bind fun _ middle effect => EndsJobs.mapError ?_
  obtain ⟨now, memory, sameNow⟩ := effect.job?_of_some held
  rw [if_pos (List.mem_singleton_self type)] at sameNow
  refine updateCallJob_endsJobs works memory ?_ ?_ ?_
  · exact CallJob.id_of_apartFromErr (same.trans sameNow.symm)
  · rw [CallJob.isValid_congr identity, CallJob.isValid_ended]
    exact valid type job held
  · rw [ended]
    exact job.ended_ne env.now

end

end LockedHandler

theorem JobsEnded.of_absent {env : Env} {locked : LockedCall} {type : JobType}
    (absent : locked.state.job? type = none) : JobsEnded env [type] [type] locked locked := by
  refine ⟨fun other => ?_, .congr (.of_jobs_eq rfl) fun id => ?_⟩
  · split
    · next listed =>
      obtain rfl := List.mem_singleton.mp listed
      simp [absent]
    · rfl
  · simp [CallState.mem_jobIDs, absent]

/-! ### The stop functions -/

section
variable {env : Env} {channelID : String} {locked : LockedCall}

theorem stopJob_endsNoJobs (jobID : String) : EndsNoJobs env (onWorld (stopJob env channelID jobID env.botID)) := by
  refine .onWorld fun jobs => ?_
  exact stopJob_maintains (Maintains.modify fun _ same => same)

/-- What a stop that fails late does: the job of the state gets the error. -/
theorem stopFailed_endsNoJobs {type : JobType} {job now : CallJob} (held : locked.state.job? type = some now)
    (same : now.apartFromErr = job.apartFromErr) (err : String) :
    EndsJobsAnyhow env [] [] locked (do
      modifyState (·.withJob (job.withErr err) type)
      publishJobState env channelID (job.withErr err)) := by
  refine EndsJobsAnyhow.bind_quiet ⟨fun other => ?_, .of_jobs_eq rfl⟩ fun _ => .publishJobState channelID _
  show ((locked.state.withJob (job.withErr err) type).job? other).map CallJob.apartFromErr = _
  rw [CallState.job?_withJob, if_neg List.not_mem_nil]
  split
  · next here =>
    rw [here, held, Option.map_some, Option.map_some, same]
    rfl
  · rfl

/-- The live captions are ended together with the transcription. -/
theorem captions_endJobs (works : env.WritesWork) {middle : LockedCall} {inMemory saved : List JobType}
    (valid : locked.JobsValid) (ended : JobsEnded env inMemory saved locked middle) (unlisted : .captioning ∉ inMemory) :
    EndsJobs env [.captioning] [.captioning] middle
      (ifSome (locked.state.liveCaptions.map (·.ended env.now)) fun lcState => saveJob env lcState .captioning) := by
  cases before : locked.state.job? .captioning with
  | none =>
    rw [show locked.state.liveCaptions = none from before]
    exact ⟨⟨(), rfl⟩, .of_absent (ended.job?_of_none before)⟩
  | some lcState =>
    rw [show locked.state.liveCaptions = some lcState from before]
    obtain ⟨now, found, same⟩ := ended.job?_of_some before
    rw [if_neg unlisted] at same
    exact saveJob_endsJobs _ works (ended.jobsValid valid) found
      (congrArg (fun job => (job.ended env.now).apartFromErr) same).symm

/-- With no recording in progress, the transcription is ended and the live captions with it. -/
theorem stopTranscribingJob_endsJobs (works : env.WritesWork) (valid : locked.JobsValid)
    (active : locked.state.inProgress .transcribing = true) (alone : locked.state.inProgress .recording = false)
    (fuel : Nat) : EndsJobsAnyhow env [.transcribing, .captioning] [.transcribing, .captioning] locked
      (stopTranscribingJobFuel env channelID (fuel + 1)) := by
  obtain ⟨trState, held, unended⟩ := CallState.inProgress_iff.mp active
  have transcription : locked.state.transcription = some trState := held
  rw [stopTranscribingJobFuel]
  apply EndsJobsAnyhow.bind_getState
  simp only [transcription, unended, ne_eq, not_true_eq_false, if_false, alone, Bool.false_eq_true, Command.when]
  refine EndsJobsAnyhow.bind (saveJob_endsJobs _ works valid held rfl) fun _ middle trEnded =>
    EndsJobsAnyhow.bind (captions_endJobs works valid trEnded (by decide)) fun _ last lcEnded => .onError ?_ ?_
  · refine ((stopJob_endsNoJobs _).mapError.bind fun _ => (EndsNoJobs.pure ()).bind fun _ => ?_) last
    exact (EndsNoJobs.publishJobState channelID _).bind fun _ =>
      .ifSome fun _ => .publishJobState channelID _
  · intro err final ended
    obtain ⟨now, found, same⟩ := ((trEnded.trans lcEnded).trans ended).job?_of_some held
    exact stopFailed_endsNoJobs found same err

/-- The jobs that end with a transcription, if there is one in progress. -/
def transcriptionTypes (transcribing : Bool) : List JobType :=
  if transcribing then [.transcribing, .captioning] else []

/-- The jobs that end with a recording, if there is one in progress. -/
def recordingTypes (recording : Bool) : List JobType := if recording then [.recording] else []

/-- A stop of the transcription, the recording being ended already. -/
theorem stopTranscribingJob_anyway_endsJobs (works : env.WritesWork) (valid : locked.JobsValid)
    (alone : locked.state.inProgress .recording = false) {transcribing : Bool}
    (same : locked.state.inProgress .transcribing = transcribing) (fuel : Nat) :
    EndsJobsAnyhow env (transcriptionTypes transcribing) (transcriptionTypes transcribing) locked
      (stopTranscribingJobFuel env channelID (fuel + 1)) := by
  cases transcribing with
  | true => exact stopTranscribingJob_endsJobs works valid same alone fuel
  | false =>
    rw [stopTranscribingJobFuel]
    apply EndsJobsAnyhow.bind_getState
    cases held : locked.state.transcription with
    | none => exact .refl env locked
    | some trState =>
      dsimp only
      rw [if_pos (CallState.endAt_ne_of_idle same held)]
      exact .refl env locked

/-- The recording has been ended in memory, and the transcription is stopped after it. -/
theorem stopTranscribing_afterRecording (works : env.WritesWork) (valid : locked.JobsValid) {middle : LockedCall}
    {inMemory saved : List JobType} (ended : JobsEnded env inMemory saved locked middle)
    (just : inMemory = [.recording]) (fuel : Nat) :
    EndsJobsAnyhow env (transcriptionTypes (locked.state.inProgress .transcribing))
      (transcriptionTypes (locked.state.inProgress .transcribing)) middle
      (stopTranscribingJobFuel env channelID (fuel + 1)) := by
  refine stopTranscribingJob_anyway_endsJobs works (ended.jobsValid valid) ?_ ?_ fuel
  · rw [ended.inProgress, just, if_pos (by decide)]
  · rw [ended.inProgress, just, if_neg (by decide)]

/-- A stop of the recording, with the transcription if that is in progress. -/
theorem stopRecordingJob_endsJobs (works : env.WritesWork) (valid : locked.JobsValid)
    (active : locked.state.inProgress .recording = true) {transcribing : Bool}
    (same : locked.state.inProgress .transcribing = transcribing) :
    EndsJobsAnyhow env (.recording :: transcriptionTypes transcribing) (.recording :: transcriptionTypes transcribing)
      locked (stopRecordingJob env channelID) := by
  obtain ⟨recState, held, unended⟩ := CallState.inProgress_iff.mp active
  have recording : locked.state.recording = some recState := held
  rw [stopRecordingJob, stopRecordingJobFuel]
  apply EndsJobsAnyhow.bind_getState
  simp only [recording, unended, ne_eq, not_true_eq_false, if_false]
  subst same
  show EndsJobsAnyhow env ([.recording] ++ transcriptionTypes _) ([.recording] ++ transcriptionTypes _) locked _
  refine EndsJobsAnyhow.bind (saveJob_endsJobs _ works valid held rfl) fun _ middle recEnded => .onError ?_ ?_
  · exact ((stopTranscribing_afterRecording works valid recEnded rfl 0).ignoring_when rfl id).anyhow.bind_quiet fun _ =>
      (stopJob_endsNoJobs _).mapError.bind fun _ => (EndsNoJobs.publishJobState channelID _).bind fun _ => .pure _
  · intro err final ended
    obtain ⟨now, found, same⟩ := (recEnded.trans ended).job?_of_some held
    exact stopFailed_endsNoJobs found (by rw [same, if_pos (by simp)]) err

/-- A stop of the recording, the transcription being ended already. -/
theorem stopRecordingJob_anyway_endsJobs (works : env.WritesWork) (valid : locked.JobsValid)
    (alone : locked.state.inProgress .transcribing = false) {recording : Bool}
    (same : locked.state.inProgress .recording = recording) :
    EndsJobsAnyhow env (recordingTypes recording) (recordingTypes recording) locked (stopRecordingJob env channelID) := by
  cases recording with
  | true => exact stopRecordingJob_endsJobs works valid same alone
  | false =>
    rw [stopRecordingJob, stopRecordingJobFuel]
    apply EndsJobsAnyhow.bind_getState
    cases held : locked.state.recording with
    | none => exact .refl env locked
    | some recState =>
      dsimp only
      rw [if_pos (CallState.endAt_ne_of_idle same held)]
      exact .refl env locked

/-- The transcription has been ended in memory, and the recording is stopped after it. -/
theorem stopRecording_afterTranscription (works : env.WritesWork) (valid : locked.JobsValid) {middle : LockedCall}
    {inMemory saved : List JobType} (ended : JobsEnded env inMemory saved locked middle)
    (without : .transcribing ∈ inMemory ∧ .recording ∉ inMemory) :
    EndsJobsAnyhow env (recordingTypes (locked.state.inProgress .recording))
      (recordingTypes (locked.state.inProgress .recording)) middle (stopRecordingJob env channelID) := by
  refine stopRecordingJob_anyway_endsJobs works (ended.jobsValid valid) ?_ ?_
  · rw [ended.inProgress, if_pos without.1]
  · rw [ended.inProgress, if_neg without.2]

end

end Calls
