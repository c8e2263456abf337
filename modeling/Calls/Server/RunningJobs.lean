import Calls.Server.JobRequests

/-! The requests that start and stop recordings, with the calls of the job service
that have not returned yet. Each such call was given the ID of a row, and what it
returns is to be stored in that row. -/

set_option autoImplicit false

namespace Calls

open LockedHandler Command

/-- What the job service's answer sets in the row of a job. -/
def CallJob.outcome (job : CallJob) : String × String × Int := (job.props.jobID, job.props.err, job.endAt)

/-- The outcome of a job; the one of a job without a row is that of a new job. -/
def Store.outcome (store : Store) (jobID : String) : String × String × Int :=
  match store.jobs.find? jobID with
  | some row => row.outcome
  | none => ("", "", 0)

/-- How a request goes on when its call of `RunJob` has returned. -/
inductive AfterRunJob where
  | recording (userID : String)
  | transcription (liveCaptionsOn : Bool)

/-- A call of `RunJob` that has not returned yet, with the ID of the row it was given. -/
structure RunJobCall where
  channelID : String
  jobID : String
  next : AfterRunJob

/-- Lock the call, load its state and run a handler on it. -/
def underLock {α : Type} (env : Env) (channelID : String) (command : LockedHandler α) : Handler α := do
  let state ← lockCallReturnState env channelID
  match state with
  | none => .throw "no call ongoing"
  | some state => command.runOn state

/-- Only the host may start and stop recordings. -/
def checkHost (userID : String) : LockedHandler Unit := do
  let state ← getState
  Command.throwIf (state.call.getHostID ≠ userID) "no permissions to record"

/-- The host asks for a recording: the call of the job service that this leads to. -/
def startRecording (env : Env) (channelID userID : String) : Handler (List RunJobCall) := do
  let recState ← underLock env channelID do
    checkHost userID
    beginRecordingJob env channelID userID
  pure [⟨channelID, recState.id, .recording userID⟩]

def stopRecording (env : Env) (channelID userID : String) : Handler JobStateClient :=
  underLock env channelID do
    checkHost userID
    stopRecordingJob env channelID

/-- A call of the job service has returned: the request goes on, and may call it again. -/
def RunJobCall.returned (running : RunJobCall) (env : Env) (trID lcID : String) (result : RunJobResult) :
    Handler (List RunJobCall) :=
  match running.next with
  | .recording userID => do
    let trState ← underLock env running.channelID
      (continueRecordingJob env running.channelID userID trID lcID result)
    match trState with
    | none => pure []
    | some trState => pure [⟨running.channelID, trState.id, .transcription env.config.liveCaptionsEnabled⟩]
  | .transcription liveCaptionsOn => do
    underLock env running.channelID (resumeTranscribingJob env running.channelID liveCaptionsOn result)
    pure []

/-- The joins, the leaves and the requests about jobs, with the calls of the job service
under way, and with the rows that an answer was stored in although they were not given to it. -/
structure JobRuns where
  ops : Operations
  running : List RunJobCall
  misplaced : List CallJob

inductive JobRunStep where
  | operation (step : OperationStep)
  | start (env : Env) (channelID userID : String)
  | stop (env : Env) (channelID userID : String)
  | returned (env : Env) (index : Nat) (trID lcID : String) (result : RunJobResult)
  | status (env : Env) (channelID jobID : String) (reported : JobStatus)
  | recTimeout (env : Env) (channelID jobID : String)
  | trTimeout (env : Env) (channelID jobID : String)

namespace JobRuns

def idle : JobRuns := ⟨.idle, [], []⟩

/-- The recordings and transcriptions with another outcome than before, apart from the given one. -/
def changedApartFrom (jobID : String) (before after : Store) : List CallJob :=
  after.jobs.rows.filter fun row =>
    row.id ≠ jobID ∧ row.type ≠ .captioning ∧ row.outcome ≠ before.outcome row.id

/-- Run a handler that needs the lock of the channel; `α` is what the request goes on with. -/
def handle {α : Type} (runs : JobRuns) (channelID : String) (handler : Handler α) : Option (Except String α × JobRuns) :=
  if runs.ops.held.contains channelID then none
  else some ((handler runs.ops.world).1, { runs with ops := { runs.ops with world := (handler runs.ops.world).2 } })

/-- The calls that a request leaves behind; a request that failed leaves none. -/
def callsOf : Except String (List RunJobCall) → List RunJobCall
  | .ok running => running
  | .error _ => []

def next? (runs : JobRuns) : JobRunStep → Option JobRuns
  | .operation step => (runs.ops.next? step).map fun ops => { runs with ops }
  | .start env channelID userID =>
    (runs.handle channelID (startRecording env channelID userID)).map fun (result, after) =>
      { after with running := after.running ++ callsOf result }
  | .stop env channelID userID => (runs.handle channelID (stopRecording env channelID userID)).map Prod.snd
  | .returned env index trID lcID answer => do
    let running ← runs.running[index]?
    let (result, after) ← runs.handle running.channelID (running.returned env trID lcID answer)
    some { after with
      running := after.running.eraseIdx index ++ callsOf result
      misplaced := after.misplaced ++
        changedApartFrom running.jobID runs.ops.world.store after.ops.world.store }
  | .status env channelID jobID reported =>
    (runs.handle channelID (underLock env channelID (handleBotPostJobsStatus env channelID jobID reported))).map Prod.snd
  | .recTimeout env channelID jobID =>
    (runs.handle channelID (underLock env channelID (recJobTimeoutChecker env channelID jobID))).map Prod.snd
  | .trTimeout env channelID jobID =>
    (runs.handle channelID (underLock env channelID (transcriptionJobTimeoutChecker env channelID jobID))).map Prod.snd

end JobRuns

/-- The runs that start without any call. -/
def jobRuns : System JobRuns JobRunStep where
  init runs := runs = .idle
  next? := JobRuns.next?

/-! ### What a request changes of an outcome -/

theorem Store.outcome_of_mem {store : Store} {row : CallJob} (member : row ∈ store.jobs) :
    store.outcome row.id = row.outcome := by
  rw [outcome, KeyedTable.find?_self member]

theorem Store.outcome_saveJob {store : Store} {job : CallJob} {jobID : String} (other : jobID ≠ job.id) :
    (store.saveJob job).outcome jobID = store.outcome jobID := by
  unfold outcome saveJob
  rw [KeyedTable.find?_modify, if_neg other]

/-- A new row has the outcome of a job without one. -/
theorem Store.outcome_insert? {store : Store} {job : CallJob} {jobs : KeyedTable CallJob.id} {jobID : String}
    (inserted : store.jobs.insert? job = some jobs) (fresh : job.outcome = ("", "", 0)) :
    ({ store with jobs } : Store).outcome jobID = store.outcome jobID := by
  have free := (KeyedTable.insert?_eq_some inserted).1
  rw [KeyedTable.contains, Option.isSome_eq_false_iff, Option.isNone_iff_eq_none] at free
  unfold outcome
  rw [KeyedTable.find?_insert? inserted]
  by_cases same : jobID = job.id
  · rw [if_pos same, same, free]
    exact fresh
  · rw [if_neg same]

/-- The outcome of a job in the store of a handler that holds the lock. -/
def LockedCall.outcome (jobID : String) (locked : LockedCall) : String × String × Int :=
  locked.world.store.outcome jobID

section
variable (env : Env) (channelID : String) {jobID : String}

theorem outcome_wp {α : Type} {command : LockedHandler α} (keeps : Preserves (LockedCall.outcome jobID) command)
    (locked : LockedCall) : command.wp (fun _ after => after.outcome jobID = locked.outcome jobID) locked :=
  keeps.run locked

theorem onStore_outcome {α : Type} {command : StoreCommand α} (keeps : Preserves (Store.outcome · jobID) command) :
    Preserves (LockedCall.outcome jobID) (onStore command) := .of_run fun locked => keeps.run locked.world.store

theorem getState_outcome : Preserves (LockedCall.outcome jobID) getState := .of_run fun _ => rfl

theorem withJob_outcome (job : CallJob) (type : JobType) :
    Preserves (LockedCall.outcome jobID) (modifyState (·.withJob job type)) := .of_run fun _ => rfl

theorem publishJobState_outcome (job : CallJob) :
    Preserves (LockedCall.outcome jobID) (publishJobState env channelID job) := .of_run fun _ => rfl

theorem saveJob_outcome (job : CallJob) (type : JobType) (other : jobID ≠ job.id) :
    Preserves (LockedCall.outcome jobID) (saveJob env job type) := by
  refine (withJob_outcome job type).bind fun _ => (onStore_outcome (.of_wp fun store => ?_)).mapError
  exact Store.wp_updateCallJob (fun _ => rfl) fun _ _ => Store.outcome_saveJob other

theorem relayError_outcome (type : JobType) (err : String) :
    Preserves (LockedCall.outcome jobID) (relayError env channelID type err) :=
  getState_outcome.bind fun _ => .ifSome fun _ =>
    (withJob_outcome _ _).bind fun _ => publishJobState_outcome env channelID _

theorem createCallJob_outcome {job : CallJob} (fresh : job.outcome = ("", "", 0)) :
    Preserves (LockedCall.outcome jobID) (onStore (Store.createCallJob env.faults job)) := by
  refine onStore_outcome (.of_wp fun store => ?_)
  exact Store.wp_createCallJob (fun _ _ => rfl) fun _ _ inserted => Store.outcome_insert? inserted fresh

theorem beginTranscribingJob_outcome (userID trID lcID : String) :
    Preserves (LockedCall.outcome jobID) (beginTranscribingJob env channelID userID trID lcID) :=
  getState_outcome.bind fun _ => (Preserves.ite (.throw _) (.pure _)).bind fun _ =>
    (Preserves.ite (.throw _) (.pure _)).bind fun _ => (createCallJob_outcome env rfl).mapError.bind fun _ =>
      (createCallJob_outcome env rfl).mapError.when.bind fun _ =>
        (publishJobState_outcome env channelID _).bind fun _ => .pure _

/-- The answer of the job service is stored in no other row of the type than the one that
the state has, and not there if that row has a job already. -/
def AnswersOnly (cs : CallState) (type : JobType) (result : RunJobResult) (jobID : String) : Prop :=
  ∀ row, cs.job? type = some row → jobID = row.id → (∃ answer, result = .ok answer) ∧ row.props.jobID ≠ ""

theorem resumeRecordingJob_outcome {result : RunJobResult} {locked : LockedCall}
    (other : AnswersOnly locked.state .recording result jobID) :
    (resumeRecordingJob env channelID result).wp (fun _ after => after.outcome jobID = locked.outcome jobID) locked := by
  unfold resumeRecordingJob
  rw [wp_bind, wp_getState, andThen_ok]
  cases held : locked.state.recording with
  | none => rfl
  | some recState =>
    refine outcome_wp (.onError ?_ fun err => relayError_outcome env channelID _ err) locked
    cases result with
    | error jobErr =>
      have unnamed : jobID ≠ recState.id := fun named => by
        obtain ⟨⟨_, answered⟩, -⟩ := other recState held named
        cases answered
      exact (saveJob_outcome env ((recState.ended env.now).withErr jobErr) _ unnamed).ignoring.bind fun _ => .throw _
    | ok answer =>
      by_cases unnamed : jobID = recState.id
      · -- The row has a job already, so nothing is written.
        have taken := (other recState held unnamed).2
        simp only [Command.throwIf, taken, ne_eq, not_false_eq_true, if_true]
        exact .of_run fun _ => rfl
      · exact (Preserves.ite (.throw _) (.pure _)).bind fun _ =>
          (saveJob_outcome env (recState.withJobID answer) _ unnamed).bind fun _ => .pure _

theorem continueRecordingJob_outcome {userID trID lcID : String} {result : RunJobResult} {locked : LockedCall}
    (other : AnswersOnly locked.state .recording result jobID) :
    (continueRecordingJob env channelID userID trID lcID result).wp
      (fun _ after => after.outcome jobID = locked.outcome jobID) locked := by
  unfold continueRecordingJob
  rw [wp_bind]
  refine wp_mono (resumeRecordingJob_outcome env channelID other) ?_
  intro ended after first
  cases ended with
  | error err => exact first
  | ok recState =>
    refine (outcome_wp (.ite ?_ ?_) after).trans first
    · refine .onError ?_ fun err => relayError_outcome env channelID _ err
      exact (beginTranscribingJob_outcome env channelID _ _ _).mapError.bind fun _ => .pure _
    · exact (publishJobState_outcome env channelID _).bind fun _ => .pure _

theorem resumeTranscribingJob_outcome {liveCaptionsOn : Bool} {result : RunJobResult} {locked : LockedCall}
    (other : AnswersOnly locked.state .transcribing result jobID)
    (apart : ∀ row, locked.state.liveCaptions = some row → jobID ≠ row.id) :
    (resumeTranscribingJob env channelID liveCaptionsOn result).wp
      (fun _ after => after.outcome jobID = locked.outcome jobID) locked := by
  unfold resumeTranscribingJob
  rw [wp_bind, wp_getState, andThen_ok]
  have captions : ∀ row, (if liveCaptionsOn = true then locked.state.liveCaptions else none) = some row →
      jobID ≠ row.id := by
    intro row held
    split at held
    · exact apart row held
    · cases held
  cases held : locked.state.transcription with
  | none => rfl
  | some trState =>
    refine outcome_wp (.onError ?_ fun err => relayError_outcome env channelID _ err) locked
    cases result with
    | error jobErr =>
      have unnamed : jobID ≠ trState.id := fun named => by
        obtain ⟨⟨_, answered⟩, -⟩ := other trState held named
        cases answered
      refine (saveJob_outcome env ((trState.ended env.now).withErr jobErr) _ unnamed).ignoring.bind fun _ => Preserves.bind ?_ fun _ => .throw _
      exact fun seen => .ifSome fun lcState found =>
        (saveJob_outcome env (lcState.ended env.now) _ (captions lcState found)).ignoring seen
    | ok answer =>
      by_cases unnamed : jobID = trState.id
      · have taken := (other trState held unnamed).2
        simp only [Command.throwIf, taken, ne_eq, not_false_eq_true, if_true]
        exact .of_run fun _ => rfl
      · refine (Preserves.ite (.throw _) (.pure _)).bind fun _ =>
          (saveJob_outcome env (trState.withJobID answer) _ unnamed).bind fun _ =>
          Preserves.bind ?_ fun _ => publishJobState_outcome env channelID _
        exact fun seen => .ifSome fun lcState found =>
          saveJob_outcome env (lcState.withJobID answer) _ (captions lcState found) seen

theorem resumeTranscribingJob_preserves (liveCaptionsOn : Bool) (result : RunJobResult) :
    Preserves LockedCall.apart (resumeTranscribingJob env channelID liveCaptionsOn result) :=
  fun seen => (keptByJobs_apart env channelID seen).writing.resumeTranscribingJob liveCaptionsOn result

/-- A handler under the lock is not run at all, or on the state that was loaded for it. -/
theorem underLock_cases {α : Type} (command : LockedHandler α) (world : World) :
    (∃ err, underLock env channelID command world = (.error err, world)) ∨
      ∃ cs, (lockCallReturnState env channelID world).1 = .ok (some cs) ∧ world.store.Loads channelID (some cs) ∧
        underLock env channelID command world = command.runOn cs world := by
  have locks : (lockCallReturnState env channelID).wp _ world := lockCallReturnState_spec env channelID world
  unfold Command.wp at locks
  unfold underLock
  rw [bind_run]
  cases ran : lockCallReturnState env channelID world with
  | mk result after =>
    rw [ran] at locks
    obtain ⟨rfl, ⟨⟨err, failed⟩, -⟩ | ⟨state, loaded, loads, -⟩⟩ := locks
    · cases failed
      exact .inl ⟨err, rfl⟩
    · cases loaded
      cases state with
      | none => exact .inl ⟨_, rfl⟩
      | some cs => exact .inr ⟨cs, rfl, loads, rfl⟩

end

/-! ### Runs -/

def AfterRunJob.type : AfterRunJob → JobType
  | .recording _ => .recording
  | .transcription _ => .transcribing

/-- The job that a request finds once it has its lock again is the one whose row it was
given, or the request leaves it alone because it has been run already. -/
def FindsOwnJob (runs : JobRuns) : JobRunStep → Prop
  | .returned env index _ _ result => ∀ running cs, runs.running[index]? = some running →
      (lockCallReturnState env running.channelID runs.ops.world).1 = .ok (some cs) →
      ∀ row, cs.job? running.next.type = some row →
        row.id = running.jobID ∨ (∃ answer, result = .ok answer) ∧ row.props.jobID ≠ ""
  | _ => True

/-- A row of the store that is not one of captions is none of the captions loaded. -/
theorem Store.Loads.id_ne_liveCaptions {store after : Store} {channelID : String} {cs : CallState} {row lcState : CallJob}
    (loads : store.Loads channelID (some cs)) (same : after.jobIdentities = store.jobIdentities)
    (member : row ∈ after.jobs) (other : row.type ≠ .captioning) (held : cs.liveCaptions = some lcState) :
    row.id ≠ lcState.id := by
  intro named
  have active : store.activeCallJobs cs.call.id .captioning = some lcState := (loads.2.2 .captioning).symm.trans held
  obtain ⟨stored, -, -, captions⟩ := Store.activeCallJobs_eq_some active
  have listed : row.identity ∈ store.jobIdentities := same ▸ List.mem_map_of_mem member
  obtain ⟨old, oldMember, identical⟩ := List.mem_map.mp listed
  simp only [CallJob.identity, Prod.mk.injEq] at identical
  have equal : old = lcState := KeyedTable.eq_of_key_eq oldMember stored (identical.1.trans named)
  rw [← identical.2.2.1, equal, captions] at other
  exact other rfl

theorem JobRuns.changedApartFrom_eq_nil {jobID : String} {before after : Store}
    (same : ∀ row ∈ after.jobs, row.id ≠ jobID → row.type ≠ .captioning → after.outcome row.id = before.outcome row.id) :
    changedApartFrom jobID before after = [] := by
  unfold changedApartFrom
  rw [List.filter_eq_nil_iff]
  intro row member
  simp only [decide_eq_true_eq, not_and, not_not]
  intro other recorded
  rw [← Store.outcome_of_mem member]
  exact same row member other recorded

theorem JobRuns.changedApartFrom_self (jobID : String) (store : Store) : changedApartFrom jobID store store = [] :=
  changedApartFrom_eq_nil fun _ _ _ _ => rfl

section
variable {env : Env} {running : RunJobCall} {trID lcID : String} {result : RunJobResult} {world : World}

/-- A handler under the lock changes nothing apart from the job where it does so on every state it may be run on. -/
theorem underLock_changes {α : Type} {channelID jobID : String} {command : LockedHandler α}
    (keeps : ∀ cs, (lockCallReturnState env channelID world).1 = .ok (some cs) → world.store.Loads channelID (some cs) →
      JobRuns.changedApartFrom jobID world.store (command ⟨world, cs⟩).2.world.store = []) :
    JobRuns.changedApartFrom jobID world.store (underLock env channelID command world).2.store = [] := by
  rcases underLock_cases env channelID command world with ⟨err, ran⟩ | ⟨cs, loaded, loads, ran⟩
  · rw [ran]
    exact JobRuns.changedApartFrom_self jobID world.store
  · rw [ran]
    exact keeps cs loaded loads

theorem AnswersOnly.of_finds {cs : CallState} {type : JobType} {jobID : String}
    (finds : ∀ row, cs.job? type = some row → row.id = running.jobID ∨ (∃ answer, result = .ok answer) ∧ row.props.jobID ≠ "")
    (other : jobID ≠ running.jobID) : AnswersOnly cs type result jobID := by
  intro row held named
  exact (finds row held).resolve_left fun own => other (named.trans own)

/-- What a request stores of an answer, it stores in the row it was given. -/
theorem changedApartFrom_returned
    (finds : ∀ cs, (lockCallReturnState env running.channelID world).1 = .ok (some cs) →
      ∀ row, cs.job? running.next.type = some row →
        row.id = running.jobID ∨ (∃ answer, result = .ok answer) ∧ row.props.jobID ≠ "") :
    JobRuns.changedApartFrom running.jobID world.store (running.returned env trID lcID result world).2.store = [] := by
  obtain ⟨channelID, jobID, next⟩ := running
  change (RunJobCall.returned _ env trID lcID result).wp
    (fun _ after => JobRuns.changedApartFrom jobID world.store after.store = []) world
  unfold RunJobCall.returned
  cases next with
  | recording userID =>
    have continued : (underLock env channelID (continueRecordingJob env channelID userID trID lcID result)).wp
        (fun _ after => JobRuns.changedApartFrom jobID world.store after.store = []) world := by
      refine underLock_changes fun cs loaded _ => JobRuns.changedApartFrom_eq_nil fun row _ other _ => ?_
      exact continueRecordingJob_outcome env channelID (.of_finds (finds cs loaded) other)
    refine wp_bind.mpr (wp_mono continued ?_)
    intro either after unchanged
    rcases either with err | trState
    · exact unchanged
    · rw [andThen_ok]
      cases trState <;> exact unchanged
  | transcription liveCaptionsOn =>
    have resumed : (underLock env channelID (resumeTranscribingJob env channelID liveCaptionsOn result)).wp
        (fun _ after => JobRuns.changedApartFrom jobID world.store after.store = []) world := by
      refine underLock_changes fun cs loaded loads => JobRuns.changedApartFrom_eq_nil fun row member other recorded => ?_
      have kept := (resumeTranscribingJob_preserves env channelID liveCaptionsOn result).run ⟨world, cs⟩
      simp only [LockedCall.apart, Store.apartFromJobs, Prod.mk.injEq] at kept
      exact resumeTranscribingJob_outcome env channelID (.of_finds (finds cs loaded) other)
        fun lcState held => loads.id_ne_liveCaptions kept.1.2.2 member recorded held
    refine wp_bind.mpr (wp_mono resumed ?_)
    rintro (err | done) after unchanged <;> exact unchanged

end

theorem JobRuns.handle_eq_some {α : Type} {runs after : JobRuns} {channelID : String} {handler : Handler α}
    {result : Except String α} (handled : runs.handle channelID handler = some (result, after)) :
    after = { runs with ops := { runs.ops with world := (handler runs.ops.world).2 } } := by
  unfold handle at handled
  split at handled
  · cases handled
  · cases handled
    rfl

/-- No answer of the job service is stored in the row of another recording or transcription. -/
def JobRuns.NoneMisplaced (runs : JobRuns) : Prop := runs.misplaced = []

theorem JobRuns.NoneMisplaced.step {runs after : JobRuns} {label : JobRunStep} (none : runs.NoneMisplaced)
    (finds : FindsOwnJob runs label) (taken : runs.next? label = some after) : after.NoneMisplaced := by
  cases label with
  | operation label =>
    obtain ⟨ops, -, rfl⟩ := Option.map_eq_some_iff.mp taken
    exact none
  | returned env index trID lcID result =>
    obtain ⟨running, found, taken⟩ := Option.bind_eq_some_iff.mp taken
    obtain ⟨⟨ended, next⟩, handled, taken⟩ := Option.bind_eq_some_iff.mp taken
    cases taken
    cases handle_eq_some handled
    unfold NoneMisplaced at none ⊢
    dsimp only
    rw [none, List.nil_append]
    exact changedApartFrom_returned fun cs loaded row held => finds running cs found loaded row held
  | start | stop | status | recTimeout | trTimeout =>
    obtain ⟨⟨ended, next⟩, handled, rfl⟩ := Option.map_eq_some_iff.mp taken
    cases handle_eq_some handled
    exact none

/-- In every run in which each request finds the job it was given, no answer of the job
service is misplaced. -/
theorem noneMisplaced_of_findsOwnJob {runs : JobRuns} (reached : (jobRuns.restrict FindsOwnJob).Reachable runs) :
    runs.NoneMisplaced := by
  refine System.Reachable.invariant_of_allowed ?_ ?_ reached
  · intro runs same
    obtain rfl := same
    rfl
  · exact fun before label after none finds taken => none.step finds taken

/-! ### Two recordings -/

/-- Alice starts a call and asks for a recording. -/
def aliceRecords : List JobRunStep :=
  [.operation (.lock (.quiet 1000 "") "channel" .joining),
    .operation (.join (.quiet 1001 "call") "channel" (.plain "alice" "conn-1" "")),
    .operation (.unlock "channel"),
    .start (.quiet 1002 "first") "channel" "alice"]

/-- The job service answers the request of the given index. -/
def answered (index : Nat) (jobID : String) : JobRunStep :=
  .returned (.quiet 1010 "") index "tr" "lc" (.ok jobID)

/-- She stops the recording while the job service has not answered yet, and asks for another. -/
def aliceRecordsAnew : List JobRunStep :=
  [.stop (.quiet 1003 "") "channel" "alice", .start (.quiet 1004 "second") "channel" "alice"]

def JobRuns.jobIDs (runs : JobRuns) : List (String × String) :=
  runs.ops.world.store.jobs.rows.map fun row => (row.id, row.props.jobID)

/-- The condition on a step, as a check. -/
def findsOwnJob (runs : JobRuns) : JobRunStep → Bool
  | .returned env index _ _ _ =>
    (runs.running[index]?).all fun running =>
      match (lockCallReturnState env running.channelID runs.ops.world).1 with
      | .ok (some cs) => (cs.job? running.next.type).all fun row => row.id = running.jobID
      | _ => true
  | _ => true

theorem findsOwnJob_sound {runs : JobRuns} {label : JobRunStep} (checked : findsOwnJob runs label = true) :
    FindsOwnJob runs label := by
  cases label with
  | returned env index trID lcID result =>
    intro running cs found loaded row held
    simp only [findsOwnJob, found, Option.all_some, loaded, held, decide_eq_true_eq] at checked
    exact .inl checked
  | operation | start | stop | status | recTimeout | trTimeout => trivial

theorem noneMisplaced_of_oneRecording :
    ∃ runs, jobRuns.run? .idle (aliceRecords ++ [answered 0 "job-1"]) = some runs ∧
      runs.jobIDs = [("first", "job-1")] ∧ runs.NoneMisplaced := by
  have computed : (jobRuns.run? .idle (aliceRecords ++ [answered 0 "job-1"])).map JobRuns.jobIDs =
      some [("first", "job-1")] := by decide
  obtain ⟨runs, ran, stored⟩ := Option.map_eq_some_iff.mp computed
  have checked : jobRuns.checkAlong findsOwnJob .idle (aliceRecords ++ [answered 0 "job-1"]) = true := by decide
  have own : jobRuns.MeetsAlong FindsOwnJob .idle (aliceRecords ++ [answered 0 "job-1"]) :=
    .of_check checked fun _ _ _ => findsOwnJob_sound
  have start : (jobRuns.restrict FindsOwnJob).Reachable .idle := .init rfl
  exact ⟨runs, ran, stored, noneMisplaced_of_findsOwnJob (start.restrict_run own ran)⟩

/-- The answer to the first request is stored in the row of the second recording. -/
theorem not_noneMisplaced : ¬ ∀ runs, jobRuns.Reachable runs → runs.NoneMisplaced := by
  intro all
  have computed : (jobRuns.run? .idle (aliceRecords ++ aliceRecordsAnew ++ [answered 0 "job-1"])).map
      (fun runs => (runs.jobIDs, runs.misplaced.map CallJob.id)) =
      some ([("first", ""), ("second", "job-1")], ["second"]) := by decide
  obtain ⟨runs, ran, stored⟩ := Option.map_eq_some_iff.mp computed
  have none : runs.misplaced = [] := all runs (.run (.init rfl) ran)
  rw [none] at stored
  cases (Prod.mk.inj stored).2

end Calls
