import Calls.Library.Command
import Calls.Public

/-! The store: the tables `calls`, `calls_sessions` and `calls_jobs`, each under
its primary key, and the operations on them. An operation may fail for reasons
outside the plugin, in which case it has no effect. -/

set_option autoImplicit false

namespace Calls

structure Store where
  calls : KeyedTable Call.id
  sessions : KeyedTable CallSession.id
  jobs : KeyedTable CallJob.id
  deriving DecidableEq

def Store.empty : Store := ⟨.empty, .empty, .empty⟩

/-- The operations a handler may ask of the store, by the rows they name. -/
inductive StoreOp where
  | getCall (callID : String)
  | getActiveCallByChannelID (channelID : String)
  | getAllActiveCalls
  | createCall (callID : String)
  | updateCall (callID : String)
  | getCallSessions (callID : String)
  | getCallSessionsCount (callID : String)
  | createCallSession (sessionID : String)
  | updateCallSession (sessionID : String)
  | deleteCallSession (sessionID : String)
  | deleteCallsSessions (callID : String)
  | getActiveCallJobs (callID : String)
  | createCallJob (jobID : String)
  | updateCallJob (jobID : String)
  | getPost (postID : String)
  deriving DecidableEq

/-- Which operations fail while one handler runs. -/
abbrev Faults := StoreOp → Bool

def Faults.none : Faults := fun _ => false

abbrev StoreCommand := Command Store String

/-- The columns that an update of a call sets. -/
def Call.updatedFrom (row call : Call) : Call :=
  { row with
    endAt := call.endAt
    deleteAt := call.deleteAt
    threadID := call.threadID
    postID := call.postID
    participants := call.participants
    stats := call.stats
    props := call.props }

@[simp] theorem Call.updatedFrom_id (row call : Call) : (row.updatedFrom call).id = row.id := rfl

/-- The columns that an update of a job sets. -/
def CallJob.updatedFrom (row job : CallJob) : CallJob :=
  { row with startAt := job.startAt, endAt := job.endAt, props := job.props }

@[simp] theorem CallJob.updatedFrom_id (row job : CallJob) : (row.updatedFrom job).id = row.id := rfl

/-- The columns that an update of a session sets. -/
def CallSession.updatedFrom (row session : CallSession) : CallSession :=
  { row with unmuted := session.unmuted, raisedHand := session.raisedHand, video := session.video }

@[simp] theorem CallSession.updatedFrom_id (row session : CallSession) : (row.updatedFrom session).id = row.id := rfl

namespace Store

/-! ### Queries -/

/-- The condition under which a call is considered ongoing. -/
def isActive (call : Call) : Bool := call.endAt = 0 ∧ 0 < call.startAt ∧ call.deleteAt = 0

theorem endAt_of_isActive {call : Call} (active : isActive call = true) : call.endAt = 0 := by
  simp only [isActive, decide_eq_true_eq] at active
  exact active.1

/-- `ORDER BY StartAt DESC, ID`. -/
def callBefore (left right : Call) : Bool :=
  right.startAt < left.startAt ∨ (left.startAt = right.startAt ∧ left.id < right.id)

def activeCall? (store : Store) (channelID : String) : Option Call :=
  (store.calls.rows.filter fun call => call.channelID = channelID ∧ isActive call).firstBy callBefore

def callSessions (store : Store) (callID : String) : SessionMap :=
  store.sessions.filter fun session => session.callID = callID

/-- `ORDER BY StartAt DESC, ID`. -/
def jobBefore (left right : CallJob) : Bool :=
  right.startAt < left.startAt ∨ (left.startAt = right.startAt ∧ left.id < right.id)

/-- The un-ended job of each type, the one that started last where there are several. -/
def activeCallJobs (store : Store) (callID : String) (type : JobType) : Option CallJob :=
  (store.jobs.rows.filter fun job => job.callID = callID ∧ job.endAt = 0 ∧ job.type = type).firstBy jobBefore

theorem activeCall?_eq_some {store : Store} {channelID : String} {call : Call}
    (found : store.activeCall? channelID = some call) :
    call ∈ store.calls ∧ call.channelID = channelID ∧ isActive call = true := by
  have member := List.firstBy_mem found
  simpa [KeyedTable.mem_def] using member

theorem activeCall?_eq_none_iff {store : Store} {channelID : String} :
    store.activeCall? channelID = none ↔
      ∀ call ∈ store.calls, call.channelID = channelID → isActive call = false := by
  unfold activeCall?
  rw [List.firstBy_eq_none_iff, List.filter_eq_nil_iff]
  simp [KeyedTable.mem_def]

theorem mem_callSessions {store : Store} {callID : String} {session : CallSession} :
    session ∈ store.callSessions callID ↔ session ∈ store.sessions ∧ session.callID = callID := by
  simp [callSessions]

theorem activeCallJobs_eq_some {store : Store} {callID : String} {type : JobType} {job : CallJob}
    (found : store.activeCallJobs callID type = some job) :
    job ∈ store.jobs ∧ job.callID = callID ∧ job.endAt = 0 ∧ job.type = type := by
  have member := List.firstBy_mem found
  simpa [KeyedTable.mem_def] using member

/-! ### Operations -/

def saveCall (store : Store) (call : Call) : Store :=
  { store with
    calls := store.calls.modify call.id (·.updatedFrom call) fun row => row.updatedFrom_id call }

def saveJob (store : Store) (job : CallJob) : Store :=
  { store with jobs := store.jobs.modify job.id (·.updatedFrom job) fun row => row.updatedFrom_id job }

def saveSession (store : Store) (session : CallSession) : Store :=
  { store with
    sessions := store.sessions.modify session.id (·.updatedFrom session) fun row => row.updatedFrom_id session }

/-- What no update of a job changes. -/
def jobIdentities (store : Store) : List (String × String × JobType × String × Int) :=
  store.jobs.rows.map CallJob.identity

section
variable (faults : Faults)

/-- A query that fails leaves no trace. -/
def guarded {α : Type} (op : StoreOp) (query : StoreCommand α) : StoreCommand α :=
  if faults op then .throw "failed to run query" else query

def getActiveCallByChannelID (channelID : String) : StoreCommand (Option Call) :=
  guarded faults (.getActiveCallByChannelID channelID) do
    let store ← .get
    pure (store.activeCall? channelID)

def getCall (callID : String) : StoreCommand Call :=
  guarded faults (.getCall callID) do
    let store ← .get
    match store.calls.find? callID with
    | some call => pure call
    | none => .throw "call not found"

def getAllActiveCalls : StoreCommand (List Call) :=
  guarded faults .getAllActiveCalls do
    let store ← .get
    pure (store.calls.rows.filter isActive)

def createCall (call : Call) : StoreCommand Unit :=
  match call.isValid with
  | .error err => .throw ("invalid call: " ++ err)
  | .ok () => guarded faults (.createCall call.id) do
    let store ← .get
    match store.calls.insert? call with
    | some calls => .modify fun store => { store with calls }
    | none => .throw "failed to run query"

def updateCall (call : Call) : StoreCommand Unit :=
  match call.isValid with
  | .error err => .throw ("invalid call: " ++ err)
  | .ok () => guarded faults (.updateCall call.id) do
    .modify (·.saveCall call)

def getCallSessions (callID : String) : StoreCommand SessionMap :=
  guarded faults (.getCallSessions callID) do
    let store ← .get
    pure (store.callSessions callID)

def getCallSessionsCount (callID : String) : StoreCommand Nat :=
  guarded faults (.getCallSessionsCount callID) do
    let store ← .get
    pure (store.callSessions callID).size

def createCallSession (session : CallSession) : StoreCommand Unit :=
  match session.isValid with
  | .error err => .throw ("invalid call session: " ++ err)
  | .ok () => guarded faults (.createCallSession session.id) do
    let store ← .get
    match store.sessions.insert? session with
    | some sessions => .modify fun store => { store with sessions }
    | none => .throw "failed to run query"

def updateCallSession (session : CallSession) : StoreCommand Unit :=
  match session.isValid with
  | .error err => .throw ("invalid call session: " ++ err)
  | .ok () => guarded faults (.updateCallSession session.id) do
    .modify (·.saveSession session)

def deleteCallSession (id : String) : StoreCommand Unit :=
  guarded faults (.deleteCallSession id) do
    .modify fun store => { store with sessions := store.sessions.erase id }

def deleteCallsSessions (callID : String) : StoreCommand Unit :=
  guarded faults (.deleteCallsSessions callID) do
    .modify fun store =>
      { store with sessions := store.sessions.filter fun session => !decide (session.callID = callID) }

def getActiveCallJobs (callID : String) : StoreCommand (JobType → Option CallJob) :=
  guarded faults (.getActiveCallJobs callID) do
    let store ← .get
    pure (store.activeCallJobs callID)

def createCallJob (job : CallJob) : StoreCommand Unit :=
  match job.isValid with
  | .error err => .throw ("invalid call job: " ++ err)
  | .ok () => guarded faults (.createCallJob job.id) do
    let store ← .get
    match store.jobs.insert? job with
    | some jobs => .modify fun store => { store with jobs }
    | none => .throw "failed to run query"

def updateCallJob (job : CallJob) : StoreCommand Unit :=
  match job.isValid with
  | .error err => .throw ("invalid call job: " ++ err)
  | .ok () => guarded faults (.updateCallJob job.id) do
    .modify (·.saveJob job)

end

end Store

end Calls
