import Calls.Server.EndingJobs
import Calls.Server.JobRequests
import Calls.Server.NodesProperties

/-! The sessions of the bot. A job is tied to the session with which the bot joins
for it, and is to end when that session is removed, however often the bot has
reconnected in between. -/

set_option autoImplicit false

namespace Calls

open LockedHandler Command

/-- Whether the row of the job has not ended. -/
def Store.jobOpen (store : Store) (jobID : String) : Bool := store.jobs.rows.any fun row => row.id = jobID ∧ row.endAt = 0

/-- A cluster, with a record of the sessions that jobs were tied to, and of the jobs
that were still open right after the session they were tied to was removed. -/
structure BotRun where
  cluster : Cluster
  ties : List (String × String)
  unended : List String

inductive BotStep where
  | cluster (step : ClusterStep)
  | jobs (env : Env) (channelID : String) (request : JobRequest)

namespace BotRun

def idle : BotRun := ⟨.idle, [], []⟩

/-- The jobs that a join ties to its connection, given the state of its batch. -/
def tiedJobs (env : Env) (state : Option CallState) (req : JoinRequest) : List CallJob :=
  match state with
  | none => []
  | some base =>
    match jobsToStart env base req with
    | .ok (jobs, _) => jobs
    | .error _ => []

/-- The ties that a step of a join makes. -/
def newTies (before after : Operations) : OperationStep → List (String × String)
  | .join env channelID req =>
    match Cluster.joinedCall? before after channelID req.connID with
    | none => []
    | some _ => (tiedJobs env ((before.batch? channelID .joining).bind id) req).map fun job => (req.connID, job.id)
  | _ => []

/-- The jobs of the session that a step has removed which are open after it. -/
def newlyUnended (ties : List (String × String)) (before after : Store) : OperationStep → List String
  | .leave _ _ ref =>
    if before.sessions.contains ref.originalConnID ∧ after.sessions.contains ref.originalConnID = false then
      ((ties.filter fun tie => tie.1 = ref.originalConnID).map Prod.snd).filter fun jobID => after.jobOpen jobID
    else []
  | _ => []

def next? (owner : String → String) (run : BotRun) : BotStep → Option BotRun
  | .cluster step =>
    (run.cluster.next? owner step).map fun cluster =>
      match step with
      | .operation step =>
        { cluster, ties := run.ties ++ newTies run.cluster.ops cluster.ops step,
          unended := run.unended ++ newlyUnended run.ties run.cluster.ops.world.store cluster.ops.world.store step }
      | _ => { run with cluster }
  | .jobs env channelID request =>
    if run.cluster.ops.held.contains channelID then none
    else
      let world := (request.handle env channelID run.cluster.ops.world).2
      some { run with cluster := { run.cluster with ops := { run.cluster.ops with world } } }

end BotRun

/-- The runs of a cluster that starts without any call. -/
def botRuns (owner : String → String) : System BotRun BotStep where
  init run := run = .idle
  next? := BotRun.next? owner

/-! ### The jobs of a run stay valid -/

structure JobsInvariant (ops : Operations) : Prop where
  rows : ops.world.store.JobsValid
  held : ∀ channelID batch cs, ops.held.get? channelID = some batch → batch.state = some cs → cs.JobsValid

theorem JoinEffect.jobsValid {env : Env} {channelID : String} {state : Option CallState} {req : JoinRequest}
    {before after : Store} {joined : CallState} (effect : JoinEffect env channelID state req before (.ok joined) after)
    (valid : ∀ cs, state = some cs → cs.JobsValid) : joined.JobsValid := by
  cases effect with
  | joined found checked planned written inserted call sessions jobs =>
    refine jobs ?_
    cases state with
    | none =>
      obtain ⟨-, -, fresh⟩ := stateToJoin_none found
      intro type job held
      rw [fresh.jobs] at held
      cases held
    | some cs =>
      cases Except.ok.inj found
      exact valid _ rfl

theorem AddEffect.jobsValid {env : Env} {channelID : String} {state next : Option CallState} {req : JoinRequest}
    {before after : Store} (effect : AddEffect env channelID state req before next after)
    (valid : ∀ cs, state = some cs → cs.JobsValid) : ∀ cs, next = some cs → cs.JobsValid := by
  intro cs held
  cases effect with
  | failed => exact valid cs held
  | joined effect =>
    cases held
    exact effect.jobsValid valid
  | started effect first changed =>
    cases held
    rw [changed]
    exact effect.jobsValid valid

theorem LeaveEffect.jobsValid {env : Env} {ref : SessionRef} {before after : World} {state next : Option CallState}
    (effect : LeaveEffect env ref before state next after) (valid : ∀ cs, state = some cs → cs.JobsValid) :
    ∀ cs, next = some cs → cs.JobsValid := by
  intro cs held
  cases effect with
  | nothing => cases held
  | removed effect =>
    cases held
    have kept := valid _ rfl
    cases effect with
    | absent => exact kept
    | undeleted => exact kept
    | jobUnsaved found deleted => exact deleted.jobsValid kept
    | callUnsaved found deleted => exact deleted.jobsValid kept
    | saved found deleted => exact deleted.jobsValid kept

namespace JobsInvariant

variable {ops after : Operations}

theorem hold (inv : JobsInvariant ops) {channelID : String} {kind : BatchKind} {next : Option CallState} {world : World}
    (jobs : world.store.jobIdentities = ops.world.store.jobIdentities) (valid : ∀ cs, next = some cs → cs.JobsValid) :
    JobsInvariant (ops.holdBatch channelID kind next world) := by
  refine ⟨inv.rows.congr jobs, ?_⟩
  intro other batch cs found loaded
  rcases Operations.holdBatch_cases found with ⟨-, rfl⟩ | ⟨-, found⟩
  · exact valid cs loaded
  · exact inv.held other batch cs found loaded

theorem operation (inv : JobsInvariant ops) {label : OperationStep} (effect : ops.Effect label after) :
    JobsInvariant after := by
  cases effect with
  | notLocked => exact inv
  | locked free loads =>
    refine inv.hold rfl fun cs held type job found => ?_
    subst held
    rw [loads.2.2] at found
    exact inv.rows job (Store.activeCallJobs_eq_some found).1
  | joined running effect keepsJobs =>
    exact inv.hold keepsJobs (effect.jobsValid fun cs held => inv.held _ _ cs (Operations.batch?_eq_some running) held)
  | left running effect =>
    exact inv.hold effect.jobIdentities
      (effect.jobsValid fun cs held => inv.held _ _ cs (Operations.batch?_eq_some running) held)
  | released =>
    refine ⟨inv.rows, fun other batch cs found loaded => ?_⟩
    rw [StringMap.get?_erase] at found
    split at found
    · cases found
    · exact inv.held other batch cs found loaded

/-- A step outside the batches that keeps the rows of jobs valid. -/
theorem world (inv : JobsInvariant ops) {world : World} (rows : world.store.JobsValid) :
    JobsInvariant { ops with world } := ⟨rows, inv.held⟩

end JobsInvariant

@[simp] theorem Cluster.afterOperation_ops (c : Cluster) (ops : Operations) (label : OperationStep) :
    (c.afterOperation ops label).ops = ops := by
  cases label with
  | lock => rfl
  | unlock => rfl
  | leave => rfl
  | join env channelID req =>
    simp only [Cluster.afterOperation]
    split
    · rfl
    · unfold Cluster.addRecord
      dsimp only
      split <;> rfl

theorem ReconnectEffect.jobIdentities {env : Env} {req : ReconnectRequest} {before after : Node}
    (effect : ReconnectEffect env req before after) :
    after.world.store.jobIdentities = before.world.store.jobIdentities := by
  cases effect with
  | refused => rfl
  | admitted admits effect =>
    cases effect with
    | repeated => rfl
    | botFailed fresh followed same => exact congrArg (·.2.2) same
    | replaced fresh followed same => exact congrArg (·.2.2) same

theorem JobsInvariant.cluster {owner : String → String} {c after : Cluster} (inv : JobsInvariant c.ops)
    {label : ClusterStep} (taken : c.next? owner label = some after) : JobsInvariant after.ops := by
  unfold Cluster.next? at taken
  split at taken
  · cases label with
    | operation label =>
      obtain ⟨ops, moved, rfl⟩ := Option.map_eq_some_iff.mp taken
      rw [Cluster.afterOperation_ops]
      exact inv.operation (Operations.next?_effect moved)
    | reconnect env req =>
      dsimp only at taken
      split at taken
      · cases taken
      · cases taken
        have effect := webSocketReconnect_spec env req ⟨c.ops.world, c.nodes env.nodeID, []⟩
        exact inv.world (inv.rows.congr effect.jobIdentities)
    | deliver nodeID msg =>
      dsimp only at taken
      split at taken
      · cases taken
        exact inv
      · cases taken
    | clear nodeID connID =>
      cases taken
      exact inv
  · cases taken

theorem JobsInvariant.step {owner : String → String} {run after : BotRun} (inv : JobsInvariant run.cluster.ops)
    {label : BotStep} (taken : run.next? owner label = some after) : JobsInvariant after.cluster.ops := by
  cases label with
  | cluster label =>
    obtain ⟨c, moved, rfl⟩ := Option.map_eq_some_iff.mp taken
    have kept := inv.cluster moved
    cases label <;> exact kept
  | jobs env channelID request =>
    simp only [BotRun.next?] at taken
    split at taken
    · cases taken
    · cases taken
      exact inv.world (request.handle_spec env channelID run.cluster.ops.world inv.rows).1

/-! ### Removing a session of the bot -/

theorem Store.jobOpen_eq_false_iff {store : Store} {jobID : String} :
    store.jobOpen jobID = false ↔ ∀ callID, jobID ∉ store.openJobs callID := by
  simp only [jobOpen, mem_openJobs, List.any_eq_false, decide_eq_true_eq, not_and, not_exists, KeyedTable.mem_def]
  constructor
  · intro ended callID row member _ unended named
    exact ended row member named unended
  · intro none row member named unended
    exact none row.callID row member rfl unended named

/-- The store operations of the removal succeed. -/
def RemovalsWork (run : BotRun) : BotStep → Prop
  | .cluster (.operation (.leave env _ ref)) => (∃ jobID, (ref.originalConnID, jobID) ∈ run.ties) → env.StoreWorks
  | _ => True

/-- A job tied to the session that is removed has ended already, or is one that the
removal ends: as the job of the bot whose connection is the session's original one,
together with what ends with it, or as the live captions of its current one. -/
def RemovalsLinked (run : BotRun) : BotStep → Prop
  | .cluster (.operation (.leave _ channelID ref)) =>
    ∀ cs, run.cluster.ops.batch? channelID .leaving = some (some cs) → cs.sessions.contains ref.originalConnID = true →
      ∀ jobID, (ref.originalConnID, jobID) ∈ run.ties → run.cluster.ops.world.store.jobOpen jobID = false ∨
        jobID ∈ cs.jobIDs (cs.endedByLeave ref.originalConnID ref.connID)
  | _ => True

/-- Which jobs are open after a session was removed. -/
theorem jobOpen_afterRemoval {env : Env} {channelID : String} {ref : SessionRef} {world : World} {cs : CallState}
    (works : env.StoreWorks) (valid : cs.JobsValid) (present : cs.sessions.contains ref.originalConnID = true)
    (jobID : String) :
    (removeUserSession env channelID ref ⟨world, cs⟩).2.world.store.jobOpen jobID = false ↔
      world.store.jobOpen jobID = false ∨ jobID ∈ cs.jobIDs (cs.endedByLeave ref.originalConnID ref.connID) := by
  have ends : EndsJobsAnyhow env _ _ ⟨world, cs⟩ (removeUserSession env channelID ref) :=
    removeUserSession_endsJobs works.writes valid (works _) present
  have closes : Store.Closes _ world.store _ := ends.rows
  simp only [Store.jobOpen_eq_false_iff, closes.mem_openJobs, not_and, not_not]
  constructor
  · intro all
    by_cases open_ : ∃ callID, jobID ∈ world.store.openJobs callID
    · obtain ⟨callID, listed⟩ := open_
      exact .inr (all callID listed)
    · exact .inl fun callID listed => open_ ⟨callID, listed⟩
  · intro either callID listed
    rcases either with none | ended
    · exact absurd listed (none callID)
    · exact ended

theorem newlyUnended_eq_nil {run : BotRun} (inv : JobsInvariant run.cluster.ops) {env : Env} {channelID : String}
    {ref : SessionRef} {after : Operations} (works : RemovalsWork run (.cluster (.operation (.leave env channelID ref))))
    (linked : RemovalsLinked run (.cluster (.operation (.leave env channelID ref))))
    (taken : run.cluster.ops.next? (.leave env channelID ref) = some after) :
    BotRun.newlyUnended run.ties run.cluster.ops.world.store after.world.store (.leave env channelID ref) = [] := by
  simp only [BotRun.newlyUnended]
  split
  · next removed =>
    have changed : after.world ≠ run.cluster.ops.world := by
      intro same
      rw [same, removed.1] at removed
      cases removed.2
    rw [List.filter_eq_nil_iff]
    intro jobID listed
    obtain ⟨⟨sessionID, tied⟩, member, rfl⟩ := List.mem_map.mp listed
    obtain ⟨member, named⟩ := List.mem_filter.mp member
    have named : sessionID = ref.originalConnID := by simpa using named
    subst named
    rcases Operations.leave_eq taken with ⟨-, same⟩ | ⟨cs, running, left⟩
    · exact absurd same changed
    · cases present : cs.sessions.contains ref.originalConnID with
      | false => exact absurd (left.trans (congrArg LockedCall.world (removeUserSession_absent present))) changed
      | true =>
        have valid := inv.held _ _ cs (Operations.batch?_eq_some running) rfl
        have ended : (removeUserSession env channelID ref ⟨run.cluster.ops.world, cs⟩).2.world.store.jobOpen tied = false :=
          (jobOpen_afterRemoval (works ⟨tied, member⟩) valid present tied).mpr (linked cs running present tied member)
        rw [left, ended]
        exact Bool.false_ne_true
  · rfl

/-- What holds along a run. -/
structure LinkedRun (run : BotRun) : Prop where
  jobs : JobsInvariant run.cluster.ops
  unended : run.unended = []

theorem LinkedRun.step {owner : String → String} {run after : BotRun} {label : BotStep} (kept : LinkedRun run)
    (works : RemovalsWork run label) (linked : RemovalsLinked run label) (taken : run.next? owner label = some after) :
    LinkedRun after := by
  refine ⟨kept.jobs.step taken, ?_⟩
  cases label with
  | jobs env channelID request =>
    simp only [BotRun.next?] at taken
    split at taken
    · cases taken
    · cases taken
      exact kept.unended
  | cluster label =>
    obtain ⟨c, moved, rfl⟩ := Option.map_eq_some_iff.mp taken
    cases label with
    | reconnect => exact kept.unended
    | deliver => exact kept.unended
    | clear => exact kept.unended
    | operation label =>
      dsimp only
      rw [kept.unended, List.nil_append]
      cases label with
      | lock => rfl
      | join => rfl
      | unlock => rfl
      | leave env channelID ref =>
        unfold Cluster.next? at moved
        split at moved
        · obtain ⟨ops, left, rfl⟩ := Option.map_eq_some_iff.mp moved
          rw [Cluster.afterOperation_ops]
          exact newlyUnended_eq_nil kept.jobs works linked left
        · cases moved

/-- The bot's connections are its own, every other one is alice's. -/
def aliceAndBot (connID : String) : String := if connID = "bot-1" ∨ connID = "bot-2" then "bot" else "alice"

/-- Alice starts a recording in a call, and the bot joins for it. -/
def recordingStarts : List BotStep :=
  [.cluster (.operation (.lock (.quiet 1000 "") "channel" .joining)),
    .cluster (.operation (.join (.quiet 1001 "call") "channel" (.plain "alice" "conn-1" ""))),
    .cluster (.operation (.unlock "channel")),
    .jobs (.quiet 1002 "rec") "channel" (.start "alice"),
    .jobs (.quiet 1003 "") "channel" (.recordingRan "alice" "" "" (.ok "job")),
    .cluster (.operation (.lock (.quiet 1004 "") "channel" .joining)),
    .cluster (.operation (.join (.quiet 1005 "") "channel" (.plain "bot" "bot-1" "rec"))),
    .cluster (.operation (.unlock "channel"))]

/-- The session that the bot has joined with is removed. -/
def botRemoved (connID : String) : List BotStep :=
  [.cluster (.operation (.lock (.quiet 3000 "") "channel" .leaving)),
    .cluster (.operation (.leave (.quiet 3001 "") "channel"
      { userID := "bot", originalConnID := "bot-1", connID }))]

/-- The condition on a step, as a check. -/
def checkLinked (run : BotRun) : BotStep → Bool
  | .cluster (.operation (.leave _ channelID ref)) =>
    match run.cluster.ops.batch? channelID .leaving with
    | some (some cs) => run.ties.all fun tie =>
        tie.1 ≠ ref.originalConnID ∨ tie.2 ∈ cs.jobIDs (cs.endedByLeave ref.originalConnID ref.connID)
    | _ => true
  | _ => true

theorem removalsLinked_of_check {run : BotRun} {label : BotStep} (checked : checkLinked run label = true) :
    RemovalsLinked run label := by
  unfold RemovalsLinked
  split
  · intro cs running _ jobID tied
    simp only [checkLinked, running, List.all_eq_true, decide_eq_true_eq] at checked
    exact .inr ((checked _ tied).resolve_left (by simp))
  · trivial

end Calls
