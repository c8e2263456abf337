import Calls.Db.StoreProperties
import Calls.Server.JobHandlers

/-! The handlers of jobs work on the jobs of a call and nothing else, and the
mutual recursion of the two stop functions is at most two calls deep. -/

set_option autoImplicit false

namespace Calls

open LockedHandler Command

/-- Whether the store takes an update of a job. -/
def Env.saves (env : Env) (job : CallJob) : Bool := job.isValid = .ok () ∧ env.faults (.updateCallJob job.id) = false

theorem Env.wp_saves {env : Env} {job : CallJob} {post : Except String Unit → Store → Prop} {store : Store}
    (failed : ∀ err, env.saves job = false → post (.error err) store)
    (done : env.saves job = true → post (.ok ()) (store.saveJob job)) :
    (Store.updateCallJob env.faults job).wp post store := by
  by_cases saves : job.isValid = .ok () ∧ env.faults (.updateCallJob job.id) = false
  · rw [wp, Store.updateCallJob_run saves.1 saves.2]
    exact done (decide_eq_true saves)
  · exact Store.wp_updateCallJob (fun err => failed err (decide_eq_false saves)) fun valid works => absurd ⟨valid, works⟩ saves

/-- A request to stop a job is told to its bot, or refused. -/
theorem stopJob_maintains {env : Env} {channelID jobID botUserID : String} {invariant : World → Prop}
    (tells : Maintains invariant (Handler.publish env (.jobStop jobID) { userID := botUserID, reliableClusterSend := true })) :
    Maintains invariant (stopJob env channelID jobID botUserID) := by
  unfold stopJob
  exact (Maintains.throw _).ite ((Maintains.throw _).ite ((Maintains.throw _).ite tells))

/-- Everything a handler of jobs leaves alone. -/
def LockedCall.apart (locked : LockedCall) :
    (KeyedTable Call.id × KeyedTable CallSession.id × List (String × String × JobType × String × Int)) ×
      StringMap CallPost × Call × SessionMap :=
  (locked.world.store.apartFromJobs, locked.world.posts, locked.state.call, locked.state.sessions)

namespace LockedHandler

theorem onWorld_preserves {α : Type} {command : Handler α}
    (keeps : Preserves (fun world => (world.store.apartFromJobs, world.posts)) command) :
    Preserves LockedCall.apart (onWorld command) := by
  refine .of_run fun locked => ?_
  have kept := keeps.run locked.world
  simp only [Prod.mk.injEq] at kept
  simp [LockedCall.apart, onWorld, zoom, kept]

theorem onStore_preserves {α : Type} {command : StoreCommand α}
    (keeps : Preserves Store.apartFromJobs command) :
    Preserves LockedCall.apart (onStore command) := by
  apply onWorld_preserves
  refine .of_run fun world => ?_
  have kept := keeps.run world.store
  simp [Handler.onStore, zoom, kept]

theorem publish_preserves (env : Env) (ev : WsEvent) (broadcast : WebSocketBroadcast) :
    Preserves (fun world : World => (world.store.apartFromJobs, world.posts))
      (Handler.publish env ev broadcast) := .of_run fun _ => rfl

theorem wp_getState {post : Except String CallState → LockedCall → Prop} {locked : LockedCall} :
    getState.wp post locked ↔ post (.ok locked.state) locked := Iff.rfl

theorem getState_preserves : Preserves LockedCall.apart getState :=
  Preserves.get.bind fun _ => .pure _

theorem publishToParticipants_preserves (env : Env) (channelID : String) (ev : WsEvent) :
    Preserves LockedCall.apart (publishToParticipants env channelID ev) :=
  getState_preserves.bind fun _ => onWorld_preserves (publish_preserves env _ _)

theorem withJob_preserves (job : CallJob) (type : JobType) :
    Preserves LockedCall.apart (modifyState (·.withJob job type)) := by
  refine .of_run fun locked => ?_
  cases type <;> rfl

theorem saveJob_preserves (env : Env) (job : CallJob) (type : JobType) :
    Preserves LockedCall.apart (saveJob env job type) :=
  (withJob_preserves job type).bind fun _ =>
    (onStore_preserves (Store.updateCallJob_preserves job)).mapError

end LockedHandler

theorem stopJob_preserves (env : Env) (channelID jobID botUserID : String) :
    Preserves LockedCall.apart (onWorld (stopJob env channelID jobID botUserID)) := by
  apply onWorld_preserves
  exact fun seen => stopJob_maintains (publish_preserves env _ _ seen)

/-- What the handlers of jobs leave alone they leave as it was. -/
theorem keptByJobs_apart (env : Env) (channelID : String) (seen) :
    KeptByJobs env channelID (fun locked => locked.apart = seen) where
  memory job type := withJob_preserves job type seen
  update job := onStore_preserves (Store.updateCallJob_preserves job) seen
  tell _ := publishToParticipants_preserves env channelID _ seen
  stop jobID := stopJob_preserves env channelID jobID env.botID seen

/-! ### Valid jobs stay valid, and a store that works saves them -/

/-- What is checked before a job is written; the fields it checks never change. -/
def CallState.JobsValid (cs : CallState) : Prop := ∀ type job, cs.job? type = some job → job.isValid = .ok ()

@[simp] theorem CallJob.isValid_ended (job : CallJob) (now : Instant) : (job.ended now).isValid = job.isValid := rfl

@[simp] theorem CallJob.isValid_withBot (job : CallJob) (connID : String) :
    (job.withBot connID).isValid = job.isValid := rfl

@[simp] theorem CallJob.isValid_withErr (job : CallJob) (err : String) :
    (job.withErr err).isValid = job.isValid := rfl

theorem CallState.job?_withJob (cs : CallState) (job : CallJob) (type other : JobType) :
    (cs.withJob job type).job? other = if other = type then some job else cs.job? other := by
  cases type <;> cases other <;> rfl

theorem CallState.JobsValid.withJob {cs : CallState} {job : CallJob} {type : JobType} (valid : cs.JobsValid)
    (jobValid : job.isValid = .ok ()) : (cs.withJob job type).JobsValid := by
  intro other held found
  rw [CallState.job?_withJob] at found
  split at found
  · cases found; exact jobValid
  · exact valid other held found

/-- The jobs of the state a handler works on are valid. -/
abbrev LockedCall.JobsValid (locked : LockedCall) : Prop := locked.state.JobsValid

namespace LockedHandler

theorem onWorld_jobsValid {α : Type} (command : Handler α) : Maintains LockedCall.JobsValid (onWorld command) :=
  fun _ valid => valid

theorem publish_succeeds (env : Env) (ev : WsEvent) (broadcast : WebSocketBroadcast) :
    Succeeds LockedCall.JobsValid (onWorld (Handler.publish env ev broadcast)) :=
  fun _ valid => ⟨(), _, rfl, valid⟩

/-- What follows on reading the state may rely on its jobs being valid. -/
theorem getState_bind_succeeds {α : Type} {next : CallState → LockedHandler α}
    (succeeds : ∀ state, state.JobsValid → Succeeds LockedCall.JobsValid (next state)) :
    Succeeds LockedCall.JobsValid (getState >>= next) :=
  fun locked valid => succeeds locked.state valid locked valid

theorem publishJobState_succeeds (env : Env) (channelID : String) (job : CallJob) :
    Succeeds LockedCall.JobsValid (publishJobState env channelID job) :=
  getState_bind_succeeds fun _ _ => publish_succeeds env _ _

theorem withJob_succeeds {job : CallJob} (type : JobType) (valid : job.isValid = .ok ()) :
    Succeeds LockedCall.JobsValid (modifyState (·.withJob job type)) :=
  .modify fun _ held => held.withJob valid

theorem saveJob_succeeds {env : Env} (works : env.WritesWork) {job : CallJob} (type : JobType)
    (valid : job.isValid = .ok ()) : Succeeds LockedCall.JobsValid (saveJob env job type) := by
  refine (withJob_succeeds type valid).bind fun _ => .mapError fun locked held => ?_
  refine ⟨(), { locked with world := { locked.world with store := locked.world.store.saveJob job } }, ?_, held⟩
  simp only [onStore, onWorld, Handler.onStore, zoom, Store.updateCallJob_run valid (works.jobs _)]

end LockedHandler

/-- What is checked of a job does not change where it ends. -/
theorem keptByEnding_jobsValid (env : Env) (channelID : String) :
    KeptByEnding env channelID (fun job => job.isValid = .ok ()) LockedCall.JobsValid where
  held_of _ valid := valid
  congr _ _ valid same := (CallJob.isValid_congr same).trans valid
  memory _ type valid := (withJob_succeeds type valid).maintains
  ends _ _ _ := onWorld_jobsValid _
  tell _ := getState_maintains.bind fun _ => onWorld_jobsValid _
  stop _ := onWorld_jobsValid _

theorem stopRecordingJob_jobsValid (env : Env) (channelID : String) :
    Maintains LockedCall.JobsValid (stopRecordingJob env channelID) := (keptByEnding_jobsValid env channelID).stopRecordingJob

theorem stopTranscribingJob_jobsValid (env : Env) (channelID : String) :
    Maintains LockedCall.JobsValid (stopTranscribingJob env channelID) :=
  (keptByEnding_jobsValid env channelID).stopTranscribingJob

end Calls
