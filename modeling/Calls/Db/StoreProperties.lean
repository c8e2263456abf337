import Calls.Db.Store

/-! What each store operation can do: it fails and changes nothing, or it has
the one effect it is named for. -/

set_option autoImplicit false

namespace Calls.Store

@[simp] theorem saveCall_sessions (store : Store) (call : Call) :
    (store.saveCall call).sessions = store.sessions := rfl

@[simp] theorem saveCall_jobs (store : Store) (call : Call) : (store.saveCall call).jobs = store.jobs := rfl

@[simp] theorem saveJob_calls (store : Store) (job : CallJob) : (store.saveJob job).calls = store.calls := rfl

@[simp] theorem saveJob_sessions (store : Store) (job : CallJob) :
    (store.saveJob job).sessions = store.sessions := rfl

theorem mem_saveCall {store : Store} {call row : Call} :
    row ∈ (store.saveCall call).calls ↔
      (row ∈ store.calls ∧ row.id ≠ call.id) ∨
        ∃ previous ∈ store.calls, previous.id = call.id ∧ previous.updatedFrom call = row := by
  simp only [saveCall, KeyedTable.mem_modify]

theorem mem_saveJob {store : Store} {job row : CallJob} :
    row ∈ (store.saveJob job).jobs ↔
      (row ∈ store.jobs ∧ row.id ≠ job.id) ∨
        ∃ previous ∈ store.jobs, previous.id = job.id ∧ previous.updatedFrom job = row := by
  simp only [saveJob, KeyedTable.mem_modify]

theorem mem_saveSession {store : Store} {session row : CallSession} :
    row ∈ (store.saveSession session).sessions ↔
      (row ∈ store.sessions ∧ row.id ≠ session.id) ∨
        ∃ previous ∈ store.sessions, previous.id = session.id ∧ previous.updatedFrom session = row := by
  simp only [saveSession, KeyedTable.mem_modify]

@[simp] theorem saveJob_jobIdentities (store : Store) (job : CallJob) :
    (store.saveJob job).jobIdentities = store.jobIdentities := by
  unfold jobIdentities saveJob KeyedTable.modify
  rw [List.map_map]
  apply List.map_congr_left
  intro row _
  simp only [Function.comp_apply]
  split <;> rfl

def JobsValid (store : Store) : Prop := ∀ job ∈ store.jobs, job.isValid = .ok ()

theorem JobsValid.congr {left right : Store} (valid : left.JobsValid)
    (same : right.jobIdentities = left.jobIdentities) : right.JobsValid := by
  intro job member
  have listed : job.identity ∈ left.jobIdentities := by
    rw [← same]
    exact List.mem_map_of_mem member
  obtain ⟨other, otherMember, equal⟩ := List.mem_map.mp listed
  rw [← CallJob.isValid_congr equal]
  exact valid other otherMember

section
variable {faults : Faults} {store : Store}

/-- An operation whose failures change nothing. -/
theorem wp_guarded {α : Type} {op : StoreOp} {query : StoreCommand α} {post : Except String α → Store → Prop}
    (failed : ∀ err, post (.error err) store) (done : faults op = false → query.wp post store) :
    (guarded faults op query).wp post store := by
  unfold guarded
  rw [Command.wp_ite]
  exact ⟨fun _ => failed _, fun works => done (by simpa using works)⟩

theorem guarded_run {α : Type} {op : StoreOp} {query : StoreCommand α} (works : faults op = false) :
    guarded faults op query = query := by simp [guarded, works]

theorem wp_updateCall {call : Call} {post : Except String Unit → Store → Prop}
    (failed : ∀ err, post (.error err) store)
    (done : call.isValid = .ok () → faults (.updateCall call.id) = false →
      post (.ok ()) (store.saveCall call)) :
    (updateCall faults call).wp post store := by
  unfold updateCall
  cases valid : call.isValid with
  | error err => exact failed _
  | ok value => exact wp_guarded failed fun works => done valid works

theorem updateCall_run {call : Call} (valid : call.isValid = .ok ())
    (works : faults (.updateCall call.id) = false) :
    updateCall faults call store = (.ok (), store.saveCall call) := by
  simp only [updateCall, valid, guarded_run works]
  rfl

/-- Both ends of an update, with what the one that fails lacked. -/
theorem wp_updateCall_cases (faults : Faults) (store : Store) (call : Call) :
    (updateCall faults call).wp (fun result after =>
      (result = .ok () ∧ after = store.saveCall call) ∨
        ((∃ err, result = .error err) ∧ after = store ∧
          ¬ (call.isValid = .ok () ∧ faults (.updateCall call.id) = false))) store := by
  by_cases works : call.isValid = .ok () ∧ faults (.updateCall call.id) = false
  · rw [Command.wp, updateCall_run works.1 works.2]
    exact .inl ⟨rfl, rfl⟩
  · exact wp_updateCall (fun err => .inr ⟨⟨err, rfl⟩, rfl, works⟩) fun valid fine => absurd ⟨valid, fine⟩ works

theorem wp_createCall {call : Call} {post : Except String Unit → Store → Prop}
    (failed : ∀ err, post (.error err) store)
    (done : ∀ calls, call.isValid = .ok () → faults (.createCall call.id) = false →
      store.calls.insert? call = some calls → post (.ok ()) { store with calls }) :
    (createCall faults call).wp post store := by
  unfold createCall
  cases valid : call.isValid with
  | error err => exact failed _
  | ok value =>
    refine wp_guarded failed fun works => ?_
    rw [Command.wp_bind, Command.wp_get, Command.andThen_ok]
    cases inserted : store.calls.insert? call with
    | none => exact failed _
    | some calls => exact done calls valid works inserted

theorem wp_createCallSession {session : CallSession} {post : Except String Unit → Store → Prop}
    (failed : ∀ err, session.isValid ≠ .ok () ∨ faults (.createCallSession session.id) = true ∨
      store.sessions.contains session.id = true → post (.error err) store)
    (done : ∀ sessions, store.sessions.insert? session = some sessions →
      post (.ok ()) { store with sessions }) :
    (createCallSession faults session).wp post store := by
  unfold createCallSession
  cases valid : session.isValid with
  | error err => exact failed _ (.inl (by rw [valid]; simp))
  | ok value =>
    dsimp only
    unfold guarded
    rw [Command.wp_ite]
    refine ⟨fun broken => failed _ (.inr (.inl broken)), fun _ => ?_⟩
    rw [Command.wp_bind, Command.wp_get, Command.andThen_ok]
    cases inserted : store.sessions.insert? session with
    | none => exact failed _ (.inr (.inr (KeyedTable.insert?_eq_none_iff.mp inserted)))
    | some sessions => exact done sessions inserted

theorem wp_createCallJob {job : CallJob} {post : Except String Unit → Store → Prop}
    (failed : ∀ err, job.isValid ≠ .ok () ∨ faults (.createCallJob job.id) = true ∨
      store.jobs.contains job.id = true → post (.error err) store)
    (done : ∀ jobs, job.isValid = .ok () → store.jobs.insert? job = some jobs → post (.ok ()) { store with jobs }) :
    (createCallJob faults job).wp post store := by
  unfold createCallJob
  cases valid : job.isValid with
  | error err => exact failed _ (.inl (by rw [valid]; simp))
  | ok value =>
    dsimp only
    unfold guarded
    rw [Command.wp_ite]
    refine ⟨fun broken => failed _ (.inr (.inl broken)), fun _ => ?_⟩
    rw [Command.wp_bind, Command.wp_get, Command.andThen_ok]
    cases inserted : store.jobs.insert? job with
    | none => exact failed _ (.inr (.inr (KeyedTable.insert?_eq_none_iff.mp inserted)))
    | some jobs => exact done jobs valid inserted

theorem wp_updateCallSession {session : CallSession} {post : Except String Unit → Store → Prop}
    (failed : ∀ err, post (.error err) store)
    (done : session.isValid = .ok () → faults (.updateCallSession session.id) = false →
      post (.ok ()) (store.saveSession session)) :
    (updateCallSession faults session).wp post store := by
  unfold updateCallSession
  cases valid : session.isValid with
  | error err => exact failed _
  | ok value => exact wp_guarded failed fun works => done valid works

theorem wp_deleteCallSession {id : String} {post : Except String Unit → Store → Prop}
    (failed : ∀ err, faults (.deleteCallSession id) = true → post (.error err) store)
    (done : faults (.deleteCallSession id) = false →
      post (.ok ()) { store with sessions := store.sessions.erase id }) :
    (deleteCallSession faults id).wp post store := by
  unfold deleteCallSession guarded
  rw [Command.wp_ite]
  exact ⟨fun broken => failed _ broken, fun works => done (by simpa using works)⟩

theorem wp_updateCallJob {job : CallJob} {post : Except String Unit → Store → Prop}
    (failed : ∀ err, post (.error err) store)
    (done : job.isValid = .ok () → faults (.updateCallJob job.id) = false →
      post (.ok ()) (store.saveJob job)) :
    (updateCallJob faults job).wp post store := by
  unfold updateCallJob
  cases valid : job.isValid with
  | error err => exact failed _
  | ok value => exact wp_guarded failed fun works => done valid works

theorem updateCallJob_run {job : CallJob} (valid : job.isValid = .ok ())
    (works : faults (.updateCallJob job.id) = false) :
    updateCallJob faults job store = (.ok (), store.saveJob job) := by
  simp only [updateCallJob, valid, guarded_run works]
  rfl

/-- What writing a job leaves alone. -/
def apartFromJobs (store : Store) :
    KeyedTable Call.id × KeyedTable CallSession.id × List (String × String × JobType × String × Int) :=
  (store.calls, store.sessions, store.jobIdentities)

theorem updateCallJob_preserves (job : CallJob) :
    Command.Preserves apartFromJobs (updateCallJob faults job) := by
  refine .of_wp fun store => ?_
  exact wp_updateCallJob (fun _ => rfl) fun _ _ => by simp [apartFromJobs]

end

/-! ### Writes that fail -/

/-- What the store is after a write that it takes. -/
def taken? (write : StoreCommand Unit) (store : Store) : Option Store :=
  match write store with
  | (.ok (), after) => some after
  | (.error _, _) => none

/-- A write that fails has no effect. -/
def Whole (write : StoreCommand Unit) : Prop :=
  ∀ store, write.wp (fun result after => ∀ err, result = .error err → after = store) store

theorem Whole.wp {write : StoreCommand Unit} (whole : Whole write) {post : Except String Unit → Store → Prop} {store : Store}
    (failed : ∀ err, taken? write store = none → post (.error err) store)
    (done : ∀ after, taken? write store = some after → post (.ok ()) after) : write.wp post store := by
  have same := whole store
  unfold Command.wp at same ⊢
  unfold taken? at failed done
  cases ran : write store with
  | mk result after =>
    rw [ran] at same failed done
    cases result with
    | error err =>
      obtain rfl := same err rfl
      exact failed err rfl
    | ok value => exact done after rfl

section
variable (faults : Faults)

theorem createCall_whole (call : Call) : Whole (createCall faults call) := fun _ =>
  wp_createCall (fun _ _ _ => rfl) fun _ _ _ _ _ ended => by cases ended

theorem updateCall_whole (call : Call) : Whole (updateCall faults call) := fun _ =>
  wp_updateCall (fun _ _ _ => rfl) fun _ _ _ ended => by cases ended

theorem createCallSession_whole (session : CallSession) : Whole (createCallSession faults session) := fun _ =>
  wp_createCallSession (fun _ _ _ _ => rfl) fun _ _ _ ended => by cases ended

theorem createCallJob_whole (job : CallJob) : Whole (createCallJob faults job) := fun _ =>
  wp_createCallJob (fun _ _ _ _ => rfl) fun _ _ _ _ ended => by cases ended

end

end Calls.Store
