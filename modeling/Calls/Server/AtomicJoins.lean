import Calls.Server.SessionProperties

/-! Joins that return an error. The state is given back as it was, and the store keeps what
the writes before the one that failed have made of it. -/

set_option autoImplicit false

namespace Calls

open Command

/-- The state that `addUserSession` returns. It works on a copy of the one that it is given, and
returns the original on an error. -/
def returnedState (original : Option CallState) : Except String CallState → Option CallState
  | .ok joined => some joined
  | .error _ => original

/-- A join that returns an error has changed neither the state nor the store. -/
def JoinsAtomically (env : Env) (channelID : String) (state : Option CallState) (req : JoinRequest) (world : World) : Prop :=
  ∀ err, (addUserSession env channelID state req world).1 = .error err →
    returnedState state (addUserSession env channelID state req world).1 = state ∧
      (addUserSession env channelID state req world).2.store = world.store

namespace Store

def saveJobs (store : Store) (jobs : List CallJob) : Store := jobs.foldl saveJob store

@[simp] theorem saveJobs_nil (store : Store) : store.saveJobs [] = store := rfl

@[simp] theorem saveJobs_cons (store : Store) (job : CallJob) (jobs : List CallJob) :
    store.saveJobs (job :: jobs) = (store.saveJob job).saveJobs jobs := rfl

end Store

/-- The store with the call of a join, if it takes it. -/
def Env.callTaken? (env : Env) (joined : CallState) (store : Store) : Option Store :=
  if joined.sessions.size = 1 then Store.taken? (Store.createCall env.faults joined.call) store
  else Store.taken? (Store.updateCall env.faults joined.call) store

/-- A write of a join fails after others that have changed the store. -/
inductive TornWrites (env : Env) (jobs : List CallJob) (joined : CallState) (session : CallSession) (store : Store) : Prop where
  | job (failed : ∃ job ∈ jobs, env.saves job = false) (changed : store.saveJobs (jobs.takeWhile env.saves) ≠ store)
  | call (saved : ∀ job ∈ jobs, env.saves job = true) (failed : env.callTaken? joined (store.saveJobs jobs) = none)
      (changed : store.saveJobs jobs ≠ store)
  | session {after : Store} (saved : ∀ job ∈ jobs, env.saves job = true)
      (taken : env.callTaken? joined (store.saveJobs jobs) = some after)
      (failed : Store.taken? (Store.createCallSession env.faults session) after = none) (changed : after ≠ store)

/-- The request is let in, and one of its writes fails after others that have changed the store. -/
def TornJoin (env : Env) (channelID : String) (state : Option CallState) (req : JoinRequest) (store : Store) : Prop :=
  ∃ base jobs next, stateToJoin env channelID state req = .ok base ∧ checkJoin env base req = .ok () ∧
    jobsToStart env base req = .ok (jobs, next) ∧
    TornWrites env jobs (joinedState env next req) (newCallSession env next.call req) store

/-! ### The writes of a join -/

theorem wp_forEach_saves {env : Env} {change : String → String} {jobs : List CallJob} {post : Except String Unit → Store → Prop}
    {store : Store}
    (failed : ∀ err, (∃ job ∈ jobs, env.saves job = false) → post (.error err) (store.saveJobs (jobs.takeWhile env.saves)))
    (done : (∀ job ∈ jobs, env.saves job = true) → post (.ok ()) (store.saveJobs jobs)) :
    (forEach jobs fun job => (Store.updateCallJob env.faults job).mapError change).wp post store := by
  induction jobs generalizing store with
  | nil => exact done fun job member => by cases member
  | cons job jobs ih =>
    rw [forEach, wp_bind, wp_mapError]
    refine Env.wp_saves (fun err unsaved => ?_) fun saved => ?_
    · have stops := failed (change err) ⟨job, List.mem_cons_self, unsaved⟩
      rw [List.takeWhile_cons_of_neg (by simp [unsaved])] at stops
      exact stops
    · refine ih (fun err later => ?_) fun all => ?_
      · obtain ⟨other, member, unsaved⟩ := later
        have stops := failed err ⟨other, List.mem_cons_of_mem _ member, unsaved⟩
        rw [List.takeWhile_cons_of_pos saved] at stops
        exact stops
      · exact done (List.forall_mem_cons.mpr ⟨saved, all⟩)

theorem wp_writeJoin_taken {env : Env} {joined : CallState} {session : CallSession} {post : Except String Unit → Store → Prop}
    {before : Store} (refused : ∀ err, env.callTaken? joined before = none → post (.error err) before)
    (torn : ∀ err after, env.callTaken? joined before = some after →
      Store.taken? (Store.createCallSession env.faults session) after = none → post (.error err) after)
    (done : ∀ after final, env.callTaken? joined before = some after →
      Store.taken? (Store.createCallSession env.faults session) after = some final → post (.ok ()) final) :
    (writeJoin env joined session).wp post before := by
  have writeSession (after : Store) (taken : env.callTaken? joined before = some after) :
      ((Store.createCallSession env.faults session).mapError ("failed to create call session: " ++ ·)).wp post after := by
    rw [wp_mapError]
    exact (Store.createCallSession_whole env.faults session).wp (fun err => torn _ after taken) fun final => done after final taken
  unfold Env.callTaken? at refused writeSession
  unfold writeJoin
  rw [wp_bind, wp_ite]
  refine ⟨fun first => ?_, fun later => ?_⟩
  · rw [if_pos first] at refused
    rw [wp_mapError]
    refine (Store.createCall_whole env.faults joined.call).wp (fun err => refused _) fun after taken => ?_
    exact writeSession after (by rw [if_pos first]; exact taken)
  · rw [if_neg later] at refused
    rw [wp_mapError]
    refine (Store.updateCall_whole env.faults joined.call).wp (fun err => refused _) fun after taken => ?_
    exact writeSession after (by rw [if_neg later]; exact taken)

/-! ### When a join is atomic -/

theorem tornJoin_of_planned {env : Env} {channelID : String} {state : Option CallState} {req : JoinRequest} {store : Store}
    {base next : CallState} {jobs : List CallJob} (found : stateToJoin env channelID state req = .ok base)
    (checked : checkJoin env base req = .ok ()) (planned : jobsToStart env base req = .ok (jobs, next)) :
    TornJoin env channelID state req store ↔
      TornWrites env jobs (joinedState env next req) (newCallSession env next.call req) store := by
  constructor
  · intro facts
    obtain ⟨base', jobs', next', found', -, planned', torn⟩ := facts
    rw [found] at found'
    cases found'
    rw [planned] at planned'
    cases planned'
    exact torn
  · exact fun torn => ⟨base, jobs, next, found, checked, planned, torn⟩

theorem TornJoin.planned {env : Env} {channelID : String} {state : Option CallState} {req : JoinRequest} {store : Store}
    {base : CallState} (torn : TornJoin env channelID state req store) (found : stateToJoin env channelID state req = .ok base) :
    checkJoin env base req = .ok () ∧ ∃ plan, jobsToStart env base req = .ok plan := by
  obtain ⟨base', jobs, next, found', checked, planned, -⟩ := torn
  rw [found] at found'
  cases found'
  exact ⟨checked, _, planned⟩

section
variable {env : Env} {jobs : List CallJob} {joined : CallState} {session : CallSession} {store : Store}

theorem tornWrites_of_job (failed : ∃ job ∈ jobs, env.saves job = false) :
    TornWrites env jobs joined session store ↔ store.saveJobs (jobs.takeWhile env.saves) ≠ store := by
  refine ⟨fun torn => ?_, .job failed⟩
  obtain ⟨job, member, unsaved⟩ := failed
  cases torn with
  | job _ changed => exact changed
  | call saved => simp [saved job member] at unsaved
  | session saved => simp [saved job member] at unsaved

theorem tornWrites_of_call (saved : ∀ job ∈ jobs, env.saves job = true) (failed : env.callTaken? joined (store.saveJobs jobs) = none) :
    TornWrites env jobs joined session store ↔ store.saveJobs jobs ≠ store := by
  refine ⟨fun torn => ?_, .call saved failed⟩
  cases torn with
  | job unsaved =>
    obtain ⟨job, member, unsaved⟩ := unsaved
    simp [saved job member] at unsaved
  | call _ _ changed => exact changed
  | session _ taken => simp [failed] at taken

theorem tornWrites_of_session {after : Store} (saved : ∀ job ∈ jobs, env.saves job = true)
    (taken : env.callTaken? joined (store.saveJobs jobs) = some after) :
    TornWrites env jobs joined session store ↔
      Store.taken? (Store.createCallSession env.faults session) after = none ∧ after ≠ store := by
  refine ⟨fun torn => ?_, fun torn => .session saved taken torn.1 torn.2⟩
  cases torn with
  | job unsaved =>
    obtain ⟨job, member, unsaved⟩ := unsaved
    simp [saved job member] at unsaved
  | call _ failed => simp [failed] at taken
  | session _ taken' failed changed =>
    rw [taken] at taken'
    cases taken'
    exact ⟨failed, changed⟩

end

/-- A join returns an error with a changed store exactly where its writes are torn. -/
theorem addUserSession_torn (env : Env) (channelID : String) (state : Option CallState) (req : JoinRequest) (world : World) :
    (addUserSession env channelID state req).wp (fun result after =>
      (∃ err, result = .error err ∧ after.store ≠ world.store) ↔ TornJoin env channelID state req world.store) world := by
  have refused (err : String) (whole : ¬ TornJoin env channelID state req world.store) :
      (∃ err', (.error err : Except String CallState) = .error err' ∧ world.store ≠ world.store) ↔
        TornJoin env channelID state req world.store := by simp [whole]
  unfold addUserSession
  cases found : stateToJoin env channelID state req with
  | error err =>
    refine refused err fun torn => ?_
    obtain ⟨base, jobs, next, found', -⟩ := torn
    rw [found] at found'
    cases found'
  | ok base =>
    dsimp only
    cases checked : checkJoin env base req with
    | error err =>
      refine refused err fun torn => ?_
      have allowed := (torn.planned found).1
      rw [checked] at allowed
      cases allowed
    | ok allowed =>
      dsimp only
      unfold botJoin
      cases planned : jobsToStart env base req with
      | error err =>
        refine refused err fun torn => ?_
        obtain ⟨plan, planned'⟩ := (torn.planned found).2
        rw [planned] at planned'
        cases planned'
      | ok plan =>
        obtain ⟨jobs, next⟩ := plan
        rw [tornJoin_of_planned found checked planned, wp_bind, Handler.onStore, wp_zoom]
        dsimp only
        rw [wp_bind]
        refine wp_forEach_saves (fun err failed => ?_) fun saved => ?_
        · rw [andThen_error, tornWrites_of_job failed]
          simp
        · rw [andThen_ok, wp_pure, andThen_ok, wp_bind, Handler.onStore, wp_zoom]
          refine wp_writeJoin_taken (fun err failed => ?_) (fun err after taken failed => ?_) fun after final taken inserted => ?_
          · rw [andThen_error, tornWrites_of_call saved failed]
            simp
          · rw [andThen_error, tornWrites_of_session saved taken]
            simp [failed]
          · have joins (last : Store) :
                (∃ err, (.ok (joinedState env next req) : Except String CallState) = .error err ∧ last ≠ world.store) ↔
                  TornWrites env jobs (joinedState env next req) (newCallSession env next.call req) world.store := by
              rw [tornWrites_of_session saved taken]
              simp [inserted]
            rw [andThen_ok, wp_bind, wp_when]
            exact ⟨fun _ => joins final, fun _ => joins final⟩

theorem joinsAtomically_iff {env : Env} {channelID : String} {state : Option CallState} {req : JoinRequest} {world : World} :
    JoinsAtomically env channelID state req world ↔ ¬ TornJoin env channelID state req world.store := by
  have torn : (∃ err, (addUserSession env channelID state req world).1 = .error err ∧
      (addUserSession env channelID state req world).2.store ≠ world.store) ↔ TornJoin env channelID state req world.store :=
    addUserSession_torn env channelID state req world
  rw [← torn]
  unfold JoinsAtomically
  simp only [not_exists, not_and, not_not]
  refine forall_congr' fun err => forall_congr' fun failed => ?_
  rw [failed]
  exact and_iff_right rfl

/-- Alice is alone in her call. -/
def aliceHosts : CallState where
  call :=
    { id := "call", channelID := "channel", startAt := 1000, createAt := 1000, ownerID := "alice",
      props := { CallProps.zero with hosts := ["alice"] } }
  sessions := KeyedTable.empty.put { id := "conn-1", callID := "call", userID := "alice", joinAt := 1000 }
  recording := none
  transcription := none
  liveCaptions := none

/-- Her call in the store, which has a session of Bob left from another one. -/
def aliceHostsStored : World :=
  { World.empty with
    store :=
      { Store.empty with
        calls := KeyedTable.empty.put aliceHosts.call
        sessions := aliceHosts.sessions.put { id := "conn-2", callID := "other", userID := "bob", joinAt := 900 } } }

/-- Bob joins: his session cannot be created, and the row of the call says that he is in it. -/
theorem not_joinsAtomically : ¬ ∀ (env : Env) (channelID : String) (state : Option CallState) (req : JoinRequest) (world : World),
    JoinsAtomically env channelID state req world := by
  intro all
  have kept := (all (.quiet 2000 "") "channel" (some aliceHosts) (.plain "bob" "conn-2" "") aliceHostsStored
    "failed to create call session: failed to run query" (by decide +kernel)).2
  revert kept
  decide +kernel

end Calls
