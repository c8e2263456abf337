import Calls.Server.Session
import Calls.Server.JobsProperties

/-! What a join and a leave can do to the calls and the sessions, in the store
and in memory, for every pattern of failures. -/

set_option autoImplicit false

namespace Calls

open LockedHandler Command

/-! ### Joining -/

/-- The parts of a call that no join, host election or participant list touches. -/
structure Call.SameButPeople (left right : Call) : Prop where
  identity : left.identity = right.identity
  endAt : left.endAt = right.endAt
  stats : left.stats = right.stats
  sharing : left.props.screenSharingSessionID = right.props.screenSharingSessionID
  sharedAt : left.props.screenStartAt = right.props.screenStartAt

namespace Call.SameButPeople

theorem refl (call : Call) : call.SameButPeople call := ⟨rfl, rfl, rfl, rfl, rfl⟩

theorem trans {left middle right : Call} (first : left.SameButPeople middle)
    (second : middle.SameButPeople right) : left.SameButPeople right :=
  ⟨first.identity.trans second.identity, first.endAt.trans second.endAt, first.stats.trans second.stats,
    first.sharing.trans second.sharing, first.sharedAt.trans second.sharedAt⟩

end Call.SameButPeople

theorem Call.electOnJoin_same (env : Env) (sessions : SessionMap) (call : Call) :
    (call.electOnJoin env sessions).SameButPeople call := by
  unfold Call.electOnJoin
  dsimp only
  split
  · exact .refl call
  · exact ⟨rfl, rfl, rfl, rfl, rfl⟩

theorem Call.addParticipant_same (env : Env) (userID : String) (call : Call) :
    (call.addParticipant env userID).SameButPeople call := by
  unfold Call.addParticipant
  split
  · exact .refl call
  · exact ⟨rfl, rfl, rfl, rfl, rfl⟩

theorem joinedState_same (env : Env) (state : CallState) (req : JoinRequest) :
    (joinedState env state req).call.SameButPeople state.call :=
  (Call.addParticipant_same env req.userID _).trans (Call.electOnJoin_same env _ state.call)

/-! ### Starting a call -/

/-- The state of a call that nobody has joined yet. -/
structure FreshState (env : Env) (channelID : String) (req : JoinRequest) (base : CallState) : Prop where
  call : base.call.SameButPeople (newCall env channelID req)
  sessions : base.sessions = .empty
  jobs : ∀ type, base.job? type = none

/-- The request is one that starts a call: it is let in, and the store takes the row. -/
structure StartsCall (env : Env) (channelID : String) (req : JoinRequest) (store : Store) : Prop where
  permitted : userCanStartOrJoin env req = .ok ()
  hosted : ∀ err, env.rtcdHost ≠ some (.error err)
  room : ∀ limit, env.config.maxCallParticipants = some limit → 0 ≤ limit
  user : req.userID ≠ env.botID
  named : env.newID ≠ "" ∧ channelID ≠ ""
  created : env.faults (.createCall env.newID) = false
  fresh : store.calls.contains env.newID = false

theorem stateToJoin_none {env : Env} {channelID : String} {req : JoinRequest} {base : CallState}
    (found : stateToJoin env channelID none req = .ok base) :
    userCanStartOrJoin env req = .ok () ∧ (∀ err, env.rtcdHost ≠ some (.error err)) ∧
      FreshState env channelID req base := by
  unfold stateToJoin at found
  dsimp only at found
  cases permitted : userCanStartOrJoin env req with
  | error err => simp [permitted] at found
  | ok value =>
    simp only [permitted, newCallState] at found
    have jobs (call : Call) (type : JobType) : CallState.job? ⟨call, .empty, none, none, none⟩ type = none := by
      cases type <;> rfl
    cases hosted : env.rtcdHost with
    | none =>
      simp only [hosted] at found
      cases found
      exact ⟨rfl, fun err => by simp, .refl _, rfl, jobs _⟩
    | some answer =>
      cases answer with
      | error err => simp [hosted] at found
      | ok host =>
        simp only [hosted] at found
        cases found
        exact ⟨rfl, fun err => by simp, ⟨rfl, rfl, rfl, rfl, rfl⟩, rfl, jobs _⟩

/-- The props of a new call only say where it is hosted. -/
theorem stateToJoin_props {env : Env} {channelID : String} {req : JoinRequest} {base : CallState}
    (found : stateToJoin env channelID none req = .ok base) :
    base.call.props = { CallProps.zero with rtcdHost := base.call.props.rtcdHost, nodeID := env.nodeID } := by
  unfold stateToJoin at found
  dsimp only at found
  cases permitted : userCanStartOrJoin env req with
  | error err => simp [permitted] at found
  | ok value =>
    simp only [permitted, newCallState] at found
    split at found
    · cases found
      rfl
    · cases found
    · cases found
      rfl

theorem FreshState.first {env : Env} {channelID : String} {req : JoinRequest} {base : CallState}
    (fresh : FreshState env channelID req base) : (joinedState env base req).sessions.size = 1 := by
  simp only [joinedState, fresh.sessions, KeyedTable.size]
  rw [KeyedTable.rows_put_fresh rfl]
  rfl

/-- A session insert that the store refuses. -/
def Store.RefusesSession (env : Env) (store : Store) (session : CallSession) : Prop :=
  session.isValid ≠ .ok () ∨ env.faults (.createCallSession session.id) = true ∨
    store.sessions.contains session.id = true

/-- The table of calls after the call of a join was written: a new row for the
first session, an updated one for any other. -/
def CallWritten (env : Env) (joined : CallState) (before : Store) (calls : KeyedTable Call.id) : Prop :=
  joined.call.isValid = .ok () ∧
    ((joined.sessions.size = 1 ∧ env.faults (.createCall joined.call.id) = false ∧
        before.calls.insert? joined.call = some calls) ∨
      (joined.sessions.size ≠ 1 ∧ calls = (before.saveCall joined.call).calls))

/-- Everything a join can do, by how far it gets. -/
inductive JoinEffect (env : Env) (channelID : String) (state : Option CallState) (req : JoinRequest)
    (before : Store) : Except String CallState → Store → Prop where
  | refused {err : String} {after : Store} :
      after.calls = before.calls → after.sessions = before.sessions →
      JoinEffect env channelID state req before (.error err) after
  | callOnly {err : String} {after : Store} {base : CallState} :
      stateToJoin env channelID state req = .ok base → checkJoin env base req = .ok () →
      (∃ planned, jobsToStart env base req = .ok planned) →
      CallWritten env (joinedState env base req) before after.calls → after.sessions = before.sessions →
      before.RefusesSession env (newCallSession env base.call req) →
      JoinEffect env channelID state req before (.error err) after
  | joined {after : Store} {base joined : CallState} :
      stateToJoin env channelID state req = .ok base → checkJoin env base req = .ok () →
      (∃ planned, jobsToStart env base req = .ok planned) →
      CallWritten env (joinedState env base req) before after.calls →
      before.sessions.insert? (newCallSession env base.call req) = some after.sessions →
      joined.call = (joinedState env base req).call →
      joined.sessions = (joinedState env base req).sessions →
      (base.JobsValid → joined.JobsValid) →
      JoinEffect env channelID state req before (.ok joined) after

/-- A join that found no call and wrote one was a request that starts a call. -/
theorem CallWritten.starts {env : Env} {channelID : String} {req : JoinRequest} {base : CallState}
    {before : Store} {calls : KeyedTable Call.id} (found : stateToJoin env channelID none req = .ok base)
    (checked : checkJoin env base req = .ok ()) (planned : ∃ planned, jobsToStart env base req = .ok planned)
    (written : CallWritten env (joinedState env base req) before calls) :
    StartsCall env channelID req before ∧ before.calls.insert? (joinedState env base req).call = some calls := by
  obtain ⟨permitted, hosted, fresh⟩ := stateToJoin_none found
  obtain ⟨valid, ⟨-, created, inserted⟩ | ⟨later, -⟩⟩ := written
  · have identity : (joinedState env base req).call.identity = (newCall env channelID req).identity :=
      (joinedState_same env base req).identity.trans fresh.call.identity
    have named : (joinedState env base req).call.id = env.newID := congrArg Prod.fst identity
    rw [Call.isValid_congr identity, Call.isValid_ok_iff] at valid
    refine ⟨⟨permitted, hosted, ?_, ?_, ⟨valid.1, valid.2.1⟩, by rwa [named] at created, ?_⟩, inserted⟩
    · intro limit limited
      unfold checkJoin at checked
      have empty : base.sessions.size = 0 := by rw [fresh.sessions]; rfl
      split at checked
      · cases checked
      · split at checked
        · cases checked
        · split at checked
          · next room =>
            simp only [joinAllowed, limited, empty] at room
            simp at room
            omega
          · cases checked
    · intro isBot
      obtain ⟨plan, planned⟩ := planned
      have noRecording : base.recording = none := fresh.jobs .recording
      have noTranscription : base.transcription = none := fresh.jobs .transcribing
      simp [jobsToStart, isBot, noRecording, noTranscription] at planned
    · rw [← named]
      exact (KeyedTable.insert?_eq_some inserted).1
  · exact absurd fresh.first later

/-- The row of an existing call is not created again. -/
theorem CallWritten.saved {env : Env} {joined : CallState} {before : Store} {calls : KeyedTable Call.id}
    (written : CallWritten env joined before calls) (exists_row : ∃ row ∈ before.calls, row.id = joined.call.id) :
    calls = (before.saveCall joined.call).calls := by
  obtain ⟨-, ⟨-, -, inserted⟩ | ⟨-, saved⟩⟩ := written
  · obtain ⟨row, member, named⟩ := exists_row
    exact absurd named (KeyedTable.contains_eq_false_iff.mp (KeyedTable.insert?_eq_some inserted).1 row member)
  · exact saved

theorem withJob_call (cs : CallState) (job : CallJob) (type : JobType) : (cs.withJob job type).call = cs.call := by
  cases type <;> rfl

theorem withJob_sessions (cs : CallState) (job : CallJob) (type : JobType) :
    (cs.withJob job type).sessions = cs.sessions := by
  cases type <;> rfl

theorem jobsToStart_call {env : Env} {state next : CallState} {req : JoinRequest} {jobs : List CallJob}
    (planned : jobsToStart env state req = .ok (jobs, next)) :
    next.call = state.call ∧ next.sessions = state.sessions := by
  simp only [jobsToStart] at planned
  split at planned
  · cases planned; exact ⟨rfl, rfl⟩
  · split at planned
    · cases planned
    · split at planned
      · cases planned; exact ⟨rfl, rfl⟩
      · split at planned <;> cases planned <;> exact ⟨rfl, rfl⟩
      · cases planned

theorem jobsToStart_valid {env : Env} {state next : CallState} {req : JoinRequest} {jobs : List CallJob}
    (planned : jobsToStart env state req = .ok (jobs, next)) (valid : state.JobsValid) : next.JobsValid := by
  have started (type : JobType) {job : CallJob} {condition : CallJob → Bool}
      (found : (state.job? type).filter condition = some job) : (job.withBot req.connID).isValid = .ok () :=
    valid type job (Option.mem_filter_iff.mp found).1
  simp only [jobsToStart] at planned
  split at planned
  · cases planned; exact valid
  · split at planned
    · cases planned
    · split at planned
      · next found => cases planned; exact valid.withJob (started .recording found)
      · next found =>
        split at planned
        · cases planned; exact valid.withJob (started .transcribing found)
        · next captions =>
          cases planned
          exact (valid.withJob (started .captioning captions)).withJob (started .transcribing found)
      · cases planned

/-- Tying the jobs to the bot touches nothing else. -/
theorem botJoin_spec (env : Env) (state : CallState) (req : JoinRequest) (before : Store) :
    (botJoin env state req).wp (fun result after =>
      after.calls = before.calls ∧ after.sessions = before.sessions ∧
        ∀ next, result = .ok next → next.call = state.call ∧ next.sessions = state.sessions ∧
          (state.JobsValid → next.JobsValid) ∧ ∃ planned, jobsToStart env state req = .ok planned) before := by
  unfold botJoin
  split
  · exact ⟨rfl, rfl, fun next returned => by cases returned⟩
  · next jobs planned plan =>
    have keeps : Maintains (fun store : Store => store.apartFromJobs = before.apartFromJobs)
        (forEach jobs fun job =>
          (Store.updateCallJob env.faults job).mapError ("failed to update call job: " ++ ·)) :=
      .forEach (fun job => (Store.updateCallJob_preserves job _).mapError) jobs
    rw [wp_bind]
    refine wp_mono (keeps.wp rfl) fun result after kept => ?_
    simp only [Store.apartFromJobs, Prod.mk.injEq] at kept
    cases result with
    | error err => exact ⟨kept.1, kept.2.1, fun next returned => by cases returned⟩
    | ok value =>
      refine ⟨kept.1, kept.2.1, fun next returned => ?_⟩
      cases returned
      obtain ⟨sameCall, sameSessions⟩ := jobsToStart_call plan
      exact ⟨sameCall, sameSessions, jobsToStart_valid plan, _, plan⟩

theorem joinedState_congr (env : Env) {left right : CallState} (req : JoinRequest)
    (sameCall : left.call = right.call) (sameSessions : left.sessions = right.sessions) :
    (joinedState env left req).call = (joinedState env right req).call ∧
      (joinedState env left req).sessions = (joinedState env right req).sessions := by
  simp [joinedState, sameCall, sameSessions]

/-- The two writes of a join: the second is not tried when the first fails, and
the first is not undone when the second fails. -/
theorem wp_writeJoin (env : Env) (joined : CallState) (session : CallSession) {before : Store}
    {post : Except String Unit → Store → Prop}
    (failed : ∀ err, post (.error err) before)
    (callOnly : ∀ err after, CallWritten env joined before after.calls → after.sessions = before.sessions →
      before.RefusesSession env session → post (.error err) after)
    (done : ∀ after, CallWritten env joined before after.calls →
      before.sessions.insert? session = some after.sessions → post (.ok ()) after) :
    (writeJoin env joined session).wp post before := by
  have writeSession : ∀ middle : Store, CallWritten env joined before middle.calls →
      middle.sessions = before.sessions →
      ((Store.createCallSession env.faults session).mapError
        ("failed to create call session: " ++ ·)).wp post middle := by
    intro middle written same
    rw [wp_mapError]
    refine Store.wp_createCallSession (fun err refusal => ?_) fun sessions inserted => ?_
    · exact callOnly _ _ written same (by rwa [same] at refusal)
    · exact done _ written (by rwa [same] at inserted)
  unfold writeJoin
  rw [wp_bind, wp_ite]
  constructor
  · intro first
    rw [wp_mapError]
    refine Store.wp_createCall (fun err => failed _) fun calls valid works inserted => ?_
    exact writeSession _ ⟨valid, .inl ⟨first, works, inserted⟩⟩ rfl
  · intro later
    rw [wp_mapError]
    refine Store.wp_updateCall (fun err => failed _) fun valid works => ?_
    exact writeSession _ ⟨valid, .inr ⟨later, rfl⟩⟩ rfl

theorem addUserSession_spec (env : Env) (channelID : String) (state : Option CallState) (req : JoinRequest)
    (before : World) :
    (addUserSession env channelID state req).wp
      (fun result after => JoinEffect env channelID state req before.store result after.store) before := by
  unfold addUserSession
  cases found : stateToJoin env channelID state req with
  | error err => exact .refused rfl rfl
  | ok base =>
    dsimp only
    cases checked : checkJoin env base req with
    | error err => exact .refused rfl rfl
    | ok allowed =>
      dsimp only
      rw [wp_bind, Handler.onStore, wp_zoom]
      refine wp_mono (botJoin_spec env base req before.store) ?_
      intro result afterJobs facts
      obtain ⟨sameCalls, sameSessions, returned⟩ := facts
      cases result with
      | error err => exact .refused sameCalls sameSessions
      | ok next =>
        obtain ⟨nextCall, nextSessions, nextValid, planned⟩ := returned next rfl
        obtain ⟨joinedCall, joinedSessions⟩ := joinedState_congr env req nextCall nextSessions
        have written : ∀ calls, CallWritten env (joinedState env next req) afterJobs calls →
            CallWritten env (joinedState env base req) before.store calls := by
          intro calls write
          simpa only [CallWritten, joinedCall, joinedSessions, sameCalls, Store.saveCall] using write
        rw [andThen_ok, wp_bind, Handler.onStore, wp_zoom, nextCall]
        refine wp_writeJoin env _ _ (fun err => ?_) (fun err after write kept refusal => ?_)
          fun after write inserted => ?_
        · exact .refused sameCalls sameSessions
        · refine .callOnly found checked planned (written _ write) (kept.trans sameSessions) ?_
          simpa only [Store.RefusesSession, sameSessions] using refusal
        · rw [andThen_ok, wp_bind, wp_when]
          rw [sameSessions] at inserted
          constructor <;> intro _ <;>
            exact .joined found checked planned (written _ write) inserted joinedCall joinedSessions nextValid

end Calls
