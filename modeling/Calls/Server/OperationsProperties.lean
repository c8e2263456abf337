import Calls.Server.Operations
import Calls.Server.JoinProperties

/-! What one step of the operations can do, for every pattern of failures. -/

set_option autoImplicit false

namespace Calls

open LockedHandler Command

/-- What the lock of a channel finds in the store. -/
def Store.Loads (store : Store) (channelID : String) : Option CallState → Prop
  | none => store.activeCall? channelID = none
  | some cs =>
    store.activeCall? channelID = some cs.call ∧ cs.sessions = store.callSessions cs.call.id ∧
      ∀ type, cs.job? type = store.activeCallJobs cs.call.id type

theorem Store.Loads.unique {store : Store} {channelID : String} {left right : Option CallState}
    (leftLoads : store.Loads channelID left) (rightLoads : store.Loads channelID right) : left = right := by
  cases left with
  | none =>
    cases right with
    | none => rfl
    | some right => simp [Loads] at leftLoads rightLoads; simp [leftLoads] at rightLoads
  | some left =>
    cases right with
    | none => simp [Loads] at leftLoads rightLoads; simp [rightLoads] at leftLoads
    | some right =>
      obtain ⟨leftCall, leftSessions, leftJobs⟩ := leftLoads
      obtain ⟨rightCall, rightSessions, rightJobs⟩ := rightLoads
      have sameCall : left.call = right.call := Option.some.inj (leftCall.symm.trans rightCall)
      have sameJobs (type : JobType) : left.job? type = right.job? type := by rw [leftJobs, rightJobs, sameCall]
      have sameSessions : left.sessions = right.sessions := by rw [leftSessions, rightSessions, sameCall]
      have recordings := sameJobs .recording
      have transcriptions := sameJobs .transcribing
      have captions := sameJobs .captioning
      cases left
      cases right
      simp only [CallState.job?] at recordings transcriptions captions
      simp_all

/-- The lock of the channel is acquired and the call is loaded. -/
structure Env.Serves (env : Env) (channelID callID : String) : Prop where
  locks : env.lockFails = false
  finds : env.faults (.getActiveCallByChannelID channelID) = false
  sessions : env.faults (.getCallSessions callID) = false
  jobs : env.faults (.getActiveCallJobs callID) = false

/-- A query fails, or it answers; it changes nothing. -/
theorem Store.wp_query {α : Type} {faults : Faults} {op : StoreOp} {answer : Store → α} {store : Store}
    {post : Except String α → Store → Prop} (failed : ∀ err, faults op = true → post (.error err) store)
    (answered : faults op = false → post (.ok (answer store)) store) :
    (guarded faults op (Command.get >>= fun store => pure (answer store))).wp post store := by
  unfold guarded
  rw [wp_ite]
  exact ⟨fun broken => failed _ broken, fun works => answered (by simpa using works)⟩

section
variable (env : Env)

theorem getCallStateFromCall_spec (call : Call) (store : Store) :
    (getCallStateFromCall env call).wp (fun result after => after = store ∧
      ((∃ err, result = .error err) ∧ ¬ env.StoreWorks ∨
        ∃ cs, result = .ok cs ∧ cs.call = call ∧ cs.sessions = store.callSessions call.id ∧
          (∀ type, cs.job? type = store.activeCallJobs call.id type) ∧
          env.faults (.getCallSessions call.id) = false ∧ env.faults (.getActiveCallJobs call.id) = false)) store := by
  unfold getCallStateFromCall Store.getCallSessions Store.getActiveCallJobs
  rw [wp_bind, wp_mapError]
  refine Store.wp_query (fun err broken => ⟨rfl, .inl ⟨⟨_, rfl⟩, fun works => ?_⟩⟩) fun sessionsWork => ?_
  · rw [works] at broken
    cases broken
  · dsimp only [Except.mapError]
    rw [andThen_ok, wp_bind, wp_mapError]
    refine Store.wp_query (fun err broken => ⟨rfl, .inl ⟨⟨_, rfl⟩, fun works => ?_⟩⟩) fun jobsWork => ?_
    · rw [works] at broken
      cases broken
    · refine ⟨rfl, .inr ⟨_, rfl, rfl, rfl, fun type => ?_, sessionsWork, jobsWork⟩⟩
      cases type <;> rfl

theorem getCallState_spec (channelID : String) (store : Store) :
    (getCallState env channelID).wp (fun result after => after = store ∧
      ((∃ err, result = .error err) ∧ ¬ env.StoreWorks ∨
        ∃ state, result = .ok state ∧ store.Loads channelID state ∧
          env.faults (.getActiveCallByChannelID channelID) = false ∧
          ∀ cs, state = some cs →
            env.faults (.getCallSessions cs.call.id) = false ∧ env.faults (.getActiveCallJobs cs.call.id) = false))
      store := by
  unfold getCallState Store.getActiveCallByChannelID
  rw [wp_bind, wp_mapError]
  refine Store.wp_query (fun err broken => ⟨rfl, .inl ⟨⟨_, rfl⟩, fun works => ?_⟩⟩) fun finds => ?_
  · rw [works] at broken
    cases broken
  · dsimp only [Except.mapError]
    rw [andThen_ok]
    cases found : store.activeCall? channelID with
    | none => exact ⟨rfl, .inr ⟨none, rfl, found, finds, fun cs held => by cases held⟩⟩
    | some call =>
      dsimp only
      rw [wp_bind]
      refine wp_mono (getCallStateFromCall_spec env call store) ?_
      intro result after effect
      obtain ⟨same, ⟨⟨err, failed⟩, broken⟩ | ⟨cs, returned, sameCall, sameSessions, sameJobs, works⟩⟩ := effect
      · cases failed
        exact ⟨same, .inl ⟨⟨_, rfl⟩, broken⟩⟩
      · cases returned
        rw [andThen_ok, wp_pure]
        rw [← sameCall] at found sameSessions sameJobs works
        refine ⟨same, .inr ⟨some cs, rfl, ⟨found, sameSessions, sameJobs⟩, finds, fun held loaded => ?_⟩⟩
        cases loaded
        exact works

theorem lockCallReturnState_spec (channelID : String) (world : World) :
    (lockCallReturnState env channelID).wp (fun result after => after = world ∧
      ((∃ err, result = .error err) ∧ ¬ (env.StoreWorks ∧ env.lockFails = false) ∨
        ∃ state, result = .ok state ∧ world.store.Loads channelID state ∧
          ∀ cs, state = some cs → env.Serves channelID cs.call.id)) world := by
  unfold lockCallReturnState
  rw [wp_ite]
  constructor
  · intro fails
    exact ⟨rfl, .inl ⟨⟨_, rfl⟩, fun fine => by simp [fails] at fine⟩⟩
  · intro locks
    rw [wp_mapError, Handler.onStore, wp_zoom]
    refine wp_mono (getCallState_spec env channelID world.store) ?_
    intro result after effect
    obtain ⟨rfl, ⟨⟨err, rfl⟩, broken⟩ | ⟨state, rfl, loads, finds, works⟩⟩ := effect
    · exact ⟨rfl, .inl ⟨⟨_, rfl⟩, fun fine => broken fine.1⟩⟩
    · exact ⟨rfl, .inr ⟨state, rfl, loads, fun cs held => ⟨by simpa using locks, finds, (works cs held).1, (works cs held).2⟩⟩⟩

end

namespace Operations

/-- Everything a step can do. -/
inductive Effect (ops : Operations) : OperationStep → Operations → Prop where
  | notLocked {env : Env} {channelID : String} {kind : BatchKind} :
      ¬ (env.StoreWorks ∧ env.lockFails = false) → Effect ops (.lock env channelID kind) ops
  | locked {env : Env} {channelID : String} {kind : BatchKind} {state : Option CallState} :
      ops.held.contains channelID = false → ops.world.store.Loads channelID state →
      Effect ops (.lock env channelID kind) (ops.holdBatch channelID kind state ops.world)
  | joined {env : Env} {channelID : String} {req : JoinRequest} {state next : Option CallState} {world : World} :
      ops.batch? channelID .joining = some state →
      AddEffect env channelID state req ops.world.store next world.store →
      world.store.jobIdentities = ops.world.store.jobIdentities →
      Effect ops (.join env channelID req) (ops.holdBatch channelID .joining next world)
  | left {env : Env} {channelID : String} {ref : SessionRef} {state next : Option CallState} {world : World} :
      ops.batch? channelID .leaving = some state → LeaveEffect env ref ops.world state next world →
      Effect ops (.leave env channelID ref) (ops.holdBatch channelID .leaving next world)
  | released {channelID : String} : Effect ops (.unlock channelID) { ops with held := ops.held.erase channelID }

theorem batch?_eq_some {ops : Operations} {channelID : String} {kind : BatchKind}
    {state : Option CallState} (running : ops.batch? channelID kind = some state) :
    ops.held.get? channelID = some ⟨kind, state⟩ := by
  obtain ⟨⟨held, loaded⟩, found, rfl⟩ := Option.map_eq_some_iff.mp running
  obtain ⟨found, same⟩ := Option.mem_filter_iff.mp found
  have same : held = kind := by simpa using same
  rw [← same]
  exact found

theorem runItem_eq_some {ops after : Operations} {channelID : String} {kind : BatchKind}
    {item : Option CallState → Handler (Option CallState)} {post : Option CallState → Option CallState → World → Prop}
    (spec : ∀ state, (item state).wp (fun result world => ∃ next, result = .ok next ∧ post state next world) ops.world)
    (ran : ops.runItem channelID kind item = some after) :
    ∃ state next world, ops.batch? channelID kind = some state ∧ post state next world ∧
      after = ops.holdBatch channelID kind next world := by
  obtain ⟨state, running, rfl⟩ := Option.map_eq_some_iff.mp ran
  obtain ⟨next, returned, holds⟩ := spec state
  refine ⟨state, next, _, running, holds, ?_⟩
  generalize ended : item state ops.world = outcome at returned
  obtain ⟨result, world⟩ := outcome
  cases returned
  rfl

theorem next?_effect {ops after : Operations} {step : OperationStep} (taken : ops.next? step = some after) :
    ops.Effect step after := by
  cases step with
  | lock env channelID kind =>
    simp only [next?] at taken
    split at taken
    · cases taken
    · next free =>
      cases taken
      have spec := lockCallReturnState_spec env channelID ops.world
      unfold lock
      rw [wp] at spec
      generalize lockCallReturnState env channelID ops.world = outcome at spec
      obtain ⟨result, world⟩ := outcome
      obtain ⟨rfl, ⟨⟨err, rfl⟩, broken⟩ | ⟨state, rfl, loads, -⟩⟩ := spec
      · exact .notLocked broken
      · exact .locked (by simpa using free) loads
  | join env channelID req =>
    have spec (state : Option CallState) : (addSessionToCall env channelID state req).wp (fun result world =>
        ∃ next, result = .ok next ∧ AddEffect env channelID state req ops.world.store next world.store ∧
          world.store.jobIdentities = ops.world.store.jobIdentities) ops.world := by
      have keeps := (addSessionToCall_preserves env channelID state req).run ops.world
      obtain ⟨next, returned, effect⟩ := addSessionToCall_spec env channelID state req ops.world
      exact ⟨next, returned, effect, keeps⟩
    obtain ⟨state, next, world, running, ⟨effect, keeps⟩, rfl⟩ := runItem_eq_some spec taken
    exact .joined running effect keeps
  | leave env channelID ref =>
    obtain ⟨state, next, world, running, effect, rfl⟩ :=
      runItem_eq_some (fun state => removeSessionFromCall_spec env channelID state ref ops.world) taken
    exact .left running effect
  | unlock channelID =>
    cases taken
    exact .released

/-- A step of a leave runs the removal on the state of its batch. -/
theorem leave_eq {ops after : Operations} {env : Env} {channelID : String} {ref : SessionRef}
    (taken : ops.next? (.leave env channelID ref) = some after) :
    (ops.batch? channelID .leaving = some none ∧ after.world = ops.world) ∨
      ∃ cs, ops.batch? channelID .leaving = some (some cs) ∧
        after.world = (removeUserSession env channelID ref ⟨ops.world, cs⟩).2.world := by
  obtain ⟨state, running, rfl⟩ := Option.map_eq_some_iff.mp taken
  cases state with
  | none => exact .inl ⟨running, rfl⟩
  | some cs => exact .inr ⟨cs, running, rfl⟩

/-- Every session that a step adds is that of the connection of a join. -/
theorem Effect.sessions_from {ops after : Operations} {step : OperationStep} (effect : ops.Effect step after) :
    ∀ session ∈ after.world.store.sessions, session ∈ ops.world.store.sessions ∨
      ∃ env channelID req, step = .join env channelID req ∧ session.id = req.connID ∧
        session.userID = req.userID := by
  intro session found
  cases effect with
  | notLocked => exact .inl found
  | locked => exact .inl found
  | @joined env channelID req _ _ _ _ effect _ =>
    rcases effect.sessions_from session found with old | named
    · exact .inl old
    · exact .inr ⟨env, channelID, req, rfl, named⟩
  | left _ effect => exact .inl (effect.sessions_shrink session found)
  | released => exact .inl found

end Operations

end Calls
