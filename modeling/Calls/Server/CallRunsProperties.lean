import Calls.Server.CallViews

/-! The steps of the runs of calls, each of which changes a call in the store as
its operation changes one in memory. -/

set_option autoImplicit false

namespace Calls

open Command LockedHandler

/-! ### Changes of the host -/

/-- Everything a request to change the host can do to the store. -/
inductive HostEffect (env : Env) (requesterID channelID newHostID : String) (before : Store) :
    Except String Unit → Store → Prop where
  | refused {err : String} : HostEffect env requesterID channelID newHostID before (.error err) before
  | locked {cs : CallState} :
      before.Loads channelID (some cs) → cs.call.changeHost env requesterID newHostID cs.sessions = .ok cs.call →
      HostEffect env requesterID channelID newHostID before (.ok ()) before
  | changed {cs : CallState} {call : Call} :
      before.Loads channelID (some cs) → cs.call.changeHost env requesterID newHostID cs.sessions = .ok call →
      HostEffect env requesterID channelID newHostID before (.ok ()) (before.saveCall call)

theorem changeHost_spec (env : Env) (requesterID channelID newHostID : String) (before : World) :
    (changeHost env requesterID channelID newHostID).wp
      (fun result after => HostEffect env requesterID channelID newHostID before.store result after.store) before := by
  unfold changeHost
  rw [wp_bind, wp_mapError]
  refine wp_mono (lockCallReturnState_spec env channelID before) ?_
  intro result world effect
  obtain ⟨rfl, ⟨⟨err, rfl⟩, -⟩ | ⟨state, rfl, loads, -⟩⟩ := effect
  · exact .refused
  · cases state with
    | none => exact .refused
    | some cs =>
      dsimp only [Except.mapError]
      rw [andThen_ok]
      dsimp only
      cases accepted : cs.call.changeHost env requesterID newHostID cs.sessions with
      | error err => exact .refused
      | ok call =>
        dsimp only
        rw [wp_bind, wp_when]
        constructor
        · intro _
          rw [wp_mapError, Handler.onStore, wp_zoom]
          refine Store.wp_updateCall (fun err => .refused) fun valid saves => ?_
          dsimp only [Except.mapError]
          rw [andThen_ok, wp_when]
          exact ⟨fun _ => .changed loads accepted, fun _ => .changed loads accepted⟩
        · intro unwritten
          simp only [not_or, not_not] at unwritten
          obtain ⟨sameHost, isLocked⟩ := unwritten
          have unchanged : call = cs.call := by
            simp only [Call.changeHost, sameHost, if_true, Call.lockHost, if_neg isLocked] at accepted
            split at accepted
            · cases accepted
            · split at accepted
              · cases accepted
              · exact (Except.ok.inj accepted).symm
          rw [andThen_ok, wp_when]
          subst unchanged
          exact ⟨fun _ => .locked loads accepted, fun _ => .locked loads accepted⟩

/-- What a request that is accepted makes of the call. -/
theorem Call.changeHost_ok {env : Env} {requesterID newHostID : String} {sessions : SessionMap} {call changed : Call}
    (accepted : call.changeHost env requesterID newHostID sessions = .ok changed) :
    newHostID ≠ env.botID ∧
      (call.getHostID = newHostID ∧ changed = call.lockHost newHostID ∨
        isUserIDInCall sessions newHostID = true ∧ changed = call.replaceHost newHostID) := by
  unfold changeHost at accepted
  split at accepted
  · cases accepted
  · split at accepted
    · cases accepted
    · next user =>
      split at accepted
      · next same => exact ⟨user, .inl ⟨same, (Except.ok.inj accepted).symm⟩⟩
      · split at accepted
        · cases accepted
        · next present => exact ⟨user, .inr ⟨by simpa using present, (Except.ok.inj accepted).symm⟩⟩

theorem Call.changeHost_identity {env : Env} {requesterID newHostID : String} {sessions : SessionMap} {call changed : Call}
    (accepted : call.changeHost env requesterID newHostID sessions = .ok changed) :
    changed.identity = call.identity ∧ changed.endAt = call.endAt := by
  obtain ⟨-, ⟨-, rfl⟩ | ⟨-, rfl⟩⟩ := changeHost_ok accepted
  · unfold lockHost
    split <;> exact ⟨rfl, rfl⟩
  · exact ⟨rfl, rfl⟩

/-- Whoever is named is the host from then on. -/
theorem Call.changeHost_named {env : Env} {requesterID newHostID : String} {sessions : SessionMap} {call changed : Call}
    (accepted : call.changeHost env requesterID newHostID sessions = .ok changed) :
    changed.getHostID = newHostID ∧ changed.props.screenSharingSessionID = call.props.screenSharingSessionID := by
  obtain ⟨-, ⟨same, rfl⟩ | ⟨-, rfl⟩⟩ := changeHost_ok accepted
  · unfold lockHost
    split <;> exact ⟨same, rfl⟩
  · exact ⟨rfl, rfl⟩

section
variable {channelID : String} {before after : Store} {cs : CallState}

theorem Store.Loads.mirrored (loads : before.Loads channelID (some cs)) (jobs : before.JobsValid) :
    cs.MirroredBy before channelID ∧ Store.isActive cs.call = true := by
  obtain ⟨found, sameSessions, sameJobs⟩ := loads
  obtain ⟨member, channel, active⟩ := Store.activeCall?_eq_some found
  refine ⟨⟨fun type job held => ?_, channel, ?_⟩, active⟩
  · rw [sameJobs] at held
    exact jobs job (Store.activeCallJobs_eq_some held).1
  · rw [Store.callView?, KeyedTable.find?_self member, Option.map_some, CallState.view, sameSessions]

/-- Saving the call that was loaded, with its sessions as they are. -/
theorem ItemMirrored.saved {step : CallStep} {call : Call} (valid : before.CallsValid) (owned : before.SessionsOwned)
    (mirrored : cs.MirroredBy before channelID) (identity : call.identity = cs.call.identity)
    (change : CallChange step (some cs.view) (some ⟨call.apartFromPost, cs.sessions⟩)) :
    ItemMirrored step channelID before (before.saveCall call) none := by
  have changes : before.ChangesCall cs.call.id (before.saveCall call) ⟨call.apartFromPost, cs.sessions⟩ :=
    mirrored.save identity rfl mirrored.sessions fun _ _ => rfl
  refine .of_changesCall (valid.save ((Call.isValid_congr identity).trans (mirrored.valid valid)) rfl)
    (owned.mono (fun callID known => ?_) fun session member => ?_) changes (fun old held => ?_) (fun _ held => by cases held) ?_
  · rwa [Store.saveCall, KeyedTable.contains_modify]
  · exact ⟨(owned session member).1, .inl ⟨session, member, rfl⟩⟩
  · rw [mirrored.view] at held
    cases held
    exact mirrored.channel
  · rwa [mirrored.view]

theorem HostEffect.mirrored {env : Env} {requesterID newHostID : String} {result : Except String Unit}
    (effect : HostEffect env requesterID channelID newHostID before result after) (valid : before.CallsValid)
    (owned : before.SessionsOwned) (jobs : before.JobsValid) :
    ItemMirrored (.changeHost env requesterID channelID newHostID) channelID before after none := by
  cases effect with
  | refused => exact .unchanged valid owned (fun _ held => by cases held) rfl rfl
  | locked => exact .unchanged valid owned (fun _ held => by cases held) rfl rfl
  | changed loads accepted =>
    obtain ⟨mirrored, active⟩ := loads.mirrored jobs
    exact .saved valid owned mirrored (Call.changeHost_identity accepted).1 (.hostChanged active accepted)

end

/-! ### Messages about video -/

theorem Call.toggleVideo_sharer (now : Instant) (sessionID : String) (call : Call) (msg : VideoMessage) :
    (call.toggleVideo now sessionID msg).props.screenSharingSessionID = call.props.screenSharingSessionID := by
  cases msg with
  | on => rfl
  | off =>
    simp only [Call.toggleVideo]
    split
    · rfl
    · split <;> rfl

theorem Call.toggleVideo_identity (now : Instant) (sessionID : String) (call : Call) (msg : VideoMessage) :
    (call.toggleVideo now sessionID msg).identity = call.identity ∧
      (call.toggleVideo now sessionID msg).endAt = call.endAt := by
  cases msg with
  | on => exact ⟨rfl, rfl⟩
  | off =>
    simp only [toggleVideo]
    split
    · exact ⟨rfl, rfl⟩
    · split <;> exact ⟨rfl, rfl⟩

/-- Everything a message about video can do to the store. -/
inductive VideoEffect (env : Env) (us : UserSession) (msg : VideoMessage) (handlerID : String) (rtcSends : Bool)
    (before : Store) : Store → Prop where
  | refused : VideoEffect env us msg handlerID rtcSends before before
  | sessionOnly {cs : CallState} {session : CallSession} :
      before.Loads us.channelID (some cs) → cs.sessions.find? us.originalConnID = some session →
      ¬ (env.StoreWorks ∧ before.CallsValid) →
      VideoEffect env us msg handlerID rtcSends before (before.saveSession { session with video := msg = .on })
  | toggled {cs : CallState} {session : CallSession} :
      VideoHandled env handlerID rtcSends → before.Loads us.channelID (some cs) →
      cs.sessions.find? us.originalConnID = some session →
      VideoEffect env us msg handlerID rtcSends before
        ((before.saveSession { session with video := msg = .on }).saveCall (cs.call.toggleVideo env.now us.originalConnID msg))

theorem handleClientMessageTypeVideo_spec (env : Env) (us : UserSession) (msg : VideoMessage) (handlerID : String)
    (rtcSends : Bool) (before : World) :
    (handleClientMessageTypeVideo env us msg handlerID rtcSends).wp
      (fun _ after => VideoEffect env us msg handlerID rtcSends before.store after.store) before := by
  unfold handleClientMessageTypeVideo
  rw [wp_ite]
  refine ⟨fun _ => .refused, fun forwards => ?_⟩
  rw [wp_ite]
  refine ⟨fun _ => .refused, fun sends => ?_⟩
  rw [wp_bind, wp_mapError]
  refine wp_mono (lockCallReturnState_spec env us.channelID before) ?_
  intro result world effect
  obtain ⟨rfl, ⟨⟨err, rfl⟩, -⟩ | ⟨state, rfl, loads, served⟩⟩ := effect
  · exact .refused
  · cases state with
    | none => exact .refused
    | some cs =>
      dsimp only [Except.mapError]
      rw [andThen_ok]
      dsimp only
      cases found : cs.sessions.find? us.originalConnID with
      | none => exact .refused
      | some session =>
        dsimp only
        rw [wp_bind, wp_mapError, Handler.onStore, wp_zoom]
        refine Store.wp_updateCallSession (fun err => .refused) fun _ _ => ?_
        dsimp only [Except.mapError]
        rw [andThen_ok, wp_bind, wp_mapError, Handler.onStore, wp_zoom]
        refine wp_mono (Store.wp_updateCall_cases _ _ _) ?_
        intro result after effect
        rcases effect with ⟨rfl, rfl⟩ | ⟨⟨err, rfl⟩, rfl, unsaved⟩
        · exact .toggled ⟨by simpa using forwards, by simpa using sends, (served cs rfl).locks⟩ loads found
        · refine .sessionOnly loads found fun fine => unsaved ⟨?_, fine.1 _⟩
          exact (Call.isValid_congr (Call.toggleVideo_identity _ _ _ _).1).trans
            (fine.2 cs.call (Store.activeCall?_eq_some loads.1).1)

theorem VideoEffect.mirrored {env : Env} {us : UserSession} {msg : VideoMessage} {before after : Store}
    {handlerID : String} {rtcSends : Bool} (works : env.StoreWorks)
    (effect : VideoEffect env us msg handlerID rtcSends before after) (valid : before.CallsValid)
    (owned : before.SessionsOwned) (jobs : before.JobsValid) :
    ItemMirrored (.video env us msg handlerID rtcSends) us.channelID before after none := by
  cases effect with
  | refused => exact .unchanged valid owned (fun _ held => by cases held) rfl rfl
  | sessionOnly _ _ broken => exact absurd ⟨works, valid⟩ broken
  | @toggled cs session handled loads found =>
    obtain ⟨mirrored, active⟩ := loads.mirrored jobs
    obtain ⟨identity, -⟩ := Call.toggleVideo_identity env.now us.originalConnID cs.call msg
    obtain ⟨member, named⟩ := KeyedTable.find?_eq_some_iff.mp found
    rw [← mirrored.sessions, Store.mem_callSessions] at member
    generalize toggledSession : ({ session with video := msg = .on } : CallSession) = toggled
    have sameID : toggled.id = session.id := by rw [← toggledSession]
    have here : (before.saveSession toggled).callSessions cs.call.id = cs.sessions.modify us.originalConnID
        (·.updatedFrom toggled) fun row => row.updatedFrom_id toggled := by
      simp only [Store.callSessions_saveSession, mirrored.sessions, sameID, named]
    have elsewhere (other : String) (different : other ≠ cs.call.id) :
        (before.saveSession toggled).callSessions other = before.callSessions other :=
      Store.callSessions_saveSession_other member.1 sameID fun same => different (same.symm.trans member.2)
    have changes := mirrored.save identity
      (show ((before.saveSession toggled).saveCall _).calls = (before.saveCall _).calls from rfl) here elsewhere
    refine .of_changesCall (valid.save ((Call.isValid_congr identity).trans (mirrored.valid valid)) rfl)
      (owned.mono (fun callID known => ?_) fun row listed => ?_) changes (fun old held => ?_) (fun _ held => by cases held) ?_
    · rwa [Store.saveCall, KeyedTable.contains_modify]
    · have saved : row ∈ (before.saveSession toggled).sessions := listed
      rcases Store.mem_saveSession.mp saved with ⟨old, -⟩ | ⟨previous, old, -, rfl⟩
      · exact ⟨(owned row old).1, .inl ⟨row, old, rfl⟩⟩
      · exact ⟨(owned previous old).1, .inl ⟨previous, old, rfl⟩⟩
    · rw [mirrored.view] at held
      cases held
      exact mirrored.channel
    · rw [mirrored.view]
      exact .video handled mirrored.channel active found (by rw [toggledSession])

/-! ### Steps -/

/-- What batches hold is what the store says. -/
structure Mirrored (ops : Operations) : Prop where
  valid : ops.world.store.CallsValid
  sessions : ops.world.store.SessionsOwned
  jobs : ops.world.store.JobsValid
  held : ∀ channelID batch cs, ops.held.get? channelID = some batch → batch.state = some cs →
    cs.MirroredBy ops.world.store channelID

namespace Mirrored

variable {ops after : Operations} {step : CallStep} {channelID : String}

theorem hold (inv : Mirrored ops) {kind : BatchKind} {next : Option CallState} {world : World}
    (item : ItemMirrored step channelID ops.world.store world.store next)
    (jobs : world.store.jobIdentities = ops.world.store.jobIdentities) :
    Mirrored (ops.holdBatch channelID kind next world) := by
  refine ⟨item.valid, item.sessions, inv.jobs.congr jobs, ?_⟩
  intro other batch cs found loaded
  rcases Operations.holdBatch_cases found with ⟨here, rfl⟩ | ⟨elsewhere, found⟩
  · rw [here]
    exact item.next cs loaded
  · exact item.frame cs other elsewhere (inv.held other batch cs found loaded)

theorem request (inv : Mirrored ops) {world : World} (free : ops.held.contains channelID = false)
    (item : ItemMirrored step channelID ops.world.store world.store none)
    (jobs : world.store.jobIdentities = ops.world.store.jobIdentities) : Mirrored { ops with world } := by
  refine ⟨item.valid, item.sessions, inv.jobs.congr jobs, ?_⟩
  intro other batch cs found loaded
  exact item.frame cs other (StringMap.ne_of_not_contains free found) (inv.held other batch cs found loaded)

end Mirrored

theorem Operations.request_eq_some {ops after : Operations} {channelID : String} {handler : Handler Unit}
    (taken : ops.request channelID handler = some after) :
    ops.held.contains channelID = false ∧ after = { ops with world := (handler ops.world).2 } := by
  unfold request at taken
  split at taken
  · cases taken
  · next free =>
    cases taken
    exact ⟨by simpa using free, rfl⟩

theorem HostEffect.jobIdentities {env : Env} {requesterID channelID newHostID : String} {result : Except String Unit}
    {before after : Store} (effect : HostEffect env requesterID channelID newHostID before result after) :
    after.jobIdentities = before.jobIdentities := by
  cases effect <;> rfl

theorem VideoEffect.jobIdentities {env : Env} {us : UserSession} {msg : VideoMessage} {handlerID : String}
    {rtcSends : Bool} {before after : Store} (effect : VideoEffect env us msg handlerID rtcSends before after) : after.jobIdentities = before.jobIdentities := by
  cases effect <;> rfl

/-- A step keeps what batches hold in agreement with the store, and changes each call
as its operation does in memory. -/
theorem Mirrored.step {ops after : Operations} {step : CallStep} (inv : Mirrored ops) (serves : StoreServes ops step)
    (taken : ops.call? step = some after) :
    Mirrored after ∧ ∀ callID, CallChange step (ops.world.store.callView? callID) (after.world.store.callView? callID) := by
  cases step with
  | changeHost env requesterID channelID newHostID =>
    obtain ⟨free, rfl⟩ := Operations.request_eq_some taken
    have effect : HostEffect env requesterID channelID newHostID ops.world.store _ _ :=
      changeHost_spec env requesterID channelID newHostID ops.world
    have item := effect.mirrored inv.valid inv.sessions inv.jobs
    exact ⟨inv.request free item effect.jobIdentities, item.change⟩
  | video env us msg handlerID rtcSends =>
    obtain ⟨free, rfl⟩ := Operations.request_eq_some taken
    have effect : VideoEffect env us msg handlerID rtcSends ops.world.store _ :=
      handleClientMessageTypeVideo_spec env us msg handlerID rtcSends ops.world
    have item := effect.mirrored (serves.works env rfl) inv.valid inv.sessions inv.jobs
    exact ⟨inv.request free item effect.jobIdentities, item.change⟩
  | operation step =>
    have effect := Operations.next?_effect taken
    cases effect with
    | notLocked => exact ⟨inv, fun _ => .kept⟩
    | @locked env channelID kind state free loads =>
      have item : ItemMirrored (.operation (.lock env channelID kind)) channelID ops.world.store ops.world.store state :=
        .unchanged inv.valid inv.sessions (fun cs held => by subst held; exact (loads.mirrored inv.jobs).1) rfl rfl
      exact ⟨inv.hold item rfl, fun _ => .kept⟩
    | @joined env channelID req state next world running effect keepsJobs =>
      have found := Operations.batch?_eq_some running
      have item := effect.mirrored (serves.works env rfl) (serves.free env channelID req state rfl running) inv.valid
        inv.sessions fun cs held => inv.held _ _ cs found held
      exact ⟨inv.hold item keepsJobs, item.change⟩
    | @left env channelID ref state next world running effect =>
      have found := Operations.batch?_eq_some running
      have mirrored := fun cs held => inv.held _ _ cs found held
      have leave := effect.working (serves.works env rfl) fun cs held =>
        ⟨(mirrored cs held).valid inv.valid, (mirrored cs held).jobs⟩
      have item := leave.mirrored inv.valid inv.sessions mirrored
      exact ⟨inv.hold item effect.jobIdentities, item.change⟩
    | @released channelID =>
      refine ⟨⟨inv.valid, inv.sessions, inv.jobs, fun other batch cs found loaded => ?_⟩, fun _ => .kept⟩
      rw [StringMap.get?_erase] at found
      split at found
      · cases found
      · exact inv.held other batch cs found loaded

theorem Mirrored.idle : Mirrored .idle :=
  ⟨fun _ member => absurd member KeyedTable.not_mem_empty, fun _ member => absurd member KeyedTable.not_mem_empty,
    fun _ member => absurd member KeyedTable.not_mem_empty, fun _ _ _ found => by cases found⟩

/-- What batches hold is what the store says, and every call in the store is as it should be. -/
structure ViewsHold (holds : CallView → Prop) (ops : Operations) : Prop where
  mirrored : Mirrored ops
  views : ∀ callID view, ops.world.store.callView? callID = some view → holds view

/-- An invariant of calls, kept by whatever a step makes of one. -/
theorem viewsHold_of_reachable {ids : Identities} {holds : CallView → Prop}
    (keeps : ∀ {step : CallStep} {before : Option CallView} {after : CallView}, step.authentic ids = true →
      CallChange step before (some after) → (∀ view, before = some view → holds view) → holds after)
    {ops : Operations} (reached : ((callRuns ids).restrict StoreServes).Reachable ops) : ViewsHold holds ops := by
  refine System.Reachable.invariant_of_allowed ?_ ?_ reached
  · intro ops same
    obtain rfl := same
    exact ⟨.idle, fun callID view found => by cases found⟩
  · intro before step after inv serves taken
    unfold callRuns at taken
    dsimp only at taken
    split at taken
    · next authentic =>
      obtain ⟨mirrored, change⟩ := inv.mirrored.step serves taken
      refine ⟨mirrored, fun callID view found => ?_⟩
      have changed := change callID
      rw [found] at changed
      exact keeps authentic changed fun old held => inv.views callID old held
    · cases taken

/-- Whether the connection of a join is not in the store yet. -/
def joinsFree (ops : Operations) : CallStep → Bool
  | .operation (.join _ _ req) => ¬ ops.world.store.sessions.contains req.connID
  | _ => true

/-- Where nothing interferes it is enough to look at the connection of a join. -/
theorem joinsFree_sound {ops : Operations} {step : CallStep}
    (quiet : ∀ env, step.env? = some env → ∃ now newID, env = .quiet now newID) (free : joinsFree ops step = true) :
    StoreServes ops step := by
  constructor
  · intro env timed op
    obtain ⟨now, newID, rfl⟩ := quiet env timed
    rfl
  · intro env channelID req held same _ _
    obtain rfl := same
    simpa [joinsFree] using free

end Calls
