import Calls.Server.Messages
import Calls.Server.ScreenProperties
import Calls.Server.VideoTime

/-! Runs of all that sessions do: what a message does to the store, and what a step
makes of each call. -/

set_option autoImplicit false

namespace Calls

open Command

/-! ### Messages about one session -/

/-- Everything a message that only changes its session can do. -/
inductive UpdateEffect (env : Env) (us : UserSession) (change : CallSession → CallSession)
    (event : CallSession → WsEvent) (before : World) : World → Prop where
  | refused : UpdateEffect env us change event before before
  | updated {cs : CallState} {session : CallSession} :
      before.store.Loads us.channelID (some cs) → cs.sessions.find? us.originalConnID = some session →
      UpdateEffect env us change event before
        { before with
          store := before.store.saveSession (change session)
          published := before.published ++
            publishWebSocketEvent env.botID (event (change session)) (cs.toParticipants us.channelID) }

theorem updateSession_spec (env : Env) (us : UserSession) (missing : String) (change : CallSession → CallSession)
    (event : CallSession → WsEvent) (before : World) :
    (updateSession env us missing change event).wp
      (fun _ after => UpdateEffect env us change event before after) before := by
  unfold updateSession
  rw [wp_bind, wp_mapError]
  refine wp_mono (lockCallReturnState_spec env us.channelID before) ?_
  intro result world effect
  obtain ⟨rfl, ⟨⟨err, rfl⟩, -⟩ | ⟨state, rfl, loads, -⟩⟩ := effect
  · exact .refused
  · cases state with
    | none => exact .refused
    | some cs =>
      dsimp only [Except.mapError]
      rw [andThen_ok]
      dsimp only
      cases found : cs.sessions.find? us.originalConnID with
      | none => exact .refused
      | some session =>
        dsimp only
        rw [wp_bind, wp_mapError, Handler.onStore, wp_zoom]
        refine Store.wp_updateCallSession (fun err => .refused) fun _ _ => ?_
        dsimp only [Except.mapError]
        rw [andThen_ok]
        exact .updated loads found

theorem handleClientMessageTypeMute_spec (env : Env) (us : UserSession) (msg : MuteMessage) (handlerID : String)
    (rtcSends : Bool) (before : World) :
    (handleClientMessageTypeMute env us msg handlerID rtcSends).wp
      (fun _ after => UpdateEffect env us msg.change (fun _ => msg.event us) before after) before := by
  unfold handleClientMessageTypeMute
  rw [wp_ite]
  refine ⟨fun _ => .refused, fun _ => ?_⟩
  rw [wp_ite]
  exact ⟨fun _ => .refused, fun _ => updateSession_spec _ _ _ _ _ _⟩

theorem handleClientMessageTypeHand_spec (env : Env) (us : UserSession) (msg : HandMessage) (before : World) :
    (handleClientMessageTypeHand env us msg).wp
      (fun _ after => UpdateEffect env us (msg.change env) (fun session => msg.event us session.raisedHand) before after)
      before :=
  updateSession_spec _ _ _ _ _ _

/-! ### Steps -/

/-- The messages that only change their session, with what they make of it. -/
def TrafficStep.sessionChange? : TrafficStep → Option (UserSession × (CallSession → CallSession))
  | .mute _ us msg _ _ => some (us, msg.change)
  | .hand env us msg => some (us, msg.change env)
  | _ => none

/-- What a step makes of one call, as far as the store says. -/
inductive TrafficChange : TrafficStep → Option CallView → Option CallView → Prop where
  | call {step : CallStep} {before after : Option CallView} :
      CallChange step before after → TrafficChange (.call step) before after
  | kept {step : TrafficStep} {view : Option CallView} : TrafficChange step view view
  | screen {env : Env} {us : UserSession} {msg : ScreenMessage} {handlerID : String} {cs : CallState} {call : Call} :
      Store.isActive cs.call = true → cs.call.toggleScreen env.now us.originalConnID msg = .ok call →
      TrafficChange (.screen env us msg handlerID) (some cs.view) (some ⟨call.apartFromPost, cs.sessions⟩)
  | session {step : TrafficStep} {us : UserSession} {change : CallSession → CallSession} {cs : CallState}
      {session : CallSession} {sessions : SessionMap} :
      step.sessionChange? = some (us, change) → Store.isActive cs.call = true →
      cs.sessions.find? us.originalConnID = some session →
      sessions = cs.sessions.modify us.originalConnID (·.updatedFrom (change session)) (fun row => row.updatedFrom_id _) →
      TrafficChange step (some cs.view) (some ⟨cs.call.apartFromPost, sessions⟩)

/-- A message about the microphone or the hand leaves the rest of its session alone. -/
theorem TrafficStep.sessionChange?_eq_some {step : TrafficStep} {us : UserSession} {change : CallSession → CallSession}
    (changes : step.sessionChange? = some (us, change)) (session : CallSession) :
    (change session).id = session.id ∧ (change session).video = session.video := by
  cases step with
  | call | screen => cases changes
  | mute | hand => cases changes; exact ⟨rfl, rfl⟩

section
variable {before after : Store} {channelID : String} {cs : CallState} {session changed : CallSession}

/-- Saving a session that was loaded, with the call as it is. -/
theorem CallState.MirroredBy.saveSession (mirrored : cs.MirroredBy before channelID) (member : session ∈ cs.sessions)
    (sameID : changed.id = session.id) :
    (before.saveSession changed).callSessions cs.call.id =
        cs.sessions.modify session.id (·.updatedFrom changed) (fun row => row.updatedFrom_id changed) ∧
      ∀ other, other ≠ cs.call.id → (before.saveSession changed).callSessions other = before.callSessions other := by
  rw [← mirrored.sessions, Store.mem_callSessions] at member
  constructor
  · simp only [Store.callSessions_saveSession, mirrored.sessions, sameID]
  · intro other different
    exact Store.callSessions_saveSession_other member.1 sameID fun same => different (same.symm.trans member.2)

theorem Store.SessionsOwned.saveSession (owned : before.SessionsOwned) : (before.saveSession changed).SessionsOwned := by
  refine owned.mono (fun callID known => known) fun row listed => ?_
  rcases Store.mem_saveSession.mp listed with ⟨old, -⟩ | ⟨previous, old, -, rfl⟩
  · exact ⟨(owned row old).1, .inl ⟨row, old, rfl⟩⟩
  · exact ⟨(owned previous old).1, .inl ⟨previous, old, rfl⟩⟩

theorem Store.SessionsOwned.saveCall {call : Call} (owned : before.SessionsOwned) : (before.saveCall call).SessionsOwned := by
  refine owned.mono (fun callID known => ?_) fun row listed => ⟨(owned row listed).1, .inl ⟨row, listed, rfl⟩⟩
  rwa [Store.saveCall, KeyedTable.contains_modify]

end

section
variable {ops : Operations} {world : World} {channelID : String} {cs : CallState} {view : CallView}

/-- A request that changes the call it has loaded. -/
theorem Mirrored.changed (inv : Mirrored ops) (free : ops.held.contains channelID = false)
    (mirrored : cs.MirroredBy ops.world.store channelID) (valid : world.store.CallsValid) (owned : world.store.SessionsOwned)
    (jobs : world.store.jobIdentities = ops.world.store.jobIdentities)
    (changes : ops.world.store.ChangesCall cs.call.id world.store view) : Mirrored { ops with world } := by
  refine ⟨valid, owned, inv.jobs.congr jobs, fun other batch held found loaded => ?_⟩
  have old := inv.held other batch held found loaded
  refine old.congr (changes.elsewhere _ fun here => ?_)
  have same := old.view
  rw [here, mirrored.view] at same
  have sameChannel : cs.call.channelID = held.call.channelID :=
    congrArg (fun view : CallView => view.call.channelID) (Option.some.inj same)
  exact StringMap.ne_of_not_contains free found (old.channel.symm.trans (sameChannel.symm.trans mirrored.channel))

/-- What a change to one call is to every call. -/
theorem Store.ChangesCall.change {step : TrafficStep} {before after : Store}
    (changes : before.ChangesCall cs.call.id after view) (found : before.callView? cs.call.id = some cs.view)
    (change : TrafficChange step (some cs.view) (some view)) (callID : String) :
    TrafficChange step (before.callView? callID) (after.callView? callID) := by
  by_cases here : callID = cs.call.id
  · rw [here, found, changes.here]
    exact change
  · rw [changes.elsewhere callID here]
    exact .kept

end

theorem Mirrored.updated {ops : Operations} {step : TrafficStep} {env : Env} {us : UserSession}
    {change : CallSession → CallSession} {event : CallSession → WsEvent} {world : World} (inv : Mirrored ops)
    (free : ops.held.contains us.channelID = false) (changes : step.sessionChange? = some (us, change))
    (effect : UpdateEffect env us change event ops.world world) :
    Mirrored { ops with world } ∧
      ∀ callID, TrafficChange step (ops.world.store.callView? callID) (world.store.callView? callID) := by
  cases effect with
  | refused => exact ⟨inv, fun _ => .kept⟩
  | @updated cs session loads found =>
    obtain ⟨mirrored, active⟩ := loads.mirrored inv.jobs
    obtain ⟨member, named⟩ := KeyedTable.find?_eq_some_iff.mp found
    obtain ⟨here, elsewhere⟩ := mirrored.saveSession member (step.sessionChange?_eq_some changes session).1
    obtain ⟨row, stored, same⟩ := mirrored.row
    have changesCall : ops.world.store.ChangesCall cs.call.id (ops.world.store.saveSession (change session))
        ⟨cs.call.apartFromPost, cs.sessions.modify us.originalConnID (·.updatedFrom (change session))
          fun row => row.updatedFrom_id _⟩ := by
      refine ⟨?_, fun other different => Store.callView?_congr rfl (elsewhere other different)⟩
      refine Store.callView?_eq_some_iff.mpr ⟨row, stored, ?_⟩
      rw [here, same]
      simp only [named]
    exact ⟨inv.changed free mirrored inv.valid inv.sessions.saveSession rfl changesCall,
      changesCall.change mirrored.view (.session changes active found rfl)⟩

theorem Call.toggleScreen_video {now : Instant} {sessionID : String} {call toggled : Call} {msg : ScreenMessage}
    (accepted : call.toggleScreen now sessionID msg = .ok toggled) :
    toggled.props.videoStartAt = call.props.videoStartAt := by
  cases msg with
  | on =>
    simp only [toggleScreen] at accepted
    split at accepted <;> cases accepted
    rfl
  | off =>
    simp only [toggleScreen] at accepted
    split at accepted
    · cases accepted
    · split at accepted <;> cases accepted <;> rfl

theorem ScreenEffect.store {env : Env} {us : UserSession} {msg : ScreenMessage} {before after : Store}
    {result : Except String Unit} (effect : ScreenEffect env us msg before result after) :
    after = before ∨ ∃ cs toggled, Toggles env us msg before cs toggled ∧ after = before.saveCall toggled := by
  cases effect with
  | refused => exact .inl rfl
  | toggled toggles => exact .inr ⟨_, _, toggles, rfl⟩

theorem Mirrored.toggled {ops : Operations} {env : Env} {us : UserSession} {msg : ScreenMessage} {handlerID : String}
    {world : World} {result : Except String Unit} (inv : Mirrored ops) (free : ops.held.contains us.channelID = false)
    (effect : ScreenEffect env us msg ops.world.store result world.store) :
    Mirrored { ops with world } ∧ ∀ callID, TrafficChange (.screen env us msg handlerID)
      (ops.world.store.callView? callID) (world.store.callView? callID) := by
  rcases effect.store with stored | ⟨cs, toggled, toggles, stored⟩
  · have unchanged (callID : String) : world.store.callView? callID = ops.world.store.callView? callID := by rw [stored]
    refine ⟨⟨by rw [stored]; exact inv.valid, by rw [stored]; exact inv.sessions, by rw [stored]; exact inv.jobs,
      fun other batch held found loaded => (inv.held other batch held found loaded).congr (unchanged _)⟩, fun callID => ?_⟩
    rw [unchanged]
    exact .kept
  · obtain ⟨mirrored, active⟩ := toggles.loads.mirrored inv.jobs
    have identity := (Call.toggleScreen_identity toggles.accepted).1
    have sessions (callID : String) : world.store.callSessions callID = ops.world.store.callSessions callID :=
      Store.callSessions_congr (congrArg Store.sessions stored) callID
    have changes := mirrored.save identity (congrArg Store.calls stored) ((sessions _).trans mirrored.sessions)
      fun other _ => sessions other
    refine ⟨inv.changed free mirrored ?_ ?_ ?_ changes, changes.change mirrored.view (.screen active toggles.accepted)⟩
    · exact inv.valid.save toggles.valid (congrArg Store.calls stored)
    · rw [stored]
      exact inv.sessions.saveCall
    · rw [stored]
      rfl

/-- A step keeps what batches hold in agreement with the store, and changes each call
as its operation does in memory. -/
theorem Mirrored.traffic {ops after : Operations} {step : TrafficStep} (inv : Mirrored ops) (serves : TrafficServes ops step)
    (taken : ops.traffic? step = some after) :
    Mirrored after ∧ ∀ callID, TrafficChange step (ops.world.store.callView? callID) (after.world.store.callView? callID) := by
  cases step with
  | call step =>
    obtain ⟨mirrored, change⟩ := inv.step serves taken
    exact ⟨mirrored, fun callID => .call (change callID)⟩
  | screen env us msg handlerID =>
    obtain ⟨free, rfl⟩ := Operations.request_eq_some taken
    exact inv.toggled free (handleClientMessageTypeScreen_spec env us msg handlerID ops.world)
  | mute env us msg handlerID rtcSends =>
    obtain ⟨free, rfl⟩ := Operations.request_eq_some taken
    exact inv.updated free rfl (handleClientMessageTypeMute_spec env us msg handlerID rtcSends ops.world)
  | hand env us msg =>
    obtain ⟨free, rfl⟩ := Operations.request_eq_some taken
    exact inv.updated free rfl (handleClientMessageTypeHand_spec env us msg ops.world)

end Calls
