import Calls.Server.CallServerProperties
import Calls.Server.Sharer

/-! Runs of the server of calls: what each step makes of every call, and that the host of an
ongoing call is one of those who are in it. -/

set_option autoImplicit false

namespace Calls

open Command LockedHandler

/-- What the goroutine of a removal can do: it closes a session of the ongoing call. -/
structure CloseAdds (channelID sessionID : String) (before after : CallServer) : Prop where
  ops : after.ops = before.ops
  notices : after.notices = before.notices
  removing : after.removing = before.removing
  closed : after.closed = before.closed ∨ ∃ cs, ∃ ust ∈ cs.sessions, before.ops.world.store.Loads channelID (some cs) ∧
    ust.id = sessionID ∧ after.closed = before.closed ++ [⟨ust.userID, sessionID, channelID, cs.call.props.nodeID, cs.call.id⟩]

theorem closeRemovedSession_spec (env : Env) (channelID sessionID : String) (before : CallServer) :
    (closeRemovedSession env channelID sessionID).wp (fun _ after => CloseAdds channelID sessionID before after) before := by
  have nothing : CloseAdds channelID sessionID before before := ⟨rfl, rfl, rfl, .inl rfl⟩
  unfold closeRemovedSession ServerHandler.onWorld
  rw [wp_bind, wp_attempt, wp_zoom, Handler.onStore, wp_zoom]
  refine wp_mono (getCallState_spec env channelID before.ops.world.store) ?_
  intro result store effect
  obtain ⟨rfl, ⟨⟨err, rfl⟩, -⟩ | ⟨state, rfl, loads, -⟩⟩ := effect
  · exact nothing
  · rw [andThen_ok]
    cases state with
    | none => exact nothing
    | some cs =>
      dsimp only
      cases listed : cs.sessions.find? sessionID with
      | none => exact nothing
      | some ust =>
        obtain ⟨member, named⟩ := KeyedTable.find?_eq_some_iff.mp listed
        exact ⟨rfl, rfl, rfl, .inr ⟨cs, ust, member, loads, named, rfl⟩⟩

/-! ### Steps -/

/-- What a step makes of one call, as far as the store says. -/
inductive ServerChange : ServerStep → Option CallView → Option CallView → Prop where
  | kept {step : ServerStep} {view : Option CallView} : ServerChange step view view
  | traffic {step : TrafficStep} {before after : Option CallView} :
      TrafficChange step before after → ServerChange (.room (.traffic step)) before after
  | dismissed {env : Env} {userID channelID : String} {cs : CallState} :
      cs.call.channelID = channelID → Store.isActive cs.call = true →
      ServerChange (.dismiss env userID channelID) (some cs.view)
        (some ⟨(cs.call.dismissNotification userID).apartFromPost, cs.sessions⟩)

theorem ControlEffect.ops {env : Env} {requesterID channelID : String} {control : HostControl} {before after : CallServer}
    (effect : ControlEffect env requesterID channelID control before after) : after.ops = before.ops := by
  cases effect with
  | refused => rfl
  | done loads controls adds => exact adds.ops

/-- A request about jobs leaves the calls and their sessions as they are. -/
theorem Mirrored.jobRequest {ops : Operations} (inv : Mirrored ops) (env : Env) (channelID : String) (request : JobRequest) :
    Mirrored { ops with world := (request.handle env channelID ops.world).2 } ∧
      ∀ callID, (request.handle env channelID ops.world).2.store.callView? callID = ops.world.store.callView? callID := by
  obtain ⟨jobs, calls, sessions, -⟩ := request.handle_spec env channelID ops.world inv.jobs
  have same (callID : String) := Store.callView?_congr calls (Store.callSessions_congr sessions callID)
  refine ⟨⟨?_, ?_, jobs, fun other batch cs found loaded => (inv.held other batch cs found loaded).congr (same _)⟩, same⟩
  · rw [Store.CallsValid, calls]
    exact inv.valid
  · rw [Store.SessionsOwned, calls, sessions]
    exact inv.sessions

/-- A dismissal changes the call that it has loaded, and no other. -/
theorem Mirrored.dismissed {server after : CallServer} {env : Env} {userID channelID : String} {result : Except String Unit}
    (inv : Mirrored server.ops) (free : server.ops.held.contains channelID = false)
    (effect : DismissEffect env userID channelID server result after) :
    Mirrored after.ops ∧ ∀ callID, ServerChange (.dismiss env userID channelID)
      (server.ops.world.store.callView? callID) (after.ops.world.store.callView? callID) := by
  cases effect with
  | refused => exact ⟨inv, fun _ => .kept⟩
  | @dismissed cs world loads saved =>
    obtain ⟨mirrored, active⟩ := loads.mirrored inv.jobs
    have sessions (callID : String) : world.store.callSessions callID = server.ops.world.store.callSessions callID :=
      Store.callSessions_congr (congrArg Store.sessions saved) callID
    have identity : (cs.call.dismissNotification userID).identity = cs.call.identity := rfl
    have changes := mirrored.save identity (congrArg Store.calls saved) ((sessions _).trans mirrored.sessions)
      fun other _ => sessions other
    refine ⟨inv.changed free mirrored ?_ ?_ ?_ changes, fun callID => ?_⟩
    · have valid : (cs.call.dismissNotification userID).isValid = .ok () := mirrored.valid inv.valid
      exact inv.valid.save valid (congrArg Store.calls saved)
    · rw [saved]
      exact inv.sessions.saveCall
    · rw [saved]
      rfl
    · by_cases here : callID = cs.call.id
      · rw [here, mirrored.view, changes.here]
        exact .dismissed mirrored.channel active
      · rw [changes.elsewhere callID here]
        exact .kept

/-- A step keeps what batches hold in agreement with the store, and changes each call as its
operation does in memory. -/
theorem Mirrored.server {server after : CallServer} {step : ServerStep} (inv : Mirrored server.ops)
    (serves : ServerServes server step) (taken : server.next? step = some after) :
    Mirrored after.ops ∧ ∀ callID, ServerChange step (server.ops.world.store.callView? callID)
      (after.ops.world.store.callView? callID) := by
  have quiet (same : after.ops = server.ops) : Mirrored after.ops ∧ ∀ callID, ServerChange step
      (server.ops.world.store.callView? callID) (after.ops.world.store.callView? callID) := by
    rw [same]
    exact ⟨inv, fun _ => .kept⟩
  cases step with
  | room step =>
    obtain ⟨ops, moved, rfl⟩ := Option.map_eq_some_iff.mp taken
    cases step with
    | traffic step =>
      obtain ⟨mirrored, changes⟩ := inv.traffic serves moved
      exact ⟨mirrored, fun callID => .traffic (changes callID)⟩
    | jobs env channelID request =>
      obtain ⟨-, rfl⟩ := Operations.request_eq_some moved
      obtain ⟨mirrored, same⟩ := inv.jobRequest env channelID request
      exact ⟨mirrored, fun callID => (same callID).symm ▸ .kept⟩
  | dismiss env userID channelID =>
    simp only [CallServer.next?] at taken
    split at taken
    · cases taken
    · next free =>
      cases taken
      exact inv.dismissed (by simpa using free) (handleDismissNotification_spec env userID channelID server)
  | control env requesterID channelID control =>
    cases taken
    exact quiet (control.handle_spec env requesterID channelID server).ops
  | closeRemoved env channelID sessionID =>
    simp only [CallServer.next?] at taken
    split at taken
    · cases taken
      exact quiet (closeRemovedSession_spec env channelID sessionID _).ops
    · cases taken

/-- Batches hold what the store says, and every call in the store is as it should be. -/
def CallServer.ViewsHold (holds : CallView → Prop) (server : CallServer) : Prop := Calls.ViewsHold holds server.ops

theorem serverViewsHold_of_reachable {ids : Identities} {holds : CallView → Prop}
    (keeps : ∀ {step : ServerStep} {before : Option CallView} {after : CallView}, step.authentic ids = true →
      ServerChange step before (some after) → (∀ view, before = some view → holds view) → holds after)
    {server : CallServer} (reached : ((callServer ids).restrict ServerServes).Reachable server) : server.ViewsHold holds := by
  refine System.Reachable.invariant_of_allowed ?_ ?_ reached
  · intro server same
    obtain rfl := same
    exact ⟨.idle, fun callID view found => by cases found⟩
  · intro before step after inv serves taken
    unfold callServer at taken
    dsimp only at taken
    split at taken
    · next authentic =>
      obtain ⟨mirrored, change⟩ := inv.mirrored.server serves taken
      refine ⟨mirrored, fun callID view found => ?_⟩
      have changed := change callID
      rw [found] at changed
      exact keeps authentic changed fun old held => inv.views callID old held
    · cases taken

/-! ### Hosts -/

theorem SessionMap.people_modify (sessions : SessionMap) (sessionID : String) (changed : CallSession) :
    SessionMap.people (sessions.modify sessionID (·.updatedFrom changed) fun row => row.updatedFrom_id _) = sessions.people := by
  simp only [SessionMap.people, KeyedTable.modify, List.map_map]
  refine List.map_congr_left fun session _ => ?_
  simp only [Function.comp_apply]
  split <;> rfl

theorem Call.toggleScreen_locked {now : Instant} {sessionID : String} {call toggled : Call} {msg : ScreenMessage}
    (accepted : call.toggleScreen now sessionID msg = .ok toggled) :
    toggled.props.hostLockedUserID = call.props.hostLockedUserID := by
  cases msg with
  | on =>
    simp only [toggleScreen] at accepted
    split at accepted <;> cases accepted
    rfl
  | off =>
    simp only [toggleScreen] at accepted
    split at accepted
    · cases accepted
    · split at accepted <;> cases accepted <;> rfl

namespace HostKept

variable {ids : Identities} {cs : CallState} {call : Call} {sessions : SessionMap}

/-- Neither the host nor who is in the call has changed. -/
theorem updated (kept : HostKept ids cs.view) (endAt : call.endAt = cs.call.endAt) (host : call.getHostID = cs.call.getHostID)
    (locked : call.props.hostLockedUserID = cs.call.props.hostLockedUserID) (people : sessions.people = cs.sessions.people) :
    HostKept ids ⟨call.apartFromPost, sessions⟩ := by
  have listed {session : CallSession} (member : session ∈ sessions) :
      ∃ old ∈ cs.sessions, old.id = session.id ∧ old.userID = session.userID :=
    SessionMap.mem_people.mp (people ▸ SessionMap.mem_people.mpr ⟨session, member, rfl, rfl⟩)
  have remains {session : CallSession} (member : session ∈ cs.sessions) :
      ∃ next ∈ sessions, next.id = session.id ∧ next.userID = session.userID :=
    SessionMap.mem_people.mp (people ▸ SessionMap.mem_people.mpr ⟨session, member, rfl, rfl⟩)
  have size : sessions.size = cs.sessions.size := by
    have lengths := congrArg List.length people
    simp only [SessionMap.people, List.length_map] at lengths
    exact lengths
  have users (named : String → Prop) : (∃ session ∈ sessions, named session.userID) ↔ ∃ session ∈ cs.sessions, named session.userID := by
    constructor
    · intro facts
      obtain ⟨session, member, holds⟩ := facts
      obtain ⟨old, oldMember, -, same⟩ := listed member
      exact ⟨old, oldMember, same ▸ holds⟩
    · intro facts
      obtain ⟨session, member, holds⟩ := facts
      obtain ⟨next, nextMember, -, same⟩ := remains member
      exact ⟨next, nextMember, same ▸ holds⟩
  have owned : ∀ session ∈ sessions, session.userID = ids.owner session.id ∧ session.userID ≠ "" := by
    intro session member
    obtain ⟨old, oldMember, sameID, sameUser⟩ := listed member
    rw [← sameUser, ← sameID]
    exact kept.owned old oldMember
  refine ⟨owned, ?_, ?_, fun ended => ?_, fun active => ?_⟩
  · exact endAt ▸ kept.started
  · exact locked ▸ kept.unlocked
  · exact size.trans (kept.ended (endAt ▸ ended))
  · obtain ⟨filled, hostOf⟩ := kept.host (endAt ▸ active)
    have hostOfView : HostOf ids.botID cs.call cs.sessions := ⟨hostOf.notBot, hostOf.present, hostOf.none, hostOf.locked⟩
    exact ⟨size ▸ filled, hostOfView.congr host locked users⟩

/-- Whatever a step makes of a call, its host is as it should be. -/
theorem serverChange {step : ServerStep} {before : Option CallView} {after : CallView} (authentic : step.authentic ids = true)
    (change : ServerChange step before (some after)) (inv : ∀ view, before = some view → HostKept ids view) :
    HostKept ids after := by
  cases change with
  | kept => exact inv after rfl
  | dismissed => exact (inv _ rfl).updated rfl rfl rfl rfl
  | @traffic step before after change =>
    cases change with
    | kept => exact inv after rfl
    | call change => exact HostKept.change authentic change inv
    | screen active accepted =>
      exact (inv _ rfl).updated (Call.toggleScreen_identity accepted).2 (Call.toggleScreen_host accepted).1
        (Call.toggleScreen_locked accepted) rfl
    | session changes active found modified =>
      subst modified
      exact (inv _ rfl).updated rfl rfl rfl (SessionMap.people_modify _ _ _)

end HostKept

/-! ### Servers that nothing interferes with -/

def ServerStep.Quiet : ServerStep → Prop
  | .room step => step.Quiet
  | _ => True

def serverFree (server : CallServer) : ServerStep → Bool
  | .room step => roomFree server.ops step
  | _ => true

theorem serverFree_sound {server : CallServer} {step : ServerStep} (quiet : step.Quiet) (free : serverFree server step = true) :
    ServerServes server step := by
  cases step with
  | room step => exact roomFree_sound quiet free
  | dismiss | control | closeRemoved => trivial

/-- Alice starts a call, and leaves it. -/
def aliceStartsCall : List ServerStep :=
  (joining 1001 "call" (.plain "alice" "conn-1" "")).map .room

def aliceHangsUp : List ServerStep :=
  (leaving 2000 { userID := "alice", originalConnID := "conn-1", connID := "conn-1" }).map .room

def bobStartsNext : List ServerStep :=
  (joining 3000 "next" (.plain "bob" "conn-2" "")).map .room

theorem rooms_quiet {steps : List RoomStep} (quiet : ∀ step ∈ steps, step.Quiet) :
    ∀ step ∈ steps.map ServerStep.room, step.Quiet := by
  intro step listed
  obtain ⟨step, member, rfl⟩ := List.mem_map.mp listed
  exact quiet step member

theorem aliceStartsCall_quiet : ∀ step ∈ aliceStartsCall, step.Quiet := rooms_quiet (joining_quiet _ _ _)

theorem aliceHangsUp_quiet : ∀ step ∈ aliceHangsUp, step.Quiet := rooms_quiet (leaving_quiet _ _)

theorem bobStartsNext_quiet : ∀ step ∈ bobStartsNext, step.Quiet := rooms_quiet (joining_quiet _ _ _)

end Calls
