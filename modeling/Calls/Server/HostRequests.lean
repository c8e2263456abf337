import Calls.Server.CallLifetimes

/-! Who can ask things of the sessions of a call: an administrator, or the host, who is then one of
those in the call. Whatever clients are told and whichever session is closed by force, somebody who
may was asked for it. -/

set_option autoImplicit false

namespace Calls

/-- A request that whoever made it may make, with the sessions that the call had at the time. -/
structure GrantedRequest where
  requesterID : String
  channelID : String
  control : HostControl
  callID : String
  sessions : SessionMap

/-- An administrator may ask, and a user other than the bot who is in the call as its host. -/
def CallServer.grants (env : Env) (requesterID : String) (server : CallServer) (call : Call) : Bool :=
  env.hasManageSystem requesterID ||
    (requesterID = call.getHostID ∧ requesterID ≠ env.botID ∧ isUserIDInCall (server.ops.world.store.callSessions call.id) requesterID)

def noteGranted (granted : List GrantedRequest) (before : CallServer) : ServerStep → List GrantedRequest
  | .control env requesterID channelID control =>
    match before.ops.world.store.activeCall? channelID with
    | none => granted
    | some call =>
      if before.grants env requesterID call then
        ⟨requesterID, channelID, control, call.id, before.ops.world.store.callSessions call.id⟩ :: granted
      else granted
  | _ => granted

def hostRequestRuns (ids : Identities) : System (CallServer × List GrantedRequest) ServerStep :=
  (callServer ids).observed [] fun granted before step _ => noteGranted granted before step

/-- The session that an event is about, and its channel. -/
def NoticeEvent.session? : NoticeEvent → Option (String × String)
  | userDismissedNotification _ _ => none
  | hostMute channelID sessionID | hostScreenOff channelID sessionID | hostLowerHand _ channelID sessionID _
  | hostRemoved _ channelID sessionID _ => some (channelID, sessionID)

/-- The sessions that a request can be about. -/
def HostControl.Targets (requesterID : String) (session : CallSession) : HostControl → Prop
  | muteSession sessionID | screenOff sessionID | lowerHand sessionID | removeSession sessionID => session.id = sessionID
  | muteOthers => session.userID ≠ requesterID

/-- A notice says what was requested: it is about a session that was in the call, and tells its user
alone, or those in the call and the bot of a removal. -/
def GrantedRequest.Covers (botID : String) (request : GrantedRequest) (notice : Notice) : Prop :=
  ∃ session ∈ request.sessions, notice.ev.session? = some (request.channelID, session.id) ∧
    request.control.Targets request.requesterID session ∧
    (notice.userID = session.userID ∨ request.control = .removeSession session.id ∧
      (notice.userID = botID ∨ ∃ other ∈ request.sessions, other.userID = notice.userID))

/-- A dismissal is told to the user who has dismissed the notification. -/
def Notice.OfDismissal (notice : Notice) : Prop := ∃ callID, notice.ev = .userDismissedNotification notice.userID callID

def RemovalGranted (granted : List GrantedRequest) (channelID sessionID : String) : Prop :=
  ∃ request ∈ granted, request.channelID = channelID ∧ request.control = .removeSession sessionID

/-- Everything that the requests of hosts have led to was granted. -/
structure AllGranted (botID : String) (state : CallServer × List GrantedRequest) : Prop where
  notices : ∀ notice ∈ state.1.notices, notice.OfDismissal ∨ ∃ request ∈ state.2, request.Covers botID notice
  removing : ∀ entry ∈ state.1.removing, RemovalGranted state.2 entry.1 entry.2
  closed : ∀ close ∈ state.1.closed, RemovalGranted state.2 close.channelID close.connID

section
variable {ids : Identities} {env : Env} {requesterID channelID : String} {control : HostControl} {server : CallServer}
  {cs : CallState}

theorem Notice.Asks.covered {notice : Notice} (asks : notice.Asks env requesterID channelID cs control) :
    GrantedRequest.Covers env.botID ⟨requesterID, channelID, control, cs.call.id, cs.sessions⟩ notice := by
  cases asks with
  | mute member unmuted => exact ⟨_, member, rfl, rfl, .inl rfl⟩
  | muteOthers member unmuted other => exact ⟨_, member, rfl, other, .inl rfl⟩
  | screenOff member sharing => exact ⟨_, member, rfl, rfl, .inl rfl⟩
  | lowerHand member raised => exact ⟨_, member, rfl, rfl, .inl rfl⟩
  | @removed ust notice member told =>
    obtain ⟨same, told⟩ := mem_publishNotice_toParticipants ⟨ust, member⟩ told
    refine ⟨ust, member, ?_, rfl, .inr ⟨rfl, told⟩⟩
    rw [same]
    rfl

/-- The host of a call is in it. -/
theorem HostKept.grants (kept : HostKept ids cs.view) (active : cs.call.endAt = 0) (bot : env.botID = ids.botID)
    (named : requesterID ≠ "") (controls : Controls env requesterID cs)
    (sessions : server.ops.world.store.callSessions cs.call.id = cs.sessions) : server.grants env requesterID cs.call = true := by
  unfold CallServer.grants
  rw [sessions]
  rcases controls with host | admin
  · obtain ⟨-, hostOf⟩ := kept.host active
    have user : ∃ session ∈ cs.sessions, session.userID ≠ ids.botID := by
      by_contra bots
      refine named (host.trans (hostOf.none fun session member => ?_))
      by_contra other
      exact bots ⟨session, member, other⟩
    have present : isUserIDInCall cs.sessions requesterID = true := isUserIDInCall_iff.mpr (host ▸ hostOf.present user)
    have notBot : requesterID ≠ env.botID := by
      rw [bot, host]
      exact hostOf.notBot
    simp [← host, notBot, present]
  · rw [admin]
    rfl

end

theorem RemovalGranted.mono {granted more : List GrantedRequest} {channelID sessionID : String}
    (removal : RemovalGranted granted channelID sessionID) (kept : ∀ request ∈ granted, request ∈ more) :
    RemovalGranted more channelID sessionID := by
  obtain ⟨request, listed, facts⟩ := removal
  exact ⟨request, kept request listed, facts⟩

/-- A request is noted in addition to those before it. -/
theorem mem_noteGranted {granted : List GrantedRequest} {before : CallServer} {step : ServerStep} {request : GrantedRequest}
    (listed : request ∈ granted) : request ∈ noteGranted granted before step := by
  cases step with
  | room | dismiss | closeRemoved => exact listed
  | control env requesterID channelID control =>
    simp only [noteGranted]
    split
    · exact listed
    · split
      · exact List.mem_cons_of_mem _ listed
      · exact listed

namespace AllGranted

variable {ids : Identities} {state after : CallServer × List GrantedRequest} {label : ServerStep}

/-- What is new was granted. -/
theorem added (inv : AllGranted ids.botID state) (kept : ∀ request ∈ state.2, request ∈ after.2)
    (notices : ∀ notice ∈ after.1.notices, notice ∈ state.1.notices ∨ notice.OfDismissal ∨
      ∃ request ∈ after.2, request.Covers ids.botID notice)
    (removing : ∀ entry ∈ after.1.removing, entry ∈ state.1.removing ∨ RemovalGranted after.2 entry.1 entry.2)
    (closed : ∀ close ∈ after.1.closed, close ∈ state.1.closed ∨ RemovalGranted after.2 close.channelID close.connID) :
    AllGranted ids.botID after where
  notices notice listed := by
    rcases notices notice listed with old | new
    · rcases inv.notices notice old with dismissal | ⟨request, granted, covers⟩
      · exact .inl dismissal
      · exact .inr ⟨request, kept request granted, covers⟩
    · exact new
  removing entry listed := by
    rcases removing entry listed with old | new
    · exact (inv.removing entry old).mono kept
    · exact new
  closed close listed := by
    rcases closed close listed with old | new
    · exact (inv.closed close old).mono kept
    · exact new

theorem controlled (inv : AllGranted ids.botID state) (views : state.1.ViewsHold (HostKept ids)) {env : Env}
    {requesterID channelID : String} {control : HostControl} (bot : env.botID = ids.botID) (named : requesterID ≠ "")
    (effect : ControlEffect env requesterID channelID control state.1 after.1)
    (noted : after.2 = noteGranted state.2 state.1 (.control env requesterID channelID control)) :
    AllGranted ids.botID after := by
  have kept : ∀ request ∈ state.2, request ∈ after.2 := fun request listed => noted ▸ mem_noteGranted listed
  obtain ⟨server, granted⟩ := after
  dsimp only at effect noted kept
  cases effect with
  | refused => exact inv.added kept (fun _ old => .inl old) (fun _ old => .inl old) fun _ old => .inl old
  | @done cs _ loads controls adds =>
    obtain ⟨mirrored, active⟩ := loads.mirrored views.mirrored.jobs
    have host := views.views cs.call.id cs.view mirrored.view
    have grants : state.1.grants env requesterID cs.call = true :=
      host.grants (Store.endAt_of_isActive active) bot named controls mirrored.sessions
    have listed : (⟨requesterID, channelID, control, cs.call.id, cs.sessions⟩ : GrantedRequest) ∈ granted := by
      rw [noted]
      simp only [noteGranted, loads.1, grants, if_true, mirrored.sessions]
      exact List.mem_cons_self
    refine inv.added kept (fun notice member => ?_) (fun entry member => ?_) fun close member => .inl (adds.closed ▸ member)
    · rcases adds.notices notice member with old | asks
      · exact .inl old
      · exact .inr (.inr ⟨_, listed, bot ▸ asks.covered⟩)
    · rcases adds.removing entry member with old | ⟨sessionID, removal, rfl, -⟩
      · exact .inl old
      · exact .inr ⟨_, listed, rfl, removal⟩

theorem step (inv : AllGranted ids.botID state) (views : state.1.ViewsHold (HostKept ids))
    (taken : (callServer ids).next? state.1 label = some after.1) (noted : after.2 = noteGranted state.2 state.1 label) :
    AllGranted ids.botID after := by
  obtain ⟨authentic, moved⟩ := callServer_taken taken
  have kept : ∀ request ∈ state.2, request ∈ after.2 := fun request listed => noted ▸ mem_noteGranted listed
  cases label with
  | room step =>
    obtain ⟨ops, -, same⟩ := Option.map_eq_some_iff.mp moved
    refine inv.added kept (fun notice old => ?_) (fun entry old => ?_) fun close old => ?_
    · exact .inl (by rw [← same] at old; exact old)
    · exact .inl (by rw [← same] at old; exact old)
    · exact .inl (by rw [← same] at old; exact old)
  | dismiss env userID channelID =>
    simp only [CallServer.next?] at moved
    split at moved
    · cases moved
    · have effect : DismissEffect env userID channelID state.1 _ _ := handleDismissNotification_spec env userID channelID state.1
      rw [Option.some.inj moved] at effect
      obtain ⟨server, granted⟩ := after
      dsimp only at effect kept
      generalize (handleDismissNotification env userID channelID state.1).1 = result at effect
      cases effect with
      | refused => exact inv.added kept (fun _ old => .inl old) (fun _ old => .inl old) fun _ old => .inl old
      | @dismissed cs world loads saved =>
        refine inv.added kept (fun notice listed => ?_) (fun _ old => .inl old) fun _ old => .inl old
        rcases List.mem_append.mp listed with old | new
        · exact .inl old
        · rw [publishNotice_user] at new
          rw [List.mem_singleton.mp new]
          exact .inr (.inl ⟨cs.call.id, rfl⟩)
  | control env requesterID channelID control =>
    simp only [ServerStep.authentic, decide_eq_true_eq] at authentic
    have effect := control.handle_spec env requesterID channelID state.1
    rw [Command.wp, Option.some.inj moved] at effect
    exact inv.controlled views authentic.1 authentic.2 effect noted
  | closeRemoved env channelID sessionID =>
    simp only [CallServer.next?] at moved
    split at moved
    · next pending =>
      have adds : CloseAdds channelID sessionID _ _ := closeRemovedSession_spec env channelID sessionID
        { state.1 with removing := state.1.removing.erase (channelID, sessionID) }
      rw [Option.some.inj moved] at adds
      refine inv.added kept (fun notice old => .inl (adds.notices ▸ old)) (fun entry listed => ?_) fun close listed => ?_
      · rw [adds.removing] at listed
        exact .inl (List.mem_of_mem_erase listed)
      · rcases adds.closed with same | ⟨cs, ust, member, loads, named, added⟩
        · exact .inl (same ▸ listed)
        · rw [added] at listed
          rcases List.mem_append.mp listed with old | new
          · exact .inl old
          · rw [List.mem_singleton.mp new]
            exact .inr ((inv.removing _ pending).mono kept)
    · cases moved

end AllGranted

/-- Alice starts a call, Bob joins it, and she removes him, after he has tried to remove her. -/
def bobIsRemoved : List ServerStep :=
  aliceStartsCall ++ (joining 1200 "" (.plain "bob" "conn-2" "")).map .room ++
    [.control (.quiet 1300 "") "bob" "channel" (.removeSession "conn-1"),
      .control (.quiet 1400 "") "alice" "channel" (.removeSession "conn-2"), .closeRemoved (.quiet 4400 "") "channel" "conn-2"]

theorem bobIsRemoved_quiet : ∀ step ∈ bobIsRemoved, step.Quiet := by
  intro step listed
  rcases List.mem_append.mp listed with joins | requests
  · rcases List.mem_append.mp joins with alice | bob
    · exact aliceStartsCall_quiet step alice
    · exact rooms_quiet (joining_quiet _ _ _) step bob
  · simp only [List.mem_cons, List.not_mem_nil, or_false] at requests
    obtain rfl | rfl | rfl := requests <;> trivial

end Calls
