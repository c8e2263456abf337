import Calls.Server.CallLifetimes
import Calls.Server.ChannelStates

/-! Who has dismissed the notification of a call. The call knows of exactly those who have done so
since it began, and tells each user of nobody else. -/

set_option autoImplicit false

namespace Calls

/-- The calls whose notification was dismissed, and by whom. -/
abbrev Dismissals := List (String × String)

/-- A dismissal that succeeds is one of the ongoing call of the channel. -/
def noteDismissal (noted : Dismissals) (before : CallServer) : ServerStep → Dismissals
  | .dismiss env userID channelID =>
    match (handleDismissNotification env userID channelID before).1, before.ops.world.store.activeCall? channelID with
    | .ok (), some call => (call.id, userID) :: noted
    | _, _ => noted
  | _ => noted

def dismissalRuns (ids : Identities) : System (CallServer × Dismissals) ServerStep :=
  (callServer ids).observed [] fun noted before step _ => noteDismissal noted before step

/-- The call knows of the users who have dismissed its notification. -/
def CallView.Knows (noted : Dismissals) (callID : String) (view : CallView) : Prop :=
  ∀ userID, view.call.props.dismissedNotification.get? userID = if noted.contains (callID, userID) then some true else none

/-! ### What keeps the dismissals of a call -/

namespace Call

variable (env : Env) (call : Call)

theorem stopScreen_dismissed (sessionID : String) :
    (call.stopScreen env sessionID).props.dismissedNotification = call.props.dismissedNotification := by
  unfold stopScreen
  split
  · rfl
  · dsimp only
    split <;> rfl

theorem stopVideo_dismissed (sessionID : String) :
    (call.stopVideo env sessionID).props.dismissedNotification = call.props.dismissedNotification := by
  unfold stopVideo
  split
  · rfl
  · split <;> rfl

theorem withoutMedia_dismissed (us : CallSession) :
    (call.withoutMedia env us).props.dismissedNotification = call.props.dismissedNotification := by
  unfold withoutMedia
  split
  · rw [stopVideo_dismissed, stopScreen_dismissed]
  · exact stopScreen_dismissed env call us.id

/-- A leave from a call that goes on. -/
theorem afterLeave_dismissed (ref : SessionRef) (us : CallSession) {sessions : SessionMap} (filled : sessions.size ≠ 0) :
    (call.afterLeave env ref us sessions).props.dismissedNotification = call.props.dismissedNotification := by
  have elected : ((call.withoutMedia env us).electOnLeave env ref.userID sessions).props.dismissedNotification =
      (call.withoutMedia env us).props.dismissedNotification := by
    unfold electOnLeave
    dsimp only
    split <;> rfl
  rw [afterLeave, finishIfEmpty, if_neg filled, elected, withoutMedia_dismissed]

theorem toggleVideo_dismissed (now : Instant) (sessionID : String) (msg : VideoMessage) :
    (call.toggleVideo now sessionID msg).props.dismissedNotification = call.props.dismissedNotification := by
  cases msg with
  | on => rfl
  | off =>
    simp only [toggleVideo]
    split
    · rfl
    · split <;> rfl

variable {env call} {changed : Call}

theorem toggleScreen_dismissed {now : Instant} {sessionID : String} {msg : ScreenMessage}
    (accepted : call.toggleScreen now sessionID msg = .ok changed) :
    changed.props.dismissedNotification = call.props.dismissedNotification := by
  cases msg with
  | on =>
    simp only [toggleScreen] at accepted
    split at accepted <;> cases accepted
    rfl
  | off =>
    simp only [toggleScreen] at accepted
    split at accepted
    · cases accepted
    · split at accepted <;> cases accepted <;> rfl

theorem changeHost_dismissed {requesterID newHostID : String} {sessions : SessionMap}
    (accepted : call.changeHost env requesterID newHostID sessions = .ok changed) :
    changed.props.dismissedNotification = call.props.dismissedNotification := by
  obtain ⟨-, ⟨-, rfl⟩ | ⟨-, rfl⟩⟩ := changeHost_ok accepted
  · unfold lockHost
    split <;> rfl
  · rfl

end Call

theorem joinedState_dismissed (env : Env) (cs : CallState) (req : JoinRequest) :
    (joinedState env cs req).call.props.dismissedNotification = cs.call.props.dismissedNotification := by
  simp only [joinedState, Call.electOnJoin, Call.addParticipant]
  split <;> split <;> rfl

/-! ### Steps -/

/-- Every step other than a dismissal leaves the dismissals of a call that goes on as they are. -/
theorem ServerChange.dismissals {ids : Identities} {step : ServerStep} {before : Option CallView} {after : CallView}
    (change : ServerChange step before (some after)) (kept : ∀ view, before = some view → Kept ids view)
    (other : ∀ env userID channelID, step ≠ .dismiss env userID channelID) (active : after.call.endAt = 0) :
    (before = none ∧ after.call.props.dismissedNotification = .empty) ∨ ∃ view, before = some view ∧ view.call.endAt = 0 ∧
      after.call.props.dismissedNotification = view.call.props.dismissedNotification := by
  cases change with
  | kept => exact .inr ⟨after, rfl, active, rfl⟩
  | dismissed => exact absurd rfl (other _ _ _)
  | traffic change =>
    cases change with
    | kept => exact .inr ⟨after, rfl, active, rfl⟩
    | screen ongoing accepted =>
      have same := Call.toggleScreen_dismissed accepted
      exact .inr ⟨_, rfl, Store.endAt_of_isActive ongoing, same⟩
    | session changes ongoing => exact .inr ⟨_, rfl, Store.endAt_of_isActive ongoing, rfl⟩
    | call change =>
      cases change with
      | kept => exact .inr ⟨after, rfl, active, rfl⟩
      | @started env channelID req base found =>
        refine .inl ⟨rfl, (joinedState_dismissed env base req).trans ?_⟩
        rw [stateToJoin_props found]
        rfl
      | @joined env channelID req cs checked =>
        have ongoing : cs.call.endAt = 0 :=
          Int.le_antisymm (Int.not_lt.mp (checkJoin_running checked)) (kept _ rfl).host.started
        exact .inr ⟨_, rfl, ongoing, joinedState_dismissed env cs req⟩
      | hostChanged ongoing accepted =>
        have same := Call.changeHost_dismissed accepted
        exact .inr ⟨_, rfl, Store.endAt_of_isActive ongoing, same⟩
      | video handled channel ongoing =>
        exact .inr ⟨_, rfl, Store.endAt_of_isActive ongoing, Call.toggleVideo_dismissed _ _ _ _⟩
      | @left env channelID ref cs us call sessions found erased left =>
        subst left
        have ongoing : cs.call.endAt = 0 := (kept _ rfl).host.active (KeyedTable.find?_eq_some_iff.mp found).1
        have filled : sessions.size ≠ 0 := by
          intro empty
          have ended := (Call.afterLeave_kept env ref us sessions cs.call).2
          rw [if_pos empty] at ended
          exact absurd (ended.symm.trans active) (Int.ne_of_gt env.now.unixMilli_pos)
        exact .inr ⟨_, rfl, ongoing, Call.afterLeave_dismissed env cs.call ref us filled⟩

/-- The store knows of exactly the dismissals that were noted. -/
structure DismissalsKept (ids : Identities) (state : CallServer × Dismissals) : Prop where
  views : state.1.ViewsHold (Kept ids)
  known : ∀ entry ∈ state.2, ∃ view, state.1.ops.world.store.callView? entry.1 = some view
  stored : ∀ callID view, state.1.ops.world.store.callView? callID = some view → view.call.endAt = 0 →
    view.Knows state.2 callID

namespace DismissalsKept

variable {ids : Identities} {state after : CallServer × Dismissals} {label : ServerStep}

/-- A step that is no dismissal, or one that fails. -/
theorem unnoted (inv : DismissalsKept ids state) (views : after.1.ViewsHold (Kept ids)) (noted : after.2 = state.2)
    (lives : ∀ callID view, state.1.ops.world.store.callView? callID = some view →
      ∃ later, after.1.ops.world.store.callView? callID = some later)
    (same : ∀ callID view, after.1.ops.world.store.callView? callID = some view → view.call.endAt = 0 →
      (state.1.ops.world.store.callView? callID = none ∧ view.call.props.dismissedNotification = .empty) ∨
        ∃ old, state.1.ops.world.store.callView? callID = some old ∧ old.call.endAt = 0 ∧
          view.call.props.dismissedNotification = old.call.props.dismissedNotification) :
    DismissalsKept ids after where
  views := views
  known entry listed := by
    rw [noted] at listed
    obtain ⟨view, found⟩ := inv.known entry listed
    exact lives entry.1 view found
  stored callID view found active := by
    unfold CallView.Knows
    rw [noted]
    intro userID
    rcases same callID view found active with ⟨fresh, empty⟩ | ⟨old, stored, ongoing, kept⟩
    · rw [if_neg, empty]
      · rfl
      · intro listed
        obtain ⟨earlier, found⟩ := inv.known _ (List.contains_iff_mem.mp listed)
        rw [fresh] at found
        cases found
    · rw [kept]
      exact inv.stored callID old stored ongoing userID

/-- A dismissal that succeeds. -/
theorem dismissed (inv : DismissalsKept ids state) {env : Env} {userID channelID : String}
    (views : after.1.ViewsHold (Kept ids)) (noted : after.2 = noteDismissal state.2 state.1 (.dismiss env userID channelID))
    (effect : DismissEffect env userID channelID state.1 (handleDismissNotification env userID channelID state.1).1 after.1)
    (lives : ∀ callID view, state.1.ops.world.store.callView? callID = some view →
      ∃ later, after.1.ops.world.store.callView? callID = some later) : DismissalsKept ids after := by
  obtain ⟨server, seen⟩ := after
  dsimp only at noted effect lives views
  generalize answered : (handleDismissNotification env userID channelID state.1).1 = result at effect
  simp only [noteDismissal, answered] at noted
  cases effect with
  | refused => exact inv.unnoted views noted lives fun callID view found active => .inr ⟨view, found, active, rfl⟩
  | @dismissed cs world loads saved =>
    have mirrored := (loads.mirrored inv.views.mirrored.jobs).1
    simp only [loads.1] at noted
    subst noted
    have sessions (callID : String) : world.store.callSessions callID = state.1.ops.world.store.callSessions callID :=
      Store.callSessions_congr (congrArg Store.sessions saved) callID
    have identity : (cs.call.dismissNotification userID).identity = cs.call.identity := rfl
    have changes := mirrored.save identity (congrArg Store.calls saved) ((sessions _).trans mirrored.sessions)
      fun other _ => sessions other
    have active : cs.call.endAt = 0 := Store.endAt_of_isActive (loads.mirrored inv.views.mirrored.jobs).2
    refine ⟨views, fun entry listed => ?_, fun callID view found ongoing other => ?_⟩
    · rcases List.mem_cons.mp listed with rfl | old
      · exact ⟨_, changes.here⟩
      · obtain ⟨view, found⟩ := inv.known entry old
        exact lives entry.1 view found
    · by_cases here : callID = cs.call.id
      · subst here
        have stored := changes.here.symm.trans found
        cases stored
        have before := inv.stored cs.call.id cs.view mirrored.view active other
        change StringMap.get? (cs.call.props.dismissedNotification.set userID true) other = _
        rw [StringMap.get?_set]
        split
        · next same => rw [same, if_pos (List.contains_iff_mem.mpr List.mem_cons_self)]
        · next different =>
          have unnoted : ((cs.call.id, userID) :: state.2).contains (cs.call.id, other) = state.2.contains (cs.call.id, other) := by
            simp [different]
          simp only [unnoted]
          exact before
      · have elsewhere : state.1.ops.world.store.callView? callID = some view :=
          (changes.elsewhere callID here).symm.trans found
        have unnoted : ((cs.call.id, userID) :: state.2).contains (callID, other) = state.2.contains (callID, other) := by
          simp [here]
        simp only [unnoted]
        exact inv.stored callID view elsewhere ongoing other

theorem step (inv : DismissalsKept ids state) (serves : ServerServes state.1 label)
    (taken : (callServer ids).next? state.1 label = some after.1) (noted : after.2 = noteDismissal state.2 state.1 label) :
    DismissalsKept ids after := by
  obtain ⟨authentic, moved⟩ := callServer_taken taken
  obtain ⟨mirrored, changes⟩ := inv.views.mirrored.server serves moved
  have lives (callID : String) (view : CallView) (found : state.1.ops.world.store.callView? callID = some view) :
      ∃ later, after.1.ops.world.store.callView? callID = some later := by
    have change := changes callID
    rw [found] at change
    obtain ⟨later, here, -⟩ := (inv.views.views callID view found).lives change
    exact ⟨later, here⟩
  have views : after.1.ViewsHold (Kept ids) := by
    refine ⟨mirrored, fun callID view found => ?_⟩
    have change := changes callID
    rw [found] at change
    exact Kept.change authentic change fun old stored => inv.views.views callID old stored
  by_cases dismissal : ∃ env userID channelID, label = .dismiss env userID channelID
  · obtain ⟨env, userID, channelID, rfl⟩ := dismissal
    simp only [CallServer.next?] at moved
    split at moved
    · cases moved
    · have effect : DismissEffect env userID channelID state.1 _ _ := handleDismissNotification_spec env userID channelID state.1
      rw [Option.some.inj moved] at effect
      exact inv.dismissed views noted effect lives
  · have other : ∀ env userID channelID, label ≠ .dismiss env userID channelID :=
      fun env userID channelID same => dismissal ⟨env, userID, channelID, same⟩
    have unseen : noteDismissal state.2 state.1 label = state.2 := by
      cases label with
      | dismiss env userID channelID => exact absurd rfl (other env userID channelID)
      | room | control | closeRemoved => rfl
    refine inv.unnoted views (noted.trans unseen) lives fun callID view found active => ?_
    have change := changes callID
    rw [found] at change
    exact change.dismissals (fun old stored => inv.views.views callID old stored) other active

end DismissalsKept

/-- In every run of joins, leaves, messages, changes of the host, requests about jobs, dismissals and
requests of hosts, with the store operations of sessions succeeding: the state of the ongoing call of
a channel, as it is sent to a user, says that the user has dismissed its notification if and only if
that user has done so since the call began. -/
theorem dismissals_known {ids : Identities} {state : CallServer × Dismissals}
    (reached : ((dismissalRuns ids).restrict fun state step => ServerServes state.1 step).Reachable state)
    {channelID : String} {cs : CallState} (loads : state.1.ops.world.store.Loads channelID (some cs))
    (order : IterationOrder) (userID : String) :
    (cs.getClientState order ids.botID userID).dismissedNotification =
      if (cs.call.id, userID) ∈ state.2 then some userID else none := by
  have inv : DismissalsKept ids state := by
    refine System.Reachable.invariant_of_allowed ?_ ?_ reached
    · intro state initial
      obtain ⟨same, unseen⟩ := initial
      refine ⟨?_, ?_, ?_⟩
      · rw [same]
        exact ⟨.idle, fun _ _ found => by cases found⟩
      · rw [unseen]
        exact fun _ listed => absurd listed List.not_mem_nil
      · rw [same]
        exact fun _ _ found => by cases found
    · intro before step after inv serves taken
      obtain ⟨moved, noted⟩ := System.observed_next?.mp taken
      exact inv.step serves moved noted
  obtain ⟨mirrored, active⟩ := loads.mirrored inv.views.mirrored.jobs
  have known := inv.stored cs.call.id cs.view mirrored.view (Store.endAt_of_isActive active) userID
  change cs.call.props.dismissedNotification.get? userID = _ at known
  simp only [CallState.getClientState, known, List.contains_iff_mem]
  split <;> simp

/-- Bob dismisses the notification of Alice's call, which knows of him alone. -/
theorem dismissals_known_of_bob : ∃ state cs,
    (dismissalRuns usersAndBot).run? (.idle, []) (aliceStartsCall ++ [.dismiss (.quiet 1500 "") "bob" "channel"]) = some state ∧
      state.2 = [("call", "bob")] ∧ state.1.ops.world.store.Loads "channel" (some cs) ∧
      (cs.getClientState .stored "bot" "bob").dismissedNotification = (if (cs.call.id, "bob") ∈ state.2 then some "bob" else none) ∧
      (cs.getClientState .stored "bot" "alice").dismissedNotification =
        if (cs.call.id, "alice") ∈ state.2 then some "alice" else none := by
  have computed : ((dismissalRuns usersAndBot).run? (.idle, [])
      (aliceStartsCall ++ [.dismiss (.quiet 1500 "") "bob" "channel"])).map (fun state =>
        (state.2, (state.1.ops.world.store.activeCall? "channel").isSome)) = some ([("call", "bob")], true) := by decide +kernel
  obtain ⟨state, ran, shape⟩ := Option.map_eq_some_iff.mp computed
  simp only [Prod.mk.injEq] at shape
  obtain ⟨noted, ongoing⟩ := shape
  obtain ⟨call, active⟩ := Option.isSome_iff_exists.mp ongoing
  have meets : (dismissalRuns usersAndBot).MeetsAlong (fun state step => ServerServes state.1 step) (.idle, [])
      (aliceStartsCall ++ [.dismiss (.quiet 1500 "") "bob" "channel"]) := by
    have checked : (dismissalRuns usersAndBot).checkAlong (fun state step => serverFree state.1 step) (.idle, [])
        (aliceStartsCall ++ [.dismiss (.quiet 1500 "") "bob" "channel"]) = true := by decide +kernel
    refine .of_check checked fun _ step listed => serverFree_sound ?_
    rcases List.mem_append.mp listed with calls | dismisses
    · exact aliceStartsCall_quiet step calls
    · obtain rfl := List.mem_singleton.mp dismisses
      trivial
  have start : ((dismissalRuns usersAndBot).restrict fun state step => ServerServes state.1 step).Reachable (.idle, []) :=
    .init ⟨rfl, rfl⟩
  have reached := start.restrict_run meets ran
  have loads : state.1.ops.world.store.Loads "channel" (some (loadedCall state.1.ops.world.store call)) :=
    ⟨active, rfl, fun type => by cases type <;> rfl⟩
  exact ⟨state, _, ran, noted, loads, dismissals_known reached loads .stored "bob", dismissals_known reached loads .stored "alice"⟩

end Calls
