import Calls.Server.CallServerRuns

/-! The life of a call in the store. Its row is never lost and stays the row of the same call; once
the last session has left, nothing that sessions, hosts or other members do touches it again. -/

set_option autoImplicit false

namespace Calls

/-- What is left of a call that has ended. -/
structure CallView.Finished (view : CallView) : Prop where
  sessions : view.sessions.size = 0
  hosts : view.call.props.hosts = []
  rtcdHost : view.call.props.rtcdHost = ""
  nodeID : view.call.props.nodeID = ""
  dismissed : view.call.props.dismissedNotification = .empty
  participants : view.call.props.participants = .empty
  videos : view.call.props.videoStartAt = .empty

/-- The host is as it should be, and a call that has ended is finished. -/
structure Kept (ids : Identities) (view : CallView) : Prop where
  host : HostKept ids view
  finished : view.call.endAt ≠ 0 → view.Finished

/-- What becomes of a call in later states. -/
structure CallView.Lives (view later : CallView) : Prop where
  identity : later.call.identity = view.call.identity
  ended : view.call.endAt ≠ 0 → later = view

theorem CallView.Lives.refl (view : CallView) : view.Lives view := ⟨rfl, fun _ => rfl⟩

theorem CallView.Lives.trans {view later last : CallView} (first : view.Lives later) (second : later.Lives last) :
    view.Lives last where
  identity := second.identity.trans first.identity
  ended ended := by
    obtain rfl := first.ended ended
    exact second.ended ended

/-- The call as the last session leaves it, once it is written. -/
theorem Call.finish_finished (env : Env) (call : Call) {sessions : SessionMap} (empty : sessions.size = 0) :
    CallView.Finished ⟨(call.finish env).apartFromPost, sessions⟩ := ⟨empty, rfl, rfl, rfl, rfl, rfl, rfl⟩

namespace Kept

variable {ids : Identities}

/-- A call that something happens to has not ended. -/
theorem of_active {view : CallView} (host : HostKept ids view) (active : view.call.endAt = 0) : Kept ids view :=
  ⟨host, fun ended => absurd active ended⟩

/-- What a step makes of one call: only a leave ends it. -/
theorem change {step : ServerStep} {before : Option CallView} {after : CallView} (authentic : step.authentic ids = true)
    (change : ServerChange step before (some after)) (inv : ∀ view, before = some view → Kept ids view) : Kept ids after := by
  have host : HostKept ids after := HostKept.serverChange authentic change fun view found => (inv view found).host
  cases change with
  | kept => exact inv after rfl
  | dismissed channel active => exact .of_active host (Store.endAt_of_isActive active)
  | traffic change =>
    cases change with
    | kept => exact inv after rfl
    | screen active accepted =>
      exact .of_active host ((Call.toggleScreen_identity accepted).2.trans (Store.endAt_of_isActive active))
    | session changes active => exact .of_active host (Store.endAt_of_isActive active)
    | call change =>
      cases change with
      | kept => exact inv after rfl
      | @started env channelID req base found =>
        obtain ⟨-, -, fresh⟩ := stateToJoin_none found
        exact .of_active host ((joinedState_same env base req).endAt.trans fresh.unused.endAt)
      | @joined env channelID req cs checked =>
        have running := Int.not_lt.mp (checkJoin_running checked)
        have active : cs.call.endAt = 0 := Int.le_antisymm running (inv _ rfl).host.started
        exact .of_active host ((joinedState_same env cs req).endAt.trans active)
      | hostChanged active accepted =>
        exact .of_active host ((Call.changeHost_identity accepted).2.trans (Store.endAt_of_isActive active))
      | video handled channel active =>
        exact .of_active host ((Call.toggleVideo_identity _ _ _ _).2.trans (Store.endAt_of_isActive active))
      | @left env channelID ref cs us call sessions found erased left =>
        subst left
        have active : cs.call.endAt = 0 := (inv _ rfl).host.active (KeyedTable.find?_eq_some_iff.mp found).1
        by_cases empty : sessions.size = 0
        · refine ⟨host, fun _ => ?_⟩
          rw [Call.afterLeave, Call.finishIfEmpty, if_pos empty]
          exact Call.finish_finished env _ empty
        · have endAt := (Call.afterLeave_kept env ref us sessions cs.call).2
          rw [if_neg empty] at endAt
          exact .of_active host (endAt.trans active)

/-- No step loses a call, takes it for another one, or changes it once it has ended. -/
theorem lives {step : ServerStep} {view : CallView} {after : Option CallView} (kept : Kept ids view)
    (change : ServerChange step (some view) after) : ∃ later, after = some later ∧ view.Lives later := by
  have ongoing {later : CallView} (active : view.call.endAt = 0) (identity : later.call.identity = view.call.identity) :
      view.Lives later := ⟨identity, fun ended => absurd active ended⟩
  cases change with
  | kept => exact ⟨view, rfl, .refl view⟩
  | dismissed channel active => exact ⟨_, rfl, ongoing (Store.endAt_of_isActive active) rfl⟩
  | traffic change =>
    cases change with
    | kept => exact ⟨view, rfl, .refl view⟩
    | screen active accepted =>
      exact ⟨_, rfl, ongoing (Store.endAt_of_isActive active) (Call.toggleScreen_identity accepted).1⟩
    | session changes active => exact ⟨_, rfl, ongoing (Store.endAt_of_isActive active) rfl⟩
    | call change =>
      cases change with
      | kept => exact ⟨view, rfl, .refl view⟩
      | @joined env channelID req cs checked =>
        have active : cs.call.endAt = 0 := Int.le_antisymm (Int.not_lt.mp (checkJoin_running checked)) kept.host.started
        exact ⟨_, rfl, ongoing active (joinedState_same env cs req).identity⟩
      | hostChanged active accepted =>
        exact ⟨_, rfl, ongoing (Store.endAt_of_isActive active) (Call.changeHost_identity accepted).1⟩
      | video handled channel active =>
        exact ⟨_, rfl, ongoing (Store.endAt_of_isActive active) (Call.toggleVideo_identity _ _ _ _).1⟩
      | @left env channelID ref cs us call sessions found erased left =>
        subst left
        have active : cs.call.endAt = 0 := kept.host.active (KeyedTable.find?_eq_some_iff.mp found).1
        exact ⟨_, rfl, ongoing active (Call.afterLeave_kept env ref us sessions cs.call).1⟩

end Kept

theorem callServer_taken {ids : Identities} {server after : CallServer} {step : ServerStep}
    (taken : (callServer ids).next? server step = some after) : step.authentic ids = true ∧ server.next? step = some after := by
  unfold callServer at taken
  dsimp only at taken
  split at taken
  · next authentic => exact ⟨authentic, taken⟩
  · cases taken

end Calls
