import Calls.Server.Removals

/-! The sessions of calls in a room. Each is in an ongoing call of its channel, which is the one
that a removal has loaded; so whoever runs it deletes the session. -/

set_option autoImplicit false

namespace Calls

/-- A session of a call after a step was one of a call of the same channel, or it has joined. -/
theorem RoomEffect.listed {ids : Identities} {ops after : Operations} {step : RoomStep} (inv : RoomInvariant ids ops)
    (effect : RoomEffect ops step after) {callID : String} {view : CallView} {session : CallSession}
    (stored : after.world.store.callView? callID = some view) (member : session ∈ view.sessions) :
    (∃ old previous, ops.world.store.callView? callID = some old ∧ old.call.channelID = view.call.channelID ∧
        previous ∈ old.sessions ∧ previous.id = session.id) ∨
      ∃ env channelID req, step = (OperationStep.join env channelID req).room ∧ session.id = req.connID ∧
        view.call.channelID = channelID := by
  cases effect with
  | quiet same =>
    rw [same] at stored
    exact .inl ⟨view, session, stored, rfl, member, rfl⟩
  | @entered env channelID req state base joined world running enters =>
    change world.store.callView? callID = some view at stored
    by_cases here : callID = base.call.id
    · subst here
      rw [enters.changes.here] at stored
      cases stored
      rcases enters.users session member with old | rfl
      · cases state with
        | none =>
          rw [(stateToJoin_none enters.found).2.2.sessions] at old
          exact absurd old KeyedTable.not_mem_empty
        | some cs =>
          cases Except.ok.inj enters.found
          have held := inv.mirrored.held channelID _ base (Operations.batch?_eq_some running) rfl
          exact .inl ⟨base.view, session, held.view, held.channel.trans (enters.item.next joined rfl).channel.symm, old, rfl⟩
      · exact .inr ⟨env, channelID, req, rfl, rfl, (enters.item.next joined rfl).channel⟩
    · rw [enters.changes.elsewhere callID here] at stored
      exact .inl ⟨view, session, stored, rfl, member, rfl⟩
  | @left env channelID ref held next us world running present sessions call changes =>
    change world.store.callView? callID = some view at stored
    by_cases here : callID = held.call.id
    · subst here
      rw [changes.here] at stored
      cases stored
      have mirrored := inv.mirrored.held channelID _ held (Operations.batch?_eq_some running) rfl
      have identity := (Call.afterLeave_kept env ref us next.sessions held.call).1
      rw [← call] at identity
      have remains : session ∈ next.sessions := member
      rw [sessions, KeyedTable.mem_erase] at remains
      exact .inl ⟨held.view, session, mirrored.view, (congrArg (·.2.1) identity).symm, remains.1, rfl⟩
    · rw [changes.elsewhere callID here] at stored
      exact .inl ⟨view, session, stored, rfl, member, rfl⟩
  | @messaged step env channelID cs changed ev world free message loads change changes =>
    by_cases here : callID = cs.call.id
    · subst here
      rw [changes.here] at stored
      cases stored
      obtain ⟨identity, -, people⟩ := change.kept
      have listed : (session.id, session.userID) ∈ cs.sessions.people :=
        people ▸ SessionMap.mem_people.mpr ⟨session, member, rfl, rfl⟩
      obtain ⟨old, oldMember, sameID, -⟩ := SessionMap.mem_people.mp listed
      exact .inl ⟨cs.view, old, (loads.ongoingIn inv.mirrored.jobs).1, (congrArg (·.2.1) identity).symm, oldMember, sameID⟩
    · rw [changes.elsewhere callID here] at stored
      exact .inl ⟨view, session, stored, rfl, member, rfl⟩

/-- Only ongoing calls have sessions, and the one that is held is the only one of its channel that may be ongoing. -/
structure SessionsOngoing (ops : Operations) : Prop where
  listed : ∀ callID view session, ops.world.store.callView? callID = some view → session ∈ view.sessions →
    Store.isActive view.call = true
  only : ∀ channelID batch cs, ops.held.get? channelID = some batch → batch.state = some cs →
    ∀ callID view, ops.world.store.OngoingIn channelID callID view → callID = cs.call.id

namespace SessionsOngoing

variable {ids : Identities} {ops after : Operations} {label : RoomStep}

theorem idle : SessionsOngoing .idle where
  listed _ _ _ stored := by cases stored
  only _ _ _ found := by cases found

/-- One call of the channel has changed, of which its batch knows. -/
theorem changed (ongoing : SessionsOngoing ops) {channelID callID : String} {changed : CallView}
    (changes : ops.world.store.ChangesCall callID after.world.store changed) (channel : changed.call.channelID = channelID)
    (active : ∀ session ∈ changed.sessions, Store.isActive changed.call = true)
    (only : ∀ other view, ops.world.store.OngoingIn channelID other view → other = callID)
    (held : ∀ other batch cs, after.held.get? other = some batch → batch.state = some cs →
      (ops.held.get? other = some batch ∧ other ≠ channelID) ∨ cs.call.id = callID ∧ other = channelID) :
    SessionsOngoing after where
  listed id view session stored member := by
    by_cases here : id = callID
    · subst here
      rw [changes.here] at stored
      cases stored
      exact active session member
    · rw [changes.elsewhere id here] at stored
      exact ongoing.listed id view session stored member
  only other batch cs found loaded id view here := by
    by_cases same : id = callID
    · subst same
      rcases held other batch cs found loaded with ⟨-, different⟩ | ⟨own, -⟩
      · obtain ⟨stored, inChannel, -⟩ := here
        rw [changes.here] at stored
        cases stored
        exact absurd (inChannel.symm.trans channel) different
      · exact own.symm
    · rw [Store.OngoingIn, changes.elsewhere id same] at here
      rcases held other batch cs found loaded with ⟨old, -⟩ | ⟨-, rfl⟩
      · exact ongoing.only other batch cs old loaded id view here
      · exact absurd (only id view here) same

theorem step (ongoing : SessionsOngoing ops) (inv : RoomInvariant ids ops) (effect : RoomEffect ops label after) :
    SessionsOngoing after := by
  cases effect with
  | quiet same told holds =>
    refine ⟨fun callID view session stored member => ?_, fun channelID batch cs found loaded callID view here => ?_⟩
    · rw [same] at stored
      exact ongoing.listed callID view session stored member
    · rw [Store.OngoingIn, same] at here
      rcases holds channelID batch found with old | loads
      · exact ongoing.only channelID batch cs old loaded callID view here
      · rw [loaded] at loads
        exact inv.single channelID callID cs.call.id _ _ here (loads.ongoingIn inv.mirrored.jobs)
  | @entered env channelID req state base joined world running enters =>
    have found := Operations.batch?_eq_some running
    have active := enters.ongoing fun cs held => inv.ongoing channelID _ cs found held (.inl rfl)
    refine ongoing.changed enters.changes (enters.item.next joined rfl).channel (fun _ _ => active)
      (inv.onlyBase running enters) fun other batch cs held loaded => ?_
    rcases Operations.holdBatch_cases held with ⟨here, rfl⟩ | ⟨elsewhere, held⟩
    · cases loaded
      have sameID : joined.call.id = (joinedState env base req).call.id := congrArg (fun view : CallView => view.call.id) enters.view
      exact .inr ⟨sameID.trans (joinedState_same env base req).id_eq, here⟩
    · exact .inl ⟨held, elsewhere⟩
  | @left env channelID ref held next us world running present sessions call changes =>
    have found := Operations.batch?_eq_some running
    obtain ⟨⟨here, inChannel, active⟩, -⟩ := inv.leaving running present
    obtain ⟨identity, endAt⟩ := Call.afterLeave_kept env ref us next.sessions held.call
    rw [← call] at identity endAt
    refine ongoing.changed changes ((congrArg (·.2.1) identity).trans inChannel) (fun session member => ?_)
      (ongoing.only channelID _ held found rfl) fun other batch cs held loaded => ?_
    · rw [if_neg (KeyedTable.size_ne_zero_of_mem (show session ∈ next.sessions from member))] at endAt
      exact (Store.isActive_congr identity endAt).trans active
    · rcases Operations.holdBatch_cases held with ⟨here, rfl⟩ | ⟨elsewhere, held⟩
      · cases loaded
        exact .inr ⟨Call.id_eq_of_identity identity, here⟩
      · exact .inl ⟨held, elsewhere⟩
  | @messaged step env channelID cs view ev world free message loads change changes =>
    obtain ⟨identity, endAt, -⟩ := change.kept
    have here := loads.ongoingIn inv.mirrored.jobs
    refine ongoing.changed changes ((congrArg (·.2.1) identity).trans here.2.1)
      (fun _ _ => (Store.isActive_congr identity endAt).trans here.2.2)
      (fun other view ongoing => inv.single channelID other cs.call.id _ _ ongoing here) fun other batch held found _ => .inl ⟨found, ?_⟩
    exact StringMap.ne_of_not_contains free found

end SessionsOngoing

/-! ### The removal of one session -/

/-- A session has a row exactly when it is in a call. -/
theorem Store.SessionsOwned.contains_iff {store : Store} (owned : store.SessionsOwned) {sessionID : String} :
    store.sessions.contains sessionID = true ↔
      ∃ callID view session, store.callView? callID = some view ∧ session ∈ view.sessions ∧ session.id = sessionID := by
  rw [KeyedTable.contains_iff]
  constructor
  · intro row
    obtain ⟨session, member, same⟩ := row
    obtain ⟨-, called⟩ := owned session member
    obtain ⟨call, stored, named⟩ := KeyedTable.contains_iff.mp called
    refine ⟨session.callID, _, session, Store.callView?_eq_some_iff.mpr ⟨call, ?_, rfl⟩, ?_, same⟩
    · exact KeyedTable.find?_eq_some_iff.mpr ⟨stored, named⟩
    · exact Store.mem_callSessions.mpr ⟨member, rfl⟩
  · intro listed
    obtain ⟨callID, view, session, stored, member, same⟩ := listed
    obtain ⟨call, -, rfl⟩ := Store.callView?_eq_some_iff.mp stored
    exact ⟨session, (Store.mem_callSessions.mp member).1, same⟩

/-- On a store that works, no session is left in the calls whose removal has been run under the lock of its channel. -/
theorem RoomInvariant.removed {ids : Identities} {ops after : Operations} (inv : RoomInvariant ids ops) (ongoing : SessionsOngoing ops)
    {env : Env} (works : env.StoreWorks) {channelID : String} {ref : SessionRef}
    (channel : ∀ callID view session, ops.world.store.callView? callID = some view → session ∈ view.sessions →
      session.id = ref.originalConnID → view.call.channelID = channelID)
    (taken : ops.next? (.leave env channelID ref) = some after) : after.world.store.sessions.contains ref.originalConnID = false := by
  have absent (world : after.world = ops.world)
      (none : ∀ callID view, ops.world.store.OngoingIn channelID callID view → ∀ session ∈ view.sessions,
        session.id ≠ ref.originalConnID) : after.world.store.sessions.contains ref.originalConnID = false := by
    rw [world, ← Bool.not_eq_true, inv.mirrored.sessions.contains_iff]
    intro listed
    obtain ⟨callID, view, session, stored, member, same⟩ := listed
    have here := channel callID view session stored member same
    exact none callID view ⟨stored, here, ongoing.listed callID view session stored member⟩ session member same
  rcases Operations.leave_eq taken with ⟨running, world⟩ | ⟨cs, running, world⟩
  · have found := Operations.batch?_eq_some running
    exact absent world fun callID view here => absurd here (inv.absent channelID _ found callID view)
  · have found := Operations.batch?_eq_some running
    have mirrored := inv.mirrored.held channelID _ cs found rfl
    cases present : cs.sessions.find? ref.originalConnID with
    | some us =>
      have removed : (removeUserSession env channelID ref).wp
          (fun result after => result = .ok () ∧ SessionDeleted ref ⟨ops.world, cs⟩ after ∧ _ ∧ _) ⟨ops.world, cs⟩ :=
        removeUserSession_works works present (mirrored.valid inv.mirrored.valid) mirrored.jobs
      obtain ⟨-, deleted, -⟩ := removed
      rw [world, deleted.store]
      exact KeyedTable.contains_erase_self
    | none =>
      rw [removeUserSession_absent (by simp [KeyedTable.contains, present])] at world
      refine absent world fun callID view here session member same => ?_
      obtain rfl := ongoing.only channelID _ cs found rfl callID view here
      have stored := here.1
      rw [mirrored.view] at stored
      cases stored
      exact KeyedTable.find?_eq_none_iff.mp present session member same

/-- A row after a step was there before, or is that of a session that has joined. -/
theorem RoomEffect.row_of {ids : Identities} {ops after : Operations} {label : RoomStep} (effect : RoomEffect ops label after)
    (inv : RoomInvariant ids ops) (owned : after.world.store.SessionsOwned) {sessionID : String}
    (row : after.world.store.sessions.contains sessionID = true) :
    ops.world.store.sessions.contains sessionID = true ∨
      ∃ env channelID req, label = (OperationStep.join env channelID req).room ∧ sessionID = req.connID := by
  obtain ⟨callID, view, session, stored, member, rfl⟩ := owned.contains_iff.mp row
  rcases effect.listed inv stored member with ⟨old, previous, found, -, listed, same⟩ | ⟨env, channelID, req, joins, named, -⟩
  · exact .inl (inv.mirrored.sessions.contains_iff.mpr ⟨callID, old, previous, found, listed, same⟩)
  · exact .inr ⟨env, channelID, req, joins, named⟩

end Calls
