import Calls.Server.OngoingCalls
import Calls.Server.Rooms
import Calls.Server.TrackedVideos

/-! Runs of rooms: a channel has at most one ongoing call, which the batches of the
channel know of, and every session is the one of its connection's user. -/

set_option autoImplicit false

namespace Calls

theorem Store.isActive_congr {left right : Call} (identity : left.identity = right.identity)
    (endAt : left.endAt = right.endAt) : isActive left = isActive right := by
  simp only [Call.identity, Prod.mk.injEq] at identity
  simp only [isActive, endAt, identity]

/-- The call is an ongoing one of the channel. -/
def Store.OngoingIn (store : Store) (channelID callID : String) (view : CallView) : Prop :=
  store.callView? callID = some view ∧ view.call.channelID = channelID ∧ isActive view.call = true

namespace Store.OngoingIn

variable {store : Store} {channelID callID : String} {view : CallView}

theorem channel (ongoing : store.OngoingIn channelID callID view) (old : CallView) (stored : store.callView? callID = some old) :
    old.call.channelID = channelID := by
  rw [ongoing.1] at stored
  cases stored
  exact ongoing.2.1

/-- What a leave makes of an ongoing call stays in the channel. -/
theorem channel_afterLeave {held next : CallState} (ongoing : store.OngoingIn channelID held.call.id held.view) {env : Env}
    {ref : SessionRef} {us : CallSession} (call : next.call = held.call.afterLeave env ref us next.sessions) :
    next.view.call.channelID = channelID := by
  have identity := (Call.afterLeave_kept env ref us next.sessions held.call).1
  rw [← call] at identity
  exact (congrArg (·.2.1) identity).trans ongoing.2.1

end Store.OngoingIn

/-- One call of the channel has changed: there is no other that could be ongoing. -/
theorem Store.ChangesCall.ongoingIn_here {before after : Store} {channelID callID id : String} {view found : CallView}
    (changes : before.ChangesCall callID after view)
    (only : ∀ other otherView, before.OngoingIn channelID other otherView → other = callID)
    (here : after.OngoingIn channelID id found) : id = callID ∧ found = view := by
  by_cases same : id = callID
  · subst same
    have stored := here.1
    rw [changes.here] at stored
    cases stored
    exact ⟨rfl, rfl⟩
  · rw [OngoingIn, changes.elsewhere id same] at here
    exact absurd (only id found here) same

/-- A change to a call of another channel. -/
theorem Store.ChangesCall.ongoingIn_elsewhere {before after : Store} {channelID callID other id : String} {view found : CallView}
    (changes : before.ChangesCall callID after view) (channel : view.call.channelID = channelID)
    (was : ∀ old, before.callView? callID = some old → old.call.channelID = channelID) (different : other ≠ channelID) :
    after.OngoingIn other id found ↔ before.OngoingIn other id found := by
  by_cases here : id = callID
  · subst here
    refine iff_of_false (fun ongoing => different ?_) fun ongoing => different ?_
    · obtain ⟨stored, inChannel, -⟩ := ongoing
      rw [changes.here] at stored
      cases stored
      exact inChannel.symm.trans channel
    · exact ongoing.2.1.symm.trans (was found ongoing.1)
  · simp only [OngoingIn, changes.elsewhere id here]

/-- What the lock of a channel loads is its ongoing call. -/
theorem Store.Loads.ongoingIn {store : Store} {channelID : String} {cs : CallState} (loads : store.Loads channelID (some cs))
    (jobs : store.JobsValid) : store.OngoingIn channelID cs.call.id cs.view := by
  obtain ⟨mirrored, active⟩ := loads.mirrored jobs
  exact ⟨mirrored.view, mirrored.channel, active⟩

theorem Store.ongoingIn_of_activeCall {store : Store} {channelID : String} {call : Call} (found : store.activeCall? channelID = some call) :
    store.OngoingIn channelID call.id ⟨call.apartFromPost, store.callSessions call.id⟩ := by
  obtain ⟨stored, inChannel, active⟩ := activeCall?_eq_some found
  refine ⟨?_, inChannel, active⟩
  rw [callView?, KeyedTable.find?_self stored]
  rfl

structure RoomInvariant (ids : Identities) (ops : Operations) : Prop where
  mirrored : Mirrored ops
  single : ∀ channelID left right leftView rightView, ops.world.store.OngoingIn channelID left leftView →
    ops.world.store.OngoingIn channelID right rightView → left = right
  absent : ∀ channelID kind, ops.held.get? channelID = some ⟨kind, none⟩ →
    ∀ callID view, ¬ ops.world.store.OngoingIn channelID callID view
  ongoing : ∀ channelID batch cs, ops.held.get? channelID = some batch → batch.state = some cs → batch.Live cs →
    Store.isActive cs.call = true
  owners : ∀ callID view, ops.world.store.callView? callID = some view →
    ∀ session ∈ view.sessions, session.userID = ids.owner session.id

/-- Who is in a call, and with which sessions. -/
def SessionMap.people (sessions : SessionMap) : List (String × String) :=
  sessions.rows.map fun session => (session.id, session.userID)

theorem SessionMap.mem_people {sessions : SessionMap} {sessionID userID : String} :
    (sessionID, userID) ∈ sessions.people ↔ ∃ session ∈ sessions, session.id = sessionID ∧ session.userID = userID := by
  simp only [people, List.mem_map, Prod.mk.injEq]
  rfl

theorem SessionMap.mem_people_erase {sessions : SessionMap} {sessionID userID erased : String} :
    (sessionID, userID) ∈ SessionMap.people (sessions.erase erased) ↔ sessionID ≠ erased ∧ (sessionID, userID) ∈ sessions.people := by
  simp only [mem_people, KeyedTable.mem_erase]
  constructor
  · intro facts
    obtain ⟨session, ⟨member, different⟩, rfl, same⟩ := facts
    exact ⟨different, session, member, rfl, same⟩
  · intro facts
    obtain ⟨different, session, member, rfl, same⟩ := facts
    exact ⟨session, ⟨member, different⟩, rfl, same⟩

/-- A message changes neither which call it is about nor who is in it. -/
theorem MessageChange.kept {step : TrafficStep} {cs : CallState} {view : CallView} {ev : Option WsEvent}
    (change : MessageChange step cs view ev) : view.call.identity = cs.call.identity ∧ view.call.endAt = cs.call.endAt ∧
      view.sessions.people = cs.sessions.people := by
  have modified (sessionID : String) (changed : CallSession) : SessionMap.people (cs.sessions.modify sessionID
      (·.updatedFrom changed) fun row => row.updatedFrom_id _) = cs.sessions.people := by
    simp only [SessionMap.people, KeyedTable.modify, List.map_map]
    refine List.map_congr_left fun session _ => ?_
    simp only [Function.comp_apply]
    split <;> rfl
  cases change with
  | mute found => exact ⟨rfl, rfl, modified _ _⟩
  | hand found => exact ⟨rfl, rfl, modified _ _⟩
  | @video env us msg =>
    obtain ⟨identity, endAt⟩ := Call.toggleVideo_identity env.now us.originalConnID cs.call msg
    exact ⟨identity, endAt, modified _ _⟩
  | screen accepted sent => exact ⟨(Call.toggleScreen_identity accepted).1, (Call.toggleScreen_identity accepted).2, rfl⟩
  | unsentScreen accepted unsent => exact ⟨(Call.toggleScreen_identity accepted).1, (Call.toggleScreen_identity accepted).2, rfl⟩
  | host accepted changed => exact ⟨(Call.changeHost_identity accepted).1, (Call.changeHost_identity accepted).2, rfl⟩
  | hostLocked accepted kept => exact ⟨(Call.changeHost_identity accepted).1, (Call.changeHost_identity accepted).2, rfl⟩

namespace RoomInvariant

variable {ids : Identities} {ops after : Operations}

theorem idle : RoomInvariant ids .idle where
  mirrored := .idle
  single _ _ _ _ _ ongoing := by cases ongoing.1
  absent _ _ found := by cases found
  ongoing _ _ _ found := by cases found
  owners _ _ found := by cases found

/-- One call of the channel changes, and no other call is ongoing there. -/
theorem changed (inv : RoomInvariant ids ops) {channelID callID : String} {view : CallView} (mirrored : Mirrored after)
    (changes : ops.world.store.ChangesCall callID after.world.store view) (channel : view.call.channelID = channelID)
    (only : Store.isActive view.call = true → ∀ other otherView, ops.world.store.OngoingIn channelID other otherView → other = callID)
    (owners : ∀ session ∈ view.sessions, session.userID = ids.owner session.id)
    (held : ∀ other batch, after.held.get? other = some batch → ops.held.get? other = some batch ∧ other ≠ channelID ∨
      (other = channelID ∧ ∃ cs, batch.state = some cs ∧ (batch.Live cs → Store.isActive cs.call = true))) :
    RoomInvariant ids after := by
  have before {other id : String} {found : CallView} (different : id ≠ callID) (ongoing : after.world.store.OngoingIn other id found) :
      ops.world.store.OngoingIn other id found := by
    rw [Store.OngoingIn, changes.elsewhere id different] at ongoing
    exact ongoing
  have here {other : String} {found : CallView} (ongoing : after.world.store.OngoingIn other callID found) :
      found = view ∧ other = channelID := by
    obtain ⟨stored, inChannel, -⟩ := ongoing
    rw [changes.here] at stored
    cases stored
    exact ⟨rfl, inChannel.symm.trans channel⟩
  refine ⟨mirrored, ?_, ?_, ?_, ?_⟩
  · intro other left right leftView rightView leftOngoing rightOngoing
    by_cases leftHere : left = callID <;> by_cases rightHere : right = callID
    · rw [leftHere, rightHere]
    · subst leftHere
      obtain ⟨rfl, rfl⟩ := here leftOngoing
      exact (only leftOngoing.2.2 right rightView (before rightHere rightOngoing)).symm
    · subst rightHere
      obtain ⟨rfl, rfl⟩ := here rightOngoing
      exact only rightOngoing.2.2 left leftView (before leftHere leftOngoing)
    · exact inv.single other left right leftView rightView (before leftHere leftOngoing) (before rightHere rightOngoing)
  · intro other kind found id otherView ongoing
    rcases held other _ found with ⟨old, different⟩ | ⟨-, cs, loaded, -⟩
    · by_cases same : id = callID
      · subst same
        exact different (here ongoing).2
      · exact inv.absent other kind old id otherView (before same ongoing)
    · cases loaded
  · intro other batch cs found loaded live
    rcases held other batch found with ⟨old, -⟩ | ⟨-, held, same, active⟩
    · exact inv.ongoing other batch cs old loaded live
    · rw [loaded] at same
      cases same
      exact active live
  · intro id found stored session member
    by_cases same : id = callID
    · subst same
      rw [changes.here] at stored
      cases stored
      exact owners session member
    · rw [changes.elsewhere id same] at stored
      exact inv.owners id found stored session member

theorem quiet (inv : RoomInvariant ids ops) (mirrored : Mirrored after)
    (same : ∀ callID, after.world.store.callView? callID = ops.world.store.callView? callID) (holds : HoldsOn ops after) :
    RoomInvariant ids after := by
  have ongoing {channelID callID : String} {view : CallView} (found : after.world.store.OngoingIn channelID callID view) :
      ops.world.store.OngoingIn channelID callID view := by
    rwa [Store.OngoingIn, same] at found
  refine ⟨mirrored, ?_, ?_, ?_, ?_⟩
  · exact fun channelID left right _ _ leftOngoing rightOngoing =>
      inv.single channelID left right _ _ (ongoing leftOngoing) (ongoing rightOngoing)
  · intro channelID kind found callID view here
    rcases holds channelID _ found with old | loads
    · exact inv.absent channelID kind old callID view (ongoing here)
    · obtain ⟨stored, inChannel, active⟩ := ongoing here
      obtain ⟨row, listed, rfl⟩ := Store.callView?_eq_some_iff.mp stored
      have ended := Store.activeCall?_eq_none_iff.mp loads row (KeyedTable.find?_eq_some_iff.mp listed).1 inChannel
      exact absurd (show Store.isActive row = true from active) (by rw [ended]; exact Bool.false_ne_true)
  · intro channelID batch cs found loaded live
    rcases holds channelID batch found with old | loads
    · exact inv.ongoing channelID batch cs old loaded live
    · rw [loaded] at loads
      exact (Store.activeCall?_eq_some loads.1).2.2
  · intro callID view stored
    rw [same] at stored
    exact inv.owners callID view stored

end RoomInvariant

/-- The call that a session has joined is the ongoing one of its channel. -/
theorem EntersCall.ongoing {env : Env} {channelID : String} {state : Option CallState} {req : JoinRequest}
    {before after : Store} {base joined : CallState} (enters : EntersCall env channelID state req before after base joined)
    (active : ∀ cs, state = some cs → Store.isActive cs.call = true) : Store.isActive joined.call = true := by
  have same := joinedState_same env base req
  have joinedActive : Store.isActive joined.call = Store.isActive (joinedState env base req).call :=
    congrArg (fun view : CallView => Store.isActive view.call) enters.view
  rw [joinedActive, Store.isActive_congr same.identity same.endAt]
  cases state with
  | some cs =>
    cases Except.ok.inj enters.found
    exact active _ rfl
  | none =>
    obtain ⟨-, -, fresh⟩ := stateToJoin_none enters.found
    rw [Store.isActive_congr fresh.call.identity fresh.call.endAt]
    simp only [Store.isActive, newCall, env.now.unixMilli_pos, true_and, decide_true]

theorem EntersCall.users {env : Env} {channelID : String} {state : Option CallState} {req : JoinRequest}
    {before after : Store} {base joined : CallState} (enters : EntersCall env channelID state req before after base joined) :
    ∀ session ∈ joined.sessions, session ∈ base.sessions ∨ session = newCallSession env base.call req := by
  intro session member
  have sessions : joined.sessions = (joinedState env base req).sessions := congrArg CallView.sessions enters.view
  rw [sessions] at member
  rcases KeyedTable.mem_put.mp member with rfl | ⟨old, -⟩
  · exact .inr rfl
  · exact .inl old

theorem EntersCall.mem_people {env : Env} {channelID : String} {state : Option CallState} {req : JoinRequest}
    {before after : Store} {base joined : CallState} (enters : EntersCall env channelID state req before after base joined)
    {sessionID userID : String} : (sessionID, userID) ∈ joined.sessions.people ↔
      sessionID = req.connID ∧ userID = req.userID ∨ (sessionID, userID) ∈ base.sessions.people := by
  have sessions : joined.sessions = (joinedState env base req).sessions := congrArg CallView.sessions enters.view
  have fresh : base.sessions.contains (newCallSession env base.call req).id = false := checkJoin_absent enters.checked
  rw [sessions, SessionMap.people, joinedState, KeyedTable.rows_put_fresh fresh]
  simp only [List.map_append, List.map_cons, List.map_nil, List.mem_append, List.mem_singleton, Prod.mk.injEq]
  exact or_comm

namespace RoomInvariant

variable {ids : Identities} {ops after : Operations}

/-- The call that a join finds, or is to start, is the only one there can be in its channel. -/
theorem onlyBase (inv : RoomInvariant ids ops) {env : Env} {channelID : String} {req : JoinRequest} {state : Option CallState}
    {base joined : CallState} {world : World} (running : ops.batch? channelID .joining = some state)
    (enters : EntersCall env channelID state req ops.world.store world.store base joined) :
    ∀ other view, ops.world.store.OngoingIn channelID other view → other = base.call.id := by
  intro other view ongoing
  have found := Operations.batch?_eq_some running
  cases state with
  | none => exact absurd ongoing (inv.absent channelID _ found other view)
  | some cs =>
    have reused : cs = base := Except.ok.inj enters.found
    subst reused
    have here := inv.mirrored.held channelID _ cs found rfl
    exact inv.single channelID other cs.call.id _ _ ongoing ⟨here.view, here.channel, inv.ongoing channelID _ cs found rfl (.inl rfl)⟩

/-- The row of the call that a join finds is one of its channel. -/
theorem baseChannel (inv : RoomInvariant ids ops) {env : Env} {channelID : String} {req : JoinRequest} {state : Option CallState}
    {base joined : CallState} {world : World} (running : ops.batch? channelID .joining = some state)
    (enters : EntersCall env channelID state req ops.world.store world.store base joined) :
    ∀ old, ops.world.store.callView? base.call.id = some old → old.call.channelID = channelID := by
  intro old stored
  cases state with
  | none =>
    rw [(enters.first rfl).2] at stored
    cases stored
  | some cs =>
    have reused : cs = base := Except.ok.inj enters.found
    subst reused
    have held := inv.mirrored.held channelID _ cs (Operations.batch?_eq_some running) rfl
    rw [held.view] at stored
    cases stored
    exact held.channel

/-- A session that is about to leave is in the ongoing call of its channel, and is that of its user. -/
theorem leaving (inv : RoomInvariant ids ops) {channelID : String} {ref : SessionRef} {held : CallState} {us : CallSession}
    (running : ops.batch? channelID .leaving = some (some held))
    (present : held.sessions.find? ref.originalConnID = some us) :
    ops.world.store.OngoingIn channelID held.call.id held.view ∧ us.userID = ids.owner ref.originalConnID := by
  have found := Operations.batch?_eq_some running
  have here := inv.mirrored.held channelID _ held found rfl
  obtain ⟨member, named⟩ := KeyedTable.find?_eq_some_iff.mp present
  have active := inv.ongoing channelID _ held found rfl (.inr (KeyedTable.size_ne_zero_of_mem member))
  exact ⟨⟨here.view, here.channel, active⟩, named ▸ inv.owners _ _ here.view us member⟩

theorem step {label : RoomStep} (inv : RoomInvariant ids ops) (authentic : label.authentic ids = true)
    (mirrored : Mirrored after) (effect : RoomEffect ops label after) : RoomInvariant ids after := by
  cases effect with
  | quiet same told holds => exact inv.quiet mirrored same holds
  | @entered env channelID req state base joined world running enters told =>
    have found := Operations.batch?_eq_some running
    have active := enters.ongoing fun cs held => inv.ongoing channelID _ cs found held (.inl rfl)
    have owner : ids.owner req.connID = req.userID := by
      simp only [RoomStep.authentic, TrafficStep.authentic, CallStep.authentic, Bool.and_eq_true, decide_eq_true_eq] at authentic
      exact authentic.2
    refine inv.changed mirrored enters.changes (enters.item.next joined rfl).channel (fun _ => inv.onlyBase running enters)
      (fun session member => ?_) fun other batch held => ?_
    · rcases enters.users session member with old | rfl
      · cases state with
        | none =>
          rw [(stateToJoin_none enters.found).2.2.sessions] at old
          exact absurd old KeyedTable.not_mem_empty
        | some cs =>
          cases Except.ok.inj enters.found
          exact inv.owners _ _ (inv.mirrored.held channelID _ _ found rfl).view session old
      · exact owner.symm
    · rcases Operations.holdBatch_cases held with ⟨here, rfl⟩ | ⟨elsewhere, held⟩
      · exact .inr ⟨here, joined, rfl, fun _ => active⟩
      · exact .inl ⟨held, elsewhere⟩
  | @left env channelID ref held next us world running present sessions call changes told =>
    obtain ⟨⟨here, inChannel, active⟩, -⟩ := inv.leaving running present
    obtain ⟨identity, endAt⟩ := Call.afterLeave_kept env ref us next.sessions held.call
    rw [← call] at identity endAt
    refine inv.changed mirrored changes ((congrArg (·.2.1) identity).trans inChannel)
      (fun _ other view ongoing => inv.single channelID other held.call.id _ _ ongoing ⟨here, inChannel, active⟩)
      (fun session member => ?_) fun other batch after => ?_
    · have remains : session ∈ next.sessions := member
      rw [sessions, KeyedTable.mem_erase] at remains
      exact inv.owners _ _ here session remains.1
    · rcases Operations.holdBatch_cases after with ⟨same, rfl⟩ | ⟨elsewhere, after⟩
      · refine .inr ⟨same, next, rfl, fun live => ?_⟩
        have others : next.sessions.size ≠ 0 := live.resolve_left (by simp)
        rw [if_neg others] at endAt
        rw [Store.isActive_congr identity endAt]
        exact active
      · exact .inl ⟨after, elsewhere⟩
  | @messaged step env channelID cs view ev world free message loads change changes told =>
    obtain ⟨identity, endAt, people⟩ := change.kept
    have here := loads.ongoingIn inv.mirrored.jobs
    refine inv.changed mirrored changes ((congrArg (·.2.1) identity).trans here.2.1) (fun _ other view ongoing => ?_)
      (fun session member => ?_) fun other batch held =>
        .inl ⟨held, StringMap.ne_of_not_contains free held⟩
    · exact inv.single channelID other cs.call.id _ _ ongoing here
    · have listed : (session.id, session.userID) ∈ cs.sessions.people := people ▸ SessionMap.mem_people.mpr ⟨session, member, rfl, rfl⟩
      obtain ⟨old, listed, sameID, sameUser⟩ := SessionMap.mem_people.mp listed
      rw [← sameUser, ← sameID]
      exact inv.owners _ _ here.1 old listed

end RoomInvariant

/-- A step on a store that works, of a room that is as it should be. -/
theorem rooms_step {ids : Identities} {ops after : Operations} {label : RoomStep} (inv : RoomInvariant ids ops)
    (serves : RoomServes ops label) (taken : (rooms ids).next? ops label = some after) :
    RoomInvariant ids after ∧ RoomEffect ops label after ∧ label.authentic ids = true := by
  obtain ⟨authentic, taken⟩ := rooms_taken taken
  have effect := Operations.room?_effect inv.mirrored serves taken
  have mirrored : Mirrored after := by
    cases label with
    | traffic step => exact (inv.mirrored.traffic serves taken).1
    | jobs env channelID request =>
      obtain ⟨free, rfl⟩ := Operations.request_eq_some taken
      obtain ⟨jobs, calls, sessions, -⟩ := request.handle_spec env channelID ops.world inv.mirrored.jobs
      refine ⟨by rw [Store.CallsValid, calls]; exact inv.mirrored.valid,
        by rw [Store.SessionsOwned, calls, sessions]; exact inv.mirrored.sessions, jobs, fun other batch cs found loaded => ?_⟩
      exact (inv.mirrored.held other batch cs found loaded).congr
        (Store.callView?_congr calls (Store.callSessions_congr sessions _))
  exact ⟨inv.step authentic mirrored effect, effect, authentic⟩

theorem roomInvariant_of_reachable {ids : Identities} {ops : Operations} (reached : ((rooms ids).restrict RoomServes).Reachable ops) :
    RoomInvariant ids ops := by
  refine System.Reachable.invariant_of_allowed ?_ ?_ reached
  · intro ops same
    obtain rfl := same
    exact .idle
  · intro before step after inv serves taken
    exact (rooms_step inv serves taken).1

/-! ### Rooms that nothing interferes with -/

def RoomStep.Quiet : RoomStep → Prop
  | .traffic step => ∀ env, step.env? = some env → ∃ now newID, env = .quiet now newID
  | .jobs _ _ _ => True

def roomFree (ops : Operations) : RoomStep → Bool
  | .traffic step => trafficFree ops step
  | .jobs _ _ _ => true

theorem roomFree_sound {ops : Operations} {step : RoomStep} (quiet : step.Quiet) (free : roomFree ops step = true) :
    RoomServes ops step := by
  cases step with
  | traffic step => exact trafficFree_sound quiet free
  | jobs => trivial

/-- Two users, and a bot. -/
def usersAndBot : Identities where
  owner connID := if connID = "bot-1" then "bot" else if connID = "conn-1" then "alice" else "bob"
  botID := "bot"

def joining (now : Instant) (newID : String) (req : JoinRequest) : List RoomStep :=
  [.lock (.quiet now "") "channel" .joining, .join (.quiet now newID) "channel" req, .unlock "channel"].map
    (.traffic ∘ .call ∘ .operation)

def leaving (now : Instant) (ref : SessionRef) : List RoomStep :=
  [.lock (.quiet now "") "channel" .leaving, .leave (.quiet now "") "channel" ref, .unlock "channel"].map
    (.traffic ∘ .call ∘ .operation)

def recording (jobID : String) : List RoomStep :=
  [.jobs (.quiet 2000 jobID) "channel" (.start "alice"),
    .jobs (.quiet 2100 "") "channel" (.recordingRan "alice" "" "" (.ok "job"))]

theorem joining_quiet (now : Instant) (newID : String) (req : JoinRequest) : ∀ step ∈ joining now newID req, step.Quiet := by
  intro step listed
  simp only [joining, List.map_cons, List.map_nil, List.mem_cons, List.not_mem_nil, or_false, Function.comp_apply] at listed
  obtain rfl | rfl | rfl := listed <;> intro env timed <;> cases timed <;> exact ⟨_, _, rfl⟩

theorem leaving_quiet (now : Instant) (ref : SessionRef) : ∀ step ∈ leaving now ref, step.Quiet := by
  intro step listed
  simp only [leaving, List.map_cons, List.map_nil, List.mem_cons, List.not_mem_nil, or_false, Function.comp_apply] at listed
  obtain rfl | rfl | rfl := listed <;> intro env timed <;> cases timed <;> exact ⟨_, _, rfl⟩

theorem recording_quiet (jobID : String) : ∀ step ∈ recording jobID, step.Quiet := by
  intro step listed
  simp only [recording, List.mem_cons, List.not_mem_nil, or_false] at listed
  obtain rfl | rfl := listed <;> trivial

end Calls
