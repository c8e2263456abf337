import Calls.Server.Join
import Calls.Server.LeaveProperties

/-! What an item of a batch leaves behind: the store, and the state for the
items after it. -/

set_option autoImplicit false

namespace Calls

open LockedHandler Command

/-- Everything the item of a join can do. A call that has just started is
written once more when it is announced. -/
inductive AddEffect (env : Env) (channelID : String) (state : Option CallState) (req : JoinRequest)
    (before : Store) : Option CallState → Store → Prop where
  | failed {err : String} {after : Store} :
      JoinEffect env channelID state req before (.error err) after →
      AddEffect env channelID state req before state after
  | joined {joined : CallState} {after : Store} :
      JoinEffect env channelID state req before (.ok joined) after →
      joined.sessions.size ≠ 1 →
      AddEffect env channelID state req before (some joined) after
  | started {joined announced : CallState} {middle after : Store} {postID threadID : String} :
      JoinEffect env channelID state req before (.ok joined) middle →
      joined.sessions.size = 1 →
      announced = { joined with call := { joined.call with postID, threadID } } →
      after.sessions = middle.sessions →
      (after.calls = middle.calls ∨ after.calls = (middle.saveCall announced.call).calls) →
      AddEffect env channelID state req before (some announced) after

/-- Everything the item of a leave can do: the removal runs on the state of the
batch, which keeps what it did. -/
inductive LeaveEffect (env : Env) (ref : SessionRef) (before : World) :
    Option CallState → Option CallState → World → Prop where
  | nothing : LeaveEffect env ref before none none before
  | removed {held : CallState} {ended : Except String Unit} {after : LockedCall} :
      RemoveEffect env ref ⟨before, held⟩ ended after →
      LeaveEffect env ref before (some held) (some after.state) after.world

theorem LeaveEffect.jobIdentities {env : Env} {ref : SessionRef} {before after : World}
    {state next : Option CallState} (effect : LeaveEffect env ref before state next after) :
    after.store.jobIdentities = before.store.jobIdentities := by
  cases effect with
  | nothing => rfl
  | removed effect =>
    cases effect with
    | absent => rfl
    | undeleted => rfl
    | jobUnsaved found deleted => exact deleted.jobs
    | callUnsaved found deleted => exact deleted.jobs
    | saved found deleted => exact deleted.jobs

theorem LeaveEffect.sessions_shrink {env : Env} {ref : SessionRef} {before after : World}
    {state next : Option CallState} (effect : LeaveEffect env ref before state next after) :
    ∀ session ∈ after.store.sessions, session ∈ before.store.sessions := by
  intro session remains
  have erased {held : CallState} {left : LockedCall} (deleted : SessionDeleted ref ⟨before, held⟩ left)
      (found : session ∈ left.world.store.sessions) : session ∈ before.store.sessions := by
    rw [deleted.store, KeyedTable.mem_erase] at found
    exact found.1
  cases effect with
  | nothing => exact remains
  | removed effect =>
    cases effect with
    | absent => exact remains
    | undeleted => exact remains
    | jobUnsaved found deleted => exact erased deleted remains
    | callUnsaved found deleted => exact erased deleted remains
    | saved found deleted => exact erased deleted remains

theorem JoinEffect.sessions_grow {env : Env} {channelID : String} {state : Option CallState} {req : JoinRequest}
    {before after : Store} {result : Except String CallState}
    (effect : JoinEffect env channelID state req before result after) :
    ∀ session ∈ before.sessions, session ∈ after.sessions := by
  intro session old
  cases effect with
  | refused calls same => rwa [same]
  | callOnly found checked planned written same refusal => rwa [same]
  | joined found checked planned written inserted => exact (KeyedTable.mem_insert? inserted).mpr (.inl old)

/-- The only session that a join adds is that of its connection. -/
theorem JoinEffect.sessions_from {env : Env} {channelID : String} {state : Option CallState} {req : JoinRequest}
    {before after : Store} {result : Except String CallState}
    (effect : JoinEffect env channelID state req before result after) :
    ∀ session ∈ after.sessions, session ∈ before.sessions ∨
      (session.id = req.connID ∧ session.userID = req.userID) := by
  intro session found
  cases effect with
  | refused calls same => rw [same] at found; exact .inl found
  | callOnly stateFound checked planned written same refusal => rw [same] at found; exact .inl found
  | joined stateFound checked planned written inserted =>
    rcases (KeyedTable.mem_insert? inserted).mp found with old | rfl
    · exact .inl old
    · exact .inr ⟨rfl, rfl⟩

theorem AddEffect.sessions_from {env : Env} {channelID : String} {state next : Option CallState} {req : JoinRequest}
    {before after : Store} (effect : AddEffect env channelID state req before next after) :
    ∀ session ∈ after.sessions, session ∈ before.sessions ∨
      (session.id = req.connID ∧ session.userID = req.userID) := by
  intro session found
  cases effect with
  | failed effect => exact effect.sessions_from session found
  | joined effect later => exact effect.sessions_from session found
  | started effect first changed same wrote => rw [same] at found; exact effect.sessions_from session found

theorem AddEffect.sessions_grow {env : Env} {channelID : String} {state next : Option CallState} {req : JoinRequest}
    {before after : Store} (effect : AddEffect env channelID state req before next after) :
    ∀ session ∈ before.sessions, session ∈ after.sessions := by
  intro session old
  cases effect with
  | failed effect => exact effect.sessions_grow session old
  | joined effect later => exact effect.sessions_grow session old
  | started effect first changed same wrote => rw [same]; exact effect.sessions_grow session old

section
variable (env : Env) (channelID : String)

theorem createCallStartedPost_spec (state : CallState) (req : JoinRequest) (before : World) :
    (createCallStartedPost env state req).wp
      (fun result after => (∃ value, result = .ok value) ∧ after.store = before.store) before := by
  unfold createCallStartedPost
  cases env.createPost with
  | error err => exact ⟨⟨_, rfl⟩, rfl⟩
  | ok postID => exact ⟨⟨_, rfl⟩, rfl⟩

theorem announceCall_spec (state : CallState) (req : JoinRequest) (before : World) :
    (announceCall env channelID state req).wp (fun result after =>
      ∃ postID threadID announced, result = .ok announced ∧
        announced = { state with call := { state.call with postID, threadID } } ∧
        (after.store = before.store ∨ after.store = before.store.saveCall announced.call)) before := by
  unfold announceCall
  rw [wp_bind]
  refine wp_mono (createCallStartedPost_spec env state req before) ?_
  intro _ posted facts
  obtain ⟨⟨⟨postID, threadID⟩, rfl⟩, same⟩ := facts
  rw [andThen_ok]
  dsimp only
  rw [wp_bind, wp_ignoring, Handler.onStore, wp_zoom, same]
  refine Store.wp_updateCall (fun err => ?_) fun _ _ => ?_
  · exact ⟨postID, threadID, _, rfl, rfl, .inl rfl⟩
  · exact ⟨postID, threadID, _, rfl, rfl, .inr rfl⟩

theorem announceSession_succeeds (state : CallState) (req : JoinRequest) (store : Store) :
    Succeeds (fun world => world.store = store) (announceSession env channelID state req) := by
  have publish (ev : WsEvent) (broadcast : WebSocketBroadcast) :
      Succeeds (fun world => world.store = store) (Handler.publish env ev broadcast) :=
    .modify fun _ same => same
  exact (publish _ _).bind fun _ => (publish _ _).bind fun _ =>
    (Succeeds.ifSome fun _ _ => publish _ _).bind fun _ => publish _ _

theorem addSessionToCall_spec (state : Option CallState) (req : JoinRequest) (before : World) :
    (addSessionToCall env channelID state req).wp (fun result after =>
      ∃ next, result = .ok next ∧ AddEffect env channelID state req before.store next after.store) before := by
  unfold addSessionToCall
  rw [wp_bind, wp_attempt]
  refine wp_mono (addUserSession_spec env channelID state req before) ?_
  intro result middle effect
  rw [andThen_ok]
  cases result with
  | error err => exact ⟨state, rfl, .failed effect⟩
  | ok joined =>
    dsimp only
    have announce (next : CallState) (world : World) (done : AddEffect env channelID state req before.store
        (some next) world.store) :
        (do (announceSession env channelID next req).when (env.rtcJoinFails = false)
            pure (some next) : Handler (Option CallState)).wp (fun result after =>
          ∃ next, result = .ok next ∧ AddEffect env channelID state req before.store next after.store) world := by
      rw [wp_bind]
      refine wp_mono ((announceSession_succeeds env channelID next req world.store).when.wp rfl) ?_
      intro _ after facts
      obtain ⟨⟨value, rfl⟩, same⟩ := facts
      rw [andThen_ok, wp_pure, same]
      exact ⟨some next, rfl, done⟩
    rw [wp_bind, wp_ite]
    constructor
    · intro first
      refine wp_mono (announceCall_spec env channelID joined req middle) ?_
      intro _ after facts
      obtain ⟨postID, threadID, announced, rfl, changed, same | wrote⟩ := facts
      · exact announce announced after (.started effect first changed (by rw [same]) (.inl (by rw [same])))
      · exact announce announced after (.started effect first changed (by rw [wrote]; rfl) (.inr (by rw [wrote])))
    · intro later
      exact announce joined middle (.joined effect later)

/-! ### What the items leave alone -/

theorem Handler.onStore_preserves {α τ : Type} {view : Store → τ} {command : StoreCommand α}
    (keeps : Preserves view command) : Preserves (fun world => view world.store) (Handler.onStore command) :=
  .of_run fun world => keeps.run world.store

theorem Handler.publish_preserves (ev : WsEvent) (broadcast : WebSocketBroadcast) :
    Preserves (fun world => world.store.jobIdentities) (Handler.publish env ev broadcast) := .of_run fun _ => rfl

theorem writeJoin_preserves (state : CallState) (session : CallSession) :
    Preserves Store.jobIdentities (writeJoin env state session) := by
  have create : Preserves Store.jobIdentities (Store.createCall env.faults state.call) :=
    .of_wp fun store => Store.wp_createCall (fun _ => rfl) fun _ _ _ _ => rfl
  have update : Preserves Store.jobIdentities (Store.updateCall env.faults state.call) :=
    .of_wp fun store => Store.wp_updateCall (fun _ => rfl) fun _ _ => rfl
  have insert : Preserves Store.jobIdentities (Store.createCallSession env.faults session) :=
    .of_wp fun store => Store.wp_createCallSession (fun _ _ => rfl) fun _ _ => rfl
  exact (create.mapError.ite update.mapError).bind fun _ => insert.mapError

theorem botJoin_preserves (state : CallState) (req : JoinRequest) :
    Preserves Store.jobIdentities (botJoin env state req) := by
  unfold botJoin
  split
  · exact .throw _
  · have update (job : CallJob) : Preserves Store.jobIdentities (Store.updateCallJob env.faults job) :=
      .of_wp fun store => Store.wp_updateCallJob (fun _ => rfl) fun _ _ => Store.saveJob_jobIdentities store job
    exact (Preserves.forEach (fun job => (update job).mapError) _).bind fun _ => .pure _

theorem addUserSession_preserves (state : Option CallState) (req : JoinRequest) :
    Preserves (fun world => world.store.jobIdentities) (addUserSession env channelID state req) := by
  unfold addUserSession
  split
  · exact .throw _
  · split
    · exact .throw _
    · refine (Handler.onStore_preserves (botJoin_preserves env _ req)).bind fun next => ?_
      refine (Handler.onStore_preserves (writeJoin_preserves env _ _)).bind fun _ => ?_
      exact (Handler.publish_preserves env _ _).when.bind fun _ => .pure _

/-- A join keeps every job, whatever it writes to its row. -/
theorem addSessionToCall_preserves (state : Option CallState)
    (req : JoinRequest) :
    Preserves (fun world => world.store.jobIdentities) (addSessionToCall env channelID state req) := by
  refine (addUserSession_preserves env channelID state req).attempt.bind fun result => ?_
  cases result with
  | error err => exact (Handler.publish_preserves env _ _).bind fun _ => .pure _
  | ok joined =>
    have announceSession (state : CallState) :
        Preserves (fun world => world.store.jobIdentities) (announceSession env channelID state req) :=
      (Handler.publish_preserves env _ _).bind fun _ => (Handler.publish_preserves env _ _).bind fun _ =>
        (Preserves.ifSome fun _ => Handler.publish_preserves env _ _).bind fun _ =>
          Handler.publish_preserves env _ _
    have announceCall :
        Preserves (fun world => world.store.jobIdentities) (announceCall env channelID joined req) := by
      refine .of_wp fun world => wp_mono (announceCall_spec env channelID joined req world) ?_
      intro result after effect
      obtain ⟨_, _, announced, -, -, same | saved⟩ := effect
      · rw [same]
      · rw [saved]
        rfl
    exact (announceCall.ite (.pure joined)).bind fun _ => (announceSession _).when.bind fun _ => .pure _

theorem removeSessionFromCall_spec (state : Option CallState) (ref : SessionRef) (before : World) :
    (removeSessionFromCall env channelID state ref).wp (fun result after =>
      ∃ next, result = .ok next ∧ LeaveEffect env ref before state next after) before := by
  cases state with
  | none => exact ⟨none, rfl, .nothing⟩
  | some held => exact ⟨_, rfl, .removed (removeUserSession_spec env channelID ref ⟨before, held⟩)⟩

end

end Calls
