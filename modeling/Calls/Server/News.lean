import Calls.Server.CallViews
import Calls.Server.JobRequests

/-! What the server publishes of calls while their locks are held: the events that
a client changes its picture of calls on. -/

set_option autoImplicit false

namespace Calls

open LockedHandler Command

/-- Events about jobs, and those to one connection, leave what a client keeps of calls as it is. -/
def WsEvent.tellsOfCall : WsEvent → Bool
  | .join _ | .error _ _ | .callJobState _ _ | .jobStop _ => false
  | _ => true

/-- What was published in between, as far as it tells of calls. -/
def Tells (before : World) (news : List Delivery) (after : World) : Prop :=
  ∃ told, after.published = before.published ++ told ∧ told.filter (·.ev.tellsOfCall) = news

namespace Tells

variable {before middle after : World} {news more : List Delivery}

theorem nothing (same : after.published = before.published) : Tells before [] after :=
  ⟨[], by rw [same, List.append_nil], rfl⟩

theorem trans (first : Tells before news middle) (second : Tells middle more after) : Tells before (news ++ more) after := by
  obtain ⟨told, published, rfl⟩ := first
  obtain ⟨later, publishedLater, rfl⟩ := second
  exact ⟨told ++ later, by rw [publishedLater, published, List.append_assoc], List.filter_append ..⟩

theorem congr (tells : Tells before news middle) (same : after.published = middle.published) : Tells before news after := by
  obtain ⟨told, published, rfl⟩ := tells
  exact ⟨told, same.trans published, rfl⟩

theorem quiet (tells : Tells before news middle) (quietly : Tells middle [] after) : Tells before news after := by
  simpa using tells.trans quietly

end Tells

theorem ev_of_mem_publish {botID : String} {ev : WsEvent} {broadcast : WebSocketBroadcast} {delivery : Delivery}
    (member : delivery ∈ publishWebSocketEvent botID ev broadcast) : delivery.ev = ev := by
  have toUsers {userIDs : List String} {toUser : String → WebSocketBroadcast}
      (sent : delivery ∈ userIDs.map fun userID => (toUser userID).toModel ev) : delivery.ev = ev := by
    obtain ⟨userID, -, rfl⟩ := List.mem_map.mp sent
    rfl
  have toAll {broadcast : WebSocketBroadcast} (sent : delivery ∈ [broadcast.toModel ev]) : delivery.ev = ev := by
    rw [List.mem_singleton.mp sent]
    rfl
  unfold publishWebSocketEvent at member
  split at member
  · cases member
  · by_cases toBot : botID ≠ "" ∧ broadcast.channelID ≠ ""
    · simp only [if_pos toBot] at member
      split at member <;> obtain forBot | others := List.mem_append.mp member
      · rw [List.mem_singleton.mp forBot]
      · exact toAll others
      · rw [List.mem_singleton.mp forBot]
      · exact toUsers others
    · simp only [if_neg toBot, List.nil_append] at member
      split at member
      · exact toAll member
      · exact toUsers member

section
variable (env : Env) {ev : WsEvent} (broadcast : WebSocketBroadcast) (before : World)

theorem Handler.publish_tells (tells : ev.tellsOfCall = true) :
    (Handler.publish env ev broadcast).wp (fun result after => result = .ok () ∧
      Tells before (publishWebSocketEvent env.botID ev broadcast) after) before := by
  refine ⟨rfl, _, rfl, List.filter_eq_self.mpr fun delivery member => ?_⟩
  rwa [ev_of_mem_publish member]

theorem Handler.publish_quiet (quiet : ev.tellsOfCall = false) :
    (Handler.publish env ev broadcast).wp (fun result after => result = .ok () ∧ Tells before [] after) before := by
  refine ⟨rfl, _, rfl, List.filter_eq_nil_iff.mpr fun delivery member => ?_⟩
  rw [ev_of_mem_publish member, quiet]
  exact Bool.false_ne_true

end

/-! ### The handlers of jobs tell nothing -/

section
variable {before : World} {news : List Delivery} (env : Env) (channelID : String)

theorem keptByJobs_tells : KeptByJobs env channelID (fun locked => Tells before news locked.world) where
  memory _ _ := fun _ tells => tells
  update _ := fun _ tells => tells
  tell _ := fun _ tells => tells.quiet (Handler.publish_quiet env _ _ rfl).2
  stop jobID := by
    unfold stopJob
    have quiet : Maintains (fun locked : LockedCall => Tells before news locked.world)
        (onWorld (Handler.publish env (.jobStop jobID) { userID := env.botID, reliableClusterSend := true })) :=
      fun _ tells => tells.quiet (Handler.publish_quiet env _ _ rfl).2
    intro locked tells
    split
    · exact tells
    · split
      · exact tells
      · split
        · exact tells
        · exact quiet locked tells

theorem JobRequest.handle_tells (request : JobRequest) (world : World) :
    (request.handle env channelID).wp (fun _ after => Tells world [] after) world := by
  unfold JobRequest.handle
  rw [wp_bind]
  refine wp_mono (lockCallReturnState_spec env channelID world) ?_
  intro _ after facts
  obtain ⟨rfl, ⟨⟨err, rfl⟩, -⟩ | ⟨state, rfl, -⟩⟩ := facts
  · exact .nothing rfl
  · rw [andThen_ok]
    cases state with
    | none => exact .nothing rfl
    | some state =>
      have keeps : Maintains (fun locked => Tells after [] locked.world) (request.run env channelID) :=
        (keptByJobs_tells env channelID).writing.run (fun _ _ tells => tells) request
      exact keeps ⟨after, state⟩ (.nothing rfl)

end

/-! ### Leaves -/

section
variable (env : Env) (channelID : String)

/-- What the removal of a session tells, given the state it is removed from. -/
def leaveNews (ref : SessionRef) (us : CallSession) (held : CallState) : List Delivery :=
  let others := held.withoutSession ref.originalConnID
  let call := held.call.withoutMedia env us
  (if held.call.props.screenSharingSessionID = ref.originalConnID then
    publishWebSocketEvent env.botID (.userScreenOff none none) (others.toParticipants channelID) else []) ++
  (if us.video = true then
    publishWebSocketEvent env.botID (.userVideoOff ref.userID us.id) (others.toParticipants channelID) else []) ++
  publishWebSocketEvent env.botID (.userLeft ref.userID ref.originalConnID) { channelID, reliableClusterSend := true } ++
  (if call.losesHost env ref.userID others.sessions = true then
    publishWebSocketEvent env.botID (.callHostChanged (getHostID env.order env.botID call others.sessions) call.id)
      (others.toParticipants channelID) else [])

theorem leaveScreen_tells (sessionID : String) (locked : LockedCall) :
    (leaveScreen env channelID sessionID).wp (fun _ after => Tells locked.world
      (if locked.state.call.props.screenSharingSessionID = sessionID then
        publishWebSocketEvent env.botID (.userScreenOff none none) (locked.state.toParticipants channelID) else [])
      after.world) locked := by
  unfold leaveScreen
  rw [wp_bind, wp_getState, andThen_ok, wp_when]
  constructor
  · intro sharing
    rw [if_pos sharing]
    exact (Handler.publish_tells env (locked.state.toParticipants channelID) locked.world rfl).2
  · intro idle
    rw [if_neg idle]
    exact .nothing rfl

theorem leaveVideo_tells (userID : String) (us : CallSession) (locked : LockedCall) :
    (leaveVideo env channelID userID us).wp (fun _ after => Tells locked.world
      (if us.video = true then
        publishWebSocketEvent env.botID (.userVideoOff userID us.id) (locked.state.toParticipants channelID) else [])
      after.world) locked := by
  unfold leaveVideo
  rw [wp_when]
  constructor
  · intro on
    rw [if_pos on]
    exact (Handler.publish_tells env (locked.state.toParticipants channelID) locked.world rfl).2
  · intro off
    rw [if_neg off]
    exact .nothing rfl

theorem leaveHost_tells (userID : String) (locked : LockedCall) :
    (leaveHost env channelID userID).wp (fun _ after => Tells locked.world
      (if locked.state.call.losesHost env userID locked.state.sessions = true then
        publishWebSocketEvent env.botID
          (.callHostChanged (getHostID env.order env.botID locked.state.call locked.state.sessions) locked.state.call.id)
          (locked.state.toParticipants channelID) else [])
      after.world) locked := by
  unfold leaveHost
  rw [wp_bind, wp_getState, andThen_ok, wp_when]
  constructor
  · intro loses
    rw [if_pos loses]
    exact (Handler.publish_tells env (locked.state.toParticipants channelID) locked.world rfl).2
  · intro keeps
    rw [if_neg keeps]
    exact .nothing rfl

theorem saveLeave_tells (locked : LockedCall) :
    (saveLeave env).wp (fun _ after => Tells locked.world [] after.world) locked := by
  have post (postID : String) (participants : List String) :
      Maintains (fun held : LockedCall => Tells locked.world [] held.world)
        (onWorld (updateCallPostEnded env postID participants)) := by
    intro held tells
    simp only [onWorld, zoom, updateCallPostEnded_world]
    exact tells.congr rfl
  have save (call : Call) : Maintains (fun held : LockedCall => Tells locked.world [] held.world)
      (onStore (Store.updateCall env.faults call)) := fun _ tells => tells
  have keeps : Maintains (fun held : LockedCall => Tells locked.world [] held.world) (saveLeave env) := by
    unfold saveLeave
    refine Maintains.bind (fun _ tells => tells) fun _ => getState_maintains.bind fun state => ?_
    exact (save state.call).mapError.deferring (post _ _).ignoring.when
  exact keeps locked (.nothing rfl)

/-- What a removal that is saved has told. -/
theorem removeUserSession_tells {ref : SessionRef} {before : LockedCall} {us : CallSession}
    (found : before.state.sessions.find? ref.originalConnID = some us) :
    (removeUserSession env channelID ref).wp (fun result after => result = .ok () →
      Tells before.world (leaveNews env channelID ref us before.state) after.world) before := by
  unfold removeUserSession
  rw [wp_bind, wp_getState, andThen_ok]
  rw [found]
  dsimp only
  rw [wp_bind, wp_mapError, onStore, onWorld, wp_zoom, Handler.onStore, wp_zoom]
  refine Store.wp_deleteCallSession (fun err broken => ?_) fun deletes => ?_
  · intro ok
    cases ok
  have named : us.id = ref.originalConnID := (KeyedTable.find?_eq_some_iff.mp found).2
  dsimp only [Except.mapError]
  rw [andThen_ok, wp_bind, modifyState, wp_modify, andThen_ok, wp_bind]
  refine wp_mono (wp_and (leaveScreen_spec env channelID _ _) (leaveScreen_tells env channelID _ _)) ?_
  intro _ screenLeft facts
  obtain ⟨⟨rfl, screenState, -, -⟩, screenTold⟩ := facts
  rw [andThen_ok, wp_bind]
  refine wp_mono (wp_and (leaveVideo_spec env channelID screenLeft ref.userID us) (leaveVideo_tells env channelID _ _ _)) ?_
  intro _ videoLeft facts
  obtain ⟨⟨rfl, videoState, -, -⟩, videoTold⟩ := facts
  rw [screenState] at videoState videoTold
  rw [andThen_ok, wp_bind]
  have jobsTold : Maintains (fun held : LockedCall => Tells videoLeft.world [] held.world)
      (leaveJobs env channelID ref.originalConnID ref.connID) := (keptByJobs_tells env channelID).writing.leaveJobs _ _
  refine wp_mono (wp_and (leaveJobs_spec env channelID _ _ videoLeft) (jobsTold.wp (.nothing rfl))) ?_
  intro result jobsLeft facts
  obtain ⟨⟨apart, -, -⟩, jobsTold⟩ := facts
  simp only [LockedCall.apart, Prod.mk.injEq] at apart
  obtain ⟨-, -, sameCall, sameSessions⟩ := apart
  cases result with
  | error err =>
    intro ok
    cases ok
  | ok value =>
    rw [andThen_ok, wp_bind, onWorld, wp_zoom]
    refine wp_mono (Handler.publish_tells env _ _ rfl) ?_
    intro _ leftWorld facts
    obtain ⟨rfl, leftTold⟩ := facts
    rw [andThen_ok, wp_bind]
    refine wp_mono (wp_and (leaveHost_spec env channelID _ ref.userID) (leaveHost_tells env channelID ref.userID _)) ?_
    intro _ hostLeft facts
    obtain ⟨⟨rfl, -, -, -⟩, hostTold⟩ := facts
    rw [andThen_ok]
    refine wp_mono (saveLeave_tells env hostLeft) ?_
    intro ended after saveTold saved
    have others : jobsLeft.state.sessions = (before.state.withoutSession ref.originalConnID).sessions := by
      rw [sameSessions, videoState]
      rfl
    have call : jobsLeft.state.call = before.state.call.withoutMedia env us := by
      rw [sameCall, videoState, Call.withoutMedia, named]
      rfl
    have participants : jobsLeft.state.toParticipants channelID =
        (before.state.withoutSession ref.originalConnID).toParticipants channelID := by
      simp only [CallState.toParticipants, others]
    rw [call, others, participants] at hostTold
    exact ((((screenTold.trans videoTold).quiet jobsTold).trans leftTold).trans hostTold).quiet saveTold

end

section
variable (env : Env) (channelID : String)

/-- Everything the item of a leave can do on a store that works, with what it has told by then. -/
inductive LeaveTold (ref : SessionRef) (before : World) : Option CallState → Option CallState → World → Prop where
  | nothing {state : Option CallState} : LeaveTold ref before state state before
  | left {held : CallState} {us : CallSession} {after : LockedCall} :
      held.sessions.find? ref.originalConnID = some us → SessionDeleted ref ⟨before, held⟩ after →
      after.world.store.calls = (before.store.saveCall after.state.call).calls →
      after.state.call = held.call.afterLeave env ref us after.state.sessions →
      Tells before (leaveNews env channelID ref us held) after.world →
      LeaveTold ref before (some held) (some after.state) after.world

theorem removeSessionFromCall_tells {env : Env} (works : env.StoreWorks) (state : Option CallState) (ref : SessionRef)
    (before : World) : (removeSessionFromCall env channelID state ref).wp (fun result after => ∃ next, result = .ok next ∧
      ((∀ held, state = some held → held.call.isValid = .ok () ∧ held.JobsValid) →
        LeaveTold env channelID ref before state next after)) before := by
  cases state with
  | none => exact ⟨none, rfl, fun _ => .nothing⟩
  | some held =>
    refine ⟨_, rfl, fun valid => ?_⟩
    obtain ⟨callValid, jobsValid⟩ := valid held rfl
    show LeaveTold env channelID ref before (some held) (some (removeUserSession env channelID ref ⟨before, held⟩).2.state)
      (removeUserSession env channelID ref ⟨before, held⟩).2.world
    cases found : held.sessions.find? ref.originalConnID with
    | none =>
      rw [removeUserSession_absent (by rw [KeyedTable.contains, found]; rfl)]
      exact .nothing
    | some us =>
      obtain ⟨saved, deleted, wrote, call⟩ := @removeUserSession_works env channelID ref ⟨before, held⟩ us works found callValid jobsValid
      exact .left found deleted wrote call (@removeUserSession_tells env channelID ref ⟨before, held⟩ us found saved)

end

/-! ### Joins -/

/-- The host of the call that a join finds; nobody, if it is to start one. -/
def hostBefore (state : Option CallState) : String := (state.map (·.call.getHostID)).getD ""

section
variable (env : Env) (channelID : String) (req : JoinRequest)

/-- What a join tells of the host. -/
def hostNews (state : Option CallState) (joined : CallState) : List Delivery :=
  if joined.call.getHostID ≠ hostBefore state then
    publishWebSocketEvent env.botID (.callHostChanged joined.call.getHostID joined.call.id) (joined.toParticipants channelID)
  else []

/-- What a join tells of its session, unless that could not be handed over to the RTC side. -/
def sessionNews (joined : CallState) : List Delivery :=
  if env.rtcJoinFails = false then
    publishWebSocketEvent env.botID (.userJoined req.userID req.connID) { channelID, reliableClusterSend := true } ++
    publishWebSocketEvent env.botID (.callState channelID (joined.getClientState env.order env.botID req.userID))
      { userID := req.userID, reliableClusterSend := true }
  else []

/-- What a join tells, given the state it found and the one it leaves. -/
def joinNews (state : Option CallState) (joined : CallState) : List Delivery :=
  hostNews env channelID state joined ++
  (if joined.sessions.size = 1 then
    publishWebSocketEvent env.botID
      (.callStart joined.call.id channelID joined.call.startAt joined.call.threadID joined.call.postID joined.call.ownerID
        joined.call.getHostID)
      { channelID, reliableClusterSend := true }
  else []) ++
  sessionNews env channelID req joined

/-- Everything the item of a join can do, with what it has told by then. -/
inductive JoinTold (state : Option CallState) (before : World) : Option CallState → World → Prop where
  | refused {err : String} {after : World} :
      JoinEffect env channelID state req before.store (.error err) after.store → Tells before [] after →
      JoinTold state before state after
  | joined {joined : CallState} {after : World} :
      JoinEffect env channelID state req before.store (.ok joined) after.store → joined.sessions.size ≠ 1 →
      Tells before (joinNews env channelID req state joined) after → JoinTold state before (some joined) after
  | started {joined announced : CallState} {middle : Store} {after : World} {postID threadID : String} :
      JoinEffect env channelID state req before.store (.ok joined) middle → joined.sessions.size = 1 →
      announced = { joined with call := { joined.call with postID, threadID } } → after.store.sessions = middle.sessions →
      (after.store.calls = middle.calls ∨ after.store.calls = (middle.saveCall announced.call).calls) →
      Tells before (joinNews env channelID req state announced) after → JoinTold state before (some announced) after

theorem addUserSession_tells (state : Option CallState) (before : World) :
    (addUserSession env channelID state req).wp (fun result after =>
      (∀ err, result = .error err → Tells before [] after) ∧
        ∀ joined, result = .ok joined → Tells before (hostNews env channelID state joined) after) before := by
  have failed {err : String} {store : Store} : (∀ other, (.error err : Except String CallState) = .error other →
      Tells before [] { before with store }) ∧
        ∀ joined, (.error err : Except String CallState) = .ok joined →
          Tells before (hostNews env channelID state joined) { before with store } :=
    ⟨fun _ _ => .nothing rfl, fun _ ok => by cases ok⟩
  unfold addUserSession
  cases found : stateToJoin env channelID state req with
  | error err => exact failed
  | ok base =>
    have host : hostBefore state = base.call.getHostID := by
      cases state with
      | none =>
        rw [Call.getHostID, stateToJoin_props found]
        rfl
      | some cs =>
        cases Except.ok.inj found
        rfl
    dsimp only
    cases checked : checkJoin env base req with
    | error err => exact failed
    | ok allowed =>
      dsimp only
      rw [wp_bind, Handler.onStore, wp_zoom]
      refine wp_mono (botJoin_spec env base req before.store) ?_
      intro result afterJobs facts
      obtain ⟨-, -, returned⟩ := facts
      cases result with
      | error err => exact failed
      | ok next =>
        obtain ⟨nextCall, -, -, -⟩ := returned next rfl
        rw [andThen_ok, wp_bind, Handler.onStore, wp_zoom]
        refine wp_mono (wp_true _ _) ?_
        intro result written _
        cases result with
        | error err => exact failed
        | ok value =>
          rw [andThen_ok, wp_bind, wp_when, nextCall, ← host]
          constructor
          · intro changes
            refine ⟨fun err failed => (by cases failed), fun joined returned => ?_⟩
            cases returned
            rw [hostNews, if_pos changes]
            exact (Handler.publish_tells env _ _ rfl).2
          · intro same
            refine ⟨fun err failed => (by cases failed), fun joined returned => ?_⟩
            cases returned
            rw [hostNews, if_neg same]
            exact .nothing rfl

theorem announceCall_tells (state : CallState) (before : World) :
    (announceCall env channelID state req).wp (fun result after => ∀ announced, result = .ok announced →
      Tells before (publishWebSocketEvent env.botID
        (.callStart announced.call.id channelID announced.call.startAt announced.call.threadID announced.call.postID
          announced.call.ownerID announced.call.getHostID)
        { channelID, reliableClusterSend := true }) after) before := by
  have post : Maintains (fun world => Tells before [] world) (createCallStartedPost env state req) := by
    unfold createCallStartedPost
    cases env.createPost with
    | error err => exact .pure _
    | ok postID => exact Maintains.bind (fun _ tells => tells) fun _ => .pure _
  unfold announceCall
  rw [wp_bind]
  refine wp_mono (post.wp (.nothing rfl)) ?_
  intro result posted told
  cases result with
  | error err =>
    intro announced ok
    cases ok
  | ok names =>
    rw [andThen_ok]
    dsimp only
    rw [wp_bind, wp_ignoring, Handler.onStore, wp_zoom]
    refine wp_mono (wp_true _ _) ?_
    intro _ saved _
    rw [andThen_ok, wp_bind]
    refine wp_mono (Handler.publish_tells env _ _ rfl) ?_
    intro _ after facts
    obtain ⟨rfl, published⟩ := facts
    intro announced ok
    cases ok
    simpa using (told.congr rfl).trans published

theorem announceSession_tells (joined : CallState) (before : World) :
    ((announceSession env channelID joined req).when (env.rtcJoinFails = false)).wp (fun _ after =>
      Tells before (sessionNews env channelID req joined) after) before := by
  rw [wp_when, sessionNews]
  constructor
  · intro handed
    rw [if_pos handed]
    unfold announceSession
    rw [wp_bind]
    refine wp_mono (Handler.publish_quiet env _ _ rfl) ?_
    intro _ toConn facts
    obtain ⟨rfl, connTold⟩ := facts
    rw [andThen_ok, wp_bind]
    refine wp_mono (Handler.publish_tells env _ _ rfl) ?_
    intro _ toChannel facts
    obtain ⟨rfl, joinTold⟩ := facts
    have recording : Succeeds (fun world => Tells toChannel [] world)
        (Command.ifSome (joined.recording.filter fun _ => req.userID = env.botID) fun recState =>
          Handler.publish env (.callJobState channelID (getClientStateFromCallJob recState)) (joined.toParticipants channelID)) :=
      .ifSome fun _ _ => .modify fun _ tells => tells.quiet (Handler.publish_quiet env _ _ rfl).2
    rw [andThen_ok, wp_bind]
    refine wp_mono (recording.wp (.nothing rfl)) ?_
    intro _ toParticipants facts
    obtain ⟨⟨value, rfl⟩, recordingTold⟩ := facts
    rw [andThen_ok]
    refine wp_mono (Handler.publish_tells env _ _ rfl) ?_
    intro _ after facts
    obtain ⟨rfl, stateTold⟩ := facts
    exact ((connTold.trans joinTold).quiet recordingTold).trans stateTold
  · intro failed
    rw [if_neg failed]
    exact .nothing rfl

theorem addSessionToCall_tells (state : Option CallState) (before : World) :
    (addSessionToCall env channelID state req).wp (fun result after =>
      ∃ next, result = .ok next ∧ JoinTold env channelID req state before next after) before := by
  unfold addSessionToCall
  rw [wp_bind, wp_attempt]
  refine wp_mono (wp_and (addUserSession_spec env channelID state req before)
    (addUserSession_tells env channelID req state before)) ?_
  intro result middle facts
  obtain ⟨effect, failed, entered⟩ := facts
  rw [andThen_ok]
  cases result with
  | error err =>
    dsimp only
    rw [wp_bind]
    have store : (Handler.publish env (.error err req.connID) { connectionID := req.connID, reliableClusterSend := true }).wp
        (fun _ after => after.store = middle.store) middle := rfl
    refine wp_mono (wp_and store (Handler.publish_quiet env _ middle rfl)) ?_
    intro _ after facts
    obtain ⟨same, rfl, told⟩ := facts
    rw [← same] at effect
    exact ⟨state, rfl, .refused effect ((failed err rfl).quiet told)⟩
  | ok joined =>
    dsimp only
    -- What is left to do is the same for the first session and a later one.
    have announce (next : CallState) (world : World) (done : ∀ after : World, after.store = world.store →
        Tells world (sessionNews env channelID req next) after → JoinTold env channelID req state before (some next) after) :
        (do (announceSession env channelID next req).when (env.rtcJoinFails = false)
            pure (some next) : Handler (Option CallState)).wp (fun result after =>
          ∃ next, result = .ok next ∧ JoinTold env channelID req state before next after) world := by
      rw [wp_bind]
      refine wp_mono (wp_and ((announceSession_succeeds env channelID next req world.store).when.wp rfl)
        (announceSession_tells env channelID req next world)) ?_
      intro _ after facts
      obtain ⟨⟨⟨value, rfl⟩, same⟩, told⟩ := facts
      exact ⟨some next, rfl, done after same told⟩
    have host := entered joined rfl
    rw [wp_bind, wp_ite]
    constructor
    · intro first
      refine wp_mono (wp_and (announceCall_spec env channelID joined req middle)
        (announceCall_tells env channelID req joined middle)) ?_
      intro _ called facts
      obtain ⟨⟨postID, threadID, announced, rfl, changed, stored⟩, told⟩ := facts
      refine announce announced called fun after same sessionTold => ?_
      have sameHost : hostNews env channelID state announced = hostNews env channelID state joined := by rw [changed]; rfl
      have news : Tells before (joinNews env channelID req state announced) after := by
        rw [joinNews, if_pos (by rw [changed]; exact first), sameHost]
        exact (host.trans (told announced rfl)).trans sessionTold
      rcases stored with kept | wrote
      · exact .started effect first changed (by rw [same, kept]) (.inl (by rw [same, kept])) news
      · exact .started effect first changed (by rw [same, wrote]; rfl) (.inr (by rw [same, wrote])) news
    · intro later
      refine announce joined middle fun after same sessionTold => ?_
      refine .joined (by rw [same]; exact effect) later ?_
      rw [joinNews, if_neg later, List.append_nil]
      exact host.trans sessionTold

end

end Calls
