import Calls.Server.SessionProperties

/-! What a removal can do to the calls, the sessions and the posts, in the store
and in memory, for every pattern of failures. -/

set_option autoImplicit false

namespace Calls

open LockedHandler Command

/-- The posts after the post of a call was marked as ended, if it could be. -/
def endPost (env : Env) (postID : String) (participants : List String) (posts : StringMap CallPost) :
    StringMap CallPost :=
  if postID = "" ∨ env.faults (.getPost postID) = true ∨ env.updatePostFails = true then posts
  else
    match posts.get? postID with
    | none => posts
    | some post =>
      posts.set postID { post with endAt := some env.now.unixMilli, participants := some participants }

theorem updateCallPostEnded_world (env : Env) (postID : String) (participants : List String) (world : World) :
    (updateCallPostEnded env postID participants world).2 =
      { world with posts := endPost env postID participants world.posts } := by
  unfold updateCallPostEnded endPost
  by_cases unnamed : postID = ""
  · simp [unnamed]
  · by_cases unread : env.faults (.getPost postID) = true
    · simp [unnamed, unread]
    · cases found : world.posts.get? postID with
      | none => simp [unnamed, unread, bind_run, found]
      | some post => by_cases failed : env.updatePostFails = true <;> simp [unnamed, unread, bind_run, found, failed]

namespace Call

/-- The call with the screen and the video of a leaving session taken off. -/
def withoutMedia (env : Env) (us : CallSession) (call : Call) : Call :=
  if us.video = true then (call.stopScreen env us.id).stopVideo env us.id else call.stopScreen env us.id

/-- The call that a removal writes. -/
def afterLeave (env : Env) (ref : SessionRef) (us : CallSession) (sessions : SessionMap) (call : Call) : Call :=
  ((call.withoutMedia env us).electOnLeave env ref.userID sessions).finishIfEmpty env sessions

end Call

theorem Call.stopScreen_kept (env : Env) (sessionID : String) (call : Call) :
    (call.stopScreen env sessionID).identity = call.identity ∧
      (call.stopScreen env sessionID).endAt = call.endAt := by
  unfold Call.stopScreen
  split
  · exact ⟨rfl, rfl⟩
  · dsimp only
    split <;> exact ⟨rfl, rfl⟩

theorem Call.stopVideo_kept (env : Env) (sessionID : String) (call : Call) :
    (call.stopVideo env sessionID).identity = call.identity ∧
      (call.stopVideo env sessionID).endAt = call.endAt := by
  unfold Call.stopVideo
  split
  · exact ⟨rfl, rfl⟩
  · split <;> exact ⟨rfl, rfl⟩

theorem Call.withoutMedia_kept (env : Env) (us : CallSession) (call : Call) :
    (call.withoutMedia env us).identity = call.identity ∧ (call.withoutMedia env us).endAt = call.endAt := by
  have screen := Call.stopScreen_kept env us.id call
  have video := Call.stopVideo_kept env us.id (call.stopScreen env us.id)
  unfold Call.withoutMedia
  split
  · exact ⟨video.1.trans screen.1, video.2.trans screen.2⟩
  · exact screen

theorem Call.electOnLeave_same (env : Env) (userID : String) (sessions : SessionMap) (call : Call) :
    (call.electOnLeave env userID sessions).SameButPeople call := by
  unfold Call.electOnLeave
  dsimp only
  split
  · exact ⟨rfl, rfl, rfl, rfl, rfl⟩
  · exact .refl call

/-- A removal ends the call exactly when no session is left. -/
theorem Call.afterLeave_kept (env : Env) (ref : SessionRef) (us : CallSession) (sessions : SessionMap)
    (call : Call) :
    (call.afterLeave env ref us sessions).identity = call.identity ∧
      (call.afterLeave env ref us sessions).endAt =
        if sessions.size = 0 then env.now.unixMilli else call.endAt := by
  obtain ⟨mediaIdentity, mediaEnd⟩ := Call.withoutMedia_kept env us call
  have host := Call.electOnLeave_same env ref.userID sessions (call.withoutMedia env us)
  unfold Call.afterLeave Call.finishIfEmpty
  split
  · exact ⟨host.identity.trans mediaIdentity, rfl⟩
  · exact ⟨host.identity.trans mediaIdentity, host.endAt.trans mediaEnd⟩

/-- The posts after a removal that got as far as writing the call. -/
def leavePosts (env : Env) (call : Call) (sessions : SessionMap) (posts : StringMap CallPost) :
    StringMap CallPost :=
  if sessions.size = 0 then endPost env call.postID call.props.participants.mapKeys posts else posts

/-- The session is gone, from the store and from memory. -/
structure SessionDeleted (ref : SessionRef) (before after : LockedCall) : Prop where
  store : after.world.store.sessions = before.world.store.sessions.erase ref.originalConnID
  memory : after.state.sessions = before.state.sessions.erase ref.originalConnID
  jobs : after.world.store.jobIdentities = before.world.store.jobIdentities
  jobsValid : before.JobsValid → after.JobsValid

/-- Everything a removal can do, by how far it gets. -/
inductive RemoveEffect (env : Env) (ref : SessionRef) (before : LockedCall) :
    Except String Unit → LockedCall → Prop where
  | absent {err : String} :
      before.state.sessions.find? ref.originalConnID = none → RemoveEffect env ref before (.error err) before
  | undeleted {err : String} :
      env.faults (.deleteCallSession ref.originalConnID) = true → RemoveEffect env ref before (.error err) before
  | jobUnsaved {err : String} {us : CallSession} {after : LockedCall} :
      before.state.sessions.find? ref.originalConnID = some us → SessionDeleted ref before after →
      after.world.store.calls = before.world.store.calls →
      after.state.call = before.state.call.withoutMedia env us →
      after.world.posts = before.world.posts → env.faults (.deleteCallSession ref.originalConnID) = false →
      ¬ (env.WritesWork ∧ before.JobsValid) →
      RemoveEffect env ref before (.error err) after
  | callUnsaved {err : String} {us : CallSession} {after : LockedCall} :
      before.state.sessions.find? ref.originalConnID = some us → SessionDeleted ref before after →
      after.world.store.calls = before.world.store.calls →
      after.state.call = before.state.call.afterLeave env ref us after.state.sessions →
      after.world.posts = leavePosts env after.state.call after.state.sessions before.world.posts →
      env.faults (.deleteCallSession ref.originalConnID) = false →
      ¬ (env.WritesWork ∧ after.state.call.isValid = .ok ()) →
      RemoveEffect env ref before (.error err) after
  | saved {us : CallSession} {after : LockedCall} :
      before.state.sessions.find? ref.originalConnID = some us → SessionDeleted ref before after →
      after.world.store.calls = (before.world.store.saveCall after.state.call).calls →
      after.state.call = before.state.call.afterLeave env ref us after.state.sessions →
      after.world.posts = leavePosts env after.state.call after.state.sessions before.world.posts →
      RemoveEffect env ref before (.ok ()) after

theorem RemoveEffect.identity {env : Env} {ref : SessionRef} {before after : LockedCall} {ended : Except String Unit}
    (effect : RemoveEffect env ref before ended after) : after.state.call.identity = before.state.call.identity := by
  have left {us : CallSession} (call : after.state.call = before.state.call.afterLeave env ref us after.state.sessions) :
      after.state.call.identity = before.state.call.identity := by
    rw [call]
    exact (Call.afterLeave_kept env ref us _ _).1
  cases effect with
  | absent => rfl
  | undeleted => rfl
  | jobUnsaved found deleted wrote call =>
    rw [call]
    exact (Call.withoutMedia_kept env _ _).1
  | callUnsaved found deleted wrote call => exact left call
  | saved found deleted wrote call => exact left call

section
variable (env : Env) (channelID : String)

/-! ### The jobs -/

theorem leaveJobs_preserves (originalConnID connID : String) :
    Preserves LockedCall.apart (leaveJobs env channelID originalConnID connID) :=
  fun seen => (keptByJobs_apart env channelID seen).writing.leaveJobs originalConnID connID

theorem CallState.JobsValid.ended {cs : CallState} (valid : cs.JobsValid) {type : JobType} {connID : String}
    {job : CallJob} (bound : cs.jobOfConn? type connID = some job) (now : Instant) :
    (job.ended now).isValid = .ok () := valid type job (Option.mem_filter_iff.mp bound).1

theorem stopJobsOfBot_succeeds : Succeeds LockedCall.JobsValid (stopJobsOfBot env channelID) :=
  getState_bind_succeeds fun _ _ => Succeeds.when <|
    (Succeeds.ifSome fun _ _ => .ignoring (onWorld_jobsValid _)).bind fun _ =>
      .ifSome fun _ _ => .ignoring (onWorld_jobsValid _)

theorem leaveJobs_jobsValid (originalConnID connID : String) :
    Maintains LockedCall.JobsValid (leaveJobs env channelID originalConnID connID) :=
  (keptByEnding_jobsValid env channelID).leaveJobs originalConnID connID

variable {env}

theorem recordingBotLeft_succeeds (works : env.WritesWork) (originalConnID : String) :
    Succeeds LockedCall.JobsValid (recordingBotLeft env channelID originalConnID) :=
  getState_bind_succeeds fun _ valid => .ifSome fun _ bound =>
    (saveJob_succeeds works _ (valid.ended bound env.now)).bind fun _ =>
      (Succeeds.ignoring (stopTranscribingJob_jobsValid env channelID)).when.bind fun _ =>
        publishJobState_succeeds env channelID _

theorem transcribingBotLeft_succeeds (works : env.WritesWork) (originalConnID : String) :
    Succeeds LockedCall.JobsValid (transcribingBotLeft env channelID originalConnID) :=
  getState_bind_succeeds fun _ valid => .ifSome fun _ bound =>
    (saveJob_succeeds works _ (valid.ended bound env.now)).bind fun _ =>
      (Succeeds.ignoring (stopRecordingJob_jobsValid env channelID)).when.bind fun _ =>
        (publishJobState_succeeds env channelID _).bind fun _ =>
          .ifSome fun _ _ => publishJobState_succeeds env channelID _

theorem captioningBotLeft_succeeds (works : env.WritesWork) (connID : String) :
    Succeeds LockedCall.JobsValid (captioningBotLeft env connID) :=
  getState_bind_succeeds fun _ valid => .ifSome fun _ bound =>
    saveJob_succeeds works _ (valid.ended bound env.now)

/-- With valid jobs and a store that works nothing about the jobs stops a removal. -/
theorem leaveJobs_succeeds (works : env.WritesWork) (originalConnID connID : String) :
    Succeeds LockedCall.JobsValid (leaveJobs env channelID originalConnID connID) :=
  (stopJobsOfBot_succeeds env channelID).bind fun _ =>
    (recordingBotLeft_succeeds channelID works originalConnID).bind fun _ =>
      (transcribingBotLeft_succeeds channelID works originalConnID).bind fun _ =>
        captioningBotLeft_succeeds works connID

end

/-! ### The call -/

/-- A step of the removal that succeeds, changing the call in memory only. -/
structure ChangesCall (change : Call → Call) (before : LockedCall) (result : Except String Unit)
    (after : LockedCall) : Prop where
  ok : result = .ok ()
  state : after.state = before.state.mapCall change
  store : after.world.store = before.world.store
  posts : after.world.posts = before.world.posts

section
variable (env : Env) (channelID : String) (locked : LockedCall)

theorem leaveScreen_spec (sessionID : String) :
    (leaveScreen env channelID sessionID).wp (ChangesCall (·.stopScreen env sessionID) locked) locked := by
  by_cases sharing : locked.state.call.props.screenSharingSessionID = sessionID
  · simp only [leaveScreen, getState, wp_bind, wp_get, andThen_ok, wp_pure, when, sharing, if_true]
    exact ⟨rfl, rfl, rfl, rfl⟩
  · simp only [leaveScreen, getState, wp_bind, wp_get, andThen_ok, wp_pure, when, sharing, if_false]
    exact ⟨rfl, by simp [CallState.mapCall, Call.stopScreen, sharing], rfl, rfl⟩

theorem leaveVideo_spec (userID : String) (us : CallSession) :
    (leaveVideo env channelID userID us).wp
      (ChangesCall (fun call => if us.video = true then call.stopVideo env us.id else call) locked) locked := by
  unfold leaveVideo
  rw [wp_when]
  constructor
  · intro on
    simp only [on, if_true]
    exact ⟨rfl, rfl, rfl, rfl⟩
  · intro off
    simp only [if_neg off]
    exact ⟨rfl, rfl, rfl, rfl⟩

theorem leaveHost_spec (userID : String) :
    (leaveHost env channelID userID).wp
      (ChangesCall (·.electOnLeave env userID locked.state.sessions) locked) locked := by
  by_cases loses : locked.state.call.losesHost env userID locked.state.sessions = true
  · simp only [leaveHost, getState, wp_bind, wp_get, andThen_ok, wp_pure, when, loses, if_true]
    exact ⟨rfl, rfl, rfl, rfl⟩
  · simp only [leaveHost, getState, wp_bind, wp_get, andThen_ok, wp_pure, when, loses]
    exact ⟨rfl, by simp [CallState.mapCall, Call.electOnLeave, loses], rfl, rfl⟩

/-- The last write of a removal: the row is written or, for a broken store or an
invalid call, it is not; the post is updated in either case. -/
theorem saveLeave_spec :
    (saveLeave env).wp (fun result after =>
      after.state = locked.state.mapCall (·.finishIfEmpty env locked.state.sessions) ∧
      after.world.posts = leavePosts env after.state.call locked.state.sessions locked.world.posts ∧
      after.world.store.sessions = locked.world.store.sessions ∧
      after.world.store.jobIdentities = locked.world.store.jobIdentities ∧
      ((result = .ok () ∧ after.world.store.calls = (locked.world.store.saveCall after.state.call).calls) ∨
        ((∃ err, result = .error err) ∧ after.world.store.calls = locked.world.store.calls ∧
          ¬ (env.WritesWork ∧ after.state.call.isValid = .ok ())))) locked := by
  unfold saveLeave
  rw [wp_bind, modifyState, wp_modify, andThen_ok, getState, wp_bind, wp_bind, wp_get, andThen_ok, wp_pure,
    andThen_ok]
  generalize left : locked.state.mapCall (·.finishIfEmpty env locked.state.sessions) = state
  have sessions : state.sessions = locked.state.sessions := by rw [← left]; rfl
  have postUpdate : ∀ middle : LockedCall,
      ((onWorld (updateCallPostEnded env state.call.postID state.call.props.participants.mapKeys)).ignoring.when
        (state.sessions.size = 0)) middle =
      (.ok (), { middle with
        world := { middle.world with
          posts := leavePosts env state.call locked.state.sessions middle.world.posts } }) := by
    intro middle
    unfold when leavePosts
    rw [sessions]
    split
    · simp only [ignoring, onWorld, zoom, updateCallPostEnded_world]
    · rfl
  rw [wp_deferring, wp_mapError, onStore, onWorld, wp_zoom, Handler.onStore, wp_zoom]
  refine wp_mono (Store.wp_updateCall_cases env.faults _ state.call) ?_
  intro result after effect
  unfold wp
  rw [postUpdate]
  refine ⟨rfl, rfl, ?_, ?_, ?_⟩
  · rcases effect with ⟨-, rfl⟩ | ⟨-, rfl, -⟩ <;> rfl
  · rcases effect with ⟨-, rfl⟩ | ⟨-, rfl, -⟩ <;> rfl
  · rcases effect with ⟨rfl, rfl⟩ | ⟨⟨err, rfl⟩, rfl, broken⟩
    · exact .inl ⟨rfl, rfl⟩
    · exact .inr ⟨⟨_, rfl⟩, rfl, fun saved => broken ⟨saved.2, saved.1.calls _⟩⟩

end

/-- What the jobs mean for the rest of a removal. -/
theorem leaveJobs_spec (env : Env) (channelID originalConnID connID : String) (locked : LockedCall) :
    (leaveJobs env channelID originalConnID connID).wp (fun result after =>
      after.apart = locked.apart ∧
        (locked.JobsValid → after.JobsValid) ∧
        (result = .ok () ∨ (∃ err, result = .error err) ∧ ¬ (env.WritesWork ∧ locked.JobsValid))) locked := by
  refine ⟨(leaveJobs_preserves env channelID originalConnID connID).run locked,
    leaveJobs_jobsValid env channelID originalConnID connID locked, ?_⟩
  by_cases fine : env.WritesWork ∧ locked.JobsValid
  · obtain ⟨value, after, ran, -⟩ :=
      leaveJobs_succeeds channelID fine.1 originalConnID connID locked fine.2
    rw [ran]
    exact .inl rfl
  · cases ended : (leaveJobs env channelID originalConnID connID locked).1 with
    | ok value => exact .inl rfl
    | error err => exact .inr ⟨⟨err, rfl⟩, fine⟩

theorem removeUserSession_spec (env : Env) (channelID : String) (ref : SessionRef) (before : LockedCall) :
    (removeUserSession env channelID ref).wp (RemoveEffect env ref before) before := by
  unfold removeUserSession
  rw [getState, wp_bind, wp_bind, wp_get, andThen_ok, wp_pure, andThen_ok]
  cases found : before.state.sessions.find? ref.originalConnID with
  | none => exact .absent found
  | some us =>
    have named : us.id = ref.originalConnID := (KeyedTable.find?_eq_some_iff.mp found).2
    dsimp only
    rw [wp_bind, wp_mapError, onStore, onWorld, wp_zoom, Handler.onStore, wp_zoom]
    refine Store.wp_deleteCallSession (fun err broken => .undeleted broken) fun deletes => ?_
    dsimp only [Except.mapError]
    rw [andThen_ok, wp_bind, modifyState, wp_modify, andThen_ok, wp_bind]
    refine wp_mono (leaveScreen_spec env channelID _ _) ?_
    intro _ screenLeft facts
    obtain ⟨rfl, screenState, screenStore, screenPosts⟩ := facts
    rw [andThen_ok, wp_bind]
    refine wp_mono (leaveVideo_spec env channelID _ _ us) ?_
    intro _ videoLeft facts
    obtain ⟨rfl, videoState, videoStore, videoPosts⟩ := facts
    rw [screenState] at videoState
    rw [screenStore] at videoStore
    rw [screenPosts] at videoPosts
    have videoCall : videoLeft.state.call = before.state.call.withoutMedia env us := by
      rw [videoState, Call.withoutMedia, named]
      rfl
    have videoSessions : videoLeft.state.sessions = before.state.sessions.erase ref.originalConnID := by
      rw [videoState]
      rfl
    have videoJobs : videoLeft.JobsValid = before.JobsValid := by
      rw [LockedCall.JobsValid, videoState]
      rfl
    rw [andThen_ok, wp_bind]
    refine wp_mono (leaveJobs_spec env channelID _ _ videoLeft) ?_
    intro result jobsLeft facts
    obtain ⟨apart, jobsValid, ended⟩ := facts
    simp only [LockedCall.apart, Store.apartFromJobs, Prod.mk.injEq] at apart
    obtain ⟨⟨sameCalls, sameSessions, sameJobs⟩, samePosts, sameCall, sameMemory⟩ := apart
    have deleted : SessionDeleted ref before jobsLeft :=
      ⟨by rw [sameSessions, videoStore], by rw [sameMemory, videoSessions], by rw [sameJobs, videoStore]; rfl,
        fun valid => jobsValid (by rwa [videoJobs])⟩
    have calls : jobsLeft.world.store.calls = before.world.store.calls := by rw [sameCalls, videoStore]
    have posts : jobsLeft.world.posts = before.world.posts := samePosts.trans videoPosts
    rcases ended with rfl | ⟨⟨err, rfl⟩, broken⟩
    · rw [andThen_ok, wp_bind, onWorld, wp_zoom, Handler.publish, wp_modify, andThen_ok, wp_bind]
      refine wp_mono (leaveHost_spec env channelID _ ref.userID) ?_
      intro _ hostLeft facts
      obtain ⟨rfl, hostState, hostStore, hostPosts⟩ := facts
      rw [andThen_ok]
      refine wp_mono (saveLeave_spec env hostLeft) ?_
      intro result after facts
      obtain ⟨savedState, savedPosts, savedSessions, savedJobs, savedCalls⟩ := facts
      have sessions : after.state.sessions = jobsLeft.state.sessions := by
        rw [savedState, hostState]
        rfl
      have call : after.state.call = before.state.call.afterLeave env ref us after.state.sessions := by
        rw [sessions, savedState, hostState, Call.afterLeave, ← videoCall, ← sameCall]
        rfl
      have hostSessions : hostLeft.state.sessions = after.state.sessions := by
        rw [sessions, hostState]
        rfl
      have keptJobs (valid : before.JobsValid) : after.JobsValid := by
        have kept := deleted.jobsValid valid
        rw [LockedCall.JobsValid, savedState, hostState]
        exact kept
      have deleted : SessionDeleted ref before after :=
        ⟨by rw [savedSessions, hostStore]; exact deleted.store, by rw [sessions]; exact deleted.memory,
          by rw [savedJobs, hostStore]; exact deleted.jobs, keptJobs⟩
      have wrotePosts : after.world.posts =
          leavePosts env after.state.call after.state.sessions before.world.posts := by
        rw [savedPosts, hostSessions, hostPosts]
        exact congrArg _ posts
      rcases savedCalls with ⟨rfl, wrote⟩ | ⟨⟨err, rfl⟩, kept, broken⟩
      · refine .saved found deleted ?_ call wrotePosts
        rw [wrote, hostStore]
        simp only [Store.saveCall]
        rw [calls]
      · exact .callUnsaved found deleted (by rw [kept, hostStore]; exact calls) call wrotePosts deletes broken
    · exact .jobUnsaved found deleted calls (sameCall.trans videoCall) posts deletes (by rwa [← videoJobs])

/-- A removal that does not find its session changes nothing. -/
theorem removeUserSession_absent {env : Env} {channelID : String} {ref : SessionRef} {locked : LockedCall}
    (absent : locked.state.sessions.contains ref.originalConnID = false) :
    (removeUserSession env channelID ref locked).2 = locked := by
  have none : locked.state.sessions.find? ref.originalConnID = none := by
    rw [KeyedTable.contains, Option.isSome_eq_false_iff, Option.isNone_iff_eq_none] at absent
    exact absent
  simp only [removeUserSession, getState, bind_run, get_run, pure_run, none, throw_run]

/-- What a removal does on a store that works. -/
theorem removeUserSession_works {env : Env} {channelID : String} {ref : SessionRef} {before : LockedCall} {us : CallSession}
    (works : env.StoreWorks) (found : before.state.sessions.find? ref.originalConnID = some us)
    (valid : before.state.call.isValid = .ok ()) (jobs : before.JobsValid) :
    (removeUserSession env channelID ref).wp (fun result after => result = .ok () ∧ SessionDeleted ref before after ∧
      after.world.store.calls = (before.world.store.saveCall after.state.call).calls ∧
        after.state.call = before.state.call.afterLeave env ref us after.state.sessions) before := by
  refine wp_mono (removeUserSession_spec env channelID ref before) ?_
  intro result after effect
  cases effect with
  | absent none => rw [none] at found; cases found
  | undeleted broken => rw [works] at broken; cases broken
  | jobUnsaved present deleted calls call posts deletes broken => exact absurd ⟨works.writes, jobs⟩ broken
  | @callUnsaved err us after present deleted calls call posts deletes broken =>
    have identity := (Call.afterLeave_kept env ref us after.state.sessions before.state.call).1
    rw [← call] at identity
    exact absurd ⟨works.writes, (Call.isValid_congr identity).trans valid⟩ broken
  | saved present deleted calls call =>
    rw [present] at found
    cases found
    exact ⟨rfl, deleted, calls, call⟩

end Calls
