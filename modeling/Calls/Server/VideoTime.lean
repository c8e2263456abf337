import Mathlib.Algebra.BigOperators.Group.Finset.Piecewise
import Calls.Library.Timeline
import Calls.Server.Hosts

/-! The time that a call counts for video, against the spans during which its
sessions really had theirs on. -/

set_option autoImplicit false

namespace Calls

open Command

/-- Whether the session is there with its video on. -/
def videoOf (sessions : SessionMap) (sessionID : String) : Option Unit :=
  ((sessions.find? sessionID).filter fun session => session.video).map fun _ => ()

/-- The store after every step that looked at the clock. -/
abbrev VideoHistory := List (Int × Store)

namespace VideoHistory

variable (history : VideoHistory) (callID : String)

def clock : Int := history.getLast?.elim 0 Prod.fst

/-- The spans during which the session had its video on. -/
def spans (sessionID : String) : Timeline Unit :=
  .ofSamples (history.map fun sample => (sample.1, videoOf (sample.2.callSessions callID) sessionID))

/-- The sessions that have been in the call. -/
def sessionIDs : Finset String :=
  (history.flatMap fun sample => (sample.2.callSessions callID).rows.map CallSession.id).toFinset

/-- The time that all spans of all sessions took together. -/
def videoTime : Int := ∑ sessionID ∈ history.sessionIDs callID, (history.spans callID sessionID).total

end VideoHistory

def recordVideo (history : VideoHistory) (_ : Operations) (step : CallStep) (after : Operations) : VideoHistory :=
  match step.env? with
  | none => history
  | some env => history ++ [(env.now.unix, after.world.store)]

def recordedVideos (ids : Identities) : System (Operations × VideoHistory) CallStep :=
  (callRuns ids).observed [] recordVideo

/-- The store works, and the clock shows whole seconds and does not go back. -/
structure OnWholeSeconds (state : Operations × VideoHistory) (step : CallStep) : Prop where
  serves : StoreServes state.1 step
  clock : ∀ env, step.env? = some env → env.now.unixMilli = env.now.unix * 1000 ∧ state.2.clock ≤ env.now.unix

/-- A message to turn a video on that is on already comes in the second in which it was turned on. -/
def NoLateVideoOn (state : Operations × VideoHistory) : CallStep → Prop
  | .video env us .on handlerID rtcSends =>
    ∀ callID view session, VideoHandled env handlerID rtcSends → state.1.world.store.callView? callID = some view →
      view.call.channelID = us.channelID → Store.isActive view.call = true →
      view.sessions.find? us.originalConnID = some session → session.video = true →
      view.call.props.videoStartAt.get? us.originalConnID = some env.now.unix
  | _ => True

/-- When a call has ended, what it has counted is the time of all spans. -/
def VideoTimeCounted (state : Operations × VideoHistory) : Prop :=
  ∀ call ∈ state.1.world.store.calls, call.endAt ≠ 0 →
    (∀ sessionID, (state.2.spans call.id sessionID).current = none) ∧
      call.stats.videoDuration = state.2.videoTime call.id

/-! ### One more sample -/

/-- The spans after one more sample. -/
def observeVideo (spans : String → Timeline Unit) (time : Int) (sessions : SessionMap) : String → Timeline Unit :=
  fun sessionID => (spans sessionID).observe time (videoOf sessions sessionID)

/-- Only a span of the given session has ended. -/
def AddsTo (before after : String → Timeline Unit) (sessionID : String) (added : Int) : Prop :=
  ∀ other, (after other).total = (before other).total + if other = sessionID then added else 0

namespace VideoHistory

variable {history : VideoHistory} {callID : String} {time : Int} {store : Store}

theorem spans_append : (history ++ [(time, store)] : VideoHistory).spans callID =
    observeVideo (history.spans callID) time (store.callSessions callID) := by
  funext sessionID
  simp [spans, observeVideo]

theorem spans_of_unknown {sessionID : String} (unknown : sessionID ∉ history.sessionIDs callID) :
    history.spans callID sessionID = .empty := by
  refine Timeline.ofSamples_of_none fun sample listed => ?_
  obtain ⟨⟨_, past⟩, member, rfl⟩ := List.mem_map.mp listed
  have absent : (past.callSessions callID).find? sessionID = none := by
    refine KeyedTable.find?_eq_none_iff.mpr fun session present named => unknown ?_
    rw [sessionIDs, List.mem_toFinset, List.mem_flatMap]
    exact ⟨_, member, List.mem_map.mpr ⟨session, present, named⟩⟩
  simp [videoOf, absent]

theorem sessionIDs_append (history : VideoHistory) (callID : String) (time : Int) (store : Store) :
    history.sessionIDs callID ⊆ (history ++ [(time, store)] : VideoHistory).sessionIDs callID := by
  intro sessionID known
  rw [sessionIDs, List.mem_toFinset] at known ⊢
  rw [List.flatMap_append]
  exact List.mem_append_left _ known

/-- A sample adds to the time what it adds to one of the sessions. -/
theorem videoTime_append {sessionID : String} {added : Int}
    (adds : AddsTo (history.spans callID) ((history ++ [(time, store)] : VideoHistory).spans callID) sessionID added)
    (known : added ≠ 0 → sessionID ∈ history.sessionIDs callID) :
    (history ++ [(time, store)] : VideoHistory).videoTime callID = history.videoTime callID + added := by
  have grown := sessionIDs_append history callID time store
  have unknown : ∀ other ∈ (history ++ [(time, store)] : VideoHistory).sessionIDs callID, other ∉ history.sessionIDs callID →
      (history.spans callID other).total = 0 := by
    intro other _ unknown
    rw [spans_of_unknown unknown]
    rfl
  rw [videoTime, Finset.sum_congr rfl fun other _ => adds other, Finset.sum_add_distrib, ← Finset.sum_subset grown unknown,
    Finset.sum_ite_eq']
  split
  · rfl
  · next absent =>
    by_cases none : added = 0
    · rw [none]
      rfl
    · exact absurd (grown (known none)) absent

end VideoHistory

/-! ### The counters of a call -/

/-- The counters of a call agree with the spans of its sessions. -/
structure VideoKept (call : Call) (sessions : SessionMap) (spans : String → Timeline Unit) (counted : Int) : Prop where
  on : ∀ sessionID, (spans sessionID).current.map Prod.fst = videoOf sessions sessionID
  startAt : ∀ sessionID, call.props.videoStartAt.get? sessionID = (spans sessionID).current.map Prod.snd
  started : ∀ sessionID since, call.props.videoStartAt.get? sessionID = some since → 0 < since
  total : call.stats.videoDuration = counted

/-- The counters agree after one more sample, which may have ended a span. -/
def VideoCounts (call : Call) (sessions : SessionMap) (spans : String → Timeline Unit) (counted time : Int) : Prop :=
  ∃ sessionID added, AddsTo spans (observeVideo spans time sessions) sessionID added ∧
    (added ≠ 0 → (spans sessionID).current ≠ none) ∧
    VideoKept call sessions (observeVideo spans time sessions) (counted + added)

section
variable {call next : Call} {sessions remaining : SessionMap} {spans : String → Timeline Unit} {counted time : Int}

theorem observeVideo_same {other : String} (kept : VideoKept call sessions spans counted)
    (same : videoOf remaining other = videoOf sessions other) : observeVideo spans time remaining other = spans other :=
  Timeline.observe_same ((kept.on other).trans same.symm)

/-- No video goes on or off. -/
theorem VideoKept.keep (kept : VideoKept call sessions spans counted)
    (videos : ∀ other, videoOf remaining other = videoOf sessions other)
    (startAt : ∀ other, next.props.videoStartAt.get? other = call.props.videoStartAt.get? other)
    (duration : next.stats.videoDuration = call.stats.videoDuration) : VideoCounts next remaining spans counted time := by
  have same : observeVideo spans time remaining = spans := by
    funext other
    exact observeVideo_same kept (videos other)
  refine ⟨"", 0, fun other => ?_, fun none => absurd rfl none, ?_⟩
  · rw [same, ite_self, Int.add_zero]
  · rw [same, Int.add_zero]
    refine ⟨fun other => (kept.on other).trans (videos other).symm, fun other => (startAt other).trans (kept.startAt other),
      fun other since running => kept.started other since ?_, duration.trans kept.total⟩
    rw [← startAt]
    exact running

/-- A video goes on. -/
theorem VideoKept.start (kept : VideoKept call sessions spans counted) {sessionID : String}
    (off : videoOf sessions sessionID = none) (on : videoOf remaining sessionID = some ())
    (videos : ∀ other, other ≠ sessionID → videoOf remaining other = videoOf sessions other)
    (startAt : ∀ other, next.props.videoStartAt.get? other =
      if other = sessionID then some time else call.props.videoStartAt.get? other)
    (duration : next.stats.videoDuration = call.stats.videoDuration) (started : 0 < time) :
    VideoCounts next remaining spans counted time := by
  have idle : (spans sessionID).current = none := by
    rw [← Option.map_eq_none_iff]
    exact (kept.on sessionID).trans off
  have here : observeVideo spans time remaining sessionID = ⟨(spans sessionID).ended, some ((), time)⟩ := by
    rw [observeVideo, on, Timeline.observe_start idle]
  have elsewhere (other : String) (different : other ≠ sessionID) : observeVideo spans time remaining other = spans other :=
    observeVideo_same kept (videos other different)
  refine ⟨"", 0, fun other => ?_, fun none => absurd rfl none, fun other => ?_, fun other => ?_, fun other since running => ?_, ?_⟩
  · rw [ite_self, Int.add_zero]
    by_cases same : other = sessionID
    · rw [same, here]
      rfl
    · rw [elsewhere other same]
  · by_cases same : other = sessionID
    · rw [same, here, on]
      rfl
    · rw [elsewhere other same, videos other same]
      exact kept.on other
  · rw [startAt]
    by_cases same : other = sessionID
    · rw [if_pos same, same, here]
      rfl
    · rw [if_neg same, elsewhere other same]
      exact kept.startAt other
  · rw [startAt] at running
    split at running
    · cases running
      exact started
    · exact kept.started other since running
  · rw [duration, kept.total, Int.add_zero]

/-- A video goes off, and its time is added. -/
theorem VideoKept.stop (kept : VideoKept call sessions spans counted) {sessionID : String} {since : Int}
    (running : call.props.videoStartAt.get? sessionID = some since) (off : videoOf remaining sessionID = none)
    (videos : ∀ other, other ≠ sessionID → videoOf remaining other = videoOf sessions other)
    (startAt : ∀ other, next.props.videoStartAt.get? other =
      if other = sessionID then none else call.props.videoStartAt.get? other)
    (duration : next.stats.videoDuration = call.stats.videoDuration + (time - since)) :
    VideoCounts next remaining spans counted time := by
  have current : (spans sessionID).current = some ((), since) := by
    rw [kept.startAt, Option.map_eq_some_iff] at running
    obtain ⟨⟨⟨⟩, _⟩, current, rfl⟩ := running
    exact current
  have here : observeVideo spans time remaining sessionID = ⟨(spans sessionID).ended ++ [⟨(), since, time⟩], none⟩ := by
    rw [observeVideo, off, Timeline.observe_stop current]
  have elsewhere (other : String) (different : other ≠ sessionID) : observeVideo spans time remaining other = spans other :=
    observeVideo_same kept (videos other different)
  refine ⟨sessionID, time - since, fun other => ?_, fun _ => ?_, fun other => ?_, fun other => ?_, fun other earlier runs => ?_, ?_⟩
  · by_cases same : other = sessionID
    · rw [if_pos same, same, here, Timeline.total_append]
      rfl
    · rw [if_neg same, elsewhere other same, Int.add_zero]
  · rw [current]
    exact Option.some_ne_none _
  · by_cases same : other = sessionID
    · rw [same, here, off]
      rfl
    · rw [elsewhere other same, videos other same]
      exact kept.on other
  · rw [startAt]
    by_cases same : other = sessionID
    · rw [if_pos same, same, here]
      rfl
    · rw [if_neg same, elsewhere other same]
      exact kept.startAt other
  · rw [startAt] at runs
    split at runs
    · cases runs
    · exact kept.started other earlier runs
  · rw [duration, kept.total]

theorem VideoKept.running (kept : VideoKept call sessions spans counted) {sessionID : String}
    (on : videoOf sessions sessionID = some ()) : ∃ since, call.props.videoStartAt.get? sessionID = some since := by
  have current := kept.on sessionID
  rw [on, Option.map_eq_some_iff] at current
  obtain ⟨⟨_, since⟩, current, -⟩ := current
  exact ⟨since, by rw [kept.startAt, current]; rfl⟩

theorem VideoKept.idle (kept : VideoKept call sessions spans counted) {sessionID : String}
    (off : videoOf sessions sessionID = none) : call.props.videoStartAt.get? sessionID = none := by
  have current := kept.on sessionID
  rw [off, Option.map_eq_none_iff] at current
  rw [kept.startAt, current]
  rfl

end

theorem VideoKept.ofView {cs : CallState} {spans : String → Timeline Unit} {counted : Int}
    (kept : VideoKept cs.view.call cs.view.sessions spans counted) : VideoKept cs.call cs.sessions spans counted :=
  ⟨kept.on, kept.startAt, kept.started, kept.total⟩

theorem VideoCounts.apartFromPost {call : Call} {sessions : SessionMap} {spans : String → Timeline Unit}
    {counted time : Int} (counts : VideoCounts call sessions spans counted time) :
    VideoCounts call.apartFromPost sessions spans counted time := by
  obtain ⟨sessionID, added, adds, ended, kept⟩ := counts
  exact ⟨sessionID, added, adds, ended, kept.on, kept.startAt, kept.started, kept.total⟩

/-! ### Leaves -/

section
variable (env : Env) (ref : SessionRef) (us : CallSession) (sessions : SessionMap) (call : Call)

theorem Call.stopScreen_video :
    (call.stopScreen env us.id).props.videoStartAt = call.props.videoStartAt ∧
      (call.stopScreen env us.id).stats.videoDuration = call.stats.videoDuration := by
  unfold stopScreen
  split
  · exact ⟨rfl, rfl⟩
  · dsimp only
    split <;> exact ⟨rfl, rfl⟩

theorem Call.withoutMedia_off (off : us.video = false) :
    (call.withoutMedia env us).props.videoStartAt = call.props.videoStartAt ∧
      (call.withoutMedia env us).stats.videoDuration = call.stats.videoDuration := by
  rw [withoutMedia, if_neg (by rw [off]; exact Bool.false_ne_true)]
  exact stopScreen_video env us call

theorem Call.withoutMedia_on {since : Int} (on : us.video = true)
    (running : call.props.videoStartAt.get? us.id = some since) (started : 0 < since) :
    (call.withoutMedia env us).props.videoStartAt = call.props.videoStartAt.erase us.id ∧
      (call.withoutMedia env us).stats.videoDuration =
        call.stats.videoDuration + secondsSinceTimestamp env.now since := by
  obtain ⟨startAt, duration⟩ := stopScreen_video env us call
  rw [← startAt] at running
  rw [withoutMedia, if_pos on, stopVideo, running]
  dsimp only
  rw [if_pos started, startAt, duration]
  exact ⟨rfl, rfl⟩

theorem Call.electOnLeave_video (userID : String) :
    (call.electOnLeave env userID sessions).props.videoStartAt = call.props.videoStartAt ∧
      (call.electOnLeave env userID sessions).stats.videoDuration = call.stats.videoDuration := by
  unfold electOnLeave
  dsimp only
  split <;> exact ⟨rfl, rfl⟩

/-- At the end of a call nothing is left to be counted. -/
theorem Call.afterLeave_video
    (counted : sessions.size = 0 → ∀ other, (call.withoutMedia env us).props.videoStartAt.get? other = none) :
    (∀ other, (call.afterLeave env ref us sessions).props.videoStartAt.get? other =
        (call.withoutMedia env us).props.videoStartAt.get? other) ∧
      (call.afterLeave env ref us sessions).stats.videoDuration = (call.withoutMedia env us).stats.videoDuration := by
  obtain ⟨startAt, duration⟩ := electOnLeave_video env sessions (call.withoutMedia env us) ref.userID
  unfold afterLeave finishIfEmpty
  split
  · next empty =>
    have noneLeft : ((call.withoutMedia env us).electOnLeave env ref.userID sessions).props.videoStartAt.rows = [] := by
      rw [startAt, List.eq_nil_iff_forall_not_mem]
      intro entry member
      have running := counted empty entry.1
      rw [StringMap.get?, KeyedTable.find?_self (show entry ∈ (call.withoutMedia env us).props.videoStartAt from member)] at running
      cases running
    refine ⟨fun other => ?_, ?_⟩
    · rw [counted empty other]
      rfl
    · simp only [finish, setCallEnded, noneLeft, duration]
      simp
  · exact ⟨fun other => by rw [startAt], duration⟩

end

theorem videoOf_erase (sessions : SessionMap) (sessionID other : String) :
    videoOf (sessions.erase sessionID) other = if other = sessionID then none else videoOf sessions other := by
  unfold videoOf
  rw [KeyedTable.find?_erase]
  split <;> rfl

theorem videoOf_empty {sessions : SessionMap} (empty : sessions.size = 0) (other : String) : videoOf sessions other = none := by
  have absent : sessions.find? other = none :=
    KeyedTable.find?_eq_none_iff.mpr fun session member => absurd empty (KeyedTable.size_ne_zero_of_mem member)
  simp [videoOf, absent]

theorem VideoKept.left {env : Env} {cs : CallState} {ref : SessionRef} {us : CallSession} {sessions : SessionMap}
    {spans : String → Timeline Unit} {counted : Int} (kept : VideoKept cs.call cs.sessions spans counted)
    (whole : env.now.unixMilli = env.now.unix * 1000) (found : cs.sessions.find? ref.originalConnID = some us)
    (erased : sessions = cs.sessions.erase ref.originalConnID) :
    VideoCounts (cs.call.afterLeave env ref us sessions) sessions spans counted env.now.unix := by
  have named : us.id = ref.originalConnID := (KeyedTable.find?_eq_some_iff.mp found).2
  have videos (other : String) : videoOf sessions other = if other = us.id then none else videoOf cs.sessions other := by
    rw [erased, videoOf_erase, named]
  cases video : us.video with
  | false =>
    obtain ⟨startAt, duration⟩ := Call.withoutMedia_off env us cs.call video
    have off : videoOf cs.sessions us.id = none := by simp [videoOf, named, found, video]
    have same (other : String) : videoOf sessions other = videoOf cs.sessions other := by
      rw [videos]
      split
      · next here => rw [here, off]
      · rfl
    obtain ⟨endStartAt, endDuration⟩ := Call.afterLeave_video env ref us sessions cs.call fun empty other => by
      rw [startAt]
      exact kept.idle ((same other).symm.trans (videoOf_empty empty other))
    refine kept.keep same (fun other => ?_) (endDuration.trans duration)
    rw [endStartAt, startAt]
  | true =>
    have on : videoOf cs.sessions us.id = some () := by simp [videoOf, named, found, video]
    obtain ⟨since, running⟩ := kept.running on
    obtain ⟨startAt, duration⟩ := Call.withoutMedia_on env us cs.call video running (kept.started us.id since running)
    obtain ⟨endStartAt, endDuration⟩ := Call.afterLeave_video env ref us sessions cs.call fun empty other => by
      rw [startAt, StringMap.get?_erase]
      split
      · rfl
      · next different =>
        have off := videoOf_empty empty other
        rw [videos, if_neg different] at off
        exact kept.idle off
    refine kept.stop running (by rw [videos, if_pos rfl]) (fun other different => by rw [videos, if_neg different])
      (fun other => ?_) ?_
    · rw [endStartAt, startAt, StringMap.get?_erase]
    · rw [endDuration, duration, secondsSinceTimestamp_whole whole]

/-! ### Messages -/

theorem videoOf_toggled (toggled : CallSession) {sessions : SessionMap} {sessionID : String} {session : CallSession}
    (found : sessions.find? sessionID = some session) (other : String) :
    videoOf (sessions.modify sessionID (·.updatedFrom toggled) fun row => row.updatedFrom_id toggled) other =
      if other = sessionID then (if toggled.video = true then some () else none) else videoOf sessions other := by
  unfold videoOf
  rw [KeyedTable.find?_modify]
  split
  · next here =>
    rw [here, found]
    cases video : toggled.video <;> simp [CallSession.updatedFrom, video, Option.filter]
  · rfl

theorem VideoKept.toggled (toggled : CallSession) {now : Instant} {msg : VideoMessage} {sessionID : String}
    {cs : CallState} {session : CallSession} {spans : String → Timeline Unit} {counted : Int} (kept : VideoKept cs.call cs.sessions spans counted)
    (whole : now.unixMilli = now.unix * 1000) (found : cs.sessions.find? sessionID = some session)
    (video : toggled.video = decide (msg = .on))
    (first : msg = .on → session.video = true → cs.call.props.videoStartAt.get? sessionID = some now.unix) :
    VideoCounts (cs.call.toggleVideo now sessionID msg)
      (cs.sessions.modify sessionID (·.updatedFrom toggled) fun row => row.updatedFrom_id toggled) spans counted now.unix := by
  have videos := videoOf_toggled toggled found
  have was : videoOf cs.sessions sessionID = if session.video = true then some () else none := by
    cases on : session.video <;> simp [videoOf, found, on]
  have elsewhere (other : String) (different : other ≠ sessionID) := (videos other).trans (if_neg different)
  have here := (videos sessionID).trans (if_pos rfl)
  cases msg with
  | on =>
    rw [video, if_pos (by decide)] at here
    cases already : session.video with
    | false =>
      rw [already, if_neg Bool.false_ne_true] at was
      exact kept.start was here elsewhere (fun other => StringMap.get?_set _ _ _ _) rfl now.unix_pos
    | true =>
      rw [already, if_pos rfl] at was
      refine kept.keep (fun other => ?_) (fun other => ?_) rfl
      · by_cases same : other = sessionID
        · rw [same, here, was]
        · exact elsewhere other same
      · simp only [Call.toggleVideo, StringMap.get?_set]
        split
        · next same => rw [same, first rfl already]
        · rfl
  | off =>
    rw [video, if_neg (by decide)] at here
    cases already : session.video with
    | false =>
      rw [already, if_neg Bool.false_ne_true] at was
      have unchanged : cs.call.toggleVideo now sessionID .off = cs.call := by
        simp only [Call.toggleVideo, kept.idle was]
      refine kept.keep (fun other => ?_) (fun other => by rw [unchanged]) (by rw [unchanged])
      by_cases same : other = sessionID
      · rw [same, here, was]
      · exact elsewhere other same
    | true =>
      rw [already, if_pos rfl] at was
      obtain ⟨since, running⟩ := kept.running was
      have started := kept.started sessionID since running
      refine kept.stop running here elsewhere (fun other => ?_) ?_
      · simp only [Call.toggleVideo, running, if_pos started, StringMap.get?_erase]
      · simp only [Call.toggleVideo, running, if_pos started, secondsSinceTimestamp_whole whole]

/-! ### Joins and changes of the host -/

theorem joinedState_video (env : Env) (cs : CallState) (req : JoinRequest) :
    (joinedState env cs req).call.props.videoStartAt = cs.call.props.videoStartAt := by
  have elected (sessions : SessionMap) :
      (cs.call.electOnJoin env sessions).props.videoStartAt = cs.call.props.videoStartAt := by
    unfold Call.electOnJoin
    dsimp only
    split <;> rfl
  unfold joinedState Call.addParticipant
  dsimp only
  split
  · exact elected _
  · exact elected _

theorem videoOf_joined {env : Env} {cs : CallState} {req : JoinRequest} (absent : cs.sessions.contains req.connID = false)
    (other : String) : videoOf (joinedState env cs req).sessions other = videoOf cs.sessions other := by
  unfold videoOf joinedState
  rw [KeyedTable.find?_put]
  split
  · next here =>
    rw [KeyedTable.contains, Option.isSome_eq_false_iff, Option.isNone_iff_eq_none] at absent
    rw [show other = req.connID from here, absent]
    rfl
  · rfl

theorem VideoKept.joined {env : Env} {cs : CallState} {req : JoinRequest} {spans : String → Timeline Unit} {counted time : Int}
    (kept : VideoKept cs.call cs.sessions spans counted) (absent : cs.sessions.contains req.connID = false) :
    VideoCounts (joinedState env cs req).call (joinedState env cs req).sessions spans counted time := by
  exact kept.keep (videoOf_joined absent) (fun other => by rw [joinedState_video])
    (congrArg CallStats.videoDuration (joinedState_same env cs req).stats)

theorem Call.changeHost_video {env : Env} {requesterID newHostID : String} {sessions : SessionMap} {call changed : Call}
    (accepted : call.changeHost env requesterID newHostID sessions = .ok changed) :
    changed.props.videoStartAt = call.props.videoStartAt ∧ changed.stats = call.stats := by
  obtain ⟨-, ⟨-, rfl⟩ | ⟨-, rfl⟩⟩ := changeHost_ok accepted
  · unfold lockHost
    split <;> exact ⟨rfl, rfl⟩
  · exact ⟨rfl, rfl⟩

/-! ### Runs -/

structure VideoInvariant (state : Operations × VideoHistory) : Prop where
  mirrored : Mirrored state.1
  kept : ∀ callID view, state.1.world.store.callView? callID = some view →
    VideoKept view.call view.sessions (state.2.spans callID) (state.2.videoTime callID)
  absent : ∀ callID, state.1.world.store.callView? callID = none → ∀ sessionID, state.2.spans callID sessionID = .empty

theorem VideoHistory.videoTime_of_empty {history : VideoHistory} {callID : String}
    (empty : ∀ sessionID, history.spans callID sessionID = .empty) : history.videoTime callID = 0 :=
  Finset.sum_eq_zero fun sessionID _ => by rw [empty]; rfl

/-- There is no session of a call that there is no row of. -/
theorem Store.SessionsOwned.noSessions {store : Store} {callID : String} (owned : store.SessionsOwned)
    (absent : store.callView? callID = none) : store.callSessions callID = .empty := by
  rw [callView?, Option.map_eq_none_iff] at absent
  apply KeyedTable.ext
  rw [KeyedTable.rows_empty, List.eq_nil_iff_forall_not_mem]
  intro session member
  obtain ⟨stored, ofCall⟩ := mem_callSessions.mp member
  have known := (owned session stored).2
  rw [ofCall, KeyedTable.contains, absent] at known
  cases known

section
variable {state : Operations × VideoHistory} {label : CallStep} {env : Env} {callID : String}

theorem VideoInvariant.change (inv : VideoInvariant state) (timed : label.env? = some env)
    (whole : env.now.unixMilli = env.now.unix * 1000) (first : NoLateVideoOn state label) {after : CallView}
    (change : CallChange label (state.1.world.store.callView? callID) (some after)) :
    VideoCounts after.call after.sessions (state.2.spans callID) (state.2.videoTime callID) env.now.unix := by
  generalize found : state.1.world.store.callView? callID = before at change
  cases change with
  | kept => exact (inv.kept callID after found).keep (fun _ => rfl) (fun _ => rfl) rfl
  | @started _ _ req base starts user =>
    have empty := inv.absent callID found
    obtain ⟨-, -, fresh⟩ := stateToJoin_none starts
    have unused : VideoKept base.call base.sessions (state.2.spans callID) (state.2.videoTime callID) := by
      rw [fresh.sessions, VideoHistory.videoTime_of_empty empty]
      refine ⟨fun sessionID => by rw [empty]; rfl, fun sessionID => ?_, fun sessionID since running => ?_, ?_⟩
      · rw [stateToJoin_props starts, empty]
        rfl
      · rw [stateToJoin_props starts] at running
        cases running
      · rw [fresh.unused.stats]
    have free : base.sessions.contains req.connID = false := by
      rw [fresh.sessions]
      rfl
    exact VideoCounts.apartFromPost (unused.joined free)
  | @joined _ _ req cs checked =>
    exact VideoCounts.apartFromPost ((inv.kept callID _ found).ofView.joined (checkJoin_absent checked))
  | @left _ _ ref cs us call sessions present erased left =>
    cases timed
    subst left
    exact VideoCounts.apartFromPost ((inv.kept callID _ found).ofView.left whole present erased)
  | @hostChanged _ _ _ _ cs call active accepted =>
    obtain ⟨startAt, stats⟩ := Call.changeHost_video accepted
    exact (inv.kept callID _ found).keep (fun _ => rfl) (fun other => congrArg (StringMap.get? · other) startAt)
      (congrArg CallStats.videoDuration stats)
  | @video _ us msg handlerID rtcSends cs session sessions handled channel active present toggled =>
    cases timed
    subst toggled
    have toggles (already : msg = .on → session.video = true →
        cs.call.props.videoStartAt.get? us.originalConnID = some env.now.unix) :=
      (inv.kept callID _ found).ofView.toggled { session with video := msg = .on } whole present rfl already
    refine VideoCounts.apartFromPost (toggles fun on already => ?_)
    subst on
    exact first callID cs.view session handled found channel active present already

theorem CallChange.of_untimed {before after : Option CallView} (untimed : label.env? = none)
    (change : CallChange label before after) : after = before := by
  cases change with
  | kept => rfl
  | started | joined | left | hostChanged | video => cases untimed

theorem CallChange.of_none {before : Option CallView} (change : CallChange label before none) : before = none := by
  cases change
  rfl

theorem VideoInvariant.step {after : Operations} (inv : VideoInvariant state) (seconds : OnWholeSeconds state label)
    (first : NoLateVideoOn state label) (taken : state.1.call? label = some after) :
    VideoInvariant (after, recordVideo state.2 state.1 label after) := by
  obtain ⟨mirrored, change⟩ := inv.mirrored.step seconds.serves taken
  cases timed : label.env? with
  | none =>
    have same (callID : String) := (change callID).of_untimed timed
    simp only [recordVideo, timed]
    exact ⟨mirrored, fun callID view found => inv.kept callID view (by rw [← same]; exact found),
      fun callID absent => inv.absent callID (by rw [← same]; exact absent)⟩
  | some env =>
    simp only [recordVideo, timed]
    refine ⟨mirrored, fun callID view found => ?_, fun callID absent sessionID => ?_⟩
    · have changes := change callID
      dsimp only at found
      rw [found] at changes
      obtain ⟨sessionID, added, adds, ended, kept⟩ := inv.change timed (seconds.clock env timed).1 first changes
      obtain ⟨row, -, rfl⟩ := Store.callView?_eq_some_iff.mp found
      have known : added ≠ 0 → sessionID ∈ state.2.sessionIDs callID := by
        intro adding
        by_contra unknown
        rw [VideoHistory.spans_of_unknown unknown] at ended
        exact ended adding rfl
      rw [← VideoHistory.spans_append] at adds kept
      dsimp only
      rw [VideoHistory.videoTime_append adds known]
      exact kept
    · have changes := change callID
      dsimp only at absent ⊢
      rw [absent] at changes
      rw [VideoHistory.spans_append, observeVideo, inv.absent callID changes.of_none,
        mirrored.sessions.noSessions absent]
      rfl

end

theorem videoTimeCounted_of_noLateVideoOn (ids : Identities) (state : Operations × VideoHistory)
    (reached : ((recordedVideos ids).restrict fun state step =>
      OnWholeSeconds state step ∧ NoLateVideoOn state step).Reachable state) : VideoTimeCounted state := by
  have inv : VideoInvariant state := by
    refine System.Reachable.invariant_of_allowed ?_ ?_ reached
    · intro facts both
      obtain ⟨ops, history⟩ := facts
      obtain ⟨rfl, rfl⟩ := both
      exact ⟨.idle, fun callID view found => (by cases found), fun _ _ _ => rfl⟩
    · intro before step state inv next taken
      obtain ⟨after, history⟩ := state
      obtain ⟨seconds, first⟩ := next
      obtain ⟨taken, records⟩ := System.observed_next?.mp taken
      dsimp only at taken records
      rw [records]
      unfold callRuns at taken
      dsimp only at taken
      split at taken
      · exact inv.step seconds first taken
      · cases taken
  have views := (viewsHold_of_reachable HostKept.change (.of_observed (fun _ _ allowed => allowed.1.serves) reached)).views
  intro call member ended
  have found : state.1.world.store.callView? call.id = some ⟨call.apartFromPost, state.1.world.store.callSessions call.id⟩ := by
    rw [Store.callView?, KeyedTable.find?_self member]
    rfl
  have kept := inv.kept call.id _ found
  refine ⟨fun sessionID => ?_, kept.total⟩
  have off := kept.on sessionID
  rw [videoOf_empty ((views call.id _ found).ended ended), Option.map_eq_none_iff] at off
  exact off

def aliceVideo (now : Instant) (msg : VideoMessage) : CallStep :=
  .video (.quiet now "")
    { userID := "alice", channelID := "channel", connID := "conn-1", originalConnID := "conn-1", callID := "call" } msg "node" true

def aliceJoins : List CallStep :=
  [.operation (.lock (.quiet 1000 "") "channel" .joining),
    .operation (.join (.quiet 1000 "call") "channel" (.plain "alice" "conn-1" "")),
    .operation (.unlock "channel")]

def aliceEndsCall : List CallStep :=
  [.operation (.lock (.quiet 90000 "") "channel" .leaving),
    .operation (.leave (.quiet 90000 "") "channel" { userID := "alice", originalConnID := "conn-1", connID := "conn-1" }),
    .operation (.unlock "channel")]

/-- A video from second 10 to second 25, and one from second 40 to the end of the call. -/
def twoVideos : List CallStep :=
  aliceJoins ++ [aliceVideo 10000 .on, aliceVideo 25000 .off, aliceVideo 40000 .on] ++
    aliceEndsCall

/-- A video from second 10 to second 30, with a second message to turn it on in second 20. -/
def repeatedVideo : List CallStep :=
  aliceJoins ++ [aliceVideo 10000 .on, aliceVideo 20000 .on, aliceVideo 30000 .off] ++
    aliceEndsCall

def clockSteady (state : Operations × VideoHistory) (step : CallStep) : Bool :=
  joinsFree state.1 step && step.env?.all fun env => env.now.unixMilli = env.now.unix * 1000 ∧ state.2.clock ≤ env.now.unix

theorem clockSteady_sound {state : Operations × VideoHistory} {step : CallStep}
    (quiet : ∀ env, step.env? = some env → ∃ now newID, env = .quiet now newID) (steady : clockSteady state step = true) :
    OnWholeSeconds state step := by
  obtain ⟨free, clock⟩ := Bool.and_eq_true_iff.mp steady
  refine ⟨joinsFree_sound quiet free, fun env timed => ?_⟩
  rw [timed, Option.all_some, decide_eq_true_eq] at clock
  exact clock

/-- Whether the video of the session is off when it is turned on. -/
def videoOff (state : Operations × VideoHistory) : CallStep → Bool
  | .video _ us .on _ _ => state.1.world.store.sessions.rows.all fun session => session.id ≠ us.originalConnID ∨ session.video = false
  | _ => true

theorem videoOff_sound {state : Operations × VideoHistory} {step : CallStep} (off : videoOff state step = true) :
    NoLateVideoOn state step := by
  cases step with
  | operation | changeHost => trivial
  | video env us msg handlerID rtcSends =>
    cases msg with
    | off => trivial
    | on =>
      intro callID view session _ found _ _ present already
      obtain ⟨row, -, rfl⟩ := Store.callView?_eq_some_iff.mp found
      obtain ⟨member, named⟩ := KeyedTable.find?_eq_some_iff.mp present
      have stored := (Store.mem_callSessions.mp member).1
      have checked := List.all_eq_true.mp off session stored
      rw [decide_eq_true_eq, already] at checked
      exact absurd named (checked.resolve_right fun on => by cases on)

def onlyAlice : Identities := { owner := fun _ => "alice", botID := "bot" }

theorem aliceCalls_quiet (first second third : Instant) (one two three : VideoMessage) :
    ∀ step ∈ aliceJoins ++ [aliceVideo first one, aliceVideo second two, aliceVideo third three] ++ aliceEndsCall,
      ∀ env, step.env? = some env → ∃ now newID, env = .quiet now newID := by
  intro step listed env timed
  simp only [aliceJoins, aliceEndsCall, aliceVideo, List.mem_append, List.mem_cons, List.not_mem_nil, or_false] at listed
  obtain ((rfl | rfl | rfl) | rfl | rfl | rfl) | rfl | rfl | rfl := listed <;> cases timed <;> exact ⟨_, _, rfl⟩

theorem videoTimeCounted_of_twoVideos :
    ∃ state, (recordedVideos onlyAlice).run? (.idle, []) twoVideos = some state ∧
      state.1.world.store.calls.rows.map (fun call => (call.endAt, call.stats.videoDuration)) = [(90000, 65)] ∧
      VideoTimeCounted state := by
  have computed : ((recordedVideos onlyAlice).run? (.idle, []) twoVideos).map (fun state =>
      state.1.world.store.calls.rows.map fun call => (call.endAt, call.stats.videoDuration)) = some [(90000, 65)] := by
    decide +kernel
  obtain ⟨state, ran, counted⟩ := Option.map_eq_some_iff.mp computed
  have seconds : (recordedVideos onlyAlice).MeetsAlong OnWholeSeconds (.idle, []) twoVideos :=
    .of_check (show (recordedVideos onlyAlice).checkAlong clockSteady _ _ = true by decide +kernel)
      fun _ step listed => clockSteady_sound (aliceCalls_quiet _ _ _ _ _ _ step listed)
  have first : (recordedVideos onlyAlice).MeetsAlong NoLateVideoOn (.idle, []) twoVideos :=
    .of_check (show (recordedVideos onlyAlice).checkAlong videoOff _ _ = true by decide +kernel)
      fun _ _ _ => videoOff_sound
  have start : ((recordedVideos onlyAlice).restrict fun state step =>
      OnWholeSeconds state step ∧ NoLateVideoOn state step).Reachable (.idle, []) := .init ⟨rfl, rfl⟩
  exact ⟨state, ran, counted, videoTimeCounted_of_noLateVideoOn onlyAlice state (start.restrict_run (seconds.and first) ran)⟩

/-- A second message to turn the video on sets its start anew, and the time until then is lost. -/
theorem not_videoTimeCounted : ¬ ∀ ids state, ((recordedVideos ids).restrict OnWholeSeconds).Reachable state →
    VideoTimeCounted state := by
  intro counted
  have computed : ((recordedVideos onlyAlice).run? (.idle, []) repeatedVideo).map (fun state =>
      (state.1.world.store.calls.rows.map fun call => (call.id, call.endAt, call.stats.videoDuration), state.2.videoTime "call")) =
      some ([("call", 90000, 10)], 20) := by decide +kernel
  obtain ⟨state, ran, shape⟩ := Option.map_eq_some_iff.mp computed
  simp only [Prod.mk.injEq] at shape
  obtain ⟨rows, total⟩ := shape
  have seconds : (recordedVideos onlyAlice).MeetsAlong OnWholeSeconds (.idle, []) repeatedVideo :=
    .of_check (show (recordedVideos onlyAlice).checkAlong clockSteady _ _ = true by decide +kernel)
      fun _ step listed => clockSteady_sound (aliceCalls_quiet _ _ _ _ _ _ step listed)
  have start : ((recordedVideos onlyAlice).restrict OnWholeSeconds).Reachable (.idle, []) := .init ⟨rfl, rfl⟩
  obtain ⟨call, member, same⟩ := KeyedTable.exists_of_rows_map rows (List.mem_singleton.mpr rfl)
  simp only [Prod.mk.injEq] at same
  obtain ⟨named, endAt, duration⟩ := same
  have sum := (counted onlyAlice state (start.restrict_run seconds ran) call member (by rw [endAt]; decide)).2
  rw [named, duration, total] at sum
  exact absurd sum (by decide)

end Calls
