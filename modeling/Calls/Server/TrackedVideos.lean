import Calls.Server.MessageRuns

/-! The videos that a call keeps the start of are those of its sessions that have
theirs on, so that nothing is left to be counted when the last of them has left. -/

set_option autoImplicit false

namespace Calls

open Command

theorem videoOf_isSome_iff {sessions : SessionMap} {sessionID : String} : (videoOf sessions sessionID).isSome = true ↔
    ∃ session ∈ sessions, session.id = sessionID ∧ session.video = true := by
  rw [videoOf, Option.isSome_map, Option.isSome_iff_exists]
  simp only [Option.filter_eq_some_iff, KeyedTable.find?_eq_some_iff, and_assoc]

/-- The videos with a start are those that are on. -/
structure VideosTracked (call : Call) (sessions : SessionMap) : Prop where
  keys : ∀ sessionID, (call.props.videoStartAt.get? sessionID).isSome = (videoOf sessions sessionID).isSome
  started : ∀ sessionID since, call.props.videoStartAt.get? sessionID = some since → 0 < since

namespace VideosTracked

variable {call next : Call} {sessions remaining : SessionMap} {sessionID : String}

theorem ofView {cs : CallState} (tracked : VideosTracked cs.view.call cs.view.sessions) : VideosTracked cs.call cs.sessions :=
  ⟨tracked.keys, tracked.started⟩

theorem apartFromPost (tracked : VideosTracked call sessions) : VideosTracked call.apartFromPost sessions :=
  ⟨tracked.keys, tracked.started⟩

/-- No video goes on or off. -/
theorem keep (tracked : VideosTracked call sessions)
    (videos : ∀ other, videoOf remaining other = videoOf sessions other)
    (startAt : ∀ other, next.props.videoStartAt.get? other = call.props.videoStartAt.get? other) :
    VideosTracked next remaining := by
  refine ⟨fun other => ?_, fun other since running => tracked.started other since ?_⟩
  · rw [startAt, videos]
    exact tracked.keys other
  · rw [← startAt]
    exact running

/-- One session has its video on or off, and its start with it. -/
theorem put (tracked : VideosTracked call sessions) (sessionID : String) (since? : Option Int)
    (here : (videoOf remaining sessionID).isSome = since?.isSome) (positive : ∀ since, since? = some since → 0 < since)
    (videos : ∀ other, other ≠ sessionID → videoOf remaining other = videoOf sessions other)
    (startAt : ∀ other, next.props.videoStartAt.get? other =
      if other = sessionID then since? else call.props.videoStartAt.get? other) : VideosTracked next remaining := by
  constructor
  · intro other
    rw [startAt]
    split
    · next same => rw [same, here]
    · next different =>
      rw [videos other different]
      exact tracked.keys other
  · intro other since running
    rw [startAt] at running
    split at running
    · exact positive since running
    · exact tracked.started other since running

theorem idle (tracked : VideosTracked call sessions) (off : videoOf sessions sessionID = none) :
    call.props.videoStartAt.get? sessionID = none := by
  have same := tracked.keys sessionID
  rwa [off, Option.isSome_none, Option.isSome_eq_false_iff, Option.isNone_iff_eq_none] at same

theorem running (tracked : VideosTracked call sessions) (on : videoOf sessions sessionID = some ()) :
    ∃ since, call.props.videoStartAt.get? sessionID = some since := by
  have same := tracked.keys sessionID
  rwa [on, Option.isSome_some, Option.isSome_iff_exists] at same

/-! ### Steps -/

theorem withoutMedia {env : Env} {cs : CallState} {us : CallSession} {remaining : SessionMap}
    (tracked : VideosTracked cs.call cs.sessions) (found : cs.sessions.find? us.id = some us)
    (erased : remaining = cs.sessions.erase us.id) : VideosTracked (cs.call.withoutMedia env us) remaining := by
  have here : videoOf remaining us.id = none := by rw [erased, videoOf_erase, if_pos rfl]
  have videos (other : String) (different : other ≠ us.id) : videoOf remaining other = videoOf cs.sessions other := by
    rw [erased, videoOf_erase, if_neg different]
  refine tracked.put us.id none (by rw [here]; rfl) (fun _ none => by cases none) videos fun other => ?_
  cases video : us.video with
  | false =>
    have off : videoOf cs.sessions us.id = none := by simp [videoOf, found, video]
    rw [(Call.withoutMedia_off env us cs.call video).1]
    split
    · next same => rw [same, tracked.idle off]
    · rfl
  | true =>
    have on : videoOf cs.sessions us.id = some () := by simp [videoOf, found, video]
    obtain ⟨since, running⟩ := tracked.running on
    rw [(Call.withoutMedia_on env us cs.call video running (tracked.started us.id since running)).1, StringMap.get?_erase]

theorem left {env : Env} {cs : CallState} {ref : SessionRef} {us : CallSession} {remaining : SessionMap}
    (tracked : VideosTracked cs.call cs.sessions) (found : cs.sessions.find? ref.originalConnID = some us)
    (erased : remaining = cs.sessions.erase ref.originalConnID) :
    VideosTracked (cs.call.afterLeave env ref us remaining) remaining ∧
      (remaining.size = 0 → ((cs.call.withoutMedia env us).electOnLeave env ref.userID remaining).props.videoStartAt.rows = []) := by
  have named : us.id = ref.originalConnID := (KeyedTable.find?_eq_some_iff.mp found).2
  rw [← named] at found erased
  have without : VideosTracked (cs.call.withoutMedia env us) remaining := tracked.withoutMedia found erased
  have counted (empty : remaining.size = 0) (other : String) : (cs.call.withoutMedia env us).props.videoStartAt.get? other = none :=
    without.idle (videoOf_empty empty other)
  refine ⟨without.keep (fun _ => rfl) (Call.afterLeave_video env ref us remaining cs.call counted).1, fun empty => ?_⟩
  rw [(Call.electOnLeave_video env remaining (cs.call.withoutMedia env us) ref.userID).1, List.eq_nil_iff_forall_not_mem]
  intro entry member
  have running := counted empty entry.1
  rw [StringMap.get?, KeyedTable.find?_self (show entry ∈ (cs.call.withoutMedia env us).props.videoStartAt from member)] at running
  cases running

theorem toggled (toggled : CallSession) {now : Instant} {msg : VideoMessage} {sessionID : String} {cs : CallState}
    {session : CallSession} (tracked : VideosTracked cs.call cs.sessions) (found : cs.sessions.find? sessionID = some session)
    (video : toggled.video = decide (msg = .on)) :
    VideosTracked (cs.call.toggleVideo now sessionID msg)
      (cs.sessions.modify sessionID (·.updatedFrom toggled) fun row => row.updatedFrom_id toggled) := by
  have videos := videoOf_toggled toggled found
  have here := (videos sessionID).trans (if_pos rfl)
  have elsewhere (other : String) (different : other ≠ sessionID) := (videos other).trans (if_neg different)
  cases msg with
  | on =>
    rw [video, if_pos (by decide)] at here
    refine tracked.put sessionID (some now.unix) (by rw [here]; rfl) (fun since same => ?_) elsewhere fun other => ?_
    · cases same
      exact now.unix_pos
    · exact StringMap.get?_set _ _ _ _
  | off =>
    rw [video, if_neg (by decide)] at here
    refine tracked.put sessionID none (by rw [here]; rfl) (fun _ none => by cases none) elsewhere fun other => ?_
    simp only [Call.toggleVideo]
    cases running : cs.call.props.videoStartAt.get? sessionID with
    | none =>
      dsimp only
      split
      · next same => rw [same, running]
      · rfl
    | some since =>
      dsimp only
      rw [if_pos (tracked.started sessionID since running), StringMap.get?_erase]

theorem joined {env : Env} {cs : CallState} {req : JoinRequest} (tracked : VideosTracked cs.call cs.sessions)
    (absent : cs.sessions.contains req.connID = false) :
    VideosTracked (joinedState env cs req).call (joinedState env cs req).sessions :=
  tracked.keep (videoOf_joined absent) fun other => by rw [joinedState_video]

/-- A message to the microphone or the hand of a session. -/
theorem flagged (changed : CallSession) {cs : CallState} {sessionID : String} {session : CallSession}
    (tracked : VideosTracked cs.call cs.sessions) (found : cs.sessions.find? sessionID = some session)
    (video : changed.video = session.video) :
    VideosTracked cs.call (cs.sessions.modify sessionID (·.updatedFrom changed) fun row => row.updatedFrom_id changed) := by
  refine tracked.keep (fun other => ?_) fun _ => rfl
  rw [videoOf_toggled changed found]
  split
  · next here =>
    cases on : session.video <;> simp [videoOf, here, found, on, video]
  · rfl

theorem callChange {step : CallStep} {before : Option CallView} {after : CallView}
    (change : CallChange step before (some after)) (old : ∀ view, before = some view → VideosTracked view.call view.sessions) :
    VideosTracked after.call after.sessions := by
  cases change with
  | kept => exact old after rfl
  | @started _ _ req base starts user =>
    obtain ⟨-, -, fresh⟩ := stateToJoin_none starts
    have unused : VideosTracked base.call base.sessions := by
      refine ⟨fun sessionID => ?_, fun sessionID since running => ?_⟩
      · rw [stateToJoin_props starts, fresh.sessions]
        rfl
      · rw [stateToJoin_props starts] at running
        cases running
    have free : base.sessions.contains req.connID = false := by
      rw [fresh.sessions]
      rfl
    exact (unused.joined free).apartFromPost
  | @joined _ _ req cs checked => exact ((old _ rfl).ofView.joined (checkJoin_absent checked)).apartFromPost
  | @left _ _ ref cs us call sessions present erased left =>
    subst left
    exact ((old _ rfl).ofView.left present erased).1.apartFromPost
  | hostChanged active accepted =>
    exact (old _ rfl).keep (fun _ => rfl) fun other => congrArg (StringMap.get? · other) (Call.changeHost_video accepted).1
  | @video _ us msg _ _ cs session sessions handled channel active present toggled =>
    subst toggled
    exact ((old _ rfl).ofView.toggled { session with video := msg = .on } present rfl).apartFromPost

theorem change {step : TrafficStep} {before : Option CallView} {after : CallView}
    (change : TrafficChange step before (some after)) (old : ∀ view, before = some view → VideosTracked view.call view.sessions) :
    VideosTracked after.call after.sessions := by
  cases change with
  | call change => exact callChange change old
  | kept => exact old after rfl
  | screen active accepted =>
    have kept := (old _ rfl).ofView.keep (fun _ => rfl) fun other =>
      congrArg (StringMap.get? · other) (Call.toggleScreen_video accepted)
    exact kept.apartFromPost
  | @session _ us change cs session sessions changes active found flagged =>
    subst flagged
    exact ((old _ rfl).ofView.flagged (change session) found (TrafficStep.sessionChange?_eq_some changes session).2).apartFromPost

end VideosTracked

/-! ### Runs -/

/-- The calls in the store that are ongoing have a start for the video of each session that has it on, and for no other. -/
def Store.VideosTracked (store : Store) : Prop :=
  ∀ call ∈ store.calls, isActive call = true →
    (∀ sessionID, call.props.videoStartAt.contains sessionID = true ↔
      ∃ session ∈ store.sessions, session.callID = call.id ∧ session.id = sessionID ∧ session.video = true) ∧
    ∀ sessionID since, call.props.videoStartAt.get? sessionID = some since → 0 < since

/-- When the leave of a session ends its call, the loop over the videos finds none,
and the time counted is that which the removal has added for this session. -/
def Operations.NoVideosToFinish (ops : Operations) : Prop :=
  ∀ env channelID ref cs us remaining after, env.StoreWorks → ops.batch? channelID .leaving = some (some cs) →
    cs.sessions.find? ref.originalConnID = some us → remaining = cs.sessions.erase ref.originalConnID → remaining.size = 0 →
    after = (removeUserSession env channelID ref ⟨ops.world, cs⟩).2.state.call →
    ((cs.call.withoutMedia env us).electOnLeave env ref.userID remaining).props.videoStartAt.rows = [] ∧
      after.endAt ≠ 0 ∧ after.stats.videoDuration = (cs.call.withoutMedia env us).stats.videoDuration

/-- What batches hold is what the store says, and the videos of every call are tracked. -/
structure TrackedInvariant (ops : Operations) : Prop where
  mirrored : Mirrored ops
  views : ∀ callID view, ops.world.store.callView? callID = some view → VideosTracked view.call view.sessions

theorem trackedInvariant_of_reachable {ops : Operations} (reached : (callTraffic.restrict TrafficServes).Reachable ops) :
    TrackedInvariant ops := by
  refine System.Reachable.invariant_of_allowed ?_ ?_ reached
  · intro ops same
    obtain rfl := same
    exact ⟨.idle, fun callID view found => by cases found⟩
  · intro before step after inv serves taken
    obtain ⟨mirrored, change⟩ := inv.mirrored.traffic serves taken
    refine ⟨mirrored, fun callID view found => ?_⟩
    have changed := change callID
    rw [found] at changed
    exact VideosTracked.change changed (inv.views callID)

theorem TrackedInvariant.noVideosToFinish {ops : Operations} (inv : TrackedInvariant ops) : ops.NoVideosToFinish := by
  intro env channelID ref cs us remaining after works running found erased empty left
  have mirrored := inv.mirrored.held channelID _ cs (Operations.batch?_eq_some running) rfl
  have tracked := (inv.views cs.call.id _ mirrored.view).ofView
  have noneLeft : ((cs.call.withoutMedia env us).electOnLeave env ref.userID remaining).props.videoStartAt.rows = [] :=
    (tracked.left found erased).2 empty
  have written : (removeUserSession env channelID ref).wp
      (fun _ left => left.state.call = cs.call.afterLeave env ref us remaining) ⟨ops.world, cs⟩ := by
    refine wp_mono (removeUserSession_works works found (mirrored.valid inv.mirrored.valid) mirrored.jobs) ?_
    intro _ left facts
    obtain ⟨-, deleted, -, call⟩ := facts
    rw [call, deleted.memory, erased]
  have sameCall : after = cs.call.afterLeave env ref us remaining := left.trans written
  have ended := (Call.afterLeave_kept env ref us remaining cs.call).2
  rw [if_pos empty] at ended
  refine ⟨noneLeft, ?_, ?_⟩
  · rw [sameCall, ended]
    exact Int.ne_of_gt env.now.unixMilli_pos
  · rw [sameCall]
    refine (Call.afterLeave_video env ref us remaining cs.call fun _ other => ?_).2
    rw [(Call.electOnLeave_video env remaining (cs.call.withoutMedia env us) ref.userID).1] at noneLeft
    simp [StringMap.get?, KeyedTable.find?, noneLeft]

theorem videosTracked_of_reachable (ops : Operations) (reached : (callTraffic.restrict TrafficServes).Reachable ops) :
    ops.world.store.VideosTracked ∧ ops.NoVideosToFinish := by
  have inv := trackedInvariant_of_reachable reached
  refine ⟨fun call member active => ?_, inv.noVideosToFinish⟩
  have found : ops.world.store.callView? call.id = some ⟨call.apartFromPost, ops.world.store.callSessions call.id⟩ := by
    rw [Store.callView?, KeyedTable.find?_self member]
    rfl
  have tracked := inv.views call.id _ found
  refine ⟨fun sessionID => ?_, tracked.started⟩
  rw [StringMap.contains_eq_isSome, show call.props.videoStartAt.get? sessionID = call.apartFromPost.props.videoStartAt.get? sessionID from rfl,
    tracked.keys, videoOf_isSome_iff]
  simp only [Store.mem_callSessions, and_assoc]

def aliceReader : UserSession :=
  { userID := "alice", channelID := "channel", connID := "conn-1", originalConnID := "conn-1", callID := "call" }

/-- Alice turns everything on, and is about to leave. -/
def aliceTurnsOn : List TrafficStep :=
  aliceJoins.map .call ++
    [.mute (.quiet 5000 "") aliceReader .unmute "node" true,
      .call (aliceVideo 10000 .on),
      .hand (.quiet 15000 "") aliceReader .raise,
      .screen (.quiet 20000 "") aliceReader .on "node",
      .call (.operation (.lock (.quiet 90000 "") "channel" .leaving))]

def trafficFree (ops : Operations) : TrafficStep → Bool
  | .call step => joinsFree ops step
  | _ => true

theorem trafficFree_sound {ops : Operations} {step : TrafficStep}
    (quiet : ∀ env, step.env? = some env → ∃ now newID, env = .quiet now newID) (free : trafficFree ops step = true) :
    TrafficServes ops step := by
  cases step with
  | call step => exact joinsFree_sound quiet free
  | screen env | mute env | hand env =>
    obtain ⟨now, newID, rfl⟩ := quiet env rfl
    exact fun _ => rfl

theorem aliceTurnsOn_quiet : ∀ step ∈ aliceTurnsOn, ∀ env, step.env? = some env → ∃ now newID, env = .quiet now newID := by
  intro step listed env timed
  simp only [aliceTurnsOn, aliceJoins, aliceVideo, List.map_cons, List.map_nil, List.mem_append, List.mem_cons,
    List.not_mem_nil, or_false] at listed
  obtain (rfl | rfl | rfl) | rfl | rfl | rfl | rfl | rfl := listed <;> cases timed <;> exact ⟨_, _, rfl⟩

theorem videosTracked_of_aliceTurnsOn : ∃ ops, callTraffic.run? .idle aliceTurnsOn = some ops ∧
    ops.world.store.calls.rows.map (·.props.videoStartAt.rows) = [[("conn-1", 10)]] ∧
    ops.world.store.VideosTracked ∧ ops.NoVideosToFinish := by
  have computed : (callTraffic.run? .idle aliceTurnsOn).map (fun ops =>
      ops.world.store.calls.rows.map (·.props.videoStartAt.rows)) = some [[("conn-1", 10)]] := by decide +kernel
  obtain ⟨ops, ran, started⟩ := Option.map_eq_some_iff.mp computed
  have serves : callTraffic.MeetsAlong TrafficServes .idle aliceTurnsOn :=
    .of_check (show callTraffic.checkAlong trafficFree _ _ = true by decide +kernel)
      fun _ step listed => trafficFree_sound (aliceTurnsOn_quiet step listed)
  have start : (callTraffic.restrict TrafficServes).Reachable .idle := .init rfl
  exact ⟨ops, ran, started, videosTracked_of_reachable ops (start.restrict_run serves ran)⟩

end Calls
