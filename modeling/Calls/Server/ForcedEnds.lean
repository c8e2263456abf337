import Mathlib.Data.Finset.Dedup
import Calls.Server.TrackedVideos

/-! The two ways in which a call ends: its sessions leave one after the other, or
it is cleaned up as a whole. Only the former counts the time of a screen and of
videos that are still on. -/

set_option autoImplicit false

namespace Calls

open Command LockedHandler

/-- The sessions of a call are removed one after the other. -/
def removeSessions (channelID : String) (leaves : List (Env × SessionRef)) : LockedHandler Unit :=
  Command.forEach leaves fun leave => removeUserSession leave.1 channelID leave.2

/-- What the store has of a call about its screens, its videos and its participants. -/
def Store.finalStats? (store : Store) (callID : String) : Option (Int × Int × Finset String) :=
  (store.calls.find? callID).map fun call =>
    (call.stats.screenDuration, call.stats.videoDuration, call.participants.toFinset)

/-- Cleaning the call up leaves the same behind as the removal of its sessions. -/
def EndsAgree (env : Env) (channelID : String) (leaves : List (Env × SessionRef)) (world : World) (cs : CallState) : Prop :=
  (cleanCallState env cs.call world).2.store.finalStats? cs.call.id =
    (removeSessions channelID leaves ⟨world, cs⟩).2.world.store.finalStats? cs.call.id

/-- All sessions of the call leave, in some order, at the time of `env`; the store works. -/
structure LeavesAt (env : Env) (leaves : List (Env × SessionRef)) (sessions : SessionMap) : Prop where
  works : env.StoreWorks
  leaveWorks : ∀ leave ∈ leaves, leave.1.StoreWorks
  now : ∀ leave ∈ leaves, leave.1.now = env.now
  all : (leaves.map fun leave => leave.2.originalConnID).Perm (sessions.rows.map CallSession.id)

namespace Call

/-- The time of a screen that is still being shared. -/
def pendingScreen (now : Instant) (call : Call) : Int :=
  if 0 < call.props.screenStartAt then secondsSinceTimestamp now call.props.screenStartAt else 0

/-- The time of the videos that are still on. -/
def pendingVideo (now : Instant) (call : Call) : Int :=
  ((call.props.videoStartAt.rows.filter fun entry => 0 < entry.2).map fun entry => secondsSinceTimestamp now entry.2).sum

def screenTotal (now : Instant) (call : Call) : Int := call.stats.screenDuration + call.pendingScreen now

def videoTotal (now : Instant) (call : Call) : Int := call.stats.videoDuration + call.pendingVideo now

/-- The totals of a call and its participants. -/
def totals (now : Instant) (call : Call) : Int × Int × StringMap Unit :=
  (call.screenTotal now, call.videoTotal now, call.props.participants)

/-! ### Leaves -/

section
variable (env : Env) (call : Call)

theorem stopScreen_totals (sessionID : String) : (call.stopScreen env sessionID).totals env.now = call.totals env.now := by
  unfold stopScreen
  split
  · rfl
  · dsimp only
    split
    · next started =>
      simp only [totals, screenTotal, pendingScreen, videoTotal, pendingVideo, if_pos started]
      simp
    · next stopped => simp [totals, screenTotal, pendingScreen, videoTotal, pendingVideo, stopped]

/-- The videos that are on and the one of a session. -/
theorem pendingVideo_erase {now : Instant} {sessionID : String} {since : Int}
    (running : call.props.videoStartAt.get? sessionID = some since) (started : 0 < since) :
    call.pendingVideo now = secondsSinceTimestamp now since +
      (((call.props.videoStartAt.erase sessionID).rows.filter fun entry => 0 < entry.2).map fun entry =>
        secondsSinceTimestamp now entry.2).sum := by
  obtain ⟨entry, found, rfl⟩ := Option.map_eq_some_iff.mp running
  obtain ⟨member, rfl⟩ := KeyedTable.find?_eq_some_iff.mp found
  have sum := (((KeyedTable.perm_cons_erase member).filter fun entry => decide (0 < entry.2)).map fun entry =>
    secondsSinceTimestamp now entry.2).sum_eq
  rw [List.filter_cons_of_pos (by simpa using started), List.map_cons, List.sum_cons] at sum
  exact sum

theorem stopVideo_totals (sessionID : String) : (call.stopVideo env sessionID).totals env.now = call.totals env.now := by
  unfold stopVideo
  cases running : call.props.videoStartAt.get? sessionID with
  | none => rfl
  | some since =>
    dsimp only
    split
    · next started =>
      simp only [totals, screenTotal, videoTotal, pendingVideo_erase call running started]
      simp only [pendingScreen, pendingVideo, Int.add_assoc]
    · rfl

theorem withoutMedia_totals (us : CallSession) : (call.withoutMedia env us).totals env.now = call.totals env.now := by
  unfold withoutMedia
  split
  · rw [stopVideo_totals, stopScreen_totals]
  · exact stopScreen_totals env call us.id

theorem electOnLeave_totals (userID : String) (sessions : SessionMap) :
    (call.electOnLeave env userID sessions).totals env.now = call.totals env.now := by
  unfold electOnLeave
  dsimp only
  split <;> rfl

/-- What the call has counted when its last session has left. -/
theorem finish_counts : (call.finish env).stats.screenDuration = call.screenTotal env.now ∧
    (call.finish env).stats.videoDuration = call.videoTotal env.now ∧
      (call.finish env).participants = call.props.participants.mapKeys := ⟨rfl, rfl, rfl⟩

/-- A leave changes none of the totals; the last one makes them what was counted. -/
theorem afterLeave_totals (ref : SessionRef) (us : CallSession) (sessions : SessionMap) :
    (sessions.size ≠ 0 → (call.afterLeave env ref us sessions).totals env.now = call.totals env.now) ∧
      (sessions.size = 0 → (call.afterLeave env ref us sessions).stats.screenDuration = call.screenTotal env.now ∧
        (call.afterLeave env ref us sessions).stats.videoDuration = call.videoTotal env.now ∧
          (call.afterLeave env ref us sessions).participants = call.props.participants.mapKeys) := by
  have kept : ((call.withoutMedia env us).electOnLeave env ref.userID sessions).totals env.now = call.totals env.now :=
    (electOnLeave_totals env _ ref.userID sessions).trans (withoutMedia_totals env call us)
  unfold afterLeave finishIfEmpty
  constructor
  · intro filled
    rw [if_neg filled]
    exact kept
  · intro empty
    rw [if_pos empty]
    simp only [totals, Prod.mk.injEq] at kept
    obtain ⟨screen, video, participants⟩ := kept
    obtain ⟨screenCounted, videoCounted, listed⟩ := finish_counts env ((call.withoutMedia env us).electOnLeave env ref.userID sessions)
    exact ⟨screenCounted.trans screen, videoCounted.trans video, listed.trans (congrArg StringMap.mapKeys participants)⟩

end

end Call

theorem Store.finalStats?_of_saved {store : Store} {call : Call} (stored : store.calls.find? call.id = some call) :
    store.finalStats? call.id = some (call.stats.screenDuration, call.stats.videoDuration, call.participants.toFinset) := by
  rw [finalStats?, stored]
  rfl

/-- When one of the sessions has left, the others are those that are still to leave. -/
theorem LeavesAt.rest {env : Env} {first : Env × SessionRef} {rest : List (Env × SessionRef)} {sessions : SessionMap}
    (leave : LeavesAt env (first :: rest) sessions) : (∃ us, sessions.find? first.2.originalConnID = some us) ∧
      LeavesAt env rest (sessions.erase first.2.originalConnID) := by
  have listed : first.2.originalConnID ∈ sessions.rows.map CallSession.id := leave.all.mem_iff.mp List.mem_cons_self
  obtain ⟨us, member, named⟩ := List.mem_map.mp listed
  refine ⟨⟨us, KeyedTable.find?_eq_some_iff.mpr ⟨member, named⟩⟩, leave.works,
    fun other included => leave.leaveWorks other (List.mem_cons_of_mem _ included),
    fun other included => leave.now other (List.mem_cons_of_mem _ included), ?_⟩
  have rows := leave.all.trans ((KeyedTable.perm_cons_erase member).map CallSession.id)
  rw [List.map_cons, List.map_cons, named] at rows
  exact rows.cons_inv

/-- Once all sessions have left, the call has counted everything. -/
theorem removeSessions_spec {env : Env} {channelID : String} (leaves : List (Env × SessionRef)) {before : LockedCall} {row : Call}
    (stored : before.world.store.calls.find? before.state.call.id = some row)
    (identity : row.identity = before.state.call.identity) (valid : before.state.call.isValid = .ok ())
    (jobs : before.JobsValid) (leave : LeavesAt env leaves before.state.sessions) (occupied : before.state.sessions.size ≠ 0) :
    (removeSessions channelID leaves).wp (fun _ after =>
      after.world.store.finalStats? before.state.call.id = some (before.state.call.screenTotal env.now,
        before.state.call.videoTotal env.now, before.state.call.props.participants.mapKeys.toFinset)) before := by
  induction leaves generalizing before row with
  | nil =>
    have noRows : before.state.sessions.rows = [] := List.map_eq_nil_iff.mp leave.all.symm.eq_nil
    exact absurd (congrArg List.length noRows) occupied
  | cons first rest ih =>
    obtain ⟨⟨us, found⟩, others⟩ := leave.rest
    unfold removeSessions Command.forEach
    rw [wp_bind]
    refine wp_mono (removeUserSession_works (leave.leaveWorks first List.mem_cons_self) found valid jobs) ?_
    intro _ after facts
    obtain ⟨rfl, deleted, calls, call⟩ := facts
    rw [andThen_ok]
    have kept := (Call.afterLeave_kept first.1 first.2 us after.state.sessions before.state.call).1
    obtain ⟨totals, counted⟩ := Call.afterLeave_totals first.1 before.state.call first.2 us after.state.sessions
    rw [leave.now first List.mem_cons_self, ← call] at totals counted
    rw [← call] at kept
    have sameID : after.state.call.id = before.state.call.id := Call.id_eq_of_identity kept
    have saved : after.world.store.calls.find? after.state.call.id = some after.state.call := by
      rw [calls]
      refine Store.find?_saveCall_self ?_ (identity.trans kept.symm)
      rw [sameID]
      exact stored
    rw [← deleted.memory] at others
    rw [← sameID]
    by_cases empty : after.state.sessions.size = 0
    · have none : rest = [] := by
        have listed := others.all
        rw [List.eq_nil_of_length_eq_zero empty, List.map_nil] at listed
        exact List.map_eq_nil_iff.mp listed.eq_nil
      obtain ⟨screen, video, participants⟩ := counted empty
      subst none
      rw [Command.forEach, wp_pure, Store.finalStats?_of_saved saved, screen, video, participants]
    · have same := totals empty
      simp only [Call.totals, Prod.mk.injEq] at same
      obtain ⟨screen, video, participants⟩ := same
      rw [← screen, ← video, ← participants]
      exact ih saved rfl ((Call.isValid_congr kept).trans valid) (deleted.jobsValid jobs) others empty

/-! ### Cleaning up -/

section
variable {env : Env} {calls : KeyedTable Call.id}

theorem cleanCallJob_succeeds (channelID : String) (job : CallJob) :
    Succeeds (fun world => world.store.calls = calls) (cleanCallJob env channelID job) := by
  have write : Preserves Store.calls (Store.updateCallJob env.faults (job.ended env.now)) :=
    .of_wp fun store => Store.wp_updateCallJob (fun _ => rfl) fun _ _ => rfl
  unfold cleanCallJob
  refine Succeeds.ite ((Succeeds.ignoring (Handler.onStore_preserves write calls)).bind fun _ => ?_) (.pure ())
  exact Succeeds.when (.modify fun _ same => same)

theorem cleanCallState_spec {call : Call} {before : World} (works : env.StoreWorks) (valid : call.isValid = .ok ())
    (ongoing : call.endAt = 0) : (cleanCallState env call).wp (fun _ after =>
      after.store.calls = (before.store.saveCall (setCallEnded env.now call)).calls) before := by
  have post : Preserves (fun world => world.store.calls)
      (updateCallPostEnded env call.postID call.props.participants.mapKeys) :=
    .of_run fun world => by rw [updateCallPostEnded_world]
  have sessions : Preserves Store.calls (Store.deleteCallsSessions env.faults (setCallEnded env.now call).id) := by
    unfold Store.deleteCallsSessions Store.guarded
    exact (Preserves.throw _).ite (.modify fun _ => rfl)
  have jobs : Preserves Store.calls (Store.getActiveCallJobs env.faults (setCallEnded env.now call).id) := by
    unfold Store.getActiveCallJobs Store.guarded
    exact (Preserves.throw _).ite (Preserves.get.bind fun _ => .pure _)
  unfold cleanCallState
  rw [wp_bind, if_pos ongoing]
  refine wp_mono ((Succeeds.ignoring (post before.store.calls)).wp rfl) ?_
  intro _ first facts
  obtain ⟨⟨_, rfl⟩, same⟩ := facts
  rw [andThen_ok, wp_bind]
  refine wp_mono ((Succeeds.ignoring (Handler.onStore_preserves sessions before.store.calls)).wp same) ?_
  intro _ second facts
  obtain ⟨⟨_, rfl⟩, same⟩ := facts
  rw [andThen_ok, wp_bind]
  refine wp_mono ((Succeeds.attempt (Handler.onStore_preserves jobs before.store.calls)).wp same) ?_
  intro _ third facts
  obtain ⟨⟨listed, rfl⟩, same⟩ := facts
  rw [andThen_ok, wp_bind]
  refine wp_mono ((Succeeds.forEach (fun job => cleanCallJob_succeeds call.channelID job) _).wp same) ?_
  intro _ last facts
  obtain ⟨⟨_, rfl⟩, same⟩ := facts
  have ran : Store.updateCall env.faults (setCallEnded env.now call) last.store = _ :=
    Store.updateCall_run ((Call.isValid_congr rfl).trans valid) (works _)
  rw [andThen_ok, Handler.onStore, wp_zoom, Command.wp, ran]
  simp only [Store.saveCall, same]

end

/-- Cleaning a call up leaves what is still on uncounted, so it agrees with the leaves
of the sessions exactly when there is no such time. -/
theorem endsAgree_iff {env : Env} {channelID : String} {leaves : List (Env × SessionRef)} {world : World} {cs : CallState}
    (valid : world.store.CallsValid) (jobs : world.store.JobsValid) (loads : world.store.Loads channelID (some cs))
    (occupied : cs.sessions.size ≠ 0) (leave : LeavesAt env leaves cs.sessions) :
    EndsAgree env channelID leaves world cs ↔ cs.call.pendingScreen env.now = 0 ∧ cs.call.pendingVideo env.now = 0 := by
  obtain ⟨member, -, active⟩ := Store.activeCall?_eq_some loads.1
  obtain ⟨mirrored, -⟩ := loads.mirrored jobs
  have stored := KeyedTable.find?_self member
  have callValid := valid cs.call member
  have emptied : (removeSessions channelID leaves ⟨world, cs⟩).2.world.store.finalStats? cs.call.id = _ :=
    removeSessions_spec leaves stored rfl callValid mirrored.jobs leave occupied
  have calls : (cleanCallState env cs.call world).2.store.calls = _ :=
    cleanCallState_spec leave.works callValid (Store.endAt_of_isActive active)
  have saved : (cleanCallState env cs.call world).2.store.calls.find? (setCallEnded env.now cs.call).id =
      some (setCallEnded env.now cs.call) := by
    rw [calls]
    exact Store.find?_saveCall_self stored rfl
  rw [EndsAgree, emptied, show cs.call.id = (setCallEnded env.now cs.call).id from rfl, Store.finalStats?_of_saved saved]
  simp only [setCallEnded, Option.some.injEq, Prod.mk.injEq, and_true, Call.screenTotal, Call.videoTotal]
  omega

/-- The video of Alice is on from second 10, to second 40 or for as long as she is in the call. -/
def aliceOnVideo (turnedOff : Bool) : List TrafficStep :=
  (aliceJoins ++ [aliceVideo 10000 .on] ++
    if turnedOff then [aliceVideo 40000 .off] else []).map .call

def atSecond90 : Env := .quiet 90000 ""

def aliceLeavesAt90 : List (Env × SessionRef) :=
  [(atSecond90, { userID := "alice", originalConnID := "conn-1", connID := "conn-1" })]

/-- The state of a call without jobs. -/
def withoutJobs (store : Store) (call : Call) : CallState :=
  { call, sessions := store.callSessions call.id, recording := none, transcription := none, liveCaptions := none }

/-- Whether the ongoing call is that of Alice alone, with the check given of the world and the call. -/
def aliceAlone (check : World → Call → Bool) (ops : Operations) : Bool :=
  (ops.world.store.activeCall? "channel").any fun call =>
    ops.held.contains "channel" = false ∧ ops.world.store.jobs.rows = [] ∧
      (ops.world.store.callSessions call.id).rows.map CallSession.id = ["conn-1"] ∧ check ops.world call = true

theorem aliceOnVideo_quiet (turnedOff : Bool) :
    ∀ step ∈ aliceOnVideo turnedOff, ∀ env, step.env? = some env → ∃ now newID, env = .quiet now newID := by
  intro step listed env timed
  cases turnedOff <;>
    simp only [aliceOnVideo, aliceJoins, aliceVideo, List.map_cons, List.map_nil, List.map_append, List.mem_append,
      List.mem_cons, List.not_mem_nil, or_false, if_true, if_false, Bool.false_eq_true] at listed
  · obtain (rfl | rfl | rfl) | rfl := listed <;> cases timed <;> exact ⟨_, _, rfl⟩
  · obtain ((rfl | rfl | rfl) | rfl) | rfl := listed <;> cases timed <;> exact ⟨_, _, rfl⟩

/-- The state that such a run ends in, with what the check says of it. -/
theorem aliceAlone_of_run {turnedOff : Bool} {check : World → Call → Bool}
    (ended : (callTraffic.run? .idle (aliceOnVideo turnedOff)).any (aliceAlone check) = true)
    (free : callTraffic.checkAlong trafficFree .idle (aliceOnVideo turnedOff) = true) :
    ∃ ops call, (callTraffic.restrict TrafficServes).Reachable ops ∧ ops.held.contains "channel" = false ∧
      ops.world.store.Loads "channel" (some (withoutJobs ops.world.store call)) ∧
        (withoutJobs ops.world.store call).sessions.size ≠ 0 ∧
          LeavesAt atSecond90 aliceLeavesAt90 (withoutJobs ops.world.store call).sessions ∧ check ops.world call = true := by
  obtain ⟨ops, ran, alone⟩ := (Option.any_eq_true _ _).mp ended
  obtain ⟨call, active, facts⟩ := (Option.any_eq_true _ _).mp alone
  obtain ⟨unlocked, noJobs, sessions, checked⟩ := of_decide_eq_true facts
  have start : (callTraffic.restrict TrafficServes).Reachable .idle := .init rfl
  have serves : callTraffic.MeetsAlong TrafficServes .idle (aliceOnVideo turnedOff) :=
    .of_check free fun _ step listed => trafficFree_sound (aliceOnVideo_quiet turnedOff step listed)
  refine ⟨ops, call, start.restrict_run serves ran, unlocked, ⟨active, rfl, fun type => ?_⟩,
    fun empty => ?_, ⟨fun _ => rfl, ?_, ?_, ?_⟩, checked⟩
  · have none : ops.world.store.activeCallJobs call.id type = none := by
      cases found : ops.world.store.activeCallJobs call.id type with
      | none => rfl
      | some job =>
        have member := (Store.activeCallJobs_eq_some found).1
        rw [KeyedTable.mem_def, noJobs] at member
        cases member
    rw [show (withoutJobs ops.world.store call).call.id = call.id from rfl, none]
    cases type <;> rfl
  · rw [List.map_eq_cons_iff] at sessions
    obtain ⟨session, _, rows, -⟩ := sessions
    rw [KeyedTable.size, show (withoutJobs ops.world.store call).sessions = ops.world.store.callSessions call.id from rfl, rows] at empty
    cases empty
  · intro leave listed
    obtain rfl := List.mem_singleton.mp listed
    exact fun _ => rfl
  · intro leave listed
    obtain rfl := List.mem_singleton.mp listed
    rfl
  · exact sessions ▸ List.Perm.refl _

theorem endsAgree_of_videoOff : ∃ ops cs, (callTraffic.restrict TrafficServes).Reachable ops ∧
    ops.world.store.Loads "channel" (some cs) ∧ cs.call.stats.videoDuration = 30 ∧
      EndsAgree atSecond90 "channel" aliceLeavesAt90 ops.world cs := by
  obtain ⟨ops, call, reached, -, loads, occupied, leave, checked⟩ := aliceAlone_of_run
    (show (callTraffic.run? .idle (aliceOnVideo true)).any (aliceAlone fun _ call => call.stats.videoDuration = 30 ∧
      call.pendingScreen atSecond90.now = 0 ∧ call.pendingVideo atSecond90.now = 0) = true by decide +kernel)
    (by decide +kernel)
  obtain ⟨counted, nothing⟩ := of_decide_eq_true checked
  have inv := (trackedInvariant_of_reachable reached).mirrored
  exact ⟨ops, withoutJobs ops.world.store call, reached, loads, counted, (endsAgree_iff inv.valid inv.jobs loads occupied leave).mpr nothing⟩

/-- The video of Alice is on when the call is cleaned up: its 80 seconds are not counted. -/
theorem not_endsAgree : ¬ ∀ ops channelID cs env leaves, (callTraffic.restrict TrafficServes).Reachable ops →
    ops.held.contains channelID = false → ops.world.store.Loads channelID (some cs) → LeavesAt env leaves cs.sessions →
      EndsAgree env channelID leaves ops.world cs := by
  intro agree
  obtain ⟨ops, call, reached, unlocked, loads, -, leave, checked⟩ := aliceAlone_of_run
    (show (callTraffic.run? .idle (aliceOnVideo false)).any (aliceAlone fun world call =>
      ((cleanCallState atSecond90 call world).2.store.finalStats? call.id).map (·.2.1) = some 0 ∧
        ((removeSessions "channel" aliceLeavesAt90 ⟨world, withoutJobs world.store call⟩).2.world.store.finalStats? call.id).map
          (·.2.1) = some 80) = true by decide +kernel)
    (by decide +kernel)
  obtain ⟨cleaned, emptied⟩ := of_decide_eq_true checked
  have same := congrArg (Option.map fun stats => stats.2.1)
    (agree ops "channel" (withoutJobs ops.world.store call) atSecond90 aliceLeavesAt90 reached unlocked loads leave)
  cases cleaned.symm.trans (same.trans emptied)

end Calls
