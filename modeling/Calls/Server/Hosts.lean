import Calls.Server.CallRunsProperties

/-! The host of a call: a participant other than the bot where there is one, and
the user whom the host was locked to while that user is there. -/

set_option autoImplicit false

namespace Calls

theorem isUserIDInCall_iff {sessions : SessionMap} {userID : String} :
    isUserIDInCall sessions userID = true ↔ ∃ session ∈ sessions, session.userID = userID := by
  simp [isUserIDInCall, KeyedTable.mem_def]

/-! ### The election -/

section
variable (botID : String) {current : String} {sessions : List CallSession}

/-- A current host who is still there stays the host. -/
theorem pickHost_current (present : ∃ session ∈ sessions, session.userID = current) (host : CallSession) :
    pickHost botID current sessions host = current := by
  induction sessions generalizing host with
  | nil => simp at present
  | cons session rest ih =>
    by_cases here : session.userID = current
    · rw [pickHost, if_pos here]
    · have later : ∃ session ∈ rest, session.userID = current := by
        obtain ⟨other, member, named⟩ := present
        rcases List.mem_cons.mp member with rfl | member
        · exact absurd named here
        · exact ⟨other, member, named⟩
      rw [pickHost, if_neg here]
      split
      · exact ih later host
      · split
        · exact ih later session
        · split <;> exact ih later _

/-- Where the current host is gone, the loop ends with the host it began with, or with a
participant other than the bot; the former without a host only if there is none. -/
theorem pickHost_other (absent : ∀ session ∈ sessions, session.userID ≠ current)
    (named : ∀ session ∈ sessions, session.userID ≠ "") (host : CallSession) :
    (pickHost botID current sessions host = host.userID ∧
        (host.userID = "" → ∀ session ∈ sessions, session.userID = botID)) ∨
      ∃ session ∈ sessions, session.userID ≠ botID ∧ pickHost botID current sessions host = session.userID := by
  induction sessions generalizing host with
  | nil => exact .inl ⟨rfl, fun _ session member => by cases member⟩
  | cons session rest ih =>
    have ih := ih (fun other member => absent other (List.mem_cons_of_mem _ member))
      fun other member => named other (List.mem_cons_of_mem _ member)
    have chosen (user : session.userID ≠ botID) : ∃ other ∈ session :: rest, other.userID ≠ botID ∧
        pickHost botID current rest session = other.userID := by
      rcases ih session with ⟨same, -⟩ | ⟨other, member, notBot, same⟩
      · exact ⟨session, List.mem_cons_self, user, same⟩
      · exact ⟨other, List.mem_cons_of_mem _ member, notBot, same⟩
    rw [pickHost, if_neg (absent session List.mem_cons_self)]
    split
    · next bot =>
      rcases ih host with ⟨same, none⟩ | ⟨other, member, notBot, same⟩
      · refine .inl ⟨same, fun unnamed other member => ?_⟩
        rcases List.mem_cons.mp member with rfl | member
        · exact bot
        · exact none unnamed other member
      · exact .inr ⟨other, List.mem_cons_of_mem _ member, notBot, same⟩
    · next user =>
      split
      · exact .inr (chosen user)
      · next started =>
        split
        · exact .inr (chosen user)
        · rcases ih host with ⟨same, -⟩ | ⟨other, member, notBot, same⟩
          · exact .inl ⟨same, fun unnamed => absurd unnamed started⟩
          · exact .inr ⟨other, List.mem_cons_of_mem _ member, notBot, same⟩

end

section
variable (order : IterationOrder) (botID : String) {call : Call} {sessions : SessionMap}

theorem getHostID_locked (isLocked : call.props.hostLockedUserID ≠ "")
    (present : isUserIDInCall sessions call.props.hostLockedUserID = true) :
    getHostID order botID call sessions = call.props.hostLockedUserID := by
  rw [getHostID, if_pos ⟨isLocked, present⟩]

theorem getHostID_current
    (unlocked : ¬ (call.props.hostLockedUserID ≠ "" ∧ isUserIDInCall sessions call.props.hostLockedUserID = true))
    (present : ∃ session ∈ sessions, session.userID = call.getHostID) :
    getHostID order botID call sessions = call.getHostID := by
  rw [getHostID, if_neg unlocked]
  obtain ⟨session, member, named⟩ := present
  exact pickHost_current botID ⟨session, (order.perm _).mem_iff.mpr member, named⟩ _

theorem getHostID_other
    (unlocked : ¬ (call.props.hostLockedUserID ≠ "" ∧ isUserIDInCall sessions call.props.hostLockedUserID = true))
    (absent : ∀ session ∈ sessions, session.userID ≠ call.getHostID) (named : ∀ session ∈ sessions, session.userID ≠ "") :
    (getHostID order botID call sessions = "" ∧ ∀ session ∈ sessions, session.userID = botID) ∨
      ∃ session ∈ sessions, session.userID ≠ botID ∧ getHostID order botID call sessions = session.userID := by
  have visited {session : CallSession} : session ∈ order.visit sessions.rows ↔ session ∈ sessions :=
    (order.perm _).mem_iff
  rw [getHostID, if_neg unlocked]
  have ended := fun host => pickHost_other botID (fun session member => absent session (visited.mp member))
    (fun session member => named session (visited.mp member)) host
  obtain ⟨same, none⟩ | ⟨session, member, notBot, same⟩ := ended { id := "", callID := "", userID := "", joinAt := 0 }
  · exact .inl ⟨same, fun session member => none rfl session (visited.mpr member)⟩
  · exact .inr ⟨session, visited.mp member, notBot, same⟩

end

/-- The host of a call with these sessions is as it should be. -/
structure HostOf (botID : String) (call : Call) (sessions : SessionMap) : Prop where
  notBot : call.getHostID ≠ botID
  present : (∃ session ∈ sessions, session.userID ≠ botID) → ∃ session ∈ sessions, session.userID = call.getHostID
  none : (∀ session ∈ sessions, session.userID = botID) → call.getHostID = ""
  locked : call.props.hostLockedUserID ≠ "" → (∃ session ∈ sessions, session.userID = call.props.hostLockedUserID) →
    call.getHostID = call.props.hostLockedUserID

/-- Users have names, one of them is there, and the host is not locked to the bot. -/
structure Electable (botID : String) (call : Call) (sessions : SessionMap) : Prop where
  filled : ∃ session, session ∈ sessions
  named : ∀ session ∈ sessions, session.userID ≠ ""
  unlocked : call.props.hostLockedUserID ≠ "" → call.props.hostLockedUserID ≠ botID

/-- Electing a host makes it as it should be. -/
theorem HostOf.of_elected {order : IterationOrder} {botID : String} {call elected : Call} {sessions : SessionMap}
    (electable : Electable botID call sessions)
    (current : ∀ session ∈ sessions, session.userID = call.getHostID → session.userID ≠ botID)
    (host : elected.getHostID = getHostID order botID call sessions)
    (locked : elected.props.hostLockedUserID = call.props.hostLockedUserID) : HostOf botID elected sessions := by
  by_cases isLocked : call.props.hostLockedUserID ≠ "" ∧ isUserIDInCall sessions call.props.hostLockedUserID = true
  · rw [getHostID_locked order botID isLocked.1 isLocked.2] at host
    have notBot := electable.unlocked isLocked.1
    obtain ⟨session, member, named⟩ := isUserIDInCall_iff.mp isLocked.2
    refine ⟨by rwa [host], fun _ => ⟨session, member, by rw [host, named]⟩, fun allBots => ?_, fun _ _ => by rw [host, locked]⟩
    exact absurd (named.symm.trans (allBots session member)) notBot
  · have unlocked : elected.props.hostLockedUserID ≠ "" →
        (∃ session ∈ sessions, session.userID = elected.props.hostLockedUserID) →
        elected.getHostID = elected.props.hostLockedUserID := by
      intro named present
      rw [locked] at named present
      exact absurd ⟨named, isUserIDInCall_iff.mpr present⟩ isLocked
    by_cases present : ∃ session ∈ sessions, session.userID = call.getHostID
    · rw [getHostID_current order botID isLocked present] at host
      obtain ⟨session, member, named⟩ := present
      have notBot := current session member named
      refine ⟨by rwa [host, ← named], fun _ => ⟨session, member, by rw [host, named]⟩, fun allBots => ?_, unlocked⟩
      exact absurd (allBots session member) notBot
    · have absent : ∀ session ∈ sessions, session.userID ≠ call.getHostID :=
        fun session member named => present ⟨session, member, named⟩
      obtain ⟨same, allBots⟩ | ⟨session, member, notBot, same⟩ :=
        getHostID_other order botID isLocked absent electable.named
      · rw [same] at host
        obtain ⟨session, member⟩ := electable.filled
        refine ⟨fun bot => ?_, fun ⟨other, otherMember, user⟩ => absurd (allBots other otherMember) user, fun _ => host, unlocked⟩
        exact electable.named session member ((allBots session member).trans (bot.symm.trans host))
      · rw [same] at host
        refine ⟨by rwa [host], fun _ => ⟨session, member, host.symm⟩, fun allBots => ?_, unlocked⟩
        exact absurd (allBots session member) notBot

/-! ### What a step makes of the host -/

theorem Call.electOnJoin_host (env : Env) (sessions : SessionMap) (call : Call) :
    (call.electOnJoin env sessions).getHostID = Calls.getHostID env.order env.botID call sessions ∧
      (call.electOnJoin env sessions).props.hostLockedUserID = call.props.hostLockedUserID := by
  unfold electOnJoin
  dsimp only
  split
  · next same => exact ⟨same.symm, rfl⟩
  · exact ⟨rfl, rfl⟩

theorem Call.addParticipant_host (env : Env) (userID : String) (call : Call) :
    (call.addParticipant env userID).getHostID = call.getHostID ∧
      (call.addParticipant env userID).props.hostLockedUserID = call.props.hostLockedUserID := by
  unfold addParticipant
  split <;> exact ⟨rfl, rfl⟩

theorem joinedState_host (env : Env) (cs : CallState) (req : JoinRequest) :
    (joinedState env cs req).call.getHostID = getHostID env.order env.botID cs.call (joinedState env cs req).sessions ∧
      (joinedState env cs req).call.props.hostLockedUserID = cs.call.props.hostLockedUserID := by
  have added := Call.addParticipant_host env req.userID (cs.call.electOnJoin env (joinedState env cs req).sessions)
  have elected := Call.electOnJoin_host env (joinedState env cs req).sessions cs.call
  exact ⟨added.1.trans elected.1, added.2.trans elected.2⟩

theorem Call.stopScreen_host (env : Env) (sessionID : String) (call : Call) :
    (call.stopScreen env sessionID).props.hosts = call.props.hosts ∧
      (call.stopScreen env sessionID).props.hostLockedUserID = call.props.hostLockedUserID := by
  unfold stopScreen
  split
  · exact ⟨rfl, rfl⟩
  · dsimp only
    split <;> exact ⟨rfl, rfl⟩

theorem Call.stopVideo_host (env : Env) (sessionID : String) (call : Call) :
    (call.stopVideo env sessionID).props.hosts = call.props.hosts ∧
      (call.stopVideo env sessionID).props.hostLockedUserID = call.props.hostLockedUserID := by
  unfold stopVideo
  split
  · exact ⟨rfl, rfl⟩
  · split <;> exact ⟨rfl, rfl⟩

theorem Call.withoutMedia_host (env : Env) (us : CallSession) (call : Call) :
    (call.withoutMedia env us).props.hosts = call.props.hosts ∧
      (call.withoutMedia env us).props.hostLockedUserID = call.props.hostLockedUserID := by
  have screen := stopScreen_host env us.id call
  have video := stopVideo_host env us.id (call.stopScreen env us.id)
  unfold withoutMedia
  split
  · exact ⟨video.1.trans screen.1, video.2.trans screen.2⟩
  · exact screen

theorem getHostID_congr {left right : Call} (hosts : left.props.hosts = right.props.hosts)
    (locked : left.props.hostLockedUserID = right.props.hostLockedUserID) (order : IterationOrder) (botID : String)
    (sessions : SessionMap) : getHostID order botID left sessions = getHostID order botID right sessions := by
  simp only [getHostID, Call.getHostID, hosts, locked]

theorem Call.afterLeave_locked (env : Env) (ref : SessionRef) (us : CallSession) (sessions : SessionMap) (call : Call) :
    (call.afterLeave env ref us sessions).props.hostLockedUserID = call.props.hostLockedUserID := by
  obtain ⟨-, locked⟩ := withoutMedia_host env us call
  have elected : ((call.withoutMedia env us).electOnLeave env ref.userID sessions).props.hostLockedUserID =
      (call.withoutMedia env us).props.hostLockedUserID := by
    unfold electOnLeave
    dsimp only
    split <;> rfl
  unfold afterLeave finishIfEmpty
  split
  · exact elected.trans locked
  · exact elected.trans locked

theorem Call.toggleVideo_host (now : Instant) (sessionID : String) (call : Call) (msg : VideoMessage) :
    (call.toggleVideo now sessionID msg).props.hosts = call.props.hosts ∧
      (call.toggleVideo now sessionID msg).props.hostLockedUserID = call.props.hostLockedUserID := by
  cases msg with
  | on => exact ⟨rfl, rfl⟩
  | off =>
    simp only [toggleVideo]
    split
    · exact ⟨rfl, rfl⟩
    · split <;> exact ⟨rfl, rfl⟩

/-- The host after a leave from a call that goes on: elected if the one who leaves was it. -/
theorem Call.afterLeave_elected (env : Env) (ref : SessionRef) (us : CallSession) {sessions : SessionMap} (call : Call)
    (filled : sessions.size ≠ 0) :
    (call.afterLeave env ref us sessions).getHostID =
      if (call.withoutMedia env us).losesHost env ref.userID sessions = true then
        Calls.getHostID env.order env.botID (call.withoutMedia env us) sessions else call.getHostID := by
  obtain ⟨hosts, -⟩ := withoutMedia_host env us call
  unfold afterLeave finishIfEmpty
  rw [if_neg filled]
  unfold electOnLeave
  dsimp only
  split
  · simp only [withHosts, getHostID]
    split
    · next none => exact none.symm
    · rfl
  · rw [getHostID, hosts, getHostID]

/-- It is elected anew, or kept by another user. -/
theorem Call.afterLeave_host (env : Env) (ref : SessionRef) (us : CallSession) {sessions : SessionMap} (call : Call)
    (filled : sessions.size ≠ 0) :
    (call.afterLeave env ref us sessions).getHostID = Calls.getHostID env.order env.botID call sessions ∨
      (call.afterLeave env ref us sessions).getHostID = call.getHostID ∧ call.getHostID ≠ ref.userID := by
  obtain ⟨hosts, locked⟩ := withoutMedia_host env us call
  have elects := getHostID_congr hosts locked env.order env.botID sessions
  have current : (call.withoutMedia env us).getHostID = call.getHostID := by rw [getHostID, hosts, getHostID]
  rw [afterLeave_elected env ref us call filled, elects]
  split
  · exact .inl rfl
  · next stays =>
    simp only [losesHost, elects, current, decide_eq_true_eq, not_and, not_not] at stays
    by_cases leaving : call.getHostID = ref.userID
    · exact .inl (leaving.trans (stays leaving (Nat.pos_of_ne_zero filled)).symm)
    · exact .inr ⟨rfl, leaving⟩

/-- The host is as it should be among other sessions of the same users. -/
theorem HostOf.congr {botID : String} {call other : Call} {sessions others : SessionMap}
    (hostOf : HostOf botID call sessions) (host : other.getHostID = call.getHostID)
    (locked : other.props.hostLockedUserID = call.props.hostLockedUserID)
    (users : ∀ named : String → Prop, (∃ session ∈ others, named session.userID) ↔ ∃ session ∈ sessions, named session.userID) :
    HostOf botID other others := by
  refine ⟨by rw [host]; exact hostOf.notBot, fun user => ?_, fun allBots => ?_, fun named present => ?_⟩
  · rw [host]
    exact (users (· = call.getHostID)).mpr (hostOf.present ((users (· ≠ botID)).mp user))
  · rw [host]
    refine hostOf.none fun session member => ?_
    by_contra user
    obtain ⟨remaining, left, notBot⟩ := (users (· ≠ botID)).mpr ⟨session, member, user⟩
    exact notBot (allBots remaining left)
  · rw [locked] at named present ⊢
    rw [host]
    exact hostOf.locked named ((users (· = call.props.hostLockedUserID)).mp present)

/-- The host stays as it should be when sessions of other users are gone. -/
theorem HostOf.of_fewer {botID : String} {call fewer : Call} {sessions remaining : SessionMap}
    (hostOf : HostOf botID call sessions) (host : fewer.getHostID = call.getHostID)
    (locked : fewer.props.hostLockedUserID = call.props.hostLockedUserID)
    (remains : ∀ session ∈ remaining, session ∈ sessions)
    (hostRemains : ∀ session ∈ sessions, session.userID = call.getHostID → session ∈ remaining) :
    HostOf botID fewer remaining := by
  have present (user : ∃ session ∈ sessions, session.userID ≠ botID) :
      ∃ session ∈ remaining, session.userID = call.getHostID := by
    obtain ⟨session, member, isHost⟩ := hostOf.present user
    exact ⟨session, hostRemains session member isHost, isHost⟩
  refine ⟨by rw [host]; exact hostOf.notBot, fun ⟨session, member, user⟩ => ?_, fun allBots => ?_, fun named there => ?_⟩
  · rw [host]
    exact present ⟨session, remains session member, user⟩
  · rw [host]
    refine hostOf.none fun session member => ?_
    by_contra user
    obtain ⟨hostSession, left, isHost⟩ := present ⟨session, member, user⟩
    exact hostOf.notBot (isHost.symm.trans (allBots hostSession left))
  · rw [locked] at named there
    obtain ⟨session, member, isLocked⟩ := there
    rw [host, locked]
    exact hostOf.locked named ⟨session, remains session member, isLocked⟩

/-! ### Runs -/

/-- The host of a call that goes on is as it should be. -/
structure HostKept (ids : Identities) (view : CallView) : Prop where
  owned : ∀ session ∈ view.sessions, session.userID = ids.owner session.id ∧ session.userID ≠ ""
  started : 0 ≤ view.call.endAt
  unlocked : view.call.props.hostLockedUserID ≠ "" → view.call.props.hostLockedUserID ≠ ids.botID
  ended : view.call.endAt ≠ 0 → view.sessions.size = 0
  host : view.call.endAt = 0 → view.sessions.size ≠ 0 ∧ HostOf ids.botID view.call view.sessions

namespace HostKept

variable {ids : Identities} {env : Env} {cs : CallState} {req : JoinRequest}

theorem active (kept : HostKept ids cs.view) {session : CallSession} (member : session ∈ cs.sessions) :
    cs.call.endAt = 0 := by
  by_contra ended
  exact absurd (kept.ended ended) (KeyedTable.size_ne_zero_of_mem member)

/-- A session joins, and a host is elected among all of them. -/
theorem join (absent : cs.sessions.contains req.connID = false) (owner : ids.owner req.connID = req.userID)
    (bot : env.botID = ids.botID)
    (owned : ∀ session ∈ cs.sessions, session.userID = ids.owner session.id ∧ session.userID ≠ "")
    (started : cs.call.endAt = 0)
    (unlocked : cs.call.props.hostLockedUserID ≠ "" → cs.call.props.hostLockedUserID ≠ ids.botID)
    (current : cs.call.getHostID ≠ "" → cs.call.getHostID ≠ ids.botID) : HostKept ids (joinedState env cs req).view := by
  obtain ⟨host, locked⟩ := joinedState_host env cs req
  rw [bot] at host
  have endAt : (joinedState env cs req).call.endAt = 0 := (joinedState_same env cs req).endAt.trans started
  have allOwned : ∀ session ∈ (joinedState env cs req).sessions,
      session.userID = ids.owner session.id ∧ session.userID ≠ "" := by
    intro session member
    rcases (joinedState_sessions absent session).mp member with old | rfl
    · exact owned session old
    · exact ⟨owner.symm, req.userID_ne⟩
  have joins : newCallSession env cs.call req ∈ (joinedState env cs req).sessions :=
    (joinedState_sessions absent _).mpr (.inr rfl)
  have elected : HostOf ids.botID (joinedState env cs req).call (joinedState env cs req).sessions := by
    refine .of_elected ⟨⟨_, joins⟩, fun session member => (allOwned session member).2, unlocked⟩ ?_ host locked
    intro session member isHost
    rw [isHost]
    exact current (isHost ▸ (allOwned session member).2)
  have stillUnlocked : (joinedState env cs req).call.props.hostLockedUserID ≠ "" →
      (joinedState env cs req).call.props.hostLockedUserID ≠ ids.botID := by
    rw [locked]
    exact unlocked
  exact {
    owned := allOwned
    started := Int.le_of_eq endAt.symm
    unlocked := stillUnlocked
    ended := fun ended => absurd endAt ended
    host := fun _ => ⟨KeyedTable.size_ne_zero_of_mem joins, elected.notBot, elected.present, elected.none, elected.locked⟩ }

theorem leave {ref : SessionRef} {us : CallSession} {sessions : SessionMap}
    (kept : HostKept ids cs.view) (owner : ids.owner ref.originalConnID = ref.userID) (bot : env.botID = ids.botID)
    (found : cs.sessions.find? ref.originalConnID = some us) (erased : sessions = cs.sessions.erase ref.originalConnID) :
    HostKept ids ⟨(cs.call.afterLeave env ref us sessions).apartFromPost, sessions⟩ := by
  have remains (session : CallSession) (member : session ∈ sessions) : session ∈ cs.sessions := by
    rw [erased, KeyedTable.mem_erase] at member
    exact member.1
  have owned := fun session member => kept.owned session (remains session member)
  have active := kept.active (KeyedTable.find?_eq_some_iff.mp found).1
  obtain ⟨-, hostOf⟩ := kept.host active
  obtain ⟨-, endAt⟩ := Call.afterLeave_kept env ref us sessions cs.call
  have locked := Call.afterLeave_locked env ref us sessions cs.call
  have unlocked : (cs.call.afterLeave env ref us sessions).props.hostLockedUserID ≠ "" →
      (cs.call.afterLeave env ref us sessions).props.hostLockedUserID ≠ ids.botID := by
    rw [locked]
    exact kept.unlocked
  by_cases empty : sessions.size = 0
  · rw [if_pos empty] at endAt
    have ended : (0 : Int) < (cs.call.afterLeave env ref us sessions).endAt := by
      rw [endAt]
      exact env.now.unixMilli_pos
    exact ⟨owned, Int.le_of_lt ended, unlocked, fun _ => empty, fun running => absurd running (Int.ne_of_gt ended)⟩
  · rw [if_neg empty, active] at endAt
    have elected : HostOf ids.botID (cs.call.afterLeave env ref us sessions) sessions := by
      rcases Call.afterLeave_host env ref us cs.call empty with host | ⟨host, stays⟩
      · rw [bot] at host
        refine .of_elected ⟨KeyedTable.exists_mem_of_size empty, fun session member => (owned session member).2, kept.unlocked⟩
          (fun session _ isHost => ?_) host locked
        rw [isHost]
        exact hostOf.notBot
      · refine HostOf.of_fewer ⟨hostOf.notBot, hostOf.present, hostOf.none, hostOf.locked⟩ host locked remains fun session member isHost => ?_
        rw [erased, KeyedTable.mem_erase]
        refine ⟨member, fun leaves => stays (isHost.symm.trans ?_)⟩
        rw [(kept.owned session member).1, leaves, owner]
    exact ⟨owned, Int.le_of_eq endAt.symm, unlocked, fun ended => absurd endAt ended,
      fun _ => ⟨empty, elected.notBot, elected.present, elected.none, elected.locked⟩⟩

theorem changeHost {requesterID newHostID : String} {call : Call} (kept : HostKept ids cs.view)
    (bot : env.botID = ids.botID) (active : cs.call.endAt = 0)
    (accepted : cs.call.changeHost env requesterID newHostID cs.sessions = .ok call) :
    HostKept ids ⟨call.apartFromPost, cs.sessions⟩ := by
  obtain ⟨filled, hostOf⟩ := kept.host active
  obtain ⟨-, endAt⟩ := Call.changeHost_identity accepted
  obtain ⟨user, chosen⟩ := Call.changeHost_ok accepted
  rw [bot] at user
  have started : (0 : Int) ≤ call.endAt := Int.le_of_eq (active.symm.trans endAt.symm)
  have running : ¬ call.endAt ≠ 0 := fun ended => ended (endAt.trans active)
  rcases chosen with ⟨isHost, rfl⟩ | ⟨present, rfl⟩
  · by_cases free : cs.call.props.hostLockedUserID = ""
    · rw [Call.lockHost, if_pos free] at started running ⊢
      exact ⟨kept.owned, started, fun _ => user, fun ended => absurd ended running,
        fun _ => ⟨filled, hostOf.notBot, hostOf.present, hostOf.none, fun _ _ => isHost⟩⟩
    · rw [Call.lockHost, if_neg free] at started running ⊢
      exact ⟨kept.owned, started, kept.unlocked, fun ended => absurd ended running,
        fun _ => ⟨filled, hostOf.notBot, hostOf.present, hostOf.none, hostOf.locked⟩⟩
  · obtain ⟨session, member, named⟩ := isUserIDInCall_iff.mp present
    refine ⟨kept.owned, started, fun _ => user, fun ended => absurd ended running, fun _ => ⟨filled, user, ?_, ?_, fun _ _ => rfl⟩⟩
    · exact fun _ => ⟨session, member, named⟩
    · exact fun allBots => absurd (named.symm.trans (allBots session member)) user

theorem video {now : Instant} {sessionID : String} {msg : VideoMessage} {sessions : SessionMap} (kept : HostKept ids cs.view)
    (active : cs.call.endAt = 0) {session : CallSession}
    (toggled : sessions = cs.sessions.modify sessionID (·.updatedFrom session) fun row => row.updatedFrom_id session) :
    HostKept ids ⟨(cs.call.toggleVideo now sessionID msg).apartFromPost, sessions⟩ := by
  obtain ⟨filled, hostOf⟩ := kept.host active
  obtain ⟨-, endAt⟩ := Call.toggleVideo_identity now sessionID cs.call msg
  obtain ⟨hosts, locked⟩ := Call.toggleVideo_host now sessionID cs.call msg
  have host : (cs.call.toggleVideo now sessionID msg).getHostID = cs.call.getHostID := by
    rw [Call.getHostID, hosts, Call.getHostID]
  have owned : ∀ row ∈ sessions, row.userID = ids.owner row.id ∧ row.userID ≠ "" := by
    rw [toggled]
    exact KeyedTable.forall_mem_modify (fun _ owned => owned) kept.owned
  have users (named : String → Prop) : (∃ row ∈ sessions, named row.userID) ↔ ∃ row ∈ cs.sessions, named row.userID := by
    rw [toggled]
    exact KeyedTable.exists_mem_modify fun _ => Iff.rfl
  have stillFilled : sessions.size ≠ 0 := by
    rw [toggled, KeyedTable.size_modify]
    exact filled
  have unlocked : (cs.call.toggleVideo now sessionID msg).props.hostLockedUserID ≠ "" →
      (cs.call.toggleVideo now sessionID msg).props.hostLockedUserID ≠ ids.botID := by
    rw [locked]
    exact kept.unlocked
  exact ⟨owned, Int.le_of_eq (active.symm.trans endAt.symm), unlocked, fun ended => absurd (endAt.trans active) ended,
    fun _ => ⟨stillFilled, hostOf.congr host locked users⟩⟩

/-- Whatever a step makes of a call, its host is as it should be. -/
theorem change {step : CallStep} {before : Option CallView} {after : CallView} (authentic : step.authentic ids = true)
    (change : CallChange step before (some after)) (inv : ∀ view, before = some view → HostKept ids view) :
    HostKept ids after := by
  simp only [CallStep.authentic, Bool.and_eq_true] at authentic
  obtain ⟨bot, authentic⟩ := authentic
  have isBot {env : Env} (given : step.env? = some env) : env.botID = ids.botID := by
    rw [given] at bot
    simpa using bot
  cases change with
  | kept => exact inv after rfl
  | @started env _ req base found _ =>
    obtain ⟨-, -, fresh⟩ := stateToJoin_none found
    have props := stateToJoin_props found
    refine .join ?_ (by simpa using authentic) (isBot rfl) ?_ fresh.unused.endAt ?_ ?_
    · rw [fresh.sessions]
      rfl
    · rw [fresh.sessions]
      exact fun session member => absurd member KeyedTable.not_mem_empty
    · rw [props]
      exact fun locked => absurd rfl locked
    · rw [Call.getHostID, props]
      exact fun host => absurd rfl host
  | @joined env _ req cs checked =>
    have kept := inv cs.view rfl
    have active : cs.call.endAt = 0 := by
      have started := kept.started
      have running := checkJoin_running checked
      exact Int.le_antisymm (Int.not_lt.mp running) started
    exact .join (checkJoin_absent checked) (by simpa using authentic) (isBot rfl) kept.owned active kept.unlocked
      fun _ => (kept.host active).2.notBot
  | @left env _ ref cs us call sessions found erased left =>
    subst left
    exact (inv cs.view rfl).leave (by simpa using authentic) (isBot rfl) found erased
  | @hostChanged env _ _ _ cs call active accepted =>
    exact (inv cs.view rfl).changeHost (isBot rfl) (Store.endAt_of_isActive active) accepted
  | @video env _ _ _ _ cs session sessions _ _ active found toggled =>
    exact (inv cs.view rfl).video (Store.endAt_of_isActive active) toggled

end HostKept

/-- In every ongoing call the host is as it should be. -/
def HostsKept (botID : String) (ops : Operations) : Prop :=
  ∀ call ∈ ops.world.store.calls, Store.isActive call = true → HostOf botID call (ops.world.store.callSessions call.id)

theorem hostsKept (ids : Identities) (ops : Operations)
    (reached : ((callRuns ids).restrict StoreServes).Reachable ops) : HostsKept ids.botID ops := by
  intro call member active
  have views := (viewsHold_of_reachable HostKept.change reached).views call.id
  rw [Store.callView?, KeyedTable.find?_self member] at views
  have kept := views _ rfl
  obtain ⟨-, hostOf⟩ := kept.host (Store.endAt_of_isActive active)
  exact ⟨hostOf.notBot, hostOf.present, hostOf.none, hostOf.locked⟩

def twoUsers : Identities :=
  { owner := fun connID => if connID = "conn-1" then "alice" else "bob", botID := "bot" }

def twoUsersJoin : List CallStep :=
  [.operation (.lock (.quiet 1000 "") "channel" .joining),
    .operation (.join (.quiet 1001 "call") "channel" (.plain "alice" "conn-1" "")),
    .operation (.join (.quiet 1002 "") "channel" (.plain "bob" "conn-2" "")),
    .operation (.unlock "channel")]

def bobBecomesHost : CallStep := .changeHost (.quiet 2000 "") "alice" "channel" "bob"

def bobLeaves : List CallStep :=
  [.operation (.lock (.quiet 3000 "") "channel" .leaving),
    .operation (.leave (.quiet 3001 "") "channel" { userID := "bob", originalConnID := "conn-2", connID := "conn-2" }),
    .operation (.unlock "channel")]

theorem twoUsersJoin_quiet : ∀ step ∈ twoUsersJoin, ∀ env, step.env? = some env → ∃ now newID, env = .quiet now newID := by
  intro step listed env timed
  simp only [twoUsersJoin, List.mem_cons, List.not_mem_nil, or_false] at listed
  obtain rfl | rfl | rfl | rfl := listed <;> cases timed <;> exact ⟨_, _, rfl⟩

theorem bobLeaves_quiet : ∀ step ∈ bobBecomesHost :: bobLeaves, ∀ env, step.env? = some env → ∃ now newID, env = .quiet now newID := by
  intro step listed env timed
  simp only [bobBecomesHost, bobLeaves, List.mem_cons, List.not_mem_nil, or_false] at listed
  obtain rfl | rfl | rfl | rfl := listed <;> cases timed <;> exact ⟨_, _, rfl⟩

theorem hostsKept_of_bobLeaves :
    ∃ ops, (callRuns twoUsers).run? .idle (twoUsersJoin ++ bobBecomesHost :: bobLeaves) = some ops ∧
      ops.world.store.calls.rows.map (fun call => (call.endAt, call.props.hostLockedUserID, call.getHostID)) = [(0, "bob", "alice")] ∧
      HostsKept "bot" ops := by
  have computed : ((callRuns twoUsers).run? .idle (twoUsersJoin ++ bobBecomesHost :: bobLeaves)).map (fun ops =>
      ops.world.store.calls.rows.map fun call => (call.endAt, call.props.hostLockedUserID, call.getHostID)) =
      some [(0, "bob", "alice")] := by decide
  obtain ⟨ops, ran, calls⟩ := Option.map_eq_some_iff.mp computed
  have serves : (callRuns twoUsers).MeetsAlong StoreServes .idle (twoUsersJoin ++ bobBecomesHost :: bobLeaves) := by
    refine .of_check (show (callRuns twoUsers).checkAlong joinsFree _ _ = true by decide) fun ops step listed => ?_
    refine joinsFree_sound ?_
    rcases List.mem_append.mp listed with joins | leaves
    · exact twoUsersJoin_quiet step joins
    · exact bobLeaves_quiet step leaves
  have start : ((callRuns twoUsers).restrict StoreServes).Reachable .idle := .init rfl
  exact ⟨ops, ran, calls, hostsKept twoUsers ops (start.restrict_run serves ran)⟩

end Calls
