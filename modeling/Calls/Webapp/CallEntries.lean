import Calls.Server.RoomRuns
import Calls.Webapp.Receiving

/-! The entry that a member of a channel keeps of its call. The client learns of the
start of a call by an event and concludes its end from the leaves that it sees; the
server counts the session of the bot as well. -/

set_option autoImplicit false

namespace Calls

/-- A user's session is in the ongoing call of the channel. -/
def Store.UserPresent (botID : String) (store : Store) (channelID sessionID : String) : Prop :=
  ∃ callID view, store.OngoingIn channelID callID view ∧ ∃ userID ≠ botID, (sessionID, userID) ∈ view.sessions.people

namespace Store.UserPresent

variable {botID channelID callID sessionID : String} {before after : Store} {view old : CallView}

/-- Who is in the one call of a channel. -/
theorem iff_of_ongoing (ongoing : before.OngoingIn channelID callID old)
    (only : ∀ other otherView, before.OngoingIn channelID other otherView → other = callID) :
    UserPresent botID before channelID sessionID ↔ ∃ userID ≠ botID, (sessionID, userID) ∈ old.sessions.people := by
  constructor
  · intro facts
    obtain ⟨other, otherView, here, present⟩ := facts
    obtain rfl := only other otherView here
    have same := here.1.symm.trans ongoing.1
    cases same
    exact present
  · exact fun present => ⟨callID, old, ongoing, present⟩

/-- The call of one channel changes. -/
theorem changed (changes : before.ChangesCall callID after view) (channel : view.call.channelID = channelID)
    (only : ∀ other otherView, before.OngoingIn channelID other otherView → other = callID) :
    UserPresent botID after channelID sessionID ↔
      Store.isActive view.call = true ∧ ∃ userID ≠ botID, (sessionID, userID) ∈ view.sessions.people := by
  constructor
  · intro facts
    obtain ⟨other, otherView, here, present⟩ := facts
    obtain ⟨-, rfl⟩ := changes.ongoingIn_here only here
    exact ⟨here.2.2, present⟩
  · intro facts
    obtain ⟨active, present⟩ := facts
    exact ⟨callID, view, ⟨changes.here, channel, active⟩, present⟩

theorem elsewhere {other : String} (changes : before.ChangesCall callID after view) (channel : view.call.channelID = channelID)
    (was : ∀ old, before.callView? callID = some old → old.call.channelID = channelID) (different : other ≠ channelID) :
    UserPresent botID after other sessionID ↔ UserPresent botID before other sessionID := by
  simp only [UserPresent, changes.ongoingIn_elsewhere channel was different]

section
variable {env : Env} {ref : SessionRef} {held next : CallState}

/-- Whoever else is in the call stays when a session leaves. -/
theorem left (ongoing : before.OngoingIn channelID held.call.id held.view)
    (only : ∀ other otherView, before.OngoingIn channelID other otherView → other = held.call.id) {us : CallSession}
    (sessions : next.sessions = held.sessions.erase ref.originalConnID)
    (call : next.call = held.call.afterLeave env ref us next.sessions)
    (changes : before.ChangesCall held.call.id after next.view) :
    UserPresent botID after channelID sessionID ↔ sessionID ≠ ref.originalConnID ∧ UserPresent botID before channelID sessionID := by
  obtain ⟨identity, endAt⟩ := Call.afterLeave_kept env ref us next.sessions held.call
  rw [← call] at identity endAt
  have channel : next.view.call.channelID = channelID := ongoing.channel_afterLeave call
  have people (userID : String) : (sessionID, userID) ∈ next.view.sessions.people ↔
      sessionID ≠ ref.originalConnID ∧ (sessionID, userID) ∈ held.view.sessions.people := by
    have same : next.view.sessions = held.view.sessions.erase ref.originalConnID := sessions
    rw [same, SessionMap.mem_people_erase]
  rw [changed changes channel only, iff_of_ongoing ongoing only]
  simp only [people]
  constructor
  · intro facts
    obtain ⟨-, userID, isUser, different, member⟩ := facts
    exact ⟨different, userID, isUser, member⟩
  · intro facts
    obtain ⟨different, userID, isUser, member⟩ := facts
    refine ⟨?_, userID, isUser, different, member⟩
    obtain ⟨session, remains, -⟩ := SessionMap.mem_people.mp ((people userID).mpr ⟨different, member⟩)
    have others : next.sessions.size ≠ 0 := KeyedTable.size_ne_zero_of_mem remains
    rw [if_neg others] at endAt
    exact (Store.isActive_congr identity endAt).trans ongoing.2.2

/-- The users that a leave counts are those who are present otherwise. -/
theorem others_iff (ongoing : before.OngoingIn channelID held.call.id held.view)
    (only : ∀ other otherView, before.OngoingIn channelID other otherView → other = held.call.id) :
    (∃ session ∈ held.sessions.erase sessionID, session.userID ≠ botID) ↔
      ∃ id, id ≠ sessionID ∧ UserPresent botID before channelID id := by
  simp only [iff_of_ongoing ongoing only]
  constructor
  · intro facts
    obtain ⟨session, remains, isUser⟩ := facts
    obtain ⟨member, different⟩ := KeyedTable.mem_erase.mp remains
    exact ⟨session.id, different, session.userID, isUser, SessionMap.mem_people.mpr ⟨session, member, rfl, rfl⟩⟩
  · intro facts
    obtain ⟨id, different, userID, isUser, member⟩ := facts
    obtain ⟨session, inCall, rfl, rfl⟩ := SessionMap.mem_people.mp member
    exact ⟨session, KeyedTable.mem_erase.mpr ⟨inCall, different⟩, isUser⟩

end

section
variable {ids : Identities} {ops : Operations} {world : World} {env : Env} {req : JoinRequest} {state : Option CallState}
  {base joined : CallState}

/-- Before a join, the users of the call that it is of are those of the state that it is made of. -/
theorem iff_of_base (room : RoomInvariant ids ops) (running : ops.batch? channelID .joining = some state)
    (enters : EntersCall env channelID state req ops.world.store world.store base joined) :
    UserPresent botID ops.world.store channelID sessionID ↔ ∃ userID ≠ botID, (sessionID, userID) ∈ base.sessions.people := by
  have found := Operations.batch?_eq_some running
  cases state with
  | none =>
    rw [(stateToJoin_none enters.found).2.2.sessions]
    refine iff_of_false (fun ⟨callID, view, ongoing, _⟩ => room.absent channelID _ found callID view ongoing) ?_
    intro facts
    obtain ⟨_, -, member⟩ := facts
    cases member
  | some cs =>
    have reused : cs = base := Except.ok.inj enters.found
    subst reused
    have held := room.mirrored.held channelID _ cs found rfl
    exact iff_of_ongoing ⟨held.view, held.channel, room.ongoing channelID _ cs found rfl (.inl rfl)⟩ (room.onlyBase running enters)

theorem entered (room : RoomInvariant ids ops) (running : ops.batch? channelID .joining = some state)
    (enters : EntersCall env channelID state req ops.world.store world.store base joined) :
    UserPresent botID world.store channelID sessionID ↔
      sessionID = req.connID ∧ req.userID ≠ botID ∨ UserPresent botID ops.world.store channelID sessionID := by
  have found := Operations.batch?_eq_some running
  have mirrored := enters.item.next joined rfl
  have active := enters.ongoing fun cs held => room.ongoing channelID _ cs found held (.inl rfl)
  have now : UserPresent botID world.store channelID sessionID ↔ ∃ userID ≠ botID, (sessionID, userID) ∈ joined.sessions.people :=
    (changed enters.changes mirrored.channel (room.onlyBase running enters)).trans (and_iff_right active)
  rw [now, iff_of_base room running enters]
  simp only [enters.mem_people]
  constructor
  · intro facts
    obtain ⟨userID, isUser, ⟨same, rfl⟩ | old⟩ := facts
    · exact .inl ⟨same, isUser⟩
    · exact .inr ⟨userID, isUser, old⟩
  · intro either
    rcases either with ⟨rfl, isUser⟩ | ⟨userID, isUser, old⟩
    · exact ⟨req.userID, isUser, .inl ⟨rfl, rfl⟩⟩
    · exact ⟨userID, isUser, .inr old⟩

end

end Store.UserPresent

namespace Webapp

/-! ### The client -/

/-- The client has an entry of the session in the channel. -/
def PluginState.Knows (state : PluginState) (channelID sessionID : String) : Prop :=
  ((state.sessions.get? channelID).getD .empty).contains sessionID = true

namespace PluginState

variable {client : Client} {state : PluginState} {channelID userID sessionID other : String}

theorem knows_set {entries : StringMap UserSessionState} {after : PluginState}
    (wrote : after.sessions = state.sessions.set channelID entries) : after.Knows channelID other ↔ entries.contains other = true := by
  rw [Knows, wrote, StringMap.get?_set, if_pos rfl, Option.getD_some]

theorem contains_set {entries : StringMap UserSessionState} {entry : UserSessionState} :
    (entries.set sessionID entry).contains other = true ↔ other = sessionID ∨ entries.contains other = true := by
  rw [StringMap.contains_eq_isSome, StringMap.get?_set, StringMap.contains_eq_isSome]
  split
  · next same => simp [same]
  · next different => simp [different]

theorem contains_erase {entries : StringMap UserSessionState} :
    KeyedTable.contains (entries.erase sessionID) other = true ↔ other ≠ sessionID ∧ entries.contains other = true := by
  rw [StringMap.contains_eq_isSome, StringMap.get?_erase, StringMap.contains_eq_isSome]
  split
  · next same => simp [same]
  · next different => simp [different]

theorem callStart_calls {id threadID postID ownerID hostID : String} {startAt : Int} :
    (handleEvent client channelID (.callStart id channelID startAt threadID postID ownerID hostID) state).calls.contains
      channelID = true := by
  simp only [handleEvent, channelOf, ite_self, dispatch, Webapp.calls, StringMap.contains_eq_isSome, StringMap.get?_set, if_true,
    Option.isSome_some]

/-- A session joins: the client knows it from then on. -/
theorem knows_userJoined : (handleEvent client channelID (.userJoined userID sessionID) state).Knows channelID other ↔
    other = sessionID ∨ state.Knows channelID other :=
  (knows_set rfl).trans contains_set

/-- The end of a video makes an entry where there is none. -/
theorem knows_userVideoOff : (handleEvent client channelID (.userVideoOff userID sessionID) state).Knows channelID other ↔
    other = sessionID ∨ state.Knows channelID other := by
  cases found : state.sessions.get? channelID with
  | none =>
    have wrote : (handleEvent client channelID (.userVideoOff userID sessionID) state).sessions =
        state.sessions.set channelID (StringMap.set .empty sessionID { newSession sessionID userID with unmuted := some true }) := by
      simp only [handleEvent, channelOf, dispatch, Webapp.sessions, patchSession, found]
    rw [knows_set wrote, contains_set, Knows, found]
    rfl
  | some entries =>
    have wrote : (handleEvent client channelID (.userVideoOff userID sessionID) state).sessions = state.sessions.set channelID
        (entries.set sessionID { ((entries.get? sessionID).getD {}) with video := some false }) := by
      simp only [handleEvent, channelOf, dispatch, Webapp.sessions, patchSession, found]
    rw [knows_set wrote, contains_set, Knows, found, Option.getD_some]

theorem knows_dispatch_userLeft : (state.dispatch (.userLeft channelID userID sessionID)).Knows channelID other ↔
    other ≠ sessionID ∧ state.Knows channelID other := by
  cases found : state.sessions.get? channelID with
  | none =>
    have same : (state.dispatch (.userLeft channelID userID sessionID)).sessions = state.sessions := by
      simp only [dispatch, Webapp.sessions, found]
    rw [Knows, Knows, same, found]
    exact iff_of_false (fun absurd => by cases absurd) fun absurd => by cases absurd.2
  | some entries =>
    have wrote : (state.dispatch (.userLeft channelID userID sessionID)).sessions =
        state.sessions.set channelID (entries.erase sessionID) := by
      simp only [dispatch, Webapp.sessions, found]
    rw [knows_set wrote, contains_erase, Knows, found, Option.getD_some]

theorem numSessions_eq_zero_iff : state.numSessionsInCallInChannel channelID = 0 ↔ ∀ id, ¬ state.Knows channelID id := by
  constructor
  · intro none id known
    obtain ⟨row, member, -⟩ := KeyedTable.contains_iff.mp known
    exact KeyedTable.size_ne_zero_of_mem member none
  · intro unknown
    refine Decidable.not_not.mp fun some => ?_
    obtain ⟨row, member⟩ := KeyedTable.exists_mem_of_size some
    exact unknown row.1 (KeyedTable.contains_iff.mpr ⟨row, member, rfl⟩)

/-- The leave of a session that is not the only one known is nothing but the end of its entry. -/
theorem userLeft_eq_dispatch (userID : String) (others : ∃ id, id ≠ sessionID ∧ state.Knows channelID id) :
    state.userLeft channelID userID sessionID = state.dispatch (.userLeft channelID userID sessionID) := by
  have some : (state.dispatch (.userLeft channelID userID sessionID)).numSessionsInCallInChannel channelID ≠ 0 := by
    obtain ⟨id, different, known⟩ := others
    exact fun none => numSessions_eq_zero_iff.mp none id (knows_dispatch_userLeft.mpr ⟨different, known⟩)
  rw [PluginState.userLeft, if_neg some]

theorem userLeft_others (userID : String) (others : ∃ id, id ≠ sessionID ∧ state.Knows channelID id) :
    (state.userLeft channelID userID sessionID).calls = state.calls ∧
      ∀ id, (state.userLeft channelID userID sessionID).Knows channelID id ↔ id ≠ sessionID ∧ state.Knows channelID id := by
  rw [userLeft_eq_dispatch userID others]
  exact ⟨rfl, fun id => knows_dispatch_userLeft⟩

/-- The client takes the leave of the last session that it knows of for the end of the call. -/
theorem userLeft_last (userID : String) (none : ∀ id, id ≠ sessionID → ¬ state.Knows channelID id) :
    (state.userLeft channelID userID sessionID).calls.contains channelID = false ∧
      ∀ id, ¬ (state.userLeft channelID userID sessionID).Knows channelID id := by
  have empty : (state.dispatch (.userLeft channelID userID sessionID)).numSessionsInCallInChannel channelID = 0 := by
    refine numSessions_eq_zero_iff.mpr fun id known => ?_
    obtain ⟨different, known⟩ := knows_dispatch_userLeft.mp known
    exact none id different known
  rw [PluginState.userLeft, if_pos empty]
  refine ⟨?_, fun id known => ?_⟩
  · simp only [callEnd, dispatch, Webapp.calls, StringMap.contains_eq_isSome, StringMap.get?_erase, if_true, Option.isSome_none]
  · rw [Knows] at known
    simp only [callEnd, dispatch, Webapp.sessions, StringMap.get?_erase, if_true, Option.getD_none] at known
    cases known

end PluginState

/-! ### What the client hears of joins and leaves -/

/-- The screen and the video of a session that nobody is left to be told of go to the channel. -/
def endMedia (client : Client) (channelID : String) (ref : SessionRef) (us : CallSession) (held : Calls.CallState) (state : PluginState) : PluginState :=
  let screen := if held.call.props.screenSharingSessionID = ref.originalConnID then
    handleEvent client channelID (.userScreenOff none none) state else state
  if us.video = true then handleEvent client channelID (.userVideoOff ref.userID us.id) screen else screen

section
variable {client : Client} {channelID : String} {ref : SessionRef} {us : CallSession} {held : Calls.CallState} {state : PluginState}

theorem endMedia_calls : (endMedia client channelID ref us held state).calls = state.calls := by
  unfold endMedia
  dsimp only
  split <;> split <;> rfl

theorem endMedia_knows {id : String} : (endMedia client channelID ref us held state).Knows channelID id ↔
    us.video = true ∧ id = us.id ∨ state.Knows channelID id := by
  have screen : (if held.call.props.screenSharingSessionID = ref.originalConnID then
      handleEvent client channelID (.userScreenOff none none) state else state).Knows channelID id ↔ state.Knows channelID id := by
    split <;> rfl
  unfold endMedia
  dsimp only
  split
  · next on => rw [PluginState.knows_userVideoOff, screen, and_iff_right on]
  · next off => rw [screen, or_iff_right fun on => off on.1]

end

section
variable (client : Client) {botID member : String} (user : member ≠ botID) (channelID : String) {env : Env} (bot : env.botID = botID)
include user bot

theorem receive_joinNews {req : JoinRequest} {state : Option Calls.CallState} {joined : Calls.CallState}
    (filled : joined.sessions.size ≠ 0) (named : ∀ session ∈ joined.sessions, session.userID ≠ "") (target : String)
    (before : PluginState) :
    receive client ((joinNews env target req state joined).filter (·.toChannel channelID member)) before =
      if target ≠ channelID then before
      else
        let started := if joined.sessions.size = 1 then
          handleEvent client channelID (.callStart joined.call.id target joined.call.startAt joined.call.threadID
            joined.call.postID joined.call.ownerID joined.call.getHostID) before else before
        if env.rtcJoinFails = false ∧ req.userID ≠ botID then
          handleEvent client channelID (.userJoined req.userID req.connID) started else started := by
  subst bot
  simp only [joinNews, hostNews, sessionNews, List.filter_append, receive_append, receive_ite,
    receive_participants client channelID _ target filled named, ite_self,
    receive_toAll client user, receive_toOne client channelID _ _ req.userID_ne, WsEvent.joinedOrLeft?]
  by_cases here : target = channelID <;> by_cases about : req.userID = env.botID <;> simp [here, about]

theorem receive_leaveNews {ref : SessionRef} {us : CallSession} {held : Calls.CallState}
    (named : ∀ session ∈ held.sessions, session.userID ≠ "") (target : String) (before : PluginState) :
    receive client ((leaveNews env target ref us held).filter (·.toChannel channelID member)) before =
      if target ≠ channelID then before
      else
        let ended := if (held.sessions.erase ref.originalConnID).size = 0 then endMedia client channelID ref us held before else before
        if ref.userID = botID then ended else ended.userLeft channelID ref.userID ref.originalConnID := by
  subst bot
  have remain : ∀ session ∈ (held.withoutSession ref.originalConnID).sessions, session.userID ≠ "" :=
    fun session listed => named session (KeyedTable.mem_erase.mp listed).1
  by_cases empty : (held.withoutSession ref.originalConnID).sessions.size = 0
  · have same : (held.sessions.erase ref.originalConnID).size = 0 := empty
    simp only [leaveNews, List.filter_append, receive_append, receive_ite, receive_noParticipants client user channelID _ target empty,
      receive_toAll client user, WsEvent.joinedOrLeft?, Call.losesHost, empty, Nat.lt_irrefl]
    by_cases here : target = channelID <;> by_cases about : ref.userID = env.botID <;>
      simp [here, about, same, endMedia, handleEvent, channelOf]
  · have same : ¬ (held.sessions.erase ref.originalConnID).size = 0 := empty
    simp only [leaveNews, List.filter_append, receive_append, receive_ite, receive_participants client channelID _ target empty remain,
      receive_toAll client user, WsEvent.joinedOrLeft?, ite_self]
    by_cases here : target = channelID <;> by_cases about : ref.userID = env.botID <;>
      simp [here, about, same, handleEvent, channelOf]

end

/-! ### Members -/

/-- What a member's client has made of all that was published to its channel. -/
def memberState (client : Client) (channelID member : String) (published : List Delivery) : PluginState :=
  receive client (published.filter (·.toChannel channelID member)) .initial

/-- The server has an ongoing call in the channel with the session of a user. -/
def UsersPresent (ids : Identities) (channelID : String) (ops : Operations) : Prop :=
  ∃ sessionID, Store.UserPresent ids.botID ops.world.store channelID sessionID

def EntryAgrees (ids : Identities) (client : Client) (channelID member : String) (ops : Operations) : Prop :=
  (memberState client channelID member ops.world.published).calls.contains channelID = true ↔ UsersPresent ids channelID ops

/-- What the count of the server and the one of the client rely on: a user who joins an ongoing
call finds a user there; when a user leaves others, the client knows of a session that stays;
and the bot does not leave as the last one with its video on. -/
def Followed (ids : Identities) (client : Client) (channelID member : String) (ops : Operations) : RoomStep → Prop
  | .traffic (.call (.operation (.join env target req))) => target = channelID → req.userID ≠ ids.botID →
    ∀ cs, ops.batch? target .joining = some (some cs) → checkJoin env cs req = .ok () →
      ∃ session ∈ cs.sessions, session.userID ≠ ids.botID
  | .traffic (.call (.operation (.leave _ target ref))) => target = channelID →
    ∀ held us, ops.batch? target .leaving = some (some held) → held.sessions.find? ref.originalConnID = some us →
      if ref.userID = ids.botID then us.video = true → (held.sessions.erase ref.originalConnID).size ≠ 0
      else (∃ session ∈ held.sessions.erase ref.originalConnID, session.userID ≠ ids.botID) →
        ∃ id, id ≠ ref.originalConnID ∧ (memberState client channelID member ops.world.published).Knows channelID id
  | _ => True

structure MemberInvariant (ids : Identities) (client : Client) (channelID member : String) (ops : Operations) : Prop where
  room : RoomInvariant ids ops
  entry : EntryAgrees ids client channelID member ops
  known : ∀ id, (memberState client channelID member ops.world.published).Knows channelID id →
    Store.UserPresent ids.botID ops.world.store channelID id

section
variable {ids : Identities} {client : Client} {channelID member : String} {ops after : Operations}

/-- Nothing changes for the channel. -/
theorem MemberInvariant.keep (inv : MemberInvariant ids client channelID member ops) (room : RoomInvariant ids after)
    (calls : (memberState client channelID member after.world.published).calls.contains channelID =
      (memberState client channelID member ops.world.published).calls.contains channelID)
    (knows : ∀ id, (memberState client channelID member after.world.published).Knows channelID id →
      (memberState client channelID member ops.world.published).Knows channelID id)
    (present : ∀ id, Store.UserPresent ids.botID after.world.store channelID id ↔
      Store.UserPresent ids.botID ops.world.store channelID id) : MemberInvariant ids client channelID member after := by
  refine ⟨room, ?_, fun id known => (present id).mpr (inv.known id (knows id known))⟩
  rw [EntryAgrees, calls, UsersPresent]
  simp only [present]
  exact inv.entry

theorem memberState_step {before after : World} {news : List Delivery} (told : Tells before news after) :
    memberState client channelID member after.published =
      receive client (news.filter (·.toChannel channelID member)) (memberState client channelID member before.published) :=
  receive_published client told _ _

/-- What a message tells is for the participants, or is about the screen or the host. -/
theorem receive_participantNews (client : Client) (channelID : String) {botID : String} (user : member ≠ botID) {step : TrafficStep} (target : String)
    {cs : Calls.CallState} {view : CallView} {ev : Option WsEvent} (change : MessageChange step cs view ev)
    (named : ∀ session ∈ cs.sessions, session.userID ≠ "") (before : PluginState) :
    (receive client ((participantNews botID target cs ev).filter (·.toChannel channelID member)) before).calls = before.calls ∧
      (receive client ((participantNews botID target cs ev).filter (·.toChannel channelID member)) before).sessions =
        before.sessions := by
  cases ev with
  | none => exact ⟨rfl, rfl⟩
  | some ev =>
    dsimp only [participantNews]
    by_cases filled : cs.sessions.size = 0
    · have empty {sessionID : String} {session : CallSession} (present : cs.sessions.find? sessionID = some session) : False :=
        KeyedTable.size_ne_zero_of_mem (KeyedTable.find?_eq_some_iff.mp present).1 filled
      rw [receive_noParticipants client user channelID ev target filled]
      split
      · exact ⟨rfl, rfl⟩
      · cases change with
        | mute found => exact (empty found).elim
        | hand found => exact (empty found).elim
        | video found => exact (empty found).elim
        | @screen _ _ msg => cases msg <;> exact ⟨rfl, rfl⟩
        | host => exact ⟨rfl, rfl⟩
    · rw [receive_participants client channelID ev target filled named]
      exact ⟨rfl, rfl⟩

variable (user : member ≠ ids.botID)
include user

theorem MemberInvariant.entered (inv : MemberInvariant ids client channelID member ops) {env : Env} {target : String}
    {req : JoinRequest} {state : Option Calls.CallState} {base joined : Calls.CallState} (room : RoomInvariant ids after)
    (bot : env.botID = ids.botID) (running : ops.batch? target .joining = some state)
    (enters : EntersCall env target state req ops.world.store after.world.store base joined)
    (told : Tells ops.world (joinNews env target req state joined) after.world)
    (followed : Followed ids client channelID member ops (.traffic (.call (.operation (.join env target req))))) :
    MemberInvariant ids client channelID member after := by
  have found := Operations.batch?_eq_some running
  have mirrored := enters.item.next joined rfl
  have entered : (req.connID, req.userID) ∈ joined.sessions.people := enters.mem_people.mpr (.inl ⟨rfl, rfl⟩)
  have filled : joined.sessions.size ≠ 0 := by
    obtain ⟨session, listed, -⟩ := SessionMap.mem_people.mp entered
    exact KeyedTable.size_ne_zero_of_mem listed
  have received : memberState client channelID member after.world.published = _ := memberState_step told
  rw [receive_joinNews client user channelID bot filled (mirrored.named enters.item.sessions) target] at received
  by_cases here : target = channelID
  · subst here
    rw [if_neg (not_not.mpr rfl)] at received
    have present (id : String) : Store.UserPresent ids.botID after.world.store target id ↔
        id = req.connID ∧ req.userID ≠ ids.botID ∨ Store.UserPresent ids.botID ops.world.store target id :=
      Store.UserPresent.entered inv.room running enters
    by_cases about : req.userID = ids.botID
    · have later : joined.sessions.size ≠ 1 := by
        cases state with
        | none => exact absurd (about.trans bot.symm) (enters.first rfl).1
        | some cs => exact enters.later cs rfl
      rw [if_neg later, if_neg fun entered => entered.2 about] at received
      refine inv.keep room (by rw [received]) (fun id known => by rwa [received] at known) fun id => ?_
      rw [present, or_iff_right fun entered => entered.2 about]
    · obtain ⟨started, startedCalls, startedKnows, received⟩ : ∃ started : PluginState,
          (started.calls.contains target = true ↔ joined.sessions.size = 1 ∨
            (memberState client target member ops.world.published).calls.contains target = true) ∧
          (∀ id, started.Knows target id ↔ (memberState client target member ops.world.published).Knows target id) ∧
          memberState client target member after.world.published =
            if env.rtcJoinFails = false ∧ req.userID ≠ ids.botID then
              handleEvent client target (.userJoined req.userID req.connID) started else started := by
        refine ⟨_, ?_, fun id => ?_, received⟩
        · split
          · next first => exact iff_of_true PluginState.callStart_calls (.inl first)
          · next later => exact (or_iff_right later).symm
        · split <;> rfl
      have entry : started.calls.contains target = true := by
        by_cases first : joined.sessions.size = 1
        · exact startedCalls.mpr (.inl first)
        · cases state with
          | none =>
            have fresh := (stateToJoin_none enters.found).2.2.first
            rw [← show joined.sessions = (joinedState env base req).sessions from congrArg CallView.sessions enters.view] at fresh
            exact absurd fresh first
          | some cs =>
            have reused : cs = base := Except.ok.inj enters.found
            subst reused
            obtain ⟨session, listed, isUser⟩ := followed rfl about cs running enters.checked
            have here : Store.UserPresent ids.botID ops.world.store target session.id :=
              (Store.UserPresent.iff_of_base inv.room running enters).mpr
                ⟨session.userID, isUser, SessionMap.mem_people.mpr ⟨session, listed, rfl, rfl⟩⟩
            exact startedCalls.mpr (.inr (inv.entry.mpr ⟨session.id, here⟩))
      refine ⟨room, iff_of_true ?_ ⟨req.connID, (present _).mpr (.inl ⟨rfl, about⟩)⟩, fun id known => (present id).mpr ?_⟩
      · rw [received]
        split <;> exact entry
      · rw [received] at known
        split at known
        · rcases PluginState.knows_userJoined.mp known with same | known
          · exact .inl ⟨same, about⟩
          · exact .inr (inv.known id ((startedKnows id).mp known))
        · exact .inr (inv.known id ((startedKnows id).mp known))
  · rw [if_pos here] at received
    refine inv.keep room (by rw [received]) (fun id known => by rwa [received] at known) fun id => ?_
    exact Store.UserPresent.elsewhere enters.changes mirrored.channel (inv.room.baseChannel running enters) (Ne.symm here)

theorem MemberInvariant.left (inv : MemberInvariant ids client channelID member ops) {env : Env} {target : String}
    {ref : SessionRef} {held next : Calls.CallState} {us : CallSession} (room : RoomInvariant ids after)
    (bot : env.botID = ids.botID) (owner : ids.owner ref.originalConnID = ref.userID)
    (running : ops.batch? target .leaving = some (some held)) (leaves : held.sessions.find? ref.originalConnID = some us)
    (sessions : next.sessions = held.sessions.erase ref.originalConnID)
    (call : next.call = held.call.afterLeave env ref us next.sessions)
    (changes : ops.world.store.ChangesCall held.call.id after.world.store next.view)
    (told : Tells ops.world (leaveNews env target ref us held) after.world)
    (followed : Followed ids client channelID member ops (.traffic (.call (.operation (.leave env target ref))))) :
    MemberInvariant ids client channelID member after := by
  have found := Operations.batch?_eq_some running
  obtain ⟨ongoing, ownUser⟩ := inv.room.leaving running leaves
  obtain ⟨listed, named⟩ := KeyedTable.find?_eq_some_iff.mp leaves
  have only (other : String) (view : CallView) (here : ops.world.store.OngoingIn target other view) : other = held.call.id :=
    inv.room.single target other held.call.id _ _ here ongoing
  have received : memberState client channelID member after.world.published = _ := memberState_step told
  rw [receive_leaveNews client user channelID bot
    ((inv.room.mirrored.held target _ held found rfl).named inv.room.mirrored.sessions) target] at received
  by_cases here : target = channelID
  · subst here
    rw [if_neg (not_not.mpr rfl)] at received
    have present (id : String) : Store.UserPresent ids.botID after.world.store target id ↔
        id ≠ ref.originalConnID ∧ Store.UserPresent ids.botID ops.world.store target id :=
      Store.UserPresent.left ongoing only sessions call changes
    have follows := followed rfl held us running leaves
    obtain ⟨ended, endedCalls, endedKnows, knowsEnded, received⟩ : ∃ ended : PluginState,
        ended.calls = (memberState client target member ops.world.published).calls ∧
        (∀ id, ended.Knows target id → id = ref.originalConnID ∧ us.video = true ∧ (held.sessions.erase ref.originalConnID).size = 0 ∨
          (memberState client target member ops.world.published).Knows target id) ∧
        (∀ id, (memberState client target member ops.world.published).Knows target id → ended.Knows target id) ∧
        memberState client target member after.world.published =
          if ref.userID = ids.botID then ended else ended.userLeft target ref.userID ref.originalConnID := by
      refine ⟨_, ?_, fun id known => ?_, fun id known => ?_, received⟩
      · split
        · exact endMedia_calls
        · rfl
      · split at known
        · next empty =>
          rcases endMedia_knows.mp known with ⟨video, same⟩ | known
          · exact .inl ⟨same.trans named, video, empty⟩
          · exact .inr known
        · exact .inr known
      · split
        · exact endMedia_knows.mpr (.inr known)
        · exact known
    by_cases about : ref.userID = ids.botID
    · rw [if_pos about] at received follows
      refine inv.keep room (by rw [received, endedCalls]) (fun id known => ?_) fun id => ?_
      · rw [received] at known
        rcases endedKnows id known with ⟨-, video, empty⟩ | known
        · exact absurd empty (follows video)
        · exact known
      · rw [present, and_iff_right_iff_imp]
        intro here same
        obtain rfl := same
        obtain ⟨userID, isUser, member⟩ := (Store.UserPresent.iff_of_ongoing ongoing only).mp here
        obtain ⟨session, inCall, same, rfl⟩ := SessionMap.mem_people.mp member
        rw [KeyedTable.eq_of_key_eq inCall listed (same.trans named.symm), ownUser, owner] at isUser
        exact isUser about
    · rw [if_neg about] at received follows
      rw [Store.UserPresent.others_iff ongoing only] at follows
      by_cases others : ∃ id, id ≠ ref.originalConnID ∧ Store.UserPresent ids.botID ops.world.store target id
      · obtain ⟨id, different, known⟩ := follows others
        obtain ⟨calls, knows⟩ := PluginState.userLeft_others ref.userID ⟨id, different, knowsEnded id known⟩
        obtain ⟨other, otherDifferent, stays⟩ := others
        refine ⟨room, iff_of_true ?_ ⟨other, (present other).mpr ⟨otherDifferent, stays⟩⟩, fun id known => (present id).mpr ?_⟩
        · rw [received, calls, endedCalls]
          exact inv.entry.mpr ⟨other, stays⟩
        · rw [received, knows] at known
          rcases endedKnows id known.2 with ⟨same, -⟩ | old
          · exact absurd same known.1
          · exact ⟨known.1, inv.known id old⟩
      · have nobody (id : String) (different : id ≠ ref.originalConnID) : ¬ ended.Knows target id := by
          intro known
          rcases endedKnows id known with ⟨same, -⟩ | old
          · exact different same
          · exact others ⟨id, different, inv.known id old⟩
        obtain ⟨calls, knows⟩ := PluginState.userLeft_last ref.userID nobody
        refine ⟨room, iff_of_false ?_ fun ⟨id, stays⟩ => others ⟨id, (present id).mp stays⟩, fun id known => ?_⟩
        · rw [received, calls]
          exact Bool.false_ne_true
        · rw [received] at known
          exact absurd known (knows id)
  · rw [if_pos here] at received
    refine inv.keep room (by rw [received]) (fun id known => by rwa [received] at known) fun id => ?_
    exact Store.UserPresent.elsewhere changes (ongoing.channel_afterLeave call) ongoing.channel (Ne.symm here)

theorem MemberInvariant.step (inv : MemberInvariant ids client channelID member ops) {label : RoomStep}
    (followed : RoomServes ops label ∧ Followed ids client channelID member ops label)
    (taken : (rooms ids).next? ops label = some after) : MemberInvariant ids client channelID member after := by
  obtain ⟨room, effect, authentic⟩ := rooms_step inv.room followed.1 taken
  cases effect with
  | quiet same told holds =>
    have received : memberState client channelID member after.world.published = _ := memberState_step told
    refine inv.keep room (by rw [received]; rfl) (fun id known => by rwa [received] at known) fun id => ?_
    simp only [Store.UserPresent, Store.OngoingIn, same]
  | @entered env target req state base joined world running enters told =>
    simp only [RoomStep.authentic, TrafficStep.authentic, CallStep.authentic, CallStep.env?, OperationStep.env?, Option.all_some,
      Bool.and_eq_true, decide_eq_true_eq] at authentic
    exact inv.entered user room authentic.1 running enters told followed.2
  | @left env target ref held next us world running present sessions call changes told =>
    simp only [RoomStep.authentic, TrafficStep.authentic, CallStep.authentic, CallStep.env?, OperationStep.env?, Option.all_some,
      Bool.and_eq_true, decide_eq_true_eq] at authentic
    exact inv.left user room authentic.1 authentic.2 running present sessions call changes told followed.2
  | @messaged step env target cs view ev world free message loads change changes told =>
    have bot : env.botID = ids.botID := step.botID_of_authentic authentic (TrafficStep.env?_of_message message)
    have ongoing := loads.ongoingIn inv.room.mirrored.jobs
    have only (other : String) (otherView : CallView) (here : ops.world.store.OngoingIn target other otherView) :
        other = cs.call.id := inv.room.single target other cs.call.id _ _ here ongoing
    obtain ⟨identity, endAt, people⟩ := change.kept
    have channel : view.call.channelID = target := (congrArg (·.2.1) identity).trans ongoing.2.1
    have active : Store.isActive view.call = true := (Store.isActive_congr identity endAt).trans ongoing.2.2
    have received : memberState client channelID member world.published = _ := memberState_step told
    have named := (loads.mirrored inv.room.mirrored.jobs).1.named inv.room.mirrored.sessions
    have quiet (before : PluginState) := receive_participantNews client channelID (bot ▸ user) target change named before
    refine inv.keep room (by rw [received, (quiet _).1]) (fun id knows => ?_) fun id => ?_
    · rw [received, PluginState.Knows, (quiet _).2] at knows
      exact knows
    · by_cases here : target = channelID
      · subst here
        rw [Store.UserPresent.changed changes channel only, Store.UserPresent.iff_of_ongoing ongoing only, people,
          and_iff_right active]
        rfl
      · exact Store.UserPresent.elsewhere changes channel ongoing.channel (Ne.symm here)

omit user in
theorem MemberInvariant.idle : MemberInvariant ids client channelID member .idle := by
  refine ⟨.idle, iff_of_false (fun known => by cases known) ?_, fun id known => by cases known⟩
  intro facts
  obtain ⟨sessionID, callID, view, ongoing, -⟩ := facts
  cases ongoing.1

/-! ### Runs -/

end

def elsewhere : Client := { channelIDForCurrentCall := "", now := 0 }

/-- Alice records a call that Bob comes to. -/
def aliceRecordsBob : List RoomStep :=
  joining 1000 "call" (.plain "alice" "conn-1" "") ++ recording "rec" ++
    joining 3000 "" (.plain "bot" "bot-1" "rec")

def bobJoins : List RoomStep := joining 5000 "" (.plain "bob" "conn-2" "")

def aliceLeavesRoom : List RoomStep :=
  leaving 4000 { userID := "alice", originalConnID := "conn-1", connID := "conn-1" }

theorem aliceRecordsBob_quiet : ∀ step ∈ aliceRecordsBob, step.Quiet := by
  simp only [aliceRecordsBob, List.forall_mem_append]
  exact ⟨⟨joining_quiet _ _ _, recording_quiet _⟩, joining_quiet _ _ _⟩

/-- The condition on a step, as a check. -/
def followsUsers (ids : Identities) (client : Client) (channelID member : String) (ops : Operations) : RoomStep → Bool
  | .traffic (.call (.operation (.join _ target _))) =>
    match ops.batch? target .joining with
    | some (some cs) => cs.sessions.rows.any (·.userID ≠ ids.botID)
    | _ => true
  | .traffic (.call (.operation (.leave _ _ ref))) => ref.userID ≠ ids.botID ∧
    (((memberState client channelID member ops.world.published).sessions.get? channelID).getD .empty).rows.any
      (·.1 ≠ ref.originalConnID) = true
  | _ => true

theorem followsUsers_sound {ids : Identities} {client : Client} {channelID member : String} {ops : Operations} {step : RoomStep}
    (follows : followsUsers ids client channelID member ops step = true) : Followed ids client channelID member ops step := by
  unfold followsUsers at follows
  split at follows
  · next env target req =>
    intro _ _ cs running _
    rw [running] at follows
    obtain ⟨session, listed, isUser⟩ := List.any_eq_true.mp follows
    exact ⟨session, listed, of_decide_eq_true isUser⟩
  · next env target ref =>
    obtain ⟨isUser, others⟩ := of_decide_eq_true follows
    intro _ held us _ _
    rw [if_neg isUser]
    intro _
    obtain ⟨row, listed, different⟩ := List.any_eq_true.mp others
    exact ⟨row.1, of_decide_eq_true different, KeyedTable.contains_iff.mpr ⟨row, listed, rfl⟩⟩
  · next noJoin noLeave =>
    unfold Followed
    split
    · exact absurd rfl (noJoin _ _ _)
    · exact absurd rfl (noLeave _ _ _)
    · trivial

end Webapp

end Calls
