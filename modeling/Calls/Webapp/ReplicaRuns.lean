import Calls.Server.Sharer
import Calls.Webapp.Replicas

/-! Runs of rooms, with the replica of a participant who was sent a snapshot and then
hears all that is told: the events of a step make of the replica what the step
makes of the call. -/

set_option autoImplicit false

namespace Calls.Webapp

/-- A message that clients can follow: it is not about a session of the bot, and it is told if it is stored. -/
def FollowedIn (botID : String) (cs : Calls.CallState) : TrafficStep → Prop
  | .mute _ us _ _ _ | .hand _ us _ | .call (.video _ us _ _ _) =>
    ∀ session, cs.sessions.find? us.originalConnID = some session → session.userID ≠ botID
  | .screen env us msg handlerID => ∀ call, cs.call.toggleScreen env.now us.originalConnID msg = .ok call →
    ¬ (handlerID ≠ env.nodeID ∧ env.clusterSendFails = true)
  | _ => True

/-! ### What the participant makes of the news -/

namespace Replicates

variable (client : Client) {botID member : String} (user : member ≠ botID) (channels : String → Bool) {target : String}
  (inChannel : channels target = true) {env : Env} (bot : env.botID = botID) {state : PluginState}

/-- The user is among those whom the events to the participants are told. -/
theorem mem_participants {sessions : SessionMap} {own : CallSession} (present : own ∈ sessions) :
    own.userID ∈ getUserIDsFromSessions sessions :=
  List.mem_dedup.mpr (List.mem_map_of_mem present)

include user inChannel bot

/-- A session joins a call that the participant is in. -/
theorem entered {req : JoinRequest} {cs base joined : Calls.CallState} {before after : Store}
    (replicates : Replicates botID target cs.view state)
    (enters : EntersCall env target (some cs) req before after base joined)
    (present : ∃ own ∈ joined.sessions, own.userID = member) (named : ∀ session ∈ joined.sessions, session.userID ≠ "")
    (announced : req.userID ≠ botID → env.rtcJoinFails = false) :
    Replicates botID target joined.view
      (receive client ((joinNews env target req (some cs) joined).filter (·.heardBy member channels)) state) := by
  subst bot
  have reused : cs = base := Except.ok.inj enters.found
  subst reused
  obtain ⟨own, listed, rfl⟩ := present
  have told := mem_participants listed
  have sessions : joined.sessions = cs.sessions.put (newCallSession env cs.call req) := congrArg CallView.sessions enters.view
  have sharing : joined.call.props.screenSharingSessionID = cs.call.props.screenSharingSessionID := by
    have same : joined.call.props.screenSharingSessionID = (joinedState env cs req).call.props.screenSharingSessionID :=
      congrArg (fun view : CallView => view.call.props.screenSharingSessionID) enters.view
    exact same.trans (joinedState_same env cs req).sharing
  have elected : Replicates env.botID target ⟨joined.view.call, cs.view.sessions⟩
      (receive client ((hostNews env target (some cs) joined).filter (·.heardBy own.userID channels)) state) := by
    unfold hostNews
    rw [receive_ite]
    split
    · rw [receive_asParticipant client user channels _ target told named]
      exact replicates.hostChanged _ sharing
    · next same => exact replicates.congr (not_not.mp same) sharing
  have later : joined.sessions.size ≠ 1 := enters.later cs rfl
  have shown : joined.view = ⟨joined.view.call, cs.view.sessions.put (newCallSession env cs.call req)⟩ :=
    congrArg (CallView.mk joined.view.call) sessions
  simp only [joinNews, if_neg later, List.append_nil, List.filter_append, receive_append]
  unfold sessionNews
  rw [receive_ite]
  by_cases isBot : req.userID = env.botID
  · have quiet : Replicates env.botID target joined.view
        (receive client ((hostNews env target (some cs) joined).filter (·.heardBy own.userID channels)) state) := by
      rw [shown]
      exact elected.botJoined isBot (checkJoin_absent enters.checked)
    split
    · rw [List.filter_append, receive_append, receive_asMember client user channels _ target inChannel,
        if_pos (by rw [WsEvent.joinedOrLeft?, isBot]), receive_asUser client channels _ _ req.userID_ne,
        if_pos (.inr fun same => user (same.symm.trans isBot))]
      exact quiet
    · exact quiet
  · rw [if_pos (announced isBot), List.filter_append, receive_append, receive_asMember client user channels _ target inChannel,
      if_neg (by simpa [WsEvent.joinedOrLeft?] using isBot), receive_asUser client channels _ _ req.userID_ne]
    split
    · rw [shown]
      exact elected.userJoined isBot ⟨rfl, rfl, rfl⟩
    · rw [handleEvent]
      exact .loaded client _ _ _ env.order joined _

/-- A session leaves a call that the participant stays in. -/
theorem left {ref : SessionRef} {us : CallSession} {held next : Calls.CallState}
    (replicates : Replicates botID target held.view state) (leaves : held.sessions.find? ref.originalConnID = some us)
    (owner : us.userID = ref.userID) (sessions : next.sessions = held.sessions.erase ref.originalConnID)
    (call : next.call = held.call.afterLeave env ref us next.sessions)
    (present : ∃ own ∈ next.sessions, own.userID = member) (named : ∀ session ∈ held.sessions, session.userID ≠ "")
    (quietBot : ref.userID = botID → us.video = false ∧ held.call.props.screenSharingSessionID ≠ ref.originalConnID) :
    Replicates botID target next.view
      (receive client ((leaveNews env target ref us held).filter (·.heardBy member channels)) state) := by
  subst bot
  obtain ⟨own, listed, rfl⟩ := present
  have sameID : us.id = ref.originalConnID := (KeyedTable.find?_eq_some_iff.mp leaves).2
  have without : next.sessions = (held.withoutSession ref.originalConnID).sessions := sessions
  have told : own.userID ∈ getUserIDsFromSessions (held.withoutSession ref.originalConnID).sessions :=
    mem_participants (without ▸ listed)
  have remain : ∀ session ∈ (held.withoutSession ref.originalConnID).sessions, session.userID ≠ "" :=
    fun session member => named session (KeyedTable.mem_erase.mp member).1
  have filled : next.sessions.size ≠ 0 := KeyedTable.size_ne_zero_of_mem listed
  have host : (held.call.withoutMedia env us).getHostID = held.call.getHostID := by
    rw [Call.getHostID, (Call.withoutMedia_host env us held.call).1, Call.getHostID]
  -- The host is told last, of the call without the one who leaves.
  have elected {middle : PluginState} (media : Replicates env.botID target
        ⟨(held.call.withoutMedia env us).apartFromPost, held.sessions.erase ref.originalConnID⟩ middle) :
      Replicates env.botID target next.view (receive client
        ((if (held.call.withoutMedia env us).losesHost env ref.userID (held.withoutSession ref.originalConnID).sessions = true then
          publishWebSocketEvent env.botID (.callHostChanged (Calls.getHostID env.order env.botID (held.call.withoutMedia env us)
            (held.withoutSession ref.originalConnID).sessions) (held.call.withoutMedia env us).id)
            ((held.withoutSession ref.originalConnID).toParticipants target) else []).filter
          (·.heardBy own.userID channels)) middle) := by
    have shown : next.view = ⟨next.view.call, held.sessions.erase ref.originalConnID⟩ :=
      congrArg (CallView.mk next.view.call) sessions
    have hostAfter := Call.afterLeave_elected env ref us held.call filled
    rw [← call, without] at hostAfter
    have screen : next.view.call.props.screenSharingSessionID =
        (held.call.withoutMedia env us).apartFromPost.props.screenSharingSessionID := by
      have after := Call.afterLeave_sharer env ref us next.sessions held.call
      rw [← call, ← Call.withoutMedia_sharer] at after
      exact after
    rw [receive_ite]
    split
    · next loses =>
      rw [if_pos loses] at hostAfter
      rw [receive_asParticipant client user channels _ target told remain, ← hostAfter, shown]
      exact media.hostChanged _ screen
    · next keeps =>
      rw [if_neg keeps] at hostAfter
      rw [shown]
      exact media.congr (hostAfter.trans host.symm) screen
  have screenAfter : (held.call.withoutMedia env us).apartFromPost.props.screenSharingSessionID =
      if held.call.props.screenSharingSessionID = ref.originalConnID then "" else held.call.props.screenSharingSessionID := by
    rw [← sameID]
    exact Call.withoutMedia_sharer env us held.call
  simp only [leaveNews, List.filter_append, receive_append]
  apply elected
  rw [receive_asMember client user channels _ target inChannel]
  by_cases isBot : ref.userID = env.botID
  · obtain ⟨noVideo, notSharing⟩ := quietBot isBot
    rw [if_pos (by rw [WsEvent.joinedOrLeft?, isBot]), if_neg notSharing, if_neg (by rw [noVideo]; exact Bool.false_ne_true)]
    rw [if_neg notSharing] at screenAfter
    exact (replicates.botLeft leaves (owner.trans isBot)).congr host screenAfter
  · rw [if_neg (by simpa [WsEvent.joinedOrLeft?] using isBot), receive_ite, receive_ite,
      receive_asParticipant client user channels _ target told remain, receive_asParticipant client user channels _ target told remain]
    simp only [WsEvent.joinedOrLeft?, reduceCtorEq, if_false]
    have screen : Replicates env.botID target held.view (if held.call.props.screenSharingSessionID = ref.originalConnID then
        handleEvent client target (.userScreenOff none none) state else state) := by
      split
      · exact replicates.unnamedScreenOff
      · exact replicates
    obtain ⟨rows, video, same⟩ : ∃ rows : SessionMap, Replicates env.botID target ⟨held.view.call, rows⟩
        (if us.video = true then handleEvent client target (.userVideoOff ref.userID ref.originalConnID)
          (if held.call.props.screenSharingSessionID = ref.originalConnID then
            handleEvent client target (.userScreenOff none none) state else state)
          else (if held.call.props.screenSharingSessionID = ref.originalConnID then
            handleEvent client target (.userScreenOff none none) state else state)) ∧
        rows.erase ref.originalConnID = held.sessions.erase ref.originalConnID := by
      split
      · refine ⟨_, screen.videoOff leaves (by rwa [owner]),
          KeyedTable.erase_modify _ _ _ _⟩
      · exact ⟨_, screen, rfl⟩
    rw [← same, sameID]
    refine video.userLeft ref.userID ?_ host screenAfter
    have stays : own ∈ rows.erase ref.originalConnID := by
      rw [same]
      exact sessions ▸ listed
    obtain ⟨inRows, different⟩ := KeyedTable.mem_erase.mp stays
    exact ⟨own.id, different, video.knows_iff.mpr ⟨own, KeyedTable.find?_self inRows, user⟩⟩

omit inChannel in
/-- A message changes the call of the participant. -/
theorem messaged {step : TrafficStep} {cs : Calls.CallState} {view : CallView} {ev : Option WsEvent}
    (replicates : Replicates botID target cs.view state) (change : MessageChange step cs view ev)
    (present : ∃ own ∈ cs.sessions, own.userID = member) (named : ∀ session ∈ cs.sessions, session.userID ≠ "")
    (followed : FollowedIn botID cs step) :
    Replicates botID target view
      (receive client ((participantNews env.botID target cs ev).filter (·.heardBy member channels)) state) := by
  subst bot
  obtain ⟨own, listed, rfl⟩ := present
  have told (ev : WsEvent) (quiet : ev.joinedOrLeft? = none) :
      receive client ((participantNews env.botID target cs (some ev)).filter (·.heardBy own.userID channels)) state =
        handleEvent client target ev state := by
    rw [participantNews, receive_asParticipant client user channels _ target (mem_participants listed) named, quiet]
    exact if_neg nofun
  cases change with
  | @mute _ us msg _ _ _ session found =>
    cases msg with
    | mute =>
      rw [told _ rfl]
      exact replicates.muted found (followed session found)
    | unmute =>
      rw [told _ rfl]
      exact replicates.unmuted found (followed session found)
  | @hand env us msg _ session found =>
    rw [told _ (by cases msg <;> rfl)]
    have about : msg.event us (msg.change env session).raisedHand =
          .userRaiseHand us.userID us.originalConnID (msg.change env session).raisedHand ∨
        msg.event us (msg.change env session).raisedHand =
          .userUnraiseHand us.userID us.originalConnID (msg.change env session).raisedHand := by
      cases msg with
      | raise => exact .inl rfl
      | unraise => exact .inr rfl
    exact replicates.handSet found (followed session found) _ about
  | @video env us msg _ _ _ session found =>
    have host : (cs.call.toggleVideo env.now us.originalConnID msg).getHostID = cs.call.getHostID := by
      rw [Call.getHostID, (Call.toggleVideo_host env.now us.originalConnID cs.call msg).1, Call.getHostID]
    have screen := Call.toggleVideo_sharer env.now us.originalConnID cs.call msg
    cases msg with
    | on =>
      rw [told _ rfl]
      exact (replicates.videoOn found (followed session found)).congr host screen
    | off =>
      rw [told _ rfl]
      exact (replicates.videoOff found (followed session found)).congr host screen
  | @screen env us msg handlerID _ call accepted sent =>
    obtain ⟨host, started, ended⟩ := Call.toggleScreen_host accepted
    have kept : call.apartFromPost.getHostID = cs.view.call.getHostID := host
    cases msg with
    | on =>
      rw [told _ rfl]
      exact replicates.screenOn kept (started rfl) us.userID
    | off =>
      rw [told _ rfl]
      exact replicates.screenOff kept (ended rfl).1 (ended rfl).2 (some us.userID)
  | unsentScreen accepted unsent => exact absurd unsent (followed _ accepted)
  | @host env requesterID _ newHostID _ call accepted changed =>
    obtain ⟨host, screen⟩ := Call.changeHost_named accepted
    rw [told _ rfl, ← host]
    exact replicates.hostChanged cs.call.id screen
  | @hostLocked env requesterID _ newHostID _ call accepted same =>
    obtain ⟨host, screen⟩ := Call.changeHost_named accepted
    exact replicates.congr (host.trans same.symm) screen

end Replicates

/-! ### Runs -/

/-- A snapshot of the ongoing call of the channel, in a client that had anything before. -/
def Snapshot (ids : Identities) (channelID member : String) (state : Operations × PluginState) : Prop :=
  ∃ cs : Calls.CallState, state.1.world.store.OngoingIn channelID cs.call.id cs.view ∧ ∃ client order prior,
    state.2 = loadCallState client channelID (cs.getClientState order ids.botID member) prior

/-- Rooms with a participant, who hears what is told to the user and to the channels of the user. -/
def participants (ids : Identities) (channelID member : String) (channels : String → Bool) :
    System (Operations × PluginState) (Client × RoomStep) where
  init state := ((rooms ids).restrict RoomServes).Reachable state.1 ∧ Snapshot ids channelID member state
  next? state label := ((rooms ids).next? state.1 label.2).map fun after =>
    (after, receive label.1
      ((after.world.published.drop state.1.world.published.length).filter (·.heardBy member channels)) state.2)

def InCall (channelID sessionID : String) (ops : Operations) : Prop :=
  ∃ callID view, ops.world.store.OngoingIn channelID callID view ∧ view.sessions.contains sessionID = true

/-- As long as the session is in the ongoing call, the replica is what the server has of the call. -/
def ReplicaAgrees (ids : Identities) (channelID sessionID : String) (state : Operations × PluginState) : Prop :=
  ∀ callID view, state.1.world.store.OngoingIn channelID callID view → view.sessions.contains sessionID = true →
    Replicates ids.botID channelID view state.2

/-- The handler of a message gets as far as the state of the call. -/
def Heeded : TrafficStep → Prop
  | .mute env _ _ handlerID rtcSends | .call (.video env _ _ handlerID rtcSends) => VideoHandled env handlerID rtcSends
  | .hand env _ _ => env.lockFails = false
  | .screen env _ _ _ => env.config.allowScreenSharing = some true ∧ env.lockFails = false
  | _ => True

/-- What clients can follow: no user joins without being announced, no message that is stored
goes untold, and the bot has nothing of what clients keep of sessions. -/
def Announced (ids : Identities) (channelID : String) (ops : Operations) : RoomStep → Prop
  | .traffic (.call (.operation (.join env target req))) => target = channelID → req.userID ≠ ids.botID →
    ∀ cs, ops.batch? target .joining = some (some cs) → checkJoin env cs req = .ok () → env.rtcJoinFails = false
  | .traffic (.call (.operation (.leave _ target ref))) => target = channelID → ref.userID = ids.botID →
    ∀ held us, ops.batch? target .leaving = some (some held) → held.sessions.find? ref.originalConnID = some us →
      us.video = false ∧ held.call.props.screenSharingSessionID ≠ ref.originalConnID
  | .traffic step => Heeded step → ∀ env cs, step.message? = some (env, channelID) →
    ops.world.store.Loads channelID (some cs) → FollowedIn ids.botID cs step
  | .jobs _ _ _ => True

/-- The participant is in the call, the store works, and clients can follow the step. -/
def Faithful (ids : Identities) (channelID sessionID : String) (state : Operations × PluginState) (label : Client × RoomStep) : Prop :=
  InCall channelID sessionID state.1 ∧ RoomServes state.1 label.2 ∧ Announced ids channelID state.1 label.2

structure ReplicaInvariant (ids : Identities) (channelID sessionID : String) (state : Operations × PluginState) : Prop where
  room : RoomInvariant ids state.1
  agrees : ReplicaAgrees ids channelID sessionID state

/-- A message that is not heeded changes nothing. -/
theorem not_heeded {step : TrafficStep} {ops after : Operations} (refused : ¬ Heeded step) (taken : ops.traffic? step = some after) :
    after = ops := by
  have unlocked {env : Env} (fails : ¬ env.lockFails = false) (channelID : String) (change : String → String)
      (next : Option Calls.CallState → Handler Unit) (world : World) :
      (((lockCallReturnState env channelID).mapError change >>= next) world).2 = world := by
    have locked : lockCallReturnState env channelID = .throw "failed to create call lock" := if_pos (by simpa using fails)
    rw [locked]
    rfl
  -- What goes to the RTC side first is refused there, or finds the lock taken.
  have unsent {env : Env} {handlerID : String} {rtcSends : Bool} (refused : ¬ VideoHandled env handlerID rtcSends)
      {command : Handler Unit} (locking : ¬ env.lockFails = false → (command ops.world).2 = ops.world) :
      ((if handlerID ≠ env.nodeID ∧ env.clusterSendFails = true then .throw "failed to send cluster message"
        else if handlerID = env.nodeID ∧ rtcSends = false then .throw "failed to send RTC message"
        else command : Handler Unit) ops.world).2 = ops.world := by
    split
    · rfl
    · next remote =>
      split
      · rfl
      · next handled =>
        refine locking fun locks => refused ⟨fun different => ?_, fun same => ?_, locks⟩
        · simpa using fun fails => remote ⟨different, fails⟩
        · simpa using fun fails => handled ⟨same, fails⟩
  have same {channelID : String} {handler : Handler Unit} (taken : ops.request channelID handler = some after)
      (quiet : (handler ops.world).2 = ops.world) : after = ops := by
    obtain ⟨-, rfl⟩ := Operations.request_eq_some taken
    rw [quiet]
  cases step with
  | screen env us msg handlerID =>
    refine same taken ?_
    unfold handleClientMessageTypeScreen
    split
    · rfl
    · next allowed => exact unlocked (fun locks => refused ⟨not_not.mp allowed, locks⟩) _ _ _ _
  | mute => exact same taken (unsent refused fun fails => unlocked fails _ _ _ _)
  | hand => exact same taken (unlocked refused _ _ _ _)
  | call step =>
    cases step with
    | video => exact same taken (unsent refused fun fails => unlocked fails _ _ _ _)
    | operation | changeHost => exact absurd trivial refused

/-- The events of messages name no channel. -/
theorem channelOf_messageEvent {step : TrafficStep} {cs : Calls.CallState} {view : CallView} {ev : Option WsEvent}
    (change : MessageChange step cs view ev) {told : WsEvent} (same : ev = some told) (channelID : String) :
    channelOf channelID told = channelID := by
  cases change with
  | @mute _ _ msg | @hand _ _ msg | @video _ _ msg | @screen _ _ msg => cases msg <;> cases same <;> rfl
  | host => cases same; rfl
  | unsentScreen | hostLocked => cases same

theorem receive_news (client : Client) {before after : World} {news : List Delivery} (told : Tells before news after)
    (hears : Delivery → Bool) (state : PluginState) :
    receive client ((after.published.drop before.published.length).filter hears) state = receive client (news.filter hears) state := by
  obtain ⟨more, published, rfl⟩ := told
  rw [published, List.drop_left, receive_told]

section
variable {ids : Identities} {channelID member sessionID : String} {channels : String → Bool} {state after : Operations × PluginState}

/-- A step that is not about the call of the channel. -/
theorem ReplicaAgrees.elsewhere (agrees : ReplicaAgrees ids channelID sessionID state)
    (same : ∀ callID view, after.1.world.store.OngoingIn channelID callID view → state.1.world.store.OngoingIn channelID callID view)
    (untold : state.2.SameIn channelID after.2) : ReplicaAgrees ids channelID sessionID after :=
  fun callID view ongoing present => (agrees callID view (same callID view ongoing) present).same untold

theorem ReplicaInvariant.step (user : member ≠ ids.botID) (owner : ids.owner sessionID = member)
    (inChannel : channels channelID = true) (inv : ReplicaInvariant ids channelID sessionID state) {label : Client × RoomStep}
    (faithful : Faithful ids channelID sessionID state label)
    (taken : (participants ids channelID member channels).next? state label = some after) :
    ReplicaInvariant ids channelID sessionID after := by
  obtain ⟨ops, replica⟩ := state
  obtain ⟨client, step⟩ := label
  obtain ⟨next, moved, rfl⟩ := Option.map_eq_some_iff.mp taken
  clear taken
  obtain ⟨⟨callID, view, ongoing, inCall⟩, serves, announced⟩ := faithful
  obtain ⟨room, effect, authentic⟩ := rooms_step inv.room serves moved
  have replicates := inv.agrees callID view ongoing inCall
  refine ⟨room, ?_⟩
  have own {id : String} {found : CallView} (here : next.world.store.OngoingIn channelID id found)
      (present : found.sessions.contains sessionID = true) : ∃ own ∈ found.sessions, own.userID = member := by
    obtain ⟨row, listed, rfl⟩ := KeyedTable.contains_iff.mp present
    exact ⟨row, listed, (room.owners id found here.1 row listed).trans owner⟩
  have heard {news : List Delivery} (told : Tells ops.world news next.world) :
      receive client ((next.world.published.drop ops.world.published.length).filter (·.heardBy member channels)) replica =
        receive client (news.filter (·.heardBy member channels)) replica := receive_news client told _ _
  have quietly {news : List Delivery} (told : Tells ops.world news next.world)
      (others : ∀ delivery ∈ news.filter (·.heardBy member channels), channelOf delivery.channelID delivery.ev ≠ channelID) :
      replica.SameIn channelID (receive client
        ((next.world.published.drop ops.world.published.length).filter (·.heardBy member channels)) replica) := by
    rw [heard told]
    exact receive_elsewhere others replica
  by_cases refused : ∃ message, step = .traffic message ∧ ¬ Heeded message
  · obtain ⟨message, rfl, unheeded⟩ := refused
    obtain rfl := not_heeded unheeded (rooms_taken moved).2
    refine inv.agrees.elsewhere (fun _ _ here => here) ?_
    dsimp only
    rw [List.drop_length]
    exact .refl replica
  cases effect with
  | quiet same told holds =>
    refine inv.agrees.elsewhere (fun id found here => ?_) (quietly told fun delivery sent => by cases sent)
    rwa [Store.OngoingIn, same] at here
  | @entered env target req held base joined world running enters told =>
    have found := Operations.batch?_eq_some running
    have mirrored := enters.item.next joined rfl
    simp only [RoomStep.authentic, TrafficStep.authentic, CallStep.authentic, CallStep.env?, OperationStep.env?, Option.all_some,
      Bool.and_eq_true, decide_eq_true_eq] at authentic
    by_cases here : target = channelID
    · subst here
      cases held with
      | none => exact absurd ongoing (inv.room.absent target _ found callID view)
      | some cs =>
        have reused : cs = base := Except.ok.inj enters.found
        subst reused
        obtain rfl := inv.room.onlyBase running enters callID view ongoing
        obtain rfl := Option.some.inj (ongoing.1.symm.trans (inv.room.mirrored.held target _ cs found rfl).view)
        intro id after here present
        obtain ⟨rfl, rfl⟩ := enters.changes.ongoingIn_here (inv.room.onlyBase running enters) here
        have entered := replicates.entered client user channels inChannel authentic.1 enters (own here present)
          (mirrored.named enters.item.sessions) fun isUser => announced rfl isUser cs running enters.checked
        rw [← heard told] at entered
        exact entered
    · refine inv.agrees.elsewhere (fun id after ongoing => ?_) (quietly told fun delivery sent => ?_)
      · exact (enters.changes.ongoingIn_elsewhere mirrored.channel (inv.room.baseChannel running enters) (Ne.symm here)).mp ongoing
      · rw [channelOf_joinNews (authentic.1 ▸ user) sent]
        exact here
  | @left env target ref held left us world running present sessions call changes told =>
    simp only [RoomStep.authentic, TrafficStep.authentic, CallStep.authentic, CallStep.env?, OperationStep.env?, Option.all_some,
      Bool.and_eq_true, decide_eq_true_eq] at authentic
    obtain ⟨before, ownUser⟩ := inv.room.leaving running present
    have only (other : String) (otherView : CallView) (here : ops.world.store.OngoingIn target other otherView) :
        other = held.call.id := inv.room.single target other held.call.id _ _ here before
    have channel : left.view.call.channelID = target := before.channel_afterLeave call
    have mirrored := inv.room.mirrored.held target _ held (Operations.batch?_eq_some running) rfl
    by_cases here : target = channelID
    · subst here
      obtain rfl := only callID view ongoing
      obtain rfl := Option.some.inj (ongoing.1.symm.trans before.1)
      intro id after here stays
      obtain ⟨rfl, rfl⟩ := changes.ongoingIn_here only here
      have others := replicates.left client user channels inChannel authentic.1 present (ownUser.trans authentic.2) sessions call
        (own here stays) (mirrored.named inv.room.mirrored.sessions) fun isBot => announced rfl isBot held us running present
      rw [← heard told] at others
      exact others
    · refine inv.agrees.elsewhere (fun id after ongoing => ?_) (quietly told fun delivery sent => ?_)
      · exact (changes.ongoingIn_elsewhere channel before.channel (Ne.symm here)).mp ongoing
      · rw [channelOf_leaveNews (authentic.1 ▸ user) sent]
        exact here
  | @messaged step env target cs changed ev world free message loads change changes told =>
    have bot : env.botID = ids.botID := step.botID_of_authentic authentic (TrafficStep.env?_of_message message)
    have before := loads.ongoingIn inv.room.mirrored.jobs
    have only (other : String) (otherView : CallView) (here : ops.world.store.OngoingIn target other otherView) :
        other = cs.call.id := inv.room.single target other cs.call.id _ _ here before
    obtain ⟨identity, -, people⟩ := change.kept
    have channel : changed.call.channelID = target := (congrArg (·.2.1) identity).trans before.2.1
    have named := (loads.mirrored inv.room.mirrored.jobs).1.named inv.room.mirrored.sessions
    by_cases here : target = channelID
    · subst here
      obtain rfl := only callID view ongoing
      obtain rfl := Option.some.inj (ongoing.1.symm.trans before.1)
      intro id after here stays
      obtain ⟨rfl, rfl⟩ := changes.ongoingIn_here only here
      have heeded : Heeded step := by
        by_contra unheeded
        exact refused ⟨step, rfl, unheeded⟩
      have followed : FollowedIn ids.botID cs step := by
        cases step with
        | call step =>
          cases step with
          | operation => cases message
          | changeHost | video => exact announced heeded env cs message loads
        | screen | mute | hand => exact announced heeded env cs message loads
      have present : ∃ own ∈ cs.sessions, own.userID = member := by
        obtain ⟨row, listed, sameID⟩ := KeyedTable.contains_iff.mp inCall
        exact ⟨row, listed, (inv.room.owners _ _ before.1 row listed).trans (sameID ▸ owner)⟩
      have messaged := replicates.messaged client user channels bot change present named followed
      rw [← heard told] at messaged
      exact messaged
    · refine inv.agrees.elsewhere (fun id after ongoing => ?_) (quietly told fun delivery sent => ?_)
      · exact (changes.ongoingIn_elsewhere channel before.channel (Ne.symm here)).mp ongoing
      · rw [channelOf_participantNews (bot ▸ user) (fun _ told => channelOf_messageEvent change told target) sent]
        exact here

theorem ReplicaInvariant.start (initial : (participants ids channelID member channels).init state) :
    ReplicaInvariant ids channelID sessionID state := by
  obtain ⟨reached, cs, ongoing, client, order, prior, loaded⟩ := initial
  have room := roomInvariant_of_reachable reached
  refine ⟨room, fun callID view here _ => ?_⟩
  obtain rfl := room.single channelID callID cs.call.id view cs.view here ongoing
  obtain rfl := Option.some.inj (here.1.symm.trans ongoing.1)
  rw [loaded]
  exact .loaded client ids.botID channelID member order cs prior

theorem replicaAgrees_of_faithful (user : member ≠ ids.botID) (owner : ids.owner sessionID = member)
    (inChannel : channels channelID = true)
    (reached : ((participants ids channelID member channels).restrict (Faithful ids channelID sessionID)).Reachable state) :
    ReplicaAgrees ids channelID sessionID state := by
  have inv : ReplicaInvariant ids channelID sessionID state := by
    refine System.Reachable.invariant_of_allowed ?_ ?_ reached
    · exact fun state initial => .start initial
    · intro before label after inv faithful taken
      exact inv.step user owner inChannel faithful taken
  exact inv.agrees

end

def aliceStarts : List RoomStep := joining 1000 "call" (.plain "alice" "conn-1" "")

/-- Alice has joined, and has the snapshot. -/
def aliceSnapshot : Option (Operations × PluginState) :=
  ((rooms usersAndBot).run? .idle aliceStarts).bind fun ops => (ops.world.store.activeCall? "channel").map fun call =>
    let cs : Calls.CallState :=
      { call, sessions := ops.world.store.callSessions call.id, recording := none, transcription := none, liveCaptions := none }
    (ops, loadCallState elsewhere "channel" (cs.getClientState .stored "bot" "alice") .initial)

def aliceHears (steps : List RoomStep) : Option (Operations × PluginState) :=
  aliceSnapshot.bind fun state =>
    (participants usersAndBot "channel" "alice" (· = "channel")).run? state (steps.map fun step => (elsewhere, step))

theorem aliceSnapshot_init {state : Operations × PluginState} (computed : aliceSnapshot = some state) :
    (participants usersAndBot "channel" "alice" (· = "channel")).init state := by
  obtain ⟨ops, ran, taken⟩ := Option.bind_eq_some_iff.mp computed
  obtain ⟨call, found, rfl⟩ := Option.map_eq_some_iff.mp taken
  have serves : (rooms usersAndBot).MeetsAlong RoomServes .idle aliceStarts :=
    .of_check (show (rooms usersAndBot).checkAlong roomFree _ _ = true by decide +kernel)
      fun _ step listed => roomFree_sound (joining_quiet _ _ _ step listed)
  have start : ((rooms usersAndBot).restrict RoomServes).Reachable .idle := .init rfl
  exact ⟨start.restrict_run serves ran, _, Store.ongoingIn_of_activeCall found, elsewhere, .stored, .initial, rfl⟩

def sessionInCall (channelID sessionID : String) (ops : Operations) : Bool :=
  (ops.world.store.activeCall? channelID).any fun call => (ops.world.store.callSessions call.id).contains sessionID

theorem sessionInCall_sound {channelID sessionID : String} {ops : Operations} (listed : sessionInCall channelID sessionID ops = true) :
    InCall channelID sessionID ops := by
  obtain ⟨call, found, present⟩ := (Option.any_eq_true _ _).mp listed
  exact ⟨_, _, Store.ongoingIn_of_activeCall found, present⟩

/-- The condition on joins and leaves, as a check. -/
def followable (ids : Identities) (channelID sessionID : String) (state : Operations × PluginState) (label : Client × RoomStep) : Bool :=
  sessionInCall channelID sessionID state.1 && roomFree state.1 label.2 &&
    match label.2 with
    | .traffic (.call (.operation (.join env _ _))) => env.rtcJoinFails = false
    | .traffic (.call (.operation (.leave _ _ ref))) => ref.userID ≠ ids.botID
    | .traffic (.call (.operation _)) => true
    | _ => false

theorem followable_sound {ids : Identities} {channelID sessionID : String} {state : Operations × PluginState}
    {label : Client × RoomStep} (quiet : label.2.Quiet) (checked : followable ids channelID sessionID state label = true) :
    Faithful ids channelID sessionID state label := by
  obtain ⟨client, step⟩ := label
  obtain ⟨both, follows⟩ := Bool.and_eq_true_iff.mp checked
  obtain ⟨inCall, free⟩ := Bool.and_eq_true_iff.mp both
  refine ⟨sessionInCall_sound inCall, roomFree_sound quiet free, ?_⟩
  dsimp only at follows ⊢
  split at follows
  · exact fun _ _ _ _ _ => of_decide_eq_true follows
  · exact fun _ isBot => absurd isBot (of_decide_eq_true follows)
  · next step noJoin noLeave =>
    cases step with
    | join => exact absurd rfl (noJoin _ _ _)
    | leave => exact absurd rfl (noLeave _ _ _)
    | lock | unlock => exact fun _ _ _ message => by cases message
  · cases follows

def bobLeaves : List RoomStep :=
  leaving 6000 { userID := "bob", originalConnID := "conn-2", connID := "conn-2" }

theorem replicaAgrees_of_bobLeaves : ∃ state, aliceHears (bobJoins ++ bobLeaves) = some state ∧
    sessionInCall "channel" "conn-1" state.1 = true ∧ ReplicaAgrees usersAndBot "channel" "conn-1" state := by
  have ended : (aliceHears (bobJoins ++ bobLeaves)).any (fun state => sessionInCall "channel" "conn-1" state.1) = true := by
    decide +kernel
  obtain ⟨state, heard, inCall⟩ := (Option.any_eq_true _ _).mp ended
  obtain ⟨begun, computed, ran⟩ := Option.bind_eq_some_iff.mp heard
  have checked : aliceSnapshot.all (fun state => (participants usersAndBot "channel" "alice" (· = "channel")).checkAlong
      (followable usersAndBot "channel" "conn-1") state ((bobJoins ++ bobLeaves).map fun step => (elsewhere, step))) = true := by
    decide +kernel
  rw [computed] at checked
  have quiet : ∀ step ∈ bobJoins ++ bobLeaves, step.Quiet := by
    simp only [List.forall_mem_append]
    exact ⟨joining_quiet _ _ _, leaving_quiet _ _⟩
  have faithful := System.MeetsAlong.of_check checked fun state label listed => by
    obtain ⟨step, member, rfl⟩ := List.mem_map.mp listed
    exact followable_sound (quiet step member)
  have start : ((participants usersAndBot "channel" "alice" (· = "channel")).restrict
      (Faithful usersAndBot "channel" "conn-1")).Reachable begun := .init (aliceSnapshot_init computed)
  exact ⟨state, heard, inCall, replicaAgrees_of_faithful (by decide) rfl (by decide) (start.restrict_run faithful ran)⟩

/-- Alice shares her screen through another node, which cannot be reached. -/
def unsentScreen : RoomStep :=
  .traffic (.screen { Env.quiet 2000 "" with clusterSendFails := true } aliceReader .on "other")

/-- The screen is stored, and nobody is told of it. -/
theorem not_replicaAgrees : ¬ ∀ ids channelID member sessionID channels state, member ≠ ids.botID → ids.owner sessionID = member →
    channels channelID = true →
    ((participants ids channelID member channels).restrict fun state label =>
      InCall channelID sessionID state.1 ∧ RoomServes state.1 label.2).Reachable state →
    ReplicaAgrees ids channelID sessionID state := by
  intro agrees
  have ended : (aliceHears [unsentScreen]).any (fun state => sessionInCall "channel" "conn-1" state.1 ∧
      (state.1.world.store.activeCall? "channel").map Call.sharer = some "conn-1" ∧
      (state.2.screenSharingIDs.get? "channel").getD "" = "") = true := by
    decide +kernel
  obtain ⟨state, heard, facts⟩ := (Option.any_eq_true _ _).mp ended
  obtain ⟨inCall, sharing, untold⟩ := of_decide_eq_true facts
  obtain ⟨begun, computed, ran⟩ := Option.bind_eq_some_iff.mp heard
  have present : aliceSnapshot.all (fun state => sessionInCall "channel" "conn-1" state.1) = true := by decide +kernel
  rw [computed] at present
  have meets : (participants usersAndBot "channel" "alice" (· = "channel")).MeetsAlong
      (fun state label => InCall "channel" "conn-1" state.1 ∧ RoomServes state.1 label.2) begun [(elsewhere, unsentScreen)] :=
    ⟨⟨sessionInCall_sound present, fun _ => rfl⟩, fun _ _ => trivial⟩
  have start : ((participants usersAndBot "channel" "alice" (· = "channel")).restrict fun state label =>
      InCall "channel" "conn-1" state.1 ∧ RoomServes state.1 label.2).Reachable begun := .init (aliceSnapshot_init computed)
  have replica := agrees usersAndBot "channel" "alice" "conn-1" (· = "channel") state (by decide) rfl (by decide)
    (start.restrict_run meets ran)
  obtain ⟨call, found, listed⟩ := (Option.any_eq_true _ _).mp inCall
  have screen := (replica call.id _ (Store.ongoingIn_of_activeCall found) listed).screen
  rw [found, Option.map_some] at sharing
  have shared : call.sharer = "" := screen.symm.trans untold
  rw [Option.some.inj sharing] at shared
  exact absurd shared (by decide)

end Calls.Webapp
