import Calls.Webapp.Receiving

/-! Who gets the events that are meant for the participants of a call. -/

set_option autoImplicit false

namespace Calls

/-- The copies of published events that the server delivers to a user. -/
def copies (member : String → String → Bool) (userID : String) (deliveries : List Delivery) : Nat :=
  deliveries.countP (·.heardBy userID (member userID))

/-- One copy for each participant and for the bot, none for anybody else; none at all of an event that
tells that the bot has joined or left. -/
def ReachesParticipants (botID : String) (member : String → String → Bool) (ev : WsEvent) (reliable : Bool) (channelID : String)
    (sessions : SessionMap) : Prop :=
  ∀ userID, userID ≠ "" →
    copies member userID (publishWebSocketEvent botID ev
        { channelID, reliableClusterSend := reliable, userIDs := getUserIDsFromSessions sessions }) =
      if ev.joinedOrLeft? = some botID then 0
      else if userID = botID ∨ isUserIDInCall sessions userID = true then 1
      else 0

section
variable {botID : String} {member : String → String → Bool} {ev : WsEvent} {reliable : Bool} {channelID : String}
  {sessions : SessionMap}

theorem mem_getUserIDsFromSessions {userID : String} :
    userID ∈ getUserIDsFromSessions sessions ↔ isUserIDInCall sessions userID = true := by
  simp [getUserIDsFromSessions, isUserIDInCall]

/-- The copy of its own that the bot gets. -/
theorem copies_forBot {userID : String} (named : userID ≠ "") (channel : channelID ≠ "") :
    copies member userID (if botID ≠ "" ∧ channelID ≠ "" then [{ ev, userID := botID }] else []) =
      if userID = botID then 1 else 0 := by
  by_cases unset : botID = ""
  · simp [unset, copies, named]
  · by_cases same : userID = botID
    · simp [copies, Delivery.heardBy, unset, channel, same]
    · simp [copies, Delivery.heardBy, unset, channel, same, Ne.symm same]

/-- Copies that are addressed to users reach these alone. -/
theorem copies_toUsers {userID : String} {userIDs omitUsers : List String} (nodup : userIDs.Nodup) (filled : "" ∉ userIDs) :
    copies member userID (userIDs.map fun userID =>
        { ev, channelID, userID, reliableClusterSend := reliable, omitUsers }) = if userID ∈ userIDs then 1 else 0 := by
  rw [← nodup.count, copies, List.countP_map, List.count]
  refine List.countP_congr fun other listed => ?_
  have named : other ≠ "" := fun unset => filled (unset ▸ listed)
  simp [Delivery.heardBy, named]

/-- Without users in the call the event goes to all of the channel. -/
theorem copies_toChannel {userID : String} {omitUsers : List String} (named : userID ≠ "") :
    copies member userID [{ ev, channelID, reliableClusterSend := reliable, omitUsers }] =
      if member userID channelID = true ∧ userID ∉ omitUsers then 1 else 0 := by
  simp only [copies, Delivery.heardBy, List.countP_singleton]
  simp [Ne.symm named]

/-- What the participants and the bot get of an event that does not tell of the bot. -/
theorem copies_toParticipants {userID : String} (channel : channelID ≠ "") (named : ∀ session ∈ sessions, session.userID ≠ "")
    (set : userID ≠ "") (other : ev.joinedOrLeft? ≠ some botID) (filled : ∃ session, session ∈ sessions) :
    copies member userID (publishWebSocketEvent botID ev
        { channelID, reliableClusterSend := reliable, userIDs := getUserIDsFromSessions sessions }) =
      if userID = botID ∨ isUserIDInCall sessions userID = true then 1 else 0 := by
  obtain ⟨omitUsers, -, -, published⟩ :=
    Webapp.publishWebSocketEvent_eq botID ev channelID reliable (getUserIDsFromSessions sessions)
  have some : (getUserIDsFromSessions sessions).isEmpty = false := by
    obtain ⟨session, listed⟩ := filled
    have present : session.userID ∈ getUserIDsFromSessions sessions :=
      List.mem_dedup.mpr (List.mem_map_of_mem listed)
    simpa using List.ne_nil_of_mem present
  have nodup : ((getUserIDsFromSessions sessions).filter (· ≠ botID)).Nodup := (List.nodup_dedup _).filter _
  have users : "" ∉ (getUserIDsFromSessions sessions).filter (· ≠ botID) := by
    intro listed
    obtain ⟨session, present, unset⟩ := List.mem_map.mp (List.mem_dedup.mp (List.mem_of_mem_filter listed))
    exact named session present unset
  rw [published, if_neg other, some, if_neg Bool.false_ne_true, copies, List.countP_append]
  refine (congrArg₂ (· + ·) (copies_forBot set channel) (copies_toUsers nodup users)).trans ?_
  by_cases same : userID = botID
  · simp [same]
  · simp [same, mem_getUserIDsFromSessions]

/-- Without participants the bot gets its copy, and so does all of the channel. -/
theorem copies_withoutParticipants {userID : String} (channel : channelID ≠ "") (set : userID ≠ "")
    (other : ev.joinedOrLeft? ≠ some botID) :
    copies member userID (publishWebSocketEvent botID ev { channelID, reliableClusterSend := reliable }) =
      if userID = botID ∨ member userID channelID = true then 1 else 0 := by
  obtain ⟨omitUsers, onlyBot, omitted, published⟩ := Webapp.publishWebSocketEvent_eq botID ev channelID reliable []
  rw [published, if_neg other, List.isEmpty_nil, if_pos rfl, copies, List.countP_append]
  refine (congrArg₂ (· + ·) (copies_forBot set channel) (copies_toChannel set)).trans ?_
  by_cases same : userID = botID
  · simp [same, omitted (same ▸ set) channel]
  · have present : userID ∉ omitUsers := fun listed => same (onlyBot userID listed)
    simp [same, present]

/-- The events for the participants reach them, and only them, as long as there is one. -/
theorem reachesParticipants_iff (member : String → String → Bool) (ev : WsEvent) (reliable : Bool) (channel : channelID ≠ "")
    (named : ∀ session ∈ sessions, session.userID ≠ "") :
    ReachesParticipants botID member ev reliable channelID sessions ↔
      (∃ session, session ∈ sessions) ∨ ev.joinedOrLeft? = some botID ∨
        ∀ userID, userID ≠ "" → member userID channelID = true → userID = botID := by
  by_cases aboutBot : ev.joinedOrLeft? = some botID
  · refine iff_of_true ?_ (.inr (.inl aboutBot))
    intro userID _
    rw [if_pos aboutBot, publishWebSocketEvent, if_pos aboutBot]
    rfl
  by_cases filled : ∃ session, session ∈ sessions
  · refine iff_of_true ?_ (.inl filled)
    intro userID set
    rw [if_neg aboutBot, copies_toParticipants channel named set aboutBot filled]
  have empty : sessions.rows = [] := List.eq_nil_iff_forall_not_mem.mpr fun session listed => filled ⟨session, listed⟩
  have nobody : getUserIDsFromSessions sessions = [] := by rw [getUserIDsFromSessions, empty]; rfl
  have absent (userID : String) : isUserIDInCall sessions userID = false := by rw [isUserIDInCall, empty]; rfl
  constructor
  · intro reaches
    refine .inr (.inr ?_)
    intro userID set joined
    have told := reaches userID set
    rw [if_neg aboutBot, nobody, copies_withoutParticipants channel set aboutBot, absent] at told
    by_contra other
    simp [other, joined] at told
  · intro only
    rcases only with present | about | bots
    · exact absurd present filled
    · exact absurd about aboutBot
    · intro userID set
      rw [if_neg aboutBot, nobody, copies_withoutParticipants channel set aboutBot, absent]
      have same : userID = botID ∨ member userID channelID = true ↔ userID = botID ∨ false = true := by
        simpa using bots userID set
      simp only [same]

end

/-! ### The last participant leaves -/

/-- Alice is alone in the call and shares her screen. -/
def aliceShares : LockedCall :=
  let call : Call :=
    { id := "call", channelID := "channel", startAt := 1000, createAt := 1000, ownerID := "alice",
      props := { CallProps.zero with hosts := ["alice"], screenSharingSessionID := "conn-1", screenStartAt := 1 } }
  let sessions : SessionMap := KeyedTable.empty.put { id := "conn-1", callID := "call", userID := "alice", joinAt := 1000 }
  { world := { World.empty with store := { Store.empty with calls := KeyedTable.empty.put call, sessions } }
    state := { call, sessions, recording := none, transcription := none, liveCaptions := none } }

/-- Alice and Bob are members of the channel. -/
def aliceBobMembers (userID channelID : String) : Bool := channelID = "channel" ∧ (userID = "alice" ∨ userID = "bob")

theorem reachesParticipants_alice :
    ReachesParticipants "bot" aliceBobMembers (.userMuted "alice" "conn-1") true "channel" aliceShares.state.sessions ∧
      isUserIDInCall aliceShares.state.sessions "alice" = true := by
  refine ⟨(reachesParticipants_iff _ _ _ (by decide) ?_).mpr (.inl ?_), by decide⟩
  · decide
  · exact ⟨_, List.mem_singleton_self _⟩

/-- The removal of Alice publishes the end of her screen to the participants that are left, of whom
there are none, and Bob is told. -/
theorem not_reachesParticipants :
    ((removeUserSession (.quiet 2000 "") "channel" { userID := "alice", originalConnID := "conn-1", connID := "conn-1" }
        aliceShares).2.world.published.take 2 =
      publishWebSocketEvent "bot" (.userScreenOff none none)
        { channelID := "channel", reliableClusterSend := true, userIDs := getUserIDsFromSessions .empty }) ∧
      ¬ ReachesParticipants "bot" aliceBobMembers (.userScreenOff none none) true "channel" .empty := by
  refine ⟨by decide +kernel, ?_⟩
  intro reaches
  have told := reaches "bob" (by decide)
  revert told
  decide

end Calls
