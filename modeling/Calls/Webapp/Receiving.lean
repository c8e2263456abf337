import Mathlib.Data.List.Dedup
import Calls.Server.News
import Calls.Webapp.Handlers

/-! Which deliveries of the server reach a client, and what it makes of them. A
delivery to the channel leaves out the users that it omits; one that names a user
goes to the connections of that user only. -/

set_option autoImplicit false

namespace Calls

/-- The delivery goes to everybody in the channel, this member included. -/
def Delivery.toChannel (channelID member : String) (delivery : Delivery) : Bool :=
  delivery.connectionID = "" ∧ delivery.userID = "" ∧ delivery.channelID = channelID ∧ member ∉ delivery.omitUsers

/-- The delivery reaches the connections of the user, who is a member of these channels. -/
def Delivery.heardBy (userID : String) (channels : String → Bool) (delivery : Delivery) : Bool :=
  delivery.connectionID = "" ∧ (delivery.userID = userID ∨
    delivery.userID = "" ∧ channels delivery.channelID = true ∧ userID ∉ delivery.omitUsers)

namespace Webapp

/-- What a client makes of deliveries, in their order. -/
def receive (client : Client) (deliveries : List Delivery) (state : PluginState) : PluginState :=
  deliveries.foldl (fun state delivery => handleEvent client delivery.channelID delivery.ev state) state

section
variable (client : Client)

@[simp] theorem receive_nil (state : PluginState) : receive client [] state = state := rfl

theorem receive_append (first later : List Delivery) (state : PluginState) :
    receive client (first ++ later) state = receive client later (receive client first state) := List.foldl_append

theorem receive_ite (condition : Prop) [Decidable condition] (deliveries : List Delivery) (hears : Delivery → Bool)
    (state : PluginState) : receive client ((if condition then deliveries else []).filter hears) state =
      if condition then receive client (deliveries.filter hears) state else state := by
  split <;> rfl

theorem handleEvent_quiet {ev : WsEvent} (quiet : ev.tellsOfCall = false) (channelID : String) (state : PluginState) :
    handleEvent client channelID ev state = state := by
  cases ev <;> first | rfl | cases quiet

/-- Events that tell nothing of calls may be left out. -/
theorem receive_told (hears : Delivery → Bool) (told : List Delivery) (state : PluginState) :
    receive client (told.filter hears) state = receive client ((told.filter (·.ev.tellsOfCall)).filter hears) state := by
  have skips (deliveries : List Delivery) :
      receive client (deliveries.filter (·.ev.tellsOfCall)) state = receive client deliveries state := by
    unfold receive
    rw [List.foldl_filter]
    refine List.foldl_ext _ _ _ fun state delivery _ => ?_
    split
    · rfl
    · next quiet => exact (handleEvent_quiet client (by simpa using quiet) _ _).symm
  rw [← skips (told.filter hears), List.filter_comm]

/-- What a client has made of all deliveries is brought forward by the news alone. -/
theorem receive_published {before after : World} {news : List Delivery} (tells : Tells before news after)
    (hears : Delivery → Bool) (state : PluginState) :
    receive client (after.published.filter hears) state =
      receive client (news.filter hears) (receive client (before.published.filter hears) state) := by
  obtain ⟨told, published, rfl⟩ := tells
  rw [published, List.filter_append, receive_append, receive_told client hears told]

/-! ### Deliveries to a channel -/

/-- The deliveries of an event to a channel, or to some users in it. -/
theorem publishWebSocketEvent_eq (botID : String) (ev : WsEvent) (target : String) (reliable : Bool) (userIDs : List String) :
    ∃ omitUsers, (∀ userID ∈ omitUsers, userID = botID) ∧ (botID ≠ "" → target ≠ "" → botID ∈ omitUsers) ∧
      publishWebSocketEvent botID ev { channelID := target, reliableClusterSend := reliable, userIDs } =
        if ev.joinedOrLeft? = some botID then []
        else (if botID ≠ "" ∧ target ≠ "" then [{ ev, userID := botID }] else []) ++
          if userIDs.isEmpty then [{ ev, channelID := target, reliableClusterSend := reliable, omitUsers }]
          else (userIDs.filter (· ≠ botID)).map fun userID =>
            { ev, channelID := target, userID, reliableClusterSend := reliable, omitUsers } := by
  unfold publishWebSocketEvent
  by_cases toBot : botID ≠ "" ∧ target ≠ ""
  · refine ⟨[botID], fun userID listed => List.mem_singleton.mp listed, fun _ _ => List.mem_singleton_self botID, ?_⟩
    simp only [if_pos toBot]
    cases userIDs <;> rfl
  · refine ⟨[], fun userID listed => absurd listed List.not_mem_nil, fun set channel => absurd ⟨set, channel⟩ toBot, ?_⟩
    simp only [if_neg toBot]
    cases userIDs <;> rfl

section
variable {botID member : String} (user : member ≠ botID) (channelID : String) (ev : WsEvent) (target : String)

include user in
/-- An event to all of a channel reaches its members, unless it is about the bot. -/
theorem receive_toAll (state : PluginState) :
    receive client ((publishWebSocketEvent botID ev { channelID := target, reliableClusterSend := true }).filter
        (·.toChannel channelID member)) state =
      if ev.joinedOrLeft? = some botID ∨ target ≠ channelID then state else handleEvent client channelID ev state := by
  obtain ⟨omitUsers, onlyBot, -, published⟩ := publishWebSocketEvent_eq botID ev target true []
  have present : member ∉ omitUsers := fun listed => user (onlyBot member listed)
  rw [published]
  by_cases aboutBot : ev.joinedOrLeft? = some botID
  · rw [if_pos aboutBot, if_pos (.inl aboutBot)]
    rfl
  · have ofBot : (if botID ≠ "" ∧ target ≠ "" then [({ ev, userID := botID } : Delivery)] else []).filter
        (·.toChannel channelID member) = [] := by
      split
      · next toBot => simp [Delivery.toChannel, toBot.1]
      · rfl
    rw [if_neg aboutBot, List.filter_append, ofBot, List.nil_append]
    by_cases here : target = channelID <;> simp [here, aboutBot, present, Delivery.toChannel, receive]

/-- An event to some users is not one to the channel. -/
theorem receive_toSome (userIDs : List String) (filled : userIDs ≠ []) (named : ∀ userID ∈ userIDs, userID ≠ "")
    (state : PluginState) :
    receive client ((publishWebSocketEvent botID ev { channelID := target, reliableClusterSend := true, userIDs }).filter
      (·.toChannel channelID member)) state = state := by
  obtain ⟨omitUsers, -, -, published⟩ := publishWebSocketEvent_eq botID ev target true userIDs
  have none : (publishWebSocketEvent botID ev { channelID := target, reliableClusterSend := true, userIDs }).filter
      (·.toChannel channelID member) = [] := by
    rw [published, List.filter_eq_nil_iff]
    intro delivery sent
    have toUser : delivery.userID ≠ "" := by
      split at sent
      · cases sent
      · rcases List.mem_append.mp sent with forBot | others
        · split at forBot
          · next toBot =>
            rw [List.mem_singleton.mp forBot]
            exact toBot.1
          · cases forBot
        · rw [if_neg (by simpa using filled)] at others
          obtain ⟨userID, listed, rfl⟩ := List.mem_map.mp others
          exact named userID (List.mem_filter.mp listed).1
    simp [Delivery.toChannel, toUser]
  rw [none]
  rfl

/-- An event to the connections of one user is not one to the channel either. -/
theorem receive_toOne (userID : String) (named : userID ≠ "") (state : PluginState) :
    receive client ((publishWebSocketEvent botID ev { userID, reliableClusterSend := true }).filter
      (·.toChannel channelID member)) state = state := by
  have none : (publishWebSocketEvent botID ev { userID, reliableClusterSend := true }).filter
      (·.toChannel channelID member) = [] := by
    unfold publishWebSocketEvent
    split
    · rfl
    · simp [Delivery.toChannel, WebSocketBroadcast.toModel, named]
  rw [none]
  rfl

/-- Events to the participants of a call are not for the channel, as long as there are participants. -/
theorem receive_participants {cs : Calls.CallState} (filled : cs.sessions.size ≠ 0) (named : ∀ session ∈ cs.sessions, session.userID ≠ "")
    (state : PluginState) :
    receive client ((publishWebSocketEvent botID ev (cs.toParticipants target)).filter (·.toChannel channelID member)) state =
      state := by
  refine receive_toSome client channelID ev target (getUserIDsFromSessions cs.sessions) (fun none => ?_) (fun userID listed => ?_) state
  · obtain ⟨session, member⟩ := KeyedTable.exists_mem_of_size filled
    have listed : session.userID ∈ getUserIDsFromSessions cs.sessions :=
      List.mem_dedup.mpr (List.mem_map.mpr ⟨session, member, rfl⟩)
    rw [none] at listed
    cases listed
  · obtain ⟨session, member, rfl⟩ := List.mem_map.mp (List.mem_dedup.mp listed)
    exact named session member

include user in
theorem receive_noParticipants {cs : Calls.CallState} (empty : cs.sessions.size = 0) (state : PluginState) :
    receive client ((publishWebSocketEvent botID ev (cs.toParticipants target)).filter (·.toChannel channelID member)) state =
      if ev.joinedOrLeft? = some botID ∨ target ≠ channelID then state else handleEvent client channelID ev state := by
  have none : cs.toParticipants target = { channelID := target, reliableClusterSend := true } := by
    rw [CallState.toParticipants, getUserIDsFromSessions, List.length_eq_zero_iff.mp empty]
    rfl
  rw [none]
  exact receive_toAll client user channelID ev target state

end

/-! ### Deliveries to a participant -/

section
variable {botID member : String} (user : member ≠ botID) (channels : String → Bool) (ev : WsEvent) (target : String)

include user in
theorem heardBy_forBot (condition : Prop) [Decidable condition] (notEmpty : condition → botID ≠ "") :
    (if condition then [({ ev, userID := botID } : Delivery)] else []).filter (·.heardBy member channels) = [] := by
  split
  · next toBot => simp [Delivery.heardBy, notEmpty toBot, Ne.symm user]
  · rfl

include user in
/-- Whoever is in a call hears what is told to its participants, once. -/
theorem receive_asParticipant {cs : Calls.CallState} (present : member ∈ getUserIDsFromSessions cs.sessions)
    (allNamed : ∀ session ∈ cs.sessions, session.userID ≠ "") (state : PluginState) :
    receive client ((publishWebSocketEvent botID ev (cs.toParticipants target)).filter (·.heardBy member channels)) state =
      if ev.joinedOrLeft? = some botID then state else handleEvent client target ev state := by
  obtain ⟨omitUsers, -, -, published⟩ := publishWebSocketEvent_eq botID ev target true (getUserIDsFromSessions cs.sessions)
  have sent : publishWebSocketEvent botID ev (cs.toParticipants target) = _ := published
  rw [sent]
  split
  · rfl
  · have filled : ¬ (getUserIDsFromSessions cs.sessions).isEmpty = true := by
      rw [List.isEmpty_iff]
      exact List.ne_nil_of_mem present
    have own : ((getUserIDsFromSessions cs.sessions).filter (· ≠ botID)).filter (fun userID =>
        ({ ev, channelID := target, userID, reliableClusterSend := true, omitUsers } : Delivery).heardBy member channels) =
          [member] := by
      rw [List.filter_filter]
      have single : (getUserIDsFromSessions cs.sessions).filter (· = member) = [member] := by
        have once : (getUserIDsFromSessions cs.sessions).count member = 1 :=
          List.count_eq_one_of_mem (List.nodup_dedup _) present
        rw [List.filter_eq, once, List.replicate_one]
      rw [← single]
      refine List.filter_congr fun userID listed => ?_
      obtain ⟨session, stored, rfl⟩ := List.mem_map.mp (List.mem_dedup.mp listed)
      by_cases here : session.userID = member
      · simp [Delivery.heardBy, here, user]
      · simp [Delivery.heardBy, here, allNamed session stored]
    rw [if_neg filled, List.filter_append, heardBy_forBot user channels ev _ fun toBot => toBot.1, List.nil_append,
      List.filter_map]
    exact congrArg (fun userIDs : List String => receive client (userIDs.map fun userID =>
      { ev, channelID := target, userID, reliableClusterSend := true, omitUsers }) state) own

include user in
/-- What is told to a channel reaches its members, unless it is about the bot. -/
theorem receive_asMember (inChannel : channels target = true) (state : PluginState) :
    receive client ((publishWebSocketEvent botID ev { channelID := target, reliableClusterSend := true }).filter
        (·.heardBy member channels)) state =
      if ev.joinedOrLeft? = some botID then state else handleEvent client target ev state := by
  obtain ⟨omitUsers, onlyBot, -, published⟩ := publishWebSocketEvent_eq botID ev target true []
  have notOmitted : member ∉ omitUsers := fun listed => user (onlyBot member listed)
  rw [published]
  split
  · rfl
  · rw [List.filter_append, heardBy_forBot user channels ev _ fun toBot => toBot.1, List.nil_append]
    simp [Delivery.heardBy, inChannel, notOmitted, receive]

/-- What is told to one user reaches that user. -/
theorem receive_asUser (userID : String) (named : userID ≠ "") (state : PluginState) :
    receive client ((publishWebSocketEvent botID ev { userID, reliableClusterSend := true }).filter
        (·.heardBy member channels)) state =
      if ev.joinedOrLeft? = some botID ∨ userID ≠ member then state else handleEvent client "" ev state := by
  unfold publishWebSocketEvent
  by_cases aboutBot : ev.joinedOrLeft? = some botID
  · rw [if_pos aboutBot, if_pos (.inl aboutBot)]
    rfl
  · by_cases here : userID = member
    · simp [aboutBot, here, WebSocketBroadcast.toModel, Delivery.heardBy, receive]
    · simp [aboutBot, here, WebSocketBroadcast.toModel, Delivery.heardBy, named]

end

end

end Webapp

end Calls
