import Calls.Server.SignallingProperties

/-! Whose the messages are that wait, that are on their way to another node and that
the RTC side is told. Each is of the user of its session, whatever clients say. -/

set_option autoImplicit false

namespace Calls

/-! ### What a step does to the messages -/

/-- Everything the reader of an object can do with a message. -/
inductive ReadEffect (s : Signalling) (nodeID : String) (us : SessionObject) (message : PostedMessage) (handlerID : String) :
    Signalling → Prop where
  | dropped : ReadEffect s nodeID us message handlerID s
  | relayed {relay : RelayType} : message.type.relayType? = some relay →
      ReadEffect s nodeID us message handlerID
        { s with
          relayed := s.relayed ++
            [⟨relay, handlerID, us.originalConnID, us.userID, us.channelID, us.callID, nodeID, message⟩] }
  | told {type : RTCMessageType} : message.type.rtcType? = some type →
      ReadEffect s nodeID us message handlerID
        { s with told := s.told ++ [⟨nodeID, us.originalConnID, type, message, false⟩] }

theorem Signalling.handleClientMsg_effect (s : Signalling) (nodeID : String) (us : SessionObject) (message : PostedMessage)
    (handlerID : String) (granted sends : Bool) :
    ReadEffect s nodeID us message handlerID (s.handleClientMsg nodeID us message handlerID granted sends) := by
  unfold handleClientMsg
  split
  · next relay type relays tells =>
    split
    · exact .dropped
    · split
      · unfold sendClusterMessage
        split
        · exact .relayed relays
        · exact .dropped
      · unfold sendRTCMessage
        split
        · exact .told tells
        · exact .dropped
  · exact .dropped

/-- A message that has come to another node is told to the RTC side for the object found there, or lost. -/
theorem Signalling.handleRelayed_effect (s : Signalling) (message : RelayedMessage) (key : String) (sends : Bool) :
    s.handleRelayed message key sends = s ∨
      ∃ us type, (s.records.nodes message.targetID).getSessionByOriginalID? message.connID key = some us ∧
        message.type.rtcType? message.clientMessage.type = some type ∧
        s.handleRelayed message key sends =
          { s with told := s.told ++ [⟨message.targetID, us.originalConnID, type, message.clientMessage, true⟩] } := by
  unfold handleRelayed
  split
  · next us type found tells =>
    unfold sendRTCMessage
    split
    · exact .inr ⟨us, type, found, tells, rfl⟩
    · exact .inl rfl
  · exact .inl rfl

/-- A message that is posted waits for the reader of the object under its connection, or is dropped. -/
theorem Signalling.post_effect (s : Signalling) (nodeID userID connID : String) (type : ClientMessageType)
    (data : Option (List UInt8)) (limited : Bool) :
    s.webSocketMessageHasBeenPosted nodeID userID connID type data limited = s ∨
      ∃ us read, (s.records.nodes nodeID).sessions.get? connID = some us ∧
        s.webSocketMessageHasBeenPosted nodeID userID connID type data limited =
          { s.setChannel nodeID us (s.wsMsgCh nodeID us ++ [⟨s.posted, userID, connID, nodeID, us, type, read⟩]) with
            posted := s.posted + 1 } := by
  unfold webSocketMessageHasBeenPosted
  split
  · next us read stored _ =>
    split
    · exact .inr ⟨us, read, stored, rfl⟩
    · exact .inl rfl
  · exact .inl rfl

theorem Signalling.mem_setChannel {s : Signalling} {nodeID other : String} {us place : Nat} {messages : List PostedMessage}
    {message : PostedMessage} : message ∈ (s.setChannel nodeID us messages).wsMsgCh other place ↔
      ((other = nodeID ∧ place = us) ∧ message ∈ messages) ∨ (¬ (other = nodeID ∧ place = us) ∧ message ∈ s.wsMsgCh other place) := by
  by_cases node : other = nodeID
  · subst node
    by_cases same : place = us
    · subst same
      simp [setChannel]
    · simp [setChannel, same]
  · simp [setChannel, node]

theorem Signalling.setChannel_self (s : Signalling) (nodeID : String) (us : Nat) (messages : List PostedMessage) :
    (s.setChannel nodeID us messages).wsMsgCh nodeID us = messages := by
  simp [setChannel]

/-! ### Whose messages they are -/

def PostedMessage.Vouched (owner : String → String) (message : PostedMessage) : Prop := owner message.connID = message.userID

structure RelayedMessage.Vouched (owner : String → String) (message : RelayedMessage) : Prop where
  session : owner message.connID = message.clientMessage.userID
  posted : message.clientMessage.Vouched owner
  type : message.clientMessage.type.relayType? = some message.type

/-- What the RTC side is told about a session is what the user of the session has posted. -/
structure RTCMessage.Vouched (owner : String → String) (message : RTCMessage) : Prop where
  session : owner message.sessionID = message.message.userID
  posted : message.message.Vouched owner
  type : message.message.type.rtcType? = some message.type

structure Signalling.Vouched (owner : String → String) (honest : Prop) (s : Signalling) : Prop where
  nodes : ∀ nodeID, (s.records.nodes nodeID).Vouched owner honest []
  rows : ∀ sessionID userID, s.callsSessions.get? sessionID = some userID → owner sessionID = userID
  waiting : ∀ nodeID us, ∀ message ∈ s.wsMsgCh nodeID us, message.Vouched owner ∧
    ((s.records.nodes nodeID).objects.map (·.userID))[us]? = some message.userID
  relayed : ∀ message ∈ s.relayed, message.Vouched owner
  told : ∀ message ∈ s.told, message.Vouched owner
  signals : honest → ∀ signal ∈ s.signals, owner signal.connectionID = owner signal.sessionID

/-- A client that comes back names a connection of its own as its previous one. -/
def SignallingStep.NamesOwn (owner : String → String) : SignallingStep → Prop
  | .act _ (.reconnect req _ _ _) => owner req.prevConnID = req.userID
  | _ => True

section
variable {owner : String → String} {honest : Prop} {s after : Signalling} {node next : NodeRecords} {nodeID : String}

theorem NodeRecords.Vouched.getSessionByOriginalID? {users : List String} (vouched : node.Vouched owner honest users)
    {sessionID key : String} {us : SessionObject} (found : node.getSessionByOriginalID? sessionID key = some us) :
    us.userID = owner sessionID ∧ us.Vouched owner honest := by
  unfold NodeRecords.getSessionByOriginalID? at found
  split at found
  · next here =>
    cases found
    exact vouched.at? here
  · obtain ⟨there, named⟩ := Option.filter_eq_some_iff.mp found
    have own := (vouched.at? there).2
    have same : us.originalConnID = sessionID := by simpa using named
    exact ⟨same ▸ own.session, own⟩

/-- The objects of a node stay their users' through whatever its goroutines do. -/
theorem NodeRecords.Vouched.next? {users : List String} (vouched : node.Vouched owner honest users) {step : RecordStep}
    (admitted : Signalling.admits owner s step = true)
    (rows : ∀ sessionID userID, s.callsSessions.get? sessionID = some userID → owner sessionID = userID)
    (truthful : honest → (SignallingStep.act nodeID step).NamesOwn owner)
    (taken : node.next? nodeID step = some next) : next.Vouched owner honest users := by
  cases step with
  | join joiner memberCount added =>
      cases taken
      have authentic : owner joiner.connID = joiner.userID := of_decide_eq_true admitted
      exact vouched.handleJoin authentic memberCount added
  | runJoin channelID added => exact vouched.runJoin? taken
  | reconnect req callID botFails sendFails =>
      cases taken
      have facts : owner req.connID = req.userID ∧ s.callsSessions.get? req.originalConnID = some req.userID := by
        simpa [Signalling.admits] using admitted
      exact vouched.handleReconnect facts.1 (rows _ _ facts.2) truthful callID botFails sendFails
  | clear us connID =>
      cases taken
      exact vouched.clearReconnected us connID
  | remove us sessionsCount locked =>
      obtain ⟨object, found, rfl⟩ := Option.map_eq_some_iff.mp taken
      exact vouched.removeSession found sessionsCount locked
  | runRemove channelID =>
      obtain ⟨popped, found, rfl⟩ := Option.map_eq_some_iff.mp taken
      exact (vouched.popRemoval? found).removeSessionFromCall popped.1

/-- A step that adds a session adds it for the user of its connection. -/
theorem NodeRecords.Vouched.adds? {users : List String} (vouched : node.Vouched owner honest users) {step : RecordStep}
    (admitted : Signalling.admits owner s step = true) {joiner : Joiner} {added : Added}
    (adds : node.adds? step = some (joiner, added)) : joiner.Vouched owner := by
  unfold NodeRecords.adds? at adds
  split at adds
  · split at adds
    · cases adds
      have authentic : owner joiner.connID = joiner.userID := of_decide_eq_true admitted
      exact authentic
    · cases adds
  · split at adds
    · next there =>
      cases adds
      exact vouched.joiners _ _ there joiner List.mem_cons_self
    · cases adds
  · cases adds

namespace Signalling.Vouched

/-- Messages wait for readers of objects that stay their users'. -/
theorem withNode (vouched : s.Vouched owner honest) {records : RecordsCluster} {callsSessions : StringMap String}
    (rows : ∀ sessionID userID, callsSessions.get? sessionID = some userID → owner sessionID = userID)
    (here : next.Vouched owner honest ((s.records.nodes nodeID).objects.map (·.userID)))
    (nodes : records.nodes = Function.update s.records.nodes nodeID next) :
    ({ s with records, callsSessions } : Signalling).Vouched owner honest where
  nodes := by
    intro other
    dsimp only
    rw [nodes]
    by_cases same : other = nodeID
    · subst same
      rw [Function.update_self]
      exact { here with known := List.nil_prefix }
    · rw [Function.update_of_ne same]
      exact vouched.nodes other
  rows := rows
  waiting := by
    intro other us message waits
    obtain ⟨own, user⟩ := vouched.waiting other us message waits
    refine ⟨own, ?_⟩
    dsimp only
    rw [nodes]
    by_cases same : other = nodeID
    · subst same
      obtain ⟨added, whole⟩ := here.known
      rw [Function.update_self, ← whole, List.getElem?_append_left (List.getElem?_eq_some_iff.mp user).1]
      exact user
    · rw [Function.update_of_ne same]
      exact user
  relayed := vouched.relayed
  told := vouched.told
  signals := vouched.signals

theorem rows_erase (vouched : s.Vouched owner honest) (gone : String) :
    ({ s with callsSessions := s.callsSessions.erase gone } : Signalling).Vouched owner honest where
  nodes := vouched.nodes
  rows := by
    intro sessionID userID row
    rw [StringMap.get?_erase] at row
    split at row
    · cases row
    · exact vouched.rows sessionID userID row
  waiting := vouched.waiting
  relayed := vouched.relayed
  told := vouched.told
  signals := vouched.signals

theorem rows_addRow (vouched : s.Vouched owner honest) {adds : Option (Joiner × Added)}
    (own : ∀ joiner added, adds = some (joiner, added) → joiner.Vouched owner) (sessionID userID : String)
    (row : (addRow s.callsSessions adds).get? sessionID = some userID) : owner sessionID = userID := by
  cases adds with
  | none => exact vouched.rows sessionID userID row
  | some add =>
      obtain ⟨joiner, added⟩ := add
      simp only [addRow, StringMap.get?_set] at row
      split at row
      · next here =>
        cases row
        rw [here]
        exact own joiner added rfl
      · exact vouched.rows sessionID userID row

theorem setChannel (vouched : s.Vouched owner honest) {us : Nat} {messages : List PostedMessage}
    (own : ∀ message ∈ messages, message.Vouched owner ∧
      ((s.records.nodes nodeID).objects.map (·.userID))[us]? = some message.userID) :
    (s.setChannel nodeID us messages).Vouched owner honest where
  nodes := vouched.nodes
  rows := vouched.rows
  waiting := by
    intro other place message waits
    rcases mem_setChannel.mp waits with ⟨⟨rfl, rfl⟩, here⟩ | ⟨-, there⟩
    · exact own message here
    · exact vouched.waiting other place message there
  relayed := vouched.relayed
  told := vouched.told
  signals := vouched.signals

theorem relay (vouched : s.Vouched owner honest) {message : RelayedMessage} (own : message.Vouched owner) :
    ({ s with relayed := s.relayed ++ [message] } : Signalling).Vouched owner honest where
  nodes := vouched.nodes
  rows := vouched.rows
  waiting := vouched.waiting
  relayed := List.forall_mem_append.mpr ⟨vouched.relayed, List.forall_mem_singleton.mpr own⟩
  told := vouched.told
  signals := vouched.signals

theorem tell (vouched : s.Vouched owner honest) {message : RTCMessage} (own : message.Vouched owner) :
    ({ s with told := s.told ++ [message] } : Signalling).Vouched owner honest where
  nodes := vouched.nodes
  rows := vouched.rows
  waiting := vouched.waiting
  relayed := vouched.relayed
  told := List.forall_mem_append.mpr ⟨vouched.told, List.forall_mem_singleton.mpr own⟩
  signals := vouched.signals

theorem erase (vouched : s.Vouched owner honest) (place : Nat) :
    ({ s with relayed := s.relayed.eraseIdx place } : Signalling).Vouched owner honest where
  nodes := vouched.nodes
  rows := vouched.rows
  waiting := vouched.waiting
  relayed message listed := vouched.relayed message (List.mem_of_mem_eraseIdx listed)
  told := vouched.told
  signals := vouched.signals

theorem post (vouched : s.Vouched owner honest) {userID connID : String} (authentic : owner connID = userID)
    (type : ClientMessageType) (data : Option (List UInt8)) (limited : Bool) :
    (s.webSocketMessageHasBeenPosted nodeID userID connID type data limited).Vouched owner honest := by
  rcases s.post_effect nodeID userID connID type data limited with same | ⟨us, read, stored, queued⟩
  · rw [same]
    exact vouched
  · rw [queued]
    obtain ⟨object, found, user⟩ := (vouched.nodes nodeID).entries connID us stored
    have filled : (s.setChannel nodeID us
        (s.wsMsgCh nodeID us ++ [⟨s.posted, userID, connID, nodeID, us, type, read⟩])).Vouched owner honest := by
      apply vouched.setChannel
      refine List.forall_mem_append.mpr ⟨vouched.waiting nodeID us, List.forall_mem_singleton.mpr ⟨authentic, ?_⟩⟩
      rw [List.getElem?_map, found, Option.map_some, user, authentic]
    exact { filled with }

theorem read (vouched : s.Vouched owner honest) {us : Nat} {object : SessionObject}
    (found : (s.records.nodes nodeID).objects[us]? = some object) {message : PostedMessage} {waiting : List PostedMessage}
    (queue : s.wsMsgCh nodeID us = message :: waiting) (handlerID : String) (granted sends : Bool) :
    ((s.setChannel nodeID us waiting).handleClientMsg nodeID object message handlerID granted sends).Vouched owner honest := by
  have taken : (s.setChannel nodeID us waiting).Vouched owner honest := vouched.setChannel fun other listed =>
    vouched.waiting nodeID us other (by rw [queue]; exact List.mem_cons_of_mem message listed)
  obtain ⟨own, user⟩ := vouched.waiting nodeID us message (by rw [queue]; exact List.mem_cons_self)
  rw [List.getElem?_map, found, Option.map_some, Option.some.injEq] at user
  have session := ((vouched.nodes nodeID).objects object (List.mem_of_getElem? found)).session
  have effect := (s.setChannel nodeID us waiting).handleClientMsg_effect nodeID object message handlerID granted sends
  generalize (s.setChannel nodeID us waiting).handleClientMsg nodeID object message handlerID granted sends = after at effect ⊢
  cases effect with
  | dropped => exact taken
  | relayed relays => exact taken.relay ⟨by rw [← user, session], own, relays⟩
  | told tells => exact taken.tell ⟨by rw [← user, session], own, tells⟩

theorem deliverRelayed (vouched : s.Vouched owner honest) {place : Nat} {message : RelayedMessage}
    (waits : s.relayed[place]? = some message) (key : String) (sends : Bool) :
    ({ s with relayed := s.relayed.eraseIdx place }.handleRelayed message key sends).Vouched owner honest := by
  have taken := vouched.erase place
  have own := vouched.relayed message (List.mem_of_getElem? waits)
  rcases handleRelayed_effect { s with relayed := s.relayed.eraseIdx place } message key sends with
    same | ⟨us, type, found, tells, told⟩
  · rw [same]
    exact taken
  · rw [told]
    obtain ⟨user, object⟩ := (vouched.nodes message.targetID).getSessionByOriginalID? found
    rw [RelayType.rtcType?_eq own.type] at tells
    exact taken.tell ⟨by rw [← object.session, user, own.session], own.posted, tells⟩

theorem writeSignal (vouched : s.Vouched owner honest) (sessionID key : String) :
    (s.writeSignal nodeID sessionID key).Vouched owner honest := by
  unfold Signalling.writeSignal
  split
  · next us found =>
    obtain ⟨user, object⟩ := (vouched.nodes nodeID).getSessionByOriginalID? found
    have own (honestly : honest) : owner us.connID = owner sessionID := (object.connection honestly).symm.trans user
    exact
      { vouched with
        signals := fun honestly => List.forall_mem_append.mpr
          ⟨vouched.signals honestly, List.forall_mem_singleton.mpr (own honestly)⟩ }
  · exact vouched

/-- What each step keeps. -/
theorem next? (vouched : s.Vouched owner honest) {step : SignallingStep} (truthful : honest → step.NamesOwn owner)
    (taken : Signalling.next? owner s step = some after) : after.Vouched owner honest := by
  cases step with
  | act nodeID step =>
      simp only [Signalling.next?] at taken
      split at taken
      · next admitted =>
        obtain ⟨records, moved, rfl⟩ := Option.map_eq_some_iff.mp taken
        obtain ⟨node, ran, rfl⟩ := Option.map_eq_some_iff.mp moved
        have here := (vouched.nodes nodeID).now.next? admitted vouched.rows truthful ran
        refine vouched.withNode (vouched.rows_addRow fun joiner added adds => ?_) here rfl
        exact (vouched.nodes nodeID).adds? admitted adds
      · cases taken
  | deliver nodeID senderID number =>
      obtain ⟨records, moved, rfl⟩ := Option.map_eq_some_iff.mp taken
      obtain ⟨msg, pending, rfl⟩ := Option.map_eq_some_iff.mp moved
      have listed : msg ∈ (s.records.nodes senderID).sent := by
        unfold RecordsCluster.pending? at pending
        split at pending
        · cases pending
        · exact List.mem_of_getElem? (Option.filter_eq_some_iff.mp pending).1
      have here := (vouched.nodes nodeID).now.handleEvent ((vouched.nodes senderID).sent msg listed)
      exact vouched.withNode vouched.rows here rfl
  | leaveCall sessionID =>
      cases taken
      exact vouched.rows_erase sessionID
  | post nodeID userID connID type data limited =>
      simp only [Signalling.next?] at taken
      split at taken
      · next authentic =>
        cases taken
        exact vouched.post authentic type data limited
      · cases taken
  | read nodeID us handlerID granted sends =>
      simp only [Signalling.next?] at taken
      split at taken
      · cases taken
      · split at taken
        · next found queue =>
          cases taken
          exact vouched.read found queue handlerID granted sends
        · cases taken
  | deliverRelayed place key sends =>
      obtain ⟨message, waits, rfl⟩ := Option.map_eq_some_iff.mp taken
      exact vouched.deliverRelayed waits key sends
  | signal nodeID sessionID key =>
      cases taken
      exact vouched.writeSignal sessionID key

end Signalling.Vouched

theorem Signalling.vouched_idle (owner : String → String) (honest : Prop) : Signalling.idle.Vouched owner honest where
  nodes nodeID :=
    { known := List.nil_prefix
      entries := fun key us stored => by cases stored
      objects := fun object listed => absurd listed List.not_mem_nil
      sent := fun msg listed => absurd listed List.not_mem_nil
      joiners := fun channelID batcher there => by cases there }
  rows sessionID userID row := by cases row
  waiting nodeID us message waits := absurd waits List.not_mem_nil
  relayed message listed := absurd listed List.not_mem_nil
  told message listed := absurd listed List.not_mem_nil
  signals _ signal listed := absurd listed List.not_mem_nil

end

end Calls
