import Calls.Server.RecordKeys

/-! Sessions whose clients come back with other connections, through any node.
An observer knows the connection that each client has and the node that has the
RTC side of its session. -/

set_option autoImplicit false

namespace Calls

def ClusterMessage.connID : ClusterMessage → String
  | .connect _ _ connID _ _ _ => connID
  | .reconnect _ connID _ _ _ => connID

namespace NodeRecords

/-- `getSessionByOriginalID`. Where the map is searched, its order is not known. -/
def GetsByOriginalID (node : NodeRecords) (sessionID : String) (us : SessionObject) : Prop :=
  node.at? sessionID = some us ∨
    node.at? sessionID = none ∧ ∃ key, node.at? key = some us ∧ us.originalConnID = sessionID

/-- The session that a step adds to its node. -/
def adds? (node : NodeRecords) : RecordStep → Option (Joiner × Added)
  | .join joiner memberCount (some added) =>
    if node.addSessionsBatchers.get? joiner.channelID = none ∧ memberCount < minMembersCountForBatching then
      some (joiner, added)
    else none
  | .runJoin channelID (some added) =>
    match node.addSessionsBatchers.get? channelID with
    | some ⟨_, joiner :: _⟩ => some (joiner, added)
    | _ => none
  | _ => none

/-- A reconnection is refused where the object found has reconnected before. -/
def GoesThrough (node : NodeRecords) (req : ReconnectRequest) (botFails : Bool) : Prop :=
  (∀ found, node.reconnecting? req.connID req.prevConnID = some found → found.2.wsReconnected = false) ∧ botFails = false

def goesThrough (node : NodeRecords) (req : ReconnectRequest) (botFails : Bool) : Bool :=
  !(node.reconnecting? req.connID req.prevConnID).any (·.2.wsReconnected) && !botFails

theorem goesThrough_iff {node : NodeRecords} {req : ReconnectRequest} {botFails : Bool} :
    node.goesThrough req botFails = true ↔ node.GoesThrough req botFails := by
  unfold goesThrough GoesThrough
  cases node.reconnecting? req.connID req.prevConnID <;> simp

end NodeRecords

/-- What is known of the connections in use: the session of each, the connection
that the client of a session has, the node asked to have its RTC side, and the
nodes through which it has reconnected, the latest first. -/
structure Roaming where
  session? : String → Option String
  current? : String → Option String
  handler? : String → Option String
  through : String → List String

namespace Roaming

def unseen : Roaming := ⟨fun _ => none, fun _ => none, fun _ => none, fun _ => []⟩

def joined (r : Roaming) (nodeID : String) (joiner : Joiner) (added : Added) : Roaming where
  session? := Function.update r.session? joiner.connID (some joiner.connID)
  current? := Function.update r.current? joiner.connID (some joiner.connID)
  handler? := Function.update r.handler? joiner.connID
    (if added.rtcd = false ∧ (added.handlerID = nodeID ∨ added.sendFails = false) then some added.handlerID else none)
  through := Function.update r.through joiner.connID []

def reconnected (r : Roaming) (nodeID : String) (req : ReconnectRequest) : Roaming where
  session? := Function.update r.session? req.connID (some req.originalConnID)
  current? := Function.update r.current? req.originalConnID (some req.connID)
  handler? := r.handler?
  through := Function.update r.through req.originalConnID (nodeID :: r.through req.originalConnID)

def noteStep (r : Roaming) (nodeID : String) (node : NodeRecords) (step : RecordStep) : Roaming :=
  match node.adds? step with
  | some (joiner, added) => r.joined nodeID joiner added
  | none =>
    match step with
    | .reconnect req _ botFails _ => if node.goesThrough req botFails then r.reconnected nodeID req else r
    | _ => r

def note (r : Roaming) (c : RecordsCluster) (label : RecordsClusterStep) (_ : RecordsCluster) : Roaming :=
  match label with
  | .act nodeID step => r.noteStep nodeID (c.nodes nodeID) step
  | .deliver _ _ _ => r

/-- The message is about a connection of the session. -/
def Concerns (r : Roaming) (sessionID : String) (msg : ClusterMessage) : Prop := r.session? msg.connID = some sessionID

end Roaming

def roamingCluster : System (RecordsCluster × Roaming) RecordsClusterStep :=
  recordsCluster.observed .unseen Roaming.note

/-- New connections are new, and a client that comes back says truly which
connection it had last. -/
def Honest (state : RecordsCluster × Roaming) : RecordsClusterStep → Prop
  | .act nodeID step =>
    (∀ joiner added, (state.1.nodes nodeID).adds? step = some (joiner, added) → state.2.session? joiner.connID = none) ∧
      match step with
      | .reconnect req _ _ _ =>
        state.2.current? req.originalConnID = some req.prevConnID ∧ state.2.session? req.connID = none
      | _ => True
  | .deliver _ _ _ => True

/-- The node has handled all messages about the session. -/
def Settled (c : RecordsCluster) (r : Roaming) (nodeID sessionID : String) : Prop :=
  ∀ senderID number msg, c.pending? nodeID senderID number = some msg → ¬ r.Concerns sessionID msg

/-- No object of the session has been given to `removeSession`. -/
def NodeRecords.Alive (node : NodeRecords) (sessionID : String) : Prop :=
  ∀ (us : Nat) (object : SessionObject), node.objects[us]? = some object → object.originalConnID = sessionID →
    object.removed = false

/-- What the RTC side has for the client of a session reaches the connection that the client has. -/
def Reached (c : RecordsCluster) (r : Roaming) (sessionID : String) : Prop :=
  ∀ nodeID connID, r.handler? sessionID = some nodeID → r.current? sessionID = some connID →
    (c.nodes nodeID).Alive sessionID → Settled c r nodeID sessionID →
      (∃ us, (c.nodes nodeID).GetsByOriginalID sessionID us) ∧
        ∀ us, (c.nodes nodeID).GetsByOriginalID sessionID us → us.connID = connID

/-- The node has an object of the session in its map. -/
def NodeRecords.Holds (node : NodeRecords) (sessionID : String) : Prop :=
  ∃ key us, node.at? key = some us ∧ us.originalConnID = sessionID

/-- A client comes back at most once through the node of the RTC side of its
session and at most once through others. That node has an object of the session
by then, and does not fail; the message of another node is sent, and does not
overtake the one by which the session was added. -/
def Steady (state : RecordsCluster × Roaming) : RecordsClusterStep → Prop
  | .act nodeID (.reconnect req _ botFails sendFails) =>
    ∀ handlerID, state.2.handler? req.originalConnID = some handlerID →
      (state.1.nodes handlerID).Alive req.originalConnID →
        (nodeID = handlerID → botFails = false) ∧
        ((state.1.nodes nodeID).GoesThrough req botFails →
          (nodeID = handlerID →
            (state.1.nodes handlerID).Holds req.originalConnID ∧ handlerID ∉ state.2.through req.originalConnID) ∧
          (nodeID ≠ handlerID →
            sendFails = false ∧ ∀ other ∈ state.2.through req.originalConnID, other = handlerID))
  | .act _ _ => True
  | .deliver nodeID senderID number =>
    ∀ fromID connID newConnID userID callID sessionID,
      state.1.pending? nodeID senderID number = some (.reconnect fromID connID newConnID userID callID) →
        state.2.session? connID = some sessionID → state.2.handler? sessionID = some nodeID →
          (state.1.nodes nodeID).Alive sessionID → (state.1.nodes nodeID).Holds sessionID

/-! ### Entries of the map -/

namespace NodeRecords

variable {node after : NodeRecords} {sessionID : String}

/-- Every entry points to an object. -/
def InRange (node : NodeRecords) : Prop := ∀ key us, node.sessions.get? key = some us → us < node.objects.length

theorem at?_store (range : node.InRange) (key other : String) (object : SessionObject) :
    (node.store key object).at? other = if other = key then some object else node.at? other := by
  unfold at? store
  rw [StringMap.get?_set]
  split
  · simp
  · cases stored : node.sessions.get? other with
    | none => rfl
    | some us => simp [List.getElem?_append_left (range other us stored)]

theorem at?_delete (key other : String) :
    (node.delete key).at? other = if other = key then none else node.at? other := by
  unfold at? delete
  rw [StringMap.get?_erase]
  split <;> rfl

theorem at?_setObject {us : Nat} {old : SessionObject} (found : node.objects[us]? = some old) (object : SessionObject)
    (key : String) :
    (node.setObject us object).at? key = if node.sessions.get? key = some us then some object else node.at? key := by
  have inside := (List.getElem?_eq_some_iff.mp found).1
  unfold at? setObject
  cases stored : node.sessions.get? key with
  | none => simp
  | some other =>
    by_cases same : other = us
    · subst same
      simp [inside]
    · simp [same, List.getElem?_set_ne (Ne.symm same)]

/-- The entries of a session are as before. -/
def Keeps (sessionID : String) (before after : NodeRecords) : Prop :=
  ∀ key us, us.originalConnID = sessionID → (after.at? key = some us ↔ before.at? key = some us)

theorem Keeps.refl (sessionID : String) (node : NodeRecords) : node.Keeps sessionID node := fun _ _ _ => Iff.rfl

theorem Keeps.of_eq (objects : after.objects = node.objects) (sessions : after.sessions = node.sessions) :
    Keeps sessionID node after := by
  intro key us _
  rw [at?, at?, objects, sessions]

theorem Keeps.trans {middle : NodeRecords} (first : Keeps sessionID node middle) (second : Keeps sessionID middle after) :
    Keeps sessionID node after := fun key us own => (second key us own).trans (first key us own)

theorem Keeps.store (range : node.InRange) {key : String} {object : SessionObject}
    (other : object.originalConnID ≠ sessionID) (free : ∀ us, node.at? key = some us → us.originalConnID ≠ sessionID) :
    Keeps sessionID node (node.store key object) := by
  intro at? us own
  rw [at?_store range]
  split
  · next here =>
    subst here
    constructor
    · intro found
      cases found
      exact absurd own other
    · exact fun found => absurd own (free us found)
  · exact Iff.rfl

theorem Keeps.delete {key : String} (free : ∀ us, node.at? key = some us → us.originalConnID ≠ sessionID) :
    Keeps sessionID node (node.delete key) := by
  intro at? us own
  rw [at?_delete]
  split
  · next here =>
    subst here
    exact ⟨nofun, fun found => absurd own (free us found)⟩
  · exact Iff.rfl

theorem Keeps.setObject {us : Nat} {old object : SessionObject} (found : node.objects[us]? = some old)
    (other : old.originalConnID ≠ sessionID) (same : object.originalConnID = old.originalConnID) :
    Keeps sessionID node (node.setObject us object) := by
  intro key entry own
  rw [at?_setObject found]
  split
  · next stored =>
    rw [at?_eq_some stored found]
    constructor
    · intro here
      cases here
      exact absurd (same.symm.trans own) other
    · intro here
      cases here
      exact absurd own other
  · exact Iff.rfl

/-- The entry, if any, is the only one of the session. -/
def Only (node : NodeRecords) (sessionID : String) (entry : Option (String × SessionObject)) : Prop :=
  ∀ key us, node.at? key = some us ∧ us.originalConnID = sessionID ↔ entry = some (key, us)

theorem Only.keeps {entry : Option (String × SessionObject)} (only : node.Only sessionID entry)
    (keeps : Keeps sessionID node after) : after.Only sessionID entry := by
  intro key us
  rw [← only key us]
  exact ⟨fun ⟨found, own⟩ => ⟨(keeps key us own).mp found, own⟩, fun ⟨found, own⟩ => ⟨(keeps key us own).mpr found, own⟩⟩

end NodeRecords

end Calls
