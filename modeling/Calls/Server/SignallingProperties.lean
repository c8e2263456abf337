import Calls.Server.RoamingProperties
import Calls.Server.Signalling

/-! Whose the objects of a node are, whatever clients say when they come back. An
object stays its user's, under a connection and for a session of that user; under
which connection its client is told of signals also depends on what the reconnect
messages say. -/

set_option autoImplicit false

namespace Calls

/-- The session is its user's and, if clients tell the truth, so is the connection. -/
structure SessionObject.Vouched (owner : String → String) (honest : Prop) (us : SessionObject) : Prop where
  session : us.userID = owner us.originalConnID
  connection : honest → us.userID = owner us.connID

def ClusterMessage.Vouched (owner : String → String) (honest : Prop) : ClusterMessage → Prop
  | .connect _ _ connID userID _ _ => owner connID = userID
  | .reconnect _ connID newConnID _ _ => honest → owner newConnID = owner connID

def Joiner.Vouched (owner : String → String) (joiner : Joiner) : Prop := owner joiner.connID = joiner.userID

namespace NodeRecords

/-- The objects that there were have their users still, and no entry, object,
message or waiting join is of another user than its connections. -/
structure Vouched (owner : String → String) (honest : Prop) (users : List String) (node : NodeRecords) : Prop where
  known : users <+: node.objects.map (·.userID)
  entries : ∀ key us, node.sessions.get? key = some us →
    ∃ object, node.objects[us]? = some object ∧ object.userID = owner key
  objects : ∀ object ∈ node.objects, object.Vouched owner honest
  sent : ∀ msg ∈ node.sent, msg.Vouched owner honest
  joiners : ∀ channelID batcher, node.addSessionsBatchers.get? channelID = some batcher →
    ∀ joiner ∈ batcher.items, joiner.Vouched owner

namespace Vouched

variable {owner : String → String} {honest : Prop} {users : List String} {node after : NodeRecords} {nodeID : String}

/-- A node as it is. -/
theorem now (vouched : node.Vouched owner honest users) : node.Vouched owner honest (node.objects.map (·.userID)) :=
  { vouched with known := List.prefix_refl _ }

theorem at? (vouched : node.Vouched owner honest users) {key : String} {object : SessionObject}
    (found : node.at? key = some object) : object.userID = owner key ∧ object.Vouched owner honest := by
  obtain ⟨us, stored, listed⟩ := Option.bind_eq_some_iff.mp found
  obtain ⟨other, same, user⟩ := vouched.entries key us stored
  rw [listed] at same
  cases same
  exact ⟨user, vouched.objects object (List.mem_of_getElem? listed)⟩

theorem store (vouched : node.Vouched owner honest users) {key : String} {object : SessionObject}
    (user : object.userID = owner key) (object_vouched : object.Vouched owner honest) :
    (node.store key object).Vouched owner honest users where
  known := by
    rw [NodeRecords.store, List.map_append]
    exact vouched.known.trans (List.prefix_append _ _)
  entries := by
    intro other us stored
    rw [NodeRecords.store, StringMap.get?_set] at stored
    split at stored
    · next here =>
      cases stored
      exact ⟨object, by simp [NodeRecords.store], here ▸ user⟩
    · obtain ⟨old, found, named⟩ := vouched.entries other us stored
      have inside := (List.getElem?_eq_some_iff.mp found).1
      exact ⟨old, by rw [NodeRecords.store, List.getElem?_append_left inside]; exact found, named⟩
  objects := List.forall_mem_append.mpr ⟨vouched.objects, List.forall_mem_singleton.mpr object_vouched⟩
  sent := vouched.sent
  joiners := vouched.joiners

theorem delete (vouched : node.Vouched owner honest users) (key : String) : (node.delete key).Vouched owner honest users where
  known := vouched.known
  entries := by
    intro other us stored
    rw [NodeRecords.delete, StringMap.get?_erase] at stored
    split at stored
    · cases stored
    · exact vouched.entries other us stored
  objects := vouched.objects
  sent := vouched.sent
  joiners := vouched.joiners

/-- An object may change in everything but its user. -/
theorem setObject (vouched : node.Vouched owner honest users) {us : Nat} {old object : SessionObject}
    (found : node.objects[us]? = some old) (user : object.userID = old.userID) (object_vouched : object.Vouched owner honest) :
    (node.setObject us object).Vouched owner honest users where
  known := by
    have same : (node.objects.set us object).map (·.userID) = node.objects.map (·.userID) := by
      obtain ⟨inside, rfl⟩ := List.getElem?_eq_some_iff.mp found
      apply List.ext_getElem (by simp)
      intro place there here
      rw [List.getElem_map, List.getElem_map, List.getElem_set]
      split
      · next same => subst same; exact user
      · rfl
    rw [NodeRecords.setObject, same]
    exact vouched.known
  entries := by
    intro key other stored
    obtain ⟨was, found', named⟩ := vouched.entries key other stored
    simp only [NodeRecords.setObject, List.getElem?_set]
    split
    · next same =>
      subst same
      rw [found] at found'
      cases found'
      rw [if_pos (List.getElem?_eq_some_iff.mp found).1]
      exact ⟨object, rfl, user.trans named⟩
    · exact ⟨was, found', named⟩
  objects := by
    intro other listed
    rcases List.mem_or_eq_of_mem_set listed with kept | rfl
    · exact vouched.objects other kept
    · exact object_vouched
  sent := vouched.sent
  joiners := vouched.joiners

/-- The batchers hold no joins of others. -/
theorem of_eq (vouched : node.Vouched owner honest users) (objects : after.objects = node.objects)
    (sessions : after.sessions = node.sessions) (sent : after.sent = node.sent)
    (joiners : ∀ channelID batcher, after.addSessionsBatchers.get? channelID = some batcher →
      ∀ joiner ∈ batcher.items, joiner.Vouched owner) : after.Vouched owner honest users where
  known := by rw [objects]; exact vouched.known
  entries := by rw [objects, sessions]; exact vouched.entries
  objects := by rw [objects]; exact vouched.objects
  sent := by rw [sent]; exact vouched.sent
  joiners := joiners

theorem send (vouched : node.Vouched owner honest users) {msg : ClusterMessage} (msg_vouched : msg.Vouched owner honest) :
    (node.send msg).Vouched owner honest users where
  known := vouched.known
  entries := vouched.entries
  objects := vouched.objects
  sent := List.forall_mem_append.mpr ⟨vouched.sent, List.forall_mem_singleton.mpr msg_vouched⟩
  joiners := vouched.joiners

/-- One batcher of joins is another one. -/
theorem setBatcher (vouched : node.Vouched owner honest users) {channelID : String} {batcher : Batcher Joiner}
    (items : ∀ joiner ∈ batcher.items, joiner.Vouched owner) :
    ({ node with addSessionsBatchers := node.addSessionsBatchers.set channelID batcher } : NodeRecords).Vouched
      owner honest users := by
  refine vouched.of_eq rfl rfl rfl fun other found there => ?_
  dsimp only at there
  rw [StringMap.get?_set] at there
  split at there
  · cases there
    exact items
  · exact vouched.joiners other found there

/-! ### The goroutines of a node -/

theorem addSessionToCall (vouched : node.Vouched owner honest users) {joiner : Joiner} (authentic : joiner.Vouched owner)
    (added : Option Added) : (node.addSessionToCall nodeID joiner added).Vouched owner honest users := by
  cases added with
  | none => exact vouched
  | some added =>
      have stored : (node.store joiner.connID (newUserSession joiner.userID joiner.channelID joiner.connID added.callID
          (added.rtcd = false ∧ added.handlerID = nodeID)).fresh).Vouched owner honest users :=
        vouched.store authentic.symm ⟨authentic.symm, fun _ => authentic.symm⟩
      simp only [NodeRecords.addSessionToCall]
      split
      · exact stored.send authentic
      · exact stored

theorem handleJoin (vouched : node.Vouched owner honest users) {joiner : Joiner} (authentic : joiner.Vouched owner)
    (memberCount : Nat) (added : Option Added) :
    (node.handleJoin nodeID joiner memberCount added).Vouched owner honest users := by
  unfold NodeRecords.handleJoin
  split
  · next batcher there =>
    split
    · next pushed push =>
      apply vouched.setBatcher
      unfold Batcher.push? at push
      split at push
      · cases push
        have waiting := vouched.joiners _ batcher there
        exact List.forall_mem_append.mpr ⟨waiting, List.forall_mem_singleton.mpr authentic⟩
      · cases push
    · exact vouched
  · split
    · exact vouched.setBatcher (List.forall_mem_singleton.mpr authentic)
    · exact vouched.addSessionToCall authentic added

theorem runJoin? (vouched : node.Vouched owner honest users) {channelID : String} {added : Option Added}
    (ran : node.runJoin? nodeID channelID added = some after) : after.Vouched owner honest users := by
  unfold NodeRecords.runJoin? at ran
  split at ran
  · next size joiner items there =>
    cases ran
    have own := vouched.joiners channelID _ there
    have popped : ({ node with addSessionsBatchers := node.addSessionsBatchers.set channelID ⟨size, items⟩ } :
        NodeRecords).Vouched owner honest users :=
      vouched.setBatcher fun other listed => own other (List.mem_cons_of_mem joiner listed)
    exact popped.addSessionToCall (own joiner List.mem_cons_self) added
  · cases ran

theorem marked (vouched : node.Vouched owner honest users) (connID prevConnID : String) :
    (node.marked connID prevConnID).Vouched owner honest users := by
  unfold NodeRecords.marked
  split
  · exact vouched
  · next found here =>
    have stored := (Owned.found_at here).1
    have old := vouched.objects found.2 (List.mem_of_getElem? stored)
    exact vouched.setObject stored rfl ⟨old.session, old.connection⟩

/-- A client that comes back to a session of its own gets an object of its own,
whatever previous connection it names. -/
theorem handleReconnect (vouched : node.Vouched owner honest users) {req : ReconnectRequest}
    (authentic : owner req.connID = req.userID) (original : owner req.originalConnID = req.userID)
    (previous : honest → owner req.prevConnID = req.userID) (callID : String) (botFails sendFails : Bool) :
    (node.handleReconnect nodeID req callID botFails sendFails).Vouched owner honest users := by
  have marked := vouched.marked req.connID req.prevConnID
  have replaced : (((node.marked req.connID req.prevConnID).delete req.originalConnID).store req.connID
      (node.replacement req callID)).Vouched owner honest users :=
    (marked.delete req.originalConnID).store authentic.symm ⟨original.symm, fun _ => authentic.symm⟩
  unfold NodeRecords.handleReconnect
  dsimp only
  split
  · exact vouched
  · split
    · exact marked
    · split
      · exact replaced
      · apply replaced.send
        intro honestly
        rw [authentic, previous honestly]

theorem clearReconnected (vouched : node.Vouched owner honest users) (us : Nat) (connID : String) :
    (node.clearReconnected us connID).Vouched owner honest users := by
  unfold NodeRecords.clearReconnected
  split
  · exact vouched.delete connID
  · exact vouched

theorem removeSessionFromCall (vouched : node.Vouched owner honest users) (us : Nat) :
    (node.removeSessionFromCall us).Vouched owner honest users := by
  unfold NodeRecords.removeSessionFromCall
  split
  · exact vouched
  · next object found =>
    have deleted := vouched.delete object.connID
    dsimp only
    split
    · exact deleted
    · exact deleted.of_eq rfl rfl rfl fun channelID batcher there =>
        deleted.joiners channelID batcher (Owned.stopIfEmpty_kept there)

theorem removeSession (vouched : node.Vouched owner honest users) {us : Nat} {object : SessionObject}
    (found : node.objects[us]? = some object) (sessionsCount : Nat) (locked : Bool) :
    (node.removeSession us object sessionsCount locked).2.Vouched owner honest users := by
  have old := vouched.objects object (List.mem_of_getElem? found)
  have flagged : (node.setObject us { object with removed := true }).Vouched owner honest users :=
    vouched.setObject found rfl ⟨old.session, old.connection⟩
  unfold NodeRecords.removeSession
  split
  · exact vouched
  · dsimp only
    split
    · split
      · exact flagged.of_eq rfl rfl rfl flagged.joiners
      · exact flagged
    · split
      · exact flagged.of_eq rfl rfl rfl flagged.joiners
      · split
        · exact flagged.removeSessionFromCall us
        · exact flagged

theorem popRemoval? (vouched : node.Vouched owner honest users) {channelID : String} {us : Nat}
    (popped : node.popRemoval? channelID = some (us, after)) : after.Vouched owner honest users := by
  unfold NodeRecords.popRemoval? at popped
  split at popped
  · cases popped
    exact vouched.of_eq rfl rfl rfl vouched.joiners
  · cases popped

/-- The message of another node makes a new object for its user, or renames an
object that is under the connection that the message names. -/
theorem handleEvent (vouched : node.Vouched owner honest users) {msg : ClusterMessage} (msg_vouched : msg.Vouched owner honest) :
    (node.handleEvent msg).Vouched owner honest users := by
  cases msg with
  | connect senderID targetID connID userID channelID callID =>
      simp only [NodeRecords.handleEvent]
      split
      · exact vouched
      · exact vouched.store msg_vouched.symm ⟨msg_vouched.symm, fun _ => msg_vouched.symm⟩
  | reconnect senderID connID newConnID userID callID =>
      simp only [NodeRecords.handleEvent]
      split
      · exact vouched
      · next us stored =>
        split
        · exact vouched
        · next object found =>
          obtain ⟨user, old⟩ := vouched.at? (at?_eq_some stored found)
          split
          · exact vouched
          · split
            · refine vouched.setObject found rfl ⟨old.session, fun honestly => ?_⟩
              exact user.trans (msg_vouched honestly).symm
            · have flagged : (node.setObject us { object with wsReconnected := true }).Vouched owner honest users :=
                vouched.setObject found rfl ⟨old.session, old.connection⟩
              exact flagged.delete object.connID

end Vouched

end NodeRecords

end Calls
