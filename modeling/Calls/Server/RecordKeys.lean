import Calls.Server.Records

/-! Under which keys the session objects of a node are. Everything but the
reconnect message of another node keeps an object under its own connection. -/

set_option autoImplicit false

namespace Calls

namespace NodeRecords

/-- Every entry is under the connection that its object names. -/
def Keyed (node : NodeRecords) : Prop :=
  ∀ key us, node.sessions.get? key = some us → ∃ object, node.objects[us]? = some object ∧ object.connID = key

variable {node after : NodeRecords}

theorem Keyed.of_eq (keyed : node.Keyed) (objects : after.objects = node.objects) (sessions : after.sessions = node.sessions) :
    after.Keyed := by
  intro key us stored
  rw [sessions] at stored
  rw [objects]
  exact keyed key us stored

theorem Keyed.store (keyed : node.Keyed) (object : SessionObject) : (node.store object.connID object).Keyed := by
  intro key us stored
  rw [NodeRecords.store, StringMap.get?_set] at stored
  split at stored
  · next here =>
    cases stored
    exact ⟨object, by simp [NodeRecords.store], here.symm⟩
  · obtain ⟨old, found, named⟩ := keyed key us stored
    have inside := (List.getElem?_eq_some_iff.mp found).1
    exact ⟨old, by rw [NodeRecords.store, List.getElem?_append_left inside]; exact found, named⟩

theorem Keyed.delete (keyed : node.Keyed) (key : String) : (node.delete key).Keyed := by
  intro other us stored
  rw [NodeRecords.delete, StringMap.get?_erase] at stored
  split at stored
  · cases stored
  · exact keyed other us stored

/-- An object may change in everything but its connection. -/
theorem Keyed.setObject (keyed : node.Keyed) {us : Nat} {old object : SessionObject} (found : node.objects[us]? = some old)
    (named : object.connID = old.connID) : (node.setObject us object).Keyed := by
  intro key other stored
  obtain ⟨was, found', key⟩ := keyed key other stored
  simp only [NodeRecords.setObject, List.getElem?_set]
  split
  · next same =>
    subst same
    rw [found] at found'
    cases found'
    rw [if_pos (List.getElem?_eq_some_iff.mp found).1]
    exact ⟨object, rfl, named.trans key⟩
  · exact ⟨was, found', key⟩

theorem Keyed.addSessionToCall (keyed : node.Keyed) (nodeID : String) (joiner : Joiner) (added : Option Added) :
    (node.addSessionToCall nodeID joiner added).Keyed := by
  cases added with
  | none => exact keyed
  | some added =>
    have stored := keyed.store (newUserSession joiner.userID joiner.channelID joiner.connID added.callID
      (added.rtcd = false ∧ added.handlerID = nodeID)).fresh
    simp only [NodeRecords.addSessionToCall]
    split
    · exact stored.of_eq rfl rfl
    · exact stored

theorem Keyed.marked (keyed : node.Keyed) (connID prevConnID : String) : (node.marked connID prevConnID).Keyed := by
  unfold NodeRecords.marked
  split
  · exact keyed
  · next found here =>
    obtain ⟨us, _, taken⟩ := Option.bind_eq_some_iff.mp here
    obtain ⟨object, stored, rfl⟩ := Option.map_eq_some_iff.mp taken
    exact keyed.setObject stored rfl

theorem Keyed.handleReconnect (keyed : node.Keyed) (nodeID : String) (req : ReconnectRequest) (callID : String)
    (botFails sendFails : Bool) : (node.handleReconnect nodeID req callID botFails sendFails).Keyed := by
  have marked := keyed.marked req.connID req.prevConnID
  have replaced := (marked.delete req.originalConnID).store (node.replacement req callID)
  unfold NodeRecords.handleReconnect
  dsimp only
  split
  · exact keyed
  · split
    · exact marked
    · split
      · exact replaced
      · exact replaced.of_eq rfl rfl

theorem Keyed.removeSessionFromCall (keyed : node.Keyed) (us : Nat) : (node.removeSessionFromCall us).Keyed := by
  unfold NodeRecords.removeSessionFromCall
  split
  · exact keyed
  · next object found =>
    dsimp only
    split
    · exact keyed.delete object.connID
    · exact (keyed.delete object.connID).of_eq rfl rfl

theorem Keyed.removeSession (keyed : node.Keyed) {us : Nat} {object : SessionObject}
    (found : node.objects[us]? = some object) (sessionsCount : Nat) (locked : Bool) :
    (node.removeSession us object sessionsCount locked).2.Keyed := by
  have flagged : (node.setObject us { object with removed := true }).Keyed := keyed.setObject found rfl
  unfold NodeRecords.removeSession
  split
  · exact keyed
  · dsimp only
    split
    · split
      · exact flagged.of_eq rfl rfl
      · exact flagged
    · split
      · exact flagged.of_eq rfl rfl
      · split
        · exact flagged.removeSessionFromCall us
        · exact flagged

theorem Keyed.popRemoval? (keyed : node.Keyed) {channelID : String} {us : Nat}
    (popped : node.popRemoval? channelID = some (us, after)) : after.Keyed := by
  unfold NodeRecords.popRemoval? at popped
  split at popped
  · cases popped
    exact keyed.of_eq rfl rfl
  · cases popped

/-- No goroutine of the node puts an object under another connection than its own. -/
theorem Keyed.next? (keyed : node.Keyed) {nodeID : String} {step : RecordStep}
    (taken : node.next? nodeID step = some after) : after.Keyed := by
  cases step with
  | join joiner memberCount added =>
    cases taken
    unfold NodeRecords.handleJoin
    split
    · split
      · exact keyed.of_eq rfl rfl
      · exact keyed
    · split
      · exact keyed.of_eq rfl rfl
      · exact keyed.addSessionToCall nodeID joiner added
  | runJoin channelID added =>
    simp only [NodeRecords.next?, NodeRecords.runJoin?] at taken
    split at taken
    · cases taken
      refine Keyed.addSessionToCall ?_ nodeID _ added
      exact keyed.of_eq rfl rfl
    · cases taken
  | reconnect req callID botFails sendFails =>
    cases taken
    exact keyed.handleReconnect nodeID req callID botFails sendFails
  | clear us connID =>
    cases taken
    unfold NodeRecords.clearReconnected
    split
    · exact keyed.delete connID
    · exact keyed
  | remove us sessionsCount locked =>
    obtain ⟨object, found, rfl⟩ := Option.map_eq_some_iff.mp taken
    exact keyed.removeSession found sessionsCount locked
  | runRemove channelID =>
    obtain ⟨popped, found, rfl⟩ := Option.map_eq_some_iff.mp taken
    exact (keyed.popRemoval? found).removeSessionFromCall popped.1

/-- The message gives an object that has the RTC side of its session the name of
another connection. -/
def Renames (node : NodeRecords) : ClusterMessage → Prop
  | .connect .. => False
  | .reconnect _ connID newConnID _ _ =>
    ∃ object, node.at? connID = some object ∧ object.wsReconnected = false ∧ object.rtc = true ∧ newConnID ≠ connID

theorem at?_eq_some {key : String} {us : Nat} {object : SessionObject} (stored : node.sessions.get? key = some us)
    (found : node.objects[us]? = some object) : node.at? key = some object := by
  simp [at?, stored, found]

theorem Keyed.handleEvent (keyed : node.Keyed) {msg : ClusterMessage} (stays : ¬ node.Renames msg) :
    (node.handleEvent msg).Keyed := by
  cases msg with
  | connect senderID targetID connID userID channelID callID =>
    simp only [NodeRecords.handleEvent]
    split
    · exact keyed
    · exact keyed.store (newUserSession userID channelID connID callID true).fresh
  | reconnect senderID connID newConnID userID callID =>
    simp only [NodeRecords.handleEvent]
    split
    · exact keyed
    · next us stored =>
      split
      · exact keyed
      · next object found =>
        split
        · exact keyed
        · next unflagged =>
          split
          · next rtc =>
            have same : newConnID = connID := by
              by_contra other
              exact stays ⟨object, at?_eq_some stored found, by simpa using unflagged, rtc, other⟩
            obtain ⟨named, found', name⟩ := keyed connID us stored
            rw [found] at found'
            cases found'
            exact keyed.setObject found (same.trans name.symm)
          · have flagged : (node.setObject us { object with wsReconnected := true }).Keyed := keyed.setObject found rfl
            exact flagged.delete object.connID

/-! ### Removing a session -/

/-- The object is in the map under no key. -/
def Gone (node : NodeRecords) (us : Nat) : Prop := ∀ key, node.sessions.get? key ≠ some us

/-- No other object of the map is of the call. -/
def Last (node : NodeRecords) (us : Nat) (callID : String) : Prop :=
  ∀ key other object, node.sessions.get? key = some other → node.objects[other]? = some object →
    object.callID = callID → other = us

/-- No object of the call is left, and the batchers of its channel have been
stopped, unless an operation is still queued in them. -/
structure Wound (node : NodeRecords) (callID channelID : String) : Prop where
  sessions : node.hasSessionsForCall callID = false
  joins : ∀ batcher, node.addSessionsBatchers.get? channelID = some batcher → batcher.items ≠ []
  leaves : ∀ batcher, node.removeSessionsBatchers.get? channelID = some batcher → batcher.items ≠ []

theorem stopIfEmpty_filled {α : Type} {batchers : StringMap (Batcher α)} {channelID : String} {batcher : Batcher α}
    (left : (stopIfEmpty batchers channelID).get? channelID = some batcher) : batcher.items ≠ [] := by
  unfold stopIfEmpty at left
  split at left
  · simp at left
  · next filled =>
    intro none
    simp [left, none] at filled

theorem hasSessionsForCall_iff {callID : String} : node.hasSessionsForCall callID = true ↔
    ∃ key object, node.at? key = some object ∧ object.callID = callID := by
  simp only [hasSessionsForCall, List.any_eq_true, Option.any_eq_true, decide_eq_true_eq]
  constructor
  · intro facts
    obtain ⟨key, _, object, found, same⟩ := facts
    exact ⟨key, object, found, same⟩
  · intro facts
    obtain ⟨key, object, found, same⟩ := facts
    obtain ⟨us, stored, _⟩ := Option.bind_eq_some_iff.mp found
    exact ⟨key, StringMap.mem_mapKeys stored, object, found, same⟩

theorem Keyed.gone_of_removal (keyed : node.Keyed) {us : Nat} {object : SessionObject}
    (found : node.objects[us]? = some object) :
    (node.removeSessionFromCall us).Gone us ∧
      (node.Last us object.callID → (node.removeSessionFromCall us).Wound object.callID object.channelID) := by
  have gone : (node.delete object.connID).Gone us := by
    intro key stored
    rw [NodeRecords.delete, StringMap.get?_erase] at stored
    split at stored
    · cases stored
    · next other =>
      obtain ⟨same, found', named⟩ := keyed key us stored
      rw [found] at found'
      cases found'
      exact other named.symm
  have none (last : node.Last us object.callID) : (node.delete object.connID).hasSessionsForCall object.callID = false := by
    rw [← Bool.not_eq_true]
    intro has
    obtain ⟨key, other, found', same⟩ := hasSessionsForCall_iff.mp has
    obtain ⟨ref, stored, found'⟩ := Option.bind_eq_some_iff.mp found'
    have before := stored
    rw [NodeRecords.delete, StringMap.get?_erase] at before
    split at before
    · cases before
    · rw [last key ref other before found' same] at stored
      exact gone key stored
  unfold NodeRecords.removeSessionFromCall
  rw [found]
  dsimp only
  split
  · next has => exact ⟨gone, fun last => absurd has (by simp [none last])⟩
  · next left =>
    refine ⟨gone, fun _ => ⟨by rw [Bool.not_eq_true] at left; exact left, fun batcher stays => ?_, fun batcher stays => ?_⟩⟩
    · exact stopIfEmpty_filled stays
    · exact stopIfEmpty_filled stays

theorem removeSession_run {us : Nat} {object : SessionObject} {sessionsCount : Nat} {locked : Bool}
    (run : (node.removeSession us object sessionsCount locked).1 = .run) :
    (node.removeSession us object sessionsCount locked).2 =
      (node.setObject us { object with removed := true }).removeSessionFromCall us := by
  unfold NodeRecords.removeSession at run ⊢
  split
  · next removed => simp [removed] at run
  · next once =>
    rw [if_neg once] at run
    dsimp only at run ⊢
    split
    · next batcher there =>
      rw [there] at run
      dsimp only at run
      split at run <;> cases run
    · next absent =>
      rw [absent] at run
      dsimp only at run
      split
      · next many => rw [if_pos many] at run; cases run
      · next few =>
        rw [if_neg few] at run
        split
        · rfl
        · next unlocked => rw [if_neg unlocked] at run; cases run

/-- What a step leaves of the object whose removal it runs, and of its call. -/
theorem Keyed.removal (keyed : node.Keyed) {nodeID : String} {step : RecordStep} {us : Nat} {object : SessionObject}
    (taken : node.next? nodeID step = some after) (removes : node.removes? step = some us)
    (found : node.objects[us]? = some object) :
    after.Gone us ∧ (node.Last us object.callID → after.Wound object.callID object.channelID) := by
  cases step with
  | remove other sessionsCount locked =>
    obtain ⟨removed, found', run⟩ := Option.bind_eq_some_iff.mp removes
    split at run
    · next run? =>
      cases run
      rw [found] at found'
      cases found'
      obtain ⟨_, found', rfl⟩ := Option.map_eq_some_iff.mp taken
      rw [found] at found'
      cases found'
      rw [removeSession_run run?]
      have inside := (List.getElem?_eq_some_iff.mp found).1
      have flagged : (node.setObject us { object with removed := true }).Keyed := keyed.setObject found rfl
      have flag : (node.setObject us { object with removed := true }).objects[us]? =
          some { object with removed := true } := by simp [NodeRecords.setObject, inside]
      obtain ⟨gone, wound⟩ := flagged.gone_of_removal flag
      refine ⟨gone, fun last => wound fun key ref other stored listed same => ?_⟩
      simp only [NodeRecords.setObject, List.getElem?_set] at listed
      split at listed
      · next here => exact here.symm
      · exact last key ref other stored listed same
    · cases run
  | runRemove channelID =>
    obtain ⟨popped, found', rfl⟩ := Option.map_eq_some_iff.mp taken
    obtain ⟨popped', again, rfl⟩ := Option.map_eq_some_iff.mp removes
    rw [found'] at again
    cases again
    obtain ⟨ref, rest⟩ := popped
    have rest? := keyed.popRemoval? found'
    unfold NodeRecords.popRemoval? at found'
    split at found'
    · cases found'
      exact rest?.gone_of_removal found
    · cases found'
  | join | runJoin | reconnect | clear => cases removes

end NodeRecords

/-! ### In all runs -/

/-- No message that is handled renames an object. -/
def NoRename (c : RecordsCluster) : RecordsClusterStep → Prop
  | .act _ _ => True
  | .deliver nodeID senderID number => ∀ msg, c.pending? nodeID senderID number = some msg → ¬ (c.nodes nodeID).Renames msg

def RecordsCluster.AllKeyed (c : RecordsCluster) : Prop := ∀ nodeID, (c.nodes nodeID).Keyed

/-- Every object is under its own connection, so that one that is removed is gone. -/
structure RecordsCluster.Tidy (c : RecordsCluster) : Prop where
  keyed : c.AllKeyed
  removal : ∀ nodeID step us object after, (c.nodes nodeID).next? nodeID step = some after →
    (c.nodes nodeID).removes? step = some us → (c.nodes nodeID).objects[us]? = some object →
      after.Gone us ∧ ((c.nodes nodeID).Last us object.callID → after.Wound object.callID object.channelID)

theorem RecordsCluster.AllKeyed.step {before after : RecordsCluster} {label : RecordsClusterStep}
    (keyed : before.AllKeyed) (stays : NoRename before label) (taken : before.next? label = some after) :
    after.AllKeyed := by
  have set {nodeID : String} {node : NodeRecords} (same : node.Keyed) : (before.setNode nodeID node).AllKeyed := by
    intro other
    by_cases here : other = nodeID
    · subst here
      simpa [RecordsCluster.setNode] using same
    · simpa [RecordsCluster.setNode, here] using keyed other
  cases label with
  | act nodeID step =>
    obtain ⟨node, moved, rfl⟩ := Option.map_eq_some_iff.mp taken
    exact set ((keyed nodeID).next? moved)
  | deliver nodeID senderID number =>
    obtain ⟨msg, pending, rfl⟩ := Option.map_eq_some_iff.mp taken
    exact set ((keyed nodeID).handleEvent (stays msg pending))

/-- A check of `NoRename`. -/
def noRename (c : RecordsCluster) : RecordsClusterStep → Bool
  | .act _ _ => true
  | .deliver nodeID senderID number =>
    (c.pending? nodeID senderID number).all fun msg =>
      match msg with
      | .connect .. => true
      | .reconnect _ connID newConnID _ _ =>
        ((c.nodes nodeID).at? connID).all fun us => us.wsReconnected || !us.rtc || newConnID == connID

theorem noRename_sound (c : RecordsCluster) (label : RecordsClusterStep) (checked : noRename c label = true) :
    NoRename c label := by
  cases label with
  | act => trivial
  | deliver nodeID senderID number =>
    intro msg pending renames
    simp only [noRename, pending, Option.all_some] at checked
    cases msg with
    | connect => exact renames
    | reconnect senderID connID newConnID userID callID =>
      obtain ⟨us, found, unflagged, rtc, other⟩ := renames
      simp [found, unflagged, rtc, other] at checked

/-- Alice joins on the node that has the RTC side of the call; her client comes back with another connection. -/
def aliceIsAdded : RecordStep := .join ⟨"alice", "channel", "conn-1"⟩ 2 (some ⟨"call", "a", false, false⟩)

def aliceComesBack : RecordStep :=
  .reconnect ⟨"alice", "conn-2", "channel", "conn-1", "conn-1", true⟩ "call" false false

/-- The join runs in a batch, the client comes back to the same node, and the other node is told. -/
def comesBackHere : List RecordsClusterStep :=
  [.act "a" (.join ⟨"alice", "channel", "conn-1"⟩ 200 none),
    .act "a" (.runJoin "channel" (some ⟨"call", "a", false, false⟩)), .act "a" aliceComesBack, .deliver "b" "a" 0]

end Calls
