import Calls.Library.System
import Calls.Server.Records

/-! A session that reconnects while what handles the loss of its connection waits for just that.
The wait ends with a timeout, and the session is removed some time after it. -/

set_option autoImplicit false

namespace Calls

/-- An object that a node reads for, with the connection that its goroutine goes by. -/
structure SessionReader where
  nodeID : String
  us : Nat
  connID : String
  deriving DecidableEq

/-- One session on the nodes. `checked` are the reconnections that have found it in the call and are to be registered;
`timedOut` the objects whose wait has ended with the timeout and that `removeSession` is to be called for; `unlisted`
those that are deleted from their node and whose session is to be removed from the call. -/
structure RejoiningSession where
  cluster : RecordsCluster
  inCall : Bool
  readers : List SessionReader
  checked : List (String × ReconnectRequest) := []
  timedOut : List SessionReader := []
  unlisted : List (String × Nat) := []

inductive RejoinStep where
  | checked (nodeID : String) (req : ReconnectRequest)
  | registered (place : Nat) (callID : String) (botFails sendFails : Bool)
  | delivered (nodeID senderID : String) (number : Nat)
  | timedOut (place : Nat)
  /-- The wait has ended with the reconnection. -/
  | reconnected (place : Nat)
  | removing (place sessionsCount : Nat) (locked : Bool)
  | runRemove (nodeID channelID : String)
  | removed (place : Nat)

namespace RejoiningSession

variable (sessionID userID : String)

/-- The session has joined on a node. -/
def joined (nodeID channelID : String) (added : Added) : RejoiningSession :=
  { cluster := RecordsCluster.idle.setNode nodeID
      (NodeRecords.empty.addSessionToCall nodeID ⟨userID, channelID, sessionID⟩ (some added))
    inCall := true
    readers := [⟨nodeID, 0, sessionID⟩] }

def node (session : RejoiningSession) (nodeID : String) : NodeRecords := session.cluster.nodes nodeID

def setNode (session : RejoiningSession) (nodeID : String) (node : NodeRecords) : RejoiningSession :=
  { session with cluster := session.cluster.setNode nodeID node }

/-- Whether the part of `handleReconnect` under the mutex of its node ends without an error. -/
def registers (session : RejoiningSession) (nodeID : String) (req : ReconnectRequest) (botFails : Bool) : Bool :=
  ¬ ((session.node nodeID).reconnecting? req.connID req.prevConnID).any (·.2.wsReconnected) ∧ botFails = false

def register (session : RejoiningSession) (nodeID : String) (req : ReconnectRequest) (callID : String) (botFails sendFails : Bool) :
    RejoiningSession :=
  let us := (session.node nodeID).objects.length
  let readers := if session.registers nodeID req botFails then session.readers ++ [⟨nodeID, us, req.connID⟩] else session.readers
  { session.setNode nodeID ((session.node nodeID).handleReconnect nodeID req callID botFails sendFails) with readers }

/-- `removeSession` for an object whose wait has timed out. -/
def remove (session : RejoiningSession) (leaving : SessionReader) (object : SessionObject) (sessionsCount : Nat) (locked : Bool) :
    RejoiningSession :=
  let removal := (session.node leaving.nodeID).removeSession leaving.us object sessionsCount locked
  let after := session.setNode leaving.nodeID removal.2
  if removal.1 = .run then { after with unlisted := after.unlisted ++ [(leaving.nodeID, leaving.us)] } else after

def next? (session : RejoiningSession) : RejoinStep → Option RejoiningSession
  | .checked nodeID req =>
    if session.inCall ∧ req.originalConnID = sessionID ∧ req.userID = userID then
      some { session with checked := session.checked ++ [(nodeID, req)] }
    else none
  | .registered place callID botFails sendFails =>
    (session.checked[place]?).map fun found =>
      { session with checked := session.checked.eraseIdx place }.register found.1 found.2 callID botFails sendFails
  | .delivered nodeID senderID number =>
    (session.cluster.next? (.deliver nodeID senderID number)).map fun cluster => { session with cluster }
  | .timedOut place => do
    let reader ← session.readers[place]?
    let object ← (session.node reader.nodeID).objects[reader.us]?
    -- The channel of a reconnection that has come before would have ended the wait.
    guard (object.wsReconnected = false)
    return { session with readers := session.readers.eraseIdx place, timedOut := session.timedOut ++ [reader] }
  | .reconnected place => do
    let reader ← session.readers[place]?
    let object ← (session.node reader.nodeID).objects[reader.us]?
    guard object.wsReconnected
    return { session with readers := session.readers.eraseIdx place }.setNode reader.nodeID
      ((session.node reader.nodeID).clearReconnected reader.us reader.connID)
  | .removing place sessionsCount locked => do
    let leaving ← session.timedOut[place]?
    let object ← (session.node leaving.nodeID).objects[leaving.us]?
    return { session with timedOut := session.timedOut.eraseIdx place }.remove leaving object sessionsCount locked
  | .runRemove nodeID channelID => do
    let (us, node) ← (session.node nodeID).popRemoval? channelID
    let after := session.setNode nodeID (node.removeSessionFromCall us)
    return { after with unlisted := after.unlisted ++ [(nodeID, us)] }
  | .removed place => do
    let _ ← session.unlisted[place]?
    return { session with unlisted := session.unlisted.eraseIdx place, inCall := false }

end RejoiningSession

/-- The object of the last reconnection that was registered. -/
def noteRegistered (latest : Option (String × Nat)) (session : RejoiningSession) : RejoinStep → Option (String × Nat)
  | .registered place _ botFails _ =>
    match session.checked[place]? with
    | none => latest
    | some (nodeID, req) =>
      if session.registers nodeID req botFails then some (nodeID, (session.node nodeID).objects.length) else latest
  | _ => latest

/-- What becomes of a session from its join on. -/
def rejoinRuns (sessionID userID : String) : System (RejoiningSession × Option (String × Nat)) RejoinStep :=
  System.observed
    { init := fun session => ∃ nodeID channelID added, session = .joined sessionID userID nodeID channelID added
      next? := RejoiningSession.next? sessionID userID } none
    fun latest session step _ => noteRegistered latest session step

namespace RejoiningSession

/-- An object that was removed takes that of a later reconnection with it. -/
def DeletesLater (session : RejoiningSession) (latest : Option (String × Nat)) (nodeID : String) (us : Nat) : Prop :=
  ∃ object later, (session.node nodeID).objects[us]? = some object ∧ latest = some (nodeID, later) ∧ later ≠ us ∧
    (session.node nodeID).sessions.get? object.connID = some later

end RejoiningSession

/-- A reconnection is registered for a session that is in the call no more, or an object whose wait has timed out takes
from the nodes or from the call what a later reconnection has registered. -/
def Harms (state : RejoiningSession × Option (String × Nat)) : RejoinStep → Prop
  | .registered place _ botFails _ => ∃ nodeID req, state.1.checked[place]? = some (nodeID, req) ∧
      state.1.registers nodeID req botFails = true ∧ state.1.inCall = false
  | .removing place sessionsCount locked => ∃ leaving object, state.1.timedOut[place]? = some leaving ∧
      (state.1.node leaving.nodeID).objects[leaving.us]? = some object ∧
      ((state.1.node leaving.nodeID).removeSession leaving.us object sessionsCount locked).1 = .run ∧
      state.1.DeletesLater state.2 leaving.nodeID leaving.us
  | .runRemove nodeID channelID => ∃ popped, (state.1.node nodeID).popRemoval? channelID = some popped ∧
      state.1.DeletesLater state.2 nodeID popped.1
  | .removed place => ∃ leaving later, state.1.unlisted[place]? = some leaving ∧ state.1.inCall = true ∧
      state.2 = some later ∧ later ≠ leaving
  | _ => False

/-- The removal of an object waits in a batch. -/
def NodeRecords.Queues (node : NodeRecords) (us : Nat) : Prop :=
  ∃ channelID batcher, node.removeSessionsBatchers.get? channelID = some batcher ∧ us ∈ batcher.items

/-- The wait of an object has timed out, and its removal is not over. -/
def RejoiningSession.Leaves (session : RejoiningSession) (nodeID : String) (us : Nat) : Prop :=
  (∃ reader ∈ session.timedOut, reader.nodeID = nodeID ∧ reader.us = us) ∨ (nodeID, us) ∈ session.unlisted ∨
    (session.node nodeID).Queues us

/-- A reconnection is checked only while no removal is under way; and a wait times out only where no reconnection is
between its check and its registration, and none was registered after the object. -/
def KeepsApart (state : RejoiningSession × Option (String × Nat)) : RejoinStep → Prop
  | .checked _ _ => ∀ nodeID us, ¬ state.1.Leaves nodeID us
  | .timedOut place => state.1.checked = [] ∧
      ∀ reader later, state.1.readers[place]? = some reader → state.2 = some later → later = (reader.nodeID, reader.us)
  | _ => True

namespace NodeRecords

variable {node : NodeRecords} {us : Nat}

theorem Queues.of_eq {after : NodeRecords} (same : after.removeSessionsBatchers = node.removeSessionsBatchers)
    (queues : after.Queues us) : node.Queues us := by
  obtain ⟨channelID, batcher, found, member⟩ := queues
  exact ⟨channelID, batcher, by rw [← same]; exact found, member⟩

theorem removals_handleReconnect (nodeID : String) (req : ReconnectRequest) (callID : String) (botFails sendFails : Bool) :
    (node.handleReconnect nodeID req callID botFails sendFails).removeSessionsBatchers = node.removeSessionsBatchers := by
  have marked : (node.marked req.connID req.prevConnID).removeSessionsBatchers = node.removeSessionsBatchers := by
    unfold NodeRecords.marked
    split <;> rfl
  unfold NodeRecords.handleReconnect
  dsimp only
  split
  · rfl
  · split
    · exact marked
    · split <;> exact marked

theorem removals_handleEvent (msg : ClusterMessage) : (node.handleEvent msg).removeSessionsBatchers = node.removeSessionsBatchers := by
  cases msg with
  | connect =>
    simp only [NodeRecords.handleEvent]
    split <;> rfl
  | reconnect =>
    simp only [NodeRecords.handleEvent]
    split
    · rfl
    · split
      · rfl
      · split
        · rfl
        · split <;> rfl

theorem removals_clearReconnected (connID : String) :
    (node.clearReconnected us connID).removeSessionsBatchers = node.removeSessionsBatchers := by
  unfold NodeRecords.clearReconnected
  split <;> rfl

theorem Queues.of_removeSessionFromCall {other : Nat} (queues : (node.removeSessionFromCall us).Queues other) : node.Queues other := by
  unfold NodeRecords.removeSessionFromCall at queues
  split at queues
  · exact queues
  · next object found =>
    dsimp only at queues
    split at queues
    · exact queues
    · obtain ⟨channelID, batcher, found, member⟩ := queues
      refine ⟨channelID, batcher, ?_, member⟩
      dsimp only [stopIfEmpty] at found
      split at found
      · rw [StringMap.get?_erase] at found
        split at found
        · cases found
        · exact found
      · exact found

/-- The removal that is run was in the queue, and the others stay there. -/
theorem Queues.of_popRemoval {channelID : String} {popped : Nat × NodeRecords} (taken : node.popRemoval? channelID = some popped) :
    node.Queues popped.1 ∧ ∀ other, popped.2.Queues other → node.Queues other := by
  unfold NodeRecords.popRemoval? at taken
  split at taken
  · next size first items queued =>
    cases taken
    refine ⟨⟨channelID, _, queued, List.mem_cons_self⟩, fun other queues => ?_⟩
    obtain ⟨otherID, batcher, found, member⟩ := queues
    rw [StringMap.get?_set] at found
    split at found
    · cases found
      exact ⟨channelID, _, queued, List.mem_cons_of_mem first member⟩
    · exact ⟨otherID, batcher, found, member⟩
  · cases taken

/-- Besides what is queued already, `removeSession` queues the removal of its object at most. -/
theorem Queues.of_removeSession {object : SessionObject} {sessionsCount : Nat} {locked : Bool} {other : Nat}
    (queues : (node.removeSession us object sessionsCount locked).2.Queues other) : other = us ∨ node.Queues other := by
  unfold NodeRecords.removeSession at queues
  split at queues
  · exact .inr queues
  · dsimp only at queues
    split at queues
    · next batcher queued =>
      split at queues
      · next pushed grown =>
        obtain ⟨channelID, found, stored, member⟩ := queues
        rw [StringMap.get?_set] at stored
        split at stored
        · cases stored
          unfold Batcher.push? at grown
          split at grown
          · cases grown
            rcases List.mem_append.mp member with before | new
            · exact .inr ⟨_, batcher, queued, before⟩
            · exact .inl (List.mem_singleton.mp new)
          · cases grown
        · exact .inr ⟨channelID, found, stored, member⟩
      · exact .inr (.of_eq rfl queues)
    · split at queues
      · obtain ⟨channelID, found, stored, member⟩ := queues
        rw [StringMap.get?_set] at stored
        split at stored
        · cases stored
          exact .inl (List.mem_singleton.mp member)
        · exact .inr ⟨channelID, found, stored, member⟩
      · split at queues
        · exact .inr (.of_eq rfl queues.of_removeSessionFromCall)
        · exact .inr (.of_eq rfl queues)

end NodeRecords

namespace RejoiningSession

variable {session : RejoiningSession}

theorem node_setNode (nodeID other : String) (node : NodeRecords) :
    (session.setNode nodeID node).node other = if other = nodeID then node else session.node other := by
  unfold RejoiningSession.node setNode RecordsCluster.setNode
  dsimp only
  rw [Function.update_apply]

/-- What leaves a session whose node has changed left before, or is queued there now. -/
theorem Leaves.of_setNode {nodeID other : String} {node : NodeRecords} {us : Nat}
    (leaves : (session.setNode nodeID node).Leaves other us) : session.Leaves other us ∨ other = nodeID ∧ node.Queues us := by
  rcases leaves with waits | unlisted | queues
  · exact .inl (.inl waits)
  · exact .inl (.inr (.inl unlisted))
  · rw [node_setNode] at queues
    split at queues
    · next same => exact .inr ⟨same, queues⟩
    · exact .inl (.inr (.inr queues))

theorem Leaves.of_setNode_same {nodeID other : String} {node : NodeRecords} {us : Nat}
    (same : node.removeSessionsBatchers = (session.node nodeID).removeSessionsBatchers)
    (leaves : (session.setNode nodeID node).Leaves other us) : session.Leaves other us := by
  rcases leaves.of_setNode with before | ⟨rfl, queues⟩
  · exact before
  · exact .inr (.inr (queues.of_eq same))

theorem Leaves.of_unlisted {nodeID other : String} {us gone : Nat}
    (leaves : ({ session with unlisted := session.unlisted ++ [(nodeID, gone)] } : RejoiningSession).Leaves other us) :
    session.Leaves other us ∨ other = nodeID ∧ us = gone := by
  rcases leaves with waits | unlisted | queues
  · exact .inl (.inl waits)
  · rcases List.mem_append.mp unlisted with before | new
    · exact .inl (.inr (.inl before))
    · exact .inr (Prod.mk.inj (List.mem_singleton.mp new))
  · exact .inl (.inr (.inr queues))

theorem Leaves.of_remove {leaving : SessionReader} {object : SessionObject} {sessionsCount us : Nat} {locked : Bool} {other : String}
    (leaves : (session.remove leaving object sessionsCount locked).Leaves other us) :
    session.Leaves other us ∨ other = leaving.nodeID ∧ us = leaving.us := by
  have stays (left : (session.setNode leaving.nodeID
      ((session.node leaving.nodeID).removeSession leaving.us object sessionsCount locked).2).Leaves other us) :
      session.Leaves other us ∨ other = leaving.nodeID ∧ us = leaving.us := by
    rcases left.of_setNode with before | ⟨rfl, queues⟩
    · exact .inl before
    · exact queues.of_removeSession.symm.imp (fun queued => .inr (.inr queued)) fun same => ⟨rfl, same⟩
  unfold remove at leaves
  dsimp only at leaves
  split at leaves
  · rcases leaves.of_unlisted with left | gone
    · exact stays left
    · exact .inr gone
  · exact stays leaves

end RejoiningSession

/-- A reconnection that was checked finds the session in the call and no removal under way, and only the object of the
last reconnection leaves. -/
structure ApartInvariant (state : RejoiningSession × Option (String × Nat)) : Prop where
  ready : state.1.checked ≠ [] → state.1.inCall = true ∧ ∀ nodeID us, ¬ state.1.Leaves nodeID us
  leaving : ∀ nodeID us, state.1.Leaves nodeID us → ∀ later, state.2 = some later → later = (nodeID, us)

namespace ApartInvariant

variable {session after : RejoiningSession} {latest : Option (String × Nat)}

/-- Nothing leaves that did not before. -/
theorem fewer (inv : ApartInvariant (session, latest)) (checked : after.checked ≠ [] → session.checked ≠ [] ∧ after.inCall = session.inCall)
    (leaves : ∀ nodeID us, after.Leaves nodeID us → session.Leaves nodeID us) : ApartInvariant (after, latest) := by
  refine ⟨fun some => ?_, fun nodeID us left => inv.leaving nodeID us (leaves nodeID us left)⟩
  obtain ⟨before, same⟩ := checked some
  obtain ⟨inCall, idle⟩ := inv.ready before
  exact ⟨same.trans inCall, fun nodeID us left => idle nodeID us (leaves nodeID us left)⟩

/-- No step that keeps apart harms. -/
theorem harmless (inv : ApartInvariant (session, latest)) (step : RejoinStep) : ¬ Harms (session, latest) step := by
  intro harms
  cases step with
  | registered place callID botFails sendFails =>
    obtain ⟨nodeID, req, found, -, gone⟩ := harms
    have inCall := (inv.ready (List.ne_nil_of_mem (List.mem_of_getElem? found))).1
    rw [gone] at inCall
    cases inCall
  | removing place sessionsCount locked =>
    obtain ⟨leaving, object, found, -, -, -, later, -, same, different, -⟩ := harms
    have left : session.Leaves leaving.nodeID leaving.us := .inl ⟨leaving, List.mem_of_getElem? found, rfl, rfl⟩
    exact different (Prod.mk.inj (inv.leaving _ _ left _ same)).2
  | runRemove nodeID channelID =>
    obtain ⟨popped, found, -, later, -, same, different, -⟩ := harms
    have left : session.Leaves nodeID popped.1 := .inr (.inr (NodeRecords.Queues.of_popRemoval found).1)
    exact different (Prod.mk.inj (inv.leaving _ _ left _ same)).2
  | removed place =>
    obtain ⟨leaving, later, found, -, same, different⟩ := harms
    have left : session.Leaves leaving.1 leaving.2 := .inr (.inl (List.mem_of_getElem? found))
    exact different (inv.leaving _ _ left _ same)
  | checked | delivered | timedOut | reconnected => exact harms

theorem step {sessionID userID : String} {step : RejoinStep} (inv : ApartInvariant (session, latest))
    (apart : KeepsApart (session, latest) step) (taken : session.next? sessionID userID step = some after) :
    ApartInvariant (after, noteRegistered latest session step) := by
  cases step with
  | checked nodeID req =>
    simp only [RejoiningSession.next?] at taken
    split at taken
    · next found =>
      cases taken
      exact ⟨fun _ => ⟨found.1, apart⟩, inv.leaving⟩
    · cases taken
  | registered place callID botFails sendFails =>
    obtain ⟨⟨nodeID, req⟩, found, rfl⟩ := Option.map_eq_some_iff.mp taken
    obtain ⟨inCall, idle⟩ := inv.ready (List.ne_nil_of_mem (List.mem_of_getElem? found))
    have still (other : String) (us : Nat) :
        ¬ (({ session with checked := session.checked.eraseIdx place } : RejoiningSession).register nodeID req callID botFails
          sendFails).Leaves other us := fun left =>
      idle other us (RejoiningSession.Leaves.of_setNode_same (NodeRecords.removals_handleReconnect ..) left)
    exact ⟨fun _ => ⟨inCall, still⟩, fun other us left => absurd left (still other us)⟩
  | delivered nodeID senderID number =>
    obtain ⟨cluster, handled, rfl⟩ := Option.map_eq_some_iff.mp taken
    obtain ⟨msg, -, rfl⟩ := Option.map_eq_some_iff.mp handled
    refine inv.fewer (fun some => ⟨some, rfl⟩) fun other us left => ?_
    exact RejoiningSession.Leaves.of_setNode_same (NodeRecords.removals_handleEvent msg) left
  | timedOut place =>
    obtain ⟨reader, found, taken⟩ := Option.bind_eq_some_iff.mp taken
    obtain ⟨object, -, taken⟩ := Option.bind_eq_some_iff.mp taken
    obtain ⟨_, -, taken⟩ := Option.bind_eq_some_iff.mp taken
    cases taken
    obtain ⟨unchecked, newest⟩ := apart
    refine ⟨fun some => absurd unchecked some, fun nodeID us left later same => ?_⟩
    rcases left with ⟨waiting, member, rfl, rfl⟩ | unlisted | queues
    · rcases List.mem_append.mp member with before | new
      · exact inv.leaving _ _ (.inl ⟨waiting, before, rfl, rfl⟩) later same
      · obtain rfl := List.mem_singleton.mp new
        exact newest waiting later found same
    · exact inv.leaving _ _ (.inr (.inl unlisted)) later same
    · exact inv.leaving _ _ (.inr (.inr queues)) later same
  | reconnected place =>
    obtain ⟨reader, -, taken⟩ := Option.bind_eq_some_iff.mp taken
    obtain ⟨object, -, taken⟩ := Option.bind_eq_some_iff.mp taken
    obtain ⟨_, -, taken⟩ := Option.bind_eq_some_iff.mp taken
    cases taken
    refine inv.fewer (fun some => ⟨some, rfl⟩) fun other us left => ?_
    exact RejoiningSession.Leaves.of_setNode_same (NodeRecords.removals_clearReconnected _) left
  | removing place sessionsCount locked =>
    obtain ⟨leaving, found, taken⟩ := Option.bind_eq_some_iff.mp taken
    obtain ⟨object, -, taken⟩ := Option.bind_eq_some_iff.mp taken
    cases taken
    have checked : (({ session with timedOut := session.timedOut.eraseIdx place } : RejoiningSession).remove leaving object
        sessionsCount locked).checked = session.checked ∧ (({ session with timedOut := session.timedOut.eraseIdx place } :
        RejoiningSession).remove leaving object sessionsCount locked).inCall = session.inCall := by
      unfold RejoiningSession.remove
      dsimp only
      split <;> exact ⟨rfl, rfl⟩
    refine inv.fewer (fun some => ⟨by rw [← checked.1]; exact some, checked.2⟩) fun other us left => ?_
    rcases left.of_remove with (⟨reader, member, named⟩ | rest) | ⟨rfl, rfl⟩
    · exact .inl ⟨reader, List.mem_of_mem_eraseIdx member, named⟩
    · exact .inr rest
    · exact .inl ⟨leaving, List.mem_of_getElem? found, rfl, rfl⟩
  | runRemove nodeID channelID =>
    obtain ⟨⟨us, node⟩, popped, taken⟩ := Option.bind_eq_some_iff.mp taken
    cases taken
    obtain ⟨queued, others⟩ := NodeRecords.Queues.of_popRemoval popped
    refine inv.fewer (fun some => ⟨some, rfl⟩) fun other gone left => ?_
    rcases left.of_unlisted with left | ⟨rfl, rfl⟩
    · rcases left.of_setNode with before | ⟨rfl, queues⟩
      · exact before
      · exact .inr (.inr (others _ queues.of_removeSessionFromCall))
    · exact .inr (.inr queued)
  | removed place =>
    obtain ⟨leaving, found, taken⟩ := Option.bind_eq_some_iff.mp taken
    cases taken
    have left : session.Leaves leaving.1 leaving.2 := .inr (.inl (List.mem_of_getElem? found))
    refine ⟨fun some => absurd left ((inv.ready some).2 _ _), fun other us left => inv.leaving other us ?_⟩
    rcases left with waits | unlisted | queues
    · exact .inl waits
    · exact .inr (.inl (List.mem_of_mem_eraseIdx unlisted))
    · exact .inr (.inr queues)

end ApartInvariant

/-- Alice has joined a call of which her own node has the RTC side. -/
def aliceInCall : RejoiningSession :=
  .joined "conn-1" "alice" "node" "channel" { callID := "call", handlerID := "node", rtcd := false, sendFails := false }

/-- Alice reconnects by the connection that she had. -/
def aliceRejoins : ReconnectRequest :=
  { userID := "alice", connID := "conn-1", channelID := "channel", originalConnID := "conn-1", prevConnID := "conn-1", permitted := true }

end Calls
