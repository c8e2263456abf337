import Calls.Server.Announcements

/-! How far the node of the RTC side of a session knows where its client is. -/

set_option autoImplicit false

namespace Calls

/-- A message about the session that the node has still to handle. -/
def About (c : RecordsCluster) (r : Roaming) (nodeID sessionID senderID : String) (number : Nat) (msg : ClusterMessage) :
    Prop :=
  c.pending? nodeID senderID number = some msg ∧ r.Concerns sessionID msg

/-- The stages of a session on the node `handlerID`, by the node's records, the
messages about it, the connection of its client, and the nodes it went through. -/
inductive Stage (node : NodeRecords) (about : String → Nat → ClusterMessage → Prop) (current : Option String)
    (through : List String) (sessionID handlerID : String) : Prop where
  /-- The session was added by another node, from which the message is still to come. -/
  | announced {senderID a b u ch call : String} {number : Nat} :
      current = some sessionID → node.Only sessionID none → through = [] →
      (∀ y j m, about y j m ↔ y = senderID ∧ j = number ∧ m = .connect a b sessionID u ch call) →
      Stage node about current through sessionID handlerID
  /-- The client has come back through another node before that, from which a second message is still to come. -/
  | announcedAway {connID senderID a b u ch call fromID a' u' call' : String} {number place : Nat} :
      current = some connID → node.Only sessionID none → (∃ other ∈ through, other ≠ handlerID) → handlerID ∉ through →
      (senderID, number) ≠ (fromID, place) →
      (∀ y j m, about y j m ↔ y = senderID ∧ j = number ∧ m = .connect a b sessionID u ch call ∨
        y = fromID ∧ j = place ∧ m = .reconnect a' sessionID connID u' call') →
      Stage node about current through sessionID handlerID
  /-- The object is that of the client's connection. -/
  | here {key : String} {us : SessionObject} :
      current = some key → node.Only sessionID (some (key, us)) → us.connID = key → us.rtc = true →
      us.wsReconnected = false → (∀ y j m, ¬ about y j m) → (∀ other ∈ through, other = handlerID) →
      (handlerID ∉ through → key = sessionID) → Stage node about current through sessionID handlerID
  /-- The client has come back through another node, from which the message is still to come. -/
  | away {key connID senderID a u call : String} {number : Nat} {us : SessionObject} :
      current = some connID → node.Only sessionID (some (key, us)) → us.connID = key → us.rtc = true →
      us.wsReconnected = false →
      (∀ y j m, about y j m ↔ y = senderID ∧ j = number ∧ m = .reconnect a key connID u call) →
      (∃ other ∈ through, other ≠ handlerID) → (handlerID ∉ through → key = sessionID) →
      Stage node about current through sessionID handlerID
  | renamed {key connID : String} {us : SessionObject} :
      current = some connID → node.Only sessionID (some (key, us)) → us.connID = connID → us.rtc = true →
      (∀ y j m, ¬ about y j m) → (∃ other ∈ through, other ≠ handlerID) → (handlerID ∉ through → key = sessionID) →
      Stage node about current through sessionID handlerID
  /-- The client has come back to the node after it was away. -/
  | back {key : String} {us : SessionObject} :
      current = some key → node.Only sessionID (some (key, us)) → us.connID = key → us.wsReconnected = false →
      (∀ y j m, about y j m → ∃ a connID newConnID u call, m = .reconnect a connID newConnID u call ∧ connID ≠ key) →
      handlerID ∈ through → (∃ other ∈ through, other ≠ handlerID) →
      Stage node about current through sessionID handlerID

namespace Stage

variable {node after : NodeRecords} {about later : String → Nat → ClusterMessage → Prop} {current : Option String}
  {through : List String} {sessionID handlerID : String}

/-- What is not about the session changes nothing. -/
theorem keeps (stage : Stage node about current through sessionID handlerID)
    (kept : NodeRecords.Keeps sessionID node after) (same : ∀ y j m, later y j m ↔ about y j m) :
    Stage after later current through sessionID handlerID := by
  cases stage with
  | announced at? only none pending =>
    exact .announced at? (only.keeps kept) none fun y j m => (same y j m).trans (pending y j m)
  | announcedAway at? only some absent apart pending =>
    exact .announcedAway at? (only.keeps kept) some absent apart fun y j m => (same y j m).trans (pending y j m)
  | here at? only named rtc unflagged none all first =>
    exact .here at? (only.keeps kept) named rtc unflagged (fun y j m told => none y j m ((same y j m).mp told)) all first
  | away at? only named rtc unflagged pending some first =>
    exact .away at? (only.keeps kept) named rtc unflagged (fun y j m => (same y j m).trans (pending y j m)) some first
  | renamed at? only named rtc none some first =>
    exact .renamed at? (only.keeps kept) named rtc (fun y j m told => none y j m ((same y j m).mp told)) some first
  | back at? only named unflagged pending own some =>
    exact .back at? (only.keeps kept) named unflagged (fun y j m told => pending y j m ((same y j m).mp told)) own some

/-- No object of the session is one that is cleared after a reconnection. -/
theorem uncleared (stage : Stage node about current through sessionID handlerID) {key : String} {us : SessionObject}
    (found : node.at? key = some us) (own : us.originalConnID = sessionID) :
    us.wsReconnected = false ∨ us.rtc = true := by
  cases stage with
  | announced at? only | announcedAway at? only => exact absurd ((only key us).mp ⟨found, own⟩) nofun
  | here at? only named rtc unflagged => cases (only key us).mp ⟨found, own⟩; exact .inl unflagged
  | away at? only named rtc unflagged => cases (only key us).mp ⟨found, own⟩; exact .inl unflagged
  | renamed at? only named rtc => cases (only key us).mp ⟨found, own⟩; exact .inr rtc
  | back at? only named unflagged => cases (only key us).mp ⟨found, own⟩; exact .inl unflagged

/-- Once all messages about the session are handled, its object is that of the client's connection. -/
theorem settled (stage : Stage node about current through sessionID handlerID) (none : ∀ y j m, ¬ about y j m) :
    ∃ key us connID, current = some connID ∧ node.Only sessionID (some (key, us)) ∧ us.connID = connID := by
  cases stage with
  | announced _ _ _ pending => exact absurd ((pending _ _ _).mpr ⟨rfl, rfl, rfl⟩) (none _ _ _)
  | announcedAway _ _ _ _ _ pending => exact absurd ((pending _ _ _).mpr (.inl ⟨rfl, rfl, rfl⟩)) (none _ _ _)
  | here at? only named => exact ⟨_, _, _, at?, only, named⟩
  | away _ _ _ _ _ pending => exact absurd ((pending _ _ _).mpr ⟨rfl, rfl, rfl⟩) (none _ _ _)
  | renamed at? only named => exact ⟨_, _, _, at?, only, named⟩
  | back at? only named => exact ⟨_, _, _, at?, only, named⟩

end Stage

namespace NodeRecords

theorem handleReconnect_repeated {node : NodeRecords} {req : ReconnectRequest} (refused : ¬ node.GoesThrough req false)
    (nodeID callID : String) (sendFails : Bool) : node.handleReconnect nodeID req callID false sendFails = node := by
  unfold NodeRecords.handleReconnect
  rw [if_pos]
  by_contra once
  refine refused ⟨fun found here => ?_, rfl⟩
  simpa [here] using once

/-! ### Entries of a session after a step about it -/

variable {r : Roaming} {node after : NodeRecords} {nodeID sessionID : String} {step : RecordStep}

theorem Owned.absent (owned : node.Owned r) {key : String} (fresh : r.session? key = none) :
    node.sessions.get? key = none := by
  cases stored : node.sessions.get? key with
  | none => rfl
  | some us =>
    have found := List.getElem?_eq_getElem (owned.range key us stored)
    have owner := owned.keys key _ (at?_eq_some stored found)
    rw [fresh] at owner
    cases owner

/-- An entry that a connection of the session leads to is one of its entries. -/
theorem Owned.own (owned : node.Owned r) {key : String} {us : SessionObject} (session : r.session? key = some sessionID)
    (found : node.at? key = some us) : us.originalConnID = sessionID := by
  have owner := owned.keys key us found
  rw [session] at owner
  exact (Option.some.inj owner).symm

theorem at?_added {joiner : Joiner} {added : Added} (range : node.InRange)
    (taken : node.next? nodeID step = some after) (adds : node.adds? step = some (joiner, added)) (key : String) :
    after.at? key =
      if key = joiner.connID then
        some (newUserSession joiner.userID joiner.channelID joiner.connID added.callID
          (added.rtcd = false ∧ added.handlerID = nodeID)).fresh
      else node.at? key := by
  have stores (before : NodeRecords) (objects : before.objects = node.objects) (sessions : before.sessions = node.sessions) :
      (before.addSessionToCall nodeID joiner (some added)).at? key =
        if key = joiner.connID then
          some (newUserSession joiner.userID joiner.channelID joiner.connID added.callID
            (added.rtcd = false ∧ added.handlerID = nodeID)).fresh
        else node.at? key := by
    have range' : before.InRange := by
      unfold InRange
      rw [objects, sessions]
      exact range
    have same : before.at? key = node.at? key := by rw [at?, at?, objects, sessions]
    rw [← same, ← at?_store range']
    simp only [NodeRecords.addSessionToCall]
    split <;> rfl
  cases step with
  | join other memberCount outcome =>
    cases taken
    rcases handleJoin_cases nodeID node other memberCount outcome with ⟨batchers, _, none⟩ | ⟨same, adds'⟩
    · rw [none] at adds
      cases adds
    · rw [adds] at adds'
      obtain ⟨_, rfl, pair⟩ := Option.map_eq_some_iff.mp adds'.symm
      cases pair
      rw [same]
      exact stores node rfl rfl
  | runJoin channelID outcome =>
    obtain ⟨other, batchers, rfl, adds'⟩ := runJoin?_cases taken
    rw [adds] at adds'
    obtain ⟨_, rfl, pair⟩ := Option.map_eq_some_iff.mp adds'.symm
    cases pair
    exact stores _ rfl rfl
  | reconnect | clear | remove | runRemove => cases adds

theorem marked_at? {connID prevConnID key : String} {us : SessionObject}
    (found : (node.marked connID prevConnID).at? key = some us) :
    ∃ old, node.at? key = some old ∧ old.originalConnID = us.originalConnID := by
  unfold marked at found
  split at found
  · exact ⟨us, found, rfl⟩
  · next object here =>
    have stored := (Owned.found_at here).1
    rw [at?_setObject stored] at found
    split at found
    · next there =>
      cases found
      exact ⟨object.2, at?_eq_some there stored, rfl⟩
    · exact ⟨us, found, rfl⟩

/-- Where the session is under its original connection, it is then under the new one. -/
theorem Owned.only_replaced (owned : node.Owned r) {req : ReconnectRequest} {us : SessionObject}
    (only : node.Only req.originalConnID (some (req.originalConnID, us))) (callID : String) :
    (node.replaced req callID).Only req.originalConnID (some (req.connID, node.replacement req callID)) := by
  have owned' := (owned.marked req.connID req.prevConnID).delete req.originalConnID
  intro key other
  rw [replaced, at?_store owned'.range, at?_delete]
  split
  · next here =>
    subst here
    constructor
    · intro facts
      obtain ⟨found, _⟩ := facts
      cases found
      rfl
    · intro same
      cases same
      exact ⟨rfl, rfl⟩
  · next elsewhere =>
    refine ⟨fun ⟨found, own⟩ => ?_, fun same => ?_⟩
    · split at found
      · cases found
      · next other' =>
        obtain ⟨old, found, same⟩ := marked_at? found
        cases (only key old).mp ⟨found, same.trans own⟩
        exact absurd rfl other'
    · cases same
      exact absurd rfl elsewhere

/-- The object found under the previous connection hands on its RTC side. -/
theorem Owned.replacement_rtc (owned : node.Owned r) {req : ReconnectRequest} {us : SessionObject}
    (fresh : r.session? req.connID = none) (found : node.at? req.prevConnID = some us) (callID : String) :
    (node.replacement req callID).rtc = us.rtc := by
  obtain ⟨place, stored, listed⟩ := Option.bind_eq_some_iff.mp found
  have here : node.reconnecting? req.connID req.prevConnID = some (place, us) := by
    simp [reconnecting?, owned.absent fresh, stored, listed]
  show (node.reconnecting? req.connID req.prevConnID).any (·.2.rtc) = us.rtc
  rw [here]
  rfl

end NodeRecords

end Calls
