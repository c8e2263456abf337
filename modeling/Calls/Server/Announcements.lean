import Calls.Server.RoamingProperties

/-! What a step leaves of the objects of a node, and the messages that it adds to
those that the nodes have still to handle. -/

set_option autoImplicit false

namespace Calls

namespace NodeRecords

variable {r : Roaming} {node after : NodeRecords} {nodeID sessionID : String} {step : RecordStep}

/-! ### What a node remembers of its objects -/

/-- An object stays that of its session, and stays flagged. -/
structure Follows (object other : SessionObject) : Prop where
  originalConnID : other.originalConnID = object.originalConnID
  callID : other.callID = object.callID
  removed : object.removed = true → other.removed = true

theorem Follows.refl (object : SessionObject) : Follows object object := ⟨rfl, rfl, id⟩

theorem Follows.trans {object middle other : SessionObject} (first : Follows object middle) (second : Follows middle other) :
    Follows object other :=
  ⟨second.originalConnID.trans first.originalConnID, second.callID.trans first.callID, second.removed ∘ first.removed⟩

/-- The objects are still there. -/
def Remembers (before after : NodeRecords) : Prop :=
  ∀ (us : Nat) object, before.objects[us]? = some object →
    ∃ other, after.objects[us]? = some other ∧ Follows object other

/-- The objects are still there, and name the connections that they did. -/
def Retains (before after : NodeRecords) : Prop :=
  ∀ (us : Nat) object, before.objects[us]? = some object →
    ∃ other, after.objects[us]? = some other ∧ Follows object other ∧ other.connID = object.connID

theorem Retains.remembers (retains : node.Retains after) : node.Remembers after := by
  intro us object found
  obtain ⟨other, found, follows, _⟩ := retains us object found
  exact ⟨other, found, follows⟩

theorem Retains.of_eq (objects : after.objects = node.objects) : node.Retains after := by
  intro us object found
  exact ⟨object, by rw [objects]; exact found, .refl object, rfl⟩

theorem Retains.trans {middle : NodeRecords} (first : node.Retains middle) (second : middle.Retains after) :
    node.Retains after := by
  intro us object found
  obtain ⟨other, found, follows, named⟩ := first us object found
  obtain ⟨last, found, follows', named'⟩ := second us other found
  exact ⟨last, found, follows.trans follows', named'.trans named⟩

theorem Retains.store (key : String) (object : SessionObject) : node.Retains (node.store key object) := by
  intro us old found
  exact ⟨old, by rw [NodeRecords.store, List.getElem?_append_left (List.getElem?_eq_some_iff.mp found).1]; exact found,
    .refl old, rfl⟩

/-- One object changes, and the others are as they were. -/
theorem setObject_follows {us : Nat} {old object : SessionObject} (found : node.objects[us]? = some old)
    (follows : Follows old object) (place : Nat) (was : SessionObject) (listed : node.objects[place]? = some was) :
    ∃ other, (node.setObject us object).objects[place]? = some other ∧ Follows was other ∧
      (other.connID = was.connID ∨ place = us ∧ other = object) := by
  simp only [NodeRecords.setObject, List.getElem?_set]
  split
  · next here =>
    subst here
    rw [found] at listed
    cases listed
    exact ⟨object, if_pos (List.getElem?_eq_some_iff.mp found).1, follows, .inr ⟨rfl, rfl⟩⟩
  · exact ⟨was, listed, .refl was, .inl rfl⟩

theorem Retains.setObject {us : Nat} {old object : SessionObject} (found : node.objects[us]? = some old)
    (follows : Follows old object) (named : object.connID = old.connID) : node.Retains (node.setObject us object) := by
  intro place was listed
  obtain ⟨other, found', follows', same | ⟨rfl, rfl⟩⟩ := setObject_follows found follows place was listed
  · exact ⟨other, found', follows', same⟩
  · rw [found] at listed
    cases listed
    exact ⟨other, found', follows', named⟩

theorem Retains.marked (connID prevConnID : String) : node.Retains (node.marked connID prevConnID) := by
  unfold NodeRecords.marked
  split
  · exact .of_eq rfl
  · next found here => exact .setObject (Owned.found_at here).1 ⟨rfl, rfl, id⟩ rfl

theorem removeSessionFromCall_objects (us : Nat) : (node.removeSessionFromCall us).objects = node.objects := by
  unfold NodeRecords.removeSessionFromCall
  split
  · rfl
  · dsimp only
    split <;> rfl

/-- After `removeSession` the object is flagged. -/
theorem removeSession_flags {us : Nat} {object : SessionObject} (found : node.objects[us]? = some object)
    (sessionsCount : Nat) (locked : Bool) :
    (node.removeSession us object sessionsCount locked).2.objects =
      node.objects.set us { object with removed := true } := by
  have flag : (node.setObject us { object with removed := true }).objects =
      node.objects.set us { object with removed := true } := rfl
  unfold NodeRecords.removeSession
  split
  · next removed =>
    obtain ⟨inside, same⟩ := List.getElem?_eq_some_iff.mp found
    have same : ({ object with removed := true } : SessionObject) = node.objects[us] := by
      rw [same]
      cases object
      simp_all
    rw [same, List.set_getElem_self]
  · dsimp only
    split
    · split <;> rfl
    · split
      · rfl
      · split
        · exact (removeSessionFromCall_objects us).trans flag
        · rfl

theorem Retains.addSessionToCall (nodeID : String) (joiner : Joiner) (added : Option Added) :
    node.Retains (node.addSessionToCall nodeID joiner added) := by
  cases added with
  | none => exact .of_eq rfl
  | some added =>
    have stored : node.Retains (node.store joiner.connID (newUserSession joiner.userID joiner.channelID joiner.connID
      added.callID (added.rtcd = false ∧ added.handlerID = nodeID)).fresh) := .store _ _
    simp only [NodeRecords.addSessionToCall]
    split
    · exact stored.trans (.of_eq rfl)
    · exact stored

theorem Retains.next? (taken : node.next? nodeID step = some after) : node.Retains after := by
  cases step with
  | join joiner memberCount added =>
    cases taken
    rcases handleJoin_cases nodeID node joiner memberCount added with ⟨batchers, same, _⟩ | ⟨same, _⟩
    · rw [same]; exact .of_eq rfl
    · rw [same]; exact .addSessionToCall nodeID joiner added
  | runJoin channelID added =>
    obtain ⟨joiner, batchers, rfl, _⟩ := runJoin?_cases taken
    have popped : node.Retains { node with addSessionsBatchers := batchers } := .of_eq rfl
    exact popped.trans (.addSessionToCall nodeID joiner added)
  | reconnect req callID botFails sendFails =>
    cases taken
    have marked : node.Retains (node.marked req.connID req.prevConnID) := .marked _ _
    by_cases goes : node.GoesThrough req botFails
    · have replaced : node.Retains (node.replaced req callID) :=
        marked.trans (Retains.trans (.of_eq rfl) (.store req.connID (node.replacement req callID)))
      rw [handleReconnect_through goes]
      split
      · exact replaced
      · exact replaced.trans (.of_eq rfl)
    · rcases handleReconnect_refused goes nodeID callID sendFails with same | same
      · rw [same]; exact .of_eq rfl
      · rw [same]; exact marked
  | clear us connID =>
    cases taken
    unfold NodeRecords.clearReconnected
    split <;> exact .of_eq rfl
  | remove us sessionsCount locked =>
    obtain ⟨object, found, rfl⟩ := Option.map_eq_some_iff.mp taken
    refine Retains.trans (.setObject found ⟨rfl, rfl, fun _ => rfl⟩ rfl : node.Retains (node.setObject us { object with removed := true })) ?_
    exact .of_eq (removeSession_flags found sessionsCount locked)
  | runRemove channelID =>
    obtain ⟨⟨us, rest⟩, found, rfl⟩ := Option.map_eq_some_iff.mp taken
    refine .of_eq ((removeSessionFromCall_objects us).trans ?_)
    unfold NodeRecords.popRemoval? at found
    split at found <;> cases found
    rfl

/-- Only the reconnect message of another node names another connection. -/
theorem handleEvent_follows (msg : ClusterMessage) (us : Nat) (object : SessionObject)
    (listed : node.objects[us]? = some object) :
    ∃ other, (node.handleEvent msg).objects[us]? = some other ∧ Follows object other ∧
      (other.connID = object.connID ∨
        ∃ senderID connID newConnID userID callID, msg = .reconnect senderID connID newConnID userID callID ∧
          node.sessions.get? connID = some us ∧ object.wsReconnected = false ∧ object.rtc = true ∧
            other.connID = newConnID) := by
  cases msg with
  | connect senderID targetID connID userID channelID callID =>
    simp only [NodeRecords.handleEvent]
    split
    · exact ⟨object, listed, .refl object, .inl rfl⟩
    · have stored : node.Retains (node.store connID (newUserSession userID channelID connID callID true).fresh) :=
        .store _ _
      obtain ⟨other, found, follows, named⟩ := stored us object listed
      exact ⟨other, found, follows, .inl named⟩
  | reconnect senderID connID newConnID userID callID =>
    simp only [NodeRecords.handleEvent]
    split
    · exact ⟨object, listed, .refl object, .inl rfl⟩
    · next place stored =>
      split
      · exact ⟨object, listed, .refl object, .inl rfl⟩
      · next there found =>
        split
        · exact ⟨object, listed, .refl object, .inl rfl⟩
        · next unflagged =>
          split
          · next rtc =>
            have renamed : Follows there { there with wsReconnected := true, connID := newConnID } := ⟨rfl, rfl, id⟩
            obtain ⟨other, found', follows, named | ⟨rfl, rfl⟩⟩ := setObject_follows found renamed us object listed
            · exact ⟨other, found', follows, .inl named⟩
            · rw [listed] at found
              cases found
              exact ⟨_, found', follows, .inr ⟨_, _, _, _, _, rfl, stored, by simpa using unflagged, rtc, rfl⟩⟩
          · have marked : node.Retains (node.setObject place { there with wsReconnected := true }) :=
              .setObject found ⟨rfl, rfl, id⟩ rfl
            obtain ⟨other, found', follows, named⟩ := marked us object listed
            exact ⟨other, found', follows, .inl named⟩

theorem Remembers.handleEvent (msg : ClusterMessage) : node.Remembers (node.handleEvent msg) := by
  intro us object listed
  obtain ⟨other, found, follows, _⟩ := handleEvent_follows msg us object listed
  exact ⟨other, found, follows⟩

/-- A session that is alive after a step was so before. -/
theorem Remembers.alive (remembers : node.Remembers after) (alive : after.Alive sessionID) : node.Alive sessionID := by
  intro us object found own
  obtain ⟨other, found', follows⟩ := remembers us object found
  by_contra removed
  have flagged := follows.removed (by simpa using removed)
  rw [alive us other found' (follows.originalConnID.trans own)] at flagged
  cases flagged

/-! ### The messages of a step -/

/-- What a step tells the other nodes. -/
def announces? (nodeID : String) (node : NodeRecords) (step : RecordStep) : Option ClusterMessage :=
  match node.adds? step with
  | some (joiner, added) =>
    if added.rtcd = false ∧ added.handlerID ≠ nodeID ∧ added.sendFails = false then
      some (.connect nodeID added.handlerID joiner.connID joiner.userID joiner.channelID added.callID)
    else none
  | none =>
    match step with
    | .reconnect req callID botFails sendFails =>
      if node.goesThrough req botFails ∧ sendFails = false then
        some (.reconnect nodeID req.prevConnID req.connID req.userID callID)
      else none
    | _ => none

theorem addSessionToCall_sent (joiner : Joiner) (added : Added) :
    (node.addSessionToCall nodeID joiner (some added)).sent = node.sent ++
      (if added.rtcd = false ∧ added.handlerID ≠ nodeID ∧ added.sendFails = false then
        [.connect nodeID added.handlerID joiner.connID joiner.userID joiner.channelID added.callID] else []) := by
  simp only [addSessionToCall]
  split
  · rfl
  · exact (List.append_nil _).symm

theorem removeSessionFromCall_sent (us : Nat) : (node.removeSessionFromCall us).sent = node.sent := by
  unfold removeSessionFromCall
  split
  · rfl
  · dsimp only
    split <;> rfl

theorem removeSession_sent (us : Nat) (object : SessionObject) (sessionsCount : Nat) (locked : Bool) :
    (node.removeSession us object sessionsCount locked).2.sent = node.sent := by
  unfold removeSession
  split
  · rfl
  · dsimp only
    split
    · split <;> rfl
    · split
      · rfl
      · split
        · exact removeSessionFromCall_sent us
        · rfl

theorem marked_sent (connID prevConnID : String) : (node.marked connID prevConnID).sent = node.sent := by
  unfold marked
  split <;> rfl

theorem next?_sent (taken : node.next? nodeID step = some after) :
    after.sent = node.sent ++ (node.announces? nodeID step).toList := by
  cases step with
  | join joiner memberCount added =>
    cases taken
    rcases handleJoin_cases nodeID node joiner memberCount added with ⟨batchers, same, none⟩ | ⟨same, adds⟩
    · simp [same, announces?, none]
    · rw [same]
      cases added with
      | none => simp [addSessionToCall, announces?, adds]
      | some added =>
        rw [addSessionToCall_sent]
        simp only [announces?, adds, Option.map_some]
        split <;> rfl
  | runJoin channelID added =>
    obtain ⟨joiner, batchers, rfl, adds⟩ := runJoin?_cases taken
    cases added with
    | none => simp [addSessionToCall, announces?, adds]
    | some added =>
      rw [addSessionToCall_sent]
      simp only [announces?, adds, Option.map_some]
      split <;> rfl
  | reconnect req callID botFails sendFails =>
    cases taken
    by_cases goes : node.GoesThrough req botFails
    · have sent : (node.replaced req callID).sent = node.sent := marked_sent _ _
      rw [handleReconnect_through goes]
      cases sendFails with
      | true => simp [announces?, adds?, sent]
      | false => simp [announces?, adds?, send, sent, goesThrough_iff.mpr goes]
    · have refused : node.goesThrough req botFails = false := by simpa [← goesThrough_iff] using goes
      have none : node.announces? nodeID (.reconnect req callID botFails sendFails) = none := by
        simp [announces?, adds?, refused]
      rcases handleReconnect_refused goes nodeID callID sendFails with same | same
      · simp [same, none]
      · simp [same, none, marked_sent]
  | clear us connID =>
    cases taken
    unfold clearReconnected
    split <;> exact (List.append_nil _).symm
  | remove us sessionsCount locked =>
    obtain ⟨object, found, rfl⟩ := Option.map_eq_some_iff.mp taken
    rw [removeSession_sent]
    exact (List.append_nil _).symm
  | runRemove channelID =>
    obtain ⟨⟨us, rest⟩, found, rfl⟩ := Option.map_eq_some_iff.mp taken
    rw [removeSessionFromCall_sent]
    unfold popRemoval? at found
    split at found
    · cases found
      exact (List.append_nil _).symm
    · cases found

theorem handleEvent_sent (msg : ClusterMessage) : (node.handleEvent msg).sent = node.sent := by
  cases msg with
  | connect => simp only [handleEvent]; split <;> rfl
  | reconnect =>
    simp only [handleEvent]
    split
    · rfl
    · split
      · rfl
      · split
        · rfl
        · split <;> rfl

/-- What is announced is a session that was added, or one that came back. -/
theorem announces?_cases {node : NodeRecords} {nodeID : String} {step : RecordStep} {m : ClusterMessage}
    (announced : node.announces? nodeID step = some m) :
    (∃ joiner added, node.adds? step = some (joiner, added) ∧ added.rtcd = false ∧ added.handlerID ≠ nodeID ∧
        m = .connect nodeID added.handlerID joiner.connID joiner.userID joiner.channelID added.callID) ∨
      ∃ req callID, step = .reconnect req callID false false ∧ node.GoesThrough req false ∧
        m = .reconnect nodeID req.prevConnID req.connID req.userID callID := by
  unfold announces? at announced
  split at announced
  · next joiner added adds =>
    split at announced
    · next told => cases announced; exact .inl ⟨joiner, added, adds, told.1, told.2.1, rfl⟩
    · cases announced
  · cases step with
    | reconnect req callID botFails sendFails =>
      dsimp only at announced
      split at announced
      · next told =>
        cases announced
        have goes := goesThrough_iff.mp told.1
        obtain rfl : botFails = false := goes.2
        obtain rfl : sendFails = false := told.2
        exact .inr ⟨req, callID, rfl, goes, rfl⟩
      · cases announced
    | _ => cases announced

/-- A node tells itself nothing. -/
theorem announces?_elsewhere {node : NodeRecords} {nodeID : String} {step : RecordStep} {m : ClusterMessage}
    (announced : node.announces? nodeID step = some m) : m.reaches nodeID = false := by
  rcases announces?_cases announced with ⟨joiner, added, _, _, other, rfl⟩ | ⟨req, callID, _, _, rfl⟩
  · simpa [ClusterMessage.reaches] using other.symm
  · simp [ClusterMessage.reaches]

end NodeRecords

/-! ### The messages still to be handled -/

theorem Roaming.Names.concerns {r extended : Roaming} {msg : ClusterMessage} (names : r.Names msg)
    (extend : r.Extends extended) (sessionID : String) : extended.Concerns sessionID msg ↔ r.Concerns sessionID msg := by
  have owner : ∃ owner, r.session? msg.connID = some owner := by
    cases msg with
    | connect => exact ⟨_, names⟩
    | reconnect =>
      obtain ⟨owner, old, _⟩ := names
      exact ⟨owner, old⟩
  obtain ⟨owner, known⟩ := owner
  rw [Roaming.Concerns, Roaming.Concerns, known, extend _ _ known]

/-- No message is handled before it is sent. -/
def Ordered (c : RecordsCluster) : Prop := ∀ nodeID senderID number, (nodeID, senderID, number) ∈ c.delivered →
  number < (c.nodes senderID).sent.length

theorem pending?_lt {c : RecordsCluster} {nodeID senderID : String} {number : Nat} {msg : ClusterMessage}
    (pending : c.pending? nodeID senderID number = some msg) : number < (c.nodes senderID).sent.length := by
  unfold RecordsCluster.pending? at pending
  split at pending
  · cases pending
  · exact (List.getElem?_eq_some_iff.mp (Option.filter_eq_some_iff.mp pending).1).1

theorem pending?_act {c : RecordsCluster} (ordered : Ordered c) {nodeID : String} {step : RecordStep} {node : NodeRecords}
    (taken : (c.nodes nodeID).next? nodeID step = some node) (handlerID y : String) (j : Nat) (m : ClusterMessage) :
    (c.setNode nodeID node).pending? handlerID y j = some m ↔
      c.pending? handlerID y j = some m ∨
        (y = nodeID ∧ j = (c.nodes nodeID).sent.length ∧ (c.nodes nodeID).announces? nodeID step = some m ∧
          m.reaches handlerID = true) := by
  unfold RecordsCluster.pending? RecordsCluster.setNode
  dsimp only
  by_cases handled : (handlerID, y, j) ∈ c.delivered
  · have sent := ordered _ _ _ handled
    simp only [handled, if_true, reduceCtorEq, false_or, false_iff]
    intro facts
    obtain ⟨rfl, rfl, _⟩ := facts
    exact Nat.lt_irrefl _ sent
  · simp only [handled, if_false]
    by_cases here : y = nodeID
    · subst here
      rw [Function.update_self, NodeRecords.next?_sent taken, List.getElem?_append]
      split
      · next inside =>
        refine ⟨.inl, ?_⟩
        intro either
        rcases either with old | ⟨_, rfl, _⟩
        · exact old
        · exact absurd inside (Nat.lt_irrefl _)
      · next outside =>
        rw [List.getElem?_eq_none (Nat.le_of_not_lt outside)]
        cases announced : (c.nodes y).announces? y step with
        | none => simp
        | some msg =>
          simp only [Option.toList_some, List.getElem?_singleton, Option.filter_eq_some_iff, Option.filter_none,
            reduceCtorEq, false_or, true_and]
          constructor
          · intro facts
            obtain ⟨there, reaches⟩ := facts
            split at there
            · next zero => exact ⟨by omega, there, reaches⟩
            · cases there
          · intro facts
            obtain ⟨rfl, there, reaches⟩ := facts
            simp [there, reaches]
    · rw [Function.update_of_ne here]
      simp [here]

theorem pending?_deliver {c : RecordsCluster} {nodeID senderID : String} {number : Nat} {msg : ClusterMessage}
    (handlerID y : String) (j : Nat) (m : ClusterMessage) :
    RecordsCluster.pending? { c.setNode nodeID ((c.nodes nodeID).handleEvent msg) with
        delivered := (nodeID, senderID, number) :: c.delivered } handlerID y j = some m ↔
      (handlerID, y, j) ≠ (nodeID, senderID, number) ∧ c.pending? handlerID y j = some m := by
  have sent : (Function.update c.nodes nodeID ((c.nodes nodeID).handleEvent msg) y).sent = (c.nodes y).sent := by
    by_cases here : y = nodeID
    · subst here
      rw [Function.update_self, NodeRecords.handleEvent_sent]
    · rw [Function.update_of_ne here]
  unfold RecordsCluster.pending? RecordsCluster.setNode
  dsimp only
  rw [sent]
  by_cases now : (handlerID, y, j) = (nodeID, senderID, number)
  · simp [now]
  · simp [now]

section
variable {c : RecordsCluster} {node : NodeRecords} {nodeID : String} {step : RecordStep}

theorem Ordered.act (ordered : Ordered c) (taken : (c.nodes nodeID).next? nodeID step = some node) :
    Ordered (c.setNode nodeID node) := by
  intro place senderID number handled
  have before := ordered place senderID number handled
  by_cases here : senderID = nodeID
  · subst here
    rw [show (c.setNode senderID node).nodes senderID = node from Function.update_self _ _ _,
      NodeRecords.next?_sent taken, List.length_append]
    exact Nat.lt_add_right _ before
  · rw [show (c.setNode nodeID node).nodes senderID = c.nodes senderID from Function.update_of_ne here _ _]
    exact before

theorem Ordered.deliver (ordered : Ordered c) {senderID : String} {number : Nat} {msg : ClusterMessage}
    (pending : c.pending? nodeID senderID number = some msg) :
    Ordered { c.setNode nodeID ((c.nodes nodeID).handleEvent msg) with
      delivered := (nodeID, senderID, number) :: c.delivered } := by
  have sent (place : String) : ((c.setNode nodeID ((c.nodes nodeID).handleEvent msg)).nodes place).sent =
      (c.nodes place).sent := by
    by_cases here : place = nodeID
    · subst here
      simp [RecordsCluster.setNode, NodeRecords.handleEvent_sent]
    · simp [RecordsCluster.setNode, here]
  intro place sender j handled
  dsimp only at handled ⊢
  rw [sent]
  rcases List.mem_cons.mp handled with now | before
  · cases now
    exact pending?_lt pending
  · exact ordered place sender j before

end

end Calls
