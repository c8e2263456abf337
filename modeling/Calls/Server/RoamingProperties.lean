import Calls.Server.Roaming

/-! Whose connections the objects and the messages of the nodes name, and what a
step that is about other sessions leaves of a session. -/

set_option autoImplicit false

namespace Calls

namespace Roaming

/-- The sessions of connections that have been seen stay known. -/
def Extends (before after : Roaming) : Prop :=
  ∀ connID sessionID, before.session? connID = some sessionID → after.session? connID = some sessionID

structure Known (r : Roaming) : Prop where
  session : ∀ connID sessionID, r.session? connID = some sessionID → r.session? sessionID = some sessionID
  current : ∀ sessionID connID, r.current? sessionID = some connID → r.session? connID = some sessionID
  handler : ∀ sessionID nodeID, r.handler? sessionID = some nodeID → r.session? sessionID = some sessionID

/-- The message is about one session. -/
def Names (r : Roaming) : ClusterMessage → Prop
  | .connect _ _ connID _ _ _ => r.session? connID = some connID
  | .reconnect _ connID newConnID _ _ => ∃ sessionID, r.session? connID = some sessionID ∧ r.session? newConnID = some sessionID

variable {r after : Roaming} {nodeID : String}

theorem Names.mono {msg : ClusterMessage} (names : r.Names msg) (extend : r.Extends after) : after.Names msg := by
  cases msg with
  | connect senderID targetID connID userID channelID callID => exact extend _ _ names
  | reconnect senderID connID newConnID userID callID =>
    obtain ⟨sessionID, old, new⟩ := names
    exact ⟨sessionID, extend _ _ old, extend _ _ new⟩

/-- A new connection takes no known one's place. -/
theorem extends_of_update {connID sessionID : String}
    (free : r.session? connID = none ∨ r.session? connID = some sessionID)
    (updated : after.session? = Function.update r.session? connID (some sessionID)) : r.Extends after := by
  intro other owner known
  rw [updated]
  by_cases here : other = connID
  · subst here
    rcases free with fresh | own
    · rw [fresh] at known
      cases known
    · rw [Function.update_self, ← own]
      exact known
  · rw [Function.update_of_ne here]
    exact known

theorem Known.joined (known : r.Known) {joiner : Joiner} {added : Added} (fresh : r.session? joiner.connID = none) :
    (r.joined nodeID joiner added).Known := by
  have kept : r.Extends (r.joined nodeID joiner added) := extends_of_update (.inl fresh) rfl
  constructor
  · intro connID sessionID session
    by_cases here : connID = joiner.connID
    · simp only [Roaming.joined, here, Function.update_self, Option.some.injEq] at session
      rw [← session]
      exact Function.update_self _ _ _
    · simp only [Roaming.joined, Function.update_of_ne here] at session
      exact kept _ _ (known.session connID sessionID session)
  · intro sessionID connID current
    by_cases here : sessionID = joiner.connID
    · simp only [Roaming.joined, here, Function.update_self, Option.some.injEq] at current
      rw [← current, here]
      exact Function.update_self _ _ _
    · simp only [Roaming.joined, Function.update_of_ne here] at current
      exact kept _ _ (known.current sessionID connID current)
  · intro sessionID handlerID handler
    by_cases here : sessionID = joiner.connID
    · rw [here]
      exact Function.update_self _ _ _
    · simp only [Roaming.joined, Function.update_of_ne here] at handler
      exact kept _ _ (known.handler sessionID handlerID handler)

theorem Known.reconnected (known : r.Known) {req : ReconnectRequest}
    (free : r.session? req.connID = none ∨ r.session? req.connID = some req.originalConnID)
    (previous : r.session? req.prevConnID = some req.originalConnID) : (r.reconnected nodeID req).Known := by
  have kept : r.Extends (r.reconnected nodeID req) := extends_of_update free rfl
  have owner := known.session _ _ previous
  constructor
  · intro connID sessionID session
    by_cases here : connID = req.connID
    · simp only [Roaming.reconnected, here, Function.update_self, Option.some.injEq] at session
      rw [← session]
      exact kept _ _ owner
    · simp only [Roaming.reconnected, Function.update_of_ne here] at session
      exact kept _ _ (known.session connID sessionID session)
  · intro sessionID connID current
    by_cases here : sessionID = req.originalConnID
    · simp only [Roaming.reconnected, here, Function.update_self, Option.some.injEq] at current
      rw [← current, here]
      exact Function.update_self _ _ _
    · simp only [Roaming.reconnected, Function.update_of_ne here] at current
      exact kept _ _ (known.current sessionID connID current)
  · exact fun sessionID handlerID handler => kept _ _ (known.handler sessionID handlerID handler)

end Roaming

namespace NodeRecords

/-- The entries and the objects name connections of their sessions, and what
waits to be removed is flagged. -/
structure Owned (r : Roaming) (node : NodeRecords) : Prop where
  range : node.InRange
  keys : ∀ key us, node.at? key = some us → r.session? key = some us.originalConnID
  objects : ∀ (us : Nat) object, node.objects[us]? = some object → r.session? object.connID = some object.originalConnID
  sent : ∀ msg ∈ node.sent, r.Names msg
  queued : ∀ channelID batcher us, node.removeSessionsBatchers.get? channelID = some batcher → us ∈ batcher.items →
    ∃ object, node.objects[us]? = some object ∧ object.removed = true

namespace Owned

variable {r extended : Roaming} {node after : NodeRecords} {nodeID : String}

theorem mono (owned : node.Owned r) (extend : r.Extends extended) : node.Owned extended where
  range := owned.range
  keys key us found := extend _ _ (owned.keys key us found)
  objects us object found := extend _ _ (owned.objects us object found)
  sent msg listed := (owned.sent msg listed).mono extend
  queued := owned.queued

theorem store (owned : node.Owned r) {key : String} {object : SessionObject}
    (named : r.session? key = some object.originalConnID) (conn : r.session? object.connID = some object.originalConnID) :
    (node.store key object).Owned r where
  range := by
    intro other us stored
    simp only [NodeRecords.store, StringMap.get?_set] at stored
    simp only [NodeRecords.store, List.length_append, List.length_singleton]
    split at stored
    · cases stored
      exact Nat.lt_succ_self _
    · exact Nat.lt_succ_of_lt (owned.range other us stored)
  keys := by
    intro other us found
    rw [at?_store owned.range] at found
    split at found
    · next here => cases found; rw [here]; exact named
    · exact owned.keys other us found
  objects := by
    intro us other found
    simp only [NodeRecords.store] at found
    rcases List.mem_append.mp (List.mem_of_getElem? found) with old | new
    · obtain ⟨place, found⟩ := List.getElem?_of_mem old
      exact owned.objects place other found
    · rw [List.mem_singleton.mp new]
      exact conn
  sent := owned.sent
  queued := by
    intro channelID batcher us there waits
    obtain ⟨other, found, removed⟩ := owned.queued channelID batcher us there waits
    exact ⟨other, by rw [NodeRecords.store, List.getElem?_append_left (List.getElem?_eq_some_iff.mp found).1]; exact found,
      removed⟩

theorem delete (owned : node.Owned r) (key : String) : (node.delete key).Owned r where
  range := by
    intro other us stored
    simp only [NodeRecords.delete, StringMap.get?_erase] at stored
    split at stored
    · cases stored
    · exact owned.range other us stored
  keys := by
    intro other us found
    rw [at?_delete] at found
    split at found
    · cases found
    · exact owned.keys other us found
  objects := owned.objects
  sent := owned.sent
  queued := owned.queued

theorem setObject (owned : node.Owned r) {us : Nat} {old object : SessionObject} (found : node.objects[us]? = some old)
    (same : object.originalConnID = old.originalConnID) (conn : r.session? object.connID = some object.originalConnID)
    (flag : old.removed = true → object.removed = true) : (node.setObject us object).Owned r where
  range := by
    intro key other stored
    rw [NodeRecords.setObject, List.length_set]
    exact owned.range key other stored
  keys := by
    intro key other found'
    rw [at?_setObject found] at found'
    split at found'
    · next stored =>
      cases found'
      rw [same]
      exact owned.keys key old (at?_eq_some stored found)
    · exact owned.keys key other found'
  objects := by
    intro place other found'
    simp only [NodeRecords.setObject, List.getElem?_set] at found'
    split at found'
    · split at found'
      · cases found'; exact conn
      · cases found'
    · exact owned.objects place other found'
  sent := owned.sent
  queued := by
    intro channelID batcher place there waits
    obtain ⟨other, found', removed⟩ := owned.queued channelID batcher place there waits
    simp only [NodeRecords.setObject, List.getElem?_set]
    split
    · next here =>
      subst here
      rw [found] at found'
      cases found'
      exact ⟨object, if_pos (List.getElem?_eq_some_iff.mp found).1, flag removed⟩
    · exact ⟨other, found', removed⟩

/-- The batchers of removals hold no other objects than before. -/
theorem of_eq (owned : node.Owned r) (objects : after.objects = node.objects) (sessions : after.sessions = node.sessions)
    (sent : after.sent = node.sent)
    (queued : ∀ channelID batcher us, after.removeSessionsBatchers.get? channelID = some batcher → us ∈ batcher.items →
      ∃ object, node.objects[us]? = some object ∧ object.removed = true) : after.Owned r where
  range := by unfold InRange; rw [sessions, objects]; exact owned.range
  keys := by
    intro key us found
    rw [at?, sessions, objects] at found
    exact owned.keys key us found
  objects := by rw [objects]; exact owned.objects
  sent := by rw [sent]; exact owned.sent
  queued := by rw [objects]; exact queued

theorem send (owned : node.Owned r) {msg : ClusterMessage} (names : r.Names msg) : (node.send msg).Owned r where
  range := owned.range
  keys := owned.keys
  objects := owned.objects
  sent other listed := by
    rcases List.mem_append.mp listed with old | new
    · exact owned.sent other old
    · rw [List.mem_singleton.mp new]
      exact names
  queued := owned.queued

theorem stopIfEmpty_kept {α : Type} {batchers : StringMap (Batcher α)} {channelID other : String} {batcher : Batcher α}
    (left : (stopIfEmpty batchers channelID).get? other = some batcher) : batchers.get? other = some batcher := by
  unfold stopIfEmpty at left
  split at left
  · rw [StringMap.get?_erase] at left
    split at left
    · cases left
    · exact left
  · exact left

theorem removeSessionFromCall (owned : node.Owned r) (us : Nat) : (node.removeSessionFromCall us).Owned r := by
  unfold NodeRecords.removeSessionFromCall
  split
  · exact owned
  · next object found =>
    have deleted := owned.delete object.connID
    dsimp only
    split
    · exact deleted
    · exact deleted.of_eq rfl rfl rfl fun channelID batcher other there waits =>
        deleted.queued channelID batcher other (stopIfEmpty_kept there) waits

theorem removeSession (owned : node.Owned r) {us : Nat} {object : SessionObject} (found : node.objects[us]? = some object)
    (sessionsCount : Nat) (locked : Bool) : (node.removeSession us object sessionsCount locked).2.Owned r := by
  have flagged : (node.setObject us { object with removed := true }).Owned r :=
    owned.setObject found rfl (owned.objects us object found) fun _ => rfl
  have flag : ∃ set, (node.setObject us { object with removed := true }).objects[us]? = some set ∧ set.removed = true :=
    ⟨{ object with removed := true }, by simp [NodeRecords.setObject, (List.getElem?_eq_some_iff.mp found).1], rfl⟩
  have pushed (channelID : String) (filled : Batcher Nat) (old : ∀ other ∈ filled.items, other = us ∨
      ∃ batcher, node.removeSessionsBatchers.get? channelID = some batcher ∧ other ∈ batcher.items) :
      ({ node.setObject us { object with removed := true } with
        removeSessionsBatchers := node.removeSessionsBatchers.set channelID filled } : NodeRecords).Owned r := by
    refine flagged.of_eq rfl rfl rfl fun place batcher other there waits => ?_
    dsimp only at there
    rw [StringMap.get?_set] at there
    split at there
    · cases there
      rcases old other waits with rfl | ⟨batcher, there, waits⟩
      · exact flag
      · exact flagged.queued channelID batcher other there waits
    · exact flagged.queued place batcher other there waits
  unfold NodeRecords.removeSession
  split
  · exact owned
  · dsimp only
    split
    · next batcher there =>
      split
      · next filled push =>
        refine pushed object.channelID filled fun other listed => ?_
        unfold Batcher.push? at push
        split at push
        · cases push
          rcases List.mem_append.mp listed with old | new
          · exact .inr ⟨batcher, there, old⟩
          · exact .inl (List.mem_singleton.mp new)
        · cases push
      · exact flagged
    · split
      · exact pushed object.channelID _ fun other listed => .inl (List.mem_singleton.mp listed)
      · split
        · exact flagged.removeSessionFromCall us
        · exact flagged

theorem popRemoval? (owned : node.Owned r) {channelID : String} {us : Nat}
    (popped : node.popRemoval? channelID = some (us, after)) : after.Owned r := by
  unfold NodeRecords.popRemoval? at popped
  split at popped
  · next size first items there =>
    cases popped
    refine owned.of_eq rfl rfl rfl fun place batcher other stays waits => ?_
    dsimp only at stays
    rw [StringMap.get?_set] at stays
    split at stays
    · cases stays
      exact owned.queued channelID _ other there (List.mem_cons_of_mem _ waits)
    · exact owned.queued place batcher other stays waits
  · cases popped

theorem addSessionToCall (owned : node.Owned r) {joiner : Joiner} (named : r.session? joiner.connID = some joiner.connID)
    (added : Option Added) : (node.addSessionToCall nodeID joiner added).Owned r := by
  cases added with
  | none => exact owned
  | some added =>
    have stored : (node.store joiner.connID (newUserSession joiner.userID joiner.channelID joiner.connID added.callID
      (added.rtcd = false ∧ added.handlerID = nodeID)).fresh).Owned r := owned.store named named
    simp only [NodeRecords.addSessionToCall]
    split
    · exact stored.send named
    · exact stored

/-- The found object is under one of the two connections. -/
theorem found_at {connID prevConnID : String} {found : Nat × SessionObject}
    (here : node.reconnecting? connID prevConnID = some found) :
    node.objects[found.1]? = some found.2 ∧
      (node.at? connID = some found.2 ∨ node.at? prevConnID = some found.2) := by
  obtain ⟨us, stored, taken⟩ := Option.bind_eq_some_iff.mp here
  obtain ⟨object, listed, rfl⟩ := Option.map_eq_some_iff.mp taken
  refine ⟨listed, ?_⟩
  cases first : node.sessions.get? connID with
  | some other =>
    rw [first, Option.some_or] at stored
    cases stored
    exact .inl (at?_eq_some first listed)
  | none =>
    rw [first, Option.none_or] at stored
    exact .inr (at?_eq_some stored listed)

theorem marked (owned : node.Owned r) (connID prevConnID : String) : (node.marked connID prevConnID).Owned r := by
  unfold NodeRecords.marked
  split
  · exact owned
  · next found here =>
    have stored := (found_at here).1
    exact owned.setObject stored rfl (owned.objects _ found.2 stored) id

theorem handleReconnect (owned : node.Owned r) {req : ReconnectRequest} (named : r.session? req.connID = some req.originalConnID)
    (previous : r.session? req.prevConnID = some req.originalConnID) (callID : String) (botFails sendFails : Bool) :
    (node.handleReconnect nodeID req callID botFails sendFails).Owned r := by
  have marked := owned.marked req.connID req.prevConnID
  have replaced : (((node.marked req.connID req.prevConnID).delete req.originalConnID).store req.connID
      (node.replacement req callID)).Owned r := (marked.delete req.originalConnID).store named named
  unfold NodeRecords.handleReconnect
  dsimp only
  split
  · exact owned
  · split
    · exact marked
    · split
      · exact replaced
      · exact replaced.send ⟨req.originalConnID, previous, named⟩

theorem handleEvent (owned : node.Owned r) {msg : ClusterMessage} (names : r.Names msg) : (node.handleEvent msg).Owned r := by
  cases msg with
  | connect senderID targetID connID userID channelID callID =>
    simp only [NodeRecords.handleEvent]
    split
    · exact owned
    · exact owned.store names names
  | reconnect senderID connID newConnID userID callID =>
    obtain ⟨sessionID, old, new⟩ := names
    simp only [NodeRecords.handleEvent]
    split
    · exact owned
    · next us stored =>
      split
      · exact owned
      · next object found =>
        have own := owned.keys connID object (at?_eq_some stored found)
        rw [old] at own
        split
        · exact owned
        · split
          · exact owned.setObject found rfl (new.trans own) id
          · have flagged : (node.setObject us { object with wsReconnected := true }).Owned r :=
              owned.setObject found rfl (owned.objects us object found) id
            exact flagged.delete object.connID

end Owned

/-! ### A step and what is noted of it -/

variable {r : Roaming} {node after : NodeRecords} {nodeID sessionID : String} {step : RecordStep}

/-- New sessions have new connections, and a client that comes back had the
connection that it says, and has one that is no other session's. -/
structure HonestStep (r : Roaming) (node : NodeRecords) (step : RecordStep) : Prop where
  adds : ∀ joiner added, node.adds? step = some (joiner, added) → r.session? joiner.connID = none
  reconnects : ∀ req callID botFails sendFails, step = .reconnect req callID botFails sendFails →
    r.session? req.prevConnID = some req.originalConnID ∧
      (r.session? req.connID = none ∨ r.session? req.connID = some req.originalConnID)

/-- A step adds a session, or brings a client back, or neither. -/
inductive Noted (r : Roaming) (nodeID : String) (node : NodeRecords) : RecordStep → Roaming → Prop where
  | added {step : RecordStep} {joiner : Joiner} {added : Added} : node.adds? step = some (joiner, added) →
      Noted r nodeID node step (r.joined nodeID joiner added)
  | through {req : ReconnectRequest} {callID : String} {sendFails : Bool} : node.GoesThrough req false →
      Noted r nodeID node (.reconnect req callID false sendFails) (r.reconnected nodeID req)
  | neither {step : RecordStep} : node.adds? step = none →
      (∀ req callID botFails sendFails, step = .reconnect req callID botFails sendFails → ¬ node.GoesThrough req botFails) →
      Noted r nodeID node step r

theorem noted (r : Roaming) (nodeID : String) (node : NodeRecords) (step : RecordStep) :
    Noted r nodeID node step (r.noteStep nodeID node step) := by
  unfold Roaming.noteStep
  split
  · next joiner added adds => exact .added adds
  · next none =>
    split
    · next req callID botFails sendFails =>
      split
      · next goes =>
        have goes := goesThrough_iff.mp goes
        obtain rfl : botFails = false := goes.2
        exact .through goes
      · next refused =>
        refine .neither none fun other callID' botFails' sendFails' same => ?_
        cases same
        exact fun goes => refused (goesThrough_iff.mpr goes)
    · next other =>
      exact .neither none fun req callID botFails sendFails same => absurd same (other req callID botFails sendFails)

theorem Noted.known {noted : Roaming} (noted? : Noted r nodeID node step noted) (honest : HonestStep r node step)
    (known : r.Known) : noted.Known ∧ r.Extends noted := by
  cases noted? with
  | added adds => exact ⟨known.joined (honest.adds _ _ adds), Roaming.extends_of_update (.inl (honest.adds _ _ adds)) rfl⟩
  | through goes =>
    obtain ⟨previous, free⟩ := honest.reconnects _ _ _ _ rfl
    exact ⟨known.reconnected free previous, Roaming.extends_of_update free rfl⟩
  | neither => exact ⟨known, fun _ _ session => session⟩

/-- A session that is added in a batch was waiting there. -/
theorem handleJoin_cases (nodeID : String) (node : NodeRecords) (joiner : Joiner) (memberCount : Nat)
    (added : Option Added) :
    (∃ batchers, node.handleJoin nodeID joiner memberCount added = { node with addSessionsBatchers := batchers } ∧
        node.adds? (.join joiner memberCount added) = none) ∨
      node.handleJoin nodeID joiner memberCount added = node.addSessionToCall nodeID joiner added ∧
        node.adds? (.join joiner memberCount added) = added.map (joiner, ·) := by
  unfold NodeRecords.handleJoin
  split
  · next batcher there =>
    have none : node.adds? (.join joiner memberCount added) = none := by
      cases added <;> simp [adds?, there]
    split
    · exact .inl ⟨_, rfl, none⟩
    · exact .inl ⟨_, rfl, none⟩
  · next absent =>
    split
    · next many => exact .inl ⟨_, rfl, by cases added <;> simp [adds?, Nat.not_lt.mpr many]⟩
    · next few => exact .inr ⟨rfl, by cases added <;> simp [adds?, absent, Nat.not_le.mp few]⟩

theorem runJoin?_cases {channelID : String} {added : Option Added}
    (taken : node.runJoin? nodeID channelID added = some after) : ∃ joiner batchers,
      after = { node with addSessionsBatchers := batchers }.addSessionToCall nodeID joiner added ∧
        node.adds? (.runJoin channelID added) = added.map (joiner, ·) := by
  unfold NodeRecords.runJoin? at taken
  split at taken
  · next size joiner items there =>
    cases taken
    exact ⟨joiner, _, rfl, by cases added <;> simp [adds?, there]⟩
  · cases taken

theorem noteStep_added {joiner : Joiner} {added : Added} (adds : node.adds? step = some (joiner, added)) :
    r.noteStep nodeID node step = r.joined nodeID joiner added := by
  simp [Roaming.noteStep, adds]

theorem noteStep_through {req : ReconnectRequest} {callID : String} {botFails sendFails : Bool}
    (goes : node.GoesThrough req botFails) :
    r.noteStep nodeID node (.reconnect req callID botFails sendFails) = r.reconnected nodeID req := by
  simp [Roaming.noteStep, adds?, goesThrough_iff.mpr goes]

/-- The map after a reconnection that went through. -/
def replaced (node : NodeRecords) (req : ReconnectRequest) (callID : String) : NodeRecords :=
  ((node.marked req.connID req.prevConnID).delete req.originalConnID).store req.connID (node.replacement req callID)

theorem handleReconnect_through {req : ReconnectRequest} {callID : String} {botFails sendFails : Bool}
    (goes : node.GoesThrough req botFails) :
    node.handleReconnect nodeID req callID botFails sendFails =
      if sendFails then node.replaced req callID
      else (node.replaced req callID).send (.reconnect nodeID req.prevConnID req.connID req.userID callID) := by
  have once : (node.reconnecting? req.connID req.prevConnID).any (·.2.wsReconnected) = false := by
    cases found : node.reconnecting? req.connID req.prevConnID with
    | none => rfl
    | some found => simpa using goes.1 _ ‹_›
  simp only [NodeRecords.handleReconnect, once, goes.2, Bool.false_eq_true, if_false]
  rfl

theorem handleReconnect_refused {req : ReconnectRequest} {botFails : Bool} (refused : ¬ node.GoesThrough req botFails)
    (nodeID callID : String) (sendFails : Bool) :
    node.handleReconnect nodeID req callID botFails sendFails = node ∨
      node.handleReconnect nodeID req callID botFails sendFails = node.marked req.connID req.prevConnID := by
  unfold NodeRecords.handleReconnect
  dsimp only
  split
  · exact .inl rfl
  · next once =>
    split
    · exact .inr rfl
    · next works =>
      refine absurd ⟨fun found here => ?_, by simpa using works⟩ refused
      simpa [here] using once

theorem Owned.next? (owned : node.Owned r) (known : r.Known) (honest : HonestStep r node step)
    (taken : node.next? nodeID step = some after) : after.Owned (r.noteStep nodeID node step) := by
  obtain ⟨_, extend⟩ := (noted r nodeID node step).known honest known
  have kept := owned.mono extend
  have named {joiner : Joiner} {added : Added} (adds : node.adds? step = some (joiner, added)) :
      (r.noteStep nodeID node step).session? joiner.connID = some joiner.connID := by
    rw [noteStep_added adds]
    exact Function.update_self _ _ _
  cases step with
  | join joiner memberCount added =>
    cases taken
    rcases handleJoin_cases nodeID node joiner memberCount added with ⟨batchers, same, _⟩ | ⟨same, adds⟩
    · rw [same]
      exact kept.of_eq rfl rfl rfl kept.queued
    · rw [same]
      cases added with
      | none => exact kept
      | some added => exact kept.addSessionToCall (named adds) _
  | runJoin channelID added =>
    obtain ⟨joiner, batchers, rfl, adds⟩ := runJoin?_cases taken
    have same : ({ node with addSessionsBatchers := batchers } : NodeRecords).Owned _ := kept.of_eq rfl rfl rfl kept.queued
    cases added with
    | none => exact same
    | some added => exact same.addSessionToCall (named adds) _
  | reconnect req callID botFails sendFails =>
    cases taken
    by_cases goes : node.GoesThrough req botFails
    · refine kept.handleReconnect ?_ (extend _ _ (honest.reconnects _ _ _ _ rfl).1) callID botFails sendFails
      rw [noteStep_through goes]
      exact Function.update_self _ _ _
    · rcases handleReconnect_refused goes nodeID callID sendFails with same | same
      · rw [same]; exact kept
      · rw [same]; exact kept.marked _ _
  | clear us connID =>
    cases taken
    unfold NodeRecords.clearReconnected
    split
    · exact kept.delete connID
    · exact kept
  | remove us sessionsCount locked =>
    obtain ⟨object, found, rfl⟩ := Option.map_eq_some_iff.mp taken
    exact kept.removeSession found sessionsCount locked
  | runRemove channelID =>
    obtain ⟨popped, found, rfl⟩ := Option.map_eq_some_iff.mp taken
    exact (kept.popRemoval? found).removeSessionFromCall popped.1

/-! ### Steps about other sessions -/

/-- The step is about an object of the session. -/
def Touches (node : NodeRecords) (sessionID : String) : RecordStep → Prop
  | .reconnect req _ _ _ => req.originalConnID = sessionID
  | .clear _ connID => ∃ object, node.at? connID = some object ∧ object.originalConnID = sessionID ∧
      object.wsReconnected = true ∧ object.rtc = false
  | .remove us _ _ => ∃ object, node.objects[us]? = some object ∧ object.originalConnID = sessionID
  | .runRemove channelID => ∃ us rest object, node.popRemoval? channelID = some (us, rest) ∧
      node.objects[us]? = some object ∧ object.originalConnID = sessionID
  | _ => False

/-- A connection of another session is under no entry of the session. -/
theorem Owned.free (owned : node.Owned r) {key : String} (other : r.session? key ≠ some sessionID) :
    ∀ us, node.at? key = some us → us.originalConnID ≠ sessionID := by
  intro us found own
  rw [← own] at other
  exact other (owned.keys key us found)

theorem Owned.keeps_marked (owned : node.Owned r) {connID prevConnID : String}
    (new : r.session? connID ≠ some sessionID) (other : r.session? prevConnID ≠ some sessionID) :
    Keeps sessionID node (node.marked connID prevConnID) := by
  unfold NodeRecords.marked
  split
  · exact .refl _ _
  · next found here =>
    obtain ⟨stored, under⟩ := Owned.found_at here
    refine Keeps.setObject stored ?_ rfl
    rcases under with here | previous
    · exact owned.free new found.2 here
    · exact owned.free other found.2 previous

theorem Owned.keeps_removeSessionFromCall (owned : node.Owned r) {us : Nat}
    (other : ∀ object, node.objects[us]? = some object → object.originalConnID ≠ sessionID) :
    Keeps sessionID node (node.removeSessionFromCall us) := by
  unfold NodeRecords.removeSessionFromCall
  split
  · exact .refl _ _
  · next object found =>
    have deleted : Keeps sessionID node (node.delete object.connID) := by
      refine .delete (owned.free ?_)
      rw [owned.objects us object found]
      simpa using other object found
    dsimp only
    split
    · exact deleted
    · exact deleted.trans (.of_eq rfl rfl)

theorem Owned.keeps_addSessionToCall (owned : node.Owned r) {joiner : Joiner} {added : Option Added}
    (fresh : added.isSome → r.session? joiner.connID = none) (mine : r.session? sessionID = some sessionID) :
    Keeps sessionID node (node.addSessionToCall nodeID joiner added) := by
  cases added with
  | none => exact .refl _ _
  | some added =>
    have fresh := fresh rfl
    have other : joiner.connID ≠ sessionID := by
      intro same
      rw [same, mine] at fresh
      cases fresh
    have stored : Keeps sessionID node (node.store joiner.connID (newUserSession joiner.userID joiner.channelID
        joiner.connID added.callID (added.rtcd = false ∧ added.handlerID = nodeID)).fresh) :=
      .store owned.range other (owned.free (by simp [fresh]))
    simp only [NodeRecords.addSessionToCall]
    split
    · exact stored.trans (.of_eq rfl rfl)
    · exact stored

theorem Owned.keeps_removeSession (owned : node.Owned r) {us : Nat} {object : SessionObject}
    (found : node.objects[us]? = some object) (other : object.originalConnID ≠ sessionID) (sessionsCount : Nat)
    (locked : Bool) : Keeps sessionID node (node.removeSession us object sessionsCount locked).2 := by
  have flagged : Keeps sessionID node (node.setObject us { object with removed := true }) := .setObject found other rfl
  have owned' : (node.setObject us { object with removed := true }).Owned r :=
    owned.setObject found rfl (owned.objects us object found) fun _ => rfl
  unfold NodeRecords.removeSession
  split
  · exact .refl _ _
  · dsimp only
    split
    · split
      · exact flagged.trans (.of_eq rfl rfl)
      · exact flagged
    · split
      · exact flagged.trans (.of_eq rfl rfl)
      · split
        · refine flagged.trans (owned'.keeps_removeSessionFromCall fun set there => ?_)
          simp only [NodeRecords.setObject, List.getElem?_set, (List.getElem?_eq_some_iff.mp found).1, if_true] at there
          cases there
          exact other
        · exact flagged

/-- A step that is not about an object of a session keeps its entries. -/
theorem Owned.keeps_next? (owned : node.Owned r) (known : r.Known) (honest : HonestStep r node step)
    (taken : node.next? nodeID step = some after) (mine : r.session? sessionID = some sessionID)
    (elsewhere : ¬ node.Touches sessionID step) : Keeps sessionID node after := by
  cases step with
  | join joiner memberCount added =>
    cases taken
    rcases handleJoin_cases nodeID node joiner memberCount added with ⟨batchers, same, _⟩ | ⟨same, adds⟩
    · rw [same]
      exact .of_eq rfl rfl
    · rw [same]
      refine owned.keeps_addSessionToCall (fun some => ?_) mine
      obtain ⟨added, rfl⟩ := Option.isSome_iff_exists.mp some
      exact honest.adds _ _ adds
  | runJoin channelID added =>
    obtain ⟨joiner, batchers, rfl, adds⟩ := runJoin?_cases taken
    have same : ({ node with addSessionsBatchers := batchers } : NodeRecords).Owned r :=
      owned.of_eq rfl rfl rfl owned.queued
    refine Keeps.trans (.of_eq rfl rfl) (same.keeps_addSessionToCall (fun some => ?_) mine)
    obtain ⟨added, rfl⟩ := Option.isSome_iff_exists.mp some
    exact honest.adds _ _ adds
  | reconnect req callID botFails sendFails =>
    cases taken
    obtain ⟨previous, free⟩ := honest.reconnects _ _ _ _ rfl
    have other : req.originalConnID ≠ sessionID := elsewhere
    have new : r.session? req.connID ≠ some sessionID := by
      rcases free with fresh | own
      · simp [fresh]
      · simpa [own] using other
    have marked : Keeps sessionID node (node.marked req.connID req.prevConnID) :=
      owned.keeps_marked new (by rw [previous]; simpa using other)
    by_cases goes : node.GoesThrough req botFails
    · have owned' := owned.marked req.connID req.prevConnID
      have deleted : Keeps sessionID (node.marked req.connID req.prevConnID)
          ((node.marked req.connID req.prevConnID).delete req.originalConnID) := by
        refine .delete (owned'.free ?_)
        rw [known.session _ _ previous]
        simpa using other
      have owned'' := owned'.delete req.originalConnID
      have stored : Keeps sessionID ((node.marked req.connID req.prevConnID).delete req.originalConnID)
          (node.replaced req callID) := .store owned''.range other (owned''.free new)
      rw [handleReconnect_through goes]
      split
      · exact marked.trans (deleted.trans stored)
      · exact (marked.trans (deleted.trans stored)).trans (.of_eq rfl rfl)
    · rcases handleReconnect_refused goes nodeID callID sendFails with same | same
      · rw [same]; exact .refl _ _
      · rw [same]; exact marked
  | clear us connID =>
    cases taken
    unfold NodeRecords.clearReconnected
    split
    · next cleared =>
      refine .delete fun object found own => elsewhere ⟨object, found, own, ?_⟩
      obtain ⟨other, listed, facts⟩ := (Option.any_eq_true _ _).mp cleared
      obtain ⟨flagged, stored, rtc⟩ := of_decide_eq_true facts
      rw [at?_eq_some stored listed] at found
      cases found
      exact ⟨flagged, rtc⟩
    · exact .refl _ _
  | remove us sessionsCount locked =>
    obtain ⟨object, found, rfl⟩ := Option.map_eq_some_iff.mp taken
    exact owned.keeps_removeSession found (fun own => elsewhere ⟨object, found, own⟩) sessionsCount locked
  | runRemove channelID =>
    obtain ⟨⟨us, rest⟩, found, rfl⟩ := Option.map_eq_some_iff.mp taken
    have popped : Keeps sessionID node rest ∧ rest.objects = node.objects := by
      unfold NodeRecords.popRemoval? at found
      split at found
      · cases found
        exact ⟨.of_eq rfl rfl, rfl⟩
      · cases found
    refine popped.1.trans ((owned.popRemoval? found).keeps_removeSessionFromCall fun object there own => ?_)
    rw [popped.2] at there
    exact elsewhere ⟨us, rest, object, found, there, own⟩

theorem Owned.keeps_handleEvent (owned : node.Owned r) {msg : ClusterMessage} (names : r.Names msg)
    (other : ¬ r.Concerns sessionID msg) : Keeps sessionID node (node.handleEvent msg) := by
  have free := owned.free other
  cases msg with
  | connect senderID targetID connID userID channelID callID =>
    simp only [NodeRecords.handleEvent]
    split
    · exact .refl _ _
    · refine .store owned.range (fun own => other ?_) free
      rw [← (own : connID = sessionID)]
      exact names
  | reconnect senderID connID newConnID userID callID =>
    simp only [NodeRecords.handleEvent]
    split
    · exact .refl _ _
    · next us stored =>
      split
      · exact .refl _ _
      · next object found =>
        have apart := free object (at?_eq_some stored found)
        split
        · exact .refl _ _
        · split
          · exact .setObject found apart rfl
          · have flagged : (node.setObject us { object with wsReconnected := true }).Owned r :=
              owned.setObject found rfl (owned.objects us object found) id
            have marked : Keeps sessionID node (node.setObject us { object with wsReconnected := true }) :=
              .setObject found apart rfl
            refine marked.trans (.delete (flagged.free ?_))
            rw [owned.objects us object found]
            simpa using apart

end NodeRecords

end Calls
