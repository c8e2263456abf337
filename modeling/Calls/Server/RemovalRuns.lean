import Calls.Server.ListedSessions

/-! Runs of removals. A session that `removeSession` was called for is gone, or its removal is
queued or on its way to the lock, and is done then. -/

set_option autoImplicit false

namespace Calls

/-! ### The queues of a node -/

namespace NodeRecords

variable {node : NodeRecords} {us other : Nat} {object : SessionObject}

theorem stopIfEmpty_keeps {α : Type} {batchers : StringMap (Batcher α)} {channelID otherID : String} {batcher : Batcher α}
    (found : batchers.get? otherID = some batcher) (filled : batcher.items ≠ []) :
    (stopIfEmpty batchers channelID).get? otherID = some batcher := by
  unfold stopIfEmpty
  split
  · next empty =>
    rw [StringMap.get?_erase, if_neg, found]
    intro same
    subst same
    rw [found] at empty
    exact filled (List.isEmpty_iff.mp empty)
  · exact found

/-- What running a removal leaves of the records. -/
theorem removeSessionFromCall_eq (found : node.objects[us]? = some object) :
    (node.removeSessionFromCall us).objects = node.objects ∧
      (node.removeSessionFromCall us).sessions = node.sessions.erase object.connID ∧
      ((node.removeSessionFromCall us).removeSessionsBatchers = node.removeSessionsBatchers ∨
        (node.removeSessionFromCall us).removeSessionsBatchers = stopIfEmpty node.removeSessionsBatchers object.channelID) := by
  unfold removeSessionFromCall
  rw [found]
  dsimp only
  split
  · exact ⟨rfl, rfl, .inl rfl⟩
  · exact ⟨rfl, rfl, .inr rfl⟩

theorem Queues.removeSessionFromCall (found : node.objects[us]? = some object) (queues : node.Queues other) :
    (node.removeSessionFromCall us).Queues other := by
  obtain ⟨channelID, batcher, stored, member⟩ := queues
  obtain ⟨-, -, batchers⟩ := removeSessionFromCall_eq found
  rcases batchers with same | stopped
  · exact ⟨channelID, batcher, by rw [same]; exact stored, member⟩
  · exact ⟨channelID, batcher, by rw [stopped]; exact stopIfEmpty_keeps stored (List.ne_nil_of_mem member), member⟩

/-- What `removeSession` does until it is to take the lock. -/
inductive AsksRemoval (node : NodeRecords) (us : Nat) (object : SessionObject) : Removal × NodeRecords → Prop where
  | again : object.removed = true → AsksRemoval node us object (.alreadyRemoved, node)
  | full {batcher : Batcher Nat} : object.removed = false →
      node.removeSessionsBatchers.get? object.channelID = some batcher → batcher.size ≤ batcher.items.length →
      AsksRemoval node us object (.queueFull, node.setObject us { object with removed := true })
  | queued {batchers : StringMap (Batcher Nat)} : object.removed = false →
      (∃ batcher, batchers.get? object.channelID = some batcher ∧ us ∈ batcher.items) →
      (∀ other, node.Queues other → ({ node with removeSessionsBatchers := batchers } : NodeRecords).Queues other) →
      AsksRemoval node us object
        (.pushed, { node.setObject us { object with removed := true } with removeSessionsBatchers := batchers })
  | locks : object.removed = false →
      AsksRemoval node us object (.lockFailed, node.setObject us { object with removed := true })

theorem removeSession_asks (node : NodeRecords) (us : Nat) (object : SessionObject) (sessionsCount : Nat) :
    AsksRemoval node us object (node.removeSession us object sessionsCount false) := by
  unfold NodeRecords.removeSession
  split
  · next removed => exact .again removed
  · next once =>
    have first : object.removed = false := by simpa using once
    dsimp only [setObject]
    split
    · next batcher found =>
      split
      · next pushed grown =>
        unfold Batcher.push? at grown
        split at grown
        · cases grown
          refine .queued first ⟨_, by rw [StringMap.get?_set, if_pos rfl], List.mem_append_right _ List.mem_cons_self⟩ ?_
          intro other queues
          obtain ⟨channelID, earlier, stored, member⟩ := queues
          by_cases here : channelID = object.channelID
          · subst here
            rw [found] at stored
            cases stored
            exact ⟨object.channelID, _, by rw [StringMap.get?_set, if_pos rfl], List.mem_append_left _ member⟩
          · exact ⟨channelID, earlier, by rw [StringMap.get?_set, if_neg here]; exact stored, member⟩
        · cases grown
      · next refused =>
        unfold Batcher.push? at refused
        split at refused
        · cases refused
        · next full => exact .full first found (Nat.le_of_not_lt full)
    · next absent =>
      split
      · refine .queued first ⟨_, by rw [StringMap.get?_set, if_pos rfl], List.mem_cons_self⟩ ?_
        intro other queues
        obtain ⟨channelID, batcher, stored, member⟩ := queues
        refine ⟨channelID, batcher, ?_, member⟩
        rw [StringMap.get?_set, if_neg]
        · exact stored
        · intro here
          rw [here, absent] at stored
          cases stored
      · exact .locks first

end NodeRecords

namespace SessionRemovals

variable {ids : Identities} {run after : SessionRemovals}

/-- What holds of a node and of the calls, whatever becomes of the removals. -/
structure Sound (ids : Identities) (run : SessionRemovals) : Prop where
  room : RoomInvariant ids run.ops
  ongoing : SessionsOngoing run.ops
  keyed : run.node.Keyed
  channels : ∀ object ∈ run.node.objects, ∀ callID view session, run.ops.world.store.callView? callID = some view →
    session ∈ view.sessions → session.id = object.originalConnID → view.call.channelID = object.channelID

/-- Every removal but some is where it was. -/
structure KeepsRemovals (but : Nat → Prop) (run after : SessionRemovals) : Prop where
  asked : ∀ us, ¬ but us → after.Asked us → run.Asked us
  pending : ∀ us, ¬ but us → run.Pending us → after.Pending us
  objects : run.node.objects.length ≤ after.node.objects.length
  gone : ∀ us < run.node.objects.length, run.Gone us → after.Gone us

theorem KeepsRemovals.refl (but : Nat → Prop) (run : SessionRemovals) : KeepsRemovals but run run :=
  ⟨fun _ _ asked => asked, fun _ _ pending => pending, Nat.le_refl _, fun _ _ gone => gone⟩

theorem KeepsRemovals.trans {but : Nat → Prop} {middle : SessionRemovals} (first : KeepsRemovals but run middle)
    (second : KeepsRemovals but middle after) : KeepsRemovals but run after where
  asked us other asked := first.asked us other (second.asked us other asked)
  pending us other pending := second.pending us other (first.pending us other pending)
  objects := first.objects.trans second.objects
  gone us inside gone := second.gone us (Nat.lt_of_lt_of_le inside first.objects) (first.gone us inside gone)

theorem KeepsRemovals.outcome {but : Nat → Prop} (keeps : KeepsRemovals but run after)
    (asked : ∀ us, run.Asked us → run.Pending us ∨ run.Gone us) (own : ∀ us, but us → after.Pending us ∨ after.Gone us) :
    ∀ us, after.Asked us → after.Pending us ∨ after.Gone us := by
  intro us again
  by_cases one : but us
  · exact own us one
  · have before := keeps.asked us one again
    have inside : us < run.node.objects.length := by
      obtain ⟨object, found, -⟩ := before
      exact (List.getElem?_eq_some_iff.mp found).1
    exact (asked us before).imp (keeps.pending us one) (keeps.gone us inside)

/-- A step of the calls in which no session of the node joins. -/
theorem Sound.room_step (sound : run.Sound ids) {label : RoomStep} {ops : Operations} (serves : RoomServes run.ops label)
    (fresh : (label.joining?).any run.node.knows = false) (taken : (rooms ids).next? run.ops label = some ops) :
    ({ run with ops } : SessionRemovals).Sound ids ∧ ∀ but, KeepsRemovals but run { run with ops } := by
  obtain ⟨room, effect, -⟩ := rooms_step sound.room serves taken
  have foreign (object : SessionObject) (member : object ∈ run.node.objects) :
      ¬ ∃ env channelID req, label = (OperationStep.join env channelID req).room ∧ object.originalConnID = req.connID := by
    intro joins
    obtain ⟨env, channelID, req, rfl, named⟩ := joins
    have known : run.node.knows req.connID = true :=
      List.any_eq_true.mpr ⟨object, member, decide_eq_true_eq.mpr named⟩
    rw [show ((OperationStep.join env channelID req).room).joining? = some req.connID from rfl, Option.any_some, known] at fresh
    cases fresh
  refine ⟨⟨room, sound.ongoing.step sound.room effect, sound.keyed, ?_⟩, fun but =>
    ⟨fun _ _ asked => asked, fun _ _ pending => pending, Nat.le_refl _, ?_⟩⟩
  · intro object member callID view session stored listed same
    rcases effect.listed sound.room stored listed with ⟨old, previous, found, channel, before, sameID⟩ | ⟨env, channelID, req, joins, named, -⟩
    · exact channel ▸ sound.channels object member callID old previous found before (sameID.trans same)
    · exact absurd ⟨env, channelID, req, joins, same.symm.trans named⟩ (foreign object member)
  · intro us _ gone
    refine ⟨gone.1, fun object found => ?_⟩
    rw [← Bool.not_eq_true]
    intro row
    rcases effect.row_of sound.room room.mirrored.sessions row with before | joins
    · rw [gone.2 object found] at before
      cases before
    · exact foreign object (List.mem_of_getElem? found) joins

/-- The object of a session that has joined on the node. -/
theorem addSessionToCall_stores (node : NodeRecords) (nodeID : String) (joiner : Joiner) (added : Added) :
    ∃ object : SessionObject, object.originalConnID = joiner.connID ∧ object.channelID = joiner.channelID ∧ object.removed = false ∧
      (node.addSessionToCall nodeID joiner (some added)).objects = node.objects ++ [object] ∧
      (node.addSessionToCall nodeID joiner (some added)).sessions = StringMap.set node.sessions joiner.connID node.objects.length ∧
      (node.addSessionToCall nodeID joiner (some added)).removeSessionsBatchers = node.removeSessionsBatchers := by
  refine ⟨SessionRecord.fresh (newUserSession joiner.userID joiner.channelID joiner.connID added.callID
    (added.rtcd = false ∧ added.handlerID = nodeID)), rfl, rfl, rfl, ?_⟩
  simp only [NodeRecords.addSessionToCall]
  split <;> exact ⟨rfl, rfl, rfl⟩

theorem Sound.added (sound : run.Sound ids) (nodeID : String) (joiner : Joiner) (added : Option Added)
    (there : ∀ callID view session, run.ops.world.store.callView? callID = some view → session ∈ view.sessions →
      session.id = joiner.connID → view.call.channelID = joiner.channelID) :
    ({ run with node := run.node.addSessionToCall nodeID joiner added } : SessionRemovals).Sound ids ∧
      ∀ but, KeepsRemovals but run { run with node := run.node.addSessionToCall nodeID joiner added } := by
  have keyed := sound.keyed.addSessionToCall nodeID joiner added
  cases added with
  | none => exact ⟨sound, fun but => .refl but run⟩
  | some added =>
    obtain ⟨new, named, channel, first, objects, sessions, batchers⟩ := addSessionToCall_stores run.node nodeID joiner added
    have old {us : Nat} {object : SessionObject}
        (found : (run.node.addSessionToCall nodeID joiner (some added)).objects[us]? = some object) :
        run.node.objects[us]? = some object ∨ object = new := by
      rw [objects, List.getElem?_append] at found
      split at found
      · exact .inl found
      · exact .inr (List.mem_singleton.mp (List.mem_of_getElem? found))
    refine ⟨⟨sound.room, sound.ongoing, keyed, ?_⟩, fun but => ⟨?_, ?_, ?_, ?_⟩⟩
    · intro object member callID view session stored listed same
      dsimp only at member
      rw [objects] at member
      rcases List.mem_append.mp member with before | here
      · exact sound.channels object before callID view session stored listed same
      · rw [List.mem_singleton.mp here] at same ⊢
        rw [channel]
        exact there callID view session stored listed (same.trans named)
    · intro us _ asked
      obtain ⟨object, found, removed⟩ := asked
      rcases old found with before | rfl
      · exact ⟨object, before, removed⟩
      · rw [first] at removed
        cases removed
    · intro us _ pending
      refine pending.imp id fun queues => queues.of_eq ?_
      exact batchers.symm
    · dsimp only
      rw [objects, List.length_append]
      exact Nat.le_add_right _ _
    · intro us inside gone
      refine ⟨fun key stored => ?_, fun object found => ?_⟩
      · dsimp only at stored
        rw [sessions, StringMap.get?_set] at stored
        split at stored
        · cases stored
          exact absurd inside (Nat.lt_irrefl _)
        · exact gone.1 key stored
      · dsimp only at found
        rw [objects, List.getElem?_append_left inside] at found
        exact gone.2 object found

/-- `removeSession` sets the flag of its object, and keeps what is queued and what waits for the lock. -/
theorem Sound.flagged (sound : run.Sound ids) {us : Nat} {object : SessionObject} (found : run.node.objects[us]? = some object)
    (node : NodeRecords) (locking : List Nat) (objects : node.objects = run.node.objects.set us { object with removed := true })
    (sessions : node.sessions = run.node.sessions) (queues : ∀ other, run.node.Queues other → node.Queues other)
    (waits : ∀ other ∈ run.locking, other ∈ locking) :
    ({ run with node, locking } : SessionRemovals).Sound ids ∧ KeepsRemovals (· = us) run { run with node, locking } := by
  have same {other : Nat} {current : SessionObject} (stored : node.objects[other]? = some current) :
      ∃ previous, run.node.objects[other]? = some previous ∧ current.originalConnID = previous.originalConnID ∧
        current.channelID = previous.channelID ∧ (other ≠ us → current = previous) := by
    rw [objects, List.getElem?_set] at stored
    split at stored
    · next here =>
      subst here
      split at stored
      · cases stored
        exact ⟨object, found, rfl, rfl, fun different => absurd rfl different⟩
      · cases stored
    · exact ⟨current, stored, rfl, rfl, fun _ => rfl⟩
  refine ⟨⟨sound.room, sound.ongoing, ?_, ?_⟩, ⟨?_, ?_, ?_, ?_⟩⟩
  · have flagged : (run.node.setObject us { object with removed := true }).Keyed := sound.keyed.setObject found rfl
    exact flagged.of_eq objects sessions
  · intro current member callID view session stored listed named
    obtain ⟨other, place⟩ := List.getElem?_of_mem member
    obtain ⟨previous, known, sameID, channel, -⟩ := same place
    rw [channel]
    exact sound.channels previous (List.mem_of_getElem? known) callID view session stored listed (named.trans sameID)
  · intro other different asked
    obtain ⟨current, stored, removed⟩ := asked
    obtain ⟨previous, known, -, -, kept⟩ := same stored
    rw [kept different] at removed
    exact ⟨previous, known, removed⟩
  · exact fun other _ pending => pending.imp (waits other) (queues other)
  · dsimp only
    rw [objects, List.length_set]
  · intro other _ gone
    refine ⟨fun key stored => gone.1 key (sessions ▸ stored), fun current stored => ?_⟩
    obtain ⟨previous, known, sameID, -⟩ := same stored
    rw [sameID]
    exact gone.2 previous known

theorem serves_leave {ops : Operations} {env : Env} {channelID : String} {ref : SessionRef} (works : env.StoreWorks) :
    RoomServes ops (OperationStep.leave env channelID ref).room where
  works _ timed := by cases timed; exact works
  free _ _ _ _ same := by cases same

theorem serves_lock {ops : Operations} {env : Env} {channelID : String} {kind : BatchKind} (works : env.StoreWorks) :
    RoomServes ops (OperationStep.lock env channelID kind).room where
  works _ timed := by cases timed; exact works
  free _ _ _ _ same := by cases same

/-- On a store that works, the session is gone once its removal has been run. -/
theorem Sound.removeFromCall (sound : run.Sound ids) {env : Env} (works : env.StoreWorks) {us : Nat}
    (taken : run.removeFromCall? ids env us = some after) :
    after.Sound ids ∧ after.Gone us ∧ ∀ but, KeepsRemovals but run after := by
  obtain ⟨object, found, ran⟩ := Option.bind_eq_some_iff.mp taken
  obtain ⟨ops, left, rfl⟩ := Option.map_eq_some_iff.mp ran
  obtain ⟨moved, keeps⟩ := sound.room_step (serves_leave works) rfl left
  obtain ⟨objects, sessions, -⟩ := NodeRecords.removeSessionFromCall_eq found
  have row : ops.world.store.sessions.contains object.originalConnID = false :=
    sound.room.removed sound.ongoing works (sound.channels object (List.mem_of_getElem? found)) (rooms_taken left).2
  refine ⟨⟨moved.room, moved.ongoing, sound.keyed.removeSessionFromCall us, ?_⟩, ⟨?_, ?_⟩, fun but => ⟨?_, ?_, ?_, ?_⟩⟩
  · intro other member
    rw [objects] at member
    exact moved.channels other member
  · exact (sound.keyed.gone_of_removal found).1
  · intro other stored
    dsimp only at stored
    rw [objects, found] at stored
    cases stored
    exact row
  · intro other _ asked
    obtain ⟨current, stored, removed⟩ := asked
    dsimp only at stored
    rw [objects] at stored
    exact ⟨current, stored, removed⟩
  · exact fun other _ pending => pending.imp id (·.removeSessionFromCall found)
  · dsimp only
    rw [objects]
  · intro other inside gone
    obtain ⟨absent, rows⟩ := (keeps but).gone other inside gone
    refine ⟨fun key stored => ?_, fun current stored => ?_⟩
    · dsimp only at stored
      rw [sessions, StringMap.get?_erase] at stored
      split at stored
      · cases stored
      · exact absent key stored
    · dsimp only at stored
      rw [objects] at stored
      exact rows current stored

/-- What is queued, or waits for the lock, may change without the objects. -/
theorem Sound.moved (sound : run.Sound ids) (node : NodeRecords) (locking : List Nat) (but : Nat → Prop)
    (objects : node.objects = run.node.objects) (sessions : node.sessions = run.node.sessions)
    (waits : ∀ us, ¬ but us → us ∈ run.locking → us ∈ locking) (queues : ∀ us, ¬ but us → run.node.Queues us → node.Queues us) :
    ({ run with node, locking } : SessionRemovals).Sound ids ∧ KeepsRemovals but run { run with node, locking } := by
  refine ⟨⟨sound.room, sound.ongoing, sound.keyed.of_eq objects sessions, ?_⟩, ⟨?_, ?_, ?_, ?_⟩⟩
  · intro object member
    exact sound.channels object (objects ▸ member)
  · intro us _ asked
    obtain ⟨object, stored, removed⟩ := asked
    exact ⟨object, objects ▸ stored, removed⟩
  · exact fun us other pending => pending.imp (waits us other) (queues us other)
  · exact Nat.le_of_eq (congrArg List.length objects.symm)
  · intro us _ gone
    exact ⟨fun key stored => gone.1 key (sessions ▸ stored), fun object stored => gone.2 object (objects ▸ stored)⟩

/-- The first item of a queue has been taken. -/
theorem Sound.popped (sound : run.Sound ids) {channelID : String} {us : Nat} {node : NodeRecords}
    (taken : run.node.popRemoval? channelID = some (us, node)) :
    ({ run with node } : SessionRemovals).Sound ids ∧ KeepsRemovals (· = us) run { run with node } := by
  unfold NodeRecords.popRemoval? at taken
  split at taken
  · next size first items found =>
    cases taken
    refine sound.moved _ _ _ rfl rfl (fun _ _ waits => waits) fun other different queues => ?_
    obtain ⟨otherID, batcher, stored, member⟩ := queues
    by_cases here : otherID = channelID
    · subst here
      rw [found] at stored
      cases stored
      rcases List.mem_cons.mp member with same | rest
      · exact absurd same different
      · exact ⟨otherID, _, by rw [StringMap.get?_set, if_pos rfl], rest⟩
    · exact ⟨otherID, batcher, by rw [StringMap.get?_set, if_neg here]; exact stored, member⟩
  · cases taken

/-- Where every removal gets through, the sessions that it was asked for are gone or about to be removed. -/
structure Outcomes (ids : Identities) (run : SessionRemovals) : Prop where
  sound : run.Sound ids
  asked : ∀ us, run.Asked us → run.Pending us ∨ run.Gone us

/-- A step that keeps every removal, or runs the only one that it does not keep. -/
theorem Outcomes.keeps (before : run.Outcomes ids) (sound : after.Sound ids) {but : Nat → Prop} (keeps : KeepsRemovals but run after)
    (own : ∀ us, but us → after.Pending us ∨ after.Gone us) : after.Outcomes ids :=
  ⟨sound, keeps.outcome before.asked own⟩

/-- `removeSession` for an object, when it is called for the first time, or again. -/
theorem Outcomes.remove (before : run.Outcomes ids) {env : Env} {us sessionsCount : Nat}
    (allowed : RemovalsGetThrough run (.remove env us sessionsCount))
    (taken : run.next? ids (.remove env us sessionsCount) = some after) :
    after.Outcomes ids ∧ (run.Asked us → after = run) := by
  obtain ⟨object, found, ran⟩ := Option.map_eq_some_iff.mp taken
  have again (first : object.removed = false) : ¬ run.Asked us := by
    intro asked
    obtain ⟨same, stored, removed⟩ := asked
    rw [found] at stored
    cases stored
    rw [first] at removed
    cases removed
  have asks := run.node.removeSession_asks us object sessionsCount
  generalize run.node.removeSession us object sessionsCount false = removal at asks ran
  cases asks with
  | again removed =>
    cases ran
    exact ⟨before, fun _ => rfl⟩
  | full first queue many => exact absurd (allowed object _ found first queue) (Nat.not_lt_of_le many)
  | @queued batchers first queued queues =>
    cases ran
    obtain ⟨sound, keeps⟩ := before.sound.flagged found { run.node.setObject us { object with removed := true } with
      removeSessionsBatchers := batchers } run.locking rfl rfl queues fun _ waits => waits
    refine ⟨before.keeps sound keeps fun other same => ?_, fun asked => absurd asked (again first)⟩
    subst same
    obtain ⟨batcher, stored, member⟩ := queued
    exact .inl (.inr ⟨object.channelID, batcher, stored, member⟩)
  | locks first =>
    cases ran
    obtain ⟨sound, keeps⟩ := before.sound.flagged found (run.node.setObject us { object with removed := true })
      (run.locking ++ [us]) rfl rfl (fun _ queues => queues) fun _ waits => List.mem_append_left _ waits
    refine ⟨before.keeps sound keeps fun other same => ?_, fun asked => absurd asked (again first)⟩
    subst same
    exact .inl (.inl (List.mem_append_right _ List.mem_cons_self))

/-- The lock has been taken, and the removal is run. -/
theorem Outcomes.lock (before : run.Outcomes ids) {env : Env} {us : Nat} (works : env.StoreWorks) (locks : env.lockFails = false)
    (taken : run.next? ids (.lock env us) = some after) : after.Outcomes ids ∧ after.Gone us := by
  simp only [SessionRemovals.next?] at taken
  split at taken
  · obtain ⟨object, found, ran⟩ := Option.bind_eq_some_iff.mp taken
    obtain ⟨ops, locked, ran⟩ := Option.bind_eq_some_iff.mp ran
    obtain ⟨sound, keeps⟩ := before.sound.room_step (serves_lock works) rfl locked
    obtain ⟨given, erased⟩ := sound.moved run.node (run.locking.erase us) (· = us) rfl rfl
      (fun other different waits => (List.mem_erase_of_ne different).mpr waits) fun _ _ queues => queues
    have effect : run.ops.Effect (.lock env object.channelID .leaving) ops := Operations.next?_effect (rooms_taken locked).2
    cases effect with
    | notLocked broken => exact absurd ⟨works, locks⟩ broken
    | @locked _ _ _ state free loads =>
      have holds : (run.ops.holdBatch object.channelID .leaving state run.ops.world).batch? object.channelID .leaving = some state := by
        simp [Operations.batch?, Operations.holdBatch]
      rw [holds] at ran
      obtain ⟨done, gone, removed⟩ := given.removeFromCall works ran
      refine ⟨before.keeps done (((keeps _).trans erased).trans (removed _)) fun other same => ?_, gone⟩
      subst same
      exact .inr gone
  · cases taken

/-- An item of a batch of removals. -/
theorem Outcomes.item (before : run.Outcomes ids) {env : Env} {channelID : String} (works : env.StoreWorks)
    (taken : run.next? ids (.item env channelID) = some after) :
    after.Outcomes ids ∧ ∀ us node, run.node.popRemoval? channelID = some (us, node) → after.Gone us := by
  obtain ⟨⟨us, node⟩, popped, ran⟩ := Option.bind_eq_some_iff.mp taken
  obtain ⟨sound, keeps⟩ := before.sound.popped popped
  obtain ⟨done, gone, removed⟩ := sound.removeFromCall works ran
  refine ⟨before.keeps done (keeps.trans (removed _)) fun other same => ?_, fun other rest again => ?_⟩
  · subst same
    exact .inr gone
  · rw [popped] at again
    cases again
    exact gone

/-- A lock that is not acquired leaves all as it is; one that is acquired could be so on a store that works. -/
theorem rooms_lock {ops locked : Operations} {env : Env} {channelID : String} {kind : BatchKind}
    (taken : (rooms ids).next? ops (OperationStep.lock env channelID kind).room = some locked) :
    locked = ops ∨ ∃ serving, RoomServes ops (OperationStep.lock serving channelID kind).room ∧
      (rooms ids).next? ops (OperationStep.lock serving channelID kind).room = some locked := by
  obtain ⟨authentic, ran⟩ := rooms_taken taken
  have effect : ops.Effect (.lock env channelID kind) locked := Operations.next?_effect ran
  cases effect with
  | notLocked => exact .inl rfl
  | @locked _ _ _ state free loads =>
    let serving : Env := { env with faults := fun _ => false, lockFails := false }
    have served : ops.next? (.lock serving channelID kind) = some (ops.lock serving channelID kind) := by
      simp [Operations.next?, free]
    have effect : ops.Effect (.lock serving channelID kind) (ops.lock serving channelID kind) := Operations.next?_effect served
    refine .inr ⟨serving, serves_lock fun _ => rfl, ?_⟩
    have same : ops.lock serving channelID kind = ops.holdBatch channelID kind state ops.world := by
      generalize ops.lock serving channelID kind = after at effect
      cases effect with
      | notLocked broken => exact absurd ⟨fun _ => rfl, rfl⟩ broken
      | locked _ again => rw [again.unique loads]
    rw [← same, ← served]
    exact if_pos authentic

theorem Outcomes.room (before : run.Outcomes ids) {label : RoomStep} (allowed : RemovalsGetThrough run (.room label))
    (taken : run.next? ids (.room label) = some after) : after.Outcomes ids := by
  simp only [SessionRemovals.next?] at taken
  split at taken
  · cases taken
  · next foreign =>
    obtain ⟨ops, moved, rfl⟩ := Option.map_eq_some_iff.mp taken
    have served {label : RoomStep} (serves : RoomServes run.ops label) (moved : (rooms ids).next? run.ops label = some ops)
        (foreign : ¬ (label.joining?).any run.node.knows = true) : ({ run with ops } : SessionRemovals).Outcomes ids := by
      obtain ⟨sound, keeps⟩ := before.sound.room_step serves (by simpa using foreign) moved
      exact before.keeps sound (keeps fun _ => False) fun _ none => none.elim
    rcases allowed with ⟨env, channelID, kind, rfl⟩ | serves
    · rcases rooms_lock moved with rfl | ⟨serving, serves, moved⟩
      · exact before
      · exact served serves moved foreign
    · exact served serves moved foreign

theorem Outcomes.join (before : run.Outcomes ids) {env : Env} {channelID : String} {req : JoinRequest} {added : Option Added}
    (serves : RoomServes run.ops (OperationStep.join env channelID req).room)
    (taken : run.next? ids (.join env channelID req added) = some after) : after.Outcomes ids := by
  simp only [SessionRemovals.next?] at taken
  split at taken
  · cases taken
  · next fresh =>
    obtain ⟨unknown, unlisted⟩ := not_or.mp fresh
    obtain ⟨ops, moved, rfl⟩ := Option.map_eq_some_iff.mp taken
    obtain ⟨sound, keeps⟩ := before.sound.room_step serves (Bool.not_eq_true _ ▸ unknown) moved
    obtain ⟨-, effect, -⟩ := rooms_step before.sound.room serves moved
    obtain ⟨done, added⟩ := sound.added env.nodeID ⟨req.userID, channelID, req.connID⟩ added (by
      intro callID view session stored listed named
      rcases effect.listed before.sound.room stored listed with ⟨old, previous, found, -, member, same⟩ | ⟨_, _, _, joins, -, channel⟩
      · exact absurd (before.sound.room.mirrored.sessions.contains_iff.mpr ⟨callID, old, previous, found, member, same.trans named⟩)
          unlisted
      · cases joins
        exact channel)
    exact before.keeps done ((keeps fun _ => False).trans (added _)) fun _ none => none.elim

theorem outcomes_idle (ids : Identities) : SessionRemovals.idle.Outcomes ids where
  sound :=
    { room := .idle
      ongoing := .idle
      keyed := fun _ _ stored => by cases stored
      channels := fun _ member => by cases member }
  asked _ asked := by
    obtain ⟨object, found, -⟩ := asked
    cases found

theorem Outcomes.step (before : run.Outcomes ids) {label : SessionRemovalStep} (allowed : RemovalsGetThrough run label)
    (taken : run.next? ids label = some after) : after.Outcomes ids ∧ RemovalKept run label after := by
  cases label with
  | room label =>
    refine ⟨before.room allowed taken, ⟨fun _ _ _ same => ?_, fun _ _ same => ?_, fun _ _ _ _ same => ?_⟩⟩ <;> cases same
  | join env channelID req added =>
    refine ⟨before.join allowed taken, ⟨fun _ _ _ same => ?_, fun _ _ same => ?_, fun _ _ _ _ same => ?_⟩⟩ <;> cases same
  | remove env us sessionsCount =>
    obtain ⟨outcomes, again⟩ := before.remove allowed taken
    refine ⟨outcomes, ⟨fun _ _ _ same asked _ => ?_, fun _ _ same => ?_, fun _ _ _ _ same => ?_⟩⟩ <;> cases same
    rw [again asked]
    exact before.asked us asked
  | lock env us =>
    obtain ⟨outcomes, gone⟩ := before.lock allowed.1 allowed.2 taken
    refine ⟨outcomes, ⟨fun _ _ _ same => ?_, fun _ _ same _ => ?_, fun _ _ _ _ same => ?_⟩⟩ <;> cases same
    exact gone
  | timedOut us => exact allowed.elim
  | item env channelID =>
    obtain ⟨outcomes, gone⟩ := before.item allowed taken
    refine ⟨outcomes, ⟨fun _ _ _ same => ?_, fun _ _ same => ?_, fun _ _ us node same popped _ => ?_⟩⟩ <;> cases same
    exact gone us node popped

end SessionRemovals

/-- No removal is lost where the first call of `removeSession` for each session gets through. -/
theorem removalKept_of_getThrough (ids : Identities) (before after : SessionRemovals) (step : SessionRemovalStep)
    (reached : ((sessionRemovals ids).restrict RemovalsGetThrough).Reachable before)
    (allowed : RemovalsGetThrough before step) (taken : (sessionRemovals ids).next? before step = some after) :
    RemovalKept before step after := by
  have outcomes : before.Outcomes ids := by
    refine System.Reachable.invariant_of_allowed ?_ ?_ reached
    · intro run same
      rw [show run = .idle from same]
      exact SessionRemovals.outcomes_idle ids
    · exact fun run label next holds allowed taken => (holds.step allowed taken).1
  exact (outcomes.step allowed taken).2

/-! ### Alice leaves -/

def SessionRemovalStep.Quiet : SessionRemovalStep → Prop
  | .room step => step.Quiet
  | .join env _ _ _ | .remove env _ _ | .lock env _ | .item env _ => ∃ now newID, env = .quiet now newID
  | .timedOut _ => True

/-- A check of `RemovalsGetThrough`, for steps that nothing interferes with. -/
def removalsFree (run : SessionRemovals) : SessionRemovalStep → Bool
  | .room step => roomFree run.ops step
  | .join env channelID req _ => roomFree run.ops (OperationStep.join env channelID req).room
  | .remove _ us _ => (run.node.objects[us]?).all fun object =>
      object.removed || (run.node.removeSessionsBatchers.get? object.channelID).all fun batcher =>
        batcher.items.length < batcher.size
  | .timedOut _ => false
  | .lock _ _ | .item _ _ => true

theorem removalsFree_sound {run : SessionRemovals} {step : SessionRemovalStep} (quiet : step.Quiet)
    (free : removalsFree run step = true) : RemovalsGetThrough run step := by
  cases step with
  | room step => exact .inr (roomFree_sound quiet free)
  | join env channelID req added =>
    obtain ⟨now, newID, rfl⟩ := quiet
    have served : RoomServes run.ops (OperationStep.join (.quiet now newID) channelID req).room :=
      roomFree_sound (fun env timed => by cases timed; exact ⟨now, newID, rfl⟩) free
    exact served
  | remove env us sessionsCount =>
    intro object batcher found first queue
    simp only [removalsFree, found, Option.all_some, first, Bool.false_or, queue, decide_eq_true_eq] at free
    exact free
  | lock env us =>
    obtain ⟨now, newID, rfl⟩ := quiet
    exact ⟨fun _ => rfl, rfl⟩
  | timedOut us => cases free
  | item env channelID =>
    obtain ⟨now, newID, rfl⟩ := quiet
    exact fun _ => rfl

/-- Alice has joined on the node. -/
def aliceIsIn : List SessionRemovalStep :=
  [.room (OperationStep.lock (.quiet 1000 "") "channel" .joining).room,
    .join (.quiet 1000 "call") "channel" (.plain "alice" "conn-1" "") (some ⟨"call", "node", false, false⟩),
    .room (OperationStep.unlock "channel").room]

/-- The removal of her session is pushed, asked for once more, and run by its batch. -/
def leavesInBatch : List SessionRemovalStep :=
  aliceIsIn ++ [.remove (.quiet 2000 "") 0 200, .remove (.quiet 2100 "") 0 200,
    .room (OperationStep.lock (.quiet 3000 "") "channel" .leaving).room]

theorem leavesInBatch_quiet : ∀ step ∈ leavesInBatch, step.Quiet := by
  intro step listed
  simp only [leavesInBatch, aliceIsIn, List.cons_append, List.nil_append, List.mem_cons, List.not_mem_nil, or_false] at listed
  rcases listed with rfl | rfl | rfl | rfl | rfl | rfl
  · intro env timed
    cases timed
    exact ⟨_, _, rfl⟩
  · exact ⟨_, _, rfl⟩
  · intro env timed
    cases timed
  · exact ⟨_, _, rfl⟩
  · exact ⟨_, _, rfl⟩
  · intro env timed
    cases timed
    exact ⟨_, _, rfl⟩

theorem removalKept_of_leavesInBatch :
    ∃ before after, (sessionRemovals usersAndBot).run? .idle leavesInBatch = some before ∧
      before.node.sessions.get? "conn-1" = some 0 ∧ before.ops.world.store.sessions.contains "conn-1" = true ∧
      (sessionRemovals usersAndBot).next? before (.item (.quiet 3000 "") "channel") = some after ∧
      RemovalKept before (.item (.quiet 3000 "") "channel") after := by
  have computed : ((sessionRemovals usersAndBot).run? .idle leavesInBatch).any (fun before =>
      before.node.sessions.get? "conn-1" = some 0 ∧ before.ops.world.store.sessions.contains "conn-1" = true ∧
        ((sessionRemovals usersAndBot).next? before (.item (.quiet 3000 "") "channel")).isSome = true) = true := by decide +kernel
  obtain ⟨before, ran, facts⟩ := (Option.any_eq_true _ _).mp computed
  obtain ⟨known, row, taken⟩ := of_decide_eq_true facts
  obtain ⟨after, taken⟩ := Option.isSome_iff_exists.mp taken
  have meets : (sessionRemovals usersAndBot).MeetsAlong RemovalsGetThrough .idle leavesInBatch :=
    .of_check (by decide +kernel : (sessionRemovals usersAndBot).checkAlong removalsFree .idle leavesInBatch = true)
      fun run step listed free => removalsFree_sound (leavesInBatch_quiet step listed) free
  have start : ((sessionRemovals usersAndBot).restrict RemovalsGetThrough).Reachable .idle := .init rfl
  exact ⟨before, after, ran, known, row, taken, removalKept_of_getThrough usersAndBot before after _ (start.restrict_run meets ran)
    (fun _ => rfl) taken⟩

/-- The lock of the call is held by others for too long when `removeSession` is called first. Later it is called once
more, and could do its work. -/
theorem not_removalKept : ¬ ∀ ids before after step, (sessionRemovals ids).Reachable before →
    (sessionRemovals ids).next? before step = some after → RemovalKept before step after := by
  intro all
  have computed : ((sessionRemovals usersAndBot).run? .idle
      (aliceIsIn ++ [.remove (.quiet 2000 "") 0 1, .timedOut 0])).any (fun before =>
      (before.node.objects[0]?).map (fun object => (object.removed, object.channelID, object.originalConnID)) =
          some (true, "channel", "conn-1") ∧ before.ops.held.contains "channel" = false ∧
        ((sessionRemovals usersAndBot).next? before (.remove (.quiet 60000 "") 0 1)).any (fun after =>
          after.locking = [] ∧ after.node.removeSessionsBatchers.mapKeys = [] ∧ after.node.sessions.get? "conn-1" = some 0)) = true := by
    decide +kernel
  obtain ⟨before, ran, facts⟩ := (Option.any_eq_true _ _).mp computed
  obtain ⟨object?, free, ends⟩ := of_decide_eq_true facts
  obtain ⟨after, taken, ended⟩ := (Option.any_eq_true _ _).mp ends
  obtain ⟨waits, queues, still⟩ := of_decide_eq_true ended
  obtain ⟨object, found, places⟩ := Option.map_eq_some_iff.mp object?
  obtain ⟨removed, channel, -⟩ := by simpa only [Prod.mk.injEq] using places
  have reached : (sessionRemovals usersAndBot).Reachable before := System.Reachable.run (.init rfl) ran
  have can : before.CanRemove 0 (.quiet 60000 "") := by
    refine ⟨fun _ => rfl, rfl, fun other stored => ?_⟩
    rw [found] at stored
    cases stored
    rw [channel]
    exact free
  rcases (all usersAndBot before after _ reached taken).again _ 0 1 rfl ⟨object, found, removed⟩ can with pending | gone
  · rcases pending with waiting | ⟨channelID, batcher, stored, -⟩
    · rw [waits] at waiting
      cases waiting
    · have listed := StringMap.mem_mapKeys stored
      rw [queues] at listed
      cases listed
  · exact gone.1 "conn-1" still

end Calls
