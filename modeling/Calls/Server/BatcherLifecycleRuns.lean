import Calls.Server.BatcherLifecycles

/-! No push is lost to a batcher that is being taken out: a batcher is filled and taken out
only under the mutex of the node, and taken out only while it is empty. -/

set_option autoImplicit false

namespace Calls

open Batching (BatcherStep newBatcher)

/-! ### The steps of one batcher -/

namespace Batching.Batcher

variable {α : Type} {b after : Batcher α}

/-- The goroutine of a batcher only takes items from the front of the queue. -/
theorem next?_own {step : BatcherStep α} (own : step.own = true) (taken : b.next? step = some after) :
    after.stopCh = b.stopCh ∧
      (step ≠ .receive ∧ after.itemsCh = b.itemsCh ∨ step = .receive ∧ ∃ item, b.itemsCh = item :: after.itemsCh) := by
  cases step with
  | push | start | stop => cases own
  | tick =>
    simp only [next?, Option.ite_none_right_eq_some, Option.some.injEq] at taken
    obtain ⟨-, rfl⟩ := taken
    unfold onTick
    split <;> simp
  | receive =>
    simp only [next?] at taken
    split at taken
    · next items =>
      cases taken
      exact ⟨rfl, .inr ⟨rfl, _, items⟩⟩
    · cases taken
  | preRunReturns | itemReturns =>
    simp only [next?] at taken
    split at taken
    · cases taken
      simp
    · cases taken
  | loopEnds | postRunReturns | stopReceived =>
    simp only [next?, Option.ite_none_right_eq_some, Option.some.injEq] at taken
    obtain ⟨-, rfl⟩ := taken
    simp

theorem start_next? : ((b.next? .start).getD b).stopCh = b.stopCh ∧ ((b.next? .start).getD b).itemsCh = b.itemsCh := by
  by_cases fresh : b.loop = .notStarted <;> simp [next?, fresh]

theorem stop_next? : ((b.next? .stop).getD b).itemsCh = b.itemsCh := by
  cases stopped : b.stopCh <;> simp [next?, stopped]

theorem push_next? (item : α) : ((b.next? (.push item)).getD b).stopCh = b.stopCh ∧
    ((b.next? (.push item)).getD b).itemsCh = if b.itemsCh.length < b.cfg.size.toNat then b.itemsCh ++ [item] else b.itemsCh := by
  by_cases room : b.itemsCh.length < b.cfg.size.toNat <;> simp [next?, push, room]

end Batching.Batcher

theorem NodeBatcher.accepts_iff {b : NodeBatcher} {item : Nat} :
    b.accepts item = true ↔ b.batcher.itemsCh.length < b.batcher.cfg.size.toNat := by
  unfold NodeBatcher.accepts Batching.Batcher.push
  by_cases room : b.batcher.itemsCh.length < b.batcher.cfg.size.toNat <;> simp [room]

namespace BatcherNode

variable {node : BatcherNode}

@[simp] theorem registered_setBatcher (id : Nat) (change : Batching.Batcher Nat → Batching.Batcher Nat) (kind : BatcherKind) :
    (node.setBatcher id change).registered kind = node.registered kind := by
  cases kind <;> rfl

theorem batchers_setBatcher {id other : Nat} {change : Batching.Batcher Nat → Batching.Batcher Nat} {b : NodeBatcher}
    (found : node.batchers[other]? = some b) :
    (node.setBatcher id change).batchers[other]? = some (if id = other then { b with batcher := change b.batcher } else b) := by
  simp only [setBatcher, List.getElem?_modify, found]
  rfl

theorem queue_of_found {id : Nat} {b : NodeBatcher} (found : node.batchers[id]? = some b) : node.queue id = b.batcher.itemsCh := by
  simp [queue, found]

theorem queue_setBatcher {id other : Nat} {change : Batching.Batcher Nat → Batching.Batcher Nat} {b : NodeBatcher}
    (found : node.batchers[id]? = some b) :
    (node.setBatcher id change).queue other = if id = other then (change b.batcher).itemsCh else node.queue other := by
  by_cases same : id = other
  · subst same
    rw [if_pos rfl, queue_of_found (batchers_setBatcher found), if_pos rfl]
  · simp [queue, setBatcher, same]

theorem registered_setRegistered (kind other : BatcherKind) (batchers : StringMap Nat) :
    (node.setRegistered kind batchers).registered other = if other = kind then batchers else node.registered other := by
  cases kind <;> cases other <;> rfl

end BatcherNode

/-! ### What the maps and the goroutines go by -/

def takenOuts (events : List LifecycleEvent) : List Nat := events.filterMap LifecycleEvent.takenOut?

def stops (events : List LifecycleEvent) : List Nat := events.filterMap LifecycleEvent.stopped?

/-- The batcher was made for the channel and the kind. It is not stopped, and it was never taken out. -/
structure BatcherNode.Keeps (node : BatcherNode) (gone : List Nat) (id : Nat) (kind : BatcherKind) (channelID : String) : Prop where
  made : ∃ b, node.batchers[id]? = some b ∧ b.kind = kind ∧ b.channelID = channelID ∧ b.batcher.stopCh = false
  kept : id ∉ gone

/-- What the goroutine that holds `p.mut` has found still holds. -/
def BatcherNode.HolderFound (node : BatcherNode) (gone : List Nat) : Prop :=
  match node.holder with
  | some (.make kind channelID _) => (node.registered kind).get? channelID = none
  | some (.register kind channelID id) => (node.registered kind).get? channelID = none ∧ node.Keeps gone id kind channelID
  | some (.start kind channelID id) => (node.registered kind).get? channelID = some id
  | some (.push kind channelID id) => (node.registered kind).get? channelID = some id
  | some (.takeOut kind channelID id) => (node.registered kind).get? channelID = some id ∧ node.queue id = []
  | _ => True

structure BatcherNode.Wired (node : BatcherNode) (events : List LifecycleEvent) : Prop where
  registered : ∀ kind channelID id, (node.registered kind).get? channelID = some id → node.Keeps (takenOuts events) id kind channelID
  holder : node.HolderFound (takenOuts events)
  gone : ∀ id ∈ takenOuts events, ∃ b, node.batchers[id]? = some b ∧ b.batcher.itemsCh = []
  counted : (stops events ++ node.stopping).Perm (takenOuts events)
  once : (takenOuts events).Nodup

namespace BatcherNode

/-- The batchers that are registered go on as they are, and those that are gone stay empty. -/
structure Evolves (node after : BatcherNode) (gone : List Nat) : Prop where
  registered : ∀ kind, after.registered kind = node.registered kind
  batchers : ∀ id b, node.batchers[id]? = some b → ∃ b', after.batchers[id]? = some b' ∧ b'.kind = b.kind ∧
    b'.channelID = b.channelID ∧ (id ∉ gone → b.batcher.stopCh = false → b'.batcher.stopCh = false) ∧
      (id ∈ gone → b.batcher.itemsCh = [] → b'.batcher.itemsCh = [])

variable {node after : BatcherNode} {gone : List Nat} {events : List LifecycleEvent}

theorem Keeps.evolves {id : Nat} {kind : BatcherKind} {channelID : String} (keeps : node.Keeps gone id kind channelID)
    (evolves : node.Evolves after gone) : after.Keeps gone id kind channelID := by
  obtain ⟨b, found, rfl, rfl, running⟩ := keeps.made
  obtain ⟨b', found', sameKind, sameChannel, running', -⟩ := evolves.batchers id b found
  exact ⟨⟨b', found', sameKind, sameChannel, running' keeps.kept running⟩, keeps.kept⟩

theorem Wired.evolves {next : List LifecycleEvent} (wired : node.Wired events) (evolves : node.Evolves after (takenOuts events))
    (same : takenOuts next = takenOuts events) (holder : after.HolderFound (takenOuts events))
    (counted : (stops next ++ after.stopping).Perm (stops events ++ node.stopping)) : after.Wired next := by
  refine ⟨?_, by rw [same]; exact holder, ?_, by rw [same]; exact counted.trans wired.counted, by rw [same]; exact wired.once⟩
  · intro kind channelID id here
    rw [evolves.registered] at here
    rw [same]
    exact (wired.registered kind channelID id here).evolves evolves
  · intro id member
    rw [same] at member
    obtain ⟨b, found, drained⟩ := wired.gone id member
    obtain ⟨b', found', -, -, -, drained'⟩ := evolves.batchers id b found
    exact ⟨b', found', drained' member drained⟩

theorem Evolves.of_eq (registered : ∀ kind, after.registered kind = node.registered kind) (same : after.batchers = node.batchers) :
    node.Evolves after gone := by
  refine ⟨registered, fun id b found => ⟨b, ?_, rfl, rfl, fun _ running => running, fun _ drained => drained⟩⟩
  rw [same]
  exact found

theorem batchers_append {made b : NodeBatcher} {holder : Option MutHolder} {id : Nat} (found : node.batchers[id]? = some b) :
    ({ node with batchers := node.batchers ++ [made], holder } : BatcherNode).batchers[id]? = some b :=
  (List.getElem?_append_left (List.getElem?_eq_some_iff.mp found).1).trans found

theorem Evolves.append {made : NodeBatcher} {holder : Option MutHolder} :
    node.Evolves { node with batchers := node.batchers ++ [made], holder } gone :=
  ⟨fun kind => by cases kind <;> rfl, fun _ b found =>
    ⟨b, batchers_append found, rfl, rfl, fun _ running => running, fun _ drained => drained⟩⟩

theorem Evolves.setBatcher {id : Nat} {change : Batching.Batcher Nat → Batching.Batcher Nat}
    (running : ∀ b, node.batchers[id]? = some b → id ∉ gone → (change b.batcher).stopCh = b.batcher.stopCh)
    (drained : ∀ b, node.batchers[id]? = some b → id ∈ gone → b.batcher.itemsCh = [] → (change b.batcher).itemsCh = []) :
    node.Evolves (node.setBatcher id change) gone := by
  refine ⟨registered_setBatcher id change, fun other b found => ⟨_, batchers_setBatcher found, ?_⟩⟩
  by_cases same : id = other
  · subst same
    rw [if_pos rfl]
    exact ⟨rfl, rfl, fun kept stopCh => (running b found kept).trans stopCh, drained b found⟩
  · rw [if_neg same]
    exact ⟨rfl, rfl, fun _ stopCh => stopCh, fun _ empty => empty⟩

theorem Evolves.trans {last : BatcherNode} (first : node.Evolves after gone) (second : after.Evolves last gone) :
    node.Evolves last gone := by
  refine ⟨fun kind => (second.registered kind).trans (first.registered kind), fun id b found => ?_⟩
  obtain ⟨b', found', kind', channelID', running', drained'⟩ := first.batchers id b found
  obtain ⟨b'', found'', kind'', channelID'', running'', drained''⟩ := second.batchers id b' found'
  exact ⟨b'', found'', kind''.trans kind', channelID''.trans channelID', fun kept stopCh => running'' kept (running' kept stopCh),
    fun member empty => drained'' member (drained' member empty)⟩

@[simp] theorem registered_hold (holder : MutHolder) (kind : BatcherKind) :
    (node.hold holder).registered kind = node.registered kind := by
  cases kind <;> rfl

theorem Evolves.hold {holder : MutHolder} : node.Evolves (node.hold holder) gone := .of_eq (registered_hold holder) rfl

theorem Wired.hold {holder : MutHolder} (wired : node.Wired events) (finds : (node.hold holder).HolderFound (takenOuts events)) :
    (node.hold holder).Wired events := wired.evolves .hold rfl finds (.refl _)

theorem Wired.checked {kind : BatcherKind} {channelID : String} (wired : node.Wired events) : (node.checked kind channelID).Wired events := by
  cases kind <;> exact wired.hold trivial

/-! ### The steps of the goroutine that holds the mutex -/

theorem Wired.lookUp {kind : BatcherKind} {channelID : String} {count : Nat} (wired : node.Wired events) :
    (node.advance (.lookUp kind channelID count)).Wired events := by
  unfold BatcherNode.advance
  dsimp only
  split
  · next here => exact wired.hold (by cases kind <;> exact here)
  · next absent =>
    split
    · exact wired.hold (by cases kind <;> exact absent)
    · exact wired.hold trivial

theorem Wired.make {kind : BatcherKind} {channelID : String} {count : Nat} (wired : node.Wired events)
    (absent : (node.registered kind).get? channelID = none) : (node.advance (.make kind channelID count)).Wired events := by
  unfold BatcherNode.advance newBatcher
  dsimp only
  split
  · exact wired.hold trivial
  · next batcher made =>
    have running : batcher.stopCh = false := by
      split at made
      · cases made
      · split at made
        · cases made
        · cases made
          rfl
    refine wired.evolves .append rfl ?_ (.refl _)
    refine ⟨by cases kind <;> exact absent, ⟨⟨_, List.getElem?_concat_length, rfl, rfl, running⟩, fun member => ?_⟩⟩
    obtain ⟨b, found, -⟩ := wired.gone _ member
    exact absurd (List.getElem?_eq_some_iff.mp found).1 (Nat.lt_irrefl _)

theorem Keeps.of_eq {id : Nat} {kind : BatcherKind} {channelID : String} (keeps : node.Keeps gone id kind channelID)
    (same : after.batchers = node.batchers) : after.Keeps gone id kind channelID :=
  ⟨by rw [same]; exact keeps.made, keeps.kept⟩

@[simp] theorem batchers_setRegistered (kind : BatcherKind) (batchers : StringMap Nat) :
    (node.setRegistered kind batchers).batchers = node.batchers := by
  cases kind <;> rfl

@[simp] theorem stopping_setRegistered (kind : BatcherKind) (batchers : StringMap Nat) :
    (node.setRegistered kind batchers).stopping = node.stopping := by
  cases kind <;> rfl

theorem registered_register (kind other : BatcherKind) (channelID : String) (id : Nat) :
    (node.advance (.register kind channelID id)).registered other =
      if other = kind then (node.registered kind).set channelID id else node.registered other :=
  (registered_hold ..).trans (registered_setRegistered ..)

theorem registered_takeOut (kind other : BatcherKind) (channelID : String) (id : Nat) :
    (node.advance (.takeOut kind channelID id)).registered other =
      if other = kind then (node.registered kind).erase channelID else node.registered other := by
  refine Eq.trans ?_ (registered_setRegistered kind other ((node.registered kind).erase channelID))
  cases kind <;> cases other <;> rfl

theorem batchers_takeOut (kind : BatcherKind) (channelID : String) (id : Nat) :
    (node.advance (.takeOut kind channelID id)).batchers = node.batchers := by
  cases kind <;> rfl

theorem Wired.register {kind : BatcherKind} {channelID : String} {id : Nat} (wired : node.Wired events)
    (keeps : node.Keeps (takenOuts events) id kind channelID) : (node.advance (.register kind channelID id)).Wired events := by
  have same : (node.advance (.register kind channelID id)).batchers = node.batchers := batchers_setRegistered ..
  refine ⟨fun other otherChannel otherID here => ?_, ?_, ?_, ?_, wired.once⟩
  · rw [registered_register] at here
    split at here
    · next sameKind =>
      subst sameKind
      rw [StringMap.get?_set] at here
      split at here
      · next sameChannel =>
        subst sameChannel
        cases here
        exact keeps.of_eq same
      · exact (wired.registered _ _ _ here).of_eq same
    · exact (wired.registered _ _ _ here).of_eq same
  · change ((node.advance (.register kind channelID id)).registered kind).get? channelID = some id
    rw [registered_register, if_pos rfl, StringMap.get?_set, if_pos rfl]
  · rw [same]
    exact wired.gone
  · have stopping : (node.advance (.register kind channelID id)).stopping = node.stopping := stopping_setRegistered ..
    rw [stopping]
    exact wired.counted

theorem Wired.start {kind : BatcherKind} {channelID : String} {id : Nat} (wired : node.Wired events)
    (here : (node.registered kind).get? channelID = some id) : (node.advance (.start kind channelID id)).Wired events := by
  refine wired.evolves (.trans (.setBatcher (fun b _ _ => Batching.Batcher.start_next?.1) fun b _ _ drained => ?_) .hold) rfl
    (by cases kind <;> exact here) (.refl _)
  exact Batching.Batcher.start_next?.2.trans drained

theorem Wired.push {kind : BatcherKind} {channelID : String} {id : Nat} (accepted : Bool) (wired : node.Wired events)
    (here : (node.registered kind).get? channelID = some id) :
    (node.advance (.push kind channelID id)).Wired (events ++ [.pushed id node.pushes kind channelID accepted]) := by
  have kept := (wired.registered kind channelID id here).kept
  have filled : node.Evolves (node.setBatcher id fun b => (b.next? (.push node.pushes)).getD b) (takenOuts events) :=
    .setBatcher (fun b _ _ => (Batching.Batcher.push_next? node.pushes).1) fun _ _ gone _ => absurd gone kept
  refine wired.evolves (filled.trans (.of_eq (fun other => by cases other <;> rfl) rfl)) ?_ trivial ?_
  · simp [takenOuts, LifecycleEvent.takenOut?]
  · simp only [stops, List.filterMap_append, List.filterMap_cons, LifecycleEvent.stopped?, List.filterMap_nil, List.append_nil]
    exact .refl _

theorem Wired.takeOut {kind : BatcherKind} {channelID : String} {id : Nat} (queued : Nat) (wired : node.Wired events)
    (here : (node.registered kind).get? channelID = some id) (empty : node.queue id = []) :
    (node.advance (.takeOut kind channelID id)).Wired (events ++ [.takenOut id queued]) := by
  have keeps := wired.registered kind channelID id here
  have stopping : (node.advance (.takeOut kind channelID id)).stopping = node.stopping ++ [id] := by cases kind <;> rfl
  have taken : takenOuts (events ++ [.takenOut id queued]) = takenOuts events ++ [id] := by
    simp [takenOuts, LifecycleEvent.takenOut?]
  have called : stops (events ++ [.takenOut id queued]) = stops events := by simp [stops, LifecycleEvent.stopped?]
  refine ⟨fun other otherChannel otherID there => ?_, ?_, ?_, ?_, ?_⟩
  · have still : (node.registered other).get? otherChannel = some otherID ∧ ¬ (other = kind ∧ otherChannel = channelID) := by
      rw [registered_takeOut] at there
      split at there
      · next sameKind =>
        subst sameKind
        rw [StringMap.get?_erase] at there
        split at there
        · cases there
        · next otherwise => exact ⟨there, fun same => otherwise same.2⟩
      · next otherwise => exact ⟨there, fun same => otherwise same.1⟩
    have others := wired.registered other otherChannel otherID still.1
    refine ⟨by rw [batchers_takeOut]; exact others.made, ?_⟩
    rw [taken, List.mem_append, List.mem_singleton]
    intro either
    rcases either with member | same
    · exact others.kept member
    · -- A batcher is made for one channel and one kind.
      subst same
      obtain ⟨b, found, rfl, rfl, -⟩ := keeps.made
      obtain ⟨b', found', sameKind, sameChannel, -⟩ := others.made
      rw [found] at found'
      cases found'
      exact still.2 ⟨sameKind.symm, sameChannel.symm⟩
  · cases kind <;> trivial
  · intro other member
    rw [taken, List.mem_append, List.mem_singleton] at member
    rw [batchers_takeOut]
    rcases member with member | rfl
    · exact wired.gone other member
    · obtain ⟨b, found, -⟩ := keeps.made
      exact ⟨b, found, (queue_of_found found).symm.trans empty⟩
  · rw [stopping, taken, called, ← List.append_assoc]
    exact wired.counted.append_right [id]
  · rw [taken]
    refine List.nodup_append.mpr ⟨wired.once, List.nodup_singleton id, fun other member last listed same => ?_⟩
    obtain rfl := List.mem_singleton.mp listed
    exact keeps.kept (same ▸ member)

theorem Wired.advance {holder : MutHolder} (wired : node.Wired events) (held : node.holder = some holder) :
    (node.advance holder).Wired (events ++ (node.event? .advance).toList) := by
  have found := wired.holder
  unfold HolderFound at found
  rw [held] at found
  have unseen (noEvent : node.event? .advance = none) : events ++ (node.event? .advance).toList = events := by simp [noEvent]
  cases holder with
  | lookUp kind channelID count =>
    rw [unseen (by simp [event?, held])]
    exact wired.lookUp
  | make kind channelID count =>
    rw [unseen (by simp [event?, held])]
    exact wired.make found
  | register kind channelID id =>
    rw [unseen (by simp [event?, held])]
    exact wired.register found.2
  | start kind channelID id =>
    rw [unseen (by simp [event?, held])]
    exact wired.start found
  | push kind channelID id =>
    simpa [event?, held] using wired.push ((node.batchers[id]?).any (·.accepts node.pushes)) found
  | delete channelID callID connID =>
    rw [unseen (by simp [event?, held])]
    unfold BatcherNode.advance
    dsimp only
    split
    · exact wired.evolves (.of_eq (fun kind => by cases kind <;> rfl) rfl) rfl trivial (.refl _)
    · exact wired.evolves (.of_eq (fun kind => by cases kind <;> rfl) rfl) rfl trivial (.refl _)
  | check kind channelID =>
    rw [unseen (by simp [event?, held])]
    unfold BatcherNode.advance
    dsimp only
    split
    · exact wired.checked
    · next here =>
      split
      · next empty => exact wired.hold (by cases kind <;> exact ⟨here, List.isEmpty_iff.mp empty⟩)
      · exact wired.checked
  | takeOut kind channelID id =>
    simpa [event?, held] using wired.takeOut (node.queue id).length found.1 found.2
  | unlock =>
    rw [unseen (by simp [event?, held])]
    exact wired.evolves (.of_eq (fun kind => by cases kind <;> rfl) rfl) rfl trivial (.refl _)

theorem Wired.lock {holder : MutHolder} (wired : node.Wired events) (taken : node.lock? holder = some after)
    (finds : (node.hold holder).HolderFound (takenOuts events)) : after.Wired events := by
  unfold lock? at taken
  split at taken
  · cases taken
    exact wired.hold finds
  · cases taken

/-- The steps of a batcher leave what the holder of the mutex has found as it is. -/
theorem HolderFound.of_batchers (found : node.HolderFound gone) (evolves : node.Evolves after gone) (same : after.holder = node.holder)
    (drained : ∀ id, node.queue id = [] → after.queue id = []) : after.HolderFound gone := by
  unfold HolderFound at found ⊢
  rw [same]
  split at found
  · rw [evolves.registered]
    exact found
  · rw [evolves.registered]
    exact ⟨found.1, found.2.evolves evolves⟩
  · rw [evolves.registered]
    exact found
  · rw [evolves.registered]
    exact found
  · rw [evolves.registered]
    exact ⟨found.1, drained _ found.2⟩
  · trivial

theorem next?_run {id : Nat} {step : BatcherStep Nat} (taken : node.next? (.run id step) = some after) :
    ∃ b next, node.batchers[id]? = some b ∧ after = node.setBatcher id (fun _ => next) ∧ next.stopCh = b.batcher.stopCh ∧
      (step ≠ .receive ∧ next.itemsCh = b.batcher.itemsCh ∨ step = .receive ∧ ∃ item, b.batcher.itemsCh = item :: next.itemsCh) := by
  simp only [next?, Option.ite_none_right_eq_some] at taken
  obtain ⟨own, taken⟩ := taken
  obtain ⟨b, found, taken⟩ := Option.bind_eq_some_iff.mp taken
  obtain ⟨next, goes, rfl⟩ := Option.map_eq_some_iff.mp taken
  obtain ⟨same, items⟩ := Batching.Batcher.next?_own own goes
  exact ⟨b, next, found, rfl, same, items⟩

theorem event?_run (node : BatcherNode) (id : Nat) (step : BatcherStep Nat) :
    node.event? (.run id step) = none ∨ ∃ item, node.event? (.run id step) = some (.begun id item) := by
  cases step with
  | receive =>
    rw [event?]
    cases node.queue id with
    | nil => exact .inl rfl
    | cons item items => exact .inr ⟨item, rfl⟩
  | _ => exact .inl rfl

theorem Wired.run {id : Nat} {step : BatcherStep Nat} (wired : node.Wired events)
    (taken : node.next? (.run id step) = some after) : after.Wired (events ++ (node.event? (.run id step)).toList) := by
  obtain ⟨b, next, found, rfl, running, items⟩ := next?_run taken
  have drained (empty : b.batcher.itemsCh = []) : next.itemsCh = [] := by
    rcases items with ⟨-, same⟩ | ⟨-, item, popped⟩
    · exact same.trans empty
    · rw [popped] at empty
      cases empty
  have evolves : node.Evolves (node.setBatcher id fun _ => next) (takenOuts events) := by
    refine .setBatcher (fun b' found' _ => ?_) fun b' found' _ => ?_
    · rw [found] at found'
      cases found'
      exact running
    · rw [found] at found'
      cases found'
      exact drained
  have unseen : takenOuts (events ++ (node.event? (.run id step)).toList) = takenOuts events ∧
      stops (events ++ (node.event? (.run id step)).toList) = stops events := by
    rcases event?_run node id step with none | ⟨item, begun⟩
    · simp [none]
    · simp [begun, takenOuts, stops, LifecycleEvent.takenOut?, LifecycleEvent.stopped?]
  refine wired.evolves evolves unseen.1 (wired.holder.of_batchers evolves rfl fun other empty => ?_) (by rw [unseen.2]; exact .refl _)
  rw [queue_setBatcher found]
  split
  · next same =>
    rw [← same, queue_of_found found] at empty
    exact drained empty
  · exact empty

theorem Wired.stop {id : Nat} (wired : node.Wired events) (taken : node.next? (.stop id) = some after) :
    after.Wired (events ++ (node.event? (.stop id)).toList) := by
  simp only [next?, Option.ite_none_right_eq_some, Option.some.injEq] at taken
  obtain ⟨waits, rfl⟩ := taken
  have gone : id ∈ takenOuts events := wired.counted.subset (List.mem_append_right _ waits)
  obtain ⟨b, found, empty⟩ := wired.gone id gone
  have stopped : node.Evolves (node.setBatcher id fun b => (b.next? .stop).getD b) (takenOuts events) :=
    .setBatcher (fun _ _ kept => absurd gone kept) fun _ _ _ drained => Batching.Batcher.stop_next?.trans drained
  have evolves : node.Evolves { node.setBatcher id fun b => (b.next? .stop).getD b with stopping := node.stopping.erase id } _ :=
    stopped.trans (.of_eq (fun kind => by cases kind <;> rfl) rfl)
  have unseen : takenOuts (events ++ (node.event? (.stop id)).toList) = takenOuts events := by
    simp [event?, takenOuts, LifecycleEvent.takenOut?]
  have called : stops (events ++ (node.event? (.stop id)).toList) = stops events ++ [id] := by
    simp [event?, stops, LifecycleEvent.stopped?]
  refine wired.evolves evolves unseen (wired.holder.of_batchers evolves rfl fun other drained => ?_) ?_
  · have same : ({ node.setBatcher id fun b => (b.next? .stop).getD b with stopping := node.stopping.erase id } : BatcherNode).queue other =
        (node.setBatcher id fun b => (b.next? .stop).getD b).queue other := rfl
    rw [same, queue_setBatcher found]
    split
    · exact Batching.Batcher.stop_next?.trans empty
    · exact drained
  · rw [called, List.append_assoc]
    exact (List.perm_cons_erase waits).symm.append_left _

theorem Wired.step {step : BatcherNodeStep} (wired : node.Wired events) (taken : node.next? step = some after) :
    after.Wired (events ++ (node.event? step).toList) := by
  cases step with
  | join | leave | removal => simpa [event?] using wired.lock taken trivial
  | other sessions =>
    simp only [next?, Option.ite_none_right_eq_some, Option.some.injEq] at taken
    obtain ⟨idle, rfl⟩ := taken
    refine wired.evolves (.of_eq (fun kind => by cases kind <;> rfl) rfl) (by simp [event?]) ?_ (by simp [event?])
    unfold HolderFound
    dsimp only
    rw [idle]
    trivial
  | advance =>
    obtain ⟨holder, held, rfl⟩ := Option.map_eq_some_iff.mp taken
    exact wired.advance held
  | run id step => exact wired.run taken
  | stop id => exact wired.stop taken

/-! ### What waits in the batchers -/

/-- The item is in the queue of the batcher that is in the map. -/
def Waits (node : BatcherNode) (id item : Nat) (kind : BatcherKind) (channelID : String) : Prop :=
  (node.registered kind).get? channelID = some id ∧ item ∈ node.queue id

variable {id item : Nat} {kind : BatcherKind} {channelID : String}

theorem queue_of_eq (same : after.batchers = node.batchers) : after.queue id = node.queue id := by
  unfold queue
  rw [same]

theorem Waits.of_eq (waits : node.Waits id item kind channelID) (registered : after.registered kind = node.registered kind)
    (same : after.batchers = node.batchers) : after.Waits id item kind channelID :=
  ⟨registered ▸ waits.1, queue_of_eq same ▸ waits.2⟩

theorem Waits.hold {holder : MutHolder} (waits : node.Waits id item kind channelID) : (node.hold holder).Waits id item kind channelID :=
  waits.of_eq (registered_hold holder kind) rfl

theorem Waits.checked {other : BatcherKind} {otherChannel : String} (waits : node.Waits id item kind channelID) :
    (node.checked other otherChannel).Waits id item kind channelID := by
  cases other <;> exact waits.hold

theorem Waits.setBatcher {other : Nat} {change : Batching.Batcher Nat → Batching.Batcher Nat} (waits : node.Waits id item kind channelID)
    (keeps : ∀ b, node.batchers[other]? = some b → item ∈ b.batcher.itemsCh → item ∈ (change b.batcher).itemsCh) :
    (node.setBatcher other change).Waits id item kind channelID := by
  refine ⟨by rw [registered_setBatcher]; exact waits.1, ?_⟩
  cases found : node.batchers[other]? with
  | none =>
    have same : (node.setBatcher other change).batchers = node.batchers := List.modify_eq_self (List.getElem?_eq_none_iff.mp found)
    exact queue_of_eq same ▸ waits.2
  | some b =>
    rw [queue_setBatcher found]
    split
    · next same =>
      subst same
      exact keeps b found (queue_of_found found ▸ waits.2)
    · exact waits.2

theorem Waits.advance {holder : MutHolder} (waits : node.Waits id item kind channelID) (wired : node.Wired events)
    (held : node.holder = some holder) : (node.advance holder).Waits id item kind channelID := by
  have found := wired.holder
  unfold HolderFound at found
  rw [held] at found
  cases holder with
  | lookUp otherKind otherChannel count =>
    unfold BatcherNode.advance
    dsimp only
    split
    · exact waits.hold
    · exact waits.hold
  | make otherKind otherChannel count =>
    unfold BatcherNode.advance
    dsimp only
    split
    · exact waits.hold
    · refine ⟨by cases kind <;> exact waits.1, ?_⟩
      obtain ⟨b, made, -⟩ := (wired.registered kind channelID id waits.1).made
      have listed := waits.2
      rw [queue_of_found made] at listed
      exact (queue_of_found (batchers_append made)).symm ▸ listed
  | register otherKind otherChannel other =>
    have same : (node.advance (.register otherKind otherChannel other)).batchers = node.batchers := batchers_setRegistered ..
    refine ⟨?_, queue_of_eq same ▸ waits.2⟩
    rw [registered_register]
    split
    · next sameKind =>
      subst sameKind
      rw [StringMap.get?_set]
      split
      · next sameChannel =>
        subst sameChannel
        have absent := found.1
        rw [waits.1] at absent
        cases absent
      · exact waits.1
    · exact waits.1
  | start otherKind otherChannel other =>
    refine (waits.setBatcher fun b _ listed => ?_).hold
    rw [Batching.Batcher.start_next?.2]
    exact listed
  | push otherKind otherChannel other =>
    have filled : (node.setBatcher other fun b => (b.next? (.push node.pushes)).getD b).Waits id item kind channelID := by
      refine waits.setBatcher fun b _ listed => ?_
      rw [(Batching.Batcher.push_next? node.pushes).2]
      split
      · exact List.mem_append_left _ listed
      · exact listed
    exact filled.of_eq (by cases kind <;> rfl) rfl
  | delete otherChannel callID connID => exact waits.of_eq (by cases kind <;> rfl) rfl
  | check otherKind otherChannel =>
    unfold BatcherNode.advance
    dsimp only
    split
    · exact waits.checked
    · split
      · exact waits.hold
      · exact waits.checked
  | takeOut otherKind otherChannel other =>
    refine ⟨?_, by rw [queue_of_eq (batchers_takeOut ..)]; exact waits.2⟩
    rw [registered_takeOut]
    split
    · next sameKind =>
      subst sameKind
      rw [StringMap.get?_erase]
      split
      · next sameChannel =>
        -- The batcher that is taken out is empty.
        subst sameChannel
        obtain rfl : id = other := Option.some.inj (waits.1.symm.trans found.1)
        have listed := waits.2
        rw [found.2] at listed
        cases listed
      · exact waits.1
    · exact waits.1
  | unlock => exact waits.of_eq (by cases kind <;> rfl) rfl

theorem Waits.step {step : BatcherNodeStep} (waits : node.Waits id item kind channelID) (wired : node.Wired events)
    (taken : node.next? step = some after) : after.Waits id item kind channelID ∨ node.event? step = some (.begun id item) := by
  have locks {holder : MutHolder} (locked : node.lock? holder = some after) : after.Waits id item kind channelID := by
    unfold lock? at locked
    split at locked
    · cases locked
      exact waits.hold
    · cases locked
  cases step with
  | join | leave | removal => exact .inl (locks taken)
  | other sessions =>
    simp only [next?, Option.ite_none_right_eq_some, Option.some.injEq] at taken
    obtain ⟨-, rfl⟩ := taken
    exact .inl (waits.of_eq (by cases kind <;> rfl) rfl)
  | advance =>
    obtain ⟨holder, held, rfl⟩ := Option.map_eq_some_iff.mp taken
    exact .inl (waits.advance wired held)
  | run other step =>
    obtain ⟨b, next, found, rfl, -, items⟩ := next?_run taken
    by_cases same : other = id
    · subst same
      have listed := waits.2
      rw [queue_of_found found] at listed
      rcases items with ⟨-, kept⟩ | ⟨rfl, first, popped⟩
      · refine .inl (waits.setBatcher fun b' found' listed' => ?_)
        rw [kept]
        exact listed
      · rw [popped] at listed
        rcases List.mem_cons.mp listed with rfl | later
        · exact .inr (by simp [event?, queue_of_found found, popped])
        · exact .inl (waits.setBatcher fun _ _ _ => later)
    · refine .inl ⟨by rw [registered_setBatcher]; exact waits.1, ?_⟩
      rw [queue_setBatcher found, if_neg same]
      exact waits.2
  | stop other =>
    simp only [next?, Option.ite_none_right_eq_some, Option.some.injEq] at taken
    obtain ⟨-, rfl⟩ := taken
    have kept : (node.setBatcher other fun b => (b.next? .stop).getD b).Waits id item kind channelID := by
      refine waits.setBatcher fun b _ listed => ?_
      rw [Batching.Batcher.stop_next?]
      exact listed
    exact .inl (kept.of_eq (by cases kind <;> rfl) rfl)

/-- The events, by what they are seen of. -/
theorem event?_eq_some {step : BatcherNodeStep} {event : LifecycleEvent} (seen : node.event? step = some event) :
    (∃ kind channelID id, step = .advance ∧ node.holder = some (.push kind channelID id) ∧
      event = .pushed id node.pushes kind channelID ((node.batchers[id]?).any (·.accepts node.pushes))) ∨
    (∃ kind channelID id, step = .advance ∧ node.holder = some (.takeOut kind channelID id) ∧
      event = .takenOut id (node.queue id).length) ∨
    (∃ id item, event = .begun id item) ∨ ∃ id, step = .stop id ∧ event = .stopped id (node.queue id).length := by
  cases step with
  | advance =>
    unfold event? at seen
    dsimp only at seen
    split at seen
    · next held => exact .inl ⟨_, _, _, rfl, held, (Option.some.inj seen).symm⟩
    · next held => exact .inr (.inl ⟨_, _, _, rfl, held, (Option.some.inj seen).symm⟩)
    · cases seen
  | run id step =>
    rcases event?_run node id step with none | ⟨item, begun⟩
    · rw [none] at seen
      cases seen
    · rw [begun] at seen
      exact .inr (.inr (.inl ⟨id, item, (Option.some.inj seen).symm⟩))
  | stop id => exact .inr (.inr (.inr ⟨id, rfl, (Option.some.inj seen).symm⟩))
  | _ => cases seen

/-- A push that is accepted is to a batcher that is in the map, where the item now waits. -/
theorem Wired.pushes {step : BatcherNodeStep} {accepted : Bool} (wired : node.Wired events) (taken : node.next? step = some after)
    (seen : node.event? step = some (.pushed id item kind channelID accepted)) :
    id ∉ takenOuts events ∧ (accepted = true → after.Waits id item kind channelID) := by
  rcases event?_eq_some seen with ⟨_, _, _, rfl, held, same⟩ | ⟨_, _, _, _, _, same⟩ | ⟨_, _, same⟩ | ⟨_, _, same⟩
  · cases same
    have here : (node.registered kind).get? channelID = some id := by
      have found := wired.holder
      unfold HolderFound at found
      rw [held] at found
      exact found
    simp only [next?, held, Option.map_some, Option.some.injEq] at taken
    subst taken
    have keeps := wired.registered _ _ _ here
    refine ⟨keeps.kept, fun accepts => ⟨by cases kind <;> exact here, ?_⟩⟩
    obtain ⟨b, made, -⟩ := keeps.made
    rw [made, Option.any_some, NodeBatcher.accepts_iff] at accepts
    have same : (node.advance (.push kind channelID id)).queue id =
        (node.setBatcher id fun b => (b.next? (.push node.pushes)).getD b).queue id := rfl
    rw [same, queue_setBatcher made, if_pos rfl, (Batching.Batcher.push_next? node.pushes).2, if_pos accepts]
    exact List.mem_append_right _ (List.mem_singleton_self _)
  all_goals cases same

theorem Wired.takesOut {step : BatcherNodeStep} {queued : Nat} (wired : node.Wired events)
    (seen : node.event? step = some (.takenOut id queued)) : queued = 0 := by
  rcases event?_eq_some seen with ⟨_, _, _, _, _, same⟩ | ⟨_, _, _, _, held, same⟩ | ⟨_, _, same⟩ | ⟨_, _, same⟩
  · cases same
  · cases same
    have found := wired.holder
    unfold HolderFound at found
    rw [held] at found
    exact List.length_eq_zero_iff.mpr found.2
  all_goals cases same

theorem Wired.stops {step : BatcherNodeStep} {queued : Nat} (wired : node.Wired events) (taken : node.next? step = some after)
    (seen : node.event? step = some (.stopped id queued)) : queued = 0 := by
  rcases event?_eq_some seen with ⟨_, _, _, _, _, same⟩ | ⟨_, _, _, _, _, same⟩ | ⟨_, _, same⟩ | ⟨_, rfl, same⟩
  · cases same
  · cases same
  · cases same
  · cases same
    simp only [next?, Option.ite_none_right_eq_some] at taken
    obtain ⟨b, found, empty⟩ := wired.gone id (wired.counted.subset (List.mem_append_right _ taken.1))
    rw [queue_of_found found, empty]
    rfl

end BatcherNode

/-! ### The runs -/

structure LifecycleSound (state : BatcherNode × List LifecycleEvent) : Prop where
  wired : state.1.Wired state.2
  safe : LifecycleSafe state

theorem lifecycleSound_initial : LifecycleSound (.initial, []) where
  wired := by
    refine ⟨fun kind channelID id here => ?_, trivial, fun id member => ?_, .refl _, .nil⟩
    · cases kind <;> cases here
    · cases member
  safe := by
    refine ⟨fun _ _ member => ?_, fun _ _ member => ?_, .nil, .nil, fun _ _ _ _ member => ?_⟩ <;> cases member

theorem BatcherNode.Wired.stoppedOnce {node : BatcherNode} {events : List LifecycleEvent} (wired : node.Wired events) :
    (events.filterMap LifecycleEvent.stopped?).Nodup :=
  (wired.counted.nodup_iff.mpr wired.once).of_append_left

theorem BatcherNode.Wired.serves {node : BatcherNode} {events : List LifecycleEvent} {id item : Nat} {kind : BatcherKind}
    {channelID : String} (wired : node.Wired events) (waits : node.Waits id item kind channelID) :
    node.Serves id kind channelID ∧ item ∈ node.queue id := by
  obtain ⟨b, made, -, -, running⟩ := (wired.registered kind channelID id waits.1).made
  exact ⟨⟨waits.1, b, made, running⟩, waits.2⟩

theorem lifecycleSound_step {before after : BatcherNode × List LifecycleEvent} {step : BatcherNodeStep} (sound : LifecycleSound before)
    (taken : batcherLifecycles.next? before step = some after) : LifecycleSound after := by
  obtain ⟨node, events⟩ := before
  obtain ⟨after, events'⟩ := after
  obtain ⟨taken, rfl⟩ := System.observed_next?.mp taken
  dsimp only at taken
  have wired := sound.wired
  have wired' := wired.step taken
  refine ⟨wired', ?_, ?_, ?_, wired'.stoppedOnce, ?_⟩
  · intro id queued member
    rcases List.mem_append.mp member with old | new
    · exact sound.safe.takenOutEmpty id queued old
    · exact wired.takesOut (Option.mem_toList.mp new)
  · intro id queued member
    rcases List.mem_append.mp member with old | new
    · exact sound.safe.stoppedEmpty id queued old
    · exact wired.stops taken (Option.mem_toList.mp new)
  · refine List.pairwise_append.mpr ⟨sound.safe.notPushedAfter, ?_, ?_⟩
    · cases node.event? step <;> simp
    · intro earlier old later new id queued item kind channelID accepted takenOut pushed
      subst takenOut pushed
      refine (wired.pushes taken (Option.mem_toList.mp new)).1 (List.mem_filterMap.mpr ⟨_, old, rfl⟩)
  · intro id item kind channelID member waiting
    rcases List.mem_append.mp member with old | new
    · obtain ⟨⟨here, -⟩, listed⟩ := sound.safe.waiting id item kind channelID old fun begun => waiting (List.mem_append_left _ begun)
      rcases BatcherNode.Waits.step ⟨here, listed⟩ wired taken with still | begun
      · exact wired'.serves still
      · exact absurd (List.mem_append_right _ (Option.mem_toList.mpr begun)) waiting
    · exact wired'.serves ((wired.pushes taken (Option.mem_toList.mp new)).2 rfl)

theorem lifecycleSafe {state : BatcherNode × List LifecycleEvent} (reached : batcherLifecycles.Reachable state) : LifecycleSafe state := by
  have sound : LifecycleSound state := by
    refine reached.invariant (fun state initial => ?_) fun before step after sound taken => lifecycleSound_step sound taken
    obtain ⟨node, events⟩ := state
    obtain ⟨rfl, rfl⟩ := initial
    exact lifecycleSound_initial
  exact sound.safe

/-- The last session of a large call leaves, and its batcher is stopped while the batch ends. -/
def lastLeaves : List BatcherNodeStep :=
  [.leave "channel" 100, .advance, .advance, .advance, .advance, .advance, .advance, .run 0 .tick,
    .run 0 (.preRunReturns false), .run 0 .receive, .removal "channel" "call" "conn", .advance, .advance, .advance, .advance,
    .advance, .stop 0, .run 0 .itemReturns, .run 0 .loopEnds, .run 0 .postRunReturns, .run 0 .stopReceived]

theorem lifecycleSafe_lastLeaves : ∃ state, batcherLifecycles.run? (.initial, []) lastLeaves = some state ∧
    state.2 = [.pushed 0 0 .removeSessions "channel" true, .begun 0 0, .takenOut 0 0, .stopped 0 0] ∧ LifecycleSafe state := by
  have computed : (batcherLifecycles.run? (.initial, []) lastLeaves).map Prod.snd =
      some [.pushed 0 0 .removeSessions "channel" true, .begun 0 0, .takenOut 0 0, .stopped 0 0] := by decide +kernel
  obtain ⟨state, ran, events⟩ := Option.map_eq_some_iff.mp computed
  have start : batcherLifecycles.Reachable (.initial, []) := .init ⟨rfl, rfl⟩
  exact ⟨state, ran, events, lifecycleSafe (start.run ran)⟩

end Calls
