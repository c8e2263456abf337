import Calls.Batching.Batcher

/-! What a batcher runs: the accepted items in their order, batch by batch. -/

set_option autoImplicit false

namespace Calls.Batching

variable {α : Type}

/-- The items that have begun to run, oldest first. -/
def BatcherHistory.executed (h : BatcherHistory α) : List α :=
  h.events.filterMap fun event =>
    match event with
    | .run _ item => some item
    | _ => none

namespace Orderly

variable {b after : Batcher α} {h : BatcherHistory α} {past : List (BatchRun α)} {current : List α}

/-- Between batches nothing is running. -/
theorem between (orderly : Orderly b h past current) (out : b.loop.left? = none) :
    current = [] ∧ h.events = past.flatMap b.cfg.events := by
  refine ⟨orderly.idle out, ?_⟩
  have events := orderly.events
  rw [out] at events
  simpa using events

theorem running (orderly : Orderly b h past current) {left : Nat} (inside : b.loop.left? = some left) :
    h.events = past.flatMap b.cfg.events ++ b.cfg.opened b.batches current := by
  have events := orderly.events
  rw [inside] at events
  simpa using events

/-- A run with the number of the batch comes after the runs of earlier batches. -/
theorem numbered_append (orderly : Orderly b h past current) {run : BatchRun α} (same : run.num = b.batches)
    (before : ∀ earlier ∈ past, earlier.num < b.batches) : ((past ++ [run]).map BatchRun.num).Pairwise (· < ·) := by
  rw [List.map_append, List.pairwise_append]
  refine ⟨orderly.numbered, List.pairwise_singleton _ _, fun num listed other single => ?_⟩
  obtain ⟨earlier, member, rfl⟩ := List.mem_map.mp listed
  rw [List.map_singleton, List.mem_singleton] at single
  rw [single, same]
  exact before earlier member

theorem le_batches_append (orderly : Orderly b h past current) {run : BatchRun α} (same : run.num = b.batches)
    {other : BatchRun α} (listed : other ∈ past ++ [run]) : other.num ≤ b.batches := by
  rcases List.mem_append.mp listed with old | new
  · exact (orderly.last other old).1
  · rw [List.mem_singleton.mp new]
    exact Nat.le_of_eq same

/-- The goroutine goes on to where no batch runs, from where none does. -/
theorem aside (orderly : Orderly b h past current) (out : b.loop.left? = none) (same : after.cfg = b.cfg)
    (items : after.itemsCh = b.itemsCh) (batches : after.batches = b.batches) (out' : after.loop.left? = none)
    (noPreRun : ∀ size, after.loop ≠ .inPreRun size) : Orderly after h past current := by
  obtain ⟨none, events⟩ := orderly.between out
  refine ⟨?_, by rw [items]; exact orderly.accepted, fun _ => none, by rw [items, same]; exact orderly.bounded, ?_,
    orderly.numbered, fun run listed => ⟨by rw [batches]; exact (orderly.last run listed).1, ?_⟩⟩
  · rw [out', same, events]
    simp
  · intro left either
    rcases either with inside | inPreRun
    · rw [out'] at inside
      cases inside
    · exact absurd inPreRun (noPreRun left)
  · intro either
    rcases either with inside | ⟨size, inPreRun⟩
    · rw [out'] at inside
      cases inside
    · exact absurd inPreRun (noPreRun size)

theorem executed (orderly : Orderly b h past current) : h.executed = past.flatMap BatchRun.items ++ current := by
  have opened (num : Nat) (items : List α) : (b.cfg.opened num items).filterMap (fun event =>
      match event with
      | .run _ item => some item
      | _ => none) = items := by
    unfold Config.opened
    rw [List.filterMap_append, List.filterMap_map]
    have none : (if b.cfg.preRunCb then [BatchEvent.preRun num false] else ([] : List (BatchEvent α))).filterMap (fun event =>
        match event with
        | .run _ item => some item
        | _ => none) = [] := by split <;> rfl
    rw [none, List.nil_append]
    exact List.filterMap_some
  have ran (run : BatchRun α) : (b.cfg.events run).filterMap (fun event =>
      match event with
      | .run _ item => some item
      | _ => none) = run.items := by
    cases run with
    | refused num => rfl
    | done num items =>
      rw [Config.events, List.filterMap_append, opened]
      split <;> simp [BatchRun.items]
  rw [BatcherHistory.executed, orderly.events, List.filterMap_append, List.filterMap_flatMap]
  congr 1
  · exact congrArg (List.flatMap · past) (funext ran)
  · split
    · exact opened _ _
    · next out =>
      rw [orderly.idle (by simpa using out)]
      rfl

theorem push (orderly : Orderly b h past current) {item : α} (accepted : b.push item = .ok after) :
    Orderly after { h with accepted := h.accepted ++ [item] } past current := by
  unfold Batcher.push at accepted
  split at accepted
  · next room =>
    cases accepted
    refine ⟨orderly.events, ?_, orderly.idle, ?_, fun left inside => ?_, orderly.numbered, orderly.last⟩
    · rw [orderly.accepted, List.append_assoc]
    · rw [List.length_append, List.length_singleton]
      exact room
    · rw [List.length_append]
      exact Nat.le_add_right_of_le (orderly.filled left inside)
  · cases accepted

theorem onTick (orderly : Orderly b h past current) (selecting : b.loop = .selecting) :
    Orderly b.onTick h past current := by
  have out : b.loop.left? = none := by rw [selecting]; rfl
  obtain ⟨none, events⟩ := orderly.between out
  unfold Batcher.onTick
  split
  · next some =>
    have later (run : BatchRun α) (listed : run ∈ past) : run.num < b.batches + 1 :=
      Nat.lt_succ_of_le (orderly.last run listed).1
    cases callback : b.cfg.preRunCb with
    | true =>
      simp only [if_true]
      refine ⟨by simpa [Loop.left?] using events, orderly.accepted, fun _ => none, orderly.bounded, ?_, orderly.numbered,
        fun run listed => ⟨Nat.le_of_lt (later run listed), fun _ => later run listed⟩⟩
      intro left either
      rcases either with inside | inPreRun
      · cases inside
      · cases inPreRun
        exact Nat.le_refl _
    | false =>
      simp only [Bool.false_eq_true, if_false]
      refine ⟨?_, orderly.accepted, nofun, orderly.bounded, ?_, orderly.numbered,
        fun run listed => ⟨Nat.le_of_lt (later run listed), fun _ => later run listed⟩⟩
      · simp [Loop.left?, events, none, Config.opened, callback]
      · intro left either
        rcases either with inside | inPreRun
        · cases inside
          exact Nat.le_refl _
        · cases inPreRun
  · exact orderly

theorem preRunReturns (orderly : Orderly b h past current) {batchSize : Nat} (inPreRun : b.loop = .inPreRun batchSize)
    (callback : b.cfg.preRunCb = true) (failed : Bool) :
    ∃ past', Orderly { b with loop := if failed then .selecting else .draining batchSize }
      (h.add (.preRun b.batches failed)) past' current := by
  have out : b.loop.left? = none := by rw [inPreRun]; rfl
  obtain ⟨none, events⟩ := orderly.between out
  have before (run : BatchRun α) (listed : run ∈ past) : run.num < b.batches :=
    (orderly.last run listed).2 (.inr ⟨batchSize, inPreRun⟩)
  cases failed with
  | true =>
    refine ⟨past ++ [.refused b.batches], ?_, ?_, fun _ => none, orderly.bounded, ?_, ?_, fun run listed => ⟨?_, ?_⟩⟩
    · simp [BatcherHistory.add, events, Config.events, Loop.left?]
    · simp [BatcherHistory.add, orderly.accepted, BatchRun.items]
    · rintro left (inside | inPreRun) <;> contradiction
    · exact orderly.numbered_append rfl before
    · exact orderly.le_batches_append rfl listed
    · rintro (inside | ⟨size, inPreRun⟩) <;> contradiction
  | false =>
    refine ⟨past, ?_, orderly.accepted, nofun, orderly.bounded, ?_, orderly.numbered,
      fun run listed => ⟨(orderly.last run listed).1, fun _ => before run listed⟩⟩
    · simp [BatcherHistory.add, events, none, Config.opened, Loop.left?, callback]
    · intro left either
      rcases either with inside | inPreRun'
      · cases inside
        exact orderly.filled batchSize (.inr inPreRun)
      · cases inPreRun'

theorem receive (orderly : Orderly b h past current) {left : Nat} {item : α} {items : List α}
    (draining : b.loop = .draining (left + 1)) (queued : b.itemsCh = item :: items) :
    Orderly { b with itemsCh := items, loop := .inItem left } (h.add (.run b.batches item)) past (current ++ [item]) := by
  have inside : b.loop.left? = some (left + 1) := by rw [draining]; rfl
  have length : b.itemsCh.length = items.length + 1 := by rw [queued, List.length_cons]
  refine ⟨?_, ?_, nofun, ?_, ?_, orderly.numbered,
    fun run listed => ⟨(orderly.last run listed).1, fun _ => (orderly.last run listed).2 (.inl (by rw [inside]; rfl))⟩⟩
  · simp [BatcherHistory.add, orderly.running inside, Config.opened, Loop.left?]
  · simp [BatcherHistory.add, orderly.accepted, queued]
  · have bounded := orderly.bounded
    dsimp only
    omega
  · have filled := orderly.filled (left + 1) (.inl inside)
    intro other either
    rcases either with same | inPreRun
    · cases same
      dsimp only
      omega
    · cases inPreRun

theorem itemReturns (orderly : Orderly b h past current) {left : Nat} (inItem : b.loop = .inItem left) :
    Orderly { b with loop := .draining left } h past current := by
  have inside : b.loop.left? = some left := by rw [inItem]; rfl
  refine ⟨?_, orderly.accepted, nofun, orderly.bounded, ?_, orderly.numbered,
    fun run listed => ⟨(orderly.last run listed).1, fun _ => (orderly.last run listed).2 (.inl (by rw [inside]; rfl))⟩⟩
  · simp [orderly.running inside, Loop.left?]
  · intro other either
    rcases either with same | inPreRun
    · cases same
      exact orderly.filled left (.inl inside)
    · cases inPreRun

theorem loopEnds (orderly : Orderly b h past current) (draining : b.loop = .draining 0) :
    Orderly { b with loop := if b.cfg.postRunCb then .inPostRun else .selecting }
      (if b.cfg.postRunCb then h.add (.postRun b.batches) else h) (past ++ [.done b.batches current]) [] := by
  have inside : b.loop.left? = some 0 := by rw [draining]; rfl
  have before (run : BatchRun α) (listed : run ∈ past) : run.num < b.batches :=
    (orderly.last run listed).2 (.inl (by rw [inside]; rfl))
  have events := orderly.running inside
  have out : (if b.cfg.postRunCb then Loop.inPostRun else .selecting).left? = none := by split <;> rfl
  have noPreRun (size : Nat) : (if b.cfg.postRunCb then Loop.inPostRun else .selecting) ≠ .inPreRun size := by split <;> nofun
  refine ⟨?_, ?_, fun _ => rfl, orderly.bounded, ?_, ?_, fun run listed => ⟨?_, ?_⟩⟩
  · dsimp only
    rw [out]
    split <;> next callback => simp [BatcherHistory.add, events, Config.events, callback]
  · have accepted : (if b.cfg.postRunCb then h.add (.postRun b.batches) else h).accepted = h.accepted := by split <;> rfl
    rw [accepted, orderly.accepted]
    simp [BatchRun.items]
  · intro left either
    rcases either with inside | inPreRun
    · rw [out] at inside
      cases inside
    · exact absurd inPreRun (noPreRun left)
  · exact orderly.numbered_append rfl before
  · exact orderly.le_batches_append rfl listed
  · intro either
    rcases either with inside | ⟨size, inPreRun⟩
    · rw [out] at inside
      cases inside
    · exact absurd inPreRun (noPreRun size)

end Orderly

/-! ### In all runs -/

/-- What is kept by every step. -/
structure BatcherInvariant (cfg : Config) (state : Batcher α × BatcherHistory α) : Prop where
  cfg_eq : state.1.cfg = cfg
  callback : ∀ batchSize, state.1.loop = .inPreRun batchSize → cfg.preRunCb = true
  orderly : ∃ past current, Orderly state.1 state.2 past current

theorem BatcherInvariant.step {cfg : Config} {made : Batcher α} {before after : Batcher α × BatcherHistory α}
    {label : BatcherStep α} (inv : BatcherInvariant cfg before)
    (taken : (batcherRuns made).next? before label = some after) : BatcherInvariant cfg after := by
  obtain ⟨b, h⟩ := before
  obtain ⟨b', h'⟩ := after
  obtain ⟨moved, noted⟩ := System.observed_next?.mp taken
  obtain ⟨rfl, callback, past, current, orderly⟩ := inv
  dsimp only at moved noted callback orderly
  rw [noted]
  cases label with
  | push item =>
    simp only [Batcher.next?, Option.some.injEq] at moved
    subst moved
    simp only [BatcherHistory.note]
    cases accepted : b.push item with
    | error => exact ⟨rfl, callback, past, current, orderly⟩
    | ok pushed =>
      have kept := orderly.push accepted
      unfold Batcher.push at accepted
      split at accepted
      · cases accepted
        exact ⟨rfl, callback, past, current, kept⟩
      · cases accepted
  | start =>
    simp only [Batcher.next?] at moved
    split at moved
    · next unstarted =>
      cases moved
      exact ⟨rfl, nofun, past, current, orderly.aside (by rw [unstarted]; rfl) rfl rfl rfl rfl nofun⟩
    · cases moved
  | tick =>
    simp only [Batcher.next?] at moved
    split at moved
    · next selecting =>
      cases moved
      refine ⟨?_, ?_, past, current, orderly.onTick selecting⟩
      · dsimp only
        unfold Batcher.onTick
        split <;> rfl
      · unfold Batcher.onTick
        dsimp only
        split
        · intro batchSize inPreRun
          dsimp only at inPreRun
          split at inPreRun
          · next given => exact given
          · cases inPreRun
        · exact callback
    · cases moved
  | preRunReturns failed =>
    simp only [Batcher.next?] at moved
    split at moved
    · next batchSize inPreRun =>
      cases moved
      obtain ⟨past', kept⟩ := orderly.preRunReturns inPreRun (callback batchSize inPreRun) failed
      refine ⟨rfl, fun size inPreRun => ?_, past', current, kept⟩
      dsimp only at inPreRun
      split at inPreRun <;> cases inPreRun
    · cases moved
  | receive =>
    simp only [Batcher.next?] at moved
    split at moved
    · next left item items draining queued =>
      cases moved
      simp only [BatcherHistory.note, queued]
      exact ⟨rfl, nofun, past, current ++ [item], orderly.receive draining queued⟩
    · cases moved
  | itemReturns =>
    simp only [Batcher.next?] at moved
    split at moved
    · next left inItem =>
      cases moved
      exact ⟨rfl, nofun, past, current, orderly.itemReturns inItem⟩
    · cases moved
  | loopEnds =>
    simp only [Batcher.next?] at moved
    split at moved
    · next draining =>
      cases moved
      refine ⟨rfl, fun size inPreRun => ?_, _, [], orderly.loopEnds draining⟩
      dsimp only at inPreRun
      split at inPreRun <;> cases inPreRun
    · cases moved
  | postRunReturns =>
    simp only [Batcher.next?] at moved
    split at moved
    · next inPostRun =>
      cases moved
      exact ⟨rfl, nofun, past, current, orderly.aside (by rw [inPostRun]; rfl) rfl rfl rfl rfl nofun⟩
    · cases moved
  | stop =>
    simp only [Batcher.next?] at moved
    split at moved
    · cases moved
    · cases moved
      exact ⟨rfl, callback, past, current, orderly.events, orderly.accepted, orderly.idle, orderly.bounded, orderly.filled,
        orderly.numbered, orderly.last⟩
  | stopReceived =>
    simp only [Batcher.next?] at moved
    split at moved
    · next stops =>
      cases moved
      exact ⟨rfl, nofun, past, current, orderly.aside (by rw [stops.1]; rfl) rfl rfl rfl rfl nofun⟩
    · cases moved

/-- The accepted items run once each and in their order, batch by batch, and none is lost. -/
structure RunsInOrder (b : Batcher α) (h : BatcherHistory α) : Prop where
  executed : h.accepted = h.executed ++ b.itemsCh
  batches : ∃ past current, Orderly b h past current
  bounded : b.itemsCh.length ≤ b.cfg.size.toNat
  /-- The receive of the next item of a batch does not block. -/
  ready : ∀ left, b.loop = .draining (left + 1) → ∃ item items, b.itemsCh = item :: items
  refused : ∀ after, b.next? (.preRunReturns true) = some after → after.itemsCh = b.itemsCh

theorem runsInOrder_of_reachable (cfg : Config) (made : Batcher α) (valid : newBatcher α cfg = .ok made)
    (state : Batcher α × BatcherHistory α) (reached : (batcherRuns made).Reachable state) :
    state.1.cfg = cfg ∧ RunsInOrder state.1 state.2 := by
  have inv : BatcherInvariant cfg state := by
    refine System.Reachable.invariant ?_ (fun before label after inv taken => inv.step taken) reached
    intro facts both
    obtain ⟨b, h⟩ := facts
    obtain ⟨rfl, rfl⟩ := both
    unfold newBatcher at valid
    split at valid
    · cases valid
    · split at valid
      · cases valid
      · cases valid
        refine ⟨rfl, nofun, [], [], rfl, rfl, fun _ => rfl, Nat.zero_le _, ?_, .nil, nofun⟩
        rintro left (inside | inPreRun) <;> contradiction
  obtain ⟨same, -, past, current, orderly⟩ := inv
  refine ⟨same, ?_, ⟨past, current, orderly⟩, orderly.bounded, fun left draining => ?_, fun after taken => ?_⟩
  · rw [orderly.executed]
    exact orderly.accepted
  · have filled := orderly.filled (left + 1) (.inl (by rw [draining]; rfl))
    cases queued : state.1.itemsCh with
    | nil =>
      rw [queued] at filled
      cases filled
    | cons item items => exact ⟨item, items, rfl⟩
  · simp only [Batcher.next?] at taken
    split at taken
    · cases taken
      rfl
    · cases taken

/-- Three items are pushed to a queue for two, the second while the callback of the first batch runs. -/
def threePushes : List (BatcherStep String) :=
  [.start, .push "first", .tick, .push "second", .push "third", .preRunReturns true, .tick, .preRunReturns false, .receive,
    .push "fourth", .itemReturns, .receive]

theorem runsInOrder_of_threePushes :
    ∃ made state, newBatcher String ⟨1, 2, true, true⟩ = .ok made ∧
      (batcherRuns made).run? (made, .empty) threePushes = some state ∧
      state.2.accepted = ["first", "second", "fourth"] ∧
      state.2.events = [.preRun 1 true, .preRun 2 false, .run 2 "first", .run 2 "second"] ∧
      state.1.cfg = ⟨1, 2, true, true⟩ ∧ RunsInOrder state.1 state.2 := by
  let made : Batcher String := { cfg := ⟨1, 2, true, true⟩, itemsCh := [], stopCh := false, batches := 0, loop := .notStarted }
  have valid : newBatcher String ⟨1, 2, true, true⟩ = .ok made := by decide
  have ended : ((batcherRuns made).run? (made, .empty) threePushes).any (fun state =>
      state.2.accepted = ["first", "second", "fourth"] ∧
        state.2.events = [.preRun 1 true, .preRun 2 false, .run 2 "first", .run 2 "second"]) = true := by decide +kernel
  obtain ⟨state, ran, facts⟩ := (Option.any_eq_true _ _).mp ended
  obtain ⟨accepted, events⟩ := of_decide_eq_true facts
  have start : (batcherRuns made).Reachable (made, .empty) := .init ⟨rfl, rfl⟩
  obtain ⟨cfg, inOrder⟩ := runsInOrder_of_reachable _ made valid state (start.run ran)
  exact ⟨made, state, valid, ran, accepted, events, cfg, inOrder⟩

end Calls.Batching
