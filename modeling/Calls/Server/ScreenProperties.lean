import Calls.Server.Screen
import Calls.Server.SyncedCalls

/-! What a message about a screen does to the store, and what a step of the
readers does. -/

set_option autoImplicit false

namespace Calls

open Command

def Call.sharer (call : Call) : String := call.props.screenSharingSessionID

theorem Call.toggleScreen_identity {now : Instant} {sessionID : String} {call toggled : Call} {msg : ScreenMessage}
    (accepted : call.toggleScreen now sessionID msg = .ok toggled) :
    toggled.identity = call.identity ∧ toggled.endAt = call.endAt := by
  cases msg with
  | on =>
    simp only [toggleScreen] at accepted
    split at accepted
    · cases accepted
    · cases accepted; exact ⟨rfl, rfl⟩
  | off =>
    simp only [toggleScreen] at accepted
    split at accepted
    · cases accepted
    · split at accepted <;> cases accepted <;> exact ⟨rfl, rfl⟩

/-- The message is accepted and the call saved with the screen toggled. -/
structure Toggles (env : Env) (us : UserSession) (msg : ScreenMessage) (before : Store) (cs : CallState)
    (toggled : Call) : Prop where
  allowed : env.config.allowScreenSharing = some true
  loads : before.Loads us.channelID (some cs)
  serves : env.Serves us.channelID cs.call.id
  accepted : cs.call.toggleScreen env.now us.originalConnID msg = .ok toggled
  valid : toggled.isValid = .ok ()
  saves : env.faults (.updateCall toggled.id) = false

/-- Everything a message about a screen can do to the store. -/
inductive ScreenEffect (env : Env) (us : UserSession) (msg : ScreenMessage) (before : Store) :
    Except String Unit → Store → Prop where
  | refused {err : String} : ScreenEffect env us msg before (.error err) before
  | toggled {result : Except String Unit} {cs : CallState} {toggled : Call} :
      Toggles env us msg before cs toggled → ScreenEffect env us msg before result (before.saveCall toggled)

theorem handleClientMessageTypeScreen_spec (env : Env) (us : UserSession) (msg : ScreenMessage) (handlerID : String)
    (before : World) :
    (handleClientMessageTypeScreen env us msg handlerID).wp
      (fun result after => ScreenEffect env us msg before.store result after.store) before := by
  unfold handleClientMessageTypeScreen
  rw [wp_ite]
  constructor
  · exact fun _ => .refused
  · intro allowed
    rw [wp_bind, wp_mapError]
    refine wp_mono (lockCallReturnState_spec env us.channelID before) ?_
    intro result world effect
    obtain ⟨rfl, ⟨⟨err, rfl⟩, -⟩ | ⟨state, rfl, loads, serves⟩⟩ := effect
    · exact .refused
    · cases state with
      | none => exact .refused
      | some cs =>
        dsimp only [Except.mapError]
        rw [andThen_ok]
        dsimp only
        cases accepted : cs.call.toggleScreen env.now us.originalConnID msg with
        | error err => exact .refused
        | ok toggled =>
          dsimp only
          rw [wp_bind, wp_mapError, Handler.onStore, wp_zoom]
          refine Store.wp_updateCall (fun err => .refused) fun valid saves => ?_
          have toggles : Toggles env us msg world.store cs toggled :=
            ⟨by simpa using allowed, loads, serves cs rfl, accepted, valid, saves⟩
          dsimp only [Except.mapError]
          rw [andThen_ok, wp_bind, wp_throwIf]
          exact ⟨fun _ => .toggled toggles, fun _ => .toggled toggles⟩

/-- A message to an ongoing call that accepts it succeeds where nothing fails. -/
theorem handleClientMessageTypeScreen_ok {env : Env} {us : UserSession} {msg : ScreenMessage} {handlerID : String}
    {world : World} {cs : CallState} {toggled : Call} (works : env.StoreWorks) (locks : env.lockFails = false)
    (allowed : env.config.allowScreenSharing = some true) (sends : env.clusterSendFails = false)
    (loads : world.store.Loads us.channelID (some cs))
    (accepted : cs.call.toggleScreen env.now us.originalConnID msg = .ok toggled)
    (valid : toggled.isValid = .ok ()) :
    (handleClientMessageTypeScreen env us msg handlerID world).1 = .ok () := by
  have locked := lockCallReturnState_spec env us.channelID world
  unfold handleClientMessageTypeScreen
  rw [if_neg (by simp [allowed])]
  change (Command.wp _ (fun result _ => result = .ok ()) world)
  rw [wp_bind, wp_mapError]
  refine wp_mono locked ?_
  intro result after effect
  obtain ⟨rfl, ⟨⟨err, rfl⟩, broken⟩ | ⟨state, rfl, found, -⟩⟩ := effect
  · exact absurd ⟨works, locks⟩ broken
  · have same : state = some cs := Store.Loads.unique found loads
    subst same
    dsimp only [Except.mapError]
    rw [andThen_ok]
    dsimp only
    rw [accepted]
    dsimp only
    rw [wp_bind, wp_mapError, Handler.onStore, wp_zoom, wp, Store.updateCall_run valid (works _)]
    dsimp only [Except.mapError]
    rw [andThen_ok, wp_bind, wp_throwIf]
    exact ⟨fun fails => absurd fails.2 (by simp [sends]), fun _ => rfl⟩

/-! ### The steps of the readers -/

namespace Readers

/-- Everything a step can do. -/
inductive Effect (readers : Readers) : ReaderStep → Readers → Prop where
  | operation {step : OperationStep} {ops : Operations} :
      readers.ops.Effect step ops →
      Effect readers (.operation step)
        { readers with
          ops
          sessions := readers.sessions ++ started step.channelID readers.ops.world.store ops.world.store }
  | posted {us : UserSession} {msg : ScreenMessage} :
      us ∈ readers.sessions → Effect readers (.post us msg) { readers with queued := readers.queued ++ [(us, msg)] }
  | read {env : Env} {us : UserSession} {msg : ScreenMessage} {handlerID : String} {world : World}
      {result : Except String Unit} :
      (us, msg) ∈ readers.queued → readers.ops.held.contains us.channelID = false →
      ScreenEffect env us msg readers.ops.world.store result world.store →
      Effect readers (.read env us msg handlerID)
        { readers with ops := { readers.ops with world }, queued := readers.queued.eraseP (·.1 = us) }

theorem next?_effect {readers after : Readers} {step : ReaderStep} (taken : readers.next? step = some after) :
    readers.Effect step after := by
  cases step with
  | operation step =>
    obtain ⟨ops, moved, rfl⟩ := Option.map_eq_some_iff.mp taken
    exact .operation (Operations.next?_effect moved)
  | post us msg =>
    simp only [next?] at taken
    split at taken
    · next known => cases taken; exact .posted known
    · cases taken
  | read env us msg handlerID =>
    simp only [next?] at taken
    split at taken
    · next ready =>
      cases taken
      exact .read (List.mem_of_find?_eq_some ready.1) ready.2 (handleClientMessageTypeScreen_spec env us msg handlerID readers.ops.world)
    · cases taken

/-- The sessions that readers run for have IDs. -/
structure Named (readers : Readers) : Prop where
  sessions : ∀ us ∈ readers.sessions, us.originalConnID ≠ ""
  queued : ∀ entry ∈ readers.queued, entry.1.originalConnID ≠ ""

theorem Named.step {before after : Readers} {step : ReaderStep} (named : before.Named)
    (effect : before.Effect step after) : after.Named := by
  cases effect with
  | operation effect =>
    refine ⟨fun us listed => ?_, named.queued⟩
    rcases List.mem_append.mp listed with old | new
    · exact named.sessions us old
    · obtain ⟨session, found, rfl⟩ := List.mem_map.mp new
      obtain ⟨stored, fresh⟩ := List.mem_filter.mp found
      rcases effect.sessions_from session stored with old | ⟨env, channelID, req, -, named, -⟩
      · exact absurd old (of_decide_eq_true fresh)
      · exact named ▸ req.connID_ne
  | posted known =>
    refine ⟨named.sessions, fun entry listed => ?_⟩
    rcases List.mem_append.mp listed with old | new
    · exact named.queued entry old
    · rw [List.mem_singleton.mp new]
      exact named.sessions _ known
  | read queued free effect => exact ⟨named.sessions, fun entry listed => named.queued entry (List.mem_of_mem_eraseP listed)⟩

end Readers

/-- The row is that of a call whose screen the message toggled. -/
def ToggledBy {τ : Type} (view : Call → τ) (env : Env) (us : UserSession) (msg : ScreenMessage) (store : Store)
    (previous row : Call) : Prop :=
  ∃ cs toggled, Toggles env us msg store cs toggled ∧ view cs.call = view previous ∧ row.SameButPeople toggled

/-- How a step changes the rows of the calls. -/
def Readers.change {τ : Type} (view : Call → τ) (readers : Readers) : ReaderStep → Call → Call → Prop
  | .operation step => readers.ops.change view step
  | .post _ _ => fun _ _ => False
  | .read env us msg _ => ToggledBy view env us msg readers.ops.world.store

section
variable {τ : Type} {view : Call → τ} {env : Env} {us : UserSession} {msg : ScreenMessage}

/-- A message works on the row itself: the lock of its channel is free, so that
no batch holds the call. -/
theorem SyncedInvariant.read {ops : Operations} {world : World} {result : Except String Unit}
    (inv : SyncedInvariant view ops) (free : ops.held.contains us.channelID = false)
    (effect : ScreenEffect env us msg ops.world.store result world.store) :
    SyncedInvariant view { ops with world } ∧
      CallsEvolve view (ToggledBy view env us msg ops.world.store) ops.world.store.calls world.store.calls := by
  generalize after : world.store = store at effect
  cases effect with
  | refused => exact ⟨⟨by rw [after]; exact inv.valid, by rw [after]; exact inv.jobs, by rw [after]; exact inv.held⟩, .refl _⟩
  | @toggled _ cs toggled toggles =>
    have base : cs.Synced view ops.world.store us.channelID := toggles.loads.synced inv.valid inv.jobs cs rfl
    have saved := base.save (Call.toggleScreen_identity toggles.accepted).1 rfl
    refine ⟨⟨?_, ?_, ?_⟩, saved.evolve.mono ?_⟩
    · rw [after]
      exact inv.valid.save toggles.valid rfl
    · rw [after]
      exact inv.jobs
    · intro channelID batch held found loaded
      rw [after]
      have elsewhere : channelID ≠ us.channelID := StringMap.ne_of_not_contains free found
      exact (inv.held channelID batch held found loaded).frame elsewhere ⟨saved.elsewhere, fun _ _ _ _ _ => Iff.rfl⟩
    · intro previous row ⟨ofBase, same⟩
      exact .inr ⟨cs, toggled, toggles, ofBase.symm, same⟩

/-- Every store operation of the step succeeds, inserts of taken keys apart. -/
def OnWorkingReaders (_ : Readers) (step : ReaderStep) : Prop := ∀ env, step.env? = some env → env.StoreWorks

theorem SyncedInvariant.readerStep (blind : PeopleBlind view) {before after : Readers} {step : ReaderStep}
    (inv : SyncedInvariant view before.ops) (works : OnWorkingReaders before step) (effect : before.Effect step after) :
    SyncedInvariant view after.ops ∧
      CallsEvolve view (before.change view step) before.ops.world.store.calls after.ops.world.store.calls := by
  cases effect with
  | operation effect => exact inv.step blind works effect
  | posted known => exact ⟨inv, .refl _⟩
  | read queued free effect => exact inv.read free effect

end

end Calls
