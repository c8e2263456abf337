import Calls.Server.RecordedItems

/-! The recording of every ongoing call is the one its participants were last told of:
what a step on one channel has to leave behind for that, and that joins and leaves do. -/

set_option autoImplicit false

namespace Calls

open LockedHandler Command

/-- What is kept of the jobs and the events between the steps. -/
structure ToldWorld (world : World) : Prop where
  consistent : CallsConsistent world.store.calls
  named : ∀ session ∈ world.store.sessions, session.userID ≠ ""
  channels : ∀ row ∈ world.store.calls, row.channelID ≠ ""
  owned : ∀ callID, world.store.calls.contains callID = false → world.store.jobsOf callID = []
  fine : ∀ callID, CallJobsFine (world.store.jobsOf callID)
  told : ∀ row ∈ world.store.calls, row.endAt = 0 → RecordingTold row.channelID (world.store.jobsOf row.id) world

/-- A batch that still has a call to write to holds the jobs of its call. -/
structure ToldInvariant (ops : Operations) : Prop where
  world : ToldWorld ops.world
  tracks : ∀ channelID batch cs, ops.held.get? channelID = some batch → batch.state = some cs → batch.Live cs →
    Tracks ops.world.store.calls channelID cs.call
  jobs : ∀ channelID batch cs, ops.held.get? channelID = some batch → batch.state = some cs → batch.Live cs →
    HeldJobs batch.kind cs (ops.world.store.jobsOf cs.call.id)

/-- What a step on one channel leaves behind: the jobs of its call only may be others, and
the participants of that call only may have been told something. -/
structure StepTells (channelID : String) (before after : World) : Prop where
  consistent : CallsConsistent after.store.calls
  changes : ChangesChannel channelID before.store.calls after.store.calls
  rows : RowsKept before.store.calls after.store.calls
  named : ∀ session ∈ after.store.sessions, session.userID ≠ ""
  jobs : ∀ callID, after.store.jobsOf callID = before.store.jobsOf callID ∨
    (∃ row ∈ before.store.calls, row.id = callID ∧ row.channelID = channelID) ∧ CallJobsFine (after.store.jobsOf callID)
  elsewhere : ∀ other, other ≠ channelID → after.toldPhase other = before.toldPhase other
  told : ∀ row ∈ before.store.calls, row.endAt = 0 → row.channelID = channelID →
    RecordingTold channelID (after.store.jobsOf row.id) after

namespace StepTells

variable {channelID : String} {before after : World}

/-- The jobs of the calls of other channels are as before. -/
theorem jobsOf_other (tells : StepTells channelID before after) {row : Call} (member : row ∈ before.store.calls)
    (elsewhere : row.channelID ≠ channelID) : after.store.jobsOf row.id = before.store.jobsOf row.id := by
  rcases tells.jobs row.id with same | ⟨⟨own, ownMember, named, channel⟩, -⟩
  · exact same
  · rw [KeyedTable.eq_of_key_eq ownMember member named] at channel
    exact absurd channel elsewhere

/-- So are those of a call that is not in the store yet. -/
theorem jobsOf_absent (tells : StepTells channelID before after) {callID : String}
    (absent : before.store.calls.contains callID = false) : after.store.jobsOf callID = before.store.jobsOf callID := by
  rcases tells.jobs callID with same | ⟨⟨own, ownMember, named, -⟩, -⟩
  · exact same
  · exact absurd named (KeyedTable.contains_eq_false_iff.mp absent own ownMember)

theorem world (tells : StepTells channelID before after) (world : ToldWorld before) : ToldWorld after where
  consistent := tells.consistent
  named := tells.named
  channels := by
    intro row member
    rcases tells.rows.rows row member with ⟨previous, old, -, channel, -⟩ | ⟨-, named⟩
    · rw [channel]
      exact world.channels previous old
    · exact named
  owned := by
    intro callID absent
    have absent := tells.rows.absent absent
    rw [tells.jobsOf_absent absent]
    exact world.owned callID absent
  fine := by
    intro callID
    rcases tells.jobs callID with same | ⟨-, fine⟩
    · rw [same]
      exact world.fine callID
    · exact fine
  told := by
    intro row member ongoing
    rcases tells.rows.rows row member with ⟨previous, old, same, channel, wasOngoing⟩ | ⟨absent, -⟩
    · rw [same, channel]
      by_cases here : previous.channelID = channelID
      · rw [here]
        exact tells.told previous old (wasOngoing ongoing) here
      · unfold RecordingTold
        rw [tells.jobsOf_other old here, tells.elsewhere _ here]
        exact world.told previous old (wasOngoing ongoing)
    · -- The call is new: it has no jobs.
      unfold RecordingTold
      rw [tells.jobsOf_absent absent, world.owned row.id absent]
      exact fun phase none => by cases none

end StepTells

namespace ToldInvariant

variable {ops : Operations} {channelID : String} {world : World}

/-- The batches of other channels are left as they are. -/
theorem elsewhere (inv : ToldInvariant ops) (tells : StepTells channelID ops.world world) {other : String} {batch : Batch}
    {cs : CallState} (different : other ≠ channelID) (found : ops.held.get? other = some batch) (loaded : batch.state = some cs)
    (live : batch.Live cs) :
    Tracks world.store.calls other cs.call ∧ HeldJobs batch.kind cs (world.store.jobsOf cs.call.id) := by
  have tracks := inv.tracks other batch cs found loaded live
  refine ⟨tracks.frame different tells.changes, ?_⟩
  obtain ⟨row, member, named, channel, -⟩ := tracks.row
  have same := tells.jobsOf_other member (by rwa [channel])
  rw [named] at same
  rw [same]
  exact inv.jobs other batch cs found loaded live

theorem hold (inv : ToldInvariant ops) {kind : BatchKind} {next : Option CallState} (tells : StepTells channelID ops.world world)
    (tracks : ∀ cs, next = some cs → Batch.Live ⟨kind, next⟩ cs → Tracks world.store.calls channelID cs.call)
    (jobs : ∀ cs, next = some cs → Batch.Live ⟨kind, next⟩ cs → HeldJobs kind cs (world.store.jobsOf cs.call.id)) :
    ToldInvariant (ops.holdBatch channelID kind next world) := by
  have each : ∀ other batch cs, (ops.holdBatch channelID kind next world).held.get? other = some batch →
      batch.state = some cs → batch.Live cs → Tracks world.store.calls other cs.call ∧ HeldJobs batch.kind cs (world.store.jobsOf cs.call.id) := by
    intro other batch cs found loaded live
    rcases Operations.holdBatch_cases found with ⟨here, rfl⟩ | ⟨elsewhere, found⟩
    · rw [here]
      exact ⟨tracks cs loaded live, jobs cs loaded live⟩
    · exact inv.elsewhere tells elsewhere found loaded live
  exact ⟨tells.world inv.world, fun other batch cs found loaded live => (each other batch cs found loaded live).1,
    fun other batch cs found loaded live => (each other batch cs found loaded live).2⟩

/-- A request on a channel that no batch is running on. -/
theorem request (inv : ToldInvariant ops) (free : ops.held.contains channelID = false)
    (tells : StepTells channelID ops.world world) : ToldInvariant { ops with world } := by
  have apart {other : String} {batch : Batch} (found : ops.held.get? other = some batch) : other ≠ channelID := by
    intro same
    obtain rfl := same
    rw [StringMap.contains_eq_isSome, found] at free
    cases free
  exact ⟨tells.world inv.world,
    fun other batch cs found loaded live => (inv.elsewhere tells (apart found) found loaded live).1,
    fun other batch cs found loaded live => (inv.elsewhere tells (apart found) found loaded live).2⟩

end ToldInvariant

/-! ### Loaded states -/

section
variable {store : Store} {channelID : String} {cs : CallState}

/-- The row that a job in the table without bots is that of. -/
theorem Store.latestRecording_of_mem {callID : String} {job : CallJob} (member : job.withBot "" ∈ store.jobsOf callID)
    (latest : (latestRecording (store.jobsOf callID)).map CallJob.id = some job.id) :
    latestRecording (store.jobsOf callID) = some (job.withBot "") := by
  obtain ⟨row, found, named⟩ := Option.map_eq_some_iff.mp latest
  obtain ⟨own, ownMember, -, ownSame⟩ := Store.mem_jobsOf.mp member
  obtain ⟨other, otherMember, -, otherSame⟩ := Store.mem_jobsOf.mp (List.mem_filter.mp (List.mem_of_getLast? found)).1
  have sameID : other.id = own.id := by
    have otherID : (other.withBot "").id = row.id := congrArg CallJob.id otherSame
    exact otherID.trans (named.trans (CallJob.id_of_withBot ownSame).symm)
  rw [found, ← otherSame, KeyedTable.eq_of_key_eq otherMember ownMember sameID, ownSame]

theorem HeldJobs.of_exact {kind : BatchKind} {callID : String}
    (exact : ∀ type job, cs.job? type = some job → job.type = type ∧ job.callID = cs.call.id ∧ job.withBot "" ∈ store.jobsOf callID)
    (latest : ∀ job, cs.recording = some job → (latestRecording (store.jobsOf callID)).map CallJob.id = some job.id)
    (people : ∀ session ∈ cs.sessions, session.userID ≠ "") : HeldJobs kind cs (store.jobsOf callID) where
  listed type job held :=
    ⟨(exact type job held).1, (exact type job held).2.1, job.withBot "", (exact type job held).2.2, rfl⟩
  latest := latest
  inStep := by
    intro job held _
    rw [Store.latestRecording_of_mem (exact .recording job held).2.2 (latest job held)]
    rfl
  exact _ type job held := (exact type job held).2.2
  people := people

/-- The jobs of a state that has just been loaded are those that have not ended. -/
theorem Store.Loads.freshJobs {world : World} (loads : world.store.Loads channelID (some cs)) : FreshJobs ⟨world, cs⟩ := by
  intro type job held
  have found := loads.2.2 type
  rw [show cs.job? type = some job from held] at found
  obtain ⟨member, -, unended, -⟩ := Store.activeCallJobs_eq_some found.symm
  exact ⟨member, unended⟩

theorem Store.Loads.heldJobs {kind : BatchKind} (loads : store.Loads channelID (some cs))
    (fine : CallJobsFine (store.jobsOf cs.call.id)) (named : ∀ session ∈ store.sessions, session.userID ≠ "") :
    HeldJobs kind cs (store.jobsOf cs.call.id) := by
  have rows : ∀ type job, cs.job? type = some job →
      job.type = type ∧ job.callID = cs.call.id ∧ job.endAt = 0 ∧ job.withBot "" ∈ store.jobsOf cs.call.id := by
    intro type job held
    have found := loads.2.2 type
    rw [held] at found
    obtain ⟨member, ofCall, unended, typed⟩ := Store.activeCallJobs_eq_some found.symm
    exact ⟨typed, ofCall, unended, Store.mem_jobsOf.mpr ⟨job, member, ofCall, rfl⟩⟩
  refine .of_exact (fun type job held => ?_) (fun job held => ?_) fun session member => ?_
  · obtain ⟨typed, ofCall, -, listed⟩ := rows type job held
    exact ⟨typed, ofCall, listed⟩
  · obtain ⟨typed, -, unended, listed⟩ := rows .recording job held
    exact fine.single (job.withBot "") listed typed unended
  · rw [loads.2.1] at member
    exact named session (Store.mem_callSessions.mp member).1

theorem Store.Loads.row (loads : store.Loads channelID (some cs)) :
    cs.call ∈ store.calls ∧ cs.call.channelID = channelID ∧ cs.call.endAt = 0 := by
  obtain ⟨member, channel, active⟩ := Store.activeCall?_eq_some loads.1
  simp only [Store.isActive, decide_eq_true_eq] at active
  exact ⟨member, channel, active.1⟩

theorem Store.Loads.tracks (loads : store.Loads channelID (some cs)) (consistent : CallsConsistent store.calls) :
    Tracks store.calls channelID cs.call := by
  obtain ⟨member, channel, ongoing⟩ := loads.row
  exact ⟨ongoing, (consistent.written _ member).2, cs.call, member, rfl, channel, ongoing⟩

end

/-! ### Joins and leaves -/

section
variable {env : Env} {channelID : String} {before after : World}

theorem StepTells.refl (world : ToldWorld before) : StepTells channelID before before where
  consistent := world.consistent
  changes := .refl _ _
  rows := .refl _
  named := world.named
  jobs _ := .inl rfl
  elsewhere _ _ := rfl
  told := fun row member ongoing here => here ▸ world.told row member ongoing

/-- The call that a batch has in memory is the ongoing one of its channel. -/
theorem ToldWorld.current (world : ToldWorld before) {call row : Call} (tracks : Tracks before.store.calls channelID call)
    (member : row ∈ before.store.calls) (ongoing : row.endAt = 0) (here : row.channelID = channelID) : row.id = call.id := by
  obtain ⟨own, ownMember, named, channel, ownOngoing⟩ := tracks.row
  rw [world.consistent.single row member own ownMember (here.trans channel.symm) ongoing ownOngoing, named]

theorem ToldWorld.channel (world : ToldWorld before) {call : Call} (tracks : Tracks before.store.calls channelID call) :
    channelID ≠ "" := by
  obtain ⟨row, member, -, channel, -⟩ := tracks.row
  rw [← channel]
  exact world.channels row member

/-- A handler that tells the row of the recording, on a state that the store agrees with. -/
theorem Sees.stepTells {cs : CallState} {view : RecordingView} {locked : LockedCall} (world : ToldWorld before)
    (tracks : Tracks before.store.calls channelID cs.call) (sees : Sees channelID ⟨before, cs⟩ view locked) (shown : view.Shown)
    (consistent : CallsConsistent locked.world.store.calls)
    (changes : ChangesChannel channelID before.store.calls locked.world.store.calls)
    (rows : RowsKept before.store.calls locked.world.store.calls)
    (named : ∀ session ∈ locked.world.store.sessions, session.userID ≠ "") : StepTells channelID before locked.world where
  consistent := consistent
  changes := changes
  rows := rows
  named := named
  jobs := by
    intro callID
    by_cases here : callID = cs.call.id
    · subst here
      obtain ⟨row, member, named, channel, -⟩ := tracks.row
      exact .inr ⟨⟨row, member, named, channel⟩, sees.fine (world.fine _)⟩
    · exact .inl (sees.jobsOf_other here)
  elsewhere := sees.elsewhere
  told := by
    intro row member ongoing here
    rw [world.current tracks member ongoing here]
    exact sees.told shown

/-- The item of a join. -/
theorem StepTells.joined {req : JoinRequest} {state next : Option CallState} (world : ToldWorld before)
    (tracks : ∀ cs, state = some cs → Tracks before.store.calls channelID cs.call)
    (held : ∀ cs, state = some cs → HeldJobs .joining cs (before.store.jobsOf cs.call.id))
    (kept : ItemKeeps channelID before.store.calls after.store.calls next fun _ => True)
    (rows : RowsKept before.store.calls after.store.calls)
    (sessions : ∀ session ∈ after.store.sessions, session ∈ before.store.sessions ∨
      (session.id = req.connID ∧ session.userID = req.userID))
    (tells : JoinTells channelID state before after) : StepTells channelID before after where
  consistent := kept.consistent
  changes := kept.changes
  rows := rows
  named := by
    intro session member
    rcases sessions session member with old | ⟨-, named⟩
    · exact world.named session old
    · rw [named]
      exact req.userID_ne
  jobs callID := .inl (by rw [Store.jobsOf_eq, Store.jobsOf_eq, tells.jobs])
  elsewhere := tells.elsewhere
  told := by
    intro row member ongoing here
    unfold RecordingTold
    rw [Store.jobsOf_eq, tells.jobs, ← Store.jobsOf_eq]
    rcases tells.told with same | ⟨recState, found, told⟩
    · rw [same, ← here]
      exact world.told row member ongoing
    · obtain ⟨cs, loaded, recording⟩ := Option.bind_eq_some_iff.mp found
      have heldJobs := held cs loaded
      rw [world.current (tracks cs loaded) member ongoing here, told,
        Store.latestRecording_of_mem (heldJobs.exact rfl .recording recState recording) (heldJobs.latest recState recording)]
      exact fun phase same => same

/-- A job that the item of a join hands on is one of the state before it. -/
theorem CallState.JobsFrom.held {cs : CallState} {state : Option CallState} {store : Store} (origin : cs.JobsFrom state)
    (handed : HandedOn store state cs) {type : JobType} {job : CallJob} (found : cs.job? type = some job) :
    ∃ base own, state = some base ∧ base.job? type = some own ∧ job.withBot "" = own.withBot "" ∧ base.call.id = cs.call.id := by
  have same := origin type
  rw [found, Option.map_some] at same
  obtain ⟨own, ownFound, equal⟩ := Option.map_eq_some_iff.mp same.symm
  obtain ⟨base, started, ownHeld⟩ := Option.bind_eq_some_iff.mp ownFound
  rcases handed with ⟨other, otherStarted, named⟩ | ⟨none, -⟩
  · cases started.symm.trans otherStarted
    exact ⟨base, own, started, ownHeld, equal.symm, named.symm⟩
  · rw [none] at started
    cases started

/-- The state that the item of a join hands on has the jobs of the state before it. -/
theorem HeldJobs.joined {req : JoinRequest} {state next : Option CallState} {cs : CallState} (loaded : next = some cs)
    (held : ∀ cs, state = some cs → HeldJobs .joining cs (before.store.jobsOf cs.call.id))
    (effect : AddEffect env channelID state req before.store next after.store) (origin : cs.JobsFrom state)
    (tells : JoinTells channelID state before after) : HeldJobs .joining cs (after.store.jobsOf cs.call.id) := by
  rw [Store.jobsOf_eq, tells.jobs, ← Store.jobsOf_eq]
  refine .of_exact (fun type job found => ?_) (fun job found => ?_) (effect.named (fun base started => (held base started).people) cs loaded)
  · obtain ⟨base, own, started, ownHeld, same, named⟩ := origin.held (effect.handedOn cs loaded) found
    obtain ⟨typed, ofCall, -⟩ := (held base started).listed type own ownHeld
    have listed := (held base started).exact rfl type own ownHeld
    have fields := same
    simp only [CallJob.withBot, CallJob.mk.injEq] at fields
    rw [named] at ofCall listed
    rw [same]
    exact ⟨fields.2.2.1.trans typed, fields.2.1.trans ofCall, listed⟩
  · have recording : cs.job? .recording = some job := found
    obtain ⟨base, own, started, ownHeld, same, named⟩ := origin.held (effect.handedOn cs loaded) recording
    rw [← named, (held base started).latest own ownHeld, CallJob.id_of_withBot same]

end

namespace Operations

variable {ops after : Operations} {env : Env} {channelID : String}

/-- The item of a join, with what it does to the jobs. -/
theorem join_eq_some {req : JoinRequest} (taken : ops.next? (.join env channelID req) = some after) :
    ∃ state next world, ops.batch? channelID .joining = some state ∧
      AddEffect env channelID state req ops.world.store next world.store ∧
      ((∀ cs, state = some cs → cs.JobsStored ops.world.store.jobsApartFromBots) →
        JoinTells channelID state ops.world world ∧ ∀ cs, next = some cs → cs.JobsFrom state) ∧
      after = ops.holdBatch channelID .joining next world := by
  have spec (state : Option CallState) : (addSessionToCall env channelID state req).wp (fun result world =>
      ∃ next, result = .ok next ∧ AddEffect env channelID state req ops.world.store next world.store ∧
        ((∀ cs, state = some cs → cs.JobsStored ops.world.store.jobsApartFromBots) →
          JoinTells channelID state ops.world world ∧ ∀ cs, next = some cs → cs.JobsFrom state)) ops.world := by
    obtain ⟨next, returned, effect⟩ := addSessionToCall_spec env channelID state req ops.world
    refine ⟨next, returned, effect, fun stored => ?_⟩
    obtain ⟨tells, origin⟩ := addSessionToCall_jobs stored
    exact ⟨tells, fun cs loaded => origin next cs returned loaded⟩
  obtain ⟨state, next, world, running, ⟨effect, jobs⟩, rfl⟩ := runItem_eq_some spec taken
  exact ⟨state, next, world, running, effect, jobs, rfl⟩

/-- The item of a leave, with the removal it runs. -/
theorem leave_eq_some {ref : SessionRef} (taken : ops.next? (.leave env channelID ref) = some after) :
    ∃ state next world, ops.batch? channelID .leaving = some state ∧ LeaveEffect env ref ops.world state next world ∧
      (∀ cs, state = some cs → ∃ left, (removeUserSession env channelID ref ⟨ops.world, cs⟩).2 = left ∧
        next = some left.state ∧ world = left.world) ∧
      after = ops.holdBatch channelID .leaving next world := by
  have spec (state : Option CallState) : (removeSessionFromCall env channelID state ref).wp (fun result world =>
      ∃ next, result = .ok next ∧ LeaveEffect env ref ops.world state next world ∧ ∀ cs, state = some cs →
        ∃ left, (removeUserSession env channelID ref ⟨ops.world, cs⟩).2 = left ∧ next = some left.state ∧ world = left.world)
      ops.world := by
    obtain ⟨next, returned, effect⟩ := removeSessionFromCall_spec env channelID state ref ops.world
    refine ⟨next, returned, effect, fun cs loaded => ?_⟩
    subst loaded
    cases returned
    exact ⟨_, rfl, rfl, rfl⟩
  obtain ⟨state, next, world, running, ⟨effect, removal⟩, rfl⟩ := runItem_eq_some spec taken
  exact ⟨state, next, world, running, effect, removal, rfl⟩

end Operations

namespace ToldInvariant

variable {ops after : Operations} {env : Env} {channelID : String}

theorem locked (inv : ToldInvariant ops) {kind : BatchKind} {state : Option CallState}
    (loads : ops.world.store.Loads channelID state) : ToldInvariant (ops.holdBatch channelID kind state ops.world) := by
  refine inv.hold (.refl inv.world) (fun cs loaded _ => ?_) fun cs loaded _ => ?_
  · subst loaded
    exact loads.tracks inv.world.consistent
  · subst loaded
    exact loads.heldJobs (inv.world.fine _) inv.world.named

theorem joined (inv : ToldInvariant ops) {req : JoinRequest} (knowingly : OpensKnowingly ops (.join env channelID req))
    (taken : ops.next? (.join env channelID req) = some after) : ToldInvariant after := by
  obtain ⟨state, next, world, running, effect, jobs, rfl⟩ := Operations.join_eq_some taken
  have found := Operations.batch?_eq_some running
  have tracks : ∀ cs, state = some cs → Tracks ops.world.store.calls channelID cs.call := fun cs loaded =>
    inv.tracks channelID _ cs found loaded (.inl rfl)
  have held : ∀ cs, state = some cs → HeldJobs .joining cs (ops.world.store.jobsOf cs.call.id) := fun cs loaded =>
    inv.jobs channelID _ cs found loaded (.inl rfl)
  have free : state = none → StartsCall env channelID req ops.world.store → FindsNoCall ops.world.store.calls channelID :=
    fun none starts => knowingly (by rw [running, none]) starts
  obtain ⟨tells, origin⟩ := jobs fun cs loaded type job jobHeld => by
    have listed := (held cs loaded).exact rfl type job jobHeld
    rw [Store.jobsOf_eq] at listed
    exact (List.mem_filter.mp listed).1
  have kept := effect.keeps inv.world.consistent tracks free
  have step := StepTells.joined inv.world tracks held kept (effect.rowsKept inv.world.consistent tracks free)
    effect.sessions_from tells
  refine inv.hold step (fun cs loaded _ => kept.tracks cs loaded trivial) fun cs loaded _ => ?_
  exact .joined loaded held effect (origin cs loaded) tells

theorem left (inv : ToldInvariant ops) {ref : SessionRef} (taken : ops.next? (.leave env channelID ref) = some after) :
    ToldInvariant after := by
  obtain ⟨state, next, world, running, effect, removal, rfl⟩ := Operations.leave_eq_some taken
  have found := Operations.batch?_eq_some running
  have tracks : ∀ cs, state = some cs → cs.sessions.size ≠ 0 → Tracks ops.world.store.calls channelID cs.call :=
    fun cs loaded filled => inv.tracks channelID _ cs found loaded (.inr filled)
  have kept := effect.keeps inv.world.consistent tracks
  have rows := effect.rowsKept tracks
  have sessions := effect.sessions_shrink
  have live {cs : CallState} (lives : Batch.Live ⟨.leaving, next⟩ cs) : cs.sessions.size ≠ 0 :=
    lives.resolve_left fun joining => by cases joining
  cases state with
  | none =>
    cases effect
    exact inv.hold (.refl inv.world) (fun cs loaded => by cases loaded) fun cs loaded => by cases loaded
  | some cs =>
    obtain ⟨left, removed, rfl, rfl⟩ := removal cs rfl
    by_cases filled : cs.sessions.size = 0
    · -- Nobody is left in the call, and nothing is done.
      have absent : cs.sessions.contains ref.originalConnID = false := by
        refine KeyedTable.contains_eq_false_iff.mpr fun session member => ?_
        exact absurd filled (KeyedTable.size_ne_zero_of_mem member)
      obtain rfl : left = ⟨ops.world, cs⟩ := removed.symm.trans (removeUserSession_absent absent)
      refine inv.hold (.refl inv.world) (fun next loaded lives => ?_) fun next loaded lives => ?_
      · cases loaded
        exact absurd filled (live lives)
      · cases loaded
        exact absurd filled (live lives)
    · have tracked := tracks cs rfl filled
      have heldJobs := inv.jobs channelID _ cs found rfl (.inr filled)
      obtain ⟨row, member, named, channel, ongoing⟩ := tracked.row
      have told := inv.world.told row member ongoing
      rw [named, channel] at told
      have settled := heldJobs.settled told
      have stops : SeesStopped env channelID ⟨ops.world, cs⟩ _ (removeUserSession env channelID ref ⟨ops.world, cs⟩).2 :=
        removeUserSession_stops (inv.world.channel tracked) ref _ (.inl (heldJobs.sees (inv.world.fine cs.call.id)))
      rw [removed] at stops
      have seen : ∃ view, Sees channelID ⟨ops.world, cs⟩ view left ∧ view.Settled :=
        stops.elim (fun sees => ⟨_, sees, settled⟩) fun sees => ⟨_, sees, settled.stop _⟩
      obtain ⟨view, sees, settled⟩ := seen
      have step := Sees.stepTells inv.world tracked sees settled.shown kept.consistent kept.changes rows fun session member =>
        inv.world.named session (sessions session member)
      refine inv.hold step (fun next loaded lives => kept.tracks next loaded (live lives)) fun next loaded _ => ?_
      cases loaded
      exact sees.held settled

theorem step (inv : ToldInvariant ops) {label : OperationStep} (knowingly : OpensKnowingly ops label)
    (taken : ops.next? label = some after) : ToldInvariant after := by
  cases label with
  | lock env channelID kind =>
    rcases Operations.next?_effect taken with - | ⟨free, loads⟩
    · exact inv
    · exact inv.locked loads
  | join env channelID req => exact inv.joined knowingly taken
  | leave env channelID ref => exact inv.left taken
  | unlock channelID =>
    cases taken
    have others {other : String} {batch : Batch} (found : StringMap.get? (ops.held.erase channelID) other = some batch) :
        ops.held.get? other = some batch := by
      rw [StringMap.get?_erase] at found
      split at found
      · cases found
      · exact found
    exact ⟨inv.world, fun other batch cs found => inv.tracks other batch cs (others found),
      fun other batch cs found => inv.jobs other batch cs (others found)⟩

end ToldInvariant

end Calls
