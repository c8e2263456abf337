import Calls.Server.RecordedCalls

/-! What a join leaves of the jobs of calls: it ties those that start to the connection
of their bot. -/

set_option autoImplicit false

namespace Calls

open LockedHandler Command

/-- All jobs, but for the connections of their bots. -/
def Store.jobsApartFromBots (store : Store) : List CallJob := store.jobs.rows.map (·.withBot "")

theorem Store.jobsOf_eq (store : Store) (callID : String) :
    store.jobsOf callID = store.jobsApartFromBots.filter fun job => job.callID = callID := by
  have ofCall : ((fun job : CallJob => decide (job.callID = callID)) ∘ fun job : CallJob => job.withBot "") =
      fun job : CallJob => decide (job.callID = callID) := rfl
  rw [jobsOf, jobsApartFromBots, List.filter_map, ofCall]
  rfl

/-- Two states hold the same jobs, whatever their bots' connections. -/
def CallState.SameJobs (left right : CallState) : Prop :=
  ∀ type, (left.job? type).map (·.withBot "") = (right.job? type).map (·.withBot "")

theorem CallJob.updatedFrom_of_withBot {row job : CallJob} (same : row.withBot "" = job.withBot "") :
    (row.updatedFrom job).withBot "" = row.withBot "" := by
  obtain ⟨id, callID, type, creatorID, initAt, startAt, endAt, props⟩ := row
  simp only [CallJob.withBot, CallJob.mk.injEq, CallJob.updatedFrom] at same ⊢
  simp only [same, and_self]

theorem CallJob.id_of_withBot {left right : CallJob} (same : left.withBot "" = right.withBot "") : left.id = right.id := by
  have kept (job : CallJob) : job.id = (job.withBot "").id := rfl
  rw [kept, same, ← kept]

theorem Store.saveJob_jobsApartFromBots {store : Store} {job : CallJob} (stored : job.withBot "" ∈ store.jobsApartFromBots) :
    (store.saveJob job).jobsApartFromBots = store.jobsApartFromBots := by
  obtain ⟨own, member, same⟩ := List.mem_map.mp stored
  unfold jobsApartFromBots saveJob KeyedTable.modify
  rw [List.map_map]
  refine List.map_congr_left fun row rowMember => ?_
  simp only [Function.comp_apply]
  split
  · next named =>
    rw [KeyedTable.eq_of_key_eq rowMember member (named.trans (CallJob.id_of_withBot same).symm)]
    exact CallJob.updatedFrom_of_withBot same
  · rfl

section
variable {env : Env} {state next : CallState} {req : JoinRequest} {jobs : List CallJob}

theorem CallState.withJob_sameJobs {cs base : CallState} (same : cs.SameJobs base) {type : JobType} {job : CallJob}
    (held : base.job? type = some job) (connID : String) : (cs.withJob (job.withBot connID) type).SameJobs base := by
  intro other
  rw [CallState.job?_withJob]
  split
  · next here =>
    rw [here, held]
    rfl
  · exact same other

/-- The jobs that start are those of the state, under the connection of the bot. -/
theorem jobsToStart_jobs (planned : jobsToStart env state req = .ok (jobs, next)) : next.SameJobs state ∧
    ∀ job ∈ jobs, ∃ type held, state.job? type = some held ∧ job = held.withBot req.connID := by
  have same : state.SameJobs state := fun _ => rfl
  have started (type : JobType) {job : CallJob} {condition : CallJob → Bool}
      (found : (state.job? type).filter condition = some job) : state.job? type = some job := (Option.mem_filter_iff.mp found).1
  simp only [jobsToStart] at planned
  split at planned
  · cases planned
    exact ⟨same, fun job member => absurd member List.not_mem_nil⟩
  · split at planned
    · cases planned
    · split at planned
      · next found =>
        cases planned
        have held := started .recording found
        refine ⟨CallState.withJob_sameJobs same held _, fun job member => ?_⟩
        exact ⟨.recording, _, held, List.mem_singleton.mp member⟩
      · next found =>
        have held := started .transcribing found
        split at planned
        · cases planned
          refine ⟨CallState.withJob_sameJobs same held _, fun job member => ?_⟩
          exact ⟨.transcribing, _, held, List.mem_singleton.mp member⟩
        · next captions =>
          cases planned
          have lcHeld := started .captioning captions
          refine ⟨CallState.withJob_sameJobs (CallState.withJob_sameJobs same lcHeld _) held _, fun job member => ?_⟩
          rcases List.mem_cons.mp member with rfl | member
          · exact ⟨.captioning, _, lcHeld, rfl⟩
          · exact ⟨.transcribing, _, held, List.mem_singleton.mp member⟩
      · cases planned

/-- A state whose jobs are as the store has them. -/
def CallState.JobsStored (cs : CallState) (jobs : List CallJob) : Prop :=
  ∀ type job, cs.job? type = some job → job.withBot "" ∈ jobs

theorem botJoin_jobs {before : Store} (stored : state.JobsStored before.jobsApartFromBots) :
    (botJoin env state req).wp (fun result after => after.jobsApartFromBots = before.jobsApartFromBots ∧
      ∀ next, result = .ok next → next.SameJobs state) before := by
  unfold botJoin
  split
  · exact ⟨rfl, fun next returned => by cases returned⟩
  · next jobs planned plan =>
    obtain ⟨same, started⟩ := jobsToStart_jobs plan
    have saves : Maintains (fun store : Store => store.jobsApartFromBots = before.jobsApartFromBots)
        (forEach jobs fun job => (Store.updateCallJob env.faults job).mapError ("failed to update call job: " ++ ·)) := by
      refine .forEach_mem jobs fun job member => Maintains.mapError (.of_wp fun store kept => ?_)
      obtain ⟨type, held, found, rfl⟩ := started job member
      refine Store.wp_updateCallJob (fun _ => kept) fun _ _ => ?_
      have listed : (held.withBot req.connID).withBot "" ∈ before.jobsApartFromBots := stored type held found
      rw [← kept] at listed
      exact (Store.saveJob_jobsApartFromBots listed).trans kept
    refine saves.wp_bind rfl (fun _ after kept => ⟨kept, fun next returned => ?_⟩) fun _ after kept => ⟨kept, fun next returned => ?_⟩
    · cases returned
      exact same
    · cases returned

/-- Neither the jobs of a call have changed nor what was told of its recording. -/
structure JobsUntouched (before after : World) : Prop where
  jobs : after.store.jobsApartFromBots = before.store.jobsApartFromBots
  told : ∀ channelID, after.toldPhase channelID = before.toldPhase channelID

namespace JobsUntouched

variable {before : World} {channelID : String}

theorem publish {ev : WsEvent} {broadcast : WebSocketBroadcast} (silent : ∀ channelID, ev.recordingPhase? channelID = none) :
    Maintains (JobsUntouched before) (Handler.publish env ev broadcast) := fun _ untouched =>
  ⟨untouched.jobs, fun channelID => (World.toldPhase_publish (silent channelID)).trans (untouched.told channelID)⟩

theorem onStore {α : Type} {command : StoreCommand α} (keeps : Preserves Store.jobs command) :
    Maintains (JobsUntouched before) (Handler.onStore command) := fun world untouched =>
  ⟨(congrArg (fun jobs : KeyedTable CallJob.id => jobs.rows.map fun job : CallJob => job.withBot "")
    (keeps.run world.store)).trans untouched.jobs, untouched.told⟩

theorem posts (posts : World → StringMap CallPost) :
    Maintains (JobsUntouched before) (Command.modify fun world => { world with posts := posts world } : Handler Unit) :=
  fun _ untouched => ⟨untouched.jobs, untouched.told⟩

theorem updateCall (call : Call) : Preserves Store.jobs (Store.updateCall env.faults call) :=
  .of_wp fun _ => Store.wp_updateCall (fun _ => rfl) fun _ _ => rfl

theorem writeJoin (cs : CallState) (session : CallSession) : Preserves Store.jobs (Calls.writeJoin env cs session) := by
  have create : Preserves Store.jobs (Store.createCall env.faults cs.call) :=
    .of_wp fun _ => Store.wp_createCall (fun _ => rfl) fun _ _ _ _ => rfl
  have insert : Preserves Store.jobs (Store.createCallSession env.faults session) :=
    .of_wp fun _ => Store.wp_createCallSession (fun _ _ => rfl) fun _ _ => rfl
  exact (create.mapError.ite (updateCall cs.call).mapError).bind fun _ => insert.mapError

end JobsUntouched

/-- The jobs of a state are those of the one it was made from, none if there was none. -/
def CallState.JobsFrom (cs : CallState) (state : Option CallState) : Prop :=
  ∀ type, (cs.job? type).map (·.withBot "") = (state.bind (·.job? type)).map (·.withBot "")

theorem CallState.JobsFrom.stored {cs : CallState} {state : Option CallState} {jobs : List CallJob} (origin : cs.JobsFrom state)
    (stored : ∀ held, state = some held → held.JobsStored jobs) : cs.JobsStored jobs := by
  intro type job found
  have same := origin type
  rw [found, Option.map_some] at same
  obtain ⟨own, ownFound, equal⟩ := Option.map_eq_some_iff.mp same.symm
  obtain ⟨held, loaded, ownHeld⟩ := Option.bind_eq_some_iff.mp ownFound
  rw [← equal]
  exact stored held loaded type own ownHeld

theorem addUserSession_jobs {channelID : String} {start : Option CallState} {before : World}
    (stored : ∀ cs, start = some cs → cs.JobsStored before.store.jobsApartFromBots) :
    (addUserSession env channelID start req).wp (fun result after => JobsUntouched before after ∧
      ∀ joined, result = .ok joined → joined.JobsFrom start) before := by
  have refused {err : String} : JobsUntouched before before ∧ ∀ joined, (Except.error err : Except String CallState) = .ok joined →
      joined.JobsFrom start := ⟨⟨rfl, fun _ => rfl⟩, fun joined returned => by cases returned⟩
  unfold addUserSession
  cases found : stateToJoin env channelID start req with
  | error err => exact refused
  | ok base =>
    dsimp only
    cases checked : checkJoin env base req with
    | error err => exact refused
    | ok value =>
      have origin : base.JobsFrom start := by
        cases start with
        | none =>
          intro type
          rw [(stateToJoin_none found).2.2.jobs]
          rfl
        | some cs =>
          obtain rfl : cs = base := Except.ok.inj found
          exact fun _ => rfl
      dsimp only
      rw [wp_bind, Handler.onStore, wp_zoom]
      refine wp_mono (botJoin_jobs (origin.stored stored)) ?_
      intro either middle facts
      obtain ⟨jobs, same⟩ := facts
      rcases either with err | next
      · exact ⟨⟨jobs, fun _ => rfl⟩, fun joined returned => by cases returned⟩
      · have untouched : JobsUntouched before { before with store := middle } := ⟨jobs, fun _ => rfl⟩
        rw [andThen_ok]
        refine (JobsUntouched.onStore (JobsUntouched.writeJoin _ _)).wp_bind untouched (fun _ after kept => ?_) fun err after kept =>
          ⟨kept, fun joined returned => by cases returned⟩
        refine (JobsUntouched.publish fun _ => rfl).when.wp_bind kept (fun _ final kept => ?_) fun err final kept =>
          ⟨kept, fun joined returned => by cases returned⟩
        refine ⟨kept, fun joined returned type => ?_⟩
        cases returned
        exact (same next rfl type).trans (origin type)

/-! ### The item of a join -/

/-- An event is the last one about the recording of its call, or is no such event. -/
theorem World.toldPhase_publish_cases (env : Env) (ev : WsEvent) (broadcast : WebSocketBroadcast) (world : World)
    (channelID : String) : (Handler.publish env ev broadcast world).2.toldPhase channelID = world.toldPhase channelID ∨
      ∃ phase, ev.recordingPhase? channelID = some phase ∧
        (Handler.publish env ev broadcast world).2.toldPhase channelID = some phase := by
  cases telling : ev.recordingPhase? channelID with
  | none => exact .inl (World.toldPhase_publish telling)
  | some phase =>
    by_cases sent : publishWebSocketEvent env.botID ev broadcast = []
    · refine .inl ?_
      show ((world.published ++ _).filterMap _).getLast? = _
      rw [sent, List.append_nil]
      rfl
    · exact .inr ⟨phase, rfl, World.toldPhase_publish_told telling sent⟩

/-- What a join makes of the jobs and of what was told of the recordings: its bot is told
of the recording that the state has. -/
structure JoinTells (channelID : String) (start : Option CallState) (before after : World) : Prop where
  jobs : after.store.jobsApartFromBots = before.store.jobsApartFromBots
  elsewhere : ∀ other, other ≠ channelID → after.toldPhase other = before.toldPhase other
  told : after.toldPhase channelID = before.toldPhase channelID ∨
    ∃ recState, start.bind (·.recording) = some recState ∧ after.toldPhase channelID = some recState.phase

namespace JoinTells

variable {channelID : String} {start : Option CallState} {before : World}

theorem of_untouched {after : World} (untouched : JobsUntouched before after) : JoinTells channelID start before after :=
  ⟨untouched.jobs, fun other _ => untouched.told other, .inl (untouched.told channelID)⟩

theorem publish {ev : WsEvent} {broadcast : WebSocketBroadcast} (elsewhere : ∀ other, other ≠ channelID → ev.recordingPhase? other = none)
    (here : ∀ phase, ev.recordingPhase? channelID = some phase →
      ∃ recState, start.bind (·.recording) = some recState ∧ recState.phase = phase) :
    Maintains (JoinTells channelID start before) (Handler.publish env ev broadcast) := by
  intro world tells
  refine ⟨tells.jobs, fun other different => ?_, ?_⟩
  · exact (World.toldPhase_publish (elsewhere other different)).trans (tells.elsewhere other different)
  · rcases World.toldPhase_publish_cases env ev broadcast world channelID with same | ⟨phase, telling, told⟩
    · rw [same]
      exact tells.told
    · obtain ⟨recState, held, rfl⟩ := here phase telling
      exact .inr ⟨recState, held, told⟩

theorem silent {ev : WsEvent} {broadcast : WebSocketBroadcast} (quiet : ∀ channelID, ev.recordingPhase? channelID = none) :
    Maintains (JoinTells channelID start before) (Handler.publish env ev broadcast) :=
  publish (fun other _ => quiet other) fun phase telling => by rw [quiet] at telling; cases telling

theorem onStore {α : Type} {command : StoreCommand α} (keeps : Preserves Store.jobs command) :
    Maintains (JoinTells channelID start before) (Handler.onStore command) := by
  intro world tells
  have kept := JobsUntouched.onStore keeps world ⟨rfl, fun _ => rfl⟩
  exact ⟨kept.jobs.trans tells.jobs, tells.elsewhere, tells.told⟩

theorem announceCall (joined : CallState) : Maintains (JoinTells channelID start before) (Calls.announceCall env channelID joined req) := by
  refine Maintains.bind ?_ fun _ => ?_
  · unfold createCallStartedPost
    split
    · exact .pure _
    · exact .bind (fun _ tells => ⟨tells.jobs, tells.elsewhere, tells.told⟩) fun _ => .pure _
  · exact .bind (onStore (JobsUntouched.updateCall _)).ignoring fun _ => (silent fun _ => rfl).bind fun _ => .pure _

theorem announceSession {joined : CallState} (origin : joined.JobsFrom start) :
    Maintains (JoinTells channelID start before) (Calls.announceSession env channelID joined req) := by
  refine (silent fun _ => rfl).bind fun _ => (silent fun _ => rfl).bind fun _ => ?_
  refine (Maintains.ifSome fun recState found => publish (fun other different => ?_) fun phase telling => ?_).bind fun _ =>
    silent fun _ => rfl
  · exact if_neg fun here => different here.1.symm
  · have held : joined.recording = some recState := (Option.mem_filter_iff.mp found).1
    have same := origin .recording
    rw [show joined.job? .recording = some recState from held, Option.map_some] at same
    obtain ⟨own, loaded, equal⟩ := Option.map_eq_some_iff.mp same.symm
    refine ⟨own, loaded, ?_⟩
    have phases : (own.withBot "").phase = (recState.withBot "").phase := congrArg CallJob.phase equal
    simp only [WsEvent.recordingPhase?] at telling
    split at telling
    · exact phases.trans (Option.some.inj telling)
    · cases telling

end JoinTells

theorem addSessionToCall_jobs {channelID : String} {start : Option CallState} {before : World}
    (stored : ∀ cs, start = some cs → cs.JobsStored before.store.jobsApartFromBots) :
    (addSessionToCall env channelID start req).wp (fun result after => JoinTells channelID start before after ∧
      ∀ next cs, result = .ok next → next = some cs → cs.JobsFrom start) before := by
  unfold addSessionToCall
  rw [wp_bind, wp_attempt]
  refine wp_mono (addUserSession_jobs stored) ?_
  intro either middle facts
  obtain ⟨untouched, origin⟩ := facts
  rcases either with err | joined
  · rw [andThen_ok]
    refine (JoinTells.silent fun _ => rfl).wp_bind (.of_untouched untouched) (fun _ after tells => ⟨tells, ?_⟩)
      fun _ after tells => ⟨tells, fun next cs returned => by cases returned⟩
    intro next cs returned same
    obtain rfl := same
    cases returned
    exact fun _ => rfl
  · rw [andThen_ok]
    have origin := origin joined rfl
    have rest (announced : CallState) (same : announced.JobsFrom start) {world : World} (tells : JoinTells channelID start before world) :
        (do (Calls.announceSession env channelID announced req).when (env.rtcJoinFails = false)
            pure (some announced) : Handler (Option CallState)).wp (fun result after => JoinTells channelID start before after ∧
          ∀ next cs, result = .ok next → next = some cs → cs.JobsFrom start) world := by
      refine (JoinTells.announceSession same).when.wp_bind tells (fun _ after tells => ⟨tells, ?_⟩)
        fun _ after tells => ⟨tells, fun next cs returned => by cases returned⟩
      intro next cs returned same
      obtain rfl := same
      cases returned
      exact same
    dsimp only
    rw [wp_bind, wp_ite]
    constructor
    · intro first
      have tells : Maintains (JoinTells channelID start before) (Calls.announceCall env channelID joined req) :=
        JoinTells.announceCall joined
      refine wp_mono (wp_and (announceCall_spec env channelID joined req middle) (tells.wp (.of_untouched untouched))) ?_
      intro _ after facts
      obtain ⟨⟨postID, threadID, announced, rfl, changed, -⟩, tells⟩ := facts
      refine rest announced ?_ tells
      rw [changed]
      exact origin
    · exact fun later => rest joined origin (.of_untouched untouched)

end

end Calls
