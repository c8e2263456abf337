import Calls.Server.CallRunsProperties
import Calls.Server.ForcedEnds
import Calls.Server.RecordingEvents

/-! Who took part in a call. Users are added to a map in the props of the call as they
join; the list that is stored when the last session leaves is made of it. -/

set_option autoImplicit false

namespace Calls

open LockedHandler Command

/-- The calls with the users for whom `addUserSession` has succeeded. -/
abbrev Entries := List (String × String)

/-- A join is noted if `addUserSession` succeeds. -/
def noteEntry (entries : Entries) (before : RecordingRuns) : JobRunStep → Entries
  | .operation (.join env channelID req) =>
    match before.ops.batch? channelID .joining with
    | none => entries
    | some state =>
      match (addUserSession env channelID state req before.ops.world).1 with
      | .error _ => entries
      | .ok joined => (joined.call.id, req.userID) :: entries
  | _ => entries

/-- The joins, the leaves and the requests about jobs, with the entries so far. -/
def enteredRuns : System (RecordingRuns × Entries) JobRunStep :=
  recordingRuns.observed [] fun entries before step _ => noteEntry entries before step

/-- The users other than the bot who entered the call. -/
def Entries.Has (entries : Entries) (botID callID userID : String) : Prop :=
  userID ≠ botID ∧ (callID, userID) ∈ entries

/-- The bot is known, and every store operation of a join or a leave succeeds. -/
structure ServesEntries (botID : String) (state : RecordingRuns × Entries) (step : JobRunStep) : Prop where
  serves : ∀ operation, step = .operation operation → StoreServes state.1.ops (.operation operation)
  bot : ∀ operation env, step = .operation operation → operation.env? = some env → env.botID = botID

/-- Each call that has ended lists everybody who entered it, once. -/
def ParticipantsListed (botID : String) (state : RecordingRuns × Entries) : Prop :=
  ∀ call ∈ state.1.ops.world.store.calls, call.endAt ≠ 0 →
    call.participants.Nodup ∧ ∀ userID, userID ∈ call.participants ↔ state.2.Has botID call.id userID

theorem StringMap.mem_mapKeys_iff {ν : Type} {m : StringMap ν} {k : String} : k ∈ m.mapKeys ↔ m.contains k = true := by
  rw [KeyedTable.contains_iff, mapKeys, List.mem_map]
  exact Iff.rfl

/-! ### One call -/

/-- A call lists the given users: in its props while it goes on, as it is stored once it has ended. -/
structure CallView.Lists (users : String → Prop) (view : CallView) : Prop where
  ongoing : view.call.endAt = 0 → ∀ userID, view.call.props.participants.contains userID = true ↔ users userID
  ended : view.call.endAt ≠ 0 → 0 < view.call.endAt ∧ view.sessions.size = 0 ∧
    view.call.participants.Nodup ∧ ∀ userID, userID ∈ view.call.participants ↔ users userID

theorem joinedState_participants (env : Env) (base : CallState) (req : JoinRequest) (userID : String) :
    (joinedState env base req).call.props.participants.contains userID = true ↔
      base.call.props.participants.contains userID = true ∨ (req.userID ≠ env.botID ∧ userID = req.userID) := by
  have elected : (base.call.electOnJoin env (base.sessions.put (newCallSession env base.call req))).props.participants =
      base.call.props.participants := by
    unfold Call.electOnJoin
    dsimp only
    split <;> rfl
  unfold joinedState Call.addParticipant
  dsimp only
  split
  · next bot => simp [elected, bot]
  · next user =>
    simp only [elected, StringMap.contains_eq_isSome, StringMap.get?_set]
    split
    · next same => simp [same, user]
    · next other => simp [other]

/-- Who joins is added to those who are listed. -/
theorem CallView.Lists.joined {env : Env} {base : CallState} {req : JoinRequest} {users later : String → Prop}
    (running : base.call.endAt = 0) (lists : ∀ userID, base.call.props.participants.contains userID = true ↔ users userID)
    (adds : ∀ userID, later userID ↔ users userID ∨ (req.userID ≠ env.botID ∧ userID = req.userID)) :
    (joinedState env base req).view.Lists later := by
  have stillRunning : (joinedState env base req).call.endAt = 0 := (joinedState_same env base req).endAt.trans running
  refine ⟨fun _ userID => ?_, fun ended => absurd stillRunning ended⟩
  rw [adds, ← lists]
  exact joinedState_participants env base req userID

/-- The list is made when the last session has left, of the users who entered till then. -/
theorem CallView.Lists.left {env : Env} {cs : CallState} {ref : SessionRef} {us : CallSession} {sessions : SessionMap}
    {users : String → Prop} (lists : cs.view.Lists users) (found : cs.sessions.find? ref.originalConnID = some us) :
    (⟨(cs.call.afterLeave env ref us sessions).apartFromPost, sessions⟩ : CallView).Lists users := by
  have running : cs.call.endAt = 0 := by
    by_contra ended
    obtain ⟨-, empty, -⟩ := lists.ended ended
    exact absurd empty (KeyedTable.size_ne_zero_of_mem (KeyedTable.find?_eq_some_iff.mp found).1)
  have listed := lists.ongoing running
  obtain ⟨-, endAt⟩ := Call.afterLeave_kept env ref us sessions cs.call
  obtain ⟨totals, counted⟩ := Call.afterLeave_totals env cs.call ref us sessions
  by_cases empty : sessions.size = 0
  · rw [if_pos empty] at endAt
    obtain ⟨-, -, participants⟩ := counted empty
    have stored : 0 < (cs.call.afterLeave env ref us sessions).endAt := by
      rw [endAt]
      exact env.now.unixMilli_pos
    refine ⟨fun ongoing => absurd ongoing (Int.ne_of_gt stored), fun _ => ⟨stored, empty, ?_, fun userID => ?_⟩⟩
    · change (cs.call.afterLeave env ref us sessions).participants.Nodup
      rw [participants]
      exact cs.call.props.participants.nodup
    · change userID ∈ (cs.call.afterLeave env ref us sessions).participants ↔ users userID
      rw [participants, StringMap.mem_mapKeys_iff]
      exact listed userID
  · rw [if_neg empty, running] at endAt
    have participants : (cs.call.afterLeave env ref us sessions).props.participants = cs.call.props.participants := by
      have same := totals empty
      simp only [Call.totals, Prod.mk.injEq] at same
      exact same.2.2
    refine ⟨fun _ userID => ?_, fun ended => absurd endAt ended⟩
    change (cs.call.afterLeave env ref us sessions).props.participants.contains userID = true ↔ users userID
    rw [participants]
    exact listed userID

/-- What there is of a call lists those who entered it; without a row nobody has. -/
def Entries.ListedIn (entries : Entries) (botID callID : String) : Option CallView → Prop
  | none => ∀ userID, (callID, userID) ∉ entries
  | some view => view.Lists (entries.Has botID callID)

/-! ### Joins -/

section
variable {env : Env} {channelID : String} {state : Option CallState} {req : JoinRequest} {before : World}

/-- An entry that is noted is that of a session which is in the call afterwards. -/
theorem addSessionToCall_entered {joined : CallState}
    (ok : (addUserSession env channelID state req before).1 = .ok joined) (valid : before.store.CallsValid)
    (owned : before.store.SessionsOwned) (mirrored : ∀ cs, state = some cs → cs.MirroredBy before.store channelID) :
    (addSessionToCall env channelID state req).wp (fun result after => ∃ base announced, result = .ok (some announced) ∧
      joined.call.id = base.call.id ∧ EntersCall env channelID state req before.store after.store base announced) before := by
  have added : (addUserSession env channelID state req).wp (fun result after =>
      JoinEffect env channelID state req before.store result after.store ∧ result = .ok joined) before :=
    ⟨addUserSession_spec env channelID state req before, ok⟩
  have announce {next : CallState} {world : World} {base : CallState} (same : joined.call.id = base.call.id)
      (enters : EntersCall env channelID state req before.store world.store base next) :
      (do (announceSession env channelID next req).when (env.rtcJoinFails = false)
          pure (some next) : Handler (Option CallState)).wp (fun result after =>
        ∃ base announced, result = .ok (some announced) ∧ joined.call.id = base.call.id ∧
          EntersCall env channelID state req before.store after.store base announced) world := by
    rw [wp_bind]
    refine wp_mono ((announceSession_succeeds env channelID next req world.store).when.wp rfl) ?_
    intro _ after facts
    obtain ⟨⟨value, rfl⟩, unchanged⟩ := facts
    rw [andThen_ok, wp_pure]
    exact ⟨base, next, rfl, same, by rw [unchanged]; exact enters⟩
  have ofBase {base next : CallState} {after : Store} (enters : EntersCall env channelID state req before.store after base next)
      (same : next.call.id = joined.call.id) : joined.call.id = base.call.id := by
    rw [← same, ← (joinedState_same env base req).id_eq]
    exact congrArg (fun view => view.call.id) enters.view
  unfold addSessionToCall
  rw [wp_bind, wp_attempt]
  refine wp_mono added ?_
  intro _ middle facts
  obtain ⟨effect, rfl⟩ := facts
  rw [andThen_ok]
  dsimp only
  rw [wp_bind, wp_ite]
  constructor
  · intro first
    refine wp_mono (announceCall_spec env channelID joined req middle) ?_
    intro _ after facts
    obtain ⟨postID, threadID, announced, rfl, changed, wrote⟩ := facts
    have sessions : after.store.sessions = middle.store.sessions := by obtain same | same := wrote <;> rw [same]; rfl
    have calls : after.store.calls = middle.store.calls ∨ after.store.calls = (middle.store.saveCall announced.call).calls :=
      wrote.imp (congrArg Store.calls) (congrArg Store.calls)
    obtain ⟨base, enters⟩ := effect.announced first changed sessions calls valid owned mirrored
    exact announce (ofBase enters (by rw [changed])) enters
  · intro later
    obtain ⟨base, enters⟩ := effect.enters later valid owned mirrored
    exact announce (ofBase enters rfl) enters

/-- Where the store works nothing is changed by a join that is not noted. -/
theorem addSessionToCall_refused {err : String} (works : env.StoreWorks)
    (free : (∀ cs, state = some cs → cs.sessions.contains req.connID = false) → before.store.sessions.contains req.connID = false)
    (failed : (addUserSession env channelID state req before).1 = .error err) :
    (addSessionToCall env channelID state req).wp (fun result after => result = .ok state ∧
      after.store.calls = before.store.calls ∧ after.store.sessions = before.store.sessions) before := by
  have refused : (addUserSession env channelID state req).wp (fun result after =>
      JoinEffect env channelID state req before.store result after.store ∧ result = .error err) before :=
    ⟨addUserSession_spec env channelID state req before, failed⟩
  unfold addSessionToCall
  rw [wp_bind, wp_attempt]
  refine wp_mono refused ?_
  intro _ middle facts
  obtain ⟨effect, rfl⟩ := facts
  rw [andThen_ok]
  exact ⟨rfl, effect.unchanged works free⟩

end

/-! ### Requests about jobs -/

/-- What a request about jobs leaves of the store. -/
structure KeepsCalls (before after : World) : Prop where
  calls : after.store.calls = before.store.calls
  sessions : after.store.sessions = before.store.sessions
  jobs : after.store.JobsValid

section
variable {env : Env} {channelID : String} {before : World}

theorem KeepsCalls.of_jobsOnly {start locked : LockedCall} (kept : JobsOnly start locked) : KeepsCalls start.world locked.world := by
  obtain ⟨valid, same⟩ := kept
  simp only [LockedCall.apartFromJobs, Prod.mk.injEq] at same
  exact ⟨same.1, same.2.1, valid⟩

theorem underLock_keepsCalls {α : Type} {command : LockedHandler α} (valid : before.store.JobsValid)
    (keeps : ∀ cs, Maintains (JobsOnly ⟨before, cs⟩) command) : KeepsCalls before (underLock env channelID command before).2 := by
  rcases underLock_cases env channelID command before with ⟨err, ran⟩ | ⟨cs, -, -, ran⟩
  · rw [ran]
    exact ⟨rfl, rfl, valid⟩
  · rw [ran]
    exact .of_jobsOnly (keeps cs ⟨before, cs⟩ ⟨valid, rfl⟩)

theorem startRecording_keepsCalls (valid : before.store.JobsValid) (userID : String) :
    KeepsCalls before (startRecording env channelID userID before).2 := by
  unfold startRecording
  rw [bind_pure_run]
  exact underLock_keepsCalls valid fun _ => checkHost_maintains.bind fun _ =>
    (keptByJobs_jobsOnly env channelID).writing.beginRecordingJob (createCallJob_jobsOnly env) userID

theorem endRecordingStart_keepsCalls (valid : before.store.JobsValid) (liveCaptionsOn : Bool) (result : RunJobResult)
    (outer : CallState) : KeepsCalls before (endRecordingStart env channelID liveCaptionsOn result outer before).2 := by
  have finishes {middle : World} (kept : KeepsCalls before middle) (ended : Except String Unit) :
      KeepsCalls before ((finishRecordingJob env channelID ended).runOn outer middle).2 := by
    have keeps : Maintains (JobsOnly ⟨middle, outer⟩) (finishRecordingJob env channelID ended) := by
      cases ended with
      | ok value => exact getState_maintains.bind fun _ => .ifSome fun _ _ => (keptByJobs_jobsOnly env channelID).writing.publishJobState _
      | error err => exact (keptByJobs_jobsOnly env channelID).writing.relayError _ _
    have finished : KeepsCalls middle _ := .of_jobsOnly (keeps ⟨middle, outer⟩ ⟨kept.jobs, rfl⟩)
    exact ⟨finished.calls.trans kept.calls, finished.sessions.trans kept.sessions, finished.jobs⟩
  change Command.wp _ (fun _ after => KeepsCalls before after) before
  unfold endRecordingStart
  rw [wp_bind]
  refine wp_mono (lockCallReturnState_spec env channelID before) ?_
  intro _ middle facts
  obtain ⟨rfl, ⟨⟨err, rfl⟩, -⟩ | ⟨state, rfl, -⟩⟩ := facts
  · exact ⟨rfl, rfl, valid⟩
  · rw [andThen_ok, wp_bind, wp_attempt]
    cases state with
    | none => exact finishes ⟨rfl, rfl, valid⟩ _
    | some cs =>
      have keeps : Maintains (JobsOnly ⟨middle, cs⟩) (resumeTranscribingJob env channelID liveCaptionsOn result) :=
        (keptByJobs_jobsOnly env channelID).writing.resumeTranscribingJob liveCaptionsOn result
      exact finishes (.of_jobsOnly (keeps ⟨middle, cs⟩ ⟨valid, rfl⟩)) _

theorem RecordingStart.answered_keepsCalls (valid : before.store.JobsValid) (start : RecordingStart) (trID lcID : String)
    (result : RunJobResult) : KeepsCalls before (start.answered env trID lcID result before).2 := by
  obtain ⟨channelID, phase⟩ := start
  cases phase with
  | recording userID =>
    refine underLock_keepsCalls valid fun cs => Maintains.bind ?_ fun _ => getState_maintains.bind fun _ => .pure _
    exact (keptByJobs_jobsOnly env channelID).writing.continueRecordingJob (createCallJob_jobsOnly env) userID trID lcID result
  | transcription liveCaptionsOn outer =>
    unfold answered
    dsimp only
    rw [bind_pure_run]
    exact endRecordingStart_keepsCalls valid liveCaptionsOn result outer

/-- A step is one of the joins and leaves, or it leaves them and the calls alone. -/
theorem RecordingRuns.next?_cases {runs after : RecordingRuns} {step : JobRunStep} (taken : runs.next? step = some after)
    (valid : runs.ops.world.store.JobsValid) :
    (∃ operation, step = .operation operation ∧ runs.ops.next? operation = some after.ops) ∨
      ((∀ operation, step ≠ .operation operation) ∧ after.ops.held = runs.ops.held ∧ KeepsCalls runs.ops.world after.ops.world) := by
  have handled {α : Type} {channelID : String} {handler : Handler α} {ops : Operations}
      {result : Except String α} (ran : runs.ops.handle channelID handler = some (result, ops))
      (kept : KeepsCalls runs.ops.world (handler runs.ops.world).2) :
      ops.held = runs.ops.held ∧ KeepsCalls runs.ops.world ops.world := by
    obtain ⟨-, rfl⟩ := Operations.handle_eq_some ran
    exact ⟨rfl, kept⟩
  have kept (env : Env) (channelID : String) (cs : CallState) := (@keptByJobs_jobsOnly ⟨runs.ops.world, cs⟩ env channelID).writing
  cases step with
  | operation operation =>
    obtain ⟨ops, moved, rfl⟩ := Option.map_eq_some_iff.mp taken
    exact .inl ⟨operation, rfl, moved⟩
  | start env channelID userID =>
    obtain ⟨⟨result, ops⟩, ran, rfl⟩ := Option.map_eq_some_iff.mp taken
    refine .inr ⟨fun _ same => (by cases same), handled ran ?_⟩
    unfold RecordingStart.ask
    rw [bind_pure_run]
    exact startRecording_keepsCalls valid userID
  | returned env index trID lcID result =>
    obtain ⟨start, -, taken⟩ := Option.bind_eq_some_iff.mp taken
    obtain ⟨⟨result, ops⟩, ran, rfl⟩ := Option.map_eq_some_iff.mp taken
    exact .inr ⟨fun _ same => (by cases same), handled ran (start.answered_keepsCalls valid trID lcID _)⟩
  | stop env channelID userID =>
    obtain ⟨⟨result, ops⟩, ran, rfl⟩ := Option.map_eq_some_iff.mp taken
    refine .inr ⟨fun _ same => (by cases same), handled ran (underLock_keepsCalls valid fun cs => ?_)⟩
    exact checkHost_maintains.bind fun _ => (kept env channelID cs).stopRecordingJob
  | status env channelID jobID reported =>
    obtain ⟨⟨result, ops⟩, ran, rfl⟩ := Option.map_eq_some_iff.mp taken
    exact .inr ⟨fun _ same => (by cases same), handled ran
      (underLock_keepsCalls valid fun cs => (kept env channelID cs).handleBotPostJobsStatus jobID reported)⟩
  | recTimeout env channelID jobID =>
    obtain ⟨⟨result, ops⟩, ran, rfl⟩ := Option.map_eq_some_iff.mp taken
    exact .inr ⟨fun _ same => (by cases same), handled ran
      (underLock_keepsCalls valid fun cs => (kept env channelID cs).recJobTimeoutChecker jobID)⟩
  | trTimeout env channelID jobID =>
    obtain ⟨⟨result, ops⟩, ran, rfl⟩ := Option.map_eq_some_iff.mp taken
    exact .inr ⟨fun _ same => (by cases same), handled ran
      (underLock_keepsCalls valid fun cs => (kept env channelID cs).transcriptionJobTimeoutChecker jobID)⟩

end

/-! ### Runs -/

/-- What batches hold is what the store says, and every call lists those who entered it. -/
structure EnteredInvariant (botID : String) (state : RecordingRuns × Entries) : Prop where
  mirrored : Mirrored state.1.ops
  listed : ∀ callID, state.2.ListedIn botID callID (state.1.ops.world.store.callView? callID)

theorem Mirrored.keepsCalls {ops after : Operations} (inv : Mirrored ops) (held : after.held = ops.held)
    (kept : KeepsCalls ops.world after.world) : Mirrored after := by
  refine ⟨?_, ?_, kept.jobs, fun channelID batch cs found loaded => ?_⟩
  · rw [Store.CallsValid, kept.calls]
    exact inv.valid
  · rw [Store.SessionsOwned, kept.calls, kept.sessions]
    exact inv.sessions
  · rw [held] at found
    exact (inv.held channelID batch cs found loaded).congr (Store.callView?_congr kept.calls (Store.callSessions_congr kept.sessions _))

theorem noteEntry_of_ne {entries : Entries} {before : RecordingRuns} {step : JobRunStep}
    (other : ∀ env channelID req, step ≠ .operation (.join env channelID req)) : noteEntry entries before step = entries := by
  unfold noteEntry
  split
  · next env channelID req => exact absurd rfl (other env channelID req)
  · rfl

namespace EnteredInvariant

variable {botID : String} {runs after : RecordingRuns} {entries : Entries}

/-- A join is noted where it succeeds, and there the call lists who has entered. -/
theorem join (inv : EnteredInvariant botID (runs, entries)) {env : Env} {channelID : String} {req : JoinRequest}
    (serves : StoreServes runs.ops (.operation (.join env channelID req))) (bot : env.botID = botID)
    (taken : runs.ops.next? (.join env channelID req) = some after.ops) :
    EnteredInvariant botID (after, noteEntry entries runs (.operation (.join env channelID req))) := by
  obtain ⟨mirrored, -⟩ := inv.mirrored.step serves taken
  refine ⟨mirrored, fun callID => ?_⟩
  have before := inv.listed callID
  have spec (state : Option CallState) : (addSessionToCall env channelID state req).wp (fun result world => ∃ next,
      result = .ok next ∧ world = (addSessionToCall env channelID state req runs.ops.world).2) runs.ops.world := by
    obtain ⟨next, returned, -⟩ := addSessionToCall_spec env channelID state req runs.ops.world
    exact ⟨next, returned, rfl⟩
  obtain ⟨state, next, world, running, rfl, moved⟩ := Operations.runItem_eq_some spec taken
  have held := fun cs loaded => inv.mirrored.held _ _ cs (Operations.batch?_eq_some running) loaded
  rw [moved]
  simp only [noteEntry, running]
  cases outcome : (addUserSession env channelID state req runs.ops.world).1 with
  | error err =>
    obtain ⟨-, calls, sessions⟩ := addSessionToCall_refused (serves.works env rfl)
      (serves.free env channelID req state rfl running) outcome
    change entries.ListedIn botID callID (Store.callView? (addSessionToCall env channelID state req runs.ops.world).2.store callID)
    rw [Store.callView?_congr calls (Store.callSessions_congr sessions callID)]
    exact before
  | ok joined =>
    obtain ⟨base, announced, -, same, enters⟩ := addSessionToCall_entered outcome inv.mirrored.valid inv.mirrored.sessions held
    change Entries.ListedIn _ botID callID (Store.callView? (addSessionToCall env channelID state req runs.ops.world).2.store callID)
    have has (other : String) (userID : String) : (Entries.Has ((joined.call.id, req.userID) :: entries) botID other userID) ↔
        entries.Has botID other userID ∨ (other = base.call.id ∧ req.userID ≠ botID ∧ userID = req.userID) := by
      simp only [Entries.Has, List.mem_cons, Prod.mk.injEq, same]
      constructor
      · intro facts
        obtain ⟨user, ⟨rfl, rfl⟩ | old⟩ := facts
        · exact .inr ⟨rfl, user, rfl⟩
        · exact .inl ⟨user, old⟩
      · intro either
        rcases either with ⟨user, old⟩ | ⟨rfl, user, rfl⟩
        · exact ⟨user, .inr old⟩
        · exact ⟨user, .inl ⟨rfl, rfl⟩⟩
    by_cases here : callID = base.call.id
    · subst here
      have lists : base.call.endAt = 0 ∧ ∀ userID, base.call.props.participants.contains userID = true ↔
          entries.Has botID base.call.id userID := by
        cases state with
        | none =>
          obtain ⟨-, absent⟩ := enters.first rfl
          obtain ⟨-, -, fresh⟩ := stateToJoin_none enters.found
          rw [absent] at before
          refine ⟨fresh.call.endAt, fun userID => ?_⟩
          rw [stateToJoin_props enters.found]
          exact ⟨fun listed => (by cases listed), fun entered => absurd entered.2 (before userID)⟩
        | some cs =>
          obtain rfl : cs = base := Except.ok.inj enters.found
          rw [(held cs rfl).view] at before
          have running : cs.call.endAt = 0 := by
            by_contra ended
            exact checkJoin_running enters.checked (before.ended ended).1
          exact ⟨running, before.ongoing running⟩
      rw [enters.changes.here, enters.view]
      refine CallView.Lists.joined lists.1 lists.2 fun userID => (has base.call.id userID).trans ?_
      rw [bot]
      exact or_congr_right ⟨And.right, fun entered => ⟨rfl, entered⟩⟩
    · rw [enters.changes.elsewhere callID here]
      have unchanged (userID : String) : Entries.Has ((joined.call.id, req.userID) :: entries) botID callID userID ↔
          entries.Has botID callID userID := (has callID userID).trans (or_iff_left fun entered => here entered.1)
      revert before
      cases runs.ops.world.store.callView? callID with
      | none =>
        intro absent userID listed
        rcases (List.mem_cons.mp listed).imp_left Prod.mk.inj with ⟨named, -⟩ | old
        · exact here (named.trans same)
        · exact absent userID old
      | some view =>
        intro lists
        exact ⟨fun running userID => (lists.ongoing running userID).trans (unchanged userID).symm, fun ended => by
          obtain ⟨later, empty, nodup, listed⟩ := lists.ended ended
          exact ⟨later, empty, nodup, fun userID => (listed userID).trans (unchanged userID).symm⟩⟩

theorem step (inv : EnteredInvariant botID (runs, entries)) {label : JobRunStep} (serves : ServesEntries botID (runs, entries) label)
    (taken : runs.next? label = some after) : EnteredInvariant botID (after, noteEntry entries runs label) := by
  rcases RecordingRuns.next?_cases taken inv.mirrored.jobs with ⟨operation, rfl, moved⟩ | ⟨other, held, kept⟩
  · have works := serves.serves operation rfl
    by_cases joins : ∃ env channelID req, operation = .join env channelID req
    · obtain ⟨env, channelID, req, rfl⟩ := joins
      exact inv.join works (serves.bot _ env rfl rfl) moved
    · obtain ⟨mirrored, change⟩ := inv.mirrored.step works moved
      rw [noteEntry_of_ne fun env channelID req same => joins ⟨env, channelID, req, JobRunStep.operation.inj same⟩]
      refine ⟨mirrored, fun callID => ?_⟩
      have before := inv.listed callID
      have changed := change callID
      dsimp only at before ⊢
      revert before changed
      generalize runs.ops.world.store.callView? callID = old
      generalize after.ops.world.store.callView? callID = new
      intro before changed
      cases changed with
      | kept => exact before
      | started => exact absurd ⟨_, _, _, rfl⟩ joins
      | joined => exact absurd ⟨_, _, _, rfl⟩ joins
      | left found erased call =>
        subst call
        exact CallView.Lists.left before found
  · rw [noteEntry_of_ne fun env channelID req => other _]
    refine ⟨inv.mirrored.keepsCalls held kept, fun callID => ?_⟩
    dsimp only
    rw [Store.callView?_congr kept.calls (Store.callSessions_congr kept.sessions callID)]
    exact inv.listed callID

end EnteredInvariant

/-- In every run of joins, leaves and requests about jobs in which the store operations of joins
and leaves succeed, a call that has ended lists exactly the users who entered it, the bot apart. -/
theorem participantsListed_of_serves {botID : String} {state : RecordingRuns × Entries}
    (reached : (enteredRuns.restrict (ServesEntries botID)).Reachable state) : ParticipantsListed botID state := by
  have inv : EnteredInvariant botID state := by
    refine System.Reachable.invariant_of_allowed ?_ ?_ reached
    · intro facts both
      obtain ⟨runs, entries⟩ := facts
      obtain ⟨rfl, rfl⟩ := both
      exact ⟨.idle, fun callID userID => List.not_mem_nil⟩
    · intro state step next inv serves taken
      obtain ⟨runs, entries⟩ := state
      obtain ⟨after, later⟩ := next
      obtain ⟨moved, noted⟩ := System.observed_next?.mp taken
      dsimp only at moved noted
      rw [noted]
      exact inv.step serves moved
  intro call member ended
  have listed := inv.listed call.id
  rw [Store.callView?, KeyedTable.find?_self member] at listed
  obtain ⟨-, -, nodup, users⟩ := listed.ended ended
  exact ⟨nodup, users⟩

/-- The bot comes for the recording that Alice started. She leaves, comes back and leaves again, then the bot does. -/
def aliceIsRecorded : List OperationStep :=
  let alice : SessionRef := { userID := "alice", originalConnID := "conn-1", connID := "conn-1" }
  [.lock (.quiet 2000 "") "channel" .joining,
    .join (.quiet 2001 "") "channel" (.plain "bot" "conn-bot" "first"),
    .unlock "channel",
    .lock (.quiet 2002 "") "channel" .leaving,
    .leave (.quiet 2003 "") "channel" alice,
    .unlock "channel",
    .lock (.quiet 2004 "") "channel" .joining,
    .join (.quiet 2005 "") "channel" (.plain "alice" "conn-1" ""),
    .unlock "channel",
    .lock (.quiet 2006 "") "channel" .leaving,
    .leave (.quiet 2007 "") "channel" alice,
    .leave (.quiet 2008 "") "channel" { userID := "bot", originalConnID := "conn-bot", connID := "conn-bot" },
    .unlock "channel"]

/-- Whether the connection of a join is not in the store yet. -/
def entersFree (state : RecordingRuns × Entries) : JobRunStep → Bool
  | .operation operation => joinsFree state.1.ops (.operation operation)
  | _ => true

theorem participantsListed_of_aliceIsRecorded :
    ∃ state, enteredRuns.run? (.idle, []) (aliceRecords ++ aliceIsRecorded.map .operation) = some state ∧
      state.1.ops.world.store.calls.rows.map (fun call => (call.endAt, call.participants)) = [(2008, ["alice"])] ∧
      state.2 = [("call", "alice"), ("call", "bot"), ("call", "alice")] ∧ ParticipantsListed "bot" state := by
  have computed : (enteredRuns.run? (.idle, []) (aliceRecords ++ aliceIsRecorded.map .operation)).map (fun state =>
      (state.1.ops.world.store.calls.rows.map (fun call => (call.endAt, call.participants)), state.2)) =
      some ([(2008, ["alice"])], [("call", "alice"), ("call", "bot"), ("call", "alice")]) := by decide +kernel
  obtain ⟨state, ran, shape⟩ := Option.map_eq_some_iff.mp computed
  obtain ⟨calls, entries⟩ := Prod.mk.inj shape
  have checked : enteredRuns.checkAlong entersFree (.idle, []) (aliceRecords ++ aliceIsRecorded.map .operation) = true := by
    decide +kernel
  have serves : enteredRuns.MeetsAlong (ServesEntries "bot") (.idle, []) (aliceRecords ++ aliceIsRecorded.map .operation) := by
    refine .of_check checked fun before step listed free => ?_
    have quiet (operation : OperationStep) (env : Env) (same : step = .operation operation) (timed : operation.env? = some env) :
        ∃ now newID, env = .quiet now newID := by
      subst same
      simp only [aliceRecords, aliceIsRecorded, List.map_cons, List.map_nil, List.cons_append, List.nil_append, List.mem_cons,
        List.not_mem_nil, or_false, JobRunStep.operation.injEq, reduceCtorEq, false_or] at listed
      rcases listed with rfl | rfl | rfl | rfl | rfl | rfl | rfl | rfl | rfl | rfl | rfl | rfl | rfl | rfl | rfl | rfl <;>
        cases timed <;> exact ⟨_, _, rfl⟩
    constructor
    · intro operation same
      obtain rfl := same
      exact joinsFree_sound (fun env timed => quiet operation env rfl timed) free
    · intro operation env same timed
      obtain ⟨now, newID, rfl⟩ := quiet operation env same timed
      rfl
  have start : (enteredRuns.restrict (ServesEntries "bot")).Reachable (.idle, []) := .init ⟨rfl, rfl⟩
  exact ⟨state, ran, calls, entries, participantsListed_of_serves (start.restrict_run serves ran)⟩

end Calls
