import Calls.Server.RecordingAttempts

/-! How the start of a recording ends, decided from what it is given: it has started, it
has lost the lock with its state, or it returns an error at one of its exits. -/

set_option autoImplicit false

namespace Calls

open Command StartHandler

/-- A row of a job that has not ended. -/
def Store.OpenRow (store : Store) (jobID : String) : Prop := ∃ row ∈ store.jobs, row.id = jobID ∧ row.endAt = 0

/-- An exit with an error is told by the rows that the start has created, by the store that it found
when it had the lock for the last time, and by the rows that it ends in it. -/
inductive StartOutcome where
  | started
  | lockLost
  | refused (created : List String) (found : Store) (ended : List String)
  deriving DecidableEq

def StartOutcome.after (jobID : String) : StartOutcome → StartOutcome
  | .started => .started
  | .lockLost => .lockLost
  | .refused created found ended => .refused (jobID :: created) found ended

theorem StartOutcome.after_eq_lockLost {jobID : String} {outcome : StartOutcome} :
    outcome.after jobID = .lockLost ↔ outcome = .lockLost := by
  cases outcome <;> simp [StartOutcome.after]

def Relock.find (r : Relock) (channelID : String) : Except String (Option CallState) :=
  (lockCallReturnState r.env channelID r.world).1

def Env.created? (env : Env) (job : CallJob) (store : Store) : Option Store :=
  Store.taken? (Store.createCallJob env.faults job) store

namespace RecordingAttempt

variable (a : RecordingAttempt)

/-- How a transcription goes on with the job it has loaded. -/
def transcribingRan (liveCaptionsOn : Bool) (created : List String) (state : Option CallState) (trState : CallJob) :
    StartOutcome :=
  let lcState := if liveCaptionsOn then (getJob .captioning state).toOption else none
  match a.trRan with
  | .error _ => .refused created a.relockAgain.world.store (trState.id :: lcState.toList.map CallJob.id)
  | .ok jobID =>
    if trState.props.jobID ≠ "" then .refused created a.relockAgain.world.store []
    else if a.relockAgain.env.saves (trState.withJobID jobID) = false then .refused created a.relockAgain.world.store []
    else if lcState.any (fun lcState => !a.relockAgain.env.saves (lcState.withJobID jobID)) = true then
      .refused created a.relockAgain.world.store []
    else .started

/-- How a transcription goes on once the job service was asked. -/
def transcribingAsked (liveCaptionsOn : Bool) (created : List String) : StartOutcome :=
  match a.relockAgain.find a.channelID with
  | .error _ => .lockLost
  | .ok state =>
    match getJob .transcribing state with
    | .error _ => .refused created a.relockAgain.world.store []
    | .ok trState => a.transcribingRan liveCaptionsOn created state trState

def transcribing (env : Env) (store : Store) (cs : CallState) : StartOutcome :=
  if cs.inProgress .transcribing = true ∨ a.trID = "" then .refused [] store []
  else
    match env.created? (newCallJob env cs a.trID .transcribing a.userID) store with
    | none => .refused [] store []
    | some withRow =>
      if env.config.liveCaptionsEnabled = true then
        match env.created? (newCallJob env cs a.lcID .captioning a.userID) withRow with
        | none => .refused [a.trID] withRow []
        | some _ => a.transcribingAsked true [a.trID, a.lcID]
      else a.transcribingAsked false [a.trID]

def recordingRan (created : String) (cs : CallState) (recState : CallJob) : StartOutcome :=
  match a.recRan with
  | .error _ => .refused [created] a.relock.world.store [recState.id]
  | .ok jobID =>
    if recState.props.jobID ≠ "" then .refused [created] a.relock.world.store []
    else if a.relock.env.saves (recState.withJobID jobID) = false then .refused [created] a.relock.world.store []
    else if a.relock.env.config.transcriptionsEnabled = true then
      (a.transcribing a.relock.env (a.relock.world.store.saveJob (recState.withJobID jobID)) cs).after created
    else .started

def recordingAsked (created : String) : StartOutcome :=
  match a.relock.find a.channelID with
  | .error _ => .lockLost
  | .ok none => .refused [created] a.relock.world.store []
  | .ok (some cs) =>
    match cs.recording with
    | none => .refused [created] a.relock.world.store []
    | some recState => a.recordingRan created cs recState

def recording (env : Env) (store : Store) (cs : CallState) : StartOutcome :=
  if cs.inProgress .recording = true then .refused [] store []
  else
    match env.created? (newCallJob env cs env.newID .recording a.userID) store with
    | none => .refused [] store []
    | some _ => a.recordingAsked env.newID

/-- The store accepts updates of jobs; the rows that the locks find are valid. -/
structure Accepts : Prop where
  updates : ∀ jobID, a.relock.env.faults (.updateCallJob jobID) = false
  updatesAgain : ∀ jobID, a.relockAgain.env.faults (.updateCallJob jobID) = false
  valid : a.relock.world.store.JobsValid
  validAgain : a.relockAgain.world.store.JobsValid

end RecordingAttempt

/-! ### The parts of a start -/

namespace StartHandler

variable {frame : StartFrame}

@[simp] theorem wp_onWorld {α : Type} {handler : Env → Handler α} {post : Except Failure α → StartFrame → Prop} :
    (onWorld handler).wp post frame ↔
      (handler frame.env).wp (fun result world => post (result.mapError .error) { frame with world }) frame.world := by
  simp [onWorld]

theorem wp_createCallJob {job : CallJob} {post : Except Failure Unit → StartFrame → Prop}
    (failed : ∀ text, frame.env.created? job frame.world.store = none → post (.error (.error text)) frame)
    (done : ∀ store, frame.env.created? job frame.world.store = some store →
      post (.ok ()) { frame with world := { frame.world with store }, created := frame.created ++ [job.id] }) :
    (createCallJob job).wp post frame := by
  unfold createCallJob
  rw [wp_bind, wp_mapError, wp_onWorld, Handler.onStore, wp_zoom]
  exact (Store.createCallJob_whole frame.env.faults job).wp (fun _ => failed _) done

theorem wp_updateCallJob {job : CallJob} {post : Except Failure Unit → StartFrame → Prop}
    (failed : ∀ text, frame.env.saves job = false → post (.error (.error text)) frame)
    (done : frame.env.saves job = true → post (.ok ()) { frame with world := { frame.world with store := frame.world.store.saveJob job } }) :
    (updateCallJob job).wp post frame := by
  unfold updateCallJob
  rw [wp_mapError, wp_onWorld, Handler.onStore, wp_zoom]
  exact Env.wp_saves (fun _ => failed _) done

theorem wp_publishJob {channelID : String} {job : CallJob} {cs : CallState} {post : Except Failure Unit → StartFrame → Prop}
    (hasJob : frame.job = some job) (hasState : frame.state = some cs)
    (done : ∀ published, post (.ok ()) { frame with world := { frame.world with published } }) :
    (publishJob channelID).wp post frame := by
  unfold publishJob
  rw [wp_bind, wp_get, andThen_ok, hasJob, deref_some, wp_bind, wp_pure, andThen_ok, hasState, deref_some, wp_bind, wp_pure,
    andThen_ok, wp_onWorld]
  exact done _

/-- The deferred function stops where there is a job and no state. -/
theorem wp_relayReturned {channelID err : String} {post : Except Failure Unit → StartFrame → Prop}
    (idle : frame.job = none → post (.ok ()) frame)
    (stopped : frame.job.isSome = true → frame.state = none → ∀ job, post (.error .nilDereference) { frame with job })
    (told : frame.job.isSome = true → frame.state.isSome = true → ∀ job published,
      post (.ok ()) { frame with job, world := { frame.world with published } }) :
    (relayReturned channelID err).wp post frame := by
  unfold relayReturned
  rw [wp_bind, wp_get, andThen_ok]
  cases job : frame.job with
  | none => exact idle job
  | some value =>
    rw [wp_ifSome_some, wp_bind, setJob, wp_modify, andThen_ok]
    rcases Option.eq_none_or_eq_some frame.state with state | ⟨cs, state⟩
    · unfold publishJob
      rw [wp_bind, wp_get, andThen_ok, deref_some, wp_bind, wp_pure, andThen_ok]
      dsimp only
      rw [state, deref_none, wp_bind, wp_throw, andThen_error]
      have ends := stopped (by rw [job]; rfl) state
      exact state ▸ ends _
    · refine wp_publishJob rfl state fun published => ?_
      exact told (by rw [job]; rfl) (by rw [state]; rfl) _ published

theorem wp_lockAgain {channelID : String} {relock : Relock} {post : Except Failure Unit → StartFrame → Prop}
    (lost : ∀ err text, relock.find channelID = .error err →
      post (.error (.error text)) { frame with env := relock.env, world := relock.world, state := none })
    (found : ∀ state, relock.find channelID = .ok state →
      (∀ cs, state = some cs → relock.world.store.Loads channelID (some cs)) →
      post (.ok ()) { frame with env := relock.env, world := relock.world, state }) :
    (lockAgain channelID relock).wp post frame := by
  have spec := lockCallReturnState_spec relock.env channelID relock.world
  unfold lockAgain
  rw [wp_bind, wp_modify, andThen_ok, wp_bind, wp_attempt, wp_onWorld]
  unfold Relock.find at lost found
  unfold wp at spec ⊢
  dsimp only at lost found ⊢
  cases ran : lockCallReturnState relock.env channelID relock.world with
  | mk result after =>
    rw [ran] at spec lost found
    obtain ⟨same, ⟨⟨err, failed⟩, -⟩ | ⟨state, answered, loads, -⟩⟩ := spec
    · dsimp only at same failed
      subst same failed
      exact lost err _ rfl
    · dsimp only at same answered
      subst same answered
      exact found state rfl fun cs held => held ▸ loads

theorem wp_loadJob {type : JobType} {post : Except Failure Unit → StartFrame → Prop}
    (missing : ∀ err text, getJob type frame.state = .error err → post (.error (.error text)) { frame with job := none })
    (loaded : ∀ job, getJob type frame.state = .ok job → post (.ok ()) { frame with job := some job }) :
    (loadJob type).wp post frame := by
  unfold loadJob
  rw [wp_bind, wp_get, andThen_ok]
  cases found : getJob type frame.state with
  | error err => exact missing err _ found
  | ok job => exact loaded job found

theorem getJob_ok {type : JobType} {state : Option CallState} {job : CallJob} (found : getJob type state = .ok job) :
    ∃ cs, state = some cs ∧ cs.job? type = some job := by
  cases state with
  | none => cases found
  | some cs =>
    refine ⟨cs, rfl, ?_⟩
    cases held : cs.job? type <;> simp_all [getJob]

end StartHandler

namespace Store

theorem openRow_saveJob_ended {store : Store} {job : CallJob} (ended : job.endAt ≠ 0) (jobID : String) :
    (store.saveJob job).OpenRow jobID ↔ store.OpenRow jobID ∧ jobID ≠ job.id := by
  constructor
  · intro facts
    obtain ⟨row, member, rfl, isOpen⟩ := facts
    rcases mem_saveJob.mp member with ⟨old, other⟩ | ⟨previous, old, same, rfl⟩
    · exact ⟨⟨row, old, rfl, isOpen⟩, other⟩
    · exact absurd isOpen ended
  · intro facts
    obtain ⟨⟨row, member, rfl, isOpen⟩, other⟩ := facts
    exact ⟨row, mem_saveJob.mpr (.inl ⟨member, other⟩), rfl, isOpen⟩

end Store

/-! ### The exits -/

namespace StartOutcome

/-- The start has returned, and its deferred function has run. -/
def Meets {α : Type} (outcome : StartOutcome) (accepts : Prop) (before : List String) (result : Except Failure α)
    (after : StartFrame) : Prop :=
  match outcome with
  | .started => ∃ value, result = .ok value
  | .lockLost => result = .error .nilDereference
  | .refused created found ended => (∃ text, result = .error (.error text)) ∧ after.created = before ++ created ∧
      (accepts → ∀ jobID, after.world.store.OpenRow jobID ↔ found.OpenRow jobID ∧ jobID ∉ ended)

theorem Meets.nil_iff {α : Type} {outcome : StartOutcome} {accepts : Prop} {before : List String} {result : Except Failure α}
    {after : StartFrame} (meets : outcome.Meets accepts before result after) :
    result = .error .nilDereference ↔ outcome = .lockLost := by
  cases outcome with
  | started =>
    obtain ⟨value, rfl⟩ := meets
    simp
  | lockLost => exact iff_of_true meets rfl
  | refused created found ended =>
    obtain ⟨⟨text, rfl⟩, -⟩ := meets
    simp

/-- The start returns, and its deferred function is still to run. -/
def Returns {α : Type} (outcome : StartOutcome) (accepts : Prop) (before : List String) (result : Except Failure α)
    (after : StartFrame) : Prop :=
  match outcome with
  | .started => ∃ value, result = .ok value
  | .lockLost => result = .error .nilDereference ∨
      ∃ text, result = .error (.error text) ∧ after.job.isSome = true ∧ after.state = none
  | .refused _ _ _ => outcome.Meets accepts before result after ∧ (after.job.isSome = true → after.state.isSome = true)

theorem Returns.deferred {α : Type} {outcome : StartOutcome} {accepts : Prop} {before : List String}
    {body : StartHandler α} {channelID : String} {frame : StartFrame}
    (returns : body.wp (outcome.Returns accepts before) frame) :
    (body.onReturned (relayReturned channelID)).wp (outcome.Meets accepts before) frame := by
  refine wp_onReturned.mpr (wp_mono returns ?_)
  intro result after ended
  cases outcome with
  | started =>
    obtain ⟨value, rfl⟩ := ended
    exact ⟨value, rfl⟩
  | lockLost =>
    rcases ended with rfl | ⟨text, rfl, job, state⟩
    · rfl
    · refine wp_relayReturned (fun idle => ?_) (fun _ _ _ => rfl) fun _ present => ?_
      · rw [idle] at job
        cases job
      · rw [state] at present
        cases present
  | refused created found ended' =>
    obtain ⟨⟨⟨text, rfl⟩, made, rows⟩, safe⟩ := ended
    refine wp_relayReturned (fun _ => ⟨⟨text, rfl⟩, made, rows⟩) (fun job gone => ?_) fun _ _ _ _ => ⟨⟨text, rfl⟩, made, rows⟩
    have present := safe job
    rw [gone] at present
    cases present

theorem meets_error {α : Type} {created before : List String} {accepts : Prop} {after : StartFrame}
    (text : String) (made : after.created = before ++ created) :
    (StartOutcome.refused created after.world.store []).Meets accepts before (.error (.error text) : Except Failure α) after :=
  ⟨⟨text, rfl⟩, made, fun _ _ => by simp⟩

theorem returns_error {α : Type} {created ended before : List String} {found : Store} {accepts : Prop} {after : StartFrame}
    (text : String) (made : after.created = before ++ created)
    (rows : accepts → ∀ jobID, after.world.store.OpenRow jobID ↔ found.OpenRow jobID ∧ jobID ∉ ended)
    (safe : after.job.isSome = true → after.state.isSome = true) :
    (StartOutcome.refused created found ended).Returns accepts before (.error (.error text) : Except Failure α) after :=
  ⟨⟨⟨text, rfl⟩, made, rows⟩, safe⟩

theorem wp_throw_returns {α : Type} {created ended before : List String} {found : Store} {accepts : Prop} {frame : StartFrame}
    (text : String) (made : frame.created = before ++ created)
    (rows : accepts → ∀ jobID, frame.world.store.OpenRow jobID ↔ found.OpenRow jobID ∧ jobID ∉ ended)
    (safe : frame.job.isSome = true → frame.state.isSome = true) :
    (Command.throw (.error text) : StartHandler α).wp ((StartOutcome.refused created found ended).Returns accepts before) frame :=
  returns_error text made rows safe

end StartOutcome

namespace RecordingAttempt

variable {a : RecordingAttempt}

theorem saves_of_loaded {env : Env} {store : Store} {channelID : String} {cs : CallState} {job saved : CallJob} (type : JobType)
    (updates : ∀ jobID, env.faults (.updateCallJob jobID) = false) (valid : store.JobsValid)
    (loads : store.Loads channelID (some cs)) (held : cs.job? type = some job) (same : saved.identity = job.identity) :
    env.saves saved = true := by
  have member := (Store.activeCallJobs_eq_some ((loads.2.2 type).symm.trans held)).1
  exact decide_eq_true ⟨(CallJob.isValid_congr same).trans (valid job member), updates _⟩

/-- Ending a job in the store, whether or not that works. -/
theorem wp_endJob {frame : StartFrame} {job : CallJob} (ended : job.endAt ≠ 0) {post : Except Failure Unit → StartFrame → Prop}
    (done : ∀ store, (frame.env.saves job = true → ∀ jobID, store.OpenRow jobID ↔
        frame.world.store.OpenRow jobID ∧ jobID ≠ job.id) →
      post (.ok ()) { frame with world := { frame.world with store } }) :
    (updateCallJob job).ignoring.wp post frame := by
  rw [wp_ignoring]
  refine wp_updateCallJob (fun _ unsaved => ?_) fun saves => done _ fun _ => Store.openRow_saveJob_ended ended
  exact done frame.world.store fun saved => by rw [unsaved] at saved; cases saved

theorem ended_ne_zero (env : Env) (job : CallJob) : (job.ended env.now).endAt ≠ 0 := Int.ne_of_gt env.now.unixMilli_pos

theorem failed_ne_zero (env : Env) (job : CallJob) (err : String) : ((job.ended env.now).withErr err).endAt ≠ 0 :=
  ended_ne_zero env job

section
variable {cs : CallState} {job : CallJob} {before created : List String}

theorem transcribingJobRan_spec (liveCaptionsOn : Bool) (loads : a.relockAgain.world.store.Loads a.channelID (some cs))
    (found : cs.transcription = some job) :
    (a.transcribingJobRan liveCaptionsOn).wp
      ((a.transcribingRan liveCaptionsOn created (some cs) job).Returns a.Accepts before)
      ⟨a.relockAgain.env, a.relockAgain.world, some cs, some job, before ++ created⟩ := by
  have saves {held saved : CallJob} (type : JobType) (accepts : a.Accepts) (loaded : cs.job? type = some held)
      (same : saved.identity = held.identity) : a.relockAgain.env.saves saved = true :=
    saves_of_loaded type accepts.updatesAgain accepts.validAgain loads loaded same
  have captioned {lcState : CallJob} (here : (if liveCaptionsOn = true then (getJob .captioning (some cs)).toOption else none) =
      some lcState) : cs.liveCaptions = some lcState := by
    split at here
    · cases held : cs.liveCaptions <;> simp_all [getJob, CallState.job?, Except.toOption]
    · cases here
  unfold transcribingJobRan transcribingRan
  rw [wp_bind, wp_get, andThen_ok, deref_some, wp_bind, wp_pure, andThen_ok]
  dsimp only
  cases ran : a.trRan with
  | error jobErr =>
    dsimp only
    rw [setJob, wp_bind, wp_modify, andThen_ok, wp_bind]
    refine wp_endJob (failed_ne_zero a.relockAgain.env job jobErr) fun store rows => ?_
    rw [andThen_ok]
    cases lc : (if liveCaptionsOn = true then (getJob .captioning (some cs)).toOption else none) with
    | none =>
      rw [wp_bind, wp_ifSome_none, andThen_ok]
      refine StartOutcome.wp_throw_returns _ rfl (fun accepts jobID => ?_) fun _ => rfl
      simpa [CallJob.ended, CallJob.withErr] using rows (saves .transcribing accepts found rfl) jobID
    | some lcState =>
      have held := captioned lc
      rw [wp_bind, wp_ifSome_some, wp_bind, deref_some, wp_pure, andThen_ok, wp_bind, held, deref_some, wp_pure, andThen_ok]
      refine wp_endJob (ended_ne_zero a.relockAgain.env lcState) fun last captions => ?_
      rw [andThen_ok]
      refine StartOutcome.wp_throw_returns _ rfl (fun accepts jobID => ?_) fun _ => rfl
      have first := rows (saves .transcribing accepts found rfl) jobID
      have second := captions (saves .captioning accepts held rfl) jobID
      dsimp only at first second ⊢
      rw [second, first]
      simp [and_assoc, CallJob.ended, CallJob.withErr]
  | ok jobID =>
    dsimp only
    refine (wp_bind.mpr (wp_throwIf.mpr ⟨fun taken => ?_, fun free => ?_⟩))
    · rw [andThen_error, if_pos taken]
      exact StartOutcome.returns_error _ rfl (fun _ _ => by simp) fun _ => rfl
    rw [andThen_ok, if_neg free, setJob, wp_bind, wp_modify, andThen_ok, wp_bind]
    refine wp_updateCallJob (fun _ unsaved => ?_) fun saved => ?_
    · rw [andThen_error, if_pos unsaved]
      exact StartOutcome.returns_error _ rfl (fun _ _ => by simp) fun _ => rfl
    dsimp only at saved
    have notUnsaved : ¬ a.relockAgain.env.saves (job.withJobID jobID) = false := by simp [saved]
    rw [andThen_ok, if_neg notUnsaved]
    cases lc : (if liveCaptionsOn = true then (getJob .captioning (some cs)).toOption else none) with
    | none =>
      rw [wp_bind, wp_ifSome_none, andThen_ok]
      exact wp_publishJob rfl rfl fun _ => ⟨(), rfl⟩
    | some lcState =>
      rw [wp_bind, wp_ifSome_some]
      refine wp_updateCallJob (fun _ unsaved => ?_) fun savedToo => ?_
      · rw [andThen_error, if_pos (by simpa using unsaved)]
        refine StartOutcome.returns_error _ rfl (fun accepts _ => ?_) fun _ => rfl
        have savedToo : a.relockAgain.env.saves (lcState.withJobID jobID) = true :=
          saves .captioning accepts (captioned lc) rfl
        rw [savedToo] at unsaved
        cases unsaved
      · rw [andThen_ok, if_neg (by simpa using savedToo)]
        exact wp_publishJob rfl rfl fun _ => ⟨(), rfl⟩

theorem transcribingAsked_spec {rows : List String} (liveCaptionsOn : Bool) (env : Env) (world : World)
    (made : rows = before ++ created) :
    (Command.onReturned (do
      publishJob a.channelID
      lockAgain a.channelID a.relockAgain
      loadJob .transcribing
      a.transcribingJobRan liveCaptionsOn) (relayReturned a.channelID)).wp
      ((a.transcribingAsked liveCaptionsOn created).Meets a.Accepts before)
      ⟨env, world, some cs, some job, rows⟩ := by
  subst made
  apply StartOutcome.Returns.deferred
  unfold transcribingAsked
  rw [wp_bind]
  refine wp_publishJob rfl rfl fun published => ?_
  rw [andThen_ok, wp_bind]
  refine wp_lockAgain (fun err text failed => ?_) fun state answered loads => ?_
  · rw [andThen_error, failed]
    exact .inr ⟨text, rfl, rfl, rfl⟩
  rw [andThen_ok, answered, wp_bind]
  refine wp_loadJob (fun err text missing => ?_) fun trState found => ?_
  · dsimp only at missing ⊢
    rw [andThen_error, missing]
    exact StartOutcome.returns_error text rfl (fun _ _ => by simp) fun present => by cases present
  · dsimp only at found ⊢
    rw [andThen_ok, found]
    obtain ⟨cs', rfl, held⟩ := getJob_ok found
    exact transcribingJobRan_spec liveCaptionsOn (loads cs' rfl) held

theorem startTranscribingJob_spec (env : Env) (world : World) (held : Option CallJob) :
    a.startTranscribingJob.wp ((a.transcribing env world.store cs).Meets a.Accepts before)
      ⟨env, world, some cs, held, before⟩ := by
  unfold startTranscribingJob transcribing
  rw [wp_bind, wp_get, andThen_ok, deref_some, wp_bind, wp_pure, andThen_ok]
  refine wp_bind.mpr (wp_throwIf.mpr ⟨fun running => ?_, fun idle => ?_⟩)
  · rw [andThen_error, if_pos (.inl running)]
    exact StartOutcome.meets_error _ (List.append_nil _).symm
  rw [andThen_ok]
  refine wp_bind.mpr (wp_throwIf.mpr ⟨fun unnamed => ?_, fun named => ?_⟩)
  · rw [andThen_error, if_pos (.inr unnamed)]
    exact StartOutcome.meets_error _ (List.append_nil _).symm
  rw [andThen_ok, if_neg (not_or.mpr ⟨idle, named⟩), wp_bind]
  refine wp_createCallJob (fun text failed => ?_) fun withRow created => ?_
  · dsimp only at failed ⊢
    rw [andThen_error, failed]
    exact StartOutcome.meets_error _ (List.append_nil _).symm
  dsimp only at created ⊢
  rw [andThen_ok, created, wp_bind]
  dsimp only
  refine wp_when.mpr ⟨fun on => ?_, fun off => ?_⟩
  · rw [if_pos on]
    refine wp_createCallJob (fun text failed => ?_) fun withBoth createdBoth => ?_
    · dsimp only at failed ⊢
      rw [andThen_error, failed]
      exact StartOutcome.meets_error _ rfl
    dsimp only at createdBoth ⊢
    rw [andThen_ok, createdBoth, setJob, wp_bind, wp_modify, andThen_ok, on]
    dsimp only
    exact transcribingAsked_spec true env { world with store := withBoth } (List.append_assoc ..)
  · rw [if_neg off, andThen_ok, setJob, wp_bind, wp_modify, andThen_ok, Bool.eq_false_iff.mpr off]
    exact transcribingAsked_spec false env { world with store := withRow } rfl

theorem callTranscribing_spec (env : Env) (world : World) (held : Option CallJob) :
    a.callTranscribing.wp (fun result after =>
      (a.transcribing env world.store cs).Meets a.Accepts before result after ∧ after.job = held ∧ after.state = some cs)
      ⟨env, world, some cs, held, before⟩ := by
  unfold callTranscribing
  rw [wp_zoom]
  refine wp_mono (startTranscribingJob_spec env world none) fun result after ended => ⟨?_, rfl, rfl⟩
  cases outcome : a.transcribing env world.store cs <;> simpa [outcome, StartOutcome.Meets] using ended

theorem recordingJobRan_spec {row : String} (loads : a.relock.world.store.Loads a.channelID (some cs))
    (found : cs.recording = some job) :
    a.recordingJobRan.wp ((a.recordingRan row cs job).Returns a.Accepts before)
      ⟨a.relock.env, a.relock.world, some cs, some job, before ++ [row]⟩ := by
  unfold recordingJobRan recordingRan
  rw [wp_bind, wp_get, andThen_ok, deref_some, wp_bind, wp_pure, andThen_ok]
  dsimp only
  cases ran : a.recRan with
  | error jobErr =>
    dsimp only
    rw [setJob, wp_bind, wp_modify, andThen_ok, wp_bind]
    refine wp_endJob (failed_ne_zero a.relock.env job jobErr) fun store rows => ?_
    rw [andThen_ok]
    refine StartOutcome.wp_throw_returns _ rfl (fun accepts jobID => ?_) fun _ => rfl
    have saves : a.relock.env.saves ((job.ended a.relock.env.now).withErr jobErr) = true :=
      saves_of_loaded .recording accepts.updates accepts.valid loads found rfl
    simpa [CallJob.ended, CallJob.withErr] using rows saves jobID
  | ok jobID =>
    dsimp only
    refine wp_bind.mpr (wp_throwIf.mpr ⟨fun taken => ?_, fun free => ?_⟩)
    · rw [andThen_error, if_pos taken]
      exact StartOutcome.returns_error _ rfl (fun _ _ => by simp) fun _ => rfl
    rw [andThen_ok, if_neg free, setJob, wp_bind, wp_modify, andThen_ok, wp_bind]
    refine wp_updateCallJob (fun _ unsaved => ?_) fun saved => ?_
    · rw [andThen_error, if_pos unsaved]
      exact StartOutcome.returns_error _ rfl (fun _ _ => by simp) fun _ => rfl
    dsimp only at saved ⊢
    have notUnsaved : ¬ a.relock.env.saves (job.withJobID jobID) = false := by simp [saved]
    rw [andThen_ok, if_neg notUnsaved, wp_bind]
    refine wp_when.mpr ⟨fun on => ?_, fun off => ?_⟩
    · rw [if_pos on, wp_mapError]
      refine wp_mono (callTranscribing_spec _ _ _) ?_
      intro result after facts
      obtain ⟨ended, sameJob, sameState⟩ := facts
      cases outcome : a.transcribing a.relock.env (a.relock.world.store.saveJob (job.withJobID jobID)) cs with
      | started =>
        rw [outcome] at ended
        obtain ⟨value, rfl⟩ := ended
        refine (andThen_ok ..).mpr (wp_bind.mpr ?_)
        exact wp_publishJob sameJob sameState fun _ => ⟨_, rfl⟩
      | lockLost =>
        rw [outcome] at ended
        obtain rfl := ended
        exact .inl rfl
      | refused made found ended' =>
        rw [outcome] at ended
        obtain ⟨⟨text, rfl⟩, all, rows⟩ := ended
        refine StartOutcome.returns_error _ ?_ rows fun _ => by rw [sameState]; rfl
        rw [all, List.append_assoc]
        rfl
    · rw [if_neg off, andThen_ok, wp_bind]
      exact wp_publishJob rfl rfl fun _ => ⟨_, rfl⟩

theorem recordingAsked_spec {row : String} (env : Env) (world : World) :
    (Command.onReturned (do
      publishJob a.channelID
      lockAgain a.channelID a.relock
      loadJob .recording
      a.recordingJobRan) (relayReturned a.channelID)).wp
      ((a.recordingAsked row).Meets a.Accepts before)
      ⟨env, world, some cs, some job, before ++ [row]⟩ := by
  apply StartOutcome.Returns.deferred
  unfold recordingAsked
  rw [wp_bind]
  refine wp_publishJob rfl rfl fun published => ?_
  rw [andThen_ok, wp_bind]
  refine wp_lockAgain (fun err text failed => ?_) fun state answered loads => ?_
  · rw [andThen_error, failed]
    exact .inr ⟨text, rfl, rfl, rfl⟩
  rw [andThen_ok, answered, wp_bind]
  refine wp_loadJob (fun err text missing => ?_) fun recState found => ?_
  · have refuses : (StartOutcome.refused [row] a.relock.world.store []).Returns a.Accepts before
        (.error (.error text) : Except Failure CallJob) ⟨a.relock.env, a.relock.world, state, none, before ++ [row]⟩ :=
      StartOutcome.returns_error text rfl (fun _ _ => by simp) fun present => by cases present
    rw [andThen_error]
    cases state with
    | none => exact refuses
    | some cs' =>
      have absent : cs'.recording = none := by
        cases held : cs'.recording with
        | none => rfl
        | some recState => simp [getJob, CallState.job?, held] at missing
      dsimp only
      rw [absent]
      exact refuses
  · dsimp only at found ⊢
    obtain ⟨cs', rfl, held⟩ := getJob_ok found
    dsimp only
    rw [andThen_ok, show cs'.recording = some recState from held]
    exact recordingJobRan_spec (loads cs' rfl) held

theorem startRecordingJob_spec (env : Env) (world : World) (held : Option CallJob) :
    a.startRecordingJob.wp ((a.recording env world.store cs).Meets a.Accepts before)
      ⟨env, world, some cs, held, before⟩ := by
  unfold startRecordingJob recording
  rw [wp_bind, wp_get, andThen_ok, deref_some, wp_bind, wp_pure, andThen_ok]
  refine wp_bind.mpr (wp_throwIf.mpr ⟨fun running => ?_, fun idle => ?_⟩)
  · rw [andThen_error, if_pos running]
    exact StartOutcome.meets_error _ (List.append_nil _).symm
  rw [andThen_ok, if_neg idle, wp_bind]
  refine wp_createCallJob (fun text failed => ?_) fun withRow created => ?_
  · dsimp only at failed ⊢
    rw [andThen_error, failed]
    exact StartOutcome.meets_error _ (List.append_nil _).symm
  dsimp only at created ⊢
  rw [andThen_ok, created, setJob, wp_bind, wp_modify, andThen_ok]
  exact recordingAsked_spec env { world with store := withRow }

end

end RecordingAttempt

end Calls
