import Calls.Server.RecordingOutcomes

/-! Which starts stop at a pointer that is nil, and which ones return an error with a row
that they have created left open. -/

set_option autoImplicit false

namespace Calls

open Command StartHandler

def Relock.Fails (r : Relock) (channelID : String) : Prop := ∃ err, r.find channelID = .error err

/-- The start returns an error, and `row`, which it or its caller has created, is open. -/
def StartOutcome.Leaves (before : List String) (row : String) : StartOutcome → Prop
  | .refused created found ended => row ∈ before ++ created ∧ found.OpenRow row ∧ row ∉ ended
  | _ => False

theorem StartOutcome.leaves_after {created row : String} {outcome : StartOutcome} :
    (outcome.after created).Leaves [] row ↔ outcome.Leaves [created] row := by
  cases outcome <;> simp [StartOutcome.after, StartOutcome.Leaves]

namespace RecordingAttempt

section
variable (a : RecordingAttempt) (env : Env) (store : Store) (cs : CallState)

def transcriptionRows (env : Env) : List String := a.trID :: if env.config.liveCaptionsEnabled then [a.lcID] else []

/-- The rows of the transcription are created, and the job service is asked for it. -/
structure AsksTranscription : Prop where
  idle : cs.inProgress .transcribing = false
  named : a.trID ≠ ""
  created : ∃ withRow, env.created? (newCallJob env cs a.trID .transcribing a.userID) store = some withRow ∧
    (env.config.liveCaptionsEnabled = true → env.created? (newCallJob env cs a.lcID .captioning a.userID) withRow ≠ none)

/-- The row of the recording is created, and the job service is asked for it. -/
structure AsksRecording : Prop where
  idle : cs.inProgress .recording = false
  created : env.created? (newCallJob env cs env.newID .recording a.userID) store ≠ none

/-- The recording has started, and the transcription is up next, with the state and the store that it finds. -/
inductive GoesOn : CallState → Store → Prop where
  | started {cs' : CallState} {recState : CallJob} {jobID : String} (asks : a.AsksRecording env store cs)
      (found : a.relock.find a.channelID = .ok (some cs')) (loaded : cs'.recording = some recState)
      (ran : a.recRan = .ok jobID) (free : recState.props.jobID = "")
      (saved : a.relock.env.saves (recState.withJobID jobID) = true)
      (enabled : a.relock.env.config.transcriptionsEnabled = true) :
      GoesOn cs' (a.relock.world.store.saveJob (recState.withJobID jobID))

/-- A row of the start, which has created `before`, is still open where the transcription is refused. -/
inductive TranscriptionLeaves (before : List String) : String → Prop where
  | notMade {row : String} (unable : cs.inProgress .transcribing = true ∨ a.trID = "" ∨
        env.created? (newCallJob env cs a.trID .transcribing a.userID) store = none)
      (member : row ∈ before) (rest : store.OpenRow row) : TranscriptionLeaves before row
  | notCaptioned {row : String} {withRow : Store} (idle : cs.inProgress .transcribing = false) (named : a.trID ≠ "")
      (created : env.created? (newCallJob env cs a.trID .transcribing a.userID) store = some withRow)
      (on : env.config.liveCaptionsEnabled = true)
      (failed : env.created? (newCallJob env cs a.lcID .captioning a.userID) withRow = none)
      (member : row ∈ before ++ [a.trID]) (rest : withRow.OpenRow row) : TranscriptionLeaves before row
  | gone {row err : String} {state : Option CallState} (asks : a.AsksTranscription env store cs)
      (found : a.relockAgain.find a.channelID = .ok state) (missing : getJob .transcribing state = .error err)
      (member : row ∈ before ++ a.transcriptionRows env) (rest : a.relockAgain.world.store.OpenRow row) :
      TranscriptionLeaves before row
  | notRun {row err : String} {state : Option CallState} {trState : CallJob} (asks : a.AsksTranscription env store cs)
      (found : a.relockAgain.find a.channelID = .ok state) (loaded : getJob .transcribing state = .ok trState)
      (ran : a.trRan = .error err)
      (member : row ∈ before ++ a.transcriptionRows env) (rest : a.relockAgain.world.store.OpenRow row)
      (other : row ≠ trState.id)
      (alsoOther : ∀ lcState, env.config.liveCaptionsEnabled = true → getJob .captioning state = .ok lcState → row ≠ lcState.id) :
      TranscriptionLeaves before row
  | alreadyRun {row jobID : String} {state : Option CallState} {trState : CallJob} (asks : a.AsksTranscription env store cs)
      (found : a.relockAgain.find a.channelID = .ok state) (loaded : getJob .transcribing state = .ok trState)
      (ran : a.trRan = .ok jobID) (taken : trState.props.jobID ≠ "")
      (member : row ∈ before ++ a.transcriptionRows env) (rest : a.relockAgain.world.store.OpenRow row) :
      TranscriptionLeaves before row

/-- A row of the start is still open where it is refused. -/
inductive LeavesOpen : String → Prop where
  | gone {err : String} {state : Option CallState} (asks : a.AsksRecording env store cs)
      (found : a.relock.find a.channelID = .ok state) (missing : getJob .recording state = .error err)
      (rest : a.relock.world.store.OpenRow env.newID) : LeavesOpen env.newID
  | notRun {err : String} {state : Option CallState} {recState : CallJob} (asks : a.AsksRecording env store cs)
      (found : a.relock.find a.channelID = .ok state) (loaded : getJob .recording state = .ok recState)
      (ran : a.recRan = .error err) (rest : a.relock.world.store.OpenRow env.newID) (other : env.newID ≠ recState.id) :
      LeavesOpen env.newID
  | alreadyRun {jobID : String} {state : Option CallState} {recState : CallJob} (asks : a.AsksRecording env store cs)
      (found : a.relock.find a.channelID = .ok state) (loaded : getJob .recording state = .ok recState)
      (ran : a.recRan = .ok jobID) (taken : recState.props.jobID ≠ "")
      (rest : a.relock.world.store.OpenRow env.newID) : LeavesOpen env.newID
  | transcription {row : String} {cs' : CallState} {after : Store} (goesOn : a.GoesOn env store cs cs' after)
      (leaves : a.TranscriptionLeaves a.relock.env after cs' [env.newID] row) : LeavesOpen row

end

section
variable {a : RecordingAttempt} {env : Env} {store : Store} {cs : CallState}

theorem transcribing_of_asks (asks : a.AsksTranscription env store cs) :
    a.transcribing env store cs = a.transcribingAsked env.config.liveCaptionsEnabled (a.transcriptionRows env) := by
  obtain ⟨withRow, created, captions⟩ := asks.created
  have free : ¬ (cs.inProgress .transcribing = true ∨ a.trID = "") := by simp [asks.idle, asks.named]
  unfold transcribing transcriptionRows
  rw [if_neg free, created]
  dsimp only
  by_cases on : env.config.liveCaptionsEnabled = true
  · obtain ⟨withBoth, createdBoth⟩ := Option.ne_none_iff_exists'.mp (captions on)
    rw [if_pos on, if_pos on, createdBoth, on]
  · rw [if_neg on, if_neg on, Bool.eq_false_iff.mpr on]

theorem recording_of_asks (asks : a.AsksRecording env store cs) : a.recording env store cs = a.recordingAsked env.newID := by
  obtain ⟨withRow, created⟩ := Option.ne_none_iff_exists'.mp asks.created
  unfold recording
  rw [if_neg (by simp [asks.idle]), created]

theorem recording_of_not_asks (asks : ¬ a.AsksRecording env store cs) : a.recording env store cs = .refused [] store [] := by
  unfold recording
  split
  · rfl
  · rename_i idle
    cases created : env.created? (newCallJob env cs env.newID .recording a.userID) store with
    | none => rfl
    | some withRow => exact absurd ⟨by simpa using idle, by rw [created]; exact Option.some_ne_none _⟩ asks

theorem recording_of_goesOn {cs' : CallState} {after : Store} (goesOn : a.GoesOn env store cs cs' after) :
    a.recording env store cs = (a.transcribing a.relock.env after cs').after env.newID := by
  obtain ⟨asks, found, loaded, ran, free, saved, enabled⟩ := goesOn
  rw [recording_of_asks asks]
  unfold recordingAsked recordingRan
  simp only [found, loaded, ran, free, saved, enabled]
  simp

/-- The exits of a start, one by one. -/
theorem recording_cases {motive : StartOutcome → Prop}
    (notAsked : ¬ a.AsksRecording env store cs → motive (.refused [] store []))
    (lost : a.AsksRecording env store cs → a.relock.Fails a.channelID → motive .lockLost)
    (gone : ∀ state err, a.AsksRecording env store cs → a.relock.find a.channelID = .ok state →
      getJob .recording state = .error err → motive (.refused [env.newID] a.relock.world.store []))
    (notRun : ∀ state recState err, a.AsksRecording env store cs → a.relock.find a.channelID = .ok state →
      getJob .recording state = .ok recState → a.recRan = .error err →
      motive (.refused [env.newID] a.relock.world.store [recState.id]))
    (alreadyRun : ∀ state recState jobID, a.AsksRecording env store cs → a.relock.find a.channelID = .ok state →
      getJob .recording state = .ok recState → a.recRan = .ok jobID →
      recState.props.jobID ≠ "" ∨ a.relock.env.saves (recState.withJobID jobID) = false →
      motive (.refused [env.newID] a.relock.world.store []))
    (alone : motive .started)
    (goesOn : ∀ cs' after, a.GoesOn env store cs cs' after → motive ((a.transcribing a.relock.env after cs').after env.newID)) :
    motive (a.recording env store cs) := by
  by_cases asks : a.AsksRecording env store cs
  · rw [recording_of_asks asks]
    unfold recordingAsked
    cases found : a.relock.find a.channelID with
    | error err => exact lost asks ⟨err, found⟩
    | ok state =>
      cases state with
      | none => exact gone none _ asks found rfl
      | some cs' =>
        dsimp only
        cases loaded : cs'.recording with
        | none => exact gone (some cs') ("no recording ongoing") asks found (by simp [getJob, CallState.job?, loaded]; rfl)
        | some recState =>
          have job : getJob .recording (some cs') = .ok recState := by simp [getJob, CallState.job?, loaded]
          dsimp only
          unfold recordingRan
          cases ran : a.recRan with
          | error err => exact notRun _ _ err asks found job ran
          | ok jobID =>
            dsimp only
            split
            · rename_i taken
              exact alreadyRun _ _ _ asks found job ran (.inl taken)
            rename_i free
            split
            · rename_i unsaved
              exact alreadyRun _ _ _ asks found job ran (.inr unsaved)
            rename_i saved
            split
            · rename_i enabled
              exact goesOn _ _ (.started asks found loaded ran (by simpa using free) (by simpa using saved) enabled)
            · exact alone
  · rw [recording_of_not_asks asks]
    exact notAsked asks

theorem transcribing_cases {motive : StartOutcome → Prop}
    (notMade : (cs.inProgress .transcribing = true ∨ a.trID = "" ∨
      env.created? (newCallJob env cs a.trID .transcribing a.userID) store = none) → motive (.refused [] store []))
    (notCaptioned : ∀ withRow, cs.inProgress .transcribing = false → a.trID ≠ "" →
      env.created? (newCallJob env cs a.trID .transcribing a.userID) store = some withRow → env.config.liveCaptionsEnabled = true →
      env.created? (newCallJob env cs a.lcID .captioning a.userID) withRow = none → motive (.refused [a.trID] withRow []))
    (lost : a.AsksTranscription env store cs → a.relockAgain.Fails a.channelID → motive .lockLost)
    (gone : ∀ state err, a.AsksTranscription env store cs → a.relockAgain.find a.channelID = .ok state →
      getJob .transcribing state = .error err → motive (.refused (a.transcriptionRows env) a.relockAgain.world.store []))
    (ran : ∀ state trState, a.AsksTranscription env store cs → a.relockAgain.find a.channelID = .ok state →
      getJob .transcribing state = .ok trState →
      motive (a.transcribingRan env.config.liveCaptionsEnabled (a.transcriptionRows env) state trState)) :
    motive (a.transcribing env store cs) := by
  by_cases asks : a.AsksTranscription env store cs
  · rw [transcribing_of_asks asks]
    unfold transcribingAsked
    cases found : a.relockAgain.find a.channelID with
    | error err => exact lost asks ⟨err, found⟩
    | ok state =>
      dsimp only
      cases loaded : getJob .transcribing state with
      | error err => exact gone state err asks found loaded
      | ok trState => exact ran state trState asks found loaded
  unfold transcribing
  split
  · rename_i unable
    exact notMade (unable.imp_right .inl)
  rename_i able
  obtain ⟨idle, named⟩ := not_or.mp able
  have idle : cs.inProgress .transcribing = false := by simpa using idle
  cases created : env.created? (newCallJob env cs a.trID .transcribing a.userID) store with
  | none => exact notMade (.inr (.inr created))
  | some withRow =>
    dsimp only
    split
    · rename_i on
      cases captions : env.created? (newCallJob env cs a.lcID .captioning a.userID) withRow with
      | none => exact notCaptioned withRow idle named created on captions
      | some withBoth =>
        have makes : env.created? (newCallJob env cs a.lcID .captioning a.userID) withRow ≠ none := by simp [captions]
        exact absurd ⟨idle, named, withRow, created, fun _ => makes⟩ asks
    · rename_i off
      exact absurd ⟨idle, named, withRow, created, fun on => absurd on off⟩ asks

theorem transcribingRan_ne_lockLost (liveCaptionsOn : Bool) (created : List String) (state : Option CallState) (job : CallJob) :
    a.transcribingRan liveCaptionsOn created state job ≠ .lockLost := by
  unfold transcribingRan
  dsimp only
  repeat' split
  all_goals exact StartOutcome.noConfusion

theorem transcribing_of_found {state : Option CallState} {trState : CallJob} (asks : a.AsksTranscription env store cs)
    (found : a.relockAgain.find a.channelID = .ok state) (loaded : getJob .transcribing state = .ok trState) :
    a.transcribing env store cs =
      a.transcribingRan env.config.liveCaptionsEnabled (a.transcriptionRows env) state trState := by
  rw [transcribing_of_asks asks]
  unfold transcribingAsked
  rw [found]
  dsimp only
  rw [loaded]

theorem transcribing_eq_lockLost :
    a.transcribing env store cs = .lockLost ↔ a.AsksTranscription env store cs ∧ a.relockAgain.Fails a.channelID := by
  constructor
  · apply transcribing_cases (motive := fun outcome => outcome = .lockLost →
      a.AsksTranscription env store cs ∧ a.relockAgain.Fails a.channelID)
    case lost => exact fun asks fails _ => ⟨asks, fails⟩
    case ran => exact fun _ _ _ _ _ lost => absurd lost (transcribingRan_ne_lockLost _ _ _ _)
    all_goals
      intros
      contradiction
  · intro facts
    obtain ⟨asks, err, found⟩ := facts
    rw [transcribing_of_asks asks]
    unfold transcribingAsked
    rw [found]

theorem recording_of_missing {state : Option CallState} {err : String} (asks : a.AsksRecording env store cs)
    (found : a.relock.find a.channelID = .ok state) (missing : getJob .recording state = .error err) :
    a.recording env store cs = .refused [env.newID] a.relock.world.store [] := by
  rw [recording_of_asks asks]
  unfold recordingAsked
  rw [found]
  cases state with
  | none => rfl
  | some cs' =>
    cases held : cs'.recording with
    | none =>
      dsimp only
      rw [held]
    | some recState => simp [getJob, CallState.job?, held] at missing

theorem recording_of_found {state : Option CallState} {recState : CallJob} (asks : a.AsksRecording env store cs)
    (found : a.relock.find a.channelID = .ok state) (loaded : getJob .recording state = .ok recState) :
    ∃ cs', a.recording env store cs = a.recordingRan env.newID cs' recState := by
  obtain ⟨cs', rfl, held⟩ := getJob_ok loaded
  refine ⟨cs', ?_⟩
  rw [recording_of_asks asks]
  unfold recordingAsked
  rw [found]
  dsimp only
  rw [show cs'.recording = some recState from held]

theorem recording_eq_lockLost :
    a.recording env store cs = .lockLost ↔ a.AsksRecording env store cs ∧ a.relock.Fails a.channelID ∨
      ∃ cs' after, a.GoesOn env store cs cs' after ∧ a.AsksTranscription a.relock.env after cs' ∧
        a.relockAgain.Fails a.channelID := by
  constructor
  · apply recording_cases (motive := fun outcome => outcome = .lockLost →
      a.AsksRecording env store cs ∧ a.relock.Fails a.channelID ∨ ∃ cs' after, a.GoesOn env store cs cs' after ∧
        a.AsksTranscription a.relock.env after cs' ∧ a.relockAgain.Fails a.channelID)
    case lost => exact fun asks fails _ => .inl ⟨asks, fails⟩
    case goesOn =>
      intro cs' after goesOn lost
      exact .inr ⟨cs', after, goesOn, transcribing_eq_lockLost.mp (StartOutcome.after_eq_lockLost.mp lost)⟩
    all_goals
      intros
      contradiction
  · intro either
    rcases either with ⟨asks, err, found⟩ | ⟨cs', after, goesOn, lost⟩
    · rw [recording_of_asks asks]
      unfold recordingAsked
      rw [found]
    · rw [recording_of_goesOn goesOn]
      exact StartOutcome.after_eq_lockLost.mpr (transcribing_eq_lockLost.mpr lost)

theorem saves_of_found {r : Relock} {channelID : String} {state : Option CallState} {job saved : CallJob} (type : JobType)
    (updates : ∀ jobID, r.env.faults (.updateCallJob jobID) = false) (valid : r.world.store.JobsValid)
    (found : r.find channelID = .ok state) (loaded : getJob type state = .ok job) (same : saved.identity = job.identity) :
    r.env.saves saved = true := by
  obtain ⟨cs, rfl, held⟩ := getJob_ok loaded
  obtain ⟨-, ⟨⟨err, failed⟩, -⟩ | ⟨state, answered, loads, -⟩⟩ := lockCallReturnState_spec r.env channelID r.world
  · rw [Relock.find, failed] at found
    cases found
  · rw [Relock.find, answered] at found
    cases found
    exact saves_of_loaded type updates valid loads held same

theorem transcribing_leaves {before : List String} {row : String} (accepts : a.Accepts) :
    (a.transcribing env store cs).Leaves before row ↔ a.TranscriptionLeaves env store cs before row := by
  constructor
  · apply transcribing_cases (motive := fun outcome => outcome.Leaves before row → a.TranscriptionLeaves env store cs before row)
    case notMade =>
      intro unable facts
      obtain ⟨member, rest, -⟩ := facts
      exact .notMade unable (by simpa using member) rest
    case notCaptioned =>
      intro withRow idle named created on failed facts
      obtain ⟨member, rest, -⟩ := facts
      exact .notCaptioned idle named created on failed member rest
    case lost => exact fun _ _ leaves => leaves.elim
    case gone =>
      intro state err asks found missing facts
      obtain ⟨member, rest, -⟩ := facts
      exact .gone asks found missing member rest
    case ran =>
      intro state trState asks found loaded leaves
      unfold transcribingRan at leaves
      cases ran : a.trRan with
      | error err =>
        rw [ran] at leaves
        obtain ⟨member, rest, other⟩ := leaves
        refine .notRun asks found loaded ran member rest (fun same => other (by simp [same])) fun lcState on held same => ?_
        exact other (by simp [on, held, same, Except.toOption])
      | ok jobID =>
        simp only [ran] at leaves
        split at leaves
        · rename_i taken
          exact .alreadyRun asks found loaded ran taken leaves.1 leaves.2.1
        split at leaves
        · rename_i unsaved
          have saved : a.relockAgain.env.saves (trState.withJobID jobID) = true :=
            saves_of_found .transcribing accepts.updatesAgain accepts.validAgain found loaded rfl
          rw [saved] at unsaved
          cases unsaved
        cases on : env.config.liveCaptionsEnabled with
        | false => simp [on, StartOutcome.Leaves] at leaves
        | true =>
          simp only [on, if_true] at leaves
          cases captions : getJob .captioning state with
          | error err => simp [captions, Except.toOption, StartOutcome.Leaves] at leaves
          | ok job =>
            have saved : a.relockAgain.env.saves (job.withJobID jobID) = true :=
              saves_of_found .captioning accepts.updatesAgain accepts.validAgain found captions rfl
            simp [captions, saved, Except.toOption, StartOutcome.Leaves] at leaves
  · intro leaves
    cases leaves with
    | notMade unable member rest =>
      have refused : a.transcribing env store cs = .refused [] store [] := by
        unfold transcribing
        split
        · rfl
        · rename_i able
          rw [(not_or.mp able).elim fun idle named => (unable.resolve_left idle).resolve_left named]
      rw [refused]
      exact ⟨by simpa using member, rest, List.not_mem_nil⟩
    | notCaptioned idle named created on failed member rest =>
      have able : ¬ (cs.inProgress .transcribing = true ∨ a.trID = "") := by simp [idle, named]
      unfold transcribing
      rw [if_neg able, created]
      dsimp only
      rw [if_pos on, failed]
      exact ⟨member, rest, List.not_mem_nil⟩
    | gone asks found missing member rest =>
      rw [transcribing_of_asks asks]
      unfold transcribingAsked
      rw [found]
      dsimp only
      rw [missing]
      exact ⟨member, rest, List.not_mem_nil⟩
    | @notRun _ state _ asks found loaded ran member rest other alsoOther =>
      rw [transcribing_of_found asks found loaded]
      unfold transcribingRan
      rw [ran]
      refine ⟨member, rest, List.not_mem_cons_of_ne_of_not_mem other fun captions => ?_⟩
      obtain ⟨lcState, held, same⟩ := List.mem_map.mp captions
      have held := Option.mem_toList.mp held
      split at held
      · rename_i on
        cases loadedToo : getJob .captioning state with
        | error err => simp [loadedToo, Except.toOption] at held
        | ok job =>
          simp only [loadedToo, Except.toOption, Option.some.injEq] at held
          subst held
          exact alsoOther job on loadedToo same.symm
      · cases held
    | alreadyRun asks found loaded ran taken member rest =>
      rw [transcribing_of_found asks found loaded]
      unfold transcribingRan
      rw [ran]
      dsimp only
      rw [if_pos taken]
      exact ⟨member, rest, List.not_mem_nil⟩

theorem recording_leaves {row : String} (accepts : a.Accepts) :
    (a.recording env store cs).Leaves [] row ↔ a.LeavesOpen env store cs row := by
  constructor
  · apply recording_cases (motive := fun outcome => outcome.Leaves [] row → a.LeavesOpen env store cs row)
    case notAsked =>
      intro _ facts
      obtain ⟨member, -⟩ := facts
      cases member
    case lost => exact fun _ _ leaves => leaves.elim
    case gone =>
      intro state err asks found missing facts
      obtain ⟨member, rest, -⟩ := facts
      obtain rfl := List.mem_singleton.mp member
      exact .gone asks found missing rest
    case notRun =>
      intro state recState err asks found loaded ran facts
      obtain ⟨member, rest, other⟩ := facts
      obtain rfl := List.mem_singleton.mp member
      exact .notRun asks found loaded ran rest (by simpa using other)
    case alreadyRun =>
      intro state recState jobID asks found loaded ran taken facts
      obtain ⟨member, rest, -⟩ := facts
      obtain rfl := List.mem_singleton.mp member
      refine .alreadyRun asks found loaded ran (taken.resolve_right fun unsaved => ?_) rest
      have saved : a.relock.env.saves (recState.withJobID jobID) = true :=
        saves_of_found .recording accepts.updates accepts.valid found loaded rfl
      rw [saved] at unsaved
      cases unsaved
    case alone => exact fun leaves => leaves.elim
    case goesOn =>
      intro cs' after goesOn leaves
      exact .transcription goesOn ((transcribing_leaves accepts).mp (StartOutcome.leaves_after.mp leaves))
  · intro leaves
    cases leaves with
    | gone asks found missing rest =>
      rw [recording_of_missing asks found missing]
      exact ⟨List.mem_singleton_self _, rest, List.not_mem_nil⟩
    | notRun asks found loaded ran rest other =>
      obtain ⟨cs', same⟩ := recording_of_found asks found loaded
      rw [same]
      unfold recordingRan
      rw [ran]
      exact ⟨List.mem_singleton_self _, rest, by simpa using other⟩
    | alreadyRun asks found loaded ran taken rest =>
      obtain ⟨cs', same⟩ := recording_of_found asks found loaded
      rw [same]
      unfold recordingRan
      rw [ran]
      dsimp only
      rw [if_pos taken]
      exact ⟨List.mem_singleton_self _, rest, List.not_mem_nil⟩
    | transcription goesOn leaves =>
      rw [recording_of_goesOn goesOn]
      exact StartOutcome.leaves_after.mpr ((transcribing_leaves accepts).mpr leaves)

end

theorem startRecordingJob_meets (a : RecordingAttempt) (env : Env) (world : World) (cs : CallState) :
    (a.recording env world.store cs).Meets a.Accepts [] (a.startRecordingJob (.begun env world cs)).1
      (a.startRecordingJob (.begun env world cs)).2 := startRecordingJob_spec env world none

theorem startTranscribingJob_meets (a : RecordingAttempt) (env : Env) (world : World) (cs : CallState) :
    (a.transcribing env world.store cs).Meets a.Accepts [] (a.startTranscribingJob (.begun env world cs)).1
      (a.startTranscribingJob (.begun env world cs)).2 := startTranscribingJob_spec env world none

/-! ### Pointers that are nil -/

/-- Neither of the functions uses a nil state or a nil job, its deferred function included. -/
def NeverNil (a : RecordingAttempt) (env : Env) (world : World) (cs : CallState) : Prop :=
  (a.startRecordingJob (.begun env world cs)).1 ≠ .error .nilDereference ∧
    (a.startTranscribingJob (.begun env world cs)).1 ≠ .error .nilDereference

theorem neverNil_iff {a : RecordingAttempt} {env : Env} {world : World} {cs : CallState} :
    a.NeverNil env world cs ↔
      (a.AsksRecording env world.store cs → ¬ a.relock.Fails a.channelID) ∧
        (∀ cs' after, a.GoesOn env world.store cs cs' after → a.AsksTranscription a.relock.env after cs' →
          ¬ a.relockAgain.Fails a.channelID) ∧
        (a.AsksTranscription env world.store cs → ¬ a.relockAgain.Fails a.channelID) := by
  unfold NeverNil
  rw [Ne, Ne, (startRecordingJob_meets a env world cs).nil_iff, (startTranscribingJob_meets a env world cs).nil_iff,
    recording_eq_lockLost, transcribing_eq_lockLost]
  constructor
  · intro facts
    obtain ⟨never, neverTranscribed⟩ := facts
    refine ⟨fun asks fails => never (.inl ⟨asks, fails⟩), fun cs' after goesOn asks fails => ?_, fun asks fails => ?_⟩
    · exact never (.inr ⟨cs', after, goesOn, asks, fails⟩)
    · exact neverTranscribed ⟨asks, fails⟩
  · intro facts
    obtain ⟨first, second, alone⟩ := facts
    refine ⟨?_, fun lost => alone lost.1 lost.2⟩
    intro either
    rcases either with ⟨asks, fails⟩ | ⟨cs', after, goesOn, asks, fails⟩
    · exact first asks fails
    · exact second cs' after goesOn asks fails

end RecordingAttempt

/-- The call in which Alice asks for a recording. -/
def aliceRecording : CallState where
  call := { id := "call", channelID := "channel", startAt := 1000, createAt := 1000, postID := "post", ownerID := "alice", props := .zero }
  sessions := KeyedTable.empty.put { id := "conn-1", callID := "call", userID := "alice", joinAt := 1000 }
  recording := none
  transcription := none
  liveCaptions := none

/-- Her call in the store, with the given jobs. -/
def aliceStoredWith (jobs : List CallJob) : World :=
  { World.empty with
    store :=
      { calls := KeyedTable.empty.put aliceRecording.call
        sessions := aliceRecording.sessions
        jobs := jobs.foldl KeyedTable.put .empty } }

/-- The job service answers the request for the recording. Nothing else happens in the meantime. -/
def aliceAsked (recRan trRan : RunJobResult) (relockEnv : Env) : RecordingAttempt :=
  let recState := newCallJob (.quiet 1002 "rec") aliceRecording "rec" .recording "alice"
  let trState := newCallJob (.quiet 1010 "tr") aliceRecording "tr" .transcribing "alice"
  { channelID := "channel"
    userID := "alice"
    recRan
    relock := ⟨relockEnv, aliceStoredWith [recState]⟩
    trID := "tr"
    lcID := "lc"
    trRan
    relockAgain := ⟨.quiet 1020 "", aliceStoredWith [recState.withJobID "rec-job", trState]⟩ }

/-- The lock of her call is not acquired before the timeout. -/
theorem RecordingAttempt.not_neverNil : ¬ ∀ (a : RecordingAttempt) (env : Env) (world : World) (cs : CallState),
    a.NeverNil env world cs := by
  intro all
  have never := all (aliceAsked (.ok "rec-job") (.ok "tr-job") { Env.quiet 1010 "" with lockFails := true }) (.quiet 1002 "rec")
    (aliceStoredWith []) aliceRecording
  exact never.1 (by decide +kernel)

/-! ### Rows left open -/

namespace RecordingAttempt

/-- When the start returns an error, no row that it has created is open. -/
def CleansUp (a : RecordingAttempt) (env : Env) (world : World) (cs : CallState) : Prop :=
  ∀ text, (a.startRecordingJob (.begun env world cs)).1 = .error (.error text) →
    ∀ jobID ∈ (a.startRecordingJob (.begun env world cs)).2.created,
      ¬ (a.startRecordingJob (.begun env world cs)).2.world.store.OpenRow jobID

theorem cleansUp_iff {a : RecordingAttempt} {env : Env} {world : World} {cs : CallState} (accepts : a.Accepts) :
    a.CleansUp env world cs ↔ ∀ jobID, ¬ a.LeavesOpen env world.store cs jobID := by
  have meets := startRecordingJob_meets a env world cs
  unfold CleansUp
  generalize a.startRecordingJob (.begun env world cs) = ran at meets ⊢
  rw [forall_congr' fun jobID => not_congr (recording_leaves accepts).symm]
  cases outcome : a.recording env world.store cs with
  | started =>
    rw [outcome] at meets
    obtain ⟨value, same⟩ := meets
    simp [same, StartOutcome.Leaves]
  | lockLost =>
    rw [outcome] at meets
    simp [show ran.1 = _ from meets, StartOutcome.Leaves]
  | refused created found ended =>
    rw [outcome] at meets
    obtain ⟨⟨text, same⟩, made, rows⟩ := meets
    simp [same, made, rows accepts, StartOutcome.Leaves]

theorem aliceAsked_accepts (recRan trRan : RunJobResult) {relockEnv : Env} (works : relockEnv.StoreWorks) :
    (aliceAsked recRan trRan relockEnv).Accepts where
  updates jobID := works _
  updatesAgain jobID := rfl
  valid := by
    intro row member
    obtain rfl := List.mem_singleton.mp member
    decide
  validAgain := by
    intro row member
    rcases List.mem_cons.mp member with rfl | member
    · decide
    · obtain rfl := List.mem_singleton.mp member
      decide

theorem cleansUp_aliceAsked :
    (aliceAsked (.error "no runner") (.ok "tr-job") (.quiet 1010 "")).CleansUp (.quiet 1002 "rec") (aliceStoredWith []) aliceRecording ∧
      ((aliceAsked (.error "no runner") (.ok "tr-job") (.quiet 1010 "")).startRecordingJob
        (.begun (.quiet 1002 "rec") (aliceStoredWith []) aliceRecording)).1 =
        .error (.error "failed to create recording job: no runner") := by
  refine ⟨(cleansUp_iff (aliceAsked_accepts _ _ fun _ => rfl)).mpr fun jobID leaves => ?_, by decide +kernel⟩
  have leaves := (recording_leaves (aliceAsked_accepts _ _ fun _ => rfl)).mpr leaves
  have computed : (aliceAsked (.error "no runner") (.ok "tr-job") (.quiet 1010 "")).recording (.quiet 1002 "rec")
      (aliceStoredWith []).store aliceRecording = .refused ["rec"] (aliceStoredWith [newCallJob (.quiet 1002 "rec") aliceRecording "rec" .recording "alice"]).store ["rec"] := by
    decide +kernel
  rw [computed] at leaves
  exact leaves.2.2 leaves.1

/-- The environment in which recordings are transcribed. -/
def aliceTranscribed : Env :=
  { Env.quiet 1010 "" with config := { defaultEnabled := some true, enableRecordings := some true, enableTranscriptions := some true } }

/-- The job service takes the recording and not the transcription: the recording is never ended. -/
theorem not_cleansUp : ¬ ∀ (a : RecordingAttempt) (env : Env) (world : World) (cs : CallState), a.Accepts → a.CleansUp env world cs := by
  intro all
  have cleans := all (aliceAsked (.ok "rec-job") (.error "no runner") aliceTranscribed) (.quiet 1002 "rec")
    (aliceStoredWith []) aliceRecording (aliceAsked_accepts _ _ fun _ => rfl)
    "failed to start transcribing job: failed to create transcription job: no runner" (by decide +kernel) "rec" (by decide +kernel)
  apply cleans
  have opened : ("rec", (0 : Int)) ∈ ((aliceAsked (.ok "rec-job") (.error "no runner") aliceTranscribed).startRecordingJob
      (.begun (.quiet 1002 "rec") (aliceStoredWith []) aliceRecording)).2.world.store.jobs.rows.map fun row => (row.id, row.endAt) := by
    decide +kernel
  obtain ⟨row, member, same⟩ := List.mem_map.mp opened
  exact ⟨row, member, congrArg Prod.fst same, congrArg Prod.snd same⟩

end RecordingAttempt

end Calls
