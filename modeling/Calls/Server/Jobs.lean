import Calls.Server.State

/-! The jobs of a call: recording, transcription and live captions. A handler
that holds the lock of the call changes the state it loaded together with the
store, and a failure leaves both as they then are. -/

set_option autoImplicit false

namespace Calls

namespace CallState

def job? (cs : CallState) : JobType → Option CallJob
  | .recording => cs.recording
  | .transcribing => cs.transcription
  | .captioning => cs.liveCaptions

def withJob (cs : CallState) (job : CallJob) : JobType → CallState
  | .recording => { cs with recording := some job }
  | .transcribing => { cs with transcription := some job }
  | .captioning => { cs with liveCaptions := some job }

/-- `state.X != nil && state.X.EndAt == 0`. -/
def inProgress (cs : CallState) (type : JobType) : Bool := (cs.job? type).any fun job => job.endAt = 0

end CallState

/-- What a handler holding the lock of a call acts on. -/
structure LockedCall where
  world : World
  state : CallState
  deriving DecidableEq

abbrev LockedHandler := Command LockedCall String

namespace LockedHandler

def onWorld {α : Type} (command : Handler α) : LockedHandler α :=
  command.zoom LockedCall.world fun world locked => { locked with world }

def onStore {α : Type} (command : StoreCommand α) : LockedHandler α := onWorld (Handler.onStore command)

def modifyState (change : CallState → CallState) : LockedHandler Unit :=
  .modify fun locked => { locked with state := change locked.state }

def getState : LockedHandler CallState := do
  let locked ← .get
  pure locked.state

/-- Publish to everybody in the call. -/
def publishToParticipants (env : Env) (channelID : String) (ev : WsEvent) : LockedHandler Unit := do
  let state ← getState
  onWorld (Handler.publish env ev (state.toParticipants channelID))

def publishJobState (env : Env) (channelID : String) (job : CallJob) : LockedHandler Unit :=
  publishToParticipants env channelID (.callJobState channelID (getClientStateFromCallJob job))

/-- Store a job of the state as it has become. -/
def saveJob (env : Env) (job : CallJob) (type : JobType) : LockedHandler Unit := do
  modifyState (·.withJob job type)
  (onStore (Store.updateCallJob env.faults job)).mapError ("failed to update call job: " ++ ·)

/-- Run a handler on a state loaded before. -/
def runOn {α : Type} (state : CallState) (command : LockedHandler α) : Handler α := fun world =>
  ((command ⟨world, state⟩).1, (command ⟨world, state⟩).2.world)

end LockedHandler

open LockedHandler

def lockCallReturnState (env : Env) (channelID : String) : Handler (Option CallState) :=
  if env.lockFails then .throw "failed to create call lock"
  else (Handler.onStore (getCallState env channelID)).mapError ("failed to get call state: " ++ ·)

def stopJob (env : Env) (channelID jobID botUserID : String) : Handler Unit :=
  if channelID = "" then .throw "channelID should not be empty"
  else if jobID = "" then .throw "jobID should not be empty"
  else if botUserID = "" then .throw "botUserID should not be empty"
  else Handler.publish env (.jobStop jobID) { userID := botUserID, reliableClusterSend := true }

/-! ### Stopping

The two functions below call each other. Each ends its own job in memory before
it calls the other one, so two levels of calls are all there ever are. -/

mutual

def stopRecordingJobFuel (env : Env) (channelID : String) : Nat → LockedHandler JobStateClient
  | 0 => .throw "out of fuel"
  | fuel + 1 => do
    let state ← getState
    match state.recording with
    | none => .throw "no recording in progress"
    | some recState =>
      if recState.endAt ≠ 0 then .throw "no recording in progress"
      else do
        let recState := recState.ended env.now
        saveJob env recState .recording
        Command.onError
          (do
            (stopTranscribingJobFuel env channelID fuel).ignoring.when (state.inProgress .transcribing)
            (onWorld (stopJob env channelID recState.id env.botID)).mapError
              ("failed to stop recording job: " ++ ·)
            publishJobState env channelID recState
            pure (getClientStateFromCallJob recState))
          fun err => do
            modifyState (·.withJob (recState.withErr err) .recording)
            publishJobState env channelID (recState.withErr err)

def stopTranscribingJobFuel (env : Env) (channelID : String) : Nat → LockedHandler Unit
  | 0 => .throw "out of fuel"
  | fuel + 1 => do
    let state ← getState
    match state.transcription with
    | none => .throw "no transcription in progress"
    | some trState =>
      if trState.endAt ≠ 0 then .throw "no transcription in progress"
      else do
        let trState := trState.ended env.now
        saveJob env trState .transcribing
        let lcState := state.liveCaptions.map (·.ended env.now)
        Command.ifSome lcState fun lcState => saveJob env lcState .captioning
        Command.onError
          (do
            (onWorld (stopJob env channelID trState.id env.botID)).mapError
              ("failed to stop transcription job: " ++ ·)
            (stopRecordingJobFuel env channelID fuel).ignoring.when (state.inProgress .recording)
            publishJobState env channelID trState
            Command.ifSome lcState fun lcState => publishJobState env channelID lcState)
          fun err => do
            modifyState (·.withJob (trState.withErr err) .transcribing)
            publishJobState env channelID (trState.withErr err)

end

def stopRecordingJob (env : Env) (channelID : String) : LockedHandler JobStateClient :=
  stopRecordingJobFuel env channelID 2

def stopTranscribingJob (env : Env) (channelID : String) : LockedHandler Unit :=
  stopTranscribingJobFuel env channelID 2

/-! ### Start timeouts -/

def recTimeoutErr : String := "failed to start recording job: timed out waiting for bot to join call"

def trTimeoutErr : String := "failed to start transcriber job: timed out waiting for bot to join call"

/-- `recJobTimeoutChecker` from the point where it holds the lock. -/
def recJobTimeoutChecker (env : Env) (channelID jobID : String) : LockedHandler Unit := do
  let state ← getState
  match state.recording with
  | none => pure ()
  | some recState =>
    if recState.startAt ≠ 0 ∨ recState.props.jobID ≠ jobID then pure ()
    else do
      let recState := (recState.withErr recTimeoutErr).ended env.now
      (saveJob env recState .recording).ignoring
      (stopTranscribingJob env channelID).ignoring.when (state.inProgress .transcribing)
      publishJobState env channelID recState

/-- `transcriptionJobTimeoutChecker` from the point where it holds the lock. -/
def transcriptionJobTimeoutChecker (env : Env) (channelID jobID : String) : LockedHandler Unit := do
  let state ← getState
  match state.transcription with
  | none => pure ()
  | some trState =>
    let lcState := if env.config.liveCaptionsEnabled then state.liveCaptions else none
    if trState.startAt ≠ 0 ∨ trState.props.jobID ≠ jobID then pure ()
    else do
      let trState := (trState.ended env.now).withErr trTimeoutErr
      (saveJob env trState .transcribing).ignoring
      Command.ifSome lcState fun lcState => do
        modifyState (·.withJob (lcState.ended env.now) .captioning)
        -- The row written here is the transcription's a second time.
        (onStore (Store.updateCallJob env.faults trState)).ignoring
      Command.ifSome (state.recording.filter fun recState => recState.endAt = 0) fun recState => do
        (stopRecordingJob env channelID).ignoring
        -- A snapshot from before the recording was stopped.
        publishToParticipants env channelID (.callJobState channelID
          { getClientStateFromCallJob recState with err := trTimeoutErr })
      publishJobState env channelID trState

/-! ### Status updates from the bot -/

inductive JobStatusType where
  | started
  | failed
  deriving DecidableEq

structure JobStatus where
  jobType : JobType
  status : JobStatusType
  error : String

/-- The branch of `handleBotPostJobsStatus` for a job that failed. -/
def jobFailed (env : Env) (channelID : String) (jb : CallJob) (status : JobStatus) : LockedHandler Unit := do
  let state ← getState
  let jb := (jb.ended env.now).withErr status.error
  modifyState (·.withJob jb status.jobType)
  (stopTranscribingJob env channelID).ignoring.when
    (status.jobType = .recording ∧ state.transcription.isSome)
  (stopRecordingJob env channelID).ignoring.when
    (status.jobType = .transcribing ∧ state.recording.isSome)
  saveJob env jb status.jobType
  publishJobState env channelID jb

/-- The branch of `handleBotPostJobsStatus` for a job that started. -/
def jobStarted (env : Env) (channelID : String) (jb : CallJob) (lcState : Option CallJob)
    (status : JobStatus) : LockedHandler Unit := do
  Command.throwIf (0 < jb.startAt) "job has already started"
  let jb := { jb with startAt := env.now.unixMilli }
  modifyState (·.withJob jb status.jobType)
  Command.ifSome lcState fun lcState =>
    saveJob env { lcState with startAt := env.now.unixMilli } .captioning
  saveJob env jb status.jobType
  publishJobState env channelID jb

/-- `handleBotPostJobsStatus` from the point where it holds the lock. -/
def handleBotPostJobsStatus (env : Env) (channelID jobID : String) (status : JobStatus) :
    LockedHandler Unit := do
  let state ← getState
  Command.throwIf (status.jobType = .captioning) "invalid job type"
  let lcState :=
    if status.jobType = .transcribing ∧ env.config.liveCaptionsEnabled then state.liveCaptions else none
  match state.job? status.jobType with
  | none => .throw "no job ongoing"
  | some jb => do
    Command.throwIf (jb.id ≠ jobID) "invalid job ID"
    Command.throwIf (status.status ≠ .failed ∧ 0 < jb.endAt) "job has ended"
    (match status.status with
      | .failed => jobFailed env channelID jb status
      | .started => jobStarted env channelID jb lcState status)
    let state ← getState
    Command.ifSome (lcState.bind fun _ => state.liveCaptions) fun lcState =>
      publishJobState env channelID lcState

/-! ### Reconnection of the bot -/

/-- `handleBotWSReconnect` from the point where it holds the lock. -/
def botWSReconnect (env : Env) (connID prevConnID : String) : LockedHandler Unit := do
  let state ← getState
  let bound (job : Option CallJob) := job.filter fun job => job.props.botConnID = prevConnID
  match bound state.recording with
  | some recState => saveJob env (recState.withBot connID) .recording
  | none =>
    match bound state.transcription with
    | some trState => do
      saveJob env (trState.withBot connID) .transcribing
      Command.ifSome (bound state.liveCaptions) fun lcState =>
        saveJob env (lcState.withBot connID) .captioning
    | none => pure ()

def handleBotWSReconnect (env : Env) (connID prevConnID channelID : String) : Handler Unit := do
  let state ← (lockCallReturnState env channelID).mapError ("failed to lock call: " ++ ·)
  Command.ifSome state fun state => (botWSReconnect env connID prevConnID).runOn state

end Calls
