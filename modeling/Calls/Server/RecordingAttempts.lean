import Calls.Library.Pointers
import Calls.Server.Recordings
import Calls.Server.OperationsProperties

/-! The start of a recording from the request to the return, with the variables that
point to the state and to the job as the source has them. What other requests do while
the lock is given back shows in the world that the next lock finds. -/

set_option autoImplicit false

namespace Calls

open Command

/-- What a start finds when it has the lock again, or fails to get it. -/
structure Relock where
  env : Env
  world : World

structure RecordingAttempt where
  channelID : String
  userID : String
  recRan : RunJobResult
  relock : Relock
  trID : String
  lcID : String
  trRan : RunJobResult
  relockAgain : Relock

/-- The variables of a start and what it acts on. -/
structure StartFrame where
  env : Env
  world : World
  state : Option CallState
  job : Option CallJob
  /-- The rows that the start has created. -/
  created : List String

/-- What a start is called with: a state, and no job yet. -/
def StartFrame.begun (env : Env) (world : World) (cs : CallState) : StartFrame := ⟨env, world, some cs, none, []⟩

def JobType.noun : JobType → String
  | .recording => "recording"
  | .transcribing => "transcription"
  | .captioning => "live captions"

abbrev StartHandler := Command StartFrame Failure

namespace StartHandler

def onWorld {α : Type} (handler : Env → Handler α) : StartHandler α := do
  let frame ← .get
  (handler frame.env).returning.zoom StartFrame.world fun world frame => { frame with world }

def setState (state : Option CallState) : StartHandler Unit := .modify fun frame => { frame with state }

def setJob (job : Option CallJob) : StartHandler Unit := .modify fun frame => { frame with job }

def createCallJob (job : CallJob) : StartHandler Unit := do
  (onWorld fun env => Handler.onStore (Store.createCallJob env.faults job)).mapError (.context "failed to create call job: ")
  .modify fun frame => { frame with created := frame.created ++ [job.id] }

def updateCallJob (job : CallJob) : StartHandler Unit :=
  (onWorld fun env => Handler.onStore (Store.updateCallJob env.faults job)).mapError (.context "failed to update call job: ")

/-- Publish the job to the participants of the state. -/
def publishJob (channelID : String) : StartHandler Unit := do
  let frame ← .get
  let job ← deref frame.job
  let state ← deref frame.state
  onWorld fun env =>
    Handler.publish env (.callJobState channelID (getClientStateFromCallJob job)) (state.toParticipants channelID)

/-- The function that both starts defer. -/
def relayReturned (channelID err : String) : StartHandler Unit := do
  let frame ← .get
  Command.ifSome frame.job fun job => do
    setJob (some ((job.ended frame.env.now).withErr err))
    publishJob channelID

/-- `state, err := p.lockCallReturnState(callID)` assigns to the variable that is there already. -/
def lockAgain (channelID : String) (relock : Relock) : StartHandler Unit := do
  .modify fun frame => { frame with env := relock.env, world := relock.world }
  let found ← (onWorld fun env => lockCallReturnState env channelID).attempt
  match found with
  | .ok state => setState state
  | .error err => do
    setState none
    (Command.throw err).mapError (.context "failed to lock call: ")

/-- `getRecording`, `getTranscription` and `getLiveCaptions`. -/
def getJob (type : JobType) (state : Option CallState) : Except String CallJob :=
  match state with
  | none => .error "no call ongoing"
  | some cs =>
    match cs.job? type with
    | none => .error ("no " ++ type.noun ++ " ongoing")
    | some job => .ok job

/-- `job, err = state.getX()`: the variable is nil where there is none. -/
def loadJob (type : JobType) : StartHandler Unit := do
  let frame ← .get
  match getJob type frame.state with
  | .ok job => setJob (some job)
  | .error err => do
    setJob none
    .throw (.error ("failed to get " ++ type.noun ++ " state: " ++ err))

end StartHandler

open StartHandler

namespace RecordingAttempt

variable (a : RecordingAttempt)

/-- `startTranscribingJob` from where it has loaded its job. -/
def transcribingJobRan (liveCaptionsOn : Bool) : StartHandler Unit := do
  let frame ← .get
  let trState ← deref frame.job
  let lcState := if liveCaptionsOn then (getJob .captioning frame.state).toOption else none
  match a.trRan with
  | .error jobErr => do
    let failed := (trState.ended frame.env.now).withErr jobErr
    setJob (some failed)
    (updateCallJob failed).ignoring
    Command.ifSome lcState fun _ => do
      let state ← deref frame.state
      -- This is the job that `lcState` points to.
      let liveCaptions ← deref state.liveCaptions
      (updateCallJob (liveCaptions.ended frame.env.now)).ignoring
    .throw (.error ("failed to create transcription job: " ++ jobErr))
  | .ok jobID => do
    Command.throwIf (trState.props.jobID ≠ "") (.error "transcription job already in progress")
    setJob (some (trState.withJobID jobID))
    updateCallJob (trState.withJobID jobID)
    Command.ifSome lcState fun lcState => updateCallJob (lcState.withJobID jobID)
    publishJob a.channelID

def startTranscribingJob : StartHandler Unit := do
  let frame ← .get
  let state ← deref frame.state
  Command.throwIf (state.inProgress .transcribing = true) (.error "transcription already in progress")
  Command.throwIf (a.trID = "") (.error "trID should not be empty")
  let trState := newCallJob frame.env state a.trID .transcribing a.userID
  createCallJob trState
  (createCallJob (newCallJob frame.env state a.lcID .captioning a.userID)).when (frame.env.config.liveCaptionsEnabled = true)
  setJob (some trState)
  Command.onReturned (do
    publishJob a.channelID
    lockAgain a.channelID a.relockAgain
    loadJob .transcribing
    a.transcribingJobRan frame.env.config.liveCaptionsEnabled) (relayReturned a.channelID)

/-- The variables of `startTranscribingJob` are its own; `job` is nil until it has one. -/
def callTranscribing : StartHandler Unit :=
  a.startTranscribingJob.zoom (fun frame => { frame with job := none }) fun inner frame =>
    { frame with env := inner.env, world := inner.world, created := inner.created }

/-- `startRecordingJob` from where it has loaded its job. -/
def recordingJobRan : StartHandler CallJob := do
  let frame ← .get
  let recState ← deref frame.job
  match a.recRan with
  | .error jobErr => do
    let failed := (recState.ended frame.env.now).withErr jobErr
    setJob (some failed)
    (updateCallJob failed).ignoring
    .throw (.error ("failed to create recording job: " ++ jobErr))
  | .ok jobID => do
    Command.throwIf (recState.props.jobID ≠ "") (.error "recording job already in progress")
    setJob (some (recState.withJobID jobID))
    updateCallJob (recState.withJobID jobID)
    (a.callTranscribing.mapError (.context "failed to start transcribing job: ")).when
      (frame.env.config.transcriptionsEnabled = true)
    publishJob a.channelID
    pure (recState.withJobID jobID)

def startRecordingJob : StartHandler CallJob := do
  let frame ← .get
  let state ← deref frame.state
  Command.throwIf (state.inProgress .recording = true) (.error "recording already in progress")
  let recState := newCallJob frame.env state frame.env.newID .recording a.userID
  createCallJob recState
  setJob (some recState)
  Command.onReturned (do
    publishJob a.channelID
    lockAgain a.channelID a.relock
    loadJob .recording
    a.recordingJobRan) (relayReturned a.channelID)

end RecordingAttempt

end Calls
