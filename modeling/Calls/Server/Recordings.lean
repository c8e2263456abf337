import Calls.Server.Jobs

/-! Starting a recording. The request gives the lock of the call back while the job
service runs the job, and goes on with the state that it then loads anew. -/

set_option autoImplicit false

namespace Calls

open LockedHandler

/-- `job.Props.JobID = jobID`. -/
def CallJob.withJobID (job : CallJob) (jobID : String) : CallJob := { job with props := { job.props with jobID } }

def newCallJob (env : Env) (state : CallState) (id : String) (type : JobType) (userID : String) : CallJob :=
  { id, callID := state.call.id, type, creatorID := userID, initAt := env.now.unixMilli }

/-- In case of any error the job is relayed to the client with it; the row is not written. -/
def relayError (env : Env) (channelID : String) (type : JobType) (err : String) : LockedHandler Unit := do
  let state ← getState
  Command.ifSome (state.job? type) fun job => do
    modifyState (·.withJob ((job.ended env.now).withErr err) type)
    publishJobState env channelID ((job.ended env.now).withErr err)

/-- `startRecordingJob` up to where it gives the lock back: the row whose ID the job service is given. -/
def beginRecordingJob (env : Env) (channelID userID : String) : LockedHandler CallJob := do
  let state ← getState
  Command.throwIf (state.inProgress .recording = true) "recording already in progress"
  let recState := newCallJob env state env.newID .recording userID
  (onStore (Store.createCallJob env.faults recState)).mapError ("failed to create call job: " ++ ·)
  publishJobState env channelID recState
  pure recState

/-- `startTranscribingJob` up to where it gives the lock back. `lcID` is the ID of the live captions. -/
def beginTranscribingJob (env : Env) (channelID userID trID lcID : String) : LockedHandler CallJob := do
  let state ← getState
  Command.throwIf (state.inProgress .transcribing = true) "transcription already in progress"
  Command.throwIf (trID = "") "trID should not be empty"
  let trState := newCallJob env state trID .transcribing userID
  (onStore (Store.createCallJob env.faults trState)).mapError ("failed to create call job: " ++ ·)
  Command.when
    ((onStore (Store.createCallJob env.faults (newCallJob env state lcID .captioning userID))).mapError
      ("failed to create call job: " ++ ·))
    (env.config.liveCaptionsEnabled = true)
  publishJobState env channelID trState
  pure trState

/-- What the job service answered: the ID it gave the job, or an error. -/
abbrev RunJobResult := Except String String

/-- `startRecordingJob` from where it holds the lock again, up to the start of the transcription. -/
def resumeRecordingJob (env : Env) (channelID : String) (result : RunJobResult) : LockedHandler CallJob := do
  let state ← getState
  match state.recording with
  | none => .throw "failed to get recording state: no recording ongoing"
  | some recState =>
    Command.onError
      (match result with
        | .error jobErr => do
          (saveJob env ((recState.ended env.now).withErr jobErr) .recording).ignoring
          .throw ("failed to create recording job: " ++ jobErr)
        | .ok jobID => do
          Command.throwIf (recState.props.jobID ≠ "") "recording job already in progress"
          saveJob env (recState.withJobID jobID) .recording
          pure (recState.withJobID jobID))
      (relayError env channelID .recording)

/-- The rest of `startRecordingJob`, up to where the transcription it starts gives the lock
back: the row of the transcription, if there is one. -/
def continueRecordingJob (env : Env) (channelID userID trID lcID : String) (result : RunJobResult) :
    LockedHandler (Option CallJob) := do
  let recState ← resumeRecordingJob env channelID result
  if env.config.transcriptionsEnabled then
    Command.onError
      (do
        let trState ← (beginTranscribingJob env channelID userID trID lcID).mapError
          ("failed to start transcribing job: " ++ ·)
        pure (some trState))
      (relayError env channelID .recording)
  else do
    publishJobState env channelID recState
    pure none

/-- `startTranscribingJob` from where it holds the lock again. -/
def resumeTranscribingJob (env : Env) (channelID : String) (liveCaptionsOn : Bool) (result : RunJobResult) :
    LockedHandler Unit := do
  let state ← getState
  match state.transcription with
  | none => .throw "failed to get transcription state: no transcription ongoing"
  | some trState =>
    let lcState := if liveCaptionsOn then state.liveCaptions else none
    Command.onError
      (match result with
        | .error jobErr => do
          (saveJob env ((trState.ended env.now).withErr jobErr) .transcribing).ignoring
          Command.ifSome lcState fun lcState => (saveJob env (lcState.ended env.now) .captioning).ignoring
          .throw ("failed to create transcription job: " ++ jobErr)
        | .ok jobID => do
          Command.throwIf (trState.props.jobID ≠ "") "transcription job already in progress"
          saveJob env (trState.withJobID jobID) .transcribing
          Command.ifSome lcState fun lcState => saveJob env (lcState.withJobID jobID) .captioning
          publishJobState env channelID (trState.withJobID jobID))
      (relayError env channelID .transcribing)

end Calls
