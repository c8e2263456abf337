import Calls.Server.RunningJobs

/-! The start of a recording up to its end. Once the job service has answered for the
transcription too, what becomes of the start is told from the state that was loaded
for its first answer. -/

set_option autoImplicit false

namespace Calls

open LockedHandler Command

/-- Which call of `RunJob` a start waits for. While that is the one for the transcription,
`outer` is the state that `startRecordingJob` goes on with. -/
inductive StartPhase where
  | recording (userID : String)
  | transcription (liveCaptionsOn : Bool) (outer : CallState)

structure RecordingStart where
  channelID : String
  phase : StartPhase

/-- The end of `startRecordingJob`, with what `startTranscribingJob` returned. -/
def finishRecordingJob (env : Env) (channelID : String) : Except String Unit → LockedHandler Unit
  | .ok () => do
    let state ← getState
    Command.ifSome state.recording (publishJobState env channelID)
  | .error err => relayError env channelID .recording ("failed to start transcribing job: " ++ err)

/-- Where the lock is not acquired, the function that is deferred in `startTranscribingJob`
finds no state: the request ends there. -/
def endRecordingStart (env : Env) (channelID : String) (liveCaptionsOn : Bool) (result : RunJobResult)
    (outer : CallState) : Handler Unit := do
  let state ← lockCallReturnState env channelID
  let transcribed ← Command.attempt (match state with
    | none => .throw "failed to get transcription state: no call ongoing"
    | some state => (resumeTranscribingJob env channelID liveCaptionsOn result).runOn state)
  (finishRecordingJob env channelID transcribed).runOn outer

namespace RecordingStart

/-- The host asks for a recording. -/
def ask (env : Env) (channelID userID : String) : Handler (List RecordingStart) := do
  let calls ← startRecording env channelID userID
  pure (calls.map fun _ => ⟨channelID, .recording userID⟩)

/-- The job service has answered: the start goes on, and may ask it again. -/
def answered (start : RecordingStart) (env : Env) (trID lcID : String) (result : RunJobResult) :
    Handler (List RecordingStart) :=
  match start.phase with
  | .recording userID =>
    underLock env start.channelID do
      let trState ← continueRecordingJob env start.channelID userID trID lcID result
      let outer ← getState
      pure (trState.toList.map fun _ => ⟨start.channelID, .transcription env.config.liveCaptionsEnabled outer⟩)
  | .transcription liveCaptionsOn outer => do
    endRecordingStart env start.channelID liveCaptionsOn result outer
    pure []

end RecordingStart

/-- A request under the lock of a channel, with what it returns. -/
def Operations.handle {α : Type} (ops : Operations) (channelID : String) (handler : Handler α) :
    Option (Except String α × Operations) :=
  if ops.held.contains channelID then none
  else some ((handler ops.world).1, { ops with world := (handler ops.world).2 })

/-- The joins, the leaves and the requests about jobs, with the starts under way. -/
structure RecordingRuns where
  ops : Operations
  starts : List RecordingStart

namespace RecordingRuns

def idle : RecordingRuns := ⟨.idle, []⟩

/-- What a request under the lock of the channel makes of the runs; `α` is what it returns. -/
def handle {α : Type} (runs : RecordingRuns) (channelID : String) (handler : Handler α) : Option RecordingRuns :=
  (runs.ops.handle channelID handler).map fun (_, ops) => { runs with ops }

/-- The starts that a request leaves behind, besides the others that are under way. -/
def handleStart (others : List RecordingStart) (ops : Operations) (channelID : String)
    (handler : Handler (List RecordingStart)) : Option RecordingRuns :=
  (ops.handle channelID handler).map fun (result, ops) => ⟨ops, others ++ result.toOption.getD []⟩

def next? (runs : RecordingRuns) : JobRunStep → Option RecordingRuns
  | .operation step => (runs.ops.next? step).map fun ops => { runs with ops }
  | .start env channelID userID => handleStart runs.starts runs.ops channelID (RecordingStart.ask env channelID userID)
  | .returned env index trID lcID result => do
    let start ← runs.starts[index]?
    handleStart (runs.starts.eraseIdx index) runs.ops start.channelID (start.answered env trID lcID result)
  | .stop env channelID userID => runs.handle channelID (stopRecording env channelID userID)
  | .status env channelID jobID reported =>
    runs.handle channelID (underLock env channelID (handleBotPostJobsStatus env channelID jobID reported))
  | .recTimeout env channelID jobID =>
    runs.handle channelID (underLock env channelID (recJobTimeoutChecker env channelID jobID))
  | .trTimeout env channelID jobID =>
    runs.handle channelID (underLock env channelID (transcriptionJobTimeoutChecker env channelID jobID))

end RecordingRuns

/-- The runs that start without any call. -/
def recordingRuns : System RecordingRuns JobRunStep where
  init runs := runs = .idle
  next? := RecordingRuns.next?

end Calls
