import Mathlib.Data.List.Dedup
import Calls.Server.News
import Calls.Server.RecordingStarts

/-! What the store, the state in memory and the events published so far say of the
recording of a call, and what the handlers of jobs make of that. -/

set_option autoImplicit false

namespace Calls

open LockedHandler Command

/-- Which of its two timestamps a job has. -/
structure JobPhase where
  started : Bool
  ended : Bool
  deriving DecidableEq

def JobPhase.toEnd (phase : JobPhase) : JobPhase := { phase with ended := true }

def CallJob.phase (job : CallJob) : JobPhase := ⟨job.startAt ≠ 0, job.endAt ≠ 0⟩

def JobStateClient.phase (jobState : JobStateClient) : JobPhase := ⟨jobState.startAt ≠ 0, jobState.endAt ≠ 0⟩

namespace Store

def recordings (store : Store) (callID : String) : KeyedTable CallJob.id :=
  store.jobs.filter fun job => job.callID = callID ∧ job.type = .recording

def latestRecording? (store : Store) (callID : String) : Option CallJob := (store.recordings callID).rows.getLast?

end Store

/-- The phase that an event tells the participants of a call that its recording is in. -/
def WsEvent.recordingPhase? (channelID : String) : WsEvent → Option JobPhase
  | .callJobState callID jobState =>
    if callID = channelID ∧ jobState.type = .recording then some jobState.phase else none
  | _ => none

/-- The phase in the last event about a recording. -/
def World.toldPhase (world : World) (channelID : String) : Option JobPhase :=
  (world.published.filterMap fun delivery => delivery.ev.recordingPhase? channelID).getLast?

/-- The phases of the recording that a handler has in memory, of its row and of the last event. -/
structure RecordingView where
  memory : Option JobPhase
  row : Option JobPhase
  told : Option JobPhase

def LockedCall.recordingView (locked : LockedCall) (channelID : String) : RecordingView where
  memory := locked.state.recording.map CallJob.phase
  row := (locked.world.store.latestRecording? locked.state.call.id).map CallJob.phase
  told := locked.world.toldPhase channelID

namespace RecordingView

/-- The view once a job of the given type is held in memory. -/
def hold (view : RecordingView) (type : JobType) (phase : JobPhase) : RecordingView :=
  if type = .recording then { view with memory := some phase } else view

def save (view : RecordingView) (type : JobType) (phase : JobPhase) : RecordingView :=
  if type = .recording then { view with row := some phase } else view

def tell (view : RecordingView) (type : JobType) (phase : JobPhase) : RecordingView :=
  if type = .recording then { view with told := some phase } else view

/-- A recording in progress is ended: in memory, and if the row can be written everywhere. -/
def stop (view : RecordingView) (saves : Bool) : RecordingView :=
  match view.memory with
  | none => view
  | some phase =>
    if phase.ended then view
    else if saves then ⟨some phase.toEnd, some phase.toEnd, some phase.toEnd⟩
    else { view with memory := some phase.toEnd }

/-- The recording is ended in memory and in its row, and the participants are not told yet. -/
def endRow (view : RecordingView) (phase : JobPhase) : RecordingView :=
  ⟨some phase.toEnd, some phase.toEnd, view.told⟩

/-- The last event tells of the row. -/
def Shown (view : RecordingView) : Prop := ∀ phase, view.row = some phase → view.told = some phase

/-- Besides, a recording that is in progress in memory is in progress in the store. -/
structure Settled (view : RecordingView) : Prop where
  shown : view.Shown
  inStep : ∀ phase, view.memory = some phase → phase.ended = false → view.row = some phase

theorem stop_of_ended {view : RecordingView} {saves : Bool} {phase : JobPhase} (held : view.memory = some phase)
    (ended : phase.ended = true) : view.stop saves = view := by
  simp only [stop, held, ended, if_true]

theorem stop_of_running {view : RecordingView} {saves : Bool} {phase : JobPhase} (held : view.memory = some phase)
    (running : phase.ended = false) : view.stop saves =
      if saves then ⟨some phase.toEnd, some phase.toEnd, some phase.toEnd⟩
      else { view with memory := some phase.toEnd } := by
  simp only [stop, held, running, Bool.false_eq_true, if_false]

theorem tell_endRow {view : RecordingView} {phase : JobPhase} (held : view.memory = some phase)
    (running : phase.ended = false) : (view.endRow phase).tell .recording phase.toEnd = view.stop true := by
  rw [stop_of_running held running]
  rfl

theorem stop_stop (view : RecordingView) (saves : Bool) : (view.stop saves).stop saves = view.stop saves := by
  obtain ⟨memory, row, told⟩ := view
  cases memory with
  | none => rfl
  | some phase =>
    obtain ⟨started, ended⟩ := phase
    cases ended <;> cases saves <;> rfl

theorem Settled.stop {view : RecordingView} (settled : view.Settled) (saves : Bool) : (view.stop saves).Settled := by
  obtain ⟨memory, row, told⟩ := view
  cases memory with
  | none => exact settled
  | some phase =>
    obtain ⟨started, ended⟩ := phase
    cases ended with
    | true => exact settled
    | false =>
      cases saves with
      | true => exact ⟨fun _ same => same, fun _ same _ => same⟩
      | false => exact ⟨settled.shown, fun _ same running => by cases same; cases running⟩

end RecordingView

/-! ### The rows of recordings -/

theorem Store.latestRecording?_saveJob (store : Store) (job : CallJob) (callID : String) :
    (store.saveJob job).latestRecording? callID =
      (store.latestRecording? callID).map fun row => if row.id = job.id then row.updatedFrom job else row := by
  have blind (row : CallJob) : decide ((row.updatedFrom job).callID = callID ∧ (row.updatedFrom job).type = .recording) =
      decide (row.callID = callID ∧ row.type = .recording) := rfl
  unfold latestRecording? recordings saveJob
  rw [KeyedTable.filter_modify _ _ _ _ _ blind, KeyedTable.modify, List.getLast?_map]

/-- The rows of a call that the job is not one of. -/
theorem Store.filter_saveJob {store : Store} {job : CallJob} {callID : String}
    (absent : ∀ row ∈ store.jobs, row.id = job.id → row.callID ≠ callID) :
    ((store.saveJob job).jobs.filter fun row => row.callID = callID) = store.jobs.filter fun row => row.callID = callID := by
  have blind (row : CallJob) : decide ((row.updatedFrom job).callID = callID) = decide (row.callID = callID) := rfl
  unfold saveJob
  rw [KeyedTable.filter_modify _ _ _ _ _ blind]
  refine KeyedTable.modify_eq_self (KeyedTable.contains_eq_false_iff.mpr fun row member same => ?_)
  obtain ⟨member, ofCall⟩ := KeyedTable.mem_filter.mp member
  exact absent row member same (of_decide_eq_true ofCall)

theorem Store.latestRecording?_eq_some {store : Store} {callID : String} {row : CallJob}
    (found : store.latestRecording? callID = some row) :
    row ∈ store.jobs ∧ row.callID = callID ∧ row.type = .recording := by
  have member := List.mem_of_getLast? found
  simpa [recordings, KeyedTable.mem_def] using member

/-- Which row is the latest is a matter of what no update changes. -/
theorem Store.latestRecording?_identity {left right : Store} (same : left.jobIdentities = right.jobIdentities)
    (callID : String) :
    (left.latestRecording? callID).map CallJob.identity = (right.latestRecording? callID).map CallJob.identity := by
  have listed (store : Store) : (store.latestRecording? callID).map CallJob.identity =
      (store.jobIdentities.filter fun identity => identity.2.1 = callID ∧ identity.2.2.1 = .recording).getLast? := by
    unfold latestRecording? recordings jobIdentities
    rw [List.filter_map, List.getLast?_map]
    rfl
  rw [listed, listed, same]

theorem Store.latestRecording?_id {left right : Store} (same : left.jobIdentities = right.jobIdentities)
    (callID : String) : (left.latestRecording? callID).map CallJob.id = (right.latestRecording? callID).map CallJob.id := by
  have identity := congrArg (Option.map Prod.fst) (latestRecording?_identity same callID)
  rw [Option.map_map, Option.map_map] at identity
  exact identity

/-! ### Events -/

theorem World.toldPhase_publish {env : Env} {ev : WsEvent} {broadcast : WebSocketBroadcast} {world : World}
    {channelID : String} (silent : ev.recordingPhase? channelID = none) :
    (Handler.publish env ev broadcast world).2.toldPhase channelID = world.toldPhase channelID := by
  have none : (publishWebSocketEvent env.botID ev broadcast).filterMap
      (fun delivery => delivery.ev.recordingPhase? channelID) = [] := by
    rw [List.filterMap_eq_nil_iff]
    intro delivery member
    rw [ev_of_mem_publish member, silent]
  show ((world.published ++ _).filterMap _).getLast? = _
  rw [List.filterMap_append, none, List.append_nil]
  rfl

/-- An event that is published to somebody is the last one. -/
theorem World.toldPhase_publish_told {env : Env} {ev : WsEvent} {broadcast : WebSocketBroadcast} {world : World}
    {channelID : String} {phase : JobPhase} (telling : ev.recordingPhase? channelID = some phase)
    (sent : publishWebSocketEvent env.botID ev broadcast ≠ []) :
    (Handler.publish env ev broadcast world).2.toldPhase channelID = some phase := by
  have all : (publishWebSocketEvent env.botID ev broadcast).filterMap
      (fun delivery => delivery.ev.recordingPhase? channelID) =
      (publishWebSocketEvent env.botID ev broadcast).map fun _ => phase := by
    rw [← List.filterMap_eq_map]
    refine List.filterMap_congr fun delivery member => ?_
    rw [ev_of_mem_publish member, telling]
    rfl
  show ((world.published ++ _).filterMap _).getLast? = _
  rw [List.filterMap_append, all, List.getLast?_append, List.getLast?_map, List.getLast?_eq_some_getLast sent]
  rfl

/-- What is published to the participants of a call is published to somebody. -/
theorem CallState.toParticipants_sent {cs : CallState} {botID channelID : String} {ev : WsEvent}
    (neither : ev.joinedOrLeft? = none) (channel : channelID ≠ "") (people : ∀ session ∈ cs.sessions, session.userID ≠ "") :
    publishWebSocketEvent botID ev (cs.toParticipants channelID) ≠ [] := by
  unfold publishWebSocketEvent
  rw [if_neg (by rw [neither]; exact fun named => by cases named)]
  by_cases bot : botID = ""
  · subst bot
    have kept : (getUserIDsFromSessions cs.sessions).filter (· ≠ "") = getUserIDsFromSessions cs.sessions := by
      refine List.filter_eq_self.mpr fun userID member => ?_
      obtain ⟨session, listed, rfl⟩ := List.mem_map.mp (List.mem_dedup.mp member)
      exact decide_eq_true (people session listed)
    simp only [ne_eq, not_true_eq_false, false_and, if_false, List.nil_append, toParticipants]
    cases users : getUserIDsFromSessions cs.sessions with
    | nil => simp
    | cons userID userIDs =>
      rw [users] at kept
      simp only [List.isEmpty_cons, Bool.false_eq_true, if_false]
      simp only [ne_eq, decide_not] at kept ⊢
      rw [kept]
      simp
  · simp only [ne_eq, bot, not_false_eq_true, toParticipants, channel, and_self, if_true]
    split <;> simp

end Calls
