import Calls.Server.EndingJobs
import Calls.Server.JobRowRuns

/-! The jobs of calls that have ended. A leave that ends a call ends the jobs of the bot
that leaves; nothing looks at the jobs of the call after that. -/

set_option autoImplicit false

namespace Calls

open LockedHandler Command

/-- No job of a call that has ended is open. -/
def Store.ClosesEnded (store : Store) : Prop :=
  ∀ call ∈ store.calls, call.endAt ≠ 0 → ∀ row ∈ store.jobs, row.callID = call.id → row.endAt ≠ 0

/-- The last session to leave a call is that of a bot with which all open jobs of the call end. -/
def EndsOpenJobs (runs : RecordingRuns) : JobRunStep → Prop
  | .operation (.leave _ channelID ref) => ∀ cs, runs.ops.batch? channelID .leaving = some (some cs) →
      cs.sessions.contains ref.originalConnID = true → (cs.sessions.erase ref.originalConnID).size = 0 →
        ∀ row ∈ runs.ops.world.store.jobs, row.callID = cs.call.id → row.endAt = 0 →
          row.id ∈ cs.jobIDs (cs.endedByLeave ref.originalConnID ref.connID)
  | _ => True

namespace Store.ClosesEnded

variable {before after : Store} {channelID : String}

/-- The rows of calls that have not just ended. -/
theorem kept (closed : before.ClosesEnded) {callID : String} {types : List JobType} (rows : before.OpensRows callID types after)
    {call : Call} (elsewhere : types = [] ∨ call.id ≠ callID)
    (ended : ∃ old ∈ before.calls, old.id = call.id ∧ old.endAt ≠ 0) :
    ∀ row ∈ after.jobs, row.callID = call.id → row.endAt ≠ 0 := by
  intro row member ofCall unended
  rcases rows.opens row member unended with ⟨old, oldMember, same, oldUnended⟩ | ⟨own, typed⟩
  · obtain ⟨oldCall, oldCallMember, named, oldEnded⟩ := ended
    have oldOfCall : old.callID = row.callID := congrArg (·.2.1) same
    exact closed oldCall oldCallMember oldEnded old oldMember (oldOfCall.trans (ofCall.trans named.symm)) oldUnended
  · rcases elsewhere with rfl | other
    · cases typed
    · exact other (ofCall.symm.trans own)

/-- A request writes to the rows of ongoing calls. -/
theorem request (closed : before.ClosesEnded) {cs : CallState} {idle : JobType → Prop} (calls : after.calls = before.calls)
    (loads : before.Loads channelID (some cs)) (opens : OpensIdle cs.call.id idle before after) : after.ClosesEnded := by
  obtain ⟨types, rows, -⟩ := opens
  obtain ⟨member, -, ongoing⟩ := loads.row
  intro call listed ended
  rw [calls] at listed
  refine closed.kept rows (.inr fun same => ended ?_) ⟨call, listed, rfl, ended⟩
  rw [KeyedTable.eq_of_key_eq listed member same]
  exact ongoing

end Store.ClosesEnded

/-- Of the operations only a leave ends a call. -/
theorem CallChange.ended {step : OperationStep} {old : Option CallView} {view : CallView}
    (change : CallChange (.operation step) old (some view)) (other : ∀ env channelID ref, step ≠ .leave env channelID ref)
    (ended : view.call.endAt ≠ 0) : ∃ previous, old = some previous ∧ previous.call.endAt ≠ 0 := by
  cases change with
  | kept => exact ⟨view, rfl, ended⟩
  | @started env channelID req base found =>
    obtain ⟨-, -, fresh⟩ := stateToJoin_none found
    exact absurd ((joinedState_same env base req).endAt.trans fresh.call.endAt) ended
  | @joined env channelID req cs checked =>
    have same : (joinedState env cs req).call.endAt = cs.call.endAt := (joinedState_same env cs req).endAt
    exact ⟨cs.view, rfl, same ▸ ended⟩
  | left => exact absurd rfl (other _ _ _)

/-- A call of the store, told by its view. -/
theorem Store.callView?_endAt {store : Store} {call : Call} (member : call ∈ store.calls) :
    ∃ view, store.callView? call.id = some view ∧ view.call.endAt = call.endAt :=
  ⟨_, Store.callView?_eq_some_iff.mpr ⟨call, KeyedTable.find?_self member, rfl⟩, rfl⟩

theorem Store.exists_of_callView? {store : Store} {callID : String} {view : CallView}
    (found : store.callView? callID = some view) :
    ∃ call ∈ store.calls, call.id = callID ∧ call.endAt = view.call.endAt := by
  obtain ⟨call, stored, rfl⟩ := Store.callView?_eq_some_iff.mp found
  obtain ⟨member, named⟩ := KeyedTable.find?_eq_some_iff.mp stored
  exact ⟨call, member, named, rfl⟩

/-- No job of a call that has ended is open, and batches hold what the store says of the rows. -/
structure ClosedJobs (runs : RecordingRuns) : Prop where
  rows : RowsInvariant runs.ops
  closed : runs.ops.world.store.ClosesEnded

namespace ClosedJobs

variable {runs after : RecordingRuns}

/-- What a leave ends is no longer open; a call goes on while there are sessions in it. -/
theorem left (inv : ClosedJobs runs) {env : Env} {channelID : String} {ref : SessionRef}
    (serves : StoreServes runs.ops (.operation (.leave env channelID ref)))
    (ends : EndsOpenJobs runs (.operation (.leave env channelID ref)))
    (taken : runs.ops.next? (.leave env channelID ref) = some after.ops) : after.ops.world.store.ClosesEnded := by
  obtain ⟨-, callID, rows⟩ := inv.rows.operation serves taken
  have works := serves.works env rfl
  obtain ⟨state, next, world, running, effect, removal, moved⟩ := Operations.leave_eq_some taken
  have mirrored := fun cs loaded => inv.rows.mirrored.held _ _ cs (Operations.batch?_eq_some running) loaded
  have leave := effect.working works fun cs loaded =>
    ⟨(mirrored cs loaded).valid inv.rows.mirrored.valid, (mirrored cs loaded).jobs⟩
  have final : after.ops.world = world := congrArg Operations.world moved
  rw [final] at rows ⊢
  intro call member ended
  cases leave with
  | nothing => exact inv.closed call member ended
  | @saved held us left found deleted wrote saved jobs =>
    have changes := (mirrored held rfl).left found deleted wrote saved
    obtain ⟨view, listed, sameEnd⟩ := Store.callView?_endAt member
    by_cases here : call.id = held.call.id
    · rw [here, changes.here] at listed
      cases listed
      by_cases empty : left.state.sessions.size = 0
      · -- The call ends here, and with it all of its open jobs.
        have present : held.sessions.contains ref.originalConnID = true := by rw [KeyedTable.contains, found]; rfl
        have removes : EndsJobsAnyhow env _ _ ⟨runs.ops.world, held⟩ (removeUserSession env channelID ref) :=
          removeUserSession_endsJobs works.writes (mirrored held rfl).jobs (works _) present
        have closes : Store.Closes _ runs.ops.world.store _ := removes.rows
        obtain ⟨removed, ran, -, same⟩ := removal held rfl
        rw [ran, ← same] at closes
        intro row rowMember ofCall unended
        rcases rows.opens row rowMember unended with ⟨old, oldMember, identity, oldUnended⟩ | ⟨-, typed⟩
        · simp only [CallJob.identity, Prod.mk.injEq] at identity
          have ofHeld : old.callID = held.call.id := identity.2.1.trans (ofCall.trans here)
          have listed := ends held running present (deleted.memory ▸ empty) old oldMember ofHeld oldUnended
          have stillOpen : row.id ∈ left.world.store.openJobs row.callID :=
            Store.mem_openJobs.mpr ⟨row, rowMember, rfl, unended, rfl⟩
          exact (closes.mem_openJobs.mp stillOpen).2 (identity.1 ▸ listed)
        · cases typed
      · refine inv.closed.kept rows (.inl rfl) ?_
        obtain ⟨old, oldMember, named, oldEnd⟩ := Store.exists_of_callView? (mirrored held rfl).view
        have going := (Call.afterLeave_kept env ref us left.state.sessions held.call).2
        rw [if_neg empty, ← saved] at going
        refine ⟨old, oldMember, named.trans here.symm, fun ongoing => ended ?_⟩
        exact sameEnd.symm.trans (going.trans (oldEnd.symm.trans ongoing))
    · rw [changes.elsewhere _ here] at listed
      obtain ⟨old, oldMember, named, oldEnd⟩ := Store.exists_of_callView? listed
      exact inv.closed.kept rows (.inl rfl) ⟨old, oldMember, named, by rwa [oldEnd, sameEnd]⟩

theorem step (inv : ClosedJobs runs) {label : JobRunStep} (serves : StoreSucceeds runs label) (ends : EndsOpenJobs runs label)
    (taken : runs.next? label = some after) : ClosedJobs after := by
  obtain ⟨rows, change⟩ := inv.rows.step serves.serves taken
  refine ⟨rows, ?_⟩
  rcases RecordingRuns.next?_cases taken inv.rows.mirrored.jobs with ⟨operation, rfl, moved⟩ | ⟨other, -, kept⟩
  · by_cases leaves : ∃ env channelID ref, operation = .leave env channelID ref
    · obtain ⟨env, channelID, ref, rfl⟩ := leaves
      exact inv.left (serves.serves _ rfl) ends moved
    · obtain ⟨-, callID, opens⟩ := inv.rows.operation (serves.serves _ rfl) moved
      obtain ⟨-, changes⟩ := inv.rows.mirrored.step (serves.serves _ rfl) moved
      intro call member ended
      refine inv.closed.kept opens (.inl rfl) ?_
      obtain ⟨view, listed, same⟩ := Store.callView?_endAt member
      have changed := changes call.id
      rw [listed] at changed
      obtain ⟨previous, found, wasEnded⟩ :=
        changed.ended (fun env channelID ref left => leaves ⟨env, channelID, ref, left⟩) (same ▸ ended)
      obtain ⟨old, oldMember, named, oldEnd⟩ := Store.exists_of_callView? found
      exact ⟨old, oldMember, named, oldEnd ▸ wasEnded⟩
  · cases change with
    | kept opens =>
      intro call member ended
      rw [kept.calls] at member
      exact inv.closed.kept opens (.inl rfl) ⟨call, member, rfl, ended⟩
    | opened loads opens => exact inv.closed.request kept.calls loads opens

end ClosedJobs

/-- In every run of joins, leaves and all that happens to jobs, with the store operations succeeding, in which the
last session to leave a call takes all open jobs of it with it, no call that has ended has an open job. -/
theorem closesEnded_of_endsOpenJobs {runs : RecordingRuns}
    (reached : (recordingRuns.restrict fun runs step => StoreSucceeds runs step ∧ EndsOpenJobs runs step).Reachable runs) :
    runs.ops.world.store.ClosesEnded := by
  have inv : ClosedJobs runs := by
    refine System.Reachable.invariant_of_allowed ?_ ?_ reached
    · intro runs same
      obtain rfl := same
      exact ⟨.idle, fun call member => absurd member KeyedTable.not_mem_empty⟩
    · intro before label after inv allowed taken
      exact inv.step allowed.1 allowed.2 taken
  exact inv.closed

/-! ### Start timeouts -/

/-- The start timeouts that have not fired, of which type, on which channel and for which job of the job service. -/
abbrev StartTimeouts := List (JobType × String × String)

/-- Every job that the job service has started is waited for, whatever becomes of the start. -/
def noteTimeout (pending : StartTimeouts) (before : RecordingRuns) : JobRunStep → StartTimeouts
  | .returned _ index _ _ (.ok jobID) =>
    match before.starts[index]? with
    | none => pending
    | some ⟨channelID, .recording _⟩ => (.recording, channelID, jobID) :: pending
    | some ⟨channelID, .transcription _ _⟩ => (.transcribing, channelID, jobID) :: pending
  | .recTimeout _ channelID jobID => pending.erase (.recording, channelID, jobID)
  | .trTimeout _ channelID jobID => pending.erase (.transcribing, channelID, jobID)
  | _ => pending

def timedRuns : System (RecordingRuns × StartTimeouts) JobRunStep :=
  recordingRuns.observed [] fun pending before step _ => noteTimeout pending before step

/-- No operation or start is under way, and no start timeout is pending. -/
def Completed (state : RecordingRuns × StartTimeouts) : Prop :=
  state.1.ops.held.size = 0 ∧ state.1.starts.length = 0 ∧ state.2 = []

instance (state : RecordingRuns × StartTimeouts) : Decidable (Completed state) := inferInstanceAs (Decidable (_ ∧ _ ∧ _))

/-- The condition on a step, as a check. -/
def endsOpenJobs (runs : RecordingRuns) : JobRunStep → Bool
  | .operation (.leave _ channelID ref) =>
    match runs.ops.batch? channelID .leaving with
    | some (some cs) => (cs.sessions.contains ref.originalConnID && (cs.sessions.erase ref.originalConnID).size = 0) →
        runs.ops.world.store.jobs.rows.all fun row => (row.callID = cs.call.id && row.endAt = 0) →
          row.id ∈ cs.jobIDs (cs.endedByLeave ref.originalConnID ref.connID)
    | _ => true
  | _ => true

theorem endsOpenJobs_sound {runs : RecordingRuns} {step : JobRunStep} (checked : endsOpenJobs runs step = true) :
    EndsOpenJobs runs step := by
  cases step with
  | operation operation =>
    cases operation with
    | leave env channelID ref =>
      intro cs running present last row member ofCall unended
      simp only [endsOpenJobs, running, present, last, decide_eq_true_eq, List.all_eq_true] at checked
      simpa [ofCall, unended] using checked (by simp) row member
    | lock | join | unlock => trivial
  | start | returned | stop | status | recTimeout | trTimeout => trivial

theorem aliceIsRecorded_faultless :
    ∀ step ∈ aliceRecords ++ aliceIsRecorded.map .operation, ∀ env, step.env? = some env → env.StoreWorks := by
  intro step listed env timed
  simp only [aliceRecords, aliceIsRecorded, List.map_cons, List.map_nil, List.cons_append, List.nil_append, List.mem_cons,
    List.not_mem_nil, or_false] at listed
  rcases listed with rfl | rfl | rfl | rfl | rfl | rfl | rfl | rfl | rfl | rfl | rfl | rfl | rfl | rfl | rfl | rfl | rfl <;>
    cases timed <;> exact fun _ => rfl

/-- The bot of the recording is the last to leave. -/
theorem closesEnded_of_aliceIsRecorded :
    ∃ runs, recordingRuns.run? .idle (aliceRecords ++ aliceIsRecorded.map .operation) = some runs ∧
      runs.ops.world.store.calls.rows.map Call.endAt = [2008] ∧ runs.ops.world.store.ClosesEnded := by
  have computed : (recordingRuns.run? .idle (aliceRecords ++ aliceIsRecorded.map .operation)).map (fun runs =>
      runs.ops.world.store.calls.rows.map Call.endAt) = some [2008] := by decide +kernel
  obtain ⟨runs, ran, ended⟩ := Option.map_eq_some_iff.mp computed
  have anew : recordingRuns.checkAlong joinsAnew .idle (aliceRecords ++ aliceIsRecorded.map .operation) = true := by
    decide +kernel
  have ends : recordingRuns.checkAlong endsOpenJobs .idle (aliceRecords ++ aliceIsRecorded.map .operation) = true := by
    decide +kernel
  have succeeds : recordingRuns.MeetsAlong StoreSucceeds .idle (aliceRecords ++ aliceIsRecorded.map .operation) :=
    .of_check anew fun runs => storeSucceeds_of_joinsAnew aliceIsRecorded_faultless runs
  have meets : recordingRuns.MeetsAlong EndsOpenJobs .idle (aliceRecords ++ aliceIsRecorded.map .operation) :=
    .of_check ends fun _ _ _ => endsOpenJobs_sound
  have start : (recordingRuns.restrict fun runs step => StoreSucceeds runs step ∧ EndsOpenJobs runs step).Reachable .idle :=
    .init rfl
  exact ⟨runs, ran, ended, closesEnded_of_endsOpenJobs (start.restrict_run (succeeds.and meets) ran)⟩

/-- Alice leaves while the job service starts the recording she asked for. -/
def aliceLeavesStart : List JobRunStep :=
  [.operation (.lock (.quiet 1003 "") "channel" .leaving),
    .operation (.leave (.quiet 1004 "") "channel" { userID := "alice", originalConnID := "conn-1", connID := "conn-1" }),
    .operation (.unlock "channel"), answered 0 "job-1", .recTimeout (.quiet 1100 "") "channel" "job-1"]

theorem aliceLeavesStart_faultless :
    ∀ step ∈ aliceRecords ++ aliceLeavesStart, ∀ env, step.env? = some env → env.StoreWorks := by
  intro step listed env timed
  simp only [aliceRecords, aliceLeavesStart, answered, List.cons_append, List.nil_append, List.mem_cons, List.not_mem_nil,
    or_false] at listed
  rcases listed with rfl | rfl | rfl | rfl | rfl | rfl | rfl | rfl | rfl <;> cases timed <;> exact fun _ => rfl

/-- The recording of a call that ended before the job service answered stays open. -/
theorem not_closesEnded : ¬ ∀ state, (timedRuns.restrict fun state step => StoreSucceeds state.1 step).Reachable state →
    Completed state → state.1.ops.world.store.ClosesEnded := by
  intro all
  have computed : (timedRuns.run? (.idle, []) (aliceRecords ++ aliceLeavesStart)).map (fun state =>
      (state.1.ops.world.store.calls.rows.map (fun call => (call.id, call.endAt)), state.1.ops.world.store.unendedRows,
        decide (Completed state))) = some ([("call", 1004)], [("first", "call", .recording)], true) := by decide +kernel
  obtain ⟨state, ran, shape⟩ := Option.map_eq_some_iff.mp computed
  simp only [Prod.mk.injEq] at shape
  obtain ⟨calls, jobs, completed⟩ := shape
  have anew : timedRuns.checkAlong (fun state step => joinsAnew state.1 step) (.idle, [])
      (aliceRecords ++ aliceLeavesStart) = true := by decide +kernel
  have succeeds : timedRuns.MeetsAlong (fun state step => StoreSucceeds state.1 step) (.idle, [])
      (aliceRecords ++ aliceLeavesStart) :=
    .of_check anew fun state => storeSucceeds_of_joinsAnew aliceLeavesStart_faultless state.1
  have start : (timedRuns.restrict fun state step => StoreSucceeds state.1 step).Reachable (.idle, []) := .init ⟨rfl, rfl⟩
  have closed := all state (start.restrict_run succeeds ran) (of_decide_eq_true completed)
  have ended : ("call", (1004 : Int)) ∈ state.1.ops.world.store.calls.rows.map fun call => (call.id, call.endAt) := by
    rw [calls]
    exact List.mem_singleton_self _
  have opened : ("first", "call", JobType.recording) ∈ state.1.ops.world.store.unendedRows := by
    rw [jobs]
    exact List.mem_singleton_self _
  obtain ⟨call, callMember, callShape⟩ := List.mem_map.mp ended
  obtain ⟨row, rowMember, rowShape⟩ := List.mem_map.mp opened
  obtain ⟨stored, unended⟩ := List.mem_filter.mp rowMember
  simp only [Prod.mk.injEq] at callShape rowShape
  refine closed call callMember ?_ row stored (rowShape.2.1.trans callShape.1.symm) (of_decide_eq_true unended)
  rw [callShape.2]
  decide

end Calls
