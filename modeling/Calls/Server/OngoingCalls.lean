import Calls.Server.OperationsProperties

/-! A channel has at most one ongoing call, as long as no join opens a call
from a state that the store has left behind. -/

set_option autoImplicit false

namespace Calls

def OnePerChannel (calls : KeyedTable Call.id) : Prop :=
  ∀ left ∈ calls, ∀ right ∈ calls, left.channelID = right.channelID → left.endAt = 0 → right.endAt = 0 →
    left = right

/-- Rows as the plugin writes them, one ongoing call per channel. -/
structure CallsConsistent (calls : KeyedTable Call.id) : Prop where
  written : ∀ row ∈ calls, 0 < row.startAt ∧ row.deleteAt = 0
  single : OnePerChannel calls

/-- The call in memory is the ongoing one of its channel in the table. -/
structure Tracks (calls : KeyedTable Call.id) (channelID : String) (call : Call) : Prop where
  ongoing : call.endAt = 0
  kept : call.deleteAt = 0
  row : ∃ row ∈ calls, row.id = call.id ∧ row.channelID = channelID ∧ row.endAt = 0

/-- A change to the rows of one channel. -/
def ChangesChannel (channelID : String) (before after : KeyedTable Call.id) : Prop :=
  ∀ row, row.channelID ≠ channelID → (row ∈ after ↔ row ∈ before)

theorem ChangesChannel.refl (channelID : String) (calls : KeyedTable Call.id) :
    ChangesChannel channelID calls calls := fun _ _ => Iff.rfl

theorem ChangesChannel.trans {channelID : String} {before middle after : KeyedTable Call.id}
    (first : ChangesChannel channelID before middle) (second : ChangesChannel channelID middle after) :
    ChangesChannel channelID before after := fun row other => (second row other).trans (first row other)

theorem Tracks.frame {before after : KeyedTable Call.id} {channelID other : String} {call : Call}
    (tracks : Tracks before other call) (different : other ≠ channelID)
    (change : ChangesChannel channelID before after) : Tracks after other call := by
  obtain ⟨row, member, named, channel, ongoing⟩ := tracks.row
  have elsewhere : row.channelID ≠ channelID := by rwa [channel]
  exact ⟨tracks.ongoing, tracks.kept, row, (change row elsewhere).mpr member, named, channel, ongoing⟩

theorem Tracks.congr {calls : KeyedTable Call.id} {channelID : String} {left right : Call}
    (tracks : Tracks calls channelID left) (identity : right.identity = left.identity)
    (endAt : right.endAt = left.endAt) : Tracks calls channelID right := by
  simp only [Call.identity, Prod.mk.injEq] at identity
  obtain ⟨sameID, -, -, -, sameDelete, -⟩ := identity
  obtain ⟨row, member, named, channel, ongoing⟩ := tracks.row
  exact ⟨endAt.trans tracks.ongoing, sameDelete.trans tracks.kept, row, member, named.trans sameID.symm, channel,
    ongoing⟩

/-! ### The two writes to the table of calls -/

section
variable {calls after : KeyedTable Call.id} {channelID : String} {call : Call}

/-- Saving the call of a channel that has it as its ongoing one. -/
theorem CallsConsistent.save (consistent : CallsConsistent calls) (kept : call.deleteAt = 0)
    (held : ∃ row ∈ calls, row.id = call.id ∧ row.channelID = channelID ∧ row.endAt = 0)
    (saved : ∀ row, row ∈ after ↔ (row ∈ calls ∧ row.id ≠ call.id) ∨
      ∃ previous ∈ calls, previous.id = call.id ∧ previous.updatedFrom call = row) :
    CallsConsistent after ∧ ChangesChannel channelID calls after ∧
      (call.endAt = 0 → Tracks after channelID call) := by
  obtain ⟨row, member, named, channel, ongoing⟩ := held
  have onlyRow : ∀ previous ∈ calls, previous.id = call.id → previous = row := by
    intro previous found same
    exact KeyedTable.eq_of_key_eq found member (same.trans named.symm)
  have updated : row.updatedFrom call ∈ after := (saved _).mpr (.inr ⟨row, member, named, rfl⟩)
  -- A row that is ongoing afterwards comes from one that was ongoing before.
  have origin : ∀ current ∈ after, current.endAt = 0 → current ∈ calls ∧ current.id ≠ call.id ∨
      current = row.updatedFrom call := by
    intro current found _
    rcases (saved current).mp found with untouched | ⟨previous, previousFound, same, rfl⟩
    · exact .inl untouched
    · rw [onlyRow previous previousFound same]
      exact .inr rfl
  refine ⟨⟨?_, ?_⟩, ?_, ?_⟩
  · intro current found
    rcases (saved current).mp found with ⟨before, -⟩ | ⟨previous, previousFound, same, rfl⟩
    · exact consistent.written current before
    · exact ⟨(consistent.written previous previousFound).1, kept⟩
  · intro left leftFound right rightFound sameChannel leftOngoing rightOngoing
    obtain ⟨leftBefore, leftOther⟩ | rfl := origin left leftFound leftOngoing <;>
      rcases origin right rightFound rightOngoing with ⟨rightBefore, rightOther⟩ | rfl
    · exact consistent.single left leftBefore right rightBefore sameChannel leftOngoing rightOngoing
    · have same := consistent.single left leftBefore row member sameChannel leftOngoing ongoing
      exact absurd (by rw [same, named]) leftOther
    · have same := consistent.single right rightBefore row member sameChannel.symm rightOngoing ongoing
      exact absurd (by rw [same, named]) rightOther
    · rfl
  · intro current elsewhere
    rw [saved]
    constructor
    · intro found
      rcases found with ⟨before, -⟩ | ⟨previous, previousFound, same, rfl⟩
      · exact before
      · rw [onlyRow previous previousFound same] at elsewhere
        exact absurd channel elsewhere
    · intro before
      refine .inl ⟨before, fun same => elsewhere ?_⟩
      rw [onlyRow current before same, channel]
  · intro still
    exact ⟨still, kept, _, updated, named, channel, still⟩

/-- Adding a call to a channel that has no ongoing one. -/
theorem CallsConsistent.open (consistent : CallsConsistent calls) (started : 0 < call.startAt)
    (kept : call.deleteAt = 0) (ongoing : call.endAt = 0) (channel : call.channelID = channelID)
    (free : ∀ row ∈ calls, row.channelID = channelID → row.endAt ≠ 0)
    (inserted : calls.insert? call = some after) :
    CallsConsistent after ∧ ChangesChannel channelID calls after ∧ Tracks after channelID call := by
  have mem : ∀ row, row ∈ after ↔ row ∈ calls ∨ row = call := fun row => KeyedTable.mem_insert? inserted
  refine ⟨⟨?_, ?_⟩, ?_, ⟨ongoing, kept, call, (mem call).mpr (.inr rfl), rfl, channel, ongoing⟩⟩
  · intro row found
    rcases (mem row).mp found with before | rfl
    · exact consistent.written row before
    · exact ⟨started, kept⟩
  · intro left leftFound right rightFound sameChannel leftOngoing rightOngoing
    obtain leftBefore | rfl := (mem left).mp leftFound <;>
      rcases (mem right).mp rightFound with rightBefore | rfl
    · exact consistent.single left leftBefore right rightBefore sameChannel leftOngoing rightOngoing
    · exact absurd leftOngoing (free left leftBefore (sameChannel.trans channel))
    · exact absurd rightOngoing (free right rightBefore (sameChannel.symm.trans channel))
    · rfl
  · intro row elsewhere
    rw [mem]
    constructor
    · intro found
      rcases found with before | rfl
      · exact before
      · exact absurd channel elsewhere
    · exact .inl

end

/-! ### Joins and leaves -/

/-- Whether a batch still has a call to write to: a batch of leaves is through
with the call once nobody is left in it. -/
def Batch.Live (batch : Batch) (cs : CallState) : Prop := batch.kind = .joining ∨ cs.sessions.size ≠ 0

/-- What a join that finds no call relies on: there is none in the store either. -/
def FindsNoCall (calls : KeyedTable Call.id) (channelID : String) : Prop :=
  ∀ row ∈ calls, row.channelID = channelID → row.endAt ≠ 0

/-- The writes of a join, as they follow on a state that the store agrees with. -/
theorem CallWritten.consistent {env : Env} {channelID : String} {state : Option CallState} {req : JoinRequest}
    {base : CallState} {before : Store} {calls : KeyedTable Call.id} (consistent : CallsConsistent before.calls)
    (tracks : ∀ cs, state = some cs → Tracks before.calls channelID cs.call)
    (free : state = none → StartsCall env channelID req before → FindsNoCall before.calls channelID)
    (found : stateToJoin env channelID state req = .ok base) (checked : checkJoin env base req = .ok ())
    (planned : ∃ planned, jobsToStart env base req = .ok planned)
    (written : CallWritten env (joinedState env base req) before calls) :
    CallsConsistent calls ∧ ChangesChannel channelID before.calls calls ∧
      Tracks calls channelID (joinedState env base req).call := by
  have same := joinedState_same env base req
  cases state with
  | none =>
    have identity := same.identity
    simp only [Call.identity, Prod.mk.injEq] at identity
    obtain ⟨-, sameChannel, sameStart, -, sameDelete, -⟩ := identity
    obtain ⟨starts, inserted⟩ := CallWritten.starts found checked planned written
    obtain ⟨-, -, fresh⟩ := stateToJoin_none found
    have new := fresh.call.identity
    simp only [Call.identity, newCall, Prod.mk.injEq] at new
    refine consistent.open ?_ (sameDelete.trans new.2.2.2.2.1) (same.endAt.trans fresh.call.endAt)
      (sameChannel.trans new.2.1) (free rfl starts) inserted
    rw [sameStart, new.2.2.1]
    exact env.now.unixMilli_pos
  | some cs =>
    have reused : base = cs := (Except.ok.inj found).symm
    subst reused
    have tracked : Tracks before.calls channelID (joinedState env base req).call :=
      (tracks base rfl).congr same.identity same.endAt
    obtain ⟨row, member, named, -⟩ := tracked.row
    have wrote := written.saved ⟨row, member, named⟩
    subst wrote
    obtain ⟨saved, changes, tracksAfter⟩ := consistent.save tracked.kept tracked.row fun row => Store.mem_saveCall
    exact ⟨saved, changes, tracksAfter tracked.ongoing⟩

/-- What an item leaves behind: a consistent table, changed for its channel
only, that the state for the next item agrees with. -/
structure ItemKeeps (channelID : String) (before after : KeyedTable Call.id) (next : Option CallState)
    (live : CallState → Prop) : Prop where
  consistent : CallsConsistent after
  changes : ChangesChannel channelID before after
  tracks : ∀ cs, next = some cs → live cs → Tracks after channelID cs.call

theorem AddEffect.keeps {env : Env} {channelID : String} {state next : Option CallState} {req : JoinRequest}
    {before after : Store} (effect : AddEffect env channelID state req before next after)
    (consistent : CallsConsistent before.calls)
    (tracks : ∀ cs, state = some cs → Tracks before.calls channelID cs.call)
    (free : state = none → StartsCall env channelID req before → FindsNoCall before.calls channelID) :
    ItemKeeps channelID before.calls after.calls next fun _ => True := by
  cases effect with
  | failed effect =>
    cases effect with
    | refused sameCalls sameSessions =>
      rw [sameCalls]
      exact ⟨consistent, .refl _ _, fun cs held _ => tracks cs held⟩
    | callOnly found checked planned written sameSessions refusal =>
      obtain ⟨kept, changes, tracked⟩ := written.consistent consistent tracks free found checked planned
      refine ⟨kept, changes, fun cs held _ => ?_⟩
      subst held
      have reused : cs = _ := Except.ok.inj found
      subst reused
      have same := joinedState_same env cs req
      exact tracked.congr same.identity.symm same.endAt.symm
  | joined effect later =>
    cases effect with
    | joined found checked planned written inserted sameCall sameSessions valid =>
      obtain ⟨kept, changes, tracked⟩ := written.consistent consistent tracks free found checked planned
      refine ⟨kept, changes, fun cs held _ => ?_⟩
      cases held
      rw [sameCall]
      exact tracked
  | @started joined announced middle _ postID threadID effect first changed same wrote =>
    cases effect with
    | joined found checked planned written inserted sameCall sameSessions valid =>
      obtain ⟨kept, changes, tracked⟩ := written.consistent consistent tracks free found checked planned
      rw [← sameCall] at tracked
      have announcedTracks : Tracks middle.calls channelID announced.call := by
        rw [changed]
        exact ⟨tracked.ongoing, tracked.kept, tracked.row⟩
      rcases wrote with unsaved | saved
      · rw [unsaved]
        exact ⟨kept, changes, fun cs held _ => by cases held; exact announcedTracks⟩
      · obtain ⟨keptAgain, changesAgain, tracksAgain⟩ :=
          kept.save announcedTracks.kept announcedTracks.row fun row => Store.mem_saveCall
        rw [saved]
        refine ⟨keptAgain, changes.trans changesAgain, fun cs held _ => ?_⟩
        cases held
        exact tracksAgain announcedTracks.ongoing

theorem LeaveEffect.keeps {env : Env} {channelID : String} {ref : SessionRef} {before after : World}
    {state next : Option CallState} (effect : LeaveEffect env ref before state next after)
    (consistent : CallsConsistent before.store.calls)
    (tracks : ∀ cs, state = some cs → cs.sessions.size ≠ 0 → Tracks before.store.calls channelID cs.call) :
    ItemKeeps channelID before.store.calls after.store.calls next fun cs => cs.sessions.size ≠ 0 := by
  cases effect with
  | nothing => exact ⟨consistent, .refl _ _, fun cs held => by cases held⟩
  | @removed held ended left effect =>
    have occupied {us : CallSession} (found : held.sessions.find? ref.originalConnID = some us) :
        held.sessions.size ≠ 0 :=
      KeyedTable.size_ne_zero_of_mem (KeyedTable.find?_eq_some_iff.mp found).1
    cases effect with
    | absent => exact ⟨consistent, .refl _ _, fun cs same => by cases same; exact tracks held rfl⟩
    | undeleted => exact ⟨consistent, .refl _ _, fun cs same => by cases same; exact tracks held rfl⟩
    | @jobUnsaved err us _ found deleted same call posts deletes broken =>
      rw [same]
      refine ⟨consistent, .refl _ _, fun cs same _ => ?_⟩
      cases same
      obtain ⟨identity, endAt⟩ := Call.withoutMedia_kept env us held.call
      exact (tracks held rfl (occupied found)).congr (call ▸ identity) (call ▸ endAt)
    | @callUnsaved err us _ found deleted same call posts deletes broken =>
      rw [same]
      refine ⟨consistent, .refl _ _, fun cs same others => ?_⟩
      cases same
      obtain ⟨identity, endAt⟩ := Call.afterLeave_kept env ref us left.state.sessions held.call
      rw [if_neg others] at endAt
      exact (tracks held rfl (occupied found)).congr (call ▸ identity) (call ▸ endAt)
    | @saved us _ found deleted wrote call posts =>
      obtain ⟨identity, endAt⟩ := Call.afterLeave_kept env ref us left.state.sessions held.call
      rw [← call] at identity endAt
      simp only [Call.identity, Prod.mk.injEq] at identity
      obtain ⟨sameID, -, -, -, sameDelete, -⟩ := identity
      have tracked := tracks held rfl (occupied found)
      obtain ⟨row, member, named, channel, ongoing⟩ := tracked.row
      obtain ⟨kept, changes, tracksAfter⟩ := consistent.save (sameDelete.trans tracked.kept)
        ⟨row, member, named.trans sameID.symm, channel, ongoing⟩ fun row => Store.mem_saveCall
      rw [wrote]
      refine ⟨kept, changes, fun cs same others => ?_⟩
      cases same
      rw [if_neg others] at endAt
      exact tracksAfter (endAt.trans tracked.ongoing)

/-! ### Runs -/

/-- No join opens a call in a channel whose ongoing call the state of its batch does not show. -/
def OpensKnowingly (ops : Operations) : OperationStep → Prop
  | .join env channelID req =>
    ops.batch? channelID .joining = some none → StartsCall env channelID req ops.world.store →
      FindsNoCall ops.world.store.calls channelID
  | _ => True

/-- Between the steps the table is consistent, and whatever a batch holds agrees with it. -/
structure OngoingInvariant (ops : Operations) : Prop where
  consistent : CallsConsistent ops.world.store.calls
  held : ∀ channelID batch cs, ops.held.get? channelID = some batch → batch.state = some cs → batch.Live cs →
    Tracks ops.world.store.calls channelID cs.call

/-- Holding a batch on one channel leaves the batches of the others. -/
theorem OngoingInvariant.hold {ops : Operations} (inv : OngoingInvariant ops) {channelID : String}
    {kind : BatchKind} {next : Option CallState} {world : World}
    (kept : ItemKeeps channelID ops.world.store.calls world.store.calls next (Batch.Live ⟨kind, next⟩)) :
    OngoingInvariant (ops.holdBatch channelID kind next world) := by
  refine ⟨kept.consistent, ?_⟩
  intro other batch cs found loaded live
  rcases Operations.holdBatch_cases found with ⟨here, rfl⟩ | ⟨elsewhere, found⟩
  · rw [here]
    exact kept.tracks cs loaded live
  · exact (inv.held other batch cs found loaded live).frame elsewhere kept.changes

theorem OngoingInvariant.step {before after : Operations} {step : OperationStep} (inv : OngoingInvariant before)
    (knowingly : OpensKnowingly before step) (effect : before.Effect step after) : OngoingInvariant after := by
  cases effect with
  | notLocked => exact inv
  | @locked env channelID kind state free loads =>
    refine inv.hold ⟨inv.consistent, .refl _ _, ?_⟩
    intro cs loaded live
    cases loaded
    obtain ⟨member, channel, active⟩ := Store.activeCall?_eq_some loads.1
    have ongoing : cs.call.endAt = 0 := by
      simp only [Store.isActive, decide_eq_true_eq] at active
      exact active.1
    exact ⟨ongoing, (inv.consistent.written _ member).2, cs.call, member, rfl, channel, ongoing⟩
  | joined running effect keepsJobs =>
    have found := Operations.batch?_eq_some running
    have kept := effect.keeps inv.consistent (fun cs held => inv.held _ _ cs found held (.inl rfl))
      fun none starts => knowingly (by rw [running, none]) starts
    exact inv.hold ⟨kept.consistent, kept.changes, fun cs held _ => kept.tracks cs held trivial⟩
  | left running effect =>
    have found := Operations.batch?_eq_some running
    have kept := effect.keeps inv.consistent fun cs held others => inv.held _ _ cs found held (.inr others)
    refine inv.hold ⟨kept.consistent, kept.changes, fun cs held live => kept.tracks cs held ?_⟩
    exact live.resolve_left (by simp)
  | released =>
    refine ⟨inv.consistent, ?_⟩
    intro other batch cs found loaded live
    rw [StringMap.get?_erase] at found
    split at found
    · cases found
    · exact inv.held other batch cs found loaded live

/-- The joins and leaves from a store with at most one ongoing call per channel. -/
def consistentOperations : System Operations OperationStep :=
  operations fun store => CallsConsistent store.calls

theorem ongoingInvariant_of_reachable {ops : Operations}
    (reached : (consistentOperations.restrict OpensKnowingly).Reachable ops) : OngoingInvariant ops := by
  refine System.Reachable.invariant_of_allowed ?_ ?_ reached
  · intro ops ⟨unheld, consistent⟩
    refine ⟨consistent, fun channelID batch cs found => ?_⟩
    rw [unheld] at found
    cases found
  · exact fun before step after inv knowingly taken => inv.step knowingly (Operations.next?_effect taken)

theorem idle_consistent : consistentOperations.init Operations.idle :=
  ⟨rfl, fun _ member => absurd member KeyedTable.not_mem_empty,
    fun _ member => absurd member KeyedTable.not_mem_empty⟩

/-- A batch of one join, run where nothing fails. -/
def oneJoin : List OperationStep :=
  [.lock (.quiet 1000 "") "channel" .joining,
    .join (.quiet 1001 "call") "channel" (.plain "alice" "conn" "")]

end Calls
