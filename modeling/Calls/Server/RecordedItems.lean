import Calls.Server.RecordedJoins
import Calls.Server.SyncedCalls

/-! What the items of batches do to the rows of the calls, whatever fails, and whose
state an item hands on. -/

set_option autoImplicit false

namespace Calls

open LockedHandler Command

/-- How the rows of the calls go on: each is that of a call as before, or of a new one
in some channel. A call that has ended is not opened again. -/
structure RowsKept (before after : KeyedTable Call.id) : Prop where
  rows : ∀ row ∈ after,
    (∃ previous ∈ before, row.id = previous.id ∧ row.channelID = previous.channelID ∧ (row.endAt = 0 → previous.endAt = 0)) ∨
      (before.contains row.id = false ∧ row.channelID ≠ "")
  kept : ∀ previous ∈ before, ∃ row ∈ after, row.id = previous.id

namespace RowsKept

variable {before middle after : KeyedTable Call.id}

theorem refl (calls : KeyedTable Call.id) : RowsKept calls calls :=
  ⟨fun row member => .inl ⟨row, member, rfl, rfl, fun ongoing => ongoing⟩, fun row member => ⟨row, member, rfl⟩⟩

theorem absent (kept : RowsKept before after) {callID : String} (absent : after.contains callID = false) :
    before.contains callID = false := by
  refine KeyedTable.contains_eq_false_iff.mpr fun previous old named => ?_
  obtain ⟨row, member, same⟩ := kept.kept previous old
  exact KeyedTable.contains_eq_false_iff.mp absent row member (same.trans named)

theorem trans (first : RowsKept before middle) (second : RowsKept middle after) : RowsKept before after := by
  constructor
  · intro row member
    rcases second.rows row member with ⟨between, betweenMember, same, channel, ongoing⟩ | ⟨new, named⟩
    · rcases first.rows between betweenMember with ⟨previous, old, sameBefore, channelBefore, ongoingBefore⟩ | ⟨new, named⟩
      · exact .inl ⟨previous, old, same.trans sameBefore, channel.trans channelBefore, fun still => ongoingBefore (ongoing still)⟩
      · exact .inr ⟨by rwa [same], by rwa [channel]⟩
    · exact .inr ⟨first.absent new, named⟩
  · intro previous old
    obtain ⟨between, betweenMember, sameBefore⟩ := first.kept previous old
    obtain ⟨row, member, same⟩ := second.kept between betweenMember
    exact ⟨row, member, same.trans sameBefore⟩

/-- The row of an ongoing call is saved. -/
theorem save {store : Store} {call : Call} (held : ∃ row ∈ store.calls, row.id = call.id ∧ row.endAt = 0) :
    RowsKept store.calls (store.saveCall call).calls := by
  constructor
  · intro row member
    rcases Store.mem_saveCall.mp member with ⟨old, -⟩ | ⟨previous, old, named, rfl⟩
    · exact .inl ⟨row, old, rfl, rfl, fun ongoing => ongoing⟩
    · obtain ⟨tracked, trackedMember, trackedNamed, ongoing⟩ := held
      rw [KeyedTable.eq_of_key_eq trackedMember old (trackedNamed.trans named.symm)] at ongoing
      exact .inl ⟨previous, old, rfl, rfl, fun _ => ongoing⟩
  · intro previous old
    by_cases named : previous.id = call.id
    · exact ⟨previous.updatedFrom call, Store.mem_saveCall.mpr (.inr ⟨previous, old, named, rfl⟩), rfl⟩
    · exact ⟨previous, Store.mem_saveCall.mpr (.inl ⟨old, named⟩), rfl⟩

theorem insert {call : Call} (named : call.channelID ≠ "") (inserted : before.insert? call = some after) :
    RowsKept before after := by
  have mem : ∀ row, row ∈ after ↔ row ∈ before ∨ row = call := fun row => KeyedTable.mem_insert? inserted
  constructor
  · intro row member
    rcases (mem row).mp member with old | rfl
    · exact .inl ⟨row, old, rfl, rfl, fun ongoing => ongoing⟩
    · exact .inr ⟨(KeyedTable.insert?_eq_some inserted).1, named⟩
  · exact fun previous old => ⟨previous, (mem previous).mpr (.inl old), rfl⟩

end RowsKept

/-! ### Joins -/

section
variable {env : Env} {channelID : String} {state next : Option CallState} {req : JoinRequest} {before after : Store}

theorem CallWritten.rowsKept {base : CallState} {calls : KeyedTable Call.id}
    (tracks : ∀ cs, state = some cs → Tracks before.calls channelID cs.call)
    (found : stateToJoin env channelID state req = .ok base) (checked : checkJoin env base req = .ok ())
    (planned : ∃ planned, jobsToStart env base req = .ok planned)
    (written : CallWritten env (joinedState env base req) before calls) : RowsKept before.calls calls := by
  cases state with
  | none =>
    obtain ⟨-, inserted⟩ := written.starts found checked planned
    exact .insert (Call.isValid_ok_iff.mp written.1).2.1 inserted
  | some cs =>
    obtain rfl : cs = base := Except.ok.inj found
    obtain ⟨row, member, named, -, ongoing⟩ := (tracks cs rfl).row
    have named : row.id = (joinedState env cs req).call.id := named.trans (joinedState_same env cs req).id_eq.symm
    rw [written.saved ⟨row, member, named⟩]
    exact .save ⟨row, member, named, ongoing⟩

/-- The state that an item of joins hands on is of the call of the batch, or of a new one. -/
def HandedOn (before : Store) (state : Option CallState) (cs : CallState) : Prop :=
  (∃ base, state = some base ∧ cs.call.id = base.call.id) ∨ (state = none ∧ before.calls.contains cs.call.id = false)

theorem JoinEffect.handedOn {joined : CallState} (effect : JoinEffect env channelID state req before (.ok joined) after) :
    HandedOn before state joined := by
  cases effect with
  | @joined _ base _ found checked planned written inserted sameCall =>
    have named : joined.call.id = base.call.id := by
      rw [sameCall]
      exact (joinedState_same env base req).id_eq
    cases state with
    | none =>
      obtain ⟨-, created⟩ := written.starts found checked planned
      refine .inr ⟨rfl, ?_⟩
      rw [sameCall]
      exact (KeyedTable.insert?_eq_some created).1
    | some cs =>
      obtain rfl : cs = base := Except.ok.inj found
      exact .inl ⟨cs, rfl, named⟩

theorem AddEffect.handedOn (effect : AddEffect env channelID state req before next after) :
    ∀ cs, next = some cs → HandedOn before state cs := by
  intro cs held
  cases effect with
  | failed effect => exact .inl ⟨cs, held, rfl⟩
  | joined effect later =>
    cases held
    exact effect.handedOn
  | started effect first changed same wrote =>
    cases held
    subst changed
    exact effect.handedOn

theorem JoinEffect.rowsKept {result : Except String CallState} (tracks : ∀ cs, state = some cs → Tracks before.calls channelID cs.call)
    (effect : JoinEffect env channelID state req before result after) : RowsKept before.calls after.calls := by
  cases effect with
  | refused calls sessions =>
    rw [calls]
    exact .refl before.calls
  | callOnly found checked planned written sessions refusal => exact written.rowsKept tracks found checked planned
  | joined found checked planned written inserted sameCall sameSessions valid => exact written.rowsKept tracks found checked planned

theorem AddEffect.rowsKept (consistent : CallsConsistent before.calls)
    (tracks : ∀ cs, state = some cs → Tracks before.calls channelID cs.call)
    (free : state = none → StartsCall env channelID req before → FindsNoCall before.calls channelID)
    (effect : AddEffect env channelID state req before next after) : RowsKept before.calls after.calls := by
  cases effect with
  | failed effect => exact effect.rowsKept tracks
  | joined effect later => exact effect.rowsKept tracks
  | @started joined announced middle _ postID threadID effect first changed same wrote =>
    have kept := effect.rowsKept tracks
    rcases wrote with unsaved | saved
    · rwa [unsaved]
    · cases effect with
      | joined found checked planned written inserted sameCall =>
        obtain ⟨-, -, tracked⟩ := written.consistent consistent tracks free found checked planned
        rw [← sameCall] at tracked
        obtain ⟨row, member, named, -, ongoing⟩ := tracked.row
        rw [saved, changed]
        exact kept.trans (.save ⟨row, member, named, ongoing⟩)

/-- Whoever is in a call has joined it under a name. -/
theorem JoinEffect.named {joined : CallState} (effect : JoinEffect env channelID state req before (.ok joined) after)
    (people : ∀ cs, state = some cs → ∀ session ∈ cs.sessions, session.userID ≠ "") :
    ∀ session ∈ joined.sessions, session.userID ≠ "" := by
  intro session member
  cases effect with
  | @joined _ base _ found checked planned written inserted sameCall sameSessions =>
    rw [sameSessions] at member
    rcases (joinedState_sessions (checkJoin_absent checked) session).mp member with old | rfl
    · cases state with
      | none =>
        rw [(stateToJoin_none found).2.2.sessions] at old
        exact absurd old KeyedTable.not_mem_empty
      | some cs =>
        obtain rfl : cs = base := Except.ok.inj found
        exact people cs rfl session old
    · exact req.userID_ne

theorem AddEffect.named (effect : AddEffect env channelID state req before next after)
    (people : ∀ cs, state = some cs → ∀ session ∈ cs.sessions, session.userID ≠ "") :
    ∀ cs, next = some cs → ∀ session ∈ cs.sessions, session.userID ≠ "" := by
  intro cs held
  cases effect with
  | failed effect => exact people cs held
  | joined effect later =>
    cases held
    exact effect.named people
  | started effect first changed same wrote =>
    cases held
    subst changed
    exact effect.named people

end

/-! ### Leaves -/

theorem LeaveEffect.rowsKept {env : Env} {channelID : String} {ref : SessionRef} {before after : World} {state next : Option CallState}
    (tracks : ∀ cs, state = some cs → cs.sessions.size ≠ 0 → Tracks before.store.calls channelID cs.call)
    (effect : LeaveEffect env ref before state next after) : RowsKept before.store.calls after.store.calls := by
  cases effect with
  | nothing => exact .refl _
  | @removed held ended left effect =>
    cases effect with
    | absent => exact .refl _
    | undeleted => exact .refl _
    | jobUnsaved found deleted same =>
      rw [same]
      exact .refl _
    | callUnsaved found deleted same =>
      rw [same]
      exact .refl _
    | @saved us _ found deleted wrote call posts =>
      have filled : held.sessions.size ≠ 0 := KeyedTable.size_ne_zero_of_mem (KeyedTable.find?_eq_some_iff.mp found).1
      obtain ⟨row, member, named, -, ongoing⟩ := (tracks held rfl filled).row
      have identity := (Call.afterLeave_kept env ref us left.state.sessions held.call).1
      rw [← call] at identity
      rw [wrote]
      exact .save ⟨row, member, named.trans (Call.id_eq_of_identity identity).symm, ongoing⟩

end Calls
