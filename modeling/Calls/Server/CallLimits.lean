import Calls.Server.SyncedCalls

/-! How many sessions a call has under a limit. The limit is checked on the state of a
batch, which has every session that the store has of its call, whatever fails. -/

set_option autoImplicit false

namespace Calls

open LockedHandler Command

def Store.numSessions (store : Store) (callID : String) : Nat := (store.callSessions callID).size

/-- Every session is one of a call that was created. -/
def Store.SessionsOfCalls (store : Store) : Prop := ∀ session ∈ store.sessions, ∃ row ∈ store.calls, row.id = session.callID

/-- No call has more than `limit` sessions. -/
def Store.WithinLimit (limit : Int) (store : Store) : Prop := ∀ callID, (store.numSessions callID : Int) ≤ limit

/-- The call is one of the channel, and the state has its sessions, within the limit. -/
structure CallState.Covers (limit : Int) (store : Store) (channelID : String) (cs : CallState) : Prop where
  row : ∃ row ∈ store.calls, row.id = cs.call.id ∧ row.channelID = channelID
  sessions : ∀ session ∈ store.sessions, session.callID = cs.call.id → cs.sessions.contains session.id = true
  within : (cs.sessions.size : Int) ≤ limit

/-- What an item leaves behind: the calls keep their rows, and what is new of sessions is in
the state for the next item. -/
structure ItemCovered (limit : Int) (channelID : String) (before after : Store) (next : Option CallState) : Prop where
  rows : ∀ row ∈ before.calls, ∃ kept ∈ after.calls, kept.id = row.id ∧ kept.channelID = row.channelID
  sessions : ∀ session ∈ after.sessions, session ∈ before.sessions ∨ ∃ cs, next = some cs ∧ session.callID = cs.call.id
  covers : ∀ cs, next = some cs → cs.Covers limit after channelID

namespace ItemCovered

variable {limit : Int} {channelID : String} {before after : Store} {next : Option CallState}

theorem sessionsOfCalls (item : ItemCovered limit channelID before after next) (ofCalls : before.SessionsOfCalls) :
    after.SessionsOfCalls := by
  intro session member
  rcases item.sessions session member with old | ⟨cs, handed, named⟩
  · obtain ⟨row, rowMember, same⟩ := ofCalls session old
    obtain ⟨kept, keptMember, keptID, -⟩ := item.rows row rowMember
    exact ⟨kept, keptMember, keptID.trans same⟩
  · obtain ⟨row, rowMember, same, -⟩ := (item.covers cs handed).row
    exact ⟨row, rowMember, same.trans named.symm⟩

theorem withinLimit (item : ItemCovered limit channelID before after next) (within : before.WithinLimit limit) :
    after.WithinLimit limit := by
  intro callID
  by_cases handed : ∃ cs, next = some cs ∧ cs.call.id = callID
  · obtain ⟨cs, handed, rfl⟩ := handed
    have covers := item.covers cs handed
    have fewer : after.numSessions cs.call.id ≤ cs.sessions.size := by
      refine KeyedTable.size_le_of_contains fun session member => ?_
      obtain ⟨stored, ofCall⟩ := Store.mem_callSessions.mp member
      exact covers.sessions session stored ofCall
    exact Int.le_trans (Int.ofNat_le.mpr fewer) covers.within
  · -- Nothing is new of the call.
    have fewer : after.numSessions callID ≤ before.numSessions callID := by
      refine KeyedTable.size_le_of_contains fun session member => ?_
      obtain ⟨stored, ofCall⟩ := Store.mem_callSessions.mp member
      rcases item.sessions session stored with old | ⟨cs, next, named⟩
      · exact KeyedTable.contains_iff.mpr ⟨session, Store.mem_callSessions.mpr ⟨old, ofCall⟩, rfl⟩
      · exact absurd ⟨cs, next, named.symm.trans ofCall⟩ handed
    exact Int.le_trans (Int.ofNat_le.mpr fewer) (within callID)

/-- The state of another channel still has the sessions of its call. -/
theorem elsewhere (item : ItemCovered limit channelID before after next) {other : String} {cs : CallState}
    (different : other ≠ channelID) (covers : cs.Covers limit before other) : cs.Covers limit after other := by
  obtain ⟨row, member, named, channel⟩ := covers.row
  obtain ⟨kept, keptMember, keptID, keptChannel⟩ := item.rows row member
  refine ⟨⟨kept, keptMember, keptID.trans named, keptChannel.trans channel⟩, fun session stored ofCall => ?_, covers.within⟩
  rcases item.sessions session stored with old | ⟨handed, next, ofHanded⟩
  · exact covers.sessions session old ofCall
  · obtain ⟨own, ownMember, ownID, ownChannel⟩ := (item.covers handed next).row
    have same : own.id = kept.id := by rw [ownID, ← ofHanded, ofCall, keptID, named]
    rw [KeyedTable.eq_of_key_eq ownMember keptMember same, keptChannel, channel] at ownChannel
    exact absurd ownChannel different

/-- Where nothing is new, the states of before will do. -/
theorem unchanged (calls : after.calls = before.calls) (sessions : after.sessions = before.sessions)
    (covers : ∀ cs, next = some cs → cs.Covers limit before channelID) : ItemCovered limit channelID before after next where
  rows row member := ⟨row, calls ▸ member, rfl, rfl⟩
  sessions session member := .inl (sessions ▸ member)
  covers cs handed := by
    have held := covers cs handed
    exact ⟨calls ▸ held.row, sessions ▸ held.sessions, held.within⟩

end ItemCovered

/-! ### Joins -/

section
variable {env : Env} {limit : Int} {channelID : String} {state next : Option CallState} {req : JoinRequest} {before after : Store}

theorem Store.saveCall_rows (store : Store) (call : Call) :
    ∀ row ∈ store.calls, ∃ kept ∈ (store.saveCall call).calls, kept.id = row.id ∧ kept.channelID = row.channelID := by
  intro row member
  by_cases named : row.id = call.id
  · exact ⟨row.updatedFrom call, Store.mem_saveCall.mpr (.inr ⟨row, member, named, rfl⟩), rfl, rfl⟩
  · exact ⟨row, Store.mem_saveCall.mpr (.inl ⟨member, named⟩), rfl, rfl⟩

/-- The calls keep their rows when that of a join is written. -/
theorem CallWritten.keepsRows {joined : CallState} {calls : KeyedTable Call.id} (written : CallWritten env joined before calls) :
    ∀ row ∈ before.calls, ∃ kept ∈ calls, kept.id = row.id ∧ kept.channelID = row.channelID := by
  obtain ⟨-, ⟨-, -, inserted⟩ | ⟨-, rfl⟩⟩ := written
  · exact fun row member => ⟨row, (KeyedTable.mem_insert? inserted).mpr (.inl member), rfl, rfl⟩
  · exact Store.saveCall_rows before joined.call

theorem CallState.Covers.written {cs joined : CallState} {calls : KeyedTable Call.id} (covers : cs.Covers limit before channelID)
    (written : CallWritten env joined before calls) : ∃ row ∈ calls, row.id = cs.call.id ∧ row.channelID = channelID := by
  obtain ⟨row, member, named, channel⟩ := covers.row
  obtain ⟨kept, keptMember, keptID, keptChannel⟩ := written.keepsRows row member
  exact ⟨kept, keptMember, keptID.trans named, keptChannel.trans channel⟩

/-- Who is let in finds room. -/
theorem checkJoin_room {base : CallState} (checked : checkJoin env base req = .ok ()) (limited : env.config.maxCallParticipants = some limit)
    (positive : 0 < limit) : (base.sessions.size : Int) < limit := by
  unfold checkJoin at checked
  split at checked
  · cases checked
  · split at checked
    · cases checked
    · split at checked
      · next room =>
        simp only [joinAllowed, limited, decide_eq_true_eq] at room
        omega
      · cases checked

theorem JoinEffect.covered {result : Except String CallState} (limited : env.config.maxCallParticipants = some limit)
    (positive : 0 < limit) (ofCalls : before.SessionsOfCalls) (covers : ∀ cs, state = some cs → cs.Covers limit before channelID)
    (effect : JoinEffect env channelID state req before result after) :
    ItemCovered limit channelID before after (match result with | .error _ => state | .ok cs => some cs) := by
  cases effect with
  | refused calls sessions => exact .unchanged calls sessions covers
  | callOnly found checked planned written sessions refusal =>
    refine ⟨written.keepsRows, fun session member => .inl (sessions ▸ member), fun cs held => ?_⟩
    have own := covers cs held
    exact ⟨own.written written, sessions ▸ own.sessions, own.within⟩
  | @joined _ base joined found checked planned written inserted sameCall sameSessions =>
    have room := checkJoin_room checked limited positive
    have absent := checkJoin_absent checked
    have same := joinedState_same env base req
    have named : joined.call.id = base.call.id := by rw [sameCall]; exact same.id_eq
    have stored : ∀ session, session ∈ after.sessions ↔ session ∈ before.sessions ∨ session = newCallSession env base.call req :=
      fun session => KeyedTable.mem_insert? inserted
    have size : joined.sessions.size = base.sessions.size + 1 := by
      rw [sameSessions]
      exact KeyedTable.size_put_fresh absent
    have holds : ∀ session, session ∈ base.sessions ∨ session = newCallSession env base.call req → session ∈ joined.sessions := by
      intro session either
      rw [sameSessions]
      exact (joinedState_sessions absent session).mpr either
    have ofBase : ∀ session ∈ before.sessions, session.callID = base.call.id → base.sessions.contains session.id = true := by
      intro session member ofCall
      cases state with
      | none =>
        obtain ⟨-, created⟩ := written.starts found checked planned
        obtain ⟨row, rowMember, rowID⟩ := ofCalls session member
        have free := (KeyedTable.insert?_eq_some created).1
        exact absurd (rowID.trans (ofCall.trans same.id_eq.symm)) (KeyedTable.contains_eq_false_iff.mp free row rowMember)
      | some cs =>
        obtain rfl : cs = base := Except.ok.inj found
        exact (covers cs rfl).sessions session member ofCall
    have row : ∃ row ∈ after.calls, row.id = joined.call.id ∧ row.channelID = channelID := by
      cases state with
      | none =>
        obtain ⟨-, created⟩ := written.starts found checked planned
        obtain ⟨-, -, fresh⟩ := stateToJoin_none found
        refine ⟨_, (KeyedTable.mem_insert? created).mpr (.inr rfl), congrArg Call.id sameCall.symm, ?_⟩
        exact (same.trans fresh.call).channelID_eq
      | some cs =>
        obtain rfl : cs = base := Except.ok.inj found
        rw [named]
        exact (covers cs rfl).written written
    refine ⟨written.keepsRows, fun session member => ?_, fun cs held => ?_⟩
    · rcases (stored session).mp member with old | rfl
      · exact .inl old
      · exact .inr ⟨joined, rfl, named.symm⟩
    · cases held
      refine ⟨row, fun session member ofCall => ?_, by rw [size]; omega⟩
      rcases (stored session).mp member with old | rfl
      · obtain ⟨own, ownMember, ownID⟩ := KeyedTable.contains_iff.mp (ofBase session old (ofCall.trans named))
        exact KeyedTable.contains_iff.mpr ⟨own, holds own (.inl ownMember), ownID⟩
      · exact KeyedTable.contains_iff.mpr ⟨_, holds _ (.inr rfl), rfl⟩

theorem AddEffect.covered (limited : env.config.maxCallParticipants = some limit) (positive : 0 < limit)
    (ofCalls : before.SessionsOfCalls) (covers : ∀ cs, state = some cs → cs.Covers limit before channelID)
    (effect : AddEffect env channelID state req before next after) : ItemCovered limit channelID before after next := by
  cases effect with
  | failed effect => exact effect.covered limited positive ofCalls covers
  | joined effect later => exact effect.covered limited positive ofCalls covers
  | @started joined announced middle _ postID threadID effect first changed same wrote =>
    have item := effect.covered limited positive ofCalls covers
    have held := item.covers joined rfl
    have rows : ∀ row ∈ middle.calls, ∃ kept ∈ after.calls, kept.id = row.id ∧ kept.channelID = row.channelID := by
      rcases wrote with unsaved | saved
      · exact fun row member => ⟨row, unsaved ▸ member, rfl, rfl⟩
      · rw [saved]
        exact Store.saveCall_rows middle announced.call
    have kept {row : Call} {callID channel : String} (member : row ∈ middle.calls) (named : row.id = callID) (inChannel : row.channelID = channel) :
        ∃ row ∈ after.calls, row.id = callID ∧ row.channelID = channel := by
      obtain ⟨kept, keptMember, keptID, keptChannel⟩ := rows row member
      exact ⟨kept, keptMember, keptID.trans named, keptChannel.trans inChannel⟩
    refine ⟨fun row member => ?_, fun session member => ?_, fun cs next => ?_⟩
    · obtain ⟨between, betweenMember, named, channel⟩ := item.rows row member
      exact kept betweenMember named channel
    · rcases item.sessions session (same ▸ member) with old | ⟨cs, next, ofCall⟩
      · exact .inl old
      · cases next
        exact .inr ⟨announced, rfl, by rw [changed]; exact ofCall⟩
    · cases next
      subst changed
      obtain ⟨row, member, named, channel⟩ := held.row
      exact ⟨kept member named channel, same ▸ held.sessions, held.within⟩

end

/-! ### Leaves -/

theorem LeaveEffect.covered {env : Env} {limit : Int} {channelID : String} {ref : SessionRef} {before after : World}
    {state next : Option CallState} (covers : ∀ cs, state = some cs → cs.Covers limit before.store channelID)
    (effect : LeaveEffect env ref before state next after) : ItemCovered limit channelID before.store after.store next := by
  cases effect with
  | nothing => exact .unchanged rfl rfl fun cs held => by cases held
  | @removed held ended left effect =>
    have own := covers held rfl
    have removed (deleted : SessionDeleted ref ⟨before, held⟩ left) (call : left.state.call.id = held.call.id)
        (rows : ∀ row ∈ before.store.calls, ∃ kept ∈ left.world.store.calls, kept.id = row.id ∧ kept.channelID = row.channelID) :
        ItemCovered limit channelID before.store left.world.store (some left.state) := by
      refine ⟨rows, fun session member => .inl ?_, fun cs next => ?_⟩
      · rw [deleted.store, KeyedTable.mem_erase] at member
        exact member.1
      · cases next
        obtain ⟨row, member, named, channel⟩ := own.row
        obtain ⟨kept, keptMember, keptID, keptChannel⟩ := rows row member
        refine ⟨⟨kept, keptMember, ?_, keptChannel.trans channel⟩, fun session member ofCall => ?_, ?_⟩
        · rw [keptID, named, call]
        · rw [deleted.store, KeyedTable.mem_erase] at member
          have there := own.sessions session member.1 (ofCall.trans call)
          obtain ⟨inMemory, inMemoryMember, same⟩ := KeyedTable.contains_iff.mp there
          rw [deleted.memory]
          exact KeyedTable.contains_iff.mpr ⟨inMemory, KeyedTable.mem_erase.mpr ⟨inMemoryMember, same ▸ member.2⟩, same⟩
        · have fewer : left.state.sessions.size ≤ held.sessions.size := by
            rw [deleted.memory]
            refine KeyedTable.size_le_of_contains fun session member => ?_
            exact KeyedTable.contains_iff.mpr ⟨session, (KeyedTable.mem_erase.mp member).1, rfl⟩
          exact Int.le_trans (Int.ofNat_le.mpr fewer) own.within
    have unsaved (same : left.world.store.calls = before.store.calls) :
        ∀ row ∈ before.store.calls, ∃ kept ∈ left.world.store.calls, kept.id = row.id ∧ kept.channelID = row.channelID :=
      fun row member => ⟨row, same ▸ member, rfl, rfl⟩
    cases effect with
    | absent => exact .unchanged rfl rfl covers
    | undeleted => exact .unchanged rfl rfl covers
    | @jobUnsaved err us _ found deleted same call =>
      refine removed deleted ?_ (unsaved same)
      rw [call]
      exact Call.id_eq_of_identity (Call.withoutMedia_kept env us held.call).1
    | @callUnsaved err us _ found deleted same call =>
      refine removed deleted ?_ (unsaved same)
      rw [call]
      exact Call.id_eq_of_identity (Call.afterLeave_kept env ref us left.state.sessions held.call).1
    | @saved us _ found deleted wrote call =>
      refine removed deleted ?_ ?_
      · rw [call]
        exact Call.id_eq_of_identity (Call.afterLeave_kept env ref us left.state.sessions held.call).1
      · rw [wrote]
        exact Store.saveCall_rows before.store left.state.call

/-! ### Runs -/

/-- Between the steps no call is over the limit, and the batches have all of their sessions. -/
structure LimitInvariant (limit : Int) (ops : Operations) : Prop where
  ofCalls : ops.world.store.SessionsOfCalls
  within : ops.world.store.WithinLimit limit
  held : ∀ channelID batch cs, ops.held.get? channelID = some batch → batch.state = some cs →
    cs.Covers limit ops.world.store channelID

theorem LimitInvariant.hold {limit : Int} {ops : Operations} (inv : LimitInvariant limit ops) {channelID : String}
    {kind : BatchKind} {next : Option CallState} {world : World}
    (item : ItemCovered limit channelID ops.world.store world.store next) :
    LimitInvariant limit (ops.holdBatch channelID kind next world) := by
  refine ⟨item.sessionsOfCalls inv.ofCalls, item.withinLimit inv.within, ?_⟩
  intro other batch cs found loaded
  rcases Operations.holdBatch_cases found with ⟨here, rfl⟩ | ⟨elsewhere, found⟩
  · rw [here]
    exact item.covers cs loaded
  · exact item.elsewhere elsewhere (inv.held other batch cs found loaded)

/-- The plugin is configured with the limit. -/
def LimitedTo (limit : Int) (_ : Operations) (step : OperationStep) : Prop :=
  ∀ env, step.env? = some env → env.config.maxCallParticipants = some limit

theorem LimitInvariant.step {limit : Int} (positive : 0 < limit) {before after : Operations} {step : OperationStep}
    (inv : LimitInvariant limit before) (limited : LimitedTo limit before step) (effect : before.Effect step after) :
    LimitInvariant limit after := by
  cases effect with
  | notLocked => exact inv
  | @locked env channelID kind state free loads =>
    refine inv.hold (.unchanged rfl rfl fun cs loaded => ?_)
    subst loaded
    obtain ⟨call, sessions, -⟩ := loads
    obtain ⟨member, channel, -⟩ := Store.activeCall?_eq_some call
    refine ⟨⟨cs.call, member, rfl, channel⟩, fun session stored ofCall => ?_, ?_⟩
    · rw [sessions]
      exact KeyedTable.contains_iff.mpr ⟨session, Store.mem_callSessions.mpr ⟨stored, ofCall⟩, rfl⟩
    · rw [sessions]
      exact inv.within cs.call.id
  | joined running effect keepsJobs =>
    have found := Operations.batch?_eq_some running
    exact inv.hold (effect.covered (limited _ rfl) positive inv.ofCalls fun cs loaded => inv.held _ _ cs found loaded)
  | left running effect =>
    have found := Operations.batch?_eq_some running
    exact inv.hold (effect.covered fun cs loaded => inv.held _ _ cs found loaded)
  | released =>
    refine ⟨inv.ofCalls, inv.within, fun other batch cs found loaded => ?_⟩
    rw [StringMap.get?_erase] at found
    split at found
    · cases found
    · exact inv.held other batch cs found loaded

/-- The joins and leaves from a store whose calls are within the limit. -/
def limitedOperations (limit : Int) : System Operations OperationStep :=
  operations fun store => store.SessionsOfCalls ∧ store.WithinLimit limit

/-- With a limit on the participants of calls no call ever has more sessions in the store,
whatever store operations fail. -/
theorem withinLimit_of_reachable {limit : Int} (positive : 0 < limit) {ops : Operations}
    (reached : ((limitedOperations limit).restrict (LimitedTo limit)).Reachable ops) : ops.world.store.WithinLimit limit := by
  have inv : LimitInvariant limit ops := by
    refine System.Reachable.invariant_of_allowed ?_ ?_ reached
    · intro ops ⟨unheld, ofCalls, within⟩
      refine ⟨ofCalls, within, fun channelID batch cs found => ?_⟩
      rw [unheld] at found
      cases found
    · exact fun before step after inv limited taken => inv.step positive limited (Operations.next?_effect taken)
  exact inv.within

/-- The environment of a server that lets `limit` participants into a call. -/
def Env.limited (limit : Int) (now : Instant) (newID : String) : Env :=
  { Env.quiet now newID with config := { defaultEnabled := some true, maxCallParticipants := some limit } }

/-- Two users come to a call of one. -/
def comeToCallOfOne : List OperationStep :=
  [.lock (.limited 1 1000 "") "channel" .joining,
    .join (.limited 1 1001 "call") "channel" (.plain "alice" "conn-1" ""),
    .join (.limited 1 1002 "") "channel" (.plain "bob" "conn-2" ""),
    .unlock "channel"]

theorem withinLimit_of_comeToCallOfOne :
    ∃ ops, (limitedOperations 1).run? .idle comeToCallOfOne = some ops ∧
      ops.world.store.sessions.rows.map CallSession.userID = ["alice"] ∧ ops.world.store.WithinLimit 1 := by
  have computed : ((limitedOperations 1).run? .idle comeToCallOfOne).map
      (·.world.store.sessions.rows.map CallSession.userID) = some ["alice"] := by decide
  obtain ⟨ops, ran, users⟩ := Option.map_eq_some_iff.mp computed
  have limited : (limitedOperations 1).MeetsAlong (LimitedTo 1) .idle comeToCallOfOne := by
    refine .of_labels ?_ _
    intro step listed state env running
    simp only [comeToCallOfOne, List.mem_cons, List.not_mem_nil, or_false] at listed
    obtain rfl | rfl | rfl | rfl := listed <;> cases running <;> rfl
  have start : ((limitedOperations 1).restrict (LimitedTo 1)).Reachable .idle := by
    refine .init ⟨rfl, fun session member => absurd member KeyedTable.not_mem_empty, fun callID => ?_⟩
    change ((0 : Nat) : Int) ≤ 1
    decide
  exact ⟨ops, ran, users, withinLimit_of_reachable (by decide) (start.restrict_run limited ran)⟩

end Calls
