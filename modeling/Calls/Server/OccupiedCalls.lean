import Calls.Server.OngoingCalls
import Calls.Server.SyncedCalls

/-! An ongoing call has a session, as long as no join opens a call for a
connection that is in another call already. -/

set_option autoImplicit false

namespace Calls

open LockedHandler Command

def Store.HasSession (store : Store) (callID : String) : Prop := ∃ session ∈ store.sessions, session.callID = callID

/-- Every ongoing call has a session. -/
def Store.Occupied (store : Store) : Prop := ∀ row ∈ store.calls, row.endAt = 0 → store.HasSession row.id

/-- A join does not start a call for a connection that has a session already. -/
def NewConnection (env : Env) (channelID : String) (state : Option CallState) (req : JoinRequest) (store : Store) :
    Prop :=
  state = none → StartsCall env channelID req store → store.sessions.contains req.connID = false

/-! ### Joins -/

/-- No session is lost, and a row that was not there before has one. -/
structure Populated (before after : Store) : Prop where
  sessions : ∀ session ∈ before.sessions, session ∈ after.sessions
  rows : ∀ row ∈ after.calls, (∃ previous ∈ before.calls, previous.id = row.id) ∨ after.HasSession row.id

theorem Populated.save {before middle after : Store} {call : Call} (populated : Populated before middle)
    (sessions : after.sessions = middle.sessions) (calls : after.calls = (middle.saveCall call).calls) :
    Populated before after := by
  refine ⟨by rw [sessions]; exact populated.sessions, fun row member => ?_⟩
  rw [calls, Store.mem_saveCall] at member
  rw [Store.HasSession, sessions]
  rcases member with ⟨untouched, -⟩ | ⟨previous, old, -, rfl⟩
  · exact populated.rows row untouched
  · exact populated.rows previous old

section
variable {env : Env} {channelID : String} {state next : Option CallState} {req : JoinRequest} {before after : Store}

theorem newCallSession_valid {base : CallState} (valid : (joinedState env base req).call.isValid = .ok ()) :
    (newCallSession env base.call req).isValid = .ok () := by
  rw [Call.isValid_congr (joinedState_same env base req).identity, Call.isValid_ok_iff] at valid
  rw [CallSession.isValid_ok_iff]
  exact ⟨req.connID_ne, valid.1, req.userID_ne, Int.ne_of_gt env.now.unixMilli_pos⟩

theorem CallWritten.rows {joined : CallState} {calls : KeyedTable Call.id}
    (written : CallWritten env joined before calls) :
    ∀ row ∈ calls, (∃ previous ∈ before.calls, previous.id = row.id) ∨ row.id = joined.call.id := by
  intro row member
  obtain ⟨-, ⟨-, -, inserted⟩ | ⟨-, rfl⟩⟩ := written
  · rcases (KeyedTable.mem_insert? inserted).mp member with old | rfl
    · exact .inl ⟨row, old, rfl⟩
    · exact .inr rfl
  · rcases Store.mem_saveCall.mp member with ⟨old, -⟩ | ⟨previous, old, -, rfl⟩
    · exact .inl ⟨row, old, rfl⟩
    · exact .inl ⟨previous, old, rfl⟩

theorem JoinEffect.populated (works : env.StoreWorks) {result : Except String CallState}
    (effect : JoinEffect env channelID state req before result after)
    (synced : ∀ cs, state = some cs → cs.Synced Call.endAt before channelID)
    (new : NewConnection env channelID state req before) : Populated before after := by
  cases effect with
  | refused calls sessions =>
    exact ⟨by rw [sessions]; exact fun _ found => found, fun row member => .inl ⟨row, by rwa [← calls], rfl⟩⟩
  | @callOnly err _ base found checked planned written sessions refusal =>
    refine ⟨by rw [sessions]; exact fun _ found => found, fun row member => ?_⟩
    cases state with
    | none =>
      -- The store works and the connection is new, so that nothing refuses the session.
      obtain ⟨starts, -⟩ := written.starts found checked planned
      rcases refusal with invalid | broken | taken
      · exact absurd (newCallSession_valid written.1) invalid
      · rw [works] at broken
        cases broken
      · have absent := new rfl starts
        rw [show before.sessions.contains req.connID = true from taken] at absent
        cases absent
    | some cs =>
      have reused : cs = base := Except.ok.inj found
      subst reused
      rcases written.rows row member with old | created
      · exact .inl old
      · obtain ⟨row, rowMember, -, identity, -⟩ := (synced cs rfl).row
        have sameID := Call.id_eq_of_identity (identity.trans (joinedState_same env cs req).identity.symm)
        exact .inl ⟨row, rowMember, sameID.trans created.symm⟩
  | @joined _ base entered found checked planned written inserted sameCall sameSessions jobsValid =>
    refine ⟨fun session old => (KeyedTable.mem_insert? inserted).mpr (.inl old), fun row member => ?_⟩
    rcases written.rows row member with old | created
    · exact .inl old
    · refine .inr ⟨newCallSession env base.call req, (KeyedTable.mem_insert? inserted).mpr (.inr rfl), ?_⟩
      exact (joinedState_same env base req).symm.id_eq.trans created.symm

theorem AddEffect.populated (works : env.StoreWorks)
    (effect : AddEffect env channelID state req before next after)
    (synced : ∀ cs, state = some cs → cs.Synced Call.endAt before channelID)
    (new : NewConnection env channelID state req before) : Populated before after := by
  cases effect with
  | failed effect => exact effect.populated works synced new
  | joined effect later => exact effect.populated works synced new
  | started effect first changed same wrote =>
    have populated := effect.populated works synced new
    rcases wrote with unsaved | saved
    · refine ⟨by rw [same]; exact populated.sessions, fun row member => ?_⟩
      rw [unsaved] at member
      rw [Store.HasSession, same]
      exact populated.rows row member
    · exact populated.save same saved

/-- The state for the next item has somebody in it if the state before had. -/
theorem AddEffect.people (effect : AddEffect env channelID state req before next after)
    (people : ∀ cs, state = some cs → cs.sessions.size ≠ 0) : ∀ cs, next = some cs → cs.sessions.size ≠ 0 := by
  cases effect with
  | failed effect => exact people
  | joined effect later =>
    intro cs held
    cases held
    cases effect with
    | joined found checked planned written inserted sameCall sameSessions jobsValid =>
      rw [sameSessions]
      exact KeyedTable.size_ne_zero_of_mem ((joinedState_sessions (checkJoin_absent checked) _).mpr (.inr rfl))
  | started effect first changed same wrote =>
    intro cs held
    cases held
    rw [changed]
    simp [first]

end

theorem Populated.occupied {before after : Store} (populated : Populated before after) (occupied : before.Occupied)
    (evolve : CallsEvolve Call.endAt (fun _ _ => False) before.calls after.calls) : after.Occupied := by
  intro row member ongoing
  rcases evolve.rows row member with ⟨previous, old, identity, same | changed⟩ | ⟨-, new⟩
  · obtain ⟨session, stored, ofCall⟩ := occupied previous old (same.symm.trans ongoing)
    exact ⟨session, populated.sessions session stored, ofCall.trans (Call.id_eq_of_identity identity).symm⟩
  · exact changed.elim
  · rcases populated.rows row member with ⟨previous, old, sameID⟩ | has
    · exact absurd sameID (new previous old)
    · exact has

/-! ### Leaves -/

theorem WorkingLeave.occupied {env : Env} {channelID : String} {ref : SessionRef} {before after : World}
    {state next : Option CallState} (effect : WorkingLeave env ref before state next after)
    (occupied : before.store.Occupied) (synced : ∀ cs, state = some cs → cs.Synced Call.endAt before.store channelID) :
    after.store.Occupied := by
  cases effect with
  | nothing => exact occupied
  | @saved held us left found deleted wrote call jobs =>
    have kept := synced held rfl
    obtain ⟨identity, endAt⟩ := Call.afterLeave_kept env ref us left.state.sessions held.call
    rw [← call] at identity endAt
    have sameID : left.state.call.id = held.call.id := congrArg Prod.fst identity
    intro row rowMember ongoing
    rw [wrote, Store.mem_saveCall] at rowMember
    rcases rowMember with ⟨old, other⟩ | ⟨previous, -, hit, rfl⟩
    · obtain ⟨session, inStore, ofRow⟩ := occupied row old ongoing
      refine ⟨session, (deleted.elsewhere kept found session ?_).mpr inStore, ofRow⟩
      rwa [ofRow, ← sameID]
    · by_cases empty : left.state.sessions.size = 0
      · rw [if_pos empty] at endAt
        exact absurd (endAt.symm.trans ongoing) (Int.ne_of_gt env.now.unixMilli_pos)
      · obtain ⟨session, remains⟩ := KeyedTable.exists_mem_of_size empty
        obtain ⟨inStore, sameCall⟩ := deleted.remaining kept session remains
        exact ⟨session, inStore, (sameCall.trans sameID.symm).trans hit.symm⟩

/-! ### Runs -/

/-- A join that starts a call is one of a connection without a session anywhere. -/
def StartsWithNewConnection (ops : Operations) : OperationStep → Prop
  | .join env channelID req =>
    ops.batch? channelID .joining = some none → StartsCall env channelID req ops.world.store →
      ops.world.store.sessions.contains req.connID = false
  | _ => True

structure OccupiedInvariant (ops : Operations) : Prop where
  synced : SyncedInvariant Call.endAt ops
  occupied : ops.world.store.Occupied
  people : ∀ channelID cs, ops.held.get? channelID = some ⟨.joining, some cs⟩ → cs.sessions.size ≠ 0

theorem Store.Loads.people {store : Store} {channelID : String} {cs : CallState}
    (loads : store.Loads channelID (some cs)) (occupied : store.Occupied) : cs.sessions.size ≠ 0 := by
  obtain ⟨active, sameSessions, -⟩ := loads
  obtain ⟨member, -, ongoing⟩ := activeCall?_eq_some active
  simp only [isActive, decide_eq_true_eq] at ongoing
  obtain ⟨session, stored, ofCall⟩ := occupied cs.call member ongoing.1
  rw [sameSessions]
  exact KeyedTable.size_ne_zero_of_mem (mem_callSessions.mpr ⟨stored, ofCall⟩)

theorem people_of_hold {ops : Operations} {channelID : String} {kind : BatchKind} {next : Option CallState}
    {world : World} (people : ∀ channelID cs, ops.held.get? channelID = some ⟨.joining, some cs⟩ → cs.sessions.size ≠ 0)
    (nextPeople : ∀ cs, next = some cs → kind = .joining → cs.sessions.size ≠ 0) :
    ∀ other cs, (ops.holdBatch channelID kind next world).held.get? other = some ⟨.joining, some cs⟩ →
      cs.sessions.size ≠ 0 := by
  intro other cs found
  rcases Operations.holdBatch_cases found with ⟨-, same⟩ | ⟨-, found⟩
  · cases same
    exact nextPeople cs rfl rfl
  · exact people other cs found

theorem OccupiedInvariant.step {before after : Operations} {step : OperationStep} (inv : OccupiedInvariant before)
    (works : OnWorkingStore before step) (new : StartsWithNewConnection before step)
    (effect : before.Effect step after) : OccupiedInvariant after := by
  obtain ⟨synced, evolve⟩ := inv.synced.step (fun _ _ same => same.endAt) works effect
  cases effect with
  | notLocked => exact inv
  | locked free loads =>
    refine ⟨synced, inv.occupied, people_of_hold inv.people fun cs loaded _ => ?_⟩
    cases loaded
    exact loads.people inv.occupied
  | joined running effect keepsJobs =>
    have found := Operations.batch?_eq_some running
    have held := fun cs loaded => inv.synced.held _ _ cs found loaded
    have populated := effect.populated (works _ rfl) held fun none starts => new (by rw [running, none]) starts
    have people := effect.people fun cs loaded => inv.people _ cs (by rw [found, loaded])
    exact ⟨synced, populated.occupied inv.occupied evolve, people_of_hold inv.people fun cs loaded _ => people cs loaded⟩
  | left running effect =>
    have found := Operations.batch?_eq_some running
    have held := fun cs loaded => inv.synced.held _ _ cs found loaded
    have leave := effect.working (works _ rfl) fun cs loaded => ⟨(held cs loaded).valid, (held cs loaded).jobs⟩
    exact ⟨synced, leave.occupied inv.occupied held, people_of_hold inv.people fun cs _ joining => by cases joining⟩
  | released =>
    refine ⟨synced, inv.occupied, fun other cs found => ?_⟩
    rw [StringMap.get?_erase] at found
    split at found
    · cases found
    · exact inv.people other cs found

/-- The joins and leaves from a store whose ongoing calls all have a session. -/
def occupiedOperations : System Operations OperationStep :=
  operations fun store => store.CallsValid ∧ store.JobsValid ∧ store.Occupied

theorem occupiedInvariant_of_reachable {ops : Operations}
    (reached : (occupiedOperations.restrict fun ops step =>
      OnWorkingStore ops step ∧ StartsWithNewConnection ops step).Reachable ops) : OccupiedInvariant ops := by
  refine System.Reachable.invariant_of_allowed ?_ ?_ reached
  · intro ops ⟨unheld, valid, jobs, occupied⟩
    refine ⟨⟨valid, jobs, fun channelID batch cs found => ?_⟩, occupied, fun channelID cs found => ?_⟩ <;>
    · rw [unheld] at found
      cases found
  · exact fun before step after inv ⟨works, new⟩ taken => inv.step works new (Operations.next?_effect taken)

/-- A call that no operation works on has a session while it is ongoing, and a
join that is let into a call never creates it a second time. -/
structure CallsOccupied (ops : Operations) : Prop where
  occupied : ∀ row ∈ ops.world.store.calls, row.endAt = 0 → ops.held.contains row.channelID = false →
    ops.world.store.HasSession row.id
  updated : ∀ env channelID cs req, ops.batch? channelID .joining = some (some cs) →
    checkJoin env cs req = .ok () → (joinedState env cs req).sessions.size ≠ 1

theorem callsOccupied_of_newConnections (ops : Operations)
    (reached : (occupiedOperations.restrict fun ops step =>
      OnWorkingStore ops step ∧ StartsWithNewConnection ops step).Reachable ops) : CallsOccupied ops := by
  have inv := occupiedInvariant_of_reachable reached
  refine ⟨fun row member ongoing _ => inv.occupied row member ongoing, ?_⟩
  intro env channelID cs req running checked single
  -- The sessions of the call and the new one are at least two.
  obtain ⟨session, held⟩ := KeyedTable.exists_mem_of_size (inv.people _ cs (Operations.batch?_eq_some running))
  obtain ⟨only, rows⟩ := List.length_eq_one_iff.mp single
  have listed (other : CallSession) : other ∈ (joinedState env cs req).sessions ↔
      other ∈ cs.sessions ∨ other = newCallSession env cs.call req := joinedState_sessions (checkJoin_absent checked) other
  have old := (listed session).mpr (.inl held)
  have new := (listed (newCallSession env cs.call req)).mpr (.inr rfl)
  rw [KeyedTable.mem_def, rows, List.mem_singleton] at old new
  rw [old, ← new] at held
  exact KeyedTable.contains_eq_false_iff.mp (checkJoin_absent checked) _ held rfl

theorem idle_occupied : occupiedOperations.init Operations.idle := by
  refine ⟨rfl, ?_, ?_, ?_⟩ <;> exact fun _ member => absurd member KeyedTable.not_mem_empty

theorem Env.quiet_works (now : Instant) (newID : String) : (Env.quiet now newID).StoreWorks := fun _ => rfl

theorem callsOccupied_of_oneJoin :
    ∃ ops, occupiedOperations.run? .idle oneJoin = some ops ∧ ops.world.store.calls.size = 1 ∧
      CallsOccupied ops := by
  have computed : (occupiedOperations.run? .idle oneJoin).map (·.world.store.calls.size) = some 1 := by decide
  obtain ⟨ops, ran, one⟩ := Option.map_eq_some_iff.mp computed
  refine ⟨ops, ran, one, callsOccupied_of_newConnections ops (.restrict_run (.init idle_occupied) ?_ ran)⟩
  have quiet (now : Instant) (newID : String) (env : Env) (same : some (Env.quiet now newID) = some env) :
      env.StoreWorks := by
    cases same
    exact Env.quiet_works now newID
  refine ⟨⟨quiet _ _, trivial⟩, fun after taken => ⟨⟨quiet _ _, fun _ _ => ?_⟩, fun _ _ => trivial⟩⟩
  cases taken
  rfl

/-- A connection that is in the call of one channel starts a call in another
one: the call is created, its session is refused, and later joins find a call
without sessions. -/
theorem not_callsOccupied :
    ¬ ∀ ops, (occupiedOperations.restrict OnWorkingStore).Reachable ops → CallsOccupied ops := by
  intro occupied
  let steps : List OperationStep :=
    [.lock (.quiet 1000 "") "first" .joining,
      .join (.quiet 1001 "call-1") "first" (.plain "alice" "conn" ""),
      .unlock "first",
      .lock (.quiet 1002 "") "second" .joining,
      .join (.quiet 1003 "call-2") "second" (.plain "alice" "conn" ""),
      .unlock "second"]
  have quiet : ∀ label ∈ steps, ∀ state, OnWorkingStore state label := by
    intro label listed state env found
    have named : ∃ now newID, env = Env.quiet now newID := by
      simp only [steps, List.mem_cons, List.not_mem_nil, or_false] at listed
      obtain rfl | rfl | rfl | rfl | rfl | rfl := listed <;> cases found <;> exact ⟨_, _, rfl⟩
    obtain ⟨now, newID, rfl⟩ := named
    exact Env.quiet_works now newID
  have computed : (occupiedOperations.run? .idle steps).map (fun ops =>
      (ops.held.rows.length, ops.world.store.calls.rows.map fun row => (row.id, row.channelID, row.endAt),
        ops.world.store.sessions.rows.map CallSession.callID)) =
      some (0, [("call-1", "first", 0), ("call-2", "second", 0)], ["call-1"]) := by decide
  obtain ⟨ops, ran, shape⟩ := Option.map_eq_some_iff.mp computed
  simp only [Prod.mk.injEq] at shape
  obtain ⟨unheld, calls, sessions⟩ := shape
  have abandoned : ∃ row ∈ ops.world.store.calls, row.id = "call-2" ∧ row.channelID = "second" ∧ row.endAt = 0 := by
    have found : ("call-2", "second", (0 : Int)) ∈
        ops.world.store.calls.rows.map fun row => (row.id, row.channelID, row.endAt) := by
      rw [calls]
      simp
    obtain ⟨row, member, same⟩ := List.mem_map.mp found
    simp only [Prod.mk.injEq] at same
    exact ⟨row, member, same⟩
  obtain ⟨row, member, named, channel, ongoing⟩ := abandoned
  have start : (occupiedOperations.restrict OnWorkingStore).Reachable .idle := .init idle_occupied
  have reached := start.restrict_run (.of_labels quiet _) ran
  have free : ops.held.contains row.channelID = false := by
    rw [KeyedTable.contains_eq_false_iff]
    intro entry held
    rw [KeyedTable.mem_def, List.eq_nil_of_length_eq_zero unheld] at held
    cases held
  obtain ⟨session, stored, ofCall⟩ := (occupied ops reached).occupied row member ongoing free
  have listed := List.mem_map_of_mem (f := CallSession.callID) stored
  rw [sessions, ofCall, named] at listed
  exact absurd listed (by decide)

end Calls
