import Calls.Server.OperationsProperties

/-! The state a batch holds describes its call: the sessions are in the store, and
the row is the same in every respect that a view of calls looks at. With it goes
how an item changes the rows of the calls. -/

set_option autoImplicit false

namespace Calls

open LockedHandler Command

def Store.CallsValid (store : Store) : Prop := ∀ row ∈ store.calls, row.isValid = .ok ()

/-- A change to the call and the sessions of one channel. -/
structure Store.Frame (channelID : String) (before after : Store) : Prop where
  rows : ∀ row ∈ before.calls, row.channelID ≠ channelID → row ∈ after.calls
  sessions : ∀ row ∈ before.calls, row.channelID ≠ channelID → ∀ session : CallSession, session.callID = row.id →
    (session ∈ after.sessions ↔ session ∈ before.sessions)

/-- A view of calls that does not look at who is in them. -/
def PeopleBlind {τ : Type} (view : Call → τ) : Prop := ∀ left right, left.SameButPeople right → view left = view right

structure CallState.Synced {τ : Type} (view : Call → τ) (store : Store) (channelID : String) (cs : CallState) :
    Prop where
  valid : cs.call.isValid = .ok ()
  jobs : cs.JobsValid
  row : ∃ row ∈ store.calls, row.channelID = channelID ∧ row.identity = cs.call.identity ∧ view row = view cs.call
  sessions : ∀ session ∈ cs.sessions, session ∈ store.sessions ∧ session.callID = cs.call.id

/-- Nothing has happened in the call yet. -/
structure Call.Unused (call : Call) : Prop where
  endAt : call.endAt = 0
  stats : call.stats = {}
  sharing : call.props.screenSharingSessionID = ""
  sharedAt : call.props.screenStartAt = 0

/-- How the rows of the calls evolve: what the view sees of a row only changes
by `change`, new rows are those of unused calls, and no row is deleted. -/
structure CallsEvolve {τ : Type} (view : Call → τ) (change : Call → Call → Prop)
    (before after : KeyedTable Call.id) : Prop where
  rows : ∀ row ∈ after,
    (∃ previous ∈ before, row.identity = previous.identity ∧ (view row = view previous ∨ change previous row)) ∨
      ((∃ fresh : Call, fresh.Unused ∧ view row = view fresh) ∧ ∀ previous ∈ before, previous.id ≠ row.id)
  kept : ∀ previous ∈ before, ∃ row ∈ after, row.identity = previous.identity

theorem Call.SameButPeople.symm {left right : Call} (same : left.SameButPeople right) : right.SameButPeople left :=
  ⟨same.identity.symm, same.endAt.symm, same.stats.symm, same.sharing.symm, same.sharedAt.symm⟩

theorem Call.id_eq_of_identity {left right : Call} (same : left.identity = right.identity) : left.id = right.id :=
  congrArg Prod.fst same

theorem Call.SameButPeople.id_eq {left right : Call} (same : left.SameButPeople right) : left.id = right.id :=
  congrArg Prod.fst same.identity

theorem Call.SameButPeople.channelID_eq {left right : Call} (same : left.SameButPeople right) :
    left.channelID = right.channelID := congrArg (·.2.1) same.identity

theorem Call.Unused.congr {left right : Call} (unused : right.Unused) (same : left.SameButPeople right) :
    left.Unused :=
  ⟨same.endAt.trans unused.endAt, same.stats.trans unused.stats, same.sharing.trans unused.sharing,
    same.sharedAt.trans unused.sharedAt⟩

theorem FreshState.unused {env : Env} {channelID : String} {req : JoinRequest} {base : CallState}
    (fresh : FreshState env channelID req base) : base.call.Unused :=
  .congr ⟨rfl, rfl, rfl, rfl⟩ fresh.call

namespace CallsEvolve

variable {τ : Type} {view : Call → τ} {change : Call → Call → Prop} {before middle after : KeyedTable Call.id}

theorem refl (calls : KeyedTable Call.id) : CallsEvolve view change calls calls :=
  ⟨fun row member => .inl ⟨row, member, rfl, .inl rfl⟩, fun row member => ⟨row, member, rfl⟩⟩

theorem mono {weaker : Call → Call → Prop} (evolve : CallsEvolve view change before after)
    (weaken : ∀ previous row, change previous row → view row = view previous ∨ weaker previous row) :
    CallsEvolve view weaker before after := by
  refine ⟨fun row member => ?_, evolve.kept⟩
  rcases evolve.rows row member with ⟨previous, old, identity, same | changed⟩ | created
  · exact .inl ⟨previous, old, identity, .inl same⟩
  · exact .inl ⟨previous, old, identity, weaken previous row changed⟩
  · exact .inr created

/-- Two changes one after the other that the view does not see. -/
theorem trans_unseen (first : CallsEvolve view (fun _ _ => False) before middle)
    (second : CallsEvolve view (fun _ _ => False) middle after) : CallsEvolve view change before after := by
  constructor
  · intro row member
    rcases second.rows row member with ⟨between, betweenMember, identity, same | changed⟩ | ⟨fresh, new⟩
    · obtain ⟨previous, old, before, sameBefore | changed⟩ | ⟨⟨fresh, unused, sameFresh⟩, new⟩ :=
        first.rows between betweenMember
      · exact .inl ⟨previous, old, identity.trans before, .inl (same.trans sameBefore)⟩
      · exact changed.elim
      · exact .inr ⟨⟨fresh, unused, same.trans sameFresh⟩, by rwa [Call.id_eq_of_identity identity]⟩
    · exact changed.elim
    · refine .inr ⟨fresh, fun previous old => ?_⟩
      obtain ⟨between, betweenMember, same⟩ := first.kept previous old
      rw [← Call.id_eq_of_identity same]
      exact new between betweenMember
  · intro previous old
    obtain ⟨between, betweenMember, sameBefore⟩ := first.kept previous old
    obtain ⟨row, member, same⟩ := second.kept between betweenMember
    exact ⟨row, member, same.trans sameBefore⟩

end CallsEvolve

theorem CallState.Synced.frame {τ : Type} {view : Call → τ} {before after : Store} {channelID other : String}
    {cs : CallState} (synced : cs.Synced view before other) (different : other ≠ channelID)
    (frame : before.Frame channelID after) : cs.Synced view after other := by
  obtain ⟨row, member, channel, identity, same⟩ := synced.row
  have elsewhere : row.channelID ≠ channelID := by rwa [channel]
  refine ⟨synced.valid, synced.jobs, ⟨row, frame.rows row member elsewhere, channel, identity, same⟩, ?_⟩
  intro session held
  obtain ⟨stored, ofCall⟩ := synced.sessions session held
  have ofRow := ofCall.trans (Call.id_eq_of_identity identity).symm
  exact ⟨(frame.sessions row member elsewhere session ofRow).mpr stored, ofCall⟩

/-- What a call is made into has the row of the call. -/
theorem CallState.Synced.exists_row {τ : Type} {view : Call → τ} {store : Store} {channelID : String} {cs : CallState}
    {call : Call} (synced : cs.Synced view store channelID) (identity : call.identity = cs.call.identity) :
    ∃ row ∈ store.calls, row.id = call.id := by
  obtain ⟨row, member, -, same, -⟩ := synced.row
  exact ⟨row, member, Call.id_eq_of_identity (same.trans identity.symm)⟩

theorem Store.Frame.of_eq {channelID : String} {before after : Store} (calls : after.calls = before.calls)
    (sessions : after.sessions = before.sessions) : before.Frame channelID after := by
  refine ⟨fun row member _ => by rwa [calls], fun _ _ _ session _ => ?_⟩
  rw [sessions]

theorem Store.Frame.trans {channelID : String} {before middle after : Store} (first : before.Frame channelID middle)
    (second : middle.Frame channelID after) : before.Frame channelID after := by
  refine ⟨fun row member elsewhere => second.rows row (first.rows row member elsewhere) elsewhere, ?_⟩
  intro row member elsewhere session ofCall
  rw [second.sessions row (first.rows row member elsewhere) elsewhere session ofCall]
  exact first.sessions row member elsewhere session ofCall

/-! ### Writing the call -/

theorem Store.CallsValid.save {before after : Store} {call : Call} (valid : before.CallsValid)
    (callValid : call.isValid = .ok ()) (calls : after.calls = (before.saveCall call).calls) :
    after.CallsValid := by
  intro row member
  rw [calls, mem_saveCall] at member
  rcases member with ⟨untouched, -⟩ | ⟨previous, previousMember, -, rfl⟩
  · exact valid row untouched
  · have previousValid := valid previous previousMember
    rw [Call.isValid_ok_iff] at previousValid callValid ⊢
    exact ⟨previousValid.1, previousValid.2.1, previousValid.2.2.1, previousValid.2.2.2.1, callValid.2.2.2.2.1,
      previousValid.2.2.2.2.2⟩

/-- What saving a call does to the table, given its row there. -/
structure CallSaved {τ : Type} (view : Call → τ) (channelID : String) (base call : Call) (before after : Store) :
    Prop where
  row : ∃ row ∈ after.calls, row.channelID = channelID ∧ row.SameButPeople call
  elsewhere : ∀ row ∈ before.calls, row.channelID ≠ channelID → row ∈ after.calls
  evolve : CallsEvolve view (fun previous row => view previous = view base ∧ row.SameButPeople call)
    before.calls after.calls

theorem CallState.Synced.save {τ : Type} {view : Call → τ} {channelID : String} {before after : Store}
    {base : CallState} {call : Call} (synced : base.Synced view before channelID)
    (identity : call.identity = base.call.identity) (calls : after.calls = (before.saveCall call).calls) :
    CallSaved view channelID base.call call before after := by
  obtain ⟨row, member, channel, sameIdentity, same⟩ := synced.row
  have rowIdentity : row.identity = call.identity := sameIdentity.trans identity.symm
  have sameID : row.id = call.id := Call.id_eq_of_identity rowIdentity
  have updated : (row.updatedFrom call).SameButPeople call := by
    simp only [Call.identity, Prod.mk.injEq] at rowIdentity
    obtain ⟨rowID, rowChannel, rowStart, rowCreate, -, rowOwner⟩ := rowIdentity
    refine ⟨?_, rfl, rfl, rfl, rfl⟩
    simp only [Call.identity, Call.updatedFrom, rowID, rowChannel, rowStart, rowCreate, rowOwner]
  have inTable : row.updatedFrom call ∈ after.calls := by
    rw [calls, Store.mem_saveCall]
    exact .inr ⟨row, member, sameID, rfl⟩
  have others : ∀ other ∈ before.calls, other.id ≠ call.id → other ∈ after.calls := by
    intro other found different
    rw [calls, Store.mem_saveCall]
    exact .inl ⟨found, different⟩
  refine ⟨⟨_, inTable, channel, updated⟩, ?_, ⟨?_, ?_⟩⟩
  · intro other found elsewhere
    refine others other found fun hit => elsewhere ?_
    rw [KeyedTable.eq_of_key_eq found member (hit.trans sameID.symm), channel]
  · intro current found
    rw [calls, Store.mem_saveCall] at found
    rcases found with ⟨untouched, -⟩ | ⟨previous, previousMember, hit, rfl⟩
    · exact .inl ⟨current, untouched, rfl, .inl rfl⟩
    · have previousRow := KeyedTable.eq_of_key_eq previousMember member (hit.trans sameID.symm)
      subst previousRow
      exact .inl ⟨previous, member, updated.identity.trans rowIdentity.symm, .inr ⟨same, updated⟩⟩
  · intro other found
    by_cases hit : other.id = call.id
    · have otherRow := KeyedTable.eq_of_key_eq found member (hit.trans sameID.symm)
      subst otherRow
      exact ⟨_, inTable, updated.identity.trans rowIdentity.symm⟩
    · exact ⟨other, others other found hit, rfl⟩

/-! ### Joins -/

/-- What an item leaves behind. -/
structure ItemSynced {τ : Type} (view : Call → τ) (change : Call → Call → Prop) (channelID : String)
    (before after : Store) (next : Option CallState) : Prop where
  valid : after.CallsValid
  frame : before.Frame channelID after
  synced : ∀ cs, next = some cs → cs.Synced view after channelID
  evolve : CallsEvolve view change before.calls after.calls

section
variable {τ : Type} {view : Call → τ} {change : Call → Call → Prop} {channelID : String} {before after : Store}

/-- Saving the people of a call, together with the sessions added to it. -/
theorem ItemSynced.update (blind : PeopleBlind view) {base next : CallState} {call : Call}
    (added : CallSession → Prop) (valid : before.CallsValid)
    (synced : base.Synced view before channelID) (calls : after.calls = (before.saveCall call).calls)
    (saved : call.SameButPeople base.call)
    (sessions : ∀ session, session ∈ after.sessions ↔ session ∈ before.sessions ∨ added session)
    (ofCall : ∀ session, added session → session.callID = base.call.id)
    (nextCall : next.call.SameButPeople base.call) (nextJobs : next.JobsValid)
    (nextSessions : ∀ session ∈ next.sessions, session ∈ base.sessions ∨ added session) :
    ItemSynced view change channelID before after (some next) := by
  have write := synced.save saved.identity calls
  have callValid : call.isValid = .ok () := (Call.isValid_congr saved.identity).trans synced.valid
  refine ⟨valid.save callValid calls, ⟨write.elsewhere, ?_⟩, ?_, write.evolve.mono ?_⟩
  · intro other member elsewhere session ofOther
    rw [sessions]
    refine ⟨fun found => found.resolve_right fun new => elsewhere ?_, .inl⟩
    obtain ⟨row, rowMember, channel, identity, -⟩ := synced.row
    have sameID : other.id = row.id :=
      ofOther.symm.trans ((ofCall session new).trans (Call.id_eq_of_identity identity).symm)
    rw [KeyedTable.eq_of_key_eq member rowMember sameID, channel]
  · intro cs held
    cases held
    obtain ⟨row, member, channel, same⟩ := write.row
    have sameNext := same.trans (saved.trans nextCall.symm)
    refine ⟨(Call.isValid_congr nextCall.identity).trans synced.valid, nextJobs,
      ⟨row, member, channel, sameNext.identity, blind _ _ sameNext⟩, fun session held => ?_⟩
    rw [sessions, nextCall.id_eq]
    rcases nextSessions session held with old | new
    · obtain ⟨stored, sameCall⟩ := synced.sessions session old
      exact ⟨.inl stored, sameCall⟩
    · exact ⟨.inr new, ofCall session new⟩
  · intro previous row ⟨ofBase, ofCall⟩
    exact .inl ((blind _ _ (ofCall.trans saved)).trans ofBase.symm)

/-- Creating a call, with or without its first session. -/
theorem ItemSynced.create {call : Call} {next : Option CallState} (added : CallSession → Prop)
    (valid : before.CallsValid) (callValid : call.isValid = .ok ()) (channel : call.channelID = channelID)
    (unused : call.Unused) (calls : before.calls.insert? call = some after.calls)
    (sessions : ∀ session, session ∈ after.sessions ↔ session ∈ before.sessions ∨ added session)
    (ofCall : ∀ session, added session → session.callID = call.id)
    (nextSynced : ∀ cs, next = some cs → cs.call = call ∧ cs.JobsValid ∧ ∀ session ∈ cs.sessions, added session) :
    ItemSynced view change channelID before after next := by
  have memCalls (row : Call) : row ∈ after.calls ↔ row ∈ before.calls ∨ row = call := KeyedTable.mem_insert? calls
  have fresh := KeyedTable.contains_eq_false_iff.mp (KeyedTable.insert?_eq_some calls).1
  refine ⟨?_, ⟨fun row member _ => (memCalls row).mpr (.inl member), ?_⟩, ?_, ⟨?_, ?_⟩⟩
  · intro row member
    rcases (memCalls row).mp member with old | rfl
    · exact valid row old
    · exact callValid
  · intro row member _ session ofRow
    rw [sessions]
    refine ⟨fun found => found.resolve_right fun new => fresh row member ?_, .inl⟩
    rw [← ofRow, ofCall session new]
  · intro cs held
    obtain ⟨sameCall, jobs, only⟩ := nextSynced cs held
    refine ⟨by rwa [sameCall], jobs, ⟨call, (memCalls call).mpr (.inr rfl), channel, ?_⟩, fun session held => ?_⟩
    · rw [sameCall]
      exact ⟨rfl, rfl⟩
    · have new := only session held
      rw [sessions, sameCall]
      exact ⟨.inr new, ofCall session new⟩
  · intro row member
    rcases (memCalls row).mp member with old | rfl
    · exact .inl ⟨row, old, rfl, .inl rfl⟩
    · exact .inr ⟨⟨row, unused, rfl⟩, fresh⟩
  · exact fun row member => ⟨row, (memCalls row).mpr (.inl member), rfl⟩

theorem ItemSynced.unchanged {next : Option CallState} (valid : before.CallsValid)
    (calls : after.calls = before.calls) (sessions : after.sessions = before.sessions)
    (synced : ∀ cs, next = some cs → cs.Synced view before channelID) :
    ItemSynced view change channelID before after next := by
  refine ⟨by rwa [Store.CallsValid, calls], .of_eq calls sessions, fun cs held => ?_, by rw [calls]; exact .refl _⟩
  have kept := synced cs held
  exact ⟨kept.valid, kept.jobs, by rw [calls]; exact kept.row, by rw [sessions]; exact kept.sessions⟩

end

section
variable {env : Env} {channelID : String} {req : JoinRequest} {base : CallState}

theorem checkJoin_absent (checked : checkJoin env base req = .ok ()) :
    base.sessions.contains req.connID = false := by
  unfold checkJoin at checked
  split at checked
  · cases checked
  · split at checked
    · cases checked
    · next absent => simpa using absent

theorem checkJoin_running (checked : checkJoin env base req = .ok ()) : ¬ 0 < base.call.endAt := by
  unfold checkJoin at checked
  split at checked
  · cases checked
  · next running => exact running

theorem joinedState_sessions (absent : base.sessions.contains req.connID = false) (session : CallSession) :
    session ∈ (joinedState env base req).sessions ↔
      session ∈ base.sessions ∨ session = newCallSession env base.call req := by
  unfold joinedState
  rw [KeyedTable.mem_put]
  constructor
  · intro found
    rcases found with rfl | ⟨member, -⟩
    · exact .inr rfl
    · exact .inl member
  · intro found
    rcases found with member | rfl
    · exact .inr ⟨member, KeyedTable.contains_eq_false_iff.mp absent session member⟩
    · exact .inl rfl

end

section
variable {τ : Type} {view : Call → τ} {env : Env} {channelID : String} {state next : Option CallState}
variable {req : JoinRequest} {before after : Store}

/-- A join changes who is in the call, and perhaps opens one. -/
theorem JoinEffect.synced (blind : PeopleBlind view) {result : Except String CallState}
    (effect : JoinEffect env channelID state req before result after) (valid : before.CallsValid)
    (synced : ∀ cs, state = some cs → cs.Synced view before channelID) :
    ItemSynced view (fun _ _ => False) channelID before after
      (match result with | .error _ => state | .ok cs => some cs) := by
  cases effect with
  | refused calls sessions => exact .unchanged valid calls sessions synced
  | @callOnly err _ base found checked planned written sessions refusal =>
    have same := joinedState_same env base req
    cases state with
    | none =>
      obtain ⟨-, created⟩ := written.starts found checked planned
      obtain ⟨-, -, fresh⟩ := stateToJoin_none found
      exact .create (fun _ => False) valid written.1 (same.trans fresh.call).channelID_eq
        (fresh.unused.congr same) created (by simp [sessions]) (by simp) fun cs held => by cases held
    | some cs =>
      have reused : cs = base := Except.ok.inj found
      subst reused
      have kept := synced cs rfl
      have row := kept.exists_row same.identity
      exact .update blind (fun _ => False) valid kept (written.saved row) same (by simp [sessions]) (by simp) (.refl _)
        kept.jobs (by simp)
  | @joined _ base entered found checked planned written inserted sameCall sameSessions jobsValid =>
    have same := joinedState_same env base req
    have member (session : CallSession) : session ∈ entered.sessions ↔
        session ∈ base.sessions ∨ session = newCallSession env base.call req := by
      rw [sameSessions]
      exact joinedState_sessions (checkJoin_absent checked) session
    have ofCall (session : CallSession) (new : session = newCallSession env base.call req) :
        session.callID = base.call.id := by
      rw [new]
      rfl
    cases state with
    | none =>
      obtain ⟨-, created⟩ := written.starts found checked planned
      obtain ⟨-, -, fresh⟩ := stateToJoin_none found
      refine .create (· = newCallSession env base.call req) valid written.1 (same.trans fresh.call).channelID_eq
        (fresh.unused.congr same) created (fun session => KeyedTable.mem_insert? inserted)
        (fun session new => (ofCall session new).trans same.id_eq.symm) fun cs held => ?_
      cases held
      refine ⟨sameCall, jobsValid ?_, fun session held => ((member session).mp held).resolve_left fun old => ?_⟩
      · intro type job held
        rw [fresh.jobs] at held
        cases held
      · rw [fresh.sessions] at old
        exact KeyedTable.not_mem_empty old
    | some cs =>
      have reused : cs = base := Except.ok.inj found
      subst reused
      have kept := synced cs rfl
      have row := kept.exists_row same.identity
      exact .update blind (· = newCallSession env cs.call req) valid kept (written.saved row) same
        (fun session => KeyedTable.mem_insert? inserted) ofCall (by rw [sameCall]; exact same) (jobsValid kept.jobs)
        fun session held => (member session).mp held

/-- The same, up to the announcement of a call that was started. -/
theorem AddEffect.synced (blind : PeopleBlind view) (effect : AddEffect env channelID state req before next after)
    (valid : before.CallsValid) (synced : ∀ cs, state = some cs → cs.Synced view before channelID) :
    ItemSynced view (fun _ _ => False) channelID before after next := by
  cases effect with
  | failed effect => exact effect.synced blind valid synced
  | joined effect later => exact effect.synced blind valid synced
  | @started entered announced middle _ postID threadID effect first changed same wrote =>
    have item := effect.synced blind valid synced
    have kept := item.synced entered rfl
    have sameCall : announced.call.SameButPeople entered.call := by rw [changed]; exact ⟨rfl, rfl, rfl, rfl, rfl⟩
    have sessions : announced.sessions = entered.sessions := by rw [changed]
    have jobs : announced.JobsValid := by rw [changed]; exact kept.jobs
    have announce : ItemSynced view (fun _ _ => False) channelID middle after (some announced) := by
      rcases wrote with unsaved | saved
      · refine .unchanged item.valid unsaved same fun cs held => ?_
        cases held
        obtain ⟨row, member, channel, identity, seen⟩ := kept.row
        refine ⟨(Call.isValid_congr sameCall.identity).trans kept.valid, jobs,
          ⟨row, member, channel, identity.trans sameCall.identity.symm, seen.trans (blind _ _ sameCall).symm⟩, ?_⟩
        rw [sessions, sameCall.id_eq]
        exact kept.sessions
      · exact .update blind (fun _ => False) item.valid kept saved sameCall (by simp [same]) (by simp) sameCall jobs
          (by simp [sessions])
    exact ⟨announce.valid, item.frame.trans announce.frame, announce.synced, item.evolve.trans_unseen announce.evolve⟩

end

/-! ### Leaves -/

/-- The row is that of the call in `state` after a session of it has left. -/
def LeftBy {τ : Type} (view : Call → τ) (env : Env) (ref : SessionRef) (state : Option CallState)
    (previous row : Call) : Prop :=
  ∃ held us sessions, state = some held ∧ held.sessions.find? ref.originalConnID = some us ∧
    view held.call = view previous ∧ row.SameButPeople (held.call.afterLeave env ref us sessions)

/-- A leave on a store that works: nothing happens, or the session is deleted and the call saved. -/
inductive WorkingLeave (env : Env) (ref : SessionRef) (before : World) :
    Option CallState → Option CallState → World → Prop where
  | nothing {state : Option CallState} : WorkingLeave env ref before state state before
  | saved {held : CallState} {us : CallSession} {after : LockedCall} :
      held.sessions.find? ref.originalConnID = some us → SessionDeleted ref ⟨before, held⟩ after →
      after.world.store.calls = (before.store.saveCall after.state.call).calls →
      after.state.call = held.call.afterLeave env ref us after.state.sessions → after.JobsValid →
      WorkingLeave env ref before (some held) (some after.state) after.world

theorem LeaveEffect.working {env : Env} {ref : SessionRef} {before after : World} {state next : Option CallState}
    (works : env.StoreWorks) (effect : LeaveEffect env ref before state next after)
    (valid : ∀ cs, state = some cs → cs.call.isValid = .ok () ∧ cs.JobsValid) :
    WorkingLeave env ref before state next after := by
  cases effect with
  | nothing => exact .nothing
  | @removed held ended left effect =>
    obtain ⟨callValid, jobsValid⟩ := valid held rfl
    cases effect with
    | absent => exact .nothing
    | undeleted broken =>
      rw [works] at broken
      cases broken
    | jobUnsaved found deleted same call posts deletes broken => exact absurd ⟨works.writes, jobsValid⟩ broken
    | @callUnsaved err us _ found deleted same call posts deletes broken =>
      have identity := (Call.afterLeave_kept env ref us left.state.sessions held.call).1
      rw [← call] at identity
      exact absurd ⟨works.writes, (Call.isValid_congr identity).trans callValid⟩ broken
    | saved found deleted wrote call posts => exact .saved found deleted wrote call (deleted.jobsValid jobsValid)

section
variable {τ : Type} {view : Call → τ} {channelID : String} {ref : SessionRef} {before : World} {held : CallState}
variable {us : CallSession} {after : LockedCall}

/-- A removal deletes a session of its own call. -/
theorem SessionDeleted.elsewhere (deleted : SessionDeleted ref ⟨before, held⟩ after)
    (synced : held.Synced view before.store channelID)
    (found : held.sessions.find? ref.originalConnID = some us) (session : CallSession)
    (other : session.callID ≠ held.call.id) :
    session ∈ after.world.store.sessions ↔ session ∈ before.store.sessions := by
  obtain ⟨member, named⟩ := KeyedTable.find?_eq_some_iff.mp found
  obtain ⟨stored, ofCall⟩ := synced.sessions us member
  rw [deleted.store, KeyedTable.mem_erase]
  refine ⟨And.left, fun inStore => ⟨inStore, fun same => other ?_⟩⟩
  rw [KeyedTable.eq_of_key_eq inStore stored (same.trans named.symm), ofCall]

theorem SessionDeleted.remaining (deleted : SessionDeleted ref ⟨before, held⟩ after)
    (synced : held.Synced view before.store channelID) (session : CallSession)
    (remains : session ∈ after.state.sessions) :
    session ∈ after.world.store.sessions ∧ session.callID = held.call.id := by
  rw [deleted.memory, KeyedTable.mem_erase] at remains
  obtain ⟨inStore, sameCall⟩ := synced.sessions session remains.1
  rw [deleted.store, KeyedTable.mem_erase]
  exact ⟨⟨inStore, remains.2⟩, sameCall⟩

theorem SessionDeleted.frame (deleted : SessionDeleted ref ⟨before, held⟩ after)
    (synced : held.Synced view before.store channelID)
    (found : held.sessions.find? ref.originalConnID = some us)
    (elsewhere : ∀ row ∈ before.store.calls, row.channelID ≠ channelID → row ∈ after.world.store.calls) :
    before.store.Frame channelID after.world.store := by
  refine ⟨elsewhere, fun other otherMember away session ofOther => deleted.elsewhere synced found session ?_⟩
  intro same
  obtain ⟨row, rowMember, channel, identity, -⟩ := synced.row
  have sameID : other.id = row.id := ofOther.symm.trans (same.trans (Call.id_eq_of_identity identity).symm)
  exact away (by rw [KeyedTable.eq_of_key_eq otherMember rowMember sameID, channel])

end

/-- A leave changes the call of its channel only, and deletes a session of that call. -/
theorem WorkingLeave.synced {τ : Type} {view : Call → τ} (blind : PeopleBlind view) {env : Env}
    {channelID : String} {ref : SessionRef} {before after : World}
    {state next : Option CallState} (effect : WorkingLeave env ref before state next after)
    (valid : before.store.CallsValid) (synced : ∀ cs, state = some cs → cs.Synced view before.store channelID) :
    ItemSynced view (LeftBy view env ref state) channelID before.store after.store next := by
  cases effect with
  | nothing => exact .unchanged valid rfl rfl synced
  | @saved held us left found deleted wrote call jobs =>
    have kept := synced held rfl
    have identity := (Call.afterLeave_kept env ref us left.state.sessions held.call).1
    rw [← call] at identity
    have sameID : left.state.call.id = held.call.id := congrArg Prod.fst identity
    have callValid : left.state.call.isValid = .ok () := (Call.isValid_congr identity).trans kept.valid
    have write := kept.save identity wrote
    refine ⟨valid.save callValid wrote, deleted.frame kept found write.elsewhere, fun cs same => ?_,
      write.evolve.mono ?_⟩
    · cases same
      obtain ⟨row, rowMember, channel, sameRow⟩ := write.row
      refine ⟨callValid, jobs, ⟨row, rowMember, channel, sameRow.identity, blind _ _ sameRow⟩, ?_⟩
      rw [sameID]
      exact deleted.remaining kept
    · intro previous row ⟨ofBase, ofLeft⟩
      refine .inr ⟨held, us, left.state.sessions, rfl, found, ofBase.symm, ?_⟩
      rw [← call]
      exact ofLeft

/-- What the lock of a channel loads agrees with the store it was loaded from. -/
theorem Store.Loads.synced {τ : Type} {view : Call → τ} {store : Store} {channelID : String}
    {state : Option CallState} (loads : store.Loads channelID state) (valid : store.CallsValid)
    (jobs : store.JobsValid) : ∀ cs, state = some cs → cs.Synced view store channelID := by
  intro cs loaded
  subst loaded
  obtain ⟨active, sameSessions, sameJobs⟩ := loads
  obtain ⟨member, channel, -⟩ := activeCall?_eq_some active
  refine ⟨valid cs.call member, fun type job held => ?_, ⟨cs.call, member, channel, rfl, rfl⟩, fun session held => ?_⟩
  · rw [sameJobs] at held
    exact jobs job (activeCallJobs_eq_some held).1
  · rwa [sameSessions, mem_callSessions] at held

/-! ### Runs -/

/-- What holds between the items of a run, as far as the view sees. -/
structure SyncedInvariant {τ : Type} (view : Call → τ) (ops : Operations) : Prop where
  valid : ops.world.store.CallsValid
  jobs : ops.world.store.JobsValid
  held : ∀ channelID batch cs, ops.held.get? channelID = some batch → batch.state = some cs →
    cs.Synced view ops.world.store channelID

section
variable {τ : Type} {view : Call → τ}

theorem SyncedInvariant.hold {ops : Operations} {change : Call → Call → Prop} (inv : SyncedInvariant view ops)
    {channelID : String} {kind : BatchKind} {next : Option CallState} {world : World}
    (item : ItemSynced view change channelID ops.world.store world.store next)
    (jobs : world.store.jobIdentities = ops.world.store.jobIdentities) :
    SyncedInvariant view (ops.holdBatch channelID kind next world) := by
  refine ⟨item.valid, inv.jobs.congr jobs, ?_⟩
  intro other batch cs found loaded
  rcases Operations.holdBatch_cases found with ⟨here, rfl⟩ | ⟨elsewhere, found⟩
  · rw [here]
    exact item.synced cs loaded
  · exact (inv.held other batch cs found loaded).frame elsewhere item.frame

theorem SyncedInvariant.release {ops : Operations} (inv : SyncedInvariant view ops) (channelID : String) :
    SyncedInvariant view { ops with held := ops.held.erase channelID } := by
  refine ⟨inv.valid, inv.jobs, ?_⟩
  intro other batch cs found loaded
  rw [StringMap.get?_erase] at found
  split at found
  · cases found
  · exact inv.held other batch cs found loaded

/-- How a step of a run changes the rows of the calls. -/
def Operations.change (view : Call → τ) (ops : Operations) : OperationStep → Call → Call → Prop
  | .leave env channelID ref => fun previous row =>
    ∃ state, ops.batch? channelID .leaving = some state ∧ LeftBy view env ref state previous row
  | _ => fun _ _ => False

/-- Leaves apart, a step keeps what batches hold in agreement with the store
whatever fails; a leave does so when its own item does. -/
theorem SyncedInvariant.step_of_leave (blind : PeopleBlind view) {before after : Operations} {step : OperationStep}
    (inv : SyncedInvariant view before) (effect : before.Effect step after)
    (leave : ∀ env channelID ref state next world, step = .leave env channelID ref →
      before.batch? channelID .leaving = some state → LeaveEffect env ref before.world state next world →
      (∀ cs, state = some cs → cs.Synced view before.world.store channelID) →
      ItemSynced view (LeftBy view env ref state) channelID before.world.store world.store next) :
    SyncedInvariant view after ∧
      CallsEvolve view (before.change view step) before.world.store.calls after.world.store.calls := by
  cases effect with
  | notLocked => exact ⟨inv, .refl _⟩
  | locked free loads =>
    have item : ItemSynced view (fun _ _ => False) _ before.world.store before.world.store _ :=
      .unchanged inv.valid rfl rfl (loads.synced inv.valid inv.jobs)
    exact ⟨inv.hold item rfl, .refl _⟩
  | joined running effect keepsJobs =>
    have found := Operations.batch?_eq_some running
    have item := effect.synced blind inv.valid fun cs held => inv.held _ _ cs found held
    exact ⟨inv.hold item keepsJobs, item.evolve⟩
  | left running effect =>
    have found := Operations.batch?_eq_some running
    have item := leave _ _ _ _ _ _ rfl running effect fun cs held => inv.held _ _ cs found held
    exact ⟨inv.hold item effect.jobIdentities, item.evolve.mono fun _ _ left => .inr ⟨_, running, left⟩⟩
  | released => exact ⟨inv.release _, .refl _⟩

/-- Every store operation of the step succeeds, inserts of taken keys apart. -/
def OnWorkingStore (_ : Operations) (step : OperationStep) : Prop := ∀ env, step.env? = some env → env.StoreWorks

theorem SyncedInvariant.step (blind : PeopleBlind view) {before after : Operations} {step : OperationStep}
    (inv : SyncedInvariant view before) (works : OnWorkingStore before step) (effect : before.Effect step after) :
    SyncedInvariant view after ∧
      CallsEvolve view (before.change view step) before.world.store.calls after.world.store.calls := by
  refine inv.step_of_leave blind effect ?_
  intro env channelID ref state next world leaving _ left synced
  subst leaving
  have leave := left.working (works env rfl) fun cs held => ⟨(synced cs held).valid, (synced cs held).jobs⟩
  exact leave.synced blind inv.valid synced

end

end Calls
