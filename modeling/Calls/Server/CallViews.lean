import Calls.Server.CallRuns
import Calls.Server.SyncedCalls

/-! What the store says of a call. On a store that works it is what a batch holds
of the call in memory, and a step makes of it what its operation makes of that. -/

set_option autoImplicit false

namespace Calls

open Command LockedHandler

/-- The call without the post that announces it. -/
def Call.apartFromPost (call : Call) : Call := { call with postID := "", threadID := "" }

structure CallView where
  call : Call
  sessions : SessionMap

def CallState.view (cs : CallState) : CallView := ⟨cs.call.apartFromPost, cs.sessions⟩

def Store.callView? (store : Store) (callID : String) : Option CallView :=
  (store.calls.find? callID).map fun call => ⟨call.apartFromPost, store.callSessions callID⟩

/-- What a step makes of one call, as far as the store says. -/
inductive CallChange : CallStep → Option CallView → Option CallView → Prop where
  | kept {step : CallStep} {view : Option CallView} : CallChange step view view
  | started {env : Env} {channelID : String} {req : JoinRequest} {base : CallState} :
      stateToJoin env channelID none req = .ok base → req.userID ≠ env.botID →
      CallChange (.operation (.join env channelID req)) none (some (joinedState env base req).view)
  | joined {env : Env} {channelID : String} {req : JoinRequest} {cs : CallState} :
      checkJoin env cs req = .ok () →
      CallChange (.operation (.join env channelID req)) (some cs.view) (some (joinedState env cs req).view)
  | left {env : Env} {channelID : String} {ref : SessionRef} {cs : CallState} {us : CallSession} {call : Call}
      {sessions : SessionMap} :
      cs.sessions.find? ref.originalConnID = some us → sessions = cs.sessions.erase ref.originalConnID →
      call = cs.call.afterLeave env ref us sessions →
      CallChange (.operation (.leave env channelID ref)) (some cs.view) (some ⟨call.apartFromPost, sessions⟩)
  | hostChanged {env : Env} {requesterID channelID newHostID : String} {cs : CallState} {call : Call} :
      Store.isActive cs.call = true → cs.call.changeHost env requesterID newHostID cs.sessions = .ok call →
      CallChange (.changeHost env requesterID channelID newHostID) (some cs.view) (some ⟨call.apartFromPost, cs.sessions⟩)
  | video {env : Env} {us : UserSession} {msg : VideoMessage} {handlerID : String} {rtcSends : Bool} {cs : CallState}
      {session : CallSession} {sessions : SessionMap} :
      VideoHandled env handlerID rtcSends → cs.call.channelID = us.channelID → Store.isActive cs.call = true →
      cs.sessions.find? us.originalConnID = some session →
      sessions = cs.sessions.modify us.originalConnID (·.updatedFrom { session with video := msg = .on })
        (fun row => row.updatedFrom_id _) →
      CallChange (.video env us msg handlerID rtcSends) (some cs.view)
        (some ⟨(cs.call.toggleVideo env.now us.originalConnID msg).apartFromPost, sessions⟩)

/-- A change to the rows of one call. -/
structure Store.ChangesCall (callID : String) (before after : Store) (view : CallView) : Prop where
  here : after.callView? callID = some view
  elsewhere : ∀ other, other ≠ callID → after.callView? other = before.callView? other

@[simp] theorem Call.apartFromPost_identity (call : Call) : call.apartFromPost.identity = call.identity := rfl

namespace Store

variable {store before after : Store} {call : Call}

theorem callView?_eq_some_iff {callID : String} {view : CallView} :
    store.callView? callID = some view ↔
      ∃ row, store.calls.find? callID = some row ∧ view = ⟨row.apartFromPost, store.callSessions callID⟩ := by
  rw [callView?, Option.map_eq_some_iff]
  exact ⟨fun ⟨row, found, same⟩ => ⟨row, found, same.symm⟩, fun ⟨row, found, same⟩ => ⟨row, found, same.symm⟩⟩

theorem callView?_congr {callID : String} (calls : after.calls = before.calls)
    (sessions : after.callSessions callID = before.callSessions callID) :
    after.callView? callID = before.callView? callID := by
  simp only [callView?, calls, sessions]

theorem updatedFrom_eq {row : Call} (identity : row.identity = call.identity) : row.updatedFrom call = call := by
  simp only [Call.identity, Prod.mk.injEq] at identity
  obtain ⟨id, channelID, startAt, createAt, deleteAt, ownerID⟩ := identity
  obtain ⟨⟩ := call
  simp_all [Call.updatedFrom]

/-- Saving a call whose row is there makes the row the call. -/
theorem find?_saveCall_self {row : Call} (found : store.calls.find? call.id = some row)
    (identity : row.identity = call.identity) : (store.saveCall call).calls.find? call.id = some call := by
  simp only [saveCall]
  rw [KeyedTable.find?_modify, if_pos rfl, found, Option.map_some, updatedFrom_eq identity]

/-- Creating a call and saving it right away is creating it as it is saved. -/
theorem insert?_saveCall {created : Call} (inserted : before.calls.insert? created = some after.calls)
    (identity : created.identity = call.identity) : before.calls.insert? call = some (after.saveCall call).calls := by
  have sameID : created.id = call.id := Call.id_eq_of_identity identity
  obtain ⟨fresh, rows⟩ := KeyedTable.insert?_eq_some inserted
  rw [sameID] at fresh
  obtain ⟨calls, accepted, listed⟩ := KeyedTable.insert?_fresh fresh
  rw [accepted]
  refine congrArg some (KeyedTable.ext ?_)
  have untouched : ∀ row ∈ before.calls.rows, row.id ≠ call.id := KeyedTable.contains_eq_false_iff.mp fresh
  simp only [saveCall, KeyedTable.modify, rows, listed, List.map_append, List.map_cons, List.map_nil, if_pos sameID,
    updatedFrom_eq identity]
  rw [List.map_congr_left fun row member => if_neg (untouched row member), List.map_id']

theorem find?_saveCall_other {callID : String} (other : callID ≠ call.id) :
    (store.saveCall call).calls.find? callID = store.calls.find? callID := by
  simp only [saveCall]
  rw [KeyedTable.find?_modify, if_neg other]

/-! ### The sessions of one call -/

theorem callSessions_congr (same : after.sessions = before.sessions) (callID : String) :
    after.callSessions callID = before.callSessions callID := by
  unfold callSessions
  rw [same]

theorem callSessions_insert {session : CallSession} (inserted : before.sessions.insert? session = some after.sessions) :
    after.callSessions session.callID = (before.callSessions session.callID).put session := by
  have free := (KeyedTable.insert?_eq_some inserted).1
  apply KeyedTable.ext
  rw [KeyedTable.rows_put_fresh, callSessions, KeyedTable.filter_insert? inserted]
  · simp [callSessions]
  · rw [KeyedTable.contains_eq_false_iff] at free ⊢
    exact fun other member => free other (mem_callSessions.mp member).1

theorem callSessions_insert_other {session : CallSession} {callID : String}
    (inserted : before.sessions.insert? session = some after.sessions) (other : callID ≠ session.callID) :
    after.callSessions callID = before.callSessions callID := by
  apply KeyedTable.ext
  rw [callSessions, KeyedTable.filter_insert? inserted]
  simp [callSessions, Ne.symm other]

theorem callSessions_erase {sessionID : String} (erased : after.sessions = before.sessions.erase sessionID)
    (callID : String) : after.callSessions callID = (before.callSessions callID).erase sessionID := by
  unfold callSessions
  rw [erased, KeyedTable.filter_erase]

theorem callSessions_saveSession (session : CallSession) (callID : String) :
    (store.saveSession session).callSessions callID =
      (store.callSessions callID).modify session.id (·.updatedFrom session) fun row => row.updatedFrom_id session :=
  KeyedTable.filter_modify _ _ _ _ _ fun _ => rfl

theorem callSessions_saveSession_other {session toggled : CallSession} {callID : String} (stored : session ∈ store.sessions)
    (sameID : toggled.id = session.id) (other : session.callID ≠ callID) :
    (store.saveSession toggled).callSessions callID = store.callSessions callID := by
  rw [callSessions_saveSession]
  refine KeyedTable.modify_eq_self (KeyedTable.contains_eq_false_iff.mpr fun row listed hit => other ?_)
  obtain ⟨member, ofOther⟩ := mem_callSessions.mp listed
  rw [← ofOther, KeyedTable.eq_of_key_eq member stored (hit.trans sameID)]

end Store

/-! ### What a batch holds -/

/-- The sessions in the store are valid, and each is of a call that there is a row of. -/
def Store.SessionsOwned (store : Store) : Prop :=
  ∀ session ∈ store.sessions, session.isValid = .ok () ∧ store.calls.contains session.callID = true

/-- The state in memory is what the store says of its call. -/
structure CallState.MirroredBy (store : Store) (channelID : String) (cs : CallState) : Prop where
  jobs : cs.JobsValid
  channel : cs.call.channelID = channelID
  view : store.callView? cs.call.id = some cs.view

namespace CallState.MirroredBy

variable {store before after : Store} {channelID : String} {cs : CallState}

theorem row (mirrored : cs.MirroredBy store channelID) : ∃ row, store.calls.find? cs.call.id = some row ∧
    row.apartFromPost = cs.call.apartFromPost := by
  obtain ⟨row, found, same⟩ := Store.callView?_eq_some_iff.mp mirrored.view
  exact ⟨row, found, (congrArg CallView.call same).symm⟩

theorem sessions (mirrored : cs.MirroredBy store channelID) : store.callSessions cs.call.id = cs.sessions := by
  obtain ⟨row, -, same⟩ := Store.callView?_eq_some_iff.mp mirrored.view
  exact (congrArg CallView.sessions same).symm

theorem valid (mirrored : cs.MirroredBy store channelID) (valid : store.CallsValid) : cs.call.isValid = .ok () := by
  obtain ⟨row, found, same⟩ := mirrored.row
  have identity : row.apartFromPost.identity = cs.call.identity := by rw [same]; rfl
  rw [← Call.isValid_congr identity]
  exact valid row (KeyedTable.find?_eq_some_iff.mp found).1

theorem named (mirrored : cs.MirroredBy store channelID) (owned : store.SessionsOwned) :
    ∀ session ∈ cs.sessions, session.userID ≠ "" := by
  intro session member
  rw [← mirrored.sessions, Store.mem_callSessions] at member
  exact (CallSession.isValid_ok_iff.mp (owned session member.1).1).2.2.1

theorem congr (mirrored : cs.MirroredBy before channelID)
    (same : after.callView? cs.call.id = before.callView? cs.call.id) : cs.MirroredBy after channelID :=
  ⟨mirrored.jobs, mirrored.channel, same.trans mirrored.view⟩

/-- Saving the call, with whatever becomes of its sessions. -/
theorem save (mirrored : cs.MirroredBy before channelID) {call : Call} {sessions : SessionMap}
    (identity : call.identity = cs.call.identity) (calls : after.calls = (before.saveCall call).calls)
    (here : after.callSessions cs.call.id = sessions)
    (elsewhere : ∀ other, other ≠ cs.call.id → after.callSessions other = before.callSessions other) :
    before.ChangesCall cs.call.id after ⟨call.apartFromPost, sessions⟩ := by
  obtain ⟨row, found, same⟩ := mirrored.row
  have sameID : call.id = cs.call.id := Call.id_eq_of_identity identity
  rw [← sameID] at found here elsewhere ⊢
  have rowIdentity : row.identity = call.identity :=
    (show row.apartFromPost.identity = cs.call.identity by rw [same]; rfl).trans identity.symm
  refine ⟨?_, fun other different => ?_⟩
  · rw [Store.callView?, calls, Store.find?_saveCall_self found rowIdentity, here]
    rfl
  · simp only [Store.callView?, calls, Store.find?_saveCall_other different, elsewhere other different]

end CallState.MirroredBy

theorem Store.SessionsOwned.mono {before after : Store} (owned : before.SessionsOwned)
    (calls : ∀ callID, before.calls.contains callID = true → after.calls.contains callID = true)
    (sessions : ∀ session ∈ after.sessions, session.isValid = .ok () ∧
      ((∃ old ∈ before.sessions, old.callID = session.callID) ∨ after.calls.contains session.callID = true)) :
    after.SessionsOwned := by
  intro session member
  obtain ⟨valid, ⟨old, oldMember, same⟩ | written⟩ := sessions session member
  · exact ⟨valid, calls _ (same ▸ (owned old oldMember).2)⟩
  · exact ⟨valid, written⟩

/-- What an item of a batch leaves behind. -/
structure ItemMirrored (step : CallStep) (channelID : String) (before after : Store) (next : Option CallState) : Prop where
  valid : after.CallsValid
  sessions : after.SessionsOwned
  next : ∀ cs, next = some cs → cs.MirroredBy after channelID
  frame : ∀ (cs : CallState) other, other ≠ channelID → cs.MirroredBy before other → cs.MirroredBy after other
  change : ∀ callID, CallChange step (before.callView? callID) (after.callView? callID)

section
variable {step : CallStep} {channelID : String} {before after : Store} {next : Option CallState}

theorem ItemMirrored.unchanged (valid : before.CallsValid) (sessions : before.SessionsOwned)
    (mirrored : ∀ cs, next = some cs → cs.MirroredBy before channelID) (calls : after.calls = before.calls)
    (same : after.sessions = before.sessions) : ItemMirrored step channelID before after next := by
  have view (callID : String) : after.callView? callID = before.callView? callID :=
    Store.callView?_congr calls (Store.callSessions_congr same callID)
  refine ⟨by rwa [Store.CallsValid, calls], by rwa [Store.SessionsOwned, calls, same],
    fun cs held => (mirrored cs held).congr (view _), fun cs other _ held => held.congr (view _), fun callID => ?_⟩
  rw [view]
  exact .kept

/-- A change to one call of the channel, which the state for the next items has seen. -/
theorem ItemMirrored.of_changesCall {callID : String} {view : CallView} (valid : after.CallsValid)
    (sessions : after.SessionsOwned) (changes : before.ChangesCall callID after view)
    (channel : ∀ old, before.callView? callID = some old → old.call.channelID = channelID)
    (nextHeld : ∀ cs, next = some cs → cs.JobsValid ∧ cs.call.channelID = channelID ∧ cs.call.id = callID ∧ cs.view = view)
    (change : CallChange step (before.callView? callID) (some view)) :
    ItemMirrored step channelID before after next := by
  refine ⟨valid, sessions, fun cs held => ?_, fun cs other different held => held.congr ?_, fun other => ?_⟩
  · obtain ⟨jobs, sameChannel, sameID, sameView⟩ := nextHeld cs held
    refine ⟨jobs, sameChannel, ?_⟩
    rw [sameID, changes.here, sameView]
  · refine changes.elsewhere _ fun here => different ?_
    have old := held.view
    rw [here] at old
    exact held.channel.symm.trans (channel _ old)
  · by_cases here : other = callID
    · subst here
      rw [changes.here]
      exact change
    · rw [changes.elsewhere other here]
      exact .kept

end

/-! ### Joins -/

section
variable {env : Env} {channelID : String} {state next : Option CallState} {req : JoinRequest} {before after : Store}

theorem newCallSession_isValid {call : Call} (named : call.id ≠ "") : (newCallSession env call req).isValid = .ok () := by
  rw [CallSession.isValid_ok_iff]
  exact ⟨req.connID_ne, named, req.userID_ne, Int.ne_of_gt env.now.unixMilli_pos⟩

/-- Where the key is free the session of a join is inserted. -/
theorem not_refusesSession {call : Call} (works : env.StoreWorks) (named : call.id ≠ "")
    (free : before.sessions.contains req.connID = false) : ¬ before.RefusesSession env (newCallSession env call req) := by
  intro either
  rcases either with invalid | broken | taken
  · exact invalid (newCallSession_isValid named)
  · rw [works] at broken
    cases broken
  · rw [show (newCallSession env call req).id = req.connID from rfl, free] at taken
    cases taken

/-- A join into a call that there is no row of: the row of the call and the one of its session are new. -/
theorem ItemMirrored.started {base : CallState} {call : Call} (valid : before.CallsValid) (owned : before.SessionsOwned)
    (found : stateToJoin env channelID none req = .ok base) (user : req.userID ≠ env.botID)
    (callSame : call.apartFromPost = (joinedState env base req).call.apartFromPost) (callValid : call.isValid = .ok ())
    {middle : Store} (created : before.calls.insert? call = some middle.calls)
    (inserted : before.sessions.insert? (newCallSession env base.call req) = some middle.sessions)
    (mirrored : ∀ cs, next = some cs → cs.JobsValid ∧ cs.call.identity = call.identity ∧ cs.view = (joinedState env base req).view) :
    ItemMirrored (.operation (.join env channelID req)) channelID before middle next ∧
      before.callView? base.call.id = none ∧ before.ChangesCall base.call.id middle (joinedState env base req).view := by
  have fresh := (stateToJoin_none found).2.2
  have same := joinedState_same env base req
  have identity : call.identity = base.call.identity :=
    (show call.apartFromPost.identity = _ by rw [callSame]; rfl).trans same.identity
  have sameID : base.call.id = call.id := (Call.id_eq_of_identity identity).symm
  have named : base.call.id ≠ "" := by
    rw [sameID]
    exact (Call.isValid_ok_iff.mp callValid).1
  have absent : before.calls.contains base.call.id = false := by
    rw [sameID]
    exact (KeyedTable.insert?_eq_some created).1
  have unused : before.callSessions base.call.id = .empty := by
    apply KeyedTable.ext
    rw [KeyedTable.rows_empty, List.eq_nil_iff_forall_not_mem]
    intro session member
    obtain ⟨stored, ofCall⟩ := Store.mem_callSessions.mp member
    have known := (owned session stored).2
    rw [ofCall, absent] at known
    cases known
  have changes : before.ChangesCall base.call.id middle (joinedState env base req).view := by
    have sessions : middle.callSessions base.call.id = (joinedState env base req).sessions := by
      rw [show base.call.id = (newCallSession env base.call req).callID from rfl, Store.callSessions_insert inserted,
        show (newCallSession env base.call req).callID = base.call.id from rfl, unused, joinedState, fresh.sessions]
    refine ⟨?_, fun other different => ?_⟩
    · rw [Store.callView?, KeyedTable.find?_insert? created, if_pos sameID, sessions, Option.map_some, callSame]
      rfl
    · rw [Store.callView?, KeyedTable.find?_insert? created, if_neg (by rwa [← sameID]),
        Store.callSessions_insert_other inserted different]
      rfl
  have noRow : before.callView? base.call.id = none := by
    rw [KeyedTable.contains, Option.isSome_eq_false_iff, Option.isNone_iff_eq_none] at absent
    rw [Store.callView?, absent]
    rfl
  refine ⟨.of_changesCall (fun row member => ?_) (owned.mono (fun callID known => ?_) fun session member => ?_) changes
    (fun old held => ?_) (fun cs held => ?_) ?_, noRow, changes⟩
  · rcases (KeyedTable.mem_insert? created).mp member with old | rfl
    · exact valid row old
    · exact callValid
  · obtain ⟨row, member, hit⟩ := KeyedTable.contains_iff.mp known
    exact KeyedTable.contains_iff.mpr ⟨row, (KeyedTable.mem_insert? created).mpr (.inl member), hit⟩
  · rcases (KeyedTable.mem_insert? inserted).mp member with old | rfl
    · exact ⟨(owned session old).1, .inl ⟨session, old, rfl⟩⟩
    · refine ⟨newCallSession_isValid named, .inr (KeyedTable.contains_iff.mpr ?_)⟩
      exact ⟨_, (KeyedTable.mem_insert? created).mpr (.inr rfl), sameID.symm⟩
  · rw [noRow] at held
    cases held
  · obtain ⟨jobs, sameIdentity, view⟩ := mirrored cs held
    have channel : cs.call.channelID = channelID :=
      (congrArg (·.2.1) (sameIdentity.trans identity)).trans fresh.call.channelID_eq
    exact ⟨jobs, channel, (Call.id_eq_of_identity sameIdentity).trans sameID.symm, view⟩
  · rw [noRow]
    exact .started found user

/-- A join into a call that is there: its row is updated, and the row of the session is new. -/
theorem ItemMirrored.joined {cs : CallState} (valid : before.CallsValid) (owned : before.SessionsOwned)
    (mirrored : cs.MirroredBy before channelID) (checked : checkJoin env cs req = .ok ())
    (saved : after.calls = (before.saveCall (joinedState env cs req).call).calls)
    (inserted : before.sessions.insert? (newCallSession env cs.call req) = some after.sessions)
    (nextHeld : ∀ joined, next = some joined → joined.JobsValid ∧ joined.call = (joinedState env cs req).call ∧
      joined.sessions = (joinedState env cs req).sessions) :
    ItemMirrored (.operation (.join env channelID req)) channelID before after next ∧
      before.ChangesCall cs.call.id after (joinedState env cs req).view := by
  have same := joinedState_same env cs req
  have callValid : (joinedState env cs req).call.isValid = .ok () :=
    (Call.isValid_congr same.identity).trans (mirrored.valid valid)
  have sessions : after.callSessions cs.call.id = (joinedState env cs req).sessions := by
    rw [show cs.call.id = (newCallSession env cs.call req).callID from rfl, Store.callSessions_insert inserted,
      show (newCallSession env cs.call req).callID = cs.call.id from rfl, mirrored.sessions]
    rfl
  have changes := mirrored.save same.identity saved sessions fun other different =>
    Store.callSessions_insert_other inserted different
  obtain ⟨row, found, -⟩ := mirrored.row
  have known : after.calls.contains cs.call.id = true := by
    rw [saved, Store.saveCall, KeyedTable.contains_modify, KeyedTable.contains, found]
    rfl
  refine ⟨.of_changesCall (valid.save callValid saved) (owned.mono (fun callID known => ?_) fun session member => ?_)
    changes (fun old held => ?_) (fun joined held => ?_) ?_, changes⟩
  · rwa [saved, Store.saveCall, KeyedTable.contains_modify]
  · rcases (KeyedTable.mem_insert? inserted).mp member with old | rfl
    · exact ⟨(owned session old).1, .inl ⟨session, old, rfl⟩⟩
    · exact ⟨newCallSession_isValid (Call.isValid_ok_iff.mp (mirrored.valid valid)).1, .inr known⟩
  · rw [mirrored.view] at held
    cases held
    exact mirrored.channel
  · obtain ⟨jobs, sameCall, sameSessions⟩ := nextHeld joined held
    refine ⟨jobs, ?_, ?_, ?_⟩
    · rw [sameCall, same.channelID_eq, mirrored.channel]
    · rw [sameCall, same.id_eq]
    · simp only [CallState.view, sameCall, sameSessions]
  · rw [mirrored.view]
    exact .joined checked

/-- Where the store works a join that fails leaves the calls and the sessions alone. -/
theorem JoinEffect.unchanged {err : String} (works : env.StoreWorks)
    (free : (∀ cs, state = some cs → cs.sessions.contains req.connID = false) → before.sessions.contains req.connID = false)
    (effect : JoinEffect env channelID state req before (.error err) after) :
    after.calls = before.calls ∧ after.sessions = before.sessions := by
  cases effect with
  | refused calls sessions => exact ⟨calls, sessions⟩
  | @callOnly err _ base found checked planned written sessions refusal =>
    have named : base.call.id ≠ "" := by
      rw [← (joinedState_same env base req).id_eq]
      exact (Call.isValid_ok_iff.mp written.1).1
    refine absurd refusal (not_refusesSession works named (free fun cs held => ?_))
    subst held
    have reused : cs = base := Except.ok.inj found
    rw [reused]
    exact checkJoin_absent checked

/-- A session has joined: what it found, and what has become of its call. -/
structure EntersCall (env : Env) (channelID : String) (state : Option CallState) (req : JoinRequest) (before after : Store)
    (base joined : CallState) : Prop where
  found : stateToJoin env channelID state req = .ok base
  checked : checkJoin env base req = .ok ()
  item : ItemMirrored (.operation (.join env channelID req)) channelID before after (some joined)
  view : joined.view = (joinedState env base req).view
  changes : before.ChangesCall base.call.id after joined.view
  first : state = none → req.userID ≠ env.botID ∧ before.callView? base.call.id = none
  later : ∀ cs, state = some cs → joined.sessions.size ≠ 1

/-- The two ways in: a later session, whose call has a row, and the first one. -/
theorem JoinEffect.enters {joined : CallState} (effect : JoinEffect env channelID state req before (.ok joined) after)
    (later : joined.sessions.size ≠ 1) (valid : before.CallsValid) (owned : before.SessionsOwned)
    (mirrored : ∀ cs, state = some cs → cs.MirroredBy before channelID) :
    ∃ base, EntersCall env channelID state req before after base joined := by
  cases effect with
  | @joined _ base _ found checked planned written inserted sameCall sameSessions jobsValid =>
    cases state with
    | none =>
      refine absurd ?_ later
      rw [sameSessions]
      exact (stateToJoin_none found).2.2.first
    | some cs =>
      have reused : cs = base := Except.ok.inj found
      subst reused
      have held := mirrored cs rfl
      obtain ⟨row, rowFound, -⟩ := held.row
      have known : ∃ row ∈ before.calls, row.id = (joinedState env cs req).call.id := by
        rw [(joinedState_same env cs req).id_eq]
        exact ⟨row, KeyedTable.find?_eq_some_iff.mp rowFound⟩
      have view : joined.view = (joinedState env cs req).view := by rw [CallState.view, sameCall, sameSessions]; rfl
      obtain ⟨item, changes⟩ : ItemMirrored (.operation (.join env channelID req)) channelID before after (some joined) ∧
          before.ChangesCall cs.call.id after (joinedState env cs req).view :=
        ItemMirrored.joined valid owned held checked (written.saved known) inserted fun _ same => by
          cases same
          exact ⟨jobsValid held.jobs, sameCall, sameSessions⟩
      exact ⟨cs, found, checked, item, view, by rwa [view], fun none => (by cases none), fun _ _ => later⟩

theorem JoinEffect.announced {joined announced : CallState} {middle : Store} {postID threadID : String}
    (effect : JoinEffect env channelID state req before (.ok joined) middle) (first : joined.sessions.size = 1)
    (changed : announced = { joined with call := { joined.call with postID, threadID } })
    (same : after.sessions = middle.sessions)
    (wrote : after.calls = middle.calls ∨ after.calls = (middle.saveCall announced.call).calls)
    (valid : before.CallsValid) (owned : before.SessionsOwned)
    (mirrored : ∀ cs, state = some cs → cs.MirroredBy before channelID) :
    ∃ base, EntersCall env channelID state req before after base announced := by
  cases effect with
  | @joined _ base _ found checked planned written inserted sameCall sameSessions jobsValid =>
    cases state with
    | some cs =>
      -- The first session of a call does not find it.
      have reused : cs = base := Except.ok.inj found
      subst reused
      obtain ⟨row, rowFound, -⟩ := (mirrored cs rfl).row
      obtain ⟨-, ⟨-, -, created⟩ | ⟨second, -⟩⟩ := written
      · have fresh := (KeyedTable.insert?_eq_some created).1
        rw [(joinedState_same env cs req).id_eq, KeyedTable.contains, rowFound] at fresh
        cases fresh
      · rw [sameSessions] at first
        exact absurd first second
    | none =>
      obtain ⟨starts, created⟩ := written.starts found checked planned
      obtain ⟨-, -, fresh⟩ := stateToJoin_none found
      have identity : joined.call.identity = announced.call.identity := by rw [changed]; rfl
      have jobs : announced.JobsValid := by
        rw [changed]
        refine jobsValid fun type job held => ?_
        rw [fresh.jobs] at held
        cases held
      have callSame : announced.call.apartFromPost = (joinedState env base req).call.apartFromPost := by
        rw [changed, ← sameCall]
        rfl
      have view : announced.view = (joinedState env base req).view := by
        rw [changed]
        simp only [CallState.view, ← sameCall, ← sameSessions]
        rfl
      rw [← same] at inserted
      rw [← sameCall] at created
      have enters {call : Call} (callSame : call.apartFromPost = (joinedState env base req).call.apartFromPost)
          (callValid : call.isValid = .ok ()) (identity : announced.call.identity = call.identity)
          (created : before.calls.insert? call = some after.calls) :
          ∃ base, EntersCall env channelID none req before after base announced := by
        obtain ⟨item, absent, changes⟩ : ItemMirrored (.operation (.join env channelID req)) channelID before after (some announced) ∧
            before.callView? base.call.id = none ∧ before.ChangesCall base.call.id after (joinedState env base req).view :=
          ItemMirrored.started valid owned found starts.user callSame callValid created inserted fun _ held => by
            cases held
            exact ⟨jobs, identity, view⟩
        exact ⟨base, found, checked, item, view, by rwa [view], fun _ => ⟨starts.user, absent⟩, fun _ some => by cases some⟩
      rcases wrote with unsaved | saved
      · rw [← unsaved] at created
        exact enters (by rw [← sameCall]) (by rw [sameCall]; exact written.1) identity.symm created
      · have announcedValid : announced.call.isValid = .ok () := by
          rw [← Call.isValid_congr identity, sameCall]
          exact written.1
        refine enters callSame announcedValid rfl ?_
        rw [saved]
        exact Store.insert?_saveCall created identity

/-- What a join on a working store leaves behind, up to the announcement of a call that was started. -/
theorem AddEffect.mirrored (works : env.StoreWorks)
    (free : (∀ cs, state = some cs → cs.sessions.contains req.connID = false) → before.sessions.contains req.connID = false)
    (effect : AddEffect env channelID state req before next after) (valid : before.CallsValid)
    (owned : before.SessionsOwned) (mirrored : ∀ cs, state = some cs → cs.MirroredBy before channelID) :
    ItemMirrored (.operation (.join env channelID req)) channelID before after next := by
  cases effect with
  | failed effect =>
    obtain ⟨calls, sessions⟩ := effect.unchanged works free
    exact .unchanged valid owned mirrored calls sessions
  | joined effect later => exact (effect.enters later valid owned mirrored).choose_spec.item
  | started effect first changed same wrote =>
    exact (effect.announced first changed same wrote valid owned mirrored).choose_spec.item

end

/-! ### Leaves -/

/-- A removal deletes a session of its own call, and of no other. -/
theorem SessionDeleted.callSessions {ref : SessionRef} {before : World} {held : CallState} {left : LockedCall}
    {us : CallSession} (deleted : SessionDeleted ref ⟨before, held⟩ left)
    (sessions : held.sessions = before.store.callSessions held.call.id)
    (found : held.sessions.find? ref.originalConnID = some us) :
    left.world.store.callSessions held.call.id = left.state.sessions ∧
      ∀ other, other ≠ held.call.id → left.world.store.callSessions other = before.store.callSessions other := by
  refine ⟨?_, fun other different => ?_⟩
  · rw [Store.callSessions_erase deleted.store, deleted.memory, ← sessions]
  · rw [Store.callSessions_erase deleted.store]
    refine KeyedTable.erase_eq_self (KeyedTable.contains_eq_false_iff.mpr fun session member named => different ?_)
    obtain ⟨stored, ofOther⟩ := Store.mem_callSessions.mp member
    obtain ⟨usMember, usNamed⟩ := KeyedTable.find?_eq_some_iff.mp found
    rw [sessions, Store.mem_callSessions] at usMember
    rw [← ofOther, KeyedTable.eq_of_key_eq stored usMember.1 (named.trans usNamed.symm), usMember.2]

/-- What a removal that is saved makes of its call. -/
theorem CallState.MirroredBy.left {env : Env} {channelID : String} {ref : SessionRef} {before : World} {held : CallState}
    {us : CallSession} {left : LockedCall} (kept : held.MirroredBy before.store channelID)
    (found : held.sessions.find? ref.originalConnID = some us) (deleted : SessionDeleted ref ⟨before, held⟩ left)
    (wrote : left.world.store.calls = (before.store.saveCall left.state.call).calls)
    (call : left.state.call = held.call.afterLeave env ref us left.state.sessions) :
    before.store.ChangesCall held.call.id left.world.store left.state.view := by
  have identity : left.state.call.identity = held.call.identity := by
    rw [call]
    exact (Call.afterLeave_kept env ref us left.state.sessions held.call).1
  obtain ⟨here, elsewhere⟩ := deleted.callSessions kept.sessions.symm found
  exact kept.save identity wrote here elsewhere

theorem WorkingLeave.mirrored {env : Env} {channelID : String} {ref : SessionRef} {before after : World}
    {state next : Option CallState} (effect : WorkingLeave env ref before state next after)
    (valid : before.store.CallsValid) (owned : before.store.SessionsOwned)
    (mirrored : ∀ cs, state = some cs → cs.MirroredBy before.store channelID) :
    ItemMirrored (.operation (.leave env channelID ref)) channelID before.store after.store next := by
  cases effect with
  | nothing => exact .unchanged valid owned mirrored rfl rfl
  | @saved held us left found deleted wrote call jobs =>
    have kept := mirrored held rfl
    have identity : left.state.call.identity = held.call.identity := by
      rw [call]
      exact (Call.afterLeave_kept env ref us left.state.sessions held.call).1
    have callValid : left.state.call.isValid = .ok () := (Call.isValid_congr identity).trans (kept.valid valid)
    refine .of_changesCall (valid.save callValid wrote) (owned.mono (fun callID known => ?_) fun session member => ?_)
      (kept.left found deleted wrote call) (fun old held => ?_) (fun cs same => ?_) ?_
    · rwa [wrote, Store.saveCall, KeyedTable.contains_modify]
    · rw [deleted.store, KeyedTable.mem_erase] at member
      exact ⟨(owned session member.1).1, .inl ⟨session, member.1, rfl⟩⟩
    · rw [kept.view] at held
      cases held
      exact kept.channel
    · cases same
      exact ⟨jobs, (congrArg (·.2.1) identity).trans kept.channel, Call.id_eq_of_identity identity, rfl⟩
    · rw [kept.view]
      exact .left found deleted.memory call

end Calls
