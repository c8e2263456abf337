import Calls.Server.Hosts

/-! The user whom the last successful change of the host named, for as long as that
user is in the call: the host, unless a user the host was locked to before comes back. -/

set_option autoImplicit false

namespace Calls

/-- For each call, the user whom the last successful change of the host named. -/
abbrev Named := String → Option String

/-- A change that succeeds names a user in the ongoing call of its channel. -/
def nameHost (named : Named) (before : Operations) : CallStep → Named
  | .changeHost env requesterID channelID newHostID => fun callID =>
    if (changeHost env requesterID channelID newHostID before.world).1.isOk = true ∧
        (before.world.store.activeCall? channelID).map Call.id = some callID then some newHostID
    else named callID
  | _ => named

/-- Users who have left are forgotten. -/
def Named.present (named : Named) (store : Store) : Named := fun callID =>
  (named callID).filter fun userID => isUserIDInCall (store.callSessions callID) userID

def namedHosts (ids : Identities) : System (Operations × Named) CallStep :=
  (callRuns ids).observed (fun _ => none) fun named before step after =>
    (nameHost named before step).present after.world.store

/-- In every call the user who was named is the host. -/
def NamedIsHost (state : Operations × Named) : Prop :=
  ∀ call ∈ state.1.world.store.calls, ∀ userID, state.2 call.id = some userID → call.getHostID = userID

/-- Nobody joins whom the host was locked to before somebody else was named. -/
def NoLockedReturn (state : Operations × Named) (step : CallStep) : Prop :=
  ∀ env channelID req cs, step = .operation (.join env channelID req) →
    state.1.batch? channelID .joining = some (some cs) → checkJoin env cs req = .ok () →
    cs.call.props.hostLockedUserID = req.userID → ∀ userID, state.2 cs.call.id = some userID → userID = req.userID

/-- The host of the call is the user who was named, and the one the host is locked to. -/
structure Heeds (named : Option String) (call : Call) (sessions : SessionMap) : Prop where
  named : ∀ userID, named = some userID → call.getHostID = userID
  locked : call.props.hostLockedUserID ≠ "" → (∃ session ∈ sessions, session.userID = call.props.hostLockedUserID) →
    call.getHostID = call.props.hostLockedUserID

namespace Heeds

variable {named later : Option String} {call other : Call} {sessions others : SessionMap}

/-- Fewer sessions, and perhaps nobody named any more. -/
theorem mono (heeds : Heeds named call sessions) (host : other.getHostID = call.getHostID)
    (locked : other.props.hostLockedUserID = call.props.hostLockedUserID)
    (weaker : ∀ userID, later = some userID → named = some userID)
    (users : ∀ userID, (∃ session ∈ others, session.userID = userID) → ∃ session ∈ sessions, session.userID = userID) :
    Heeds later other others := by
  refine ⟨fun userID isNamed => ?_, fun isLocked present => ?_⟩
  · rw [host]
    exact heeds.named userID (weaker userID isNamed)
  · rw [locked] at isLocked present ⊢
    rw [host]
    exact heeds.locked isLocked (users _ present)

/-- An election among sessions that the named user is one of. -/
theorem elected {order : IterationOrder} {botID : String} (heeds : Heeds named call sessions)
    (host : other.getHostID = getHostID order botID call others)
    (locked : other.props.hostLockedUserID = call.props.hostLockedUserID)
    (weaker : ∀ userID, later = some userID → named = some userID ∧ ∃ session ∈ others, session.userID = userID)
    (lockedUser : (∃ session ∈ others, session.userID = call.props.hostLockedUserID) →
      (∃ session ∈ sessions, session.userID = call.props.hostLockedUserID) ∨
        ∀ userID, later = some userID → userID = call.props.hostLockedUserID) :
    Heeds later other others := by
  constructor
  · intro userID isNamed
    obtain ⟨was, present⟩ := weaker userID isNamed
    have current := heeds.named userID was
    rw [host]
    by_cases isLocked : call.props.hostLockedUserID ≠ "" ∧ isUserIDInCall others call.props.hostLockedUserID = true
    · rw [getHostID_locked order botID isLocked.1 isLocked.2]
      rcases lockedUser (isUserIDInCall_iff.mp isLocked.2) with before | same
      · exact (heeds.locked isLocked.1 before).symm.trans current
      · exact (same userID isNamed).symm
    · rw [← current] at present
      rw [getHostID_current order botID isLocked present, current]
  · intro isLocked present
    rw [locked] at isLocked present ⊢
    rw [host, getHostID_locked order botID isLocked (isUserIDInCall_iff.mpr present)]

/-- A change of the host that succeeds. -/
theorem changed {env : Env} {requesterID newHostID : String} (heeds : Heeds named call sessions)
    (accepted : call.changeHost env requesterID newHostID sessions = .ok other) :
    Heeds (some newHostID) other sessions := by
  have names {after : Call} (host : after.getHostID = newHostID) (userID : String) (isNamed : some newHostID = some userID) :
      after.getHostID = userID := host.trans (Option.some.inj isNamed)
  obtain ⟨-, ⟨isHost, rfl⟩ | ⟨-, rfl⟩⟩ := Call.changeHost_ok accepted
  · by_cases free : call.props.hostLockedUserID = ""
    · rw [Call.lockHost, if_pos free]
      exact ⟨names isHost, fun _ _ => isHost⟩
    · rw [Call.lockHost, if_neg free]
      exact ⟨names isHost, heeds.locked⟩
  · exact ⟨names rfl, fun _ _ => rfl⟩

end Heeds

theorem Named.present_eq_some {named : Named} {store : Store} {callID userID : String} :
    named.present store callID = some userID ↔
      named callID = some userID ∧ ∃ session ∈ store.callSessions callID, session.userID = userID := by
  rw [present, Option.filter_eq_some_iff, isUserIDInCall_iff]

/-! ### One call of the store -/

/-- What the store says of every call heeds who was named. -/
structure Store.Heeds (named : Named) (store : Store) : Prop where
  rows : ∀ call ∈ store.calls, Calls.Heeds (named call.id) call (store.callSessions call.id)
  owned : ∀ session ∈ store.sessions, store.calls.contains session.callID = true
  present : ∀ callID userID, named callID = some userID → ∃ session ∈ store.callSessions callID, session.userID = userID

/-- The state in memory heeds who was named, and has the sessions that the store has. -/
structure CallState.HeedsIn (named : Named) (store : Store) (channelID : String) (cs : CallState) : Prop where
  row : ∃ row ∈ store.calls, row.id = cs.call.id ∧ row.channelID = channelID
  sessions : cs.sessions = store.callSessions cs.call.id
  heeds : Heeds (named cs.call.id) cs.call cs.sessions

/-- An item changes one call, of its own channel. -/
structure Store.Touches (channelID callID : String) (before after : Store) : Prop where
  channel : ∀ row ∈ before.calls, row.id = callID → row.channelID = channelID
  calls : ∀ row ∈ after.calls, row.id ≠ callID → row ∈ before.calls
  kept : ∀ row ∈ before.calls, ∃ other ∈ after.calls, other.id = row.id ∧ other.channelID = row.channelID
  sessions : ∀ other, other ≠ callID → after.callSessions other = before.callSessions other
  owned : ∀ session ∈ after.sessions, session.callID = callID ∨ ∃ old ∈ before.sessions, old.callID = session.callID

/-- What an item leaves behind for the items after it and for other channels. -/
structure ItemHeeds (named renamed : Named) (channelID : String) (before after : Store) (next : Option CallState) :
    Prop where
  store : after.Heeds (renamed.present after)
  next : ∀ cs, next = some cs → cs.HeedsIn (renamed.present after) after channelID
  frame : ∀ (cs : CallState) other, other ≠ channelID → cs.HeedsIn named before other → cs.HeedsIn (renamed.present after) after other

section
variable {named renamed : Named} {channelID callID : String} {before after : Store} {next : Option CallState}

theorem ItemHeeds.of_touches (heeds : before.Heeds named) (touches : before.Touches channelID callID after)
    (known : after.calls.contains callID = true) (elsewhere : ∀ other, other ≠ callID → renamed other = named other)
    (here : ∀ row ∈ after.calls, row.id = callID → Heeds (renamed.present after callID) row (after.callSessions callID))
    (nextHeeds : ∀ cs, next = some cs → cs.HeedsIn (renamed.present after) after channelID) :
    ItemHeeds named renamed channelID before after next := by
  have weaker {other : String} (different : other ≠ callID) (userID : String)
      (isNamed : renamed.present after other = some userID) : named other = some userID := by
    rw [← elsewhere other different]
    exact (Named.present_eq_some.mp isNamed).1
  refine ⟨⟨fun row member => ?_, fun session member => ?_, fun other userID isNamed => ?_⟩, nextHeeds,
    fun cs other away held => ?_⟩
  · by_cases same : row.id = callID
    · rw [same]
      exact here row member same
    · rw [touches.sessions row.id same]
      exact (heeds.rows row (touches.calls row member same)).mono rfl rfl (weaker same) fun _ present => present
  · rcases touches.owned session member with ofCall | ⟨old, stored, same⟩
    · rw [ofCall]
      exact known
    · obtain ⟨row, rowMember, hit⟩ := KeyedTable.contains_iff.mp (heeds.owned old stored)
      obtain ⟨kept, keptMember, sameID, -⟩ := touches.kept row rowMember
      exact KeyedTable.contains_iff.mpr ⟨kept, keptMember, sameID.trans (hit.trans same)⟩
  · exact (Named.present_eq_some.mp isNamed).2
  · obtain ⟨row, member, sameID, channel⟩ := held.row
    have different : cs.call.id ≠ callID := fun same =>
      away (channel.symm.trans (touches.channel row member (sameID.trans same)))
    obtain ⟨kept, keptMember, keptID, keptChannel⟩ := touches.kept row member
    refine ⟨⟨kept, keptMember, keptID.trans sameID, keptChannel.trans channel⟩, ?_, ?_⟩
    · rw [touches.sessions _ different]
      exact held.sessions
    · exact held.heeds.mono rfl rfl (weaker different) fun _ present => present

/-- Nothing of the calls and the sessions is changed. -/
theorem ItemHeeds.unchanged (heeds : before.Heeds named) (calls : after.calls = before.calls)
    (sessions : after.sessions = before.sessions) (nextHeeds : ∀ cs, next = some cs → cs.HeedsIn named before channelID) :
    ItemHeeds named named channelID before after next := by
  have sameSessions (callID : String) : after.callSessions callID = before.callSessions callID :=
    Store.callSessions_congr sessions callID
  have sameNamed : named.present after = named := by
    funext callID
    refine Option.ext fun userID => ?_
    rw [Named.present_eq_some, sameSessions]
    exact ⟨And.left, fun isNamed => ⟨isNamed, heeds.present callID userID isNamed⟩⟩
  have still (cs : CallState) (other : String) (held : cs.HeedsIn named before other) :
      cs.HeedsIn (named.present after) after other := by
    rw [sameNamed]
    refine ⟨?_, ?_, held.heeds⟩
    · rw [calls]
      exact held.row
    · rw [sameSessions]
      exact held.sessions
  refine ⟨?_, fun cs same => still cs channelID (nextHeeds cs same), fun cs other _ held => still cs other held⟩
  rw [sameNamed]
  refine ⟨fun row member => ?_, fun session member => ?_, fun callID userID isNamed => ?_⟩
  · rw [calls] at member
    rw [sameSessions]
    exact heeds.rows row member
  · rw [sessions] at member
    rw [calls]
    exact heeds.owned session member
  · rw [sameSessions]
    exact heeds.present callID userID isNamed

/-- There is no session of a call that there is no row of. -/
theorem Store.Heeds.noSessions (heeds : before.Heeds named) (absent : before.calls.contains callID = false) :
    before.callSessions callID = .empty := by
  apply KeyedTable.ext
  rw [KeyedTable.rows_empty, List.eq_nil_iff_forall_not_mem]
  intro session member
  obtain ⟨stored, ofCall⟩ := Store.mem_callSessions.mp member
  have known := heeds.owned session stored
  rw [ofCall, absent] at known
  cases known

end

/-! ### What items touch -/

namespace Store.Touches

variable {channelID callID : String} {before after : Store} {call : Call}

theorem of_same (channel : ∀ row ∈ before.calls, row.id = callID → row.channelID = channelID)
    (calls : after.calls = before.calls) (sessions : ∀ other, other ≠ callID → after.callSessions other = before.callSessions other)
    (owned : ∀ session ∈ after.sessions, session.callID = callID ∨ ∃ old ∈ before.sessions, old.callID = session.callID) :
    before.Touches channelID callID after :=
  ⟨channel, fun _ member _ => calls ▸ member, fun row member => ⟨row, calls ▸ member, rfl, rfl⟩, sessions, owned⟩

theorem of_saved (channel : ∀ row ∈ before.calls, row.id = call.id → row.channelID = channelID)
    (calls : after.calls = (before.saveCall call).calls)
    (sessions : ∀ other, other ≠ call.id → after.callSessions other = before.callSessions other)
    (owned : ∀ session ∈ after.sessions, session.callID = call.id ∨ ∃ old ∈ before.sessions, old.callID = session.callID) :
    before.Touches channelID call.id after := by
  refine ⟨channel, fun row member different => ?_, fun row member => ?_, sessions, owned⟩
  · rw [calls] at member
    rcases Store.mem_saveCall.mp member with ⟨old, -⟩ | ⟨previous, -, same, rfl⟩
    · exact old
    · exact absurd same different
  · rw [calls]
    by_cases same : row.id = call.id
    · exact ⟨row.updatedFrom call, Store.mem_saveCall.mpr (.inr ⟨row, member, same, rfl⟩), rfl, rfl⟩
    · exact ⟨row, Store.mem_saveCall.mpr (.inl ⟨member, same⟩), rfl, rfl⟩

theorem of_created (created : before.calls.insert? call = some after.calls)
    (sessions : ∀ other, other ≠ call.id → after.callSessions other = before.callSessions other)
    (owned : ∀ session ∈ after.sessions, session.callID = call.id ∨ ∃ old ∈ before.sessions, old.callID = session.callID) :
    before.Touches channelID call.id after := by
  have fresh := KeyedTable.contains_eq_false_iff.mp (KeyedTable.insert?_eq_some created).1
  refine ⟨fun row member same => absurd same (fresh row member), fun row member different => ?_, fun row member => ?_,
    sessions, owned⟩
  · rcases (KeyedTable.mem_insert? created).mp member with old | rfl
    · exact old
    · exact absurd rfl different
  · exact ⟨row, (KeyedTable.mem_insert? created).mpr (.inl member), rfl, rfl⟩

end Store.Touches

section
variable {named renamed : Named} {channelID : String} {before after : Store} {cs : CallState} {call : Call}
variable {next : Option CallState}

theorem CallState.HeedsIn.channel (held : cs.HeedsIn named before channelID) :
    ∀ row ∈ before.calls, row.id = cs.call.id → row.channelID = channelID := by
  intro row member same
  obtain ⟨own, ownMember, ownID, channel⟩ := held.row
  rw [KeyedTable.eq_of_key_eq member ownMember (same.trans ownID.symm), channel]

/-- The row of a call is saved, whose sessions may have changed. -/
theorem ItemHeeds.saved (heeds : before.Heeds named) (held : cs.HeedsIn named before channelID) (sameID : call.id = cs.call.id)
    (calls : after.calls = (before.saveCall call).calls)
    (sessions : ∀ other, other ≠ cs.call.id → after.callSessions other = before.callSessions other)
    (owned : ∀ session ∈ after.sessions, session.callID = cs.call.id ∨ ∃ old ∈ before.sessions, old.callID = session.callID)
    (elsewhere : ∀ other, other ≠ cs.call.id → renamed other = named other)
    (here : Heeds (renamed.present after cs.call.id) call (after.callSessions cs.call.id))
    (nextHeeds : ∀ left, next = some left → left.call.id = cs.call.id ∧ left.sessions = after.callSessions cs.call.id ∧
      Heeds (renamed.present after cs.call.id) left.call left.sessions) :
    ItemHeeds named renamed channelID before after next := by
  rw [← sameID] at sessions owned elsewhere here nextHeeds
  have touches : before.Touches channelID call.id after := .of_saved (by rw [sameID]; exact held.channel) calls sessions owned
  obtain ⟨row, member, rowID, channel⟩ := held.row
  obtain ⟨kept, keptMember, keptID, keptChannel⟩ := touches.kept row member
  refine .of_touches heeds touches (KeyedTable.contains_iff.mpr ⟨kept, keptMember, keptID.trans (rowID.trans sameID.symm)⟩)
    elsewhere (fun row member same => ?_) fun left isNext => ?_
  · rw [calls] at member
    rcases Store.mem_saveCall.mp member with ⟨-, different⟩ | ⟨previous, -, -, rfl⟩
    · exact absurd same different
    · exact here.mono rfl rfl (fun _ isNamed => isNamed) fun _ present => present
  · obtain ⟨leftID, leftSessions, leftHeeds⟩ := nextHeeds left isNext
    refine ⟨⟨kept, keptMember, keptID.trans (rowID.trans (sameID.symm.trans leftID.symm)), keptChannel.trans channel⟩, ?_, ?_⟩
    · rw [leftID, leftSessions]
    · rw [leftID]
      exact leftHeeds

/-- Only the sessions of a call change, to fewer or the same users. -/
theorem ItemHeeds.sessionsOnly (heeds : before.Heeds named) (held : cs.HeedsIn named before channelID)
    (calls : after.calls = before.calls)
    (sessions : ∀ other, other ≠ cs.call.id → after.callSessions other = before.callSessions other)
    (owned : ∀ session ∈ after.sessions, session.callID = cs.call.id ∨ ∃ old ∈ before.sessions, old.callID = session.callID)
    (users : ∀ userID, (∃ session ∈ after.callSessions cs.call.id, session.userID = userID) →
      ∃ session ∈ before.callSessions cs.call.id, session.userID = userID)
    (nextHeeds : ∀ left, next = some left → left.call.id = cs.call.id ∧ left.sessions = after.callSessions cs.call.id ∧
      Heeds (named.present after cs.call.id) left.call left.sessions) :
    ItemHeeds named named channelID before after next := by
  obtain ⟨row, member, rowID, channel⟩ := held.row
  rw [← calls] at member
  refine .of_touches heeds (.of_same held.channel calls sessions owned) (KeyedTable.contains_iff.mpr ⟨row, member, rowID⟩)
    (fun _ _ => rfl) (fun other listed same => ?_) fun left isNext => ?_
  · rw [calls] at listed
    rw [← same] at users ⊢
    exact (heeds.rows other listed).mono rfl rfl (fun userID isNamed => (Named.present_eq_some.mp isNamed).1) users
  · obtain ⟨leftID, leftSessions, leftHeeds⟩ := nextHeeds left isNext
    refine ⟨⟨row, member, rowID.trans leftID.symm, channel⟩, ?_, ?_⟩
    · rw [leftID, leftSessions]
    · rw [leftID]
      exact leftHeeds

/-- The row of a new call is created. -/
theorem ItemHeeds.created (heeds : before.Heeds named) (created : before.calls.insert? call = some after.calls)
    (channel : call.channelID = channelID)
    (sessions : ∀ other, other ≠ call.id → after.callSessions other = before.callSessions other)
    (owned : ∀ session ∈ after.sessions, session.callID = call.id ∨ ∃ old ∈ before.sessions, old.callID = session.callID)
    (here : Heeds (named.present after call.id) call (after.callSessions call.id))
    (nextHeeds : ∀ left, next = some left → left.call.id = call.id ∧ left.sessions = after.callSessions call.id ∧
      Heeds (named.present after call.id) left.call left.sessions) :
    ItemHeeds named named channelID before after next := by
  have member : call ∈ after.calls := (KeyedTable.mem_insert? created).mpr (.inr rfl)
  refine .of_touches heeds (.of_created created sessions owned) (KeyedTable.contains_iff.mpr ⟨call, member, rfl⟩)
    (fun _ _ => rfl) (fun row listed same => ?_) fun left isNext => ?_
  · rw [KeyedTable.eq_of_key_eq listed member same]
    exact here
  · obtain ⟨leftID, leftSessions, leftHeeds⟩ := nextHeeds left isNext
    refine ⟨⟨call, member, leftID.symm, channel⟩, ?_, ?_⟩
    · rw [leftID, leftSessions]
    · rw [leftID]
      exact leftHeeds

end

/-! ### Joins -/

section
variable {named : Named} {env : Env} {channelID : String} {req : JoinRequest} {before after : Store}

/-- The host after a join is the named user, unless the user who joins is one the host was locked to. -/
theorem Heeds.join {named later : Option String} {cs : CallState} (heeds : Heeds named cs.call cs.sessions)
    (absent : cs.sessions.contains req.connID = false)
    (noReturn : cs.call.props.hostLockedUserID = req.userID → ∀ userID, named = some userID → userID = req.userID)
    (weaker : ∀ userID, later = some userID →
      named = some userID ∧ ∃ session ∈ (joinedState env cs req).sessions, session.userID = userID) :
    Heeds later (joinedState env cs req).call (joinedState env cs req).sessions := by
  obtain ⟨host, locked⟩ := joinedState_host env cs req
  refine heeds.elected host locked weaker fun ⟨session, member, isLocked⟩ => ?_
  rcases (joinedState_sessions absent session).mp member with old | rfl
  · exact .inl ⟨session, old, isLocked⟩
  · right
    intro userID isNamed
    rw [← isLocked]
    exact noReturn isLocked.symm userID (weaker userID isNamed).1

/-- Where a join gets as far as writing the call. -/
structure Joins (named : Named) (env : Env) (channelID : String) (req : JoinRequest) (before : Store) (base : CallState)
    (calls : KeyedTable Call.id) : Prop where
  absent : base.sessions.contains req.connID = false
  sessions : base.sessions = before.callSessions base.call.id
  heeds : Heeds (named base.call.id) base.call base.sessions
  noReturn : base.call.props.hostLockedUserID = req.userID → ∀ userID, named base.call.id = some userID → userID = req.userID
  written : base.HeedsIn named before channelID ∧ calls = (before.saveCall (joinedState env base req).call).calls ∨
    (joinedState env base req).call.channelID = channelID ∧ before.calls.insert? (joinedState env base req).call = some calls

theorem Joins.of_written {state : Option CallState} {base : CallState} {calls : KeyedTable Call.id}
    (heeds : before.Heeds named) (held : ∀ cs, state = some cs → cs.HeedsIn named before channelID)
    (noReturn : ∀ cs, state = some cs → checkJoin env cs req = .ok () → cs.call.props.hostLockedUserID = req.userID →
      ∀ userID, named cs.call.id = some userID → userID = req.userID)
    (found : stateToJoin env channelID state req = .ok base) (checked : checkJoin env base req = .ok ())
    (planned : ∃ planned, jobsToStart env base req = .ok planned)
    (written : CallWritten env (joinedState env base req) before calls) : Joins named env channelID req before base calls := by
  have absent := checkJoin_absent checked
  have sameID := (joinedState_same env base req).id_eq
  cases state with
  | some cs =>
    have reused : cs = base := Except.ok.inj found
    subst reused
    have heedsIn := held cs rfl
    refine ⟨absent, heedsIn.sessions, heedsIn.heeds, noReturn cs rfl checked, .inl ⟨heedsIn, written.saved ?_⟩⟩
    obtain ⟨row, member, rowID, -⟩ := heedsIn.row
    exact ⟨row, member, rowID.trans sameID.symm⟩
  | none =>
    obtain ⟨-, created⟩ := written.starts found checked planned
    obtain ⟨-, -, fresh⟩ := stateToJoin_none found
    have noRow := (KeyedTable.insert?_eq_some created).1
    rw [sameID] at noRow
    have noSessions := heeds.noSessions noRow
    have nobody : named base.call.id = none := by
      refine Option.eq_none_iff_forall_ne_some.mpr fun userID isNamed => ?_
      obtain ⟨session, member, -⟩ := heeds.present base.call.id userID isNamed
      rw [noSessions] at member
      exact KeyedTable.not_mem_empty member
    refine ⟨absent, fresh.sessions.trans noSessions.symm, ⟨fun userID isNamed => ?_, fun isLocked => ?_⟩,
      fun _ userID isNamed => ?_, .inr ⟨((joinedState_same env base req).trans fresh.call).channelID_eq, created⟩⟩
    · rw [nobody] at isNamed
      cases isNamed
    · rw [stateToJoin_props found] at isLocked
      exact absurd rfl isLocked
    · rw [nobody] at isNamed
      cases isNamed

/-- The call of a join is written, with or without the session. -/
theorem Joins.item {base : CallState} {next : Option CallState} (joins : Joins named env channelID req before base after.calls)
    (heeds : before.Heeds named)
    (wrote : after.sessions = before.sessions ∨
      before.sessions.insert? (newCallSession env base.call req) = some after.sessions)
    (nextHeeds : ∀ left, next = some left →
      after.sessions = before.sessions ∧ left.HeedsIn named before channelID ∧ left.call.id = base.call.id ∨
        before.sessions.insert? (newCallSession env base.call req) = some after.sessions ∧
          left.call = (joinedState env base req).call ∧ left.sessions = (joinedState env base req).sessions) :
    ItemHeeds named named channelID before after next := by
  have sameID := (joinedState_same env base req).id_eq
  have unchanged (same : after.sessions = before.sessions) : after.callSessions base.call.id = base.sessions := by
    rw [Store.callSessions_congr same, joins.sessions]
  have inserted (new : before.sessions.insert? (newCallSession env base.call req) = some after.sessions) :
      after.callSessions base.call.id = (joinedState env base req).sessions := by
    rw [show base.call.id = (newCallSession env base.call req).callID from rfl, Store.callSessions_insert new,
      show (newCallSession env base.call req).callID = base.call.id from rfl, ← joins.sessions]
    rfl
  have elsewhere (other : String) (different : other ≠ base.call.id) :
      after.callSessions other = before.callSessions other := by
    rcases wrote with same | new
    · exact Store.callSessions_congr same other
    · exact Store.callSessions_insert_other new different
  have owned : ∀ session ∈ after.sessions,
      session.callID = base.call.id ∨ ∃ old ∈ before.sessions, old.callID = session.callID := by
    intro session member
    rcases wrote with same | new
    · rw [same] at member
      exact .inr ⟨session, member, rfl⟩
    · rcases (KeyedTable.mem_insert? new).mp member with old | rfl
      · exact .inr ⟨session, old, rfl⟩
      · exact .inl rfl
  have grows : ∀ session ∈ after.callSessions base.call.id, session ∈ (joinedState env base req).sessions := by
    intro session member
    rcases wrote with same | new
    · rw [unchanged same] at member
      exact (joinedState_sessions joins.absent session).mpr (.inl member)
    · rwa [inserted new] at member
  have joined : Heeds (named.present after base.call.id) (joinedState env base req).call (joinedState env base req).sessions := by
    refine joins.heeds.join joins.absent joins.noReturn fun userID isNamed => ?_
    obtain ⟨was, session, member, user⟩ := Named.present_eq_some.mp isNamed
    exact ⟨was, session, grows session member, user⟩
  have here : Heeds (named.present after base.call.id) (joinedState env base req).call (after.callSessions base.call.id) :=
    joined.mono rfl rfl (fun _ isNamed => isNamed) fun _ ⟨session, member, user⟩ => ⟨session, grows session member, user⟩
  have next (left : CallState) (isNext : next = some left) : left.call.id = base.call.id ∧
      left.sessions = after.callSessions base.call.id ∧ Heeds (named.present after base.call.id) left.call left.sessions := by
    rcases nextHeeds left isNext with ⟨same, held, leftID⟩ | ⟨new, leftCall, leftSessions⟩
    · refine ⟨leftID, ?_, held.heeds.mono rfl rfl (fun userID isNamed => ?_) fun _ present => present⟩
      · rw [held.sessions, leftID, Store.callSessions_congr same]
      · rw [leftID]
        exact (Named.present_eq_some.mp isNamed).1
    · refine ⟨?_, leftSessions.trans (inserted new).symm, ?_⟩
      · rw [leftCall, sameID]
      · rw [leftCall, leftSessions]
        exact joined
  rcases joins.written with ⟨held, saved⟩ | ⟨channel, created⟩
  · exact .saved heeds held sameID saved elsewhere owned (fun _ _ => rfl) here next
  · rw [← sameID] at elsewhere owned here next
    exact .created heeds created channel elsewhere owned here next

end

section
variable {named : Named} {env : Env} {channelID : String} {req : JoinRequest} {state next : Option CallState}
variable {before middle after : Store}

theorem JoinEffect.heeds {result : Except String CallState} (effect : JoinEffect env channelID state req before result after)
    (heeds : before.Heeds named) (held : ∀ cs, state = some cs → cs.HeedsIn named before channelID)
    (noReturn : ∀ cs, state = some cs → checkJoin env cs req = .ok () → cs.call.props.hostLockedUserID = req.userID →
      ∀ userID, named cs.call.id = some userID → userID = req.userID) :
    ItemHeeds named named channelID before after (match result with | .error _ => state | .ok cs => some cs) := by
  cases effect with
  | refused calls sessions => exact .unchanged heeds calls sessions held
  | callOnly found checked planned written same refusal =>
    refine (Joins.of_written heeds held noReturn found checked planned written).item heeds (.inl same) fun left isNext => ?_
    subst isNext
    have reused := Except.ok.inj found
    exact .inl ⟨same, held left rfl, by rw [← reused]⟩
  | joined found checked planned written inserted sameCall sameSessions jobsValid =>
    refine (Joins.of_written heeds held noReturn found checked planned written).item heeds (.inr inserted) fun left isNext => ?_
    cases isNext
    exact .inr ⟨inserted, sameCall, sameSessions⟩

/-- Two items one after the other, the second of which adds no session. -/
theorem ItemHeeds.trans {between : Option CallState} (first : ItemHeeds named named channelID before middle between)
    (second : ItemHeeds (named.present middle) (named.present middle) channelID middle after next)
    (sessions : after.sessions = middle.sessions) : ItemHeeds named named channelID before after next := by
  have same : (named.present middle).present after = named.present after := by
    funext callID
    refine Option.ext fun userID => ?_
    simp only [Named.present_eq_some, Store.callSessions_congr sessions]
    exact ⟨fun ⟨⟨isNamed, _⟩, present⟩ => ⟨isNamed, present⟩, fun ⟨isNamed, present⟩ => ⟨⟨isNamed, present⟩, present⟩⟩
  refine ⟨same ▸ second.store, fun cs isNext => same ▸ second.next cs isNext, fun cs other away held => ?_⟩
  rw [← same]
  exact second.frame cs other away (first.frame cs other away held)

theorem AddEffect.heeds (effect : AddEffect env channelID state req before next after)
    (heeds : before.Heeds named) (held : ∀ cs, state = some cs → cs.HeedsIn named before channelID)
    (noReturn : ∀ cs, state = some cs → checkJoin env cs req = .ok () → cs.call.props.hostLockedUserID = req.userID →
      ∀ userID, named cs.call.id = some userID → userID = req.userID) :
    ItemHeeds named named channelID before after next := by
  cases effect with
  | failed effect => exact effect.heeds heeds held noReturn
  | joined effect later => exact effect.heeds heeds held noReturn
  | @started entered announced middle _ postID threadID effect first changed same wrote =>
    have item := effect.heeds heeds held noReturn
    have enteredHeeds : entered.HeedsIn (named.present middle) middle channelID := item.next entered rfl
    have announcedHeeds : announced.HeedsIn (named.present middle) middle channelID := by
      rw [changed]
      exact ⟨enteredHeeds.row, enteredHeeds.sessions, enteredHeeds.heeds.named, enteredHeeds.heeds.locked⟩
    refine item.trans ?_ same
    rcases wrote with unsaved | saved
    · refine .unchanged item.store unsaved same fun cs held => ?_
      cases held
      exact announcedHeeds
    · have still := (announcedHeeds.heeds.mono rfl rfl
        (fun userID isNamed => (Named.present_eq_some.mp isNamed).1) fun _ present => present :
          Heeds ((named.present middle).present after announced.call.id) announced.call announced.sessions)
      refine .saved item.store announcedHeeds rfl saved (fun _ _ => Store.callSessions_congr same _)
        (fun session member => .inr ⟨session, same ▸ member, rfl⟩) (fun _ _ => rfl) ?_ fun left isNext => ?_
      · rw [Store.callSessions_congr same, ← announcedHeeds.sessions]
        exact still
      · cases isNext
        exact ⟨rfl, by rw [Store.callSessions_congr same]; exact announcedHeeds.sessions, still⟩

end

/-! ### Leaves -/

section
variable {named : Named} {env : Env} {channelID : String} {ref : SessionRef} {us : CallSession}

theorem Heeds.leave {named later : Option String} {call : Call} {sessions remaining : SessionMap}
    (heeds : Heeds named call sessions) (remains : ∀ session ∈ remaining, session ∈ sessions)
    (weaker : ∀ userID, later = some userID → named = some userID ∧ ∃ session ∈ remaining, session.userID = userID) :
    Heeds later (call.afterLeave env ref us remaining) remaining := by
  have locked := Call.afterLeave_locked env ref us remaining call
  by_cases empty : remaining.size = 0
  · have nobody (userID : String) : ¬ ∃ session ∈ remaining, session.userID = userID :=
      fun ⟨session, member, _⟩ => KeyedTable.size_ne_zero_of_mem member empty
    exact ⟨fun userID isNamed => absurd (weaker userID isNamed).2 (nobody userID), fun _ present => absurd present (nobody _)⟩
  · have users (userID : String) (present : ∃ session ∈ remaining, session.userID = userID) :
        ∃ session ∈ sessions, session.userID = userID := by
      obtain ⟨session, member, user⟩ := present
      exact ⟨session, remains session member, user⟩
    rcases Call.afterLeave_host env ref us call empty with host | ⟨host, -⟩
    · exact heeds.elected host locked weaker fun present => .inl (users _ present)
    · exact heeds.mono host locked (fun userID isNamed => (weaker userID isNamed).1) users

theorem SessionDeleted.remains {before : World} {cs : CallState} {left : LockedCall}
    (deleted : SessionDeleted ref ⟨before, cs⟩ left) (session : CallSession) (remains : session ∈ left.state.sessions) :
    session ∈ cs.sessions := by
  rw [deleted.memory, KeyedTable.mem_erase] at remains
  exact remains.1

/-- The session is deleted, and the row of its call is saved or left as it is. -/
theorem ItemHeeds.deleted {before : World} {cs : CallState} {left : LockedCall} (heeds : before.store.Heeds named)
    (held : cs.HeedsIn named before.store channelID) (found : cs.sessions.find? ref.originalConnID = some us)
    (deleted : SessionDeleted ref ⟨before, cs⟩ left) (sameID : left.state.call.id = cs.call.id)
    (leaves : ∀ later : Option String, (∀ userID, later = some userID →
        named cs.call.id = some userID ∧ ∃ session ∈ left.state.sessions, session.userID = userID) →
      Heeds later left.state.call left.state.sessions)
    (wrote : left.world.store.calls = before.store.calls ∨
      left.world.store.calls = (before.store.saveCall left.state.call).calls) :
    ItemHeeds named named channelID before.store left.world.store (some left.state) := by
  obtain ⟨here, elsewhere⟩ := deleted.callSessions held.sessions found
  have owned : ∀ session ∈ left.world.store.sessions,
      session.callID = cs.call.id ∨ ∃ old ∈ before.store.sessions, old.callID = session.callID := by
    intro session member
    rw [deleted.store, KeyedTable.mem_erase] at member
    exact .inr ⟨session, member.1, rfl⟩
  have leaves : Heeds (named.present left.world.store cs.call.id) left.state.call left.state.sessions := by
    refine leaves _ fun userID isNamed => ?_
    rw [Named.present_eq_some, here] at isNamed
    exact isNamed
  have next (other : CallState) (isNext : some left.state = some other) : other.call.id = cs.call.id ∧
      other.sessions = left.world.store.callSessions cs.call.id ∧
      Heeds (named.present left.world.store cs.call.id) other.call other.sessions := by
    cases isNext
    exact ⟨sameID, here.symm, leaves⟩
  rcases wrote with calls | calls
  · refine .sessionsOnly heeds held calls elsewhere owned (fun userID ⟨session, member, user⟩ => ?_) next
    rw [here] at member
    rw [← held.sessions]
    exact ⟨session, deleted.remains session member, user⟩
  · rw [← here] at leaves
    exact .saved heeds held sameID calls elsewhere owned (fun _ _ => rfl) leaves next

theorem LeaveEffect.heeds {before after : World} {state next : Option CallState}
    (effect : LeaveEffect env ref before state next after) (heeds : before.store.Heeds named)
    (held : ∀ cs, state = some cs → cs.HeedsIn named before.store channelID) :
    ItemHeeds named named channelID before.store after.store next := by
  cases effect with
  | nothing => exact .unchanged heeds rfl rfl held
  | @removed cs ended left effect =>
    have heldIn := held cs rfl
    cases effect with
    | absent => exact .unchanged heeds rfl rfl held
    | undeleted => exact .unchanged heeds rfl rfl held
    | @jobUnsaved err us _ found deleted calls call =>
      obtain ⟨hosts, locked⟩ := Call.withoutMedia_host env us cs.call
      have sameID : (cs.call.withoutMedia env us).id = cs.call.id :=
        Call.id_eq_of_identity (Call.withoutMedia_kept env us cs.call).1
      refine .deleted heeds heldIn found deleted (by rw [call]; exact sameID) (fun later weaker => ?_) (.inl calls)
      refine heldIn.heeds.mono ?_ ?_ (fun userID isNamed => (weaker userID isNamed).1) fun userID ⟨session, member, user⟩ =>
        ⟨session, deleted.remains session member, user⟩
      · rw [call, Call.getHostID, hosts, Call.getHostID]
      · rw [call]
        exact locked
    | @callUnsaved err us _ found deleted calls call =>
      refine .deleted heeds heldIn found deleted ?_ (fun later weaker => ?_) (.inl calls)
      · rw [call]
        exact Call.id_eq_of_identity (Call.afterLeave_kept env ref us _ cs.call).1
      · rw [call]
        exact heldIn.heeds.leave deleted.remains weaker
    | @saved us _ found deleted calls call =>
      refine .deleted heeds heldIn found deleted ?_ (fun later weaker => ?_) (.inr calls)
      · rw [call]
        exact Call.id_eq_of_identity (Call.afterLeave_kept env ref us _ cs.call).1
      · rw [call]
        exact heldIn.heeds.leave deleted.remains weaker

end

/-! ### Requests of their own -/

section
variable {named renamed : Named} {channelID : String} {before after : Store} {cs : CallState}

theorem Store.Loads.heeds (loads : before.Loads channelID (some cs)) (heeds : before.Heeds named) :
    cs.HeedsIn named before channelID := by
  obtain ⟨found, sessions, -⟩ := loads
  obtain ⟨member, channel, -⟩ := Store.activeCall?_eq_some found
  refine ⟨⟨cs.call, member, rfl, channel⟩, sessions, ?_⟩
  rw [sessions]
  exact heeds.rows cs.call member

theorem HostEffect.heeds {env : Env} {requesterID newHostID : String} {result : Except String Unit}
    (effect : HostEffect env requesterID channelID newHostID before result after) (heeds : before.Heeds named)
    (refused : result.isOk = false → renamed = named)
    (accepted : ∀ cs, before.Loads channelID (some cs) → result.isOk = true →
      renamed cs.call.id = some newHostID ∧ ∀ other, other ≠ cs.call.id → renamed other = named other) :
    ItemHeeds named renamed channelID before after none := by
  have names {cs : CallState} {call : Call} (renames : renamed cs.call.id = some newHostID)
      (changed : Heeds (some newHostID) call cs.sessions) : Heeds (renamed.present after cs.call.id) call cs.sessions := by
    refine changed.mono rfl rfl (fun userID isNamed => ?_) fun _ present => present
    rw [← renames]
    exact (Named.present_eq_some.mp isNamed).1
  cases effect with
  | refused =>
    rw [refused rfl]
    exact .unchanged heeds rfl rfl fun _ isNext => by cases isNext
  | @locked cs loads changes =>
    have held := loads.heeds heeds
    obtain ⟨renames, elsewhere⟩ := accepted cs loads rfl
    have member := (Store.activeCall?_eq_some loads.1).1
    refine .of_touches heeds (.of_same held.channel rfl (fun _ _ => rfl) fun session stored => .inr ⟨session, stored, rfl⟩)
      (KeyedTable.contains_iff.mpr ⟨cs.call, member, rfl⟩) elsewhere (fun row listed same => ?_) fun _ isNext => by cases isNext
    rw [KeyedTable.eq_of_key_eq listed member same, ← held.sessions]
    exact names renames (held.heeds.changed changes)
  | @changed cs call loads changes =>
    have held := loads.heeds heeds
    obtain ⟨renames, elsewhere⟩ := accepted cs loads rfl
    have sameID := Call.id_eq_of_identity (Call.changeHost_identity changes).1
    refine .saved heeds held sameID rfl (fun _ _ => rfl) (fun session stored => .inr ⟨session, stored, rfl⟩) elsewhere ?_
      fun _ isNext => by cases isNext
    rw [show (before.saveCall call).callSessions cs.call.id = cs.sessions from held.sessions.symm]
    exact names renames (held.heeds.changed changes)

theorem VideoEffect.heeds {env : Env} {us : UserSession} {msg : VideoMessage} {handlerID : String} {rtcSends : Bool}
    (effect : VideoEffect env us msg handlerID rtcSends before after) (heeds : before.Heeds named) : ItemHeeds named named us.channelID before after none := by
  have toggles {cs : CallState} {session : CallSession} (loads : before.Loads us.channelID (some cs))
      (found : cs.sessions.find? us.originalConnID = some session) :
      ∃ toggled : CallSession, ({ session with video := msg = .on } : CallSession) = toggled ∧
        (∀ other, other ≠ cs.call.id → (before.saveSession toggled).callSessions other = before.callSessions other) ∧
        (∀ row ∈ (before.saveSession toggled).sessions,
          row.callID = cs.call.id ∨ ∃ old ∈ before.sessions, old.callID = row.callID) ∧
        ∀ userID, (∃ row ∈ (before.saveSession toggled).callSessions cs.call.id, row.userID = userID) →
          ∃ row ∈ before.callSessions cs.call.id, row.userID = userID := by
    obtain ⟨member, -⟩ := KeyedTable.find?_eq_some_iff.mp found
    rw [loads.2.1, Store.mem_callSessions] at member
    refine ⟨_, rfl, fun other different => ?_, fun row listed => ?_, fun userID present => ?_⟩
    · exact Store.callSessions_saveSession_other member.1 rfl (fun same => different (same.symm.trans member.2))
    · rcases Store.mem_saveSession.mp listed with ⟨old, -⟩ | ⟨previous, old, -, rfl⟩
      · exact .inr ⟨row, old, rfl⟩
      · exact .inr ⟨previous, old, rfl⟩
    · rw [Store.callSessions_saveSession] at present
      refine (KeyedTable.exists_mem_modify ?_).mp present
      exact fun _ => Iff.rfl
  cases effect with
  | refused => exact .unchanged heeds rfl rfl fun _ isNext => by cases isNext
  | @sessionOnly cs session loads found broken =>
    obtain ⟨toggled, same, elsewhere, owned, users⟩ := toggles loads found
    rw [same]
    exact .sessionsOnly heeds (loads.heeds heeds) rfl elsewhere owned users fun _ isNext => by cases isNext
  | @toggled cs session _ loads found =>
    obtain ⟨toggled, same, elsewhere, owned, users⟩ := toggles loads found
    have held := loads.heeds heeds
    obtain ⟨hosts, locked⟩ := Call.toggleVideo_host env.now us.originalConnID cs.call msg
    have sameID := Call.id_eq_of_identity (Call.toggleVideo_identity env.now us.originalConnID cs.call msg).1
    rw [same]
    refine .saved heeds held sameID rfl elsewhere owned (fun _ _ => rfl) ?_ fun _ isNext => by cases isNext
    refine held.heeds.mono ?_ locked (fun userID isNamed => (Named.present_eq_some.mp isNamed).1) fun userID present => ?_
    · rw [Call.getHostID, hosts, Call.getHostID]
    · rw [held.sessions]
      exact users userID present

end

/-! ### Runs -/

/-- The store and all batches heed who was named. -/
structure NamedKept (state : Operations × Named) : Prop where
  store : state.1.world.store.Heeds state.2
  held : ∀ channelID batch cs, state.1.held.get? channelID = some batch → batch.state = some cs →
    cs.HeedsIn state.2 state.1.world.store channelID

namespace NamedKept

variable {ops : Operations} {named renamed : Named} {channelID : String}

theorem hold (inv : NamedKept (ops, named)) {kind : BatchKind} {next : Option CallState} {world : World}
    (item : ItemHeeds named renamed channelID ops.world.store world.store next) :
    NamedKept (ops.holdBatch channelID kind next world, renamed.present world.store) := by
  refine ⟨item.store, fun other batch cs found loaded => ?_⟩
  rcases Operations.holdBatch_cases found with ⟨here, rfl⟩ | ⟨elsewhere, found⟩
  · rw [here]
    exact item.next cs loaded
  · exact item.frame cs other elsewhere (inv.held other batch cs found loaded)

theorem request (inv : NamedKept (ops, named)) {world : World} (free : ops.held.contains channelID = false)
    (item : ItemHeeds named renamed channelID ops.world.store world.store none) :
    NamedKept ({ ops with world }, renamed.present world.store) := by
  refine ⟨item.store, fun other batch cs found loaded => ?_⟩
  exact item.frame cs other (StringMap.ne_of_not_contains free found) (inv.held other batch cs found loaded)

/-- Whoever is named is there. -/
theorem present (inv : NamedKept (ops, named)) : named.present ops.world.store = named := by
  funext callID
  refine Option.ext fun userID => ?_
  rw [Named.present_eq_some]
  exact ⟨And.left, fun isNamed => ⟨isNamed, inv.store.present callID userID isNamed⟩⟩

theorem step {step : CallStep} {after : Operations} (inv : NamedKept (ops, named)) (allowed : NoLockedReturn (ops, named) step)
    (taken : ops.call? step = some after) :
    NamedKept (after, (nameHost named ops step).present after.world.store) := by
  cases step with
  | changeHost env requesterID channelID newHostID =>
    obtain ⟨free, rfl⟩ := Operations.request_eq_some taken
    have effect : HostEffect env requesterID channelID newHostID ops.world.store _ _ :=
      changeHost_spec env requesterID channelID newHostID ops.world
    refine inv.request free (effect.heeds inv.store (fun refused => ?_) fun cs loads accepted => ⟨?_, fun other different => ?_⟩)
    · funext callID
      simp only [nameHost, refused]
      exact if_neg fun named => absurd named.1 Bool.false_ne_true
    · simp only [nameHost, accepted, loads.1]
      exact if_pos ⟨trivial, rfl⟩
    · simp only [nameHost, loads.1]
      exact if_neg fun named => different (Option.some.inj named.2).symm
  | video env us msg handlerID rtcSends =>
    obtain ⟨free, rfl⟩ := Operations.request_eq_some taken
    have effect : VideoEffect env us msg handlerID rtcSends ops.world.store _ :=
      handleClientMessageTypeVideo_spec env us msg handlerID rtcSends ops.world
    exact inv.request free (effect.heeds inv.store)
  | operation step =>
    have effect := Operations.next?_effect taken
    cases effect with
    | @notLocked env channelID kind _ =>
      have same : (nameHost named ops (.operation (.lock env channelID kind))).present ops.world.store = named := inv.present
      rwa [same]
    | @locked env channelID kind state free loads =>
      refine inv.hold (.unchanged inv.store rfl rfl fun cs held => ?_)
      subst held
      exact loads.heeds inv.store
    | @joined env channelID req state next world running effect keepsJobs =>
      have found := Operations.batch?_eq_some running
      refine inv.hold (effect.heeds inv.store (fun cs held => inv.held _ _ cs found held) fun cs held checked => ?_)
      subst held
      exact allowed env channelID req cs rfl running checked
    | @left env channelID ref state next world running effect =>
      have found := Operations.batch?_eq_some running
      exact inv.hold (effect.heeds inv.store fun cs held => inv.held _ _ cs found held)
    | @released channelID =>
      have same : (nameHost named ops (.operation (.unlock channelID))).present ops.world.store = named := inv.present
      refine ⟨same.symm ▸ inv.store, fun other batch cs found loaded => ?_⟩
      rw [StringMap.get?_erase] at found
      split at found
      · cases found
      · exact same.symm ▸ inv.held other batch cs found loaded

end NamedKept

/-- As long as nobody comes back whom the host was locked to before, the user who was named stays the host. -/
theorem namedIsHost_of_noLockedReturn (ids : Identities) (state : Operations × Named)
    (reached : ((namedHosts ids).restrict NoLockedReturn).Reachable state) : NamedIsHost state := by
  have kept : NamedKept state := by
    refine System.Reachable.invariant_of_allowed ?_ ?_ reached
    · intro facts both
      obtain ⟨ops, named⟩ := facts
      obtain ⟨rfl, rfl⟩ := both
      refine ⟨⟨fun _ member => absurd member KeyedTable.not_mem_empty, fun _ member => absurd member KeyedTable.not_mem_empty,
        fun _ _ isNamed => by cases isNamed⟩, fun _ _ _ found => by cases found⟩
    · intro state step next inv allowed taken
      obtain ⟨ops, named⟩ := state
      obtain ⟨after, renamed⟩ := next
      obtain ⟨taken, renames⟩ := System.observed_next?.mp taken
      dsimp only at taken renames
      rw [renames]
      unfold callRuns at taken
      dsimp only at taken
      split at taken
      · exact inv.step allowed taken
      · cases taken
  exact fun call member => (kept.store.rows call member).named

/-- Whether the user who joins is not one the host was locked to before somebody else was named. -/
def noLockedReturn (state : Operations × Named) : CallStep → Bool
  | .operation (.join _ channelID req) =>
    match state.1.batch? channelID .joining with
    | some (some cs) => cs.call.props.hostLockedUserID ≠ req.userID ∨ (state.2 cs.call.id).all (· = req.userID)
    | _ => true
  | _ => true

theorem noLockedReturn_sound {state : Operations × Named} {step : CallStep} (checked : noLockedReturn state step = true) :
    NoLockedReturn state step := by
  intro env channelID req cs same running _ isLocked userID isNamed
  obtain rfl := same
  simp only [noLockedReturn, running, isNamed, isLocked, Option.all_some, decide_eq_true_eq] at checked
  exact checked.resolve_left fun different => different rfl

def bobReturns : List CallStep :=
  [.operation (.lock (.quiet 5000 "") "channel" .joining),
    .operation (.join (.quiet 5001 "") "channel" (.plain "bob" "conn-2" "")),
    .operation (.unlock "channel")]

def aliceLeavesCall : List CallStep :=
  [.operation (.lock (.quiet 3000 "") "channel" .leaving),
    .operation (.leave (.quiet 3001 "") "channel" { userID := "alice", originalConnID := "conn-1", connID := "conn-1" }),
    .operation (.unlock "channel")]

theorem namedIsHost_of_aliceLeaves :
    ∃ state, (namedHosts twoUsers).run? (.idle, fun _ => none) (twoUsersJoin ++ bobBecomesHost :: aliceLeavesCall) = some state ∧
      state.2 "call" = some "bob" ∧ NamedIsHost state := by
  have computed : ((namedHosts twoUsers).run? (.idle, fun _ => none) (twoUsersJoin ++ bobBecomesHost :: aliceLeavesCall)).map
      (fun state => state.2 "call") = some (some "bob") := by decide
  obtain ⟨state, ran, isNamed⟩ := Option.map_eq_some_iff.mp computed
  have meets : (namedHosts twoUsers).MeetsAlong NoLockedReturn (.idle, fun _ => none)
      (twoUsersJoin ++ bobBecomesHost :: aliceLeavesCall) :=
    .of_check (show (namedHosts twoUsers).checkAlong noLockedReturn _ _ = true by decide) fun _ _ _ => noLockedReturn_sound
  have start : ((namedHosts twoUsers).restrict NoLockedReturn).Reachable (.idle, fun _ => none) := .init ⟨rfl, rfl⟩
  exact ⟨state, ran, isNamed, namedIsHost_of_noLockedReturn twoUsers state (start.restrict_run meets ran)⟩

def aliceIsNamed : CallStep := .changeHost (.quiet 4000 "") "alice" "channel" "alice"

/-- The host is locked to a user who has left. Naming the host of now does not change
the lock, and the user who comes back is the host again. -/
theorem not_namedIsHost : ¬ ∀ ids state, (namedHosts ids).Reachable state → NamedIsHost state := by
  intro isHost
  have computed : ((namedHosts twoUsers).run? (.idle, fun _ => none)
      (twoUsersJoin ++ bobBecomesHost :: bobLeaves ++ aliceIsNamed :: bobReturns)).map (fun state =>
        (state.1.world.store.calls.rows.map fun call => (call.id, call.getHostID), state.2 "call")) =
      some ([("call", "bob")], some "alice") := by decide +kernel
  obtain ⟨state, ran, shape⟩ := Option.map_eq_some_iff.mp computed
  simp only [Prod.mk.injEq] at shape
  obtain ⟨calls, isNamed⟩ := shape
  obtain ⟨call, member, same⟩ := KeyedTable.exists_of_rows_map calls (List.mem_singleton.mpr rfl)
  simp only [Prod.mk.injEq] at same
  obtain ⟨named, host⟩ := same
  rw [← named] at isNamed
  have start : (namedHosts twoUsers).Reachable (.idle, fun _ => none) := .init ⟨rfl, rfl⟩
  have alice := isHost twoUsers state (start.run ran) call member "alice" isNamed
  rw [host] at alice
  exact absurd alice (by decide)

end Calls
