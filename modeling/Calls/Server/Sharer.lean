import Calls.Server.ScreenProperties

/-! The session that shares its screen is in the call, as long as no message to
start sharing is handled after its session has left. -/

set_option autoImplicit false

namespace Calls

open Command

/-- The screen of a call is free, or it is shared by one of the sessions of the call. -/
def Store.SharerPresent (store : Store) : Prop :=
  ∀ row ∈ store.calls, row.sharer = "" ∨
    ∃ session ∈ store.sessions, session.id = row.sharer ∧ session.callID = row.id

theorem sharer_peopleBlind : PeopleBlind Call.sharer := fun _ _ same => same.sharing

/-! ### Joins -/

theorem AddEffect.sharerPresent {env : Env} {channelID : String} {state next : Option CallState} {req : JoinRequest}
    {before after : Store} (effect : AddEffect env channelID state req before next after)
    (evolve : CallsEvolve Call.sharer (fun _ _ => False) before.calls after.calls) (present : before.SharerPresent) :
    after.SharerPresent := by
  intro row member
  rcases evolve.rows row member with ⟨previous, old, identity, same | changed⟩ | ⟨⟨fresh, unused, same⟩, -⟩
  · rw [same, Call.id_eq_of_identity identity]
    rcases present previous old with free | ⟨session, stored, sharing⟩
    · exact .inl free
    · exact .inr ⟨session, effect.sessions_grow session stored, sharing⟩
  · exact changed.elim
  · exact .inl (same.trans unused.sharing)

/-! ### Leaves -/

theorem Call.stopScreen_sharer (env : Env) (sessionID : String) (call : Call) :
    (call.stopScreen env sessionID).sharer = if call.sharer = sessionID then "" else call.sharer := by
  unfold stopScreen sharer
  by_cases sharing : call.props.screenSharingSessionID = sessionID
  · rw [if_neg (not_not_intro sharing), if_pos sharing]
    dsimp only
    split <;> rfl
  · rw [if_pos sharing, if_neg sharing]

theorem Call.stopVideo_sharer (env : Env) (sessionID : String) (call : Call) :
    (call.stopVideo env sessionID).sharer = call.sharer := by
  unfold stopVideo
  split
  · rfl
  · split <;> rfl

theorem Call.withoutMedia_sharer (env : Env) (us : CallSession) (call : Call) :
    (call.withoutMedia env us).sharer = if call.sharer = us.id then "" else call.sharer := by
  rw [← stopScreen_sharer env us.id call]
  unfold withoutMedia
  split
  · exact stopVideo_sharer env us.id _
  · rfl

theorem Call.afterLeave_sharer (env : Env) (ref : SessionRef) (us : CallSession) (sessions : SessionMap) (call : Call) :
    (call.afterLeave env ref us sessions).sharer = if call.sharer = us.id then "" else call.sharer := by
  have host := Call.electOnLeave_same env ref.userID sessions (call.withoutMedia env us)
  rw [← withoutMedia_sharer env us call]
  unfold afterLeave finishIfEmpty
  split
  · exact host.sharing
  · exact host.sharing

/-- A removal of the session that shares its screen is not broken off between its writes. -/
def SharerSaved (env : Env) (ref : SessionRef) (state : Option CallState) : Prop :=
  ∀ cs, state = some cs → cs.call.sharer = ref.originalConnID → cs.sessions.contains ref.originalConnID = true →
    env.faults (.deleteCallSession ref.originalConnID) = false → env.WritesWork

section
variable {env : Env} {channelID : String} {ref : SessionRef} {before : World} {held : CallState} {us : CallSession}
variable {left : LockedCall}

/-- The session of a row is still there when it is not the one that left. -/
theorem SessionDeleted.sharerPresent (deleted : SessionDeleted ref ⟨before, held⟩ left)
    (synced : held.Synced Call.sharer before.store channelID)
    (found : held.sessions.find? ref.originalConnID = some us) {row : Call} (member : row ∈ before.store.calls)
    (other : row.id = held.call.id → held.call.sharer ≠ ref.originalConnID)
    (present : row.sharer = "" ∨ ∃ session ∈ before.store.sessions, session.id = row.sharer ∧ session.callID = row.id) :
    row.sharer = "" ∨ ∃ session ∈ left.world.store.sessions, session.id = row.sharer ∧ session.callID = row.id := by
  rcases present with free | ⟨session, stored, sharing, ofRow⟩
  · exact .inl free
  · refine .inr ⟨session, ?_, sharing, ofRow⟩
    by_cases ofCall : session.callID = held.call.id
    · obtain ⟨kept, keptMember, -, identity, same⟩ := synced.row
      have ofHeld := ofRow.symm.trans ofCall
      have sameRow : row = kept :=
        KeyedTable.eq_of_key_eq member keptMember (ofHeld.trans (Call.id_eq_of_identity identity).symm)
      have remains : session.id ≠ ref.originalConnID := by
        rw [sharing, sameRow, same]
        exact other ofHeld
      rw [deleted.store, KeyedTable.mem_erase]
      exact ⟨stored, remains⟩
    · exact (deleted.elsewhere synced found session ofCall).mpr stored

/-- A removal that fails half-way, not being one of the sharer, agrees with the store. -/
theorem SessionDeleted.unsaved (deleted : SessionDeleted ref ⟨before, held⟩ left)
    (synced : held.Synced Call.sharer before.store channelID)
    (found : held.sessions.find? ref.originalConnID = some us) (valid : before.store.CallsValid)
    (calls : left.world.store.calls = before.store.calls) (identity : left.state.call.identity = held.call.identity)
    (same : left.state.call.sharer = held.call.sharer) :
    ItemSynced Call.sharer (LeftBy Call.sharer env ref (some held)) channelID before.store left.world.store
      (some left.state) := by
  refine ⟨by rwa [Store.CallsValid, calls], deleted.frame synced found fun row member _ => by rwa [calls], ?_,
    by rw [calls]; exact .refl _⟩
  intro cs kept
  cases kept
  obtain ⟨row, member, channel, rowIdentity, seen⟩ := synced.row
  refine ⟨(Call.isValid_congr identity).trans synced.valid, deleted.jobsValid synced.jobs,
    ⟨row, by rwa [calls], channel, rowIdentity.trans identity.symm, seen.trans same.symm⟩, ?_⟩
  rw [show left.state.call.id = held.call.id from congrArg Prod.fst identity]
  exact deleted.remaining synced

/-- A leave keeps the sharer of every call in it, whatever fails, if the writes
of the sharer's own leave do not. -/
theorem LeaveEffect.sharer {state next : Option CallState} {after : World}
    (effect : LeaveEffect env ref before state next after) (saved : SharerSaved env ref state)
    (valid : before.store.CallsValid) (present : before.store.SharerPresent)
    (synced : ∀ cs, state = some cs → cs.Synced Call.sharer before.store channelID) :
    ItemSynced Call.sharer (LeftBy Call.sharer env ref state) channelID before.store after.store next ∧
      after.store.SharerPresent := by
  cases effect with
  | nothing => exact ⟨.unchanged valid rfl rfl synced, present⟩
  | @removed held ended left effect =>
    have kept := synced held rfl
    cases effect with
    | absent => exact ⟨.unchanged valid rfl rfl synced, present⟩
    | undeleted => exact ⟨.unchanged valid rfl rfl synced, present⟩
    | @jobUnsaved err us _ found deleted calls call posts deletes broken =>
      have other : held.call.sharer ≠ ref.originalConnID := fun sharing =>
        broken ⟨saved held rfl sharing (by simp [KeyedTable.contains, found]) deletes, kept.jobs⟩
      have same : left.state.call.sharer = held.call.sharer := by
        rw [call, Call.withoutMedia_sharer, (KeyedTable.find?_eq_some_iff.mp found).2, if_neg other]
      have identity : left.state.call.identity = held.call.identity := by
        rw [call]
        exact (Call.withoutMedia_kept env us held.call).1
      refine ⟨deleted.unsaved kept found valid calls identity same, fun row member => ?_⟩
      rw [calls] at member
      exact deleted.sharerPresent kept found member (fun _ => other) (present row member)
    | @callUnsaved err us _ found deleted calls call posts deletes broken =>
      have identity : left.state.call.identity = held.call.identity := by
        rw [call]
        exact (Call.afterLeave_kept env ref us left.state.sessions held.call).1
      have other : held.call.sharer ≠ ref.originalConnID := fun sharing =>
        broken ⟨saved held rfl sharing (by simp [KeyedTable.contains, found]) deletes,
          (Call.isValid_congr identity).trans kept.valid⟩
      have same : left.state.call.sharer = held.call.sharer := by
        rw [call, Call.afterLeave_sharer, (KeyedTable.find?_eq_some_iff.mp found).2, if_neg other]
      refine ⟨deleted.unsaved kept found valid calls identity same, fun row member => ?_⟩
      rw [calls] at member
      exact deleted.sharerPresent kept found member (fun _ => other) (present row member)
    | @saved us _ found deleted wrote call posts =>
      have leave : WorkingLeave env ref before (some held) (some left.state) left.world :=
        .saved found deleted wrote call (deleted.jobsValid kept.jobs)
      have named := (KeyedTable.find?_eq_some_iff.mp found).2
      have identity := (Call.afterLeave_kept env ref us left.state.sessions held.call).1
      rw [← call] at identity
      have sameID : left.state.call.id = held.call.id := congrArg Prod.fst identity
      refine ⟨leave.synced sharer_peopleBlind valid synced, fun row member => ?_⟩
      rw [wrote, Store.mem_saveCall] at member
      rcases member with ⟨old, away⟩ | ⟨previous, old, hit, rfl⟩
      · exact deleted.sharerPresent kept found old (fun here => absurd (here.trans sameID.symm) away) (present row old)
      · have after : (previous.updatedFrom left.state.call).sharer = left.state.call.sharer := rfl
        rw [after, call, Call.afterLeave_sharer, named, Call.updatedFrom_id]
        split
        · exact .inl rfl
        · next other =>
          obtain ⟨row, rowMember, -, rowIdentity, same⟩ := kept.row
          have sameRow : previous = row :=
            KeyedTable.eq_of_key_eq old rowMember ((hit.trans sameID).trans (Call.id_eq_of_identity rowIdentity).symm)
          have seen : previous.sharer = held.call.sharer := by rw [sameRow]; exact same
          rw [← seen]
          exact deleted.sharerPresent kept found old (fun _ => other) (present previous old)

end

/-! ### Messages -/

theorem Call.toggleScreen_sharer {now : Instant} {sessionID : String} {call toggled : Call} {msg : ScreenMessage}
    (accepted : call.toggleScreen now sessionID msg = .ok toggled) :
    toggled.sharer = "" ∨ (msg = .on ∧ call.sharer = "" ∧ toggled.sharer = sessionID) := by
  cases msg with
  | on =>
    simp only [toggleScreen] at accepted
    split at accepted
    · cases accepted
    · next free => cases accepted; exact .inr ⟨rfl, not_not.mp free, rfl⟩
  | off =>
    simp only [toggleScreen] at accepted
    split at accepted
    · cases accepted
    · split at accepted <;> cases accepted <;> exact .inl rfl

theorem Call.toggleScreen_host {now : Instant} {sessionID : String} {call toggled : Call} {msg : ScreenMessage}
    (accepted : call.toggleScreen now sessionID msg = .ok toggled) :
    toggled.getHostID = call.getHostID ∧ (msg = .on → toggled.props.screenSharingSessionID = sessionID) ∧
      (msg = .off → call.props.screenSharingSessionID = sessionID ∧ toggled.props.screenSharingSessionID = "") := by
  cases msg with
  | on =>
    simp only [toggleScreen] at accepted
    split at accepted
    · cases accepted
    · cases accepted
      exact ⟨rfl, fun _ => rfl, by simp⟩
  | off =>
    simp only [toggleScreen] at accepted
    split at accepted
    · cases accepted
    · next same =>
      split at accepted <;> cases accepted <;> exact ⟨rfl, by simp, fun _ => ⟨not_not.mp same, rfl⟩⟩

theorem Call.toggleScreen_on (now : Instant) (sessionID : String) {call : Call} (free : call.sharer = "") :
    ∃ toggled, call.toggleScreen now sessionID .on = .ok toggled := by
  unfold sharer at free
  simp [toggleScreen, free]

/-- A message that takes the free screen of a call is one of a session in the call. -/
def TakerPresent (env : Env) (us : UserSession) (store : Store) : Prop :=
  ∀ cs, env.config.allowScreenSharing = some true → env.Serves us.channelID cs.call.id →
    store.Loads us.channelID (some cs) → cs.call.sharer = "" → env.faults (.updateCall cs.call.id) = false →
    cs.sessions.contains us.originalConnID = true

theorem ScreenEffect.sharerPresent {env : Env} {us : UserSession} {msg : ScreenMessage} {before after : Store}
    {result : Except String Unit} (effect : ScreenEffect env us msg before result after)
    (taker : msg = .on → TakerPresent env us before) (present : before.SharerPresent) : after.SharerPresent := by
  cases effect with
  | refused => exact present
  | @toggled _ cs toggled toggles =>
    have sameID : toggled.id = cs.call.id := congrArg Prod.fst (Call.toggleScreen_identity toggles.accepted).1
    intro row member
    rw [Store.mem_saveCall] at member
    rcases member with ⟨old, -⟩ | ⟨previous, old, hit, rfl⟩
    · exact present row old
    · have after : (previous.updatedFrom toggled).sharer = toggled.sharer := rfl
      rw [after]
      rcases Call.toggleScreen_sharer toggles.accepted with free | ⟨on, free, taken⟩
      · exact .inl free
      · have found := taker on cs toggles.allowed toggles.serves toggles.loads free (by rw [← sameID]; exact toggles.saves)
        obtain ⟨session, held, named⟩ := KeyedTable.contains_iff.mp found
        rw [toggles.loads.2.1, Store.mem_callSessions] at held
        exact .inr ⟨session, held.1, named.trans taken.symm, held.2.trans (sameID.symm.trans hit.symm)⟩

/-! ### Runs -/

/-- Nobody takes the screen of a call, or keeps it, without being in the call. -/
def SharerStays (readers : Readers) : ReaderStep → Prop
  | .operation (.leave env channelID ref) =>
    ∀ state, readers.ops.batch? channelID .leaving = some state → SharerSaved env ref state
  | .read env us .on _ => TakerPresent env us readers.ops.world.store
  | _ => True

structure SharerInvariant (readers : Readers) : Prop where
  synced : SyncedInvariant Call.sharer readers.ops
  present : readers.ops.world.store.SharerPresent

theorem SharerInvariant.step {before after : Readers} {step : ReaderStep} (inv : SharerInvariant before)
    (stays : SharerStays before step) (effect : before.Effect step after) : SharerInvariant after := by
  cases effect with
  | posted => exact ⟨inv.synced, inv.present⟩
  | @read env us msg _ _ _ queued free effect =>
    have taker : msg = .on → TakerPresent env us before.ops.world.store := by
      intro on
      subst on
      exact stays
    exact ⟨(inv.synced.read free effect).1, effect.sharerPresent taker inv.present⟩
  | operation effect =>
    obtain ⟨synced, evolve⟩ := inv.synced.step_of_leave sharer_peopleBlind effect <| by
      intro env channelID ref state next world leaving running left held
      subst leaving
      exact (left.sharer (stays state running) inv.synced.valid inv.present held).1
    refine ⟨synced, ?_⟩
    cases effect with
    | notLocked => exact inv.present
    | locked free loads => exact inv.present
    | joined running effect keepsJobs => exact effect.sharerPresent evolve inv.present
    | left running effect =>
      have found := Operations.batch?_eq_some running
      have held := fun cs loaded => inv.synced.held _ _ cs found loaded
      exact (effect.sharer (stays _ running) inv.synced.valid inv.present held).2
    | released => exact inv.present

/-- Joins, leaves and messages from a store whose screens are shared by sessions of their calls. -/
def sharingReaders : System Readers ReaderStep :=
  screenSharing fun store => store.CallsValid ∧ store.JobsValid ∧ store.SharerPresent

theorem sharerInvariant_of_reachable {readers : Readers}
    (reached : (sharingReaders.restrict SharerStays).Reachable readers) : SharerInvariant readers := by
  refine System.Reachable.invariant_of_allowed ?_ ?_ reached
  · intro readers ⟨unheld, ⟨valid, jobs, present⟩, _, _⟩
    refine ⟨⟨valid, jobs, fun channelID batch cs found => ?_⟩, present⟩
    rw [unheld] at found
    cases found
  · exact fun before step after inv stays taken => inv.step stays (Readers.next?_effect taken)

/-- The sharer of an ongoing call is in it; and when no session of the call
shares its screen, a message of one of them to start sharing is accepted. -/
structure SharerInCall (readers : Readers) : Prop where
  present : ∀ row ∈ readers.ops.world.store.calls, row.endAt = 0 → row.sharer = "" ∨
    ∃ session ∈ readers.ops.world.store.sessions, session.id = row.sharer ∧ session.callID = row.id
  accepted : ∀ (env : Env) us handlerID cs, env.StoreWorks → env.lockFails = false → env.clusterSendFails = false →
    env.config.allowScreenSharing = some true → readers.ops.world.store.Loads us.channelID (some cs) →
    cs.sessions.contains us.originalConnID = true → (∀ session ∈ cs.sessions, session.id ≠ cs.call.sharer) →
    (handleClientMessageTypeScreen env us .on handlerID readers.ops.world).1 = .ok ()

theorem sharerInCall_of_stays (readers : Readers) (reached : (sharingReaders.restrict SharerStays).Reachable readers) :
    SharerInCall readers := by
  have inv := sharerInvariant_of_reachable reached
  refine ⟨fun row member _ => inv.present row member, ?_⟩
  intro env us handlerID cs works locks sends allowed loads _ unshared
  have member := (Store.activeCall?_eq_some loads.1).1
  have free : cs.call.sharer = "" := by
    rcases inv.present cs.call member with free | ⟨session, stored, sharing, ofCall⟩
    · exact free
    · refine absurd sharing (unshared session ?_)
      rw [loads.2.1, Store.mem_callSessions]
      exact ⟨stored, ofCall⟩
  obtain ⟨toggled, accepted⟩ := Call.toggleScreen_on env.now us.originalConnID free
  have valid : toggled.isValid = .ok () :=
    (Call.isValid_congr (Call.toggleScreen_identity accepted).1).trans (inv.synced.valid cs.call member)
  exact handleClientMessageTypeScreen_ok works locks allowed sends loads accepted valid

theorem idle_sharing : sharingReaders.init .idle := by
  refine ⟨rfl, ⟨?_, ?_, ?_⟩, rfl, rfl⟩ <;> exact fun _ member => absurd member KeyedTable.not_mem_empty

def aliceSession : UserSession :=
  { userID := "alice", channelID := "channel", connID := "conn-1", originalConnID := "conn-1", callID := "call-1" }

/-- Two users join and the first one asks to share the screen. -/
def twoJoinsAndScreen : List ReaderStep :=
  [.operation (.lock (.quiet 1000 "") "channel" .joining),
    .operation (.join (.quiet 1001 "call-1") "channel" (.plain "alice" "conn-1" "")),
    .operation (.join (.quiet 1002 "") "channel" (.plain "bob" "conn-2" "")),
    .operation (.unlock "channel"),
    .post aliceSession .on]

def screenRead : ReaderStep := .read (.quiet 2000 "") aliceSession .on "node"

def aliceLeaves : List ReaderStep :=
  [.operation (.lock (.quiet 1500 "") "channel" .leaving),
    .operation (.leave (.quiet 1501 "") "channel"
      { userID := "alice", originalConnID := "conn-1", connID := "conn-1" }),
    .operation (.unlock "channel")]

theorem sharerInCall_of_oneScreen :
    ∃ before readers, sharingReaders.run? .idle twoJoinsAndScreen = some before ∧
      sharingReaders.next? before screenRead = some readers ∧
      readers.ops.world.store.calls.rows.map Call.sharer = ["conn-1"] ∧ SharerInCall readers := by
  have computed : (sharingReaders.run? .idle twoJoinsAndScreen).map (fun before =>
      (before.ops.world.store.calls.rows.map Call.id,
        before.ops.world.store.sessions.rows.map fun session => (session.id, session.callID),
        (sharingReaders.next? before screenRead).map (·.ops.world.store.calls.rows.map Call.sharer))) =
      some (["call-1"], [("conn-1", "call-1"), ("conn-2", "call-1")], some ["conn-1"]) := by decide
  obtain ⟨before, ran, shape⟩ := Option.map_eq_some_iff.mp computed
  simp only [Prod.mk.injEq] at shape
  obtain ⟨calls, sessions, next⟩ := shape
  obtain ⟨readers, taken, shared⟩ := Option.map_eq_some_iff.mp next
  have start : (sharingReaders.restrict SharerStays).Reachable .idle := .init idle_sharing
  have reached : (sharingReaders.restrict SharerStays).Reachable before := by
    refine start.restrict_run (.of_labels ?_ _) ran
    intro label listed state
    simp only [twoJoinsAndScreen, List.mem_cons, List.not_mem_nil, or_false] at listed
    obtain rfl | rfl | rfl | rfl | rfl := listed <;> trivial
  have taker : SharerStays before screenRead := by
    intro cs _ _ loads _ _
    have member := List.mem_map_of_mem (f := Call.id) (Store.activeCall?_eq_some loads.1).1
    rw [calls, List.mem_singleton] at member
    obtain ⟨session, stored, same⟩ := KeyedTable.exists_of_rows_map sessions List.mem_cons_self
    simp only [Prod.mk.injEq] at same
    refine KeyedTable.contains_iff.mpr ⟨session, ?_, same.1⟩
    rw [loads.2.1, Store.mem_callSessions]
    exact ⟨stored, same.2.trans member.symm⟩
  exact ⟨before, readers, ran, taken, shared,
    sharerInCall_of_stays readers (.step reached (System.restrict_next?.mpr ⟨taker, taken⟩))⟩

/-- The message to start sharing is still queued when its session leaves, and is
handled afterwards: the screen is shared by nobody in the call, for good. -/
theorem not_sharerInCall : ¬ ∀ readers, sharingReaders.Reachable readers → SharerInCall readers := by
  intro inCall
  have computed : (sharingReaders.run? .idle (twoJoinsAndScreen ++ (aliceLeaves ++ [screenRead]))).map
      (fun readers => (readers.ops.world.store.calls.rows.map fun row => (row.endAt, row.sharer),
        readers.ops.world.store.sessions.rows.map CallSession.id)) =
      some ([(0, "conn-1")], ["conn-2"]) := by decide
  obtain ⟨readers, ran, shape⟩ := Option.map_eq_some_iff.mp computed
  simp only [Prod.mk.injEq] at shape
  obtain ⟨calls, sessions⟩ := shape
  obtain ⟨row, member, same⟩ := KeyedTable.exists_of_rows_map calls (List.mem_singleton.mpr rfl)
  simp only [Prod.mk.injEq] at same
  obtain ⟨ongoing, sharer⟩ := same
  have reached : sharingReaders.Reachable readers := .run (.init idle_sharing) ran
  rcases (inCall readers reached).present row member ongoing with free | ⟨session, stored, sharing, -⟩
  · rw [sharer] at free
    exact absurd free (by decide)
  · have listed := List.mem_map_of_mem (f := CallSession.id) stored
    rw [sessions, sharing, sharer] at listed
    exact absurd listed (by decide)

end Calls
