import Calls.Library.Timeline
import Calls.Server.OngoingCalls
import Calls.Server.ScreenProperties

/-! The time that a call counts for the sharing of screens, against the spans
during which a session really was the sharer. -/

set_option autoImplicit false

namespace Calls

open Command

/-- The session that shares its screen in a call that is ongoing. -/
def Call.sharing? (call : Call) : Option String := if call.endAt ≠ 0 ∨ call.sharer = "" then none else some call.sharer

def Call.screenView (call : Call) : Int × Int × String × Int :=
  (call.endAt, call.stats.screenDuration, call.sharer, call.props.screenStartAt)

theorem screenView_peopleBlind : PeopleBlind Call.screenView := by
  intro left right same
  simp only [Call.screenView, same.endAt, same.stats, same.sharedAt, Call.sharer, same.sharing]

theorem Call.sharing?_congr {left right : Call} (same : left.screenView = right.screenView) :
    left.sharing? = right.sharing? := by
  simp only [screenView, Prod.mk.injEq] at same
  simp only [sharing?, same.1, same.2.2.1]

/-- The counters of a call agree with the spans of its sharers. -/
structure ScreenKept (call : Call) (timeline : Timeline String) : Prop where
  total : call.stats.screenDuration = timeline.total
  current : timeline.current = call.sharing?.map fun sharer => (sharer, call.props.screenStartAt)
  unshared : call.sharer = "" → call.props.screenStartAt = 0
  shared : call.sharer ≠ "" → 0 < call.props.screenStartAt

namespace ScreenKept

variable {call next : Call} {timeline : Timeline String} {time : Int}

theorem congr (kept : ScreenKept call timeline) (same : next.screenView = call.screenView) :
    ScreenKept next timeline := by
  have sharing := Call.sharing?_congr same
  simp only [Call.screenView, Prod.mk.injEq] at same
  obtain ⟨-, duration, sharer, startAt⟩ := same
  exact ⟨duration.trans kept.total, by rw [sharing, startAt]; exact kept.current,
    by rw [sharer, startAt]; exact kept.unshared, by rw [sharer, startAt]; exact kept.shared⟩

/-- A change that leaves the sharer and the counters alone. -/
theorem keep (kept : ScreenKept call timeline) (sharing : next.sharing? = call.sharing?)
    (duration : next.stats.screenDuration = call.stats.screenDuration) (sharer : next.sharer = call.sharer)
    (startAt : next.props.screenStartAt = call.props.screenStartAt) :
    ScreenKept next (timeline.observe time next.sharing?) := by
  have seen : timeline.current.map Prod.fst = next.sharing? := by
    rw [kept.current, sharing]
    cases call.sharing? <;> rfl
  rw [Timeline.observe_same seen]
  exact ⟨duration.trans kept.total, by rw [sharing, startAt]; exact kept.current,
    by rw [sharer, startAt]; exact kept.unshared, by rw [sharer, startAt]; exact kept.shared⟩

/-- A session starts to share. -/
theorem start (kept : ScreenKept call timeline) (free : call.sharer = "") {sharer : String}
    (sharing : next.sharing? = some sharer) (duration : next.stats.screenDuration = call.stats.screenDuration)
    (startAt : next.props.screenStartAt = time) (started : 0 < time) :
    ScreenKept next (timeline.observe time next.sharing?) := by
  have idle : timeline.current = none := by
    rw [kept.current, Call.sharing?, if_pos (.inr free)]
    rfl
  have named : next.sharer ≠ "" := by
    intro unnamed
    rw [Call.sharing?, if_pos (.inr unnamed)] at sharing
    cases sharing
  rw [sharing, Timeline.observe_start idle]
  refine ⟨duration.trans kept.total, ?_, fun unnamed => absurd unnamed named, fun _ => by rw [startAt]; exact started⟩
  rw [sharing, startAt]
  rfl

/-- The sharer stops, and its time is added. -/
theorem stop (kept : ScreenKept call timeline) {sharer : String} (sharing : call.sharing? = some sharer)
    (stopped : next.sharing? = none)
    (duration : next.stats.screenDuration = call.stats.screenDuration + (time - call.props.screenStartAt))
    (unshared : next.sharer = "" → next.props.screenStartAt = 0)
    (shared : next.sharer ≠ "" → 0 < next.props.screenStartAt) :
    ScreenKept next (timeline.observe time next.sharing?) := by
  have running : timeline.current = some (sharer, call.props.screenStartAt) := by
    rw [kept.current, sharing]
    rfl
  rw [stopped, Timeline.observe_stop running]
  refine ⟨?_, by rw [stopped]; rfl, unshared, shared⟩
  rw [Timeline.total_append, duration, kept.total]
  rfl

end ScreenKept

theorem Call.sharing?_of_sharer {call : Call} (ongoing : call.endAt = 0) (named : call.sharer ≠ "") :
    call.sharing? = some call.sharer := by
  rw [sharing?, if_neg (fun none => none.elim (fun ended => ended ongoing) named)]

theorem Call.sharing?_eq_none {call : Call} (free : call.sharer = "") : call.sharing? = none := by
  rw [sharing?, if_pos (.inr free)]

/-! ### Leaves -/

section
variable (env : Env) (sessionID : String) (call : Call)

theorem Call.stopVideo_screenView : (call.stopVideo env sessionID).screenView = call.screenView := by
  unfold stopVideo
  split
  · rfl
  · split <;> rfl

theorem Call.stopScreen_screenView :
    (call.stopScreen env sessionID).screenView =
      if call.sharer = sessionID then
        if 0 < call.props.screenStartAt then
          (call.endAt, call.stats.screenDuration + secondsSinceTimestamp env.now call.props.screenStartAt, "", 0)
        else (call.endAt, call.stats.screenDuration, "", call.props.screenStartAt)
      else call.screenView := by
  unfold stopScreen
  by_cases sharing : call.props.screenSharingSessionID = sessionID
  · rw [if_neg (not_not_intro sharing), if_pos (show call.sharer = sessionID from sharing)]
    dsimp only
    split <;> rfl
  · rw [if_pos sharing, if_neg (show call.sharer ≠ sessionID from sharing)]

/-- What a removal leaves of the screen: taken off if it was that of the session,
and counted until now if the call ends. -/
theorem Call.afterLeave_screenView (ref : SessionRef) (us : CallSession) (sessions : SessionMap) :
    (call.afterLeave env ref us sessions).screenView =
      if sessions.size = 0 then
        (env.now.unixMilli,
          (call.stopScreen env us.id).stats.screenDuration +
            (if 0 < (call.stopScreen env us.id).props.screenStartAt then
              secondsSinceTimestamp env.now (call.stopScreen env us.id).props.screenStartAt else 0),
          (call.stopScreen env us.id).sharer, (call.stopScreen env us.id).props.screenStartAt)
      else (call.stopScreen env us.id).screenView := by
  have media : ((call.withoutMedia env us).electOnLeave env ref.userID sessions).screenView =
      (call.stopScreen env us.id).screenView := by
    rw [screenView_peopleBlind _ _ (Call.electOnLeave_same env ref.userID sessions (call.withoutMedia env us))]
    unfold withoutMedia
    split
    · exact stopVideo_screenView env us.id _
    · rfl
  rw [← media]
  simp only [screenView, Prod.mk.injEq] at media
  obtain ⟨-, duration, sharer, startAt⟩ := media
  unfold afterLeave finishIfEmpty
  split
  · rw [← sharer]
    simp only [screenView, finish, setCallEnded, ← duration, ← startAt, Call.sharer]
  · rfl

end

/-- On a clock of whole seconds a removal keeps the counters in agreement. -/
theorem ScreenKept.left {env : Env} {call : Call} {timeline : Timeline String} (kept : ScreenKept call timeline)
    (ongoing : call.endAt = 0) (whole : env.now.unixMilli = env.now.unix * 1000) (ref : SessionRef) (us : CallSession)
    (sessions : SessionMap) :
    ScreenKept (call.afterLeave env ref us sessions)
      (timeline.observe env.now.unix (call.afterLeave env ref us sessions).sharing?) := by
  have view := Call.afterLeave_screenView env call ref us sessions
  have screen := Call.stopScreen_screenView env us.id call
  have later : env.now.unixMilli ≠ 0 := Int.ne_of_gt env.now.unixMilli_pos
  generalize call.afterLeave env ref us sessions = next at view
  generalize call.stopScreen env us.id = stopped at view screen
  by_cases free : call.sharer = ""
  · have startAt := kept.unshared free
    have same : stopped.screenView = call.screenView := by
      rw [screen, startAt]
      simp [Call.screenView, free, startAt]
    simp only [Call.screenView, Prod.mk.injEq] at same
    obtain ⟨-, sameDuration, sameSharer, sameStart⟩ := same
    have nextView : next.stats.screenDuration = call.stats.screenDuration ∧ next.sharer = call.sharer ∧
        next.props.screenStartAt = call.props.screenStartAt := by
      by_cases empty : sessions.size = 0
      · rw [if_pos empty, sameStart, startAt] at view
        simp only [Call.screenView, Prod.mk.injEq] at view
        exact ⟨by rw [view.2.1, sameDuration]; simp, view.2.2.1.trans sameSharer, view.2.2.2.trans startAt.symm⟩
      · rw [if_neg empty] at view
        simp only [Call.screenView, Prod.mk.injEq] at view
        exact ⟨view.2.1.trans sameDuration, view.2.2.1.trans sameSharer, view.2.2.2.trans sameStart⟩
    obtain ⟨duration, sharer, start⟩ := nextView
    refine kept.keep ?_ duration sharer start
    rw [Call.sharing?_eq_none free, Call.sharing?_eq_none (sharer.trans free)]
  · have started := kept.shared free
    have sharing := Call.sharing?_of_sharer ongoing free
    have elapsed : secondsSinceTimestamp env.now call.props.screenStartAt =
        env.now.unix - call.props.screenStartAt := secondsSinceTimestamp_whole whole
    by_cases own : call.sharer = us.id
    · rw [if_pos own, if_pos started] at screen
      simp only [Call.screenView, Prod.mk.injEq] at screen
      obtain ⟨-, duration, sharer, startAt⟩ := screen
      have nextView : next.stats.screenDuration = call.stats.screenDuration +
          (env.now.unix - call.props.screenStartAt) ∧ next.sharer = "" ∧ next.props.screenStartAt = 0 := by
        by_cases empty : sessions.size = 0
        · rw [if_pos empty, startAt] at view
          simp only [Call.screenView, Prod.mk.injEq] at view
          exact ⟨by rw [view.2.1, duration, elapsed]; simp, view.2.2.1.trans sharer, view.2.2.2⟩
        · rw [if_neg empty] at view
          simp only [Call.screenView, Prod.mk.injEq] at view
          exact ⟨by rw [view.2.1, duration, elapsed], view.2.2.1.trans sharer, view.2.2.2.trans startAt⟩
      obtain ⟨nextDuration, nextSharer, nextStart⟩ := nextView
      exact kept.stop sharing (Call.sharing?_eq_none nextSharer) nextDuration (fun _ => nextStart)
        fun named => absurd nextSharer named
    · rw [if_neg own] at screen
      simp only [Call.screenView, Prod.mk.injEq] at screen
      obtain ⟨endAt, duration, sharer, startAt⟩ := screen
      by_cases empty : sessions.size = 0
      · rw [if_pos empty, startAt, if_pos started] at view
        simp only [Call.screenView, Prod.mk.injEq] at view
        obtain ⟨nextEnd, nextDuration, nextSharer, nextStart⟩ := view
        refine kept.stop sharing ?_ (by rw [nextDuration, duration, elapsed]) ?_ fun _ => by rw [nextStart]; exact started
        · rw [Call.sharing?, if_pos (.inl (by rw [nextEnd]; exact later))]
        · exact fun unnamed => absurd ((nextSharer.trans sharer).symm.trans unnamed) free
      · rw [if_neg empty] at view
        simp only [Call.screenView, Prod.mk.injEq] at view
        obtain ⟨nextEnd, nextDuration, nextSharer, nextStart⟩ := view
        have same : next.screenView = call.screenView := by
          simp only [Call.screenView, nextEnd, nextDuration, nextSharer, nextStart, endAt, duration, sharer, startAt]
        exact kept.keep (Call.sharing?_congr same) (nextDuration.trans duration) (nextSharer.trans sharer)
          (nextStart.trans startAt)

/-! ### Messages -/

/-- A message to stop sharing comes first where it is accepted: it sets the
duration anew instead of adding to it. -/
theorem ScreenKept.toggled {now : Instant} {sessionID : String} {call toggled : Call} {msg : ScreenMessage}
    {timeline : Timeline String} (kept : ScreenKept call timeline) (ongoing : call.endAt = 0)
    (whole : now.unixMilli = now.unix * 1000) (named : sessionID ≠ "")
    (accepted : call.toggleScreen now sessionID msg = .ok toggled)
    (first : msg = .off → call.stats.screenDuration = 0) :
    ScreenKept toggled (timeline.observe now.unix toggled.sharing?) := by
  cases msg with
  | on =>
    simp only [Call.toggleScreen] at accepted
    split at accepted
    · cases accepted
    · next free =>
      cases accepted
      exact kept.start (not_not.mp free) (Call.sharing?_of_sharer ongoing named) rfl rfl now.unix_pos
  | off =>
    simp only [Call.toggleScreen] at accepted
    split at accepted
    · cases accepted
    · next sharing =>
      have sharer : call.sharer = sessionID := not_not.mp sharing
      have shared : call.sharer ≠ "" := by rwa [sharer]
      have started := kept.shared shared
      rw [if_pos started] at accepted
      cases accepted
      refine kept.stop (Call.sharing?_of_sharer ongoing shared) (Call.sharing?_eq_none rfl) ?_ (fun _ => rfl)
        fun shares => absurd rfl shares
      rw [first rfl, ← secondsSinceTimestamp_whole whole, Int.zero_add]

/-! ### Batches -/

/-- A batch that still has a call to write to holds an ongoing one. -/
def OngoingHeld (ops : Operations) : Prop :=
  ∀ channelID batch cs, ops.held.get? channelID = some batch → batch.state = some cs → batch.Live cs → cs.call.endAt = 0

theorem OngoingHeld.hold {ops : Operations} (ongoing : OngoingHeld ops) {channelID : String} {kind : BatchKind}
    {next : Option CallState} {world : World}
    (nextOngoing : ∀ cs, next = some cs → Batch.Live ⟨kind, next⟩ cs → cs.call.endAt = 0) :
    OngoingHeld (ops.holdBatch channelID kind next world) := by
  intro other batch cs found loaded live
  rcases Operations.holdBatch_cases found with ⟨-, rfl⟩ | ⟨-, found⟩
  · exact nextOngoing cs loaded live
  · exact ongoing other batch cs found loaded live

theorem AddEffect.ongoing {env : Env} {channelID : String} {state next : Option CallState} {req : JoinRequest}
    {before after : Store} (effect : AddEffect env channelID state req before next after)
    (ongoing : ∀ cs, state = some cs → cs.call.endAt = 0) : ∀ cs, next = some cs → cs.call.endAt = 0 := by
  have joins {joined : CallState} {store : Store}
      (effect : JoinEffect env channelID state req before (.ok joined) store) : joined.call.endAt = 0 := by
    cases effect with
    | @joined _ base _ found checked planned written inserted sameCall =>
      rw [sameCall, (joinedState_same env base req).endAt]
      cases state with
      | none => exact (stateToJoin_none found).2.2.unused.endAt
      | some cs =>
        have reused : cs = base := Except.ok.inj found
        rw [← reused]
        exact ongoing cs rfl
  intro cs held
  cases effect with
  | failed effect => exact ongoing cs held
  | joined effect later =>
    cases held
    exact joins effect
  | @started entered _ _ _ _ _ effect first changed same wrote =>
    cases held
    rw [changed]
    exact show entered.call.endAt = 0 from joins effect

theorem OngoingHeld.step {view : Call → Int × Int × String × Int} {before after : Operations} {step : OperationStep}
    (ongoing : OngoingHeld before) (inv : SyncedInvariant view before) (works : OnWorkingStore before step)
    (effect : before.Effect step after) : OngoingHeld after := by
  cases effect with
  | notLocked => exact ongoing
  | locked free loads =>
    refine ongoing.hold fun cs loaded _ => ?_
    cases loaded
    have active := (Store.activeCall?_eq_some loads.1).2.2
    simp only [Store.isActive, decide_eq_true_eq] at active
    exact active.1
  | joined running effect keepsJobs =>
    have found := Operations.batch?_eq_some running
    exact ongoing.hold fun cs held _ => effect.ongoing (fun cs loaded => ongoing _ _ cs found loaded (.inl rfl)) cs held
  | @left env channelID ref state next world running effect =>
    have found := Operations.batch?_eq_some running
    have leave := effect.working (works env rfl) fun cs loaded =>
      ⟨(inv.held _ _ cs found loaded).valid, (inv.held _ _ cs found loaded).jobs⟩
    refine ongoing.hold fun cs held live => ?_
    cases leave with
    | nothing => exact ongoing _ _ cs found held live
    | @saved start us left present deleted wrote call jobs =>
      cases held
      have filled : left.state.sessions.size ≠ 0 := live.resolve_left fun joining => by cases joining
      have member := (KeyedTable.find?_eq_some_iff.mp present).1
      rw [call, (Call.afterLeave_kept env ref us left.state.sessions start.call).2, if_neg filled]
      exact ongoing _ _ start found rfl (.inr (KeyedTable.size_ne_zero_of_mem member))
  | released =>
    intro other batch cs found loaded live
    rw [StringMap.get?_erase] at found
    split at found
    · cases found
    · exact ongoing other batch cs found loaded live

/-! ### Runs -/

/-- The readers with a record of their past: the table of calls after every step
that looked at the clock. -/
structure Recorded where
  readers : Readers
  clock : Int
  history : List (Int × KeyedTable Call.id)

namespace Recorded

def calls (rec : Recorded) : KeyedTable Call.id := rec.readers.ops.world.store.calls

def record (rec : Recorded) (readers : Readers) : Option Env → Recorded
  | none => { rec with readers }
  | some env =>
    { readers, clock := env.now.unix, history := rec.history ++ [(env.now.unix, readers.ops.world.store.calls)] }

def next? (rec : Recorded) (step : ReaderStep) : Option Recorded :=
  (rec.readers.next? step).map fun readers => rec.record readers step.env?

def idle : Recorded := ⟨.idle, 0, []⟩

/-- The spans during which a session shared its screen in the call. -/
def sharing (rec : Recorded) (callID : String) : Timeline String :=
  .ofSamples (rec.history.map fun sample => (sample.1, (sample.2.find? callID).bind Call.sharing?))

/-- What the call had counted after each step. -/
def durations (rec : Recorded) (callID : String) : List Int :=
  rec.history.filterMap fun sample => (sample.2.find? callID).map fun call => call.stats.screenDuration

end Recorded

/-- The runs of a call from its beginning: nobody has shared a screen in it. -/
def recordedScreens (callID : String) : System Recorded ReaderStep where
  init rec :=
    (screenSharing fun store => store.CallsValid ∧ store.JobsValid ∧
      ∀ row ∈ store.calls, row.id = callID → row.stats.screenDuration = 0 ∧ row.sharer = "" ∧
        row.props.screenStartAt = 0).init rec.readers ∧ rec.history = []
  next? := Recorded.next?

/-- The store works, and the clock shows whole seconds and does not go back. -/
def InWholeSeconds (rec : Recorded) (step : ReaderStep) : Prop :=
  ∀ env, step.env? = some env → env.StoreWorks ∧ env.now.unixMilli = env.now.unix * 1000 ∧ rec.clock ≤ env.now.unix

/-- When the sharer of the call stops, no time has been counted before. -/
def StopsFirst (callID : String) (rec : Recorded) : ReaderStep → Prop
  | .read env us .off _ => ∀ cs, env.config.allowScreenSharing = some true → env.Serves us.channelID cs.call.id →
      rec.readers.ops.world.store.Loads us.channelID (some cs) → cs.call.id = callID →
      cs.call.sharer = us.originalConnID → cs.call.stats.screenDuration = 0
  | _ => True

/-- The duration of the call never decreases, and when the call has ended it is
the time of all its spans. -/
structure ScreenTimeCounted (callID : String) (rec : Recorded) : Prop where
  grows : (rec.durations callID).Pairwise (· ≤ ·)
  total : ∀ row ∈ rec.calls, row.id = callID → row.endAt ≠ 0 →
    (rec.sharing callID).current = none ∧ row.stats.screenDuration = (rec.sharing callID).total

structure ScreenTimeInvariant (callID : String) (rec : Recorded) : Prop where
  synced : SyncedInvariant Call.screenView rec.readers.ops
  ongoing : OngoingHeld rec.readers.ops
  named : rec.readers.Named
  kept : ∀ row ∈ rec.calls, row.id = callID → ScreenKept row (rec.sharing callID)
  absent : (∀ row ∈ rec.calls, row.id ≠ callID) → rec.sharing callID = .empty
  since : (rec.sharing callID).Until rec.clock
  bounded : ∀ duration ∈ rec.durations callID, duration ≤ (rec.sharing callID).total
  grows : (rec.durations callID).Pairwise (· ≤ ·)

theorem ScreenKept.of_unused {call : Call} (duration : call.stats.screenDuration = 0) (sharer : call.sharer = "")
    (startAt : call.props.screenStartAt = 0) : ScreenKept call .empty :=
  ⟨duration, by rw [Call.sharing?_eq_none sharer]; rfl, fun _ => startAt, fun shared => absurd sharer shared⟩

section
variable {callID : String} {rec : Recorded} {readers : Readers} {label : ReaderStep} {env : Env}

/-- What one step makes of the row of the call. -/
theorem ScreenTimeInvariant.row (inv : ScreenTimeInvariant callID rec) (whole : InWholeSeconds rec label)
    (first : StopsFirst callID rec label) (timed : label.env? = some env) (effect : rec.readers.Effect label readers)
    {row : Call} (member : row ∈ readers.ops.world.store.calls) (named : row.id = callID) :
    ScreenKept row ((rec.sharing callID).observe env.now.unix row.sharing?) := by
  have works : OnWorkingReaders rec.readers label := fun env found => (whole env found).1
  obtain ⟨-, evolve⟩ := inv.synced.readerStep screenView_peopleBlind works effect
  rcases evolve.rows row member with ⟨previous, old, identity, same | changed⟩ | ⟨⟨fresh, unused, same⟩, new⟩
  · have kept := (inv.kept previous old ((Call.id_eq_of_identity identity).symm.trans named)).congr same
    exact kept.keep rfl rfl rfl rfl
  · have kept := inv.kept previous old ((Call.id_eq_of_identity identity).symm.trans named)
    cases label with
    | post us msg => exact changed.elim
    | operation step =>
      cases step with
      | lock env channelID kind => exact changed.elim
      | join env channelID req => exact changed.elim
      | unlock channelID => exact changed.elim
      | leave env channelID ref =>
        cases timed
        obtain ⟨state, running, held, us, sessions, rfl, found, seen, same⟩ := changed
        have filled := KeyedTable.size_ne_zero_of_mem (KeyedTable.find?_eq_some_iff.mp found).1
        have ongoing := inv.ongoing channelID _ held (Operations.batch?_eq_some running) rfl (.inr filled)
        have left := (kept.congr seen).left ongoing (whole env rfl).2.1 ref us sessions
        have sameView := screenView_peopleBlind _ _ same
        rw [Call.sharing?_congr sameView]
        exact left.congr sameView
    | read env us msg handlerID =>
      cases timed
      obtain ⟨cs, toggled, toggles, seen, same⟩ := changed
      have active := (Store.activeCall?_eq_some toggles.loads.1).2.2
      simp only [Store.isActive, decide_eq_true_eq] at active
      cases effect with
      | read queued free effect =>
        have sameID : cs.call.id = callID :=
          (Call.id_eq_of_identity (Call.toggleScreen_identity toggles.accepted).1).symm.trans (same.id_eq.symm.trans named)
        have saves : msg = .off → cs.call.stats.screenDuration = 0 := by
          intro off
          subst off
          refine first cs toggles.allowed toggles.serves toggles.loads sameID ?_
          have accepted := toggles.accepted
          simp only [Call.toggleScreen] at accepted
          split at accepted
          · cases accepted
          · next sharing => exact not_not.mp sharing
        have next := (kept.congr seen).toggled active.1 (whole env rfl).2.1 (inv.named.queued _ queued)
          toggles.accepted saves
        have sameView := screenView_peopleBlind _ _ same
        rw [Call.sharing?_congr sameView]
        exact next.congr sameView
  · have absent : rec.sharing callID = .empty := by
      refine inv.absent fun previous old same => new previous old ?_
      rw [same, named]
    rw [absent]
    have kept : ScreenKept fresh .empty :=
      .of_unused (by rw [unused.stats]) unused.sharing unused.sharedAt
    exact (kept.congr same).keep rfl rfl rfl rfl

theorem Readers.Effect.calls_of_untimed {before after : Readers} (untimed : label.env? = none)
    (effect : before.Effect label after) : after.ops.world.store.calls = before.ops.world.store.calls := by
  cases effect with
  | operation effect =>
    cases effect with
    | released => rfl
    | notLocked | locked | joined | left => cases untimed
  | posted known => rfl
  | read queued free effect => cases untimed

theorem ScreenTimeInvariant.step (inv : ScreenTimeInvariant callID rec) (whole : InWholeSeconds rec label)
    (first : StopsFirst callID rec label) (effect : rec.readers.Effect label readers) :
    ScreenTimeInvariant callID (rec.record readers label.env?) := by
  have works : OnWorkingReaders rec.readers label := fun env found => (whole env found).1
  obtain ⟨synced, evolve⟩ := inv.synced.readerStep screenView_peopleBlind works effect
  have ongoing : OngoingHeld readers.ops := by
    cases effect with
    | operation effect => exact inv.ongoing.step inv.synced works effect
    | posted known => exact inv.ongoing
    | read queued free effect => exact inv.ongoing
  have named := inv.named.step effect
  cases timed : label.env? with
  | none =>
    have same := effect.calls_of_untimed timed
    refine ⟨synced, ongoing, named, ?_, ?_, inv.since, inv.bounded, inv.grows⟩
    · intro row member
      exact inv.kept row (by rwa [Recorded.calls, ← same])
    · intro absent
      exact inv.absent fun row member => absent row (by rwa [Recorded.calls, Recorded.record, same])
  | some env =>
    obtain ⟨-, -, later⟩ := whole env timed
    have kept := fun row (member : row ∈ readers.ops.world.store.calls) => inv.row whole first timed effect member
    have sharing : (rec.record readers (some env)).sharing callID = (rec.sharing callID).observe env.now.unix
        ((readers.ops.world.store.calls.find? callID).bind Call.sharing?) := by
      simp [Recorded.sharing, Recorded.record]
    have durations : (rec.record readers (some env)).durations callID = rec.durations callID ++
        ((readers.ops.world.store.calls.find? callID).map fun call => call.stats.screenDuration).toList := by
      simp only [Recorded.durations, Recorded.record, List.filterMap_append]
      cases found : readers.ops.world.store.calls.find? callID <;> simp [found]
    have grown := inv.since.total_le_observe later ((readers.ops.world.store.calls.find? callID).bind Call.sharing?)
    rw [← sharing] at grown
    have keptNow : ∀ row ∈ readers.ops.world.store.calls, row.id = callID →
        ScreenKept row ((rec.record readers (some env)).sharing callID) := by
      intro row member sameID
      have found : readers.ops.world.store.calls.find? callID = some row := by
        rw [← sameID]
        exact KeyedTable.find?_self member
      rw [sharing, found]
      exact kept row member sameID
    refine ⟨synced, ongoing, named, keptNow, ?_, ?_, ?_, ?_⟩
    · intro absent
      have unfound : readers.ops.world.store.calls.find? callID = none :=
        KeyedTable.find?_eq_none_iff.mpr fun row member => absent row member
      rw [sharing, unfound, inv.absent]
      · rfl
      · intro row member sameID
        obtain ⟨later, found, identity⟩ := evolve.kept row member
        exact absent later found ((Call.id_eq_of_identity identity).trans sameID)
    · rw [sharing]
      exact inv.since.observe later _
    · intro duration listed
      rw [durations] at listed
      rcases List.mem_append.mp listed with old | now
      · exact Int.le_trans (inv.bounded duration old) grown
      · obtain ⟨row, found, rfl⟩ := Option.map_eq_some_iff.mp (Option.mem_toList.mp now)
        obtain ⟨member, sameID⟩ := KeyedTable.find?_eq_some_iff.mp found
        exact Int.le_of_eq (keptNow row member sameID).total
    · rw [durations, List.pairwise_append]
      refine ⟨inv.grows, ?_, fun earlier old duration now => ?_⟩
      · cases readers.ops.world.store.calls.find? callID <;> simp
      · obtain ⟨row, found, rfl⟩ := Option.map_eq_some_iff.mp (Option.mem_toList.mp now)
        obtain ⟨member, sameID⟩ := KeyedTable.find?_eq_some_iff.mp found
        rw [(keptNow row member sameID).total]
        exact Int.le_trans (inv.bounded earlier old) grown

end

theorem screenTimeInvariant_of_reachable {callID : String} {rec : Recorded}
    (reached : ((recordedScreens callID).restrict fun rec step =>
      InWholeSeconds rec step ∧ StopsFirst callID rec step).Reachable rec) : ScreenTimeInvariant callID rec := by
  refine System.Reachable.invariant_of_allowed ?_ ?_ reached
  · intro rec ⟨⟨unheld, ⟨valid, jobs, unused⟩, noSessions, noMessages⟩, noHistory⟩
    have sharing : rec.sharing callID = .empty := by rw [Recorded.sharing, noHistory]; rfl
    have durations : rec.durations callID = [] := by rw [Recorded.durations, noHistory]; rfl
    refine ⟨⟨valid, jobs, fun channelID batch cs found => ?_⟩, fun channelID batch cs found => ?_, ⟨?_, ?_⟩, ?_,
      fun _ => sharing, ?_, ?_, ?_⟩
    · rw [unheld] at found
      cases found
    · rw [unheld] at found
      cases found
    · rw [noSessions]
      exact fun us listed => by cases listed
    · rw [noMessages]
      exact fun entry listed => by cases listed
    · intro row member named
      obtain ⟨duration, sharer, startAt⟩ := unused row member named
      rw [sharing]
      exact .of_unused duration sharer startAt
    · rw [sharing]
      exact Timeline.until_empty _
    · rw [durations]
      exact fun duration listed => by cases listed
    · rw [durations]
      exact .nil
  · intro before step after inv ⟨whole, first⟩ taken
    obtain ⟨readers, moved, rfl⟩ := Option.map_eq_some_iff.mp taken
    exact inv.step whole first (Readers.next?_effect moved)

theorem screenTimeCounted_of_stopsFirst (callID : String) (rec : Recorded)
    (reached : ((recordedScreens callID).restrict fun rec step =>
      InWholeSeconds rec step ∧ StopsFirst callID rec step).Reachable rec) : ScreenTimeCounted callID rec := by
  have inv := screenTimeInvariant_of_reachable reached
  refine ⟨inv.grows, fun row member named ended => ?_⟩
  have kept := inv.kept row member named
  refine ⟨?_, kept.total⟩
  rw [kept.current, Call.sharing?, if_pos (.inl ended)]
  rfl

theorem idle_recorded (callID : String) : (recordedScreens callID).init .idle := by
  refine ⟨⟨rfl, ⟨?_, ?_, ?_⟩, rfl, rfl⟩, rfl⟩ <;> exact fun _ member => absurd member KeyedTable.not_mem_empty

/-- The session of a user who calls alone. -/
def soloSession : UserSession :=
  { userID := "alice", channelID := "channel", connID := "conn", originalConnID := "conn", callID := "call" }

def soloJoins : List ReaderStep :=
  [.operation (.lock (.quiet 1000 "") "channel" .joining),
    .operation (.join (.quiet 1000 "call") "channel" (.plain "alice" "conn" "")),
    .operation (.unlock "channel")]

/-- Share the screen from the one second to the other. -/
def soloShares (start stop : Instant) : List ReaderStep :=
  [.post soloSession .on, .read (.quiet start "") soloSession .on "node", .post soloSession .off,
    .read (.quiet stop "") soloSession .off "node"]

def soloLeaves : List ReaderStep :=
  [.operation (.lock (.quiet 90000 "") "channel" .leaving),
    .operation (.leave (.quiet 90000 "") "channel"
      { userID := "alice", originalConnID := "conn", connID := "conn" }),
    .operation (.unlock "channel")]

/-- Every reading of the clock is a whole second and not before the last one. -/
def clockRuns (rec : Recorded) (step : ReaderStep) : Bool :=
  step.env?.all fun env => env.now.unixMilli = env.now.unix * 1000 ∧ rec.clock ≤ env.now.unix

theorem inWholeSeconds_of_check {callID : String} {steps : List ReaderStep}
    (quiet : ∀ step ∈ steps, ∀ env, step.env? = some env → ∃ now newID, env = .quiet now newID)
    (checked : (recordedScreens callID).checkAlong clockRuns .idle steps = true) :
    (recordedScreens callID).MeetsAlong InWholeSeconds .idle steps := by
  refine .of_check checked ?_
  intro rec step listed runs env timed
  obtain ⟨now, newID, rfl⟩ := quiet step listed env timed
  rw [clockRuns, timed, Option.all_some, decide_eq_true_eq] at runs
  exact ⟨fun _ => rfl, runs⟩

theorem soloJoins_quiet : ∀ step ∈ soloJoins, ∀ env, step.env? = some env → ∃ now newID, env = .quiet now newID := by
  intro step listed env timed
  simp only [soloJoins, List.mem_cons, List.not_mem_nil, or_false] at listed
  obtain rfl | rfl | rfl := listed <;> cases timed <;> exact ⟨_, _, rfl⟩

theorem soloShares_quiet (start stop : Instant) :
    ∀ step ∈ soloShares start stop, ∀ env, step.env? = some env → ∃ now newID, env = .quiet now newID := by
  intro step listed env timed
  simp only [soloShares, List.mem_cons, List.not_mem_nil, or_false] at listed
  obtain rfl | rfl | rfl | rfl := listed <;> cases timed <;> exact ⟨_, _, rfl⟩

theorem soloLeaves_quiet : ∀ step ∈ soloLeaves, ∀ env, step.env? = some env → ∃ now newID, env = .quiet now newID := by
  intro step listed env timed
  simp only [soloLeaves, List.mem_cons, List.not_mem_nil, or_false] at listed
  obtain rfl | rfl | rfl := listed <;> cases timed <;> exact ⟨_, _, rfl⟩

def oneShare : List ReaderStep := soloJoins ++ (soloShares 10000 25000 ++ soloLeaves)

/-- No row has any time counted when a screen is stopped. -/
def nothingCounted (rec : Recorded) : ReaderStep → Bool
  | .read _ _ .off _ => rec.calls.rows.all fun row => row.stats.screenDuration = 0
  | _ => true

theorem screenTimeCounted_of_oneShare :
    ∃ rec, (recordedScreens "call").run? .idle oneShare = some rec ∧
      rec.calls.rows.map (fun row => (row.id, row.endAt, row.stats.screenDuration)) = [("call", 90000, 15)] ∧
      ScreenTimeCounted "call" rec := by
  have computed : ((recordedScreens "call").run? .idle oneShare).map (fun rec =>
      rec.calls.rows.map fun row => (row.id, row.endAt, row.stats.screenDuration)) =
      some [("call", 90000, 15)] := by decide
  obtain ⟨rec, ran, counted⟩ := Option.map_eq_some_iff.mp computed
  have whole : (recordedScreens "call").MeetsAlong InWholeSeconds .idle oneShare := by
    refine inWholeSeconds_of_check (fun step listed => ?_) (by decide)
    rcases List.mem_append.mp listed with joins | later
    · exact soloJoins_quiet step joins
    · rcases List.mem_append.mp later with shares | leaves
      · exact soloShares_quiet _ _ step shares
      · exact soloLeaves_quiet step leaves
  have first : (recordedScreens "call").MeetsAlong (StopsFirst "call") .idle oneShare := by
    refine .of_check (show (recordedScreens "call").checkAlong nothingCounted .idle oneShare = true by decide) ?_
    intro state step _ checked
    cases step with
    | operation step => trivial
    | post us msg => trivial
    | read env us msg handlerID =>
      cases msg with
      | on => trivial
      | off =>
        intro cs _ _ loads _ _
        have member := (Store.activeCall?_eq_some loads.1).1
        exact of_decide_eq_true (List.all_eq_true.mp checked cs.call member)
  have start : ((recordedScreens "call").restrict fun rec step =>
      InWholeSeconds rec step ∧ StopsFirst "call" rec step).Reachable .idle := .init (idle_recorded "call")
  exact ⟨rec, ran, counted, screenTimeCounted_of_stopsFirst "call" rec (start.restrict_run (whole.and first) ran)⟩

def twoShares : List ReaderStep :=
  soloJoins ++ (soloShares 10000 25000 ++
    (soloShares 30000 35000 ++ soloLeaves))

/-- The second time a screen is stopped the time of the first one is lost. -/
theorem not_screenTimeCounted :
    ¬ ∀ callID rec, ((recordedScreens callID).restrict InWholeSeconds).Reachable rec → ScreenTimeCounted callID rec := by
  intro counted
  have computed : ((recordedScreens "call").run? .idle twoShares).map (fun rec =>
      (rec.calls.rows.map (fun row => (row.id, row.endAt, row.stats.screenDuration)),
        (rec.sharing "call").total)) = some ([("call", 90000, 5)], 20) := by decide
  obtain ⟨rec, ran, shape⟩ := Option.map_eq_some_iff.mp computed
  simp only [Prod.mk.injEq] at shape
  obtain ⟨rows, total⟩ := shape
  have whole : (recordedScreens "call").MeetsAlong InWholeSeconds .idle twoShares := by
    refine inWholeSeconds_of_check (fun step listed => ?_) (by decide)
    rcases List.mem_append.mp listed with joins | later
    · exact soloJoins_quiet step joins
    · rcases List.mem_append.mp later with shares | last
      · exact soloShares_quiet _ _ step shares
      · rcases List.mem_append.mp last with shares | leaves
        · exact soloShares_quiet _ _ step shares
        · exact soloLeaves_quiet step leaves
  have start : ((recordedScreens "call").restrict InWholeSeconds).Reachable .idle := .init (idle_recorded "call")
  obtain ⟨row, member, same⟩ := KeyedTable.exists_of_rows_map rows (List.mem_singleton.mpr rfl)
  simp only [Prod.mk.injEq] at same
  obtain ⟨named, endAt, duration⟩ := same
  have sum := ((counted "call" rec (start.restrict_run whole ran)).total row member named
    (by rw [endAt]; decide)).2
  rw [duration, total] at sum
  exact absurd sum (by decide)

end Calls
