import Mathlib.Logic.Function.Basic
import Calls.Library.Limiters
import Calls.Library.System
import Calls.Public

/-! The limits on the requests of a user. A limiter is looked up, made where there is none and asked by steps
of their own, which those of other requests come between. -/

set_option autoImplicit false

namespace Calls

/-- How far a request has come. -/
inductive LimitedRequest where
  /-- No limiter was found. -/
  | missing (userID : String)
  | holds (userID : String) (limiter : Nat)
  | answered (result : Except String Unit)

/-- A request that was let through, with the limiter that it was let through by. -/
structure AdmittedRequest where
  userID : String
  limiter : Nat
  time : Nat
  deriving DecidableEq

/-- The limiters that have been made, and which of them is the one of a user. -/
structure APILimits (rate : RateLimiter) where
  now : Nat
  limiters : List rate.Limiter
  apiLimiters : StringMap Nat
  requests : Nat → Option LimitedRequest
  admitted : List AdmittedRequest

inductive APILimitsStep where
  | lookUp (request : Nat) (userID : String)
  | create (request : Nat)
  | allow (request : Nat)
  | tick (passed : Nat)
  deriving DecidableEq

namespace APILimits

variable {rate : RateLimiter}

def limit : Nat := 1
def burst : Nat := 10

def tooManyRequests : String := "\x7b\"message\": \"too many requests\", \"status_code\": 429\x7d"

def lookUp (limits : APILimits rate) (request : Nat) (userID : String) : Option (APILimits rate) :=
  match limits.requests request with
  | some _ => none
  | none =>
    let found : LimitedRequest :=
      match limits.apiLimiters.get? userID with
      | some limiter => .holds userID limiter
      | none => .missing userID
    some { limits with requests := Function.update limits.requests request (some found) }

/-- What was looked up before is not looked up again. -/
def create (limits : APILimits rate) (request : Nat) : Option (APILimits rate) :=
  match limits.requests request with
  | some (.missing userID) =>
    let limiter := limits.limiters.length
    some
      { limits with
        limiters := limits.limiters ++ [rate.newLimiter limit burst]
        apiLimiters := limits.apiLimiters.set userID limiter
        requests := Function.update limits.requests request (some (.holds userID limiter)) }
  | _ => none

def allow (limits : APILimits rate) (request : Nat) : Option (APILimits rate) :=
  match limits.requests request with
  | some (.holds userID limiter) =>
    limits.limiters[limiter]?.map fun held =>
      let asked := rate.allow held limits.now
      let result : Except String Unit := if asked.1 then .ok () else .error tooManyRequests
      { limits with
        limiters := limits.limiters.set limiter asked.2
        requests := Function.update limits.requests request (some (.answered result))
        admitted := if asked.1 then limits.admitted ++ [⟨userID, limiter, limits.now⟩] else limits.admitted }
  | _ => none

def next? (limits : APILimits rate) : APILimitsStep → Option (APILimits rate)
  | .lookUp request userID => limits.lookUp request userID
  | .create request => limits.create request
  | .allow request => limits.allow request
  | .tick passed => some { limits with now := limits.now + passed }

/-- At first no request has come. -/
def system (rate : RateLimiter) : System (APILimits rate) APILimitsStep where
  init limits := limits.limiters = [] ∧ limits.apiLimiters = KeyedTable.empty ∧ (∀ request, limits.requests request = none) ∧
    limits.admitted = []
  next? := next?

/-- How many requests of a user were let through at one instant. -/
def admittedAt (limits : APILimits rate) (userID : String) (time : Nat) : Nat :=
  limits.admitted.countP fun request => request.userID = userID ∧ request.time = time

/-- How many requests a limiter let through at one instant. -/
def admittedBy (limits : APILimits rate) (limiter time : Nat) : Nat :=
  limits.admitted.countP fun request => request.limiter = limiter ∧ request.time = time

/-- All requests of a user that were let through were let through by one limiter, no more of them at an instant than its burst. -/
structure Limited (limits : APILimits rate) : Prop where
  one : ∀ request ∈ limits.admitted, ∀ other ∈ limits.admitted, request.userID = other.userID → request.limiter = other.limiter
  burst : ∀ userID time, limits.admittedAt userID time ≤ burst

/-- A limiter is stored only where none is, as it was when it was looked up. -/
def StoresFirst (limits : APILimits rate) (label : APILimitsStep) : Prop :=
  ∀ request userID, label = .create request → limits.requests request = some (.missing userID) → limits.apiLimiters.get? userID = none

/-- A check of the condition. -/
def storesFirst (limits : APILimits rate) : APILimitsStep → Bool
  | .create request =>
    match limits.requests request with
    | some (.missing userID) => (limits.apiLimiters.get? userID).isNone
    | _ => true
  | _ => true

theorem StoresFirst.of_check {limits : APILimits rate} {label : APILimitsStep} (checked : limits.storesFirst label = true) :
    limits.StoresFirst label := by
  rintro request userID rfl missing
  unfold storesFirst at checked
  dsimp only at checked
  rw [missing] at checked
  exact Option.isNone_iff_eq_none.mp checked

/-! ### Steps -/

/-- What one step can do. -/
inductive Stepped (before : APILimits rate) : APILimitsStep → APILimits rate → Prop where
  | found {request : Nat} {userID : String} {limiter : Nat} : before.apiLimiters.get? userID = some limiter →
      Stepped before (.lookUp request userID)
        { before with requests := Function.update before.requests request (some (.holds userID limiter)) }
  | missed {request : Nat} {userID : String} : before.apiLimiters.get? userID = none →
      Stepped before (.lookUp request userID)
        { before with requests := Function.update before.requests request (some (.missing userID)) }
  | created {request : Nat} {userID : String} : before.requests request = some (.missing userID) →
      Stepped before (.create request)
        { before with
          limiters := before.limiters ++ [rate.newLimiter limit APILimits.burst]
          apiLimiters := before.apiLimiters.set userID before.limiters.length
          requests := Function.update before.requests request (some (.holds userID before.limiters.length)) }
  | admitted {request : Nat} {userID : String} {limiter : Nat} {held : rate.Limiter} :
      before.requests request = some (.holds userID limiter) → before.limiters[limiter]? = some held →
      (rate.allow held before.now).1 = true →
      Stepped before (.allow request)
        { before with
          limiters := before.limiters.set limiter (rate.allow held before.now).2
          requests := Function.update before.requests request (some (.answered (.ok ())))
          admitted := before.admitted ++ [⟨userID, limiter, before.now⟩] }
  | refused {request : Nat} {userID : String} {limiter : Nat} {held : rate.Limiter} :
      before.requests request = some (.holds userID limiter) → before.limiters[limiter]? = some held →
      (rate.allow held before.now).1 = false →
      Stepped before (.allow request)
        { before with
          limiters := before.limiters.set limiter (rate.allow held before.now).2
          requests := Function.update before.requests request (some (.answered (.error tooManyRequests))) }
  | ticked {passed : Nat} : Stepped before (.tick passed) { before with now := before.now + passed }

theorem stepped_of_next? {before after : APILimits rate} {label : APILimitsStep}
    (taken : (system rate).next? before label = some after) : Stepped before label after := by
  cases label with
  | lookUp request userID =>
    change before.lookUp request userID = some after at taken
    unfold lookUp at taken
    split at taken
    · cases taken
    · cases taken
      cases stored : before.apiLimiters.get? userID with
      | none => exact .missed stored
      | some limiter => exact .found stored
  | create request =>
    change before.create request = some after at taken
    unfold create at taken
    split at taken
    · next missing =>
      cases taken
      exact .created missing
    · cases taken
  | allow request =>
    change before.allow request = some after at taken
    unfold allow at taken
    split at taken
    · next holds =>
      obtain ⟨held, isHeld, rfl⟩ := Option.map_eq_some_iff.mp taken
      cases allowed : (rate.allow held before.now).1 with
      | true => simpa [allowed] using Stepped.admitted holds isHeld allowed
      | false => simpa [allowed] using Stepped.refused holds isHeld allowed
    · cases taken
  | tick passed =>
    cases taken
    exact .ticked

/-! ### The tokens of a limiter -/

/-- At each instant, what a limiter has let through and what it would let through are within its burst. -/
structure Accounted (limits : APILimits rate) : Prop where
  made : ∀ request ∈ limits.admitted, request.limiter < limits.limiters.length
  past : ∀ request ∈ limits.admitted, request.time ≤ limits.now
  burst : ∀ (limiter : Nat) (held : rate.Limiter), limits.limiters[limiter]? = some held → rate.burst held = APILimits.burst
  tokens : ∀ (limiter : Nat) (held : rate.Limiter), limits.limiters[limiter]? = some held →
    limits.admittedBy limiter limits.now + rate.tokensAt held limits.now ≤ APILimits.burst
  instants : ∀ limiter time, limits.admittedBy limiter time ≤ APILimits.burst

section
variable {before : APILimits rate}

theorem Accounted.admittedBy_of_not_made (accounted : Accounted before) {limiter : Nat} (notMade : before.limiters.length ≤ limiter)
    (time : Nat) : before.admittedBy limiter time = 0 := by
  refine List.countP_eq_zero.mpr fun request member => ?_
  have made := accounted.made request member
  simp only [decide_eq_true_eq, not_and]
  omega

theorem Accounted.admittedBy_of_future (accounted : Accounted before) {time : Nat} (future : before.now < time) (limiter : Nat) :
    before.admittedBy limiter time = 0 := by
  refine List.countP_eq_zero.mpr fun request member => ?_
  have past := accounted.past request member
  simp only [decide_eq_true_eq, not_and]
  omega

theorem Accounted.created (lawful : rate.Lawful) (accounted : Accounted before) {apiLimiters : StringMap Nat}
    {requests : Nat → Option LimitedRequest} :
    Accounted { before with limiters := before.limiters ++ [rate.newLimiter limit APILimits.burst], apiLimiters, requests } where
  made request member := by
    rw [List.length_append]
    exact Nat.lt_add_right _ (accounted.made request member)
  past := accounted.past
  burst limiter held isHeld := by
    rcases List.mem_append.mp (List.mem_of_getElem? isHeld) with old | new
    · obtain ⟨index, isOld⟩ := List.mem_iff_getElem?.mp old
      exact accounted.burst index held isOld
    · rw [List.mem_singleton.mp new]
      exact lawful.burst_newLimiter _ _
  tokens limiter held isHeld := by
    change before.admittedBy limiter before.now + rate.tokensAt held before.now ≤ APILimits.burst
    by_cases old : limiter < before.limiters.length
    · rw [List.getElem?_append_left old] at isHeld
      exact accounted.tokens limiter held isHeld
    · rw [List.getElem?_append_right (Nat.le_of_not_lt old)] at isHeld
      have new : held = rate.newLimiter limit APILimits.burst := List.mem_singleton.mp (List.mem_of_getElem? isHeld)
      have bound := lawful.tokensAt_le held before.now
      rw [new, lawful.burst_newLimiter, ← new] at bound
      rw [accounted.admittedBy_of_not_made (Nat.le_of_not_lt old), Nat.zero_add]
      exact bound
  instants := accounted.instants

theorem Accounted.ticked (lawful : rate.Lawful) (accounted : Accounted before) {passed : Nat} :
    Accounted { before with now := before.now + passed } where
  made := accounted.made
  past request member := (accounted.past request member).trans (Nat.le_add_right _ _)
  burst := accounted.burst
  tokens limiter held isHeld := by
    change before.admittedBy limiter (before.now + passed) + rate.tokensAt held (before.now + passed) ≤ APILimits.burst
    cases passed with
    | zero => exact accounted.tokens limiter held isHeld
    | succ passed =>
      rw [accounted.admittedBy_of_future (by omega), Nat.zero_add, ← accounted.burst limiter held isHeld]
      exact lawful.tokensAt_le _ _
  instants := accounted.instants

/-- What a limiter has once it is asked, and what the others have. -/
theorem getElem?_set_of_asked {limiters : List rate.Limiter} {limiter other : Nat} {asked held : rate.Limiter}
    (isHeld : (limiters.set limiter asked)[other]? = some held) :
    other = limiter ∧ held = asked ∨ other ≠ limiter ∧ limiters[other]? = some held := by
  rw [List.getElem?_set] at isHeld
  split at isHeld
  · next same =>
    split at isHeld
    · cases isHeld
      exact .inl ⟨same.symm, rfl⟩
    · cases isHeld
  · next differ => exact .inr ⟨Ne.symm differ, isHeld⟩

theorem Accounted.refused (lawful : rate.Lawful) (accounted : Accounted before) {limiter : Nat} {held : rate.Limiter}
    {requests : Nat → Option LimitedRequest} (isHeld : before.limiters[limiter]? = some held) :
    Accounted { before with limiters := before.limiters.set limiter (rate.allow held before.now).2, requests } where
  made request member := by
    rw [List.length_set]
    exact accounted.made request member
  past := accounted.past
  burst other asked isAsked := by
    rcases getElem?_set_of_asked isAsked with ⟨-, rfl⟩ | ⟨-, isOther⟩
    · rw [lawful.burst_allow]
      exact accounted.burst limiter held isHeld
    · exact accounted.burst other asked isOther
  tokens other asked isAsked := by
    change before.admittedBy other before.now + rate.tokensAt asked before.now ≤ APILimits.burst
    rcases getElem?_set_of_asked isAsked with ⟨rfl, rfl⟩ | ⟨-, isOther⟩
    · rw [lawful.tokensAt_allow]
      exact (Nat.add_le_add_left (Nat.sub_le _ _) _).trans (accounted.tokens other held isHeld)
    · exact accounted.tokens other asked isOther
  instants := accounted.instants

theorem admittedBy_append {after : APILimits rate} {admitted : AdmittedRequest} (appended : after.admitted = before.admitted ++ [admitted])
    (limiter time : Nat) : after.admittedBy limiter time =
      before.admittedBy limiter time + if admitted.limiter = limiter ∧ admitted.time = time then 1 else 0 := by
  unfold admittedBy
  rw [appended, List.countP_append, List.countP_singleton]
  simp only [decide_eq_true_eq]

theorem Accounted.admitted (lawful : rate.Lawful) (accounted : Accounted before) {userID : String} {limiter : Nat} {held : rate.Limiter}
    {requests : Nat → Option LimitedRequest} (isHeld : before.limiters[limiter]? = some held)
    (allowed : (rate.allow held before.now).1 = true) :
    Accounted
      { before with
        limiters := before.limiters.set limiter (rate.allow held before.now).2
        requests
        admitted := before.admitted ++ [⟨userID, limiter, before.now⟩] } := by
  have token := (lawful.allow_iff held before.now).mp allowed
  have within := accounted.tokens limiter held isHeld
  have refused : Accounted { before with limiters := before.limiters.set limiter (rate.allow held before.now).2, requests } :=
    accounted.refused lawful isHeld
  constructor
  · intro request member
    rcases List.mem_append.mp member with old | new
    · exact refused.made request old
    · rw [List.mem_singleton.mp new, List.length_set]
      exact (List.getElem?_eq_some_iff.mp isHeld).1
  · intro request member
    rcases List.mem_append.mp member with old | new
    · exact accounted.past request old
    · rw [List.mem_singleton.mp new]
  · exact refused.burst
  · intro other asked isAsked
    rw [admittedBy_append rfl]
    change before.admittedBy other before.now + _ + rate.tokensAt asked before.now ≤ APILimits.burst
    rcases getElem?_set_of_asked isAsked with ⟨rfl, rfl⟩ | ⟨differ, isOther⟩
    · rw [lawful.tokensAt_allow, if_pos ⟨rfl, rfl⟩]
      omega
    · rw [if_neg fun same => differ same.1.symm, Nat.add_zero]
      exact accounted.tokens other asked isOther
  · intro other time
    rw [admittedBy_append rfl]
    split
    · next same =>
      obtain ⟨isLimiter, isNow⟩ := same
      change limiter = other at isLimiter
      change before.now = time at isNow
      rw [← isLimiter, ← isNow]
      omega
    · exact accounted.instants other time

/-- What the limiters let through is within their burst in every run. -/
theorem accounted_of_reachable (lawful : rate.Lawful) {limits : APILimits rate} (reached : (system rate).Reachable limits) :
    Accounted limits := by
  refine reached.invariant ?_ ?_
  · rintro limits ⟨noLimiters, -, -, noneAdmitted⟩
    constructor <;> simp [noLimiters, noneAdmitted, admittedBy]
  · intro before label after accounted taken
    cases stepped_of_next? taken with
    | found => exact ⟨accounted.made, accounted.past, accounted.burst, accounted.tokens, accounted.instants⟩
    | missed => exact ⟨accounted.made, accounted.past, accounted.burst, accounted.tokens, accounted.instants⟩
    | created => exact accounted.created lawful
    | admitted _ isHeld allowed => exact accounted.admitted lawful isHeld allowed
    | refused _ isHeld _ => exact accounted.refused lawful isHeld
    | ticked => exact accounted.ticked lawful

end

/-! ### One limiter for each user -/

/-- The limiter that is stored for a user is the one that their requests hold and were let through by. -/
structure Shared (limits : APILimits rate) : Prop where
  held : ∀ request userID limiter, limits.requests request = some (.holds userID limiter) → limits.apiLimiters.get? userID = some limiter
  admitted : ∀ request ∈ limits.admitted, limits.apiLimiters.get? request.userID = some request.limiter

section
variable {before : APILimits rate}

/-- A request comes to hold the limiter that is stored, or none. -/
theorem Shared.update (shared : Shared before) {request : Nat} {stage : LimitedRequest} {now : Nat} {limiters : List rate.Limiter}
    (stored : ∀ userID limiter, stage = .holds userID limiter → before.apiLimiters.get? userID = some limiter) :
    Shared { before with now, limiters, requests := Function.update before.requests request (some stage) } where
  held other userID limiter holds := by
    dsimp only at holds ⊢
    by_cases same : other = request
    · subst same
      rw [Function.update_self, Option.some.injEq] at holds
      exact stored userID limiter holds
    · rw [Function.update_of_ne same] at holds
      exact shared.held other userID limiter holds
  admitted := shared.admitted

theorem Shared.created (shared : Shared before) {request : Nat} {userID : String} {limiter : Nat} {limiters : List rate.Limiter}
    (missing : before.apiLimiters.get? userID = none) :
    Shared
      { before with
        limiters
        apiLimiters := before.apiLimiters.set userID limiter
        requests := Function.update before.requests request (some (.holds userID limiter)) } := by
  -- Who has a limiter already is another user.
  have kept : ∀ other stored, before.apiLimiters.get? other = some stored →
      (before.apiLimiters.set userID limiter).get? other = some stored := by
    intro other stored isStored
    have differ : other ≠ userID := by
      rintro rfl
      rw [missing] at isStored
      cases isStored
    rw [StringMap.get?_set, if_neg differ]
    exact isStored
  constructor
  · intro other user held holds
    dsimp only at holds ⊢
    by_cases same : other = request
    · subst same
      rw [Function.update_self] at holds
      cases holds
      rw [StringMap.get?_set, if_pos rfl]
    · rw [Function.update_of_ne same] at holds
      exact kept _ _ (shared.held other user held holds)
  · intro request member
    exact kept _ _ (shared.admitted request member)

theorem Shared.admit (shared : Shared before) {request : Nat} {userID : String} {limiter : Nat} {limiters : List rate.Limiter}
    (holds : before.requests request = some (.holds userID limiter)) :
    Shared
      { before with
        limiters
        requests := Function.update before.requests request (some (.answered (.ok ())))
        admitted := before.admitted ++ [⟨userID, limiter, before.now⟩] } where
  held := by
    have answered : Shared { before with limiters, requests := Function.update before.requests request (some (.answered (.ok ()))) } :=
      shared.update fun _ _ holds => nomatch holds
    exact answered.held
  admitted other member := by
    rcases List.mem_append.mp member with old | new
    · exact shared.admitted other old
    · rw [List.mem_singleton.mp new]
      exact shared.held request userID limiter holds

end

theorem shared_of_reachable {limits : APILimits rate} (reached : ((system rate).restrict StoresFirst).Reachable limits) :
    Shared limits := by
  refine System.Reachable.invariant_of_allowed ?_ ?_ reached
  · rintro limits ⟨-, -, noRequests, noneAdmitted⟩
    constructor <;> simp [noRequests, noneAdmitted]
  · intro before label after shared first taken
    cases stepped_of_next? taken with
    | found isStored =>
      refine shared.update fun userID limiter holds => ?_
      cases holds
      exact isStored
    | missed => exact shared.update fun _ _ holds => nomatch holds
    | created missing => exact shared.created (first _ _ rfl missing)
    | admitted holds _ _ => exact shared.admit holds
    | refused => exact shared.update fun _ _ holds => nomatch holds
    | ticked => exact ⟨shared.held, shared.admitted⟩

theorem limited_of_shared {limits : APILimits rate} (shared : Shared limits) (accounted : Accounted limits) : Limited limits where
  one request member other otherMember same := by
    have stored := shared.admitted request member
    rw [same, shared.admitted other otherMember] at stored
    exact (Option.some.inj stored).symm
  burst userID time := by
    cases stored : limits.apiLimiters.get? userID with
    | none =>
      have none : limits.admittedAt userID time = 0 := by
        refine List.countP_eq_zero.mpr fun request member => ?_
        simp only [decide_eq_true_eq, not_and]
        rintro rfl
        rw [shared.admitted request member] at stored
        cases stored
      omega
    | some limiter =>
      refine (List.countP_mono_left fun request member counted => ?_).trans (accounted.instants limiter time)
      simp only [decide_eq_true_eq] at counted ⊢
      have own := shared.admitted request member
      rw [counted.1, stored] at own
      exact ⟨(Option.some.inj own).symm, counted.2⟩

/-- In every run in which a limiter is stored only where none is, all requests of a user share one, and its burst. -/
theorem limited_of_storesFirst (lawful : rate.Lawful) {limits : APILimits rate}
    (reached : ((system rate).restrict StoresFirst).Reachable limits) : Limited limits :=
  limited_of_shared (shared_of_reachable reached) (accounted_of_reachable lawful reached.of_restrict)

/-! ### Two limiters of one user -/

def noRequests : APILimits (TokenBucket.limiter 1000) where
  now := 0
  limiters := []
  apiLimiters := .empty
  requests _ := none
  admitted := []

theorem reachable_noRequests : ((system (TokenBucket.limiter 1000)).restrict StoresFirst).Reachable noRequests :=
  .init ⟨rfl, rfl, fun _ => rfl, rfl⟩

/-- Two requests of a user, of which the second finds the limiter of the first. -/
def oneAfterTheOther : List APILimitsStep := [.lookUp 0 "user", .create 0, .lookUp 1 "user", .allow 1, .allow 0]

theorem limited_oneAfterTheOther : ∃ limits, (system (TokenBucket.limiter 1000)).run? noRequests oneAfterTheOther = some limits ∧
    limits.admitted = [⟨"user", 0, 0⟩, ⟨"user", 0, 0⟩] ∧ Limited limits := by
  have seen : ((system (TokenBucket.limiter 1000)).run? noRequests oneAfterTheOther).map admitted =
      some [⟨"user", 0, 0⟩, ⟨"user", 0, 0⟩] := by decide +kernel
  have meets : (system (TokenBucket.limiter 1000)).MeetsAlong StoresFirst noRequests oneAfterTheOther :=
    @System.MeetsAlong.of_check _ _ _ StoresFirst storesFirst _ _ (by decide +kernel) fun _ _ _ => .of_check
  obtain ⟨limits, ran, admitted⟩ := Option.map_eq_some_iff.mp seen
  have reached := reachable_noRequests.restrict_run meets ran
  exact ⟨limits, ran, admitted, limited_of_storesFirst (TokenBucket.lawful_limiter (by decide)) reached⟩

/-- The first two requests find no limiter. The others come before and after the second stores its own. -/
def atOnce : List APILimitsStep :=
  [.lookUp 0 "user", .lookUp 1 "user", .create 0] ++ (List.range' 2 9).map (fun request => .lookUp request "user") ++
    [.create 1] ++ (List.range' 11 9).map (fun request => .lookUp request "user") ++ (List.range 20).map .allow

theorem not_limited_atOnce : ∃ limits, (system (TokenBucket.limiter 1000)).run? noRequests atOnce = some limits ∧
    limits.admittedAt "user" 0 = 20 ∧ ¬Limited limits := by
  have seen : ((system (TokenBucket.limiter 1000)).run? noRequests atOnce).map (fun limits => limits.admittedAt "user" 0) = some 20 := by
    decide +kernel
  obtain ⟨limits, ran, admitted⟩ := Option.map_eq_some_iff.mp seen
  refine ⟨limits, ran, admitted, fun limited => ?_⟩
  have bound := limited.burst "user" 0
  rw [admitted] at bound
  exact absurd bound (by decide)

end APILimits

end Calls
