import Calls.Cluster.Mutex
import Calls.Library.System

/-! The instances of a plugin and their goroutines lock and unlock mutexes of
one key. A step is what one goroutine or one refresher does with the mutex of an
instance or with the store; steps of different ones come in any order. -/

set_option autoImplicit false

namespace Calls.Cluster

/-- How far a goroutine is in `Lock` or `Unlock`, and with which mutex. -/
inductive Caller (μ : Type) where
  | idle
  | locking (mutex : μ)
  | trying (mutex : μ)
  | waiting (mutex : μ)
  | holding (mutex : μ)
  | stopping (mutex : μ)
  | deleting (mutex : μ)
  | leaving (mutex : μ)
  | panicked
  deriving DecidableEq

namespace Caller

variable {μ : Type}

/-- Between a successful `Lock` and the deletion of the key by `Unlock`. -/
def Inside : Caller μ → Prop
  | holding _ | stopping _ | deleting _ => True
  | _ => False

/-- The mutex whose in-process part the goroutine has locked. -/
def occupies? : Caller μ → Option μ
  | trying mutex | waiting mutex | holding mutex | stopping mutex | deleting mutex | leaving mutex => some mutex
  | _ => none

end Caller

/-- The mutexes `μ` of the instances, the goroutines `γ` and the key. Attempts to
set the key are counted; `acquired` is the number of the one that a goroutine's
latest `Lock` returned with. -/
structure MutexState (μ γ : Type) where
  key : Option KVEntry
  mutexes : μ → Mutex
  callers : γ → Caller μ
  acquired : γ → Nat
  attempts : Nat

inductive MutexStep (μ γ : Type) where
  | lock (goroutine : γ) (mutex : μ)
  | enter (goroutine : γ)
  | attempt (goroutine : γ) (reply : KVReply)
  | retry (goroutine : γ)
  | cancel (goroutine : γ)
  | tick (mutex : μ) (reply : KVReply)
  | stopped (mutex : μ)
  | unlock (goroutine : γ) (mutex : μ)
  | join (goroutine : γ)
  | delete (goroutine : γ) (reply : KVReply)
  | leave (goroutine : γ)
  | expire

section
variable {μ γ : Type} [DecidableEq μ] [DecidableEq γ]

namespace MutexState

def initial : MutexState μ γ := ⟨none, fun _ => .new, fun _ => .idle, fun _ => 0, 0⟩

def Inside (state : MutexState μ γ) (goroutine : γ) : Prop := (state.callers goroutine).Inside

def move (state : MutexState μ γ) (goroutine : γ) (caller : Caller μ) : MutexState μ γ :=
  { state with callers := Function.update state.callers goroutine caller }

def setMutex (state : MutexState μ γ) (mutex : μ) (value : Mutex) : MutexState μ γ :=
  { state with mutexes := Function.update state.mutexes mutex value }

/-- `Lock` is entered. -/
def lock? (state : MutexState μ γ) (goroutine : γ) (mutex : μ) : Option (MutexState μ γ) :=
  match state.callers goroutine with
  | .idle => some (state.move goroutine (.locking mutex))
  | _ => none

/-- `m.mut.Lock()` -/
def enter? (state : MutexState μ γ) (goroutine : γ) : Option (MutexState μ γ) :=
  match state.callers goroutine with
  | .locking mutex =>
    (state.mutexes mutex).enter?.map fun entered => (state.setMutex mutex entered).move goroutine (.trying mutex)
  | _ => none

/-- One turn of the loop of `Lock`. What follows a successful set until `Lock`
returns is no one else's to see. -/
def attempt? (state : MutexState μ γ) (goroutine : γ) (reply : KVReply) : Option (MutexState μ γ) :=
  match state.callers goroutine with
  | .trying mutex =>
    let (key, locked) := tryLock state.key state.attempts reply
    let tried := { state with key := key, attempts := state.attempts + 1 }
    some <|
      if locked then
        { (tried.setMutex mutex (state.mutexes mutex).acquired).move goroutine (.holding mutex) with
          acquired := Function.update state.acquired goroutine state.attempts }
      else tried.move goroutine (.waiting mutex)
  | _ => none

/-- `time.After` in the loop of `Lock` -/
def retry? (state : MutexState μ γ) (goroutine : γ) : Option (MutexState μ γ) :=
  match state.callers goroutine with
  | .waiting mutex => some (state.move goroutine (.trying mutex))
  | _ => none

/-- `ctx.Done` in the loop of `Lock` -/
def cancel? (state : MutexState μ γ) (goroutine : γ) : Option (MutexState μ γ) :=
  match state.callers goroutine with
  | .waiting mutex => some ((state.setMutex mutex (state.mutexes mutex).leave).move goroutine .idle)
  | _ => none

/-- The refresher renews the key, or returns if it could not. -/
def tick? (state : MutexState μ γ) (mutex : μ) (reply : KVReply) : Option (MutexState μ γ) :=
  if (state.mutexes mutex).Refreshes then
    let (key, renewed) := refreshLock state.key reply
    let ticked := { state with key := key }
    some (if renewed then ticked else ticked.setMutex mutex (state.mutexes mutex).refresherReturns)
  else none

/-- The refresher sees that `stopCh` is closed. -/
def stopped? (state : MutexState μ γ) (mutex : μ) : Option (MutexState μ γ) :=
  if (state.mutexes mutex).Refreshes ∧ (state.mutexes mutex).stopCh = some .closed then
    some (state.setMutex mutex (state.mutexes mutex).refresherReturns)
  else none

/-- `Unlock` is called, by whomever. -/
def unlock? (state : MutexState μ γ) (goroutine : γ) (mutex : μ) : Option (MutexState μ γ) :=
  if state.callers goroutine = .idle ∨ state.callers goroutine = .holding mutex then
    some <|
      match (state.mutexes mutex).unlock with
      | .warned tried => (state.setMutex mutex tried).move goroutine (.leaving mutex)
      | .stopping closed => (state.setMutex mutex closed).move goroutine (.stopping mutex)
      | .panicked left => (state.setMutex mutex left).move goroutine .panicked
  else none

/-- `<-m.doneCh` in `Unlock` -/
def join? (state : MutexState μ γ) (goroutine : γ) : Option (MutexState μ γ) :=
  match state.callers goroutine with
  | .stopping mutex =>
    (state.mutexes mutex).join?.map fun joined => (state.setMutex mutex joined).move goroutine (.deleting mutex)
  | _ => none

/-- `KVDelete` in `Unlock` -/
def delete? (state : MutexState μ γ) (goroutine : γ) (reply : KVReply) : Option (MutexState μ γ) :=
  match state.callers goroutine with
  | .deleting mutex => some { state.move goroutine (.leaving mutex) with key := kvDelete state.key reply }
  | _ => none

/-- The deferred `m.mut.Unlock()` of `Unlock` -/
def leave? (state : MutexState μ γ) (goroutine : γ) : Option (MutexState μ γ) :=
  match state.callers goroutine with
  | .leaving mutex => some ((state.setMutex mutex (state.mutexes mutex).leave).move goroutine .idle)
  | _ => none

/-- The key has not been set or renewed for as long as it is kept. -/
def expire? (state : MutexState μ γ) : Option (MutexState μ γ) :=
  if state.key.isSome then some { state with key := none } else none

def next? (state : MutexState μ γ) : MutexStep μ γ → Option (MutexState μ γ)
  | .lock goroutine mutex => state.lock? goroutine mutex
  | .enter goroutine => state.enter? goroutine
  | .attempt goroutine reply => state.attempt? goroutine reply
  | .retry goroutine => state.retry? goroutine
  | .cancel goroutine => state.cancel? goroutine
  | .tick mutex reply => state.tick? mutex reply
  | .stopped mutex => state.stopped? mutex
  | .unlock goroutine mutex => state.unlock? goroutine mutex
  | .join goroutine => state.join? goroutine
  | .delete goroutine reply => state.delete? goroutine reply
  | .leave goroutine => state.leave? goroutine
  | .expire => state.expire?

/-! ### What a step can do -/

inductive Effect (before : MutexState μ γ) : MutexStep μ γ → MutexState μ γ → Prop where
  | called {g : γ} {m : μ} : before.callers g = .idle → Effect before (.lock g m) (before.move g (.locking m))
  | entered {g : γ} {m : μ} : before.callers g = .locking m → (before.mutexes m).locked = false →
      Effect before (.enter g) ((before.setMutex m { before.mutexes m with locked := true }).move g (.trying m))
  | acquired {g : γ} {m : μ} : before.callers g = .trying m → before.key = none →
      Effect before (.attempt g .answered)
        { (before.setMutex m (before.mutexes m).acquired).move g (.holding m) with
          key := some ⟨[1], before.attempts, 0⟩
          acquired := Function.update before.acquired g before.attempts
          attempts := before.attempts + 1 }
  | missed {g : γ} {m : μ} {reply : KVReply} {key : Option KVEntry} : before.callers g = .trying m →
      (before.key.isSome → key = before.key) →
      Effect before (.attempt g reply) { before.move g (.waiting m) with key := key, attempts := before.attempts + 1 }
  | retried {g : γ} {m : μ} : before.callers g = .waiting m → Effect before (.retry g) (before.move g (.trying m))
  | cancelled {g : γ} {m : μ} : before.callers g = .waiting m →
      Effect before (.cancel g) ((before.setMutex m (before.mutexes m).leave).move g .idle)
  | renewed {m : μ} {reply : KVReply} : (before.mutexes m).Refreshes →
      Effect before (.tick m reply) { before with key := (refreshLock before.key reply).1 }
  | unrenewed {m : μ} {reply : KVReply} : (before.mutexes m).Refreshes →
      Effect before (.tick m reply)
        { before.setMutex m (before.mutexes m).refresherReturns with key := (refreshLock before.key reply).1 }
  | stopped {m : μ} : (before.mutexes m).Refreshes →
      Effect before (.stopped m) (before.setMutex m (before.mutexes m).refresherReturns)
  | warned {g : γ} {m : μ} {tried : Mutex} : (before.mutexes m).unlock = .warned tried →
      Effect before (.unlock g m) ((before.setMutex m tried).move g (.leaving m))
  | stopping {g : γ} {m : μ} {closed : Mutex} : (before.mutexes m).unlock = .stopping closed →
      Effect before (.unlock g m) ((before.setMutex m closed).move g (.stopping m))
  | panicked {g : γ} {m : μ} {left : Mutex} : (before.mutexes m).unlock = .panicked left →
      Effect before (.unlock g m) ((before.setMutex m left).move g .panicked)
  | joined {g : γ} {m : μ} {joined : Mutex} : before.callers g = .stopping m →
      (before.mutexes m).join? = some joined →
      Effect before (.join g) ((before.setMutex m joined).move g (.deleting m))
  | deleted {g : γ} {m : μ} {reply : KVReply} : before.callers g = .deleting m →
      Effect before (.delete g reply) { before.move g (.leaving m) with key := kvDelete before.key reply }
  | left {g : γ} {m : μ} : before.callers g = .leaving m →
      Effect before (.leave g) ((before.setMutex m (before.mutexes m).leave).move g .idle)
  | expired : Effect before .expire { before with key := none }

theorem attempt?_effect {before after : MutexState μ γ} {g : γ} {reply : KVReply}
    (taken : before.attempt? g reply = some after) : Effect before (.attempt g reply) after := by
  unfold attempt? at taken
  split at taken
  · next m trying =>
    cases present : before.key with
    | some entry =>
      simp only [present, tryLock_present] at taken
      cases taken
      exact .missed trying fun _ => present.symm
    | none =>
      simp only [present, tryLock_absent] at taken
      cases reply with
      | answered => cases taken; exact .acquired trying present
      | refused | lost => cases taken; exact .missed trying (by simp [present])
  · cases taken

theorem tick?_effect {before after : MutexState μ γ} {m : μ} {reply : KVReply}
    (taken : before.tick? m reply = some after) : Effect before (.tick m reply) after := by
  unfold tick? at taken
  split at taken
  · next refreshes =>
    dsimp only at taken
    split at taken
    · cases taken; exact .renewed refreshes
    · cases taken; exact .unrenewed refreshes
  · cases taken

theorem unlock?_effect {before after : MutexState μ γ} {g : γ} {m : μ}
    (taken : before.unlock? g m = some after) : Effect before (.unlock g m) after := by
  unfold unlock? at taken
  split at taken
  · cases came : (before.mutexes m).unlock with
    | warned tried => rw [came] at taken; cases taken; exact .warned came
    | stopping closed => rw [came] at taken; cases taken; exact .stopping came
    | panicked left => rw [came] at taken; cases taken; exact .panicked came
  · cases taken

theorem next?_effect {before after : MutexState μ γ} {label : MutexStep μ γ}
    (taken : before.next? label = some after) : Effect before label after := by
  cases label with
  | attempt g reply => exact attempt?_effect taken
  | tick m reply => exact tick?_effect taken
  | unlock g m => exact unlock?_effect taken
  | lock g m =>
    simp only [next?, lock?] at taken
    split at taken <;> cases taken
    exact .called ‹_›
  | enter g =>
    simp only [next?, enter?] at taken
    split at taken
    · next m waits =>
      cases locked : (before.mutexes m).locked with
      | true => simp [Mutex.enter?, locked] at taken
      | false =>
        simp only [Mutex.enter?, locked] at taken
        cases taken
        exact .entered waits locked
    · cases taken
  | retry g =>
    simp only [next?, retry?] at taken
    split at taken <;> cases taken
    exact .retried ‹_›
  | cancel g =>
    simp only [next?, cancel?] at taken
    split at taken <;> cases taken
    exact .cancelled ‹_›
  | stopped m =>
    simp only [next?, stopped?] at taken
    split at taken
    · next both => cases taken; exact .stopped both.1
    · cases taken
  | join g =>
    simp only [next?, join?] at taken
    split at taken
    · next m stopping =>
      obtain ⟨joined, done, rfl⟩ := Option.map_eq_some_iff.mp taken
      exact .joined stopping done
    · cases taken
  | delete g reply =>
    simp only [next?, delete?] at taken
    split at taken <;> cases taken
    exact .deleted ‹_›
  | leave g =>
    simp only [next?, leave?] at taken
    split at taken <;> cases taken
    exact .left ‹_›
  | expire =>
    simp only [next?, expire?] at taken
    split at taken <;> cases taken
    exact .expired

end MutexState

/-- Any number of instances and goroutines. -/
def mutexSystem (μ γ : Type) [DecidableEq μ] [DecidableEq γ] : System (MutexState μ γ) (MutexStep μ γ) where
  init state := state = .initial
  next? := MutexState.next?

/-- `Unlock` is called by a goroutine that holds the mutex, its `Lock` having returned nil. -/
def UnlocksHeld (state : MutexState μ γ) : MutexStep μ γ → Prop
  | .unlock goroutine mutex => state.callers goroutine = .holding mutex
  | _ => True

/-- The key does not expire while a goroutine is inside. -/
def KeepsLease (state : MutexState μ γ) : MutexStep μ γ → Prop
  | .expire => ∀ goroutine, ¬ state.Inside goroutine
  | _ => True

/-! ### The in-process part -/

/-- What a goroutine that occupies a mutex knows of it. -/
def Caller.Fits (caller : Caller μ) (mutex : Mutex) : Prop :=
  mutex.locked = true ∧
    match caller with
    | .holding _ => mutex.stopCh = some .opened
    | .stopping _ => mutex.stopCh = some .closed
    | _ => True

namespace MutexState

/-- A mutex is occupied by one goroutine at most, as it fits it. -/
structure Occupied (state : MutexState μ γ) : Prop where
  fits : ∀ g m, (state.callers g).occupies? = some m → (state.callers g).Fits (state.mutexes m)
  alone : ∀ g h m, (state.callers g).occupies? = some m → (state.callers h).occupies? = some m → g = h
  calm : ∀ g, state.callers g ≠ .panicked

variable {before after : MutexState μ γ} {g : γ} {m : μ} {caller : Caller μ} {value : Mutex}

omit [DecidableEq μ] [DecidableEq γ] in
/-- A mutex that a goroutine occupies, or that is not locked, no other one occupies. -/
theorem Occupied.others (occupied : before.Occupied)
    (turn : (before.callers g).occupies? = some m ∨ (before.mutexes m).locked = false) :
    ∀ h, h ≠ g → (before.callers h).occupies? ≠ some m := by
  intro h different occupies
  rcases turn with mine | free
  · exact different (occupied.alone h g m occupies mine)
  · simpa [free] using (occupied.fits h m occupies).1

/-- A goroutine goes on with a mutex that no other one occupies. -/
theorem Occupied.move (occupied : before.Occupied)
    (turn : (before.callers g).occupies? = some m ∨ (before.mutexes m).locked = false)
    (callers : after.callers = Function.update before.callers g caller)
    (mutexes : after.mutexes = Function.update before.mutexes m value)
    (fits : caller.occupies? = none ∨ caller.occupies? = some m ∧ caller.Fits value) (calm : caller ≠ .panicked) :
    after.Occupied := by
  have others := occupied.others turn
  have mine {n : μ} (occupies : caller.occupies? = some n) : n = m ∧ caller.Fits value := by
    rcases fits with none | ⟨here, fits⟩
    · simp [none] at occupies
    · exact ⟨Option.some.inj (occupies.symm.trans here), fits⟩
  constructor
  · intro h n occupies
    rw [callers] at occupies ⊢
    rw [mutexes]
    by_cases same : h = g
    · subst same
      simp only [Function.update_self] at occupies ⊢
      obtain ⟨rfl, kept⟩ := mine occupies
      rwa [Function.update_self]
    · rw [Function.update_of_ne same] at occupies ⊢
      have elsewhere : n ≠ m := fun here => others h same (here ▸ occupies)
      rw [Function.update_of_ne elsewhere]
      exact occupied.fits h n occupies
  · intro h i n first second
    rw [callers] at first second
    by_cases sameH : h = g
    · subst sameH
      rw [Function.update_self] at first
      obtain ⟨rfl, _⟩ := mine first
      by_contra different
      rw [Function.update_of_ne (Ne.symm different)] at second
      exact others i (Ne.symm different) second
    · rw [Function.update_of_ne sameH] at first
      by_cases sameI : i = g
      · subst sameI
        rw [Function.update_self] at second
        obtain ⟨rfl, _⟩ := mine second
        exact absurd first (others h sameH)
      · rw [Function.update_of_ne sameI] at second
        exact occupied.alone h i n first second
  · intro h
    rw [callers]
    by_cases same : h = g
    · subst same
      rwa [Function.update_self]
    · rw [Function.update_of_ne same]
      exact occupied.calm h

omit [DecidableEq μ] in
/-- A goroutine goes on without a mutex. -/
theorem Occupied.outside (occupied : before.Occupied)
    (callers : after.callers = Function.update before.callers g caller) (mutexes : after.mutexes = before.mutexes)
    (none : caller.occupies? = none) (calm : caller ≠ .panicked) : after.Occupied := by
  have old {h : γ} {n : μ} (occupies : (after.callers h).occupies? = some n) : after.callers h = before.callers h := by
    rw [callers] at occupies ⊢
    refine Function.update_of_ne (fun same => ?_) _ _
    subst same
    simp [none] at occupies
  refine ⟨fun h n occupies => ?_, fun h i n first second => ?_, fun h => ?_⟩
  · have same := old occupies
    rw [same] at occupies ⊢
    rw [mutexes]
    exact occupied.fits h n occupies
  · exact occupied.alone h i n (old first ▸ first) (old second ▸ second)
  · rw [callers]
    by_cases same : h = g
    · subst same
      rwa [Function.update_self]
    · rw [Function.update_of_ne same]
      exact occupied.calm h

omit [DecidableEq γ] in
/-- The refresher's channel is no one's concern but its waiter's. -/
theorem Occupied.refresher (occupied : before.Occupied) (callers : after.callers = before.callers)
    (mutexes : after.mutexes = Function.update before.mutexes m (before.mutexes m).refresherReturns) :
    after.Occupied := by
  refine ⟨fun h n occupies => ?_, by rw [callers]; exact occupied.alone, by rw [callers]; exact occupied.calm⟩
  rw [callers] at occupies ⊢
  have fits := occupied.fits h n occupies
  rw [mutexes]
  by_cases same : n = m
  · subst same
    rw [Function.update_self]
    exact fits
  · rwa [Function.update_of_ne same]

theorem Effect.occupied {label : MutexStep μ γ} (effect : Effect before label after)
    (held : UnlocksHeld before label) (occupied : before.Occupied) : after.Occupied := by
  have fitsOf {g : γ} {m : μ} {caller : Caller μ} (here : before.callers g = caller) (at? : caller.occupies? = some m) :
      caller.Fits (before.mutexes m) := by
    have fits := occupied.fits g m (by rw [here, at?])
    rwa [here] at fits
  have turn {g : γ} {m : μ} {caller : Caller μ} (here : before.callers g = caller) (at? : caller.occupies? = some m) :
      (before.callers g).occupies? = some m ∨ (before.mutexes m).locked = false := .inl (by rw [here, at?])
  cases effect with
  | called => exact occupied.outside rfl rfl rfl nofun
  | @entered g m waits free => exact occupied.move (.inr free) rfl rfl (.inr ⟨rfl, rfl, trivial⟩) nofun
  | @acquired g m trying absent =>
    exact occupied.move (turn trying rfl) rfl rfl (.inr ⟨rfl, (fitsOf trying rfl).1, rfl⟩) nofun
  | @missed g m reply key trying kept =>
    exact occupied.move (turn trying rfl) rfl (Function.update_eq_self m _).symm
      (.inr ⟨rfl, (fitsOf trying rfl).1, trivial⟩) nofun
  | @retried g m waiting =>
    exact occupied.move (turn waiting rfl) rfl (Function.update_eq_self m _).symm
      (.inr ⟨rfl, (fitsOf waiting rfl).1, trivial⟩) nofun
  | @cancelled g m waiting => exact occupied.move (turn waiting rfl) rfl rfl (.inl rfl) nofun
  | renewed => exact ⟨occupied.fits, occupied.alone, occupied.calm⟩
  | unrenewed => exact occupied.refresher rfl rfl
  | stopped => exact occupied.refresher rfl rfl
  | @warned g m tried warned =>
    have fits := fitsOf held rfl
    simp [Mutex.unlock, fits.1, fits.2] at warned
  | @stopping g m closed came =>
    have fits := fitsOf held rfl
    simp only [Mutex.unlock, fits.1, fits.2, if_true] at came
    cases came
    exact occupied.move (turn held rfl) rfl rfl (.inr ⟨rfl, rfl, rfl⟩) nofun
  | @panicked g m left came =>
    have fits := fitsOf held rfl
    simp [Mutex.unlock, fits.1, fits.2] at came
  | @joined g m joined waits done =>
    refine occupied.move (turn waits rfl) rfl rfl (.inr ⟨rfl, ?_, trivial⟩) nofun
    rw [Mutex.join?_locked done]
    exact (fitsOf waits rfl).1
  | @deleted g m reply deleting =>
    exact occupied.move (turn deleting rfl) rfl (Function.update_eq_self m _).symm
      (.inr ⟨rfl, (fitsOf deleting rfl).1, trivial⟩) nofun
  | @left g m leaving => exact occupied.move (turn leaving rfl) rfl rfl (.inl rfl) nofun
  | expired => exact ⟨occupied.fits, occupied.alone, occupied.calm⟩

end MutexState

/-- Where `Unlock` is called by holders alone, it never closes a channel that is nil or closed. -/
theorem occupied_of_unlocksHeld (state : MutexState μ γ)
    (reached : ((mutexSystem μ γ).restrict UnlocksHeld).Reachable state) : state.Occupied := by
  refine System.Reachable.invariant_of_allowed ?_ ?_ reached
  · intro state start
    rw [show state = .initial from start]
    exact ⟨nofun, nofun, nofun⟩
  · exact fun before label after occupied held taken => (MutexState.next?_effect taken).occupied held occupied

/-! ### The key keeps all but one goroutine out -/

namespace MutexState

/-- Who is inside is alone, and the key is in the store. -/
structure Leased (state : MutexState μ γ) : Prop where
  key : ∀ g, state.Inside g → state.key.isSome
  alone : ∀ g h, state.Inside g → state.Inside h → g = h

omit [DecidableEq μ] in
theorem inside_move {state : MutexState μ γ} {g h : γ} {caller : Caller μ}
    (inside : (Function.update state.callers g caller h).Inside) : h = g ∧ caller.Inside ∨ h ≠ g ∧ state.Inside h := by
  by_cases same : h = g
  · subst same
    exact .inl ⟨rfl, by simpa using inside⟩
  · rw [Function.update_of_ne same] at inside
    exact .inr ⟨same, inside⟩

omit [DecidableEq μ] [DecidableEq γ] in
/-- A step that lets nobody in and leaves the key. -/
theorem Leased.of_subset {before after : MutexState μ γ} (leased : before.Leased)
    (subset : ∀ g, after.Inside g → before.Inside g) (key : before.key.isSome → after.key.isSome) : after.Leased :=
  ⟨fun g inside => key (leased.key g (subset g inside)),
    fun g h first second => leased.alone g h (subset g first) (subset h second)⟩

omit [DecidableEq μ] in
/-- A goroutine that goes on without coming in. -/
theorem Leased.move {before after : MutexState μ γ} (leased : before.Leased) {g : γ} {caller : Caller μ}
    (callers : after.callers = Function.update before.callers g caller) (stays : caller.Inside → before.Inside g)
    (key : before.key.isSome → after.key.isSome) : after.Leased := by
  refine leased.of_subset (fun h inside => ?_) key
  rw [Inside, callers] at inside
  rcases inside_move inside with ⟨rfl, came⟩ | ⟨_, was⟩
  · exact stays came
  · exact was

theorem Effect.leased {before after : MutexState μ γ} {label : MutexStep μ γ} (effect : Effect before label after)
    (held : UnlocksHeld before label) (keeps : KeepsLease before label) (leased : before.Leased) : after.Leased := by
  cases effect with
  | called | entered | retried | cancelled | warned | panicked | left => exact leased.move rfl False.elim id
  | missed waits kept =>
    refine leased.move rfl False.elim fun present => ?_
    rw [kept present]
    exact present
  | @acquired g m trying absent =>
    have nobody : ∀ h, ¬ before.Inside h := fun h inside => by simpa [absent] using leased.key h inside
    have only {h : γ} (inside : (Function.update before.callers g (.holding m) h).Inside) : h = g :=
      (inside_move inside).elim And.left fun was => absurd was.2 (nobody h)
    exact ⟨fun _ _ => rfl, fun h i first second => (only first).trans (only second).symm⟩
  | renewed | unrenewed =>
    exact leased.of_subset (fun _ => id) fun present => by rw [refreshLock_isSome]; exact present
  | stopped => exact leased.of_subset (fun _ => id) id
  | @stopping g m => exact leased.move rfl (fun _ => by rw [Inside, held]; trivial) id
  | @joined g m joined waits => exact leased.move rfl (fun _ => by rw [Inside, waits]; trivial) id
  | @deleted g m reply deleting =>
    have inside : before.Inside g := by rw [Inside, deleting]; trivial
    -- The key may go, for its holder was alone and is no longer inside.
    have nobody {h : γ} (after : (Function.update before.callers g (.leaving m) h).Inside) : False :=
      (inside_move after).elim And.right fun other => other.1 (leased.alone h g other.2 inside)
    exact ⟨fun h after => (nobody after).elim, fun h _ after => (nobody after).elim⟩
  | expired => exact ⟨fun g inside => absurd inside (keeps g), leased.alone⟩

end MutexState

end

/-- The first instance's goroutine locks, is refreshed and unlocks while the
second one's polls, of whose attempts one is lost; then the second one locks. -/
def oneAfterTheOther : List (MutexStep Nat Nat) :=
  [.lock 1 1, .lock 2 2, .enter 1, .enter 2, .attempt 1 .answered, .attempt 2 .lost, .tick 1 .answered, .unlock 1 1,
    .stopped 1, .join 1, .retry 2, .delete 1 .answered, .attempt 2 .answered, .leave 1]

def checkHeld (state : MutexState Nat Nat) : MutexStep Nat Nat → Bool
  | .unlock goroutine mutex => decide (state.callers goroutine = .holding mutex)
  | _ => true

theorem unlocksHeld_of_check {start : MutexState Nat Nat} {labels : List (MutexStep Nat Nat)}
    (checked : (mutexSystem Nat Nat).checkAlong checkHeld start labels = true) :
    (mutexSystem Nat Nat).MeetsAlong UnlocksHeld start labels := by
  refine .of_check checked fun state label _ held => ?_
  cases label with
  | unlock goroutine mutex => exact (of_decide_eq_true held : state.callers goroutine = .holding mutex)
  | _ => trivial

end Calls.Cluster
