import Calls.Cluster.MutexRuns

/-! The locks of calls as the operations of the plugin take and release them.
Of an operation only what it does with these locks is left, with the branches
where an acquisition fails; the locks are mutexes of the cluster. -/

set_option autoImplicit false

namespace Calls

open Cluster

/-- What an operation has still to do with the locks of calls. `again` tells an
acquisition in the middle of an operation, after the lock was given up for a while. -/
inductive CallPath where
  | done
  | lockCall (channelID : String) (again : Bool) (locked failed : CallPath)
  | getCallState (channelID : String) (again : Bool) (loaded failed : CallPath)
  | unlockCall (channelID : String) (next : CallPath)
  | either (left right : CallPath)
  deriving DecidableEq

namespace CallPath

/-- The lock that the operation takes next. -/
def locks? : CallPath → Option String
  | lockCall channelID _ _ _ => some channelID
  | _ => none

theorem exists_of_locks? {path : CallPath} {channelID : String} (locks : path.locks? = some channelID) :
    ∃ again locked failed, path = lockCall channelID again locked failed := by
  cases path with
  | lockCall _ again locked failed => cases locks; exact ⟨again, locked, failed, rfl⟩
  | _ => cases locks

/-- The lock that the operation releases next. -/
def unlocks? : CallPath → Option String
  | unlockCall channelID _ => some channelID
  | _ => none

theorem exists_of_unlocks? {path : CallPath} {channelID : String} (unlocks : path.unlocks? = some channelID) :
    ∃ next, path = unlockCall channelID next := by
  cases path with
  | unlockCall _ next => cases unlocks; exact ⟨next, rfl⟩
  | _ => cases unlocks

def lockCallReturnState (channelID : String) (again : Bool) (locked failed : CallPath) : CallPath :=
  lockCall channelID again (getCallState channelID again locked (unlockCall channelID failed)) failed

/-- The lock is given up while the job service is called. -/
def startTranscribingJob (callID : String) (returned : CallPath) : CallPath :=
  either returned (unlockCall callID (lockCallReturnState callID true returned returned))

def startRecordingJob (callID : String) (returned : CallPath) : CallPath :=
  either returned
    (unlockCall callID
      (lockCallReturnState callID true (either returned (startTranscribingJob callID returned)) returned))

/-- The lock is released by a deferred call, however `startRecordingJob` returned. -/
def handleRecordingAction (callID : String) : CallPath :=
  let returned := unlockCall callID done
  either done (lockCallReturnState callID false (either returned (startRecordingJob callID returned)) done)

/-- A call whose lock cannot be taken is passed over. -/
def cleanUpState : List String → CallPath
  | [] => done
  | channelID :: channelIDs =>
    let next := cleanUpState channelIDs
    lockCall channelID false (either (unlockCall channelID next) (unlockCall channelID done)) next

end CallPath

inductive CallOperation where
  /-- Requests, client messages, host controls, checks for a timeout of a job,
  joins and leaves, alone or as a batch. -/
  | underLock (channelID : String)
  | recordingAction (callID : String)
  | cleanUp (channelIDs : List String)
  deriving DecidableEq

def CallOperation.path : CallOperation → CallPath
  | underLock channelID => .lockCallReturnState channelID false (.unlockCall channelID .done) .done
  | recordingAction callID => .handleRecordingAction callID
  | cleanUp channelIDs => .cleanUpState channelIDs

/-- The locks by channel, each with the nodes `μ` and goroutines `γ` of the cluster. -/
structure CallLocks (μ γ : Type) where
  locks : String → MutexState μ γ
  paths : γ → CallPath

inductive CallLockStep (μ γ : Type) where
  | start (goroutine : γ) (operation : CallOperation)
  | mutex (channelID : String) (label : MutexStep μ γ)
  | load (goroutine : γ) (ok : Bool)
  | choose (goroutine : γ) (left : Bool)

section
variable {μ γ : Type} [DecidableEq μ] [DecidableEq γ]

/-- The goroutine that takes the step. The refresher and the expiry have none. -/
def Cluster.MutexStep.goroutine? : MutexStep μ γ → Option γ
  | .lock goroutine _ | .enter goroutine | .attempt goroutine _ | .retry goroutine | .cancel goroutine
  | .unlock goroutine _ | .join goroutine | .delete goroutine _ | .leave goroutine => some goroutine
  | .tick _ _ | .stopped _ | .expire => none

/-- How the operation goes on when `Lock` or `Unlock` has returned. -/
def CallPath.follow (path : CallPath) (caller : Caller μ) : MutexStep μ γ → CallPath
  | .attempt _ _ =>
    match path, caller with
    | .lockCall _ _ locked _, .holding _ => locked
    | path, _ => path
  | .cancel _ =>
    match path with
    | .lockCall _ _ _ failed => failed
    | path => path
  | .leave _ =>
    match path with
    | .unlockCall _ next => next
    | path => path
  | _ => path

omit [DecidableEq μ] [DecidableEq γ] in
@[simp] theorem CallPath.follow_waiting (path : CallPath) (mutex : μ) (g : γ) (reply : KVReply) :
    path.follow (.waiting mutex) (.attempt g reply) = path := by
  cases path <;> rfl

namespace CallLocks

def initial : CallLocks μ γ := ⟨fun _ => .initial, fun _ => .done⟩

/-- A mutex is locked and unlocked by the operation that has come to it, at its node. -/
def Called (node : γ → μ) (state : CallLocks μ γ) (channelID : String) : MutexStep μ γ → Prop
  | .lock goroutine mutex => mutex = node goroutine ∧ (state.paths goroutine).locks? = some channelID
  | .unlock goroutine mutex => mutex = node goroutine ∧ (state.paths goroutine).unlocks? = some channelID
  | _ => True

instance (node : γ → μ) (state : CallLocks μ γ) (channelID : String) (label : MutexStep μ γ) :
    Decidable (state.Called node channelID label) :=
  match label with
  | .lock goroutine mutex =>
    inferInstanceAs (Decidable (mutex = node goroutine ∧ (state.paths goroutine).locks? = some channelID))
  | .unlock goroutine mutex =>
    inferInstanceAs (Decidable (mutex = node goroutine ∧ (state.paths goroutine).unlocks? = some channelID))
  | .enter _ | .attempt _ _ | .retry _ | .cancel _ | .tick _ _ | .stopped _ | .join _ | .delete _ _ | .leave _
  | .expire => isTrue trivial

def setPath (state : CallLocks μ γ) (goroutine : γ) (path : CallPath) : CallLocks μ γ :=
  { state with paths := Function.update state.paths goroutine path }

def setLock (state : CallLocks μ γ) (channelID : String) (lock : MutexState μ γ) : CallLocks μ γ :=
  { state with locks := Function.update state.locks channelID lock }

omit [DecidableEq μ] in
@[simp] theorem setPath_self (state : CallLocks μ γ) (g : γ) (path : CallPath) : (state.setPath g path).paths g = path := by
  simp [setPath]

omit [DecidableEq μ] in
@[simp] theorem setPath_other (state : CallLocks μ γ) {g h : γ} (other : h ≠ g) (path : CallPath) :
    (state.setPath g path).paths h = state.paths h := by
  simp [setPath, other]

omit [DecidableEq μ] in
@[simp] theorem setPath_locks (state : CallLocks μ γ) (g : γ) (path : CallPath) :
    (state.setPath g path).locks = state.locks := rfl

omit [DecidableEq μ] [DecidableEq γ] in
@[simp] theorem setLock_self (state : CallLocks μ γ) (channelID : String) (lock : MutexState μ γ) :
    (state.setLock channelID lock).locks channelID = lock := by
  simp [setLock]

omit [DecidableEq μ] [DecidableEq γ] in
@[simp] theorem setLock_other (state : CallLocks μ γ) {channelID other : String} (elsewhere : other ≠ channelID)
    (lock : MutexState μ γ) : (state.setLock channelID lock).locks other = state.locks other := by
  simp [setLock, elsewhere]

omit [DecidableEq μ] [DecidableEq γ] in
@[simp] theorem setLock_paths (state : CallLocks μ γ) (channelID : String) (lock : MutexState μ γ) :
    (state.setLock channelID lock).paths = state.paths := rfl

def mutex? (node : γ → μ) (state : CallLocks μ γ) (channelID : String) (label : MutexStep μ γ) :
    Option (CallLocks μ γ) :=
  if state.Called node channelID label then
    ((state.locks channelID).next? label).map fun lock =>
      match label.goroutine? with
      | some goroutine =>
        (state.setLock channelID lock).setPath goroutine
          ((state.paths goroutine).follow (lock.callers goroutine) label)
      | none => state.setLock channelID lock
  else none

def next? (node : γ → μ) (state : CallLocks μ γ) : CallLockStep μ γ → Option (CallLocks μ γ)
  | .start goroutine operation =>
    if state.paths goroutine = .done then some (state.setPath goroutine operation.path) else none
  | .mutex channelID label => state.mutex? node channelID label
  | .load goroutine ok =>
    match state.paths goroutine with
    | .getCallState _ _ loaded failed => some (state.setPath goroutine (if ok then loaded else failed))
    | _ => none
  | .choose goroutine left =>
    match state.paths goroutine with
    | .either first second => some (state.setPath goroutine (if left then first else second))
    | _ => none

end CallLocks

def callLocks (node : γ → μ) : System (CallLocks μ γ) (CallLockStep μ γ) where
  init state := state = .initial
  next? := CallLocks.next? node

/-- An operation that gave up the lock in its middle gets it back: the lock does
not time out, and the state loads. -/
def Relocks (state : CallLocks μ γ) : CallLockStep μ γ → Prop
  | .mutex _ (.cancel goroutine) => ∀ channelID locked failed, state.paths goroutine ≠ .lockCall channelID true locked failed
  | .load goroutine false => ∀ channelID loaded failed, state.paths goroutine ≠ .getCallState channelID true loaded failed
  | _ => True

/-! ### Every lock is released by its holder -/

namespace CallPath

/-- With the given lock held, the operation releases it once, unless an
acquisition in its middle fails. -/
def Balanced : CallPath → Option String → Prop
  | done, held => held = none
  | lockCall channelID again locked failed, held =>
    held = none ∧ locked.Balanced (some channelID) ∧ (again = false → failed.Balanced none)
  | getCallState channelID again loaded failed, held =>
    held = some channelID ∧ loaded.Balanced held ∧ (again = false → failed.Balanced held)
  | unlockCall channelID next, held => held = some channelID ∧ next.Balanced none
  | either left right, held => left.Balanced held ∧ right.Balanced held

variable {channelID : String} {path locked failed returned : CallPath} {held : Option String}

/-- No lock is held where one is taken. -/
theorem Balanced.free (balanced : path.Balanced held) (locks : path.locks? = some channelID) : held = none := by
  cases path with
  | lockCall => exact balanced.1
  | _ => cases locks

theorem Balanced.holds (balanced : path.Balanced held) (unlocks : path.unlocks? = some channelID) :
    held = some channelID := by
  cases path with
  | unlockCall => cases unlocks; exact balanced.1
  | _ => cases unlocks

theorem lockCallReturnState_balanced (locks : locked.Balanced (some channelID)) (fails : failed.Balanced none) :
    (lockCallReturnState channelID false locked failed).Balanced none :=
  ⟨rfl, ⟨rfl, locks, fun _ => ⟨rfl, fails⟩⟩, fun _ => fails⟩

/-- What follows a failed acquisition in the middle is of no matter. -/
theorem lockCallReturnState_again (locks : locked.Balanced (some channelID)) :
    (lockCallReturnState channelID true locked failed).Balanced none :=
  ⟨rfl, ⟨rfl, locks, nofun⟩, nofun⟩

theorem startTranscribingJob_balanced (returns : returned.Balanced (some channelID)) :
    (startTranscribingJob channelID returned).Balanced (some channelID) :=
  ⟨returns, rfl, lockCallReturnState_again returns⟩

theorem startRecordingJob_balanced (returns : returned.Balanced (some channelID)) :
    (startRecordingJob channelID returned).Balanced (some channelID) :=
  ⟨returns, rfl, lockCallReturnState_again ⟨returns, startTranscribingJob_balanced returns⟩⟩

theorem cleanUpState_balanced (channelIDs : List String) : (cleanUpState channelIDs).Balanced none := by
  induction channelIDs with
  | nil => rfl
  | cons channelID channelIDs ih => exact ⟨rfl, ⟨⟨rfl, ih⟩, rfl, rfl⟩, fun _ => ih⟩

end CallPath

theorem CallOperation.path_balanced (operation : CallOperation) : operation.path.Balanced none := by
  cases operation with
  | underLock channelID => exact CallPath.lockCallReturnState_balanced ⟨rfl, rfl⟩ rfl
  | recordingAction callID =>
    have returns : (CallPath.unlockCall callID .done).Balanced (some callID) := ⟨rfl, rfl⟩
    exact ⟨rfl, CallPath.lockCallReturnState_balanced ⟨returns, CallPath.startRecordingJob_balanced returns⟩ rfl⟩
  | cleanUp channelIDs => exact CallPath.cleanUpState_balanced channelIDs

/-- Where an operation is with the lock of a channel, by its path and the lock it holds. -/
def Agrees (node : μ) (path : CallPath) (held : Option String) (channelID : String) : Caller μ → Prop
  | .idle => held ≠ some channelID
  | .locking mutex | .trying mutex | .waiting mutex => mutex = node ∧ held = none ∧ path.locks? = some channelID
  | .holding mutex => mutex = node ∧ held = some channelID
  | .stopping mutex | .deleting mutex | .leaving mutex =>
    mutex = node ∧ held = some channelID ∧ path.unlocks? = some channelID
  | .panicked => False

section
variable {node : μ} {path next : CallPath} {held : Option String} {channelID : String} {caller : Caller μ}

omit [DecidableEq μ] in
theorem Agrees.idle (agrees : Agrees node path held channelID caller) (holdsNot : held ≠ some channelID)
    (locksNot : path.locks? ≠ some channelID) : caller = .idle := by
  cases caller with
  | idle => rfl
  | locking | trying | waiting => exact absurd agrees.2.2 locksNot
  | holding => exact absurd agrees.2 holdsNot
  | stopping | deleting | leaving => exact absurd agrees.2.1 holdsNot
  | panicked => exact agrees.elim

omit [DecidableEq μ] in
/-- Between an acquisition and a release the operation goes on by itself. -/
theorem Agrees.go (agrees : Agrees node path held channelID caller) (locksNot : path.locks? = none)
    (unlocksNot : path.unlocks? = none) : Agrees node next held channelID caller := by
  cases caller with
  | idle | holding => exact agrees
  | locking | trying | waiting => simp [locksNot, Agrees] at agrees
  | stopping | deleting | leaving => simp [unlocksNot, Agrees] at agrees
  | panicked => exact agrees.elim

omit [DecidableEq μ] in
theorem Agrees.holding (agrees : Agrees node path held channelID caller) (holds : held = some channelID)
    (starts : caller = .idle ∨ caller = .holding node) : caller = .holding node := by
  rcases starts with rfl | holding
  · exact absurd holds agrees
  · exact holding

end

namespace CallLocks

/-- The goroutine holds the given lock, or none, and will release it. -/
structure Keeps (node : γ → μ) (state : CallLocks μ γ) (goroutine : γ) (held : Option String) : Prop where
  balanced : (state.paths goroutine).Balanced held
  agrees : ∀ channelID, Agrees (node goroutine) (state.paths goroutine) held channelID
    ((state.locks channelID).callers goroutine)

structure Disciplined (node : γ → μ) (state : CallLocks μ γ) : Prop where
  keeps : ∀ goroutine, ∃ held, state.Keeps node goroutine held
  occupied : ∀ channelID, (state.locks channelID).Occupied

variable {node : γ → μ} {before after : CallLocks μ γ}

omit [DecidableEq μ] in
/-- The goroutine's path is another one, with the same lock held. -/
theorem Keeps.go {g : γ} {held : Option String} {path : CallPath} (keeps : before.Keeps node g held)
    (locksNot : (before.paths g).locks? = none) (unlocksNot : (before.paths g).unlocks? = none)
    (balanced : path.Balanced held) : (before.setPath g path).Keeps node g held := by
  constructor
  · simpa using balanced
  · intro channelID
    simpa using (keeps.agrees channelID).go locksNot unlocksNot

omit [DecidableEq μ] in
theorem Disciplined.setPath {g : γ} {held : Option String} {path : CallPath} (disciplined : before.Disciplined node)
    (keeps : (before.setPath g path).Keeps node g held) : (before.setPath g path).Disciplined node := by
  refine ⟨fun h => ?_, disciplined.occupied⟩
  by_cases same : h = g
  · subst same
    exact ⟨held, keeps⟩
  · obtain ⟨held, other⟩ := disciplined.keeps h
    exact ⟨held, by simpa [same] using other.balanced, fun channelID => by simpa [same] using other.agrees channelID⟩

/-- `Unlock` is called by a goroutine that holds the mutex. -/
theorem Disciplined.unlocksHeld {channelID : String} {label : MutexStep μ γ} {lock : MutexState μ γ}
    (disciplined : before.Disciplined node) (called : before.Called node channelID label)
    (taken : (before.locks channelID).next? label = some lock) : UnlocksHeld (before.locks channelID) label := by
  cases label with
  | unlock g m =>
    obtain ⟨rfl, unlocks⟩ := called
    obtain ⟨held, keeps⟩ := disciplined.keeps g
    refine (keeps.agrees channelID).holding (keeps.balanced.holds unlocks) ?_
    simp only [MutexState.next?, MutexState.unlock?] at taken
    split at taken
    · assumption
    · cases taken
  | _ => trivial

omit [DecidableEq μ] in
/-- One goroutine goes on with the lock of one channel. -/
theorem Disciplined.acts {g : γ} {channelID : String} {lock : MutexState μ γ} {caller : Caller μ}
    {path followed : CallPath} {held : Option String} (disciplined : before.Disciplined node) (occupied : lock.Occupied)
    (callers : lock.callers = Function.update (before.locks channelID).callers g caller) (follows : followed = path)
    (balanced : path.Balanced held) (here : Agrees (node g) path held channelID caller)
    (elsewhere : ∀ other, other ≠ channelID → Agrees (node g) path held other ((before.locks other).callers g)) :
    ((before.setLock channelID lock).setPath g followed).Disciplined node := by
  subst follows
  constructor
  · intro h
    by_cases same : h = g
    · subst same
      refine ⟨held, by simpa using balanced, fun other => ?_⟩
      by_cases this : other = channelID
      · subst this
        simpa [callers] using here
      · simpa [this] using elsewhere other this
    · obtain ⟨held, keeps⟩ := disciplined.keeps h
      refine ⟨held, by simpa [same] using keeps.balanced, fun other => ?_⟩
      have agrees := keeps.agrees other
      by_cases this : other = channelID
      · subst this
        simpa [callers, same] using agrees
      · simpa [this, same] using agrees
  · intro other
    by_cases this : other = channelID
    · subst this
      simpa using occupied
    · simpa [this] using disciplined.occupied other

omit [DecidableEq μ] [DecidableEq γ] in
/-- What the refresher and the expiry change is no goroutine's. -/
theorem Disciplined.setLock {channelID : String} {lock : MutexState μ γ} (disciplined : before.Disciplined node)
    (occupied : lock.Occupied) (callers : lock.callers = (before.locks channelID).callers) :
    (before.setLock channelID lock).Disciplined node := by
  constructor
  · intro g
    obtain ⟨held, keeps⟩ := disciplined.keeps g
    refine ⟨held, keeps.balanced, fun other => ?_⟩
    have agrees := keeps.agrees other
    by_cases this : other = channelID
    · subst this
      simpa [callers] using agrees
    · simpa [this] using agrees
  · intro other
    by_cases this : other = channelID
    · subst this
      simpa using occupied
    · simpa [this] using disciplined.occupied other

theorem Disciplined.mutex {channelID : String} {label : MutexStep μ γ} (disciplined : before.Disciplined node)
    (relocks : Relocks before (.mutex channelID label)) (taken : before.mutex? node channelID label = some after) :
    after.Disciplined node := by
  unfold mutex? at taken
  split at taken
  case isFalse => cases taken
  next called =>
  obtain ⟨lock, moved, rfl⟩ := Option.map_eq_some_iff.mp taken
  have unlocks := disciplined.unlocksHeld called moved
  have effect := MutexState.next?_effect moved
  have occupied := effect.occupied unlocks (disciplined.occupied channelID)
  have same {g : γ} {caller : Caller μ} {followed : CallPath} {held : Option String} (keeps : before.Keeps node g held)
      (callers : lock.callers = Function.update (before.locks channelID).callers g caller)
      (follows : followed = before.paths g) (here : Agrees (node g) (before.paths g) held channelID caller) :
      ((before.setLock channelID lock).setPath g followed).Disciplined node :=
    disciplined.acts occupied callers follows keeps.balanced here fun other _ => keeps.agrees other
  have agreed {g : γ} {caller : Caller μ} (at? : (before.locks channelID).callers g = caller) :
      ∃ held, before.Keeps node g held ∧ Agrees (node g) (before.paths g) held channelID caller := by
    obtain ⟨held, keeps⟩ := disciplined.keeps g
    exact ⟨held, keeps, at? ▸ keeps.agrees channelID⟩
  cases effect with
  | renewed | unrenewed | stopped | expired => exact disciplined.setLock occupied rfl
  | @called g m idle =>
    obtain ⟨held, keeps⟩ := disciplined.keeps g
    exact same keeps rfl rfl ⟨called.1, keeps.balanced.free called.2, called.2⟩
  | @entered g m waits free =>
    obtain ⟨held, keeps, agrees⟩ := agreed waits
    exact same keeps rfl rfl agrees
  | @retried g m waits =>
    obtain ⟨held, keeps, agrees⟩ := agreed waits
    exact same keeps rfl rfl agrees
  | @missed g m reply key trying kept =>
    obtain ⟨held, keeps, agrees⟩ := agreed trying
    refine same keeps rfl ?_ agrees
    simp [MutexState.move]
  | @acquired g m trying absent =>
    obtain ⟨held, keeps, rfl, rfl, locks⟩ := agreed trying
    obtain ⟨again, locked, failed, path⟩ := CallPath.exists_of_locks? locks
    have balanced := keeps.balanced
    rw [path] at balanced
    refine disciplined.acts occupied rfl ?_ balanced.2.1 ⟨rfl, rfl⟩ fun other elsewhere => ?_
    · simp [path, MutexState.move, CallPath.follow]
    · rw [(keeps.agrees other).idle nofun (by rw [locks]; simpa using elsewhere.symm)]
      simpa [Agrees] using elsewhere.symm
  | @cancelled g m waits =>
    obtain ⟨held, keeps, rfl, rfl, locks⟩ := agreed waits
    obtain ⟨again, locked, failed, path⟩ := CallPath.exists_of_locks? locks
    have balanced := keeps.balanced
    rw [path] at balanced
    -- The lock timed out, and this not in the middle of the operation.
    have fails := balanced.2.2 (by cases again with
      | false => rfl
      | true => exact absurd path (relocks channelID locked failed))
    refine disciplined.acts occupied rfl ?_ fails nofun fun other elsewhere => ?_
    · simp [path, CallPath.follow]
    · rw [(keeps.agrees other).idle nofun (by rw [locks]; simpa using elsewhere.symm)]
      nofun
  | @warned g m tried warned =>
    have fits := (disciplined.occupied channelID).fits g m (by rw [unlocks]; rfl)
    rw [unlocks] at fits
    simp [Mutex.unlock, fits.1, fits.2] at warned
  | @stopping g m closed came =>
    obtain ⟨held, keeps, agrees⟩ := agreed unlocks
    exact same keeps rfl rfl ⟨agrees.1, agrees.2, called.2⟩
  | @panicked g m left came =>
    exact absurd (by simp [MutexState.move]) (occupied.calm g)
  | @joined g m joined waits done =>
    obtain ⟨held, keeps, agrees⟩ := agreed waits
    exact same keeps rfl rfl agrees
  | @deleted g m reply waits =>
    obtain ⟨held, keeps, agrees⟩ := agreed waits
    exact same keeps rfl rfl agrees
  | @left g m leaving =>
    obtain ⟨held, keeps, rfl, rfl, releases⟩ := agreed leaving
    obtain ⟨next, path⟩ := CallPath.exists_of_unlocks? releases
    have balanced := keeps.balanced
    rw [path] at balanced
    refine disciplined.acts occupied rfl ?_ balanced.2 nofun fun other elsewhere => ?_
    · simp [path, CallPath.follow]
    · rw [(keeps.agrees other).idle (by simpa using elsewhere.symm) (by simp [path, CallPath.locks?])]
      nofun

theorem Disciplined.step {label : CallLockStep μ γ} (disciplined : before.Disciplined node)
    (relocks : Relocks before label) (taken : before.next? node label = some after) : after.Disciplined node := by
  cases label with
  | mutex channelID label => exact disciplined.mutex relocks taken
  | start g operation =>
    simp only [next?] at taken
    split at taken <;> cases taken
    next finished =>
    obtain ⟨held, keeps⟩ := disciplined.keeps g
    have balanced := keeps.balanced
    rw [finished] at balanced
    cases (balanced : held = none)
    exact disciplined.setPath (keeps.go (by rw [finished]; rfl) (by rw [finished]; rfl) operation.path_balanced)
  | load g ok =>
    simp only [next?] at taken
    split at taken <;> cases taken
    next channelID again loaded failed path =>
    obtain ⟨held, keeps⟩ := disciplined.keeps g
    have balanced := keeps.balanced
    rw [path] at balanced
    refine disciplined.setPath (keeps.go (by rw [path]; rfl) (by rw [path]; rfl) ?_)
    cases ok with
    | true => exact balanced.2.1
    | false =>
      refine balanced.2.2 ?_
      cases again with
      | false => rfl
      | true => exact absurd path (relocks channelID loaded failed)
  | choose g left =>
    simp only [next?] at taken
    split at taken <;> cases taken
    next first second path =>
    obtain ⟨held, keeps⟩ := disciplined.keeps g
    have balanced := keeps.balanced
    rw [path] at balanced
    refine disciplined.setPath (keeps.go (by rw [path]; rfl) (by rw [path]; rfl) ?_)
    cases left with
    | true => exact balanced.1
    | false => exact balanced.2

/-- A lock is released by the operation that holds it, and no release closes a
channel that is nil or closed. -/
structure Owned (node : γ → μ) (state : CallLocks μ γ) : Prop where
  unlocks : ∀ channelID g m after, state.next? node (.mutex channelID (.unlock g m)) = some after →
    (state.locks channelID).callers g = .holding m
  calm : ∀ channelID g, (state.locks channelID).callers g ≠ .panicked

theorem Disciplined.owned (disciplined : before.Disciplined node) : before.Owned node := by
  refine ⟨fun channelID g m after taken => ?_, fun channelID => (disciplined.occupied channelID).calm⟩
  simp only [next?, mutex?] at taken
  split at taken
  · next called =>
    obtain ⟨lock, moved, _⟩ := Option.map_eq_some_iff.mp taken
    exact disciplined.unlocksHeld called moved
  · cases taken

end CallLocks

/-- In runs where every acquisition in the middle of an operation succeeds,
every lock of a call is released by its holder. -/
theorem locksOwned_of_relocks (node : γ → μ) (state : CallLocks μ γ)
    (reached : ((callLocks node).restrict Relocks).Reachable state) : state.Owned node := by
  have disciplined : state.Disciplined node := by
    refine System.Reachable.invariant_of_allowed ?_ ?_ reached
    · intro state start
      rw [show state = .initial from start]
      exact ⟨fun _ => ⟨none, rfl, fun _ => nofun⟩, fun _ => ⟨nofun, nofun, nofun⟩⟩
    · exact fun before label after disciplined relocks taken => disciplined.step relocks taken
  exact disciplined.owned

end

/-- All goroutines run on one node. -/
def onOneNode : Nat → Nat := fun _ => 0

/-- A goroutine's `Lock` at the given channel, and its `Unlock`. -/
def locksIn (channelID : String) (goroutine : Nat) : List (CallLockStep Nat Nat) :=
  [.lock goroutine 0, .enter goroutine, .attempt goroutine .answered].map (CallLockStep.mutex channelID)

def unlocksIn (channelID : String) (goroutine : Nat) : List (CallLockStep Nat Nat) :=
  [.unlock goroutine 0, .stopped 0, .join goroutine, .delete goroutine .answered, .leave goroutine].map
    (CallLockStep.mutex channelID)

/-- A recording is started, up to the call of the job service. -/
def recordingGivesWay : List (CallLockStep Nat Nat) :=
  [.start 1 (.recordingAction "town"), .choose 1 false] ++ locksIn "town" 1 ++
    [.load 1 true, .choose 1 false, .choose 1 false] ++ unlocksIn "town" 1

/-- The store does not answer until the request to lock again times out. -/
def relockTimesOut : List (CallLockStep Nat Nat) :=
  [.lock 1 0, .enter 1, .attempt 1 .refused, .cancel 1].map (CallLockStep.mutex "town")

/-- A second operation locks before the deferred unlock of the first one, or still waits for the store. -/
def thenLocked : List (CallLockStep Nat Nat) :=
  recordingGivesWay ++ relockTimesOut ++ [.start 2 (.underLock "town")] ++ locksIn "town" 2

def thenWaiting : List (CallLockStep Nat Nat) :=
  recordingGivesWay ++ relockTimesOut ++ [.start 2 (.underLock "town"), .mutex "town" (.lock 2 0), .mutex "town" (.enter 2)]

/-- The deferred unlock stops the refresher of the second operation, or closes a nil channel. -/
theorem not_locksOwned :
    (¬ ∀ state, (callLocks onOneNode).Reachable state → state.Owned onOneNode) ∧
    ∃ state, (callLocks onOneNode).Reachable state ∧ (state.locks "town").callers 1 = .stopping 0 ∧
      (state.locks "town").callers 2 = .holding 0 := by
  have start : (callLocks onOneNode).Reachable .initial := .init rfl
  constructor
  · intro owned
    have ended : ((callLocks onOneNode).run? .initial (thenWaiting ++ [.mutex "town" (.unlock 1 0)])).any
        (fun state => (state.locks "town").callers 1 = .panicked) = true := by decide +kernel
    obtain ⟨state, ran, panicked⟩ := (Option.any_eq_true _ _).mp ended
    exact (owned state (start.run ran)).calm "town" 1 (of_decide_eq_true panicked)
  · have ended : ((callLocks onOneNode).run? .initial (thenLocked ++ [.mutex "town" (.unlock 1 0)])).any
        (fun state => (state.locks "town").callers 1 = .stopping 0 ∧ (state.locks "town").callers 2 = .holding 0) =
          true := by decide +kernel
    obtain ⟨state, ran, facts⟩ := (Option.any_eq_true _ _).mp ended
    exact ⟨state, start.run ran, of_decide_eq_true facts⟩

/-- The lock is got back, while a second operation gives up waiting for it in the store. -/
def thenRelocked : List (CallLockStep Nat Nat) :=
  [.start 2 (.underLock "town"), .mutex "town" (.lock 2 0), .mutex "town" (.enter 2), .mutex "town" (.attempt 2 .refused),
    .mutex "town" (.cancel 2)] ++ recordingGivesWay ++ locksIn "town" 1 ++ [.load 1 true, .choose 1 true]

def relocks (state : CallLocks Nat Nat) : CallLockStep Nat Nat → Bool
  | .mutex _ (.cancel goroutine) =>
    match state.paths goroutine with
    | .lockCall _ true _ _ => false
    | _ => true
  | .load goroutine false =>
    match state.paths goroutine with
    | .getCallState _ true _ _ => false
    | _ => true
  | _ => true

theorem relocks_sound (state : CallLocks Nat Nat) (label : CallLockStep Nat Nat) (checked : relocks state label = true) :
    Relocks state label := by
  cases label with
  | mutex channelID label =>
    cases label with
    | cancel => exact fun _ _ _ path => by simp [relocks, path] at checked
    | _ => trivial
  | load goroutine ok =>
    cases ok with
    | false => exact fun _ _ _ path => by simp [relocks, path] at checked
    | true => trivial
  | start | choose => trivial

theorem locksOwned_of_thenRelocked :
    ∃ state, (callLocks onOneNode).run? .initial thenRelocked = some state ∧
      (state.paths 1).unlocks? = some "town" ∧ state.Owned onOneNode := by
  have ended : ((callLocks onOneNode).run? .initial thenRelocked).any
      (fun state => (state.paths 1).unlocks? = some "town") = true := by decide +kernel
  obtain ⟨state, ran, unlocks⟩ := (Option.any_eq_true _ _).mp ended
  have meets : (callLocks onOneNode).MeetsAlong Relocks .initial thenRelocked :=
    .of_check (by decide +kernel : (callLocks onOneNode).checkAlong relocks .initial thenRelocked = true)
      fun state label _ => relocks_sound state label
  have start : ((callLocks onOneNode).restrict Relocks).Reachable .initial := .init rfl
  exact ⟨state, ran, of_decide_eq_true unlocks, locksOwned_of_relocks onOneNode state (start.restrict_run meets ran)⟩

end Calls
