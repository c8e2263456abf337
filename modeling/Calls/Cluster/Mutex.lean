import Mathlib.Logic.Function.Basic

/-! A mutex of the cluster: the in-process mutex of one plugin instance, the
channels of its refresher, and the key in the store that the instances share. -/

set_option autoImplicit false

namespace Calls.Cluster

inductive Chan where
  | opened
  | closed
  deriving DecidableEq

/-- The key of the mutex while it is in the store. The store knows the value
alone; which acquisition set it, and how often its expiry was renewed since, is
kept to tell keys apart. -/
structure KVEntry where
  value : List UInt8
  acquisition : Nat
  renewals : Nat
  deriving DecidableEq

/-- How the store answers a request: as it was carried out, with an error
instead of carrying it out, or with an error after all. -/
inductive KVReply where
  | answered
  | refused
  | lost
  deriving DecidableEq

namespace KVReply

def Applied (reply : KVReply) : Prop := reply ≠ refused

instance (reply : KVReply) : Decidable reply.Applied := inferInstanceAs (Decidable (reply ≠ refused))

end KVReply

/-- `KVSetWithOptions` with `Atomic`: the key is written if it has the old
value, or is missing where there is none. The second result is `err == nil && ok`. -/
def kvSetWithOptions (key : Option KVEntry) (oldValue : Option (List UInt8)) (written : KVEntry) (reply : KVReply) :
    Option KVEntry × Bool :=
  let ok := key.map KVEntry.value = oldValue
  (if reply.Applied ∧ ok then some written else key, decide (reply = .answered ∧ ok))

def kvDelete (key : Option KVEntry) (reply : KVReply) : Option KVEntry := if reply.Applied then none else key

/-- `tryLock`, as the acquisition with the given number. -/
def tryLock (key : Option KVEntry) (acquisition : Nat) (reply : KVReply) : Option KVEntry × Bool :=
  kvSetWithOptions key none ⟨[1], acquisition, 0⟩ reply

/-- `refreshLock`. What is written is the same lock again, whoever set it. -/
def refreshLock (key : Option KVEntry) (reply : KVReply) : Option KVEntry × Bool :=
  let renewed := key.elim ⟨[1], 0, 0⟩ fun entry => { entry with value := [1], renewals := entry.renewals + 1 }
  kvSetWithOptions key (some [1]) renewed reply

/-! ### The key -/

theorem tryLock_present (entry : KVEntry) (acquisition : Nat) (reply : KVReply) :
    tryLock (some entry) acquisition reply = (some entry, false) := by
  simp [tryLock, kvSetWithOptions]

theorem tryLock_absent (acquisition : Nat) (reply : KVReply) :
    tryLock none acquisition reply =
      (if reply.Applied then some ⟨[1], acquisition, 0⟩ else none, decide (reply = .answered)) := by
  simp [tryLock, kvSetWithOptions]

/-- A missing key is not brought back by a refresh. -/
@[simp] theorem refreshLock_absent (reply : KVReply) : refreshLock none reply = (none, false) := by
  simp [refreshLock, kvSetWithOptions]

/-- A refresh leaves the acquisition of the key as it is. -/
theorem refreshLock_acquisition (key : Option KVEntry) (reply : KVReply) :
    (refreshLock key reply).1.map KVEntry.acquisition = key.map KVEntry.acquisition := by
  cases key with
  | none => simp
  | some entry =>
    simp only [refreshLock, kvSetWithOptions]
    split <;> rfl

theorem refreshLock_isSome (key : Option KVEntry) (reply : KVReply) :
    (refreshLock key reply).1.isSome = key.isSome := by
  simpa using congrArg Option.isSome (refreshLock_acquisition key reply)

/-! ### The mutex of one instance -/

structure Mutex where
  /-- `mut` -/
  locked : Bool
  stopCh : Option Chan
  doneCh : Option Chan
  deriving DecidableEq

/-- What `Unlock` comes to before it waits for the refresher. -/
inductive Unlocking where
  /-- `TryLock` succeeded: the mutex was not locked. It is released again when `Unlock` returns. -/
  | warned (mutex : Mutex)
  | stopping (mutex : Mutex)
  /-- A nil channel or a closed one is closed. The deferred unlock still runs. -/
  | panicked (mutex : Mutex)
  deriving DecidableEq

namespace Mutex

def new : Mutex := ⟨false, none, none⟩

/-- `m.mut.Lock()`, when it does not wait. -/
def enter? (mutex : Mutex) : Option Mutex := if mutex.locked then none else some { mutex with locked := true }

def leave (mutex : Mutex) : Mutex := { mutex with locked := false }

/-- The channels that a successful `Lock` makes for its refresher. -/
def acquired (mutex : Mutex) : Mutex := { mutex with stopCh := some .opened, doneCh := some .opened }

/-- The refresher runs until it closes its channel. -/
def Refreshes (mutex : Mutex) : Prop := mutex.doneCh = some .opened

instance (mutex : Mutex) : Decidable mutex.Refreshes := inferInstanceAs (Decidable (mutex.doneCh = some .opened))

def refresherReturns (mutex : Mutex) : Mutex := { mutex with doneCh := some .closed }

/-- `Unlock` until it waits for the refresher. -/
def unlock (mutex : Mutex) : Unlocking :=
  if mutex.locked then
    match mutex.stopCh with
    | some .opened => .stopping { mutex with stopCh := some .closed }
    | _ => .panicked mutex.leave
  else .warned { mutex with locked := true }

/-- `<-m.doneCh`, when it does not wait. -/
def join? (mutex : Mutex) : Option Mutex :=
  if mutex.doneCh = some .closed then some { mutex with stopCh := none, doneCh := none } else none

theorem join?_locked {mutex joined : Mutex} (done : mutex.join? = some joined) : joined.locked = mutex.locked := by
  unfold join? at done
  split at done <;> cases done
  rfl

end Mutex

end Calls.Cluster
