import Calls.Cluster.MutexRuns

/-! Holders whose key has expired. The key does not say whose it is: a refresh
of such a holder renews the key of the next one, and its `Unlock` deletes it. -/

set_option autoImplicit false

namespace Calls.Cluster

section
variable {μ γ : Type} [DecidableEq μ] [DecidableEq γ]

namespace MutexState

/-- A tick of the refresher of a goroutine's acquisition, or a step of its `Unlock`. -/
def IsOf (state : MutexState μ γ) (holder : γ) : MutexStep μ γ → Prop
  | .tick mutex _ | .stopped mutex => (state.callers holder).occupies? = some mutex
  | .unlock goroutine _ | .join goroutine | .delete goroutine _ | .leave goroutine => goroutine = holder
  | _ => False

/-- The key in the store is of the later acquisition of `next`. -/
structure Succeeded (state : MutexState μ γ) (holder next : γ) (entry : KVEntry) : Prop where
  expired : state.Inside holder
  holds : state.Inside next
  key : state.key = some entry
  acquired : entry.acquisition = state.acquired next
  later : state.acquired holder < state.acquired next

/-- A holder whose key has expired leaves the key of the next one as it is. -/
def ExpiredHarmless (before : MutexState μ γ) (label : MutexStep μ γ) (after : MutexState μ γ) : Prop :=
  ∀ holder next entry, before.Succeeded holder next entry → before.IsOf holder label → after.key = some entry

end MutexState

/-- Steps that can take the key out of the store. -/
def MutexStep.Removes : MutexStep μ γ → Prop
  | .expire => True
  | .delete _ reply => reply.Applied
  | _ => False

namespace MutexState

/-- The key of an acquisition is there, and nobody came in since the start. -/
structure Shut (start : MutexState μ γ) (acquisition : Nat) (state : MutexState μ γ) : Prop where
  key : state.key.map KVEntry.acquisition = some acquisition
  inside : ∀ g, state.Inside g → start.Inside g ∧ state.acquired g = start.acquired g

variable {start before after : MutexState μ γ} {acquisition : Nat}

omit [DecidableEq μ] in
theorem Shut.move (shut : start.Shut acquisition before) {g : γ} {caller : Caller μ}
    (callers : after.callers = Function.update before.callers g caller) (stays : caller.Inside → before.Inside g)
    (key : after.key = before.key) (acquired : after.acquired = before.acquired) : start.Shut acquisition after := by
  refine ⟨by rw [key]; exact shut.key, fun h inside => ?_⟩
  rw [acquired]
  rw [Inside, callers] at inside
  rcases inside_move inside with ⟨rfl, came⟩ | ⟨_, was⟩
  · exact shut.inside h (stays came)
  · exact shut.inside h was

theorem Effect.shut {label : MutexStep μ γ} (effect : Effect before label after) (held : UnlocksHeld before label)
    (stays : ¬ label.Removes) (shut : start.Shut acquisition before) : start.Shut acquisition after := by
  have present : before.key.isSome := by simpa using congrArg Option.isSome shut.key
  cases effect with
  | called | entered | retried | cancelled | warned | panicked | left => exact shut.move rfl False.elim rfl rfl
  | missed waits kept => exact shut.move rfl False.elim (kept present) rfl
  | acquired trying absent => simp [absent] at present
  | renewed | unrenewed => exact ⟨by rw [refreshLock_acquisition]; exact shut.key, shut.inside⟩
  | stopped => exact ⟨shut.key, shut.inside⟩
  | @stopping g m => exact shut.move rfl (fun _ => by rw [Inside, held]; trivial) rfl rfl
  | @joined g m joined waits => exact shut.move rfl (fun _ => by rw [Inside, waits]; trivial) rfl rfl
  | @deleted g m reply deleting => exact shut.move rfl False.elim (if_neg stays) rfl
  | expired => exact absurd trivial stays

/-- A tick leaves the key of whichever acquisition as it is but for its expiry,
and never makes a missing one: the refresher then returns. -/
theorem tick_acquisition {m : μ} {reply : KVReply} (taken : before.next? (.tick m reply) = some after) :
    after.key.map KVEntry.acquisition = before.key.map KVEntry.acquisition ∧
      (before.key = none → ¬ (after.mutexes m).Refreshes) := by
  have kept := refreshLock_acquisition before.key reply
  simp only [next?, tick?] at taken
  split at taken
  · split at taken
    · next renewed =>
      cases taken
      exact ⟨kept, fun absent => by simp [absent] at renewed⟩
    · cases taken
      exact ⟨kept, fun _ => by simp [setMutex, Mutex.refresherReturns, Mutex.Refreshes]⟩
  · cases taken

end MutexState

end

/-- The key of the first holder expires and the second one's is set. -/
def succession : List (MutexStep Nat Nat) :=
  [.lock 1 1, .enter 1, .attempt 1 .answered, .expire, .lock 2 2, .enter 2, .attempt 2 .answered]

/-- The first holder's refresher renews the second one's key, its `Unlock`
deletes the key, and a third goroutine comes in. -/
def unlockOfExpired : List (MutexStep Nat Nat) := [.tick 1 .answered, .unlock 1 1, .stopped 1, .join 1]

def thirdEnters : List (MutexStep Nat Nat) := [.delete 1 .answered, .lock 3 3, .enter 3, .attempt 3 .answered]

/-- The refreshers of both holders tick, and the third goroutine's attempt
fails; the deletion of the first one is refused. -/
def deletionRefused : List (MutexStep Nat Nat) :=
  unlockOfExpired ++ [.tick 2 .answered, .lock 3 3, .enter 3, .attempt 3 .lost, .delete 1 .refused]

end Calls.Cluster
