import Calls.Library.System
import Mathlib.Data.List.Basic

/-! Threads that take and release locks. Two of them are crossed when each holds
a lock that the other one waits for. -/

set_option autoImplicit false

/-- What a thread has still to do with the locks. A choice is made by something
that is not modelled. -/
inductive LockProgram (κ : Type) where
  | done
  | acquire (lock : κ) (next : LockProgram κ)
  | release (lock : κ) (next : LockProgram κ)
  | either (left right : LockProgram κ)
  deriving DecidableEq

structure Thread (κ : Type) where
  held : List κ
  rest : LockProgram κ
  deriving DecidableEq

inductive LockStep (ι : Type) where
  | start (operation : ι)
  | run (thread : Nat)
  | choose (thread : Nat) (left : Bool)

section
variable {κ ι : Type} [DecidableEq κ]

/-- The locks that are taken before the given one is released. -/
def LockProgram.under (lock : κ) : LockProgram κ → List κ
  | .done => []
  | .acquire other next => other :: next.under lock
  | .release other next => if other = lock then [] else next.under lock
  | .either left right => left.under lock ++ right.under lock

def Thread.begin (program : LockProgram κ) : Thread κ := ⟨[], program⟩

/-- The thread is about to take the lock. -/
def Thread.Wants (thread : Thread κ) (lock : κ) : Prop := ∃ next, thread.rest = .acquire lock next

namespace Threads

def next? (programs : ι → LockProgram κ) (threads : List (Thread κ)) : LockStep ι → Option (List (Thread κ))
  | .start operation => some (threads ++ [.begin (programs operation)])
  | .run i =>
    match threads[i]? with
    | some ⟨held, .acquire lock next⟩ =>
      if threads.all fun other => lock ∉ other.held then some (threads.set i ⟨lock :: held, next⟩) else none
    | some ⟨held, .release lock next⟩ => some (threads.set i ⟨held.filter (· ≠ lock), next⟩)
    | _ => none
  | .choose i left =>
    match threads[i]? with
    | some ⟨held, .either first second⟩ => some (threads.set i ⟨held, if left then first else second⟩)
    | _ => none

/-- Everything a step can do. -/
inductive Effect (programs : ι → LockProgram κ) (threads : List (Thread κ)) : LockStep ι → List (Thread κ) → Prop where
  | started {operation : ι} : Effect programs threads (.start operation) (threads ++ [.begin (programs operation)])
  | acquired {i : Nat} {held : List κ} {lock : κ} {next : LockProgram κ} :
      threads[i]? = some ⟨held, .acquire lock next⟩ → (∀ other ∈ threads, lock ∉ other.held) →
      Effect programs threads (.run i) (threads.set i ⟨lock :: held, next⟩)
  | released {i : Nat} {held : List κ} {lock : κ} {next : LockProgram κ} :
      threads[i]? = some ⟨held, .release lock next⟩ →
      Effect programs threads (.run i) (threads.set i ⟨held.filter (· ≠ lock), next⟩)
  | chosen {i : Nat} {held : List κ} {first second chosen : LockProgram κ} {left : Bool} :
      threads[i]? = some ⟨held, .either first second⟩ → chosen = first ∨ chosen = second →
      Effect programs threads (.choose i left) (threads.set i ⟨held, chosen⟩)

theorem next?_effect {programs : ι → LockProgram κ} {threads after : List (Thread κ)} {label : LockStep ι}
    (taken : next? programs threads label = some after) : Effect programs threads label after := by
  cases label with
  | start operation => cases taken; exact .started
  | run i =>
    simp only [next?] at taken
    split at taken
    · next held lock next here =>
      split at taken
      · next free => cases taken; exact .acquired here (by simpa using free)
      · cases taken
    · next held lock next here => cases taken; exact .released here
    · cases taken
  | choose i left =>
    simp only [next?] at taken
    split at taken
    · next held first second here =>
      cases taken
      refine .chosen here ?_
      cases left
      · exact .inr rfl
      · exact .inl rfl
    · cases taken

end Threads

/-- Threads that run the programs of operations, each started any number of times. -/
def lockSystem (programs : ι → LockProgram κ) : System (List (Thread κ)) (LockStep ι) where
  init threads := threads = []
  next? := Threads.next? programs

/-- Two threads each hold a lock that the other one waits for. -/
def Crossed (threads : List (Thread κ)) (first second : κ) : Prop :=
  ∃ (i j : Nat) (ti tj : Thread κ), i ≠ j ∧ threads[i]? = some ti ∧ threads[j]? = some tj ∧
    first ∈ ti.held ∧ ti.Wants second ∧ second ∈ tj.held ∧ tj.Wants first

/-- No two threads each hold a lock that the other one takes before it gives its own back. -/
def Untangled (threads : List (Thread κ)) : Prop :=
  ∀ (i j : Nat) (ti tj : Thread κ), i ≠ j → threads[i]? = some ti → threads[j]? = some tj →
    ∀ first ∈ ti.held, ∀ second ∈ tj.held, second ∈ ti.rest.under first → first ∉ tj.rest.under second

/-- A lock is not taken by a thread that goes on to one which another thread
holds while it goes on to the first one. -/
def TakesApart (threads : List (Thread κ)) : LockStep ι → Prop
  | .run i => ∀ held lock next, threads[i]? = some ⟨held, .acquire lock next⟩ →
      ∀ (j : Nat) (other : Thread κ), j ≠ i → threads[j]? = some other →
        ∀ taken ∈ other.held, taken ∈ next.under lock → lock ∉ other.rest.under taken
  | _ => True

def takesApart (threads : List (Thread κ)) : LockStep ι → Bool
  | .run i =>
    match threads[i]? with
    | some ⟨_, .acquire lock next⟩ =>
      threads.zipIdx.all fun other => other.2 = i ||
        other.1.held.all fun taken => taken ∉ next.under lock || lock ∉ other.1.rest.under taken
    | _ => true
  | _ => true

theorem takesApart_sound {threads : List (Thread κ)} {label : LockStep ι} (checked : takesApart threads label = true) :
    TakesApart threads label := by
  cases label with
  | start | choose => trivial
  | run i =>
    intro held lock next here j other different there taken holds below above
    simp only [takesApart, here] at checked
    have found := List.all_eq_true.mp checked (other, j) (List.mk_mem_zipIdx_iff_getElem?.mpr there)
    simp only [Bool.or_eq_true, decide_eq_true_eq, different, false_or] at found
    have apart := List.all_eq_true.mp found taken holds
    simp [below, above] at apart

theorem Untangled.not_crossed {threads : List (Thread κ)} (untangled : Untangled threads) (first second : κ) :
    ¬ Crossed threads first second := by
  intro ⟨i, j, ti, tj, different, atI, atJ, holdsFirst, ⟨nextI, wantsSecond⟩, holdsSecond, ⟨nextJ, wantsFirst⟩⟩
  refine untangled i j ti tj different atI atJ first holdsFirst second holdsSecond ?_ ?_
  · rw [wantsSecond]
    exact List.mem_cons_self
  · rw [wantsFirst]
    exact List.mem_cons_self

/-- A thread that holds no more and takes no more under what it holds. -/
structure Thread.Within (after before : Thread κ) : Prop where
  held : ∀ lock ∈ after.held, lock ∈ before.held
  under : ∀ lock ∈ after.held, ∀ other ∈ after.rest.under lock, other ∈ before.rest.under lock

/-- Replacing a thread by one that is untangled from the others keeps them untangled. -/
theorem Untangled.set {threads : List (Thread κ)} (untangled : Untangled threads) {i : Nat} {thread : Thread κ}
    (apart : ∀ (j : Nat) (other : Thread κ), j ≠ i → threads[j]? = some other → ∀ first ∈ thread.held, ∀ second ∈ other.held,
      second ∈ thread.rest.under first → first ∉ other.rest.under second) : Untangled (threads.set i thread) := by
  intro a b ta tb different atA atB first holdsFirst second holdsSecond below above
  rw [List.getElem?_set] at atA atB
  split at atA
  · next here =>
    subst here
    split at atA
    · cases atA
      rw [if_neg different] at atB
      exact apart b tb (Ne.symm different) atB first holdsFirst second holdsSecond below above
    · cases atA
  · split at atB
    · next other here =>
      subst here
      split at atB
      · cases atB
        exact apart a ta different atA second holdsSecond first holdsFirst above below
      · cases atB
    · exact untangled a b ta tb different atA atB first holdsFirst second holdsSecond below above

theorem Untangled.within {threads : List (Thread κ)} (untangled : Untangled threads) {i : Nat} {before after : Thread κ}
    (here : threads[i]? = some before) (within : after.Within before) : Untangled (threads.set i after) := by
  refine untangled.set fun j other different there first holdsFirst second holdsSecond below => ?_
  exact untangled i j before other (Ne.symm different) here there first (within.held first holdsFirst) second
    holdsSecond (within.under first holdsFirst second below)

theorem Untangled.step {programs : ι → LockProgram κ} {threads after : List (Thread κ)} {label : LockStep ι}
    (untangled : Untangled threads) (apart : TakesApart threads label)
    (effect : Threads.Effect programs threads label after) : Untangled after := by
  cases effect with
  | @started operation =>
    intro a b ta tb different atA atB first holdsFirst second holdsSecond
    have old (k : Nat) (thread : Thread κ) (at? : (threads ++ [Thread.begin (programs operation)])[k]? = some thread) {lock : κ}
        (holds : lock ∈ thread.held) : threads[k]? = some thread := by
      rw [List.getElem?_append] at at?
      split at at?
      · exact at?
      · have new := List.mem_of_getElem? at?
        rw [List.mem_singleton] at new
        rw [new] at holds
        cases holds
    exact untangled a b ta tb different (old a ta atA holdsFirst) (old b tb atB holdsSecond) first holdsFirst second
      holdsSecond
  | @acquired i held lock next here free =>
    refine untangled.set fun j other different there first holdsFirst second holdsSecond below => ?_
    rcases List.mem_cons.mp holdsFirst with rfl | old
    · exact apart held first next here j other different there second holdsSecond below
    · exact untangled i j _ other (Ne.symm different) here there first old second holdsSecond
        (List.mem_cons_of_mem _ below)
  | @released i held lock next here =>
    refine untangled.within here ⟨fun kept holds => (List.mem_filter.mp holds).1, fun kept holds other below => ?_⟩
    have different : lock ≠ kept := Ne.symm (of_decide_eq_true (List.mem_filter.mp holds).2)
    simp only [LockProgram.under, if_neg different]
    exact below
  | @chosen i held first second chosen left here choice =>
    refine untangled.within here ⟨fun lock holds => holds, fun lock _ other below => ?_⟩
    rcases choice with rfl | rfl
    · exact List.mem_append_left _ below
    · exact List.mem_append_right _ below

theorem untangled_of_takesApart {programs : ι → LockProgram κ} {threads : List (Thread κ)}
    (reached : ((lockSystem programs).restrict TakesApart).Reachable threads) : Untangled threads := by
  refine System.Reachable.invariant_of_allowed ?_ ?_ reached
  · intro threads none a b ta tb _ atA
    rw [show threads = [] from none] at atA
    cases atA
  · exact fun before label after untangled apart taken => untangled.step apart (Threads.next?_effect taken)

/-! ### Locks in order -/

/-- Every lock that is taken under another one stands above it. -/
def LockProgram.Climbs (above : κ → κ → Prop) : LockProgram κ → Prop
  | .done => True
  | .acquire lock next => (∀ other ∈ next.under lock, above lock other) ∧ next.Climbs above
  | .release _ next => next.Climbs above
  | .either left right => left.Climbs above ∧ right.Climbs above

structure Thread.Climbs (above : κ → κ → Prop) (thread : Thread κ) : Prop where
  held : ∀ lock ∈ thread.held, ∀ other ∈ thread.rest.under lock, above lock other
  rest : thread.rest.Climbs above

def Threads.AllClimb (above : κ → κ → Prop) (threads : List (Thread κ)) : Prop := ∀ thread ∈ threads, thread.Climbs above

theorem Threads.Effect.climbs {above : κ → κ → Prop} {programs : ι → LockProgram κ} {threads after : List (Thread κ)}
    {label : LockStep ι} (effect : Threads.Effect programs threads label after)
    (ordered : ∀ operation, (programs operation).Climbs above) (climbs : Threads.AllClimb above threads) :
    Threads.AllClimb above after := by
  have set {i : Nat} {thread : Thread κ} (next : thread.Climbs above) :
      ∀ other ∈ threads.set i thread, other.Climbs above := by
    intro other listed
    rcases List.mem_or_eq_of_mem_set listed with old | rfl
    · exact climbs other old
    · exact next
  cases effect with
  | @started operation =>
    intro thread listed
    rcases List.mem_append.mp listed with old | new
    · exact climbs thread old
    · rw [List.mem_singleton.mp new]
      exact ⟨fun _ holds => absurd holds List.not_mem_nil, ordered operation⟩
  | @acquired i held lock next here free =>
    have before := climbs _ (List.mem_of_getElem? here)
    refine set ⟨fun taken holds other below => ?_, before.rest.2⟩
    rcases List.mem_cons.mp holds with rfl | old
    · exact before.rest.1 other below
    · exact before.held taken old other (List.mem_cons_of_mem _ below)
  | @released i held lock next here =>
    have before := climbs _ (List.mem_of_getElem? here)
    refine set ⟨fun kept holds other below => ?_, before.rest⟩
    obtain ⟨old, different⟩ := List.mem_filter.mp holds
    refine before.held kept old other ?_
    simp only [LockProgram.under, if_neg (Ne.symm (of_decide_eq_true different))]
    exact below
  | @chosen i held first second chosen left here choice =>
    have before := climbs _ (List.mem_of_getElem? here)
    rcases choice with rfl | rfl
    · exact set ⟨fun lock holds other below => before.held lock holds other (List.mem_append_left _ below), before.rest.1⟩
    · exact set ⟨fun lock holds other below => before.held lock holds other (List.mem_append_right _ below), before.rest.2⟩

/-- Threads that all take their locks in the same order are never crossed. -/
theorem untangled_of_climbs {above : κ → κ → Prop} (asymm : ∀ first second, above first second → ¬ above second first)
    {programs : ι → LockProgram κ} (ordered : ∀ operation, (programs operation).Climbs above)
    {threads : List (Thread κ)} (reached : (lockSystem programs).Reachable threads) : Untangled threads := by
  have climbs : Threads.AllClimb above threads := by
    refine System.Reachable.invariant ?_ ?_ reached
    · intro threads none thread listed
      rw [show threads = [] from none] at listed
      cases listed
    · exact fun before label after inv taken => (Threads.next?_effect taken).climbs ordered inv
  intro i j ti tj _ atI atJ first holdsFirst second holdsSecond below above
  exact asymm first second ((climbs ti (List.mem_of_getElem? atI)).held first holdsFirst second below)
    ((climbs tj (List.mem_of_getElem? atJ)).held second holdsSecond first above)

end
