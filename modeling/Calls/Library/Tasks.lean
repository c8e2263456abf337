import Mathlib.Algebra.BigOperators.Group.List.Basic

/-! Asynchronous programs over a state that they share. A program runs until it awaits the answer
to a request, and others run before the answer comes. What the programs in flight hold is accounted
for: an invariant of the state holds apart from that. -/

set_option autoImplicit false

/-- A program that reads and writes the state and awaits answers. With `call` it awaits the
procedure that all programs share, which begins with the request. Either way it leaves its
continuation behind and goes on with the rest. -/
inductive AsyncProgram (σ ρ υ : Type) where
  | stop
  | get (next : σ → AsyncProgram σ ρ υ)
  | set (state : σ) (next : AsyncProgram σ ρ υ)
  | await (request : ρ) (next : υ → AsyncProgram σ ρ υ) (rest : AsyncProgram σ ρ υ)
  | call (request : ρ) (next rest : AsyncProgram σ ρ υ)

/-- A program in flight: what it awaits and how it goes on. -/
structure AsyncTask (σ ρ υ : Type) where
  request : ρ
  resume : υ → AsyncProgram σ ρ υ

/-- The procedure that programs call: how it goes on from the answer to its first request, until it returns. -/
abbrev AsyncProcedure (σ ρ υ : Type) := ρ → υ → AsyncProgram σ ρ υ → AsyncProgram σ ρ υ

/-- Where nothing is called, the procedure returns at once. -/
def AsyncProcedure.returns {σ ρ υ : Type} : AsyncProcedure σ ρ υ := fun _ _ next => next

structure AsyncState (σ ρ υ : Type) where
  state : σ
  tasks : List (AsyncTask σ ρ υ)

/-- A computation that returns or throws, given how to go on from what it returns or throws. -/
def Async (σ ρ υ ε α : Type) := (Except ε α → AsyncProgram σ ρ υ) → AsyncProgram σ ρ υ

section
variable {σ ρ υ ε α β μ : Type}

namespace AsyncProgram

/-- Run up to where every part of the program awaits an answer. -/
def advance (procedure : AsyncProcedure σ ρ υ) : AsyncProgram σ ρ υ → σ → AsyncState σ ρ υ
  | stop, state => ⟨state, []⟩
  | get next, state => (next state).advance procedure state
  | set state next, _ => next.advance procedure state
  | await request next rest, state =>
    let after := rest.advance procedure state
    ⟨after.state, ⟨request, next⟩ :: after.tasks⟩
  | call request next rest, state =>
    let after := rest.advance procedure state
    ⟨after.state, ⟨request, fun answer => procedure request answer next⟩ :: after.tasks⟩

/-- Run a program up to where it awaits an answer, then another one. -/
def followedBy : AsyncProgram σ ρ υ → AsyncProgram σ ρ υ → AsyncProgram σ ρ υ
  | stop, other => other
  | get next, other => get fun state => (next state).followedBy other
  | set state next, other => set state (next.followedBy other)
  | await request next rest, other => await request next (rest.followedBy other)
  | call request next rest, other => call request next (rest.followedBy other)

end AsyncProgram

namespace AsyncState

variable (procedure : AsyncProcedure σ ρ υ)

def start (states : AsyncState σ ρ υ) (program : AsyncProgram σ ρ υ) : AsyncState σ ρ υ :=
  let after := program.advance procedure states.state
  ⟨after.state, states.tasks ++ after.tasks⟩

/-- The task at the given place is answered. -/
def resolve? (states : AsyncState σ ρ υ) (place : Nat) (answer : υ) : Option (AsyncState σ ρ υ) :=
  states.tasks[place]?.map fun task =>
    { states with tasks := states.tasks.eraseIdx place }.start procedure (task.resume answer)

end AsyncState

/-! ### Computations -/

namespace Async

instance : Monad (Async σ ρ υ ε) where
  pure a := fun next => next (.ok a)
  bind computation after := fun next => computation fun
    | .ok a => after a next
    | .error err => next (.error err)

def throw (err : ε) : Async σ ρ υ ε α := fun next => next (.error err)

def tryCatch (body : Async σ ρ υ ε α) (handler : ε → Async σ ρ υ ε α) : Async σ ρ υ ε α := fun next =>
  body fun
    | .ok a => next (.ok a)
    | .error err => handler err next

/-- What the computation returns or throws, as a value. -/
def attempt (computation : Async σ ρ υ ε α) : Async σ ρ υ ε (Except ε α) := fun next => computation fun result => next (.ok result)

def get : Async σ ρ υ ε σ := fun next => .get fun state => next (.ok state)

def modify (change : σ → σ) : Async σ ρ υ ε Unit := fun next => .get fun state => .set (change state) (next (.ok ()))

def await (request : ρ) : Async σ ρ υ ε υ := fun next => .await request (fun answer => next (.ok answer)) .stop

/-- Await the procedure that all programs share. -/
def call (request : ρ) : Async σ ρ υ ε Unit := fun next => .call request (next (.ok ())) .stop

/-- Start a program and go on without awaiting it. -/
def fork (program : AsyncProgram σ ρ υ) : Async σ ρ υ ε Unit := fun next => program.followedBy (next (.ok ()))

/-- The computation as a program that ends with it, whatever it returns or throws. -/
def toProgram (computation : Async σ ρ υ ε α) : AsyncProgram σ ρ υ := computation fun _ => .stop

end Async

/-! ### What programs hold -/

/-- An invariant of the state apart from what programs in flight hold: what a program may hold while
it awaits a request, and where a request is answered. -/
structure Accounting (σ ρ υ μ : Type) where
  inv : σ → μ → Prop
  may : ρ → μ → Prop
  ready : ρ → υ → σ → Prop

variable [AddCommMonoid μ] (rules : Accounting σ ρ υ μ)

/-- Running the program from the state, where others hold the given things, keeps the invariant,
and so does all that it does once it is answered. A procedure is taken to give back what is held. -/
def AsyncProgram.Accounts : AsyncProgram σ ρ υ → σ → μ → Prop
  | stop, state, others => rules.inv state others
  | get next, state, others => (next state).Accounts state others
  | set state next, _, others => next.Accounts state others
  | await request next rest, state, others => ∃ held, rules.may request held ∧
      (∀ answer state others, rules.ready request answer state → rules.inv state (others + held) →
        (next answer).Accounts state others) ∧
      rest.Accounts state (others + held)
  | call request next rest, state, others => ∃ held, rules.may request held ∧
      (∀ answer state others, rules.ready request answer state → rules.inv state (others + held) →
        next.Accounts state others) ∧
      rest.Accounts state (others + held)

/-- A procedure gives back what is held while it is called. -/
def AsyncProcedure.GivesBack (procedure : AsyncProcedure σ ρ υ) : Prop :=
  ∀ request answer next held, rules.may request held →
    (∀ answer state others, rules.ready request answer state → rules.inv state (others + held) →
      next.Accounts rules state others) →
    ∀ state others, rules.ready request answer state → rules.inv state (others + held) →
      (procedure request answer next).Accounts rules state others

theorem AsyncProcedure.givesBack_returns {rules : Accounting σ ρ υ μ} : (returns : AsyncProcedure σ ρ υ).GivesBack rules :=
  fun _ answer _ _ _ goesOn state others => goesOn answer state others

/-- The task holds no more than it may, and goes on in order. -/
structure AsyncTask.Holds (task : AsyncTask σ ρ υ) (held : μ) : Prop where
  may : rules.may task.request held
  goesOn : ∀ answer state others, rules.ready task.request answer state → rules.inv state (others + held) →
    (task.resume answer).Accounts rules state others

/-- What is held by the tasks of a list, each with what it holds. -/
def heldBy (held : List (AsyncTask σ ρ υ × μ)) : μ := (held.map Prod.snd).sum

@[simp] theorem heldBy_nil : heldBy ([] : List (AsyncTask σ ρ υ × μ)) = 0 := rfl

@[simp] theorem heldBy_cons (entry : AsyncTask σ ρ υ × μ) (held : List (AsyncTask σ ρ υ × μ)) :
    heldBy (entry :: held) = entry.2 + heldBy held := by simp [heldBy]

@[simp] theorem heldBy_append (left right : List (AsyncTask σ ρ υ × μ)) :
    heldBy (left ++ right) = heldBy left + heldBy right := by simp [heldBy]

theorem heldBy_eraseIdx {held : List (AsyncTask σ ρ υ × μ)} {place : Nat} {entry : AsyncTask σ ρ υ × μ}
    (found : held[place]? = some entry) : heldBy held = heldBy (held.eraseIdx place) + entry.2 := by
  obtain ⟨inside, rfl⟩ := List.getElem?_eq_some_iff.mp found
  have apart : held = held.take place ++ held[place] :: held.drop (place + 1) := by simp
  rw [List.eraseIdx_eq_take_drop_succ]
  conv_lhs => rw [apart]
  rw [heldBy_append, heldBy_append, heldBy_cons, add_comm held[place].2, add_assoc]

/-- The tasks are those of the list, each of which holds what it is listed with. -/
structure Holdings (tasks : List (AsyncTask σ ρ υ)) (held : List (AsyncTask σ ρ υ × μ)) : Prop where
  listed : held.map Prod.fst = tasks
  holds : ∀ entry ∈ held, entry.1.Holds rules entry.2

/-- The invariant holds apart from what the tasks hold. -/
def AsyncState.Accounted (states : AsyncState σ ρ υ) : Prop :=
  ∃ held : List (AsyncTask σ ρ υ × μ), Holdings rules states.tasks held ∧ rules.inv states.state (heldBy held)

variable {rules} {procedure : AsyncProcedure σ ρ υ}

theorem AsyncProgram.Accounts.advance {program : AsyncProgram σ ρ υ} {state : σ} {others : μ}
    (givesBack : procedure.GivesBack rules) (accounts : program.Accounts rules state others) :
    ∃ held, Holdings rules (program.advance procedure state).tasks held ∧
      rules.inv (program.advance procedure state).state (others + heldBy held) := by
  induction program generalizing state others with
  | stop =>
    refine ⟨[], ⟨rfl, by simp⟩, ?_⟩
    rw [heldBy_nil, add_zero]
    exact accounts
  | get next ih => exact ih state accounts
  | set state next ih => exact ih accounts
  | await request next rest _ ih =>
    obtain ⟨things, may, goesOn, accounts⟩ := accounts
    obtain ⟨held, holdings, kept⟩ := ih accounts
    refine ⟨(⟨request, next⟩, things) :: held, ⟨congrArg _ holdings.listed, ?_⟩, ?_⟩
    · exact List.forall_mem_cons.mpr ⟨⟨may, goesOn⟩, holdings.holds⟩
    · rw [heldBy_cons, ← add_assoc]
      exact kept
  | call request next rest _ ih =>
    obtain ⟨things, may, goesOn, accounts⟩ := accounts
    obtain ⟨held, holdings, kept⟩ := ih accounts
    have returns := fun answer => givesBack request answer next things may goesOn
    refine ⟨(⟨request, fun answer => procedure request answer next⟩, things) :: held, ⟨congrArg _ holdings.listed, ?_⟩, ?_⟩
    · exact List.forall_mem_cons.mpr ⟨⟨may, returns⟩, holdings.holds⟩
    · rw [heldBy_cons, ← add_assoc]
      exact kept

/-- Running a program in a state whose tasks hold the given things. -/
theorem AsyncState.accounted_start {states : AsyncState σ ρ υ} {program : AsyncProgram σ ρ υ}
    {held : List (AsyncTask σ ρ υ × μ)} (givesBack : procedure.GivesBack rules)
    (holdings : Holdings rules states.tasks held) (accounts : program.Accounts rules states.state (heldBy held)) :
    (states.start procedure program).Accounted rules := by
  obtain ⟨added, further, kept⟩ := accounts.advance givesBack
  refine ⟨held ++ added, ⟨?_, ?_⟩, ?_⟩
  · rw [List.map_append, holdings.listed, further.listed]
    rfl
  · exact List.forall_mem_append.mpr ⟨holdings.holds, further.holds⟩
  · rw [heldBy_append]
    exact kept

theorem Holdings.eraseIdx {tasks : List (AsyncTask σ ρ υ)} {held : List (AsyncTask σ ρ υ × μ)}
    (holdings : Holdings rules tasks held) (place : Nat) : Holdings rules (tasks.eraseIdx place) (held.eraseIdx place) where
  listed := by
    rw [← holdings.listed, List.eraseIdx_eq_take_drop_succ, List.eraseIdx_eq_take_drop_succ]
    simp
  holds entry listed := holdings.holds entry (List.mem_of_mem_eraseIdx listed)

theorem Holdings.entry {tasks : List (AsyncTask σ ρ υ)} {held : List (AsyncTask σ ρ υ × μ)} {place : Nat}
    {task : AsyncTask σ ρ υ} (holdings : Holdings rules tasks held) (found : tasks[place]? = some task) :
    ∃ things, held[place]? = some (task, things) ∧ task.Holds rules things := by
  rw [← holdings.listed, List.getElem?_map] at found
  obtain ⟨⟨task, things⟩, listed, rfl⟩ := Option.map_eq_some_iff.mp found
  exact ⟨things, listed, holdings.holds _ (List.mem_of_getElem? listed)⟩

theorem AsyncState.Accounted.resolve {states after : AsyncState σ ρ υ} {place : Nat} {answer : υ}
    (givesBack : procedure.GivesBack rules) (accounted : states.Accounted rules)
    (ready : ∀ task, states.tasks[place]? = some task → rules.ready task.request answer states.state)
    (resolved : states.resolve? procedure place answer = some after) : after.Accounted rules := by
  obtain ⟨task, found, rfl⟩ := Option.map_eq_some_iff.mp resolved
  obtain ⟨held, holdings, kept⟩ := accounted
  obtain ⟨things, listed, holds⟩ := holdings.entry found
  rw [heldBy_eraseIdx listed] at kept
  exact accounted_start givesBack (holdings.eraseIdx place) (holds.goesOn answer _ _ (ready task found) kept)

/-! ### What computations do to the accounts -/

/-- Running the computation from the state, where others hold the given things, leads to the
postcondition, with the invariant kept wherever an answer is awaited. -/
def Async.Meets (rules : Accounting σ ρ υ μ) (computation : Async σ ρ υ ε α)
    (post : Except ε α → σ → μ → Prop) (state : σ) (others : μ) : Prop :=
  ∀ next, (∀ result state others, post result state others → (next result).Accounts rules state others) →
    (computation next).Accounts rules state others

namespace Async

variable {post other : Except ε α → σ → μ → Prop} {state : σ} {others : μ}

theorem Meets.imp {computation : Async σ ρ υ ε α} (meets : computation.Meets rules post state others)
    (weaker : ∀ result state others, post result state others → other result state others) :
    computation.Meets rules other state others :=
  fun next follows => meets next fun result state others met => follows result state others (weaker result state others met)

theorem meets_pure {a : α} (met : post (.ok a) state others) :
    (pure a : Async σ ρ υ ε α).Meets rules post state others := fun _ follows => follows _ _ _ met

theorem meets_throw {err : ε} (met : post (.error err) state others) :
    (throw err : Async σ ρ υ ε α).Meets rules post state others := fun _ follows => follows _ _ _ met

theorem meets_bind {computation : Async σ ρ υ ε β} {after : β → Async σ ρ υ ε α}
    (meets : computation.Meets rules (fun result state others =>
      match result with
      | .ok b => (after b).Meets rules post state others
      | .error err => post (.error err) state others) state others) :
    (computation >>= after).Meets rules post state others := by
  intro next follows
  apply meets
  intro result state others met
  cases result with
  | ok b => exact met next follows
  | error err => exact follows _ _ _ met

theorem meets_tryCatch {body : Async σ ρ υ ε α} {handler : ε → Async σ ρ υ ε α}
    (meets : body.Meets rules (fun result state others =>
      match result with
      | .ok a => post (.ok a) state others
      | .error err => (handler err).Meets rules post state others) state others) :
    (body.tryCatch handler).Meets rules post state others := by
  intro next follows
  apply meets
  intro result state others met
  cases result with
  | ok a => exact follows _ _ _ met
  | error err => exact met next follows

theorem meets_attempt {computation : Async σ ρ υ ε α} {post : Except ε (Except ε α) → σ → μ → Prop}
    (meets : computation.Meets rules (fun result => post (.ok result)) state others) : computation.attempt.Meets rules post state others :=
  fun _ follows => meets _ fun _ _ _ met => follows _ _ _ met

theorem meets_get {post : Except ε σ → σ → μ → Prop} (met : post (.ok state) state others) :
    (get : Async σ ρ υ ε σ).Meets rules post state others := fun _ follows => follows _ _ _ met

theorem meets_modify {post : Except ε Unit → σ → μ → Prop} {change : σ → σ}
    (met : post (.ok ()) (change state) others) : (modify change : Async σ ρ υ ε Unit).Meets rules post state others :=
  fun _ follows => follows _ _ _ met

theorem meets_get_bind {after : σ → Async σ ρ υ ε α} (meets : (after state).Meets rules post state others) :
    (get >>= after).Meets rules post state others := meets_bind (meets_get meets)

theorem meets_modify_bind {change : σ → σ} {after : Unit → Async σ ρ υ ε α}
    (meets : (after ()).Meets rules post (change state) others) : (modify change >>= after).Meets rules post state others :=
  meets_bind (meets_modify meets)

theorem meets_await {post : Except ε υ → σ → μ → Prop} {request : ρ} (held : μ) (may : rules.may request held)
    (resumes : ∀ answer state others, rules.ready request answer state → rules.inv state (others + held) →
      post (.ok answer) state others) (kept : rules.inv state (others + held)) :
    (await request : Async σ ρ υ ε υ).Meets rules post state others :=
  fun _ follows => ⟨held, may, fun answer state others ready kept => follows _ _ _ (resumes answer state others ready kept), kept⟩

theorem meets_call {post : Except ε Unit → σ → μ → Prop} {request : ρ} (held : μ) (may : rules.may request held)
    (returns : ∀ answer state others, rules.ready request answer state → rules.inv state (others + held) →
      post (.ok ()) state others) (kept : rules.inv state (others + held)) :
    (call request : Async σ ρ υ ε Unit).Meets rules post state others :=
  fun _ follows => ⟨held, may, fun answer state others ready kept => follows _ _ _ (returns answer state others ready kept), kept⟩

/-- The rest goes on with what the program does not hold. -/
theorem accounts_followedBy {program rest : AsyncProgram σ ρ υ} {held : μ}
    (accounts : program.Accounts rules state (others + held))
    (follows : ∀ state others, rules.inv state (others + held) → rest.Accounts rules state others) :
    (program.followedBy rest).Accounts rules state others := by
  induction program generalizing state others with
  | stop => exact follows _ _ accounts
  | get next ih => exact ih state accounts
  | set state next ih => exact ih accounts
  | await request next also _ ih =>
    obtain ⟨things, may, goesOn, accounts⟩ := accounts
    rw [add_right_comm] at accounts
    exact ⟨things, may, goesOn, ih accounts⟩
  | call request next also _ ih =>
    obtain ⟨things, may, goesOn, accounts⟩ := accounts
    rw [add_right_comm] at accounts
    exact ⟨things, may, goesOn, ih accounts⟩

theorem meets_fork {post : Except ε Unit → σ → μ → Prop} {program : AsyncProgram σ ρ υ} (held : μ)
    (accounts : program.Accounts rules state (others + held))
    (met : ∀ state others, rules.inv state (others + held) → post (.ok ()) state others) :
    (fork program : Async σ ρ υ ε Unit).Meets rules post state others := fun _ follows =>
  accounts_followedBy accounts fun state others kept => follows _ _ _ (met state others kept)

/-- A computation that ends in order is a program that does. -/
theorem Meets.toProgram {computation : Async σ ρ υ ε α}
    (meets : computation.Meets rules (fun _ => rules.inv) state others) :
    computation.toProgram.Accounts rules state others := meets _ fun _ _ _ met => met

/-! ### What computations leave as it is -/

/-- The computation keeps the invariant, while its caller holds the given things. It throws only if it may. -/
def Keeps (rules : Accounting σ ρ υ μ) (held : μ) (throws : Prop) (computation : Async σ ρ υ ε α) : Prop :=
  ∀ state others, rules.inv state (others + held) →
    computation.Meets rules (fun result state others => (throws ∨ ∃ a, result = .ok a) ∧ rules.inv state (others + held)) state others

namespace Keeps

variable {held : μ} {throws : Prop}

theorem pure {a : α} : (pure a : Async σ ρ υ ε α).Keeps rules held throws :=
  fun _ _ kept => meets_pure ⟨.inr ⟨a, rfl⟩, kept⟩

theorem throw {err : ε} (may : throws) : (throw err : Async σ ρ υ ε α).Keeps rules held throws :=
  fun _ _ kept => meets_throw ⟨.inl may, kept⟩

theorem bind {computation : Async σ ρ υ ε β} {after : β → Async σ ρ υ ε α} (keeps : computation.Keeps rules held throws)
    (follows : ∀ b, (after b).Keeps rules held throws) : (computation >>= after).Keeps rules held throws := by
  intro state others kept
  apply meets_bind
  apply (keeps state others kept).imp
  intro result state others met
  cases result with
  | ok b => exact follows b state others met.2
  | error err => exact ⟨.inl (met.1.resolve_right fun ⟨_, same⟩ => by cases same), met.2⟩

theorem tryCatch {body : Async σ ρ υ ε α} {handler : ε → Async σ ρ υ ε α} (keeps : body.Keeps rules held True)
    (handles : ∀ err, (handler err).Keeps rules held throws) : (body.tryCatch handler).Keeps rules held throws := by
  intro state others kept
  apply meets_tryCatch
  apply (keeps state others kept).imp
  intro result state others met
  cases result with
  | ok a => exact ⟨.inr ⟨a, rfl⟩, met.2⟩
  | error err => exact handles err state others met.2

theorem get : (Async.get : Async σ ρ υ ε σ).Keeps rules held throws :=
  fun state _ kept => meets_get ⟨.inr ⟨state, rfl⟩, kept⟩

theorem modify {change : σ → σ} (keeps : ∀ state others, rules.inv state others → rules.inv (change state) others) :
    (Async.modify change : Async σ ρ υ ε Unit).Keeps rules held throws :=
  fun state others kept => meets_modify ⟨.inr ⟨(), rfl⟩, keeps state (others + held) kept⟩

theorem await {request : ρ} (may : rules.may request held) : (Async.await request : Async σ ρ υ ε υ).Keeps rules held throws :=
  fun _ _ kept => meets_await held may (fun answer _ _ _ kept => ⟨.inr ⟨answer, rfl⟩, kept⟩) kept

theorem call {request : ρ} (may : rules.may request held) : (Async.call request : Async σ ρ υ ε Unit).Keeps rules held throws :=
  fun _ _ kept => meets_call held may (fun _ _ _ _ kept => ⟨.inr ⟨(), rfl⟩, kept⟩) kept

/-- A program that is started holds nothing of its own. -/
theorem fork {program : AsyncProgram σ ρ υ} (accounts : ∀ state others, rules.inv state others → program.Accounts rules state others) :
    (Async.fork program : Async σ ρ υ ε Unit).Keeps rules held throws :=
  fun state _ kept => meets_fork held (accounts state _ kept) fun _ _ kept => ⟨.inr ⟨(), rfl⟩, kept⟩

theorem imp {computation : Async σ ρ υ ε α} (keeps : computation.Keeps rules held False) : computation.Keeps rules held throws :=
  fun state others kept => (keeps state others kept).imp fun _ _ _ met => ⟨met.1.imp_left False.elim, met.2⟩

/-- Within an operation that holds more than its caller. -/
theorem within {computation : Async σ ρ υ ε α} {more : μ} (keeps : computation.Keeps rules (held + more) throws)
    {state : σ} {others : μ} (kept : rules.inv state (others + held + more)) :
    computation.Meets rules (fun result state others =>
      (throws ∨ ∃ a, result = .ok a) ∧ rules.inv state (others + held + more)) state others := by
  simp only [add_assoc] at kept ⊢
  exact keeps state others kept

/-- What follows a computation that does not throw. -/
theorem before {computation : Async σ ρ υ ε β} {after : β → Async σ ρ υ ε α} {more : μ} {post : Except ε α → σ → μ → Prop}
    {state : σ} {others : μ} (keeps : computation.Keeps rules (held + more) False) (kept : rules.inv state (others + held + more))
    (follows : ∀ b state others, rules.inv state (others + held + more) → (after b).Meets rules post state others) :
    (computation >>= after).Meets rules post state others := by
  apply meets_bind
  apply (keeps.within kept).imp
  rintro result state others ⟨returned, kept⟩
  obtain ⟨b, rfl⟩ := returned.resolve_left id
  exact follows b state others kept

/-- What follows a computation, or its failure if it may fail. -/
theorem andThen {computation : Async σ ρ υ ε β} {after : β → Async σ ρ υ ε α} {post : Except ε α → σ → μ → Prop}
    {state : σ} {others : μ} (keeps : computation.Keeps rules held throws) (kept : rules.inv state (others + held))
    (fails : throws → ∀ err state others, rules.inv state (others + held) → post (.error err) state others)
    (follows : ∀ b state others, rules.inv state (others + held) → (after b).Meets rules post state others) :
    (computation >>= after).Meets rules post state others := by
  apply meets_bind
  apply (keeps state others kept).imp
  intro result state others met
  cases result with
  | ok b => exact follows b state others met.2
  | error err => exact fails (met.1.resolve_right fun ⟨_, same⟩ => by cases same) err state others met.2

/-- A computation whose failure is a value. -/
theorem attempt {computation : Async σ ρ υ ε α} (keeps : computation.Keeps rules held True) :
    computation.attempt.Keeps rules held throws :=
  fun state others kept => meets_attempt ((keeps state others kept).imp fun result _ _ met => ⟨.inr ⟨result, rfl⟩, met.2⟩)

/-- A computation that holds nothing, as a program. -/
theorem toProgram {computation : Async σ ρ υ ε α} (keeps : computation.Keeps rules 0 throws) {state : σ} {others : μ}
    (kept : rules.inv state others) : computation.toProgram.Accounts rules state others := by
  apply Meets.toProgram
  apply (keeps state others ((add_zero others).symm ▸ kept)).imp
  intro result state others met
  exact add_zero others ▸ met.2

end Keeps

end Async

end
