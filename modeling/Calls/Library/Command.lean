import Mathlib.Logic.Basic

/-! Commands over a state: a command either returns a value or fails with an
error, and what it did to the state before a failure stays done. Weakest
preconditions give one rule for each way of building a command. -/

set_option autoImplicit false

def Command (σ ε α : Type) : Type := σ → Except ε α × σ

namespace Command

variable {σ τ ε α β : Type}

instance : Monad (Command σ ε) where
  pure value := fun state => (.ok value, state)
  bind first next := fun state =>
    match first state with
    | (.ok value, after) => next value after
    | (.error error, after) => (.error error, after)

def throw (error : ε) : Command σ ε α := fun state => (.error error, state)

def get : Command σ ε σ := fun state => (.ok state, state)

def modify (change : σ → σ) : Command σ ε Unit := fun state => (.ok (), change state)

/-- Run a command for its effect on the state and report how it ended. -/
def attempt (command : Command σ ε α) : Command σ ε (Except ε α) := fun state =>
  ((.ok (command state).1 : Except ε (Except ε α)), (command state).2)

/-- Run a command for its effect on the state, however it ends. -/
def ignoring (command : Command σ ε α) : Command σ ε Unit := fun state => (.ok (), (command state).2)

def when (command : Command σ ε Unit) (condition : Prop) [Decidable condition] : Command σ ε Unit :=
  if condition then command else pure ()

def throwIf (condition : Prop) [Decidable condition] (error : ε) : Command σ ε Unit :=
  if condition then throw error else pure ()

def ifSome (value : Option α) (body : α → Command σ ε Unit) : Command σ ε Unit :=
  match value with
  | none => pure ()
  | some value => body value

/-- Run a handler when the command fails, then fail with the same error. -/
def onError (command : Command σ ε α) (handler : ε → Command σ ε Unit) : Command σ ε α := fun state =>
  match command state with
  | (.ok value, after) => (.ok value, after)
  | (.error error, after) => (.error error, (handler error after).2)

/-- Report a failure of `command` under another error. -/
def mapError (change : ε → ε) (command : Command σ ε α) : Command σ ε α := fun state =>
  match command state with
  | (.ok value, after) => (.ok value, after)
  | (.error error, after) => (.error (change error), after)

/-- Run `last` after `command`, however it ended, and end as `command` did. -/
def deferring (command : Command σ ε α) (last : Command σ ε Unit) : Command σ ε α := fun state =>
  ((command state).1, (last (command state).2).2)

/-- A command on one component of a larger state. -/
def zoom (part : τ → σ) (update : σ → τ → τ) (command : Command σ ε α) : Command τ ε α := fun state =>
  ((command (part state)).1, update (command (part state)).2 state)

/-- Commands one after the other, as a loop over a list. -/
def forEach {ι : Type} : List ι → (ι → Command σ ε Unit) → Command σ ε Unit
  | [], _ => pure ()
  | item :: rest, body => do
    body item
    forEach rest body

@[simp] theorem pure_run (value : α) (state : σ) :
    (pure value : Command σ ε α) state = (.ok value, state) := rfl

@[simp] theorem throw_run (error : ε) (state : σ) :
    (throw error : Command σ ε α) state = (.error error, state) := rfl

@[simp] theorem get_run (state : σ) : (get : Command σ ε σ) state = (.ok state, state) := rfl

@[simp] theorem modify_run (change : σ → σ) (state : σ) :
    (modify change : Command σ ε Unit) state = (.ok (), change state) := rfl

@[simp] theorem attempt_run (command : Command σ ε α) (state : σ) :
    command.attempt state = (.ok (command state).1, (command state).2) := rfl

theorem bind_run (first : Command σ ε α) (next : α → Command σ ε β) (state : σ) :
    (first >>= next) state =
      match first state with
      | (.ok value, after) => next value after
      | (.error error, after) => (.error error, after) := rfl

@[simp] theorem bind_run_ok {first : Command σ ε α} {next : α → Command σ ε β} {state after : σ}
    {value : α} (ran : first state = (.ok value, after)) :
    (first >>= next) state = next value after := by rw [bind_run, ran]

@[simp] theorem bind_run_error {first : Command σ ε α} {next : α → Command σ ε β} {state after : σ}
    {error : ε} (ran : first state = (.error error, after)) :
    (first >>= next) state = (.error error, after) := by rw [bind_run, ran]

/-- Returning a value that is made of another one changes nothing. -/
theorem bind_pure_run (first : Command σ ε α) (value : α → β) (state : σ) :
    ((first >>= fun result => (pure (value result) : Command σ ε β)) state).2 = (first state).2 := by
  rw [bind_run]
  obtain ⟨_ | _, after⟩ := first state <;> rfl

/-! ### Equal runs -/

/-- Commands that go on in the same way after what their first part leaves. -/
theorem bind_run_congr {state : σ} {first : Command σ ε α} {next other : α → Command σ ε β}
    (same : ∀ value after, first state = (.ok value, after) → next value after = other value after) :
    (first >>= next) state = (first >>= other) state := by
  rw [bind_run, bind_run]
  cases ran : first state with
  | mk result after =>
    cases result with
    | error => rfl
    | ok value => exact same value after ran

theorem bind_run_congr_left {state : σ} {first other : Command σ ε α} {next : α → Command σ ε β} (same : first state = other state) :
    (first >>= next) state = (other >>= next) state := by rw [bind_run, bind_run, same]

theorem onError_run_congr {state : σ} {command other : Command σ ε α} {handler : ε → Command σ ε Unit} (same : command state = other state) :
    command.onError handler state = other.onError handler state := by rw [onError, onError, same]

theorem ignoring_when_run_congr {state : σ} {command other : Command σ ε α} {condition : Prop} [Decidable condition]
    (same : command state = other state) : command.ignoring.when condition state = other.ignoring.when condition state := by
  unfold when
  split
  · rw [ignoring, ignoring, same]
  · rfl

/-! ### Loops -/

theorem forEach_pure {ι : Type} {body : ι → Command σ ε Unit} :
    ∀ {items : List ι}, (∀ item ∈ items, body item = pure ()) → forEach items body = pure ()
  | [], _ => rfl
  | item :: rest, skipped => by
    rw [forEach, skipped item List.mem_cons_self]
    exact forEach_pure fun other member => skipped other (List.mem_cons_of_mem item member)

/-- A loop that does something for one item alone. -/
theorem forEach_single {ι : Type} {body : ι → Command σ ε Unit} {item : ι} :
    ∀ {items : List ι}, items.Nodup → item ∈ items → (∀ other ∈ items, other ≠ item → body other = pure ()) →
      ∀ state, (forEach items body state).2 = (body item state).2
  | [], _, member, _, _ => absurd member List.not_mem_nil
  | first :: rest, nodup, member, skipped, state => by
    obtain ⟨fresh, nodup⟩ := List.nodup_cons.mp nodup
    have later (other : ι) (listed : other ∈ rest) := skipped other (List.mem_cons_of_mem first listed)
    rw [forEach]
    by_cases same : first = item
    · subst same
      rw [forEach_pure fun other listed => later other listed fun same => fresh (same ▸ listed)]
      exact bind_pure_run _ (fun _ => ()) state
    · rw [skipped first List.mem_cons_self same]
      rcases List.mem_cons.mp member with rfl | member
      · exact absurd rfl same
      · exact forEach_single nodup member later state

/-! ### Weakest preconditions -/

/-- `post` holds of the result and the state that `command` ends in from `state`. -/
def wp (command : Command σ ε α) (post : Except ε α → σ → Prop) (state : σ) : Prop :=
  post (command state).1 (command state).2

theorem wp_iff_run {command : Command σ ε α} {post : Except ε α → σ → Prop} {state : σ} :
    command.wp post state ↔ ∀ result after, command state = (result, after) → post result after := by
  constructor
  · intro holds result after ran
    simpa only [wp, ran] using holds
  · exact fun all => all _ _ rfl

theorem wp_mono {command : Command σ ε α} {post weaker : Except ε α → σ → Prop} {state : σ}
    (holds : command.wp post state) (imp : ∀ result after, post result after → weaker result after) :
    command.wp weaker state := imp _ _ holds

/-- What two specifications say of the same run. -/
theorem wp_and {command : Command σ ε α} {first second : Except ε α → σ → Prop} {state : σ}
    (firstHolds : command.wp first state) (secondHolds : command.wp second state) :
    command.wp (fun result after => first result after ∧ second result after) state := ⟨firstHolds, secondHolds⟩

theorem wp_true (command : Command σ ε α) (state : σ) : command.wp (fun _ _ => True) state := trivial

@[simp] theorem wp_pure {value : α} {post : Except ε α → σ → Prop} {state : σ} :
    (pure value : Command σ ε α).wp post state ↔ post (.ok value) state := Iff.rfl

@[simp] theorem wp_throw {error : ε} {post : Except ε α → σ → Prop} {state : σ} :
    (throw error : Command σ ε α).wp post state ↔ post (.error error) state := Iff.rfl

@[simp] theorem wp_get {post : Except ε σ → σ → Prop} {state : σ} :
    (get : Command σ ε σ).wp post state ↔ post (.ok state) state := Iff.rfl

@[simp] theorem wp_modify {change : σ → σ} {post : Except ε Unit → σ → Prop} {state : σ} :
    (modify change : Command σ ε Unit).wp post state ↔ post (.ok ()) (change state) := Iff.rfl

/-- How a command goes on after the result of its first part. -/
def andThen (next : α → Command σ ε β) (post : Except ε β → σ → Prop) : Except ε α → σ → Prop
  | .ok value, after => (next value).wp post after
  | .error error, after => post (.error error) after

@[simp] theorem andThen_ok {next : α → Command σ ε β} {post : Except ε β → σ → Prop} {value : α} {after : σ} :
    andThen next post (.ok value) after ↔ (next value).wp post after := Iff.rfl

@[simp] theorem andThen_error {next : α → Command σ ε β} {post : Except ε β → σ → Prop} {error : ε}
    {after : σ} : andThen next post (.error error) after ↔ post (.error error) after := Iff.rfl

@[simp] theorem wp_bind {first : Command σ ε α} {next : α → Command σ ε β}
    {post : Except ε β → σ → Prop} {state : σ} :
    (first >>= next).wp post state ↔ first.wp (andThen next post) state := by
  unfold wp
  rw [bind_run]
  rcases first state with ⟨value | error, after⟩ <;> rfl

@[simp] theorem wp_attempt {command : Command σ ε α} {post : Except ε (Except ε α) → σ → Prop} {state : σ} :
    command.attempt.wp post state ↔ command.wp (fun result after => post (.ok result) after) state := Iff.rfl

theorem wp_onError {command : Command σ ε α} {handler : ε → Command σ ε Unit}
    {post : Except ε α → σ → Prop} {state : σ} :
    (command.onError handler).wp post state ↔
      command.wp (fun result after =>
        match result with
        | .ok value => post (.ok value) after
        | .error error => (handler error).wp (fun _ final => post (.error error) final) after) state := by
  unfold wp onError
  rcases command state with ⟨error | value, after⟩ <;> rfl

/-- A handler does not change how the command ends. -/
theorem wp_onError_result {command : Command σ ε α} {handler : ε → Command σ ε Unit} {post : Except ε α → Prop} {state : σ} :
    (command.onError handler).wp (fun result _ => post result) state ↔ command.wp (fun result _ => post result) state := by
  unfold wp onError
  rcases command state with ⟨error | value, after⟩ <;> rfl

@[simp] theorem wp_ignoring {command : Command σ ε α} {post : Except ε Unit → σ → Prop} {state : σ} :
    command.ignoring.wp post state ↔ command.wp (fun _ => post (.ok ())) state := Iff.rfl

@[simp] theorem wp_mapError {change : ε → ε} {command : Command σ ε α} {post : Except ε α → σ → Prop}
    {state : σ} :
    (command.mapError change).wp post state ↔
      command.wp (fun result => post (result.mapError change)) state := by
  unfold wp mapError
  rcases command state with ⟨error | value, after⟩ <;> rfl

@[simp] theorem wp_deferring {command : Command σ ε α} {last : Command σ ε Unit}
    {post : Except ε α → σ → Prop} {state : σ} :
    (command.deferring last).wp post state ↔
      command.wp (fun result => last.wp fun _ => post result) state := Iff.rfl

@[simp] theorem wp_zoom {part : τ → σ} {update : σ → τ → τ} {command : Command σ ε α}
    {post : Except ε α → τ → Prop} {state : τ} :
    (command.zoom part update).wp post state ↔
      command.wp (fun result after => post result (update after state)) (part state) := Iff.rfl

theorem wp_ite {condition : Prop} [Decidable condition] {yes no : Command σ ε α}
    {post : Except ε α → σ → Prop} {state : σ} :
    (if condition then yes else no).wp post state ↔
      (condition → yes.wp post state) ∧ (¬ condition → no.wp post state) := by
  split <;> simp_all

theorem wp_when {condition : Prop} [Decidable condition] {command : Command σ ε Unit}
    {post : Except ε Unit → σ → Prop} {state : σ} :
    (command.when condition).wp post state ↔
      (condition → command.wp post state) ∧ (¬ condition → post (.ok ()) state) := wp_ite

theorem wp_throwIf {condition : Prop} [Decidable condition] {error : ε}
    {post : Except ε Unit → σ → Prop} {state : σ} :
    (throwIf condition error : Command σ ε Unit).wp post state ↔
      (condition → post (.error error) state) ∧ (¬ condition → post (.ok ()) state) := wp_ite

@[simp] theorem wp_ifSome_none {body : α → Command σ ε Unit} {post : Except ε Unit → σ → Prop} {state : σ} :
    (ifSome none body).wp post state ↔ post (.ok ()) state := Iff.rfl

@[simp] theorem wp_ifSome_some {value : α} {body : α → Command σ ε Unit} {post : Except ε Unit → σ → Prop}
    {state : σ} : (ifSome (some value) body).wp post state ↔ (body value).wp post state := Iff.rfl

/-! ### Invariants of commands -/

/-- However it ends, `command` keeps `invariant`. -/
def Maintains (invariant : σ → Prop) (command : Command σ ε α) : Prop :=
  ∀ state, invariant state → invariant (command state).2

namespace Maintains

variable {invariant : σ → Prop}

theorem wp {command : Command σ ε α} (keeps : Maintains invariant command) {state : σ}
    (holds : invariant state) : command.wp (fun _ => invariant) state := keeps state holds

theorem of_wp {command : Command σ ε α}
    (keeps : ∀ state, invariant state → command.wp (fun _ after => invariant after) state) : Maintains invariant command :=
  keeps

/-- What follows on a command that keeps the invariant may rely on it, also where the command fails. -/
theorem wp_bind {first : Command σ ε α} {next : α → Command σ ε β} {post : Except ε β → σ → Prop} {state : σ}
    (keeps : Maintains invariant first) (holds : invariant state)
    (done : ∀ value after, invariant after → (next value).wp post after)
    (failed : ∀ error after, invariant after → post (.error error) after) : (first >>= next).wp post state := by
  refine Command.wp_bind.mpr (wp_mono (keeps.wp holds) ?_)
  intro result after kept
  cases result with
  | error error => exact failed error after kept
  | ok value => exact done value after kept

theorem pure (value : α) : Maintains invariant (Pure.pure value : Command σ ε α) := fun _ holds => holds

theorem throw (error : ε) : Maintains invariant (Command.throw error : Command σ ε α) := fun _ holds => holds

theorem get : Maintains invariant (Command.get : Command σ ε σ) := fun _ holds => holds

theorem modify {change : σ → σ} (keeps : ∀ state, invariant state → invariant (change state)) :
    Maintains invariant (Command.modify change : Command σ ε Unit) := keeps

theorem bind {first : Command σ ε α} {next : α → Command σ ε β} (firstKeeps : Maintains invariant first)
    (nextKeeps : ∀ value, Maintains invariant (next value)) : Maintains invariant (first >>= next) := by
  intro state holds
  have kept := firstKeeps state holds
  rw [bind_run]
  cases ran : first state with
  | mk result after =>
    rw [ran] at kept
    cases result with
    | error error => exact kept
    | ok value => exact nextKeeps value after kept

theorem attempt {command : Command σ ε α} (keeps : Maintains invariant command) :
    Maintains invariant command.attempt := keeps

theorem ignoring {command : Command σ ε α} (keeps : Maintains invariant command) :
    Maintains invariant command.ignoring := keeps

theorem mapError {change : ε → ε} {command : Command σ ε α} (keeps : Maintains invariant command) :
    Maintains invariant (command.mapError change) := by
  intro state holds
  have kept := keeps state holds
  unfold Command.mapError
  cases ran : command state with
  | mk result after => rw [ran] at kept; cases result <;> exact kept

theorem deferring {command : Command σ ε α} {last : Command σ ε Unit} (keeps : Maintains invariant command)
    (lastKeeps : Maintains invariant last) : Maintains invariant (command.deferring last) :=
  fun state holds => lastKeeps _ (keeps state holds)

theorem onError {command : Command σ ε α} {handler : ε → Command σ ε Unit}
    (keeps : Maintains invariant command) (handlerKeeps : ∀ error, Maintains invariant (handler error)) :
    Maintains invariant (command.onError handler) := by
  intro state holds
  have kept := keeps state holds
  unfold Command.onError
  cases ran : command state with
  | mk result after =>
    rw [ran] at kept
    cases result with
    | error error => exact handlerKeeps error after kept
    | ok value => exact kept

theorem ite {condition : Prop} [Decidable condition] {yes no : Command σ ε α}
    (yesKeeps : Maintains invariant yes) (noKeeps : Maintains invariant no) :
    Maintains invariant (if condition then yes else no) := by
  split
  · exact yesKeeps
  · exact noKeeps

theorem when {condition : Prop} [Decidable condition] {command : Command σ ε Unit}
    (keeps : Maintains invariant command) : Maintains invariant (command.when condition) :=
  keeps.ite (pure ())

theorem throwIf {condition : Prop} [Decidable condition] (error : ε) :
    Maintains invariant (Command.throwIf condition error : Command σ ε Unit) := (throw error).ite (pure ())

theorem ifSome {value : Option α} {body : α → Command σ ε Unit}
    (keeps : ∀ held, value = some held → Maintains invariant (body held)) :
    Maintains invariant (Command.ifSome value body) := by
  cases value with
  | none => exact pure ()
  | some value => exact keeps value rfl

theorem forEach_mem {ι : Type} {body : ι → Command σ ε Unit} :
    ∀ items, (∀ item ∈ items, Maintains invariant (body item)) → Maintains invariant (Command.forEach items body)
  | [], _ => pure ()
  | item :: rest, keeps => (keeps item List.mem_cons_self).bind fun _ =>
    forEach_mem rest fun other member => keeps other (List.mem_cons_of_mem item member)

theorem forEach {ι : Type} {body : ι → Command σ ε Unit} (keeps : ∀ item, Maintains invariant (body item))
    (items : List ι) : Maintains invariant (Command.forEach items body) := forEach_mem items fun item _ => keeps item

end Maintains

/-- Where `invariant` holds `command` does not fail, and it keeps `invariant`. -/
def Succeeds (invariant : σ → Prop) (command : Command σ ε α) : Prop :=
  ∀ state, invariant state → ∃ value after, command state = (.ok value, after) ∧ invariant after

namespace Succeeds

variable {invariant : σ → Prop}

theorem maintains {command : Command σ ε α} (succeeds : Succeeds invariant command) :
    Maintains invariant command := by
  intro state holds
  obtain ⟨value, after, ran, kept⟩ := succeeds state holds
  simpa only [ran] using kept

theorem wp {command : Command σ ε α} (succeeds : Succeeds invariant command) {state : σ}
    (holds : invariant state) :
    command.wp (fun result after => (∃ value, result = .ok value) ∧ invariant after) state := by
  obtain ⟨value, after, ran, kept⟩ := succeeds state holds
  simpa only [Command.wp, ran] using And.intro ⟨value, rfl⟩ kept

theorem wp_bind {first : Command σ ε α} {next : α → Command σ ε β} {post : Except ε β → σ → Prop} {state : σ}
    (succeeds : Succeeds invariant first) (holds : invariant state)
    (done : ∀ value after, invariant after → (next value).wp post after) : (first >>= next).wp post state := by
  refine Command.wp_bind.mpr (wp_mono (succeeds.wp holds) ?_)
  intro _ after facts
  obtain ⟨⟨value, rfl⟩, kept⟩ := facts
  exact done value after kept

theorem pure (value : α) : Succeeds invariant (Pure.pure value : Command σ ε α) :=
  fun state holds => ⟨value, state, rfl, holds⟩

theorem modify {change : σ → σ} (keeps : ∀ state, invariant state → invariant (change state)) :
    Succeeds invariant (Command.modify change : Command σ ε Unit) :=
  fun state holds => ⟨(), change state, rfl, keeps state holds⟩

theorem bind {first : Command σ ε α} {next : α → Command σ ε β} (firstSucceeds : Succeeds invariant first)
    (nextSucceeds : ∀ value, Succeeds invariant (next value)) : Succeeds invariant (first >>= next) := by
  intro state holds
  obtain ⟨value, after, ran, kept⟩ := firstSucceeds state holds
  rw [bind_run_ok ran]
  exact nextSucceeds value after kept

theorem ignoring {command : Command σ ε α} (keeps : Maintains invariant command) :
    Succeeds invariant command.ignoring := fun state holds => ⟨(), _, rfl, keeps state holds⟩

theorem attempt {command : Command σ ε α} (keeps : Maintains invariant command) :
    Succeeds invariant command.attempt := fun state holds => ⟨_, _, rfl, keeps state holds⟩

theorem forEach {ι : Type} {body : ι → Command σ ε Unit} (succeeds : ∀ item, Succeeds invariant (body item)) :
    ∀ items, Succeeds invariant (Command.forEach items body)
  | [] => pure ()
  | item :: rest => (succeeds item).bind fun _ => forEach succeeds rest

theorem mapError {change : ε → ε} {command : Command σ ε α} (succeeds : Succeeds invariant command) :
    Succeeds invariant (command.mapError change) := by
  intro state holds
  obtain ⟨value, after, ran, kept⟩ := succeeds state holds
  exact ⟨value, after, by simp only [Command.mapError, ran], kept⟩

theorem ite {condition : Prop} [Decidable condition] {yes no : Command σ ε α}
    (yesSucceeds : Succeeds invariant yes) (noSucceeds : Succeeds invariant no) :
    Succeeds invariant (if condition then yes else no) := by
  split
  · exact yesSucceeds
  · exact noSucceeds

theorem when {condition : Prop} [Decidable condition] {command : Command σ ε Unit}
    (succeeds : Succeeds invariant command) : Succeeds invariant (command.when condition) :=
  succeeds.ite (pure ())

theorem ifSome {value : Option α} {body : α → Command σ ε Unit}
    (succeeds : ∀ held, value = some held → Succeeds invariant (body held)) :
    Succeeds invariant (Command.ifSome value body) := by
  cases value with
  | none => exact pure ()
  | some value => exact succeeds value rfl

end Succeeds

/-- However it ends, `command` leaves the value of `view` as it was. -/
def Preserves (view : σ → τ) (command : Command σ ε α) : Prop :=
  ∀ value, Maintains (fun state => view state = value) command

namespace Preserves

variable {view : σ → τ}

theorem run {command : Command σ ε α} (keeps : Preserves view command) (state : σ) :
    view (command state).2 = view state := keeps _ state rfl

theorem of_run {command : Command σ ε α} (keeps : ∀ state, view (command state).2 = view state) :
    Preserves view command := fun _ state same => (keeps state).trans same

theorem of_wp {command : Command σ ε α} (keeps : ∀ state, command.wp (fun _ after => view after = view state) state) :
    Preserves view command := of_run keeps

theorem pure (value : α) : Preserves view (Pure.pure value : Command σ ε α) := fun _ => .pure value

theorem throw (error : ε) : Preserves view (Command.throw error : Command σ ε α) := fun _ => .throw error

theorem get : Preserves view (Command.get : Command σ ε σ) := fun _ => .get

theorem modify {change : σ → σ} (keeps : ∀ state, view (change state) = view state) :
    Preserves view (Command.modify change : Command σ ε Unit) := of_run keeps

theorem bind {first : Command σ ε α} {next : α → Command σ ε β} (firstKeeps : Preserves view first)
    (nextKeeps : ∀ value, Preserves view (next value)) : Preserves view (first >>= next) :=
  fun value => (firstKeeps value).bind fun result => nextKeeps result value

theorem ignoring {command : Command σ ε α} (keeps : Preserves view command) :
    Preserves view command.ignoring := fun value => (keeps value).ignoring

theorem mapError {change : ε → ε} {command : Command σ ε α} (keeps : Preserves view command) :
    Preserves view (command.mapError change) := fun value => (keeps value).mapError

theorem onError {command : Command σ ε α} {handler : ε → Command σ ε Unit}
    (keeps : Preserves view command) (handlerKeeps : ∀ error, Preserves view (handler error)) :
    Preserves view (command.onError handler) :=
  fun value => (keeps value).onError fun error => handlerKeeps error value

theorem ite {condition : Prop} [Decidable condition] {yes no : Command σ ε α}
    (yesKeeps : Preserves view yes) (noKeeps : Preserves view no) :
    Preserves view (if condition then yes else no) := fun value => (yesKeeps value).ite (noKeeps value)

theorem when {condition : Prop} [Decidable condition] {command : Command σ ε Unit}
    (keeps : Preserves view command) : Preserves view (command.when condition) :=
  fun value => (keeps value).when

theorem ifSome {value : Option α} {body : α → Command σ ε Unit}
    (keeps : ∀ held, Preserves view (body held)) : Preserves view (Command.ifSome value body) :=
  fun seen => .ifSome fun held _ => keeps held seen

theorem attempt {command : Command σ ε α} (keeps : Preserves view command) :
    Preserves view command.attempt := fun value => (keeps value).attempt

theorem forEach {ι : Type} {body : ι → Command σ ε Unit} (keeps : ∀ item, Preserves view (body item))
    (items : List ι) : Preserves view (Command.forEach items body) :=
  fun value => .forEach (fun item => keeps item value) items

end Preserves

end Command
