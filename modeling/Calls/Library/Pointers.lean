import Calls.Library.Command

/-! Functions that return an error or stop at a pointer that is nil. A deferred
function still runs after an error is returned, and may stop at such a pointer itself. -/

set_option autoImplicit false

/-- How a function ends other than well. -/
inductive Failure where
  | error (text : String)
  | nilDereference
  deriving DecidableEq

/-- `fmt.Errorf("…: %w", err)`. -/
def Failure.context (text : String) : Failure → Failure
  | .error err => .error (text ++ err)
  | .nilDereference => .nilDereference

@[simp] theorem Failure.context_error (text err : String) : (Failure.error err).context text = .error (text ++ err) := rfl

@[simp] theorem Failure.context_nil (text : String) : Failure.nilDereference.context text = .nilDereference := rfl

namespace Command

variable {σ α : Type}

/-- Use what a pointer points to. -/
def deref (pointer : Option α) : Command σ Failure α :=
  match pointer with
  | none => throw .nilDereference
  | some value => pure value

@[simp] theorem deref_some (value : α) : (deref (some value) : Command σ Failure α) = pure value := rfl

@[simp] theorem deref_none : (deref (none : Option α) : Command σ Failure α) = throw .nilDereference := rfl

/-- A function that stops at no pointer. -/
def returning (command : Command σ String α) : Command σ Failure α := fun state =>
  match command state with
  | (.ok value, after) => (.ok value, after)
  | (.error error, after) => (.error (.error error), after)

@[simp] theorem wp_returning {command : Command σ String α} {post : Except Failure α → σ → Prop} {state : σ} :
    command.returning.wp post state ↔ command.wp (fun result => post (result.mapError .error)) state := by
  unfold wp returning
  obtain ⟨_ | _, after⟩ := command state <;> rfl

/-- Run a deferred function when `command` has returned an error. -/
def onReturned (command : Command σ Failure α) (deferred : String → Command σ Failure Unit) : Command σ Failure α := fun state =>
  match command state with
  | (.ok value, after) => (.ok value, after)
  | (.error .nilDereference, after) => (.error .nilDereference, after)
  | (.error (.error error), after) =>
    match deferred error after with
    | (.ok (), final) => (.error (.error error), final)
    | (.error failure, final) => (.error failure, final)

theorem wp_onReturned {command : Command σ Failure α} {deferred : String → Command σ Failure Unit}
    {post : Except Failure α → σ → Prop} {state : σ} :
    (command.onReturned deferred).wp post state ↔
      command.wp (fun result after =>
        match result with
        | .ok value => post (.ok value) after
        | .error .nilDereference => post (.error .nilDereference) after
        | .error (.error error) => (deferred error).wp (fun ended final =>
            match ended with
            | .ok () => post (.error (.error error)) final
            | .error failure => post (.error failure) final) after) state := by
  unfold wp onReturned
  obtain ⟨failure | value, after⟩ := command state
  · cases failure with
    | nilDereference => rfl
    | error error =>
      dsimp only
      obtain ⟨_ | _, final⟩ := deferred error after <;> rfl
  · rfl

end Command
