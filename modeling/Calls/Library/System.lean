import Mathlib.Logic.Basic

/-! Transition systems with labelled steps, the states they reach and the
invariants of their runs. Restricting the steps of a system gives the runs all
of whose steps meet a condition. -/

set_option autoImplicit false

structure System (σ ι : Type) where
  init : σ → Prop
  next? : σ → ι → Option σ

namespace System

variable {σ ι : Type} {system : System σ ι}

inductive Reachable (system : System σ ι) : σ → Prop where
  | init {state : σ} : system.init state → Reachable system state
  | step {before after : σ} {label : ι} :
      Reachable system before → system.next? before label = some after → Reachable system after

/-- The system in which a step is taken only where `allowed` holds of it. -/
noncomputable def restrict (system : System σ ι) (allowed : σ → ι → Prop) : System σ ι where
  init := system.init
  next? before label :=
    haveI := Classical.propDecidable (allowed before label)
    if allowed before label then system.next? before label else none

def run? (system : System σ ι) (start : σ) : List ι → Option σ
  | [] => some start
  | label :: labels => (system.next? start label).bind fun after => system.run? after labels

/-- The system with what an observer keeps of the steps it has seen. -/
def observed {γ : Type} (system : System σ ι) (unseen : γ) (note : γ → σ → ι → σ → γ) : System (σ × γ) ι where
  init state := system.init state.1 ∧ state.2 = unseen
  next? state label := (system.next? state.1 label).map fun after => (after, note state.2 state.1 label after)

theorem observed_next? {γ : Type} {unseen : γ} {note : γ → σ → ι → σ → γ} {before after : σ × γ} {label : ι} :
    (system.observed unseen note).next? before label = some after ↔
      system.next? before.1 label = some after.1 ∧ after.2 = note before.2 before.1 label after.1 := by
  obtain ⟨state, seen⟩ := after
  simp only [observed, Option.map_eq_some_iff, Prod.mk.injEq]
  constructor
  · intro facts
    obtain ⟨next, taken, rfl, rfl⟩ := facts
    exact ⟨taken, rfl⟩
  · intro facts
    obtain ⟨taken, rfl⟩ := facts
    exact ⟨state, taken, rfl, rfl⟩

/-- What holds initially and is kept by every step holds of every reachable state. -/
theorem Reachable.invariant {holds : σ → Prop} (start : ∀ state, system.init state → holds state)
    (keeps : ∀ before label after, holds before → system.next? before label = some after → holds after)
    {state : σ} (reached : system.Reachable state) : holds state := by
  induction reached with
  | init initial => exact start _ initial
  | step _ taken ih => exact keeps _ _ _ ih taken

theorem Reachable.run {start final : σ} {labels : List ι} (reached : system.Reachable start)
    (ran : system.run? start labels = some final) : system.Reachable final := by
  induction labels generalizing start with
  | nil => cases ran; exact reached
  | cons label labels ih =>
    obtain ⟨after, taken, rest⟩ := Option.bind_eq_some_iff.mp ran
    exact ih (.step reached taken) rest

/-- Every step of the run meets the condition where it is taken. -/
def MeetsAlong (system : System σ ι) (allowed : σ → ι → Prop) : σ → List ι → Prop
  | _, [] => True
  | start, label :: labels =>
    allowed start label ∧ ∀ after, system.next? start label = some after → system.MeetsAlong allowed after labels

/-- A condition on the labels alone is met by a run whose labels all meet it. -/
theorem MeetsAlong.of_labels {allowed : σ → ι → Prop} {labels : List ι}
    (meets : ∀ label ∈ labels, ∀ state, allowed state label) (start : σ) :
    system.MeetsAlong allowed start labels := by
  induction labels generalizing start with
  | nil => trivial
  | cons label labels ih =>
    refine ⟨meets label List.mem_cons_self start, fun after _ => ?_⟩
    exact ih (fun other member => meets other (List.mem_cons_of_mem _ member)) after

theorem MeetsAlong.and {first second : σ → ι → Prop} {start : σ} {labels : List ι}
    (meetsFirst : system.MeetsAlong first start labels) (meetsSecond : system.MeetsAlong second start labels) :
    system.MeetsAlong (fun state label => first state label ∧ second state label) start labels := by
  induction labels generalizing start with
  | nil => trivial
  | cons label labels ih =>
    exact ⟨⟨meetsFirst.1, meetsSecond.1⟩, fun after taken => ih (meetsFirst.2 after taken) (meetsSecond.2 after taken)⟩

/-- What holds at the start of a run and is kept by steps that meet the condition holds at its end. -/
theorem MeetsAlong.invariant {allowed : σ → ι → Prop} {holds : σ → Prop} {start final : σ} {labels : List ι}
    (meets : system.MeetsAlong allowed start labels) (ran : system.run? start labels = some final)
    (keeps : ∀ before label after, holds before → allowed before label →
      system.next? before label = some after → holds after) (initially : holds start) : holds final := by
  induction labels generalizing start with
  | nil => cases ran; exact initially
  | cons label labels ih =>
    obtain ⟨after, taken, rest⟩ := Option.bind_eq_some_iff.mp ran
    exact ih (meets.2 after taken) rest (keeps _ _ _ initially meets.1 taken)

/-- A check of every step of a run. -/
def checkAlong (system : System σ ι) (check : σ → ι → Bool) : σ → List ι → Bool
  | _, [] => true
  | start, label :: labels =>
    check start label && (system.next? start label).all fun after => system.checkAlong check after labels

theorem MeetsAlong.of_check {allowed : σ → ι → Prop} {check : σ → ι → Bool} {start : σ} {labels : List ι}
    (checked : system.checkAlong check start labels = true)
    (sound : ∀ state, ∀ label ∈ labels, check state label = true → allowed state label) :
    system.MeetsAlong allowed start labels := by
  induction labels generalizing start with
  | nil => trivial
  | cons label labels ih =>
    obtain ⟨here, rest⟩ := Bool.and_eq_true_iff.mp checked
    refine ⟨sound start label List.mem_cons_self here, fun after taken => ?_⟩
    rw [taken] at rest
    exact ih rest fun state other member => sound state other (List.mem_cons_of_mem _ member)

theorem restrict_next? {allowed : σ → ι → Prop} {before after : σ} {label : ι} :
    (system.restrict allowed).next? before label = some after ↔
      allowed before label ∧ system.next? before label = some after := by
  unfold restrict
  dsimp only
  split <;> simp_all

/-- A run that meets the condition is a run. -/
theorem Reachable.of_restrict {allowed : σ → ι → Prop} {state : σ}
    (reached : (system.restrict allowed).Reachable state) : system.Reachable state := by
  induction reached with
  | init initial => exact .init initial
  | step _ taken ih => exact .step ih (restrict_next?.mp taken).2

theorem Reachable.restrict_run {allowed : σ → ι → Prop} {start final : σ} {labels : List ι}
    (reached : (system.restrict allowed).Reachable start) (meets : system.MeetsAlong allowed start labels)
    (ran : system.run? start labels = some final) : (system.restrict allowed).Reachable final := by
  induction labels generalizing start with
  | nil => cases ran; exact reached
  | cons label labels ih =>
    obtain ⟨after, taken, rest⟩ := Option.bind_eq_some_iff.mp ran
    exact ih (.step reached (restrict_next?.mpr ⟨meets.1, taken⟩)) (meets.2 after taken) rest

/-- The invariant rule for the runs whose steps all meet a condition. -/
theorem Reachable.invariant_of_allowed {allowed : σ → ι → Prop} {holds : σ → Prop}
    (start : ∀ state, system.init state → holds state)
    (keeps : ∀ before label after, holds before → allowed before label →
      system.next? before label = some after → holds after)
    {state : σ} (reached : (system.restrict allowed).Reachable state) : holds state := by
  induction reached with
  | init initial => exact start _ initial
  | step _ taken ih =>
    obtain ⟨meets, taken⟩ := restrict_next?.mp taken
    exact keeps _ _ _ ih meets taken

/-- What is observed of a run is a run. -/
theorem Reachable.of_observed {γ : Type} {unseen : γ} {note : γ → σ → ι → σ → γ} {allowed : σ × γ → ι → Prop}
    {permitted : σ → ι → Prop} (weaker : ∀ state label, allowed state label → permitted state.1 label) {state : σ × γ}
    (reached : ((system.observed unseen note).restrict allowed).Reachable state) :
    (system.restrict permitted).Reachable state.1 := by
  induction reached with
  | init initial => exact .init initial.1
  | step _ taken ih =>
    obtain ⟨meets, taken⟩ := restrict_next?.mp taken
    exact .step ih (restrict_next?.mpr ⟨weaker _ _ meets, (observed_next?.mp taken).1⟩)

end System
