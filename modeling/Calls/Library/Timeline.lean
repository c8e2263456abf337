import Mathlib.Algebra.BigOperators.Group.List.Basic
import Mathlib.Algebra.Ring.Int.Defs

/-! The spans of time during which a value was present and the same, from
samples of it in the order of time. -/

set_option autoImplicit false

structure Span (α : Type) where
  value : α
  start : Int
  stop : Int
  deriving DecidableEq

def Span.length {α : Type} (span : Span α) : Int := span.stop - span.start

/-- The spans that have ended, and the value that is present with its start. -/
structure Timeline (α : Type) where
  ended : List (Span α)
  current : Option (α × Int)
  deriving DecidableEq

namespace Timeline

variable {α : Type}

def empty : Timeline α := ⟨[], none⟩

/-- The time that the spans took together. -/
def total (timeline : Timeline α) : Int := (timeline.ended.map Span.length).sum

@[simp] theorem total_empty : (empty : Timeline α).total = 0 := rfl

theorem total_append (ended : List (Span α)) (span : Span α) (current : Option (α × Int)) :
    total ⟨ended ++ [span], current⟩ = total ⟨ended, current⟩ + span.length := by
  simp [total]

/-- The value that is present has been so for some time. -/
def Until (timeline : Timeline α) (time : Int) : Prop := ∀ value since, timeline.current = some (value, since) → since ≤ time

theorem until_empty (time : Int) : (empty : Timeline α).Until time := by
  intro value since running
  cases running

variable [DecidableEq α]

/-- One more sample: the span of a value ends when the value is another one or none. -/
def observe (timeline : Timeline α) (time : Int) (value : Option α) : Timeline α :=
  match timeline.current with
  | none => { timeline with current := value.map fun value => (value, time) }
  | some (held, since) =>
    if value = some held then timeline
    else ⟨timeline.ended ++ [⟨held, since, time⟩], value.map fun value => (value, time)⟩

def ofSamples (samples : List (Int × Option α)) : Timeline α :=
  samples.foldl (fun timeline sample => timeline.observe sample.1 sample.2) empty

@[simp] theorem ofSamples_nil : ofSamples ([] : List (Int × Option α)) = empty := rfl

@[simp] theorem ofSamples_append (samples : List (Int × Option α)) (time : Int) (value : Option α) :
    ofSamples (samples ++ [(time, value)]) = (ofSamples samples).observe time value := by
  simp [ofSamples, List.foldl_append]

/-- There is nothing where no sample has a value. -/
theorem ofSamples_of_none {samples : List (Int × Option α)} (none : ∀ sample ∈ samples, sample.2 = Option.none) :
    ofSamples samples = empty := by
  unfold ofSamples
  induction samples with
  | nil => rfl
  | cons sample samples ih =>
    have here := none sample List.mem_cons_self
    rw [List.foldl_cons, here]
    exact ih fun other member => none other (List.mem_cons_of_mem _ member)

/-- Nothing happens while the value stays as it is. -/
theorem observe_same {timeline : Timeline α} {time : Int} {value : Option α}
    (same : timeline.current.map Prod.fst = value) : timeline.observe time value = timeline := by
  obtain ⟨ended, current⟩ := timeline
  subst same
  cases current with
  | none => rfl
  | some held => simp [observe]

theorem observe_start {timeline : Timeline α} {time : Int} {value : α} (free : timeline.current = none) :
    timeline.observe time (some value) = ⟨timeline.ended, some (value, time)⟩ := by
  simp [observe, free]

theorem observe_stop {timeline : Timeline α} {time since : Int} {held : α}
    (running : timeline.current = some (held, since)) :
    timeline.observe time none = ⟨timeline.ended ++ [⟨held, since, time⟩], none⟩ := by
  simp [observe, running]

theorem Until.observe {timeline : Timeline α} {earlier time : Int} (before : timeline.Until earlier)
    (later : earlier ≤ time) (value : Option α) : (timeline.observe time value).Until time := by
  intro present since running
  unfold Timeline.observe at running
  cases current : timeline.current with
  | none =>
    rw [current] at running
    obtain ⟨_, -, same⟩ := Option.map_eq_some_iff.mp running
    cases same
    exact Int.le_refl _
  | some held =>
    rw [current] at running
    dsimp only at running
    split at running
    · exact Int.le_trans (before present since running) later
    · obtain ⟨_, -, same⟩ := Option.map_eq_some_iff.mp running
      cases same
      exact Int.le_refl _

/-- No sample makes the total smaller. -/
theorem Until.total_le_observe {timeline : Timeline α} {earlier time : Int} (before : timeline.Until earlier)
    (later : earlier ≤ time) (value : Option α) : timeline.total ≤ (timeline.observe time value).total := by
  unfold Timeline.observe
  cases current : timeline.current with
  | none => exact Int.le_refl _
  | some held =>
    dsimp only
    split
    · exact Int.le_refl _
    · have started := before held.1 held.2 current
      rw [total_append, Span.length]
      dsimp only
      have same : total ⟨timeline.ended, value.map fun value => (value, time)⟩ = timeline.total := rfl
      omega

end Timeline
