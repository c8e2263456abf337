import Mathlib.Data.List.Nodup
import Mathlib.Logic.Function.Basic

/-! Things that wait in places: each is in one place at most, and there once. It
comes to a place and goes away from there, then maybe to another one. -/

set_option autoImplicit false

namespace Waiting

variable {ι τ : Type}

/-- Nothing is in two places, or twice in one. -/
structure Apart (places : ι → List τ) : Prop where
  once : ∀ place, (places place).Nodup
  alone : ∀ place other thing, thing ∈ places place → thing ∈ places other → place = other

/-- The thing is nowhere. -/
def Absent (places : ι → List τ) (thing : τ) : Prop := ∀ place, thing ∉ places place

theorem apart_empty : Apart fun _ : ι => ([] : List τ) where
  once _ := List.nodup_nil
  alone _ _ _ waits := absurd waits List.not_mem_nil

variable {places : ι → List τ} {place : ι} {thing : τ}

/-- Places may hold less than before. -/
theorem Apart.mono {fewer : ι → List τ} (apart : Apart places) (kept : ∀ place, (fewer place).Sublist (places place)) :
    Apart fewer where
  once place := (apart.once place).sublist (kept place)
  alone place other thing here there := apart.alone place other thing ((kept place).subset here) ((kept other).subset there)

variable [DecidableEq ι]

theorem mem_update {lines : List τ} {other : ι} :
    thing ∈ Function.update places place lines other ↔ (other = place ∧ thing ∈ lines) ∨ (other ≠ place ∧ thing ∈ places other) := by
  by_cases same : other = place
  · subst same
    simp
  · simp [same]

/-- What holds of everything that waits, and of what a place gets instead of what it had. -/
theorem forall_mem_update {holds : τ → Prop} {lines : List τ} (all : ∀ place, ∀ thing ∈ places place, holds thing)
    (here : ∀ thing ∈ lines, holds thing) : ∀ other, ∀ thing ∈ Function.update places place lines other, holds thing := by
  intro other thing waits
  rcases mem_update.mp waits with ⟨-, listed⟩ | ⟨-, listed⟩
  · exact here thing listed
  · exact all other thing listed

/-- What was nowhere comes to the end of a place. -/
theorem Apart.arrives (apart : Apart places) (place : ι) (absent : Absent places thing) :
    Apart (Function.update places place (places place ++ [thing])) := by
  constructor
  · intro other
    by_cases same : other = place
    · subst same
      rw [Function.update_self]
      exact List.Nodup.append (apart.once other) (List.nodup_singleton thing)
        (List.disjoint_singleton.mpr (absent other))
    · rw [Function.update_of_ne same]
      exact apart.once other
  · intro first second found here there
    rw [mem_update] at here there
    rcases here with ⟨rfl, here⟩ | ⟨otherFirst, here⟩
    · rcases there with ⟨rfl, -⟩ | ⟨otherSecond, there⟩
      · rfl
      · rcases List.mem_append.mp here with old | new
        · exact apart.alone first second found old there
        · rw [List.mem_singleton.mp new] at there
          exact absurd there (absent second)
    · rcases there with ⟨rfl, there⟩ | ⟨otherSecond, there⟩
      · rcases List.mem_append.mp there with old | new
        · exact apart.alone first second found here old
        · rw [List.mem_singleton.mp new] at here
          exact absurd here (absent first)
      · exact apart.alone first second found here there

/-- What goes away leaves the others where they are. -/
theorem Apart.leaves (apart : Apart places) {front back : List τ} (here : places place = front ++ thing :: back) :
    Apart (Function.update places place (front ++ back)) := by
  apply apart.mono
  intro other
  by_cases same : other = place
  · subst same
    rw [Function.update_self, here]
    exact List.Sublist.append_left (List.sublist_cons_self thing back) front
  · rw [Function.update_of_ne same]

/-- It is nowhere then. -/
theorem Apart.absent_of_leaves (apart : Apart places) {front back : List τ} (here : places place = front ++ thing :: back) :
    Absent (Function.update places place (front ++ back)) thing := by
  have listed : thing ∈ places place := by rw [here]; exact List.mem_append_right front List.mem_cons_self
  have alone := List.nodup_middle.mp (here ▸ apart.once place)
  intro other waits
  rw [mem_update] at waits
  rcases waits with ⟨rfl, waits⟩ | ⟨different, waits⟩
  · exact (List.nodup_cons.mp alone).1 waits
  · exact different (apart.alone other place thing waits listed)

end Waiting
