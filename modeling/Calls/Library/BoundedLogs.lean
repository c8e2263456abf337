import Mathlib.Data.List.Basic

/-! Logs of a bounded length, which lose their oldest part and have a marker in its place. -/

set_option autoImplicit false

/-- A log that is too long is cut by more than the marker takes. -/
structure BoundedLog (α : Type) where
  limit : Nat
  slack : Nat
  marker : List α
  marker_le : marker.length ≤ slack
  slack_lt : slack < limit

namespace BoundedLog

variable {α : Type} (log : BoundedLog α) {history stored text : List α}

def keepSize : Nat := log.limit - log.slack

/-- The last part of a text. -/
def truncate (all : List α) : List α := log.marker ++ all.drop (all.length - log.keepSize)

def append (stored text : List α) : List α :=
  if log.limit < (stored ++ text).length then log.truncate (stored ++ text) else stored ++ text

/-- The stored log is the whole history, or the marker and all of the history after some point, no less of it than is kept of a
log that is cut. -/
def Retains (history stored : List α) : Prop :=
  stored = history ∨ ∃ dropped kept, history = dropped ++ kept ∧ stored = log.marker ++ kept ∧ log.keepSize ≤ kept.length

variable {log}

theorem length_append_le : (log.append stored text).length ≤ log.limit := by
  unfold append
  split
  · next long =>
    have fits := log.marker_le
    have less := log.slack_lt
    simp only [truncate, keepSize, List.length_append, List.length_drop] at long ⊢
    omega
  · next short => exact Nat.le_of_not_lt short

theorem retains_of_drop {count : Nat} (dropped text : List α) (long : count + log.keepSize ≤ text.length) :
    log.Retains (dropped ++ text) (log.marker ++ text.drop count) := by
  refine .inr ⟨dropped ++ text.take count, text.drop count, ?_, rfl, ?_⟩
  · rw [List.append_assoc, List.take_append_drop]
  · rw [List.length_drop]
    omega

/-- What is cut off a log that has a marker already is more than the marker. -/
theorem retains_truncate_marked {dropped kept : List α} (long : log.limit < (log.marker ++ kept).length) :
    log.Retains (dropped ++ kept) (log.truncate (log.marker ++ kept)) := by
  have fits := log.marker_le
  have less := log.slack_lt
  have isKeepSize : log.keepSize = log.limit - log.slack := rfl
  rw [List.length_append] at long
  have cut : log.marker.length ≤ (log.marker ++ kept).length - log.keepSize := by
    rw [List.length_append]
    omega
  rw [truncate, List.drop_append, List.drop_eq_nil_of_le cut, List.nil_append]
  refine retains_of_drop dropped kept ?_
  rw [List.length_append]
  omega

theorem Retains.append (retains : log.Retains history stored) : log.Retains (history ++ text) (log.append stored text) := by
  unfold BoundedLog.append
  split
  · next long =>
    rcases retains with rfl | ⟨dropped, kept, rfl, rfl, -⟩
    · have less := log.slack_lt
      refine retains_of_drop [] (stored ++ text) ?_
      unfold keepSize
      omega
    · rw [List.append_assoc] at long ⊢
      rw [List.append_assoc]
      exact retains_truncate_marked long
  · rcases retains with rfl | ⟨dropped, kept, rfl, rfl, enough⟩
    · exact .inl rfl
    · refine .inr ⟨dropped, kept ++ text, List.append_assoc _ _ _, List.append_assoc _ _ _, ?_⟩
      rw [List.length_append]
      omega

example : let log : BoundedLog Nat := ⟨8, 3, [0, 0], by decide, by decide⟩
    [[1, 2, 3, 4], [5, 6, 7, 8, 9], [10], [11]].foldl log.append [] = [0, 0, 7, 8, 9, 10, 11] := by decide

end BoundedLog
