import Calls.Library.System

/-! Leases that their holder renews at intervals, until it is gone. -/

set_option autoImplicit false

/-- How often a lease is renewed, and how long it lasts each time; for ever where it has no duration. -/
structure LeaseTerms where
  interval : Int
  duration : Option Int

structure Lease where
  now : Int
  /-- When the holder renews it next; nothing once the holder is gone. -/
  nextRenewal : Option Int
  expireAt : Option Int
  deriving DecidableEq

inductive LeaseStep where
  | wait (time : Nat)
  | renew
  | abandon

namespace Lease

def lasts (lease : Lease) : Bool := lease.expireAt.all fun time => lease.now < time

def after (lease : Lease) (time : Nat) : Lease := { lease with now := lease.now + time }

theorem lasts_of_none {lease : Lease} (unlimited : lease.expireAt = none) : lease.lasts = true := by
  unfold lasts
  rw [unlimited]
  rfl

theorem lasts_iff {lease : Lease} {time : Int} (limited : lease.expireAt = some time) : lease.lasts = true ↔ lease.now < time := by
  unfold lasts
  rw [limited]
  exact decide_eq_true_iff

/-- However long one waits, it does not last longer than until it expires. -/
theorem not_lasts_after {lease : Lease} {time : Int} (limited : lease.expireAt = some time) {waited : Nat}
    (long : time - lease.now ≤ waited) : (lease.after waited).lasts = false := by
  have expires : (lease.after waited).expireAt = some time := limited
  have now : (lease.after waited).now = lease.now + waited := rfl
  rw [Bool.eq_false_iff, ne_eq, lasts_iff expires]
  omega

end Lease

namespace LeaseTerms

variable (terms : LeaseTerms)

def taken (now : Int) : Lease where
  now
  nextRenewal := some (now + terms.interval)
  expireAt := terms.duration.map (now + ·)

/-- Nobody waits beyond the next renewal. One that comes too late finds the holder without a lease. -/
def next? (lease : Lease) : LeaseStep → Option Lease
  | .wait time => if lease.nextRenewal.all (lease.now + time ≤ ·) then some (lease.after time) else none
  | .renew =>
    if lease.nextRenewal = some lease.now then
      some (if lease.lasts then terms.taken lease.now else { lease with nextRenewal := none })
    else none
  | .abandon => some { lease with nextRenewal := none }

def system : System Lease LeaseStep where
  init lease := ∃ now, lease = terms.taken now
  next? := terms.next?

variable {terms} {lease after : Lease} {label : LeaseStep} {duration : Int}

theorem next?_cases (next : terms.next? lease label = some after) :
    (∃ time : Nat, (∀ tick, lease.nextRenewal = some tick → lease.now + time ≤ tick) ∧ after = lease.after time) ∨
    (lease.lasts = true ∧ after = terms.taken lease.now) ∨ after = { lease with nextRenewal := none } := by
  cases label with
  | wait time =>
    have waits : (if lease.nextRenewal.all (lease.now + time ≤ ·) then some (lease.after time) else none) = some after := next
    split at waits
    · next due =>
      cases waits
      refine .inl ⟨time, fun tick isDue => ?_, rfl⟩
      rwa [isDue, Option.all_some, decide_eq_true_eq] at due
    · cases waits
  | renew =>
    have renews : (if lease.nextRenewal = some lease.now then
        some (if lease.lasts then terms.taken lease.now else { lease with nextRenewal := none }) else none) = some after := next
    split at renews
    · cases renews
      split
      · next lasts => exact .inr (.inl ⟨lasts, rfl⟩)
      · exact .inr (.inr rfl)
    · cases renews
  | abandon =>
    cases next
    exact .inr (.inr rfl)

theorem taken_expireAt (limited : terms.duration = some duration) (now : Int) :
    (terms.taken now).expireAt = some (now + duration) := by
  unfold taken
  rw [limited]
  rfl

theorem isSome_expireAt (reached : terms.system.Reachable lease) : lease.expireAt.isSome = terms.duration.isSome := by
  have ofTaken (now : Int) : (terms.taken now).expireAt.isSome = terms.duration.isSome := by
    unfold taken
    exact Option.isSome_map
  induction reached with
  | init initial =>
    obtain ⟨now, rfl⟩ := initial
    exact ofTaken now
  | @step before after label _ next ih =>
    rcases next?_cases next with ⟨_, _, rfl⟩ | ⟨_, rfl⟩ | rfl
    · exact ih
    · exact ofTaken before.now
    · exact ih

theorem limited_of_reachable (limited : terms.duration = some duration) (reached : terms.system.Reachable lease) :
    ∃ time, lease.expireAt = some time := by
  rw [← Option.isSome_iff_exists, isSome_expireAt reached, limited]
  rfl

theorem reachable_abandoned (now : Int) : terms.system.Reachable { terms.taken now with nextRenewal := none } := by
  have abandons : terms.system.next? (terms.taken now) .abandon = some { terms.taken now with nextRenewal := none } := rfl
  exact .step (.init ⟨now, rfl⟩) abandons

/-- The lease expires after its next renewal. -/
def InTime (lease : Lease) : Prop :=
  ∀ tick time, lease.nextRenewal = some tick → lease.expireAt = some time → lease.now ≤ tick ∧ tick < time

theorem inTime_taken (limited : terms.duration = some duration) (positive : 0 ≤ terms.interval)
    (longer : terms.interval < duration) (now : Int) : InTime (terms.taken now) := by
  intro tick time due expires
  rw [taken_expireAt limited] at expires
  cases due
  cases expires
  have same : (terms.taken now).now = now := rfl
  omega

theorem inTime_of_reachable (limited : terms.duration = some duration) (positive : 0 ≤ terms.interval)
    (longer : terms.interval < duration) (reached : terms.system.Reachable lease) : InTime lease := by
  induction reached with
  | init initial =>
    obtain ⟨now, rfl⟩ := initial
    exact inTime_taken limited positive longer now
  | @step before after label _ next ih =>
    rcases next?_cases next with ⟨waited, due, rfl⟩ | ⟨_, rfl⟩ | rfl
    · intro tick time isDue expires
      exact ⟨due tick isDue, (ih tick time isDue expires).2⟩
    · exact inTime_taken limited positive longer before.now
    · intro tick time isDue
      cases isDue

/-- A lease that lasts longer than the interval at which it is renewed lasts as long as its holder is there. -/
theorem lasts_of_held (limited : terms.duration = some duration) (positive : 0 ≤ terms.interval)
    (longer : terms.interval < duration) (reached : terms.system.Reachable lease) (held : lease.nextRenewal ≠ none) :
    lease.lasts = true := by
  obtain ⟨time, expires⟩ := limited_of_reachable limited reached
  obtain ⟨tick, due⟩ := Option.ne_none_iff_exists'.mp held
  have renewal := inTime_of_reachable limited positive longer reached tick time due expires
  rw [Lease.lasts_iff expires]
  omega

/-- A lease with a duration expires, if one only waits. -/
theorem expires_of_limited (limited : terms.duration = some duration) (reached : terms.system.Reachable lease) :
    ∃ time : Nat, ∀ waited, time ≤ waited → (lease.after waited).lasts = false := by
  obtain ⟨time, expires⟩ := limited_of_reachable limited reached
  refine ⟨(time - lease.now).toNat, fun waited long => Lease.not_lasts_after expires ?_⟩
  omega

/-- A lease without a duration never expires, whether its holder is there or not. -/
theorem lasts_of_unlimited (unlimited : terms.duration = none) (reached : terms.system.Reachable lease) (waited : Nat) :
    (lease.after waited).lasts = true := by
  refine Lease.lasts_of_none (Option.not_isSome_iff_eq_none.mp ?_)
  show ¬ lease.expireAt.isSome = true
  rw [isSome_expireAt reached, unlimited]
  exact Bool.false_ne_true

end LeaseTerms
