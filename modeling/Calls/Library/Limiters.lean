import Mathlib.Order.Basic

/-! Limiters of rates: what is asked of one, and the bucket of tokens as an instance. -/

set_option autoImplicit false

/-- A limiter lets as many events through per second as its rate, and as many at once as its burst. Times are in ticks of a clock. -/
structure RateLimiter where
  Limiter : Type
  newLimiter : (rate burst : Nat) → Limiter
  burst : Limiter → Nat
  /-- How many events it would let through at the time. -/
  tokensAt : Limiter → Nat → Nat
  allow : Limiter → Nat → Bool × Limiter

/-- An event is let through if there is a token, which it takes. There are never more tokens than the burst. -/
structure RateLimiter.Lawful (rate : RateLimiter) : Prop where
  burst_newLimiter : ∀ limit burst, rate.burst (rate.newLimiter limit burst) = burst
  tokensAt_le : ∀ limiter now, rate.tokensAt limiter now ≤ rate.burst limiter
  burst_allow : ∀ limiter now, rate.burst (rate.allow limiter now).2 = rate.burst limiter
  allow_iff : ∀ limiter now, (rate.allow limiter now).1 = true ↔ 0 < rate.tokensAt limiter now
  tokensAt_allow : ∀ limiter now, rate.tokensAt (rate.allow limiter now).2 now = rate.tokensAt limiter now - 1

/-- A bucket that is filled in the course of time. A token is made of as many parts as a second has ticks. -/
structure TokenBucket where
  rate : Nat
  burst : Nat
  parts : Nat
  last : Nat
  deriving DecidableEq

namespace TokenBucket

variable (second : Nat)

def partsAt (bucket : TokenBucket) (now : Nat) : Nat := min (bucket.burst * second) (bucket.parts + bucket.rate * (now - bucket.last))

def tokensAt (bucket : TokenBucket) (now : Nat) : Nat := bucket.partsAt second now / second

def allow (bucket : TokenBucket) (now : Nat) : Bool × TokenBucket :=
  if second ≤ bucket.partsAt second now then (true, { bucket with parts := bucket.partsAt second now - second, last := now })
  else (false, bucket)

/-- A bucket is full at first. -/
def limiter : RateLimiter where
  Limiter := TokenBucket
  newLimiter rate burst := { rate, burst, parts := burst * second, last := 0 }
  burst := TokenBucket.burst
  tokensAt := tokensAt second
  allow := allow second

variable {second} {bucket : TokenBucket} {now : Nat}

theorem tokensAt_le : bucket.tokensAt second now ≤ bucket.burst := by
  refine Nat.div_le_of_le_mul ?_
  rw [Nat.mul_comm]
  exact Nat.min_le_left _ _

theorem burst_allow : (bucket.allow second now).2.burst = bucket.burst := by
  unfold allow
  split <;> rfl

theorem allow_iff (positive : 0 < second) : (bucket.allow second now).1 = true ↔ 0 < bucket.tokensAt second now := by
  unfold allow tokensAt
  rw [Nat.div_pos_iff]
  split <;> simp_all

/-- The bucket does not overflow where a token is taken. -/
theorem partsAt_allow : ({ bucket with parts := bucket.partsAt second now - second, last := now } : TokenBucket).partsAt second now =
    bucket.partsAt second now - second := by
  have full : bucket.partsAt second now ≤ bucket.burst * second := Nat.min_le_left _ _
  rw [partsAt, Nat.sub_self, Nat.mul_zero, Nat.add_zero]
  exact Nat.min_eq_right (Nat.le_trans (Nat.sub_le _ _) full)

theorem tokensAt_allow : (bucket.allow second now).2.tokensAt second now = bucket.tokensAt second now - 1 := by
  unfold allow
  split
  · rw [tokensAt, partsAt_allow, tokensAt]
    have less := Nat.sub_mul_div (bucket.partsAt second now) second 1
    rwa [Nat.mul_one] at less
  · next few =>
    have none : bucket.tokensAt second now = 0 := Nat.div_eq_of_lt (Nat.lt_of_not_le few)
    rw [none, Nat.zero_sub]

theorem lawful_limiter (positive : 0 < second) : (limiter second).Lawful where
  burst_newLimiter _ _ := rfl
  tokensAt_le _ _ := tokensAt_le
  burst_allow _ _ := burst_allow
  allow_iff _ _ := allow_iff positive
  tokensAt_allow _ _ := tokensAt_allow

end TokenBucket
