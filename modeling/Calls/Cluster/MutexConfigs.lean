import Calls.Library.Leases

/-! The configuration of a mutex of the cluster, and the expiry that it gives to the key in the store. -/

set_option autoImplicit false

namespace Calls.Cluster

/-! ### Durations, in nanoseconds -/

def millisecond : Int := 1000000

def second : Int := 1000 * millisecond

def defaultTTL : Int := 10 * second
def defaultRefreshInterval : Int := defaultTTL.tdiv 2
def defaultPollInterval : Int := 500 * millisecond
def maxPollInterval : Int := 1 * second

structure MutexConfig where
  ttl : Int := 0
  refreshInterval : Int := 0
  pollInterval : Int := 0
  deriving DecidableEq

namespace MutexConfig

def setDefaults (c : MutexConfig) : MutexConfig where
  ttl := if c.ttl = 0 then defaultTTL else c.ttl
  refreshInterval := if c.refreshInterval = 0 then defaultRefreshInterval else c.refreshInterval
  pollInterval := if c.pollInterval = 0 then defaultPollInterval else c.pollInterval

def isValid (c : MutexConfig) : Except String Unit :=
  if c.ttl ≤ 0 then .error "TTL should be positive"
  else if c.refreshInterval ≤ 0 then .error "RefreshInterval should be positive"
  else if c.pollInterval ≤ 0 then .error "PollInterval should be positive"
  else if c.pollInterval > maxPollInterval then .error "PollInterval should not be higher than 1s"
  else if c.refreshInterval > c.ttl.tdiv 2 then .error "RefreshInterval should not be higher than half the TTL"
  else .ok ()

structure Valid (c : MutexConfig) : Prop where
  ttl : 0 < c.ttl
  refreshInterval : 0 < c.refreshInterval
  pollInterval : 0 < c.pollInterval
  polls : c.pollInterval ≤ maxPollInterval
  half : c.refreshInterval ≤ c.ttl.tdiv 2

theorem isValid_eq_ok_iff {c : MutexConfig} : c.isValid = .ok () ↔ c.Valid := by
  simp only [isValid, ite_eq_iff, reduceCtorEq, and_false, false_or, and_true, Int.not_le, Int.not_lt, gt_iff_lt]
  constructor
  · rintro ⟨ttl, refreshInterval, pollInterval, polls, half⟩
    exact ⟨ttl, refreshInterval, pollInterval, polls, half⟩
  · intro valid
    exact ⟨valid.ttl, valid.refreshInterval, valid.pollInterval, valid.polls, valid.half⟩

/-- The defaults are valid. -/
theorem setDefaults_valid : (setDefaults {}).Valid := by
  constructor <;> decide

end MutexConfig

/-- A mutex as `NewMutex` makes it. -/
structure ConfiguredMutex where
  key : String
  config : MutexConfig
  deriving DecidableEq

def newMutex (key : String) (cfg : MutexConfig) : Except String ConfiguredMutex :=
  if key = "" then .error "key should not be empty"
  else
    match cfg.setDefaults.isValid with
    | .error err => .error err
    | .ok () => .ok { key := "mutex_" ++ key, config := cfg.setDefaults }

theorem newMutex_eq_ok_iff {key : String} {cfg : MutexConfig} {m : ConfiguredMutex} :
    newMutex key cfg = .ok m ↔ key ≠ "" ∧ cfg.setDefaults.Valid ∧ m = ⟨"mutex_" ++ key, cfg.setDefaults⟩ := by
  unfold newMutex
  by_cases empty : key = ""
  · simp [empty]
  · rw [if_neg empty, ← MutexConfig.isValid_eq_ok_iff]
    cases cfg.setDefaults.isValid with
    | error err => simp
    | ok => simp [empty, eq_comm]

namespace ConfiguredMutex

/-- The expiry that `tryLock` and `refreshLock` give to the key. -/
def expireInSeconds (m : ConfiguredMutex) : Int := m.config.ttl.tdiv second

/-- A key without an expiry stays until it is deleted. -/
def terms (m : ConfiguredMutex) : LeaseTerms where
  interval := m.config.refreshInterval
  duration := if m.expireInSeconds = 0 then none else some (m.expireInSeconds * second)

/-- A lock that is held is refreshed before its key expires, and the key of one that is abandoned expires. -/
structure Expires (m : ConfiguredMutex) : Prop where
  positive : 0 < m.expireInSeconds
  longer : m.config.refreshInterval < m.expireInSeconds * second
  held : ∀ lock, m.terms.system.Reachable lock → lock.nextRenewal ≠ none → lock.lasts = true
  abandoned : ∀ lock, m.terms.system.Reachable lock →
    ∃ time : Nat, ∀ waited, time ≤ waited → (lock.after waited).lasts = false

variable {m : ConfiguredMutex}

theorem expireInSeconds_eq (valid : m.config.Valid) : m.expireInSeconds = m.config.ttl / second :=
  Int.tdiv_eq_ediv_of_nonneg (Int.le_of_lt valid.ttl)

theorem refreshInterval_le (valid : m.config.Valid) : m.config.refreshInterval ≤ m.config.ttl / 2 := by
  rw [← Int.tdiv_eq_ediv_of_nonneg (Int.le_of_lt valid.ttl)]
  exact valid.half

theorem expireInSeconds_pos_iff (valid : m.config.Valid) : 0 < m.expireInSeconds ↔ second ≤ m.config.ttl := by
  have isSecond : second = 1000000000 := rfl
  rw [expireInSeconds_eq valid, isSecond]
  omega

/-- What is cut off is less than a second, which the half of the TTL makes up for. -/
theorem refreshInterval_lt (valid : m.config.Valid) (long : second ≤ m.config.ttl) :
    m.config.refreshInterval < m.expireInSeconds * second := by
  have half := refreshInterval_le valid
  have isSecond : second = 1000000000 := rfl
  rw [expireInSeconds_eq valid, isSecond]
  rw [isSecond] at long
  omega

theorem expires_iff (valid : m.config.Valid) : m.Expires ↔ second ≤ m.config.ttl := by
  constructor
  · intro expires
    exact (expireInSeconds_pos_iff valid).mp expires.positive
  · intro long
    have positive := (expireInSeconds_pos_iff valid).mpr long
    have longer := refreshInterval_lt valid long
    have limited : m.terms.duration = some (m.expireInSeconds * second) := if_neg (Int.ne_of_gt positive)
    exact
      { positive, longer
        held := fun _ reached held => LeaseTerms.lasts_of_held limited (Int.le_of_lt valid.refreshInterval) longer reached held
        abandoned := fun _ reached => LeaseTerms.expires_of_limited limited reached }

end ConfiguredMutex

theorem second_le_ttl_iff {cfg : MutexConfig} : second ≤ cfg.setDefaults.ttl ↔ cfg.ttl = 0 ∨ second ≤ cfg.ttl := by
  unfold MutexConfig.setDefaults
  dsimp only
  split
  · next unset =>
    have default : second ≤ defaultTTL := by decide
    exact iff_of_true default (.inl unset)
  · next isSet => exact (or_iff_right isSet).symm

/-- The key of a mutex expires, and not before it is refreshed, exactly if the TTL is not given or at least a second. -/
theorem newMutex_expires_iff {key : String} {cfg : MutexConfig} {m : ConfiguredMutex} (made : newMutex key cfg = .ok m) :
    m.Expires ↔ cfg.ttl = 0 ∨ second ≤ cfg.ttl := by
  obtain ⟨_, valid, rfl⟩ := newMutex_eq_ok_iff.mp made
  rw [ConfiguredMutex.expires_iff valid, second_le_ttl_iff]

/-- What the mutex of a call is made with. -/
def callMutexConfig : MutexConfig where
  ttl := 4 * second
  refreshInterval := 1 * second
  pollInterval := 50 * millisecond

theorem newMutex_expires_call : (⟨"mutex_call_channel", callMutexConfig.setDefaults⟩ : ConfiguredMutex).Expires :=
  have made : newMutex "call_channel" callMutexConfig = .ok ⟨"mutex_call_channel", callMutexConfig.setDefaults⟩ := rfl
  (newMutex_expires_iff made).mpr (.inr (by decide))

/-- A TTL of half a second. -/
def shortMutexConfig : MutexConfig where
  ttl := 500 * millisecond
  refreshInterval := 100 * millisecond

/-- The mutex is made, and its key has no expiry: once its holder is gone nobody ever gets it. -/
theorem not_newMutex_expires : ∃ m, newMutex "lock" shortMutexConfig = .ok m ∧ m.expireInSeconds = 0 ∧
    (∃ lock, m.terms.system.Reachable lock ∧ lock.nextRenewal = none ∧ ∀ waited, (lock.after waited).lasts = true) ∧
    ¬ m.Expires := by
  refine ⟨⟨"mutex_lock", shortMutexConfig.setDefaults⟩, rfl, by decide, ?_, fun expires => ?_⟩
  · have unlimited : (ConfiguredMutex.terms ⟨"mutex_lock", shortMutexConfig.setDefaults⟩).duration = none := by decide
    exact ⟨_, LeaseTerms.reachable_abandoned 0, rfl, LeaseTerms.lasts_of_unlimited unlimited (LeaseTerms.reachable_abandoned 0)⟩
  · exact absurd expires.positive (by decide)

end Calls.Cluster
