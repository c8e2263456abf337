import Mathlib.Order.Lattice
import Calls.Server.Rtcd

/-! The choice of the rtcd host of a new call: of the hosts that take calls the one with the
least load, as far as they tell. -/

set_option autoImplicit false

namespace Calls

/-- A registered host, which is flagged once it is not advertised any more. -/
structure FlaggedRTCDHost (κ : Type) extends RTCDHost κ where
  flagged : Bool := false
  deriving DecidableEq

structure RTCDSystemInfo (α : Type) where
  cpuLoad : α

/-- What one run of `GetHostForNewCall` finds: the answers of the clients, the order in which the
loop over the map visits the hosts, and the choices of `rand.Intn`. -/
structure RTCDSelection (κ α : Type) where
  connected : κ → Bool
  getSystemInfo : κ → Except String (RTCDSystemInfo α)
  visit : List (FlaggedRTCDHost κ) → List (FlaggedRTCDHost κ)
  perm : ∀ hosts, (visit hosts).Perm hosts
  intn : (n : Nat) → 0 < n → Fin n

namespace RTCDSelection

variable {κ α : Type}

/-- Flagged and offline hosts are not assigned. -/
def available (env : RTCDSelection κ α) (host : FlaggedRTCDHost κ) : Bool :=
  ¬ (host.flagged ∨ ¬ env.connected host.client)

theorem mem_available {env : RTCDSelection κ α} {hosts : KeyedTable fun host : FlaggedRTCDHost κ => host.ip}
    {host : FlaggedRTCDHost κ} :
    host ∈ (env.visit hosts.rows).filter env.available ↔ host ∈ hosts ∧ env.available host = true := by
  rw [List.mem_filter, (env.perm hosts.rows).mem_iff, KeyedTable.mem_def]

section
variable [LinearOrder α]

/-- The loop over the available hosts, with the least load so far and the host that has it. -/
def hostWithMinLoad (env : RTCDSelection κ α) :
    List (FlaggedRTCDHost κ) → α → Option (FlaggedRTCDHost κ) → Option (FlaggedRTCDHost κ)
  | [], _, selected => selected
  | host :: hosts, minLoad, selected =>
    match env.getSystemInfo host.client with
    | .error _ => env.hostWithMinLoad hosts minLoad selected
    | .ok info =>
      if selected = none then env.hostWithMinLoad hosts info.cpuLoad (some host)
      else if info.cpuLoad < minLoad then env.hostWithMinLoad hosts info.cpuLoad (some host)
      else env.hostWithMinLoad hosts minLoad selected

/-- `GetHostForNewCall`. The least load is zero until a host has told its own. -/
def getHostForNewCall [Zero α] (env : RTCDSelection κ α) (hosts : KeyedTable fun host : FlaggedRTCDHost κ => host.ip) :
    Except String String :=
  let hostsAvailable := (env.visit hosts.rows).filter env.available
  if filled : 0 < hostsAvailable.length then
    match env.hostWithMinLoad hostsAvailable 0 none with
    | some host => .ok host.ip
    -- No system info could be had.
    | none => .ok hostsAvailable[env.intn hostsAvailable.length filled].ip
  else .error "no host available"

/-! ### The least load -/

/-- The host has told a load that no other host of the list is below, or no host has told one. -/
def LeastLoaded (env : RTCDSelection κ α) (hosts : List (FlaggedRTCDHost κ)) (minLoad : α) :
    Option (FlaggedRTCDHost κ) → Prop
  | none => ∀ host ∈ hosts, ∀ info, env.getSystemInfo host.client ≠ .ok info
  | some selected => selected ∈ hosts ∧ (∃ info, env.getSystemInfo selected.client = .ok info ∧ info.cpuLoad = minLoad) ∧
      ∀ host ∈ hosts, ∀ info, env.getSystemInfo host.client = .ok info → minLoad ≤ info.cpuLoad

section
variable {env : RTCDSelection κ α} {visited : List (FlaggedRTCDHost κ)} {minLoad : α} {selected : Option (FlaggedRTCDHost κ)}
  {host : FlaggedRTCDHost κ}

theorem LeastLoaded.failed (least : env.LeastLoaded visited minLoad selected) {err : String}
    (asked : env.getSystemInfo host.client = .error err) : env.LeastLoaded (visited ++ [host]) minLoad selected := by
  have silent (info : RTCDSystemInfo α) : env.getSystemInfo host.client ≠ .ok info := by simp [asked]
  cases selected with
  | none =>
    intro other member info
    rcases List.mem_append.mp member with old | last
    · exact least other old info
    · rw [List.mem_singleton.mp last]
      exact silent info
  | some selected =>
    obtain ⟨member, told, below⟩ := least
    refine ⟨List.mem_append_left _ member, told, fun other otherMember info answered => ?_⟩
    rcases List.mem_append.mp otherMember with old | last
    · exact below other old info answered
    · rw [List.mem_singleton.mp last] at answered
      exact absurd answered (silent info)

/-- A host that has told a load which none before it is below. -/
theorem LeastLoaded.selects {info : RTCDSystemInfo α} (asked : env.getSystemInfo host.client = .ok info)
    (below : ∀ other ∈ visited, ∀ otherInfo, env.getSystemInfo other.client = .ok otherInfo → info.cpuLoad ≤ otherInfo.cpuLoad) :
    env.LeastLoaded (visited ++ [host]) info.cpuLoad (some host) := by
  refine ⟨by simp, ⟨info, asked, rfl⟩, fun other member otherInfo answered => ?_⟩
  rcases List.mem_append.mp member with old | last
  · exact below other old otherInfo answered
  · rw [List.mem_singleton.mp last, asked] at answered
    cases answered
    exact le_refl _

theorem LeastLoaded.keeps {least : FlaggedRTCDHost κ} (chosen : env.LeastLoaded visited minLoad (some least))
    {info : RTCDSystemInfo α} (asked : env.getSystemInfo host.client = .ok info) (above : minLoad ≤ info.cpuLoad) :
    env.LeastLoaded (visited ++ [host]) minLoad (some least) := by
  obtain ⟨member, told, below⟩ := chosen
  refine ⟨List.mem_append_left _ member, told, fun other otherMember otherInfo answered => ?_⟩
  rcases List.mem_append.mp otherMember with old | last
  · exact below other old otherInfo answered
  · rw [List.mem_singleton.mp last, asked] at answered
    cases answered
    exact above

theorem LeastLoaded.hostWithMinLoad (least : env.LeastLoaded visited minLoad selected) (hosts : List (FlaggedRTCDHost κ)) :
    ∃ final, env.LeastLoaded (visited ++ hosts) final (env.hostWithMinLoad hosts minLoad selected) := by
  induction hosts generalizing visited minLoad selected with
  | nil =>
    rw [List.append_nil]
    exact ⟨minLoad, least⟩
  | cons host hosts ih =>
    rw [List.append_cons]
    unfold RTCDSelection.hostWithMinLoad
    cases asked : env.getSystemInfo host.client with
    | error err => exact ih (least.failed asked)
    | ok info =>
      cases selected with
      | none =>
        dsimp only
        rw [if_pos rfl]
        exact ih (.selects asked fun other member otherInfo answered => absurd answered (least other member otherInfo))
      | some selected =>
        dsimp only
        rw [if_neg (by simp)]
        split
        · next less =>
          refine ih (.selects asked fun other member otherInfo answered => ?_)
          exact le_trans (le_of_lt less) (least.2.2 other member otherInfo answered)
        · next above => exact ih (least.keeps asked (not_lt.mp above))

end

/-- What the choice is for: there is none exactly where no host takes calls; else it is a host that takes
calls and has told the least load, if one of them has told its load. -/
structure SelectsHost (env : RTCDSelection κ α) (hosts : KeyedTable fun host : FlaggedRTCDHost κ => host.ip)
    (result : Except String String) : Prop where
  fails : (∃ err, result = .error err) ↔ ∀ host ∈ hosts, env.available host = false
  selects : ∀ ip, result = .ok ip → ∃ host ∈ hosts, host.ip = ip ∧ env.available host = true ∧
    ∀ other ∈ hosts, env.available other = true → ∀ otherInfo, env.getSystemInfo other.client = .ok otherInfo →
      ∃ info, env.getSystemInfo host.client = .ok info ∧ info.cpuLoad ≤ otherInfo.cpuLoad

theorem getHostForNewCall_selects [Zero α] (env : RTCDSelection κ α)
    (hosts : KeyedTable fun host : FlaggedRTCDHost κ => host.ip) : env.SelectsHost hosts (env.getHostForNewCall hosts) := by
  unfold getHostForNewCall
  dsimp only
  split
  · next filled =>
    have found : ∃ host ∈ hosts, env.available host = true := by
      obtain ⟨host, member⟩ := List.exists_mem_of_length_pos filled
      exact ⟨host, mem_available.mp member⟩
    have fails (ip : String) : (∃ err, (.ok ip : Except String String) = .error err) ↔
        ∀ host ∈ hosts, env.available host = false := by
      obtain ⟨host, member, available⟩ := found
      refine iff_of_false (by simp) fun none => ?_
      rw [none host member] at available
      cases available
    have start : env.LeastLoaded [] 0 none := fun host member => absurd member List.not_mem_nil
    obtain ⟨minLoad, least⟩ := start.hostWithMinLoad ((env.visit hosts.rows).filter env.available)
    rw [List.nil_append] at least
    split
    · next selected chosen =>
      rw [chosen] at least
      obtain ⟨member, ⟨info, told, rfl⟩, below⟩ := least
      refine ⟨fails _, fun ip same => ?_⟩
      cases same
      obtain ⟨registered, available⟩ := mem_available.mp member
      refine ⟨selected, registered, rfl, available, fun other otherMember otherAvailable otherInfo answered => ?_⟩
      exact ⟨info, told, below other (mem_available.mpr ⟨otherMember, otherAvailable⟩) otherInfo answered⟩
    · next unanswered =>
      rw [unanswered] at least
      refine ⟨fails _, fun ip same => ?_⟩
      cases same
      obtain ⟨registered, available⟩ := mem_available.mp (List.getElem_mem (env.intn _ filled).isLt)
      refine ⟨_, registered, rfl, available, fun other otherMember otherAvailable otherInfo answered => ?_⟩
      exact absurd answered (least other (mem_available.mpr ⟨otherMember, otherAvailable⟩) otherInfo)
  · next empty =>
    have none := List.eq_nil_of_length_eq_zero (Nat.eq_zero_of_not_pos empty)
    refine ⟨iff_of_true ⟨_, rfl⟩ fun host member => ?_, fun ip same => by cases same⟩
    rw [Bool.eq_false_iff]
    intro available
    have listed := mem_available.mpr ⟨member, available⟩
    rw [none] at listed
    cases listed

end

end RTCDSelection

end Calls
