import Mathlib.Algebra.Ring.Int.Defs
import Calls.Library.KeyedTable

/-! The records shared by the plugin and its store: calls, their sessions and
their jobs, with the checks made before a record is written. A map that is nil
in the source is an empty one here, which reads and deletions cannot tell apart. -/

set_option autoImplicit false

namespace Calls

/-- A Go map with string keys. -/
abbrev StringMap (ν : Type) := KeyedTable (Prod.fst : String × ν → String)

namespace StringMap

variable {ν : Type}

def get? (m : StringMap ν) (k : String) : Option ν := (m.find? k).map Prod.snd

/-- `m[k] = v`. -/
def set (m : StringMap ν) (k : String) (v : ν) : StringMap ν := m.put (k, v)

@[simp] theorem get?_set (m : StringMap ν) (k other : String) (v : ν) :
    (m.set k v).get? other = if other = k then some v else m.get? other := by
  unfold get? set
  rw [KeyedTable.find?_put]
  split <;> rfl

@[simp] theorem get?_erase (m : StringMap ν) (k other : String) :
    StringMap.get? (m.erase k) other = if other = k then none else m.get? other := by
  unfold get?
  rw [KeyedTable.find?_erase]
  split <;> rfl

@[simp] theorem get?_empty (k : String) : StringMap.get? (KeyedTable.empty : StringMap ν) k = none := rfl

theorem contains_eq_isSome (m : StringMap ν) (k : String) : m.contains k = (m.get? k).isSome := by
  unfold KeyedTable.contains get?
  simp

theorem ne_of_not_contains {m : StringMap ν} {k other : String} {v : ν} (free : m.contains k = false)
    (found : m.get? other = some v) : other ≠ k := by
  intro same
  rw [contains_eq_isSome, ← same, found] at free
  cases free

def mapKeys (m : StringMap ν) : List String := m.rows.map Prod.fst

theorem mem_mapKeys {m : StringMap ν} {k : String} {v : ν} (stored : m.get? k = some v) : k ∈ m.mapKeys := by
  obtain ⟨entry, listed, _⟩ := Option.map_eq_some_iff.mp stored
  obtain ⟨member, rfl⟩ := KeyedTable.find?_eq_some_iff.mp listed
  exact List.mem_map_of_mem member

end StringMap

/-- A reading of the clock. Every reading is later than the first second of the epoch. -/
structure Instant where
  unixMilli : Int
  started : 1000 ≤ unixMilli
  deriving DecidableEq

namespace Instant

instance (ms : Nat) : OfNat Instant (ms + 1000) := ⟨⟨ms + 1000, by omega⟩⟩

def unix (now : Instant) : Int := now.unixMilli / 1000

theorem unixMilli_pos (now : Instant) : 0 < now.unixMilli := by
  have := now.started
  omega

theorem unix_pos (now : Instant) : 0 < now.unix := by
  have := now.started
  unfold unix
  omega

end Instant

/-- Whole seconds from `ts` to `now`, rounded half away from zero. -/
def secondsSinceTimestamp (now : Instant) (ts : Int) : Int :=
  let elapsed := now.unixMilli - ts * 1000
  if 0 ≤ elapsed then (elapsed + 500) / 1000 else -((-elapsed + 500) / 1000)

/-- On a clock of whole seconds the rounding is exact. -/
theorem secondsSinceTimestamp_whole {now : Instant} {ts : Int} (whole : now.unixMilli = now.unix * 1000) :
    secondsSinceTimestamp now ts = now.unix - ts := by
  simp only [secondsSinceTimestamp]
  split <;> omega

/-! ### Calls -/

structure CallProps where
  hosts : List String
  rtcdHost : String
  screenSharingSessionID : String
  dismissedNotification : StringMap Bool
  screenStartAt : Int
  nodeID : String
  participants : StringMap Unit
  hostLockedUserID : String
  videoStartAt : StringMap Int
  deriving DecidableEq

/-- The props of a call of which nothing is recorded yet. -/
def CallProps.zero : CallProps :=
  { hosts := [], rtcdHost := "", screenSharingSessionID := "", dismissedNotification := .empty,
    screenStartAt := 0, nodeID := "", participants := .empty, hostLockedUserID := "",
    videoStartAt := .empty }

structure CallStats where
  screenDuration : Int := 0
  videoDuration : Int := 0
  hasUsedVideo : Bool := false
  hasUsedScreenShare : Bool := false
  deriving DecidableEq

structure Call where
  id : String
  channelID : String
  startAt : Int
  endAt : Int := 0
  createAt : Int
  deleteAt : Int := 0
  postID : String := ""
  threadID : String := ""
  ownerID : String
  participants : List String := []
  stats : CallStats := {}
  props : CallProps
  deriving DecidableEq

def Call.isValid (call : Call) : Except String Unit :=
  if call.id = "" then .error "invalid ID: should not be empty"
  else if call.channelID = "" then .error "invalid ChannelID: should not be empty"
  else if call.startAt = 0 then .error "invalid StartAt: should be > 0"
  else if call.createAt = 0 then .error "invalid CreateAt: should be > 0"
  else if call.deleteAt ≠ 0 then .error "invalid DeleteAt: should be zero"
  else if call.ownerID = "" then .error "invalid OwnerID: should not be empty"
  else .ok ()

theorem Call.isValid_ok_iff {call : Call} :
    call.isValid = .ok () ↔ call.id ≠ "" ∧ call.channelID ≠ "" ∧ call.startAt ≠ 0 ∧
      call.createAt ≠ 0 ∧ call.deleteAt = 0 ∧ call.ownerID ≠ "" := by
  simp [Call.isValid, ite_eq_iff]

/-- The fields of a call that are set when it is created and never again. -/
def Call.identity (call : Call) : String × String × Int × Int × Int × String :=
  (call.id, call.channelID, call.startAt, call.createAt, call.deleteAt, call.ownerID)

theorem Call.isValid_congr {left right : Call} (same : left.identity = right.identity) :
    left.isValid = right.isValid := by
  simp only [Call.identity, Prod.mk.injEq] at same
  simp only [Call.isValid, same]

def Call.getHostID (call : Call) : String := call.props.hosts.headD ""

/-! ### Sessions -/

structure CallSession where
  id : String
  callID : String
  userID : String
  joinAt : Int
  unmuted : Bool := false
  raisedHand : Int := 0
  video : Bool := false
  deriving DecidableEq

def CallSession.isValid (session : CallSession) : Except String Unit :=
  if session.id = "" then .error "invalid ID: should not be empty"
  else if session.callID = "" then .error "invalid CallID: should not be empty"
  else if session.userID = "" then .error "invalid UserID: should not be empty"
  else if session.joinAt = 0 then .error "invalid JoinAt: should not be zero"
  else .ok ()

theorem CallSession.isValid_ok_iff {session : CallSession} :
    session.isValid = .ok () ↔ session.id ≠ "" ∧ session.callID ≠ "" ∧ session.userID ≠ "" ∧
      session.joinAt ≠ 0 := by
  simp [CallSession.isValid, ite_eq_iff]

/-- A Go map of the sessions of a call, each under its own ID. -/
abbrev SessionMap := KeyedTable CallSession.id

/-! ### Jobs -/

inductive JobType where
  | recording
  | transcribing
  | captioning
  deriving DecidableEq

structure CallJobProps where
  jobID : String := ""
  botConnID : String := ""
  err : String := ""
  deriving DecidableEq

structure CallJob where
  id : String
  callID : String
  type : JobType
  creatorID : String
  initAt : Int
  startAt : Int := 0
  endAt : Int := 0
  props : CallJobProps := {}
  deriving DecidableEq

def CallJob.isValid (job : CallJob) : Except String Unit :=
  if job.id = "" then .error "invalid ID: should not be empty"
  else if job.callID = "" then .error "invalid CallID: should not be empty"
  else if job.creatorID = "" then .error "invalid CreatorID: should not be empty"
  else if job.initAt = 0 then .error "invalid InitAt: should be > 0"
  else .ok ()

theorem CallJob.isValid_ok_iff {job : CallJob} :
    job.isValid = .ok () ↔ job.id ≠ "" ∧ job.callID ≠ "" ∧ job.creatorID ≠ "" ∧ job.initAt ≠ 0 := by
  simp [CallJob.isValid, ite_eq_iff]

/-- The fields of a job that are set when it is created and never again. -/
def CallJob.identity (job : CallJob) : String × String × JobType × String × Int :=
  (job.id, job.callID, job.type, job.creatorID, job.initAt)

theorem CallJob.isValid_congr {left right : CallJob} (same : left.identity = right.identity) :
    left.isValid = right.isValid := by
  simp only [CallJob.identity, Prod.mk.injEq] at same
  simp only [CallJob.isValid, same]

/-- `job.EndAt = now`. -/
def CallJob.ended (job : CallJob) (now : Instant) : CallJob := { job with endAt := now.unixMilli }

/-- `job.Props.BotConnID = connID`. -/
def CallJob.withBot (job : CallJob) (connID : String) : CallJob :=
  { job with props := { job.props with botConnID := connID } }

/-- `job.Props.Err = err`. -/
def CallJob.withErr (job : CallJob) (err : String) : CallJob :=
  { job with props := { job.props with err := err } }

end Calls
