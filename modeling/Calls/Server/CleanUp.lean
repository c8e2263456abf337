import Mathlib.Data.List.ReduceOption
import Calls.Server.ForcedEnds
import Calls.Server.Rtcd

/-! The clean-up when the plugin starts: calls that a crash has left behind are ended,
those that the rtcd host still serves are spared. -/

set_option autoImplicit false

namespace Calls

open Command

/-- The parser and the order of versions. -/
structure Semver (ν : Type) where
  newVersion : String → Except String ν
  compare : ν → ν → Int

def checkMinVersion {ν : Type} (semver : Semver ν) (minVersion currVersion : String) : Except String Unit :=
  match semver.newVersion minVersion with
  | .error err => .error ("failed to parse minVersion: " ++ err)
  | .ok minV =>
    match semver.newVersion currVersion with
    | .error err => .error ("failed to parse currVersion: " ++ err)
    | .ok currV =>
      if semver.compare currV minV < 0 then
        .error ("current version (" ++ currVersion ++ ") is lower than minimum supported version (" ++ minVersion ++ ")")
      else .ok ()

structure SessionConfig where
  sessionID : String
  callID : String

/-- What a host answers through its client: its build version, and the sessions of a call
with the status code and the error of the request. -/
structure RTCDClient where
  getVersionInfo : Except String String
  getSessions : String → List SessionConfig × Int × Option String

section
variable {ν μ : Type} (semver : Semver ν)

/-- Builds that `GetSessions` may be asked of; those of developers always are. -/
def supportsSessions (buildVersion : String) : Bool :=
  buildVersion = "" ∨ buildVersion = "master" ∨ "dev".toList.isPrefixOf buildVersion.toList ∨
    checkMinVersion semver "v1.0.0" buildVersion = .ok ()

def RTCDClientManager.hasCallEnded (call : Call) (m : RTCDClientManager RTCDClient μ) : Bool :=
  match m.getHost call.props.rtcdHost with
  | none => true
  | some host =>
    match host.client.getVersionInfo with
    | .error _ => false
    | .ok buildVersion =>
      if supportsSessions semver buildVersion = false then false
      else
        -- The error of the request is logged and not looked at again.
        let (cfgs, code, _) := host.client.getSessions call.id
        if code ≠ 200 ∧ code ≠ 404 then false
        else if 0 < cfgs.length then false
        else true

/-- The turn of one call in the loop of `cleanUpState`. -/
def cleanUpCall (rtcdManager : Option (RTCDClientManager RTCDClient μ)) (env : Env) (call : Call) : Handler Unit :=
  if env.lockFails = true then pure ()
  else if rtcdManager.any (fun m => call.props.rtcdHost ≠ "" ∧ m.hasCallEnded semver call = false) = true then pure ()
  else (cleanCallState env call).mapError ("failed to clean up state: " ++ ·)

/-- `turn` is what the turn of each call finds. -/
def cleanUpState (rtcdManager : Option (RTCDClientManager RTCDClient μ)) (listFaults : Faults) (turn : Call → Env) :
    Handler Unit := do
  let calls ← (Handler.onStore (Store.getAllActiveCalls listFaults)).mapError ("failed to get all active calls: " ++ ·)
  -- `ORDER BY StartAt DESC, ID`
  Command.forEach (calls.mergeSort fun left right => !Store.callBefore right left) fun call =>
    cleanUpCall semver rtcdManager (turn call) call

end

/-! ### What the host has to say -/

/-- A host of the map whose build can be asked for sessions. -/
def RTCDClientManager.Asked {ν μ : Type} (semver : Semver ν) (m : RTCDClientManager RTCDClient μ) (call : Call)
    (client : RTCDClient) : Prop :=
  ∃ host buildVersion, m.getHost call.props.rtcdHost = some host ∧ host.client = client ∧
    client.getVersionInfo = .ok buildVersion ∧ supportsSessions semver buildVersion = true

section
variable {ν μ : Type} (semver : Semver ν) (rtcdManager : Option (RTCDClientManager RTCDClient μ)) (call : Call)

/-- The host is gone, or it says that it has no session of the call, or that it does not know it. -/
def KnownToHaveEnded : Prop :=
  (rtcdManager.bind fun m => m.getHost call.props.rtcdHost) = none ∨
    ∃ m client, rtcdManager = some m ∧ m.Asked semver call client ∧
      (client.getSessions call.id = ([], 200, none) ∨ (client.getSessions call.id).2.1 = 404)

/-- The request failed although its status is that of a success, so there are no sessions in the answer. -/
def FailsWithSuccess : Prop :=
  ∃ m client err, rtcdManager = some m ∧ m.Asked semver call client ∧ client.getSessions call.id = ([], 200, some err)

variable {semver rtcdManager call}

theorem RTCDClientManager.hasCallEnded_of_asked {m : RTCDClientManager RTCDClient μ} {client : RTCDClient}
    (asked : m.Asked semver call client) :
    m.hasCallEnded semver call = true ↔ (client.getSessions call.id).1 = [] ∧
      ((client.getSessions call.id).2.1 = 200 ∨ (client.getSessions call.id).2.1 = 404) := by
  obtain ⟨host, buildVersion, found, rfl, version, supported⟩ := asked
  rw [hasCallEnded, found]
  simp only [version, supported, Bool.true_eq_false, if_false]
  by_cases code : (host.client.getSessions call.id).2.1 = 200 ∨ (host.client.getSessions call.id).2.1 = 404
  · rw [if_neg (by tauto)]
    cases (host.client.getSessions call.id).1 <;> simp [code]
  · rw [if_pos (by tauto)]
    simp [code]

theorem RTCDClientManager.asked_of_hasCallEnded {m : RTCDClientManager RTCDClient μ} {host : RTCDHost RTCDClient}
    (found : m.getHost call.props.rtcdHost = some host) (ended : m.hasCallEnded semver call = true) :
    m.Asked semver call host.client := by
  rw [hasCallEnded, found] at ended
  cases version : host.client.getVersionInfo with
  | error err => simp [version] at ended
  | ok buildVersion =>
    refine ⟨host, buildVersion, found, rfl, version, ?_⟩
    by_contra unsupported
    simp [version, Bool.eq_false_iff.mpr unsupported] at ended

/-- A call that is not spared has ended for all that is known, or its host answers with an error. -/
theorem hasCallEnded_cases {m : RTCDClientManager RTCDClient μ} (ended : m.hasCallEnded semver call = true) :
    KnownToHaveEnded semver (some m) call ∨ FailsWithSuccess semver (some m) call := by
  cases found : m.getHost call.props.rtcdHost with
  | none => exact .inl (.inl found)
  | some host =>
    have asked := m.asked_of_hasCallEnded found ended
    obtain ⟨empty, code⟩ := (RTCDClientManager.hasCallEnded_of_asked asked).mp ended
    rcases code with success | missing
    · cases err : (host.client.getSessions call.id).2.2 with
      | none => exact .inl (.inr ⟨m, host.client, rfl, asked, .inl (Prod.ext empty (Prod.ext success err))⟩)
      | some err' => exact .inr ⟨m, host.client, err', rfl, asked, Prod.ext empty (Prod.ext success err)⟩
    · exact .inl (.inr ⟨m, host.client, rfl, asked, .inr missing⟩)

end

/-! ### What a clean-up leaves alone -/

/-- The row of a call, its sessions and its jobs. -/
def Store.recordsOf (store : Store) (callID : String) : Option Call × SessionMap × KeyedTable CallJob.id :=
  (store.calls.find? callID, store.callSessions callID, store.jobs.filter fun job => decide (job.callID = callID))

section
variable {callID : String} {env : Env}

theorem Store.recordsOf_saveJob {store : Store} {job : CallJob}
    (foreign : (store.recordsOf callID).2.2.contains job.id = false) :
    (store.saveJob job).recordsOf callID = store.recordsOf callID := by
  have kept : (store.saveJob job).jobs.filter (fun job => decide (job.callID = callID)) =
      store.jobs.filter fun job => decide (job.callID = callID) := by
    rw [saveJob, KeyedTable.filter_modify store.jobs job.id (·.updatedFrom job) (·.updatedFrom_id job) _ fun _ => rfl]
    exact KeyedTable.modify_eq_self foreign
  exact Prod.ext rfl (Prod.ext rfl kept)

theorem Store.recordsOf_saveCall (store : Store) {call : Call} (other : callID ≠ call.id) :
    (store.saveCall call).recordsOf callID = store.recordsOf callID :=
  Prod.ext (find?_saveCall_other other) rfl

/-- The jobs of one call are not those of another. -/
theorem Store.foreign_of_activeCallJobs {store : Store} {otherID : String} {type : JobType} {job : CallJob}
    (other : callID ≠ otherID) (found : store.activeCallJobs otherID type = some job) :
    (store.recordsOf callID).2.2.contains job.id = false := by
  obtain ⟨member, owned, -⟩ := activeCallJobs_eq_some found
  refine KeyedTable.contains_eq_false_iff.mpr ?_
  intro row listed same
  obtain ⟨rowMember, rowOwned⟩ := KeyedTable.mem_filter.mp listed
  obtain rfl := KeyedTable.eq_of_key_eq rowMember member same
  exact other ((of_decide_eq_true rowOwned).symm.trans owned)

theorem cleanCallJob_keeps {records : Option Call × SessionMap × KeyedTable CallJob.id} (channelID : String) {job : CallJob}
    (foreign : records.2.2.contains job.id = false) :
    Maintains (fun world => world.store.recordsOf callID = records) (cleanCallJob env channelID job) := by
  have write : Maintains (fun store => store.recordsOf callID = records)
      (Store.updateCallJob env.faults (job.ended env.now)) := by
    refine .of_wp fun store same => Store.wp_updateCallJob (fun _ => same) fun _ _ => ?_
    exact (Store.recordsOf_saveJob (same ▸ foreign)).trans same
  unfold cleanCallJob
  refine Maintains.ite (Maintains.bind (Maintains.ignoring fun world same => write world.store same) fun _ => ?_) (.pure ())
  exact Maintains.when (.modify fun _ same => same)

/-- Cleaning one call up does not touch another. -/
theorem cleanCallState_keeps {call : Call} (other : callID ≠ call.id) :
    Preserves (fun world => world.store.recordsOf callID) (cleanCallState env call) := by
  have named : (if call.endAt = 0 then setCallEnded env.now call else call).id = call.id := by
    split <;> rfl
  have post : Preserves (fun world => world.store.recordsOf callID)
      (updateCallPostEnded env call.postID call.props.participants.mapKeys) :=
    .of_run fun world => by rw [updateCallPostEnded_world]
  have sessions : Preserves (fun store => store.recordsOf callID) (Store.deleteCallsSessions env.faults call.id) := by
    unfold Store.deleteCallsSessions Store.guarded
    refine (Preserves.throw _).ite (.modify fun store => ?_)
    have kept : (store.sessions.filter fun session => !decide (session.callID = call.id)).filter
        (fun session => decide (session.callID = callID)) = store.sessions.filter fun session => session.callID = callID := by
      apply KeyedTable.ext
      rw [KeyedTable.rows_filter, KeyedTable.rows_filter, List.filter_filter]
      refine List.filter_congr fun session _ => ?_
      by_cases owned : session.callID = callID <;> simp [owned, other]
    exact Prod.ext rfl (Prod.ext kept rfl)
  have calls : Preserves (fun store => store.recordsOf callID)
      (Store.updateCall env.faults (if call.endAt = 0 then setCallEnded env.now call else call)) :=
    .of_wp fun store => Store.wp_updateCall (fun _ => rfl) fun _ _ => Store.recordsOf_saveCall store (named ▸ other)
  intro records
  unfold cleanCallState
  refine (post.ignoring records).bind fun _ => ?_
  dsimp only
  rw [named]
  refine ((Handler.onStore_preserves sessions).ignoring records).bind fun _ => .of_wp fun world same => ?_
  have listed : (Handler.onStore (Store.getActiveCallJobs env.faults call.id)).attempt world =
      (.ok (if env.faults (.getActiveCallJobs call.id) = true then .error "failed to run query"
        else .ok (world.store.activeCallJobs call.id)), world) := by
    unfold Store.getActiveCallJobs Store.guarded
    split <;> rfl
  rw [wp, bind_run_ok listed]
  refine Maintains.bind (.forEach_mem _ fun job member => cleanCallJob_keeps _ ?_)
    (fun _ => Handler.onStore_preserves calls records) world same
  split at member
  · next jobs found =>
    have read : jobs = world.store.activeCallJobs call.id := by
      split at found
      · cases found
      · exact (Except.ok.inj found).symm
    have active : ∃ type, world.store.activeCallJobs call.id type = some job := by
      rw [List.reduceOption_mem_iff, read] at member
      simp only [List.mem_cons, List.not_mem_nil, or_false] at member
      obtain found | found | found := member <;> exact ⟨_, found.symm⟩
    obtain ⟨type, found⟩ := active
    rw [← same]
    exact Store.foreign_of_activeCallJobs other found
  · cases member

end

/-! ### Which calls a clean-up ends -/

section
variable {ν μ : Type} {semver : Semver ν} {rtcdManager : Option (RTCDClientManager RTCDClient μ)}

/-- A call with a host is ended only if it is known to have ended, whatever the clean-up finds. -/
def EndsOnlyEnded (semver : Semver ν) (rtcdManager : Option (RTCDClientManager RTCDClient μ)) (world : World) : Prop :=
  ∀ (listFaults : Faults) (turn : Call → Env), ∀ call ∈ world.store.calls, Store.isActive call = true →
    call.props.rtcdHost ≠ "" → ¬ KnownToHaveEnded semver rtcdManager call →
      (cleanUpState semver rtcdManager listFaults turn world).2.store.recordsOf call.id = world.store.recordsOf call.id

theorem cleanUpCall_keeps {call other : Call} (env : Env) (apart : call.id = other.id → call = other)
    (hosted : call.props.rtcdHost ≠ "") (notEnded : ¬ KnownToHaveEnded semver rtcdManager call)
    (answered : ¬ FailsWithSuccess semver rtcdManager call) :
    Preserves (fun world => world.store.recordsOf call.id) (cleanUpCall semver rtcdManager env other) := by
  unfold cleanUpCall
  refine (Preserves.pure ()).ite ?_
  by_cases same : call.id = other.id
  · obtain rfl := apart same
    have spared : rtcdManager.any (fun m => call.props.rtcdHost ≠ "" ∧ m.hasCallEnded semver call = false) = true := by
      cases rtcdManager with
      | none => exact absurd (.inl rfl) notEnded
      | some m =>
        simp only [Option.any_some, hosted, ne_eq, not_false_eq_true, true_and, decide_eq_true_eq, Bool.eq_false_iff]
        intro ended
        rcases hasCallEnded_cases ended with known | failed
        · exact notEnded known
        · exact answered failed
    rw [if_pos spared]
    exact .pure ()
  · exact (Preserves.pure ()).ite (cleanCallState_keeps same).mapError

/-- The turn of a call whose host answers with an error, on a node on which all else works. -/
theorem cleanUpCall_ends {call : Call} {world : World} {env : Env} (works : env.StoreWorks) (locked : env.lockFails = false)
    (valid : call.isValid = .ok ()) (stored : world.store.calls.find? call.id = some call)
    (active : Store.isActive call = true) (failed : FailsWithSuccess semver rtcdManager call) :
    (cleanUpCall semver rtcdManager env call world).2.store.calls.find? call.id = some (setCallEnded env.now call) := by
  obtain ⟨m, client, err, rfl, asked, answer⟩ := failed
  have ended : m.hasCallEnded semver call = true :=
    (RTCDClientManager.hasCallEnded_of_asked asked).mpr ⟨by rw [answer], .inl (by rw [answer])⟩
  have calls : (cleanCallState env call world).2.store.calls = (world.store.saveCall (setCallEnded env.now call)).calls :=
    cleanCallState_spec works valid (Store.endAt_of_isActive active)
  have cleaned : (cleanUpCall semver (some m) env call world).2 = (cleanCallState env call world).2 := by
    simp [cleanUpCall, locked, ended, mapError]
    split <;> simp_all
  rw [cleaned, calls]
  exact Store.find?_saveCall_self stored rfl

theorem FailsWithSuccess.notKnown {call : Call} (failed : FailsWithSuccess semver rtcdManager call) :
    ¬ KnownToHaveEnded semver rtcdManager call := by
  obtain ⟨m, client, err, rfl, ⟨host, version, found, rfl, -, -⟩, answer⟩ := failed
  intro known
  rcases known with missing | ⟨other, _, same, ⟨_, _, again, rfl, -, -⟩, ended⟩
  · simp [found] at missing
  · obtain rfl := Option.some.inj same
    obtain rfl := Option.some.inj (found.symm.trans again)
    simp [answer] at ended

/-- What the turns find when only one of the locks is acquired. -/
def onlyTurn (callID : String) (call : Call) : Env :=
  if call.id = callID then .quiet 1000 "" else { Env.quiet 1000 "" with lockFails := true }

/-- A call whose host answers with an error is ended in the turn that finds everything else working. -/
theorem EndsOnlyEnded.answered {world : World} (safe : EndsOnlyEnded semver rtcdManager world) (valid : world.store.CallsValid) :
    ∀ call ∈ world.store.calls, Store.isActive call = true → call.props.rtcdHost ≠ "" →
      ¬ FailsWithSuccess semver rtcdManager call := by
  intro call member active hosted failed
  have kept := safe .none (onlyTurn call.id) call member active hosted failed.notKnown
  have listed : Handler.onStore (Store.getAllActiveCalls .none) world =
      (.ok (world.store.calls.rows.filter Store.isActive), world) := rfl
  have skipped (other : Call) (known : other ∈ world.store.calls) (differs : other ≠ call) :
      cleanUpCall semver rtcdManager (onlyTurn call.id other) other = pure () := by
    have apart : other.id ≠ call.id := fun same => differs (KeyedTable.eq_of_key_eq known member same)
    simp [cleanUpCall, onlyTurn, apart]
  have ran : (cleanUpState semver rtcdManager .none (onlyTurn call.id) world).2 =
      (cleanUpCall semver rtcdManager (.quiet 1000 "") call world).2 := by
    have nodup : (world.store.calls.rows.filter Store.isActive).Nodup :=
      (List.Nodup.of_map _ world.store.calls.nodup).filter _
    rw [cleanUpState, bind_run_ok (by rw [mapError, listed])]
    refine (forEach_single (List.mergeSort_perm _ _ |>.nodup_iff.mpr nodup)
      (List.mem_mergeSort.mpr (List.mem_filter.mpr ⟨member, active⟩)) ?_ world).trans (by rw [onlyTurn, if_pos rfl])
    intro other listed differs
    exact skipped other (List.mem_of_mem_filter (List.mem_mergeSort.mp listed)) differs
  have stored := KeyedTable.find?_self member
  have works : (Env.quiet 1000 "").StoreWorks := fun _ => rfl
  have ended := cleanUpCall_ends works rfl (valid call member) stored active failed
  rw [ran] at kept
  have same := (Prod.ext_iff.mp kept).1
  rw [Store.recordsOf, ended, Store.recordsOf, stored] at same
  have ends := congrArg Call.endAt (Option.some.inj same)
  rw [Store.endAt_of_isActive active] at ends
  cases ends

/-- A clean-up is safe exactly where no host of an active call answers with a status of success,
an error and no sessions. -/
theorem endsOnlyEnded_iff {world : World} (valid : world.store.CallsValid) :
    EndsOnlyEnded semver rtcdManager world ↔
      ∀ call ∈ world.store.calls, Store.isActive call = true → call.props.rtcdHost ≠ "" →
        ¬ FailsWithSuccess semver rtcdManager call := by
  constructor
  · exact fun safe => safe.answered valid
  · intro answered listFaults turn call member active hosted notEnded
    have loop (calls : List Call) (known : ∀ other ∈ calls, other ∈ world.store.calls) :
        Preserves (fun world => world.store.recordsOf call.id)
          (Command.forEach calls fun other => cleanUpCall semver rtcdManager (turn other) other) := by
      intro records
      refine .forEach_mem calls fun other listed => ?_
      have apart (same : call.id = other.id) : call = other := KeyedTable.eq_of_key_eq member (known other listed) same
      exact cleanUpCall_keeps (turn other) apart hosted notEnded (answered call member active hosted) records
    unfold cleanUpState Store.getAllActiveCalls Store.guarded
    split
    · rfl
    · refine (loop _ ?_).run world
      intro other listed
      exact List.mem_of_mem_filter (List.mem_mergeSort.mp listed)

end

/-! ### A host that answers 200 -/

/-- The builds in the examples are those of developers, which are no versions. -/
def devBuilds : Semver Unit :=
  { newVersion := fun _ => .error "Invalid Semantic Version", compare := fun _ _ => 0 }

def hostedCall : Call :=
  { id := "call", channelID := "channel", startAt := 1000, createAt := 1000, ownerID := "alice",
    props := { CallProps.zero with rtcdHost := "10.0.0.1" } }

/-- A crash has left the call and the session of Alice behind. -/
def leftBehind : World :=
  { World.empty with
    store :=
      { Store.empty with
        calls := KeyedTable.empty.put hostedCall
        sessions := KeyedTable.empty.put { id := "conn-1", callID := "call", userID := "alice", joinAt := 1000 } } }

def hostAnswering (answer : List SessionConfig × Int × Option String) : RTCDClientManager RTCDClient Unit :=
  { hosts := KeyedTable.empty.put { ip := "10.0.0.1", client := ⟨.ok "dev-1", fun _ => answer⟩ }, closed := [], sent := [] }

theorem leftBehind_valid : leftBehind.store.CallsValid := by
  unfold Store.CallsValid
  decide

theorem endsOnlyEnded_of_session :
    EndsOnlyEnded devBuilds (some (hostAnswering ([⟨"conn-1", "call"⟩], 200, none))) leftBehind := by
  refine (endsOnlyEnded_iff leftBehind_valid).mpr ?_
  intro call member _ _ failed
  obtain rfl : call = hostedCall := List.mem_singleton.mp member
  obtain ⟨m, client, err, same, ⟨host, _, found, rfl, -, -⟩, answer⟩ := failed
  obtain rfl := Option.some.inj same
  obtain rfl : _ = host := Option.some.inj found
  cases answer

/-- The body of the answer could not be decoded. -/
theorem not_endsOnlyEnded :
    ¬ EndsOnlyEnded devBuilds (some (hostAnswering ([], 200, some "failed to decode response"))) leftBehind := by
  intro safe
  apply safe.answered leftBehind_valid hostedCall (List.mem_singleton.mpr rfl) (by decide) (by decide)
  exact ⟨_, _, _, rfl, ⟨_, "dev-1", rfl, rfl, rfl, by decide⟩, rfl⟩

end Calls
