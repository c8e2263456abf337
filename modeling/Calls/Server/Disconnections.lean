import Calls.Library.System
import Calls.Server.Records

/-! The connections that are lost while their sessions join. The hook that is told of a lost
connection looks for its session twice, a fixed time apart. -/

set_option autoImplicit false

namespace Calls

/-- The records of a node, with the objects whose `wsClosed` flag is set and the connections that are
to be looked up once more. -/
structure ConnectionRecords where
  node : NodeRecords
  wsClosed : List Nat
  lookups : List String

namespace ConnectionRecords

/-- The flag of an object is set once, and with it its channel is closed. -/
def closeWS (records : ConnectionRecords) (us : Nat) : ConnectionRecords :=
  if us ∈ records.wsClosed then records else { records with wsClosed := us :: records.wsClosed }

@[simp] theorem closeWS_node (records : ConnectionRecords) (us : Nat) : (records.closeWS us).node = records.node := by
  unfold closeWS
  split <;> rfl

@[simp] theorem closeWS_lookups (records : ConnectionRecords) (us : Nat) : (records.closeWS us).lookups = records.lookups := by
  unfold closeWS
  split <;> rfl

@[simp] theorem mem_closeWS {records : ConnectionRecords} {us other : Nat} :
    other ∈ (records.closeWS us).wsClosed ↔ other = us ∨ other ∈ records.wsClosed := by
  unfold closeWS
  split
  · next flagged =>
    refine ⟨.inr, fun either => ?_⟩
    rcases either with rfl | before
    · exact flagged
    · exact before
  · exact List.mem_cons

/-- `OnWebSocketDisconnect`. A connection that is not found is looked up once more after a while. -/
def onWebSocketDisconnect (connID userID : String) (records : ConnectionRecords) : ConnectionRecords :=
  if userID = "" then records
  else
    match records.node.sessions.get? connID with
    | some us => records.closeWS us
    | none => { records with lookups := connID :: records.lookups }

/-- The second lookup. -/
def lookAgain? (connID : String) (records : ConnectionRecords) : Option ConnectionRecords :=
  if connID ∈ records.lookups then
    let records := { records with lookups := records.lookups.erase connID }
    match records.node.sessions.get? connID with
    | some us => some (records.closeWS us)
    | none => some records
  else none

end ConnectionRecords

inductive ConnectionStep where
  | records (step : RecordStep)
  /-- The call could not be locked for a batch of joins, which stay in the queue. -/
  | lockFailed (channelID : String)
  | disconnected (connID userID : String)
  | lookedAgain (connID : String)
  /-- The client is connected again by the same connection. -/
  | connected (connID : String)

def ConnectionRecords.next? (nodeID : String) (records : ConnectionRecords) : ConnectionStep → Option ConnectionRecords
  | .records step => (records.node.next? nodeID step).map fun node => { records with node }
  | .lockFailed _ | .connected _ => some records
  | .disconnected connID userID => some (records.onWebSocketDisconnect connID userID)
  | .lookedAgain connID => records.lookAgain? connID

/-- The connection whose join creates its session in a step. -/
def NodeRecords.joins? (node : NodeRecords) : RecordStep → Option String
  | .join joiner memberCount added =>
    if (node.addSessionsBatchers.get? joiner.channelID).isSome ∨ minMembersCountForBatching ≤ memberCount then none
    else added.map fun _ => joiner.connID
  | .runJoin channelID added =>
    match node.addSessionsBatchers.get? channelID with
    | some ⟨_, joiner :: _⟩ => added.map fun _ => joiner.connID
    | _ => none
  | _ => none

/-- The connections that are lost, and the objects that joins have created. -/
structure LostConnections where
  lost : List String := []
  joined : List Nat := []

def LostConnections.note (connections : LostConnections) (records : ConnectionRecords) : ConnectionStep → LostConnections
  | .records step =>
    match records.node.joins? step with
    | none => connections
    | some _ => { connections with joined := records.node.objects.length :: connections.joined }
  | .disconnected connID userID => if userID = "" then connections else { connections with lost := connID :: connections.lost }
  | .connected connID => { connections with lost := connections.lost.filter fun other => other ≠ connID }
  | .lockFailed _ | .lookedAgain _ => connections

/-- What becomes of the sessions of a node and their connections. -/
def connectionRuns (nodeID : String) : System (ConnectionRecords × LostConnections) ConnectionStep :=
  System.observed { init := fun records => records = ⟨.empty, [], []⟩, next? := ConnectionRecords.next? nodeID } {}
    fun connections records step _ => connections.note records step

/-- A session that has joined by a connection that is lost, and that is looked up no more, knows that it is closed. -/
def NoGhosts (state : ConnectionRecords × LostConnections) : Prop :=
  ∀ connID us, state.1.node.sessions.get? connID = some us → us ∈ state.2.joined → connID ∈ state.2.lost →
    connID ∉ state.1.lookups → us ∈ state.1.wsClosed

/-- A join that creates its session for a lost connection does so before the second lookup. -/
def JoinsInTime (state : ConnectionRecords × LostConnections) : ConnectionStep → Prop
  | .records step => ∀ connID, state.1.node.joins? step = some connID → connID ∈ state.2.lost → connID ∈ state.1.lookups
  | _ => True

namespace NodeRecords

variable {node after : NodeRecords}

/-- What is under a key was there before, or is a new object under one of some keys. -/
structure Enters (node after : NodeRecords) (keys : String → Prop) : Prop where
  objects : node.objects.length ≤ after.objects.length
  entered : ∀ key us, after.sessions.get? key = some us →
    node.sessions.get? key = some us ∨ keys key ∧ us = node.objects.length ∧ us < after.objects.length

theorem Enters.refl (keys : String → Prop) : node.Enters node keys := ⟨Nat.le_refl _, fun _ _ => .inl⟩

/-- The objects are as many and under fewer keys. -/
theorem Enters.of_same {keys : String → Prop} (objects : after.objects.length = node.objects.length)
    (sessions : ∀ key us, after.sessions.get? key = some us → node.sessions.get? key = some us) : node.Enters after keys :=
  ⟨Nat.le_of_eq objects.symm, fun key us stored => .inl (sessions key us stored)⟩

theorem Enters.of_delete {keys : String → Prop} (key : String) : node.Enters (node.delete key) keys := by
  refine .of_same rfl fun other us stored => ?_
  rw [NodeRecords.delete, StringMap.get?_erase] at stored
  split at stored
  · cases stored
  · exact stored

theorem Enters.store {keys : String → Prop} {key : String} (named : keys key) (object : SessionObject) :
    node.Enters (node.store key object) keys := by
  refine ⟨by simp [NodeRecords.store], fun other us stored => ?_⟩
  rw [NodeRecords.store, StringMap.get?_set] at stored
  split at stored
  · next here =>
    cases stored
    exact .inr ⟨here ▸ named, rfl, by simp [NodeRecords.store]⟩
  · exact .inl stored

/-- Before anything enters the objects may change and keys be left. -/
theorem Enters.from_middle {middle : NodeRecords} {keys : String → Prop} (enters : middle.Enters after keys)
    (objects : middle.objects.length = node.objects.length)
    (sessions : ∀ key us, middle.sessions.get? key = some us → node.sessions.get? key = some us) : node.Enters after keys := by
  refine ⟨by rw [← objects]; exact enters.objects, fun key us stored => ?_⟩
  rcases enters.entered key us stored with before | ⟨named, new, inside⟩
  · exact .inl (sessions key us before)
  · exact .inr ⟨named, new.trans objects, inside⟩

theorem Enters.addSessionToCall {keys : String → Prop} (nodeID : String) (joiner : Joiner) (added : Option Added)
    (named : added.isSome = true → keys joiner.connID) : node.Enters (node.addSessionToCall nodeID joiner added) keys := by
  cases added with
  | none => exact .refl keys
  | some added =>
    have stored (us : SessionObject) : node.Enters (node.store joiner.connID us) keys := .store (named rfl) us
    simp only [NodeRecords.addSessionToCall]
    split
    · exact ⟨(stored _).objects, (stored _).entered⟩
    · exact stored _

theorem Enters.removeSessionFromCall {keys : String → Prop} (us : Nat) : node.Enters (node.removeSessionFromCall us) keys := by
  unfold NodeRecords.removeSessionFromCall
  split
  · exact .refl keys
  · next object found =>
    have deleted : node.Enters (node.delete object.connID) keys := .of_delete object.connID
    dsimp only
    split
    · exact deleted
    · exact ⟨deleted.objects, deleted.entered⟩

theorem length_setObject (us : Nat) (object : SessionObject) : (node.setObject us object).objects.length = node.objects.length := by
  simp [NodeRecords.setObject]

theorem Enters.removeSession {keys : String → Prop} (us : Nat) (object : SessionObject) (sessionsCount : Nat) (locked : Bool) :
    node.Enters (node.removeSession us object sessionsCount locked).2 keys := by
  have flagged {after : NodeRecords} (enters : (node.setObject us { object with removed := true }).Enters after keys) :
      node.Enters after keys := enters.from_middle (length_setObject ..) fun _ _ => id
  unfold NodeRecords.removeSession
  split
  · exact .refl keys
  · dsimp only
    split
    · split
      · exact flagged (.of_same rfl fun _ _ => id)
      · exact flagged (.refl keys)
    · split
      · exact flagged (.of_same rfl fun _ _ => id)
      · split
        · exact flagged (.removeSessionFromCall us)
        · exact flagged (.refl keys)

theorem Enters.handleReconnect {keys : String → Prop} (nodeID : String) (req : ReconnectRequest) (callID : String)
    (botFails sendFails : Bool) (named : keys req.connID) :
    node.Enters (node.handleReconnect nodeID req callID botFails sendFails) keys := by
  have length : (node.marked req.connID req.prevConnID).objects.length = node.objects.length := by
    unfold NodeRecords.marked
    split
    · rfl
    · exact length_setObject ..
  have sessions : (node.marked req.connID req.prevConnID).sessions = node.sessions := by
    unfold NodeRecords.marked
    split <;> rfl
  have marked {after : NodeRecords} (enters : (node.marked req.connID req.prevConnID).Enters after keys) :
      node.Enters after keys := enters.from_middle length fun _ _ stored => by rw [sessions] at stored; exact stored
  have replaced : node.Enters (((node.marked req.connID req.prevConnID).delete req.originalConnID).store req.connID
      (node.replacement req callID)) keys := by
    refine marked ((Enters.store named _).from_middle rfl ?_)
    intro key us stored
    rw [NodeRecords.delete, StringMap.get?_erase] at stored
    split at stored
    · cases stored
    · exact stored
  unfold NodeRecords.handleReconnect
  dsimp only
  split
  · exact .refl keys
  · split
    · exact marked (.refl keys)
    · split
      · exact replaced
      · exact ⟨replaced.objects, replaced.entered⟩

/-- A step of a node puts under a key a new object at most, and a join puts it under its connection. -/
theorem next?_enters {nodeID : String} {step : RecordStep} (taken : node.next? nodeID step = some after) :
    node.Enters after fun key => ∀ connID, node.joins? step = some connID → key = connID := by
  cases step with
  | join joiner memberCount added =>
    cases taken
    unfold NodeRecords.handleJoin
    split
    · split
      · exact .of_same rfl fun _ _ => id
      · exact .refl _
    · next unbatched =>
      split
      · exact .of_same rfl fun _ _ => id
      · refine .addSessionToCall nodeID joiner added fun _ connID joins => ?_
        simp only [NodeRecords.joins?] at joins
        split at joins
        · cases joins
        · obtain ⟨_, -, rfl⟩ := Option.map_eq_some_iff.mp joins
          rfl
  | runJoin channelID added =>
    simp only [NodeRecords.next?, NodeRecords.runJoin?] at taken
    split at taken
    · next size joiner items queued =>
      cases taken
      refine (Enters.addSessionToCall nodeID joiner added fun _ connID joins => ?_).from_middle rfl fun _ _ => id
      simp only [NodeRecords.joins?, queued] at joins
      obtain ⟨_, -, rfl⟩ := Option.map_eq_some_iff.mp joins
      rfl
    · cases taken
  | reconnect req callID botFails sendFails =>
    cases taken
    exact .handleReconnect nodeID req callID botFails sendFails fun _ joins => (nomatch joins)
  | clear us connID =>
    cases taken
    unfold NodeRecords.clearReconnected
    split
    · exact .of_delete connID
    · exact .refl _
  | remove us sessionsCount locked =>
    obtain ⟨object, found, rfl⟩ := Option.map_eq_some_iff.mp taken
    exact .removeSession us object sessionsCount locked
  | runRemove channelID =>
    obtain ⟨popped, found, rfl⟩ := Option.map_eq_some_iff.mp taken
    unfold NodeRecords.popRemoval? at found
    split at found
    · cases found
      exact (Enters.removeSessionFromCall _).from_middle rfl fun _ _ => id
    · cases found

theorem length_addSessionToCall (nodeID : String) (joiner : Joiner) (added : Added) :
    (node.addSessionToCall nodeID joiner (some added)).objects.length = node.objects.length + 1 := by
  simp only [NodeRecords.addSessionToCall]
  split <;> simp [NodeRecords.store, NodeRecords.send]

/-- The object that a join creates is there after it. -/
theorem length_of_joins {nodeID connID : String} {step : RecordStep} (taken : node.next? nodeID step = some after)
    (joins : node.joins? step = some connID) : after.objects.length = node.objects.length + 1 := by
  cases step with
  | join joiner memberCount added =>
    simp only [NodeRecords.joins?] at joins
    split at joins
    · cases joins
    · next unbatched =>
      obtain ⟨added, rfl, -⟩ := Option.map_eq_some_iff.mp joins
      rw [not_or, Option.not_isSome_iff_eq_none] at unbatched
      cases taken
      unfold NodeRecords.handleJoin
      rw [unbatched.1]
      dsimp only
      rw [if_neg unbatched.2]
      exact length_addSessionToCall nodeID joiner added
  | runJoin channelID added =>
    simp only [NodeRecords.joins?] at joins
    split at joins
    · next queued =>
      obtain ⟨added, rfl, -⟩ := Option.map_eq_some_iff.mp joins
      simp only [NodeRecords.next?, NodeRecords.runJoin?, queued] at taken
      cases taken
      exact length_addSessionToCall nodeID _ added
    · cases joins
  | reconnect | clear | remove | runRemove => cases joins

end NodeRecords

/-- The objects of joins exist, and those under a connection that is lost know it or are to be looked up once more. -/
structure ConnectionInvariant (state : ConnectionRecords × LostConnections) : Prop where
  inside : ∀ connID us, state.1.node.sessions.get? connID = some us → us < state.1.node.objects.length
  joined : ∀ us ∈ state.2.joined, us < state.1.node.objects.length
  known : ∀ connID us, state.1.node.sessions.get? connID = some us → us ∈ state.2.joined → connID ∈ state.2.lost →
    us ∈ state.1.wsClosed ∨ connID ∈ state.1.lookups

namespace ConnectionInvariant

variable {records after : ConnectionRecords} {connections : LostConnections}

theorem records_step {nodeID : String} {step : RecordStep} {node : NodeRecords} (inv : ConnectionInvariant (records, connections))
    (inTime : JoinsInTime (records, connections) (.records step)) (taken : records.node.next? nodeID step = some node) :
    ConnectionInvariant ({ records with node }, connections.note records (.records step)) := by
  have enters := NodeRecords.next?_enters taken
  have inside (connID : String) (us : Nat) (stored : node.sessions.get? connID = some us) : us < node.objects.length := by
    rcases enters.entered connID us stored with before | ⟨-, -, new⟩
    · exact Nat.lt_of_lt_of_le (inv.inside connID us before) enters.objects
    · exact new
  cases joins : records.node.joins? step with
  | none =>
    have unchanged : connections.note records (.records step) = connections := by
      simp only [LostConnections.note, joins]
    rw [unchanged]
    refine ⟨inside, fun us joined => Nat.lt_of_lt_of_le (inv.joined us joined) enters.objects, fun connID us stored joined lost => ?_⟩
    rcases enters.entered connID us stored with before | ⟨-, rfl, -⟩
    · exact inv.known connID us before joined lost
    · exact absurd (inv.joined _ joined) (Nat.lt_irrefl _)
  | some joiner =>
    have noted : connections.note records (.records step) =
        { connections with joined := records.node.objects.length :: connections.joined } := by
      simp only [LostConnections.note, joins]
    rw [noted]
    have length := NodeRecords.length_of_joins taken joins
    refine ⟨inside, fun us joined => ?_, fun connID us stored joined lost => ?_⟩
    · change us < node.objects.length
      rcases List.mem_cons.mp joined with rfl | before
      · omega
      · exact Nat.lt_of_lt_of_le (inv.joined us before) enters.objects
    · rcases enters.entered connID us stored with before | ⟨named, rfl, -⟩
      · rcases List.mem_cons.mp joined with rfl | old
        · exact absurd (inv.inside connID _ before) (Nat.lt_irrefl _)
        · exact inv.known connID us before old lost
      · obtain rfl := named joiner joins
        exact .inr (inTime connID joins lost)

/-- A connection that is lost is found, or is to be looked up once more. -/
theorem disconnected (inv : ConnectionInvariant (records, connections)) (connID userID : String) :
    ConnectionInvariant (records.onWebSocketDisconnect connID userID, connections.note records (.disconnected connID userID)) := by
  unfold ConnectionRecords.onWebSocketDisconnect LostConnections.note
  dsimp only
  split
  · exact inv
  · split
    · next us stored =>
      refine ⟨by simpa using inv.inside, by simpa using inv.joined, fun other found here joined lost => ?_⟩
      simp only [ConnectionRecords.closeWS_node, ConnectionRecords.closeWS_lookups, ConnectionRecords.mem_closeWS] at here ⊢
      rcases List.mem_cons.mp lost with rfl | before
      · exact .inl (.inl (Option.some.inj (here.symm.trans stored)))
      · exact (inv.known other found here joined before).imp_left .inr
    · next absent =>
      refine ⟨inv.inside, inv.joined, fun other found here joined lost => ?_⟩
      rcases List.mem_cons.mp lost with rfl | before
      · exact .inr List.mem_cons_self
      · exact (inv.known other found here joined before).imp_right (List.mem_cons_of_mem connID)

theorem lookedAgain (inv : ConnectionInvariant (records, connections)) {connID : String}
    (looked : records.lookAgain? connID = some after) : ConnectionInvariant (after, connections) := by
  unfold ConnectionRecords.lookAgain? at looked
  split at looked
  · dsimp only at looked
    have kept {other : String} (different : other ≠ connID) (listed : other ∈ records.lookups) :
        other ∈ records.lookups.erase connID := (List.mem_erase_of_ne different).mpr listed
    split at looked
    · next us stored =>
      cases looked
      refine ⟨by simpa using inv.inside, by simpa using inv.joined, fun other found here joined lost => ?_⟩
      simp only [ConnectionRecords.closeWS_node, ConnectionRecords.closeWS_lookups, ConnectionRecords.mem_closeWS] at here ⊢
      by_cases same : other = connID
      · subst same
        exact .inl (.inl (Option.some.inj (here.symm.trans stored)))
      · exact (inv.known other found here joined lost).imp .inr (kept same)
    · next absent =>
      cases looked
      refine ⟨inv.inside, inv.joined, fun other found here joined lost => ?_⟩
      have different : other ≠ connID := by
        intro same
        obtain rfl := same
        rw [absent] at here
        cases here
      exact (inv.known other found here joined lost).imp_right (kept different)
  · cases looked

end ConnectionInvariant

/-- In every run in which a session that joins by a lost connection is created before the second lookup, no session that
has joined goes on without knowing that its connection is lost. -/
theorem noGhosts_of_joinsInTime (nodeID : String) {state : ConnectionRecords × LostConnections}
    (reached : ((connectionRuns nodeID).restrict JoinsInTime).Reachable state) : NoGhosts state := by
  have inv : ConnectionInvariant state := by
    refine System.Reachable.invariant_of_allowed ?_ ?_ reached
    · intro facts both
      obtain ⟨records, connections⟩ := facts
      obtain ⟨rfl, rfl⟩ := both
      exact ⟨fun _ _ stored => (nomatch stored), fun _ joined => (nomatch joined), fun _ _ _ joined => (nomatch joined)⟩
    · intro state step next inv inTime taken
      obtain ⟨records, connections⟩ := state
      obtain ⟨after, later⟩ := next
      obtain ⟨moved, noted⟩ := System.observed_next?.mp taken
      dsimp only at noted moved
      rw [noted]
      cases step with
      | records step =>
        obtain ⟨node, ran, rfl⟩ := Option.map_eq_some_iff.mp moved
        exact inv.records_step inTime ran
      | lockFailed channelID =>
        cases moved
        exact inv
      | disconnected connID userID =>
        cases moved
        exact inv.disconnected connID userID
      | lookedAgain connID => exact inv.lookedAgain moved
      | connected connID =>
        cases moved
        exact ⟨inv.inside, inv.joined, fun other us stored joined lost => inv.known other us stored joined (List.mem_filter.mp lost).1⟩
  intro connID us stored joined lost looked
  exact (inv.known connID us stored joined lost).resolve_right looked

/-- Alice joins a call of a large channel, whose joins are batched, and her connection is lost. -/
def aliceJoinsLargeChannel : ConnectionStep := .records (.join ⟨"alice", "channel", "conn-1"⟩ 100 none)

def batchAddsAlice : ConnectionStep :=
  .records (.runJoin "channel" (some { callID := "call", handlerID := "node", rtcd := false, sendFails := false }))

/-- The batch is run before the second lookup, which closes the session. -/
theorem noGhosts_of_batchInTime : ∃ state, NoGhosts state ∧ state.2.joined = [0] ∧ state.2.lost = ["conn-1"] ∧ state.1.lookups = [] := by
  have meets : (connectionRuns "node").MeetsAlong JoinsInTime (⟨.empty, [], []⟩, {})
      [aliceJoinsLargeChannel, .disconnected "conn-1" "alice", .lockFailed "channel", batchAddsAlice, .lookedAgain "conn-1"] := by
    refine ⟨fun connID joins => (nomatch joins), fun _ taken => ?_⟩
    cases taken
    refine ⟨trivial, fun _ taken => ?_⟩
    cases taken
    refine ⟨trivial, fun _ taken => ?_⟩
    cases taken
    refine ⟨fun connID joins _ => ?_, fun _ taken => ?_⟩
    · cases joins
      exact List.mem_cons_self
    · cases taken
      exact ⟨trivial, fun _ _ => trivial⟩
  exact ⟨_, noGhosts_of_joinsInTime "node" (System.Reachable.restrict_run (.init ⟨rfl, rfl⟩) meets rfl), rfl, rfl, rfl⟩

/-- The call cannot be locked for the batch until the second lookup is over: the session of Alice stays for ever. -/
theorem not_noGhosts : ¬ ∀ nodeID state, (connectionRuns nodeID).Reachable state → NoGhosts state := by
  intro closes
  have start : (connectionRuns "node").Reachable (⟨.empty, [], []⟩, {}) := .init ⟨rfl, rfl⟩
  let steps : List ConnectionStep :=
    [aliceJoinsLargeChannel, .disconnected "conn-1" "alice", .lockFailed "channel", .lookedAgain "conn-1", batchAddsAlice]
  have ran := start.run (show (connectionRuns "node").run? _ steps = some _ from rfl)
  have closed := closes "node" _ ran "conn-1" 0 (by decide) (by decide) (by decide) (by decide)
  exact absurd closed (by decide)

end Calls
