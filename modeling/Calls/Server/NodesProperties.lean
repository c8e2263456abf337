import Calls.Server.Nodes
import Calls.Server.OperationsProperties

/-! What a reconnect message does on its node, and whose records the nodes keep. -/

set_option autoImplicit false

namespace Calls

open Command LockedHandler

/-! ### The reconnection of the bot -/

theorem botWSReconnect_preserves (env : Env) (connID prevConnID : String) :
    Preserves LockedCall.apart (botWSReconnect env connID prevConnID) := by
  refine getState_preserves.bind fun state => ?_
  dsimp only
  split
  · exact saveJob_preserves env _ _
  · split
    · exact (saveJob_preserves env _ _).bind fun _ => .ifSome fun _ => saveJob_preserves env _ _
    · exact .pure _

/-- The bot's part of a reconnection touches the jobs only. -/
theorem handleBotWSReconnect_preserves (env : Env) (connID prevConnID channelID : String) :
    Preserves (fun world => world.store.apartFromJobs) (handleBotWSReconnect env connID prevConnID channelID) := by
  refine Preserves.bind (.mapError (.of_wp fun world => ?_)) fun state => .ifSome fun state => .of_run fun world => ?_
  · exact wp_mono (lockCallReturnState_spec env channelID world) fun result after effect => by rw [effect.1]
  · have kept := (botWSReconnect_preserves env connID prevConnID).run ⟨world, state⟩
    simp only [LockedCall.apart, Prod.mk.injEq] at kept
    exact kept.1

/-! ### Handling the message -/

/-- The message passes the checks: its user may post to the channel, and has the
session that it names in the call. -/
structure Admits (env : Env) (req : ReconnectRequest) (store : Store) (cs : CallState) : Prop where
  named : req.channelID ≠ "" ∧ req.originalConnID ≠ "" ∧ req.prevConnID ≠ ""
  allowed : env.isBot req.userID = true ∨ req.permitted = true
  loads : (getCallState env req.channelID store).1 = .ok (some cs)
  session : ∃ session, cs.sessions.find? req.originalConnID = some session ∧ session.userID = req.userID

/-- The records once the found one, if any, is marked as reconnected. -/
def NodeSessions.marked (sessions : NodeSessions) : Option (String × SessionRecord) → NodeSessions
  | none => sessions
  | some found => sessions.reconnected found.1 found.2

def ReconnectRequest.found (req : ReconnectRequest) (sessions : NodeSessions) : Option (String × SessionRecord) :=
  sessions.reconnecting? req.connID req.prevConnID

/-- The bot's jobs follow it, if it is the bot. -/
def BotFollowed (env : Env) (req : ReconnectRequest) (world : World) : Prop :=
  env.isBot req.userID = true →
    (handleBotWSReconnect env req.connID req.prevConnID req.channelID world).1 = .ok ()

/-- The records after a reconnection that went through. -/
def NodeSessions.replaced (sessions : NodeSessions) (req : ReconnectRequest) (callID : String) : NodeSessions :=
  StringMap.set ((sessions.marked (req.found sessions)).erase req.originalConnID) req.connID
    { newUserSession req.userID req.channelID req.connID callID ((req.found sessions).any (·.2.rtc)) with
      originalConnID := req.originalConnID }

/-- What the other nodes are told about it. -/
def ReconnectRequest.announcement (env : Env) (req : ReconnectRequest) (callID : String) : List ClusterMessage :=
  if env.clusterSendFails then [] else [.reconnect env.nodeID req.prevConnID req.connID req.userID callID]

/-- What replacing a session can do to a node. -/
inductive ReplaceEffect (env : Env) (req : ReconnectRequest) (callID : String) (before : Node) : Node → Prop where
  | repeated {found : String × SessionRecord} :
      req.found before.sessions = some found → found.2.wsReconnected = true → ReplaceEffect env req callID before before
  | botFailed {world : World} :
      (∀ found, req.found before.sessions = some found → found.2.wsReconnected = false) →
      ¬ BotFollowed env req before.world → world.store.apartFromJobs = before.world.store.apartFromJobs →
      ReplaceEffect env req callID before ⟨world, before.sessions.marked (req.found before.sessions), before.sent⟩
  | replaced {world : World} :
      (∀ found, req.found before.sessions = some found → found.2.wsReconnected = false) →
      BotFollowed env req before.world → world.store.apartFromJobs = before.world.store.apartFromJobs →
      ReplaceEffect env req callID before
        ⟨world, before.sessions.replaced req callID, before.sent ++ req.announcement env callID⟩

theorem replaceSession_spec (env : Env) (req : ReconnectRequest) (callID : String) (before : Node) :
    (replaceSession env req callID).wp (fun _ after => ReplaceEffect env req callID before after) before := by
  unfold replaceSession
  rw [wp_bind, wp_get, andThen_ok]
  dsimp only
  rw [show before.sessions.reconnecting? req.connID req.prevConnID = req.found before.sessions from rfl, wp_bind,
    wp_throwIf]
  constructor
  · intro repeated
    obtain ⟨found, here, flagged⟩ := (Option.any_eq_true _ _).mp repeated
    exact .repeated here flagged
  · intro once
    have fresh : ∀ found, req.found before.sessions = some found → found.2.wsReconnected = false := by
      intro found here
      simpa [here] using once
    have mark : (ifSome (req.found before.sessions) fun found =>
        Node.modifySessions (·.reconnected found.1 found.2)) before =
        (.ok (), { before with sessions := before.sessions.marked (req.found before.sessions) }) := by
      cases req.found before.sessions <;> rfl
    rw [andThen_ok, wp_bind, wp, mark, andThen_ok, wp_bind, wp_when]
    have finish (world : World) (followed : BotFollowed env req before.world)
        (same : world.store.apartFromJobs = before.world.store.apartFromJobs) :
        (do
          Node.modifySessions fun sessions => StringMap.set (sessions.erase req.originalConnID) req.connID
            { newUserSession req.userID req.channelID req.connID callID
                ((req.found before.sessions).any (·.2.rtc)) with originalConnID := req.originalConnID }
          (Node.sendClusterMessage env
            (.reconnect env.nodeID req.prevConnID req.connID req.userID callID)).ignoring : Command Node String Unit).wp
          (fun _ after => ReplaceEffect env req callID before after)
          ⟨world, before.sessions.marked (req.found before.sessions), before.sent⟩ := by
      have effect : ReplaceEffect env req callID before
          ⟨world, before.sessions.replaced req callID, before.sent ++ req.announcement env callID⟩ :=
        .replaced fresh followed same
      rw [wp_bind, Node.modifySessions, wp_modify, andThen_ok, wp_ignoring, Node.sendClusterMessage, wp_ite]
      unfold ReconnectRequest.announcement at effect
      constructor
      · intro fails
        rw [if_pos fails, List.append_nil] at effect
        exact effect
      · intro sends
        rw [if_neg sends] at effect
        exact effect
    constructor
    · intro bot
      rw [wp_mapError, Node.onWorld, wp_zoom]
      have kept := (handleBotWSReconnect_preserves env req.connID req.prevConnID req.channelID).run before.world
      rw [wp]
      cases ran : handleBotWSReconnect env req.connID req.prevConnID req.channelID before.world with
      | mk result world =>
        rw [ran] at kept
        cases result with
        | error err =>
          refine .botFailed fresh (fun followed => ?_) kept
          have ok := followed bot
          rw [ran] at ok
          cases ok
        | ok value => exact finish world (fun _ => by rw [ran]) kept
    · intro human
      exact finish before.world (fun bot => absurd bot human) rfl

/-- Everything that handling a reconnect message can do. -/
inductive ReconnectEffect (env : Env) (req : ReconnectRequest) (before : Node) : Node → Prop where
  | refused : (∀ cs, ¬ Admits env req before.world.store cs) → ReconnectEffect env req before before
  | admitted {cs : CallState} {after : Node} :
      Admits env req before.world.store cs → ReplaceEffect env req cs.call.id before after →
      ReconnectEffect env req before after

theorem webSocketReconnect_spec (env : Env) (req : ReconnectRequest) (before : Node) :
    (webSocketReconnect env req).wp (fun _ after => ReconnectEffect env req before after) before := by
  unfold webSocketReconnect
  rw [wp_bind, wp_throwIf]
  refine ⟨fun unnamed => .refused fun cs admits => admits.named.1 unnamed, fun channel => ?_⟩
  rw [andThen_ok, wp_bind, wp_throwIf]
  refine ⟨fun unnamed => .refused fun cs admits => admits.named.2.1 unnamed, fun original => ?_⟩
  rw [andThen_ok, wp_bind, wp_throwIf]
  refine ⟨fun unnamed => .refused fun cs admits => admits.named.2.2 unnamed, fun previous => ?_⟩
  rw [andThen_ok]
  unfold handleReconnect
  rw [wp_bind, wp_throwIf]
  constructor
  · intro forbidden
    refine .refused fun cs admits => ?_
    rcases admits.allowed with bot | permitted
    · simp [forbidden.1] at bot
    · simp [forbidden.2] at permitted
  · intro allowed
    rw [andThen_ok, wp_bind, Node.onWorld, wp_zoom, Handler.onStore, wp_zoom]
    have spec := getCallState_spec env req.channelID before.world.store
    rw [wp] at spec ⊢
    cases loaded : getCallState env req.channelID before.world.store with
    | mk result after =>
      rw [loaded] at spec
      obtain ⟨same, -⟩ := spec
      dsimp only at same ⊢
      subst same
      cases result with
      | error err =>
        rw [andThen_error]
        refine .refused fun cs admits => ?_
        have answer := admits.loads
        rw [loaded] at answer
        cases answer
      | ok state =>
        rw [andThen_ok]
        cases state with
        | none =>
          refine .refused fun cs admits => ?_
          have answer := admits.loads
          rw [loaded] at answer
          cases answer
        | some cs =>
          have same (other : CallState) (admits : Admits env req before.world.store other) : other = cs := by
            have answer := admits.loads
            rw [loaded] at answer
            exact (Option.some.inj (Except.ok.inj answer)).symm
          dsimp only
          rw [wp_bind, wp_throwIf]
          constructor
          · intro absent
            refine .refused fun other admits => ?_
            obtain ⟨session, found, owned⟩ := admits.session
            rw [same other admits] at found
            simp [found, owned] at absent
          · intro present
            have admits : Admits env req before.world.store cs := by
              refine ⟨⟨channel, original, previous⟩, ?_, by rw [loaded], ?_⟩
              · cases bot : env.isBot req.userID with
                | true => exact .inl rfl
                | false => exact .inr (by simpa [bot] using allowed)
              · cases found : cs.sessions.find? req.originalConnID with
                | none => simp [found] at present
                | some session => exact ⟨session, rfl, by simpa [found] using present⟩
            rw [andThen_ok]
            exact wp_mono (replaceSession_spec env req cs.call.id before) fun _ after effect => .admitted admits effect

/-! ### Whose records -/

/-- Every record is that of the user of its connection, and a record that is not
for the RTC side names the connection it is kept under. -/
def NodeSessions.OwnedBy (owner : String → String) (sessions : NodeSessions) : Prop :=
  ∀ key us, sessions.get? key = some us → us.userID = owner key ∧ (us.rtc = false → us.connID = key)

namespace NodeSessions.OwnedBy

variable {owner : String → String} {sessions : NodeSessions}

theorem set (owned : sessions.OwnedBy owner) {key : String} {us : SessionRecord} (user : us.userID = owner key)
    (named : us.rtc = false → us.connID = key) : NodeSessions.OwnedBy owner (StringMap.set sessions key us) := by
  intro other found stored
  rw [StringMap.get?_set] at stored
  split at stored
  · next here =>
    cases stored
    rw [here]
    exact ⟨user, named⟩
  · exact owned other found stored

theorem erase (owned : sessions.OwnedBy owner) (key : String) : NodeSessions.OwnedBy owner (sessions.erase key) := by
  intro other found stored
  rw [StringMap.get?_erase] at stored
  split at stored
  · cases stored
  · exact owned other found stored

theorem reconnected (owned : sessions.OwnedBy owner) {key : String} {us : SessionRecord}
    (stored : sessions.get? key = some us) : (sessions.reconnected key us).OwnedBy owner :=
  owned.set (owned key us stored).1 (owned key us stored).2

theorem clearReconnected (owned : sessions.OwnedBy owner) (connID : String) :
    (sessions.clearReconnected connID).OwnedBy owner := by
  unfold NodeSessions.clearReconnected
  split
  · exact owned.erase connID
  · exact owned

end NodeSessions.OwnedBy

/-- A message about a new connection names the user of the connection. -/
def ClusterMessage.Authentic (owner : String → String) : ClusterMessage → Prop
  | .connect _ _ connID userID _ _ => userID = owner connID
  | .reconnect _ _ _ _ _ => True

theorem NodeSessions.OwnedBy.handleEvent {owner : String → String} {sessions : NodeSessions} {msg : ClusterMessage}
    (owned : sessions.OwnedBy owner) (authentic : msg.Authentic owner) : (sessions.handleEvent msg).OwnedBy owner := by
  cases msg with
  | connect senderID targetID connID userID channelID callID =>
    simp only [NodeSessions.handleEvent]
    split
    · exact owned
    · exact owned.set authentic fun _ => rfl
  | reconnect senderID connID newConnID userID callID =>
    simp only [NodeSessions.handleEvent]
    split
    · exact owned
    · next us stored =>
      split
      · exact owned
      · split
        · next rtc =>
          exact owned.set (owned connID us stored).1 fun other => by
            rw [show us.rtc = false from other] at rtc
            cases rtc
        · exact (owned.reconnected stored).erase us.connID

theorem ReconnectRequest.found_stored {req : ReconnectRequest} {sessions : NodeSessions}
    {found : String × SessionRecord} (here : req.found sessions = some found) :
    sessions.get? found.1 = some found.2 ∧
      (found.1 = req.connID ∨ (found.1 = req.prevConnID ∧ sessions.get? req.connID = none)) := by
  unfold ReconnectRequest.found NodeSessions.reconnecting? at here
  cases stored : sessions.get? req.connID with
  | some us =>
    rw [stored] at here
    cases here
    exact ⟨stored, .inl rfl⟩
  | none =>
    rw [stored] at here
    obtain ⟨us, previous, rfl⟩ := Option.map_eq_some_iff.mp here
    exact ⟨previous, .inr ⟨rfl, rfl⟩⟩

theorem NodeSessions.OwnedBy.marked {owner : String → String} {sessions : NodeSessions}
    (owned : sessions.OwnedBy owner) (req : ReconnectRequest) :
    (sessions.marked (req.found sessions)).OwnedBy owner := by
  cases here : req.found sessions with
  | none => exact owned
  | some found => exact owned.reconnected (ReconnectRequest.found_stored here).1

theorem NodeSessions.OwnedBy.replaced {owner : String → String} {sessions : NodeSessions}
    (owned : sessions.OwnedBy owner) {req : ReconnectRequest} (authentic : owner req.connID = req.userID)
    (callID : String) : (sessions.replaced req callID).OwnedBy owner :=
  ((owned.marked req).erase req.originalConnID).set authentic.symm fun _ => rfl

structure ClusterInvariant (owner : String → String) (c : Cluster) : Prop where
  rows : ∀ session ∈ c.ops.world.store.sessions, session.userID = owner session.id
  records : ∀ nodeID, (c.nodes nodeID).OwnedBy owner
  messages : ∀ msg ∈ c.inFlight, msg.Authentic owner

theorem setNode_owned {owner : String → String} {c : Cluster} (records : ∀ nodeID, (c.nodes nodeID).OwnedBy owner)
    {nodeID : String} {sessions : NodeSessions} (owned : sessions.OwnedBy owner) (other : String) :
    ((c.setNode nodeID sessions).nodes other).OwnedBy owner := by
  unfold Cluster.setNode
  dsimp only
  split
  · exact owned
  · exact records other

section
variable {owner : String → String} {c : Cluster}

theorem ClusterInvariant.operation (inv : ClusterInvariant owner c) {ops : Operations} {label : OperationStep}
    (authentic : Cluster.authentic owner (.operation label) = true) (effect : c.ops.Effect label ops) :
    ClusterInvariant owner (c.afterOperation ops label) := by
  have rows : ∀ session ∈ ops.world.store.sessions, session.userID = owner session.id := by
    intro session stored
    rcases effect.sessions_from session stored with old | ⟨env, channelID, req, rfl, sameID, sameUser⟩
    · exact inv.rows session old
    · rw [sameID, sameUser]
      exact (of_decide_eq_true authentic).symm
  cases label with
  | lock env channelID kind => exact ⟨rows, inv.records, inv.messages⟩
  | unlock channelID => exact ⟨rows, inv.records, inv.messages⟩
  | leave env channelID ref =>
    exact ⟨rows, setNode_owned inv.records ((inv.records env.nodeID).erase ref.connID), inv.messages⟩
  | join env channelID req =>
    have user : req.userID = owner req.connID := (of_decide_eq_true authentic).symm
    simp only [Cluster.afterOperation]
    split
    · exact ⟨rows, inv.records, inv.messages⟩
    · have joined (callID : String) (rtc : Bool) : NodeSessions.OwnedBy owner
          ((c.nodes env.nodeID).set req.connID (newUserSession req.userID channelID req.connID callID rtc)) :=
        (inv.records env.nodeID).set user fun _ => rfl
      unfold Cluster.addRecord
      dsimp only
      split
      · refine ⟨rows, setNode_owned inv.records (joined _ _), fun msg listed => ?_⟩
        rcases List.mem_append.mp listed with old | new
        · exact inv.messages msg old
        · rw [List.mem_singleton.mp new]
          exact user
      · exact ⟨rows, setNode_owned inv.records (joined _ _), inv.messages⟩

theorem ReplaceEffect.owned {env : Env} {req : ReconnectRequest} {callID : String} {before after : Node}
    (effect : ReplaceEffect env req callID before after) (authentic : owner req.connID = req.userID)
    (owned : before.sessions.OwnedBy owner) :
    after.sessions.OwnedBy owner ∧ after.world.store.sessions = before.world.store.sessions ∧
      (∀ msg ∈ after.sent, msg ∈ before.sent ∨ msg.Authentic owner) := by
  cases effect with
  | repeated => exact ⟨owned, rfl, fun _ listed => .inl listed⟩
  | botFailed fresh followed same =>
    simp only [Store.apartFromJobs, Prod.mk.injEq] at same
    exact ⟨owned.marked req, same.2.1, fun _ listed => .inl listed⟩
  | replaced fresh followed same =>
    simp only [Store.apartFromJobs, Prod.mk.injEq] at same
    refine ⟨owned.replaced authentic callID, same.2.1, fun msg listed => ?_⟩
    rcases List.mem_append.mp listed with old | new
    · exact .inl old
    · unfold ReconnectRequest.announcement at new
      split at new
      · cases new
      · rw [List.mem_singleton.mp new]
        exact .inr trivial

theorem ClusterInvariant.reconnect (inv : ClusterInvariant owner c) (env : Env) {req : ReconnectRequest}
    (authentic : owner req.connID = req.userID) : ClusterInvariant owner (c.handle env req) := by
  have effect := webSocketReconnect_spec env req ⟨c.ops.world, c.nodes env.nodeID, []⟩
  rw [wp] at effect
  unfold Cluster.handle
  cases ran : webSocketReconnect env req ⟨c.ops.world, c.nodes env.nodeID, []⟩ with
  | mk result node =>
    rw [ran] at effect
    dsimp only at effect ⊢
    cases effect with
    | refused => exact ⟨inv.rows, setNode_owned inv.records (inv.records _), by simpa using inv.messages⟩
    | admitted admits effect =>
      obtain ⟨owned, rows, messages⟩ := effect.owned authentic (inv.records _)
      refine ⟨by rw [rows]; exact inv.rows, setNode_owned inv.records owned, fun msg listed => ?_⟩
      rcases List.mem_append.mp listed with old | new
      · exact inv.messages msg old
      · exact (messages msg new).resolve_left List.not_mem_nil

theorem ClusterInvariant.step (inv : ClusterInvariant owner c) {after : Cluster} {label : ClusterStep}
    (taken : c.next? owner label = some after) : ClusterInvariant owner after := by
  unfold Cluster.next? at taken
  split at taken
  · next authentic =>
    cases label with
    | operation label =>
      obtain ⟨ops, moved, rfl⟩ := Option.map_eq_some_iff.mp taken
      exact inv.operation authentic (Operations.next?_effect moved)
    | reconnect env req =>
      dsimp only at taken
      split at taken
      · cases taken
      · cases taken
        exact inv.reconnect env (of_decide_eq_true authentic)
    | deliver nodeID msg =>
      dsimp only at taken
      split at taken
      · next flying =>
        cases taken
        exact ⟨inv.rows, setNode_owned inv.records ((inv.records nodeID).handleEvent (inv.messages msg flying.1)),
          inv.messages⟩
      · cases taken
    | clear nodeID connID =>
      cases taken
      exact ⟨inv.rows, setNode_owned inv.records ((inv.records nodeID).clearReconnected connID), inv.messages⟩
  · cases taken

theorem clusterInvariant_of_reachable (reached : (cluster owner).Reachable c) : ClusterInvariant owner c := by
  refine reached.invariant ?_ fun before label after inv taken => inv.step taken
  intro c ⟨_, rows, nodes, inFlight⟩
  refine ⟨rows, fun nodeID key us stored => ?_, fun msg listed => ?_⟩
  · rw [nodes] at stored
    cases stored
  · rw [inFlight] at listed
    cases listed

end

end Calls
