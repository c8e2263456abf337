import Calls.Server.NodesProperties

/-! What a reconnecting user can do to the records of other users, on the node
that handles the message and on those that are told about it. -/

set_option autoImplicit false

namespace Calls

open Command

/-- The records of other users are as they were. -/
def NodeSessions.KeepsOthers (user : String) (before after : NodeSessions) : Prop :=
  ∀ key us, before.get? key = some us → us.userID ≠ user → after.get? key = some us

/-- Under the given connection there is a record of another user that has not reconnected yet. -/
def NodeSessions.Taken (sessions : NodeSessions) (user connID : String) : Prop :=
  ∃ us, sessions.get? connID = some us ∧ us.userID ≠ user ∧ us.wsReconnected = false

theorem NodeSessions.KeepsOthers.refl (user : String) (sessions : NodeSessions) : sessions.KeepsOthers user sessions :=
  fun _ _ stored _ => stored

section
variable {owner : String → String} {sessions : NodeSessions} {user : String}

/-- A record found under the previous connection only. -/
theorem ReconnectRequest.found_previous {req : ReconnectRequest} {us : SessionRecord}
    (absent : sessions.get? req.connID = none) (stored : sessions.get? req.prevConnID = some us) :
    req.found sessions = some (req.prevConnID, us) := by
  simp [found, NodeSessions.reconnecting?, absent, stored]

/-- Marking a record changes it, and no other one. -/
theorem NodeSessions.OwnedBy.marked_keepsOthers (owned : sessions.OwnedBy owner) {req : ReconnectRequest}
    (authentic : owner req.connID = user)
    (fresh : ∀ found, req.found sessions = some found → found.2.wsReconnected = false) :
    sessions.KeepsOthers user (sessions.marked (req.found sessions)) ↔
      ¬ (sessions.get? req.connID = none ∧ sessions.Taken user req.prevConnID) := by
  constructor
  · intro keeps ⟨absent, us, stored, other, unflagged⟩
    have kept := keeps req.prevConnID us stored other
    rw [ReconnectRequest.found_previous absent stored, NodeSessions.marked, NodeSessions.reconnected, StringMap.get?_set, if_pos rfl] at kept
    have flagged := congrArg SessionRecord.wsReconnected (Option.some.inj kept)
    rw [unflagged] at flagged
    cases flagged
  · intro free key us stored other
    cases here : req.found sessions with
    | none => exact stored
    | some found =>
      obtain ⟨foundStored, place⟩ := ReconnectRequest.found_stored here
      rw [NodeSessions.marked, NodeSessions.reconnected, StringMap.get?_set, if_neg]
      · exact stored
      · intro same
        rw [← same, stored] at foundStored
        rcases place with own | ⟨previous, absent⟩
        · exact other (by rw [(owned key us stored).1, same, own, authentic])
        · refine free ⟨absent, us, by rw [← previous, ← same]; exact stored, other, ?_⟩
          rw [Option.some.inj foundStored]
          exact fresh found here

/-- Replacing the session does no more to the records of others than the mark. -/
theorem NodeSessions.OwnedBy.replaced_keepsOthers (owned : sessions.OwnedBy owner) {req : ReconnectRequest}
    (authentic : owner req.connID = user) (original : owner req.originalConnID = user) (callID : String) :
    sessions.KeepsOthers user (sessions.replaced req callID) ↔
      sessions.KeepsOthers user (sessions.marked (req.found sessions)) := by
  have same (key : String) (us : SessionRecord) (stored : sessions.get? key = some us) (other : us.userID ≠ user) :
      StringMap.get? (sessions.replaced req callID) key =
        StringMap.get? (sessions.marked (req.found sessions)) key := by
    have user := (owned key us stored).1
    have notNew : key ≠ req.connID := fun here => other (by rw [user, here, authentic])
    have notOriginal : key ≠ req.originalConnID := fun here => other (by rw [user, here, original])
    rw [NodeSessions.replaced, StringMap.get?_set, if_neg notNew, StringMap.get?_erase, if_neg notOriginal]
  constructor
  · intro keeps key us stored other
    rw [← same key us stored other]
    exact keeps key us stored other
  · intro keeps key us stored other
    rw [same key us stored other]
    exact keeps key us stored other

/-- The other nodes apply the mark to whatever the message names. -/
theorem NodeSessions.OwnedBy.handleReconnect_keepsOthers (owned : sessions.OwnedBy owner)
    (senderID connID newConnID userID callID : String) :
    sessions.KeepsOthers user (sessions.handleEvent (.reconnect senderID connID newConnID userID callID)) ↔
      ¬ sessions.Taken user connID := by
  constructor
  · intro keeps ⟨us, stored, other, unflagged⟩
    have kept := keeps connID us stored other
    simp only [NodeSessions.handleEvent, stored, unflagged, Bool.false_eq_true, if_false] at kept
    split at kept
    · rw [StringMap.get?_set, if_pos rfl] at kept
      have flagged := congrArg SessionRecord.wsReconnected (Option.some.inj kept)
      rw [unflagged] at flagged
      cases flagged
    · next notRTC =>
      rw [(owned connID us stored).2 (by simpa using notRTC), StringMap.get?_erase, if_pos rfl] at kept
      cases kept
  · intro free key us stored other
    simp only [NodeSessions.handleEvent]
    split
    · exact stored
    · next found here =>
      split
      · exact stored
      · next unflagged =>
        have elsewhere : key ≠ connID := by
          intro same
          rw [same, here] at stored
          have equal := Option.some.inj stored
          exact free ⟨us, by rw [here, equal], other, by rw [← equal]; simpa using unflagged⟩
        split
        · rw [StringMap.get?_set, if_neg elsewhere]
          exact stored
        · next notRTC =>
          rw [(owned connID found here).2 (by simpa using notRTC), StringMap.get?_erase, if_neg elsewhere,
            NodeSessions.reconnected, StringMap.get?_set, if_neg elsewhere]
          exact stored

end

/-! ### All nodes -/

/-- No record of another user has changed on any node. -/
def OthersUnchanged (user : String) (before after : Cluster) : Prop :=
  ∀ nodeID, (before.nodes nodeID).KeepsOthers user (after.nodes nodeID)

/-- The other nodes are told about the reconnection. -/
structure Announced (env : Env) (req : ReconnectRequest) (c : Cluster) : Prop where
  fresh : ∀ found, req.found (c.nodes env.nodeID) = some found → found.2.wsReconnected = false
  followed : BotFollowed env req c.ops.world
  sends : env.clusterSendFails = false

/-- The message passes the checks, and the previous connection that it names is
one under which a node that looks there has a record of another user. -/
def Hijacks (env : Env) (req : ReconnectRequest) (c : Cluster) : Prop :=
  (∃ cs, Admits env req c.ops.world.store cs) ∧
    ((c.nodes env.nodeID).get? req.connID = none ∧ (c.nodes env.nodeID).Taken req.userID req.prevConnID ∨
      Announced env req c ∧ ∃ nodeID, nodeID ≠ env.nodeID ∧ (c.nodes nodeID).Taken req.userID req.prevConnID)

theorem othersUnchanged_iff_nodes {c : Cluster} {env : Env} {req : ReconnectRequest} {user : String} {node : Node}
    {result : Except String Unit}
    (ran : webSocketReconnect env req ⟨c.ops.world, c.nodes env.nodeID, []⟩ = (result, node)) :
    OthersUnchanged user c (c.handleEverywhere env req) ↔
      (c.nodes env.nodeID).KeepsOthers user node.sessions ∧
        ∀ nodeID, nodeID ≠ env.nodeID →
          (c.nodes nodeID).KeepsOthers user (node.sent.foldl NodeSessions.handleEvent (c.nodes nodeID)) := by
  simp only [OthersUnchanged, Cluster.handleEverywhere, ran]
  constructor
  · intro unchanged
    refine ⟨by simpa using unchanged env.nodeID, fun nodeID other => ?_⟩
    simpa [other] using unchanged nodeID
  · intro ⟨here, others⟩ nodeID
    by_cases same : nodeID = env.nodeID
    · simpa [same] using here
    · simpa [same] using others nodeID same

/-- The session that an admitted message names is one of its user. -/
theorem Admits.original {owner : String → String} {env : Env} {req : ReconnectRequest} {store : Store} {cs : CallState}
    (admits : Admits env req store cs) (rows : ∀ session ∈ store.sessions, session.userID = owner session.id) :
    owner req.originalConnID = req.userID := by
  obtain ⟨session, found, user⟩ := admits.session
  obtain ⟨member, named⟩ := KeyedTable.find?_eq_some_iff.mp found
  have spec := getCallState_spec env req.channelID store
  rw [wp, admits.loads] at spec
  obtain ⟨-, ⟨⟨err, failed⟩, -⟩ | ⟨state, loaded, loads, -⟩⟩ := spec
  · cases failed
  · cases loaded
    rw [loads.2.1, Store.mem_callSessions] at member
    rw [← named, ← rows session member.1, user]

/-- A message that the other nodes hear nothing of. -/
theorem Hijacks.iff_here {env : Env} {req : ReconnectRequest} {c : Cluster} {cs : CallState}
    (admits : Admits env req c.ops.world.store cs) (silent : ¬ Announced env req c) :
    Hijacks env req c ↔
      (c.nodes env.nodeID).get? req.connID = none ∧ (c.nodes env.nodeID).Taken req.userID req.prevConnID :=
  ⟨fun hijacks => hijacks.2.resolve_right fun announced => silent announced.1, fun taken => ⟨⟨cs, admits⟩, .inl taken⟩⟩

theorem othersUnchanged_iff (owner : String → String) (c : Cluster) (reached : (cluster owner).Reachable c)
    (env : Env) (req : ReconnectRequest) (authentic : owner req.connID = req.userID) :
    OthersUnchanged req.userID c (c.handleEverywhere env req) ↔ ¬ Hijacks env req c := by
  have inv := clusterInvariant_of_reachable reached
  have owned := inv.records env.nodeID
  have effect := webSocketReconnect_spec env req ⟨c.ops.world, c.nodes env.nodeID, []⟩
  rw [wp] at effect
  cases ran : webSocketReconnect env req ⟨c.ops.world, c.nodes env.nodeID, []⟩ with
  | mk result node =>
    rw [othersUnchanged_iff_nodes ran]
    rw [ran] at effect
    dsimp only at effect
    cases effect with
    | refused refused =>
      refine ⟨fun _ hijack => ?_, fun _ => ⟨.refl _ _, fun nodeID _ => .refl _ _⟩⟩
      obtain ⟨⟨cs, admits⟩, _⟩ := hijack
      exact refused cs admits
    | @admitted cs _ admits effect =>
      have original := admits.original inv.rows
      cases effect with
      | @repeated found here flagged =>
        have silent : ¬ Announced env req c := by
          intro announced
          rw [announced.fresh found here] at flagged
          cases flagged
        rw [Hijacks.iff_here admits silent]
        refine ⟨fun _ hijack => ?_, fun _ => ⟨.refl _ _, fun nodeID _ => .refl _ _⟩⟩
        obtain ⟨absent, us, stored, _, unflagged⟩ := hijack
        rw [ReconnectRequest.found_previous absent stored] at here
        cases here
        rw [unflagged] at flagged
        cases flagged
      | botFailed fresh followed same =>
        rw [Hijacks.iff_here admits fun announced => followed announced.followed,
          owned.marked_keepsOthers authentic fresh]
        exact ⟨And.left, fun free => ⟨free, fun nodeID _ => .refl _ _⟩⟩
      | replaced fresh followed same =>
        rw [owned.replaced_keepsOthers authentic original, owned.marked_keepsOthers authentic fresh]
        by_cases sends : env.clusterSendFails = false
        · have told (nodeID : String) :
              (([] : List ClusterMessage) ++ req.announcement env cs.call.id).foldl NodeSessions.handleEvent
                (c.nodes nodeID) = (c.nodes nodeID).handleEvent
                  (.reconnect env.nodeID req.prevConnID req.connID req.userID cs.call.id) := by
            simp [ReconnectRequest.announcement, sends]
          have announced : Announced env req c := ⟨fresh, followed, sends⟩
          simp only [told, (inv.records _).handleReconnect_keepsOthers]
          constructor
          · intro safe hijacks
            obtain ⟨here, others⟩ := safe
            obtain ⟨_, hijack⟩ := hijacks
            rcases hijack with taken | ⟨-, nodeID, other, taken⟩
            · exact here taken
            · exact others nodeID other taken
          · intro safe
            refine ⟨fun taken => safe ⟨⟨cs, admits⟩, .inl taken⟩, fun nodeID other taken => ?_⟩
            exact safe ⟨⟨cs, admits⟩, .inr ⟨announced, nodeID, other, taken⟩⟩
        · have silent : ¬ Announced env req c := fun announced => sends announced.sends
          rw [Hijacks.iff_here admits silent]
          refine ⟨And.left, fun free => ⟨free, fun nodeID _ => ?_⟩⟩
          simp only [ReconnectRequest.announcement, sends]
          exact .refl _ _

/-- A user who names a connection of their own as the previous one hijacks nothing. -/
theorem not_hijacks_of_own {owner : String → String} {c : Cluster} (inv : ClusterInvariant owner c) {env : Env}
    {req : ReconnectRequest} (own : owner req.prevConnID = req.userID) : ¬ Hijacks env req c := by
  have untaken (nodeID : String) : ¬ (c.nodes nodeID).Taken req.userID req.prevConnID := by
    intro ⟨us, stored, other, _⟩
    exact other ((inv.records nodeID req.prevConnID us stored).1.trans own)
  intro ⟨_, hijack⟩
  rcases hijack with ⟨-, taken⟩ | ⟨-, nodeID, -, taken⟩
  · exact untaken _ taken
  · exact untaken _ taken

/-- Bob has the connection `conn-2`, alice every other one. -/
def aliceAndBob (connID : String) : String := if connID = "conn-2" then "bob" else "alice"

def aliceAndBobJoin : List ClusterStep :=
  [.operation (.lock (.quiet 1000 "") "channel" .joining),
    .operation (.join (.quiet 1001 "call") "channel" (.plain "alice" "conn-1" "")),
    .operation (.join (.quiet 1002 "") "channel" (.plain "bob" "conn-2" "")),
    .operation (.unlock "channel")]

/-- Alice reconnects her session `conn-1`, saying that the given connection was its last one. -/
def aliceReconnects (prevConnID : String) : ReconnectRequest :=
  { userID := "alice", connID := "conn-3", channelID := "channel", originalConnID := "conn-1", prevConnID,
    permitted := true }

theorem idle_cluster (owner : String → String) : (cluster owner).init .idle :=
  ⟨rfl, fun _ member => absurd member KeyedTable.not_mem_empty, fun _ => rfl, rfl⟩

theorem othersUnchanged_of_ownReconnect :
    ∃ c, (cluster aliceAndBob).run? .idle aliceAndBobJoin = some c ∧
      ((c.handleEverywhere (.quiet 2000 "") (aliceReconnects "conn-1")).nodes "node").mapKeys =
        ["conn-2", "conn-3"] ∧
      OthersUnchanged "alice" c (c.handleEverywhere (.quiet 2000 "") (aliceReconnects "conn-1")) := by
  have computed : ((cluster aliceAndBob).run? .idle aliceAndBobJoin).map (fun c =>
      ((c.handleEverywhere (.quiet 2000 "") (aliceReconnects "conn-1")).nodes "node").mapKeys) =
      some ["conn-2", "conn-3"] := by decide
  obtain ⟨c, ran, keys⟩ := Option.map_eq_some_iff.mp computed
  have reached : (cluster aliceAndBob).Reachable c := .run (.init (idle_cluster aliceAndBob)) ran
  have own : ¬ Hijacks (.quiet 2000 "") (aliceReconnects "conn-1") c :=
    not_hijacks_of_own (clusterInvariant_of_reachable reached) rfl
  exact ⟨c, ran, keys, (othersUnchanged_iff aliceAndBob c reached _ _ rfl).mpr own⟩

/-- Alice names the connection of bob as her previous one: his session counts as
reconnected, its channel is closed, and his next real reconnection is refused. -/
theorem not_othersUnchanged :
    ¬ ∀ owner c, (cluster owner).Reachable c → ∀ env req, owner req.connID = req.userID →
      OthersUnchanged req.userID c (c.handleEverywhere env req) := by
  intro unchanged
  have computed : ((cluster aliceAndBob).run? .idle aliceAndBobJoin).map (fun c =>
      ((c.nodes "node").get? "conn-2",
        ((c.handleEverywhere (.quiet 2000 "") (aliceReconnects "conn-2")).nodes "node").get? "conn-2")) =
      some (some (newUserSession "bob" "channel" "conn-2" "call" true),
        some { newUserSession "bob" "channel" "conn-2" "call" true with wsReconnected := true }) := by decide
  obtain ⟨c, ran, shape⟩ := Option.map_eq_some_iff.mp computed
  simp only [Prod.mk.injEq] at shape
  obtain ⟨before, after⟩ := shape
  have reached : (cluster aliceAndBob).Reachable c := .run (.init (idle_cluster aliceAndBob)) ran
  have kept := unchanged aliceAndBob c reached (.quiet 2000 "") (aliceReconnects "conn-2") rfl "node"
    "conn-2" _ before (by decide)
  rw [after] at kept
  exact absurd kept (by decide)

end Calls
