import Calls.Server.RoamingStages

/-! Where the RTC side of a session reaches its client. A node that is told of a
second reconnection looks it up by a connection under which it has nothing. -/

set_option autoImplicit false

namespace Calls

/-! ### What a step leaves of the stage -/

section
variable {c : RecordsCluster} {r : Roaming} {node : NodeRecords} {nodeID sessionID handlerID : String} {step : RecordStep}

theorem honestStep (known : r.Known) (honest : Honest (c, r) (.act nodeID step)) :
    NodeRecords.HonestStep r (c.nodes nodeID) step := by
  refine ⟨honest.1, fun req callID botFails sendFails same => ?_⟩
  subst same
  exact ⟨known.current _ _ honest.2.1, .inl honest.2.2⟩

/-- The stage of a session on the node. -/
def Tracked (c : RecordsCluster) (r : Roaming) (sessionID handlerID : String) : Prop :=
  Stage (c.nodes handlerID) (About c r handlerID sessionID) (r.current? sessionID) (r.through sessionID) sessionID handlerID

structure RoamingInvariant (c : RecordsCluster) (r : Roaming) : Prop where
  known : r.Known
  owned : ∀ nodeID, (c.nodes nodeID).Owned r
  ordered : Ordered c
  tracked : ∀ sessionID handlerID, r.handler? sessionID = some handlerID → (c.nodes handlerID).Alive sessionID →
    Tracked c r sessionID handlerID

theorem RoamingInvariant.names (inv : RoamingInvariant c r) {y : String} {j : Nat} {m : ClusterMessage}
    (pending : c.pending? handlerID y j = some m) : r.Names m := by
  unfold RecordsCluster.pending? at pending
  split at pending
  · cases pending
  · exact (inv.owned y).sent m (List.mem_of_getElem? (Option.filter_eq_some_iff.mp pending).1)

/-- The messages about a session after a step that announces none of it to its node. -/
theorem RoamingInvariant.about_act (inv : RoamingInvariant c r) (honest : Honest (c, r) (.act nodeID step))
    (taken : (c.nodes nodeID).next? nodeID step = some node)
    (quiet : ∀ m, (c.nodes nodeID).announces? nodeID step = some m → m.reaches handlerID = true →
      ¬ (r.noteStep nodeID (c.nodes nodeID) step).Concerns sessionID m) (y : String) (j : Nat) (m : ClusterMessage) :
    About (c.setNode nodeID node) (r.noteStep nodeID (c.nodes nodeID) step) handlerID sessionID y j m ↔
      About c r handlerID sessionID y j m := by
  obtain ⟨_, extend⟩ := (NodeRecords.noted r nodeID (c.nodes nodeID) step).known (honestStep inv.known honest) inv.known
  unfold About
  rw [pending?_act inv.ordered taken]
  constructor
  · intro facts
    obtain ⟨old | ⟨_, _, announced, reaches⟩, concerns⟩ := facts
    · exact ⟨old, ((inv.names old).concerns extend sessionID).mp concerns⟩
    · exact absurd concerns (quiet m announced reaches)
  · intro facts
    obtain ⟨old, concerns⟩ := facts
    exact ⟨.inl old, ((inv.names old).concerns extend sessionID).mpr concerns⟩

/-- The messages about a session after a step that announces one of it to its node. -/
theorem RoamingInvariant.about_announced (inv : RoamingInvariant c r)
    (honest : Honest (c, r) (.act nodeID step)) (taken : (c.nodes nodeID).next? nodeID step = some node)
    {msg : ClusterMessage} (announced : (c.nodes nodeID).announces? nodeID step = some msg)
    (reaches : msg.reaches handlerID = true)
    (concerns : (r.noteStep nodeID (c.nodes nodeID) step).Concerns sessionID msg) (y : String) (j : Nat)
    (m : ClusterMessage) :
    About (c.setNode nodeID node) (r.noteStep nodeID (c.nodes nodeID) step) handlerID sessionID y j m ↔
      About c r handlerID sessionID y j m ∨ y = nodeID ∧ j = (c.nodes nodeID).sent.length ∧ m = msg := by
  obtain ⟨_, extend⟩ := (NodeRecords.noted r nodeID (c.nodes nodeID) step).known (honestStep inv.known honest) inv.known
  unfold About
  rw [pending?_act inv.ordered taken]
  constructor
  · intro facts
    obtain ⟨old | ⟨here, place, told, _⟩, about⟩ := facts
    · exact .inl ⟨old, ((inv.names old).concerns extend sessionID).mp about⟩
    · rw [announced] at told
      exact .inr ⟨here, place, (Option.some.inj told).symm⟩
  · intro either
    rcases either with ⟨old, about⟩ | ⟨rfl, rfl, rfl⟩
    · exact ⟨.inl old, ((inv.names old).concerns extend sessionID).mpr about⟩
    · exact ⟨.inr ⟨rfl, rfl, announced, reaches⟩, concerns⟩

/-- What a node has of its own session is not told it again. -/
theorem RoamingInvariant.about_here (inv : RoamingInvariant c r) (honest : Honest (c, r) (.act nodeID step))
    (taken : (c.nodes nodeID).next? nodeID step = some node) (sessionID y : String) (j : Nat) (m : ClusterMessage) :
    About (c.setNode nodeID node) (r.noteStep nodeID (c.nodes nodeID) step) nodeID sessionID y j m ↔
      About c r nodeID sessionID y j m := by
  refine inv.about_act honest taken (fun m announced reaches => ?_) y j m
  rw [NodeRecords.announces?_elsewhere announced] at reaches
  cases reaches

/-- Nothing is known of a session before it is added. -/
theorem RoamingInvariant.unknown (inv : RoamingInvariant c r) (fresh : r.session? sessionID = none) (handlerID : String) :
    (c.nodes handlerID).Only sessionID none ∧ ∀ y j m, ¬ About c r handlerID sessionID y j m := by
  have none {connID : String} (session : r.session? connID = some sessionID) : False := by
    have known := inv.known.session _ _ session
    rw [fresh] at known
    cases known
  refine ⟨fun key us => ⟨fun ⟨found, own⟩ => ?_, nofun⟩, fun y j m about => none about.2⟩
  exact (none (own ▸ (inv.owned handlerID).keys key us found)).elim

theorem RoamingInvariant.tracked_added (inv : RoamingInvariant c r) (honest : Honest (c, r) (.act nodeID step))
    (taken : (c.nodes nodeID).next? nodeID step = some node) {joiner : Joiner} {added : Added}
    (adds : (c.nodes nodeID).adds? step = some (joiner, added))
    (handler : (r.joined nodeID joiner added).handler? joiner.connID = some handlerID) :
    Tracked (c.setNode nodeID node) (r.noteStep nodeID (c.nodes nodeID) step) joiner.connID handlerID := by
  have noted : r.noteStep nodeID (c.nodes nodeID) step = r.joined nodeID joiner added := NodeRecords.noteStep_added adds
  have current : (r.noteStep nodeID (c.nodes nodeID) step).current? joiner.connID = some joiner.connID := by
    rw [noted]
    exact Function.update_self _ _ _
  have through : (r.noteStep nodeID (c.nodes nodeID) step).through joiner.connID = [] := by
    rw [noted]
    exact Function.update_self _ _ _
  rw [Tracked, current, through]
  have fresh := (honestStep inv.known honest).adds _ _ adds
  obtain ⟨only, none⟩ := inv.unknown fresh handlerID
  simp only [Roaming.joined, Function.update_self] at handler
  split at handler
  case isFalse => cases handler
  next placed =>
  cases handler
  by_cases here : added.handlerID = nodeID
  · subst here
    have entries := NodeRecords.at?_added (inv.owned _).range taken adds
    have same : (c.setNode added.handlerID node).nodes added.handlerID = node := Function.update_self _ _ _
    have rtc : (newUserSession joiner.userID joiner.channelID joiner.connID added.callID
        (added.rtcd = false ∧ added.handlerID = added.handlerID)).fresh.rtc = true := by
      simp [newUserSession, SessionRecord.fresh, placed.1]
    rw [same]
    refine .here rfl (fun key us => ?_) rfl rtc rfl
      (fun y j m about => none y j m ((inv.about_here honest taken _ y j m).mp about)) (by simp) fun _ => rfl
    rw [entries key]
    split
    · next same =>
      subst same
      constructor
      · intro facts
        obtain ⟨found, _⟩ := facts
        cases found
        rfl
      · intro found
        cases found
        exact ⟨rfl, rfl⟩
    · next other =>
      constructor
      · intro found
        cases (only key us).mp found
      · intro found
        cases found
        exact absurd rfl other
  · have sends := placed.2.resolve_left here
    have announced : (c.nodes nodeID).announces? nodeID step = some (.connect nodeID added.handlerID joiner.connID
        joiner.userID joiner.channelID added.callID) := by
      simp [NodeRecords.announces?, adds, placed.1, here, sends]
    have same : (c.setNode nodeID node).nodes added.handlerID = c.nodes added.handlerID := Function.update_of_ne here _ _
    rw [same]
    have concerns : (r.noteStep nodeID (c.nodes nodeID) step).Concerns joiner.connID (.connect nodeID added.handlerID
        joiner.connID joiner.userID joiner.channelID added.callID) := by
      rw [noted]
      exact Function.update_self _ _ _
    have reaches : (ClusterMessage.connect nodeID added.handlerID joiner.connID joiner.userID joiner.channelID
        added.callID).reaches added.handlerID = true := by simp [ClusterMessage.reaches]
    have about := inv.about_announced honest taken announced reaches concerns
    exact .announced rfl only rfl fun y j m => (about y j m).trans (or_iff_right (none y j m))

/-- The client comes back through the node that has the RTC side of its session. -/
theorem RoamingInvariant.tracked_here (inv : RoamingInvariant c r) {req : ReconnectRequest} {callID : String}
    {sendFails : Bool} (honest : Honest (c, r) (.act nodeID (.reconnect req callID false sendFails)))
    (goes : (c.nodes nodeID).GoesThrough req false) (holds : (c.nodes nodeID).Holds req.originalConnID)
    (first : nodeID ∉ r.through req.originalConnID) (tracked : Tracked c r req.originalConnID nodeID) :
    Stage ((c.nodes nodeID).handleReconnect nodeID req callID false sendFails)
      (About (c.setNode nodeID ((c.nodes nodeID).handleReconnect nodeID req callID false sendFails))
        (r.noteStep nodeID (c.nodes nodeID) (.reconnect req callID false sendFails)) nodeID req.originalConnID)
      (some req.connID) (nodeID :: r.through req.originalConnID) req.originalConnID nodeID := by
  obtain ⟨current, fresh⟩ := honest.2
  obtain ⟨entry, object, found, own⟩ := holds
  have about := inv.about_here honest rfl req.originalConnID
  have kept : NodeRecords.Keeps req.originalConnID ((c.nodes nodeID).replaced req callID)
      ((c.nodes nodeID).handleReconnect nodeID req callID false sendFails) := by
    rw [NodeRecords.handleReconnect_through goes]
    split
    · exact .refl _ _
    · exact .of_eq rfl rfl
  have returns {us : SessionObject} (only : (c.nodes nodeID).Only req.originalConnID (some (req.originalConnID, us)))
      (told : ∀ y j m, About c r nodeID req.originalConnID y j m →
        ∃ a connID newConnID u call, m = .reconnect a connID newConnID u call ∧ connID = req.originalConnID)
      (away : ∃ other ∈ r.through req.originalConnID, other ≠ nodeID) :
      Stage ((c.nodes nodeID).handleReconnect nodeID req callID false sendFails)
        (About (c.setNode nodeID ((c.nodes nodeID).handleReconnect nodeID req callID false sendFails))
          (r.noteStep nodeID (c.nodes nodeID) (.reconnect req callID false sendFails)) nodeID req.originalConnID)
        (some req.connID) (nodeID :: r.through req.originalConnID) req.originalConnID nodeID := by
    refine .back rfl (((inv.owned nodeID).only_replaced only callID).keeps kept) rfl rfl (fun y j m later => ?_)
      List.mem_cons_self ?_
    · obtain ⟨a, connID, newConnID, u, call, rfl, same⟩ := told y j m ((about y j m).mp later)
      refine ⟨a, connID, newConnID, u, call, rfl, fun reused => ?_⟩
      have known := inv.known.session _ _ (inv.known.current _ _ current)
      rw [← same, reused, fresh] at known
      cases known
    · obtain ⟨other, listed, different⟩ := away
      exact ⟨other, List.mem_cons_of_mem _ listed, different⟩
  cases tracked with
  | announced _ only | announcedAway _ only => exact absurd ((only entry object).mp ⟨found, own⟩) nofun
  | @here key us at? only named rtc unflagged none all original =>
    obtain rfl := original first
    have previous : req.originalConnID = req.prevConnID := Option.some.inj (at?.symm.trans current)
    have found := ((only _ us).mpr rfl).1
    rw [previous] at found
    have rtc' := (inv.owned nodeID).replacement_rtc fresh found callID
    refine .here rfl (((inv.owned nodeID).only_replaced only callID).keeps kept) rfl (rtc'.trans rtc) rfl
      (fun y j m later => none y j m ((about y j m).mp later)) (fun other listed => ?_)
      fun absent => absurd List.mem_cons_self absent
    rcases List.mem_cons.mp listed with rfl | old
    · rfl
    · exact all other old
  | away at? only named rtc unflagged pending away original =>
    obtain rfl := original first
    refine returns only (fun y j m told => ?_) away
    obtain ⟨_, _, rfl⟩ := (pending y j m).mp told
    exact ⟨_, _, _, _, _, rfl, rfl⟩
  | renamed at? only named rtc none away original =>
    obtain rfl := original first
    exact returns only (fun y j m told => absurd told (none y j m)) away
  | back at? only named unflagged pending listed => exact absurd listed first

/-- The client comes back through another node. -/
theorem RoamingInvariant.tracked_elsewhere (inv : RoamingInvariant c r) {req : ReconnectRequest} {callID : String}
    (honest : Honest (c, r) (.act nodeID (.reconnect req callID false false)))
    (taken : (c.nodes nodeID).next? nodeID (.reconnect req callID false false) = some node)
    (goes : (c.nodes nodeID).GoesThrough req false) (elsewhere : nodeID ≠ handlerID)
    (all : ∀ other ∈ r.through req.originalConnID, other = handlerID) (tracked : Tracked c r req.originalConnID handlerID) :
    Stage (c.nodes handlerID)
      (About (c.setNode nodeID node) (r.noteStep nodeID (c.nodes nodeID) (.reconnect req callID false false)) handlerID
        req.originalConnID)
      (some req.connID) (nodeID :: r.through req.originalConnID) req.originalConnID handlerID := by
  have current := honest.2.1
  have before (connID : String) (at? : r.current? req.originalConnID = some connID) : connID = req.prevConnID :=
    Option.some.inj (at?.symm.trans current)
  have announced : (c.nodes nodeID).announces? nodeID (.reconnect req callID false false) =
      some (.reconnect nodeID req.prevConnID req.connID req.userID callID) := by
    simp [NodeRecords.announces?, NodeRecords.adds?, NodeRecords.goesThrough_iff.mpr goes]
  have concerns : (r.noteStep nodeID (c.nodes nodeID) (.reconnect req callID false false)).Concerns req.originalConnID
      (.reconnect nodeID req.prevConnID req.connID req.userID callID) := by
    obtain ⟨_, extend⟩ := (NodeRecords.noted r nodeID (c.nodes nodeID)
      (.reconnect req callID false false)).known (honestStep inv.known honest) inv.known
    exact extend _ _ (inv.known.current _ _ current)
  have reaches : (ClusterMessage.reconnect nodeID req.prevConnID req.connID req.userID callID).reaches handlerID = true := by
    simpa [ClusterMessage.reaches] using Ne.symm elsewhere
  have about := inv.about_announced honest taken announced reaches concerns
  cases tracked with
  | @announced senderID _ _ _ _ _ number at? only none pending =>
    have previous := before _ at?
    rw [← previous] at about
    have waits : c.pending? handlerID senderID number = some _ := ((pending senderID number _).mpr ⟨rfl, rfl, rfl⟩).1
    have apart : (senderID, number) ≠ (nodeID, (c.nodes nodeID).sent.length) := by
      intro same
      cases same
      exact Nat.lt_irrefl _ (pending?_lt waits)
    exact .announcedAway rfl only ⟨nodeID, List.mem_cons_self, elsewhere⟩ (by simp [none, Ne.symm elsewhere]) apart
      fun y j m => (about y j m).trans (or_congr_left (pending y j m))
  | @here key us at? only named rtc unflagged none _ original =>
    obtain rfl := before _ at?
    exact .away rfl only named rtc unflagged (fun y j m => (about y j m).trans (or_iff_right (none y j m)))
      ⟨nodeID, List.mem_cons_self, elsewhere⟩ fun absent => original fun listed => absent (List.mem_cons_of_mem _ listed)
  | announcedAway _ _ away | away _ _ _ _ _ _ away | renamed _ _ _ _ _ away | back _ _ _ _ _ _ away =>
    obtain ⟨other, listed, different⟩ := away
    exact absurd (all other listed) different

/-- A step after which a session is alive was about an object of it only if its client came back. -/
theorem NodeRecords.Owned.untouched {before after : NodeRecords} {about : String → Nat → ClusterMessage → Prop}
    {current : Option String} {through : List String} (owned : before.Owned r)
    (taken : before.next? nodeID step = some after) (alive : after.Alive sessionID)
    (stage : Stage before about current through sessionID handlerID)
    (other : ∀ req callID botFails sendFails, step = .reconnect req callID botFails sendFails →
      req.originalConnID ≠ sessionID) : ¬ before.Touches sessionID step := by
  cases step with
  | join | runJoin => exact id
  | reconnect req callID botFails sendFails => exact other req callID botFails sendFails rfl
  | clear us connID =>
    intro facts
    obtain ⟨object, found, own, flagged, rtc⟩ := facts
    rcases stage.uncleared found own with unflagged | handles
    · rw [unflagged] at flagged
      cases flagged
    · rw [handles] at rtc
      cases rtc
  | remove us sessionsCount locked =>
    intro facts
    obtain ⟨object, found, own⟩ := facts
    obtain ⟨_, found', rfl⟩ := Option.map_eq_some_iff.mp taken
    rw [found] at found'
    cases found'
    have flagged := alive us { object with removed := true }
      (by rw [removeSession_flags found]; simp [(List.getElem?_eq_some_iff.mp found).1]) own
    cases flagged
  | runRemove channelID =>
    intro facts
    obtain ⟨us, rest, object, popped, found, own⟩ := facts
    have alive := (Retains.next? taken).remembers.alive alive us object found own
    have queued : ∃ batcher, before.removeSessionsBatchers.get? channelID = some batcher ∧ us ∈ batcher.items := by
      unfold NodeRecords.popRemoval? at popped
      split at popped
      · next there => cases popped; exact ⟨_, there, List.mem_cons_self⟩
      · cases popped
    obtain ⟨batcher, there, waits⟩ := queued
    obtain ⟨_, found', removed⟩ := owned.queued channelID batcher us there waits
    rw [found] at found'
    cases found'
    rw [alive] at removed
    cases removed

theorem RoamingInvariant.tracked_act (inv : RoamingInvariant c r) (honest : Honest (c, r) (.act nodeID step))
    (steady : Steady (c, r) (.act nodeID step)) (taken : (c.nodes nodeID).next? nodeID step = some node)
    (handler : (r.noteStep nodeID (c.nodes nodeID) step).handler? sessionID = some handlerID)
    (alive : ((c.setNode nodeID node).nodes handlerID).Alive sessionID) :
    Tracked (c.setNode nodeID node) (r.noteStep nodeID (c.nodes nodeID) step) sessionID handlerID := by
  have remembers : (c.nodes handlerID).Remembers ((c.setNode nodeID node).nodes handlerID) := by
    by_cases here : handlerID = nodeID
    · subst here
      simpa [RecordsCluster.setNode] using (NodeRecords.Retains.next? taken).remembers
    · exact (NodeRecords.Retains.of_eq (by simp [RecordsCluster.setNode, here])).remembers
  -- A step that neither adds the session nor brings its client back.
  have unaffected (handler : r.handler? sessionID = some handlerID)
      (current : (r.noteStep nodeID (c.nodes nodeID) step).current? sessionID = r.current? sessionID)
      (through : (r.noteStep nodeID (c.nodes nodeID) step).through sessionID = r.through sessionID)
      (kept : nodeID = handlerID → NodeRecords.Keeps sessionID (c.nodes nodeID) node)
      (quiet : ∀ m, (c.nodes nodeID).announces? nodeID step = some m → m.reaches handlerID = true →
        ¬ (r.noteStep nodeID (c.nodes nodeID) step).Concerns sessionID m) :
      Tracked (c.setNode nodeID node) (r.noteStep nodeID (c.nodes nodeID) step) sessionID handlerID := by
    rw [Tracked, current, through]
    refine (inv.tracked sessionID handlerID handler (remembers.alive alive)).keeps ?_ (inv.about_act honest taken quiet)
    by_cases here : nodeID = handlerID
    · subst here
      simpa [RecordsCluster.setNode] using kept rfl
    · rw [show (c.setNode nodeID node).nodes handlerID = c.nodes handlerID from Function.update_of_ne (Ne.symm here) _ _]
      exact .refl _ _
  have untouched (handler : r.handler? sessionID = some handlerID)
      (other : ∀ req callID botFails sendFails, step = .reconnect req callID botFails sendFails →
        req.originalConnID ≠ sessionID) (here : nodeID = handlerID) :
      NodeRecords.Keeps sessionID (c.nodes nodeID) node := by
    subst here
    refine (inv.owned nodeID).keeps_next? inv.known (honestStep inv.known honest) taken (inv.known.handler _ _ handler) ?_
    refine (inv.owned nodeID).untouched taken ?_ (inv.tracked sessionID nodeID handler (remembers.alive alive)) other
    simpa [RecordsCluster.setNode] using alive
  have noted := NodeRecords.noted r nodeID (c.nodes nodeID) step
  obtain ⟨after, note⟩ : ∃ after, r.noteStep nodeID (c.nodes nodeID) step = after := ⟨_, rfl⟩
  rw [note] at noted handler
  cases noted with
  | @added _ joiner added adds =>
    by_cases mine : sessionID = joiner.connID
    · subst mine
      exact inv.tracked_added honest taken adds handler
    · have old : r.handler? sessionID = some handlerID := (Function.update_of_ne mine _ _).symm.trans handler
      refine unaffected old (by rw [note]; exact Function.update_of_ne mine _ _)
        (by rw [note]; exact Function.update_of_ne mine _ _) (untouched old ?_) ?_
      · intro req callID botFails sendFails same
        obtain rfl := same
        cases adds
      · intro m announced _ concerns
        rcases NodeRecords.announces?_cases announced with ⟨other, outcome, adds', _, _, rfl⟩ | ⟨req, callID, rfl, _⟩
        · rw [adds] at adds'
          cases adds'
          rw [note] at concerns
          have owner : (r.joined nodeID joiner added).session? joiner.connID = some joiner.connID :=
            Function.update_self _ _ _
          exact mine (Option.some.inj (concerns.symm.trans owner))
        · cases adds
  | @through req callID sendFails goes =>
    by_cases mine : req.originalConnID = sessionID
    · subst mine
      have before := remembers.alive alive
      have tracked := inv.tracked req.originalConnID handlerID handler before
      have current' : (r.noteStep nodeID (c.nodes nodeID) (.reconnect req callID false sendFails)).current?
          req.originalConnID = some req.connID := by
        rw [note]
        exact Function.update_self _ _ _
      have through : (r.noteStep nodeID (c.nodes nodeID) (.reconnect req callID false sendFails)).through
          req.originalConnID = nodeID :: r.through req.originalConnID := by
        rw [note]
        exact Function.update_self _ _ _
      obtain ⟨_, once⟩ := steady handlerID handler before
      obtain ⟨first, others⟩ := once goes
      rw [Tracked, current', through]
      by_cases here : nodeID = handlerID
      · subst here
        obtain ⟨holds, first⟩ := first rfl
        cases taken
        rw [show (c.setNode nodeID ((c.nodes nodeID).handleReconnect nodeID req callID false sendFails)).nodes nodeID = _
          from Function.update_self _ _ _]
        exact inv.tracked_here honest goes holds first tracked
      · obtain ⟨rfl, all⟩ := others here
        rw [show (c.setNode nodeID node).nodes handlerID = _ from Function.update_of_ne (Ne.symm here) _ _]
        exact inv.tracked_elsewhere honest taken goes here all tracked
    · refine unaffected handler (by rw [note]; exact Function.update_of_ne (Ne.symm mine) _ _)
        (by rw [note]; exact Function.update_of_ne (Ne.symm mine) _ _) (untouched handler ?_) ?_
      · intro other _ _ _ same
        cases same
        exact mine
      · intro m announced _ concerns
        rcases NodeRecords.announces?_cases announced with ⟨joiner, outcome, adds, _⟩ | ⟨other, _, same, _, rfl⟩
        · cases adds
        · cases same
          obtain ⟨_, extend⟩ := (NodeRecords.noted r nodeID (c.nodes nodeID)
            (.reconnect req callID false false)).known (honestStep inv.known honest) inv.known
          have owner := extend _ _ (inv.known.current _ _ honest.2.1)
          exact mine (Option.some.inj (owner.symm.trans concerns))
  | neither adds refused =>
    have quiet (m : ClusterMessage) (announced : (c.nodes nodeID).announces? nodeID step = some m) : False := by
      rcases NodeRecords.announces?_cases announced with ⟨joiner, outcome, adds', _⟩ | ⟨req, callID, rfl, goes, _⟩
      · rw [adds] at adds'
        cases adds'
      · exact refused _ _ _ _ rfl goes
    by_cases mine : ∃ req callID botFails sendFails, step = .reconnect req callID botFails sendFails ∧
        req.originalConnID = sessionID
    · obtain ⟨req, callID, botFails, sendFails, rfl, rfl⟩ := mine
      obtain ⟨works, _⟩ := steady handlerID handler (remembers.alive alive)
      refine unaffected handler (by rw [note]) (by rw [note]) (fun here => ?_) fun m announced _ => (quiet m announced).elim
      obtain rfl := works here
      cases taken
      rw [NodeRecords.handleReconnect_repeated (refused _ _ _ _ rfl)]
      exact .refl _ _
    · refine unaffected handler (by rw [note]) (by rw [note]) (untouched handler fun req callID botFails sendFails same own => ?_)
        fun m announced _ => (quiet m announced).elim
      exact mine ⟨req, callID, botFails, sendFails, same, own⟩

/-- What a stage becomes when one of the messages about the session is handled. -/
theorem Stage.handleEvent {node : NodeRecords} {about later : String → Nat → ClusterMessage → Prop}
    {current : Option String} {through : List String} {senderID : String} {number : Nat} {msg : ClusterMessage}
    (stage : Stage node about current through sessionID handlerID) (owned : node.Owned r)
    (mine : r.session? sessionID = some sessionID) (told : about senderID number msg) (concerns : r.Concerns sessionID msg)
    (holds : ∀ fromID connID newConnID userID callID, msg = .reconnect fromID connID newConnID userID callID →
      node.Holds sessionID)
    (left : ∀ y j m, later y j m ↔ (y, j) ≠ (senderID, number) ∧ about y j m) :
    Stage (node.handleEvent msg) later current through sessionID handlerID := by
  -- The only message is the one that is handled.
  have handled {y : String} {j : Nat} {m : ClusterMessage}
      (only : ∀ y' j' m', about y' j' m' ↔ y' = y ∧ j' = j ∧ m' = m) (y' : String) (j' : Nat) (m' : ClusterMessage) :
      ¬ later y' j' m' := by
    intro there
    obtain ⟨other, there⟩ := (left y' j' m').mp there
    obtain ⟨rfl, rfl, _⟩ := (only _ _ _).mp there
    obtain ⟨rfl, rfl, _⟩ := (only _ _ _).mp told
    exact other rfl
  -- The node then has an object under the first connection.
  have connected (only : node.Only sessionID none) (fromID targetID userID channelID callID : String) :
      (node.handleEvent (.connect fromID targetID sessionID userID channelID callID)).Only sessionID
        (some (sessionID, (newUserSession userID channelID sessionID callID true).fresh)) := by
    have absent : node.sessions.get? sessionID = none := by
      cases stored : node.sessions.get? sessionID with
      | none => rfl
      | some us =>
        have found := NodeRecords.at?_eq_some stored (List.getElem?_eq_getElem (owned.range sessionID us stored))
        cases (only _ _).mp ⟨found, owned.own mine found⟩
    intro key us
    simp only [NodeRecords.handleEvent, absent, Option.isSome_none, Bool.false_eq_true, if_false]
    rw [NodeRecords.at?_store owned.range]
    split
    · next same =>
      subst same
      constructor
      · intro facts
        obtain ⟨found, _⟩ := facts
        cases found
        rfl
      · intro found
        cases found
        exact ⟨rfl, rfl⟩
    · next other =>
      constructor
      · intro found
        cases (only key us).mp found
      · intro found
        cases found
        exact absurd rfl other
  cases stage with
  | announced at? only none pending =>
    obtain ⟨rfl, rfl, rfl⟩ := (pending _ _ _).mp told
    exact .here at? (connected only _ _ _ _ _) rfl rfl rfl (handled pending) (by simp [none]) fun _ => rfl
  | @announcedAway connID _ _ _ _ _ _ fromID a userID callID _ place at? only away absent apart pending =>
    rcases (pending _ _ _).mp told with ⟨rfl, rfl, rfl⟩ | ⟨rfl, rfl, rfl⟩
    · have remains (y : String) (j : Nat) (m : ClusterMessage) :
          later y j m ↔ y = fromID ∧ j = place ∧ m = .reconnect a sessionID connID userID callID := by
        rw [left, pending]
        constructor
        · intro facts
          obtain ⟨other, ⟨rfl, rfl, _⟩ | there⟩ := facts
          · exact absurd rfl other
          · exact there
        · intro facts
          obtain ⟨rfl, rfl, rfl⟩ := facts
          exact ⟨apart.symm, .inr ⟨rfl, rfl, rfl⟩⟩
      exact .away at? (connected only _ _ _ _ _) rfl rfl rfl remains away fun _ => rfl
    · obtain ⟨key, us, found⟩ := holds _ _ _ _ _ rfl
      cases (only key us).mp found
  | here _ _ _ _ _ none => exact absurd told (none _ _ _)
  | @away key connID _ fromID userID callID _ us at? only named rtc unflagged pending away original =>
    obtain ⟨rfl, rfl, rfl⟩ := (pending _ _ _).mp told
    have entry := ((only key us).mpr rfl).1
    obtain ⟨place, stored, found⟩ := Option.bind_eq_some_iff.mp entry
    have only' : (node.handleEvent (.reconnect fromID key connID userID callID)).Only sessionID
        (some (key, { us with wsReconnected := true, connID := connID })) := by
      intro other object
      simp only [NodeRecords.handleEvent, stored, found, unflagged, rtc, Bool.false_eq_true, if_false, if_true]
      rw [NodeRecords.at?_setObject found]
      split
      · next there =>
        obtain ⟨_, own⟩ := (only key us).mpr rfl
        cases (only other us).mp ⟨NodeRecords.at?_eq_some there found, own⟩
        constructor
        · intro facts
          obtain ⟨same, _⟩ := facts
          cases same
          rfl
        · intro same
          cases same
          exact ⟨rfl, own⟩
      · next elsewhere =>
        refine ⟨fun there => ?_, fun same => ?_⟩
        · cases (only other object).mp there
          exact absurd stored elsewhere
        · cases same
          exact absurd stored elsewhere
    exact .renamed at? only' rfl rtc (handled pending) away original
  | renamed _ _ _ _ none => exact absurd told (none _ _ _)
  | back at? only named unflagged pending listed away =>
    obtain ⟨a, connID, newConnID, u, call, rfl, other⟩ := pending _ _ _ told
    have absent : node.sessions.get? connID = none := by
      cases stored : node.sessions.get? connID with
      | none => rfl
      | some us =>
        have found := NodeRecords.at?_eq_some stored (List.getElem?_eq_getElem (owned.range connID us stored))
        cases (only connID _).mp ⟨found, owned.own concerns found⟩
        exact absurd rfl other
    have same : node.handleEvent (.reconnect a connID newConnID u call) = node := by
      simp [NodeRecords.handleEvent, absent]
    rw [same]
    exact .back at? only named unflagged (fun y j m there => pending y j m ((left y j m).mp there).2) listed away

theorem RoamingInvariant.tracked_deliver (inv : RoamingInvariant c r) {senderID : String} {number : Nat}
    {msg : ClusterMessage} (steady : Steady (c, r) (.deliver nodeID senderID number))
    (pending : c.pending? nodeID senderID number = some msg) (handler : r.handler? sessionID = some handlerID)
    (alive : ((c.setNode nodeID ((c.nodes nodeID).handleEvent msg)).nodes handlerID).Alive sessionID) :
    Tracked { c.setNode nodeID ((c.nodes nodeID).handleEvent msg) with
      delivered := (nodeID, senderID, number) :: c.delivered } r sessionID handlerID := by
  have about (y : String) (j : Nat) (m : ClusterMessage) :
      About { c.setNode nodeID ((c.nodes nodeID).handleEvent msg) with
        delivered := (nodeID, senderID, number) :: c.delivered } r handlerID sessionID y j m ↔
        (handlerID, y, j) ≠ (nodeID, senderID, number) ∧ About c r handlerID sessionID y j m := by
    rw [About, pending?_deliver, and_assoc, About]
  have names := inv.names pending
  by_cases here : nodeID = handlerID
  · subst here
    have same : (c.setNode nodeID ((c.nodes nodeID).handleEvent msg)).nodes nodeID = (c.nodes nodeID).handleEvent msg :=
      Function.update_self _ _ _
    rw [same] at alive
    have tracked := inv.tracked sessionID nodeID handler ((NodeRecords.Remembers.handleEvent msg).alive alive)
    rw [Tracked]
    dsimp only
    rw [same]
    by_cases concerns : r.Concerns sessionID msg
    · refine tracked.handleEvent (inv.owned nodeID) (inv.known.handler _ _ handler) ⟨pending, concerns⟩ concerns ?_ ?_
      · intro fromID connID newConnID userID callID same
        obtain rfl := same
        exact steady fromID connID newConnID userID callID sessionID pending concerns handler
          ((NodeRecords.Remembers.handleEvent _).alive alive)
      · intro y j m
        simpa using about y j m
    · refine tracked.keeps ((inv.owned nodeID).keeps_handleEvent names concerns) fun y j m => ?_
      refine (about y j m).trans ⟨And.right, fun told => ⟨?_, told⟩⟩
      intro same
      cases same
      obtain ⟨pending', concerns'⟩ := told
      rw [pending] at pending'
      cases pending'
      exact concerns concerns'
  · have same : (c.setNode nodeID ((c.nodes nodeID).handleEvent msg)).nodes handlerID = c.nodes handlerID :=
      Function.update_of_ne (Ne.symm here) _ _
    rw [same] at alive
    rw [Tracked]
    dsimp only
    rw [same]
    refine (inv.tracked sessionID handlerID handler alive).keeps (.refl _ _) fun y j m => ?_
    refine (about y j m).trans ⟨And.right, fun told => ⟨fun now => here ?_, told⟩⟩
    cases now
    rfl

theorem RoamingInvariant.next? {before after : RecordsCluster × Roaming} {label : RecordsClusterStep}
    (inv : RoamingInvariant before.1 before.2) (honest : Honest before label) (steady : Steady before label)
    (taken : roamingCluster.next? before label = some after) : RoamingInvariant after.1 after.2 := by
  obtain ⟨c, r⟩ := before
  obtain ⟨c', r'⟩ := after
  obtain ⟨moved, noted⟩ := System.observed_next?.mp taken
  dsimp only at inv moved noted
  cases label with
  | act nodeID step =>
    obtain ⟨node, acted, rfl⟩ := Option.map_eq_some_iff.mp moved
    obtain rfl : r' = r.noteStep nodeID (c.nodes nodeID) step := noted
    obtain ⟨known, extend⟩ := (NodeRecords.noted r nodeID (c.nodes nodeID) step).known (honestStep inv.known honest) inv.known
    refine ⟨known, fun place => ?_, inv.ordered.act acted, fun sessionID handlerID handler alive =>
      inv.tracked_act honest steady acted handler alive⟩
    by_cases here : place = nodeID
    · subst here
      simpa [RecordsCluster.setNode] using (inv.owned place).next? inv.known (honestStep inv.known honest) acted
    · simpa [RecordsCluster.setNode, here] using (inv.owned place).mono extend
  | deliver nodeID senderID number =>
    obtain ⟨msg, pending, rfl⟩ := Option.map_eq_some_iff.mp moved
    obtain rfl : r' = r := noted
    refine ⟨inv.known, fun place => ?_, inv.ordered.deliver pending, fun sessionID handlerID handler alive =>
      inv.tracked_deliver steady pending handler alive⟩
    by_cases here : place = nodeID
    · subst here
      simpa [RecordsCluster.setNode] using (inv.owned place).handleEvent (inv.names pending)
    · simpa [RecordsCluster.setNode, here] using inv.owned place

theorem RoamingInvariant.start : RoamingInvariant .idle .unseen where
  known := ⟨nofun, nofun, nofun⟩
  owned _ := ⟨nofun, nofun, nofun, nofun, nofun⟩
  ordered := nofun
  tracked := nofun

/-- The object of the stage is the one that is found for the session. -/
theorem RoamingInvariant.reached (inv : RoamingInvariant c r) (sessionID : String) : Reached c r sessionID := by
  intro handlerID connID handler current alive settled
  have mine := inv.known.handler _ _ handler
  obtain ⟨key, us, other, at?, only, named⟩ :=
    (inv.tracked sessionID handlerID handler alive).settled fun y j m told => settled y j m told.1 told.2
  obtain rfl : connID = other := Option.some.inj (current.symm.trans at?)
  obtain ⟨entry, own⟩ := (only key us).mpr rfl
  constructor
  · cases original : (c.nodes handlerID).at? sessionID with
    | some found => exact ⟨found, .inl original⟩
    | none => exact ⟨us, .inr ⟨original, key, entry, own⟩⟩
  · intro found either
    rcases either with original | ⟨_, place, listed, owner⟩
    · cases (only sessionID found).mp ⟨original, (inv.owned handlerID).own mine original⟩
      exact named
    · cases (only place found).mp ⟨listed, owner⟩
      exact named

end

/-! ### In all runs -/

def AllTracked (state : RecordsCluster × Roaming) : Prop := RoamingInvariant state.1 state.2

theorem reached_of_steady (state : RecordsCluster × Roaming)
    (reached : (roamingCluster.restrict fun state label => Honest state label ∧ Steady state label).Reachable state)
    (sessionID : String) : Reached state.1 state.2 sessionID := by
  have inv : AllTracked state := by
    refine System.Reachable.invariant_of_allowed ?_ ?_ reached
    · intro facts both
      obtain ⟨c, r⟩ := facts
      obtain ⟨rfl, rfl⟩ := both
      exact .start
    · exact fun before label after inv allowed taken => inv.next? allowed.1 allowed.2 taken
  exact inv.reached sessionID

/-- A check of `Honest`. -/
def honest (state : RecordsCluster × Roaming) : RecordsClusterStep → Bool
  | .act nodeID step =>
    (((state.1.nodes nodeID).adds? step).all fun (joiner, _) => (state.2.session? joiner.connID).isNone) &&
      match step with
      | .reconnect req _ _ _ =>
        state.2.current? req.originalConnID == some req.prevConnID && (state.2.session? req.connID).isNone
      | _ => true
  | .deliver _ _ _ => true

theorem honest_sound (state : RecordsCluster × Roaming) (label : RecordsClusterStep) (checked : honest state label = true) :
    Honest state label := by
  cases label with
  | deliver => trivial
  | act nodeID step =>
    obtain ⟨adds, reconnects⟩ := Bool.and_eq_true_iff.mp checked
    refine ⟨fun joiner added same => ?_, ?_⟩
    · simpa [same] using adds
    · cases step with
      | reconnect => simpa using reconnects
      | _ => trivial

def NodeRecords.holds (node : NodeRecords) (sessionID : String) : Bool :=
  node.sessions.mapKeys.any fun key => (node.at? key).any fun us => us.originalConnID = sessionID

theorem NodeRecords.holds_sound {node : NodeRecords} {sessionID : String} (checked : node.holds sessionID = true) :
    node.Holds sessionID := by
  obtain ⟨key, _, found⟩ := List.any_eq_true.mp checked
  obtain ⟨us, there, own⟩ := (Option.any_eq_true _ _).mp found
  exact ⟨key, us, there, of_decide_eq_true own⟩

/-- A check of `Steady`, of sessions that have been removed too. -/
def steady (state : RecordsCluster × Roaming) : RecordsClusterStep → Bool
  | .act nodeID (.reconnect req _ botFails sendFails) =>
    (state.2.handler? req.originalConnID).all fun handlerID =>
      !botFails &&
        if nodeID = handlerID then
          (state.1.nodes handlerID).holds req.originalConnID && handlerID ∉ state.2.through req.originalConnID
        else !sendFails && (state.2.through req.originalConnID).all (· = handlerID)
  | .act _ _ => true
  | .deliver nodeID senderID number =>
    match state.1.pending? nodeID senderID number with
    | some (.reconnect _ connID _ _ _) =>
      (state.2.session? connID).all fun sessionID =>
        state.2.handler? sessionID ≠ some nodeID || (state.1.nodes nodeID).holds sessionID
    | _ => true

theorem steady_sound (state : RecordsCluster × Roaming) (label : RecordsClusterStep) (checked : steady state label = true) :
    Steady state label := by
  cases label with
  | deliver nodeID senderID number =>
    intro fromID connID newConnID userID callID sessionID pending session handler _
    simp only [steady, pending, session, handler, Option.all_some] at checked
    exact NodeRecords.holds_sound (by simpa using checked)
  | act nodeID step =>
    cases step with
    | reconnect req callID botFails sendFails =>
      intro handlerID handler _
      simp only [steady, handler, Option.all_some, Bool.and_eq_true, Bool.not_eq_true'] at checked
      obtain ⟨works, first⟩ := checked
      refine ⟨fun _ => works, fun _ => ⟨fun here => ?_, fun other => ?_⟩⟩
      · rw [if_pos here, Bool.and_eq_true, decide_eq_true_eq] at first
        exact ⟨NodeRecords.holds_sound first.1, first.2⟩
      · rw [if_neg other, Bool.and_eq_true] at first
        exact ⟨by simpa using first.1, fun place listed => of_decide_eq_true (List.all_eq_true.mp first.2 place listed)⟩
    | _ => trivial

def Silent (nodeID : String) (state : RecordsCluster × Roaming) : Prop := (state.1.nodes nodeID).sent = []

/-- Of a run in which only some nodes act, the messages of these are those to be handled. -/
theorem Settled.of_run {state : RecordsCluster × Roaming} {labels : List RecordsClusterStep} {nodeID sessionID : String}
    (ran : roamingCluster.run? (.idle, .unseen) labels = some state) (senders : List String)
    (acting : ∀ label ∈ labels, ∀ senderID step, label = .act senderID step → senderID ∈ senders)
    (handled : ∀ senderID ∈ senders, ∀ number < (state.1.nodes senderID).sent.length,
      state.1.pending? nodeID senderID number = none) : Settled state.1 state.2 nodeID sessionID := by
  intro senderID number msg pending _
  by_cases acts : senderID ∈ senders
  · rw [handled senderID acts number (pending?_lt pending)] at pending
    cases pending
  · have meets : roamingCluster.MeetsAlong (fun _ label => ∀ step, label ≠ .act senderID step) (.idle, .unseen) labels :=
      .of_labels (fun label listed _ step same => acts (acting label listed senderID step same)) _
    have silent : Silent senderID state := by
      refine meets.invariant ran ?_ (rfl : Silent senderID (.idle, .unseen))
      · intro state label next silent other taken
        obtain ⟨c, r⟩ := state
        obtain ⟨c', r'⟩ := next
        obtain ⟨moved, _⟩ := System.observed_next?.mp taken
        dsimp only [Silent] at silent moved ⊢
        cases label with
        | act place step =>
          obtain ⟨node, _, rfl⟩ := Option.map_eq_some_iff.mp moved
          have elsewhere : senderID ≠ place := fun same => other step (by rw [same])
          simpa [RecordsCluster.setNode, elsewhere] using silent
        | deliver place fromID number =>
          obtain ⟨told, _, rfl⟩ := Option.map_eq_some_iff.mp moved
          by_cases here : senderID = place
          · subst here
            simpa [RecordsCluster.setNode, NodeRecords.handleEvent_sent] using silent
          · simpa [RecordsCluster.setNode, here] using silent
    have sent := pending?_lt pending
    rw [show (state.1.nodes senderID).sent = [] from silent] at sent
    exact absurd sent (Nat.not_lt_zero _)

/-- Alice joins on a node that does not have the RTC side of the call, and comes
back through the one that has it, then through hers. -/
def comesBackTwice : List RecordsClusterStep :=
  [.act "b" (.join ⟨"alice", "channel", "conn-1"⟩ 2 (some ⟨"call", "a", false, false⟩)), .deliver "a" "b" 0,
    .act "a" aliceComesBack, .deliver "b" "a" 0,
    .act "b" (.reconnect ⟨"alice", "conn-3", "channel", "conn-1", "conn-2", true⟩ "call" false false), .deliver "a" "b" 1]

theorem reached_of_comesBackTwice :
    ∃ state, roamingCluster.run? (.idle, .unseen) comesBackTwice = some state ∧
      state.2.handler? "conn-1" = some "a" ∧ state.2.current? "conn-1" = some "conn-3" ∧
      (∃ us, (state.1.nodes "a").GetsByOriginalID "conn-1" us) ∧
      ∀ us, (state.1.nodes "a").GetsByOriginalID "conn-1" us → us.connID = "conn-3" := by
  have ended : (roamingCluster.run? (.idle, .unseen) comesBackTwice).any (fun state =>
      state.2.handler? "conn-1" = some "a" ∧ state.2.current? "conn-1" = some "conn-3" ∧
        (state.1.nodes "a").objects.all (·.removed = false) = true ∧
        ∀ senderID ∈ ["a", "b"], ∀ number < (state.1.nodes senderID).sent.length,
          state.1.pending? "a" senderID number = none) = true := by decide +kernel
  obtain ⟨state, ran, facts⟩ := (Option.any_eq_true _ _).mp ended
  obtain ⟨handler, current, unremoved, handled⟩ := of_decide_eq_true facts
  have meets : roamingCluster.MeetsAlong (fun state label => Honest state label ∧ Steady state label) (.idle, .unseen)
      comesBackTwice :=
    .of_check (by decide +kernel : roamingCluster.checkAlong (fun state label => honest state label && steady state label)
      (.idle, .unseen) comesBackTwice = true) fun state label _ checked => by
        obtain ⟨isHonest, isSteady⟩ := Bool.and_eq_true_iff.mp checked
        exact ⟨honest_sound state label isHonest, steady_sound state label isSteady⟩
  have start : (roamingCluster.restrict fun state label => Honest state label ∧ Steady state label).Reachable
      (.idle, .unseen) := .init ⟨rfl, rfl⟩
  have alive : (state.1.nodes "a").Alive "conn-1" := fun us object found _ =>
    of_decide_eq_true (List.all_eq_true.mp unremoved object (List.mem_of_getElem? found))
  have settled : Settled state.1 state.2 "a" "conn-1" := by
    refine .of_run ran ["a", "b"] ?_ handled
    simp [comesBackTwice]
  obtain ⟨some, all⟩ := reached_of_steady state (start.restrict_run meets ran) "conn-1" "a" "conn-3" handler current alive
    settled
  exact ⟨state, ran, handler, current, some, all⟩

/-- After the second reconnection through another node, the node of the RTC side
still writes to the connection of the first. -/
theorem not_reached :
    ¬ ∀ state, (roamingCluster.restrict Honest).Reachable state → ∀ sessionID, Reached state.1 state.2 sessionID := by
  intro reached
  let labels : List RecordsClusterStep :=
    [.act "a" aliceIsAdded, .act "b" aliceComesBack, .deliver "a" "b" 0,
      .act "b" (.reconnect ⟨"alice", "conn-3", "channel", "conn-1", "conn-2", true⟩ "call" false false), .deliver "a" "b" 1]
  have ended : (roamingCluster.run? (.idle, .unseen) labels).any (fun state =>
      state.2.handler? "conn-1" = some "a" ∧ state.2.current? "conn-1" = some "conn-3" ∧
        (state.1.nodes "a").objects.all (·.removed = false) = true ∧
        ((state.1.nodes "a").at? "conn-1").map (·.connID) = some "conn-2" ∧
        ∀ senderID ∈ ["a", "b"], ∀ number < (state.1.nodes senderID).sent.length,
          state.1.pending? "a" senderID number = none) = true := by decide +kernel
  obtain ⟨state, ran, facts⟩ := (Option.any_eq_true _ _).mp ended
  obtain ⟨handler, current, unremoved, object?, handled⟩ := of_decide_eq_true facts
  obtain ⟨us, found, stale⟩ := Option.map_eq_some_iff.mp object?
  have meets : roamingCluster.MeetsAlong Honest (.idle, .unseen) labels :=
    .of_check (by decide +kernel : roamingCluster.checkAlong honest (.idle, .unseen) labels = true)
      fun state label _ => honest_sound state label
  have start : (roamingCluster.restrict Honest).Reachable (.idle, .unseen) := .init ⟨rfl, rfl⟩
  have alive : (state.1.nodes "a").Alive "conn-1" := fun us object found _ =>
    of_decide_eq_true (List.all_eq_true.mp unremoved object (List.mem_of_getElem? found))
  have settled : Settled state.1 state.2 "a" "conn-1" := by
    refine .of_run ran ["a", "b"] ?_ handled
    simp [labels]
  obtain ⟨_, all⟩ := reached state (start.restrict_run meets ran) "conn-1" "a" "conn-3" handler current alive settled
  have named := all us (.inl found)
  rw [stale] at named
  exact absurd named (by decide)

end Calls
