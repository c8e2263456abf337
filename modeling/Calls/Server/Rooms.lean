import Calls.Server.MessageRuns
import Calls.Server.News

/-! Rooms: all that sessions do together with the requests about jobs, which let the
bot in. A step on a store that works changes at most one call, and tells of it. -/

set_option autoImplicit false

namespace Calls

open LockedHandler Command

inductive RoomStep where
  | traffic (step : TrafficStep)
  | jobs (env : Env) (channelID : String) (request : JobRequest)

def TrafficStep.authentic (ids : Identities) : TrafficStep → Bool
  | .call step => step.authentic ids
  | step => step.env?.all fun env => env.botID = ids.botID

theorem TrafficStep.botID_of_authentic {ids : Identities} {step : TrafficStep} {env : Env} (authentic : step.authentic ids = true)
    (timed : step.env? = some env) : env.botID = ids.botID := by
  cases step with
  | call step =>
    have known : step.env? = some env := timed
    simp only [TrafficStep.authentic, CallStep.authentic, known, Option.all_some, Bool.and_eq_true, decide_eq_true_eq] at authentic
    exact authentic.1
  | screen | mute | hand =>
    cases timed
    exact of_decide_eq_true authentic

/-- What the handler of a message finds, and the channel of the message. -/
def TrafficStep.message? : TrafficStep → Option (Env × String)
  | .call (.operation _) => none
  | .call (.changeHost env _ channelID _) => some (env, channelID)
  | .call (.video env us _ _ _) | .screen env us _ _ | .mute env us _ _ _ | .hand env us _ => some (env, us.channelID)

theorem TrafficStep.env?_of_message {step : TrafficStep} {env : Env} {channelID : String}
    (message : step.message? = some (env, channelID)) : step.env? = some env := by
  cases step with
  | call step => cases step <;> cases message <;> rfl
  | screen | mute | hand => cases message; rfl

def RoomStep.authentic (ids : Identities) : RoomStep → Bool
  | .traffic step => step.authentic ids
  | .jobs env _ _ => env.botID = ids.botID

def Operations.room? (ops : Operations) : RoomStep → Option Operations
  | .traffic step => ops.traffic? step
  | .jobs env channelID request => ops.request channelID (request.handle env channelID)

def rooms (ids : Identities) : System Operations RoomStep where
  init ops := ops = .idle
  next? ops step := if step.authentic ids then ops.room? step else none

theorem rooms_taken {ids : Identities} {ops after : Operations} {step : RoomStep} (taken : (rooms ids).next? ops step = some after) :
    step.authentic ids = true ∧ ops.room? step = some after := by
  unfold rooms at taken
  dsimp only at taken
  split at taken
  · next authentic => exact ⟨authentic, taken⟩
  · cases taken

/-- Every store operation of what a session does succeeds. -/
def RoomServes (ops : Operations) : RoomStep → Prop
  | .traffic step => TrafficServes ops step
  | .jobs _ _ _ => True

/-! ### Messages -/

/-- What a message makes of the call that was loaded for it, and the event that says so. -/
inductive MessageChange : TrafficStep → CallState → CallView → Option WsEvent → Prop where
  | mute {env : Env} {us : UserSession} {msg : MuteMessage} {handlerID : String} {rtcSends : Bool} {cs : CallState}
      {session : CallSession} :
      cs.sessions.find? us.originalConnID = some session →
      MessageChange (.mute env us msg handlerID rtcSends) cs
        ⟨cs.call.apartFromPost, cs.sessions.modify us.originalConnID (·.updatedFrom (msg.change session))
          fun row => row.updatedFrom_id _⟩ (some (msg.event us))
  | hand {env : Env} {us : UserSession} {msg : HandMessage} {cs : CallState} {session : CallSession} :
      cs.sessions.find? us.originalConnID = some session →
      MessageChange (.hand env us msg) cs
        ⟨cs.call.apartFromPost, cs.sessions.modify us.originalConnID (·.updatedFrom (msg.change env session))
          fun row => row.updatedFrom_id _⟩ (some (msg.event us (msg.change env session).raisedHand))
  | video {env : Env} {us : UserSession} {msg : VideoMessage} {handlerID : String} {rtcSends : Bool} {cs : CallState}
      {session : CallSession} :
      cs.sessions.find? us.originalConnID = some session →
      MessageChange (.call (.video env us msg handlerID rtcSends)) cs
        ⟨(cs.call.toggleVideo env.now us.originalConnID msg).apartFromPost,
          cs.sessions.modify us.originalConnID (·.updatedFrom { session with video := msg = .on })
            fun row => row.updatedFrom_id _⟩ (some (msg.event us))
  | screen {env : Env} {us : UserSession} {msg : ScreenMessage} {handlerID : String} {cs : CallState} {call : Call} :
      cs.call.toggleScreen env.now us.originalConnID msg = .ok call →
      ¬ (handlerID ≠ env.nodeID ∧ env.clusterSendFails = true) →
      MessageChange (.screen env us msg handlerID) cs ⟨call.apartFromPost, cs.sessions⟩ (some (msg.event us))
  | unsentScreen {env : Env} {us : UserSession} {msg : ScreenMessage} {handlerID : String} {cs : CallState} {call : Call} :
      cs.call.toggleScreen env.now us.originalConnID msg = .ok call →
      handlerID ≠ env.nodeID ∧ env.clusterSendFails = true →
      MessageChange (.screen env us msg handlerID) cs ⟨call.apartFromPost, cs.sessions⟩ none
  | host {env : Env} {requesterID channelID newHostID : String} {cs : CallState} {call : Call} :
      cs.call.changeHost env requesterID newHostID cs.sessions = .ok call → cs.call.getHostID ≠ newHostID →
      MessageChange (.call (.changeHost env requesterID channelID newHostID)) cs ⟨call.apartFromPost, cs.sessions⟩
        (some (.callHostChanged newHostID cs.call.id))
  | hostLocked {env : Env} {requesterID channelID newHostID : String} {cs : CallState} {call : Call} :
      cs.call.changeHost env requesterID newHostID cs.sessions = .ok call → cs.call.getHostID = newHostID →
      MessageChange (.call (.changeHost env requesterID channelID newHostID)) cs ⟨call.apartFromPost, cs.sessions⟩ none

/-- What an event to the participants of a call is told as. -/
def participantNews (botID channelID : String) (cs : CallState) : Option WsEvent → List Delivery
  | none => []
  | some ev => publishWebSocketEvent botID ev (cs.toParticipants channelID)

/-- Everything a message can do on a store that works. -/
inductive MessageEffect (step : TrafficStep) (botID channelID : String) (before : World) : World → Prop where
  | refused : MessageEffect step botID channelID before before
  | done {cs : CallState} {view : CallView} {ev : Option WsEvent} {after : World} :
      before.store.Loads channelID (some cs) → MessageChange step cs view ev →
      before.store.ChangesCall cs.call.id after.store view → Tells before (participantNews botID channelID cs ev) after →
      MessageEffect step botID channelID before after

section
variable {env : Env} {before : World} {ops : Operations}

theorem Store.Loads.sessionSaved {store : Store} {channelID sessionID : String} {cs : CallState}
    {session changed : CallSession} (loads : store.Loads channelID (some cs)) (jobs : store.JobsValid)
    (found : cs.sessions.find? sessionID = some session) (sameID : changed.id = session.id) :
    (store.saveSession changed).callSessions cs.call.id =
        cs.sessions.modify sessionID (·.updatedFrom changed) (fun row => row.updatedFrom_id changed) ∧
      ∀ other, other ≠ cs.call.id → (store.saveSession changed).callSessions other = store.callSessions other := by
  obtain ⟨mirrored, -⟩ := loads.mirrored jobs
  obtain ⟨member, rfl⟩ := KeyedTable.find?_eq_some_iff.mp found
  exact mirrored.saveSession member sameID

/-- Saving a session that was loaded changes its call, and no other. -/
theorem Store.Loads.saveSession {store : Store} {channelID sessionID : String} {cs : CallState} {session changed : CallSession}
    (loads : store.Loads channelID (some cs)) (jobs : store.JobsValid) (found : cs.sessions.find? sessionID = some session)
    (sameID : changed.id = session.id) :
    store.ChangesCall cs.call.id (store.saveSession changed)
      ⟨cs.call.apartFromPost, cs.sessions.modify sessionID (·.updatedFrom changed) fun row => row.updatedFrom_id _⟩ := by
  obtain ⟨row, stored, same⟩ := (loads.mirrored jobs).1.row
  obtain ⟨here, elsewhere⟩ := loads.sessionSaved jobs found sameID
  refine ⟨Store.callView?_eq_some_iff.mpr ⟨row, stored, ?_⟩, fun other different => ?_⟩
  · rw [here, same]
  · exact Store.callView?_congr rfl (elsewhere other different)

/-- Saving the call that was loaded. -/
theorem Store.Loads.saveCall {store : Store} {channelID : String} {cs : CallState} {call : Call}
    (loads : store.Loads channelID (some cs)) (jobs : store.JobsValid) (identity : call.identity = cs.call.identity) :
    store.ChangesCall cs.call.id (store.saveCall call) ⟨call.apartFromPost, cs.sessions⟩ := by
  obtain ⟨mirrored, -⟩ := loads.mirrored jobs
  exact mirrored.save identity rfl mirrored.sessions fun _ _ => rfl

theorem UpdateEffect.message {us : UserSession} {change : CallSession → CallSession} {event : CallSession → WsEvent}
    {step : TrafficStep} {after : World} (effect : UpdateEffect env us change event before after)
    (jobs : before.store.JobsValid) (sameID : ∀ session, (change session).id = session.id)
    (tells : ∀ session, (event session).tellsOfCall = true)
    (changes : ∀ cs session, cs.sessions.find? us.originalConnID = some session → MessageChange step cs
      ⟨cs.call.apartFromPost, cs.sessions.modify us.originalConnID (·.updatedFrom (change session))
        fun row => row.updatedFrom_id _⟩ (some (event (change session)))) :
    MessageEffect step env.botID us.channelID before after := by
  cases effect with
  | refused => exact .refused
  | updated loads found =>
    exact .done loads (changes _ _ found) (loads.saveSession jobs found (sameID _))
      ((Handler.publish_tells env _ before (tells _)).2.congr rfl)

/-- A handler that needs an ongoing call does nothing, or goes on with the call that it has loaded. -/
theorem wp_loaded {channelID missing : String} {change : String → String} {body : CallState → Handler Unit}
    {post : Except String Unit → World → Prop} (refused : ∀ err, post (.error err) before)
    (loaded : ∀ cs, before.store.Loads channelID (some cs) → (body cs).wp post before) :
    ((lockCallReturnState env channelID).mapError change >>= fun state =>
      match state with
      | none => .throw missing
      | some cs => body cs).wp post before := by
  rw [wp_bind, wp_mapError]
  refine wp_mono (lockCallReturnState_spec env channelID before) ?_
  intro result world effect
  obtain ⟨rfl, ⟨⟨err, rfl⟩, -⟩ | ⟨state, rfl, loads, -⟩⟩ := effect
  · exact refused _
  · cases state with
    | none => exact refused _
    | some cs => exact loaded cs loads

theorem handleClientMessageTypeScreen_message (us : UserSession) (msg : ScreenMessage) (handlerID : String)
    (jobs : before.store.JobsValid) :
    (handleClientMessageTypeScreen env us msg handlerID).wp (fun _ after =>
      MessageEffect (.screen env us msg handlerID) env.botID us.channelID before after) before := by
  unfold handleClientMessageTypeScreen
  rw [wp_ite]
  refine ⟨fun _ => .refused, fun _ => wp_loaded (fun _ => .refused) fun cs loads => ?_⟩
  cases accepted : cs.call.toggleScreen env.now us.originalConnID msg with
  | error err => exact .refused
  | ok call =>
    have changes := loads.saveCall jobs (Call.toggleScreen_identity accepted).1
    dsimp only
    rw [wp_bind, wp_mapError, Handler.onStore, wp_zoom]
    refine Store.wp_updateCall (fun err => .refused) fun _ _ => ?_
    dsimp only [Except.mapError]
    rw [andThen_ok, wp_bind, wp_throwIf]
    constructor
    · intro unsent
      exact .done loads (.unsentScreen accepted unsent) changes (.nothing rfl)
    · intro sent
      rw [andThen_ok]
      refine .done loads (.screen accepted sent) changes ((Handler.publish_tells env _ _ ?_).2.congr rfl)
      cases msg <;> rfl

theorem handleClientMessageTypeVideo_message (works : env.StoreWorks) (us : UserSession) (msg : VideoMessage)
    (handlerID : String) (rtcSends : Bool) (valid : before.store.CallsValid) (jobs : before.store.JobsValid) :
    (handleClientMessageTypeVideo env us msg handlerID rtcSends).wp (fun _ after =>
      MessageEffect (.call (.video env us msg handlerID rtcSends)) env.botID us.channelID before after) before := by
  unfold handleClientMessageTypeVideo
  rw [wp_ite]
  refine ⟨fun _ => .refused, fun _ => ?_⟩
  rw [wp_ite]
  refine ⟨fun _ => .refused, fun _ => wp_loaded (fun _ => .refused) fun cs loads => ?_⟩
  cases found : cs.sessions.find? us.originalConnID with
  | none => exact .refused
  | some session =>
    dsimp only
    rw [wp_bind, wp_mapError, Handler.onStore, wp_zoom]
    refine Store.wp_updateCallSession (fun err => .refused) fun _ _ => ?_
    dsimp only [Except.mapError]
    rw [andThen_ok, wp_bind, wp_mapError, Handler.onStore, wp_zoom]
    have identity := (Call.toggleVideo_identity env.now us.originalConnID cs.call msg).1
    have callValid : (cs.call.toggleVideo env.now us.originalConnID msg).isValid = .ok () :=
      (Call.isValid_congr identity).trans (valid cs.call (Store.activeCall?_eq_some loads.1).1)
    rw [Command.wp, Store.updateCall_run callValid (works _)]
    dsimp only [Except.mapError]
    rw [andThen_ok]
    obtain ⟨mirrored, -⟩ := loads.mirrored jobs
    have sameID : ({ session with video := msg = .on } : CallSession).id = session.id := rfl
    obtain ⟨here, elsewhere⟩ := loads.sessionSaved jobs found sameID
    refine .done loads (.video found) (mirrored.save identity rfl here elsewhere)
      ((Handler.publish_tells env _ _ ?_).2.congr rfl)
    cases msg <;> rfl

theorem changeHost_message (requesterID channelID newHostID : String) (jobs : before.store.JobsValid) :
    (changeHost env requesterID channelID newHostID).wp (fun _ after =>
      MessageEffect (.call (.changeHost env requesterID channelID newHostID)) env.botID channelID before after) before := by
  refine wp_loaded (fun _ => .refused) fun cs loads => ?_
  cases accepted : cs.call.changeHost env requesterID newHostID cs.sessions with
  | error err => exact .refused
  | ok call =>
    have changes := loads.saveCall jobs (Call.changeHost_identity accepted).1
    dsimp only
    rw [wp_bind, wp_when]
    constructor
    · intro writes
      rw [wp_mapError, Handler.onStore, wp_zoom]
      refine Store.wp_updateCall (fun err => .refused) fun _ _ => ?_
      dsimp only [Except.mapError]
      rw [andThen_ok, wp_when]
      constructor
      · intro changed
        exact .done loads (.host accepted changed) changes ((Handler.publish_tells env _ _ rfl).2.congr rfl)
      · intro same
        exact .done loads (.hostLocked accepted (not_not.mp same)) changes (.nothing rfl)
    · intro locked
      rw [andThen_ok, wp_when]
      exact ⟨fun changed => absurd (.inl changed) locked, fun _ => .refused⟩

end

/-! ### Steps -/

/-- A batch that is held was held before, or has just loaded its state. -/
def HoldsOn (ops after : Operations) : Prop :=
  ∀ channelID batch, after.held.get? channelID = some batch →
    ops.held.get? channelID = some batch ∨ ops.world.store.Loads channelID batch.state

/-- What a step does, on a store that works: it leaves every call as it is, or changes one. -/
inductive RoomEffect (ops : Operations) : RoomStep → Operations → Prop where
  | quiet {step : RoomStep} {after : Operations} :
      (∀ callID, after.world.store.callView? callID = ops.world.store.callView? callID) →
      Tells ops.world [] after.world → HoldsOn ops after → RoomEffect ops step after
  | entered {env : Env} {channelID : String} {req : JoinRequest} {state : Option CallState} {base joined : CallState}
      {world : World} :
      ops.batch? channelID .joining = some state →
      EntersCall env channelID state req ops.world.store world.store base joined →
      Tells ops.world (joinNews env channelID req state joined) world →
      RoomEffect ops (.traffic (.call (.operation (.join env channelID req))))
        (ops.holdBatch channelID .joining (some joined) world)
  | left {env : Env} {channelID : String} {ref : SessionRef} {held next : CallState} {us : CallSession} {world : World} :
      ops.batch? channelID .leaving = some (some held) → held.sessions.find? ref.originalConnID = some us →
      next.sessions = held.sessions.erase ref.originalConnID → next.call = held.call.afterLeave env ref us next.sessions →
      ops.world.store.ChangesCall held.call.id world.store next.view →
      Tells ops.world (leaveNews env channelID ref us held) world →
      RoomEffect ops (.traffic (.call (.operation (.leave env channelID ref))))
        (ops.holdBatch channelID .leaving (some next) world)
  | messaged {step : TrafficStep} {env : Env} {channelID : String} {cs : CallState} {view : CallView} {ev : Option WsEvent}
      {world : World} :
      ops.held.contains channelID = false → step.message? = some (env, channelID) → ops.world.store.Loads channelID (some cs) →
      MessageChange step cs view ev → ops.world.store.ChangesCall cs.call.id world.store view →
      Tells ops.world (participantNews env.botID channelID cs ev) world →
      RoomEffect ops (.traffic step) { ops with world }

section
variable {ops after : Operations}

theorem HoldsOn.same {world : World} : HoldsOn ops { ops with world } := fun _ _ found => .inl found

theorem HoldsOn.hold {channelID : String} {kind : BatchKind} {state : Option CallState} {world : World}
    (known : ops.held.get? channelID = some ⟨kind, state⟩ ∨ ops.world.store.Loads channelID state) :
    HoldsOn ops (ops.holdBatch channelID kind state world) := by
  intro other batch found
  rcases Operations.holdBatch_cases found with ⟨here, rfl⟩ | ⟨-, found⟩
  · rw [here]
    exact known
  · exact .inl found

theorem MessageEffect.room {step : TrafficStep} {env : Env} {channelID : String} {world : World}
    (effect : MessageEffect step env.botID channelID ops.world world) (free : ops.held.contains channelID = false)
    (message : step.message? = some (env, channelID)) : RoomEffect ops (.traffic step) { ops with world } := by
  cases effect with
  | refused => exact .quiet (fun _ => rfl) (.nothing rfl) .same
  | done loads change changes told => exact .messaged free message loads change changes told

theorem JoinTold.room {env : Env} {channelID : String} {req : JoinRequest} {state next : Option CallState} {world : World}
    (inv : Mirrored ops) (serves : StoreServes ops (.operation (.join env channelID req)))
    (running : ops.batch? channelID .joining = some state)
    (told : JoinTold env channelID req state ops.world next world) :
    RoomEffect ops (.traffic (.call (.operation (.join env channelID req)))) (ops.holdBatch channelID .joining next world) := by
  have found := Operations.batch?_eq_some running
  have mirrored := fun cs held => inv.held _ _ cs found held
  cases told with
  | refused effect told =>
    obtain ⟨calls, sessions⟩ := effect.unchanged (serves.works env rfl) (serves.free env channelID req state rfl running)
    exact .quiet (fun _ => Store.callView?_congr calls (Store.callSessions_congr sessions _)) told (.hold (.inl found))
  | joined effect later told =>
    obtain ⟨base, enters⟩ := effect.enters later inv.valid inv.sessions mirrored
    exact .entered running enters told
  | started effect first changed same wrote told =>
    obtain ⟨base, enters⟩ := effect.announced first changed same wrote inv.valid inv.sessions mirrored
    exact .entered running enters told

theorem LeaveTold.room {env : Env} {channelID : String} {ref : SessionRef} {state next : Option CallState} {world : World}
    (inv : Mirrored ops) (running : ops.batch? channelID .leaving = some state)
    (told : LeaveTold env channelID ref ops.world state next world) :
    RoomEffect ops (.traffic (.call (.operation (.leave env channelID ref)))) (ops.holdBatch channelID .leaving next world) := by
  have found := Operations.batch?_eq_some running
  cases told with
  | nothing => exact .quiet (fun _ => rfl) (.nothing rfl) (.hold (.inl found))
  | left present deleted wrote call told =>
    exact .left running present deleted.memory call ((inv.held _ _ _ found rfl).left present deleted wrote call) told

/-- Everything a step of a room can do. -/
theorem Operations.room?_effect {step : RoomStep} (inv : Mirrored ops) (serves : RoomServes ops step)
    (taken : ops.room? step = some after) : RoomEffect ops step after := by
  cases step with
  | jobs env channelID request =>
    obtain ⟨free, rfl⟩ := Operations.request_eq_some taken
    obtain ⟨-, calls, sessions, -⟩ := request.handle_spec env channelID ops.world inv.jobs
    exact .quiet (fun _ => Store.callView?_congr calls (Store.callSessions_congr sessions _))
      (request.handle_tells env channelID ops.world) .same
  | traffic step =>
    cases step with
    | screen env us msg handlerID =>
      obtain ⟨free, rfl⟩ := Operations.request_eq_some taken
      have effect : MessageEffect (.screen env us msg handlerID) env.botID us.channelID ops.world _ :=
        handleClientMessageTypeScreen_message us msg handlerID inv.jobs
      exact effect.room free rfl
    | mute env us msg handlerID rtcSends =>
      obtain ⟨free, rfl⟩ := Operations.request_eq_some taken
      have effect := handleClientMessageTypeMute_spec env us msg handlerID rtcSends ops.world
      refine (effect.message inv.jobs (fun _ => rfl) (fun _ => ?_) fun _ _ found => .mute found).room free rfl
      cases msg <;> rfl
    | hand env us msg =>
      obtain ⟨free, rfl⟩ := Operations.request_eq_some taken
      have effect := handleClientMessageTypeHand_spec env us msg ops.world
      refine (effect.message inv.jobs (fun _ => rfl) (fun _ => ?_) fun _ _ found => .hand found).room free rfl
      cases msg <;> rfl
    | call step =>
      cases step with
      | changeHost env requesterID channelID newHostID =>
        obtain ⟨free, rfl⟩ := Operations.request_eq_some taken
        have effect : MessageEffect (.call (.changeHost env requesterID channelID newHostID)) env.botID channelID ops.world _ :=
          changeHost_message requesterID channelID newHostID inv.jobs
        exact effect.room free rfl
      | video env us msg handlerID rtcSends =>
        obtain ⟨free, rfl⟩ := Operations.request_eq_some taken
        have effect := handleClientMessageTypeVideo_message (serves.works env rfl) us msg handlerID rtcSends inv.valid inv.jobs
        exact effect.room free rfl
      | operation step =>
        cases step with
        | lock env channelID kind =>
          have effect : ops.Effect (.lock env channelID kind) after := Operations.next?_effect taken
          cases effect with
          | notLocked => exact .quiet (fun _ => rfl) (.nothing rfl) .same
          | locked free loads => exact .quiet (fun _ => rfl) (.nothing rfl) (.hold (.inr loads))
        | join env channelID req =>
          obtain ⟨state, next, world, running, told, rfl⟩ :=
            Operations.runItem_eq_some (fun state => addSessionToCall_tells env channelID req state ops.world) taken
          exact told.room inv serves running
        | leave env channelID ref =>
          obtain ⟨state, next, world, running, told, rfl⟩ := Operations.runItem_eq_some
            (fun state => removeSessionFromCall_tells channelID (serves.works env rfl) state ref ops.world) taken
          have found := Operations.batch?_eq_some running
          have mirrored := fun cs held => inv.held _ _ cs found held
          exact (told fun cs held => ⟨(mirrored cs held).valid inv.valid, (mirrored cs held).jobs⟩).room inv running
        | unlock channelID =>
          cases taken
          refine .quiet (fun _ => rfl) (.nothing rfl) fun other batch found => ?_
          rw [StringMap.get?_erase] at found
          split at found
          · cases found
          · exact .inl found

end

end Calls
