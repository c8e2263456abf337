import Calls.Library.Json
import Calls.Server.CallViews
import Calls.Server.Sharer

/-! What a message about a screen leaves behind when it fails on the way: the call is
saved before the node that handles the session is told. -/

set_option autoImplicit false

namespace Calls

open Command

/-- A message of a client, with the data that came with it. -/
structure ClientMessage where
  type : ScreenMessage
  data : List UInt8

/-- The data goes into the message for the other node as it is, and is left out if empty. -/
def ClientMessage.encodable (msg : ClientMessage) : Bool := msg.data = [] ∨ Json.valid msg.data

/-- `sendClusterMessage` fails to encode a message or to publish it. -/
def Env.sending (env : Env) (msg : ClientMessage) : Env :=
  { env with clusterSendFails := env.clusterSendFails || !msg.encodable }

/-- Nothing is written where the handler fails, and the participants are told of every change of
who shares the screen. -/
structure ScreenAtomic (env : Env) (us : UserSession) (msg : ClientMessage) (handlerID : String) (world : World) : Prop where
  failed : ∀ err, (handleClientMessageTypeScreen (env.sending msg) us msg.type handlerID world).1 = .error err →
    (handleClientMessageTypeScreen (env.sending msg) us msg.type handlerID world).2.store.calls = world.store.calls
  told : ∀ before ∈ world.store.calls,
    ∀ after ∈ (handleClientMessageTypeScreen (env.sending msg) us msg.type handlerID world).2.store.calls,
      after.id = before.id → after.sharer ≠ before.sharer →
        (handleClientMessageTypeScreen (env.sending msg) us msg.type handlerID world).2.published =
          world.published ++ publishWebSocketEvent env.botID
            (if after.sharer = "" then .userScreenOff (some us.userID) (some us.originalConnID)
              else .userScreenOn us.userID us.originalConnID)
            { channelID := us.channelID, reliableClusterSend := true,
              userIDs := getUserIDsFromSessions (world.store.callSessions before.id) }

theorem Call.toggleScreen_free {now : Instant} {sessionID : String} {call toggled : Call}
    (accepted : call.toggleScreen now sessionID .on = .ok toggled) : call.sharer = "" := by
  by_contra shared
  have taken : call.props.screenSharingSessionID ≠ "" := shared
  simp [toggleScreen, taken] at accepted

theorem lockCallReturnState_run {env : Env} {channelID : String} {cs : CallState} {world : World}
    (serves : env.Serves channelID cs.call.id) (loads : world.store.Loads channelID (some cs)) :
    lockCallReturnState env channelID world = (.ok (some cs), world) := by
  obtain ⟨locks, finds, sessions, jobs⟩ := serves
  obtain ⟨found, members, active⟩ := loads
  have state : getCallStateFromCall env cs.call world.store = (.ok cs, world.store) := by
    have recording := active .recording
    have transcription := active .transcribing
    have liveCaptions := active .captioning
    cases cs
    simp_all [getCallStateFromCall, Store.getCallSessions, Store.getActiveCallJobs, Store.guarded, bind_run, mapError,
      CallState.job?]
  have call : getCallState env channelID world.store = (.ok (some cs), world.store) := by
    simp [getCallState, Store.getActiveCallByChannelID, Store.guarded, bind_run, mapError, finds, found, state]
  simp [lockCallReturnState, locks, Handler.onStore, zoom, mapError, call]

section
variable {env : Env} {us : UserSession} {msg : ScreenMessage} {handlerID : String} {world : World} {cs : CallState}
  {toggled : Call}

/-- What the handler does once the message is accepted and the call saved. -/
theorem Toggles.run (toggles : Toggles env us msg world.store cs toggled) :
    handleClientMessageTypeScreen env us msg handlerID world =
      if handlerID ≠ env.nodeID ∧ env.clusterSendFails = true then
        (.error "failed to send cluster message", { world with store := world.store.saveCall toggled })
      else
        (.ok (),
          { world with
            store := world.store.saveCall toggled
            published := world.published ++
              publishWebSocketEvent env.botID (msg.event us) (cs.toParticipants us.channelID) }) := by
  have locked := lockCallReturnState_run toggles.serves toggles.loads
  have saved : Handler.onStore (Store.updateCall env.faults toggled) world =
      (.ok (), { world with store := world.store.saveCall toggled }) := by
    rw [Handler.onStore, zoom, Store.updateCall_run toggles.valid toggles.saves]
  unfold handleClientMessageTypeScreen
  rw [if_neg (not_not.mpr toggles.allowed), bind_run, mapError, locked]
  simp only [toggles.accepted]
  rw [bind_run, mapError, saved]
  dsimp only
  by_cases stranded : handlerID ≠ env.nodeID ∧ env.clusterSendFails = true
  · rw [if_pos stranded, bind_run, throwIf, if_pos stranded, throw_run]
  · rw [if_neg stranded, bind_run, throwIf, if_neg stranded]
    rfl

/-- Whoever shared the screen before, it is somebody else afterwards. -/
theorem Toggles.sharer_ne (toggles : Toggles env us msg world.store cs toggled) (named : us.originalConnID ≠ "") :
    toggled.sharer ≠ cs.call.sharer := by
  obtain ⟨-, on, off⟩ := Call.toggleScreen_host toggles.accepted
  cases msg with
  | on =>
    have taken : toggled.sharer = us.originalConnID := on rfl
    rwa [taken, Call.toggleScreen_free toggles.accepted]
  | off =>
    obtain ⟨before, after⟩ := off rfl
    have ended : toggled.sharer = "" := after
    have shared : cs.call.sharer = us.originalConnID := before
    rw [ended, shared]
    exact named.symm

/-- The event that is published fits the sharer that is saved. -/
theorem Toggles.event (toggles : Toggles env us msg world.store cs toggled) (changed : toggled.sharer ≠ cs.call.sharer) :
    msg.event us = if toggled.sharer = "" then .userScreenOff (some us.userID) (some us.originalConnID)
      else .userScreenOn us.userID us.originalConnID := by
  cases msg with
  | on =>
    have shared : toggled.sharer ≠ "" := fun ended =>
      changed (ended.trans (Call.toggleScreen_free toggles.accepted).symm)
    rw [if_neg shared]
    rfl
  | off =>
    have ended : toggled.sharer = "" := ((Call.toggleScreen_host toggles.accepted).2.2 rfl).2
    rw [if_pos ended]
    rfl

end

/-- The message is accepted and the call saved, and then the other node cannot be told. -/
def Strands (env : Env) (us : UserSession) (msg : ClientMessage) (handlerID : String) (store : Store) : Prop :=
  handlerID ≠ env.nodeID ∧ (env.clusterSendFails = true ∨ msg.encodable = false) ∧
    ∃ cs toggled, Toggles env us msg.type store cs toggled

theorem toggles_sending {env : Env} {us : UserSession} {msg : ClientMessage} {store : Store} {cs : CallState} {toggled : Call} :
    Toggles (env.sending msg) us msg.type store cs toggled ↔ Toggles env us msg.type store cs toggled := by
  constructor <;>
  · intro toggles
    obtain ⟨allowed, loads, ⟨locks, finds, sessions, jobs⟩, accepted, valid, saves⟩ := toggles
    exact ⟨allowed, loads, ⟨locks, finds, sessions, jobs⟩, accepted, valid, saves⟩

section
variable {env : Env} {us : UserSession} {msg : ClientMessage} {handlerID : String} {world : World}

theorem Strands.not_screenAtomic (strands : Strands env us msg handlerID world.store) (named : us.originalConnID ≠ "") :
    ¬ ScreenAtomic env us msg handlerID world := by
  obtain ⟨elsewhere, fails, cs, toggled, toggles⟩ := strands
  have toggles := toggles_sending.mpr toggles
  have sends : (env.sending msg).clusterSendFails = true := by
    obtain fails | broken := fails <;> simp [Env.sending, *]
  have ran : handleClientMessageTypeScreen (env.sending msg) us msg.type handlerID world = _ := toggles.run
  rw [if_pos ⟨elsewhere, sends⟩] at ran
  intro atomic
  have kept := atomic.failed
  rw [ran] at kept
  have kept := kept _ rfl
  obtain ⟨member, -⟩ := Store.activeCall?_eq_some toggles.loads.1
  have identity := (Call.toggleScreen_identity toggles.accepted).1
  have stored := KeyedTable.find?_self member
  have saved : (world.store.saveCall toggled).calls.find? toggled.id = some toggled :=
    Store.find?_saveCall_self (by rw [Call.id_eq_of_identity identity]; exact stored) identity.symm
  rw [kept, Call.id_eq_of_identity identity, stored] at saved
  exact toggles.sharer_ne named (congrArg Call.sharer (Option.some.inj saved)).symm

/-- The handler is atomic unless it saves the call and then fails to tell the other node. -/
theorem screenAtomic_iff (named : us.originalConnID ≠ "") :
    ScreenAtomic env us msg handlerID world ↔ ¬ Strands env us msg handlerID world.store := by
  constructor
  · exact fun atomic strands => strands.not_screenAtomic named atomic
  intro fine
  by_cases accepted : ∃ cs toggled, Toggles env us msg.type world.store cs toggled
  · obtain ⟨cs, toggled, toggles⟩ := accepted
    have forwarded : ¬ (handlerID ≠ (env.sending msg).nodeID ∧ (env.sending msg).clusterSendFails = true) := by
      intro forwarded
      obtain ⟨elsewhere, sends⟩ := forwarded
      refine fine ⟨elsewhere, ?_, cs, toggled, toggles⟩
      simpa [Env.sending] using sends
    have toggles := toggles_sending.mpr toggles
    have ran : handleClientMessageTypeScreen (env.sending msg) us msg.type handlerID world = _ := toggles.run
    rw [if_neg forwarded] at ran
    constructor
    · intro err failed
      rw [ran] at failed
      cases failed
    · rw [ran]
      intro before member after saved same changed
      obtain ⟨callMember, -⟩ := Store.activeCall?_eq_some toggles.loads.1
      have identity := (Call.toggleScreen_identity toggles.accepted).1
      rcases Store.mem_saveCall.mp saved with ⟨old, other⟩ | ⟨previous, old, hit, rfl⟩
      · exact absurd (congrArg Call.sharer (KeyedTable.eq_of_key_eq old member same)) changed
      · obtain rfl := KeyedTable.eq_of_key_eq old member same
        obtain rfl := KeyedTable.eq_of_key_eq old callMember (hit.trans (Call.id_eq_of_identity identity))
        rw [toggles.event changed, CallState.toParticipants, toggles.loads.2.1]
        rfl
  · have effect := handleClientMessageTypeScreen_spec (env.sending msg) us msg.type handlerID world
    have kept : (handleClientMessageTypeScreen (env.sending msg) us msg.type handlerID world).2.store = world.store := by
      rw [wp] at effect
      generalize (handleClientMessageTypeScreen (env.sending msg) us msg.type handlerID world).1 = result at effect
      generalize (handleClientMessageTypeScreen (env.sending msg) us msg.type handlerID world).2.store = after at effect
      cases effect with
      | refused => rfl
      | toggled toggles => exact absurd ⟨_, _, toggles_sending.mp toggles⟩ accepted
    constructor
    · intro err _
      rw [kept]
    · rw [kept]
      intro before member after saved same changed
      exact absurd (congrArg Call.sharer (KeyedTable.eq_of_key_eq saved member same)) changed

end

/-! ### A message that is not JSON -/

def aliceWatching : World :=
  let call : Call := { id := "call-1", channelID := "channel", startAt := 1000, createAt := 1000, ownerID := "alice", props := .zero }
  { World.empty with
    store :=
      { Store.empty with
        calls := KeyedTable.empty.put call
        sessions := KeyedTable.empty.put { id := "conn-1", callID := "call-1", userID := "alice", joinAt := 1000 } } }

def screenOnWith (data : String) : ClientMessage := ⟨.on, Json.bytes data⟩

theorem screenAtomic_onNode :
    ScreenAtomic (.quiet 2000 "") aliceSession (screenOnWith "screen") "node" aliceWatching ∧
      (handleClientMessageTypeScreen ((Env.quiet 2000 "").sending (screenOnWith "screen")) aliceSession .on "node"
        aliceWatching).1 = .ok () := by
  refine ⟨(screenAtomic_iff (by decide)).mpr ?_, by decide +kernel⟩
  exact fun strands => absurd rfl strands.1

/-- The session is handled by another node, which is to be sent data that is not JSON. -/
theorem not_screenAtomic :
    ¬ ScreenAtomic (.quiet 2000 "") aliceSession (screenOnWith "screen") "other-node" aliceWatching := by
  intro atomic
  have kept := atomic.failed "failed to send cluster message" (by decide +kernel)
  revert kept
  decide +kernel

end Calls
