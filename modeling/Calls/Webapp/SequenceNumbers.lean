import Calls.Webapp.WebSocketClient

/-! What a client tells the server when it connects again: whether the sequence number of the new
socket is that of the event which comes next on the connection. -/

set_option autoImplicit false

namespace Calls.Webapp

/-- The last message that was not taken for the pong that is waited for. -/
inductive LastMessage where
  | event
  /-- The hello that announced the connection. -/
  | announcement
  | reply
  deriving DecidableEq

/-- A socket that is opened for a connection that is known. -/
structure Reopening where
  sequenceNumber : Option Int
  lastEvent : Option Int
  last : LastMessage
  deriving DecidableEq

/-- What was received, and which sockets were opened with it. -/
structure ReceivedEvents where
  /-- The sequence number of the last event on a connection. -/
  lastEvent : String → Option Int := fun _ => none
  last : LastMessage := .reply
  reopened : List Reopening := []

/-- The connection that a message announces to the client. -/
def ServerMessage.announced? (client : WebSocketClient) : ServerMessage → Option String
  | .event _ "hello" (some data) => if data.connectionID ≠ client.connID then some data.connectionID else none
  | _ => none

namespace ReceivedEvents

def receive (heard : ReceivedEvents) (client : WebSocketClient) (message : ServerMessage) : ReceivedEvents :=
  match message with
  | .reply seqReply =>
    if client.waitingForPong ∧ seqReply = client.expectedPongSeqNo then heard else { heard with last := .reply }
  | .event seq _ _ =>
    { heard with
      lastEvent := Function.update heard.lastEvent ((message.announced? client).getD client.connID) (some seq)
      last := if (message.announced? client).isSome then .announcement else .event }

def note (heard : ReceivedEvents) (before : WebSocketClient) (step : SocketStep) (after : WebSocketClient) : ReceivedEvents :=
  let opened := (after.sockets.drop before.sockets.length).filter fun socket => socket.connectionID ≠ ""
  let heard := match step with
    | .received _ message => heard.receive before message
    | _ => heard
  { heard with
    reopened := heard.reopened ++ opened.map fun socket =>
      ⟨socket.sequenceNumber, heard.lastEvent socket.connectionID, heard.last⟩ }

end ReceivedEvents

/-- The new socket goes on after the last event that was received on its connection. -/
def Reopening.Resumes (reopening : Reopening) : Prop :=
  ∃ seq, reopening.lastEvent = some seq ∧ reopening.sequenceNumber = some (seq + 1)

/-- A client from its construction on. -/
def listeningRuns (authToken : String) : System (WebSocketClient × ReceivedEvents) SocketStep :=
  System.observed { init := fun client => client = WebSocketClient.init false { authToken }, next? := WebSocketClient.next? } {}
    ReceivedEvents.note

/-- The connection is opened again only after an event other than the hello that announced it. -/
def ReopensAfterEvent (state : WebSocketClient × ReceivedEvents) : SocketStep → Prop
  | .retry => state.1.closed = false → state.1.connID ≠ "" → state.2.last = .event
  | _ => True

/-- No event has a negative number. -/
def NumberedFromZero (_ : WebSocketClient × ReceivedEvents) : SocketStep → Prop
  | .received _ (.event seq _ _) => 0 ≤ seq
  | _ => True

/-! ### What the client knows of its connection -/

/-- The number that is kept after a message, from that of the last event. -/
def LastMessage.serverSeqNo (seq : Int) : LastMessage → Option Int
  | .event => some (seq + 1)
  | .announcement => some 0
  | .reply => none

/-- The client opens no socket, and forgets its connection or keeps what it knows of it. -/
structure Remembers (before after : WebSocketClient) : Prop where
  sockets : after.sockets.length = before.sockets.length
  connID : after.connID ≠ "" → after.connID = before.connID
  serverSeqNo : after.connID ≠ "" → after.serverSeqNo = before.serverSeqNo

namespace Remembers

variable {before between after : WebSocketClient}

theorem refl (client : WebSocketClient) : Remembers client client := ⟨rfl, fun _ => rfl, fun _ => rfl⟩

theorem trans (first : Remembers before between) (second : Remembers between after) : Remembers before after := by
  have known (here : after.connID ≠ "") : between.connID ≠ "" := by
    rw [← second.connID here]
    exact here
  refine ⟨second.sockets.trans first.sockets, fun here => ?_, fun here => ?_⟩
  · exact (second.connID here).trans (first.connID (known here))
  · exact (second.serverSeqNo here).trans (first.serverSeqNo (known here))

/-- What is of no matter here is changed first. -/
theorem changed (rest : Remembers between after) (sockets : between.sockets = before.sockets)
    (connID : between.connID = before.connID) (serverSeqNo : between.serverSeqNo = before.serverSeqNo) : Remembers before after :=
  .trans ⟨congrArg List.length sockets, fun _ => connID, fun _ => serverSeqNo⟩ rest

end Remembers

namespace WebSocketClient

variable (client : WebSocketClient)

theorem remembers_send (request : Request) : Remembers client (client.send request) := ⟨rfl, fun _ => rfl, fun _ => rfl⟩

theorem remembers_emit (emission : Emission) : Remembers client (client.emit emission) := ⟨rfl, fun _ => rfl, fun _ => rfl⟩

theorem remembers_updateSocket (place : Nat) (update : Socket → Socket) : Remembers client (client.updateSocket place update) :=
  ⟨List.length_modify .., fun _ => rfl, fun _ => rfl⟩

theorem remembers_onSocket (update : Socket → Socket) : Remembers client (client.onSocket update) := by
  unfold onSocket
  split
  · exact .refl client
  · exact client.remembers_updateSocket _ update

theorem remembers_ping : Remembers client client.ping := by
  unfold ping
  split
  · exact ⟨rfl, fun _ => rfl, fun _ => rfl⟩
  · exact .refl client

theorem remembers_stopPingInterval : Remembers client client.stopPingInterval := by
  unfold stopPingInterval
  split
  · exact ⟨rfl, fun _ => rfl, fun _ => rfl⟩
  · exact .refl client

theorem remembers_startPingInterval : Remembers client client.startPingInterval := by
  unfold startPingInterval
  split
  · exact .refl client
  · exact client.remembers_stopPingInterval.trans ⟨rfl, fun _ => rfl, fun _ => rfl⟩

theorem remembers_close : Remembers client client.close := by
  have stopped : Remembers client ({ client with closed := true } : WebSocketClient).stopPingInterval :=
    .changed (remembers_stopPingInterval _) rfl rfl rfl
  exact ⟨(stopped.trans (remembers_onSocket _ Socket.close)).sockets, fun known => absurd rfl known, fun known => absurd rfl known⟩

theorem remembers_sendLeaveAndClose : Remembers client client.sendLeaveAndClose := by
  unfold sendLeaveAndClose
  split
  · exact client.remembers_close
  · exact client.remembers_close
  · exact (client.remembers_send .leave).trans (remembers_close _)
  · exact ⟨rfl, fun _ => rfl, fun _ => rfl⟩

theorem remembers_disconnect : Remembers client client.disconnect := by
  unfold disconnect
  split
  · exact .refl client
  · exact .changed (remembers_sendLeaveAndClose _) rfl rfl rfl

theorem remembers_emitError (type : WebSocketErrorType) (message : String) : Remembers client (client.emitError type message) := by
  unfold emitError
  dsimp only
  split
  · exact (client.remembers_emit _).trans (remembers_disconnect _)
  · exact client.remembers_emit _

theorem remembers_emitOpen (originalConnID prevConnID : String) (isReconnect : Bool) :
    Remembers client (client.emitOpen originalConnID prevConnID isReconnect) := by
  have announced : Remembers client (client.announceOpen originalConnID prevConnID isReconnect) := by
    unfold announceOpen
    dsimp only
    split
    · exact (client.remembers_emit _).trans (remembers_send _ _)
    · exact client.remembers_emit _
  unfold emitOpen
  dsimp only
  split
  · refine announced.trans (.trans ?_ (remembers_close _))
    generalize client.announceOpen originalConnID prevConnID isReconnect = client
    exact .changed (remembers_send _ _) rfl rfl rfl
  · exact announced

theorem remembers_reconnect (now : Int) : Remembers client (client.reconnect now) := by
  have noted : Remembers client (if client.lastDisconnect = 0 then { client with lastDisconnect := now } else client) := by
    split
    · exact ⟨rfl, fun _ => rfl, fun _ => rfl⟩
    · exact .refl client
  refine noted.trans ?_
  unfold reconnect
  generalize (if client.lastDisconnect = 0 then { client with lastDisconnect := now } else client) = client
  dsimp only
  split
  · exact .changed (remembers_emitError _ _ _) rfl rfl rfl
  · exact ⟨rfl, fun _ => rfl, fun _ => rfl⟩

theorem remembers_closeHandler (code : Nat) (now : Int) : Remembers client (client.closeHandler code now) := by
  have stopped : Remembers client (client.stopPingInterval.emit (.close code)) :=
    client.remembers_stopPingInterval.trans (remembers_emit _ _)
  unfold closeHandler
  dsimp only
  split
  · exact stopped
  · exact stopped.trans (remembers_reconnect _ now)

theorem remembers_onopen (isReconnect : Bool) : Remembers client (client.onopen isReconnect) := by
  have sent : Remembers client
      (if client.authToken = "" then client else client.send (.authenticationChallenge client.authToken)) := by
    split
    · exact .refl client
    · exact client.remembers_send _
  refine sent.trans ?_
  unfold onopen
  generalize (if client.authToken = "" then client else client.send (.authenticationChallenge client.authToken)) = client
  refine .trans ?_ ((remembers_startPingInterval _).trans (remembers_ping _))
  split
  · exact .changed (remembers_emitOpen _ _ _ _) rfl rfl rfl
  · exact .refl client

theorem remembers_pingTick (now : Int) : Remembers client (client.pingTick now) := by
  unfold pingTick
  split
  · exact (client.remembers_onSocket _).trans (remembers_closeHandler _ _ _)
  · exact client.remembers_ping

theorem remembers_delivery (name : String) (data : MessageData) :
    Remembers client
      (if data.connID ≠ client.connID ∧ data.connID ≠ client.originalConnID then client
        else if name = eventPrefix ++ "_join" then client.emit .join
        else if name = eventPrefix ++ "_error" then client.emitError .join data.data
        else if name = eventPrefix ++ "_signal" then client.emit (.message data)
        else client) := by
  split
  · exact .refl client
  · split
    · exact client.remembers_emit _
    · split
      · exact client.remembers_emitError _ _
      · split
        · exact client.remembers_emit _
        · exact .refl client

/-- A message is counted, or the connection that it announces is counted from zero, before it is handled. -/
theorem remembers_onmessage (isReconnect : Bool) (seq : Int) (name : String) (data : Option MessageData) :
    Remembers
      (match (ServerMessage.event seq name data).announced? client with
        | some connectionID => { client with serverSeqNo := some (seq + 1) }.setConnID connectionID
        | none => { client with serverSeqNo := some (seq + 1) })
      (client.onmessage isReconnect (.event seq name data)) := by
  unfold onmessage
  cases data with
  | none =>
    have silent : (ServerMessage.event seq name none).announced? client = none := by simp [ServerMessage.announced?]
    rw [silent]
    exact .refl _
  | some data =>
    have nonempty : "hello" ≠ "" := by decide
    by_cases hello : name = "hello"
    · subst hello
      have announced : (ServerMessage.event seq "hello" (some data)).announced? client =
          if data.connectionID ≠ client.connID then some data.connectionID else none := rfl
      rw [announced]
      dsimp only
      rw [if_neg nonempty, if_pos rfl]
      by_cases new : data.connectionID ≠ client.connID
      · rw [if_pos new, if_pos new]
        dsimp only
        split
        · exact remembers_emit _ _
        · exact (remembers_emit _ _).trans (remembers_emitOpen _ _ _ _)
      · rw [if_neg new, if_neg new]
        dsimp only
        split
        · exact .refl _
        · exact remembers_emitOpen _ _ _ _
    · have silent : (ServerMessage.event seq name (some data)).announced? client = none := by
        simp [ServerMessage.announced?, hello]
      rw [silent]
      dsimp only
      rw [if_neg hello]
      split
      · exact .refl _
      · split
        · exact .refl _
        · exact (remembers_emit _ _).trans (remembers_delivery _ name data)

/-- The steps that neither bring a message nor open a socket. -/
theorem remembers_next? {after : WebSocketClient} {step : SocketStep} (taken : client.next? step = some after)
    (silent : ∀ place message, step ≠ .received place message) (idle : step ≠ .retry) : Remembers client after := by
  cases step with
  | opened place =>
    obtain ⟨socket, -, taken⟩ := Option.bind_eq_some_iff.mp taken
    obtain ⟨-, -, taken⟩ := Option.bind_eq_some_iff.mp taken
    cases taken
    exact (client.remembers_updateSocket _ _).trans (remembers_onopen _ _)
  | received place message => exact absurd rfl (silent place message)
  | errored place =>
    obtain ⟨socket, -, taken⟩ := Option.bind_eq_some_iff.mp taken
    cases taken
    exact client.remembers_emitError _ _
  | closing place =>
    obtain ⟨socket, -, taken⟩ := Option.bind_eq_some_iff.mp taken
    obtain ⟨-, -, taken⟩ := Option.bind_eq_some_iff.mp taken
    cases taken
    exact client.remembers_updateSocket _ _
  | closed place code now =>
    obtain ⟨socket, -, taken⟩ := Option.bind_eq_some_iff.mp taken
    obtain ⟨-, -, taken⟩ := Option.bind_eq_some_iff.mp taken
    cases taken
    refine (client.remembers_updateSocket place fun socket => { socket with readyState := .closed }).trans ?_
    split
    · exact remembers_closeHandler _ _ _
    · exact .refl _
  | pingTick now =>
    obtain ⟨-, -, taken⟩ := Option.bind_eq_some_iff.mp taken
    cases taken
    exact client.remembers_pingTick _
  | retry => exact absurd rfl idle
  | disconnect =>
    cases taken
    exact client.remembers_disconnect

end WebSocketClient

/-! ### The numbers of the sockets -/

/-- What was noted of a socket fits what was received before it. -/
def Reopening.Counted (reopening : Reopening) : Prop :=
  ∃ seq, reopening.lastEvent = some seq ∧ reopening.sequenceNumber = reopening.last.serverSeqNo seq

/-- The client's number is what the last message has made of that of the last event on its connection. -/
structure Counts (client : WebSocketClient) (heard : ReceivedEvents) : Prop where
  current : client.connID ≠ "" → ∃ seq, heard.lastEvent client.connID = some seq ∧ client.serverSeqNo = heard.last.serverSeqNo seq
  reopened : ∀ reopening ∈ heard.reopened, reopening.Counted

section
variable {client after : WebSocketClient} {heard : ReceivedEvents} {label : SocketStep}

theorem sockets_onmessage (client : WebSocketClient) (isReconnect : Bool) (message : ServerMessage) :
    (client.onmessage isReconnect message).sockets.length = client.sockets.length := by
  cases message with
  | reply seqReply =>
    unfold WebSocketClient.onmessage
    dsimp only
    split <;> rfl
  | event seq name data =>
    rw [(client.remembers_onmessage isReconnect seq name data).sockets]
    split <;> rfl

theorem note_of_same_sockets (sockets : after.sockets.length = client.sockets.length) :
    heard.note client label after =
      match label with
      | .received _ message => heard.receive client message
      | _ => heard := by
  have none : after.sockets.drop client.sockets.length = [] := by simp [sockets]
  unfold ReceivedEvents.note
  rw [none]
  cases label <;> simp

/-- A retry of a client that is not closed opens a socket for what the client knows. -/
theorem note_retry (unclosed : client.closed = false) :
    heard.note client .retry client.retry =
      { heard with
        reopened := heard.reopened ++
          if client.connID ≠ "" then [⟨client.serverSeqNo, heard.lastEvent client.connID, heard.last⟩] else [] } := by
  unfold WebSocketClient.retry WebSocketClient.init ReceivedEvents.note
  simp only [unclosed, Bool.false_eq_true, if_false, List.drop_left]
  by_cases known : client.connID = "" <;> simp [known]

/-- A step brings a message, or is of no matter here, or opens a socket. -/
theorem next_cases (heard : ReceivedEvents) (taken : client.next? label = some after) :
    (∃ place message isReconnect, label = .received place message ∧ after = client.onmessage isReconnect message ∧
      heard.note client label after = heard.receive client message) ∨
    (Remembers client after ∧ heard.note client label after = heard) ∨
    (label = .retry ∧ client.closed = false ∧ after = client.retry) := by
  by_cases brings : ∃ place message, label = .received place message
  · obtain ⟨place, message, rfl⟩ := brings
    obtain ⟨socket, -, taken⟩ := Option.bind_eq_some_iff.mp taken
    obtain ⟨-, -, taken⟩ := Option.bind_eq_some_iff.mp taken
    cases taken
    exact .inl ⟨place, message, socket.isReconnect, rfl, rfl, note_of_same_sockets (sockets_onmessage client _ message)⟩
  · have silent (place : Nat) (message : ServerMessage) : label ≠ .received place message :=
      fun same => brings ⟨place, message, same⟩
    have unheard (kept : Remembers client after) : heard.note client label after = heard := by
      rw [note_of_same_sockets kept.sockets]
      cases label with
      | received place message => exact absurd rfl (silent place message)
      | _ => rfl
    by_cases retries : label = .retry
    · subst retries
      obtain ⟨-, -, taken⟩ := Option.bind_eq_some_iff.mp taken
      cases taken
      cases closed : client.closed with
      | false => exact .inr (.inr ⟨rfl, rfl, rfl⟩)
      | true =>
        have kept : Remembers client client.retry := by
          unfold WebSocketClient.retry
          dsimp only
          rw [if_pos closed]
          exact ⟨rfl, fun _ => rfl, fun _ => rfl⟩
        exact .inr (.inl ⟨kept, unheard kept⟩)
    · have kept := client.remembers_next? taken silent retries
      exact .inr (.inl ⟨kept, unheard kept⟩)

namespace Counts

theorem remembers (counts : Counts client heard) (remembers : Remembers client after) : Counts after heard := by
  refine ⟨fun known => ?_, counts.reopened⟩
  have same := remembers.connID known
  have before : client.connID ≠ "" := by rwa [same] at known
  obtain ⟨seq, last, number⟩ := counts.current before
  exact ⟨seq, by rw [same, last], by rw [remembers.serverSeqNo known, number]⟩

theorem onmessage (counts : Counts client heard) (isReconnect : Bool) (message : ServerMessage) :
    Counts (client.onmessage isReconnect message) (heard.receive client message) := by
  cases message with
  | reply seqReply =>
    unfold WebSocketClient.onmessage ReceivedEvents.receive
    dsimp only
    by_cases pong : client.waitingForPong ∧ seqReply = client.expectedPongSeqNo
    · rw [if_pos pong, if_pos pong]
      exact ⟨counts.current, counts.reopened⟩
    · rw [if_neg pong, if_neg pong]
      refine ⟨fun known => ?_, counts.reopened⟩
      obtain ⟨seq, last, -⟩ := counts.current known
      exact ⟨seq, last, rfl⟩
  | event seq name data =>
    have handled := client.remembers_onmessage isReconnect seq name data
    unfold ReceivedEvents.receive
    dsimp only
    cases announced : (ServerMessage.event seq name data).announced? client with
    | some connectionID =>
      rw [announced] at handled
      exact remembers ⟨fun _ => ⟨seq, Function.update_self .., rfl⟩, counts.reopened⟩ handled
    | none =>
      rw [announced] at handled
      refine remembers ?_ handled
      exact ⟨fun _ => ⟨seq, Function.update_self .., rfl⟩, counts.reopened⟩

theorem retry (counts : Counts client heard) (unclosed : client.closed = false) :
    Counts client.retry (heard.note client .retry client.retry) := by
  rw [note_retry unclosed]
  have same : client.retry.connID = client.connID ∧ client.retry.serverSeqNo = client.serverSeqNo := by
    simp [WebSocketClient.retry, WebSocketClient.init, unclosed]
  refine ⟨fun known => ?_, fun reopening member => ?_⟩
  · rw [same.1] at known ⊢
    rw [same.2]
    exact counts.current known
  · rcases List.mem_append.mp member with old | new
    · exact counts.reopened reopening old
    · split at new
      · next known =>
        rw [List.mem_singleton.mp new]
        exact counts.current known
      · cases new

theorem step (counts : Counts client heard) (taken : client.next? label = some after) :
    Counts after (heard.note client label after) := by
  obtain ⟨place, message, isReconnect, rfl, rfl, noted⟩ | ⟨kept, noted⟩ | ⟨rfl, unclosed, rfl⟩ := next_cases heard taken
  · rw [noted]
    exact counts.onmessage isReconnect message
  · rw [noted]
    exact counts.remembers kept
  · exact counts.retry unclosed

end Counts

theorem lastEvent_step (events : ∀ reopening ∈ heard.reopened, reopening.last = .event)
    (allowed : ReopensAfterEvent (client, heard) label) (taken : client.next? label = some after) :
    ∀ reopening ∈ (heard.note client label after).reopened, reopening.last = .event := by
  obtain ⟨place, message, isReconnect, rfl, rfl, noted⟩ | ⟨kept, noted⟩ | ⟨rfl, unclosed, rfl⟩ := next_cases heard taken
  · rw [noted]
    unfold ReceivedEvents.receive
    split
    · split
      · exact events
      · exact events
    · exact events
  · rw [noted]
    exact events
  · rw [note_retry unclosed]
    intro reopening member
    rcases List.mem_append.mp member with old | new
    · exact events reopening old
    · split at new
      · next known =>
        rw [List.mem_singleton.mp new]
        exact allowed unclosed known
      · cases new

/-- No number that was received is negative. -/
structure ReceivedEvents.Numbered (heard : ReceivedEvents) : Prop where
  lastEvent : ∀ connID seq, heard.lastEvent connID = some seq → 0 ≤ seq
  reopened : ∀ reopening ∈ heard.reopened, ∀ seq, reopening.lastEvent = some seq → 0 ≤ seq

theorem ReceivedEvents.Numbered.step (numbered : heard.Numbered) (allowed : NumberedFromZero (client, heard) label)
    (taken : client.next? label = some after) : (heard.note client label after).Numbered := by
  obtain ⟨place, message, isReconnect, rfl, rfl, noted⟩ | ⟨kept, noted⟩ | ⟨rfl, unclosed, rfl⟩ := next_cases heard taken
  · rw [noted]
    cases message with
    | reply seqReply =>
      unfold ReceivedEvents.receive
      dsimp only
      split
      · exact numbered
      · exact ⟨numbered.lastEvent, numbered.reopened⟩
    | event seq name data =>
      refine ⟨fun connID other last => ?_, numbered.reopened⟩
      unfold ReceivedEvents.receive at last
      dsimp only at last
      rw [Function.update_apply] at last
      split at last
      · cases last
        exact allowed
      · exact numbered.lastEvent connID other last
  · rw [noted]
    exact numbered
  · rw [note_retry unclosed]
    refine ⟨numbered.lastEvent, fun reopening member => ?_⟩
    rcases List.mem_append.mp member with old | new
    · exact numbered.reopened reopening old
    · split at new
      · rw [List.mem_singleton.mp new]
        exact numbered.lastEvent client.connID
      · cases new

end

theorem Reopening.Counted.resumes_iff {reopening : Reopening} (counted : reopening.Counted)
    (numbered : ∀ seq, reopening.lastEvent = some seq → 0 ≤ seq) : reopening.Resumes ↔ reopening.last = .event := by
  obtain ⟨seq, last, number⟩ := counted
  have natural := numbered seq last
  have resumes : reopening.Resumes ↔ reopening.last.serverSeqNo seq = some (seq + 1) := by
    unfold Reopening.Resumes
    simp [last, number]
  rw [resumes]
  cases reopening.last with
  | event => simp [LastMessage.serverSeqNo]
  | announcement =>
    simp only [LastMessage.serverSeqNo, Option.some.injEq, reduceCtorEq, iff_false]
    omega
  | reply => simp [LastMessage.serverSeqNo]

theorem Reopening.Counted.resumes {reopening : Reopening} (counted : reopening.Counted) (event : reopening.last = .event) :
    reopening.Resumes := by
  obtain ⟨seq, last, number⟩ := counted
  rw [event] at number
  exact ⟨seq, last, number⟩

theorem counts_of_reachable {authToken : String} {state : WebSocketClient × ReceivedEvents}
    (reached : (listeningRuns authToken).Reachable state) : Counts state.1 state.2 := by
  refine @System.Reachable.invariant _ _ _ (fun state => Counts state.1 state.2) (fun first start => ?_)
    (fun before label next counts taken => ?_) state reached
  · obtain ⟨client, heard⟩ := first
    obtain ⟨rfl, rfl⟩ := start
    exact ⟨fun known => absurd rfl known, fun _ member => absurd member List.not_mem_nil⟩
  · obtain ⟨taken, noted⟩ := System.observed_next?.mp taken
    rw [noted]
    exact counts.step taken

/-- In every run that opens its connection again only after an event which did not announce it, each socket goes on after
the last event; and where no number is negative no other socket does. -/
theorem resumes_of_reopensAfterEvent (authToken : String) :
    (∀ state, ((listeningRuns authToken).restrict ReopensAfterEvent).Reachable state →
      ∀ reopening ∈ state.2.reopened, reopening.Resumes) ∧
    ∀ state, ((listeningRuns authToken).restrict NumberedFromZero).Reachable state →
      ∀ reopening ∈ state.2.reopened, reopening.Resumes ↔ reopening.last = .event := by
  refine ⟨fun state reached reopening member => ?_, fun state reached reopening member => ?_⟩
  · have counted := (counts_of_reachable reached.of_restrict).reopened reopening member
    refine counted.resumes ?_
    refine @System.Reachable.invariant_of_allowed _ _ _ _ (fun state => ∀ reopening ∈ state.2.reopened, reopening.last = .event)
      (fun first start => ?_) (fun before label next events allowed taken => ?_) state reached reopening member
    · rw [start.2]
      exact fun _ member => absurd member List.not_mem_nil
    · obtain ⟨taken, noted⟩ := System.observed_next?.mp taken
      rw [noted]
      exact lastEvent_step events allowed taken
  · have counted := (counts_of_reachable reached.of_restrict).reopened reopening member
    have numbered : state.2.Numbered := ?_
    exact counted.resumes_iff (numbered.reopened reopening member)
    refine @System.Reachable.invariant_of_allowed _ _ _ _ (fun state => state.2.Numbered)
      (fun first start => ?_) (fun before label next numbered allowed taken => ?_) state reached
    · rw [start.2]
      exact ⟨fun _ _ last => (nomatch last), fun _ member => absurd member List.not_mem_nil⟩
    · obtain ⟨taken, noted⟩ := System.observed_next?.mp taken
      rw [noted]
      exact numbered.step allowed taken

/-- A client from its construction on hears the hello, the pong to its first ping and an event. -/
def heardOne : List SocketStep :=
  [.opened 0, .received 0 (.event 0 "hello" (some { connectionID := "conn-1", connID := "", data := "" })), .received 0 (.reply 1),
    .received 0 (.event 1 "custom_com.mattermost.calls_user_joined" (some { connectionID := "", connID := "", data := "" }))]

/-- The connection is lost and opened again. -/
def lost : List SocketStep := [.closed 0 1006 1000, .retry]

/-- After an event it is opened for the next one. -/
theorem resumes_of_heardOne : ∃ state : WebSocketClient × ReceivedEvents,
    (listeningRuns "").run? (WebSocketClient.init false { authToken := "" }, {}) (heardOne ++ lost) = some state ∧
      (∀ reopening ∈ state.2.reopened, reopening.Resumes) ∧
      (∀ reopening ∈ state.2.reopened, reopening.Resumes ↔ reopening.last = .event) ∧
      state.2.reopened = [⟨some 2, some 1, .event⟩] := by
  have ran : (listeningRuns "").run? (WebSocketClient.init false { authToken := "" }, {}) (heardOne ++ lost) = some _ := rfl
  have meets : (listeningRuns "").MeetsAlong ReopensAfterEvent (WebSocketClient.init false { authToken := "" }, {})
      (heardOne ++ lost) := by
    refine ⟨trivial, fun _ taken => ?_⟩
    cases taken
    refine ⟨trivial, fun _ taken => ?_⟩
    cases taken
    refine ⟨trivial, fun _ taken => ?_⟩
    cases taken
    refine ⟨trivial, fun _ taken => ?_⟩
    cases taken
    refine ⟨trivial, fun _ taken => ?_⟩
    cases taken
    exact ⟨fun _ _ => rfl, fun _ _ => trivial⟩
  have numbered : (listeningRuns "").MeetsAlong NumberedFromZero (WebSocketClient.init false { authToken := "" }, {})
      (heardOne ++ lost) := by
    refine .of_labels (fun label member state => ?_) _
    simp only [heardOne, lost, List.cons_append, List.nil_append, List.mem_cons, List.not_mem_nil, or_false] at member
    rcases member with rfl | rfl | rfl | rfl | rfl | rfl <;> simp [NumberedFromZero]
  obtain ⟨resumes, exactly⟩ := resumes_of_reopensAfterEvent ""
  exact ⟨_, ran, resumes _ (System.Reachable.restrict_run (.init ⟨rfl, rfl⟩) meets ran),
    exactly _ (System.Reachable.restrict_run (.init ⟨rfl, rfl⟩) numbered ran), rfl⟩

/-- After the hello alone it is opened for the hello again, and after a reply for no number at all. -/
theorem not_resumes :
    (∃ state : WebSocketClient × ReceivedEvents,
      (listeningRuns "").run? (WebSocketClient.init false { authToken := "" }, {}) (heardOne.take 2 ++ lost) = some state ∧
        ∃ reopening ∈ state.2.reopened, ¬ reopening.Resumes) ∧
    ∃ state : WebSocketClient × ReceivedEvents,
      (listeningRuns "").run? (WebSocketClient.init false { authToken := "" }, {})
        (heardOne ++ .received 0 (.reply 7) :: lost) = some state ∧
        ∃ reopening ∈ state.2.reopened, ¬ reopening.Resumes := by
  constructor
  · refine ⟨_, rfl, ⟨some 0, some 0, .announcement⟩, List.mem_singleton.mpr rfl, ?_⟩
    simp [Reopening.Resumes]
  · refine ⟨_, rfl, ⟨none, some 1, .reply⟩, List.mem_singleton.mpr rfl, ?_⟩
    simp [Reopening.Resumes]

end Calls.Webapp
