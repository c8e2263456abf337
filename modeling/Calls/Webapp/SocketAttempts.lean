import Calls.Webapp.WebSocketClient

/-! Whether a client that connects also joins: what is emitted and sent when its connection
opens, over the runs of its attempts. -/

set_option autoImplicit false

namespace Calls.Webapp

def ServerMessage.isHello : ServerMessage → Bool
  | .event _ name data => name = "hello" ∧ data.isSome
  | .reply _ => false

/-- Whether the connection is said to be open for the first time. -/
def Emission.isFirstOpen : Emission → Bool
  | .opened _ _ isReconnect => !isReconnect
  | _ => false

/-- The connections that were said to be open again. -/
def Emission.reopened? : Emission → Option (String × String)
  | .opened originalConnID prevConnID true => some (originalConnID, prevConnID)
  | _ => none

def Request.reconnect? : Request → Option (String × String)
  | .reconnect originalConnID prevConnID => some (originalConnID, prevConnID)
  | _ => none

/-- What has become of the attempts: whether one failed or closed before the first hello, and how many hellos
came in all and on the first attempt. -/
structure Attempts where
  failed : Bool := false
  hellos : Nat := 0
  firstHellos : Nat := 0
  deriving DecidableEq

def Attempts.fail (attempts : Attempts) : Attempts := { attempts with failed := attempts.failed || attempts.hellos = 0 }

def Attempts.hello (attempts : Attempts) (place : Nat) : Attempts :=
  { attempts with
    hellos := attempts.hellos + 1, firstHellos := if place = 0 then attempts.firstHellos + 1 else attempts.firstHellos }

def Attempts.note (attempts : Attempts) (client : WebSocketClient) : SocketStep → Attempts
  | .received place message => if message.isHello then attempts.hello place else attempts
  | .closed _ _ _ => attempts.fail
  | .pingTick _ => if client.waitingForPong ∧ client.ws ≠ none then attempts.fail else attempts
  | _ => attempts

/-- A client from its construction on. -/
def attemptRuns (authToken : String) : System (WebSocketClient × Attempts) SocketStep :=
  System.observed { init := fun client => client = WebSocketClient.init false { authToken }, next? := WebSocketClient.next? } {}
    fun attempts client step _ => attempts.note client step

/-- What counts of a client here: its sockets and timers, what it knows, and what it has emitted and sent of opened connections. -/
structure Connection where
  ws : Option Nat
  sockets : List Socket
  closed : Bool
  pingInterval : Bool
  retries : Nat
  connID : String
  originalConnID : String
  listening : Bool
  opens : Nat
  joins : Nat
  reopened : List (String × String)
  requested : List (String × String)

def WebSocketClient.connection (client : WebSocketClient) : Connection :=
  { ws := client.ws, sockets := client.sockets, closed := client.closed, pingInterval := client.pingInterval
    retries := client.retries, connID := client.connID, originalConnID := client.originalConnID, listening := client.listening
    opens := client.emitted.countP Emission.isFirstOpen
    joins := client.sent.countP fun sent => sent.2 = .join
    reopened := client.emitted.filterMap Emission.reopened?
    requested := client.sent.filterMap fun sent => sent.2.reconnect? }

/-- Where attempts failed before the first hello, the client joins once it has come; it never reconnects without knowing
its connections. -/
structure JoinsOnce (client : WebSocketClient) (attempts : Attempts) : Prop where
  once : attempts.failed = true → 0 < attempts.hellos → client.connection.opens = 1 ∧ client.connection.joins = 1
  reopened : ∀ connections ∈ client.connection.reopened, connections.1 ≠ "" ∧ connections.2 ≠ ""
  requested : ∀ connections ∈ client.connection.requested, connections.1 ≠ "" ∧ connections.2 ≠ ""

/-- The client says that it is open, and joins, once for every hello of its first attempt, which has the first of all hellos. -/
structure JoinsFirst (client : WebSocketClient) (attempts : Attempts) : Prop where
  opens : client.connection.opens = attempts.firstHellos
  joins : client.connection.joins = attempts.firstHellos
  first : 0 < attempts.hellos → 0 < attempts.firstHellos

/-- No later attempt's socket opens before the first hello, and every hello names a connection. -/
def OpensAfterHello (state : WebSocketClient × Attempts) : SocketStep → Prop
  | .opened place => ∀ socket, state.1.sockets[place]? = some socket → socket.isReconnect = true → 0 < state.2.hellos
  | .received _ message => ∀ seq data, message = .event seq "hello" (some data) → data.connectionID ≠ ""
  | _ => True

namespace Connection

variable {connection : Connection}

/-- Only the last socket is live, and the later attempts are those after a failure. -/
structure Linked (connection : Connection) : Prop where
  started : 0 < connection.sockets.length
  last : ∀ place, connection.ws = some place → place + 1 = connection.sockets.length
  reconnects : ∀ place socket, connection.sockets[place]? = some socket → socket.isReconnect = decide (place ≠ 0)
  live : ∀ place socket, connection.sockets[place]? = some socket → socket.isLive = true →
    connection.ws = some place ∧ socket.onclose = true
  listening : connection.ws ≠ none → connection.listening = true
  current : connection.closed = false → connection.ws ≠ none

/-- The closing of a socket is yet to be handled. -/
def Handles (connection : Connection) (place : Nat) : Prop :=
  ∃ socket, connection.sockets[place]? = some socket ∧ socket.readyState ≠ .closed ∧ socket.onclose = true

/-- While the closing of a socket is to be handled, no other attempt is to be made. -/
structure Timed (connection : Connection) : Prop where
  handled : ∀ place, connection.Handles place → connection.ws = some place ∧ connection.retries = 0
  retries : connection.retries ≤ 1
  pings : connection.pingInterval = true → ∃ place, connection.ws = some place ∧ connection.Handles place

/-- What was said of opened connections fits the attempts. -/
structure Told (connection : Connection) (attempts : Attempts) : Prop where
  opens : connection.opens = attempts.firstHellos
  joins : connection.joins = attempts.firstHellos
  known : connection.ws ≠ none → 0 < attempts.hellos → connection.originalConnID ≠ "" ∧ connection.connID ≠ ""
  original : connection.connID ≠ "" → connection.originalConnID ≠ ""
  reopened : ∀ connections ∈ connection.reopened, connections.1 ≠ "" ∧ connections.2 ≠ ""
  requested : ∀ connections ∈ connection.requested, connections.1 ≠ "" ∧ connections.2 ≠ ""
  first : 0 < attempts.hellos → 0 < attempts.firstHellos ∧ attempts.failed = false
  later : ∀ place socket, connection.sockets[place]? = some socket → place ≠ 0 → socket.readyState = .opened → 0 < attempts.hellos
  failed : attempts.failed = true → ∀ socket, connection.sockets[0]? = some socket → socket.isLive = false

structure Invariant (connection : Connection) (attempts : Attempts) : Prop where
  linked : connection.Linked
  timed : connection.closed = false → connection.Timed
  told : connection.Told attempts

def update (place : Nat) (change : Socket → Socket) (connection : Connection) : Connection :=
  { connection with sockets := connection.sockets.modify place change }

def shut (connection : Connection) : Connection :=
  { connection with
    closed := true, pingInterval := false, ws := none, connID := "", originalConnID := "", listening := false
    sockets := match connection.ws with
      | none => connection.sockets
      | some place => connection.sockets.modify place Socket.close }

theorem socket_of_modify {sockets : List Socket} {place other : Nat} {change : Socket → Socket} {socket : Socket}
    (found : (sockets.modify place change)[other]? = some socket) :
    ∃ before, sockets[other]? = some before ∧ socket = if place = other then change before else before := by
  rw [List.getElem?_modify] at found
  obtain ⟨before, known, changed⟩ := Option.map_eq_some_iff.mp found
  exact ⟨before, known, changed.symm⟩

/-- A change of a socket that brings none to life. -/
structure Fades (before after : Socket) : Prop where
  isReconnect : after.isReconnect = before.isReconnect
  live : after.isLive = true → before.isLive = true ∧ after.onclose = before.onclose

theorem Linked.update {place : Nat} {change : Socket → Socket} (linked : connection.Linked)
    (fades : ∀ socket, connection.sockets[place]? = some socket → Fades socket (change socket)) :
    (connection.update place change).Linked := by
  refine ⟨?_, fun other ws => ?_, fun other socket found => ?_, fun other socket found live => ?_, linked.listening, linked.current⟩
  · simpa [Connection.update] using linked.started
  · rw [linked.last other ws]
    simp [Connection.update]
  · obtain ⟨before, known, rfl⟩ := socket_of_modify found
    rw [← linked.reconnects other before known]
    split
    · next same =>
      subst same
      exact (fades before known).isReconnect
    · rfl
  · obtain ⟨before, known, rfl⟩ := socket_of_modify found
    split at live
    · next same =>
      subst same
      obtain ⟨lived, handler⟩ := (fades before known).live live
      obtain ⟨ws, handles⟩ := linked.live place before known lived
      exact ⟨ws, by rw [if_pos rfl, handler, handles]⟩
    · next other =>
      rw [if_neg other]
      exact linked.live _ before known live

theorem Told.update {attempts : Attempts} {place : Nat} {change : Socket → Socket} (told : connection.Told attempts)
    (fades : ∀ socket, connection.sockets[place]? = some socket → Fades socket (change socket))
    (later : ∀ socket, connection.sockets[place]? = some socket → place ≠ 0 → (change socket).readyState = .opened →
      socket.readyState = .opened ∨ 0 < attempts.hellos) : (connection.update place change).Told attempts := by
  refine { told with later := fun other socket found notFirst opened => ?_, failed := fun failed socket found => ?_ }
  · obtain ⟨before, known, rfl⟩ := socket_of_modify found
    split at opened
    · next same =>
      subst same
      rcases later before known notFirst opened with stays | hello
      · exact told.later place before known notFirst stays
      · exact hello
    · exact told.later other before known notFirst opened
  · obtain ⟨before, known, rfl⟩ := socket_of_modify found
    have dead := told.failed failed before known
    split
    · next same =>
      subst same
      refine Bool.eq_false_iff.mpr fun live => ?_
      rw [((fades before known).live live).1] at dead
      cases dead
    · exact dead

/-- Whether a closing is to be handled is not changed. -/
theorem Handles.of_update {place other : Nat} {change : Socket → Socket}
    (keeps : ∀ socket, connection.sockets[place]? = some socket → (change socket).readyState ≠ .closed →
      (change socket).onclose = true → socket.readyState ≠ .closed ∧ socket.onclose = true)
    (handles : (connection.update place change).Handles other) : connection.Handles other := by
  obtain ⟨socket, found, unclosed, handler⟩ := handles
  obtain ⟨before, known, rfl⟩ := socket_of_modify found
  by_cases same : place = other
  · subst same
    rw [if_pos rfl] at unclosed handler
    exact ⟨before, known, keeps before known unclosed handler⟩
  · rw [if_neg same] at unclosed handler
    exact ⟨before, known, unclosed, handler⟩

theorem Handles.update {place other : Nat} {change : Socket → Socket}
    (keeps : ∀ socket, connection.sockets[place]? = some socket → socket.readyState ≠ .closed →
      socket.onclose = true → (change socket).readyState ≠ .closed ∧ (change socket).onclose = true)
    (handles : connection.Handles other) : (connection.update place change).Handles other := by
  obtain ⟨socket, known, unclosed, handler⟩ := handles
  refine ⟨if place = other then change socket else socket, ?_, ?_⟩
  · simp only [Connection.update, List.getElem?_modify, known]
    rfl
  · split
    · next same =>
      subst same
      exact keeps socket known unclosed handler
    · exact ⟨unclosed, handler⟩

theorem Fades.close (socket : Socket) : Fades socket socket.close := by
  refine ⟨rfl, fun live => ?_⟩
  cases state : socket.readyState <;> simp [state, Socket.close, Socket.isLive] at live

/-- A socket whose connection goes down. -/
theorem Invariant.closing {attempts : Attempts} (inv : connection.Invariant attempts) (place : Nat) :
    (connection.update place Socket.close).Invariant attempts := by
  have unopened (socket : Socket) : socket.close.readyState ≠ .opened := by
    cases state : socket.readyState <;> simp [state, Socket.close, Socket.isLive]
  have unclosed (socket : Socket) : socket.close.readyState ≠ .closed ↔ socket.readyState ≠ .closed := by
    cases state : socket.readyState <;> simp [state, Socket.close, Socket.isLive]
  refine ⟨inv.linked.update fun socket _ => .close socket, fun open_ => ?_, inv.told.update (fun socket _ => .close socket) ?_⟩
  · have timed := inv.timed open_
    refine ⟨fun other handles => ?_, timed.retries, fun pings => ?_⟩
    · exact timed.handled other (handles.of_update fun socket _ state handler => ⟨(unclosed socket).mp state, handler⟩)
    · obtain ⟨other, ws, handles⟩ := timed.pings pings
      exact ⟨other, ws, handles.update fun socket _ state handler => ⟨(unclosed socket).mpr state, handler⟩⟩
  · intro socket _ _ opened
    exact absurd opened (unopened socket)

theorem Invariant.stopped {attempts : Attempts} (inv : connection.Invariant attempts) :
    ({ connection with pingInterval := false } : Connection).Invariant attempts := by
  refine ⟨⟨inv.linked.started, inv.linked.last, inv.linked.reconnects, inv.linked.live, inv.linked.listening, inv.linked.current⟩, fun open_ => ?_, { inv.told with }⟩
  exact ⟨(inv.timed open_).handled, (inv.timed open_).retries, fun pings => by cases pings⟩

/-- What was said, and what is known, has no part in the sockets and the timers. -/
theorem Invariant.retold {before attempts : Attempts} (inv : connection.Invariant before) {connID originalConnID : String}
    {opens joins : Nat} {reopened requested : List (String × String)}
    (told : ({ connection with connID, originalConnID, opens, joins, reopened, requested } : Connection).Told attempts) :
    ({ connection with connID, originalConnID, opens, joins, reopened, requested } : Connection).Invariant attempts := by
  refine ⟨⟨inv.linked.started, inv.linked.last, inv.linked.reconnects, inv.linked.live, inv.linked.listening, inv.linked.current⟩, fun unclosed => ?_, told⟩
  have timed := inv.timed unclosed
  exact ⟨timed.handled, timed.retries, timed.pings⟩

/-- A client that is closed has no timers to care for. -/
theorem Invariant.closed {attempts : Attempts} (linked : connection.Linked) (told : connection.Told attempts) :
    ({ connection with closed := true } : Connection).Invariant attempts :=
  ⟨⟨linked.started, linked.last, linked.reconnects, linked.live, linked.listening, (nomatch ·)⟩, (nomatch ·), { told with }⟩

/-- Closing leaves no socket alive. -/
theorem Linked.dead_of_shut (linked : connection.Linked) (place : Nat) (socket : Socket)
    (found : connection.shut.sockets[place]? = some socket) :
    socket.isLive = false ∧ ∃ before, connection.sockets[place]? = some before ∧ socket.isReconnect = before.isReconnect := by
  unfold Connection.shut at found
  cases ws : connection.ws with
  | none =>
    rw [ws] at found
    refine ⟨Bool.eq_false_iff.mpr fun live => ?_, socket, found, rfl⟩
    have current := (linked.live place socket found live).1
    rw [ws] at current
    cases current
  | some last =>
    rw [ws] at found
    obtain ⟨before, known, rfl⟩ := socket_of_modify found
    by_cases same : last = place
    · rw [if_pos same]
      refine ⟨Bool.eq_false_iff.mpr fun live => ?_, before, known, rfl⟩
      cases state : before.readyState <;> simp [state, Socket.close, Socket.isLive] at live
    · rw [if_neg same]
      refine ⟨Bool.eq_false_iff.mpr fun live => ?_, before, known, rfl⟩
      have current := (linked.live place before known live).1
      rw [ws] at current
      exact same (Option.some.inj current)

theorem Invariant.shut {attempts : Attempts} (linked : connection.Linked) (told : connection.Told attempts) :
    connection.shut.Invariant attempts := by
  refine ⟨⟨?_, fun _ ws => (nomatch ws), fun place socket found => ?_, fun place socket found live => ?_, fun ws => absurd rfl ws,
    (nomatch ·)⟩, (nomatch ·), { told with
      known := fun ws => absurd rfl ws, original := fun known => absurd rfl known, later := fun place socket found _ opened => ?_, failed := fun _ socket found => ?_ }⟩
  · cases ws : connection.ws <;> simp [Connection.shut, ws, linked.started]
  · obtain ⟨-, before, known, same⟩ := linked.dead_of_shut place socket found
    rw [same]
    exact linked.reconnects place before known
  · rw [(linked.dead_of_shut place socket found).1] at live
    cases live
  · have dead := (linked.dead_of_shut place socket found).1
    simp [Socket.isLive, opened] at dead
  · exact (linked.dead_of_shut 0 socket found).1

/-- A socket that is live no more. -/
structure Ends (before after : Socket) : Prop where
  isReconnect : after.isReconnect = before.isReconnect
  dead : after.isLive = false

theorem Ends.fades {before after : Socket} (ends : Ends before after) : Fades before after :=
  ⟨ends.isReconnect, fun live => by rw [ends.dead] at live; cases live⟩

theorem Linked.ended {place : Nat} {change : Socket → Socket} (linked : connection.Linked)
    (ends : ∀ socket, Ends socket (change socket)) : (connection.update place change).Linked :=
  linked.update fun socket _ => (ends socket).fades

/-- When an attempt fails before the first hello, the socket of the first attempt is dead. -/
theorem Told.ended {attempts : Attempts} {place : Nat} {change : Socket → Socket} (told : connection.Told attempts)
    (linked : connection.Linked) (ends : ∀ socket, Ends socket (change socket)) (first : connection.ws = some 0 → place = 0) :
    (connection.update place change).Told attempts.fail := by
  have kept : (connection.update place change).Told attempts := by
    refine told.update (fun socket _ => (ends socket).fades) fun socket _ _ opened => ?_
    have dead := (ends socket).dead
    simp [Socket.isLive, opened] at dead
  refine { kept with first := fun hello => ⟨(told.first hello).1, ?_⟩, failed := fun _ socket found => ?_ }
  · have some : attempts.hellos ≠ 0 := Nat.ne_of_gt hello
    simp [Attempts.fail, (told.first hello).2, some]
  · refine Bool.eq_false_iff.mpr fun live => ?_
    have last := first ((linked.ended ends).live 0 socket found live).1
    subst last
    obtain ⟨before, -, rfl⟩ := socket_of_modify found
    rw [if_pos rfl, (ends before).dead] at live
    cases live

/-- The client makes a new attempt after a failure. -/
theorem Invariant.attempt {attempts : Attempts} (inv : connection.Invariant attempts) (socket : Socket) (unclosed : connection.closed = false)
    (tries : 0 < connection.retries) (isReconnect : socket.isReconnect = true) (connecting : socket.readyState = .connecting)
    (handler : socket.onclose = true) :
    ({ connection with
        ws := some connection.sockets.length, sockets := connection.sockets ++ [socket]
        retries := connection.retries - 1 } : Connection).Invariant attempts := by
  have timed := inv.timed unclosed
  have current := inv.linked.current unclosed
  have started := inv.linked.started
  -- No other socket is live, and none is yet to be handled.
  have unhandled (place : Nat) : ¬ connection.Handles place := fun handles => by
    have idle := (timed.handled place handles).2
    omega
  have dead (place : Nat) (old : Socket) (found : connection.sockets[place]? = some old) : old.isLive = false := by
    refine Bool.eq_false_iff.mpr fun live => unhandled place ⟨old, found, ?_, (inv.linked.live place old found live).2⟩
    intro closed
    simp [Socket.isLive, closed] at live
  have cases {place : Nat} {either : Socket} (found : (connection.sockets ++ [socket])[place]? = some either) :
      connection.sockets[place]? = some either ∨ place = connection.sockets.length ∧ either = socket := by
    rw [List.getElem?_append] at found
    split at found
    · exact .inl found
    · next outside =>
      obtain ⟨bound, same⟩ := List.getElem?_eq_some_iff.mp found
      simp only [List.length_singleton] at bound
      have place : place = connection.sockets.length := by omega
      exact .inr ⟨place, by simpa using same.symm⟩
  have retries := timed.retries
  refine ⟨⟨?_, fun place ws => ?_, fun place either found => ?_, fun place either found live => ?_, fun _ => inv.linked.listening current,
    fun _ => by simp⟩, fun _ => ⟨fun place handles => ?_, ?_, fun _ => ⟨connection.sockets.length, rfl, socket, ?_, ?_, handler⟩⟩,
    { inv.told with known := fun _ => inv.told.known current, later := fun place either found notFirst opened => ?_, failed := fun failed either found => ?_ }⟩
  · simp
  · cases ws
    simp
  · rcases cases found with old | ⟨rfl, rfl⟩
    · exact inv.linked.reconnects place either old
    · simp [isReconnect, Nat.ne_of_gt started]
  · rcases cases found with old | ⟨rfl, rfl⟩
    · rw [dead place either old] at live
      cases live
    · exact ⟨rfl, handler⟩
  · obtain ⟨either, found, state, handles⟩ := handles
    rcases cases found with old | ⟨rfl, rfl⟩
    · exact absurd ⟨either, old, state, handles⟩ (unhandled place)
    · exact ⟨rfl, by dsimp only; omega⟩
  · dsimp only
    omega
  · simp
  · rw [connecting]
    decide
  · rcases cases found with old | ⟨rfl, rfl⟩
    · exact inv.told.later place either old notFirst opened
    · rw [connecting] at opened
      cases opened
  · rcases cases found with old | ⟨same, -⟩
    · exact dead 0 either old
    · omega

end Connection

namespace WebSocketClient

variable {client : WebSocketClient} {attempts : Attempts}

theorem connection_emit {emission : Emission} (first : emission.isFirstOpen = false) (reopened : emission.reopened? = none) :
    (client.emit emission).connection = client.connection := by
  simp [connection, emit, first, reopened]

theorem connection_send {request : Request} (join : request ≠ .join) (reconnect : request.reconnect? = none) :
    (client.send request).connection = client.connection := by
  unfold send
  split <;> simp [connection, join, reconnect]

theorem connection_ping : client.ping.connection = client.connection := by
  unfold ping
  split
  · rw [connection_send (by decide) rfl]
    rfl
  · rfl

theorem connection_stopPingInterval : client.stopPingInterval.connection = { client.connection with pingInterval := false } := by
  unfold stopPingInterval
  split
  · rfl
  · next stopped =>
    simp [connection, stopped]

theorem connection_close : client.close.connection = client.connection.shut := by
  unfold close stopPingInterval onSocket
  cases ws : client.ws <;> cases pings : client.pingInterval <;> simp [connection, Connection.shut, updateSocket, ws, pings]

theorem connection_init (isReconnect : Bool) (unclosed : client.closed = false) :
    (client.init isReconnect).connection =
      { client.connection with
        ws := some client.sockets.length
        sockets := client.sockets ++ [{ connectionID := client.connID, sequenceNumber := client.serverSeqNo, isReconnect }] } := by
  unfold init
  rw [if_neg (by rw [unclosed]; decide)]
  rfl

theorem invariant_sendLeaveAndClose (inv : client.connection.Invariant attempts) :
    client.sendLeaveAndClose.connection.Invariant attempts := by
  unfold sendLeaveAndClose
  cases client.readyState with
  | connecting => exact Connection.Invariant.closed inv.linked inv.told
  | opened =>
    dsimp only
    rw [connection_close, connection_send (by decide) rfl]
    exact .shut inv.linked inv.told
  | closing | closed =>
    dsimp only
    rw [connection_close]
    exact .shut inv.linked inv.told

theorem invariant_disconnect (inv : client.connection.Invariant attempts) : client.disconnect.connection.Invariant attempts := by
  unfold disconnect
  split
  · exact inv
  · exact invariant_sendLeaveAndClose inv

theorem invariant_emitError (type : WebSocketErrorType) (message : String) (inv : client.connection.Invariant attempts) :
    (client.emitError type message).connection.Invariant attempts := by
  have told : (client.emit (.error type message)).connection.Invariant attempts := by
    rw [connection_emit rfl rfl]
    exact inv
  unfold emitError
  dsimp only
  split
  · exact invariant_disconnect told
  · exact told

theorem emitOpen_cases (originalConnID prevConnID : String) (isReconnect : Bool) :
    (client.emitOpen originalConnID prevConnID isReconnect).connection =
        (client.announceOpen originalConnID prevConnID isReconnect).connection ∨
      (client.emitOpen originalConnID prevConnID isReconnect).connection =
        (client.announceOpen originalConnID prevConnID isReconnect).connection.shut := by
  unfold emitOpen
  dsimp only
  split
  · right
    rw [connection_close, connection_send (by decide) rfl]
    rfl
  · exact .inl rfl

theorem invariant_emitOpen {originalConnID prevConnID : String} {isReconnect : Bool}
    (inv : (client.announceOpen originalConnID prevConnID isReconnect).connection.Invariant attempts) :
    (client.emitOpen originalConnID prevConnID isReconnect).connection.Invariant attempts := by
  rcases client.emitOpen_cases originalConnID prevConnID isReconnect with stays | leaves
  · rw [stays]
    exact inv
  · rw [leaves]
    exact .shut inv.linked inv.told

/-- A reconnection is requested, or the request is lost. -/
theorem connection_announceOpen_reconnect (originalConnID prevConnID : String) :
    ∃ requested, (∀ connections ∈ requested, connections ∈ client.connection.requested ∨ connections = (originalConnID, prevConnID)) ∧
      (client.announceOpen originalConnID prevConnID true).connection =
        { client.connection with reopened := client.connection.reopened ++ [(originalConnID, prevConnID)], requested } := by
  refine ⟨(client.announceOpen originalConnID prevConnID true).connection.requested, fun connections member => ?_, ?_⟩
  · unfold announceOpen send at member
    dsimp only at member
    split at member
    · split at member
      · simpa [connection, emit, Request.reconnect?, or_comm] using member
      · exact .inl member
    · exact .inl member
  · unfold announceOpen send
    dsimp only
    split
    · split <;> simp [connection, emit, Emission.isFirstOpen, Emission.reopened?]
    · simp [connection, emit, Emission.isFirstOpen, Emission.reopened?]

theorem connection_announceOpen_join (originalConnID prevConnID : String) (listening : client.listening = true)
    (opened : client.readyState = .opened) :
    (client.announceOpen originalConnID prevConnID false).connection =
      { client.connection with opens := client.connection.opens + 1, joins := client.connection.joins + 1 } := by
  have heard : (client.emit (.opened originalConnID prevConnID false)).listening = true := listening
  have sends : (client.emit (.opened originalConnID prevConnID false)).readyState = .opened := opened
  unfold announceOpen send
  dsimp only
  rw [if_pos heard, if_pos sends]
  simp [connection, emit, Emission.isFirstOpen, Emission.reopened?, Request.reconnect?]

theorem announceOpen_reconnect {originalConnID prevConnID : String} (inv : client.connection.Invariant attempts)
    (known : originalConnID ≠ "" ∧ prevConnID ≠ "") :
    (client.announceOpen originalConnID prevConnID true).connection.Invariant attempts := by
  obtain ⟨requested, only, announced⟩ := client.connection_announceOpen_reconnect originalConnID prevConnID
  rw [announced]
  refine inv.retold { inv.told with reopened := fun connections member => ?_, requested := fun connections member => ?_ }
  · rcases List.mem_append.mp member with before | new
    · exact inv.told.reopened connections before
    · obtain rfl := List.mem_singleton.mp new
      exact known
  · rcases only connections member with before | rfl
    · exact inv.told.requested connections before
    · exact known

/-- A hello on the first attempt. -/
theorem announceOpen_join {connID prevConnID : String} {place : Nat} {socket : Socket} (inv : client.connection.Invariant attempts)
    (ws : client.ws = some place) (found : client.sockets[place]? = some socket) (opened : socket.readyState = .opened)
    (known : client.originalConnID ≠ "" ∧ client.connID ≠ "") (first : place = 0) :
    (client.announceOpen connID prevConnID false).connection.Invariant (attempts.hello place) := by
  have listening : client.listening = true := inv.linked.listening (by rw [show client.connection.ws = some place from ws]; simp)
  have state : client.readyState = .opened := by
    simp [readyState, socket?, ws, found, opened]
  rw [connection_announceOpen_join connID prevConnID listening state]
  subst first
  refine inv.retold { inv.told with opens := ?_, joins := ?_, known := fun _ _ => known, first := fun _ => ⟨?_, ?_⟩, later := ?_ }
  · simp [Attempts.hello, inv.told.opens]
  · simp [Attempts.hello, inv.told.joins]
  · simp [Attempts.hello]
  · refine Bool.eq_false_iff.mpr fun failed => ?_
    have dead := inv.told.failed failed socket found
    simp [Socket.isLive, opened] at dead
  · intro _ _ _ _ _
    simp [Attempts.hello]

theorem invariant_startPingInterval (inv : client.connection.Invariant attempts)
    (handles : client.closed = false → ∃ place, client.ws = some place ∧ client.connection.Handles place) :
    client.startPingInterval.connection.Invariant attempts := by
  unfold startPingInterval
  split
  · exact inv
  · next unclosed =>
    have started : ({ client.stopPingInterval with pingInterval := true } : WebSocketClient).connection =
        { client.connection with pingInterval := true } := by
      change ({ client.stopPingInterval.connection with pingInterval := true } : Connection) = _
      rw [connection_stopPingInterval]
    rw [started]
    refine ⟨⟨inv.linked.started, inv.linked.last, inv.linked.reconnects, inv.linked.live, inv.linked.listening, inv.linked.current⟩, fun unclosed => ?_, { inv.told with }⟩
    exact ⟨(inv.timed unclosed).handled, (inv.timed unclosed).retries, fun _ => handles unclosed⟩

/-- The socket of an attempt opens; where the attempt was made after a failure, a hello has come before. -/
theorem invariant_onopen {place : Nat} {isReconnect : Bool} (inv : client.connection.Invariant attempts)
    (ws : client.ws = some place) (handles : client.connection.Handles place)
    (after : isReconnect = true → 0 < attempts.hellos) : (client.onopen isReconnect).connection.Invariant attempts := by
  have authenticated : (if client.authToken = "" then client else
      client.send (.authenticationChallenge client.authToken)).connection = client.connection := by
    split
    · rfl
    · exact connection_send (by simp) rfl
  unfold onopen
  dsimp only
  rw [connection_ping]
  generalize (if client.authToken = "" then client else client.send (.authenticationChallenge client.authToken)) = asked at authenticated
  have currently : asked.ws = some place := by
    have same := congrArg Connection.ws authenticated
    exact same.trans ws
  cases isReconnect with
  | false =>
    rw [← authenticated] at inv handles
    exact invariant_startPingInterval inv fun _ => ⟨place, currently, handles⟩
  | true =>
    rw [← authenticated] at inv handles
    simp only [if_true]
    have known : asked.originalConnID ≠ "" ∧ asked.connID ≠ "" :=
      inv.told.known (by rw [show asked.connection.ws = some place from currently]; simp) (after rfl)
    let fresh : WebSocketClient := { asked with lastDisconnect := 0, reconnectRetryTime := wsMinReconnectRetryTimeMs }
    have announced : (fresh.announceOpen fresh.originalConnID fresh.connID true).connection.Invariant attempts :=
      announceOpen_reconnect inv known
    refine invariant_startPingInterval (invariant_emitOpen announced) fun unclosed => ?_
    have still : (fresh.emitOpen fresh.originalConnID fresh.connID true).connection.closed = false := unclosed
    rcases fresh.emitOpen_cases fresh.originalConnID fresh.connID true with stays | leaves
    · obtain ⟨requested, -, same⟩ := fresh.connection_announceOpen_reconnect fresh.originalConnID fresh.connID
      have kept := stays.trans same
      refine ⟨place, (congrArg Connection.ws kept).trans currently, ?_⟩
      change (fresh.emitOpen fresh.originalConnID fresh.connID true).connection.Handles place
      rw [kept]
      exact handles
    · rw [leaves] at still
      cases still

/-- A hello tells the client its connection. -/
theorem known_setConnID {connectionID : String} (named : connectionID ≠ "") :
    (client.setConnID connectionID).originalConnID ≠ "" ∧ (client.setConnID connectionID).connID ≠ "" := by
  refine ⟨?_, named⟩
  unfold setConnID
  dsimp only
  split
  · exact named
  · next original => exact original

/-- A hello on a later attempt. -/
theorem invariant_helloAgain {place : Nat} (inv : client.connection.Invariant attempts)
    (known : client.originalConnID ≠ "" ∧ client.connID ≠ "") (later : place ≠ 0) (before : 0 < attempts.hellos) :
    client.connection.Invariant (attempts.hello place) := by
  have same : (attempts.hello place).firstHellos = attempts.firstHellos := if_neg later
  refine ⟨inv.linked, inv.timed, { inv.told with opens := ?_, joins := ?_, known := fun _ _ => known, first := fun _ => ?_, later := ?_ }⟩
  · rw [same]
    exact inv.told.opens
  · rw [same]
    exact inv.told.joins
  · rw [same]
    exact inv.told.first before
  · intro _ _ _ _ _
    exact Nat.succ_pos _

/-- The client after a hello, before it says that it is open. -/
theorem invariant_setConnID (event : String) {data : MessageData} (inv : client.connection.Invariant attempts) (named : data.connectionID ≠ "") :
    ((client.setConnID data.connectionID).emit (.event event data)).connection.Invariant attempts := by
  rw [connection_emit rfl rfl]
  have known := client.known_setConnID named
  exact inv.retold { inv.told with known := fun _ _ => known, original := fun _ => known.1 }

/-- A hello comes in on an open socket. -/
theorem invariant_hello {place : Nat} {socket : Socket} (inv : client.connection.Invariant attempts)
    (known : client.originalConnID ≠ "" ∧ client.connID ≠ "")
    (found : client.sockets[place]? = some socket) (opened : socket.readyState = .opened) :
    (if socket.isReconnect then client else client.emitOpen client.originalConnID client.connID false).connection.Invariant
      (attempts.hello place) := by
  have again := inv.linked.reconnects place socket found
  by_cases first : place = 0
  · rw [again, if_neg (by simp [first])]
    have live : socket.isLive = true := by simp [Socket.isLive, opened]
    have ws := (inv.linked.live place socket found live).1
    exact invariant_emitOpen (announceOpen_join inv ws found opened known first)
  · rw [again, if_pos (by simp [first])]
    exact invariant_helloAgain inv known first (inv.told.later place socket found first opened)

/-- An event of the calls plugin comes in. -/
theorem invariant_event (event : String) (data : MessageData) (inv : client.connection.Invariant attempts) :
    (let client := client.emit (.event event data)
     if data.connID ≠ client.connID ∧ data.connID ≠ client.originalConnID then client
     else if event = eventPrefix ++ "_join" then client.emit .join
     else if event = eventPrefix ++ "_error" then client.emitError .join data.data
     else if event = eventPrefix ++ "_signal" then client.emit (.message data)
     else client).connection.Invariant attempts := by
  have heard : (client.emit (.event event data)).connection.Invariant attempts := by
    rw [connection_emit rfl rfl]
    exact inv
  dsimp only
  split
  · exact heard
  · split
    · rw [connection_emit rfl rfl]
      exact heard
    · split
      · exact invariant_emitError .join data.data heard
      · split
        · rw [connection_emit rfl rfl]
          exact heard
        · exact heard

/-- A message comes in on an open socket. -/
theorem invariant_onmessage {place : Nat} {socket : Socket} (message : ServerMessage) (inv : client.connection.Invariant attempts)
    (found : client.sockets[place]? = some socket) (opened : socket.readyState = .opened)
    (names : ∀ seq data, message = .event seq "hello" (some data) → data.connectionID ≠ "") :
    (client.onmessage socket.isReconnect message).connection.Invariant
      (if message.isHello then attempts.hello place else attempts) := by
  cases message with
  | reply seqReply =>
    unfold onmessage
    dsimp only
    split <;> exact inv
  | event seq event data? =>
    let numbered : WebSocketClient := { client with serverSeqNo := some (seq + 1) }
    have inv : numbered.connection.Invariant attempts := inv
    cases data? with
    | none =>
      rw [if_neg (by simp [ServerMessage.isHello])]
      exact inv
    | some data =>
      unfold onmessage
      by_cases empty : event = ""
      · rw [if_neg (by simp [ServerMessage.isHello, empty])]
        dsimp only
        rw [if_pos empty]
        exact inv
      · dsimp only
        rw [if_neg empty]
        by_cases hello : event = "hello"
        · have named : data.connectionID ≠ "" := names seq data (by rw [hello])
          have counted : (ServerMessage.event seq event (some data)).isHello = true := by simp [ServerMessage.isHello, hello]
          rw [if_pos hello, if_pos counted]
          by_cases new : data.connectionID ≠ client.connID
          · rw [if_pos new]
            exact invariant_hello (invariant_setConnID event inv named) (numbered.known_setConnID named) found opened
          · rw [if_neg new]
            have same : client.connID = data.connectionID := (not_not.mp new).symm
            have known : client.connID ≠ "" := by rw [same]; exact named
            exact invariant_hello inv ⟨inv.told.original known, known⟩ found opened
        · have uncounted : ¬ (ServerMessage.event seq event (some data)).isHello = true := by simp [ServerMessage.isHello, hello]
          rw [if_neg hello, if_neg uncounted]
          split
          · exact inv
          · exact invariant_event event data inv

/-- Where no closing is yet to be handled, another attempt may be made. -/
theorem invariant_reconnect (now : Int) (linked : client.connection.Linked) (told : client.connection.Told attempts)
    (retries : client.retries = 0) (handled : ∀ place, ¬ client.connection.Handles place) (stopped : client.pingInterval = false) :
    (client.reconnect now).connection.Invariant attempts := by
  let noted : WebSocketClient := if client.lastDisconnect = 0 then { client with lastDisconnect := now } else client
  have same : noted.connection = client.connection := by
    unfold noted
    split <;> rfl
  have tries : noted.connection.retries = 0 := by rw [same]; exact retries
  rw [← same] at linked told handled
  change (if wsReconnectionTimeout ≤ now - noted.lastDisconnect then _ else _ : WebSocketClient).connection.Invariant attempts
  split
  · exact invariant_emitError _ _ (Connection.Invariant.closed linked told)
  · refine ⟨⟨linked.started, linked.last, linked.reconnects, linked.live, linked.listening, linked.current⟩, fun _ => ⟨fun place handles => ?_, ?_, fun pings => ?_⟩, { told with }⟩
    · exact absurd handles (handled place)
    · change noted.connection.retries + 1 ≤ 1
      omega
    · have stays : noted.connection.pingInterval = true := pings
      rw [same] at stays
      exact absurd (stopped.symm.trans stays) (by decide)

theorem invariant_closeHandler (code : Nat) (now : Int) (linked : client.connection.Linked) (told : client.connection.Told attempts)
    (retries : client.closed = false → client.retries = 0)
    (handled : client.closed = false → ∀ place, ¬ client.connection.Handles place) :
    (client.closeHandler code now).connection.Invariant attempts := by
  have stopped : (client.stopPingInterval.emit (.close code)).connection = { client.connection with pingInterval := false } := by
    rw [connection_emit rfl rfl, connection_stopPingInterval]
  have closes : (client.stopPingInterval.emit (.close code)).closed = client.closed := congrArg Connection.closed stopped
  have tries : (client.stopPingInterval.emit (.close code)).retries = client.retries := congrArg Connection.retries stopped
  have pings : (client.stopPingInterval.emit (.close code)).pingInterval = false := congrArg Connection.pingInterval stopped
  unfold closeHandler
  dsimp only
  have linked : (client.stopPingInterval.emit (.close code)).connection.Linked := by
    rw [stopped]
    exact ⟨linked.started, linked.last, linked.reconnects, linked.live, linked.listening, linked.current⟩
  have told : (client.stopPingInterval.emit (.close code)).connection.Told attempts := by
    rw [stopped]
    exact { told with }
  split
  · next closed =>
    refine ⟨linked, fun unclosed => ?_, told⟩
    exact absurd (closed.symm.trans unclosed) (by decide)
  · next unclosed =>
    rw [closes, Bool.not_eq_true] at unclosed
    refine invariant_reconnect now linked told (tries.trans (retries unclosed)) (fun place => ?_) pings
    rw [stopped]
    exact handled unclosed place

/-- The socket of an attempt is closed. -/
theorem invariant_closed {place : Nat} {socket : Socket} (code : Nat) (now : Int) (inv : client.connection.Invariant attempts)
    (found : client.sockets[place]? = some socket) (unclosed : socket.readyState ≠ .closed) :
    (let client := client.updateSocket place fun socket => { socket with readyState := .closed }
     if socket.onclose then client.closeHandler code now else client).connection.Invariant attempts.fail := by
  have ends (socket : Socket) : Connection.Ends socket { socket with readyState := .closed } := ⟨rfl, by simp [Socket.isLive]⟩
  have first (ws : client.connection.ws = some 0) : place = 0 := by
    have only : 1 = client.sockets.length := inv.linked.last 0 ws
    have bound : place < client.sockets.length := (List.getElem?_eq_some_iff.mp found).1
    omega
  have linked : (client.connection.update place fun socket => { socket with readyState := .closed }).Linked := inv.linked.ended ends
  have told := inv.told.ended inv.linked ends first
  -- What is yet to be handled is not this closing.
  have others {other : Nat} (handles : (client.connection.update place fun socket => { socket with readyState := .closed }).Handles other) :
      client.connection.Handles other ∧ other ≠ place := by
    refine ⟨handles.of_update fun _ _ state _ => absurd rfl state, ?_⟩
    intro same
    obtain rfl := same
    obtain ⟨after, known, state, -⟩ := handles
    obtain ⟨before, -, rfl⟩ := Connection.socket_of_modify known
    exact state (by rw [if_pos rfl])
  dsimp only
  split
  · next handler =>
    have handles : client.connection.Handles place := ⟨socket, found, unclosed, handler⟩
    refine invariant_closeHandler code now linked told (fun still => ((inv.timed still).handled place handles).2) fun still other left => ?_
    obtain ⟨before, different⟩ := others left
    have current := ((inv.timed still).handled place handles).1
    rw [((inv.timed still).handled other before).1] at current
    exact different (Option.some.inj current)
  · next unhandled =>
    refine ⟨linked, fun still => ?_, told⟩
    have timed := inv.timed still
    refine ⟨fun other handles => timed.handled other (others handles).1, timed.retries, fun pings => ?_⟩
    obtain ⟨other, ws, handles⟩ := timed.pings pings
    refine ⟨other, ws, handles.update fun before known _ handler => ?_⟩
    obtain rfl := Option.some.inj (found.symm.trans known)
    exact absurd handler unhandled

/-- The client does not wait for the closing of a socket on which no pong came. -/
theorem invariant_pingTick (now : Int) (inv : client.connection.Invariant attempts) (pings : client.pingInterval = true) :
    (client.pingTick now).connection.Invariant
      (if client.waitingForPong ∧ client.ws ≠ none then attempts.fail else attempts) := by
  unfold pingTick
  split
  · next waits =>
    obtain ⟨place, ws⟩ := Option.ne_none_iff_exists'.mp waits.2
    have ends (socket : Socket) : Connection.Ends socket { socket.close with onclose := false } := by
      refine ⟨rfl, ?_⟩
      cases state : socket.readyState <;> simp [state, Socket.close, Socket.isLive]
    have first (zero : client.connection.ws = some 0) : place = 0 := Option.some.inj (ws.symm.trans zero)
    have current : (client.onSocket fun socket => { socket.close with onclose := false }) =
        client.updateSocket place fun socket => { socket.close with onclose := false } := by
      simp only [onSocket, ws]
    rw [current]
    refine invariant_closeHandler 4000 now (inv.linked.ended ends) (inv.told.ended inv.linked ends first) (fun still => ?_) fun still other handles => ?_
    · obtain ⟨other, -, handles⟩ := (inv.timed still).pings pings
      exact ((inv.timed still).handled other handles).2
    · have before : client.connection.Handles other :=
        handles.of_update fun _ _ _ handler => by cases handler
      obtain rfl := Option.some.inj (ws.symm.trans ((inv.timed still).handled other before).1)
      obtain ⟨after, known, -, handler⟩ := handles
      obtain ⟨before, -, rfl⟩ := Connection.socket_of_modify known
      rw [if_pos rfl] at handler
      cases handler
  · rw [connection_ping]
    exact inv

/-- A timer makes a new attempt. -/
theorem invariant_retry (inv : client.connection.Invariant attempts) (tries : 0 < client.retries) :
    client.retry.connection.Invariant attempts := by
  unfold retry
  dsimp only
  split
  · next closed =>
    refine ⟨⟨inv.linked.started, inv.linked.last, inv.linked.reconnects, inv.linked.live, inv.linked.listening, inv.linked.current⟩, fun still => ?_, { inv.told with }⟩
    exact absurd (closed.symm.trans still) (by decide)
  · next unclosed =>
    rw [Bool.not_eq_true] at unclosed
    rw [@connection_init { client with retries := client.retries - 1 } true unclosed]
    exact inv.attempt { connectionID := client.connID, sequenceNumber := client.serverSeqNo, isReconnect := true } unclosed tries rfl rfl rfl

/-- The socket of an attempt opens. -/
theorem invariant_opened {place : Nat} {socket : Socket} (inv : client.connection.Invariant attempts)
    (found : client.sockets[place]? = some socket) (connecting : socket.readyState = .connecting)
    (after : socket.isReconnect = true → 0 < attempts.hellos) :
    ((client.updateSocket place fun socket => { socket with readyState := .opened }).onopen socket.isReconnect).connection.Invariant
      attempts := by
  have live : socket.isLive = true := by simp [Socket.isLive, connecting]
  obtain ⟨ws, handler⟩ := inv.linked.live place socket found live
  have only {other : Socket} (known : client.connection.sockets[place]? = some other) : other = socket :=
    Option.some.inj (known.symm.trans found)
  have handles : client.connection.Handles place := ⟨socket, found, by rw [connecting]; decide, handler⟩
  have keeps : (client.connection.update place fun socket => { socket with readyState := .opened }).Handles place :=
    handles.update fun _ _ _ handler => ⟨by simp, handler⟩
  refine invariant_onopen ⟨?_, fun still => ?_, ?_⟩ ws keeps after
  · refine inv.linked.update fun other known => ⟨rfl, fun _ => ⟨?_, rfl⟩⟩
    rw [only known]
    exact live
  · have timed := inv.timed still
    refine ⟨fun other handled => timed.handled other (handled.of_update fun before known _ handler => ?_), timed.retries, fun _ => ⟨place, ws, keeps⟩⟩
    rw [only known, connecting]
    rw [only known] at handler
    exact ⟨by decide, handler⟩
  · refine inv.told.update (fun other known => ⟨rfl, fun _ => ⟨?_, rfl⟩⟩) fun other known later _ => ?_
    · rw [only known]
      exact live
    · refine .inr (after ?_)
      rw [inv.linked.reconnects place socket found]
      exact decide_eq_true later

theorem invariant_step {after : WebSocketClient} {step : SocketStep} (inv : client.connection.Invariant attempts)
    (known : OpensAfterHello (client, attempts) step) (taken : client.next? step = some after) :
    after.connection.Invariant (attempts.note client step) := by
  cases step with
  | opened place =>
    obtain ⟨socket, found, taken⟩ := Option.bind_eq_some_iff.mp taken
    obtain ⟨_, connecting, taken⟩ := Option.bind_eq_some_iff.mp taken
    cases taken
    exact invariant_opened inv found ((Option.guard_eq_some' _).mp connecting) (known socket found)
  | received place message =>
    obtain ⟨socket, found, taken⟩ := Option.bind_eq_some_iff.mp taken
    obtain ⟨_, opened, taken⟩ := Option.bind_eq_some_iff.mp taken
    cases taken
    exact invariant_onmessage message inv found ((Option.guard_eq_some' _).mp opened) known
  | errored place =>
    obtain ⟨socket, found, taken⟩ := Option.bind_eq_some_iff.mp taken
    cases taken
    exact invariant_emitError .native "websocket error" inv
  | closing place =>
    obtain ⟨socket, found, taken⟩ := Option.bind_eq_some_iff.mp taken
    obtain ⟨-, -, taken⟩ := Option.bind_eq_some_iff.mp taken
    cases taken
    exact inv.closing place
  | closed place code now =>
    obtain ⟨socket, found, taken⟩ := Option.bind_eq_some_iff.mp taken
    obtain ⟨_, unclosed, taken⟩ := Option.bind_eq_some_iff.mp taken
    cases taken
    exact invariant_closed code now inv found ((Option.guard_eq_some' _).mp unclosed)
  | pingTick now =>
    obtain ⟨_, pings, taken⟩ := Option.bind_eq_some_iff.mp taken
    cases taken
    exact invariant_pingTick now inv ((Option.guard_eq_some' _).mp pings)
  | retry =>
    obtain ⟨_, tries, taken⟩ := Option.bind_eq_some_iff.mp taken
    cases taken
    exact invariant_retry inv ((Option.guard_eq_some' _).mp tries)
  | disconnect =>
    cases taken
    exact invariant_disconnect inv

end WebSocketClient

def AttemptsInvariant (state : WebSocketClient × Attempts) : Prop := state.1.connection.Invariant state.2

/-- The first attempt is made. -/
theorem invariant_init (authToken : String) : (WebSocketClient.init false { authToken }).connection.Invariant {} := by
  have only {place : Nat} {socket : Socket}
      (found : (WebSocketClient.init false { authToken }).connection.sockets[place]? = some socket) :
      place = 0 ∧ socket = { connectionID := "", sequenceNumber := some 0, isReconnect := false } := by
    cases place with
    | zero => exact ⟨rfl, (Option.some.inj found).symm⟩
    | succ place => cases found
  refine ⟨⟨Nat.one_pos, fun place ws => ?_, fun place socket found => ?_, fun place socket found _ => ?_, fun _ => rfl, fun _ => Option.some_ne_none 0⟩,
    fun _ => ⟨fun place handles => ?_, Nat.zero_le 1, fun pings => by cases pings⟩, ?_⟩
  · cases ws
    rfl
  · obtain ⟨rfl, rfl⟩ := only found
    rfl
  · obtain ⟨rfl, rfl⟩ := only found
    exact ⟨rfl, rfl⟩
  · obtain ⟨socket, found, -⟩ := handles
    obtain ⟨rfl, rfl⟩ := only found
    exact ⟨rfl, rfl⟩
  · refine ⟨rfl, rfl, fun _ hello => (nomatch hello), fun known => absurd rfl known, fun _ => (absurd · List.not_mem_nil), fun _ => (absurd · List.not_mem_nil),
      fun hello => (nomatch hello), fun place socket found later => absurd (only found).1 later, fun failed => (nomatch failed)⟩

/-- In every run in which no later attempt opens before the first hello, the client joins with the first hello and never
reconnects without knowing its connections. -/
theorem joinsOnce_of_opensAfterHello (authToken : String) {state : WebSocketClient × Attempts}
    (reached : ((attemptRuns authToken).restrict OpensAfterHello).Reachable state) :
    JoinsOnce state.1 state.2 ∧ JoinsFirst state.1 state.2 := by
  have inv : AttemptsInvariant state := by
    refine System.Reachable.invariant_of_allowed ?_ ?_ reached
    · intro facts both
      obtain ⟨client, attempts⟩ := facts
      obtain ⟨rfl, rfl⟩ := both
      exact invariant_init authToken
    · intro state step next inv allowed taken
      obtain ⟨client, attempts⟩ := state
      obtain ⟨after, later⟩ := next
      obtain ⟨moved, noted⟩ := System.observed_next?.mp taken
      dsimp only at noted
      rw [noted]
      exact WebSocketClient.invariant_step inv allowed moved
  have told := inv.told
  refine ⟨⟨fun failed hello => ?_, told.reopened, told.requested⟩, told.opens, told.joins, fun hello => (told.first hello).1⟩
  rw [(told.first hello).2] at failed
  cases failed

/-- The hello of a connection. -/
def helloFrom (place : Nat) (connectionID : String) : SocketStep :=
  .received place (.event 0 "hello" (some { connectionID, connID := "", data := "" }))

/-- The connection is lost after the first hello, and the client reconnects. -/
theorem joinsOnce_of_lostConnection :
    ∃ state : WebSocketClient × Attempts, (JoinsOnce state.1 state.2 ∧ JoinsFirst state.1 state.2) ∧ state.2.hellos = 2 := by
  have meets : (attemptRuns "").MeetsAlong OpensAfterHello (WebSocketClient.init false { authToken := "" }, {})
      [.opened 0, helloFrom 0 "first", .closed 0 1006 1000, .retry, .opened 1, helloFrom 1 "second"] := by
    refine ⟨fun socket found again => ?_, fun _ taken => ?_⟩
    · cases found
      cases again
    · cases taken
      refine ⟨fun seq data same => ?_, fun _ taken => ?_⟩
      · cases same
        decide
      · cases taken
        refine ⟨trivial, fun _ taken => ?_⟩
        cases taken
        refine ⟨trivial, fun _ taken => ?_⟩
        cases taken
        refine ⟨fun _ _ _ => by decide, fun _ taken => ?_⟩
        cases taken
        refine ⟨fun seq data same => ?_, fun _ _ => trivial⟩
        cases same
        decide
  exact ⟨_, joinsOnce_of_opensAfterHello "" (System.Reachable.restrict_run (.init ⟨rfl, rfl⟩) meets rfl), rfl⟩

/-- The first attempt fails, and the client reconnects to a call that it has never joined. -/
theorem not_joinsOnce : ¬ ∀ authToken state, (attemptRuns authToken).Reachable state → JoinsOnce state.1 state.2 := by
  intro joins
  have start : (attemptRuns "").Reachable (WebSocketClient.init false { authToken := "" }, {}) := .init ⟨rfl, rfl⟩
  let steps : List SocketStep := [.closed 0 1006 1000, .retry, .opened 1, helloFrom 1 "conn-1"]
  have ran := start.run (show (attemptRuns "").run? _ steps = some _ from rfl)
  exact absurd ((joins "" _ ran).once (by decide) (by decide)) (by decide)

end Calls.Webapp
