import Calls.Library.KeyedTable
import Calls.Library.Pointers

/-! The clients that a node keeps for the rtcd hosts, and how a message is routed to
the host of its call. -/

set_option autoImplicit false

namespace Calls

/-- A registered host. Only hosts with a client are registered. -/
structure RTCDHost (κ : Type) where
  ip : String
  client : κ
  deriving DecidableEq

/-- The map of hosts, with the clients that were closed and what was sent through which client. -/
structure RTCDClientManager (κ μ : Type) where
  hosts : KeyedTable (RTCDHost.ip : RTCDHost κ → String)
  closed : List κ
  sent : List (κ × μ)

/-- What one `Send` finds: whether a client can be created, what other goroutines do with the
manager in the meantime, and whether a client accepts a message. -/
structure RTCDEnv (κ μ : Type) where
  newRTCDClient : Except String κ
  meanwhile : RTCDClientManager κ μ → RTCDClientManager κ μ
  rejects : κ → Option String

namespace RTCDClientManager

variable {κ μ : Type}

def getHost (ip : String) (m : RTCDClientManager κ μ) : Option (RTCDHost κ) := m.hosts.find? ip

def close (client : κ) (m : RTCDClientManager κ μ) : RTCDClientManager κ μ :=
  { m with closed := m.closed ++ [client] }

def addHost (host : String) (client : κ) : Command (RTCDClientManager κ μ) Failure Unit :=
  Command.onError (do
    let m ← .get
    if m.hosts.contains host then .throw (.error "rtcd host was added already")
    else .modify fun m => { m with hosts := m.hosts.put { ip := host, client } }) fun _ => .modify (close client)

/-- `client.Send(msg)` through a client that may be nil. -/
def clientSend (env : RTCDEnv κ μ) (client : Option κ) (msg : μ) : Command (RTCDClientManager κ μ) Failure Unit := do
  let client ← Command.deref client
  .modify fun m => { m with sent := m.sent ++ [(client, msg)] }
  match env.rejects client with
  | none => pure ()
  | some err => .throw (.error err)

/-- `Send`: the message goes to the host that handles the call. -/
def send (env : RTCDEnv κ μ) (msg : μ) (host : String) : Command (RTCDClientManager κ μ) Failure Unit :=
  let client : Option κ := none
  if host = "" then .throw (.error "host should not be empty")
  else do
    let m ← .get
    match m.getHost host with
    | none => do
      .modify env.meanwhile
      match env.newRTCDClient with
      | .error err => .throw (.error ("failed to create new client: " ++ err))
      | .ok created => do
        (addHost host created).mapError (.context "failed to add host: ")
        -- `client, err :=` has declared a variable of its own for the new client.
        clientSend env client msg
    | some h => clientSend env (some h.client) msg

section
variable {env : RTCDEnv κ μ} {msg : μ} {host : String} {m : RTCDClientManager κ μ}

theorem addHost_absent (client : κ) (absent : m.hosts.contains host = false) :
    addHost host client m = (.ok (), { m with hosts := m.hosts.put { ip := host, client } }) := by
  simp [addHost, Command.onError, Command.bind_run, absent]

theorem addHost_present (client : κ) (present : m.hosts.contains host = true) :
    addHost host client m = (.error (.error "rtcd host was added already"), m.close client) := by
  simp [addHost, Command.onError, Command.bind_run, present]

theorem clientSend_sent (env : RTCDEnv κ μ) (client : κ) (msg : μ) (m : RTCDClientManager κ μ) :
    (clientSend env (some client) msg m).2 = { m with sent := m.sent ++ [(client, msg)] } ∧
      (clientSend env (some client) msg m).1 ≠ .error .nilDereference := by
  cases rejected : env.rejects client <;> simp [clientSend, Command.bind_run, rejected]

theorem send_present (named : host ≠ "") {h : RTCDHost κ} (present : m.getHost host = some h) :
    send env msg host m = clientSend env (some h.client) msg m := by
  simp [send, named, Command.bind_run, present]

theorem send_uncreated (named : host ≠ "") (missing : m.getHost host = none) {err : String}
    (uncreated : env.newRTCDClient = .error err) :
    send env msg host m = (.error (.error ("failed to create new client: " ++ err)), env.meanwhile m) := by
  simp [send, named, missing, Command.bind_run, uncreated]

/-- A concurrent `Send`, the checker or a reconnection was faster. -/
theorem send_overtaken (named : host ≠ "") (missing : m.getHost host = none) {client : κ}
    (created : env.newRTCDClient = .ok client) (overtaken : (env.meanwhile m).hosts.contains host = true) :
    send env msg host m =
      (.error (.error "failed to add host: rtcd host was added already"), (env.meanwhile m).close client) := by
  simp [send, named, missing, created, Command.bind_run, Command.mapError, addHost_present client overtaken,
    Failure.context]

/-- The new client is added to the map, and the message goes through the variable that was never set. -/
theorem send_added (named : host ≠ "") (missing : m.getHost host = none) {client : κ}
    (created : env.newRTCDClient = .ok client) (absent : (env.meanwhile m).hosts.contains host = false) :
    send env msg host m = (.error .nilDereference,
      { env.meanwhile m with hosts := (env.meanwhile m).hosts.put { ip := host, client } }) := by
  simp [send, named, missing, created, Command.bind_run, Command.mapError, addHost_absent client absent, clientSend]

end

/-- What `Send` is for: the message goes through the client that the host is mapped to. -/
structure SendsToHost (env : RTCDEnv κ μ) (msg : μ) (host : String) (m : RTCDClientManager κ μ) : Prop where
  present : ∀ h, m.getHost host = some h → (send env msg host m).2 = { m with sent := m.sent ++ [(h.client, msg)] }
  missing : m.getHost host = none → ∀ client, env.newRTCDClient = .ok client →
    (addHost host client (env.meanwhile m)).1 = .ok () →
    (send env msg host m).2.getHost host = some { ip := host, client } ∧
      (send env msg host m).2.sent = (env.meanwhile m).sent ++ [(client, msg)]
  neverNil : (send env msg host m).1 ≠ .error .nilDereference

/-- `Send` does what it is for unless it is the one to add the missing host. -/
theorem sendsToHost_iff {env : RTCDEnv κ μ} {host : String} (msg : μ) (m : RTCDClientManager κ μ) (named : host ≠ "") :
    SendsToHost env msg host m ↔
      (m.getHost host).isSome = true ∨ (∃ err, env.newRTCDClient = .error err) ∨
        (env.meanwhile m).hosts.contains host = true := by
  constructor
  · intro sends
    cases missing : m.getHost host with
    | some h => exact .inl rfl
    | none =>
      cases created : env.newRTCDClient with
      | error err => exact .inr (.inl ⟨err, rfl⟩)
      | ok client =>
        refine .inr (.inr ?_)
        by_contra absent
        apply sends.neverNil
        rw [send_added named missing created (Bool.eq_false_iff.mpr absent)]
  · intro fine
    cases found : m.getHost host with
    | some h =>
      have sent : send env msg host m = _ := send_present named found
      obtain ⟨after, notNil⟩ := clientSend_sent env h.client msg m
      refine ⟨?_, fun missing => by simp [found] at missing, sent ▸ notNil⟩
      intro other same
      obtain rfl := Option.some.inj (found.symm.trans same)
      rw [sent, after]
    | none =>
      cases created : env.newRTCDClient with
      | error err =>
        have failed : send env msg host m = _ := send_uncreated named found created
        exact ⟨fun h present => by simp [found] at present, fun _ client same => by simp [created] at same, by simp [failed]⟩
      | ok client =>
        have overtaken : (env.meanwhile m).hosts.contains host = true := by simpa [found, created] using fine
        have failed : send env msg host m = _ := send_overtaken named found created overtaken
        refine ⟨fun h present => by simp [found] at present, ?_, by simp [failed]⟩
        intro _ other _ added
        simp [addHost_present other overtaken] at added

/-! ### A node that comes up -/

/-- Clients are created and nothing else goes on. -/
def alone : RTCDEnv String String :=
  { newRTCDClient := .ok "client-2", meanwhile := id, rejects := fun _ => none }

def oneHost : RTCDClientManager String String :=
  { hosts := KeyedTable.empty.put { ip := "10.0.0.1", client := "client-1" }, closed := [], sent := [] }

theorem sendsToHost_registered :
    SendsToHost alone "join" "10.0.0.1" oneHost ∧ (send alone "join" "10.0.0.1" oneHost).2.sent = [("client-1", "join")] := by
  refine ⟨(sendsToHost_iff "join" oneHost (by decide)).mpr (.inl ?_), ?_⟩ <;> decide

/-- The first message to another host goes through a client that is nil. -/
theorem not_sendsToHost : ¬ SendsToHost alone "join" "10.0.0.2" oneHost := by
  intro sends
  apply sends.neverNil
  decide

end RTCDClientManager

end Calls
