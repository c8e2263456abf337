import Calls.Library.System
import Calls.Library.Tasks
import Calls.Server.CleanUp
import Calls.Server.RtcdHosts

/-! The goroutines that share the clients of a node for the rtcd hosts: the one that sets the manager up,
the one that checks which hosts are advertised, the reconnections of the clients, and the node's own requests. -/

set_option autoImplicit false

namespace Calls

/-- A client that was made for an address. -/
structure HostClient where
  ip : String
  connected : Bool := false
  /-- It could not connect after it had registered. -/
  refused : Bool := false
  closed : Bool := false
  /-- How many readers were started on it. -/
  readers : Nat := 0
  deriving DecidableEq

/-- The manager of a node, and the clients that were made. A client is named by its place. -/
structure RTCDNode where
  hosts : KeyedTable fun host : FlaggedRTCDHost Nat => host.ip := .empty
  clients : List HostClient := []
  /-- How often the lock of the map is held for reading. -/
  rlocks : Nat := 0
  begun : Bool := false
  started : Bool := false
  checking : Bool := false
  stopped : Bool := false
  closed : Bool := false
  crashed : Bool := false
  rtcdVersionInfo : Option String := none
  /-- To which host messages were sent, and through which client. -/
  sent : List (String × Nat) := []
  /-- The hosts that new calls were given, with the client that the host had by then. -/
  assigned : List (String × Option Nat) := []
  /-- What the last check found, and what was added since. -/
  advertised : List String := []
  added : List String := []

inductive RTCDRequest where
  /-- A goroutine waits for its turn, sleeps or takes a lock for reading. -/
  | turn
  /-- A goroutine takes the lock of the map for writing. -/
  | lock
  | resolveURL
  /-- In which order a loop visits the keys of a map. -/
  | range (keys : List String)
  | config
  | registrationLock
  | newClient
  | connect (client : Nat)
  | register (client : Nat)
  | storeConfig
  | versionInfo (client : Nat)
  | systemInfo (client : Nat)
  | intn (n : Nat)
  deriving DecidableEq

inductive RTCDAnswer (α : Type) where
  | done
  | failed (err : String)
  | ips (ips : List String)
  | order (keys : List String)
  | version (buildVersion : String)
  | systemInfo (info : RTCDSystemInfo α)
  | chosen (n : Nat)

/-- What the answers to a request look like. Only what can fail is answered by an error. -/
def RTCDRequest.fits {α : Type} : RTCDRequest → RTCDAnswer α → Bool
  | .turn, .done | .lock, .done => true
  | .resolveURL, .ips _ => true
  | .range keys, .order order => order.isPerm keys
  | .config, .done | .registrationLock, .done | .newClient, .done | .connect _, .done | .register _, .done | .storeConfig, .done => true
  | .versionInfo _, .version _ => true
  | .systemInfo _, .systemInfo _ => true
  | .intn n, .chosen k => k < n
  | .turn, .failed _ | .lock, .failed _ | .range _, .failed _ | .intn _, .failed _ => false
  | _, .failed _ => true
  | _, _ => false

/-- What the node's version of the plugin asks of the hosts. -/
structure RTCDVersions (ν : Type) where
  semver : Semver ν
  minRTCDVersion : Option String

abbrev RTCDAsync (α : Type) := Async RTCDNode RTCDRequest (RTCDAnswer α) String

def maxReconnectAttempts : Nat := 8

namespace RTCDNode

/-! ### The node -/

def updateClient (client : Nat) (change : HostClient → HostClient) (m : RTCDNode) : RTCDNode :=
  { m with clients := m.clients.modify client change }

def create (ip : String) (m : RTCDNode) : RTCDNode := { m with clients := m.clients ++ [{ ip }] }

def closeClient (client : Nat) : RTCDNode → RTCDNode :=
  updateClient client fun row => { row with closed := true, connected := false }

/-- The client is added to the map and its reader started. -/
def enter (host : String) (client : Nat) (m : RTCDNode) : RTCDNode :=
  updateClient client (fun row => { row with readers := row.readers + 1 })
    { m with hosts := m.hosts.put { ip := host, client }, added := host :: m.added }

def closeAll (m : RTCDNode) : RTCDNode :=
  m.hosts.rows.foldl (fun m host => m.closeClient host.client) { m with closed := true }

def isConnected (m : RTCDNode) (client : Nat) : Bool := m.clients[client]?.any (·.connected)

def flagged (advertised : Bool) (host : FlaggedRTCDHost Nat) : FlaggedRTCDHost Nat :=
  if ¬ advertised ∧ ¬ host.flagged then { host with flagged := true }
  else if advertised ∧ host.flagged then { host with flagged := false }
  else host

theorem flagged_eq (advertised : Bool) (host : FlaggedRTCDHost Nat) : flagged advertised host = { host with flagged := !advertised } := by
  cases host with
  | mk host flagged => cases advertised <;> cases flagged <;> rfl

theorem ip_flagged (advertised : Bool) (host : FlaggedRTCDHost Nat) : (flagged advertised host).ip = host.ip := by rw [flagged_eq]

def flagHost (ips : List String) (ip : String) (m : RTCDNode) : RTCDNode :=
  { m with hosts := m.hosts.modify ip (flagged (ips.contains ip)) (ip_flagged _) }

section
variable {α ν : Type}

/-! ### The map of hosts -/

def turn : RTCDAsync α Unit := do
  let _ ← Async.await .turn
  pure ()

/-- A request whose failure ends the operation. -/
def request (asked : RTCDRequest) (context : String) : RTCDAsync α Unit := do
  match ← Async.await asked with
  | .failed err => Async.throw (context ++ err)
  | _ => pure ()

def inContext {β : Type} (context : String) (computation : RTCDAsync α β) : RTCDAsync α β :=
  Async.tryCatch computation fun err => Async.throw (context ++ err)

/-- An error is logged and no more. -/
def logged {β : Type} (computation : RTCDAsync α β) : RTCDAsync α Unit := do
  let _ ← computation.attempt
  pure ()

def getHost (ip : String) : RTCDAsync α (Option (FlaggedRTCDHost Nat)) := do
  turn
  let m ← Async.get
  pure (m.hosts.find? ip)

def removeHost (host : String) : RTCDAsync α Unit := do
  let _ ← Async.await .lock
  let m ← Async.get
  match m.hosts.find? host with
  | none => Async.throw "missing rtcd host"
  | some h => Async.modify fun m => { m.closeClient h.client with hosts := m.hosts.erase host }

def addHost (host : String) (client : Nat) : RTCDAsync α Unit := do
  let _ ← Async.await .lock
  let m ← Async.get
  if m.hosts.contains host then do
    Async.modify (closeClient client)
    Async.throw "rtcd host was added already"
  else Async.modify (enter host client)

/-! ### New clients -/

/-- `registerRTCDClient`, which returns the client where it connects in the end. -/
def registerRTCDClient (ip : String) : RTCDAsync α Nat := do
  request .registrationLock "failed to acquire cluster lock: "
  request .newClient "failed to create rtcd client: "
  let m ← Async.get
  let client := m.clients.length
  Async.modify (create ip)
  match ← Async.await (.connect client) with
  | .failed _ => do
    match ← Async.await (.register client) with
    | .failed err => do
      Async.modify (closeClient client)
      Async.throw ("failed to register rtcd client: " ++ err)
    | _ => do
      match ← Async.await .storeConfig with
      | .failed err => do
        Async.modify (closeClient client)
        Async.throw err
      | _ => do
        match ← Async.await (.connect client) with
        | .failed err => do
          Async.modify (updateClient client fun row => { row with refused := true })
          Async.throw err
        | _ => do
          Async.modify (updateClient client fun row => { row with connected := true })
          pure client
  | _ => do
    Async.modify (updateClient client fun row => { row with connected := true })
    pure client

def isDevBuild (buildVersion : String) : Bool :=
  buildVersion = "" ∨ buildVersion = "master" ∨ "dev".toList.isPrefixOf buildVersion.toList

def checkVersion (versions : RTCDVersions ν) (buildVersion : String) : Except String Unit :=
  match versions.minRTCDVersion with
  | none => .error "failed to get min_rtcd_version from manifest"
  | some minRTCDVersion =>
    if isDevBuild buildVersion then .ok ()
    else (checkMinVersion versions.semver minRTCDVersion buildVersion).mapError ("minimum version check failed: " ++ ·)

def versionCheck (versions : RTCDVersions ν) (client : Nat) : RTCDAsync α Unit := do
  match ← Async.await (.versionInfo client) with
  | .version buildVersion => do
    Async.modify fun m => { m with rtcdVersionInfo := some buildVersion }
    match checkVersion versions buildVersion with
    | .ok () => pure ()
    | .error err => Async.throw err
  | .failed err => Async.throw ("failed to get rtcd version info: " ++ err)
  | _ => pure ()

def newRTCDClient (versions : RTCDVersions ν) (host : String) : RTCDAsync α Nat := do
  request .config "failed to get rtcd client config: "
  let client ← registerRTCDClient host
  match ← (versionCheck versions client).attempt with
  | .ok () => pure client
  | .error err => do
    Async.modify (closeClient client)
    Async.throw ("version compatibility check failed: " ++ err)

/-- The rest of a reconnection: a client that registers anew takes the place of the host's. -/
def replaceClient (versions : RTCDVersions ν) (host : String) : RTCDAsync α Unit := do
  match ← (registerRTCDClient host).attempt with
  | .error _ => pure ()
  | .ok client => do
    logged (versionCheck versions client)
    logged (removeHost host)
    -- The error of the removal has been overwritten by that of the addition.
    match ← (addHost host client).attempt with
    | .error _ => Async.modify (closeClient client)
    | .ok () => Async.throw "client replaced"

def reconnectCb (versions : RTCDVersions ν) (host : String) (attempt : Nat) : RTCDAsync α Unit := do
  if attempt ≥ maxReconnectAttempts then do
    logged (removeHost host)
    Async.throw "max reconnection attempts reached, removing client"
  else do
    match ← getHost host with
    | none => Async.throw "host is missing"
    | some h =>
      if h.flagged then do
        logged (removeHost host)
        Async.throw "host was flagged"
      else replaceClient versions host

/-! ### The start and the checks of the manager -/

def addHosts (versions : RTCDVersions ν) : List String → RTCDAsync α Unit
  | [] => pure ()
  | ip :: ips => do
    let client ← newRTCDClient versions ip
    inContext "failed to add host: " (addHost ip client)
    addHosts versions ips

/-- `newRTCDClientManager`, which closes all clients again if it fails. -/
def newRTCDClientManager (versions : RTCDVersions ν) : RTCDAsync α Unit := do
  Async.modify fun m => { m with begun := true }
  match ← Async.await .resolveURL with
  | .failed err => Async.throw ("failed to resolve URL: " ++ err)
  | .ips ips => do
    match ← (addHosts versions ips).attempt with
    | .ok () => Async.modify fun m => { m with started := true }
    | .error err => do
      Async.modify closeAll
      Async.throw err
  | _ => pure ()

/-- Each host is flagged that is not advertised any more. -/
def flagHosts (ips : List String) : List String → RTCDAsync α Unit
  | [] => pure ()
  | ip :: left => do
    turn
    Async.modify (flagHost ips ip)
    flagHosts ips left

def addMissing (versions : RTCDVersions ν) : List String → RTCDAsync α Unit
  | [] => pure ()
  | ip :: ips => do
    match ← getHost ip with
    | some _ => pure ()
    | none => do
      -- The jitter before the registration.
      turn
      match ← (newRTCDClient versions ip).attempt with
      | .error _ => pure ()
      | .ok client => logged (addHost ip client)
    addMissing versions ips

def rLock : RTCDAsync α Unit := do
  turn
  Async.modify fun m => { m with rlocks := m.rlocks + 1 }

def rUnlock (m : RTCDNode) : RTCDNode := { m with rlocks := m.rlocks - 1 }

/-- The keys of a map in the order in which a loop visits them. -/
def range (keys : List String) : RTCDAsync α (List String) := do
  match ← Async.await (.range keys) with
  | .order order => pure order
  | _ => pure []

/-- The first loop of a check, and what it leaves noted. -/
def checkHosts (ips : List String) : RTCDAsync α Unit := do
  rLock
  let m ← Async.get
  flagHosts ips (← range (m.hosts.rows.map (·.ip)))
  Async.modify fun m => { m.rUnlock with advertised := ips, added := [] }

/-- One round of `hostsChecker`. -/
def hostsChecker (versions : RTCDVersions ν) : RTCDAsync α Unit := do
  Async.modify fun m => { m with checking := true }
  match ← Async.await .resolveURL with
  | .ips ips => do
    checkHosts ips
    addMissing versions (← range ips.dedup)
  | _ => pure ()
  Async.modify fun m => { m with checking := false }

/-! ### The requests of the node -/

/-- The hosts that are neither flagged nor offline. -/
def hostsAvailable : List String → RTCDAsync α (List (FlaggedRTCDHost Nat))
  | [] => pure []
  | ip :: ips => do
    turn
    let m ← Async.get
    let found := (m.hosts.find? ip).filter fun host => !host.flagged && m.isConnected host.client
    let others ← hostsAvailable ips
    pure (found.toList ++ others)

/-- Among them one with the least load, if any tells its load. -/
def hostWithMinLoad [LT α] [DecidableLT α] : List (FlaggedRTCDHost Nat) → α → Option (FlaggedRTCDHost Nat) →
    RTCDAsync α (Option (FlaggedRTCDHost Nat))
  | [], _, selected => pure selected
  | host :: hosts, minLoad, selected => do
    match ← Async.await (.systemInfo host.client) with
    | .systemInfo info =>
      if selected = none ∨ info.cpuLoad < minLoad then hostWithMinLoad hosts info.cpuLoad (some host)
      else hostWithMinLoad hosts minLoad selected
    | _ => hostWithMinLoad hosts minLoad selected

def assign (host : String) (m : RTCDNode) : RTCDNode :=
  { m.rUnlock with assigned := m.assigned ++ [(host, (m.hosts.find? host).map (·.client))] }

/-- `GetHostForNewCall`, which keeps the map as it is until it returns. -/
def getHostForNewCall [LT α] [DecidableLT α] [Zero α] : RTCDAsync α Unit := do
  rLock
  let m ← Async.get
  match ← hostsAvailable (← range (m.hosts.rows.map (·.ip))) with
  | [] => do
    Async.modify rUnlock
    Async.throw "no host available"
  | host :: hosts => do
    match ← hostWithMinLoad (host :: hosts) 0 none with
    | some selected => Async.modify (assign selected.ip)
    | none => do
      match ← Async.await (.intn (host :: hosts).length) with
      | .chosen n => Async.modify (assign ((host :: hosts)[n]?.getD host).ip)
      | _ => Async.modify rUnlock

def sendThrough (host : String) (client : Nat) (m : RTCDNode) : RTCDNode := { m with sent := m.sent ++ [(host, client)] }

/-- `Send`. The client that it makes for a missing host is not the one that it sends through. -/
def send (versions : RTCDVersions ν) (host : String) : RTCDAsync α Unit := do
  if host = "" then Async.throw "host should not be empty"
  else do
    match ← getHost host with
    | some h => do
      turn
      Async.modify (sendThrough host h.client)
    | none => do
      let client ← inContext "failed to create new client: " (newRTCDClient versions host)
      inContext "failed to add host: " (addHost host client)
      -- `client.Send` on the variable that was never set.
      Async.modify fun m => { m with crashed := true }

def close : RTCDAsync α Unit := do
  turn
  Async.modify closeAll

/-! ### The node among its goroutines -/

inductive Call where
  | newRTCDClientManager
  /-- The ticker of `hostsChecker`. -/
  | tick
  /-- `hostsChecker` sees that the manager is closed. -/
  | closeCh
  | reconnectCb (client attempt : Nat)
  /-- A connection breaks, or the client has it back. -/
  | connection (client : Nat) (connected : Bool)
  | getHostForNewCall
  | send (host : String)
  | close
  deriving DecidableEq

def takes (m : RTCDNode) : Call → Bool
  | .newRTCDClientManager => !m.begun
  | .tick => m.started && !m.checking && !m.stopped
  | .closeCh => m.started && !m.checking && m.closed
  | .reconnectCb client _ => client < m.clients.length
  | .connection client _ => m.clients[client]?.any fun row => !row.closed && !row.refused
  | .getHostForNewCall | .send _ => m.started
  | .close => m.started && !m.closed

def handle [LT α] [DecidableLT α] [Zero α] (versions : RTCDVersions ν) (m : RTCDNode) : Call → RTCDAsync α Unit
  | .newRTCDClientManager => newRTCDClientManager versions
  | .tick => hostsChecker versions
  | .closeCh => Async.modify fun m => { m with stopped := true }
  | .reconnectCb client attempt =>
    match m.clients[client]? with
    | none => pure ()
    | some row => reconnectCb versions row.ip attempt
  | .connection client connected => Async.modify (updateClient client fun row => { row with connected })
  | .getHostForNewCall => getHostForNewCall
  | .send host => send versions host
  | .close => close

end

end RTCDNode

inductive RTCDStep (α : Type) where
  | call (call : RTCDNode.Call)
  | answer (place : Nat) (answer : RTCDAnswer α)

abbrev RTCDState (α : Type) := AsyncState RTCDNode RTCDRequest (RTCDAnswer α)

section
variable {α ν : Type} [LT α] [DecidableLT α] [Zero α]

/-- A step of a node that has not crashed. The lock of the map is taken for writing while nobody reads it. -/
def rtcdNext? (versions : RTCDVersions ν) (node : RTCDState α) : RTCDStep α → Option (RTCDState α)
  | .call call =>
    if !node.state.crashed && node.state.takes call then
      some (node.start .returns (RTCDNode.handle versions node.state call).toProgram)
    else none
  | .answer place answer =>
    if !node.state.crashed && node.tasks[place]?.any fun task =>
        task.request.fits answer && (task.request ≠ .lock || node.state.rlocks = 0) then
      node.resolve? .returns place answer
    else none

def rtcdNode (versions : RTCDVersions ν) : System (RTCDState α) (RTCDStep α) where
  init node := node = ⟨{}, []⟩
  next? := rtcdNext? versions

end

end Calls
