import Mathlib.Algebra.Ring.Nat
import Calls.Server.RtcdClientsProperties

/-! The goroutines that share the clients, one after the other: each of them accounts for what it holds,
whatever the others do while it awaits an answer. -/

set_option autoImplicit false

namespace Calls

def Clientless (held : RTCDClaims) : Prop := ∀ claim ∈ held, claim.isClient = false

def rtcdRules (α : Type) : Accounting RTCDNode RTCDRequest (RTCDAnswer α) RTCDClaims where
  inv := RTCDNode.Kept
  may request held := request.makes = false → Clientless held
  ready request answer m := request.fits answer = true ∧ (request = .lock → m.rlocks = 0)

namespace RTCDNode

/-- The state is one that the clients and the lock have nothing to do with. -/
theorem Kept.alike {m after : RTCDNode} {claims : RTCDClaims} (kept : m.Kept claims)
    (clients : after.hosts = m.hosts ∧ after.clients = m.clients ∧ after.closed = m.closed ∧ after.sent = m.sent ∧
      after.assigned = m.assigned)
    (reading : after.rlocks = m.rlocks ∧ after.checking = m.checking ∧ after.advertised = m.advertised ∧ after.added = m.added) :
    after.Kept claims := ⟨kept.clients.alike clients, kept.reading.alike ⟨clients.1, reading⟩⟩

/-- A change of the clients only. -/
theorem Kept.withClients {m after : RTCDNode} {claims left : RTCDClaims} (kept : m.Kept claims) (clients : after.Clients left)
    (reading : m.Reading claims → m.Reading left)
    (same : after.hosts = m.hosts ∧ after.rlocks = m.rlocks ∧ after.checking = m.checking ∧ after.advertised = m.advertised ∧
      after.added = m.added) : after.Kept left := ⟨clients, (reading kept.reading).alike same⟩

theorem Kept.release {m : RTCDNode} {claims : RTCDClaims} {client : Nat} {ip : String} (kept : m.Kept (claims + {.client client ip}))
    {change : HostClient → HostClient} (same : ∀ row, (change row).ip = row.ip ∧ (change row).readers = row.readers)
    (released : ∀ row, (change row).closed = true ∨ (change row).refused = true) : (m.updateClient client change).Kept claims :=
  kept.withClients (kept.clients.release same released) (reading_beside rfl rfl).mp ⟨rfl, rfl, rfl, rfl, rfl⟩

theorem Kept.closeClient {m : RTCDNode} {claims : RTCDClaims} {client : Nat} {ip : String}
    (kept : m.Kept (claims + {.client client ip})) : (m.closeClient client).Kept claims := by
  apply kept.release
  · exact fun _ => ⟨rfl, rfl⟩
  · exact fun _ => .inl rfl

/-- A client that is closed is held by no goroutine, and closing it again changes nothing. -/
theorem Kept.closeAgain {m : RTCDNode} {claims : RTCDClaims} {client : Nat} (kept : m.Kept claims)
    (closed : ∀ row, m.clients[client]? = some row → row.closed = true) : (m.closeClient client).Kept claims := by
  refine kept.withClients (kept.clients.closeAnyhow (.inr closed) fun ip listed => ?_) id ⟨rfl, rfl, rfl, rfl, rfl⟩
  obtain ⟨row, found, -, notClosed, -⟩ := kept.clients.held client ip listed
  cases notClosed.symm.trans (closed row found)

theorem closed_closeClient {m : RTCDNode} {client : Nat} {row : HostClient} (found : (m.closeClient client).clients[client]? = some row) :
    row.closed = true := by
  rw [RTCDNode.closeClient, getElem?_updateClient, if_pos rfl] at found
  obtain ⟨previous, -, rfl⟩ := Option.map_eq_some_iff.mp found
  rfl

theorem Kept.connected {m : RTCDNode} {claims : RTCDClaims} (kept : m.Kept claims) (client : Nat) (connected : Bool) :
    (m.updateClient client fun row => { row with connected }).Kept claims := by
  refine kept.withClients ?_ id ⟨rfl, rfl, rfl, rfl, rfl⟩
  apply kept.clients.update
  · exact fun _ => ⟨rfl, rfl⟩
  · exact fun _ => ⟨rfl, rfl⟩

theorem Kept.closeAll {m : RTCDNode} {claims : RTCDClaims} (kept : m.Kept claims) : m.closeAll.Kept claims := by
  have same (hosts : List (FlaggedRTCDHost Nat)) (m : RTCDNode) :
      let after := hosts.foldl (fun (m : RTCDNode) host => m.closeClient host.client) m
      after.hosts = m.hosts ∧ after.rlocks = m.rlocks ∧ after.checking = m.checking ∧ after.advertised = m.advertised ∧
        after.added = m.added := by
    induction hosts generalizing m with
    | nil => exact ⟨rfl, rfl, rfl, rfl, rfl⟩
    | cons host hosts ih => exact ih (m.closeClient host.client)
  exact kept.withClients kept.clients.closeAll id (same m.hosts.rows _)

/-! ### The map of hosts -/

section
variable {α ν : Type} {held others : RTCDClaims} {throws : Prop} {m : RTCDNode} {ip host : String} {client : Nat}

theorem turn_keeps (free : Clientless held) : (turn : RTCDAsync α Unit).Keeps (rtcdRules α) held throws := by
  apply Async.Keeps.bind
  · exact .await fun _ => free
  · exact fun _ => .pure

theorem request_keeps (asked : RTCDRequest) (context : String) (free : Clientless held) :
    (request asked context : RTCDAsync α Unit).Keeps (rtcdRules α) held True := by
  apply Async.Keeps.bind
  · exact .await fun _ => free
  · intro answer
    cases answer with
    | failed err => exact .throw trivial
    | done | ips | order | version | systemInfo | chosen => exact .pure

theorem logged_keeps {β : Type} {computation : RTCDAsync α β} (keeps : computation.Keeps (rtcdRules α) held True) :
    (logged computation).Keeps (rtcdRules α) held throws := by
  apply Async.Keeps.bind
  · exact keeps.attempt
  · exact fun _ => .pure

theorem logged_meets {β : Type} {computation : RTCDAsync α β} {post : RTCDNode → RTCDClaims → Prop}
    (meets : computation.Meets (rtcdRules α) (fun _ => post) m others) :
    (logged computation).Meets (rtcdRules α) (fun result m others => result = .ok () ∧ post m others) m others := by
  apply Async.meets_bind
  apply Async.meets_attempt
  apply meets.imp
  exact fun _ _ _ met => Async.meets_pure ⟨rfl, met⟩

/-- What is said of the failure is said of the failure in its context. -/
theorem inContext_meets {β : Type} {computation : RTCDAsync α β} {context : String}
    {post : Except String β → RTCDNode → RTCDClaims → Prop}
    (blind : ∀ err m others, post (.error err) m others → post (.error (context ++ err)) m others)
    (meets : computation.Meets (rtcdRules α) post m others) : (inContext context computation).Meets (rtcdRules α) post m others := by
  apply Async.meets_tryCatch
  apply meets.imp
  intro result m others met
  cases result with
  | ok _ => exact met
  | error err => exact Async.meets_throw (blind err m others met)

/-- What is looked up is in the map by then. -/
theorem getHost_meets (free : Clientless held) (kept : m.Kept (others + held)) :
    (getHost ip : RTCDAsync α (Option (FlaggedRTCDHost Nat))).Meets (rtcdRules α) (fun result m others =>
      ∃ found, result = .ok found ∧ m.Kept (others + held) ∧ ∀ h, found = some h → m.MadeFor h.client ip) m others := by
  apply (turn_keeps free).andThen kept False.elim
  intro _ m others kept
  apply Async.meets_get_bind
  apply Async.meets_pure
  refine ⟨_, rfl, kept, fun h found => ?_⟩
  obtain ⟨member, rfl⟩ := KeyedTable.find?_eq_some_iff.mp found
  exact kept.clients.madeFor member

theorem removeHost_keeps : (removeHost host : RTCDAsync α Unit).Keeps (rtcdRules α) held True := by
  intro m others kept
  apply Async.meets_bind
  apply Async.meets_await held (fun free => by cases free) ?_ kept
  intro _ m others ready kept
  have unlocked := ready.2 rfl
  apply Async.meets_get_bind
  split
  · exact Async.meets_throw ⟨.inl trivial, kept⟩
  · next entry found =>
    apply Async.meets_modify
    obtain ⟨member, rfl⟩ := KeyedTable.find?_eq_some_iff.mp found
    exact ⟨.inl trivial, kept.clients.remove member, kept.reading.remove unlocked entry⟩

/-- The client that is handed over becomes the host's, or it is closed. -/
theorem addHost_meets (kept : m.Kept (others + (held + {.client client host}))) :
    (addHost host client : RTCDAsync α Unit).Meets (rtcdRules α) (fun result m others => m.Kept (others + held) ∧
      ∀ err, result = .error err → ∀ row, m.clients[client]? = some row → row.closed = true) m others := by
  apply Async.meets_bind
  apply Async.meets_await (held + {.client client host}) (fun free => by cases free) ?_ kept
  intro _ m others ready kept
  have unlocked := ready.2 rfl
  replace kept : m.Kept (others + (held + {.client client host})) := kept
  rw [← add_assoc] at kept
  apply Async.meets_get_bind
  split
  · apply Async.meets_modify_bind
    apply Async.meets_throw
    exact ⟨kept.closeClient, fun _ _ row found => closed_closeClient found⟩
  · next absent =>
    apply Async.meets_modify
    have fresh : m.hosts.contains host = false := Bool.not_eq_true _ ▸ absent
    refine ⟨⟨kept.clients.enter fresh, ((reading_beside rfl rfl).mp kept.reading).enter unlocked⟩, fun _ is => ?_⟩
    cases is

/-! ### New clients -/

/-- A client that is returned is held from then on. -/
def Makes (held : RTCDClaims) (ip : String) (result : Except String Nat) (m : RTCDNode) (others : RTCDClaims) : Prop :=
  (∀ client, result = .ok client → m.Kept (others + (held + {.client client ip}))) ∧
    ∀ err, result = .error err → m.Kept (others + held)

theorem makes_error {err : String} (kept : m.Kept (others + held)) : Makes held ip (.error err) m others :=
  ⟨fun _ is => (by cases is), fun _ _ => kept⟩

theorem makes_ok (kept : m.Kept (others + (held + {.client client ip}))) : Makes held ip (.ok client) m others :=
  ⟨fun _ is => Except.ok.inj is ▸ kept, fun _ is => (by cases is)⟩

theorem Kept.create {claims : RTCDClaims} (kept : m.Kept claims) (ip : String) :
    (m.create ip).Kept (claims + {.client m.clients.length ip}) :=
  kept.withClients (kept.clients.create ip) (reading_beside rfl rfl).mpr ⟨rfl, rfl, rfl, rfl, rfl⟩

/-- A client that is held is connected. -/
theorem connected_meets (kept : m.Kept (others + (held + {.client client ip}))) :
    ((do
      Async.modify (updateClient client fun row => { row with connected := true })
      pure client : RTCDAsync α Nat)).Meets (rtcdRules α) (Makes held ip) m others := by
  apply Async.meets_modify_bind
  apply Async.meets_pure
  exact makes_ok (kept.connected client true)

theorem registerRTCDClient_meets (free : Clientless held) (kept : m.Kept (others + held)) :
    (registerRTCDClient ip : RTCDAsync α Nat).Meets (rtcdRules α) (Makes held ip) m others := by
  apply (request_keeps .registrationLock _ free).andThen kept fun _ _ _ _ => makes_error
  intro _ m others kept
  apply (request_keeps .newClient _ free).andThen kept fun _ _ _ _ => makes_error
  intro _ m others kept
  apply Async.meets_get_bind
  apply Async.meets_modify_bind
  have made : (m.create ip).Kept (others + (held + {.client m.clients.length ip})) := by
    rw [← add_assoc]
    exact Kept.create kept ip
  generalize m.clients.length = client at made
  -- While the client is held it may be closed and given up.
  have fails {err : String} (m : RTCDNode) (others : RTCDClaims) (made : m.Kept (others + (held + {.client client ip}))) :
      ((do
        Async.modify (closeClient client)
        Async.throw err : RTCDAsync α Nat)).Meets (rtcdRules α) (Makes held ip) m others := by
    apply Async.meets_modify_bind
    apply Async.meets_throw
    rw [← add_assoc] at made
    exact makes_error made.closeClient
  apply Async.meets_bind
  apply Async.meets_await (held + {.client client ip}) (fun free => by cases free) ?_ made
  intro answer m others _ made
  cases answer with
  | failed _ =>
    apply Async.meets_bind
    apply Async.meets_await (held + {.client client ip}) (fun free => by cases free) ?_ made
    intro answer m others _ made
    cases answer with
    | failed err => exact fails m others made
    | done | ips | order | version | systemInfo | chosen =>
      apply Async.meets_bind
      apply Async.meets_await (held + {.client client ip}) (fun free => by cases free) ?_ made
      intro answer m others _ made
      cases answer with
      | failed err => exact fails m others made
      | done | ips | order | version | systemInfo | chosen =>
        apply Async.meets_bind
        apply Async.meets_await (held + {.client client ip}) (fun free => by cases free) ?_ made
        intro answer m others _ made
        cases answer with
        | failed err =>
          apply Async.meets_modify_bind
          apply Async.meets_throw
          replace made : m.Kept (others + (held + {.client client ip})) := made
          rw [← add_assoc] at made
          refine makes_error (made.release ?_ ?_)
          · exact fun _ => ⟨rfl, rfl⟩
          · exact fun _ => .inr rfl
        | done | ips | order | version | systemInfo | chosen => exact connected_meets made
  | done | ips | order | version | systemInfo | chosen => exact connected_meets made

theorem versionCheck_keeps (versions : RTCDVersions ν) (client : Nat) :
    (versionCheck versions client : RTCDAsync α Unit).Keeps (rtcdRules α) held True := by
  apply Async.Keeps.bind
  · exact .await fun free => by cases free
  · intro answer
    cases answer with
    | version buildVersion =>
      apply Async.Keeps.bind
      · apply Async.Keeps.modify
        exact fun m _ kept => Kept.alike kept ⟨rfl, rfl, rfl, rfl, rfl⟩ ⟨rfl, rfl, rfl, rfl⟩
      · intro _
        split
        · exact .pure
        · exact .throw trivial
    | failed err => exact .throw trivial
    | done | ips | order | systemInfo | chosen => exact .pure

theorem newRTCDClient_meets (versions : RTCDVersions ν) (free : Clientless held) (kept : m.Kept (others + held)) :
    (newRTCDClient versions ip : RTCDAsync α Nat).Meets (rtcdRules α) (Makes held ip) m others := by
  apply (request_keeps .config _ free).andThen kept fun _ _ _ _ => makes_error
  intro _ m others kept
  apply Async.meets_bind
  apply (registerRTCDClient_meets free kept).imp
  intro result m others made
  cases result with
  | error err => exact makes_error (made.2 err rfl)
  | ok client =>
    apply (versionCheck_keeps versions client).attempt.andThen (made.1 client rfl) False.elim
    intro checked m others made
    cases checked with
    | ok _ => exact Async.meets_pure (makes_ok made)
    | error err =>
      apply Async.meets_modify_bind
      apply Async.meets_throw
      replace made : m.Kept (others + (held + {.client client ip})) := made
      rw [← add_assoc] at made
      exact makes_error made.closeClient

/-- The client that takes the place of the host's. -/
theorem replaceClient_keeps (versions : RTCDVersions ν) (free : Clientless held) :
    (replaceClient versions host : RTCDAsync α Unit).Keeps (rtcdRules α) held True := by
  intro m others kept
  apply Async.meets_bind
  apply Async.meets_attempt
  apply (registerRTCDClient_meets free kept).imp
  intro result m others made
  cases result with
  | error err => exact Async.meets_pure ⟨.inl trivial, made.2 err rfl⟩
  | ok client =>
    apply (logged_keeps (versionCheck_keeps versions client)).andThen (made.1 client rfl) False.elim
    intro _ m others made
    apply (logged_keeps removeHost_keeps).andThen made False.elim
    intro _ m others made
    apply Async.meets_bind
    apply Async.meets_attempt
    apply (addHost_meets made).imp
    rintro result m others ⟨kept, closed⟩
    cases result with
    | ok _ => exact Async.meets_throw ⟨.inl trivial, kept⟩
    | error err =>
      apply Async.meets_modify
      exact ⟨.inl trivial, kept.closeAgain (closed err rfl)⟩

theorem reconnectCb_keeps (versions : RTCDVersions ν) (host : String) (attempt : Nat) (free : Clientless held) :
    (reconnectCb versions host attempt : RTCDAsync α Unit).Keeps (rtcdRules α) held True := by
  unfold reconnectCb
  split
  · exact (logged_keeps removeHost_keeps).bind fun _ => .throw trivial
  · intro m others kept
    apply Async.meets_bind
    apply (getHost_meets free kept).imp
    rintro _ m others ⟨found, rfl, kept, -⟩
    dsimp only
    split
    · exact Async.meets_throw ⟨.inl trivial, kept⟩
    · split
      · exact ((logged_keeps removeHost_keeps).bind fun _ => .throw trivial) m others kept
      · exact replaceClient_keeps versions free m others kept

/-! ### The start and the checks of the manager -/

/-- A client is made and handed over to its host. -/
theorem addNew_meets {β : Type} (versions : RTCDVersions ν) (free : Clientless held) {computation : Nat → RTCDAsync α β}
    {post : Except String β → RTCDNode → RTCDClaims → Prop} (fails : ∀ err m others, m.Kept (others + held) → post (.error err) m others)
    (adds : ∀ client m others, m.Kept (others + (held + {.client client ip})) → (computation client).Meets (rtcdRules α) post m others)
    (kept : m.Kept (others + held)) : (newRTCDClient versions ip >>= computation).Meets (rtcdRules α) post m others := by
  apply Async.meets_bind
  apply (newRTCDClient_meets versions free kept).imp
  intro result m others made
  cases result with
  | ok client => exact adds client m others (made.1 client rfl)
  | error err => exact fails err m others (made.2 err rfl)

theorem addHosts_keeps (versions : RTCDVersions ν) (ips : List String) (free : Clientless held) :
    (addHosts versions ips : RTCDAsync α Unit).Keeps (rtcdRules α) held True := by
  induction ips with
  | nil => exact .pure
  | cons ip ips ih =>
    intro m others kept
    apply addNew_meets versions free ?_ ?_ kept
    · exact fun _ _ _ kept => ⟨.inl trivial, kept⟩
    · intro client m others made
      apply Async.meets_bind
      apply inContext_meets
      · exact fun _ _ _ met => ⟨.inl trivial, met.2⟩
      · apply (addHost_meets made).imp
        intro result m others met
        cases result with
        | ok _ => exact ih m others met.1
        | error err => exact ⟨.inl trivial, met.1⟩

theorem newRTCDClientManager_keeps (versions : RTCDVersions ν) (free : Clientless held) :
    (newRTCDClientManager versions : RTCDAsync α Unit).Keeps (rtcdRules α) held True := by
  apply Async.Keeps.bind
  · apply Async.Keeps.modify
    exact fun m _ kept => Kept.alike kept ⟨rfl, rfl, rfl, rfl, rfl⟩ ⟨rfl, rfl, rfl, rfl⟩
  · intro _
    apply Async.Keeps.bind
    · exact .await fun _ => free
    · intro answer
      cases answer with
      | failed err => exact .throw trivial
      | ips ips =>
        apply (addHosts_keeps versions ips free).attempt.bind
        intro result
        cases result with
        | ok _ =>
          apply Async.Keeps.modify
          exact fun m _ kept => Kept.alike kept ⟨rfl, rfl, rfl, rfl, rfl⟩ ⟨rfl, rfl, rfl, rfl⟩
        | error err =>
          apply Async.Keeps.bind
          · apply Async.Keeps.modify
            exact fun m _ kept => Kept.closeAll kept
          · exact fun _ => .throw trivial
      | done | order | version | systemInfo | chosen => exact .pure

theorem addMissing_keeps (versions : RTCDVersions ν) (ips : List String) (free : Clientless held) :
    (addMissing versions ips : RTCDAsync α Unit).Keeps (rtcdRules α) held False := by
  induction ips with
  | nil => exact .pure
  | cons ip ips ih =>
    intro m others kept
    apply Async.meets_bind
    apply (getHost_meets free kept).imp
    rintro _ m others ⟨found, rfl, kept, -⟩
    dsimp only
    split
    · exact ih m others kept
    · apply (turn_keeps free).andThen kept False.elim
      intro _ m others kept
      apply Async.meets_bind
      apply Async.meets_attempt
      apply (newRTCDClient_meets versions free kept).imp
      intro result m others made
      cases result with
      | error err => exact ih m others (made.2 err rfl)
      | ok client =>
        apply Async.meets_bind
        apply (logged_meets ((addHost_meets (made.1 client rfl)).imp fun _ _ _ => And.left)).imp
        rintro _ m others ⟨rfl, kept⟩
        exact ih m others kept

/-- The order in which a loop visits the keys. -/
theorem range_meets (keys : List String) (free : Clientless held) (kept : m.Kept (others + held)) :
    (range keys : RTCDAsync α (List String)).Meets (rtcdRules α) (fun result m others =>
      ∃ order, result = .ok order ∧ order.Perm keys ∧ m.Kept (others + held)) m others := by
  apply Async.meets_bind
  apply Async.meets_await held (fun _ => free) ?_ kept
  intro answer m others ready kept
  cases answer with
  | order order => exact Async.meets_pure ⟨order, rfl, List.isPerm_iff.mp ready.1, kept⟩
  | done | failed | ips | version | systemInfo | chosen => cases ready.1

theorem Kept.flagHost {claims : RTCDClaims} {ips left : List String} (kept : m.Kept (claims + {.flagging ips (ip :: left)}))
    (fresh : ip ∉ left) : (m.flagHost ips ip).Kept (claims + {.flagging ips left}) := by
  have clients := (clients_beside rfl fun _ _ is => by cases is).mp kept.clients
  exact ⟨(clients_beside rfl fun _ _ is => by cases is).mpr (clients.flagHost ips ip), kept.reading.flagHost fresh⟩

theorem flagHosts_meets (ips : List String) {left : List String} (distinct : left.Nodup)
    (kept : m.Kept (others + {.flagging ips left})) :
    (flagHosts ips left : RTCDAsync α Unit).Meets (rtcdRules α) (fun result m others =>
      result = .ok () ∧ m.Kept (others + {.flagging ips []})) m others := by
  induction left generalizing m others with
  | nil => exact Async.meets_pure ⟨rfl, kept⟩
  | cons ip left ih =>
    rw [List.nodup_cons] at distinct
    have free : Clientless {.flagging ips (ip :: left)} := by
      intro claim listed
      rw [Multiset.mem_singleton.mp listed]
      rfl
    apply (turn_keeps free).andThen kept False.elim
    intro _ m others kept
    apply Async.meets_modify_bind
    exact ih distinct.2 (Kept.flagHost kept distinct.1)

theorem clientless_singleton {claim : RTCDClaim} (free : claim.isClient = false) : Clientless {claim} := by
  intro other listed
  rw [Multiset.mem_singleton.mp listed]
  exact free

theorem checkHosts_meets (ips : List String) (kept : m.Kept (others + {.checking})) :
    (checkHosts ips : RTCDAsync α Unit).Meets (rtcdRules α) (fun result m others =>
      result = .ok () ∧ m.Kept (others + {.checking})) m others := by
  apply Async.meets_bind
  apply (turn_keeps (clientless_singleton rfl)).andThen kept False.elim
  intro _ m others kept
  apply Async.meets_modify
  have clients := (clients_beside rfl fun _ _ is => by cases is).mp kept.clients
  have locked : Kept { m with rlocks := m.rlocks + 1 } (others + {.flagging ips (m.hosts.rows.map (·.ip))}) := by
    refine ⟨(clients_beside rfl fun _ _ is => by cases is).mpr ?_, kept.reading.startFlagging ips⟩
    exact clients.alike ⟨rfl, rfl, rfl, rfl, rfl⟩
  apply Async.meets_get_bind
  apply Async.meets_bind
  apply (range_meets _ (clientless_singleton rfl) locked).imp
  rintro _ after others ⟨order, rfl, same, kept⟩
  have distinct : order.Nodup := same.nodup_iff.mpr m.hosts.nodup
  have reordered : after.Kept (others + {.flagging ips order}) :=
    ⟨(clients_beside rfl fun _ _ is => by cases is).mpr ((clients_beside rfl fun _ _ is => by cases is).mp kept.clients),
      kept.reading.reorder same⟩
  apply Async.meets_bind
  apply (flagHosts_meets ips distinct reordered).imp
  rintro _ m others ⟨rfl, kept⟩
  apply Async.meets_modify
  refine ⟨rfl, (clients_beside rfl fun _ _ is => by cases is).mpr ?_, kept.reading.endFlagging⟩
  have clients := (clients_beside rfl fun _ _ is => by cases is).mp kept.clients
  exact clients.alike ⟨rfl, rfl, rfl, rfl, rfl⟩

/-- One round of the checks. -/
theorem hostsChecker_meets (versions : RTCDVersions ν) (idle : m.checking = false) (kept : m.Kept others) :
    (hostsChecker versions : RTCDAsync α Unit).Meets (rtcdRules α) (fun _ m others => m.Kept others) m others := by
  have free : Clientless {.checking} := clientless_singleton rfl
  have ends (m : RTCDNode) (others : RTCDClaims) (kept : m.Kept (others + {.checking})) :
      (Async.modify fun m => { m with checking := false } : RTCDAsync α Unit).Meets (rtcdRules α) (fun _ m others => m.Kept others)
        m others := by
    apply Async.meets_modify
    refine ⟨?_, kept.reading.uncheck⟩
    have clients := (clients_beside rfl fun _ _ is => by cases is).mp kept.clients
    exact clients.alike ⟨rfl, rfl, rfl, rfl, rfl⟩
  apply Async.meets_modify_bind
  have checking : Kept { m with checking := true } (others + {.checking}) := by
    refine ⟨(clients_beside rfl fun _ _ is => by cases is).mpr ?_, kept.reading.check idle⟩
    exact kept.clients.alike ⟨rfl, rfl, rfl, rfl, rfl⟩
  apply Async.meets_bind
  apply Async.meets_await {.checking} (fun _ => free) ?_ checking
  intro answer m others _ kept
  cases answer with
  | ips ips =>
    apply Async.meets_bind
    apply (checkHosts_meets ips kept).imp
    rintro _ m others ⟨rfl, kept⟩
    apply Async.meets_bind
    apply (range_meets ips.dedup free kept).imp
    rintro _ m others ⟨order, rfl, -, kept⟩
    exact (addMissing_keeps versions order free).andThen kept False.elim fun _ => ends
  | done | failed | order | version | systemInfo | chosen => exact ends m others kept

/-! ### The requests of the node -/

theorem hostsAvailable_meets {keys : List String} (ips : List String) (kept : m.Kept (others + {.reading keys})) :
    (hostsAvailable ips : RTCDAsync α (List (FlaggedRTCDHost Nat))).Meets (rtcdRules α) (fun result m others =>
      ∃ hosts, result = .ok hosts ∧ (∀ host ∈ hosts, host.ip ∈ ips) ∧ m.Kept (others + {.reading keys})) m others := by
  induction ips generalizing m others with
  | nil => exact Async.meets_pure ⟨[], rfl, fun _ listed => absurd listed List.not_mem_nil, kept⟩
  | cons ip ips ih =>
    apply (turn_keeps (clientless_singleton rfl)).andThen kept False.elim
    intro _ m others kept
    apply Async.meets_get_bind
    apply Async.meets_bind
    apply (ih kept).imp
    rintro _ after others ⟨hosts, rfl, within, kept⟩
    apply Async.meets_pure
    refine ⟨_, rfl, fun host listed => ?_, kept⟩
    rcases List.mem_append.mp listed with own | old
    · have found := (Option.filter_eq_some_iff.mp (Option.mem_toList.mp own)).1
      rw [← (KeyedTable.find?_eq_some_iff.mp found).2]
      exact List.mem_cons_self
    · exact List.mem_cons_of_mem ip (within host old)

theorem hostWithMinLoad_meets [LT α] [DecidableLT α] {keys : List String} (hosts : List (FlaggedRTCDHost Nat)) (minLoad : α)
    (selected : Option (FlaggedRTCDHost Nat)) (kept : m.Kept (others + {.reading keys})) :
    (hostWithMinLoad hosts minLoad selected : RTCDAsync α (Option (FlaggedRTCDHost Nat))).Meets (rtcdRules α) (fun result m others =>
      ∃ least, result = .ok least ∧ (∀ host, least = some host → host ∈ hosts ∨ selected = some host) ∧
        m.Kept (others + {.reading keys})) m others := by
  induction hosts generalizing m others minLoad selected with
  | nil => exact Async.meets_pure ⟨selected, rfl, fun _ is => .inr is, kept⟩
  | cons host hosts ih =>
    apply Async.meets_bind
    apply Async.meets_await {.reading keys} (fun _ => clientless_singleton rfl) ?_ kept
    intro answer m others _ kept
    have weaken {least : Option (FlaggedRTCDHost Nat)} (from_ : ∀ other, least = some other → other ∈ hosts ∨ selected = some other) :
        ∀ other, least = some other → other ∈ host :: hosts ∨ selected = some other :=
      fun other is => (from_ other is).imp_left (List.mem_cons_of_mem host)
    cases answer with
    | systemInfo info =>
      dsimp only
      split
      · apply (ih info.cpuLoad (some host) kept).imp
        rintro _ m others ⟨least, rfl, within, kept⟩
        refine ⟨least, rfl, fun other is => .inl ?_, kept⟩
        rcases within other is with listed | own
        · exact List.mem_cons_of_mem host listed
        · rw [Option.some.inj own]
          exact List.mem_cons_self
      · apply (ih minLoad selected kept).imp
        rintro _ m others ⟨least, rfl, within, kept⟩
        exact ⟨least, rfl, weaken within, kept⟩
    | done | failed | ips | order | version | chosen =>
      apply (ih minLoad selected kept).imp
      rintro _ m others ⟨least, rfl, within, kept⟩
      exact ⟨least, rfl, weaken within, kept⟩

theorem Kept.assign {claims : RTCDClaims} {keys : List String} (kept : m.Kept (claims + {.reading keys})) (present : host ∈ keys) :
    (m.assign host).Kept claims := by
  have clients := (clients_beside rfl fun _ _ is => by cases is).mp kept.clients
  have contained := kept.reading.found keys (by simp) host present
  exact ⟨clients.assign contained, kept.reading.unlock.alike ⟨rfl, rfl, rfl, rfl, rfl⟩⟩

theorem Kept.unlock {claims : RTCDClaims} {keys : List String} (kept : m.Kept (claims + {.reading keys})) : m.rUnlock.Kept claims := by
  have clients := (clients_beside rfl fun _ _ is => by cases is).mp kept.clients
  exact ⟨clients.alike ⟨rfl, rfl, rfl, rfl, rfl⟩, kept.reading.unlock⟩

theorem getHostForNewCall_meets [LT α] [DecidableLT α] [Zero α] (kept : m.Kept others) :
    (getHostForNewCall : RTCDAsync α Unit).Meets (rtcdRules α) (fun _ m others => m.Kept others) m others := by
  have nothing : Clientless 0 := fun _ listed => absurd listed (Multiset.notMem_zero _)
  apply Async.meets_bind
  apply (turn_keeps nothing).andThen ((add_zero others).symm ▸ kept) False.elim
  intro _ m others kept
  rw [show (rtcdRules α).inv m (others + 0) = m.Kept others from congrArg _ (add_zero others)] at kept
  apply Async.meets_modify
  have locked : Kept { m with rlocks := m.rlocks + 1 } (others + {.reading (m.hosts.rows.map (·.ip))}) := by
    refine ⟨(clients_beside rfl fun _ _ is => by cases is).mpr ?_, kept.reading.lock ?_⟩
    · exact kept.clients.alike ⟨rfl, rfl, rfl, rfl, rfl⟩
    · intro ip listed
      obtain ⟨host, member, rfl⟩ := List.mem_map.mp listed
      exact KeyedTable.contains_iff.mpr ⟨host, member, rfl⟩
  apply Async.meets_get_bind
  apply Async.meets_bind
  apply (range_meets _ (clientless_singleton rfl) locked).imp
  rintro _ after others ⟨order, rfl, same, kept⟩
  apply Async.meets_bind
  apply (hostsAvailable_meets order kept).imp
  rintro _ after others ⟨available, rfl, within, kept⟩
  have inside {host : FlaggedRTCDHost Nat} (listed : host ∈ available) : host.ip ∈ m.hosts.rows.map (·.ip) :=
    same.mem_iff.mp (within host listed)
  cases available with
  | nil =>
    apply Async.meets_modify_bind
    exact Async.meets_throw kept.unlock
  | cons host hosts =>
    apply Async.meets_bind
    apply (hostWithMinLoad_meets (host :: hosts) 0 none kept).imp
    rintro _ after others ⟨least, rfl, chosen, kept⟩
    cases least with
    | some selected =>
      apply Async.meets_modify
      exact kept.assign (inside ((chosen selected rfl).resolve_right fun is => by cases is))
    | none =>
      apply Async.meets_bind
      apply Async.meets_await _ (fun _ => clientless_singleton rfl) ?_ kept
      intro answer m others _ kept
      cases answer with
      | chosen n =>
        apply Async.meets_modify
        apply Kept.assign kept
        apply inside
        cases found : (host :: hosts)[n]? with
        | none => exact List.mem_cons_self
        | some other => exact List.mem_of_getElem? found
      | done | failed | ips | order | version | systemInfo =>
        apply Async.meets_modify
        exact Kept.unlock kept

theorem send_meets (versions : RTCDVersions ν) (host : String) (kept : m.Kept others) :
    (send versions host : RTCDAsync α Unit).Meets (rtcdRules α) (fun _ m others => m.Kept others) m others := by
  have nothing : Clientless 0 := fun _ listed => absurd listed (Multiset.notMem_zero _)
  unfold send
  split
  · exact Async.meets_throw kept
  · apply Async.meets_bind
    apply (getHost_meets nothing ((add_zero others).symm ▸ kept)).imp
    rintro _ m others ⟨found, rfl, kept, made⟩
    cases found with
    | some h =>
      rw [add_zero] at kept
      have looked : m.Kept (others + {.looked h.client host}) :=
        ⟨clients_looked.mpr ⟨kept.clients, made h rfl⟩, (reading_beside rfl rfl).mpr kept.reading⟩
      apply (turn_keeps (clientless_singleton rfl)).andThen looked False.elim
      intro _ m others looked
      apply Async.meets_modify
      obtain ⟨clients, made⟩ := clients_looked.mp looked.clients
      exact ⟨clients.sendThrough made, ((reading_beside rfl rfl).mp looked.reading).alike ⟨rfl, rfl, rfl, rfl, rfl⟩⟩
    | none =>
      apply Async.meets_bind
      apply inContext_meets
      · exact fun _ _ _ => id
      apply (newRTCDClient_meets versions nothing kept).imp
      intro result m others made
      cases result with
      | error err => exact add_zero others ▸ made.2 err rfl
      | ok client =>
        apply Async.meets_bind
        apply inContext_meets
        · exact fun _ _ _ => id
        apply (addHost_meets (made.1 client rfl)).imp
        rintro result m others ⟨kept, -⟩
        rw [add_zero] at kept
        cases result with
        | error err => exact kept
        | ok _ =>
          apply Async.meets_modify
          exact Kept.alike kept ⟨rfl, rfl, rfl, rfl, rfl⟩ ⟨rfl, rfl, rfl, rfl⟩

theorem close_keeps (free : Clientless held) : (close : RTCDAsync α Unit).Keeps (rtcdRules α) held True := by
  apply (turn_keeps free).bind
  intro _
  apply Async.Keeps.modify
  exact fun m _ kept => Kept.closeAll kept

/-! ### All runs -/

theorem handle_meets [LT α] [DecidableLT α] [Zero α] (versions : RTCDVersions ν) {call : Call} (kept : m.Kept others)
    (taken : m.takes call = true) :
    (handle versions m call : RTCDAsync α Unit).Meets (rtcdRules α) (fun _ m others => m.Kept others) m others := by
  have nothing : Clientless 0 := fun _ listed => absurd listed (Multiset.notMem_zero _)
  have keeps {computation : RTCDAsync α Unit} (keeps : computation.Keeps (rtcdRules α) 0 True) :
      computation.Meets (rtcdRules α) (fun _ m others => m.Kept others) m others := by
    apply (keeps m others ((add_zero others).symm ▸ kept)).imp
    exact fun _ _ others met => add_zero others ▸ met.2
  cases call with
  | newRTCDClientManager => exact keeps (newRTCDClientManager_keeps versions nothing)
  | tick =>
    apply hostsChecker_meets versions ?_ kept
    simp only [takes, Bool.and_eq_true, Bool.not_eq_true'] at taken
    exact taken.1.2
  | closeCh => exact Async.meets_modify (kept.alike ⟨rfl, rfl, rfl, rfl, rfl⟩ ⟨rfl, rfl, rfl, rfl⟩)
  | reconnectCb client attempt =>
    dsimp only [handle]
    cases m.clients[client]? with
    | none => exact Async.meets_pure kept
    | some row => exact keeps (reconnectCb_keeps versions row.ip attempt nothing)
  | connection client connected => exact Async.meets_modify (kept.connected client connected)
  | getHostForNewCall => exact getHostForNewCall_meets kept
  | send host => exact send_meets versions host kept
  | close => exact keeps (close_keeps nothing)

theorem kept_initial : Kept {} 0 where
  clients := by
    refine ⟨?_, ?_, fun _ _ => Nat.zero_le 1, ?_, ?_, ?_, ?_, ?_⟩
    · exact fun _ member => absurd member KeyedTable.not_mem_empty
    · exact fun _ _ listed => absurd listed (Multiset.notMem_zero _)
    · exact fun _ _ found => by cases found
    · exact fun _ _ found => by cases found
    · exact fun _ _ listed => absurd listed (Multiset.notMem_zero _)
    · exact fun _ listed => absurd listed List.not_mem_nil
    · exact fun _ listed => absurd listed List.not_mem_nil
  reading := by
    refine ⟨rfl, ?_, rfl, ?_, ?_⟩
    · exact fun _ listed => absurd listed (Multiset.notMem_zero _)
    · exact fun _ _ listed => absurd listed (Multiset.notMem_zero _)
    · exact fun _ _ member => absurd member KeyedTable.not_mem_empty

end

end RTCDNode

/-- Where nobody makes a client, nobody holds one. -/
theorem clientless_heldBy {α : Type} {held : List (AsyncTask RTCDNode RTCDRequest (RTCDAnswer α) × RTCDClaims)}
    (holds : ∀ entry ∈ held, entry.1.Holds (rtcdRules α) entry.2) (idle : ∀ entry ∈ held, entry.1.request.makes = false) :
    Clientless (heldBy held) := by
  induction held with
  | nil => exact fun _ listed => absurd listed (Multiset.notMem_zero _)
  | cons entry held ih =>
    rw [List.forall_mem_cons] at holds idle
    intro claim listed
    rw [heldBy_cons] at listed
    rcases Multiset.mem_add.mp listed with own | others
    · exact holds.1.may idle.1 claim own
    · exact ih holds.2 idle.2 claim others

section
variable {α ν : Type} [LT α] [DecidableLT α] [Zero α] {versions : RTCDVersions ν} {node : RTCDState α}

theorem rtcdNode_accounted (reached : (rtcdNode versions).Reachable node) : node.Accounted (rtcdRules α) := by
  refine reached.invariant ?_ ?_
  · rintro _ rfl
    exact ⟨[], ⟨rfl, fun _ listed => by cases listed⟩, RTCDNode.kept_initial⟩
  · intro node step after accounted taken
    cases step with
    | call call =>
      simp only [rtcdNode, rtcdNext?] at taken
      split at taken
      · next takes =>
        obtain rfl := Option.some.inj taken
        obtain ⟨held, holdings, kept⟩ := accounted
        apply AsyncState.accounted_start AsyncProcedure.givesBack_returns holdings
        exact (RTCDNode.handle_meets versions kept (Bool.and_eq_true_iff.mp takes).2).toProgram
      · cases taken
    | answer place answer =>
      simp only [rtcdNode, rtcdNext?] at taken
      split at taken
      · next fits =>
        apply accounted.resolve AsyncProcedure.givesBack_returns ?_ taken
        intro task found
        rw [found, Option.any_some, Bool.and_eq_true, Bool.and_eq_true] at fits
        refine ⟨fits.2.1, fun is => ?_⟩
        simpa [is] using fits.2.2
      · cases taken

/-- However the goroutines of a node take turns: each host has a client of its own that was made for it, which one reader reads and which is
open until the manager is closed. A client that is open and was not refused belongs to a host, unless some goroutine is about to
register or check a client or to change the map. Messages go through clients that were made for their hosts, and new calls are given
to hosts that have a client by then. -/
theorem rtcdClients_kept (reached : (rtcdNode versions).Reachable node) :
    (∀ host ∈ node.state.hosts, ∃ client, node.state.clients[host.client]? = some client ∧ client.ip = host.ip ∧ client.readers = 1 ∧
        (client.closed = true → node.state.closed = true)) ∧
      ((∀ task ∈ node.tasks, task.request.makes = false) → ∀ (client : Nat) (row : HostClient),
        node.state.clients[client]? = some row → row.closed = false → row.refused = false → ∃ host ∈ node.state.hosts, host.client = client) ∧
      (∀ row ∈ node.state.clients, row.readers ≤ 1) ∧ (∀ entry ∈ node.state.sent, node.state.MadeFor entry.2 entry.1) ∧
      ∀ entry ∈ node.state.assigned, ∃ client, entry.2 = some client ∧ node.state.MadeFor client entry.1 := by
  obtain ⟨held, holdings, kept⟩ := rtcdNode_accounted reached
  refine ⟨kept.clients.serves, ?_, ?_, kept.clients.sent, kept.clients.assigned⟩
  · intro idle client row found notClosed accepted
    refine (kept.clients.opened client row found notClosed accepted).resolve_right fun ⟨ip, listed⟩ => ?_
    have nobody := clientless_heldBy holdings.holds fun entry inside => idle entry.1 (holdings.listed ▸ List.mem_map_of_mem inside)
    cases nobody _ listed
  · intro row listed
    obtain ⟨client, found⟩ := List.mem_iff_getElem?.mp listed
    exact kept.clients.readers client row found

/-- Whenever nobody looks through the hosts, those are flagged that neither the last check has found nor anybody has added since. -/
theorem rtcdHosts_flagged (reached : (rtcdNode versions).Reachable node) (unread : node.state.rlocks = 0) :
    ∀ host ∈ node.state.hosts, host.flagged = true ↔ host.ip ∉ node.state.advertised ∧ host.ip ∉ node.state.added := by
  obtain ⟨held, holdings, kept⟩ := rtcdNode_accounted reached
  intro host member
  rw [kept.reading.flagged (fun _ _ listed => by cases kept.reading.unread unread _ listed) host member, RTCDNode.outdated]
  simp

end

/-! ### A host goes away -/

def anyVersion : RTCDVersions Unit :=
  { semver := { newVersion := fun _ => .ok (), compare := fun _ _ => 0 }, minRTCDVersion := some "v0.9.0" }

/-- Two hosts are found. One of them goes away, and another comes. The client of the second host is replaced while a new
call is given to it. -/
def hostsComeAndGo : List (RTCDStep Nat) :=
  [.call .newRTCDClientManager, .answer 0 (.ips ["10.0.0.1", "10.0.0.2"]),
    .answer 0 .done, .answer 0 .done, .answer 0 .done, .answer 0 .done, .answer 0 (.version "master"), .answer 0 .done,
    .answer 0 .done, .answer 0 .done, .answer 0 .done, .answer 0 (.failed "unauthorized"), .answer 0 .done, .answer 0 .done, .answer 0 .done,
    .answer 0 (.version "master"), .answer 0 .done,
    .call .tick, .answer 0 (.ips ["10.0.0.2", "10.0.0.3"]), .answer 0 .done, .answer 0 (.order ["10.0.0.2", "10.0.0.1"]),
    .answer 0 .done, .answer 0 .done, .answer 0 (.order ["10.0.0.2", "10.0.0.3"]), .answer 0 .done, .answer 0 .done,
    .call .getHostForNewCall, .answer 1 .done, .answer 1 (.order ["10.0.0.1", "10.0.0.2"]), .answer 1 .done, .answer 1 .done,
    .call (.reconnectCb 1 0), .answer 2 .done, .answer 2 .done, .answer 2 .done, .answer 2 .done, .answer 2 (.version "master"),
    .answer 1 (.systemInfo { cpuLoad := 3 }), .answer 1 .done, .answer 1 .done]

theorem hostsComeAndGo_checked : ((rtcdNode anyVersion).run? ⟨{}, []⟩ hostsComeAndGo).map (fun node =>
    (node.state.hosts.rows, node.state.clients.map (·.closed), node.state.rlocks, node.tasks.all fun task => !task.request.makes)) =
    some ([{ ip := "10.0.0.1", client := 0, flagged := true }, { ip := "10.0.0.2", client := 2 }], [false, true, false], 0, true) := by
  decide +kernel

theorem rtcdClients_kept_of_hostsComeAndGo : ∃ node, (rtcdNode anyVersion).run? ⟨{}, []⟩ hostsComeAndGo = some node ∧
    node.state.clients.map (·.closed) = [false, true, false] ∧
      ∀ (client : Nat) (row : HostClient), node.state.clients[client]? = some row → row.closed = false → row.refused = false →
        ∃ host ∈ node.state.hosts, host.client = client := by
  obtain ⟨node, ran, shape⟩ := Option.map_eq_some_iff.mp hostsComeAndGo_checked
  simp only [Prod.mk.injEq] at shape
  obtain ⟨-, closed, -, idle⟩ := shape
  have start : (rtcdNode anyVersion).Reachable (⟨{}, []⟩ : RTCDState Nat) := .init rfl
  refine ⟨node, ran, closed, (rtcdClients_kept (start.run ran)).2.1 fun task listed => ?_⟩
  simpa using List.all_eq_true.mp idle task listed

theorem rtcdHosts_flagged_of_hostsComeAndGo : ∃ node, (rtcdNode anyVersion).run? ⟨{}, []⟩ hostsComeAndGo = some node ∧
    ∃ host ∈ node.state.hosts, host.ip = "10.0.0.1" ∧ host.ip ∉ node.state.advertised ∧ host.ip ∉ node.state.added := by
  obtain ⟨node, ran, shape⟩ := Option.map_eq_some_iff.mp hostsComeAndGo_checked
  simp only [Prod.mk.injEq] at shape
  obtain ⟨hosts, -, unread, -⟩ := shape
  have start : (rtcdNode anyVersion).Reachable (⟨{}, []⟩ : RTCDState Nat) := .init rfl
  have member : { ip := "10.0.0.1", client := 0, flagged := true } ∈ node.state.hosts := by
    rw [KeyedTable.mem_def, hosts]
    exact List.mem_cons_self
  exact ⟨node, ran, _, member, rfl, (rtcdHosts_flagged (start.run ran) unread _ member).mp rfl⟩

end Calls
