import Mathlib.Algebra.Order.Group.Multiset
import Calls.Server.RtcdClients

/-! What becomes of the clients: each one that is open belongs to a host or to a goroutine that will hand
it over or close it, and the hosts stay as they are while they are looked through. -/

set_option autoImplicit false

namespace Calls

/-- What a goroutine holds while it awaits an answer. -/
inductive RTCDClaim where
  /-- A client that it has made for the address. -/
  | client (client : Nat) (ip : String)
  /-- A client that it has looked up for the address. -/
  | looked (client : Nat) (ip : String)
  /-- The lock of the map, and keys that are in it. -/
  | reading (keys : List String)
  | checking
  /-- The lock of the map: the hosts that are left are not flagged yet as the addresses say. -/
  | flagging (ips left : List String)
  deriving DecidableEq

namespace RTCDClaim

def isClient : RTCDClaim → Bool
  | .client _ _ => true
  | _ => false

def reads : RTCDClaim → Bool
  | .reading _ | .flagging _ _ => true
  | _ => false

def checks : RTCDClaim → Bool
  | .checking | .flagging _ _ => true
  | _ => false

end RTCDClaim

abbrev RTCDClaims := Multiset RTCDClaim

/-- Who awaits the answer may hold a client that he has made. -/
def RTCDRequest.makes : RTCDRequest → Bool
  | .lock | .connect _ | .register _ | .storeConfig | .versionInfo _ => true
  | _ => false

namespace RTCDNode

def MadeFor (m : RTCDNode) (client : Nat) (ip : String) : Prop := m.clients[client]?.map HostClient.ip = some ip

/-- The host was neither found by the last check nor added since. -/
def outdated (m : RTCDNode) (ip : String) : Bool := !(m.advertised.contains ip || m.added.contains ip)

/-- The clients apart from what the claims say. -/
structure Clients (m : RTCDNode) (claims : RTCDClaims) : Prop where
  serves : ∀ host ∈ m.hosts, ∃ row, m.clients[host.client]? = some row ∧ row.ip = host.ip ∧ row.readers = 1 ∧
    (row.closed = true → m.closed = true)
  held : ∀ client ip, .client client ip ∈ claims → ∃ row, m.clients[client]? = some row ∧ row.ip = ip ∧ row.closed = false ∧
    row.readers = 0
  once : ∀ client ip, claims.count (.client client ip) ≤ 1
  opened : ∀ (client : Nat) (row : HostClient), m.clients[client]? = some row → row.closed = false → row.refused = false →
    (∃ host ∈ m.hosts, host.client = client) ∨ ∃ ip, .client client ip ∈ claims
  readers : ∀ (client : Nat) (row : HostClient), m.clients[client]? = some row → row.readers ≤ 1
  looked : ∀ client ip, .looked client ip ∈ claims → m.MadeFor client ip
  sent : ∀ entry ∈ m.sent, m.MadeFor entry.2 entry.1
  assigned : ∀ entry ∈ m.assigned, ∃ client, entry.2 = some client ∧ m.MadeFor client entry.1

/-- The lock of the map and the flags of its hosts. -/
structure Reading (m : RTCDNode) (claims : RTCDClaims) : Prop where
  locks : m.rlocks = claims.countP (·.reads)
  found : ∀ keys, .reading keys ∈ claims → ∀ ip ∈ keys, m.hosts.contains ip = true
  checks : claims.countP (·.checks) = if m.checking then 1 else 0
  flagging : ∀ ips left, .flagging ips left ∈ claims → ∀ host ∈ m.hosts,
    host.flagged = if host.ip ∈ left then m.outdated host.ip else !ips.contains host.ip
  flagged : (∀ ips left, .flagging ips left ∉ claims) → ∀ host ∈ m.hosts, host.flagged = m.outdated host.ip

structure Kept (m : RTCDNode) (claims : RTCDClaims) : Prop where
  clients : m.Clients claims
  reading : m.Reading claims

section
variable {m after : RTCDNode} {claims : RTCDClaims} {claim : RTCDClaim} {client : Nat} {ip host : String}

/-! ### What a step of a goroutine does -/

theorem Clients.alike (kept : m.Clients claims) (same : after.hosts = m.hosts ∧ after.clients = m.clients ∧ after.closed = m.closed ∧
    after.sent = m.sent ∧ after.assigned = m.assigned) : after.Clients claims := by
  obtain ⟨hosts, clients, closed, sent, assigned⟩ := same
  have made : after.MadeFor = m.MadeFor := by
    funext client ip
    rw [MadeFor, MadeFor, clients]
  constructor
  · rw [hosts, clients, closed]
    exact kept.serves
  · rw [clients]
    exact kept.held
  · exact kept.once
  · rw [hosts, clients]
    exact kept.opened
  · rw [clients]
    exact kept.readers
  · rw [made]
    exact kept.looked
  · rw [made, sent]
    exact kept.sent
  · rw [made, assigned]
    exact kept.assigned

theorem Reading.alike (kept : m.Reading claims) (same : after.hosts = m.hosts ∧ after.rlocks = m.rlocks ∧
    after.checking = m.checking ∧ after.advertised = m.advertised ∧ after.added = m.added) : after.Reading claims := by
  obtain ⟨hosts, rlocks, checking, advertised, added⟩ := same
  have outdated : after.outdated = m.outdated := by
    funext ip
    rw [RTCDNode.outdated, RTCDNode.outdated, advertised, added]
  constructor
  · rw [rlocks]
    exact kept.locks
  · rw [hosts]
    exact kept.found
  · rw [checking]
    exact kept.checks
  · rw [hosts, outdated]
    exact kept.flagging
  · rw [hosts, outdated]
    exact kept.flagged

/-- A claim that is about no client. -/
theorem clients_beside (other : claim.isClient = false) (unseen : ∀ client ip, claim ≠ .looked client ip) :
    m.Clients (claims + {claim}) ↔ m.Clients claims := by
  have same (client : Nat) (ip : String) : .client client ip ∈ claims + {claim} ↔ .client client ip ∈ claims := by
    rw [Multiset.mem_add, Multiset.mem_singleton, or_iff_left]
    rintro rfl
    cases other
  have looked (client : Nat) (ip : String) : .looked client ip ∈ claims + {claim} ↔ .looked client ip ∈ claims := by
    rw [Multiset.mem_add, Multiset.mem_singleton, or_iff_left]
    exact fun is => unseen client ip is.symm
  have count (client : Nat) (ip : String) : (claims + {claim}).count (.client client ip) = claims.count (.client client ip) := by
    rw [Multiset.count_add, Multiset.count_singleton, if_neg, add_zero]
    rintro rfl
    cases other
  constructor
  · intro kept
    refine ⟨kept.serves, ?_, ?_, ?_, kept.readers, ?_, kept.sent, kept.assigned⟩
    · exact fun client ip listed => kept.held client ip ((same client ip).mpr listed)
    · exact fun client ip => count client ip ▸ kept.once client ip
    · simpa only [same] using kept.opened
    · exact fun client ip listed => kept.looked client ip ((looked client ip).mpr listed)
  · intro kept
    refine ⟨kept.serves, ?_, ?_, ?_, kept.readers, ?_, kept.sent, kept.assigned⟩
    · exact fun client ip listed => kept.held client ip ((same client ip).mp listed)
    · exact fun client ip => (count client ip).symm ▸ kept.once client ip
    · simpa only [same] using kept.opened
    · exact fun client ip listed => kept.looked client ip ((looked client ip).mp listed)

/-- A claim that has nothing to do with the map. -/
theorem reading_beside (reads : claim.reads = false) (checks : claim.checks = false) :
    m.Reading (claims + {claim}) ↔ m.Reading claims := by
  have reading (keys : List String) : .reading keys ∈ claims + {claim} ↔ .reading keys ∈ claims := by
    rw [Multiset.mem_add, Multiset.mem_singleton, or_iff_left]
    rintro rfl
    cases reads
  have flagging (ips left : List String) : .flagging ips left ∈ claims + {claim} ↔ .flagging ips left ∈ claims := by
    rw [Multiset.mem_add, Multiset.mem_singleton, or_iff_left]
    rintro rfl
    cases reads
  have locks : (claims + {claim}).countP (·.reads) = claims.countP (·.reads) := by
    rw [Multiset.countP_add, ← Multiset.cons_zero, Multiset.countP_cons_of_neg _ (by simp [reads]), Multiset.countP_zero, add_zero]
  have checkers : (claims + {claim}).countP (·.checks) = claims.countP (·.checks) := by
    rw [Multiset.countP_add, ← Multiset.cons_zero, Multiset.countP_cons_of_neg _ (by simp [checks]), Multiset.countP_zero, add_zero]
  constructor
  · rintro ⟨locked, found, checked, flags, flagged⟩
    simp only [reading, flagging, locks, checkers] at locked found checked flags flagged
    exact ⟨locked, found, checked, flags, flagged⟩
  · rintro ⟨locked, found, checked, flags, flagged⟩
    constructor
    · rw [locks]
      exact locked
    · simpa only [reading] using found
    · rw [checkers]
      exact checked
    · simpa only [flagging] using flags
    · simpa only [flagging] using flagged

/-! ### Changes of one client -/

@[simp] theorem hosts_updateClient (m : RTCDNode) (client : Nat) (change : HostClient → HostClient) :
    (m.updateClient client change).hosts = m.hosts := rfl

theorem getElem?_updateClient {change : HostClient → HostClient} {other : Nat} :
    (m.updateClient client change).clients[other]? = if client = other then m.clients[other]?.map change else m.clients[other]? := by
  simp only [updateClient, List.getElem?_modify]
  split
  · rfl
  · exact congrFun Option.map_id _

theorem madeFor_updateClient {change : HostClient → HostClient} (keeps : ∀ row, (change row).ip = row.ip) {other : Nat} :
    (m.updateClient client change).MadeFor other ip ↔ m.MadeFor other ip := by
  have same : HostClient.ip ∘ change = HostClient.ip := funext keeps
  rw [MadeFor, MadeFor, getElem?_updateClient]
  split
  · rw [Option.map_map, same]
  · rfl

theorem exists_updateClient {change : HostClient → HostClient} {other : Nat} {holds : HostClient → Prop}
    (keeps : other = client → ∀ row, holds row → holds (change row)) (found : ∃ row, m.clients[other]? = some row ∧ holds row) :
    ∃ row, (m.updateClient client change).clients[other]? = some row ∧ holds row := by
  obtain ⟨row, at_, met⟩ := found
  rw [getElem?_updateClient, at_]
  split
  · next same => exact ⟨change row, rfl, keeps same.symm row met⟩
  · exact ⟨row, rfl, met⟩

theorem forall_updateClient {change : HostClient → HostClient} {holds : Nat → HostClient → Prop}
    (keeps : ∀ row, m.clients[client]? = some row → holds client row → holds client (change row))
    (before : ∀ other row, m.clients[other]? = some row → holds other row) :
    ∀ other row, (m.updateClient client change).clients[other]? = some row → holds other row := by
  intro other row at_
  rw [getElem?_updateClient] at at_
  split at at_
  · next same =>
    subst same
    obtain ⟨previous, found, rfl⟩ := Option.map_eq_some_iff.mp at_
    exact keeps previous found (before client previous found)
  · exact before other row at_

/-- A change of a client, which may be one that its goroutine does not hold any more. -/
theorem Clients.change {spare : RTCDClaims} (kept : m.Clients (claims + spare)) {change : HostClient → HostClient}
    (spared : ∀ other ip, .client other ip ∈ spare → other = client)
    (same : ∀ row, (change row).ip = row.ip ∧ (change row).readers = row.readers)
    (serves : ∀ host ∈ m.hosts, host.client = client → ∀ row, m.clients[client]? = some row → (change row).closed = true →
      m.closed = true)
    (held : ∀ ip, .client client ip ∈ claims → ∀ row, row.closed = false → (change row).closed = false)
    (opened : ∀ row, m.clients[client]? = some row → (change row).closed = false → (change row).refused = false →
      (∃ host ∈ m.hosts, host.client = client) ∨ ∃ ip, .client client ip ∈ claims) :
    (m.updateClient client change).Clients claims := by
  have made {other : Nat} {ip : String} : (m.updateClient client change).MadeFor other ip ↔ m.MadeFor other ip :=
    madeFor_updateClient fun row => (same row).1
  constructor
  · intro host member
    obtain ⟨row, found, facts⟩ := kept.serves host member
    rw [getElem?_updateClient, found]
    split
    · next is =>
      rw [← is] at found
      refine ⟨change row, rfl, (same row).1.trans facts.1, (same row).2.trans facts.2.1, ?_⟩
      exact serves host member is.symm row found
    · exact ⟨row, rfl, facts⟩
  · intro other ip listed
    apply exists_updateClient
    · rintro rfl row ⟨madeFor, notClosed, unread⟩
      exact ⟨(same row).1.trans madeFor, held ip listed row notClosed, (same row).2.trans unread⟩
    · exact kept.held other ip (Multiset.mem_add.mpr (.inl listed))
  · exact fun other ip => Nat.le_trans (Multiset.count_le_of_le _ (Multiset.le_add_right _ _)) (kept.once other ip)
  · intro other row found notClosed accepted
    rw [getElem?_updateClient] at found
    split at found
    · next is =>
      subst is
      obtain ⟨previous, at_, rfl⟩ := Option.map_eq_some_iff.mp found
      exact opened previous at_ notClosed accepted
    · next differs =>
      refine (kept.opened other row found notClosed accepted).imp_right fun ⟨ip, listed⟩ => ⟨ip, ?_⟩
      exact (Multiset.mem_add.mp listed).resolve_right fun own => differs (spared other ip own).symm
  · exact forall_updateClient (fun row _ => Nat.le_trans (Nat.le_of_eq (same row).2)) kept.readers
  · exact fun other ip listed => made.mpr (kept.looked other ip (Multiset.mem_add.mpr (.inl listed)))
  · exact fun entry listed => made.mpr (kept.sent entry listed)
  · intro entry listed
    obtain ⟨client, is, madeFor⟩ := kept.assigned entry listed
    exact ⟨client, is, made.mpr madeFor⟩

/-- A change that only the connection is about. -/
theorem Clients.update (kept : m.Clients claims) {change : HostClient → HostClient}
    (same : ∀ row, (change row).ip = row.ip ∧ (change row).readers = row.readers)
    (rest : ∀ row, (change row).closed = row.closed ∧ (change row).refused = row.refused) :
    (m.updateClient client change).Clients claims := by
  have spareless : m.Clients (claims + 0) := (add_zero claims).symm ▸ kept
  apply spareless.change ?_ same
  · intro host member is row found closed
    obtain ⟨other, at_, -, -, down⟩ := kept.serves host member
    rw [is, found] at at_
    cases at_
    exact down ((rest row).1.symm.trans closed)
  · exact fun _ _ row notClosed => (rest row).1.trans notClosed
  · exact fun row found notClosed accepted =>
      kept.opened client row found ((rest row).1.symm.trans notClosed) ((rest row).2.symm.trans accepted)
  · exact fun _ _ listed => absurd listed (Multiset.notMem_zero _)

/-- Nobody else holds a client that a goroutine holds, and it is no host's. -/
theorem Clients.apart (kept : m.Clients (claims + {.client client ip})) :
    (∀ host ∈ m.hosts, host.client ≠ client) ∧ ∀ other, .client client other ∉ claims := by
  obtain ⟨row, found, madeFor, -, unread⟩ := kept.held client ip (by simp)
  constructor
  · rintro host member rfl
    obtain ⟨other, at_, -, read, -⟩ := kept.serves host member
    rw [found] at at_
    cases at_
    rw [unread] at read
    cases read
  · intro other listed
    obtain ⟨same, at_, otherwise, -⟩ := kept.held client other (Multiset.mem_add.mpr (.inl listed))
    rw [found] at at_
    cases at_
    have once := kept.once client ip
    rw [Multiset.count_add, Multiset.count_singleton_self, ← madeFor, otherwise] at once
    have counted := Multiset.count_pos.mpr listed
    omega

/-- A client that its goroutine closes, or that could not connect. -/
theorem Clients.release (kept : m.Clients (claims + {.client client ip})) {change : HostClient → HostClient}
    (same : ∀ row, (change row).ip = row.ip ∧ (change row).readers = row.readers)
    (released : ∀ row, (change row).closed = true ∨ (change row).refused = true) :
    (m.updateClient client change).Clients claims := by
  obtain ⟨unused, unheld⟩ := kept.apart
  apply kept.change ?_ same
  · exact fun host member is => absurd is (unused host member)
  · exact fun other listed => absurd listed (unheld other)
  · intro row _ notClosed accepted
    rcases released row with closed | refused
    · cases notClosed.symm.trans closed
    · cases accepted.symm.trans refused
  · intro other otherIp listed
    cases Multiset.mem_singleton.mp listed
    rfl

/-- Closing a client that is closed already, or that of a host once the manager is closed. -/
theorem Clients.closeAnyhow (kept : m.Clients claims)
    (closed : m.closed = true ∨ ∀ row, m.clients[client]? = some row → row.closed = true)
    (unheld : ∀ ip, .client client ip ∉ claims) : (m.closeClient client).Clients claims := by
  have spareless : m.Clients (claims + 0) := (add_zero claims).symm ▸ kept
  unfold closeClient
  apply spareless.change
  · exact fun _ _ listed => absurd listed (Multiset.notMem_zero _)
  · exact fun _ => ⟨rfl, rfl⟩
  · intro host member is row found _
    rcases closed with down | all
    · exact down
    · obtain ⟨other, at_, -, -, down⟩ := kept.serves host member
      rw [is, found] at at_
      cases at_
      exact down (all row found)
  · exact fun ip listed => absurd listed (unheld ip)
  · exact fun row found notClosed => by cases notClosed

/-- A host's client is held by no goroutine. -/
theorem Clients.unheld (kept : m.Clients claims) {host : FlaggedRTCDHost Nat} (member : host ∈ m.hosts) (ip : String) :
    .client host.client ip ∉ claims := by
  intro listed
  obtain ⟨row, found, -, -, unread⟩ := kept.held host.client ip listed
  obtain ⟨other, at_, -, read, -⟩ := kept.serves host member
  rw [found] at at_
  cases at_
  rw [unread] at read
  cases read

/-! ### Changes of the map -/

theorem Clients.create (kept : m.Clients claims) (ip : String) : (m.create ip).Clients (claims + {.client m.clients.length ip}) := by
  have keeps {client : Nat} {row : HostClient} (found : m.clients[client]? = some row) : (m.create ip).clients[client]? = some row :=
    List.getElem?_append_left (List.getElem?_eq_some_iff.mp found).1 ▸ found
  have made {client : Nat} {other : String} (before : m.MadeFor client other) : (m.create ip).MadeFor client other := by
    obtain ⟨row, found, is⟩ := Option.map_eq_some_iff.mp before
    rw [MadeFor, keeps found, Option.map_some, is]
  have fresh : (m.create ip).clients[m.clients.length]? = some { ip } := by simp [RTCDNode.create]
  have unheld (other : String) : .client m.clients.length other ∉ claims := by
    intro listed
    obtain ⟨row, found, -⟩ := kept.held _ other listed
    simp at found
  constructor
  · intro host member
    obtain ⟨row, found, facts⟩ := kept.serves host member
    exact ⟨row, keeps found, facts⟩
  · intro client other listed
    rcases Multiset.mem_add.mp listed with old | new
    · obtain ⟨row, found, facts⟩ := kept.held client other old
      exact ⟨row, keeps found, facts⟩
    · cases Multiset.mem_singleton.mp new
      exact ⟨_, fresh, rfl, rfl, rfl⟩
  · intro client other
    rw [Multiset.count_add, Multiset.count_singleton]
    split
    · next is =>
      cases is
      rw [Multiset.count_eq_zero.mpr (unheld _)]
    · exact kept.once client other
  · intro client row found notClosed accepted
    by_cases inside : client < m.clients.length
    · rw [RTCDNode.create, List.getElem?_append_left inside] at found
      refine (kept.opened client row found notClosed accepted).imp_right fun ⟨other, listed⟩ => ⟨other, ?_⟩
      exact Multiset.mem_add.mpr (.inl listed)
    · have last : client = m.clients.length := by
        have bound := (List.getElem?_eq_some_iff.mp found).1
        simp only [RTCDNode.create, List.length_append, List.length_singleton] at bound
        omega
      exact .inr ⟨ip, last ▸ Multiset.mem_add.mpr (.inr (Multiset.mem_singleton.mpr rfl))⟩
  · intro client row found
    by_cases inside : client < m.clients.length
    · rw [RTCDNode.create, List.getElem?_append_left inside] at found
      exact kept.readers client row found
    · have last : client = m.clients.length := by
        have bound := (List.getElem?_eq_some_iff.mp found).1
        simp only [RTCDNode.create, List.length_append, List.length_singleton] at bound
        omega
      rw [last, fresh] at found
      cases found
      exact Nat.zero_le 1
  · intro client other listed
    rcases Multiset.mem_add.mp listed with old | new
    · exact made (kept.looked client other old)
    · cases Multiset.mem_singleton.mp new
  · exact fun entry listed => made (kept.sent entry listed)
  · intro entry listed
    obtain ⟨client, is, madeFor⟩ := kept.assigned entry listed
    exact ⟨client, is, made madeFor⟩

/-- A client becomes that of a host that there was none for. -/
theorem Clients.enter (kept : m.Clients (claims + {.client client host})) (absent : m.hosts.contains host = false) :
    (m.enter host client).Clients claims := by
  obtain ⟨unused, unheld⟩ := kept.apart
  obtain ⟨row, found, madeFor, notClosed, unread⟩ := kept.held client host (by simp)
  have made {other : Nat} {ip : String} : (m.enter host client).MadeFor other ip ↔ m.MadeFor other ip := by
    apply madeFor_updateClient
    exact fun _ => rfl
  constructor
  · intro other member
    rcases KeyedTable.mem_put.mp member with rfl | ⟨old, -⟩
    · refine ⟨{ row with readers := row.readers + 1 }, ?_, madeFor, by rw [unread], fun closed => ?_⟩
      · rw [RTCDNode.enter, getElem?_updateClient, if_pos rfl, found, Option.map_some]
      · cases notClosed.symm.trans closed
    · obtain ⟨row, at_, facts⟩ := kept.serves other old
      refine ⟨row, ?_, facts⟩
      rw [RTCDNode.enter, getElem?_updateClient, if_neg (unused other old).symm, at_]
  · intro other ip listed
    apply exists_updateClient
    · rintro rfl
      exact absurd listed (unheld ip)
    · exact kept.held other ip (Multiset.mem_add.mpr (.inl listed))
  · exact fun other ip => Nat.le_trans (Multiset.count_le_of_le _ (Multiset.le_add_right _ _)) (kept.once other ip)
  · intro other row found notClosed accepted
    by_cases is : client = other
    · exact .inl ⟨_, KeyedTable.mem_put.mpr (.inl rfl), is⟩
    · rw [RTCDNode.enter, getElem?_updateClient, if_neg is] at found
      rcases kept.opened other row found notClosed accepted with ⟨entry, member, serves⟩ | ⟨ip, listed⟩
      · refine .inl ⟨entry, KeyedTable.mem_put.mpr (.inr ⟨member, ?_⟩), serves⟩
        exact fun same => KeyedTable.contains_eq_false_iff.mp absent entry member same
      · refine .inr ⟨ip, (Multiset.mem_add.mp listed).resolve_right fun own => ?_⟩
        cases Multiset.mem_singleton.mp own
        exact is rfl
  · apply forall_updateClient
    · intro previous at_ _
      rw [found] at at_
      cases at_
      exact Nat.le_of_eq (congrArg (· + 1) unread)
    · exact kept.readers
  · exact fun other ip listed => made.mpr (kept.looked other ip (Multiset.mem_add.mpr (.inl listed)))
  · exact fun entry listed => made.mpr (kept.sent entry listed)
  · intro entry listed
    obtain ⟨client, is, madeFor⟩ := kept.assigned entry listed
    exact ⟨client, is, made.mpr madeFor⟩

/-- A host and its client are given up. -/
theorem Clients.remove (kept : m.Clients claims) {entry : FlaggedRTCDHost Nat} (member : entry ∈ m.hosts) :
    Clients { m.closeClient entry.client with hosts := m.hosts.erase entry.ip } claims := by
  have unheld := kept.unheld member
  have made {other : Nat} {ip : String} : MadeFor { m.closeClient entry.client with hosts := m.hosts.erase entry.ip } other ip ↔
      m.MadeFor other ip := by
    apply madeFor_updateClient
    exact fun _ => rfl
  -- Another host's client was made for another address.
  have apart {other : FlaggedRTCDHost Nat} (present : other ∈ m.hosts) (differs : other.ip ≠ entry.ip) : entry.client ≠ other.client := by
    intro same
    obtain ⟨row, found, madeFor, -⟩ := kept.serves entry member
    obtain ⟨row, at_, otherwise, -⟩ := kept.serves other present
    rw [← same, found] at at_
    cases at_
    exact differs (otherwise.symm.trans madeFor)
  constructor
  · intro other present
    obtain ⟨old, differs⟩ := KeyedTable.mem_erase.mp present
    obtain ⟨row, found, facts⟩ := kept.serves other old
    refine ⟨row, ?_, facts⟩
    rw [← found]
    exact getElem?_updateClient.trans (if_neg (apart old differs))
  · intro other ip listed
    apply exists_updateClient
    · rintro rfl
      exact absurd listed (unheld ip)
    · exact kept.held other ip listed
  · exact kept.once
  · intro other row found notClosed accepted
    replace found : (m.closeClient entry.client).clients[other]? = some row := found
    rw [closeClient, getElem?_updateClient] at found
    split at found
    · obtain ⟨previous, -, rfl⟩ := Option.map_eq_some_iff.mp found
      cases notClosed
    · next differs =>
      refine (kept.opened other row found notClosed accepted).imp_left fun ⟨host, present, serves⟩ => ?_
      refine ⟨host, KeyedTable.mem_erase.mpr ⟨present, fun same => ?_⟩, serves⟩
      rw [KeyedTable.eq_of_key_eq present member same] at serves
      exact differs serves
  · exact forall_updateClient (fun _ _ => id) kept.readers
  · exact fun other ip listed => made.mpr (kept.looked other ip listed)
  · exact fun entry listed => made.mpr (kept.sent entry listed)
  · intro entry listed
    obtain ⟨client, is, madeFor⟩ := kept.assigned entry listed
    exact ⟨client, is, made.mpr madeFor⟩

theorem Clients.shut (kept : m.Clients claims) : Clients { m with closed := true } claims where
  serves host member := by
    obtain ⟨row, found, madeFor, read, -⟩ := kept.serves host member
    exact ⟨row, found, madeFor, read, fun _ => rfl⟩
  held := kept.held
  once := kept.once
  opened := kept.opened
  readers := kept.readers
  looked := kept.looked
  sent := kept.sent
  assigned := kept.assigned

theorem Clients.closeAll (kept : m.Clients claims) : m.closeAll.Clients claims := by
  have closes (hosts : List (FlaggedRTCDHost Nat)) (m : RTCDNode) (kept : m.Clients claims) (down : m.closed = true)
      (members : ∀ host ∈ hosts, host ∈ m.hosts) :
      (hosts.foldl (fun (m : RTCDNode) host => m.closeClient host.client) m).Clients claims := by
    induction hosts generalizing m with
    | nil => exact kept
    | cons host hosts ih =>
      rw [List.forall_mem_cons] at members
      exact ih _ (kept.closeAnyhow (.inl down) (kept.unheld members.1)) down members.2
  exact closes m.hosts.rows _ kept.shut rfl fun _ member => member

theorem clients_looked : m.Clients (claims + {.looked client ip}) ↔ m.Clients claims ∧ m.MadeFor client ip := by
  have same (other : Nat) (address : String) : .client other address ∈ claims + {.looked client ip} ↔ .client other address ∈ claims := by
    simp
  have count (other : Nat) (address : String) :
      (claims + {.looked client ip}).count (.client other address) = claims.count (.client other address) := by
    rw [Multiset.count_add, Multiset.count_singleton, if_neg (by simp), add_zero]
  constructor
  · intro kept
    refine ⟨⟨kept.serves, ?_, ?_, ?_, kept.readers, ?_, kept.sent, kept.assigned⟩, kept.looked client ip (by simp)⟩
    · exact fun other address listed => kept.held other address ((same other address).mpr listed)
    · exact fun other address => count other address ▸ kept.once other address
    · simpa only [same] using kept.opened
    · exact fun other address listed => kept.looked other address (Multiset.mem_add.mpr (.inl listed))
  · rintro ⟨kept, made⟩
    refine ⟨kept.serves, ?_, ?_, ?_, kept.readers, ?_, kept.sent, kept.assigned⟩
    · exact fun other address listed => kept.held other address ((same other address).mp listed)
    · exact fun other address => (count other address).symm ▸ kept.once other address
    · simpa only [same] using kept.opened
    · intro other address listed
      rcases Multiset.mem_add.mp listed with old | own
      · exact kept.looked other address old
      · cases Multiset.mem_singleton.mp own
        exact made

theorem Clients.madeFor (kept : m.Clients claims) {entry : FlaggedRTCDHost Nat} (member : entry ∈ m.hosts) :
    m.MadeFor entry.client entry.ip := by
  obtain ⟨row, found, made, -⟩ := kept.serves entry member
  rw [MadeFor, found, Option.map_some, made]

theorem Clients.sendThrough (kept : m.Clients claims) (made : m.MadeFor client host) : (m.sendThrough host client).Clients claims where
  serves := kept.serves
  held := kept.held
  once := kept.once
  opened := kept.opened
  readers := kept.readers
  looked := kept.looked
  sent := List.forall_mem_append.mpr ⟨kept.sent, List.forall_mem_singleton.mpr made⟩
  assigned := kept.assigned

theorem Clients.assign (kept : m.Clients claims) (present : m.hosts.contains host = true) : (m.assign host).Clients claims where
  serves := kept.serves
  held := kept.held
  once := kept.once
  opened := kept.opened
  readers := kept.readers
  looked := kept.looked
  sent := kept.sent
  assigned := by
    refine List.forall_mem_append.mpr ⟨kept.assigned, List.forall_mem_singleton.mpr ?_⟩
    obtain ⟨entry, found⟩ := Option.isSome_iff_exists.mp present
    obtain ⟨member, rfl⟩ := KeyedTable.find?_eq_some_iff.mp found
    exact ⟨entry.client, by rw [found, Option.map_some], kept.madeFor member⟩

theorem client_flagged (advertised : Bool) (entry : FlaggedRTCDHost Nat) : (flagged advertised entry).client = entry.client := by
  rw [flagged_eq]

theorem Clients.flagHost (kept : m.Clients claims) (ips : List String) (ip : String) : (m.flagHost ips ip).Clients claims where
  serves entry member := by
    replace member : entry ∈ m.hosts.modify ip (RTCDNode.flagged (ips.contains ip)) (ip_flagged _) := member
    rcases KeyedTable.mem_modify.mp member with ⟨old, -⟩ | ⟨previous, old, -, rfl⟩
    · exact kept.serves entry old
    · rw [ip_flagged, client_flagged]
      exact kept.serves previous old
  held := kept.held
  once := kept.once
  opened client row found notClosed accepted := by
    refine (kept.opened client row found notClosed accepted).imp_left fun ⟨entry, member, serves⟩ => ?_
    have same : ∃ row ∈ m.hosts.modify ip (RTCDNode.flagged (ips.contains ip)) (ip_flagged _), row.client = client :=
      (KeyedTable.exists_mem_modify fun entry => by rw [client_flagged]).mpr ⟨entry, member, serves⟩
    exact same
  readers := kept.readers
  looked := kept.looked
  sent := kept.sent
  assigned := kept.assigned

/-! ### The lock and the flags -/

theorem countP_claim (counts : RTCDClaim → Bool) :
    (claims + {claim}).countP (counts ·) = claims.countP (counts ·) + if counts claim then 1 else 0 := by
  rw [Multiset.countP_add, ← Multiset.cons_zero, Multiset.countP_cons, Multiset.countP_zero, zero_add]

/-- Nobody reads the map. -/
theorem Reading.unread (kept : m.Reading claims) (unlocked : m.rlocks = 0) : ∀ claim ∈ claims, claim.reads = false := by
  have none := kept.locks.symm.trans unlocked
  rw [Multiset.countP_eq_zero] at none
  exact fun claim listed => Bool.not_eq_true _ ▸ none claim listed

/-- The map changes while nobody reads it. -/
theorem Reading.write (kept : m.Reading claims) (unlocked : m.rlocks = 0)
    (same : after.rlocks = m.rlocks ∧ after.checking = m.checking)
    (flagged : (∀ host ∈ m.hosts, host.flagged = m.outdated host.ip) → ∀ host ∈ after.hosts, host.flagged = after.outdated host.ip) :
    after.Reading claims where
  locks := same.1.trans kept.locks
  found keys listed := by cases kept.unread unlocked _ listed
  checks := same.2 ▸ kept.checks
  flagging ips left listed := by cases kept.unread unlocked _ listed
  flagged none := flagged (kept.flagged none)

theorem Reading.enter (kept : m.Reading claims) (unlocked : m.rlocks = 0) : (m.enter host client).Reading claims := by
  refine kept.write unlocked (?_ : (m.enter host client).rlocks = m.rlocks ∧ _) ?_
  · exact ⟨rfl, rfl⟩
  intro flagged entry member
  have outdated : (m.enter host client).outdated entry.ip = !(m.advertised.contains entry.ip || (host :: m.added).contains entry.ip) := rfl
  rw [outdated]
  rcases KeyedTable.mem_put.mp member with rfl | ⟨old, differs⟩
  · simp
  · rw [flagged entry old, RTCDNode.outdated, List.contains_cons, beq_eq_false_iff_ne.mpr differs, Bool.false_or]

theorem Reading.remove (kept : m.Reading claims) (unlocked : m.rlocks = 0) (entry : FlaggedRTCDHost Nat) :
    Reading { m.closeClient entry.client with hosts := m.hosts.erase entry.ip } claims := by
  refine kept.write unlocked (?_ : RTCDNode.rlocks { m.closeClient entry.client with hosts := m.hosts.erase entry.ip } = m.rlocks ∧ _) ?_
  · exact ⟨rfl, rfl⟩
  · exact fun flagged other member => flagged other (KeyedTable.mem_erase.mp member).1

theorem Reading.lock (kept : m.Reading claims) {keys : List String} (present : ∀ ip ∈ keys, m.hosts.contains ip = true) :
    Reading { m with rlocks := m.rlocks + 1 } (claims + {.reading keys}) := by
  have flagging (ips left : List String) : .flagging ips left ∈ claims + {.reading keys} ↔ .flagging ips left ∈ claims := by simp
  constructor
  · rw [countP_claim]
    exact congrArg (· + 1) kept.locks
  · intro others listed
    rcases Multiset.mem_add.mp listed with old | own
    · exact kept.found others old
    · cases Multiset.mem_singleton.mp own
      exact present
  · rw [countP_claim]
    exact kept.checks
  · exact fun ips left listed => kept.flagging ips left ((flagging ips left).mp listed)
  · exact fun none => kept.flagged fun ips left listed => none ips left ((flagging ips left).mpr listed)

theorem Reading.unlock {keys : List String} (kept : m.Reading (claims + {.reading keys})) : m.rUnlock.Reading claims := by
  have flagging (ips left : List String) : .flagging ips left ∈ claims + {.reading keys} ↔ .flagging ips left ∈ claims := by simp
  constructor
  · have locks := kept.locks
    rw [countP_claim] at locks
    exact (congrArg (· - 1) locks).trans (Nat.add_sub_cancel _ 1)
  · exact fun others listed => kept.found others (Multiset.mem_add.mpr (.inl listed))
  · have checks := kept.checks
    rw [countP_claim] at checks
    exact checks
  · exact fun ips left listed => kept.flagging ips left ((flagging ips left).mpr listed)
  · exact fun none => kept.flagged fun ips left listed => none ips left ((flagging ips left).mp listed)

/-- There is one who checks the hosts. -/
theorem Reading.alone (kept : m.Reading (claims + {claim})) (checks : claim.checks = true) : ∀ other ∈ claims, other.checks = false := by
  have one := kept.checks
  rw [countP_claim, if_pos checks] at one
  have none : claims.countP (·.checks) = 0 := by
    split at one <;> omega
  rw [Multiset.countP_eq_zero] at none
  exact fun other listed => Bool.not_eq_true _ ▸ none other listed

theorem Reading.startFlagging (kept : m.Reading (claims + {.checking})) (ips : List String) :
    Reading { m with rlocks := m.rlocks + 1 } (claims + {.flagging ips (m.hosts.rows.map (·.ip))}) := by
  have alone := kept.alone rfl
  constructor
  · have locks := kept.locks
    rw [countP_claim] at locks ⊢
    exact congrArg (· + 1) locks
  · intro keys listed
    rcases Multiset.mem_add.mp listed with old | own
    · exact kept.found keys (Multiset.mem_add.mpr (.inl old))
    · cases Multiset.mem_singleton.mp own
  · have checks := kept.checks
    rw [countP_claim] at checks ⊢
    exact checks
  · intro others left listed
    rcases Multiset.mem_add.mp listed with old | own
    · cases alone _ old
    · cases Multiset.mem_singleton.mp own
      intro host member
      rw [if_pos (List.mem_map_of_mem member)]
      apply kept.flagged _ host member
      intro others left listed
      rcases Multiset.mem_add.mp listed with old | own
      · cases alone _ old
      · cases Multiset.mem_singleton.mp own
  · exact fun none => absurd (Multiset.mem_add.mpr (.inr (Multiset.mem_singleton.mpr rfl))) (none _ _)

/-- What the one who flags the hosts has left to do. -/
theorem reading_flagging {ips left : List String} : m.Reading (claims + {.flagging ips left}) ↔
    (∀ other ∈ claims, other.checks = false) ∧ m.rlocks = claims.countP (·.reads) + 1 ∧
      (∀ keys, .reading keys ∈ claims → ∀ ip ∈ keys, m.hosts.contains ip = true) ∧ m.checking = true ∧
      ∀ host ∈ m.hosts, host.flagged = if host.ip ∈ left then m.outdated host.ip else !ips.contains host.ip := by
  constructor
  · intro kept
    refine ⟨kept.alone rfl, ?_, ?_, ?_, ?_⟩
    · have locks := kept.locks
      rw [countP_claim] at locks
      exact locks
    · exact fun keys listed => kept.found keys (Multiset.mem_add.mpr (.inl listed))
    · have checks := kept.checks
      rw [countP_claim] at checks
      by_contra idle
      rw [if_neg idle] at checks
      exact absurd checks (Nat.succ_ne_zero _)
    · exact kept.flagging ips left (by simp)
  · rintro ⟨alone, locks, found, checking, flags⟩
    have none : claims.countP (·.checks) = 0 :=
      Multiset.countP_eq_zero.mpr fun other listed => Bool.not_eq_true _ ▸ alone other listed
    constructor
    · rw [countP_claim]
      exact locks
    · intro keys listed
      rcases Multiset.mem_add.mp listed with old | own
      · exact found keys old
      · cases Multiset.mem_singleton.mp own
    · rw [countP_claim, none, if_pos checking]
      rfl
    · intro others rest listed
      rcases Multiset.mem_add.mp listed with old | own
      · cases alone _ old
      · cases Multiset.mem_singleton.mp own
        exact flags
    · exact fun none => absurd (Multiset.mem_add.mpr (.inr (Multiset.mem_singleton.mpr rfl))) (none _ _)

theorem Reading.reorder {ips left order : List String} (kept : m.Reading (claims + {.flagging ips left})) (same : order.Perm left) :
    m.Reading (claims + {.flagging ips order}) := by
  rw [reading_flagging] at kept ⊢
  simpa only [same.mem_iff] using kept

theorem contains_flagHost (ips : List String) (ip other : String) :
    (m.flagHost ips ip).hosts.contains other = m.hosts.contains other := KeyedTable.contains_modify m.hosts ip other _ (ip_flagged _)

theorem Reading.flagHost {ips left : List String} (kept : m.Reading (claims + {.flagging ips (ip :: left)})) (fresh : ip ∉ left) :
    (m.flagHost ips ip).Reading (claims + {.flagging ips left}) := by
  rw [reading_flagging] at kept ⊢
  obtain ⟨alone, locks, found, checking, flags⟩ := kept
  refine ⟨alone, locks, ?_, checking, ?_⟩
  · simpa only [contains_flagHost] using found
  · intro host member
    replace member : host ∈ m.hosts.modify ip (RTCDNode.flagged (ips.contains ip)) (ip_flagged _) := member
    rcases KeyedTable.mem_modify.mp member with ⟨old, differs⟩ | ⟨previous, old, rfl, rfl⟩
    · rw [flags host old]
      simp only [List.mem_cons, differs, false_or]
      rfl
    · rw [flagged_eq]
      exact (if_neg fresh).symm

theorem Reading.endFlagging {ips : List String} (kept : m.Reading (claims + {.flagging ips []})) :
    Reading { m.rUnlock with advertised := ips, added := [] } (claims + {.checking}) := by
  obtain ⟨alone, locks, found, checking, flags⟩ := reading_flagging.mp kept
  have none : claims.countP (·.checks) = 0 :=
    Multiset.countP_eq_zero.mpr fun other listed => Bool.not_eq_true _ ▸ alone other listed
  constructor
  · rw [countP_claim]
    exact (congrArg (· - 1) locks).trans (Nat.add_sub_cancel _ 1)
  · intro keys listed
    rcases Multiset.mem_add.mp listed with old | own
    · exact found keys old
    · cases Multiset.mem_singleton.mp own
  · rw [countP_claim, none]
    exact (if_pos checking).symm
  · intro others left listed
    rcases Multiset.mem_add.mp listed with old | own
    · cases alone _ old
    · cases Multiset.mem_singleton.mp own
  · intro _ host member
    have outdated : RTCDNode.outdated { m.rUnlock with advertised := ips, added := [] } host.ip = !(ips.contains host.ip || false) := rfl
    rw [outdated, Bool.or_false, flags host member, if_neg List.not_mem_nil]

theorem Reading.check (kept : m.Reading claims) (idle : m.checking = false) :
    Reading { m with checking := true } (claims + {.checking}) := by
  have none : claims.countP (·.checks) = 0 := by
    rw [kept.checks, idle]
    rfl
  have reading (keys : List String) : .reading keys ∈ claims + {.checking} ↔ .reading keys ∈ claims := by simp
  have flagging (ips left : List String) : .flagging ips left ∈ claims + {.checking} ↔ .flagging ips left ∈ claims := by simp
  constructor
  · rw [countP_claim]
    exact kept.locks
  · exact fun keys listed => kept.found keys ((reading keys).mp listed)
  · rw [countP_claim, none]
    rfl
  · exact fun ips left listed => kept.flagging ips left ((flagging ips left).mp listed)
  · exact fun none => kept.flagged fun ips left listed => none ips left ((flagging ips left).mpr listed)

theorem Reading.uncheck (kept : m.Reading (claims + {.checking})) : Reading { m with checking := false } claims := by
  have alone := kept.alone rfl
  have reading (keys : List String) : .reading keys ∈ claims + {.checking} ↔ .reading keys ∈ claims := by simp
  have flagging (ips left : List String) : .flagging ips left ∈ claims + {.checking} ↔ .flagging ips left ∈ claims := by simp
  constructor
  · have locks := kept.locks
    rw [countP_claim] at locks
    exact locks
  · exact fun keys listed => kept.found keys ((reading keys).mpr listed)
  · exact Multiset.countP_eq_zero.mpr fun other listed => Bool.not_eq_true _ ▸ alone other listed
  · exact fun ips left listed => kept.flagging ips left ((flagging ips left).mpr listed)
  · exact fun none => kept.flagged fun ips left listed => none ips left ((flagging ips left).mp listed)

end

end RTCDNode

end Calls
