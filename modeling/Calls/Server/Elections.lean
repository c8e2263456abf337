import Calls.Server.Hosts

/-! Whom `getHostID` elects, whatever the order in which the sessions are visited:
the locked user, else the current host, else whoever has been there longest. -/

set_option autoImplicit false

namespace Calls

/-- A session that no session of a participant other than the bot was started before. -/
structure Earliest (botID : String) (sessions : List CallSession) (first : CallSession) : Prop where
  member : first ∈ sessions
  notBot : first.userID ≠ botID
  least : ∀ other ∈ sessions, other.userID ≠ botID → first.joinAt ≤ other.joinAt

namespace Earliest

variable {botID : String} {sessions : List CallSession} {first : CallSession}

/-- Sessions of the bot, and sessions that started after one that is listed, make no difference. -/
theorem mono {more : List CallSession} (earliest : Earliest botID sessions first) (kept : sessions ⊆ more)
    (later : ∀ other ∈ more, other.userID ≠ botID → ∃ session ∈ sessions, session.userID ≠ botID ∧ session.joinAt ≤ other.joinAt) :
    Earliest botID more first := by
  refine ⟨kept earliest.member, earliest.notBot, ?_⟩
  intro other member user
  obtain ⟨session, listed, participant, before⟩ := later other member user
  exact Int.le_trans (earliest.least session listed participant) before

/-- A session that is of the bot, or that did not start before the first one listed, makes no difference behind it. -/
theorem skip {host session : CallSession} {rest : List CallSession} (earliest : Earliest botID (host :: rest) first)
    (user : host.userID ≠ botID) (later : session.userID ≠ botID → host.joinAt ≤ session.joinAt) :
    Earliest botID (host :: session :: rest) first := by
  refine earliest.mono (by simp) ?_
  intro other member participant
  obtain rfl | rfl | member : other = host ∨ other = session ∨ other ∈ rest := by simpa using member
  · exact ⟨other, by simp, participant, Int.le_refl _⟩
  · exact ⟨host, by simp, user, later participant⟩
  · exact ⟨other, by simp [member], participant, Int.le_refl _⟩

theorem perm {others : List CallSession} (earliest : Earliest botID sessions first) (same : sessions.Perm others) :
    Earliest botID others first := by
  apply earliest.mono same.subset
  intro other member user
  exact ⟨other, same.mem_iff.mpr member, user, Int.le_refl _⟩

theorem eq_of_distinct {other : CallSession} (earliest : Earliest botID sessions first) (rival : Earliest botID sessions other)
    (distinct : ∀ left ∈ sessions, ∀ right ∈ sessions, left.userID ≠ botID → right.userID ≠ botID →
      left.joinAt = right.joinAt → left = right) : first = other := by
  apply distinct _ earliest.member _ rival.member earliest.notBot rival.notBot
  have before := earliest.least other rival.member rival.notBot
  have after := rival.least first earliest.member earliest.notBot
  exact Int.le_antisymm before after

end Earliest

section
variable {botID current : String} {sessions : List CallSession}

/-- Once the loop has a candidate, it ends with the earliest of them and the sessions to come. -/
theorem pickHost_candidate (absent : ∀ session ∈ sessions, session.userID ≠ current)
    (named : ∀ session ∈ sessions, session.userID ≠ "") {host : CallSession} (started : host.userID ≠ "")
    (user : host.userID ≠ botID) :
    ∃ first, Earliest botID (host :: sessions) first ∧ pickHost botID current sessions host = first.userID := by
  induction sessions generalizing host with
  | nil =>
    refine ⟨host, ⟨List.mem_cons_self, user, ?_⟩, rfl⟩
    intro other member _
    obtain rfl := List.mem_singleton.mp member
    exact Int.le_refl _
  | cons session rest ih =>
    obtain ⟨missing, absent⟩ := List.forall_mem_cons.mp absent
    obtain ⟨known, named⟩ := List.forall_mem_cons.mp named
    rw [pickHost, if_neg missing]
    by_cases bot : session.userID = botID
    · rw [if_pos bot]
      obtain ⟨first, earliest, elected⟩ := ih absent named started user
      exact ⟨first, earliest.skip user (absurd bot), elected⟩
    rw [if_neg bot, if_neg started]
    by_cases before : session.joinAt < host.joinAt
    · rw [if_pos before]
      obtain ⟨first, earliest, elected⟩ := ih absent named known bot
      refine ⟨first, earliest.mono (by simp) ?_, elected⟩
      intro other member participant
      obtain rfl | member : other = host ∨ other ∈ session :: rest := List.mem_cons.mp member
      · exact ⟨session, by simp, bot, Int.le_of_lt before⟩
      · exact ⟨other, member, participant, Int.le_refl _⟩
    · rw [if_neg before]
      obtain ⟨first, earliest, elected⟩ := ih absent named started user
      exact ⟨first, earliest.skip user fun _ => Int.not_lt.mp before, elected⟩

/-- Where the current host is gone, the loop ends with the earliest participant. -/
theorem pickHost_earliest (absent : ∀ session ∈ sessions, session.userID ≠ current)
    (named : ∀ session ∈ sessions, session.userID ≠ "") (participant : ∃ session ∈ sessions, session.userID ≠ botID)
    (host : CallSession) (unset : host.userID = "") :
    ∃ first, Earliest botID sessions first ∧ pickHost botID current sessions host = first.userID := by
  induction sessions with
  | nil => simp at participant
  | cons session rest ih =>
    obtain ⟨missing, absent⟩ := List.forall_mem_cons.mp absent
    obtain ⟨known, named⟩ := List.forall_mem_cons.mp named
    rw [pickHost, if_neg missing]
    by_cases bot : session.userID = botID
    · obtain ⟨someone, member, user⟩ := participant
      rcases List.mem_cons.mp member with rfl | member
      · exact absurd bot user
      obtain ⟨first, earliest, elected⟩ := ih absent named ⟨someone, member, user⟩
      rw [if_pos bot]
      refine ⟨first, earliest.mono (by simp) ?_, elected⟩
      intro other listed participant
      rcases List.mem_cons.mp listed with rfl | listed
      · exact absurd bot participant
      · exact ⟨other, listed, participant, Int.le_refl _⟩
    · rw [if_neg bot, if_pos unset]
      exact pickHost_candidate absent named known bot

end

/-- The host that a call with these sessions is to have. -/
structure Elected (botID : String) (call : Call) (sessions : SessionMap) (host : String) : Prop where
  locked : (∃ session ∈ sessions, session.userID = call.props.hostLockedUserID) → host = call.props.hostLockedUserID
  current : (∀ session ∈ sessions, session.userID ≠ call.props.hostLockedUserID) →
    (∃ session ∈ sessions, session.userID = call.getHostID) → host = call.getHostID
  earliest : (∀ session ∈ sessions, session.userID ≠ call.props.hostLockedUserID) →
    (∀ session ∈ sessions, session.userID ≠ call.getHostID) → (∃ session ∈ sessions, session.userID ≠ botID) →
    ∃ first, Earliest botID sessions.rows first ∧ host = first.userID
  none : host = "" ↔ ∀ session ∈ sessions,
    session.userID ≠ call.props.hostLockedUserID ∧ session.userID ≠ call.getHostID ∧ session.userID = botID

/-- No two participants other than the bot joined at the same time. -/
def JoinedApart (botID : String) (sessions : SessionMap) : Prop :=
  ∀ left ∈ sessions, ∀ right ∈ sessions, left.userID ≠ botID → right.userID ≠ botID →
    left.joinAt = right.joinAt → left = right

section
variable {botID : String} {call : Call} {sessions : SessionMap}

theorem getHostID_elected (order : IterationOrder) (named : ∀ session ∈ sessions, session.userID ≠ "") :
    Elected botID call sessions (getHostID order botID call sessions) := by
  have visited {session : CallSession} : session ∈ order.visit sessions.rows ↔ session ∈ sessions :=
    (order.perm _).mem_iff
  by_cases locked : ∃ session ∈ sessions, session.userID = call.props.hostLockedUserID
  · have isLocked : call.props.hostLockedUserID ≠ "" := by
      obtain ⟨session, member, same⟩ := locked
      exact same ▸ named session member
    have host := getHostID_locked order botID isLocked (isUserIDInCall_iff.mpr locked)
    obtain ⟨session, member, same⟩ := locked
    constructor
    · exact fun _ => host
    · exact fun absent => absurd same (absent session member)
    · exact fun absent => absurd same (absent session member)
    · rw [host]
      exact ⟨fun empty => absurd empty isLocked, fun none => absurd same (none session member).1⟩
  have unlocked : ¬ (call.props.hostLockedUserID ≠ "" ∧ isUserIDInCall sessions call.props.hostLockedUserID = true) :=
    fun isLocked => locked (isUserIDInCall_iff.mp isLocked.2)
  by_cases current : ∃ session ∈ sessions, session.userID = call.getHostID
  · have host := getHostID_current order botID unlocked current
    obtain ⟨session, member, same⟩ := current
    constructor
    · exact fun present => absurd present locked
    · exact fun _ _ => host
    · exact fun _ absent => absurd same (absent session member)
    · rw [host]
      exact ⟨fun empty => absurd (same.trans empty) (named session member), fun none => absurd same (none session member).2.1⟩
  have gone : ∀ session ∈ sessions, session.userID ≠ call.getHostID :=
    fun session member same => current ⟨session, member, same⟩
  have free : ∀ session ∈ sessions, session.userID ≠ call.props.hostLockedUserID :=
    fun session member same => locked ⟨session, member, same⟩
  have others := getHostID_other order botID unlocked gone named
  constructor
  · exact fun present => absurd present locked
  · exact fun _ present => absurd present current
  · intro _ _ participant
    have participant : ∃ session ∈ order.visit sessions.rows, session.userID ≠ botID := by
      obtain ⟨session, member, user⟩ := participant
      exact ⟨session, visited.mpr member, user⟩
    rw [getHostID, if_neg unlocked]
    obtain ⟨first, earliest, host⟩ := pickHost_earliest (fun session member => gone session (visited.mp member))
      (fun session member => named session (visited.mp member)) participant
      { id := "", callID := "", userID := "", joinAt := 0 } rfl
    exact ⟨first, earliest.perm (order.perm _), host⟩
  · constructor
    · intro empty session member
      rcases others with ⟨-, bots⟩ | ⟨other, listed, user, host⟩
      · exact ⟨free session member, gone session member, bots session member⟩
      · exact absurd (host.symm.trans empty) (named other listed)
    · intro none
      rcases others with ⟨empty, -⟩ | ⟨other, listed, user, -⟩
      · exact empty
      · exact absurd (none other listed).2.2 user

/-- There is one host to elect where no two participants joined at the same time. -/
theorem Elected.unique {host other : String} (apart : JoinedApart botID sessions) (elected : Elected botID call sessions host)
    (rival : Elected botID call sessions other) : host = other := by
  by_cases locked : ∃ session ∈ sessions, session.userID = call.props.hostLockedUserID
  · rw [elected.locked locked, rival.locked locked]
  have free : ∀ session ∈ sessions, session.userID ≠ call.props.hostLockedUserID :=
    fun session member same => locked ⟨session, member, same⟩
  by_cases current : ∃ session ∈ sessions, session.userID = call.getHostID
  · rw [elected.current free current, rival.current free current]
  have gone : ∀ session ∈ sessions, session.userID ≠ call.getHostID :=
    fun session member same => current ⟨session, member, same⟩
  by_cases participant : ∃ session ∈ sessions, session.userID ≠ botID
  · obtain ⟨first, earliest, rfl⟩ := elected.earliest free gone participant
    obtain ⟨second, alike, rfl⟩ := rival.earliest free gone participant
    rw [earliest.eq_of_distinct alike apart]
  · have none : ∀ session ∈ sessions, session.userID ≠ call.props.hostLockedUserID ∧
        session.userID ≠ call.getHostID ∧ session.userID = botID := by
      intro session member
      refine ⟨free session member, gone session member, ?_⟩
      by_contra user
      exact participant ⟨session, member, user⟩
    rw [elected.none.mpr none, rival.none.mpr none]

/-- The election, and that it does not hang on the order in which the sessions are visited. -/
theorem getHostID_elects (named : ∀ session ∈ sessions, session.userID ≠ "") :
    (∀ order, Elected botID call sessions (getHostID order botID call sessions)) ∧
      (JoinedApart botID sessions → ∀ order other,
        getHostID order botID call sessions = getHostID other botID call sessions) := by
  refine ⟨fun order => getHostID_elected order named, ?_⟩
  intro apart order other
  exact (getHostID_elected order named).unique apart (getHostID_elected other named)

end

/-- A call that its host has left. -/
def carolLeft : Call :=
  { id := "call", channelID := "channel", startAt := 1000, createAt := 1000, ownerID := "carol",
    props := { CallProps.zero with hosts := ["carol"] } }

def carolLeftBehind : SessionMap :=
  let bot := KeyedTable.empty.put { id := "conn-1", callID := "call", userID := "bot", joinAt := 1001 }
  let bob := bot.put { id := "conn-2", callID := "call", userID := "bob", joinAt := 1003 }
  bob.put { id := "conn-3", callID := "call", userID := "alice", joinAt := 1002 }

def IterationOrder.reversed : IterationOrder := ⟨List.reverse, List.reverse_perm⟩

theorem getHostID_elects_alice :
    getHostID .stored "bot" carolLeft carolLeftBehind = "alice" ∧
      Elected "bot" carolLeft carolLeftBehind "alice" ∧
      getHostID .stored "bot" carolLeft carolLeftBehind = getHostID .reversed "bot" carolLeft carolLeftBehind := by
  have elects := @getHostID_elects "bot" carolLeft carolLeftBehind (by decide)
  have host : getHostID .stored "bot" carolLeft carolLeftBehind = "alice" := by decide
  refine ⟨host, host ▸ elects.1 .stored, elects.2 ?_ .stored .reversed⟩
  unfold JoinedApart
  decide

end Calls
