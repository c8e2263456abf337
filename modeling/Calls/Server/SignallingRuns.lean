import Calls.Library.Waiting
import Calls.Server.SignallingOwners

/-! Runs in which clients post messages, come back with other connections and leave.
The RTC side does for a session only what its own user has posted, whatever other
clients say, and each message once. -/

set_option autoImplicit false

namespace Calls

open Waiting

/-! ### Each message once, and in turn -/

/-- Where a message is: in the channel of an object, on its way to another node, or told to the RTC side. -/
inductive MessagePlace where
  | channel (nodeID : String) (us : Nat)
  | cluster
  | rtc
  deriving DecidableEq

def Signalling.numbers (s : Signalling) : MessagePlace → List Nat
  | .channel nodeID us => (s.wsMsgCh nodeID us).map (·.number)
  | .cluster => s.relayed.map (·.clientMessage.number)
  | .rtc => s.told.map (·.message.number)

/-- Of two messages that the reader of one object told the RTC side of its own node, the first was posted first. -/
def RTCMessage.InTurn (first second : RTCMessage) : Prop :=
  first.relayed = false → second.relayed = false → first.message.nodeID = second.message.nodeID →
    first.message.us = second.message.us → first.message.number < second.message.number

/-- A message that is not relayed comes from the channel that its reader still reads. -/
structure Signalling.Orderly (s : Signalling) : Prop where
  apart : Apart s.numbers
  below : ∀ place, ∀ number ∈ s.numbers place, number < s.posted
  place : ∀ nodeID us, ∀ message ∈ s.wsMsgCh nodeID us, message.nodeID = nodeID ∧ message.us = us
  waiting : ∀ nodeID us, (s.wsMsgCh nodeID us).Pairwise (·.number < ·.number)
  ahead : ∀ message ∈ s.told, message.relayed = false →
    ∀ later ∈ s.wsMsgCh message.message.nodeID message.message.us, message.message.number < later.number
  inTurn : s.told.Pairwise RTCMessage.InTurn

section
variable {s : Signalling} {nodeID : String} {us : Nat}

theorem Signalling.numbers_setChannel (messages : List PostedMessage) :
    (s.setChannel nodeID us messages).numbers =
      Function.update s.numbers (.channel nodeID us) (messages.map (·.number)) := by
  funext place
  cases place with
  | channel otherID other =>
      by_cases node : otherID = nodeID
      · subst node
        by_cases same : other = us
        · subst same
          simp [numbers, setChannel]
        · simp [numbers, setChannel, same]
      · simp [numbers, setChannel, node]
  | cluster => rfl
  | rtc => rfl

theorem Signalling.numbers_relay (relayed : List RelayedMessage) :
    ({ s with relayed } : Signalling).numbers = Function.update s.numbers .cluster (relayed.map (·.clientMessage.number)) := by
  funext place
  cases place with
  | channel nodeID us => simp [numbers]
  | cluster => simp [numbers]
  | rtc => simp [numbers]

theorem Signalling.numbers_tell (told : List RTCMessage) :
    ({ s with told } : Signalling).numbers = Function.update s.numbers .rtc (told.map (·.message.number)) := by
  funext place
  cases place with
  | channel nodeID us => simp [numbers]
  | cluster => simp [numbers]
  | rtc => simp [numbers]

theorem Signalling.setChannel_other {other : String} {place : Nat} (messages : List PostedMessage)
    (different : ¬ (other = nodeID ∧ place = us)) :
    (s.setChannel nodeID us messages).wsMsgCh other place = s.wsMsgCh other place := by
  by_cases node : other = nodeID
  · subst node
    have apart : place ≠ us := fun here => different ⟨rfl, here⟩
    simp [setChannel, apart]
  · simp [setChannel, node]

namespace Signalling.Orderly

/-- What does not touch the messages. -/
theorem same {after : Signalling} (orderly : s.Orderly) (waiting : after.wsMsgCh = s.wsMsgCh) (relayed : after.relayed = s.relayed)
    (told : after.told = s.told) (posted : after.posted = s.posted) : after.Orderly := by
  have numbers : after.numbers = s.numbers := by
    funext place
    cases place with
    | channel nodeID us => rw [Signalling.numbers, Signalling.numbers, waiting]
    | cluster => rw [Signalling.numbers, Signalling.numbers, relayed]
    | rtc => rw [Signalling.numbers, Signalling.numbers, told]
  constructor
  · rw [numbers]; exact orderly.apart
  · rw [numbers, posted]; exact orderly.below
  · rw [waiting]; exact orderly.place
  · rw [waiting]; exact orderly.waiting
  · rw [told, waiting]; exact orderly.ahead
  · rw [told]; exact orderly.inTurn

/-- The next number is nowhere. -/
theorem absent (orderly : s.Orderly) : Absent s.numbers s.posted := by
  intro place listed
  exact absurd (orderly.below place s.posted listed) (Nat.lt_irrefl _)

/-- The first message of a channel is taken out of it. -/
theorem take (orderly : s.Orderly) {message : PostedMessage} {rest : List PostedMessage}
    (queue : s.wsMsgCh nodeID us = message :: rest) :
    (s.setChannel nodeID us rest).Orderly ∧ Absent (s.setChannel nodeID us rest).numbers message.number ∧
      message.number < s.posted := by
  have here : s.numbers (.channel nodeID us) = [] ++ message.number :: rest.map (·.number) := by
    simp [numbers, queue]
  have fewer {other : String} {place : Nat} {found : PostedMessage}
      (waits : found ∈ (s.setChannel nodeID us rest).wsMsgCh other place) : found ∈ s.wsMsgCh other place := by
    rcases mem_setChannel.mp waits with ⟨⟨rfl, rfl⟩, listed⟩ | ⟨-, there⟩
    · rw [queue]
      exact List.mem_cons_of_mem message listed
    · exact there
  refine ⟨?_, ?_, orderly.below (.channel nodeID us) _ (by rw [here]; exact List.mem_cons_self)⟩
  · constructor
    · rw [numbers_setChannel]
      exact orderly.apart.leaves here
    · rw [numbers_setChannel]
      apply forall_mem_update orderly.below
      exact fun number listed => orderly.below _ number (by rw [here]; exact List.mem_cons_of_mem _ listed)
    · exact fun other place found waits => orderly.place other place found (fewer waits)
    · intro other place
      by_cases same : other = nodeID ∧ place = us
      · obtain ⟨rfl, rfl⟩ := same
        have sorted := orderly.waiting other place
        rw [queue] at sorted
        rw [setChannel_self]
        exact (List.pairwise_cons.mp sorted).2
      · rw [setChannel_other _ same]
        exact orderly.waiting other place
    · exact fun message listed direct later waits => orderly.ahead message listed direct later (fewer waits)
    · exact orderly.inTurn
  · rw [numbers_setChannel]
    exact orderly.apart.absent_of_leaves here

/-- A message that is nowhere is sent to another node. -/
theorem relay (orderly : s.Orderly) {message : RelayedMessage} (absent : Absent s.numbers message.clientMessage.number)
    (below : message.clientMessage.number < s.posted) : ({ s with relayed := s.relayed ++ [message] } : Signalling).Orderly where
  apart := by
    rw [numbers_relay, List.map_append]
    exact orderly.apart.arrives .cluster absent
  below := by
    rw [numbers_relay, List.map_append]
    apply forall_mem_update orderly.below
    exact List.forall_mem_append.mpr ⟨orderly.below .cluster, List.forall_mem_singleton.mpr below⟩
  place := orderly.place
  waiting := orderly.waiting
  ahead := orderly.ahead
  inTurn := orderly.inTurn

/-- A message that is nowhere is told to the RTC side, and is in turn if no relayed one. -/
theorem tell (orderly : s.Orderly) {message : RTCMessage} (absent : Absent s.numbers message.message.number)
    (below : message.message.number < s.posted)
    (first : message.relayed = false → ∀ later ∈ s.wsMsgCh message.message.nodeID message.message.us,
      message.message.number < later.number)
    (last : ∀ earlier ∈ s.told, earlier.InTurn message) : ({ s with told := s.told ++ [message] } : Signalling).Orderly where
  apart := by
    rw [numbers_tell, List.map_append]
    exact orderly.apart.arrives .rtc absent
  below := by
    rw [numbers_tell, List.map_append]
    apply forall_mem_update orderly.below
    exact List.forall_mem_append.mpr ⟨orderly.below .rtc, List.forall_mem_singleton.mpr below⟩
  place := orderly.place
  waiting := orderly.waiting
  ahead := List.forall_mem_append.mpr ⟨orderly.ahead, List.forall_mem_singleton.mpr first⟩
  inTurn := by
    apply List.pairwise_append.mpr
    refine ⟨orderly.inTurn, List.pairwise_singleton _ _, fun earlier listed other new => ?_⟩
    rw [List.mem_singleton.mp new]
    exact last earlier listed

theorem post (orderly : s.Orderly) (userID connID : String) (type : ClientMessageType) (data : Option (List UInt8))
    (limited : Bool) : (s.webSocketMessageHasBeenPosted nodeID userID connID type data limited).Orderly := by
  rcases s.post_effect nodeID userID connID type data limited with same | ⟨us, read, -, queued⟩
  · rw [same]
    exact orderly
  · rw [queued]
    have before {found : PostedMessage} (waits : found ∈ s.wsMsgCh nodeID us) : found.number < s.posted :=
      orderly.below (.channel nodeID us) _ (List.mem_map_of_mem waits)
    have numbers : (s.setChannel nodeID us (s.wsMsgCh nodeID us ++ [⟨s.posted, userID, connID, nodeID, us, type, read⟩])).numbers =
        Function.update s.numbers (.channel nodeID us) (s.numbers (.channel nodeID us) ++ [s.posted]) := by
      rw [numbers_setChannel, List.map_append]
      rfl
    constructor
    · exact numbers ▸ orderly.apart.arrives (.channel nodeID us) orderly.absent
    · have sooner (place : MessagePlace) (number : Nat) (listed : number ∈ s.numbers place) : number < s.posted + 1 :=
        Nat.lt_succ_of_lt (orderly.below place number listed)
      exact numbers ▸ forall_mem_update sooner (List.forall_mem_append.mpr
        ⟨sooner (.channel nodeID us), List.forall_mem_singleton.mpr (Nat.lt_succ_self _)⟩)
    · intro other place message waits
      rcases mem_setChannel.mp waits with ⟨⟨rfl, rfl⟩, here⟩ | ⟨-, there⟩
      · rcases List.mem_append.mp here with old | new
        · exact orderly.place other place message old
        · rw [List.mem_singleton.mp new]
          exact ⟨rfl, rfl⟩
      · exact orderly.place other place message there
    · intro other place
      by_cases same : other = nodeID ∧ place = us
      · obtain ⟨rfl, rfl⟩ := same
        have filled := s.setChannel_self other place
          (s.wsMsgCh other place ++ [⟨s.posted, userID, connID, other, place, type, read⟩])
        dsimp only
        rw [filled]
        apply List.pairwise_append.mpr
        refine ⟨orderly.waiting other place, List.pairwise_singleton _ _, fun earlier listed later new => ?_⟩
        rw [List.mem_singleton.mp new]
        exact before listed
      · dsimp only
        rw [setChannel_other _ same]
        exact orderly.waiting other place
    · intro message told direct later waits
      rcases mem_setChannel.mp waits with ⟨⟨node, place⟩, here⟩ | ⟨-, there⟩
      · rcases List.mem_append.mp here with old | new
        · exact orderly.ahead message told direct later (by rw [node, place]; exact old)
        · rw [List.mem_singleton.mp new]
          exact orderly.below .rtc _ (List.mem_map_of_mem told)
      · exact orderly.ahead message told direct later there
    · exact orderly.inTurn

theorem read (orderly : s.Orderly) {object : SessionObject} {message : PostedMessage} {waiting : List PostedMessage}
    (queue : s.wsMsgCh nodeID us = message :: waiting) (handlerID : String) (granted sends : Bool) :
    ((s.setChannel nodeID us waiting).handleClientMsg nodeID object message handlerID granted sends).Orderly := by
  obtain ⟨taken, absent, below⟩ := orderly.take queue
  obtain ⟨node, place⟩ := orderly.place nodeID us message (by rw [queue]; exact List.mem_cons_self)
  have effect := (s.setChannel nodeID us waiting).handleClientMsg_effect nodeID object message handlerID granted sends
  generalize (s.setChannel nodeID us waiting).handleClientMsg nodeID object message handlerID granted sends = after at effect ⊢
  cases effect with
  | dropped => exact taken
  | relayed relays => exact taken.relay absent below
  | told tells =>
      have sorted := orderly.waiting nodeID us
      rw [queue] at sorted
      apply taken.tell absent below
      · intro _ later waits
        rw [node, place, setChannel_self] at waits
        exact (List.pairwise_cons.mp sorted).1 later waits
      · intro earlier told direct _ sameNode samePlace
        apply orderly.ahead earlier told direct message
        dsimp only at sameNode samePlace
        rw [sameNode, samePlace, node, place, queue]
        exact List.mem_cons_self

/-- A message on its way is somewhere in the list of those, whatever their order. -/
theorem arrive (orderly : s.Orderly) {place : Nat} {message : RelayedMessage} (waits : s.relayed[place]? = some message) :
    ({ s with relayed := s.relayed.eraseIdx place } : Signalling).Orderly ∧
      Absent ({ s with relayed := s.relayed.eraseIdx place } : Signalling).numbers message.clientMessage.number ∧
        message.clientMessage.number < s.posted := by
  obtain ⟨inside, rfl⟩ := List.getElem?_eq_some_iff.mp waits
  have whole : s.relayed = s.relayed.take place ++ s.relayed[place] :: s.relayed.drop (place + 1) := by
    rw [← List.drop_eq_getElem_cons inside, List.take_append_drop]
  have here : s.numbers .cluster = (s.relayed.take place).map (·.clientMessage.number) ++
      s.relayed[place].clientMessage.number :: (s.relayed.drop (place + 1)).map (·.clientMessage.number) := by
    have mapped := congrArg (List.map (·.clientMessage.number)) whole
    rwa [List.map_append, List.map_cons] at mapped
  have left : ({ s with relayed := s.relayed.eraseIdx place } : Signalling).numbers =
      Function.update s.numbers .cluster ((s.relayed.take place).map (·.clientMessage.number) ++
        (s.relayed.drop (place + 1)).map (·.clientMessage.number)) := by
    rw [numbers_relay, List.eraseIdx_eq_take_drop_succ, List.map_append]
  refine ⟨?_, ?_, orderly.below .cluster _ (List.mem_map_of_mem (List.getElem_mem inside))⟩
  · constructor
    · rw [left]
      exact orderly.apart.leaves here
    · rw [left]
      apply forall_mem_update orderly.below
      intro number listed
      apply orderly.below .cluster number
      rw [here]
      rcases List.mem_append.mp listed with front | back
      · exact List.mem_append_left _ front
      · exact List.mem_append_right _ (List.mem_cons_of_mem _ back)
    · exact orderly.place
    · exact orderly.waiting
    · exact orderly.ahead
    · exact orderly.inTurn
  · rw [left]
    exact orderly.apart.absent_of_leaves here

theorem deliverRelayed (orderly : s.Orderly) {place : Nat} {message : RelayedMessage}
    (waits : s.relayed[place]? = some message) (key : String) (sends : Bool) :
    ({ s with relayed := s.relayed.eraseIdx place }.handleRelayed message key sends).Orderly := by
  obtain ⟨arrived, absent, below⟩ := orderly.arrive waits
  rcases handleRelayed_effect { s with relayed := s.relayed.eraseIdx place } message key sends with
    same | ⟨object, type, -, -, told⟩
  · rw [same]
    exact arrived
  · rw [told]
    apply arrived.tell absent below
    · intro direct
      cases direct
    · intro earlier listed first direct
      cases direct

theorem next? {owner : String → String} {after : Signalling} (orderly : s.Orderly) {step : SignallingStep}
    (taken : Signalling.next? owner s step = some after) : after.Orderly := by
  cases step with
  | act nodeID step =>
      simp only [Signalling.next?] at taken
      split at taken
      · obtain ⟨records, -, rfl⟩ := Option.map_eq_some_iff.mp taken
        exact orderly.same rfl rfl rfl rfl
      · cases taken
  | deliver nodeID senderID number =>
      obtain ⟨records, -, rfl⟩ := Option.map_eq_some_iff.mp taken
      exact orderly.same rfl rfl rfl rfl
  | leaveCall sessionID =>
      cases taken
      exact orderly.same rfl rfl rfl rfl
  | post nodeID userID connID type data limited =>
      simp only [Signalling.next?] at taken
      split at taken
      · cases taken
        exact orderly.post userID connID type data limited
      · cases taken
  | read nodeID us handlerID granted sends =>
      simp only [Signalling.next?] at taken
      split at taken
      · cases taken
      · split at taken
        · next queue =>
          cases taken
          exact orderly.read queue handlerID granted sends
        · cases taken
  | deliverRelayed place key sends =>
      obtain ⟨message, waits, rfl⟩ := Option.map_eq_some_iff.mp taken
      exact orderly.deliverRelayed waits key sends
  | signal nodeID sessionID key =>
      cases taken
      unfold Signalling.writeSignal
      split
      · exact orderly.same rfl rfl rfl rfl
      · exact orderly

end Signalling.Orderly

theorem Signalling.numbers_idle : Signalling.idle.numbers = fun _ => [] := by
  funext place
  cases place <;> rfl

theorem Signalling.orderly_idle : Signalling.idle.Orderly where
  apart := by
    rw [Signalling.numbers_idle]
    exact apart_empty
  below place number listed := by
    rw [Signalling.numbers_idle] at listed
    cases listed
  place nodeID us message waits := absurd waits List.not_mem_nil
  waiting nodeID us := List.Pairwise.nil
  ahead message listed := absurd listed List.not_mem_nil
  inTurn := List.Pairwise.nil

end

/-! ### Runs -/

/-- The RTC side is told of a session what the user of the session has posted on a
connection of its own, each message once, and those that its reader tells it in
the order in which they were posted. -/
structure Signalling.MessagesOwn (owner : String → String) (s : Signalling) : Prop where
  own : ∀ message ∈ s.told, message.Vouched owner
  once : (s.told.map (·.message.number)).Nodup
  inTurn : s.told.Pairwise RTCMessage.InTurn

theorem messages_own (owner : String → String) (s : Signalling) (reached : (signalling owner).Reachable s) :
    s.MessagesOwn owner := by
  have vouched : s.Vouched owner False := by
    apply reached.invariant
    · rintro state rfl
      exact Signalling.vouched_idle owner False
    · intro before step after vouched taken
      exact vouched.next? False.elim taken
  have orderly : s.Orderly := by
    apply reached.invariant
    · rintro state rfl
      exact Signalling.orderly_idle
    · intro before step after orderly taken
      exact orderly.next? taken
  exact ⟨vouched.told, orderly.apart.once .rtc, orderly.inTurn⟩

def userOfConnection (connID : String) : String := if connID = "conn-1" ∨ connID = "conn-2" then "alice" else "mallory"

/-- Alice is in a call that node b has, through node a. Mallory, who is there too,
comes back through node a and says that the connection of Alice was hers. The
messages that Alice has posted overtake each other on their way to node b, and
mallory's own are told directly. -/
def malloryTakesOver : List SignallingStep :=
  [.act "a" (.join ⟨"alice", "channel", "conn-1"⟩ 2 (some ⟨"call", "b", false, false⟩)), .deliver "b" "a" 0,
    .act "b" (.join ⟨"mallory", "channel", "conn-8"⟩ 2 (some ⟨"call", "b", false, false⟩)),
    .post "a" "alice" "conn-1" .ice (some [1]) false, .post "a" "alice" "conn-1" .unmute none false,
    .read "a" 0 "b" true true, .read "a" 0 "b" true true,
    .post "b" "mallory" "conn-8" .sdp (some [2]) false, .post "b" "mallory" "conn-8" .mute none false,
    .read "b" 1 "b" true true, .read "b" 1 "b" true true,
    .act "a" (.reconnect ⟨"mallory", "conn-9", "channel", "conn-8", "conn-1", true⟩ "call" false false),
    .deliver "b" "a" 1, .deliverRelayed 1 "conn-1" true, .deliverRelayed 0 "conn-1" true, .signal "b" "conn-1" "conn-1"]

theorem malloryTakesOver_checked : ((signalling userOfConnection).run? .idle malloryTakesOver).map (fun s =>
    s.told.map fun message => (message.sessionID, message.message.userID, message.message.number)) =
    some [("conn-8", "mallory", 2), ("conn-8", "mallory", 3), ("conn-1", "alice", 1), ("conn-1", "alice", 0)] := by
  decide +kernel

theorem malloryTakesOver_misled : ((signalling userOfConnection).run? .idle malloryTakesOver).map (·.signals) =
    some [⟨"conn-9", "conn-1"⟩] := by
  decide +kernel

theorem messages_own_of_malloryTakesOver : ∃ s, (signalling userOfConnection).run? .idle malloryTakesOver = some s ∧
    s.told.map (·.message.number) = [2, 3, 1, 0] ∧ s.MessagesOwn userOfConnection := by
  obtain ⟨s, ran, told⟩ := Option.map_eq_some_iff.mp malloryTakesOver_checked
  have numbers := congrArg (List.map fun message => message.2.2) told
  rw [List.map_map] at numbers
  have start : (signalling userOfConnection).Reachable .idle := .init rfl
  exact ⟨s, ran, numbers, messages_own userOfConnection s (start.run ran)⟩

/-- Where clients that come back name connections of their own as their previous
ones, a signal about a session goes to a connection of the user of the session. -/
theorem signals_own (owner : String → String) (s : Signalling)
    (reached : ((signalling owner).restrict fun _ step => step.NamesOwn owner).Reachable s) :
    ∀ signal ∈ s.signals, owner signal.connectionID = owner signal.sessionID := by
  have vouched : s.Vouched owner True := by
    apply reached.invariant_of_allowed
    · rintro state rfl
      exact Signalling.vouched_idle owner True
    · intro before step after vouched truthful taken
      exact vouched.next? (fun _ => truthful) taken
  exact vouched.signals trivial

/-- Alice is in a call that node b has, through node a. She comes back through
node a with another connection, and node b is told of it. -/
def aliceRoams : List SignallingStep :=
  [.act "a" (.join ⟨"alice", "channel", "conn-1"⟩ 2 (some ⟨"call", "b", false, false⟩)), .deliver "b" "a" 0,
    .signal "b" "conn-1" "conn-1",
    .act "a" (.reconnect ⟨"alice", "conn-2", "channel", "conn-1", "conn-1", true⟩ "call" false false), .deliver "b" "a" 1,
    .signal "b" "conn-1" "conn-1"]

theorem aliceRoams_checked : ((signalling userOfConnection).run? .idle aliceRoams).map (fun s =>
    s.signals.map fun signal => (signal.connectionID, signal.sessionID)) =
    some [("conn-1", "conn-1"), ("conn-2", "conn-1")] := by
  decide +kernel

theorem signals_own_of_aliceRoams : ∃ s, (signalling userOfConnection).run? .idle aliceRoams = some s ∧
    s.signals.length = 2 ∧ ∀ signal ∈ s.signals, userOfConnection signal.connectionID = userOfConnection signal.sessionID := by
  obtain ⟨s, ran, signals⟩ := Option.map_eq_some_iff.mp aliceRoams_checked
  have start : ((signalling userOfConnection).restrict fun _ step => step.NamesOwn userOfConnection).Reachable .idle := .init rfl
  have truthful : ∀ step ∈ aliceRoams, step.NamesOwn userOfConnection := by
    simp [aliceRoams, SignallingStep.NamesOwn, userOfConnection]
  have reached := start.restrict_run (System.MeetsAlong.of_labels (fun step listed _ => truthful step listed) _) ran
  refine ⟨s, ran, ?_, signals_own userOfConnection s reached⟩
  simpa using congrArg List.length signals

/-- Else they may go to somebody else: nothing checks the previous connection that a client names. -/
theorem signal_misled : ∃ s, (signalling userOfConnection).Reachable s ∧
    ∃ signal ∈ s.signals, userOfConnection signal.connectionID ≠ userOfConnection signal.sessionID := by
  obtain ⟨s, ran, shape⟩ := Option.map_eq_some_iff.mp malloryTakesOver_misled
  have start : (signalling userOfConnection).Reachable .idle := .init rfl
  refine ⟨s, start.run ran, ⟨"conn-9", "conn-1"⟩, ?_, by decide⟩
  rw [shape]
  exact List.mem_cons_self

end Calls
