import Mathlib.Data.List.Nodup
import Mathlib.Data.List.Perm.Basic
import Calls.Library.System
import Calls.Webapp.ClientState

/-! The notifications of calls that come in. What adds one may wait for the channel and for the
profile of the caller, while the user dismisses calls and calls end. -/

set_option autoImplicit false

namespace Calls.Webapp

/-- A call that comes in, as `incomingCallOnChannel` is told of it. -/
structure IncomingCall where
  channelID : String
  callID : String
  callerID : String
  startAt : Int
  deriving DecidableEq

/-- What an invocation waits for. -/
inductive Suspension where
  | loadingChannel (call : IncomingCall)
  | loadingProfile (notification : IncomingCallNotification)
  deriving DecidableEq

/-- The client's state with the channels and users that it knows, and the invocations that wait. A channel of which no
type is known is neither one of direct messages nor one of a group. -/
structure NotifiedClient where
  client : ClientState
  currentUserID : String
  channelIDForCurrentCall : String
  channels : StringMap (Option ChannelType)
  profiles : List String
  suspended : List Suspension := []

def ClientState.callDismissedNotification (client : ClientState) (channelID : String) : Bool :=
  (client.dismissedCalls.get? channelID).getD false

def ClientState.dismissIncomingCallNotification (callID : String) (client : ClientState) : ClientState :=
  client.dispatchAll [.removeIncomingCall callID, .dismissCall callID]

namespace NotifiedClient

def update (change : ClientState → ClientState) (state : NotifiedClient) : NotifiedClient :=
  { state with client := change state.client }

def idForCurrentCall (state : NotifiedClient) : Option String :=
  (state.client.plugin.calls.get? state.channelIDForCurrentCall).map CallState.id

/-- The notification of a call, if there is to be one. -/
def checked (call : IncomingCall) (channel : Option (Option ChannelType)) (state : NotifiedClient) : Option IncomingCallNotification :=
  match channel with
  | none | some none => none
  | some (some type) =>
    if state.client.callDismissedNotification call.channelID then none
    else if state.client.incomingCalls.any fun other => other.callID = call.callID then none
    -- Nothing is said of a call that one has started, or that one is in.
    else if state.currentUserID = call.callerID ∨ state.idForCurrentCall = some call.callID then none
    else some { callID := call.callID, channelID := call.channelID, callerID := call.callerID, startAt := call.startAt, type }

def suspend (suspension : Suspension) (state : NotifiedClient) : NotifiedClient :=
  { state with suspended := state.suspended ++ [suspension] }

def addIncomingCall (notification : IncomingCallNotification) : NotifiedClient → NotifiedClient :=
  update (·.dispatch (.addIncomingCall notification))

/-- The checks, and what follows them. -/
def withChannel (call : IncomingCall) (channel : Option (Option ChannelType)) (state : NotifiedClient) : NotifiedClient :=
  match state.checked call channel with
  | none => state
  | some notification =>
    if call.callerID ∈ state.profiles then state.addIncomingCall notification else state.suspend (.loadingProfile notification)

def incomingCallOnChannel (call : IncomingCall) (state : NotifiedClient) : NotifiedClient :=
  match state.channels.get? call.channelID with
  | none => state.suspend (.loadingChannel call)
  | some channel => state.withChannel call (some channel)

/-- The channel that was loaded is known from now on. -/
def receiveChannel (channelID : String) (channel : Option (Option ChannelType)) (state : NotifiedClient) : NotifiedClient :=
  match channel with
  | none => state
  | some type => { state with channels := state.channels.set channelID type }

/-- An invocation goes on. -/
def resume (place : Nat) (state : NotifiedClient) : NotifiedClient := { state with suspended := state.suspended.eraseIdx place }

end NotifiedClient

inductive NotificationStep where
  | invoked (call : IncomingCall)
  /-- The channel of a call was loaded; it may not have been found. -/
  | channelLoaded (place : Nat) (channel : Option (Option ChannelType))
  /-- The request for the caller's profile was answered. -/
  | profileLoaded (place : Nat)
  | dismissed (callID : String)
  | dismissedElsewhere (userID callID : String)
  /-- The state of a call came with its dismissal. -/
  | dismissalLoaded (callID : String)
  /-- A call ended; what tells of it names the channel only. -/
  | ended (channelID callID : String)
  /-- The user has joined the call of a channel. -/
  | joined (channelID : String)
  | dispatched (action : Action)
  | currentCall (channelID : String)
  | channelReceived (channelID : String) (type : Option ChannelType)
  | profileReceived (userID : String)

namespace NotifiedClient

def next? (state : NotifiedClient) : NotificationStep → Option NotifiedClient
  | .invoked call => some (state.incomingCallOnChannel call)
  | .channelLoaded place channel =>
    match state.suspended[place]? with
    | some (.loadingChannel call) => some (((state.resume place).receiveChannel call.channelID channel).withChannel call channel)
    | _ => none
  | .profileLoaded place =>
    match state.suspended[place]? with
    | some (.loadingProfile notification) => some ((state.resume place).addIncomingCall notification)
    | _ => none
  | .dismissed callID => some (state.update (·.dismissIncomingCallNotification callID))
  | .dismissedElsewhere userID callID =>
    some (if userID ≠ state.currentUserID then state else state.update (·.dismissIncomingCallNotification callID))
  | .dismissalLoaded callID => some (state.update (·.dispatch (.dismissCall callID)))
  | .ended channelID _ => some (state.update (·.callEnd channelID))
  | .joined channelID =>
    some (state.update fun client =>
      client.dispatch (.removeIncomingCall (((client.plugin.calls.get? channelID).map CallState.id).getD "")))
  | .dispatched action => some (state.update (·.dispatch (.plugin action)))
  | .currentCall channelID => some { state with channelIDForCurrentCall := channelID }
  | .channelReceived channelID type => some (state.receiveChannel channelID (some type))
  | .profileReceived userID => some { state with profiles := userID :: state.profiles }

end NotifiedClient

/-- The call whose notification waits for the profile of its caller. -/
def Suspension.awaited? : Suspension → Option String
  | .loadingChannel _ => none
  | .loadingProfile notification => some notification.callID

/-- The calls that the user has dismissed or that have ended. -/
def noteGone (gone : List String) (state : NotifiedClient) : NotificationStep → List String
  | .dismissed callID | .dismissalLoaded callID | .ended _ callID => callID :: gone
  | .dismissedElsewhere userID callID => if userID ≠ state.currentUserID then gone else callID :: gone
  | _ => gone

/-- What happens to a client that has no notifications at first. -/
def notificationRuns : System (NotifiedClient × List String) NotificationStep :=
  System.observed
    { init := fun state => state.client.incomingCalls = [] ∧ state.suspended = [], next? := NotifiedClient.next? } []
    fun gone state step _ => noteGone gone state step

namespace NotifiedClient

variable (state : NotifiedClient)

def listed : List String := state.client.incomingCalls.map IncomingCallNotification.callID

def awaited : List String := state.suspended.filterMap Suspension.awaited?

end NotifiedClient

/-- No call is listed twice, and none that was dismissed or has ended. -/
structure ListsOnce (state : NotifiedClient × List String) : Prop where
  once : state.1.listed.Nodup
  present : ∀ callID ∈ state.1.listed, callID ∉ state.2

/-- A call whose notification passes the checks was not dismissed, has not ended, and no other invocation awaits the
profile of its caller; a call is not dismissed and does not end while one does; and the client knows a listed call that ends. -/
def InTime (state : NotifiedClient × List String) : NotificationStep → Prop
  | .invoked call => ∀ channel, state.1.channels.get? call.channelID = some channel → state.1.checked call (some channel) ≠ none →
      call.callID ∉ state.2 ∧ call.callID ∉ state.1.awaited
  | .channelLoaded place channel => ∀ call, state.1.suspended[place]? = some (.loadingChannel call) →
      state.1.checked call channel ≠ none → call.callID ∉ state.2 ∧ call.callID ∉ state.1.awaited
  | .dismissed callID => callID ∉ state.1.awaited
  | .dismissedElsewhere userID callID => userID = state.1.currentUserID → callID ∉ state.1.awaited
  | .dismissalLoaded callID => callID ∉ state.1.awaited ∧ callID ∉ state.1.listed
  | .ended channelID callID => callID ∉ state.1.awaited ∧
      (callID ∈ state.1.listed → (state.1.client.plugin.calls.get? channelID).map CallState.id = some callID)
  | _ => True

/-- No call is listed or awaited twice, and none that was dismissed or has ended. -/
structure NotificationInvariant (state : NotifiedClient × List String) : Prop where
  once : (state.1.listed ++ state.1.awaited).Nodup
  present : ∀ callID ∈ state.1.listed ++ state.1.awaited, callID ∉ state.2

namespace NotificationInvariant

variable {state : NotifiedClient} {gone : List String}

/-- Fewer calls are listed and awaited, and those that are gone besides are none of them. -/
theorem fewer {after : NotifiedClient} (inv : NotificationInvariant (state, gone)) (leaving : List String)
    (left : (after.listed ++ after.awaited).Sublist (state.listed ++ state.awaited))
    (parts : ∀ callID ∈ leaving, callID ∉ after.listed ++ after.awaited) : NotificationInvariant (after, leaving ++ gone) := by
  refine ⟨inv.once.sublist left, fun callID member away => ?_⟩
  rcases List.mem_append.mp away with new | old
  · exact parts callID new member
  · exact inv.present callID (left.subset member) old

/-- A call is to be listed, or awaited, that is neither and not gone. -/
theorem more {after : NotifiedClient} {callID : String} (inv : NotificationInvariant (state, gone))
    (moved : (after.listed ++ after.awaited).Perm (callID :: (state.listed ++ state.awaited)))
    (fresh : callID ∉ state.listed ++ state.awaited) (present : callID ∉ gone) : NotificationInvariant (after, gone) := by
  refine ⟨moved.symm.nodup (List.nodup_cons.mpr ⟨fresh, inv.once⟩), fun other member => ?_⟩
  rcases List.mem_cons.mp (moved.subset member) with rfl | old
  · exact present
  · exact inv.present other old

theorem checked_unlisted {call : IncomingCall} {channel : Option (Option ChannelType)} {notification : IncomingCallNotification}
    (passes : state.checked call channel = some notification) :
    notification.callID = call.callID ∧ call.callID ∉ state.listed := by
  unfold NotifiedClient.checked at passes
  split at passes
  · cases passes
  · cases passes
  · split at passes
    · cases passes
    · split at passes
      · cases passes
      · next unlisted =>
        split at passes
        · cases passes
        · cases passes
          refine ⟨rfl, fun member => unlisted ?_⟩
          obtain ⟨other, listed, same⟩ := List.mem_map.mp member
          exact List.any_eq_true.mpr ⟨other, listed, decide_eq_true same⟩

/-- The channel of a call is known. -/
theorem withChannel {call : IncomingCall} {channel : Option (Option ChannelType)} (inv : NotificationInvariant (state, gone))
    (inTime : state.checked call channel ≠ none → call.callID ∉ gone ∧ call.callID ∉ state.awaited) :
    NotificationInvariant (state.withChannel call channel, gone) := by
  unfold NotifiedClient.withChannel
  cases passes : state.checked call channel with
  | none => exact inv
  | some notification =>
    obtain ⟨named, unlisted⟩ := checked_unlisted passes
    obtain ⟨present, unawaited⟩ := inTime (by rw [passes]; exact Option.some_ne_none _)
    have fresh : call.callID ∉ state.listed ++ state.awaited := fun member =>
      (List.mem_append.mp member).elim unlisted unawaited
    dsimp only
    split
    · refine inv.more ?_ fresh present
      have listed : (state.addIncomingCall notification).listed = state.listed ++ [call.callID] := by
        rw [← named]
        exact List.map_append
      rw [listed, List.append_assoc]
      exact List.perm_middle
    · refine inv.more ?_ fresh present
      have awaited : (state.suspend (.loadingProfile notification)).awaited = state.awaited ++ [call.callID] := by
        rw [← named]
        exact List.filterMap_append
      rw [awaited, ← List.append_assoc]
      exact List.perm_append_singleton _ _

theorem moved {after : NotifiedClient} (inv : NotificationInvariant (state, gone))
    (same : (after.listed ++ after.awaited).Perm (state.listed ++ state.awaited)) : NotificationInvariant (after, gone) :=
  ⟨same.symm.nodup inv.once, fun callID member => inv.present callID (same.subset member)⟩

/-- An invocation that goes on awaits its profile no more. -/
theorem awaited_resume {notification : IncomingCallNotification} {place : Nat}
    (found : state.suspended[place]? = some (.loadingProfile notification)) :
    state.awaited.Perm (notification.callID :: (state.resume place).awaited) := by
  obtain ⟨bound, same⟩ := List.getElem?_eq_some_iff.mp found
  have split := (List.getElem_cons_eraseIdx_perm bound).filterMap Suspension.awaited?
  rw [same] at split
  exact split.symm

/-- The calls that are still listed after one is removed. -/
theorem listed_remove (callID : String) (client : ClientState) :
    (client.dispatch (.removeIncomingCall callID)).incomingCalls.map IncomingCallNotification.callID =
      (client.incomingCalls.map IncomingCallNotification.callID).filter fun other => other ≠ callID := by
  rw [List.filter_map]
  rfl

/-- The notification of a call is removed, and others may be. -/
theorem removed {change : ClientState → ClientState} {removed : String} (inv : NotificationInvariant (state, gone))
    (leaving : List String)
    (listed : (change state.client).incomingCalls = (state.client.dispatch (.removeIncomingCall removed)).incomingCalls)
    (parts : ∀ callID ∈ leaving, callID ∉ state.awaited ∧ (callID ∈ state.listed → callID = removed)) :
    NotificationInvariant (state.update change, leaving ++ gone) := by
  have left : (state.update change).listed = state.listed.filter fun other => other ≠ removed := by
    change (change state.client).incomingCalls.map _ = _
    rw [listed]
    exact listed_remove removed state.client
  refine inv.fewer leaving ?_ fun callID member => ?_
  · rw [left]
    exact List.filter_sublist.append_right _
  · obtain ⟨unawaited, only⟩ := parts callID member
    rw [left]
    intro kept
    rcases List.mem_append.mp kept with stays | waits
    · obtain ⟨before, other⟩ := List.mem_filter.mp stays
      exact of_decide_eq_true other (only before)
    · exact unawaited waits

theorem step {after : NotifiedClient} {step : NotificationStep} (inv : NotificationInvariant (state, gone))
    (inTime : InTime (state, gone) step) (taken : state.next? step = some after) :
    NotificationInvariant (after, noteGone gone state step) := by
  cases step with
  | invoked call =>
    cases taken
    change NotificationInvariant (state.incomingCallOnChannel call, gone)
    unfold NotifiedClient.incomingCallOnChannel
    cases known : state.channels.get? call.channelID with
    | none =>
      refine inv.moved ?_
      have awaited : (state.suspend (.loadingChannel call)).awaited = state.awaited ++ [] := List.filterMap_append
      rw [awaited, List.append_nil]
      exact .refl _
    | some channel => exact inv.withChannel (inTime channel known)
  | channelLoaded place channel =>
    unfold NotifiedClient.next? at taken
    dsimp only at taken
    split at taken
    · next call found =>
      cases taken
      have resumed : NotificationInvariant ((state.resume place).receiveChannel call.channelID channel, gone) := by
        have left : ((state.resume place).listed ++ (state.resume place).awaited).Sublist (state.listed ++ state.awaited) :=
          ((List.eraseIdx_sublist _ _).filterMap _).append_left _
        cases channel with
        | none => exact inv.fewer [] left (fun _ member => by cases member)
        | some type => exact inv.fewer [] left (fun _ member => by cases member)
      have same : ((state.resume place).receiveChannel call.channelID channel).checked call channel = state.checked call channel := by
        cases channel <;> rfl
      have fewer : ((state.resume place).receiveChannel call.channelID channel).awaited.Sublist state.awaited := by
        cases channel <;> exact (List.eraseIdx_sublist _ _).filterMap _
      refine resumed.withChannel fun passes => ?_
      obtain ⟨present, unawaited⟩ := inTime call found (by rw [← same]; exact passes)
      exact ⟨present, fun member => unawaited (fewer.subset member)⟩
    · cases taken
  | profileLoaded place =>
    unfold NotifiedClient.next? at taken
    dsimp only at taken
    split at taken
    · next notification found =>
      cases taken
      refine inv.moved ?_
      have listed : ((state.resume place).addIncomingCall notification).listed = state.listed ++ [notification.callID] := List.map_append
      rw [listed, List.append_assoc]
      exact (awaited_resume found).symm.append_left _
    · cases taken
  | dismissed callID =>
    cases taken
    refine inv.removed [callID] rfl fun _ member => ?_
    obtain rfl := List.mem_singleton.mp member
    exact ⟨inTime, fun _ => rfl⟩
  | dismissedElsewhere userID callID =>
    cases taken
    by_cases other : userID ≠ state.currentUserID
    · have unchanged : noteGone gone state (.dismissedElsewhere userID callID) = gone := if_pos other
      rw [if_pos other, unchanged]
      exact inv
    · have away : noteGone gone state (.dismissedElsewhere userID callID) = callID :: gone := if_neg other
      rw [if_neg other, away]
      refine inv.removed [callID] rfl fun _ member => ?_
      obtain rfl := List.mem_singleton.mp member
      exact ⟨inTime (not_not.mp other), fun _ => rfl⟩
  | dismissalLoaded callID =>
    cases taken
    refine inv.fewer [callID] (.refl _) fun _ member => ?_
    obtain rfl := List.mem_singleton.mp member
    exact fun either => (List.mem_append.mp either).elim inTime.2 inTime.1
  | ended channelID callID =>
    cases taken
    refine inv.removed [callID] rfl fun _ member => ?_
    obtain rfl := List.mem_singleton.mp member
    refine ⟨inTime.1, fun listed => ?_⟩
    rw [inTime.2 listed]
    rfl
  | joined channelID =>
    cases taken
    exact inv.removed [] rfl (fun _ member => by cases member)
  | dispatched action | currentCall channelID | profileReceived userID | channelReceived channelID type =>
    cases taken
    exact ⟨inv.once, inv.present⟩

end NotificationInvariant

/-- In every run whose steps are in time no call is listed twice, and none that was dismissed or has ended. -/
theorem listsOnce_of_inTime {state : NotifiedClient × List String}
    (reached : (notificationRuns.restrict InTime).Reachable state) : ListsOnce state := by
  have inv : NotificationInvariant state := by
    refine System.Reachable.invariant_of_allowed ?_ ?_ reached
    · intro facts both
      obtain ⟨start, gone⟩ := facts
      obtain ⟨⟨unlisted, idle⟩, rfl⟩ := both
      have none : start.listed ++ start.awaited = [] := by
        unfold NotifiedClient.listed NotifiedClient.awaited
        rw [unlisted, idle]
        rfl
      refine ⟨?_, fun callID member => ?_⟩
      · dsimp only
        rw [none]
        exact List.nodup_nil
      · dsimp only at member
        rw [none] at member
        cases member
    · intro state step next inv inTime taken
      obtain ⟨before, gone⟩ := state
      obtain ⟨after, left⟩ := next
      obtain ⟨moved, noted⟩ := System.observed_next?.mp taken
      dsimp only at noted
      rw [noted]
      exact inv.step inTime moved
  exact ⟨(List.nodup_append.mp inv.once).1, fun callID member => inv.present callID (List.mem_append_left _ member)⟩

/-- Bob's client, which knows Alice but none of the channels. -/
def bobNotified : NotifiedClient :=
  { client := .initial, currentUserID := "bob", channelIDForCurrentCall := "", channels := .empty, profiles := ["alice"] }

def callFromAlice : IncomingCall := { channelID := "direct", callID := "call", callerID := "alice", startAt := 1000 }

/-- Bob is told of the call of Alice, and dismisses it. -/
theorem listsOnce_of_dismissal : ∃ state, ListsOnce state ∧ state.2 = ["call"] := by
  have meets : notificationRuns.MeetsAlong InTime (bobNotified, []) [.invoked callFromAlice, .channelLoaded 0 (some (some .dm)), .dismissed "call"] := by
    refine ⟨fun channel known => ?_, fun _ taken => ?_⟩
    · cases known
    · cases taken
      refine ⟨fun _ _ _ => ⟨List.not_mem_nil, List.not_mem_nil⟩, fun _ taken => ?_⟩
      cases taken
      exact ⟨List.not_mem_nil, fun _ _ => trivial⟩
  exact ⟨_, listsOnce_of_inTime (System.Reachable.restrict_run (.init ⟨⟨rfl, rfl⟩, rfl⟩) meets rfl), rfl⟩

/-- Bob dismisses the call of Alice on another device while his client loads its channel: it is listed all the same. -/
theorem not_listsOnce : ¬ ∀ state, notificationRuns.Reachable state → ListsOnce state := by
  intro lists
  have start : notificationRuns.Reachable (bobNotified, []) := .init ⟨⟨rfl, rfl⟩, rfl⟩
  let steps : List NotificationStep := [.invoked callFromAlice, .dismissedElsewhere "bob" "call", .channelLoaded 0 (some (some .dm))]
  have ran := start.run (show notificationRuns.run? _ steps = some _ from rfl)
  exact (lists _ ran).present "call" (by decide) (by decide)

end Calls.Webapp
