import Calls.Library.Timers
import Calls.Webapp.CallEnds

/-! What the window of a call shows for a moment: reactions, live captions, notices
about what a host did and users that have just joined. A handler shows it and sets
a timer to clear it. -/

set_option autoImplicit false

namespace Calls.Webapp

structure StreamedReaction where
  userID : String
  sessionID : String
  emoji : String
  timestamp : Int
  displayName : String
  deriving DecidableEq

structure LiveCaption where
  channelID : String
  sessionID : String
  userID : String
  text : String
  displayName : String
  captionID : String
  deriving DecidableEq

inductive HostControlNoticeType where
  | lowerHand | hostChanged | hostRemoved
  deriving DecidableEq

structure HostControlNotice where
  type : HostControlNoticeType
  callID : String
  noticeID : String
  displayName : String
  userID : Option String := none
  deriving DecidableEq

inductive FleetingAction where
  | uninit
  | callEnd (channelID : String)
  | userJoined (channelID userID : String)
  | userJoinedTimeout (channelID userID : String)
  | userLeft (channelID userID : String)
  | userReacted (channelID userID : String) (reaction : StreamedReaction)
  | userReactedTimeout (channelID userID : String) (reaction : StreamedReaction)
  | liveCaption (caption : LiveCaption)
  | liveCaptionTimeout (channelID sessionID captionID : String)
  | hostControlNotice (notice : HostControlNotice)
  | hostControlNoticeTimeout (callID noticeID : String)
  deriving DecidableEq

def maxNumReactionsInReactionStream : Nat := 50

def reactionTimeoutInReactionStream : Nat := 10000

def joinedUserNotificationTimeout : Nat := 5000

def liveCaptionTimeout : Nat := 5000

def hostControlNoticeTimeout : Nat := 5000

/-! ### The reducers -/

def queueReactions (state : List StreamedReaction) (reaction : StreamedReaction) : List StreamedReaction :=
  let result := state ++ [reaction]
  if result.length > maxNumReactionsInReactionStream then result.tail else result

def removeReaction (reactions : List StreamedReaction) (reaction : StreamedReaction) : List StreamedReaction :=
  reactions.filter fun r => r.userID ≠ reaction.userID ∨ r.timestamp > reaction.timestamp

def reactions (state : StringMap (List StreamedReaction)) : FleetingAction → StringMap (List StreamedReaction)
  | .userReacted channelID _ reaction =>
    match state.get? channelID with
    | none => state.set channelID [reaction]
    | some queued => state.set channelID (queueReactions queued reaction)
  | .userReactedTimeout channelID userID reaction =>
    match state.get? channelID with
    | none => state
    | some queued => state.set channelID (removeReaction queued { reaction with userID })
  | .userLeft channelID userID =>
    match state.get? channelID with
    | none => state
    | some queued => state.set channelID (queued.filter fun r => r.userID ≠ userID)
  | _ => state

def addCaption (channelState : Option (StringMap LiveCaption)) (data : LiveCaption) : StringMap LiveCaption :=
  (channelState.getD .empty).set data.sessionID data

def captionTimeout (channelState : Option (StringMap LiveCaption)) (sessionID captionID : String) : StringMap LiveCaption :=
  let state := channelState.getD .empty
  if (state.get? sessionID).any (·.captionID = captionID) then state.erase sessionID else state

def liveCaptions (state : StringMap (StringMap LiveCaption)) : FleetingAction → StringMap (StringMap LiveCaption)
  | .liveCaption data => state.set data.channelID (addCaption (state.get? data.channelID) data)
  | .liveCaptionTimeout channelID sessionID captionID =>
    state.set channelID (captionTimeout (state.get? channelID) sessionID captionID)
  | _ => state

def addHostControlNotice (notices : Option (List HostControlNotice)) (notice : HostControlNotice) : List HostControlNotice :=
  notices.getD [] ++ [notice]

def removeHostControlNotice (notices : List HostControlNotice) (noticeID : String) : List HostControlNotice :=
  notices.filter fun n => n.noticeID ≠ noticeID

/-- The reducer throws where it filters the notices of a call that has none yet. -/
def hostControlNotices (state : StringMap (List HostControlNotice)) :
    FleetingAction → Option (StringMap (List HostControlNotice))
  | .hostControlNotice data => some (state.set data.callID (addHostControlNotice (state.get? data.callID) data))
  | .hostControlNoticeTimeout callID noticeID =>
    (state.get? callID).map fun notices => state.set callID (removeHostControlNotice notices noticeID)
  | _ => some state

/-- The action as the reducer of the users that have just joined has it, with the data that this one reads. -/
def FleetingAction.widgetAction? : FleetingAction → Option WidgetAction
  | .uninit => some (.client (.plugin .uninit))
  | .callEnd channelID => some (.client (.plugin (.callEnd channelID "")))
  | .userJoined channelID userID => some (.client (.plugin (.userJoined channelID userID "")))
  | .userLeft channelID userID => some (.client (.plugin (.userLeft channelID userID "")))
  | .userJoinedTimeout channelID userID => some (.userJoinedTimeout channelID userID)
  | _ => none

structure FleetingState where
  reactions : StringMap (List StreamedReaction)
  liveCaptions : StringMap (StringMap LiveCaption)
  hostControlNotices : StringMap (List HostControlNotice)
  recentlyJoinedUsers : StringMap (Option (List String))

namespace FleetingState

def initial : FleetingState := ⟨.empty, .empty, .empty, .empty⟩

/-- No state comes of an action for which a reducer throws. -/
def dispatch? (state : FleetingState) (action : FleetingAction) : Option FleetingState :=
  (Webapp.hostControlNotices state.hostControlNotices action).map fun notices =>
    { reactions := Webapp.reactions state.reactions action
      liveCaptions := Webapp.liveCaptions state.liveCaptions action
      hostControlNotices := notices
      recentlyJoinedUsers := action.widgetAction?.elim state.recentlyJoinedUsers
        (Webapp.recentlyJoinedUsers state.recentlyJoinedUsers) }

/-- The state after an action: the old one where a reducer throws. -/
def dispatch (state : FleetingState) (action : FleetingAction) : FleetingState := (state.dispatch? action).getD state

end FleetingState

/-! ### The handlers -/

/-- The events that the handlers take, with what these find in the rest of the
state: the channel of the current call, the name of a user that is known, whether
the session is the one of this client and whether it was the last one of its call. -/
inductive FleetingEvent where
  | uninit
  | callEnd (channelID : String)
  | userJoined (channelID userID : String)
  | userLeft (channelID userID : String) (last : Bool)
  | userReaction (channelIDForCurrentCall channelID : String) (reaction : StreamedReaction)
  | caption (channelIDForCurrentCall : String) (caption : LiveCaption)
  | callHostChanged (callID hostID : String) (displayName : Option String) (noticeID : String)
  | hostLowerHand (own : Bool) (callID displayName noticeID : String)
  | hostRemoved (own : Bool) (callID : String) (displayName : Option String) (noticeID : String)
  deriving DecidableEq

namespace FleetingState

/-- Show a notice, and take it away after a while. -/
def showNotice (state : FleetingState) (notice : HostControlNotice) : FleetingState × List (Nat × FleetingAction) :=
  (state.dispatch (.hostControlNotice notice),
    [(Webapp.hostControlNoticeTimeout, .hostControlNoticeTimeout notice.callID notice.noticeID)])

/-- What the handlers dispatch, and the timers that they set. -/
def handle (state : FleetingState) : FleetingEvent → FleetingState × List (Nat × FleetingAction)
  | .uninit => (state.dispatch .uninit, [])
  | .callEnd channelID => (state.dispatch (.callEnd channelID), [])
  | .userJoined channelID userID =>
    (state.dispatch (.userJoined channelID userID),
      [(joinedUserNotificationTimeout, .userJoinedTimeout channelID userID)])
  | .userLeft channelID userID last =>
    let left := state.dispatch (.userLeft channelID userID)
    (if last then left.dispatch (.callEnd channelID) else left, [])
  | .userReaction channelIDForCurrentCall channelID reaction =>
    if channelIDForCurrentCall ≠ channelID then (state, [])
    else
      (state.dispatch (.userReacted channelID reaction.userID reaction),
        [(reactionTimeoutInReactionStream, .userReactedTimeout channelID reaction.userID reaction)])
  | .caption channelIDForCurrentCall caption =>
    if channelIDForCurrentCall ≠ caption.channelID then (state, [])
    else
      (state.dispatch (.liveCaption caption),
        [(Webapp.liveCaptionTimeout, .liveCaptionTimeout caption.channelID caption.sessionID caption.captionID)])
  | .callHostChanged callID hostID displayName noticeID =>
    match displayName with
    | none => (state, [])
    | some displayName => state.showNotice ⟨.hostChanged, callID, noticeID, displayName, some hostID⟩
  | .hostLowerHand own callID displayName noticeID =>
    -- The notice is put at the end of the event loop.
    if own then
      (state, [(0, .hostControlNotice ⟨.lowerHand, callID, noticeID, displayName, none⟩),
        (Webapp.hostControlNoticeTimeout, .hostControlNoticeTimeout callID noticeID)])
    else (state, [])
  | .hostRemoved own callID displayName noticeID =>
    if own then (state, [])
    else
      match displayName with
      | none => (state, [])
      | some displayName => state.showNotice ⟨.hostRemoved, callID, noticeID, displayName, none⟩

end FleetingState

def fleetingProgram : TimedProgram FleetingState FleetingEvent FleetingAction where
  handle event state := state.handle event
  fire action state := state.dispatch action

/-! ### What is shown -/

inductive FleetingItem where
  | reaction (channelID : String) (reaction : StreamedReaction)
  | caption (channelID sessionID captionID : String)
  | notice (callID noticeID : String)
  | joined (channelID userID : String)
  deriving DecidableEq

namespace FleetingItem

def Shown (state : FleetingState) : FleetingItem → Prop
  | .reaction channelID data => ∃ queued, state.reactions.get? channelID = some queued ∧ data ∈ queued
  | .caption channelID sessionID captionID =>
    ∃ captions, state.liveCaptions.get? channelID = some captions ∧
      ∃ caption, captions.get? sessionID = some caption ∧ caption.captionID = captionID
  | .notice callID noticeID =>
    ∃ notices, state.hostControlNotices.get? callID = some notices ∧ ∃ notice ∈ notices, notice.noticeID = noticeID
  | .joined channelID userID => ∃ users, state.recentlyJoinedUsers.get? channelID = some (some users) ∧ userID ∈ users

/-- The thing that an action shows. -/
def broughtBy : FleetingAction → Option FleetingItem
  | .userReacted channelID _ data => some (.reaction channelID data)
  | .liveCaption data => some (.caption data.channelID data.sessionID data.captionID)
  | .hostControlNotice data => some (.notice data.callID data.noticeID)
  | .userJoined channelID userID => some (.joined channelID userID)
  | _ => none

/-- What a timeout takes away. -/
def ClearedBy (item : FleetingItem) : FleetingAction → Prop
  | .userReactedTimeout channelID userID data =>
    ∃ old, item = .reaction channelID old ∧ old.userID = userID ∧ old.timestamp ≤ data.timestamp
  | .liveCaptionTimeout channelID sessionID captionID => item = .caption channelID sessionID captionID
  | .hostControlNoticeTimeout callID noticeID => item = .notice callID noticeID
  | .userJoinedTimeout channelID userID => item = .joined channelID userID
  | _ => False

/-- The event that a thing is shown for. -/
def Announced (item : FleetingItem) : FleetingEvent → Prop
  | .userReaction channelIDForCurrentCall channelID data =>
    channelIDForCurrentCall = channelID ∧ item = .reaction channelID data
  | .caption channelIDForCurrentCall data =>
    channelIDForCurrentCall = data.channelID ∧ item = .caption data.channelID data.sessionID data.captionID
  | .callHostChanged callID _ displayName noticeID => displayName.isSome = true ∧ item = .notice callID noticeID
  | .hostLowerHand own callID _ noticeID => own = true ∧ item = .notice callID noticeID
  | .hostRemoved own callID displayName noticeID =>
    own = false ∧ displayName.isSome = true ∧ item = .notice callID noticeID
  | .userJoined channelID userID => item = .joined channelID userID
  | _ => False

def limit : FleetingItem → Nat
  | .reaction _ _ => reactionTimeoutInReactionStream
  | .caption _ _ _ => Webapp.liveCaptionTimeout
  | .notice _ _ => Webapp.hostControlNoticeTimeout
  | .joined _ _ => joinedUserNotificationTimeout

def display : TimedProgram.Display FleetingState FleetingEvent FleetingAction FleetingItem where
  shown := Shown
  announces event item := item.Announced event
  brings action item := broughtBy action = some item
  clears action item := item.ClearedBy action
  limit := limit

end FleetingItem

end Calls.Webapp
