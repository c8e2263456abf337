import Calls.Webapp.FleetingItems

/-! What an action shows and what it leaves of what was shown, and which timers the
handlers set. -/

set_option autoImplicit false

namespace Calls.Webapp

/-! ### What an action leaves and shows -/

namespace FleetingItem

/-- The thing was there and is not cleared, or the action shows it. -/
def FromBefore (shown : Prop) (item : FleetingItem) (action : FleetingAction) : Prop :=
  shown ∧ ¬ item.ClearedBy action ∨ broughtBy action = some item

theorem mem_queueReactions {queued : List StreamedReaction} {reaction other : StreamedReaction}
    (listed : other ∈ queueReactions queued reaction) : other ∈ queued ∨ other = reaction := by
  have inside : other ∈ queued ++ [reaction] := by
    unfold queueReactions at listed
    dsimp only at listed
    split at listed
    · exact List.mem_of_mem_tail listed
    · exact listed
  rcases List.mem_append.mp inside with old | new
  · exact .inl old
  · exact .inr (List.mem_singleton.mp new)

variable {action : FleetingAction} {channelID userID : String}

theorem reaction_fromBefore {state : StringMap (List StreamedReaction)} {queued : List StreamedReaction}
    {reaction : StreamedReaction} (there : (reactions state action).get? channelID = some queued) (listed : reaction ∈ queued) :
    FromBefore (∃ old, state.get? channelID = some old ∧ reaction ∈ old) (.reaction channelID reaction) action := by
  cases action with
  | userReacted otherID user brought =>
      simp only [reactions] at there
      split at there
      · next absent =>
        rw [StringMap.get?_set] at there
        split at there
        · next here =>
          cases there
          rw [List.mem_singleton.mp listed, here]
          exact .inr rfl
        · exact .inl ⟨⟨queued, there, listed⟩, id⟩
      · next old found =>
        rw [StringMap.get?_set] at there
        split at there
        · next here =>
          cases there
          rcases mem_queueReactions listed with before | new
          · exact .inl ⟨⟨old, by rw [here]; exact found, before⟩, id⟩
          · rw [new, here]
            exact .inr rfl
        · exact .inl ⟨⟨queued, there, listed⟩, id⟩
  | userReactedTimeout otherID user timedOut =>
      apply Or.inl
      simp only [reactions] at there
      split at there
      · next absent =>
        refine ⟨⟨queued, there, listed⟩, ?_⟩
        rintro ⟨old, same, -⟩
        cases same
        rw [absent] at there
        cases there
      · next old found =>
        rw [StringMap.get?_set] at there
        split at there
        · next here =>
          cases there
          obtain ⟨before, kept⟩ := List.mem_filter.mp listed
          refine ⟨⟨old, by rw [here]; exact found, before⟩, ?_⟩
          rintro ⟨cleared, same, user, older⟩
          cases same
          have survives : reaction.userID ≠ _ ∨ reaction.timestamp > timedOut.timestamp := of_decide_eq_true kept
          rcases survives with other | later
          · exact other user
          · exact absurd older (Int.not_le.mpr later)
        · next other =>
          refine ⟨⟨queued, there, listed⟩, ?_⟩
          rintro ⟨cleared, same, -⟩
          cases same
          exact other rfl
  | userLeft otherID user =>
      apply Or.inl
      refine ⟨?_, id⟩
      simp only [reactions] at there
      split at there
      · exact ⟨queued, there, listed⟩
      · next old found =>
        rw [StringMap.get?_set] at there
        split at there
        · next here =>
          cases there
          exact ⟨old, by rw [here]; exact found, (List.mem_filter.mp listed).1⟩
        · exact ⟨queued, there, listed⟩
  | liveCaptionTimeout | hostControlNoticeTimeout | userJoinedTimeout =>
      exact .inl ⟨⟨queued, there, listed⟩, fun cleared => by cases cleared⟩
  | uninit | callEnd | userJoined | liveCaption | hostControlNotice => exact .inl ⟨⟨queued, there, listed⟩, id⟩

theorem caption_fromBefore {state : StringMap (StringMap LiveCaption)} {captions : StringMap LiveCaption} {sessionID : String}
    {caption : LiveCaption} (there : (liveCaptions state action).get? channelID = some captions)
    (stored : captions.get? sessionID = some caption) :
    FromBefore (∃ old, state.get? channelID = some old ∧ ∃ before, old.get? sessionID = some before ∧ before.captionID = caption.captionID)
      (.caption channelID sessionID caption.captionID) action := by
  have known {channelState : Option (StringMap LiveCaption)} {before : LiveCaption} (same : state.get? channelID = channelState)
      (found : (channelState.getD .empty).get? sessionID = some before) :
      ∃ old, state.get? channelID = some old ∧ ∃ other, old.get? sessionID = some other ∧ other.captionID = before.captionID := by
    cases channelState with
    | none => cases found
    | some old => exact ⟨old, same, before, found, rfl⟩
  cases action with
  | liveCaption data =>
      simp only [liveCaptions, StringMap.get?_set] at there
      split at there
      · next here =>
        cases there
        rw [addCaption, StringMap.get?_set] at stored
        split at stored
        · next session =>
          cases stored
          rw [here, session]
          exact .inr rfl
        · exact .inl ⟨known (by rw [here]) stored, id⟩
      · exact .inl ⟨⟨captions, there, caption, stored, rfl⟩, id⟩
  | liveCaptionTimeout otherID session captionID =>
      apply Or.inl
      simp only [liveCaptions, StringMap.get?_set] at there
      split at there
      · next here =>
        cases there
        unfold captionTimeout at stored
        dsimp only at stored
        split at stored
        · rw [StringMap.get?_erase] at stored
          split at stored
          · cases stored
          · next other =>
            refine ⟨known (by rw [here]) stored, fun cleared => ?_⟩
            cases cleared
            exact other rfl
        · next kept =>
          refine ⟨known (by rw [here]) stored, fun cleared => ?_⟩
          cases cleared
          exact kept (by simp [stored])
      · next other =>
        refine ⟨⟨captions, there, caption, stored, rfl⟩, fun cleared => ?_⟩
        cases cleared
        exact other rfl
  | userReactedTimeout => exact .inl ⟨⟨captions, there, caption, stored, rfl⟩, fun ⟨_, same, _⟩ => by cases same⟩
  | hostControlNoticeTimeout | userJoinedTimeout =>
      exact .inl ⟨⟨captions, there, caption, stored, rfl⟩, fun cleared => by cases cleared⟩
  | uninit | callEnd | userJoined | userLeft | userReacted | hostControlNotice =>
      exact .inl ⟨⟨captions, there, caption, stored, rfl⟩, id⟩

theorem notice_fromBefore {state after : StringMap (List HostControlNotice)} {callID : String} {notices : List HostControlNotice}
    {notice : HostControlNotice} (reduced : hostControlNotices state action = some after)
    (there : after.get? callID = some notices) (listed : notice ∈ notices) :
    FromBefore (∃ old, state.get? callID = some old ∧ ∃ before ∈ old, before.noticeID = notice.noticeID)
      (.notice callID notice.noticeID) action := by
  cases action with
  | hostControlNotice data =>
      cases reduced
      rw [StringMap.get?_set] at there
      split at there
      · next here =>
        cases there
        rcases List.mem_append.mp listed with old | new
        · cases found : state.get? data.callID with
          | none =>
              rw [found] at old
              cases old
          | some before =>
              rw [found] at old
              exact .inl ⟨⟨before, by rw [here]; exact found, notice, old, rfl⟩, id⟩
        · rw [List.mem_singleton.mp new, here]
          exact .inr rfl
      · exact .inl ⟨⟨notices, there, notice, listed, rfl⟩, id⟩
  | hostControlNoticeTimeout otherID noticeID =>
      apply Or.inl
      obtain ⟨old, found, rfl⟩ := Option.map_eq_some_iff.mp reduced
      rw [StringMap.get?_set] at there
      split at there
      · next here =>
        cases there
        obtain ⟨before, kept⟩ := List.mem_filter.mp listed
        refine ⟨⟨old, by rw [here]; exact found, notice, before, rfl⟩, fun cleared => ?_⟩
        cases cleared
        have different : notice.noticeID ≠ notice.noticeID := of_decide_eq_true kept
        exact different rfl
      · next other =>
        refine ⟨⟨notices, there, notice, listed, rfl⟩, fun cleared => ?_⟩
        cases cleared
        exact other rfl
  | userReactedTimeout =>
      cases reduced
      exact .inl ⟨⟨notices, there, notice, listed, rfl⟩, fun ⟨_, same, _⟩ => by cases same⟩
  | liveCaptionTimeout | userJoinedTimeout =>
      cases reduced
      exact .inl ⟨⟨notices, there, notice, listed, rfl⟩, fun cleared => by cases cleared⟩
  | uninit | callEnd | userJoined | userLeft | userReacted | liveCaption =>
      cases reduced
      exact .inl ⟨⟨notices, there, notice, listed, rfl⟩, id⟩

/-- Who is left when a user is taken away was there before, and is another user. -/
theorem forgetJoined_cases {state : StringMap (Option (List String))} {otherID user : String} {users : List String}
    (there : (forgetJoined otherID user state).get? channelID = some (some users)) (listed : userID ∈ users) :
    (∃ old, state.get? channelID = some (some old) ∧ userID ∈ old) ∧ ¬ (channelID = otherID ∧ userID = user) := by
  rw [forgetJoined, StringMap.get?_set] at there
  split at there
  · next here =>
    obtain ⟨old, found, rfl⟩ := Option.map_eq_some_iff.mp (Option.some.inj there)
    obtain ⟨before, kept⟩ := List.mem_filter.mp listed
    have different : userID ≠ user := of_decide_eq_true kept
    exact ⟨⟨old, by rw [here]; exact Option.join_eq_some_iff.mp found, before⟩, fun same => different same.2⟩
  · next other => exact ⟨⟨users, there, listed⟩, fun same => other same.1⟩

theorem joined_fromBefore {state : StringMap (Option (List String))} {users : List String}
    (there : (action.widgetAction?.elim state (recentlyJoinedUsers state)).get? channelID = some (some users))
    (listed : userID ∈ users) :
    FromBefore (∃ old, state.get? channelID = some (some old) ∧ userID ∈ old) (.joined channelID userID) action := by
  cases action with
  | uninit => cases there
  | callEnd otherID =>
      dsimp only [FleetingAction.widgetAction?, Option.elim_some, recentlyJoinedUsers] at there
      rw [StringMap.get?_set] at there
      split at there
      · cases there
        cases listed
      · exact .inl ⟨⟨users, there, listed⟩, id⟩
  | userJoined otherID user =>
      dsimp only [FleetingAction.widgetAction?, Option.elim_some, recentlyJoinedUsers] at there
      split at there
      · rw [StringMap.get?_set] at there
        split at there
        · next here =>
          cases there
          rw [List.mem_singleton.mp listed, here]
          exact .inr rfl
        · exact .inl ⟨⟨users, there, listed⟩, id⟩
      · next old found =>
        rw [StringMap.get?_set] at there
        split at there
        · next here =>
          cases there
          rcases List.mem_append.mp listed with before | new
          · exact .inl ⟨⟨old, by rw [here]; exact Option.join_eq_some_iff.mp found, before⟩, id⟩
          · rw [List.mem_singleton.mp new, here]
            exact .inr rfl
        · exact .inl ⟨⟨users, there, listed⟩, id⟩
  | userLeft otherID user => exact .inl ⟨(forgetJoined_cases there listed).1, id⟩
  | userJoinedTimeout otherID user =>
      obtain ⟨before, other⟩ := forgetJoined_cases there listed
      refine .inl ⟨before, fun cleared => ?_⟩
      cases cleared
      exact other ⟨rfl, rfl⟩
  | userReactedTimeout => exact .inl ⟨⟨users, there, listed⟩, fun ⟨_, same, _⟩ => by cases same⟩
  | liveCaptionTimeout | hostControlNoticeTimeout =>
      exact .inl ⟨⟨users, there, listed⟩, fun cleared => by cases cleared⟩
  | userReacted | liveCaption | hostControlNotice => exact .inl ⟨⟨users, there, listed⟩, id⟩

/-- What is shown after an action was shown before and is not cleared by it, or is shown by it. -/
theorem shown_dispatch {state : FleetingState} {item : FleetingItem} (shown : item.Shown (state.dispatch action)) :
    FromBefore (item.Shown state) item action := by
  unfold FleetingState.dispatch FleetingState.dispatch? at shown
  cases reduced : hostControlNotices state.hostControlNotices action with
  | none =>
      -- The reducer of the notices throws: a timeout finds no entry for its call.
      rw [reduced] at shown
      change item.Shown state at shown
      refine .inl ⟨shown, fun cleared => ?_⟩
      cases action with
      | hostControlNoticeTimeout callID noticeID =>
          cases cleared
          obtain ⟨notices, found, -⟩ := shown
          rw [hostControlNotices, found] at reduced
          cases reduced
      | _ => cases reduced
  | some notices =>
      rw [reduced] at shown
      cases item with
      | reaction channelID reaction =>
          obtain ⟨queued, there, listed⟩ := shown
          exact reaction_fromBefore there listed
      | caption channelID sessionID captionID =>
          obtain ⟨captions, there, caption, stored, rfl⟩ := shown
          exact caption_fromBefore there stored
      | notice callID noticeID =>
          obtain ⟨after, there, notice, listed, rfl⟩ := shown
          exact notice_fromBefore reduced there listed
      | joined channelID userID =>
          obtain ⟨users, there, listed⟩ := shown
          exact joined_fromBefore there listed

variable {state : FleetingState} {item : FleetingItem}

/-- The timers that the handlers set. -/
inductive TimerOf : FleetingEvent → Nat → FleetingAction → Prop where
  | joined {channelID userID : String} :
      TimerOf (.userJoined channelID userID) joinedUserNotificationTimeout (.userJoinedTimeout channelID userID)
  | reaction {channelID : String} {data : StreamedReaction} :
      TimerOf (.userReaction channelID channelID data) reactionTimeoutInReactionStream
        (.userReactedTimeout channelID data.userID data)
  | caption {data : LiveCaption} :
      TimerOf (.caption data.channelID data) Webapp.liveCaptionTimeout
        (.liveCaptionTimeout data.channelID data.sessionID data.captionID)
  | hostChanged {callID hostID displayName noticeID : String} :
      TimerOf (.callHostChanged callID hostID (some displayName) noticeID) Webapp.hostControlNoticeTimeout
        (.hostControlNoticeTimeout callID noticeID)
  | handLowered {callID displayName noticeID : String} :
      TimerOf (.hostLowerHand true callID displayName noticeID) 0
        (.hostControlNotice ⟨.lowerHand, callID, noticeID, displayName, none⟩)
  | handTimeout {callID displayName noticeID : String} :
      TimerOf (.hostLowerHand true callID displayName noticeID) Webapp.hostControlNoticeTimeout
        (.hostControlNoticeTimeout callID noticeID)
  | hostRemoved {callID displayName noticeID : String} :
      TimerOf (.hostRemoved false callID (some displayName) noticeID) Webapp.hostControlNoticeTimeout
        (.hostControlNoticeTimeout callID noticeID)

theorem timer_of_handle {event : FleetingEvent} {delay : Nat} {action : FleetingAction}
    (set : (delay, action) ∈ (state.handle event).2) : TimerOf event delay action := by
  cases event with
  | uninit | callEnd | userLeft => cases set
  | userJoined channelID userID =>
      cases List.mem_singleton.mp set
      exact .joined
  | userReaction current channelID data =>
      simp only [FleetingState.handle] at set
      split at set
      · cases set
      · next here =>
        cases List.mem_singleton.mp set
        rw [not_not.mp here]
        exact .reaction
  | caption current data =>
      simp only [FleetingState.handle] at set
      split at set
      · cases set
      · next here =>
        cases List.mem_singleton.mp set
        rw [not_not.mp here]
        exact .caption
  | callHostChanged callID hostID displayName noticeID =>
      cases displayName with
      | none => cases set
      | some displayName =>
          cases List.mem_singleton.mp set
          exact .hostChanged
  | hostLowerHand own callID displayName noticeID =>
      cases own with
      | false => cases set
      | true =>
          rcases List.mem_cons.mp set with first | second
          · cases first
            exact .handLowered
          · cases List.mem_singleton.mp second
            exact .handTimeout
  | hostRemoved own callID displayName noticeID =>
      cases own with
      | true => cases set
      | false =>
          cases displayName with
          | none => cases set
          | some displayName =>
              cases List.mem_singleton.mp set
              exact .hostRemoved

/-- An action that shows nothing. -/
theorem shown_of_dispatch (silent : broughtBy action = none) (shown : item.Shown (state.dispatch action)) : item.Shown state := by
  rcases shown_dispatch shown with ⟨before, -⟩ | brought
  · exact before
  · rw [silent] at brought
    cases brought

/-- An event that shows a thing announces it, and sets a timer that clears it. -/
def Timed (event : FleetingEvent) (timers : List (Nat × FleetingAction)) (item : FleetingItem) : Prop :=
  item.Announced event ∧ ∃ delay action, (delay, action) ∈ timers ∧ item.ClearedBy action ∧ delay ≤ item.limit

theorem shown_showNotice {event : FleetingEvent} {notice : HostControlNotice}
    (announced : (FleetingItem.notice notice.callID notice.noticeID).Announced event)
    (shown : item.Shown (state.showNotice notice).1) : item.Shown state ∨ Timed event (state.showNotice notice).2 item := by
  rcases shown_dispatch shown with ⟨before, -⟩ | brought
  · exact .inl before
  · cases brought
    exact .inr ⟨announced, _, _, List.mem_singleton.mpr rfl, rfl, Nat.le_refl _⟩

theorem shown_handle {event : FleetingEvent} (shown : item.Shown (state.handle event).1) :
    item.Shown state ∨ Timed event (state.handle event).2 item := by
  cases event with
  | uninit => exact .inl (shown_of_dispatch rfl shown)
  | callEnd channelID => exact .inl (shown_of_dispatch rfl shown)
  | userJoined channelID userID =>
      rcases shown_dispatch shown with ⟨before, -⟩ | brought
      · exact .inl before
      · cases brought
        exact .inr ⟨rfl, _, _, List.mem_singleton.mpr rfl, rfl, Nat.le_refl _⟩
  | userLeft channelID userID last =>
      apply Or.inl
      simp only [FleetingState.handle] at shown
      split at shown
      · exact shown_of_dispatch rfl (shown_of_dispatch rfl shown)
      · exact shown_of_dispatch rfl shown
  | userReaction current channelID data =>
      simp only [FleetingState.handle] at shown ⊢
      split at shown
      · exact .inl shown
      · next here =>
        rw [if_neg here]
        rcases shown_dispatch shown with ⟨before, -⟩ | brought
        · exact .inl before
        · cases brought
          refine .inr ⟨⟨not_not.mp here, rfl⟩, _, _, List.mem_singleton.mpr rfl, ?_, Nat.le_refl _⟩
          exact ⟨data, rfl, rfl, Int.le_refl _⟩
  | caption current data =>
      simp only [FleetingState.handle] at shown ⊢
      split at shown
      · exact .inl shown
      · next here =>
        rw [if_neg here]
        rcases shown_dispatch shown with ⟨before, -⟩ | brought
        · exact .inl before
        · cases brought
          exact .inr ⟨⟨not_not.mp here, rfl⟩, _, _, List.mem_singleton.mpr rfl, rfl, Nat.le_refl _⟩
  | callHostChanged callID hostID displayName noticeID =>
      cases displayName with
      | none => exact .inl shown
      | some displayName => exact shown_showNotice ⟨rfl, rfl⟩ shown
  | hostLowerHand own callID displayName noticeID =>
      cases own with
      | false => exact .inl shown
      | true => exact .inl shown
  | hostRemoved own callID displayName noticeID =>
      cases own with
      | true => exact .inl shown
      | false =>
          cases displayName with
          | none => exact .inl shown
          | some displayName => exact shown_showNotice ⟨rfl, rfl, rfl⟩ shown

/-- Only the notice about a hand that a host has lowered is shown by a timer. -/
theorem brought_handle {event : FleetingEvent} {delay : Nat} {action : FleetingAction}
    (set : (delay, action) ∈ (state.handle event).2) (brings : broughtBy action = some item) :
    item.Announced event ∧ ∃ later clear, (later, clear) ∈ (state.handle event).2 ∧ delay < later ∧
      item.ClearedBy clear ∧ later ≤ item.limit := by
  cases timer_of_handle set with
  | joined | reaction | caption | hostChanged | handTimeout | hostRemoved => cases brings
  | handLowered =>
      cases brings
      exact ⟨⟨rfl, rfl⟩, _, _, List.mem_cons_of_mem _ (List.mem_singleton.mpr rfl), by decide, rfl, Nat.le_refl _⟩

theorem fleetingProgram_clears : fleetingProgram.Clears display where
  handled _ _ _ shown := shown_handle shown
  brought _ _ _ _ _ set brings := brought_handle set brings
  fired _ _ _ shown := shown_dispatch shown

/-! ### The length of the stream -/

/-- No more reactions are kept than the stream has room for. -/
def Bounded (state : FleetingState) : Prop :=
  ∀ channelID queued, state.reactions.get? channelID = some queued → queued.length ≤ maxNumReactionsInReactionStream

theorem length_queueReactions {queued : List StreamedReaction} (few : queued.length ≤ maxNumReactionsInReactionStream)
    (data : StreamedReaction) : (queueReactions queued data).length ≤ maxNumReactionsInReactionStream := by
  unfold queueReactions
  dsimp only
  split
  · rw [List.length_tail, List.length_append, List.length_singleton]
    exact few
  · next fits => exact Nat.not_lt.mp fits

theorem Bounded.reactions (bounded : Bounded state) (action : FleetingAction) (channelID : String) (queued : List StreamedReaction)
    (there : (Webapp.reactions state.reactions action).get? channelID = some queued) :
    queued.length ≤ maxNumReactionsInReactionStream := by
  have set {otherID : String} {fewer : List StreamedReaction} (few : fewer.length ≤ maxNumReactionsInReactionStream)
      (found : (state.reactions.set otherID fewer).get? channelID = some queued) :
      queued.length ≤ maxNumReactionsInReactionStream := by
    rw [StringMap.get?_set] at found
    split at found
    · cases found
      exact few
    · exact bounded channelID queued found
  cases action with
  | userReacted otherID userID data =>
      simp only [Webapp.reactions] at there
      split at there
      · exact set (by simp [maxNumReactionsInReactionStream]) there
      · next old found => exact set (length_queueReactions (bounded otherID old found) data) there
  | userReactedTimeout otherID userID data =>
      simp only [Webapp.reactions] at there
      split at there
      · exact bounded channelID queued there
      · next old found => exact set (Nat.le_trans (List.length_filter_le _ old) (bounded otherID old found)) there
  | userLeft otherID userID =>
      simp only [Webapp.reactions] at there
      split at there
      · exact bounded channelID queued there
      · next old found => exact set (Nat.le_trans (List.length_filter_le _ old) (bounded otherID old found)) there
  | _ => exact bounded channelID queued there

theorem Bounded.dispatch (bounded : Bounded state) (action : FleetingAction) : Bounded (state.dispatch action) := by
  unfold FleetingState.dispatch FleetingState.dispatch?
  cases hostControlNotices state.hostControlNotices action with
  | none => exact bounded
  | some notices => exact bounded.reactions action

theorem Bounded.handle (bounded : Bounded state) (event : FleetingEvent) : Bounded (state.handle event).1 := by
  cases event with
  | uninit => exact bounded.dispatch _
  | callEnd channelID => exact bounded.dispatch _
  | userJoined channelID userID => exact bounded.dispatch _
  | userLeft channelID userID last =>
      simp only [FleetingState.handle]
      split
      · exact (bounded.dispatch _).dispatch _
      · exact bounded.dispatch _
  | userReaction current channelID data =>
      simp only [FleetingState.handle]
      split
      · exact bounded
      · exact bounded.dispatch _
  | caption current data =>
      simp only [FleetingState.handle]
      split
      · exact bounded
      · exact bounded.dispatch _
  | callHostChanged callID hostID displayName noticeID =>
      cases displayName with
      | none => exact bounded
      | some displayName => exact bounded.dispatch _
  | hostLowerHand own callID displayName noticeID =>
      cases own with
      | false => exact bounded
      | true => exact bounded
  | hostRemoved own callID displayName noticeID =>
      cases own with
      | true => exact bounded
      | false =>
          cases displayName with
          | none => exact bounded
          | some displayName => exact bounded.dispatch _

end FleetingItem

/-! ### What lasts -/

namespace FleetingItem

/-- A newer caption of the session, the user's leaving or the end of the call takes a thing away. -/
def DroppedBy (item : FleetingItem) : FleetingAction → Prop
  | .uninit => ∃ channelID userID, item = .joined channelID userID
  | .callEnd channelID => ∃ userID, item = .joined channelID userID
  | .userLeft channelID userID => item = .joined channelID userID
  | .liveCaption data => ∃ captionID, item = .caption data.channelID data.sessionID captionID
  | _ => False

def DroppedByEvent (event : FleetingEvent) (item : FleetingItem) : Prop :=
  match event with
  | .uninit => item.DroppedBy .uninit
  | .callEnd channelID => item.DroppedBy (.callEnd channelID)
  | .userLeft channelID userID last =>
    item.DroppedBy (.userLeft channelID userID) ∨ last = true ∧ item.DroppedBy (.callEnd channelID)
  | .caption channelIDForCurrentCall data => channelIDForCurrentCall = data.channelID ∧ item.DroppedBy (.liveCaption data)
  | _ => False

/-- The event shows the thing at once. The stream of reactions has no room for all of them. -/
def ShownAtOnce (event : FleetingEvent) (item : FleetingItem) : Prop :=
  match event with
  | .userReaction .. => False
  | .hostLowerHand .. => False
  | event => item.Announced event

/-- A thing that some event shows at once is no reaction. -/
theorem ShownAtOnce.lasting {event : FleetingEvent} {item : FleetingItem} (shown : ShownAtOnce event item)
    (channelID : String) (data : StreamedReaction) : item ≠ .reaction channelID data := by
  rintro rfl
  cases event with
  | userReaction | hostLowerHand | uninit | callEnd | userLeft => exact shown
  | userJoined => cases shown
  | caption => cases shown.2
  | callHostChanged => cases shown.2
  | hostRemoved => cases shown.2.2

variable {action : FleetingAction} {state : FleetingState} {item : FleetingItem}

/-- A thing stays, or the action clears or drops it. -/
def Stays (shown : Prop) (item : FleetingItem) (action : FleetingAction) : Prop :=
  shown ∨ item.ClearedBy action ∨ item.DroppedBy action

theorem caption_stays {captionsState : StringMap (StringMap LiveCaption)} {channelID sessionID : String}
    {captions : StringMap LiveCaption} {caption : LiveCaption} (there : captionsState.get? channelID = some captions)
    (stored : captions.get? sessionID = some caption) :
    Stays (∃ after, (liveCaptions captionsState action).get? channelID = some after ∧ after.get? sessionID = some caption)
      (.caption channelID sessionID caption.captionID) action := by
  cases action with
  | liveCaption data =>
      by_cases channel : channelID = data.channelID
      · subst channel
        by_cases session : sessionID = data.sessionID
        · subst session
          exact .inr (.inr ⟨caption.captionID, rfl⟩)
        · refine .inl ⟨captions.set data.sessionID data, ?_, ?_⟩
          · rw [liveCaptions, StringMap.get?_set, if_pos rfl, there]
            rfl
          · rw [StringMap.get?_set, if_neg session]
            exact stored
      · refine .inl ⟨captions, ?_, stored⟩
        rw [liveCaptions, StringMap.get?_set, if_neg channel]
        exact there
  | liveCaptionTimeout otherID session captionID =>
      by_cases channel : channelID = otherID
      · subst channel
        by_cases cleared : FleetingItem.caption channelID sessionID caption.captionID = .caption channelID session captionID
        · exact .inr (.inl cleared)
        · refine .inl ⟨captionTimeout (some captions) session captionID, ?_, ?_⟩
          · rw [liveCaptions, StringMap.get?_set, if_pos rfl, there]
          · unfold captionTimeout
            dsimp only [Option.getD_some]
            split
            · next matching =>
              rw [StringMap.get?_erase, if_neg]
              · exact stored
              · rintro rfl
                rw [stored] at matching
                have same : caption.captionID = captionID := by simpa using matching
                exact cleared (by rw [same])
            · exact stored
      · refine .inl ⟨captions, ?_, stored⟩
        rw [liveCaptions, StringMap.get?_set, if_neg channel]
        exact there
  | _ => exact .inl ⟨captions, there, stored⟩

theorem notice_stays {noticesState after : StringMap (List HostControlNotice)} {callID : String} {notices : List HostControlNotice}
    {notice : HostControlNotice} (reduced : hostControlNotices noticesState action = some after)
    (there : noticesState.get? callID = some notices) (listed : notice ∈ notices) :
    Stays (∃ left, after.get? callID = some left ∧ notice ∈ left) (.notice callID notice.noticeID) action := by
  cases action with
  | hostControlNotice data =>
      cases reduced
      apply Or.inl
      by_cases call : callID = data.callID
      · subst call
        refine ⟨addHostControlNotice (some notices) data, ?_, List.mem_append_left _ listed⟩
        rw [StringMap.get?_set, if_pos rfl, there]
      · exact ⟨notices, by rw [StringMap.get?_set, if_neg call]; exact there, listed⟩
  | hostControlNoticeTimeout otherID noticeID =>
      obtain ⟨old, found, rfl⟩ := Option.map_eq_some_iff.mp reduced
      by_cases call : callID = otherID
      · subst call
        rw [there] at found
        cases found
        by_cases same : notice.noticeID = noticeID
        · exact .inr (.inl (by rw [same]; rfl))
        · refine .inl ⟨removeHostControlNotice notices noticeID, by rw [StringMap.get?_set, if_pos rfl], ?_⟩
          exact List.mem_filter.mpr ⟨listed, decide_eq_true same⟩
      · exact .inl ⟨notices, by rw [StringMap.get?_set, if_neg call]; exact there, listed⟩
  | _ =>
      cases reduced
      exact .inl ⟨notices, there, listed⟩

/-- Another user stays. -/
theorem forgetJoined_keeps {joined : StringMap (Option (List String))} {channelID userID otherID user : String}
    {users : List String} (there : joined.get? channelID = some (some users)) (listed : userID ∈ users)
    (other : ¬ (channelID = otherID ∧ userID = user)) :
    ∃ left, (forgetJoined otherID user joined).get? channelID = some (some left) ∧ userID ∈ left := by
  rw [forgetJoined, StringMap.get?_set]
  split
  · next here =>
    subst here
    refine ⟨users.filter (· ≠ user), by rw [there]; rfl, List.mem_filter.mpr ⟨listed, ?_⟩⟩
    exact decide_eq_true fun same => other ⟨rfl, same⟩
  · exact ⟨users, there, listed⟩

theorem joined_stays {joined : StringMap (Option (List String))} {channelID userID : String} {users : List String}
    (there : joined.get? channelID = some (some users)) (listed : userID ∈ users) :
    Stays (∃ left, (action.widgetAction?.elim joined (recentlyJoinedUsers joined)).get? channelID = some (some left) ∧ userID ∈ left)
      (.joined channelID userID) action := by
  cases action with
  | uninit => exact .inr (.inr ⟨channelID, userID, rfl⟩)
  | callEnd otherID =>
      by_cases channel : channelID = otherID
      · subst channel
        exact .inr (.inr ⟨userID, rfl⟩)
      · refine .inl ⟨users, ?_, listed⟩
        dsimp only [FleetingAction.widgetAction?, Option.elim_some, recentlyJoinedUsers]
        rw [StringMap.get?_set, if_neg channel]
        exact there
  | userJoined otherID user =>
      apply Or.inl
      dsimp only [FleetingAction.widgetAction?, Option.elim_some, recentlyJoinedUsers]
      by_cases channel : channelID = otherID
      · subst channel
        rw [there]
        exact ⟨users ++ [user], by rw [Option.join_some, StringMap.get?_set, if_pos rfl], List.mem_append_left _ listed⟩
      · split
        · exact ⟨users, by rw [StringMap.get?_set, if_neg channel]; exact there, listed⟩
        · exact ⟨users, by rw [StringMap.get?_set, if_neg channel]; exact there, listed⟩
  | userLeft otherID user =>
      by_cases same : channelID = otherID ∧ userID = user
      · obtain ⟨rfl, rfl⟩ := same
        exact .inr (.inr rfl)
      · exact .inl (forgetJoined_keeps there listed same)
  | userJoinedTimeout otherID user =>
      by_cases same : channelID = otherID ∧ userID = user
      · obtain ⟨rfl, rfl⟩ := same
        exact .inr (.inl rfl)
      · exact .inl (forgetJoined_keeps there listed same)
  | _ => exact .inl ⟨users, there, listed⟩

/-- An action takes nothing away but what it clears or drops. -/
theorem stays_dispatch (lasting : ∀ channelID data, item ≠ .reaction channelID data) (shown : item.Shown state) :
    Stays (item.Shown (state.dispatch action)) item action := by
  unfold FleetingState.dispatch FleetingState.dispatch?
  cases reduced : hostControlNotices state.hostControlNotices action with
  | none => exact .inl shown
  | some notices =>
      cases item with
      | reaction channelID data => exact absurd rfl (lasting channelID data)
      | caption channelID sessionID captionID =>
          obtain ⟨captions, there, caption, stored, rfl⟩ := shown
          rcases caption_stays there stored with ⟨after, found, kept⟩ | taken
          · exact .inl ⟨after, found, caption, kept, rfl⟩
          · exact .inr taken
      | notice callID noticeID =>
          obtain ⟨old, there, notice, listed, rfl⟩ := shown
          rcases notice_stays reduced there listed with ⟨left, found, kept⟩ | taken
          · exact .inl ⟨left, found, notice, kept, rfl⟩
          · exact .inr taken
      | joined channelID userID =>
          obtain ⟨users, there, listed⟩ := shown
          exact joined_stays there listed

/-- What an action does not clear stays, or is dropped by it. -/
theorem stays_or_dropped (lasting : ∀ channelID data, item ≠ .reaction channelID data) (spared : ¬ item.ClearedBy action)
    (shown : item.Shown state) : item.Shown (state.dispatch action) ∨ item.DroppedBy action := by
  rcases stays_dispatch lasting shown with still | cleared | dropped
  · exact .inl still
  · exact absurd cleared spared
  · exact .inr dropped

theorem handled_stays {event : FleetingEvent} (lasting : ∀ channelID data, item ≠ .reaction channelID data)
    (shown : item.Shown state) : item.Shown (state.handle event).1 ∨ item.DroppedByEvent event := by
  cases event with
  | uninit => exact stays_or_dropped lasting id shown
  | callEnd channelID => exact stays_or_dropped lasting id shown
  | userJoined channelID userID => exact stays_or_dropped lasting id shown
  | userLeft channelID userID last =>
      have spared : ¬ item.ClearedBy (.userLeft channelID userID) := id
      simp only [FleetingState.handle]
      rcases stays_or_dropped lasting spared shown with still | dropped
      · split
        · next ended =>
          have spared : ¬ item.ClearedBy (.callEnd channelID) := id
          rcases stays_or_dropped lasting spared still with kept | dropped
          · exact .inl kept
          · exact .inr (.inr ⟨ended, dropped⟩)
        · exact .inl still
      · exact .inr (.inl dropped)
  | userReaction current channelID data =>
      simp only [FleetingState.handle]
      split
      · exact .inl shown
      · exact stays_or_dropped lasting id shown
  | caption current data =>
      simp only [FleetingState.handle]
      split
      · exact .inl shown
      · next here =>
        have spared : ¬ item.ClearedBy (.liveCaption data) := id
        rcases stays_or_dropped lasting spared shown with still | dropped
        · exact .inl still
        · exact .inr ⟨not_not.mp here, dropped⟩
  | callHostChanged callID hostID displayName noticeID =>
      cases displayName with
      | none => exact .inl shown
      | some displayName => exact stays_or_dropped lasting id shown
  | hostLowerHand own callID displayName noticeID =>
      cases own with
      | false => exact .inl shown
      | true => exact .inl shown
  | hostRemoved own callID displayName noticeID =>
      cases own with
      | true => exact .inl shown
      | false =>
          cases displayName with
          | none => exact .inl shown
          | some displayName => exact stays_or_dropped lasting id shown

theorem notice_dispatch (data : HostControlNotice) :
    (FleetingItem.notice data.callID data.noticeID).Shown (state.dispatch (.hostControlNotice data)) := by
  refine ⟨addHostControlNotice (state.hostControlNotices.get? data.callID) data, ?_, data, ?_, rfl⟩
  · simp only [FleetingState.dispatch, FleetingState.dispatch?, hostControlNotices, Option.map_some, Option.getD_some]
    rw [StringMap.get?_set, if_pos rfl]
  · exact List.mem_append_right _ (List.mem_singleton.mpr rfl)

theorem shown_of_shownAtOnce {event : FleetingEvent} (shows : ShownAtOnce event item) : item.Shown (state.handle event).1 := by
  cases event with
  | userReaction | hostLowerHand | uninit | callEnd | userLeft => cases shows
  | userJoined channelID userID =>
      cases shows
      simp only [FleetingState.handle, FleetingState.dispatch, FleetingState.dispatch?, hostControlNotices, Option.map_some,
        Option.getD_some, Shown, FleetingAction.widgetAction?, Option.elim_some, recentlyJoinedUsers]
      split
      · exact ⟨[userID], by rw [StringMap.get?_set, if_pos rfl], List.mem_singleton.mpr rfl⟩
      · next users _ =>
        exact ⟨users ++ [userID], by rw [StringMap.get?_set, if_pos rfl], List.mem_append_right _ (List.mem_singleton.mpr rfl)⟩
  | caption current data =>
      obtain ⟨here, rfl⟩ := shows
      simp only [FleetingState.handle, if_neg (not_not.mpr here), FleetingState.dispatch, FleetingState.dispatch?,
        hostControlNotices, Option.map_some, Option.getD_some, Shown, liveCaptions]
      refine ⟨addCaption (state.liveCaptions.get? data.channelID) data, ?_, data, ?_, rfl⟩
      · rw [StringMap.get?_set, if_pos rfl]
      · rw [addCaption, StringMap.get?_set, if_pos rfl]
  | callHostChanged callID hostID displayName noticeID =>
      obtain ⟨known, rfl⟩ := shows
      cases displayName with
      | none => cases known
      | some displayName => exact notice_dispatch ⟨.hostChanged, callID, noticeID, displayName, some hostID⟩
  | hostRemoved own callID displayName noticeID =>
      obtain ⟨rfl, known, rfl⟩ := shows
      cases displayName with
      | none => cases known
      | some displayName => exact notice_dispatch ⟨.hostRemoved, callID, noticeID, displayName, none⟩

/-- Timers are set for the time that a thing is to be shown. -/
theorem delay_handle {event : FleetingEvent} {delay : Nat} {action : FleetingAction}
    (set : (delay, action) ∈ (state.handle event).2) (clears : item.ClearedBy action) : item.limit ≤ delay := by
  cases timer_of_handle set with
  | reaction =>
      obtain ⟨old, rfl, -⟩ := clears
      exact Nat.le_refl _
  | handLowered => cases clears
  | joined | caption | hostChanged | handTimeout | hostRemoved =>
      cases clears
      exact Nat.le_refl _

/-- Timers clear things and show notices, and drop nothing. -/
theorem not_dropped_of_sets {action : FleetingAction} (sets : fleetingProgram.Sets action) : ¬ item.DroppedBy action := by
  obtain ⟨event, state, delay, set⟩ := sets
  change (delay, action) ∈ (state.handle event).2 at set
  cases timer_of_handle set <;> exact id

theorem fleetingProgram_lasts :
    fleetingProgram.Lasts display ShownAtOnce (fun event item => item.DroppedByEvent event) where
  shown _ _ _ shows := shown_of_shownAtOnce shows
  handled _ _ _ _ shows shown := handled_stays shows.lasting shown
  fired action state item event sets shows shown := by
    rcases stays_dispatch shows.lasting shown with still | cleared | dropped
    · exact .inl still
    · exact .inr cleared
    · exact absurd dropped (not_dropped_of_sets sets)
  delayed _ _ _ _ _ set clears := delay_handle set clears

end FleetingItem

end Calls.Webapp
