import Calls.Server.CallServer
import Calls.Server.Hosts

/-! What the steps of the server of calls do: to each call, as the store has it, and in notices. -/

set_option autoImplicit false

namespace Calls

open Command LockedHandler

/-! ### Dismissals -/

/-- Everything a dismissal can do. -/
inductive DismissEffect (env : Env) (userID channelID : String) (before : CallServer) : Except String Unit → CallServer → Prop where
  | refused {err : String} : DismissEffect env userID channelID before (.error err) before
  | dismissed {cs : CallState} {world : World} :
      before.ops.world.store.Loads channelID (some cs) →
      world.store = before.ops.world.store.saveCall (cs.call.dismissNotification userID) →
      DismissEffect env userID channelID before (.ok ())
        { before with
          ops := { before.ops with world }
          notices := before.notices ++ publishNotice env.botID (.userDismissedNotification userID cs.call.id)
            { userID, reliableClusterSend := true } }

theorem handleDismissNotification_spec (env : Env) (userID channelID : String) (before : CallServer) :
    (handleDismissNotification env userID channelID).wp (DismissEffect env userID channelID before) before := by
  unfold handleDismissNotification ServerHandler.onWorld
  rw [wp_bind, wp_zoom, wp_mapError]
  refine wp_mono (lockCallReturnState_spec env channelID before.ops.world) ?_
  intro result world effect
  obtain ⟨rfl, ⟨⟨err, rfl⟩, -⟩ | ⟨state, rfl, loads, -⟩⟩ := effect
  · exact .refused
  · cases state with
    | none => exact .refused
    | some cs =>
      dsimp only [Except.mapError]
      rw [andThen_ok]
      dsimp only
      rw [wp_bind, wp_zoom, wp_mapError, Handler.onStore, wp_zoom]
      exact Store.wp_updateCall (fun err => .refused) fun valid saves => .dismissed loads rfl

/-! ### What a host asks for -/

/-- The requester may ask for things in the call. -/
def Controls (env : Env) (requesterID : String) (cs : CallState) : Prop :=
  requesterID = cs.call.getHostID ∨ env.hasManageSystem requesterID = true

/-- The notices that a request of the host sends, each about a session of the call. -/
inductive Notice.Asks (env : Env) (requesterID channelID : String) (cs : CallState) : HostControl → Notice → Prop where
  | mute {ust : CallSession} :
      ust ∈ cs.sessions → ust.unmuted = true →
      Asks env requesterID channelID cs (.muteSession ust.id)
        { ev := .hostMute channelID ust.id, userID := ust.userID, reliableClusterSend := true }
  | muteOthers {ust : CallSession} :
      ust ∈ cs.sessions → ust.unmuted = true → ust.userID ≠ requesterID →
      Asks env requesterID channelID cs .muteOthers
        { ev := .hostMute channelID ust.id, userID := ust.userID, reliableClusterSend := true }
  | screenOff {ust : CallSession} :
      ust ∈ cs.sessions → cs.call.props.screenSharingSessionID = ust.id →
      Asks env requesterID channelID cs (.screenOff ust.id)
        { ev := .hostScreenOff channelID ust.id, userID := ust.userID, reliableClusterSend := true }
  | lowerHand {ust : CallSession} :
      ust ∈ cs.sessions → ust.raisedHand ≠ 0 →
      Asks env requesterID channelID cs (.lowerHand ust.id)
        { ev := .hostLowerHand cs.call.id channelID ust.id requesterID, userID := ust.userID, reliableClusterSend := true }
  | removed {ust : CallSession} {notice : Notice} :
      ust ∈ cs.sessions →
      notice ∈ publishNotice env.botID (.hostRemoved cs.call.id channelID ust.id ust.userID) (cs.toParticipants channelID) →
      Asks env requesterID channelID cs (.removeSession ust.id) notice

/-- What a request of the host adds: notices, and sessions that are to leave. -/
structure ControlAdds (env : Env) (requesterID channelID : String) (cs : CallState) (control : HostControl)
    (before after : CallServer) : Prop where
  ops : after.ops = before.ops
  closed : after.closed = before.closed
  notices : ∀ notice ∈ after.notices, notice ∈ before.notices ∨ notice.Asks env requesterID channelID cs control
  removing : ∀ entry ∈ after.removing, entry ∈ before.removing ∨
    ∃ sessionID, control = .removeSession sessionID ∧ entry = (channelID, sessionID) ∧ cs.sessions.contains sessionID = true

/-- Everything a request of the host can do. -/
inductive ControlEffect (env : Env) (requesterID channelID : String) (control : HostControl) (before : CallServer) :
    CallServer → Prop where
  | refused : ControlEffect env requesterID channelID control before before
  | done {cs : CallState} {after : CallServer} :
      before.ops.world.store.Loads channelID (some cs) → Controls env requesterID cs →
      ControlAdds env requesterID channelID cs control before after →
      ControlEffect env requesterID channelID control before after

section
variable {env : Env} {requesterID channelID : String} {before : CallServer} {cs : CallState} {control : HostControl}

theorem wp_asHost {body : CallState → ServerHandler Unit}
    (asked : ∀ cs, before.ops.world.store.Loads channelID (some cs) → Controls env requesterID cs →
      (body cs).wp (fun _ after => ControlAdds env requesterID channelID cs control before after) before) :
    (asHost env requesterID channelID body).wp (fun _ after => ControlEffect env requesterID channelID control before after) before := by
  unfold asHost ServerHandler.onWorld
  rw [wp_bind, wp_zoom, Handler.onStore, wp_zoom]
  refine wp_mono (getCallState_spec env channelID before.ops.world.store) ?_
  intro result store effect
  obtain ⟨rfl, ⟨⟨err, rfl⟩, -⟩ | ⟨state, rfl, loads, -⟩⟩ := effect
  · exact .refused
  · rw [andThen_ok]
    cases state with
    | none => exact .refused
    | some cs =>
      dsimp only
      rw [wp_ite]
      refine ⟨fun _ => .refused, fun granted => ?_⟩
      have controls : Controls env requesterID cs := by
        unfold Controls
        simp only [not_and_or, not_not, Bool.not_eq_false] at granted
        exact granted
      exact wp_mono (asked cs loads controls) fun _ _ adds => .done loads controls adds

theorem ControlAdds.nothing : ControlAdds env requesterID channelID cs control before before where
  ops := rfl
  closed := rfl
  notices _ listed := .inl listed
  removing _ listed := .inl listed

theorem ControlAdds.trans {middle after : CallServer} (first : ControlAdds env requesterID channelID cs control before middle)
    (second : ControlAdds env requesterID channelID cs control middle after) :
    ControlAdds env requesterID channelID cs control before after where
  ops := second.ops.trans first.ops
  closed := second.closed.trans first.closed
  notices notice listed := by
    rcases second.notices notice listed with old | asks
    · exact first.notices notice old
    · exact .inr asks
  removing entry listed := by
    rcases second.removing entry listed with old | removed
    · exact first.removing entry old
    · exact .inr removed

theorem ControlAdds.notify {ev : NoticeEvent} {broadcast : WebSocketBroadcast}
    (asks : ∀ notice ∈ publishNotice env.botID ev broadcast, notice.Asks env requesterID channelID cs control) :
    (ServerHandler.notify env ev broadcast).wp (fun _ after => ControlAdds env requesterID channelID cs control before after)
      before where
  ops := rfl
  closed := rfl
  notices notice listed := by
    rcases List.mem_append.mp listed with old | new
    · exact .inl old
    · exact .inr (asks notice new)
  removing _ listed := .inl listed

theorem wp_ofSession {sessionID : String} {body : CallSession → ServerHandler Unit}
    (found : ∀ ust ∈ cs.sessions, ust.id = sessionID →
      (body ust).wp (fun _ after => ControlAdds env requesterID channelID cs control before after) before) :
    (ofSession cs sessionID body).wp (fun _ after => ControlAdds env requesterID channelID cs control before after) before := by
  unfold ofSession
  cases listed : cs.sessions.find? sessionID with
  | none => exact .nothing
  | some ust =>
    obtain ⟨member, named⟩ := KeyedTable.find?_eq_some_iff.mp listed
    exact found ust member named

/-- An event for one user is told to no one else. -/
theorem publishNotice_user (botID userID : String) (ev : NoticeEvent) :
    publishNotice botID ev { userID, reliableClusterSend := true } = [{ ev, userID, reliableClusterSend := true }] := by
  simp [publishNotice, WebSocketBroadcast.notice]

/-- An event for some users is told to them and to the bot. -/
theorem mem_publishNotice_users {botID : String} {ev : NoticeEvent} {broadcast : WebSocketBroadcast} {notice : Notice}
    (users : broadcast.userIDs.isEmpty = false) (listed : notice ∈ publishNotice botID ev broadcast) :
    notice.ev = ev ∧ (notice.userID = botID ∨ notice.userID ∈ broadcast.userIDs) := by
  have toUsers {toUser : String → WebSocketBroadcast} (named : ∀ userID, (toUser userID).userID = userID)
      (told : notice ∈ (broadcast.userIDs.filter (· ≠ botID)).map fun userID => (toUser userID).notice ev) :
      notice.ev = ev ∧ (notice.userID = botID ∨ notice.userID ∈ broadcast.userIDs) := by
    obtain ⟨userID, chosen, rfl⟩ := List.mem_map.mp told
    refine ⟨rfl, .inr ?_⟩
    change (toUser userID).userID ∈ broadcast.userIDs
    rw [named]
    exact List.mem_of_mem_filter chosen
  unfold publishNotice at listed
  by_cases toBot : botID ≠ "" ∧ broadcast.channelID ≠ ""
  · simp only [if_pos toBot, users, Bool.false_eq_true, if_false] at listed
    rcases List.mem_append.mp listed with forBot | told
    · rw [List.mem_singleton.mp forBot]
      exact ⟨rfl, .inl rfl⟩
    · exact toUsers (fun _ => rfl) told
  · simp only [if_neg toBot, users, Bool.false_eq_true, if_false, List.nil_append] at listed
    exact toUsers (fun _ => rfl) listed

/-- An event for the participants of a call that has some is told to them and to the bot. -/
theorem mem_publishNotice_toParticipants {botID : String} {ev : NoticeEvent} {notice : Notice}
    (filled : ∃ session, session ∈ cs.sessions) (listed : notice ∈ publishNotice botID ev (cs.toParticipants channelID)) :
    notice.ev = ev ∧ (notice.userID = botID ∨ ∃ session ∈ cs.sessions, session.userID = notice.userID) := by
  obtain ⟨session, member⟩ := filled
  have users : (cs.toParticipants channelID).userIDs.isEmpty = false := by
    rw [List.isEmpty_eq_false_iff_exists_mem]
    exact ⟨session.userID, List.mem_dedup.mpr (List.mem_map_of_mem member)⟩
  obtain ⟨same, told⟩ := mem_publishNotice_users users listed
  exact ⟨same, told.imp_right fun participant => List.mem_map.mp (List.mem_dedup.mp participant)⟩

theorem HostControl.handle_spec (env : Env) (requesterID channelID : String) (control : HostControl) (before : CallServer) :
    (control.handle env requesterID channelID).wp (fun _ after => ControlEffect env requesterID channelID control before after)
      before := by
  cases control with
  | muteSession sessionID =>
    refine wp_asHost fun cs _ _ => wp_ofSession fun ust member named => ?_
    subst named
    rw [wp_when]
    refine ⟨fun unmuted => .notify fun notice listed => ?_, fun _ => .nothing⟩
    rw [publishNotice_user] at listed
    rw [List.mem_singleton.mp listed]
    exact .mute member unmuted
  | muteOthers =>
    refine wp_asHost fun cs _ _ => ?_
    have adding : ∀ ust ∈ env.order.visit cs.sessions.rows,
        Maintains (ControlAdds env requesterID channelID cs .muteOthers before)
          ((ServerHandler.notify env (.hostMute channelID ust.id) { userID := ust.userID, reliableClusterSend := true }).when
            (ust.unmuted = true ∧ ust.userID ≠ requesterID)) := by
      intro ust listed
      have member : ust ∈ cs.sessions := (env.order.perm _).mem_iff.mp listed
      refine .of_wp fun server adds => ?_
      rw [wp_when]
      refine ⟨fun unmuted => ?_, fun _ => adds⟩
      refine wp_mono (ControlAdds.notify fun notice told => ?_) fun _ _ more => adds.trans more
      rw [publishNotice_user] at told
      rw [List.mem_singleton.mp told]
      exact .muteOthers member unmuted.1 unmuted.2
    exact Maintains.forEach_mem _ adding before .nothing
  | screenOff sessionID =>
    refine wp_asHost fun cs _ _ => ?_
    rw [wp_ite]
    refine ⟨fun _ => .nothing, fun sharing => wp_ofSession fun ust member named => .notify fun notice listed => ?_⟩
    subst named
    rw [publishNotice_user] at listed
    rw [List.mem_singleton.mp listed]
    exact .screenOff member (not_not.mp sharing)
  | lowerHand sessionID =>
    refine wp_asHost fun cs _ _ => wp_ofSession fun ust member named => ?_
    subst named
    rw [wp_when]
    refine ⟨fun raised => .notify fun notice listed => ?_, fun _ => .nothing⟩
    rw [publishNotice_user] at listed
    rw [List.mem_singleton.mp listed]
    exact .lowerHand member raised
  | removeSession sessionID =>
    refine wp_asHost fun cs _ _ => wp_ofSession fun ust member named => ?_
    subst named
    have told : (ServerHandler.notify env (.hostRemoved cs.call.id channelID ust.id ust.userID) (cs.toParticipants channelID)).wp
        (fun _ after => ControlAdds env requesterID channelID cs (.removeSession ust.id) before after) before :=
      .notify fun notice listed => .removed member listed
    rw [wp_bind]
    refine wp_mono told fun result middle adds => ?_
    cases result with
    | error err => exact adds
    | ok value =>
      refine adds.trans ⟨rfl, rfl, fun _ listed => .inl listed, fun entry listed => ?_⟩
      rcases List.mem_append.mp listed with old | new
      · exact .inl old
      · exact .inr ⟨ust.id, rfl, List.mem_singleton.mp new, KeyedTable.contains_iff.mpr ⟨ust, member, rfl⟩⟩

end

end Calls
