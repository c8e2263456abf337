import Calls.Library.System
import Calls.Webapp.Handlers

/-! The entries that a client keeps of sessions, whatever events reach it and in
whatever order. Voices and reactions are not published under the lock of the
call, so an event about a session may come when it has left. -/

set_option autoImplicit false

namespace Calls.Webapp

/-- What happens to a client: an event is delivered, or the time of a reaction is over. -/
inductive ClientStep where
  | receive (client : Client) (channelID : String) (ev : WsEvent)
  | reactionTimeout (channelID userID sessionID : String) (reaction : Reaction)

def PluginState.step (state : PluginState) : ClientStep → PluginState
  | .receive client channelID ev => handleEvent client channelID ev state
  | .reactionTimeout channelID userID sessionID reaction =>
    state.dispatch (.userReactedTimeout channelID userID sessionID reaction)

/-- What the events have said of sessions so far, by channel: which have left, and which were unmuted. -/
structure Heard where
  left : List (String × String)
  unmuted : List (String × String)

def Heard.note (heard : Heard) : ClientStep → Heard
  | .receive _ channelID (.userLeft _ sessionID) => { heard with left := heard.left ++ [(channelID, sessionID)] }
  | .receive _ channelID (.userUnmuted _ sessionID) =>
    { heard with unmuted := heard.unmuted ++ [(channelID, sessionID)] }
  | .receive _ _ (.callState channelID call) =>
    { heard with
      unmuted := heard.unmuted ++ (call.sessions.filter (·.unmuted)).map fun session => (channelID, session.sessionID) }
  | _ => heard

/-- Deliveries to a client that starts without any state. -/
def deliveries : System (PluginState × Heard) ClientStep where
  init state := state = (.initial, ⟨[], []⟩)
  next? state step := some (state.1.step step, state.2.note step)

/-- The entry of a session. -/
def SessionsState.lookup (state : SessionsState) (channelID sessionID : String) : Option UserSessionState :=
  (state.get? channelID).bind (·.get? sessionID)

/-- An entry is that of its session, which has not left, and is marked as unmuted only if that was said. -/
structure EntrySound (heard : Heard) (channelID sessionID : String) (entry : UserSessionState) : Prop where
  named : entry.sessionID = some sessionID
  owned : entry.userID.isSome = true
  unmuted : entry.unmuted = some true → (channelID, sessionID) ∈ heard.unmuted
  present : (channelID, sessionID) ∉ heard.left

def EntriesSound (state : PluginState × Heard) : Prop :=
  ∀ channelID sessionID entry, state.1.sessions.lookup channelID sessionID = some entry →
    EntrySound state.2 channelID sessionID entry

/-- The client has an entry of the session, or has none of the channel and the session has not left. -/
def Known (state : PluginState × Heard) (channelID sessionID : String) : Prop :=
  match state.1.sessions.get? channelID with
  | some entries => entries.contains sessionID = true
  | none => (channelID, sessionID) ∉ state.2.left

/-- An event that changes an entry finds it; one that brings a session is not about one that has left. -/
def Timely (state : PluginState × Heard) : ClientStep → Prop
  | .receive client channelID ev =>
    match ev with
    | .userMuted _ sessionID | .userUnmuted _ sessionID | .userVoiceOn _ sessionID | .userVoiceOff _ sessionID
    | .userRaiseHand _ sessionID _ | .userUnraiseHand _ sessionID _ | .userVideoOn _ sessionID =>
      Known state channelID sessionID
    | .userVideoOff _ sessionID => Known state channelID sessionID ∧
      (state.1.sessions.get? channelID = none → (channelID, sessionID) ∈ state.2.unmuted)
    | .userReacted _ sessionID _ => client.channelIDForCurrentCall = channelID → Known state channelID sessionID
    | .userJoined _ sessionID => (channelID, sessionID) ∉ state.2.left
    | .callState channelID call => ∀ session ∈ call.sessions, (channelID, session.sessionID) ∉ state.2.left
    | _ => True
  | .reactionTimeout _ _ _ _ => True

/-! ### Entries after an action -/

section
variable {state : SessionsState} {channelID sessionID other id : String}

theorem lookup_set (entries : StringMap UserSessionState) :
    SessionsState.lookup (state.set channelID entries) other id =
      if other = channelID then entries.get? id else state.lookup other id := by
  unfold SessionsState.lookup
  rw [StringMap.get?_set]
  split <;> rfl

theorem lookup_erase : SessionsState.lookup (state.erase channelID) other id =
    if other = channelID then none else state.lookup other id := by
  unfold SessionsState.lookup
  rw [StringMap.get?_erase]
  split <;> rfl

/-- The entry that a patch leaves. -/
def patched (state : SessionsState) (channelID sessionID : String) (created : UserSessionState)
    (change : UserSessionState → UserSessionState) : UserSessionState :=
  match state.get? channelID with
  | none => created
  | some entries => change ((entries.get? sessionID).getD {})

theorem lookup_of_none (unknown : state.get? channelID = none) : state.lookup channelID id = none := by
  rw [SessionsState.lookup, unknown]
  rfl

theorem lookup_of_some {entries : StringMap UserSessionState} (found : state.get? channelID = some entries) :
    state.lookup channelID id = entries.get? id := by
  rw [SessionsState.lookup, found]
  rfl

/-- An entry is set in a channel, of which nothing else changes. -/
theorem lookup_set_entry (entry : UserSessionState) :
    SessionsState.lookup (state.set channelID (StringMap.set ((state.get? channelID).getD .empty) sessionID entry)) other id =
      if other = channelID ∧ id = sessionID then some entry else state.lookup other id := by
  rw [lookup_set, StringMap.get?_set]
  by_cases here : other = channelID
  · subst here
    simp only [if_true, true_and]
    split
    · rfl
    · cases found : state.get? other with
      | none => rw [lookup_of_none found]; rfl
      | some entries => rw [lookup_of_some found]; rfl
  · simp only [here, if_false, false_and]

theorem lookup_userLeft (userID : String) : (sessions state (.userLeft channelID userID sessionID)).lookup other id =
    if other = channelID ∧ id = sessionID then none else state.lookup other id := by
  simp only [sessions]
  cases known : state.get? channelID with
  | none =>
    dsimp only
    split
    · next here => rw [here.1, lookup_of_none known]
    · rfl
  | some entries =>
    dsimp only
    rw [lookup_set, StringMap.get?_erase]
    by_cases here : other = channelID
    · simp only [here, if_true, true_and, lookup_of_some known]
    · simp only [here, if_false, false_and]

theorem patchSession_eq (created : UserSessionState) (change : UserSessionState → UserSessionState) :
    patchSession channelID sessionID created change state = state.set channelID
      (StringMap.set ((state.get? channelID).getD .empty) sessionID (patched state channelID sessionID created change)) := by
  unfold patchSession patched
  cases state.get? channelID <;> rfl

theorem lookup_patchSession (created : UserSessionState) (change : UserSessionState → UserSessionState) :
    (patchSession channelID sessionID created change state).lookup other id =
      if other = channelID ∧ id = sessionID then some (patched state channelID sessionID created change)
      else state.lookup other id := by
  rw [patchSession_eq, lookup_set_entry]

end

/-! ### What is said of one session -/

section
variable {state : PluginState × Heard} {after : PluginState} {heard : Heard} {channelID sessionID : String}

/-- Of the sessions no more have left, and no fewer were unmuted. -/
structure Heard.Grows (before after : Heard) : Prop where
  left : after.left = before.left
  unmuted : ∀ session ∈ before.unmuted, session ∈ after.unmuted

theorem EntrySound.grows {before after : Heard} {entry : UserSessionState} (sound : EntrySound before channelID sessionID entry)
    (grows : before.Grows after) : EntrySound after channelID sessionID entry :=
  ⟨sound.named, sound.owned, fun on => grows.unmuted _ (sound.unmuted on), by rw [grows.left]; exact sound.present⟩

/-- When one entry is set the entries stay sound if it is. -/
theorem EntriesSound.set_iff (sound : EntriesSound state) (grows : state.2.Grows heard) {entry : UserSessionState}
    (set : ∀ other id, after.sessions.lookup other id =
      if other = channelID ∧ id = sessionID then some entry else state.1.sessions.lookup other id) :
    EntriesSound (after, heard) ↔ EntrySound heard channelID sessionID entry := by
  constructor
  · intro holds
    exact holds channelID sessionID entry (by rw [set, if_pos ⟨rfl, rfl⟩])
  · intro here other id found listed
    rw [set] at listed
    split at listed
    · next same =>
      cases listed
      rw [same.1, same.2]
      exact here
    · exact (sound other id found listed).grows grows

/-- A patch keeps the entries sound exactly when its session is known. -/
theorem EntriesSound.patch_iff (sound : EntriesSound state) (created : UserSessionState)
    (change : UserSessionState → UserSessionState) (grows : state.2.Grows heard)
    (set : after.sessions = patchSession channelID sessionID created change state.1.sessions)
    (named : created.sessionID = some sessionID) (owned : created.userID.isSome = true)
    (keepsIDs : ∀ entry, (change entry).sessionID = entry.sessionID ∧ (change entry).userID = entry.userID)
    (unmutes : ∀ entry, (change entry).unmuted = some true → entry.unmuted = some true ∨ (channelID, sessionID) ∈ heard.unmuted) :
    EntriesSound (after, heard) ↔ Known state channelID sessionID ∧ (state.1.sessions.get? channelID = none →
      created.unmuted = some true → (channelID, sessionID) ∈ heard.unmuted) := by
  rw [sound.set_iff grows fun other id => by rw [set, lookup_patchSession]]
  unfold patched Known
  cases found : state.1.sessions.get? channelID with
  | none =>
    dsimp only
    constructor
    · intro entrySound
      exact ⟨by rw [← grows.left]; exact entrySound.present, fun _ => entrySound.unmuted⟩
    · intro facts
      obtain ⟨present, said⟩ := facts
      exact ⟨named, owned, said rfl, by rw [grows.left]; exact present⟩
  | some entries =>
    dsimp only
    rw [StringMap.contains_eq_isSome]
    simp only [reduceCtorEq, false_implies, and_true]
    cases listed : entries.get? sessionID with
    | none =>
      simp only [Option.getD_none, Option.isSome_none, Bool.false_eq_true, iff_false]
      intro entrySound
      have named := entrySound.named
      rw [(keepsIDs _).1] at named
      cases named
    | some entry =>
      have before := sound channelID sessionID entry (by rw [lookup_of_some found, listed])
      simp only [Option.getD_some, Option.isSome_some, iff_true]
      refine ⟨(keepsIDs entry).1.trans before.named, by rw [(keepsIDs entry).2]; exact before.owned, fun on => ?_,
        by rw [grows.left]; exact before.present⟩
      exact (unmutes entry on).elim (fun on => grows.unmuted _ (before.unmuted on)) id

/-- Where no entry is new and none is of a session that has just left, the entries stay sound. -/
theorem EntriesSound.fewer (sound : EntriesSound state) (unmuted : ∀ said ∈ state.2.unmuted, said ∈ heard.unmuted)
    (listed : ∀ other id entry, after.sessions.lookup other id = some entry →
      state.1.sessions.lookup other id = some entry ∧ ((other, id) ∈ heard.left → (other, id) ∈ state.2.left)) :
    EntriesSound (after, heard) := by
  intro other id entry found
  obtain ⟨before, left⟩ := listed other id entry found
  have entrySound := sound other id entry before
  exact ⟨entrySound.named, entrySound.owned, fun on => unmuted _ (entrySound.unmuted on),
    fun gone => entrySound.present (left gone)⟩

end

/-! ### Snapshots -/

theorem get?_getSessionsMapFromSessions {sessions : List UserStateClient} {id : String} {entry : UserSessionState}
    (found : (getSessionsMapFromSessions sessions).get? id = some entry) :
    ∃ session ∈ sessions, session.sessionID = id ∧ entry = .ofSession session := by
  have listed (start : StringMap UserSessionState)
      (found : (sessions.foldl (fun map session => map.set session.sessionID (.ofSession session)) start).get? id = some entry) :
      start.get? id = some entry ∨ ∃ session ∈ sessions, session.sessionID = id ∧ entry = .ofSession session := by
    clear * - found
    induction sessions generalizing start with
    | nil => exact .inl found
    | cons session rest ih =>
      rcases ih _ found with before | ⟨other, member, facts⟩
      · rw [StringMap.get?_set] at before
        split at before
        · next here =>
          cases before
          exact .inr ⟨session, List.mem_cons_self, here.symm, rfl⟩
        · exact .inl before
      · exact .inr ⟨other, List.mem_cons_of_mem _ member, facts⟩
  exact (listed .empty found).resolve_left fun none => by cases none

theorem mem_getSessionsMapFromSessions {sessions : List UserStateClient} {session : UserStateClient} (member : session ∈ sessions) :
    ∃ entry, (getSessionsMapFromSessions sessions).get? session.sessionID = some entry := by
  have kept (sessions : List UserStateClient) (start : StringMap UserSessionState)
      (known : (start.get? session.sessionID).isSome = true) :
      ((sessions.foldl (fun map session => map.set session.sessionID (.ofSession session)) start).get? session.sessionID).isSome =
        true := by
    induction sessions generalizing start with
    | nil => exact known
    | cons other rest ih =>
      refine ih _ ?_
      rw [StringMap.get?_set]
      split
      · rfl
      · exact known
  obtain ⟨before, after, rfl⟩ := List.append_of_mem member
  rw [← Option.isSome_iff_exists, getSessionsMapFromSessions, List.foldl_append, List.foldl_cons]
  refine kept after _ ?_
  rw [StringMap.get?_set, if_pos rfl]
  rfl

/-! ### Steps -/

/-- The end of a call takes its entries away. -/
theorem EntriesSound.callEnd {state : PluginState × Heard} (sound : EntriesSound state) (channelID : String) :
    EntriesSound (state.1.callEnd channelID, state.2) := by
  refine sound.fewer (fun _ => id) fun other id entry found => ⟨?_, fun gone => gone⟩
  have erased : SessionsState.lookup (state.1.sessions.erase channelID) other id = some entry := found
  rw [lookup_erase] at erased
  split at erased
  · cases erased
  · exact erased

theorem EntriesSound.userLeft {state : PluginState × Heard} (sound : EntriesSound state) (channelID userID sessionID : String) :
    EntriesSound (state.1.userLeft channelID userID sessionID,
      { state.2 with left := state.2.left ++ [(channelID, sessionID)] }) := by
  have left : EntriesSound (state.1.dispatch (.userLeft channelID userID sessionID),
      { state.2 with left := state.2.left ++ [(channelID, sessionID)] }) := by
    refine sound.fewer (fun _ => id) fun other id entry found => ?_
    dsimp only [PluginState.dispatch] at found
    rw [lookup_userLeft] at found
    split at found
    · cases found
    · next different =>
      refine ⟨found, fun gone => ?_⟩
      refine (List.mem_append.mp gone).resolve_right fun last => different ?_
      obtain ⟨rfl, rfl⟩ := Prod.mk.inj (List.mem_singleton.mp last)
      exact ⟨rfl, rfl⟩
  unfold PluginState.userLeft
  dsimp only
  split
  · exact left.callEnd channelID
  · exact left

theorem EntriesSound.reactionTimeout {state : PluginState × Heard} (sound : EntriesSound state)
    (channelID userID sessionID : String) (reaction : Reaction) :
    EntriesSound (state.1.dispatch (.userReactedTimeout channelID userID sessionID reaction), state.2) := by
  unfold PluginState.dispatch
  simp only [sessions]
  split
  · exact sound
  · next entries known =>
    split
    · exact sound
    · next entry listed =>
      split
      · exact sound
      · split
        · exact sound
        · have before := sound channelID sessionID entry (by rw [lookup_of_some known, listed])
          have set (other id : String) : SessionsState.lookup
              (state.1.sessions.set channelID (entries.set sessionID { entry with reaction := none })) other id =
              if other = channelID ∧ id = sessionID then some { entry with reaction := none }
              else state.1.sessions.lookup other id := by
            have sameEntries : entries = (state.1.sessions.get? channelID).getD .empty := by rw [known]; rfl
            rw [sameEntries, lookup_set_entry]
          refine (sound.set_iff ⟨rfl, fun _ said => said⟩ set).mpr ?_
          exact ⟨before.named, before.owned, before.unmuted, before.present⟩

theorem EntriesSound.callState_iff {state : PluginState × Heard} (sound : EntriesSound state) (client : Client)
    (channelID : String) (call : CallStateClient) :
    EntriesSound (loadCallState client channelID call state.1,
        { state.2 with
          unmuted := state.2.unmuted ++ (call.sessions.filter (·.unmuted)).map fun session => (channelID, session.sessionID) }) ↔
      ∀ session ∈ call.sessions, (channelID, session.sessionID) ∉ state.2.left := by
  have lookup (other id : String) : (loadCallState client channelID call state.1).sessions.lookup other id =
      if other = channelID then (getSessionsMapFromSessions call.sessions).get? id else state.1.sessions.lookup other id :=
    lookup_set _
  constructor
  · intro holds session member
    obtain ⟨entry, listed⟩ := mem_getSessionsMapFromSessions member
    exact (holds channelID session.sessionID entry (by rw [lookup, if_pos rfl, listed])).present
  · intro present other id entry found
    dsimp only at found
    rw [lookup] at found
    split at found
    · next here =>
      obtain ⟨session, member, rfl, rfl⟩ := get?_getSessionsMapFromSessions found
      rw [here]
      refine ⟨rfl, rfl, fun on => List.mem_append_right _ (List.mem_map.mpr ⟨session, ?_, rfl⟩), present session member⟩
      exact List.mem_filter.mpr ⟨member, Option.some.inj on⟩
    · exact (sound other id entry found).grows ⟨rfl, fun _ => List.mem_append_left _⟩

theorem entriesSound_step_iff {state : PluginState × Heard} (sound : EntriesSound state) (step : ClientStep) :
    EntriesSound (state.1.step step, state.2.note step) ↔ Timely state step := by
  have same (heard : Heard) : heard.Grows heard := ⟨rfl, fun _ said => said⟩
  cases step with
  | reactionTimeout channelID userID sessionID reaction =>
    exact iff_of_true (sound.reactionTimeout channelID userID sessionID reaction) trivial
  | receive client channelID ev =>
    cases ev with
    | userMuted userID sessionID =>
      refine (sound.patch_iff (newSession sessionID userID) ({ · with unmuted := some false }) (same _) rfl rfl rfl
        (fun _ => ⟨rfl, rfl⟩) fun _ on => ?_).trans (and_iff_left fun _ on => ?_)
      · exact absurd on (by simp)
      · cases on
    | userUnmuted userID sessionID =>
      have said : (channelID, sessionID) ∈ state.2.unmuted ++ [(channelID, sessionID)] :=
        List.mem_append_right _ List.mem_cons_self
      have grows : state.2.Grows { state.2 with unmuted := state.2.unmuted ++ [(channelID, sessionID)] } :=
        ⟨rfl, fun _ => List.mem_append_left _⟩
      exact (sound.patch_iff { newSession sessionID userID with unmuted := some true } ({ · with unmuted := some true })
        grows rfl rfl rfl (fun _ => ⟨rfl, rfl⟩) fun _ _ => .inr said).trans (and_iff_left fun _ _ => said)
    | userVoiceOn userID sessionID =>
      refine (sound.patch_iff { newSession sessionID userID with voice := some true } ({ · with voice := some true })
        (same _) rfl rfl rfl (fun _ => ⟨rfl, rfl⟩) fun _ on => .inl on).trans (and_iff_left fun _ on => ?_)
      cases on
    | userVoiceOff userID sessionID =>
      refine (sound.patch_iff (newSession sessionID userID) ({ · with voice := some false })
        (same _) rfl rfl rfl (fun _ => ⟨rfl, rfl⟩) fun _ on => .inl on).trans (and_iff_left fun _ on => ?_)
      cases on
    | userVideoOn userID sessionID =>
      refine (sound.patch_iff { newSession sessionID userID with video := some true } ({ · with video := some true })
        (same _) rfl rfl rfl (fun _ => ⟨rfl, rfl⟩) fun _ on => .inl on).trans (and_iff_left fun _ on => ?_)
      cases on
    | userRaiseHand userID sessionID raisedHand | userUnraiseHand userID sessionID raisedHand =>
      refine (sound.patch_iff { newSession sessionID userID with raisedHand := some raisedHand }
        ({ · with raisedHand := some raisedHand }) (same _) rfl rfl rfl (fun _ => ⟨rfl, rfl⟩) fun _ on => .inl on).trans
        (and_iff_left fun _ on => ?_)
      cases on
    | userVideoOff userID sessionID =>
      refine (sound.patch_iff { newSession sessionID userID with unmuted := some true } ({ · with video := some false })
        (same _) rfl rfl rfl (fun _ => ⟨rfl, rfl⟩) fun _ on => .inl on).trans (and_congr_right fun _ => ?_)
      exact forall_congr' fun _ => ⟨fun said => said rfl, fun said _ => said⟩
    | userReacted userID sessionID timestamp =>
      by_cases current : client.channelIDForCurrentCall = channelID
      · have received : state.1.step (.receive client channelID (.userReacted userID sessionID timestamp)) =
            state.1.dispatch (.userReacted channelID userID sessionID ⟨timestamp⟩) := if_neg fun other => other current
        rw [received]
        refine (sound.patch_iff { newSession sessionID userID with reaction := some ⟨timestamp⟩ }
          ({ · with reaction := some ⟨timestamp⟩ }) (same _) rfl rfl rfl (fun _ => ⟨rfl, rfl⟩) fun _ on => .inl on).trans ?_
        exact ⟨fun known _ => known.1, fun known => ⟨known current, fun _ on => by cases on⟩⟩
      · have received : state.1.step (.receive client channelID (.userReacted userID sessionID timestamp)) = state.1 :=
          if_pos current
        rw [received]
        exact iff_of_true sound fun here => absurd here current
    | userJoined userID sessionID =>
      refine (sound.set_iff (same _) fun other id => lookup_set_entry (newSession sessionID userID)).trans ?_
      exact ⟨EntrySound.present, fun present => ⟨rfl, rfl, fun on => (by cases on), present⟩⟩
    | userLeft userID sessionID => exact iff_of_true (sound.userLeft channelID userID sessionID) trivial
    | callState id call => exact sound.callState_iff client id call
    | callEnd => exact iff_of_true (sound.callEnd channelID) trivial
    | userScreenOn | userScreenOff | callStart | join | error | callHostChanged | callJobState | jobStop =>
      exact iff_of_true sound trivial

/-! ### Runs -/

/-- The entries are sound after the step. -/
def SoundAfter (state : PluginState × Heard) (step : ClientStep) : Prop :=
  EntriesSound (state.1.step step, state.2.note step)

theorem entriesSound_initial : EntriesSound (.initial, ⟨[], []⟩) := by
  intro channelID sessionID entry found
  cases found

/-- The entries are sound after every step of a run exactly when every step of it is timely. -/
theorem soundAlong_iff_timely (steps : List ClientStep) :
    deliveries.MeetsAlong SoundAfter (.initial, ⟨[], []⟩) steps ↔ deliveries.MeetsAlong Timely (.initial, ⟨[], []⟩) steps := by
  have along (start : PluginState × Heard) (sound : EntriesSound start) :
      deliveries.MeetsAlong SoundAfter start steps ↔ deliveries.MeetsAlong Timely start steps := by
    induction steps generalizing start with
    | nil => exact Iff.rfl
    | cons step rest ih =>
      have here : SoundAfter start step ↔ Timely start step := entriesSound_step_iff sound step
      constructor
      · intro facts
        obtain ⟨soundAfter, later⟩ := facts
        refine ⟨here.mp soundAfter, fun after taken => ?_⟩
        cases taken
        exact (ih _ soundAfter).mp (later _ rfl)
      · intro facts
        obtain ⟨timely, later⟩ := facts
        refine ⟨here.mpr timely, fun after taken => ?_⟩
        cases taken
        exact (ih _ (here.mpr timely)).mpr (later _ rfl)
  exact along _ entriesSound_initial

def inChannel (ev : WsEvent) : ClientStep := .receive { channelIDForCurrentCall := "channel", now := 0 } "channel" ev

/-- Bob is gone when the end of his voice is reported. -/
def lateVoiceOff : List ClientStep :=
  [.userJoined "alice" "conn-1", .userJoined "bob" "conn-2", .userLeft "bob" "conn-2", .userVoiceOff "bob" "conn-2"].map inChannel

/-- The session comes back without a name, and is counted. -/
theorem not_soundAlong : ¬ ∀ steps, deliveries.MeetsAlong SoundAfter (.initial, ⟨[], []⟩) steps := by
  intro sound
  have late := (((sound lateVoiceOff).2 _ rfl).2 _ rfl).2 _ rfl
  have named := (late.1 "channel" "conn-2" { voice := some false } (by decide)).named
  cases named

end Calls.Webapp
