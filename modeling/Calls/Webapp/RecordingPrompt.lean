import Calls.Library.System
import Calls.Webapp.Resync

/-! The banner that tells the participants of a call of its recording. It is shown or not
by comparing times of the server with times of the client. -/

set_option autoImplicit false

namespace Calls.Webapp

/-- Who looks at the call, and how many minutes a recording of it may last. -/
structure Viewer where
  currentUserID : String
  channelID : String
  recordingMaxDuration : Int

/-- A window of the call. `opener` is the dismissal that the window which opened it knows of. -/
structure PromptWindow where
  client : ClientState
  recordingWillEndSoon : Int
  opener : Option Int

inductive InCallPrompt where
  | recordingWillEndSoon
  | banner (isHost : Bool)
  | bannerStopped
  | bannerError (error : String)
  deriving DecidableEq

/-- The time of a dismissal, later than every time that is known. -/
def serverDismissedAt (recording : CallJobReduxState) (hostChangeAt : Int) : Int :=
  max (max (max (recording.startAt.getD 0) (recording.endAt.getD 0)) (recording.errorAt.getD 0)) hostChangeAt + 1

def hostChangeAtIn (client : ClientState) (channelID : String) : Int :=
  ((client.plugin.hosts.get? channelID).map HostState.hostChangeAt).getD 0

namespace PromptWindow

variable (viewer : Viewer) (window : PromptWindow)

def recording : CallJobReduxState := CallsJobState.entry window.client.recordings viewer.channelID

def isHost : Bool := ((window.client.plugin.hosts.get? viewer.channelID).map HostState.hostID).getD "" = viewer.currentUserID

def hasRecEnded : Bool := (window.recording viewer).startAt.getD 0 < (window.recording viewer).endAt.getD 0

/-- The later of the dismissals that the window and its opener know of. -/
def disclaimerDismissedAt : Int :=
  let dismissedAt := (window.recording viewer).promptDismissedAt.getD 0
  match window.opener with
  | none => dismissedAt
  | some openerDismissedAt => if dismissedAt < openerDismissedAt then openerDismissedAt else dismissedAt

/-- Whether the banner was dismissed after a time; nothing is after a time that is not known. -/
def dismissedAfter (time : Option Int) : Bool := time.any (· < window.disclaimerDismissedAt viewer)

def shouldShowError : Bool :=
  let errorAt := (window.recording viewer).errorAt.getD 0
  errorAt ≠ 0 ∧ window.disclaimerDismissedAt viewer < errorAt

/-- Whether the banner is of no interest any more, an error apart. -/
def isHidden : Bool :=
  let recording := window.recording viewer
  let hostChangeAt := hostChangeAtIn window.client viewer.channelID
  -- Dismissed after the recording has started and after the last host change.
  (¬ window.hasRecEnded viewer ∧ window.dismissedAfter viewer recording.startAt ∧ window.dismissedAfter viewer (some hostChangeAt)) ∨
  -- Dismissed after the recording has ended.
  (window.hasRecEnded viewer ∧ window.dismissedAfter viewer recording.endAt) ∨
  -- The host has changed after the banner was dismissed, and the user is not the new one.
  (window.dismissedAfter viewer recording.startAt ∧ window.disclaimerDismissedAt viewer < hostChangeAt ∧ ¬ window.isHost viewer) ∨
  -- The user became host after the recording has ended.
  (window.isHost viewer ∧ window.hasRecEnded viewer ∧ recording.endAt.any (· < hostChangeAt))

/-- `RecordingInfoPrompt`. -/
def recordingInfoPrompt : Option InCallPrompt :=
  let recording := window.recording viewer
  if window.isHost viewer ∧ ¬ window.hasRecEnded viewer ∧ window.disclaimerDismissedAt viewer < window.recordingWillEndSoon then
    some .recordingWillEndSoon
  else if recording.startAt.getD 0 = 0 ∧ recording.err.getD "" = "" then none
  else if window.hasRecEnded viewer ∧ ¬ window.isHost viewer then none
  else if window.isHidden viewer ∧ ¬ window.shouldShowError viewer then none
  else if recording.err.getD "" ≠ "" then some (.bannerError (recording.err.getD ""))
  else if window.hasRecEnded viewer then some .bannerStopped
  else some (.banner (window.isHost viewer))

def minutesLeftThreshold : Int := 10

/-- Half a minute and more is rounded up. -/
def getMinutesLeftBeforeEnd (now : Int) : Int :=
  let startAt := (window.recording viewer).startAt.getD 0
  if startAt = 0 then 0
  else (2 * (viewer.recordingMaxDuration * 60000 - (now - startAt)) + 60000) / 120000

/-- Whether the effect of a rendering tells the host that the recording will end soon. -/
def tellsOfEnd (now : Int) : Bool :=
  window.isHost viewer ∧ (window.recording viewer).startAt ≠ some 0 ∧ (window.recording viewer).endAt = some 0 ∧
    window.recordingWillEndSoon = 0 ∧ window.getMinutesLeftBeforeEnd viewer now ≤ minutesLeftThreshold

/-- The dismissal at a time, in this window and in the one that opened it. -/
def dismissAt (dismissedAt : Int) : PromptWindow :=
  { window with
    client := window.client.dispatch (.callRecPromptDismissed viewer.channelID dismissedAt)
    opener := window.opener.map fun _ => dismissedAt }

end PromptWindow

inductive PromptStep where
  | jobState (now : Int) (job : JobStateClient)
  /-- The request of this client to start a recording has failed. -/
  | startFailed (now : Int) (err : String)
  | hostChanged (now : Int) (hostID : String)
  | dismissed
  /-- The banner was dismissed in another window, by what that one knows. -/
  | dismissedIn (other : ClientState)
  /-- The effect of a rendering has run. -/
  | rendered (now : Int)

def PromptWindow.step (viewer : Viewer) (window : PromptWindow) : PromptStep → PromptWindow
  | .jobState now job => { window with client := window.client.handleCallJobState now viewer.channelID job }
  | .startFailed now err =>
    { window with
      client := window.client.dispatch (.callRecordingState viewer.channelID
        (some { initAt := some 0, startAt := some 0, endAt := some 0, err := some err, errorAt := some now })) }
  | .hostChanged now hostID => { window with client := window.client.dispatch (.plugin (.callHost viewer.channelID hostID now)) }
  | .dismissed =>
    window.dismissAt viewer (serverDismissedAt (window.recording viewer) (hostChangeAtIn window.client viewer.channelID))
  | .dismissedIn other =>
    window.dismissAt viewer (serverDismissedAt (CallsJobState.entry other.recordings viewer.channelID) (hostChangeAtIn other viewer.channelID))
  | .rendered now =>
    if window.tellsOfEnd viewer now then { window with recordingWillEndSoon := (window.recording viewer).startAt.getD 0 + 1 } else window

/-- The latest time of the server that was told, and the start of the recording that the user is to be told of. -/
structure RecordingNews where
  latest : Int := 0
  due : Option Int := none
  deriving DecidableEq

/-- A recording that has started later than all that was told is to be shown, until it is stopped or fails, or the user dismisses it. -/
def RecordingNews.note (news : RecordingNews) : PromptStep → RecordingNews
  | .jobState _ job =>
    if job.type ≠ .recording then news
    else
      { latest := max news.latest (max job.startAt job.endAt)
        due :=
          if job.endAt = 0 ∧ job.err = "" ∧ (news.latest < job.startAt ∨ news.due = some job.startAt) then some job.startAt
          else none }
  | .startFailed _ _ | .dismissed | .dismissedIn _ => { news with due := none }
  | .hostChanged _ _ | .rendered _ => news

/-- What happens in a window, whatever it knows at first. -/
def promptRuns (viewer : Viewer) : System (PromptWindow × RecordingNews) PromptStep :=
  System.observed { init := fun _ => True, next? := fun window step => some (window.step viewer step) } {} fun news _ step _ => news.note step

/-- The disclaimer of a recording that is to be shown is. -/
def ShowsDisclaimer (viewer : Viewer) (state : PromptWindow × RecordingNews) : Prop :=
  ∀ startAt, state.2.due = some startAt → state.1.recordingInfoPrompt viewer = some (.banner (state.1.isHost viewer))

/-- No recording starts before the time of the last dismissal, and the host is not told meanwhile that it will end soon. -/
def StartsLater (viewer : Viewer) (state : PromptWindow × RecordingNews) : PromptStep → Prop
  | .jobState _ job => job.type = .recording → job.endAt = 0 → job.err = "" → state.2.latest < job.startAt →
      state.1.disclaimerDismissedAt viewer ≤ job.startAt ∧
        (state.1.isHost viewer = true → state.1.recordingWillEndSoon ≤ state.1.disclaimerDismissedAt viewer)
  | .hostChanged _ hostID => state.2.due ≠ none → hostID = viewer.currentUserID →
      state.1.recordingWillEndSoon ≤ state.1.disclaimerDismissedAt viewer
  | .rendered now => state.2.due ≠ none → state.1.tellsOfEnd viewer now = false
  | _ => True

/-- The recording that is to be shown goes on without an error, and the banner was not dismissed since it started. -/
structure PromptWindow.Shows (viewer : Viewer) (window : PromptWindow) (startAt : Int) : Prop where
  positive : 0 < startAt
  started : (window.recording viewer).startAt = some startAt
  running : (window.recording viewer).endAt = some 0
  fine : (window.recording viewer).err = some ""
  undismissed : window.disclaimerDismissedAt viewer ≤ startAt
  notice : window.isHost viewer = true → window.recordingWillEndSoon ≤ window.disclaimerDismissedAt viewer

namespace PromptWindow

variable {viewer : Viewer} {window after : PromptWindow} {startAt : Int}

theorem Shows.recordingInfoPrompt (shows : window.Shows viewer startAt) :
    window.recordingInfoPrompt viewer = some (.banner (window.isHost viewer)) := by
  have running : window.hasRecEnded viewer = false := by
    have started := shows.positive
    simp only [hasRecEnded, shows.started, shows.running, Option.getD_some]
    exact decide_eq_false (by omega)
  have undismissed : window.dismissedAfter viewer (window.recording viewer).startAt = false := by
    have dismissed := shows.undismissed
    simp only [dismissedAfter, shows.started, Option.any_some]
    exact decide_eq_false (by omega)
  have shown : window.isHidden viewer = false := by
    simp [isHidden, running, undismissed]
  have unnoticed : ¬ (window.isHost viewer = true ∧ ¬ window.hasRecEnded viewer = true ∧
      window.disclaimerDismissedAt viewer < window.recordingWillEndSoon) := by
    intro facts
    obtain ⟨isHost, -, ends⟩ := facts
    have notice := shows.notice isHost
    omega
  have started : ¬ (startAt = 0 ∧ (some "" : Option String).getD "" = "") := fun none => by
    have positive := shows.positive
    omega
  unfold PromptWindow.recordingInfoPrompt
  dsimp only
  rw [if_neg unnoticed, shows.started, shows.fine, Option.getD_some, if_neg started]
  simp [running, shown]

/-- Nothing that the banner depends on has changed, the host apart. -/
theorem Shows.congr (shows : window.Shows viewer startAt) (recording : after.recording viewer = window.recording viewer)
    (opener : after.opener = window.opener)
    (notice : after.isHost viewer = true → after.recordingWillEndSoon ≤ window.disclaimerDismissedAt viewer) :
    after.Shows viewer startAt := by
  have dismissed : after.disclaimerDismissedAt viewer = window.disclaimerDismissedAt viewer := by
    unfold disclaimerDismissedAt
    rw [recording, opener]
  refine ⟨shows.positive, ?_, ?_, ?_, ?_, ?_⟩
  · rw [recording]
    exact shows.started
  · rw [recording]
    exact shows.running
  · rw [recording]
    exact shows.fine
  · rw [dismissed]
    exact shows.undismissed
  · rw [dismissed]
    exact notice

/-- What an event about the recording makes of what is known. -/
theorem recording_jobState (now : Int) {job : JobStateClient} (type : job.type = .recording) :
    (window.step viewer (.jobState now job)).recording viewer = (window.recording viewer).merge (.ofEvent now job) := by
  change CallsJobState.entry (window.client.handleCallJobState now viewer.channelID job).recordings viewer.channelID = _
  have handled : window.client.handleCallJobState now viewer.channelID job =
      window.client.dispatch (.callRecordingState viewer.channelID (some (.ofEvent now job))) := by
    simp only [ClientState.handleCallJobState, type]
  rw [handled]
  exact CallsJobState.entry_mergeJob window.client.recordings viewer.channelID (some (.ofEvent now job))

theorem isHost_jobState (now : Int) (job : JobStateClient) :
    (window.step viewer (.jobState now job)).isHost viewer = window.isHost viewer := by
  have hosts : (window.client.handleCallJobState now viewer.channelID job).plugin.hosts = window.client.plugin.hosts := by
    cases type : job.type <;> simp only [ClientState.handleCallJobState, type] <;> rfl
  change decide ((((window.client.handleCallJobState now viewer.channelID job).plugin.hosts.get? viewer.channelID).map HostState.hostID).getD "" = viewer.currentUserID) = _
  rw [hosts]
  rfl

theorem recording_otherJob (now : Int) {job : JobStateClient} (type : job.type ≠ .recording) :
    (window.step viewer (.jobState now job)).recording viewer = window.recording viewer := by
  have recordings : (window.client.handleCallJobState now viewer.channelID job).recordings = window.client.recordings := by
    cases kind : job.type with
    | recording => exact absurd kind type
    | transcribing => simp only [ClientState.handleCallJobState, kind]
    | captioning =>
      simp only [ClientState.handleCallJobState, kind]
      rfl
  change CallsJobState.entry (window.client.handleCallJobState now viewer.channelID job).recordings viewer.channelID = _
  rw [recordings]
  rfl

/-- The event of a recording that runs without an error. -/
theorem Shows.started_of_event (now : Int) {job : JobStateClient} (type : job.type = .recording) (running : job.endAt = 0)
    (fine : job.err = "") (positive : 0 < job.startAt) (undismissed : window.disclaimerDismissedAt viewer ≤ job.startAt)
    (notice : window.isHost viewer = true → window.recordingWillEndSoon ≤ window.disclaimerDismissedAt viewer) :
    (window.step viewer (.jobState now job)).Shows viewer job.startAt := by
  have merged : (window.step viewer (.jobState now job)).recording viewer = (window.recording viewer).merge (.ofEvent now job) :=
    recording_jobState now type
  have dismissed : (window.step viewer (.jobState now job)).disclaimerDismissedAt viewer = window.disclaimerDismissedAt viewer := by
    unfold disclaimerDismissedAt
    rw [merged]
    rfl
  refine ⟨positive, ?_, ?_, ?_, ?_, ?_⟩
  · rw [merged]
    rfl
  · rw [merged, ← running]
    rfl
  · rw [merged, ← fine]
    rfl
  · rw [dismissed]
    exact undismissed
  · rw [dismissed, isHost_jobState]
    exact notice

end PromptWindow

/-- The recording that is to be shown is, and it started later than nothing. -/
structure PromptInvariant (viewer : Viewer) (state : PromptWindow × RecordingNews) : Prop where
  latest : 0 ≤ state.2.latest
  shows : ∀ startAt, state.2.due = some startAt → state.1.Shows viewer startAt

theorem PromptInvariant.step {viewer : Viewer} {window : PromptWindow} {news : RecordingNews} {step : PromptStep}
    (inv : PromptInvariant viewer (window, news)) (later : StartsLater viewer (window, news) step) :
    PromptInvariant viewer (window.step viewer step, news.note step) := by
  cases step with
  | jobState now job =>
    by_cases type : job.type = .recording
    · have known : 0 ≤ news.latest := inv.latest
      have latest : (0 : Int) ≤ max news.latest (max job.startAt job.endAt) := by omega
      simp only [RecordingNews.note, type, ne_eq, not_true_eq_false, if_false]
      refine ⟨latest, fun startAt due => ?_⟩
      dsimp only at due
      split at due
      · next runs =>
        obtain ⟨running, fine, new | same⟩ := runs
        · obtain ⟨undismissed, notice⟩ := later type running fine new
          cases due
          have positive : 0 < job.startAt := by omega
          exact .started_of_event now type running fine positive undismissed notice
        · cases due
          have shows := inv.shows job.startAt same
          exact .started_of_event now type running fine shows.positive shows.undismissed shows.notice
      · cases due
    · simp only [RecordingNews.note, ne_eq, type, not_false_eq_true, if_true]
      refine ⟨inv.latest, fun startAt due => ?_⟩
      refine (inv.shows startAt due).congr (PromptWindow.recording_otherJob now type) rfl ?_
      rw [PromptWindow.isHost_jobState]
      exact (inv.shows startAt due).notice
  | startFailed now err => exact ⟨inv.latest, fun _ due => by cases due⟩
  | dismissed => exact ⟨inv.latest, fun _ due => by cases due⟩
  | dismissedIn other => exact ⟨inv.latest, fun _ due => by cases due⟩
  | hostChanged now hostID =>
    refine ⟨inv.latest, fun startAt due => (inv.shows startAt due).congr rfl rfl fun isHost => ?_⟩
    have named : hostID = viewer.currentUserID := by
      simpa [PromptWindow.isHost, PromptWindow.step, ClientState.dispatch, PluginState.dispatch, hosts] using isHost
    exact later (by rw [show news.due = some startAt from due]; simp) named
  | rendered now =>
    refine ⟨inv.latest, fun startAt due => ?_⟩
    have untold : window.tellsOfEnd viewer now = false := later (by rw [show news.due = some startAt from due]; simp)
    have unchanged : window.step viewer (.rendered now) = window := if_neg (by rw [untold]; simp)
    rw [unchanged]
    exact inv.shows startAt due

/-- Bob takes part in the call of a channel, of which Alice is the host at first. -/
def bobViews : Viewer := { currentUserID := "bob", channelID := "channel", recordingMaxDuration := 60 }

def bobsWindow : PromptWindow :=
  { client := ClientState.initial.handleCallStart "channel" "call" 1000 "alice" "alice" "thread", recordingWillEndSoon := 0, opener := none }

/-- The event of a recording without an error. -/
def recordingEvent (startAt endAt : Int) : PromptStep :=
  .jobState startAt { type := .recording, initAt := startAt, startAt, endAt, err := "" }

end Calls.Webapp
