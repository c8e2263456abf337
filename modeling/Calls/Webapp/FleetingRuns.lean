import Calls.Webapp.FleetingProperties

/-! Runs of the window. Nothing stays: what is shown was announced by an event no
longer ago than its timeout. And nothing else takes a caption, a notice or a user
that has just joined away before. -/

set_option autoImplicit false

namespace Calls.Webapp

/-- What is shown has been announced by an event, no longer ago than it may be
shown and than timers are late, and the stream of a channel has no more reactions
than it has room for. -/
structure ShownBriefly (late : Nat) (s : TimedState FleetingState FleetingEvent FleetingAction) : Prop where
  recent : ∀ item : FleetingItem, item.Shown s.state →
    ∃ time event, (time, event) ∈ s.received ∧ item.Announced event ∧ s.now ≤ time + item.limit + late
  few : FleetingItem.Bounded s.state

theorem shown_briefly (late : Nat) (s : TimedState FleetingState FleetingEvent FleetingAction)
    (reached : (fleetingProgram.runs late .initial).Reachable s) : ShownBriefly late s := by
  have nothing : ∀ item : FleetingItem, ¬ item.Shown .initial := by
    intro item shown
    cases item with
    | reaction | caption | notice | joined =>
        obtain ⟨held, there, -⟩ := shown
        cases there
  have cleared := TimedProgram.cleared_of_reachable FleetingItem.fleetingProgram_clears nothing reached
  refine ⟨fun item shown => cleared.recent shown, ?_⟩
  apply TimedProgram.holds_of_reachable reached
  · intro channelID queued there
    cases there
  · exact fun state event bounded => bounded.handle event
  · exact fun state action bounded => bounded.dispatch action

/-- A host lowers the hand of the user, and the notice comes and goes. Meanwhile alice reacts. -/
def handAndReaction : List (TimedStep FleetingEvent) :=
  [.receive (.hostLowerHand true "call" "bob" "notice-1"), .fire 0, .pass 10,
    .receive (.userReaction "channel" "channel" ⟨"alice", "session", "+1", 7, "Alice"⟩), .pass 5000, .fire 0, .pass 500]

theorem handAndReaction_checked : ((fleetingProgram.runs 20 .initial).run? ⟨0, .initial, [], []⟩ handAndReaction).map
    (fun s => (s.now, s.state.hostControlNotices.get? "call", s.state.reactions.get? "channel")) =
    some (5510, some [], some [⟨"alice", "session", "+1", 7, "Alice"⟩]) := by
  decide +kernel

theorem shown_briefly_of_handAndReaction :
    ∃ s, (fleetingProgram.runs 20 .initial).run? ⟨0, .initial, [], []⟩ handAndReaction = some s ∧ s.now = 5510 ∧
      s.state.reactions.get? "channel" = some [⟨"alice", "session", "+1", 7, "Alice"⟩] ∧ ShownBriefly 20 s := by
  obtain ⟨s, ran, shape⟩ := Option.map_eq_some_iff.mp handAndReaction_checked
  simp only [Prod.mk.injEq] at shape
  obtain ⟨now, -, stream⟩ := shape
  have start : (fleetingProgram.runs 20 .initial).Reachable ⟨0, .initial, [], []⟩ := .init rfl
  exact ⟨s, ran, now, stream, shown_briefly 20 s (start.run ran)⟩

/-- What an event shows at once is new: no timer is about to clear the like of it. -/
def ShowsNew := TimedProgram.ShowsNew FleetingItem.display FleetingItem.ShownAtOnce

/-- A caption, a notice or a user that has just joined is shown for its whole time,
unless a later event drops it: a newer caption of the session, the user's leaving
or the end of the call. -/
theorem shown_throughout (late : Nat) (s : TimedState FleetingState FleetingEvent FleetingAction)
    (reached : ((fleetingProgram.runs late .initial).restrict ShowsNew).Reachable s)
    (earlier later : List (Nat × FleetingEvent)) (time : Nat) (event : FleetingEvent)
    (received : s.received = earlier ++ (time, event) :: later) (item : FleetingItem) (shows : item.ShownAtOnce event)
    (soon : s.now < time + item.limit) : item.Shown s.state ∨ ∃ entry ∈ later, item.DroppedByEvent entry.2 :=
  (TimedProgram.lasting_of_reachable FleetingItem.fleetingProgram_lasts reached earlier later received shows).shown soon

/-- A caption comes, and then a notice about a new host. -/
def captionThenNotice : List (TimedStep FleetingEvent) :=
  [.receive (.caption "channel" ⟨"channel", "session", "alice", "hello", "Alice", "caption-1"⟩),
    .receive (.callHostChanged "call" "bob" (some "Bob") "notice-1"), .pass 3000]

theorem captionThenNotice_checked : ((fleetingProgram.runs 20 .initial).run? ⟨0, .initial, [], []⟩ captionThenNotice).map
    (fun s => (s.now, s.received)) =
    some (3000, [(0, .caption "channel" ⟨"channel", "session", "alice", "hello", "Alice", "caption-1"⟩),
      (0, .callHostChanged "call" "bob" (some "Bob") "notice-1")]) := by
  decide +kernel

theorem captionThenNotice_new :
    (fleetingProgram.runs 20 .initial).MeetsAlong ShowsNew ⟨0, .initial, [], []⟩ captionThenNotice := by
  refine ⟨fun item shows timer pending => absurd pending List.not_mem_nil, fun first taken => ?_⟩
  cases taken
  refine ⟨fun item shows timer pending clears => ?_, fun second taken => ⟨trivial, fun _ _ => trivial⟩⟩
  cases List.mem_singleton.mp pending
  obtain ⟨-, rfl⟩ := shows
  cases clears

theorem shown_throughout_of_captionThenNotice :
    ∃ s, (fleetingProgram.runs 20 .initial).run? ⟨0, .initial, [], []⟩ captionThenNotice = some s ∧ s.now = 3000 ∧
      (FleetingItem.caption "channel" "session" "caption-1").Shown s.state := by
  obtain ⟨s, ran, shape⟩ := Option.map_eq_some_iff.mp captionThenNotice_checked
  simp only [Prod.mk.injEq] at shape
  obtain ⟨now, received⟩ := shape
  have start : ((fleetingProgram.runs 20 .initial).restrict ShowsNew).Reachable ⟨0, .initial, [], []⟩ := .init rfl
  have reached := start.restrict_run captionThenNotice_new ran
  have shown := shown_throughout 20 s reached [] _ 0 _ received (.caption "channel" "session" "caption-1") ⟨rfl, rfl⟩
    (by rw [now]; decide)
  rcases shown with still | ⟨entry, listed, dropped⟩
  · exact ⟨s, ran, now, still⟩
  · cases List.mem_singleton.mp listed
    cases dropped

end Calls.Webapp
