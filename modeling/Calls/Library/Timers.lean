import Calls.Library.System
import Mathlib.Data.List.Basic

/-! A program that reacts to events and sets timers. A timer fires at the earliest
when it is due, after every other one that is due before it, and late by no more
than a given time. What such a program shows for a while has a timer that clears it. -/

set_option autoImplicit false

structure Timer (ι : Type) where
  due : Nat
  action : ι
  deriving DecidableEq

/-- What a program does on an event, with the timers that it sets by their delays, and when a timer fires. -/
structure TimedProgram (σ ε ι : Type) where
  handle : ε → σ → σ × List (Nat × ι)
  fire : ι → σ → σ

/-- The state of a program, its pending timers, and the events so far with their times. -/
structure TimedState (σ ε ι : Type) where
  now : Nat
  state : σ
  timers : List (Timer ι)
  received : List (Nat × ε)

inductive TimedStep (ε : Type) where
  | receive (event : ε)
  | pass (time : Nat)
  | fire (place : Nat)

namespace TimedProgram

variable {σ ε ι κ : Type}

def next? (program : TimedProgram σ ε ι) (late : Nat) (s : TimedState σ ε ι) : TimedStep ε → Option (TimedState σ ε ι)
  | .receive event =>
    let handled := program.handle event s.state
    some
      { s with
        state := handled.1
        timers := s.timers ++ handled.2.map fun timer => ⟨s.now + timer.1, timer.2⟩
        received := s.received ++ [(s.now, event)] }
  | .pass time => if ∀ timer ∈ s.timers, s.now + time ≤ timer.due + late then some { s with now := s.now + time } else none
  | .fire place =>
    match s.timers[place]? with
    | some timer =>
      if timer.due ≤ s.now ∧ ∀ other ∈ s.timers, timer.due ≤ other.due then
        some { s with state := program.fire timer.action s.state, timers := s.timers.eraseIdx place }
      else none
    | none => none

/-- Time passes only as far as no timer is later than it may be. -/
theorem next?_pass {program : TimedProgram σ ε ι} {late time : Nat} {s after : TimedState σ ε ι}
    (taken : program.next? late s (.pass time) = some after) :
    (∀ timer ∈ s.timers, s.now + time ≤ timer.due + late) ∧ after = { s with now := s.now + time } := by
  simp only [next?] at taken
  split at taken
  · next punctual =>
    cases taken
    exact ⟨punctual, rfl⟩
  · cases taken

/-- The timer that fires is pending, due and no other one is due before it. -/
theorem next?_fire {program : TimedProgram σ ε ι} {late place : Nat} {s after : TimedState σ ε ι}
    (taken : program.next? late s (.fire place) = some after) :
    ∃ timer, s.timers[place]? = some timer ∧ timer.due ≤ s.now ∧ (∀ other ∈ s.timers, timer.due ≤ other.due) ∧
      after = { s with state := program.fire timer.action s.state, timers := s.timers.eraseIdx place } := by
  simp only [next?] at taken
  split at taken
  · next timer found =>
    split at taken
    · next first =>
      cases taken
      exact ⟨timer, found, first.1, first.2, rfl⟩
    · cases taken
  · cases taken

/-- Runs of a program from a state, with no timers set yet. -/
def runs (program : TimedProgram σ ε ι) (late : Nat) (start : σ) : System (TimedState σ ε ι) (TimedStep ε) where
  init s := s = ⟨0, start, [], []⟩
  next? := program.next? late

/-- What a program shows of things, and which events announce them. -/
structure Display (σ ε ι κ : Type) where
  shown : σ → κ → Prop
  announces : ε → κ → Prop
  /-- When a timer with the action fires, the thing comes to be shown. -/
  brings : ι → κ → Prop
  clears : ι → κ → Prop
  /-- How long a thing is to be shown. -/
  limit : κ → Nat

/-- An event that brings a thing, at once or by a timer, announces it and sets a
timer to clear it, later than the one that brings it. What a timer clears is not
shown then. -/
structure Clears (program : TimedProgram σ ε ι) (display : Display σ ε ι κ) : Prop where
  handled : ∀ event state thing, display.shown (program.handle event state).1 thing → display.shown state thing ∨
    display.announces event thing ∧ ∃ delay action, (delay, action) ∈ (program.handle event state).2 ∧
      display.clears action thing ∧ delay ≤ display.limit thing
  brought : ∀ event state thing delay action, (delay, action) ∈ (program.handle event state).2 → display.brings action thing →
    display.announces event thing ∧ ∃ later clear, (later, clear) ∈ (program.handle event state).2 ∧ delay < later ∧
      display.clears clear thing ∧ later ≤ display.limit thing
  fired : ∀ action state thing, display.shown (program.fire action state) thing →
    display.shown state thing ∧ ¬ display.clears action thing ∨ display.brings action thing

/-- A pending timer clears the thing, and was set when an event announced the thing. -/
structure Covered (display : Display σ ε ι κ) (s : TimedState σ ε ι) (thing : κ) (timer : Timer ι) : Prop where
  pending : timer ∈ s.timers
  clears : display.clears timer.action thing
  announced : ∃ time event, (time, event) ∈ s.received ∧ display.announces event thing ∧ timer.due ≤ time + display.limit thing

structure Cleared (display : Display σ ε ι κ) (late : Nat) (s : TimedState σ ε ι) : Prop where
  shown : ∀ thing, display.shown s.state thing → ∃ timer, Covered display s thing timer
  brought : ∀ bring ∈ s.timers, ∀ thing, display.brings bring.action thing →
    ∃ timer, Covered display s thing timer ∧ bring.due < timer.due
  punctual : ∀ timer ∈ s.timers, s.now ≤ timer.due + late

section
variable {program : TimedProgram σ ε ι} {display : Display σ ε ι κ} {late : Nat} {s after : TimedState σ ε ι}

/-- More timers and more events leave a thing covered. -/
theorem Covered.mono {thing : κ} {timer : Timer ι} (covered : Covered display s thing timer)
    (timers : timer ∈ s.timers → timer ∈ after.timers) (received : ∀ entry ∈ s.received, entry ∈ after.received) :
    Covered display after thing timer := by
  obtain ⟨time, event, listed, announced, soon⟩ := covered.announced
  exact ⟨timers covered.pending, covered.clears, time, event, received _ listed, announced, soon⟩

theorem Cleared.receive (clears : program.Clears display) (cleared : Cleared display late s) {event : ε}
    (taken : program.next? late s (.receive event) = some after) : Cleared display late after := by
  cases taken
  have set {thing : κ} {delay : Nat} {action : ι} (announces : display.announces event thing)
      (listed : (delay, action) ∈ (program.handle event s.state).2) (clear : display.clears action thing)
      (soon : delay ≤ display.limit thing) : Covered display
        { s with
          state := (program.handle event s.state).1
          timers := s.timers ++ (program.handle event s.state).2.map fun timer => ⟨s.now + timer.1, timer.2⟩
          received := s.received ++ [(s.now, event)] } thing ⟨s.now + delay, action⟩ := by
    refine ⟨List.mem_append_right _ (List.mem_map_of_mem listed), clear, s.now, event, ?_, announces, ?_⟩
    · exact List.mem_append_right _ (List.mem_singleton.mpr rfl)
    · exact Nat.add_le_add_left soon s.now
  constructor
  · intro thing shows
    rcases clears.handled event s.state thing shows with before | ⟨announces, delay, action, listed, clear, soon⟩
    · obtain ⟨timer, covered⟩ := cleared.shown thing before
      exact ⟨timer, covered.mono (List.mem_append_left _) fun _ => List.mem_append_left _⟩
    · exact ⟨_, set announces listed clear soon⟩
  · intro bring pending thing brings
    rcases List.mem_append.mp pending with old | new
    · obtain ⟨timer, covered, later⟩ := cleared.brought bring old thing brings
      exact ⟨timer, covered.mono (List.mem_append_left _) (fun _ => List.mem_append_left _), later⟩
    · obtain ⟨⟨delay, action⟩, listed, rfl⟩ := List.mem_map.mp new
      obtain ⟨announces, later, clear, found, after, clears, soon⟩ := clears.brought event s.state thing delay action listed brings
      exact ⟨_, set announces found clears soon, Nat.add_lt_add_left after s.now⟩
  · refine List.forall_mem_append.mpr ⟨cleared.punctual, fun timer new => ?_⟩
    obtain ⟨⟨delay, action⟩, listed, rfl⟩ := List.mem_map.mp new
    exact Nat.le_trans (Nat.le_add_right s.now delay) (Nat.le_add_right _ late)

/-- A timer that fires clears nothing that another pending timer would still bring. -/
theorem Cleared.fire (clears : program.Clears display) (cleared : Cleared display late s) {place : Nat}
    (taken : program.next? late s (.fire place) = some after) : Cleared display late after := by
  obtain ⟨fired, found, -, first, rfl⟩ := next?_fire taken
  obtain ⟨inside, rfl⟩ := List.getElem?_eq_some_iff.mp found
  have left {timer : Timer ι} (pending : timer ∈ s.timers) (other : timer ≠ s.timers[place]) :
      timer ∈ s.timers.eraseIdx place := by
    apply List.mem_eraseIdx_iff_getElem.mpr
    obtain ⟨index, there, rfl⟩ := List.mem_iff_getElem.mp pending
    exact ⟨index, there, fun same => other (by subst same; rfl), rfl⟩
  constructor
  · intro thing shows
    rcases clears.fired _ _ thing shows with ⟨before, keeps⟩ | brings
    · obtain ⟨timer, covered⟩ := cleared.shown thing before
      have other : timer ≠ s.timers[place] := fun same => keeps (same ▸ covered.clears)
      exact ⟨timer, covered.mono (fun pending => left pending other) fun _ => id⟩
    · obtain ⟨timer, covered, later⟩ := cleared.brought _ (List.getElem_mem inside) thing brings
      have other : timer ≠ s.timers[place] := fun same => Nat.lt_irrefl _ (same ▸ later)
      exact ⟨timer, covered.mono (fun pending => left pending other) fun _ => id⟩
  · intro bring pending thing brings
    have old := List.mem_of_mem_eraseIdx pending
    obtain ⟨timer, covered, later⟩ := cleared.brought bring old thing brings
    have other : timer ≠ s.timers[place] := by
      intro same
      have earliest := first bring old
      rw [same] at later
      exact absurd earliest (Nat.not_le_of_lt later)
    exact ⟨timer, covered.mono (fun pending => left pending other) (fun _ => id), later⟩
  · exact fun timer pending => cleared.punctual timer (List.mem_of_mem_eraseIdx pending)

theorem Cleared.next? (clears : program.Clears display) (cleared : Cleared display late s) {step : TimedStep ε}
    (taken : program.next? late s step = some after) : Cleared display late after := by
  cases step with
  | receive event => exact cleared.receive clears taken
  | pass time =>
      obtain ⟨punctual, rfl⟩ := next?_pass taken
      constructor
      · intro thing shows
        obtain ⟨timer, covered⟩ := cleared.shown thing shows
        exact ⟨timer, covered.mono id fun _ => id⟩
      · intro bring pending thing brings
        obtain ⟨timer, covered, later⟩ := cleared.brought bring pending thing brings
        exact ⟨timer, covered.mono id (fun _ => id), later⟩
      · exact punctual
  | fire place => exact cleared.fire clears taken

theorem cleared_of_reachable (clears : program.Clears display) {start : σ} (empty : ∀ thing, ¬ display.shown start thing)
    (reached : (program.runs late start).Reachable s) : Cleared display late s := by
  induction reached with
  | init initial =>
      cases initial
      exact
        { shown := fun thing shows => absurd shows (empty thing)
          brought := fun bring pending => absurd pending List.not_mem_nil
          punctual := fun timer pending => absurd pending List.not_mem_nil }
  | step _ taken cleared => exact cleared.next? clears taken

/-- What events and timers keep of the state holds of it in every run. -/
theorem holds_of_reachable {holds : σ → Prop} {start : σ} (reached : (program.runs late start).Reachable s) (initially : holds start)
    (handles : ∀ state event, holds state → holds (program.handle event state).1)
    (fires : ∀ state action, holds state → holds (program.fire action state)) : holds s.state := by
  induction reached with
  | init initial =>
      cases initial
      exact initially
  | @step before next label _ taken kept =>
      have ran : program.next? late before label = some next := taken
      cases label with
      | receive event =>
          cases taken
          exact handles before.state event kept
      | pass time =>
          obtain ⟨-, rfl⟩ := next?_pass ran
          exact kept
      | fire place =>
          obtain ⟨timer, -, -, -, rfl⟩ := next?_fire ran
          exact fires before.state timer.action kept

/-- What is shown was announced no longer ago than it may be shown, but for the lateness of timers. -/
theorem Cleared.recent (cleared : Cleared display late s) {thing : κ} (shows : display.shown s.state thing) :
    ∃ time event, (time, event) ∈ s.received ∧ display.announces event thing ∧ s.now ≤ time + display.limit thing + late := by
  obtain ⟨timer, covered⟩ := cleared.shown thing shows
  obtain ⟨time, event, listed, announced, soon⟩ := covered.announced
  have punctual := cleared.punctual timer covered.pending
  exact ⟨time, event, listed, announced, Nat.le_trans punctual (Nat.add_le_add_right soon late)⟩

end

/-! ### What lasts -/

/-- A timer is set with the action. -/
def Sets (program : TimedProgram σ ε ι) (action : ι) : Prop :=
  ∃ event state delay, (delay, action) ∈ (program.handle event state).2

/-- Of some things: an event that shows one shows it at once, only a timer that clears
it or an event that drops it takes it away, and no timer that clears it is set for less than its time. -/
structure Lasts (program : TimedProgram σ ε ι) (display : Display σ ε ι κ) (shows drops : ε → κ → Prop) : Prop where
  shown : ∀ event state thing, shows event thing → display.shown (program.handle event state).1 thing
  handled : ∀ event state thing other, shows other thing → display.shown state thing →
    display.shown (program.handle event state).1 thing ∨ drops event thing
  fired : ∀ action state thing event, program.Sets action → shows event thing → display.shown state thing →
    display.shown (program.fire action state) thing ∨ display.clears action thing
  delayed : ∀ event state thing delay action, (delay, action) ∈ (program.handle event state).2 →
    display.clears action thing → display.limit thing ≤ delay

/-- What an event shows is not about to be cleared for another event. -/
def ShowsNew (display : Display σ ε ι κ) (shows : ε → κ → Prop) (s : TimedState σ ε ι) : TimedStep ε → Prop
  | .receive event => ∀ thing, shows event thing → ∀ timer ∈ s.timers, ¬ display.clears timer.action thing
  | _ => True

/-- No timer clears the thing before its time, and till then it is shown unless a later event has dropped it. -/
structure Lasting (display : Display σ ε ι κ) (drops : ε → κ → Prop) (s : TimedState σ ε ι) (time : Nat)
    (later : List (Nat × ε)) (thing : κ) : Prop where
  past : time ≤ s.now
  timers : ∀ timer ∈ s.timers, display.clears timer.action thing → time + display.limit thing ≤ timer.due
  shown : s.now < time + display.limit thing → display.shown s.state thing ∨ ∃ entry ∈ later, drops entry.2 thing

section
variable {program : TimedProgram σ ε ι} {display : Display σ ε ι κ} {shows drops : ε → κ → Prop} {late : Nat}
  {s after : TimedState σ ε ι} {thing : κ} {time : Nat} {shower : ε} {later : List (Nat × ε)}

theorem Lasting.receive (lasts : program.Lasts display shows drops) (shown : shows shower thing)
    (lasting : Lasting display drops s time later thing) {event : ε}
    (taken : program.next? late s (.receive event) = some after) :
    Lasting display drops after time (later ++ [(s.now, event)]) thing := by
  cases taken
  constructor
  · exact lasting.past
  · refine List.forall_mem_append.mpr ⟨lasting.timers, fun timer new clears => ?_⟩
    obtain ⟨⟨delay, action⟩, set, rfl⟩ := List.mem_map.mp new
    exact Nat.add_le_add lasting.past (lasts.delayed event s.state thing delay action set clears)
  · intro soon
    rcases lasting.shown soon with before | ⟨entry, listed, drop⟩
    · rcases lasts.handled event s.state thing shower shown before with still | drop
      · exact .inl still
      · exact .inr ⟨_, List.mem_append_right _ (List.mem_singleton.mpr rfl), drop⟩
    · exact .inr ⟨entry, List.mem_append_left _ listed, drop⟩

theorem Lasting.pass (lasting : Lasting display drops s time later thing) {passed : Nat}
    (taken : program.next? late s (.pass passed) = some after) : Lasting display drops after time later thing := by
  obtain ⟨-, rfl⟩ := next?_pass taken
  constructor
  · exact Nat.le_trans lasting.past (Nat.le_add_right s.now passed)
  · exact lasting.timers
  · exact fun soon => lasting.shown (Nat.lt_of_le_of_lt (Nat.le_add_right s.now passed) soon)

/-- A timer that is due before the time of the thing is over does not clear it. -/
theorem Lasting.fire (lasts : program.Lasts display shows drops) (set : ∀ timer ∈ s.timers, program.Sets timer.action)
    (shown : shows shower thing) (lasting : Lasting display drops s time later thing) {place : Nat}
    (taken : program.next? late s (.fire place) = some after) : Lasting display drops after time later thing := by
  obtain ⟨timer, found, reached, -, rfl⟩ := next?_fire taken
  have pending : timer ∈ s.timers := List.mem_of_getElem? found
  constructor
  · exact lasting.past
  · exact fun other left => lasting.timers other (List.mem_of_mem_eraseIdx left)
  · intro soon
    rcases lasting.shown soon with before | dropped
    · rcases lasts.fired timer.action s.state thing shower (set timer pending) shown before with still | clears
      · exact .inl still
      · have due := lasting.timers timer pending clears
        exact absurd (Nat.le_trans due reached) (Nat.not_le_of_lt soon)
    · exact .inr dropped

/-- A thing that an event shows now. -/
theorem Lasting.new (lasts : program.Lasts display shows drops) (shown : shows shower thing)
    (fresh : ShowsNew display shows s (.receive shower))
    (taken : program.next? late s (.receive shower) = some after) : Lasting display drops after s.now [] thing := by
  cases taken
  constructor
  · exact Nat.le_refl s.now
  · refine List.forall_mem_append.mpr ⟨fun timer old clears => absurd clears (fresh thing shown timer old), fun timer new clears => ?_⟩
    obtain ⟨⟨delay, action⟩, set, rfl⟩ := List.mem_map.mp new
    exact Nat.add_le_add_left (lasts.delayed shower s.state thing delay action set clears) s.now
  · exact fun _ => .inl (lasts.shown shower s.state thing shown)

theorem timers_of_reachable {start : σ} (reached : (program.runs late start).Reachable s) :
    ∀ timer ∈ s.timers, program.Sets timer.action := by
  induction reached with
  | init initial =>
      cases initial
      exact fun timer pending => absurd pending List.not_mem_nil
  | @step before next label _ taken set =>
      have ran : program.next? late before label = some next := taken
      cases label with
      | receive event =>
          cases taken
          refine List.forall_mem_append.mpr ⟨set, fun timer new => ?_⟩
          obtain ⟨⟨delay, action⟩, listed, rfl⟩ := List.mem_map.mp new
          exact ⟨event, before.state, delay, listed⟩
      | pass time =>
          obtain ⟨-, rfl⟩ := next?_pass ran
          exact set
      | fire place =>
          obtain ⟨fired, -, -, -, rfl⟩ := next?_fire ran
          exact fun timer pending => set timer (List.mem_of_mem_eraseIdx pending)

theorem lasting_of_reachable (lasts : program.Lasts display shows drops) {start : σ}
    (reached : ((program.runs late start).restrict (ShowsNew display shows)).Reachable s) :
    ∀ earlier later, s.received = earlier ++ (time, shower) :: later → shows shower thing →
      Lasting display drops s time later thing := by
  induction reached with
  | init initial =>
      cases initial
      intro earlier later none
      cases earlier <;> cases none
  | @step before next label reached taken ih =>
      obtain ⟨fresh, taken⟩ := System.restrict_next?.mp taken
      have ran : program.next? late before label = some next := taken
      intro earlier later received shown
      cases label with
      | receive event =>
          have grown : next.received = before.received ++ [(before.now, event)] := by cases taken; rfl
          rw [grown] at received
          rcases List.eq_nil_or_concat' later with rfl | ⟨front, last, rfl⟩
          · obtain ⟨-, same⟩ := List.append_inj' received rfl
            cases same
            exact Lasting.new lasts shown fresh ran
          · rw [← List.cons_append, ← List.append_assoc] at received
            obtain ⟨old, same⟩ := List.append_inj' received rfl
            cases same
            exact (ih earlier front old shown).receive lasts shown ran
      | pass passed =>
          have kept : next.received = before.received := by
            obtain ⟨-, rfl⟩ := next?_pass ran
            rfl
          exact (ih earlier later (kept ▸ received) shown).pass ran
      | fire place =>
          have kept : next.received = before.received := by
            obtain ⟨timer, -, -, -, rfl⟩ := next?_fire ran
            rfl
          exact (ih earlier later (kept ▸ received) shown).fire lasts (timers_of_reachable (System.Reachable.of_restrict reached)) shown ran

end

end TimedProgram
