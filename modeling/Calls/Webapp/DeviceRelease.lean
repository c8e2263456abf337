import Calls.Webapp.DeviceOperations

/-! How the client lets go of its devices when it ends, in the middle of its start or later, and
that it does so in all runs. -/

set_option autoImplicit false

namespace Calls.Webapp

namespace CallsClient

variable {client : CallsClient} {others held : Claims} {throws : Prop}

/-! ### The end of the client -/

/-- Tracks were stopped. -/
structure Quieter (before after : CallsClient) : Prop where
  flags : after.flags = before.flags
  streams : after.streams = before.streams
  stream : after.stream = before.stream
  localVideoStream : after.localVideoStream = before.localVideoStream
  tables : after.media.streams = before.media.streams
  handlers : ∀ track, after.media.onended? track = before.media.onended? track
  kinds : ∀ track, after.media.kindOf? track = before.media.kindOf? track
  off : ∀ track, after.media.holdsDevice track = true → before.media.holdsDevice track = true

namespace Quieter

variable {before after : CallsClient}

theorem refl (client : CallsClient) : Quieter client client :=
  ⟨rfl, rfl, rfl, rfl, rfl, fun _ => rfl, fun _ => rfl, fun _ on => on⟩

theorem trans {mid : CallsClient} (quieter : Quieter before mid) (further : Quieter mid after) : Quieter before after where
  flags := further.flags.trans quieter.flags
  streams := further.streams.trans quieter.streams
  stream := further.stream.trans quieter.stream
  localVideoStream := further.localVideoStream.trans quieter.localVideoStream
  tables := further.tables.trans quieter.tables
  handlers track := (further.handlers track).trans (quieter.handlers track)
  kinds track := (further.kinds track).trans (quieter.kinds track)
  off _ on := quieter.off _ (further.off _ on)

theorem stopTrack (client : CallsClient) (track : Nat) : Quieter client (client.stopTrack track) where
  flags := rfl
  streams := rfl
  stream := rfl
  localVideoStream := rfl
  tables := rfl
  handlers _ := Media.onended?_stop
  kinds _ := Media.kindOf?_stop
  off _ on := (Media.holdsDevice_stop.mp on).2

theorem grows (quieter : Quieter before after) : Grows before after where
  toExtends := .of_tracks quieter.streams quieter.tables quieter.handlers quieter.kinds quieter.off
  canvases canvas _ shown := (quieter.handlers canvas).symm.trans shown
  stream := quieter.stream
  localVideoStream := quieter.localVideoStream
  opened _ on := .inl (quieter.off _ on)

theorem getTracks (quieter : Quieter before after) (stream : Nat) : after.media.getTracks stream = before.media.getTracks stream := by
  rw [Media.getTracks, Media.getTracks, quieter.tables]

theorem stays (quieter : Quieter before after) {track : Nat} (off : before.media.holdsDevice track = false) :
    after.media.holdsDevice track = false :=
  Bool.eq_false_iff.mpr fun on => absurd ((quieter.off track on).symm.trans off) Bool.true_eq_false.mp

end Quieter

/-- The track is off, and so is the camera that it shows. -/
def Ended (client : CallsClient) (track : Nat) : Prop :=
  client.media.holdsDevice track = false ∧
    ∀ camera, client.media.onended? track = some (.canvas camera) → client.media.holdsDevice camera = false

theorem Ended.quieter {after : CallsClient} {track : Nat} (ended : client.Ended track) (quieter : Quieter client after) :
    after.Ended track :=
  ⟨quieter.stays ended.1, fun camera shown => quieter.stays (ended.2 camera ((quieter.handlers track).symm.trans shown))⟩

theorem stopTrack_off (client : CallsClient) (track : Nat) : (client.stopTrack track).media.holdsDevice track = false :=
  Bool.eq_false_iff.mpr fun on => (Media.holdsDevice_stop.mp on).1 rfl

/-- What the end of a screen does to the client itself. -/
theorem Quieter.endScreen (client : CallsClient) (audio : Option Nat) :
    Quieter client { (match audio with | some track => client.stopTrack track | none => client) with localScreenTrack := none } := by
  cases audio with
  | none => exact ⟨rfl, rfl, rfl, rfl, rfl, fun _ => rfl, fun _ => rfl, fun _ on => on⟩
  | some track =>
    exact (stopTrack client track).trans ⟨rfl, rfl, rfl, rfl, rfl, fun _ => rfl, fun _ => rfl, fun _ on => on⟩

theorem offline_of_quieter {after : CallsClient} (quieter : Quieter client after) (offline : client.peer = false) : after.peer = false := by
  have unchanged := quieter.flags
  simp only [flags, Prod.mk.injEq] at unchanged
  exact unchanged.2.1.trans offline

/-- Without a connection nothing is told of a track that ends. -/
theorem stopAndEnd_ends {track : Nat} {post : Except ClientError Unit → CallsClient → Claims → Prop} (offline : client.peer = false)
    (met : ∀ after, Quieter client after → after.Ended track → post (.ok ()) after others) :
    (stopAndEnd track).Meets deviceRules post client others := by
  have stopped := Quieter.stopTrack client track
  have same {other handler : EndedHandler} (found : (client.stopTrack track).media.onended? track = some handler)
      (also : (client.stopTrack track).media.onended? track = some other) : handler = other := by
    simpa using found.symm.trans also
  apply Async.meets_modify_bind
  apply Async.meets_get_bind
  split
  · next unhandled =>
    apply Async.meets_pure
    exact met _ stopped ⟨stopTrack_off client track, fun camera shown => by cases unhandled.symm.trans shown⟩
  · next camera shown =>
    apply Async.meets_modify
    have further := Quieter.stopTrack (client.stopTrack track) camera
    refine met _ (stopped.trans further) ⟨further.stays (stopTrack_off client track), fun other also => ?_⟩
    obtain rfl := EndedHandler.canvas.inj (same shown ((further.handlers track).symm.trans also))
    exact stopTrack_off _ camera
  · next audio handled =>
    have further := Quieter.endScreen (client.stopTrack track) audio
    apply Async.meets_modify_bind
    apply Async.meets_get_bind
    have unconnected := offline_of_quieter (stopped.trans further) offline
    rw [if_neg fun both => Bool.false_ne_true (unconnected.symm.trans both.2)]
    apply Async.meets_pure
    refine met _ (stopped.trans further) ⟨further.stays (stopTrack_off client track), fun camera shown => ?_⟩
    cases same handled ((further.handlers track).symm.trans shown)

theorem stopTracks_ends {tracks : List Nat} {post : Except ClientError Unit → CallsClient → Claims → Prop} (offline : client.peer = false)
    (met : ∀ after, Quieter client after → (∀ track ∈ tracks, after.Ended track) → post (.ok ()) after others) :
    (stopTracks tracks).Meets deviceRules post client others := by
  induction tracks generalizing client with
  | nil => exact Async.meets_pure (met client (.refl client) fun _ listed => by cases listed)
  | cons track tracks ih =>
    apply Async.meets_bind
    apply stopAndEnd_ends offline
    intro mid quieter ended
    apply ih (offline_of_quieter quieter offline)
    intro after further rest
    exact met after (quieter.trans further) (List.forall_mem_cons.mpr ⟨ended.quieter further, rest⟩)

theorem stopStreams_ends {streams : List Nat} {post : Except ClientError Unit → CallsClient → Claims → Prop} (offline : client.peer = false)
    (met : ∀ after, Quieter client after → (∀ stream ∈ streams, ∀ track ∈ client.media.getTracks stream, after.Ended track) →
      post (.ok ()) after others) : (stopStreams streams).Meets deviceRules post client others := by
  induction streams generalizing client with
  | nil => exact Async.meets_pure (met client (.refl client) fun _ listed => by cases listed)
  | cons stream streams ih =>
    apply Async.meets_get_bind
    apply Async.meets_bind
    apply stopTracks_ends offline
    intro mid quieter ended
    apply ih (offline_of_quieter quieter offline)
    intro after further rest
    apply met after (quieter.trans further)
    refine List.forall_mem_cons.mpr ⟨fun track listed => (ended track listed).quieter further, fun other listed track inside => ?_⟩
    exact rest other listed track ((quieter.getTracks other).symm ▸ inside)

/-- Every device is off that was left to `cleanup`. -/
theorem cleanup_ends {claims : Claims} {post : Except ClientError Unit → CallsClient → Claims → Prop} (offline : client.peer = false)
    (devices : client.Devices claims)
    (met : ∀ after, Quieter client after → (∀ track, client.Stoppable track → after.media.holdsDevice track = false) →
      post (.ok ()) after others) : cleanup.Meets deviceRules post client others := by
  apply Async.meets_get_bind
  apply stopStreams_ends offline
  intro after quieter ended
  apply met after quieter
  rintro track (⟨stream, kept, listed⟩ | ⟨canvas, shown⟩)
  · exact (ended stream kept track listed).1
  · obtain ⟨stream, kept, listed, -⟩ := devices.canvases canvas track shown
    exact (ended stream kept canvas listed).2 track ((quieter.handlers canvas).trans shown)

/-- A closed client lets go of its devices, where the initializers are through. -/
theorem DevicesKept.of_closed {after : CallsClient} {claims : Claims} (phases : client.Phases claims) (devices : client.Devices claims)
    (offline : client.peer = false) (quieter : Quieter client after)
    (off : ∀ track, client.Stoppable track → after.media.holdsDevice track = false) : after.DevicesKept claims where
  phases := phases.congr quieter.flags
  devices := devices.grows quieter.grows
  released _ through track := by
    have unchanged := quieter.flags
    simp only [flags, Prod.mk.injEq] at unchanged
    by_contra on
    rw [Bool.not_eq_false] at on
    rcases devices.held track (quieter.off track on) with stoppable | ⟨claim, listed, covers⟩
    · exact Bool.false_ne_true ((off track stoppable).symm.trans on)
    · rw [phases.covers_nothing offline (unchanged.2.2.2.2.1.symm.trans through) listed] at covers
      exact covers

/-- Where a client can be disconnected: no device is being opened, but for the initializers none of which has failed. -/
def Disconnects (client : CallsClient) (claims : Claims) : Prop :=
  (∀ claim ∈ claims, claim = .entering) ∨ (client.initializing ≠ 0 ∧ client.initializerFailed = false)

theorem Phases.disconnected {claims : Claims} (phases : client.Phases claims) (disconnects : client.Disconnects claims) :
    Phases { client with closed := true, peer := false } claims where
  once := phases.once
  fresh fresh := ⟨(phases.fresh fresh).1, (phases.fresh fresh).2.offline, (phases.fresh fresh).2.idle, (phases.fresh fresh).2.unfailed⟩
  entering listed := ⟨(phases.entering listed).offline, (phases.entering listed).idle, (phases.entering listed).unfailed⟩
  initializing := phases.initializing
  starting := phases.starting
  connected is := by cases is
  acquiring hold listed := by
    rcases disconnects with none | ⟨starting, unfailed⟩
    · cases none _ listed
    · have online := (phases.connected (phases.acquiring hold listed)).1
      rw [phases.starting starting unfailed] at online
      cases online
  unfailed _ starting := by
    rcases disconnects with none | ⟨-, unfailed⟩
    · refine absurd (phases.initializing.trans (Multiset.countP_eq_zero.mpr fun claim listed => ?_)) starting
      rw [none claim listed]
      exact Bool.false_ne_true
    · exact unfailed

/-- The socket of a client without a connection is closed. -/
theorem Phases.goOffline {claims : Claims} (phases : client.Phases claims) (offline : client.peer = false) :
    Phases { client with ws := false } claims where
  once := phases.once
  fresh fresh := ⟨(phases.fresh fresh).1, rfl, (phases.fresh fresh).2.idle, (phases.fresh fresh).2.unfailed⟩
  entering listed := ⟨rfl, (phases.entering listed).idle, (phases.entering listed).unfailed⟩
  initializing := phases.initializing
  starting _ _ := rfl
  connected is := by
    rw [offline] at is
    cases is
  acquiring := phases.acquiring
  unfailed := phases.unfailed

theorem DevicesKept.goOffline {claims : Claims} (kept : client.DevicesKept claims) (offline : client.peer = false) :
    DevicesKept { client with ws := false } claims :=
  ⟨kept.phases.goOffline offline, kept.devices.grows (.of_eq ⟨rfl, rfl, rfl, rfl⟩), kept.released⟩

theorem disconnect_meets (kept : client.DevicesKept others) (disconnects : client.Disconnects others) :
    disconnect.Meets deviceRules (fun _ client others => client.DevicesKept others) client others := by
  apply Async.meets_get_bind
  split
  · exact Async.meets_pure kept
  · have same : CallsClient.Devices { client with closed := true, peer := false } others :=
      kept.devices.grows (.of_eq ⟨rfl, rfl, rfl, rfl⟩)
    apply Async.meets_modify_bind
    apply Async.meets_bind
    apply cleanup_ends rfl same
    intro after quieter off
    have offline := offline_of_quieter quieter rfl
    have released := DevicesKept.of_closed (kept.phases.disconnected disconnects) same rfl quieter off
    apply Async.meets_modify_bind
    apply Async.meets_modify
    by_cases online : after.ws = true
    · rw [if_pos online]
      exact (released.goOffline offline).alike ⟨rfl, rfl, rfl, rfl, rfl⟩
    · rw [if_neg online]
      exact released.alike ⟨rfl, rfl, rfl, rfl, rfl⟩

/-! ### The start of the client -/

theorem Phases.connect {claims : Claims} (phases : client.Phases claims) (started : client.initialized = true ∧ .entering ∉ claims)
    (opened : client.closed = false) (through : client.initializing ≠ 0 → client.initializerFailed = true) :
    Phases { client with ws := true } claims where
  once := phases.once
  fresh fresh := by cases started.1.symm.trans fresh
  entering listed := absurd listed started.2
  initializing := phases.initializing
  starting starting unfailed := by cases (through starting).symm.trans unfailed
  connected _ := ⟨rfl, opened⟩
  acquiring := phases.acquiring
  unfailed := phases.unfailed

theorem DevicesKept.connect {claims : Claims} (kept : client.DevicesKept claims) (started : client.initialized = true ∧ .entering ∉ claims)
    (opened : client.closed = false) (through : client.initializing ≠ 0 → client.initializerFailed = true) :
    DevicesKept { client with ws := true } claims :=
  ⟨kept.phases.connect started opened through, kept.devices.grows (.of_eq ⟨rfl, rfl, rfl, rfl⟩), kept.released⟩

theorem Phases.failed {claims : Claims} (phases : client.Phases claims) (started : client.initialized = true ∧ .entering ∉ claims)
    (opened : client.closed = false) : Phases { client with initializerFailed := true } claims where
  once := phases.once
  fresh fresh := by cases started.1.symm.trans fresh
  entering listed := absurd listed started.2
  initializing := phases.initializing
  starting _ unfailed := by cases unfailed
  connected := phases.connected
  acquiring := phases.acquiring
  unfailed closed := by cases opened.symm.trans closed

theorem initializerDone_meets {result : Except ClientError Unit} (ended : EndsWith (others + {.operation true .nothing}) result client) :
    (initializerDone result).Meets deviceRules (fun _ client others => client.DevicesKept others) client others := by
  obtain ⟨ends, kept⟩ := ended
  have before : client.initializing ≠ 0 := by
    rw [kept.phases.started]
    exact Nat.succ_ne_zero _
  have started : client.initialized = true ∧ .entering ∉ others := by
    constructor
    · by_contra fresh
      exact kept.phases.not_unstarted (kept.phases.fresh (Bool.not_eq_true _ ▸ fresh)).2
    · exact fun listed => kept.phases.not_unstarted (kept.phases.entering (Multiset.mem_add.mpr (.inl listed)))
  have unfailed : client.closed = true → client.initializerFailed = false := fun closed => kept.phases.unfailed closed before
  apply Async.meets_modify_bind
  apply Async.meets_get_bind
  have phases := kept.phases.initializerDone
  have devices : CallsClient.Devices { client with initializing := client.initializing - 1 } others :=
    ((Devices.claims_nothing rfl).mp kept.devices).grows (.of_eq ⟨rfl, rfl, rfl, rfl⟩)
  -- From here on it is the client after this initializer.
  replace started : CallsClient.initialized { client with initializing := client.initializing - 1 } = true ∧ .entering ∉ others := started
  replace unfailed : CallsClient.closed { client with initializing := client.initializing - 1 } = true →
    CallsClient.initializerFailed { client with initializing := client.initializing - 1 } = false := unfailed
  replace ends : CallsClient.closed { client with initializing := client.initializing - 1 } = false ∨ ∃ a, result = .ok a := ends
  generalize { client with initializing := client.initializing - 1 } = client at started unfailed ends phases devices
  have kept (running : client.closed = false ∨ client.initializing ≠ 0) : client.DevicesKept others :=
    ⟨phases, devices, fun closed none => running.elim (fun opened => by cases opened.symm.trans closed) fun some => absurd none some⟩
  split
  · next failed =>
    have opened : client.closed = false := by
      by_contra closed
      cases failed.symm.trans (unfailed (Bool.not_eq_false _ ▸ closed))
    exact Async.meets_pure (kept (.inl opened))
  · split
    · next none =>
      apply Async.meets_get_bind
      split
      · next closed =>
        have offline : client.peer = false := by
          by_contra online
          cases (phases.connected (Bool.not_eq_false _ ▸ online)).2.symm.trans closed
        apply cleanup_ends offline devices
        exact fun after quieter off => .of_closed phases devices offline quieter off
      · next opened =>
        have opened : client.closed = false := Bool.not_eq_true _ ▸ opened
        apply Async.meets_modify
        exact (kept (.inl opened)).connect started opened fun some => absurd none some
    · next some => exact Async.meets_pure (kept (.inr some))
  · have opened : client.closed = false := ends.resolve_right fun ⟨_, same⟩ => by cases same
    have running := kept (.inl opened)
    have fails : DevicesKept { client with initializerFailed := true } others :=
      ⟨phases.failed started opened, devices.grows (.of_eq ⟨rfl, rfl, rfl, rfl⟩), running.released⟩
    apply Async.meets_modify_bind
    apply Async.meets_modify
    have connects := fails.connect started opened fun _ => rfl
    exact connects.alike ⟨rfl, rfl, rfl, rfl, rfl⟩

/-- An initializer as a program of its own. -/
theorem initializer_accounts {computation : ClientAsync Unit}
    (meets : computation.Meets deviceRules (fun result client others =>
      EndsWith (others + (0 + {.operation true .nothing})) result client) client others) :
    (initializer computation).Accounts deviceRules client others := by
  apply meets
  intro result client others ended
  rw [zero_add] at ended
  exact (initializerDone_meets ended).toProgram

/-- The initializers start. -/
theorem Phases.start {claims started : Claims} (phases : client.Phases (claims + {.entering})) {count : Nat}
    (initializers : started = Multiset.replicate count (.operation true .nothing)) (listening : Bool) :
    Phases { client with listening, initializing := count } (claims + started) := by
  subst initializers
  have unstarted := phases.entering (by simp)
  have once : claims.count .entering = 0 := by
    have once := phases.once
    rw [Multiset.count_add, Multiset.count_singleton_self] at once
    omega
  have absent : .entering ∉ claims + Multiset.replicate count (.operation true .nothing) := by
    rw [Multiset.mem_add, not_or]
    exact ⟨Multiset.count_eq_zero.mp once, fun listed => by cases Multiset.eq_of_mem_replicate listed⟩
  constructor
  · rw [Multiset.count_eq_zero.mpr absent]
    exact Nat.zero_le _
  · intro fresh
    exact absurd (by simp) (phases.fresh fresh).1
  · exact fun listed => absurd listed absent
  · have none : claims.countP (·.isInitializer) = 0 := by
      have idle := phases.initializing.symm.trans unstarted.idle
      rw [Multiset.countP_add] at idle
      omega
    rw [Multiset.countP_add, none, zero_add, Multiset.countP_eq_card.mpr, Multiset.card_replicate]
    intro claim listed
    rw [Multiset.eq_of_mem_replicate listed]
    rfl
  · exact fun _ _ => unstarted.offline
  · exact phases.connected
  · intro hold listed
    rcases Multiset.mem_add.mp listed with old | new
    · exact phases.acquiring hold (Multiset.mem_add.mpr (.inl old))
    · cases Multiset.eq_of_mem_replicate new
  · exact fun _ _ => unstarted.unfailed

theorem Phases.stopEntering {claims : Claims} (phases : client.Phases (claims + {.entering})) : client.Phases claims where
  once := Nat.le_trans (Multiset.count_le_of_le _ (Multiset.le_add_right _ _)) phases.once
  fresh fresh := absurd (by simp) (phases.fresh fresh).1
  entering listed := phases.entering (Multiset.mem_add.mpr (.inl listed))
  initializing := by
    rw [phases.initializing, Multiset.countP_add]
    rfl
  starting := phases.starting
  connected := phases.connected
  acquiring hold listed := phases.acquiring hold (Multiset.mem_add.mpr (.inl listed))
  unfailed := phases.unfailed

theorem DevicesKept.stopEntering {claims : Claims} (kept : client.DevicesKept (claims + {.entering})) : client.DevicesKept claims :=
  ⟨kept.phases.stopEntering, (Devices.claims_nothing rfl).mp kept.devices, kept.released⟩

theorem claims_replicate {claims : Claims} {count : Nat} (devices : client.Devices claims) :
    client.Devices (claims + Multiset.replicate count (.operation true .nothing)) := by
  induction count with
  | zero => simpa using devices
  | succ count ih =>
    rw [Multiset.replicate_succ, ← Multiset.singleton_add, add_left_comm, add_comm]
    exact (Devices.claims_nothing rfl).mpr ih

theorem startInitializers_meets (kept : client.DevicesKept (others + {.entering})) :
    startInitializers.Meets deviceRules (fun _ client others => client.DevicesKept others) client others := by
  apply Async.meets_get_bind
  split
  · exact Async.meets_throw kept.stopEntering
  · apply Async.meets_bind
    have may : deviceRules.may (.devices .nothing) ({.entering} : Claims) := by
      intro claim listed other
      exact absurd (Multiset.mem_singleton.mp listed) other
    apply Async.meets_call ({.entering} : Claims) may ?_ kept
    intro _ client others _ kept
    have begins (client : CallsClient) (others : Claims) (kept : client.DevicesKept (others + {.operation true .nothing})) :
        (initializer (initAudio none .nothing)).Accounts deviceRules client others := by
      apply initializer_accounts
      apply initAudio_meets fun _ => rfl
      simpa using kept
    apply Async.meets_get_bind
    apply Async.meets_modify_bind
    split
    · next video =>
      have starts : DevicesKept { client with listening := true, initializing := 2 }
          (others + {.operation true .nothing} + {.operation true .nothing}) := by
        have two : ({.operation true .nothing} : Claims) + {.operation true .nothing} = Multiset.replicate 2 (.operation true .nothing) := rfl
        rw [add_assoc, two]
        refine ⟨kept.phases.start rfl true, ?_, fun _ none => by cases none⟩
        exact (claims_replicate ((Devices.claims_nothing rfl).mp kept.devices)).grows (.of_eq ⟨rfl, rfl, rfl, rfl⟩)
      apply Async.meets_bind
      apply Async.meets_fork {.operation true .nothing} (begins _ _ starts)
      intro client others kept
      apply Async.meets_fork 0
      · apply initializer_accounts
        apply initVideo_meets fun _ => rfl
        simp only [add_zero]
        exact kept
      · intro client others kept
        exact add_zero others ▸ kept
    · have starts : DevicesKept { client with listening := true, initializing := 1 } (others + {.operation true .nothing}) := by
        have one : ({.operation true .nothing} : Claims) = Multiset.replicate 1 (.operation true .nothing) := rfl
        rw [one]
        refine ⟨kept.phases.start rfl true, ?_, fun _ none => by cases none⟩
        exact (claims_replicate ((Devices.claims_nothing rfl).mp kept.devices)).grows (.of_eq ⟨rfl, rfl, rfl, rfl⟩)
      apply Async.meets_bind
      apply Async.meets_fork 0
      · rw [add_zero]
        exact begins _ _ starts
      · intro client others kept
        exact Async.meets_pure (add_zero others ▸ kept)

/-- `init` comes first. -/
theorem DevicesKept.enter {claims : Claims} (kept : client.DevicesKept claims) (first : client.initialized = false) :
    DevicesKept { client with initialized := true } (claims + {.entering}) := by
  obtain ⟨absent, unstarted⟩ := kept.phases.fresh first
  refine ⟨?_, ((Devices.claims_nothing rfl).mpr kept.devices).grows (.of_eq ⟨rfl, rfl, rfl, rfl⟩), kept.released⟩
  constructor
  · rw [Multiset.count_add, Multiset.count_eq_zero.mpr absent, zero_add, Multiset.count_singleton_self]
  · exact fun fresh => by cases fresh
  · exact fun _ => ⟨unstarted.offline, unstarted.idle, unstarted.unfailed⟩
  · rw [Multiset.countP_add]
    exact kept.phases.initializing
  · exact kept.phases.starting
  · exact kept.phases.connected
  · intro hold listed
    rcases Multiset.mem_add.mp listed with old | own
    · exact kept.phases.acquiring hold old
    · cases Multiset.mem_singleton.mp own
  · exact kept.phases.unfailed

theorem init_meets (first : client.initialized = false) (kept : client.DevicesKept others) :
    init.Meets deviceRules (fun _ client others => client.DevicesKept others) client others := by
  apply Async.meets_get_bind
  apply Async.meets_modify_bind
  have entered := kept.enter first
  split
  · apply Async.meets_bind
    have may : deviceRules.may .videoCodec ({.entering} : Claims) := by
      intro claim listed other
      exact absurd (Multiset.mem_singleton.mp listed) other
    apply Async.meets_await ({.entering} : Claims) may ?_ entered
    intro answer client others _ kept
    cases answer with
    | codec supported =>
      apply Async.meets_modify_bind
      exact startInitializers_meets (DevicesKept.alike kept ⟨rfl, rfl, rfl, rfl, rfl⟩)
    | devices | granted | done | rejected => exact Async.meets_pure (DevicesKept.stopEntering kept)
  · exact startInitializers_meets entered

/-! ### All runs -/

theorem sendIfConnected_keeps (event : Option ClientEvent) (message : ClientSent) :
    (sendIfConnected event message).Keeps deviceRules held throws := by
  apply keeps_alike
  intro client
  cases event with
  | none =>
    dsimp only
    split <;> exact ⟨rfl, rfl, rfl, rfl, rfl⟩
  | some event =>
    dsimp only
    split <;> exact ⟨rfl, rfl, rfl, rfl, rfl⟩

/-- A remote track. -/
theorem DevicesKept.newTrack {claims : Claims} (kept : client.DevicesKept claims) (kind : TrackKind) :
    DevicesKept { client with media := client.media.newTrack { kind, captures := false } } claims := by
  have remote {track : Nat} (on : (client.media.newTrack { kind, captures := false }).holdsDevice track = true) :
      client.media.holdsDevice track = true := by
    rw [Media.holdsDevice_newTrack] at on
    split at on
    · simp at on
    · exact on
  refine kept.grows ?_ (?_ : Grows client { client with media := client.media.newTrack { kind, captures := false } }) ?_
  · rfl
  · exact ⟨.newTrack client _, fun _ _ shown => Media.onended?_of_newTrack rfl shown, rfl, rfl, fun _ on => .inl (remote on)⟩
  · exact fun _ _ _ on => remote on

theorem DevicesKept.addRemoteStream {claims : Claims} (kept : client.DevicesKept claims) (kinds : List TrackKind) :
    (client.addRemoteStream kinds).DevicesKept claims := by
  have tracks (client : CallsClient) (kept : client.DevicesKept claims) :
      DevicesKept { client with media := kinds.foldl (fun media kind => media.newTrack { kind, captures := false }) client.media }
        claims := by
    induction kinds generalizing client with
    | nil => exact kept
    | cons kind kinds ih => exact ih _ (kept.newTrack kind)
  have streamed (client : CallsClient) (kept : client.DevicesKept claims) (listed : List Nat) :
      DevicesKept { client with media := client.media.newStream listed } claims := by
    refine kept.grows ?_ (?_ : Grows client { client with media := client.media.newStream listed }) ?_
    · rfl
    · exact ⟨.newStream client listed, fun _ _ shown => shown, rfl, rfl, fun _ on => .inl on⟩
    · exact fun _ _ _ on => on
  exact (streamed _ (tracks client kept) _).push _

theorem DevicesKept.join {claims : Claims} (kept : client.DevicesKept claims) (online : client.ws = true)
    (opened : client.closed = false) : DevicesKept { client with peer := true } claims where
  phases := by
    obtain ⟨once, fresh, entering, initializing, starting, -, -, unfailed⟩ := kept.phases
    refine ⟨once, fun first => ?_, fun listed => ?_, initializing, starting, fun _ => ⟨online, opened⟩, fun _ _ => rfl, unfailed⟩
    · cases (fresh first).2.offline.symm.trans online
    · cases (entering listed).offline.symm.trans online
  devices := kept.devices.grows (.of_eq ⟨rfl, rfl, rfl, rfl⟩)
  released := kept.released

/-- Whatever is called keeps account of the devices. -/
theorem handle_accounts {call : ClientCall} (kept : client.DevicesKept others) (taken : client.takes call = true)
    (disconnects : call = .disconnect → client.Disconnects others) : (handle call).toProgram.Accounts deviceRules client others := by
  cases call with
  | init => exact (init_meets (by simpa [takes] using taken) kept).toProgram
  | setAudioInputDevice device => exact (setAudioInputDevice_keeps device true .nothing).toProgram kept
  | setAudioOutputDevice device =>
    have keeps : (setAudioOutputDevice device true).Keeps deviceRules 0 True := setAudioOutputDevice_keeps device true
    exact keeps.toProgram kept
  | setVideoInputDevice device => exact (setVideoInputDevice_keeps device).toProgram kept
  | mute => exact mute_keeps.toProgram kept
  | unmute => exact unmute_keeps.toProgram kept
  | shareScreen => exact shareScreen_keeps.toProgram kept
  | unshareScreen =>
    have keeps : unshareScreen.Keeps deviceRules 0 True := unshareScreen_keeps
    exact keeps.toProgram kept
  | startVideo => exact startVideo_keeps.toProgram kept
  | stopVideo => exact stopVideo_keeps.toProgram kept
  | raiseHand =>
    have keeps : (sendIfConnected (some .raiseHand) .raiseHand).Keeps deviceRules 0 True := sendIfConnected_keeps _ _
    exact keeps.toProgram kept
  | unraiseHand =>
    have keeps : (sendIfConnected (some .lowerHand) .unraiseHand).Keeps deviceRules 0 True := sendIfConnected_keeps _ _
    exact keeps.toProgram kept
  | setBlurSettings blurEnabled => exact (setBlurSettings_keeps blurEnabled).toProgram kept
  | sendUserReaction =>
    have keeps : (sendIfConnected none .react).Keeps deviceRules 0 True := sendIfConnected_keeps _ _
    exact keeps.toProgram kept
  | disconnect => exact (disconnect_meets kept (disconnects rfl)).toProgram
  | destroy => exact DevicesKept.alike kept ⟨rfl, rfl, rfl, rfl, rfl⟩
  | setBgBlurData data => exact DevicesKept.alike kept ⟨rfl, rfl, rfl, rfl, rfl⟩
  | devicechange =>
    have keeps : (updateDevices .nothing).Keeps deviceRules 0 True := updateDevices_keeps (may_nothing _)
    exact keeps.toProgram kept
  | joined =>
    have online : client.ws = true := (Bool.and_eq_true_iff.mp taken).2
    apply Async.Meets.toProgram
    apply Async.meets_modify
    split
    · exact kept
    · next opened => exact DevicesKept.join kept online (Bool.not_eq_true _ ▸ opened)
  | remoteStream kinds => exact DevicesKept.addRemoteStream kept kinds
  | trackEnded track =>
    have keeps : (stopAndEnd track).Keeps deviceRules 0 True := stopAndEnd_keeps track
    exact keeps.toProgram kept

end CallsClient

/-- A step that leaves the devices accounted for. The client disconnects while no device is being opened, but for
the initializers none of which has failed; and the answers are those that are expected. -/
def ServesDevices (client : CallsClientState) : CallsClientStep → Prop
  | .call .disconnect => (∀ task ∈ client.tasks, task.request.acquires = false) ∨
      (client.state.initializing ≠ 0 ∧ client.state.initializerFailed = false)
  | .call _ => True
  | .answer place answer => ∀ task, client.tasks[place]? = some task → client.state.Expects task.request answer

/-- Where no device is being opened, nobody answers for any. -/
theorem entering_of_idle {held : List (AsyncTask CallsClient ClientRequest ClientAnswer × Claims)}
    (holds : ∀ entry ∈ held, entry.1.Holds deviceRules entry.2) (idle : ∀ entry ∈ held, entry.1.request.acquires = false) :
    ∀ claim ∈ heldBy held, claim = .entering := by
  induction held with
  | nil => exact fun _ listed => absurd listed (Multiset.notMem_zero _)
  | cons entry held ih =>
    rw [List.forall_mem_cons] at holds idle
    intro claim listed
    rw [heldBy_cons] at listed
    rcases Multiset.mem_add.mp listed with own | others
    · by_contra other
      cases idle.1.symm.trans (holds.1.may claim own other)
    · exact ih holds.2 idle.2 claim others

theorem devicesKept_initial (config : CallsClientConfig) : CallsClient.DevicesKept { config } 0 where
  phases := by
    refine ⟨Nat.zero_le _, fun _ => ⟨Multiset.notMem_zero _, rfl, rfl, rfl⟩, ?_, rfl, ?_, ?_, ?_, ?_⟩
    · exact fun listed => absurd listed (Multiset.notMem_zero _)
    · exact fun _ _ => rfl
    · exact fun is => by cases is
    · exact fun _ listed => absurd listed (Multiset.notMem_zero _)
    · exact fun _ _ => rfl
  devices := by
    refine ⟨fun _ is => (by cases is), fun _ is => (by cases is), ?_, Multiset.nodup_zero, ?_, fun _ _ is => (by cases is), ?_⟩
    · exact fun _ listed => absurd listed (Multiset.notMem_zero _)
    · exact fun _ listed => absurd listed (Multiset.notMem_zero _)
    · exact fun _ is => by cases is
  released _ _ _ := rfl

theorem devices_accounted {config : CallsClientConfig} {client : CallsClientState}
    (reached : ((callsClient config).restrict ServesDevices).Reachable client) : client.Accounted deviceRules := by
  refine System.Reachable.invariant_of_allowed ?_ ?_ reached
  · rintro _ rfl
    exact ⟨[], ⟨rfl, fun _ listed => by cases listed⟩, devicesKept_initial config⟩
  · intro client step after accounted serves taken
    cases step with
    | call call =>
      simp only [callsClient, callsClientNext?] at taken
      split at taken
      · next takes =>
        obtain rfl := Option.some.inj taken
        obtain ⟨held, holdings, kept⟩ := accounted
        apply AsyncState.accounted_start CallsClient.updateDevicesFrom_givesBack holdings
        apply CallsClient.handle_accounts kept takes
        rintro rfl
        refine serves.imp_left fun idle => entering_of_idle holdings.holds fun entry listed => idle entry.1 ?_
        rw [← holdings.listed]
        exact List.mem_map_of_mem listed
      · cases taken
    | answer place answer =>
      simp only [callsClient, callsClientNext?] at taken
      split at taken
      · next fits =>
        apply accounted.resolve CallsClient.updateDevicesFrom_givesBack ?_ taken
        intro task found
        rw [found] at fits
        exact ⟨fits, serves task found⟩
      · cases taken

/-- What can be computed of the answers that are expected. -/
def expectsFree (client : CallsClient) : ClientRequest → ClientAnswer → Bool
  | .displayMedia, .granted _ _ => client.localScreenTrack = none
  | .userMedia .initAudio _ _, .granted _ _ =>
    client.stream.all fun stream => (client.media.getTracksOf .audio stream).all fun track =>
      !client.media.holdsDevice track || client.streams.contains stream
  | .userMedia _ _ _, .rejected => client.closed = false
  | _, _ => true

def devicesFree (client : CallsClientState) : CallsClientStep → Bool
  | .call .disconnect => client.tasks.all fun task => !task.request.acquires
  | .call _ => true
  | .answer place answer => client.tasks[place]?.all fun task => expectsFree client.state task.request answer

theorem expectsFree_sound {client : CallsClient} {request : ClientRequest} {answer : ClientAnswer}
    (free : expectsFree client request answer = true) : client.Expects request answer := by
  cases request with
  | videoCodec | devices | peer => trivial
  | displayMedia =>
    cases answer with
    | granted =>
      have none : client.localScreenTrack = none := of_decide_eq_true free
      exact none
    | codec | devices | done | rejected => trivial
  | userMedia purpose deviceId during =>
    cases answer with
    | codec | devices | done => cases purpose <;> trivial
    | rejected =>
      have opened : client.closed = false := by cases purpose <;> exact of_decide_eq_true free
      cases purpose <;> exact opened
    | granted =>
      cases purpose with
      | switchAudio | initVideo | switchVideo => trivial
      | initAudio =>
        rintro track on ⟨stream, current, listed⟩
        simp only [expectsFree, current, Option.all_some, List.all_eq_true] at free
        have left := free track listed
        rw [on, Bool.not_true, Bool.false_or, List.contains_iff_mem] at left
        exact .inl ⟨stream, left, (Media.mem_getTracksOf.mp listed).1⟩

theorem devicesFree_sound {client : CallsClientState} {step : CallsClientStep} (free : devicesFree client step = true) :
    ServesDevices client step := by
  cases step with
  | call call =>
    cases call with
    | disconnect =>
      refine .inl fun task listed => ?_
      have idle := List.all_eq_true.mp free task listed
      simpa using idle
    | _ => trivial
  | answer place answer =>
    intro task found
    simp only [devicesFree, found, Option.all_some] at free
    exact expectsFree_sound free

/-- Alice joins, shows her camera on a blurred background and shares her screen with its sound, and hangs up. -/
def aliceShowsHerself : List CallsClientStep :=
  let microphone : MediaDevice := { deviceId := "microphone", label := "Microphone", kind := .audioinput }
  let camera : MediaDevice := { deviceId := "camera", label := "Camera", kind := .videoinput }
  let devices : ClientAnswer := .devices [microphone, camera]
  [.call .init, .answer 0 devices, .answer 0 (.granted "microphone" false), .answer 0 (.granted "camera" false),
    .answer 0 devices, .answer 0 devices, .answer 0 (.granted "microphone" false), .call .joined,
    .call (.setBgBlurData { blurBackground := true, blurIntensity := 1 }), .call .startVideo,
    .answer 0 (.granted "camera" false), .answer 0 devices, .call .shareScreen, .answer 1 (.granted "screen" true)]

def openDevices (client : CallsClient) : List Nat := (List.range client.media.tracks.length).filter client.media.holdsDevice


end Calls.Webapp
