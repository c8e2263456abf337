import Calls.Webapp.CallsClient
import Mathlib.Data.Multiset.Filter
import Mathlib.Data.Multiset.Count
import Mathlib.Algebra.Order.Group.Multiset

/-! Who lets go of an open device. A device is open in a track of one of the streams that `cleanup`
goes through, or an operation in flight answers for it. -/

set_option autoImplicit false

namespace Calls.Webapp

/-- What an operation in flight answers for. -/
inductive Hold where
  | nothing
  /-- A new stream with one track, which nothing else knows of. -/
  | opened (kind : TrackKind) (stream track : Nat)
  /-- A new stream that `cleanup` goes through, and a track that was stopped for it. -/
  | filed (stream : Nat) (stopped : Option Nat)
  /-- The audio of `stream`. -/
  | microphone
  /-- A track that there is. -/
  | known (track : Nat)
  deriving DecidableEq

/-- Of `init` before the initializers start, or of an operation that opens devices, such as one of the initializers. -/
inductive Claim where
  | entering
  | operation (initializer : Bool) (hold : Hold)
  deriving DecidableEq

namespace Claim

def hold : Claim → Hold
  | entering => .nothing
  | operation _ hold => hold

def isInitializer : Claim → Bool
  | entering => false
  | operation initializer _ => initializer

end Claim

def Hold.stream? : Hold → Option Nat
  | .opened _ stream _ => some stream
  | .filed stream _ => some stream
  | _ => none

def Claim.stream? (claim : Claim) : Option Nat := claim.hold.stream?

abbrev Claims := Multiset Claim

namespace CallsClient

/-- No initializer was started yet. -/
structure Unstarted (client : CallsClient) : Prop where
  offline : client.ws = false
  idle : client.initializing = 0
  unfailed : client.initializerFailed = false

/-- Where the client is in its life, and which operations there are in flight. -/
structure Phases (client : CallsClient) (claims : Claims) : Prop where
  once : claims.count .entering ≤ 1
  fresh : client.initialized = false → .entering ∉ claims ∧ client.Unstarted
  entering : .entering ∈ claims → client.Unstarted
  initializing : client.initializing = claims.countP (·.isInitializer)
  starting : client.initializing ≠ 0 → client.initializerFailed = false → client.ws = false
  connected : client.peer = true → client.ws = true ∧ client.closed = false
  acquiring : ∀ hold, .operation false hold ∈ claims → client.peer = true
  unfailed : client.closed = true → client.initializing ≠ 0 → client.initializerFailed = false

/-- `cleanup` stops the track, or the canvas in front of it. -/
def Stoppable (client : CallsClient) (track : Nat) : Prop :=
  (∃ stream ∈ client.streams, track ∈ client.media.getTracks stream) ∨
    ∃ canvas, client.media.onended? canvas = some (.canvas track)

/-- The stream is nobody's to change. -/
structure Untouched (client : CallsClient) (claims : Claims) (stream : Nat) : Prop where
  microphone : client.stream ≠ some stream
  camera : client.localVideoStream ≠ some stream
  unclaimed : ∀ claim ∈ claims, claim.stream? ≠ some stream

/-- What a claim on a new stream says of it. -/
def Describes (client : CallsClient) : Hold → Prop
  | .opened kind stream track => client.media.getTracks stream = [track] ∧ client.media.kindOf? track = some kind
  | .filed stream stopped => stream ∈ client.streams ∧
    ∀ track, stopped = some track → client.media.kindOf? track ≠ none ∧ client.media.holdsDevice track = false
  | .known track => client.media.kindOf? track ≠ none
  | _ => True

/-- Who holds this answers for the track. -/
def Covers (client : CallsClient) (track : Nat) : Hold → Prop
  | .opened _ _ opened => opened = track
  | .microphone => ∃ stream, client.stream = some stream ∧ track ∈ client.media.getTracksOf .audio stream
  | _ => False

/-- An operation in flight answers for the track. -/
def Claimed (client : CallsClient) (claims : Claims) (track : Nat) : Prop := ∃ claim ∈ claims, client.Covers track claim.hold

/-- Whoever opened a device answers for it, or has left it to `cleanup`. -/
structure Devices (client : CallsClient) (claims : Claims) : Prop where
  stream : ∀ stream, client.stream = some stream → stream < client.media.streams.length
  localVideoStream : ∀ stream, client.localVideoStream = some stream → stream < client.media.streams.length
  new : ∀ claim ∈ claims, ∀ stream, claim.stream? = some stream →
    stream < client.media.streams.length ∧ client.stream ≠ some stream ∧ client.localVideoStream ≠ some stream
  apart : (claims.filterMap Claim.stream?).Nodup
  described : ∀ claim ∈ claims, client.Describes claim.hold
  canvases : ∀ canvas track, client.media.onended? canvas = some (.canvas track) →
    ∃ stream ∈ client.streams, canvas ∈ client.media.getTracks stream ∧ client.Untouched claims stream
  held : ∀ track, client.media.holdsDevice track = true → client.Stoppable track ∨ client.Claimed claims track

structure DevicesKept (client : CallsClient) (claims : Claims) : Prop where
  phases : client.Phases claims
  devices : client.Devices claims
  released : client.closed = true → client.initializing = 0 → ∀ track, client.media.holdsDevice track = false

/-! ### Phases -/

def flags (client : CallsClient) : Bool × Bool × Bool × Bool × Nat × Bool :=
  (client.ws, client.peer, client.closed, client.initialized, client.initializing, client.initializerFailed)

variable {client after : CallsClient} {claims : Claims} {starting : Bool} {hold other : Hold}

theorem countP_operation : (claims + {.operation starting hold}).countP (·.isInitializer) =
    claims.countP (·.isInitializer) + if starting then 1 else 0 := by
  rw [Multiset.countP_add]
  cases starting <;> rfl

namespace Phases

theorem congr (phases : client.Phases claims) (same : after.flags = client.flags) : after.Phases claims := by
  simp only [flags, Prod.mk.injEq] at same
  obtain ⟨ws, peer, closed, initialized, initializing, failed⟩ := same
  have unstarted : client.Unstarted → after.Unstarted := fun ⟨offline, idle, unfailed⟩ =>
    ⟨ws.trans offline, initializing.trans idle, failed.trans unfailed⟩
  constructor
  · exact phases.once
  · rw [initialized]
    exact fun fresh => ⟨(phases.fresh fresh).1, unstarted (phases.fresh fresh).2⟩
  · exact fun listed => unstarted (phases.entering listed)
  · rw [initializing]
    exact phases.initializing
  · rw [initializing, failed, ws]
    exact phases.starting
  · rw [peer, ws, closed]
    exact phases.connected
  · rw [peer]
    exact phases.acquiring
  · rw [closed, initializing, failed]
    exact phases.unfailed

/-- What an operation answers for is no matter of the phases. -/
theorem rehold (phases : client.Phases (claims + {.operation starting hold})) :
    client.Phases (claims + {.operation starting other}) := by
  have same : (.entering ∈ claims + {.operation starting other} ↔ .entering ∈ claims + {.operation starting hold}) := by simp
  constructor
  · simpa [Multiset.count_singleton] using phases.once
  · rw [same]
    exact phases.fresh
  · rw [same]
    exact phases.entering
  · exact phases.initializing.trans (countP_operation.trans countP_operation.symm)
  · exact phases.starting
  · exact phases.connected
  · intro held listed
    rcases Multiset.mem_add.mp listed with old | own
    · exact phases.acquiring held (Multiset.mem_add.mpr (.inl old))
    · obtain ⟨rfl, rfl⟩ := Claim.operation.inj (Multiset.mem_singleton.mp own)
      exact phases.acquiring hold (by simp)
  · exact phases.unfailed

theorem acquire (phases : client.Phases claims) (peer : client.peer = true) :
    client.Phases (claims + {.operation false hold}) := by
  constructor
  · simpa [Multiset.count_singleton] using phases.once
  · simpa using phases.fresh
  · simpa using phases.entering
  · rw [countP_operation]
    exact phases.initializing
  · exact phases.starting
  · exact phases.connected
  · exact fun _ _ => peer
  · exact phases.unfailed

theorem drop (phases : client.Phases (claims + {.operation false hold})) : client.Phases claims := by
  constructor
  · simpa [Multiset.count_singleton] using phases.once
  · simpa using phases.fresh
  · simpa using phases.entering
  · exact phases.initializing.trans countP_operation
  · exact phases.starting
  · exact phases.connected
  · exact fun held listed => phases.acquiring held (Multiset.mem_add.mpr (.inl listed))
  · exact phases.unfailed

theorem open_of_operation (phases : client.Phases (claims + {.operation false hold})) : client.closed = false :=
  (phases.connected (phases.acquiring hold (by simp))).2

/-- One of the initializers is in flight. -/
theorem started (phases : client.Phases (claims + {.operation true hold})) : client.initializing = claims.countP (·.isInitializer) + 1 :=
  phases.initializing.trans countP_operation

theorem not_unstarted (phases : client.Phases (claims + {.operation true hold})) : ¬client.Unstarted := by
  intro unstarted
  cases unstarted.idle.symm.trans phases.started

/-- While an operation is in flight that opens devices, the client is not closed but for the initializers. -/
theorem active (phases : client.Phases (claims + {.operation starting hold})) (closed : client.closed = true) :
    client.initializing ≠ 0 := by
  cases starting with
  | true =>
    rw [phases.started]
    exact Nat.succ_ne_zero _
  | false =>
    rw [phases.open_of_operation] at closed
    cases closed

/-- One of the initializers is through. -/
theorem initializerDone (phases : client.Phases (claims + {.operation true hold})) :
    Phases { client with initializing := client.initializing - 1 } claims := by
  have through : client.initializing - 1 = claims.countP (·.isInitializer) := by rw [phases.started, Nat.add_sub_cancel]
  have before : client.initializing ≠ 0 := by rw [phases.started]; exact Nat.succ_ne_zero _
  constructor
  · simpa [Multiset.count_singleton] using phases.once
  · exact fun fresh => absurd (phases.fresh fresh).2 phases.not_unstarted
  · exact fun listed => absurd (phases.entering (Multiset.mem_add.mpr (.inl listed))) phases.not_unstarted
  · exact through
  · exact fun _ unfailed => phases.starting before unfailed
  · exact phases.connected
  · exact fun held listed => phases.acquiring held (Multiset.mem_add.mpr (.inl listed))
  · exact fun closed _ => phases.unfailed closed before

/-- The claims of operations, where there are none but those of the initializers. -/
theorem covers_nothing (phases : client.Phases claims) (offline : client.peer = false) (through : client.initializing = 0)
    {claim : Claim} (listed : claim ∈ claims) : claim.hold = .nothing := by
  cases claim with
  | entering => rfl
  | operation starting hold =>
    cases starting with
    | true =>
      rw [phases.initializing] at through
      exact absurd rfl (Multiset.countP_eq_zero.mp through _ listed)
    | false =>
      rw [phases.acquiring hold listed] at offline
      cases offline

end Phases

/-! ### Devices -/

/-- There may be more tracks and streams. What was there is still there, and what was off is off. -/
structure Extends (before after : CallsClient) : Prop where
  streams : before.streams ⊆ after.streams
  length : before.media.streams.length ≤ after.media.streams.length
  tracks : ∀ stream < before.media.streams.length, after.media.getTracks stream = before.media.getTracks stream
  shown : ∀ canvas track, before.media.onended? canvas = some (.canvas track) → after.media.onended? canvas = some (.canvas track)
  kinds : ∀ track kind, before.media.kindOf? track = some kind → after.media.kindOf? track = some kind
  off : ∀ track, before.media.kindOf? track ≠ none → after.media.holdsDevice track = true → before.media.holdsDevice track = true

namespace Extends

variable {before : CallsClient} {track stream : Nat}

theorem listed (ext : Extends before after) (listed : track ∈ before.media.getTracks stream) :
    track ∈ after.media.getTracks stream := by
  rw [ext.tracks stream (Media.stream_lt listed)]
  exact listed

theorem stoppable (ext : Extends before after) (stoppable : before.Stoppable track) : after.Stoppable track := by
  rcases stoppable with ⟨stream, kept, listed⟩ | ⟨canvas, shown⟩
  · exact .inl ⟨stream, ext.streams kept, ext.listed listed⟩
  · exact .inr ⟨canvas, ext.shown canvas track shown⟩

theorem covers (ext : Extends before after) (same : after.stream = before.stream) (covers : before.Covers track hold) :
    after.Covers track hold := by
  cases hold with
  | nothing | opened | filed | known => exact covers
  | microphone =>
    obtain ⟨stream, current, listed⟩ := covers
    rw [Media.mem_getTracksOf] at listed
    exact ⟨stream, same.trans current, Media.mem_getTracksOf.mpr ⟨ext.listed listed.1, ext.kinds _ _ listed.2⟩⟩

theorem describes (ext : Extends before after) (inside : ∀ stream, hold.stream? = some stream → stream < before.media.streams.length)
    (describes : before.Describes hold) : after.Describes hold := by
  cases hold with
  | nothing | microphone => trivial
  | opened kind stream track => exact ⟨(ext.tracks stream (inside stream rfl)).trans describes.1, ext.kinds _ _ describes.2⟩
  | filed stream stopped =>
    refine ⟨ext.streams describes.1, fun track was => ?_⟩
    obtain ⟨known, off⟩ := describes.2 track was
    obtain ⟨kind, found⟩ := Option.ne_none_iff_exists'.mp known
    refine ⟨by simp [ext.kinds _ _ found], ?_⟩
    by_contra on
    rw [ext.off track known (Bool.not_eq_false _ ▸ on)] at off
    cases off
  | known track =>
    obtain ⟨kind, found⟩ := Option.ne_none_iff_exists'.mp describes
    change after.media.kindOf? track ≠ none
    simp [ext.kinds _ _ found]

theorem trans {mid : CallsClient} (ext : Extends before mid) (further : Extends mid after) : Extends before after where
  streams := List.Subset.trans ext.streams further.streams
  length := Nat.le_trans ext.length further.length
  tracks stream inside := (further.tracks stream (Nat.lt_of_lt_of_le inside ext.length)).trans (ext.tracks stream inside)
  shown canvas track shown := further.shown canvas track (ext.shown canvas track shown)
  kinds track kind found := further.kinds track kind (ext.kinds track kind found)
  off track known on := by
    obtain ⟨kind, found⟩ := Option.ne_none_iff_exists'.mp known
    exact ext.off track known (further.off track (by simp [ext.kinds track kind found]) on)

theorem of_eq (media : after.media = before.media) (streams : before.streams ⊆ after.streams) : Extends before after where
  streams := streams
  length := by rw [media]
  tracks _ _ := by rw [media]
  shown _ _ shown := by
    rw [media]
    exact shown
  kinds _ _ found := by
    rw [media]
    exact found
  off _ _ on := by
    rw [← media]
    exact on

/-- A track is stopped, muted or unmuted. -/
theorem of_tracks (streams : after.streams = before.streams)
    (tables : after.media.streams = before.media.streams)
    (handlers : ∀ track, after.media.onended? track = before.media.onended? track)
    (kinds : ∀ track, after.media.kindOf? track = before.media.kindOf? track)
    (off : ∀ track, after.media.holdsDevice track = true → before.media.holdsDevice track = true) : Extends before after where
  streams := by
    rw [streams]
    exact List.Subset.refl _
  length := by rw [tables]
  tracks stream _ := by rw [Media.getTracks, Media.getTracks, tables]
  shown canvas _ shown := (handlers canvas).trans shown
  kinds track _ found := (kinds track).trans found
  off track _ on := off track on

theorem newTrack (client : CallsClient) (row : MediaTrack EndedHandler) :
    Extends client { client with media := client.media.newTrack row } where
  streams := List.Subset.refl _
  length := Nat.le_refl _
  tracks _ _ := rfl
  shown canvas track shown := by
    rw [Media.onended?_newTrack, if_neg, shown]
    intro last
    rw [Media.onended?_of_le (Nat.le_of_eq last.symm)] at shown
    cases shown
  kinds track kind found := by
    rw [Media.kindOf?_newTrack, if_neg, found]
    intro last
    rw [Media.kindOf?_of_le (Nat.le_of_eq last.symm)] at found
    cases found
  off track known on := by
    rw [Media.holdsDevice_newTrack, if_neg] at on
    · exact on
    · exact fun last => known (Media.kindOf?_of_le (Nat.le_of_eq last.symm))

theorem newStream (client : CallsClient) (tracks : List Nat) :
    Extends client { client with media := client.media.newStream tracks } where
  streams := List.Subset.refl _
  length := by simp [Media.newStream]
  tracks stream inside := by rw [Media.getTracks_newStream, if_neg (Nat.ne_of_lt inside)]
  shown _ _ shown := shown
  kinds _ _ found := found
  off _ _ on := on

theorem setOnended (client : CallsClient) {given : Nat} (plain : client.media.onended? given = none) (handler : EndedHandler) :
    Extends client { client with media := client.media.setOnended handler given } where
  streams := List.Subset.refl _
  length := Nat.le_refl _
  tracks _ _ := rfl
  shown canvas track shown := by
    have different : canvas ≠ given := by
      rintro rfl
      cases plain.symm.trans shown
    exact (Media.onended?_setOnended_of_ne different).trans shown
  kinds _ _ found := Media.kindOf?_setOnended.trans found
  off _ _ on := Media.holdsDevice_setOnended.symm.trans on

theorem openTrack (client : CallsClient) (row : MediaTrack EndedHandler) : Extends client (client.openTrack row) :=
  (newTrack client row).trans (newStream _ _)

end Extends

/-- The client goes on with the same streams of its own; a device that is opened is left to `cleanup`. -/
structure Grows (before after : CallsClient) : Prop extends Extends before after where
  canvases : ∀ canvas track, after.media.onended? canvas = some (.canvas track) → before.media.onended? canvas = some (.canvas track)
  stream : after.stream = before.stream
  localVideoStream : after.localVideoStream = before.localVideoStream
  opened : ∀ track, after.media.holdsDevice track = true → before.media.holdsDevice track = true ∨ after.Stoppable track

theorem forall_claims_add {property : Claim → Prop} {claim : Claim} :
    (∀ held ∈ claims + {claim}, property held) ↔ (∀ held ∈ claims, property held) ∧ property claim := by
  simp only [Multiset.mem_add, Multiset.mem_singleton, or_imp, forall_and, forall_eq]

theorem claimed_add {claim : Claim} {track : Nat} :
    client.Claimed (claims + {claim}) track ↔ client.Claimed claims track ∨ client.Covers track claim.hold := by
  simp only [Claimed, Multiset.mem_add, Multiset.mem_singleton, or_and_right, exists_or, exists_eq_left]

namespace Grows

variable {before : CallsClient} {track stream : Nat}

theorem of_eq (same : after.media = before.media ∧ after.streams = before.streams ∧ after.stream = before.stream ∧
      after.localVideoStream = before.localVideoStream) : Grows before after := by
  obtain ⟨media, streams, stream, localVideoStream⟩ := same
  refine ⟨.of_eq media (by rw [streams]; exact List.Subset.refl _), ?_, stream, localVideoStream, fun track on => .inl ?_⟩
  · rw [media]
    exact fun _ _ shown => shown
  · rw [← media]
    exact on

theorem refl (client : CallsClient) : Grows client client := .of_eq ⟨rfl, rfl, rfl, rfl⟩

theorem trans {mid : CallsClient} (grows : Grows before mid) (further : Grows mid after) : Grows before after where
  toExtends := grows.toExtends.trans further.toExtends
  canvases canvas track shown := grows.canvases canvas track (further.canvases canvas track shown)
  stream := further.stream.trans grows.stream
  localVideoStream := further.localVideoStream.trans grows.localVideoStream
  opened track on := by
    rcases further.opened track on with already | stoppable
    · exact (grows.opened track already).imp_right further.toExtends.stoppable
    · exact .inr stoppable

theorem stopTrack (client : CallsClient) (track : Nat) : Grows client (client.stopTrack track) where
  toExtends := .of_tracks rfl rfl (fun _ => Media.onended?_stop) (fun _ => Media.kindOf?_stop)
    fun _ on => (Media.holdsDevice_stop.mp on).2
  canvases _ _ shown := Media.onended?_stop.symm.trans shown
  stream := rfl
  localVideoStream := rfl
  opened _ on := .inl (Media.holdsDevice_stop.mp on).2

theorem setEnabled (client : CallsClient) (enabled : Bool) (track : Nat) : Grows client (client.setEnabled enabled track) where
  toExtends := .of_tracks rfl rfl (fun _ => Media.onended?_setEnabled) (fun _ => Media.kindOf?_setEnabled)
    fun _ on => Media.holdsDevice_setEnabled.symm.trans on
  canvases _ _ shown := Media.onended?_setEnabled.symm.trans shown
  stream := rfl
  localVideoStream := rfl
  opened _ on := .inl (Media.holdsDevice_setEnabled.symm.trans on)

/-- The tracks of a screen were opened, and are put in a stream that `cleanup` goes through. -/
theorem shareScreen {mid : CallsClient} {tracks : List Nat} {screenTrack : Nat} {audio : Option Nat} (ext : Extends before mid)
    (canvases : ∀ canvas track, mid.media.onended? canvas = some (.canvas track) → before.media.onended? canvas = some (.canvas track))
    (same : mid.stream = before.stream ∧ mid.localVideoStream = before.localVideoStream)
    (plain : mid.media.onended? screenTrack = none)
    (opened : ∀ track, mid.media.holdsDevice track = true → before.media.holdsDevice track = true ∨ track ∈ tracks) :
    Grows before { mid with
      localScreenTrack := some screenTrack
      media := (mid.media.newStream tracks).setOnended (.screen audio) screenTrack
      streams := mid.streams ++ [mid.media.streams.length] } where
  toExtends := by
    have unhandled : (mid.media.newStream tracks).onended? screenTrack = none := plain
    have further := Extends.setOnended { mid with media := mid.media.newStream tracks } unhandled (.screen audio)
    exact ((ext.trans (.newStream mid tracks)).trans further).trans (.of_eq rfl (List.subset_append_left _ _))
  canvases canvas track shown := by
    rcases Media.onended?_setOnended shown with ⟨-, is⟩ | old
    · cases is
    · exact canvases canvas track old
  stream := same.1
  localVideoStream := same.2
  opened track on := by
    refine (opened track (Media.holdsDevice_setOnended.symm.trans on)).imp_right fun listed => .inl ⟨mid.media.streams.length, ?_, ?_⟩
    · exact List.mem_append_right _ (List.mem_singleton_self _)
    · have own : (mid.media.newStream tracks).getTracks mid.media.streams.length = tracks :=
        Media.getTracks_newStream.trans (if_pos rfl)
      exact own.symm ▸ listed

theorem push (client : CallsClient) (stream : Nat) : Grows client { client with streams := client.streams ++ [stream] } where
  toExtends := .of_eq rfl (List.subset_append_left _ _)
  canvases _ _ shown := shown
  stream := rfl
  localVideoStream := rfl
  opened _ on := .inl on

end Grows

namespace Devices

variable {before : CallsClient} {claim : Claim} {stream track : Nat}

theorem grows (devices : before.Devices claims) (grows : Grows before after) : after.Devices claims := by
  constructor
  · rw [grows.stream]
    exact fun stream current => Nat.lt_of_lt_of_le (devices.stream stream current) grows.length
  · rw [grows.localVideoStream]
    exact fun stream current => Nat.lt_of_lt_of_le (devices.localVideoStream stream current) grows.length
  · rw [grows.stream, grows.localVideoStream]
    intro claim listed stream own
    obtain ⟨inside, others⟩ := devices.new claim listed stream own
    exact ⟨Nat.lt_of_lt_of_le inside grows.length, others⟩
  · exact devices.apart
  · intro claim listed
    exact grows.describes (fun stream own => (devices.new claim listed stream own).1) (devices.described claim listed)
  · intro canvas track shown
    obtain ⟨stream, kept, listed, untouched⟩ := devices.canvases canvas track (grows.canvases canvas track shown)
    refine ⟨stream, grows.streams kept, grows.listed listed, ?_, ?_, untouched.unclaimed⟩
    · rw [grows.stream]
      exact untouched.microphone
    · rw [grows.localVideoStream]
      exact untouched.camera
  · intro track on
    rcases grows.opened track on with already | stoppable
    · rcases devices.held track already with stoppable | ⟨claim, listed, covers⟩
      · exact .inl (grows.stoppable stoppable)
      · exact .inr ⟨claim, listed, grows.covers grows.stream covers⟩
    · exact .inl stoppable

/-- An operation answers for something else from here on. -/
theorem rehold (devices : client.Devices (claims + {.operation starting hold})) (describes : client.Describes other)
    (same : other.stream? = none ∨ other.stream? = hold.stream?)
    (lost : ∀ track, client.media.holdsDevice track = true → client.Covers track hold →
      client.Stoppable track ∨ client.Covers track other) : client.Devices (claims + {.operation starting other}) := by
  have own (stream : Nat) (is : other.stream? = some stream) : hold.stream? = some stream := by
    rcases same with none | same
    · rw [none] at is
      cases is
    · exact same.symm.trans is
  have new := forall_claims_add.mp devices.new
  constructor
  · exact devices.stream
  · exact devices.localVideoStream
  · exact forall_claims_add.mpr ⟨new.1, fun stream is => new.2 stream (own stream is)⟩
  · have apart := devices.apart
    rw [Multiset.filterMap_add] at apart ⊢
    rcases same with none | same
    · have empty : Multiset.filterMap Claim.stream? {.operation starting other} = 0 := Multiset.filterMap_cons_none _ _ none
      rw [empty, add_zero]
      exact (Multiset.nodup_add.mp apart).1
    · have unchanged : Multiset.filterMap Claim.stream? {.operation starting other} =
          Multiset.filterMap Claim.stream? {.operation starting hold} := by
        simp [← Multiset.cons_zero, Multiset.filterMap_cons, Claim.stream?, Claim.hold, same]
      rw [unchanged]
      exact apart
  · exact forall_claims_add.mpr ⟨(forall_claims_add.mp devices.described).1, describes⟩
  · intro canvas track shown
    obtain ⟨stream, kept, listed, untouched⟩ := devices.canvases canvas track shown
    have unclaimed := forall_claims_add.mp untouched.unclaimed
    exact ⟨stream, kept, listed, untouched.microphone, untouched.camera,
      forall_claims_add.mpr ⟨unclaimed.1, fun is => unclaimed.2 (own stream is)⟩⟩
  · intro track on
    rcases devices.held track on with stoppable | claimed
    · exact .inl stoppable
    · rcases claimed_add.mp claimed with others | covers
      · exact .inr (claimed_add.mpr (.inl others))
      · exact (lost track on covers).imp_right fun covers => claimed_add.mpr (.inr covers)

/-- A claim that answers for nothing. -/
theorem claims_nothing (nothing : claim.hold = .nothing) : client.Devices (claims + {claim}) ↔ client.Devices claims := by
  have none : claim.stream? = none := congrArg Hold.stream? nothing
  have empty : Multiset.filterMap Claim.stream? {claim} = 0 := Multiset.filterMap_cons_none _ _ none
  have untouched (stream : Nat) : client.Untouched (claims + {claim}) stream ↔ client.Untouched claims stream := by
    constructor
    · exact fun ⟨microphone, camera, unclaimed⟩ => ⟨microphone, camera, (forall_claims_add.mp unclaimed).1⟩
    · exact fun ⟨microphone, camera, unclaimed⟩ => ⟨microphone, camera, forall_claims_add.mpr ⟨unclaimed, by simp [none]⟩⟩
  constructor
  · rintro ⟨stream, localVideoStream, new, apart, described, canvases, held⟩
    rw [Multiset.filterMap_add, empty, add_zero] at apart
    simp only [untouched] at canvases
    simp only [claimed_add, nothing, Covers, or_false] at held
    exact ⟨stream, localVideoStream, (forall_claims_add.mp new).1, apart, (forall_claims_add.mp described).1, canvases, held⟩
  · rintro ⟨stream, localVideoStream, new, apart, described, canvases, held⟩
    refine ⟨stream, localVideoStream, forall_claims_add.mpr ⟨new, by simp [none]⟩, ?_,
      forall_claims_add.mpr ⟨described, by rw [nothing]; trivial⟩, ?_, ?_⟩
    · rw [Multiset.filterMap_add, empty, add_zero]
      exact apart
    · simp only [untouched]
      exact canvases
    · simp only [claimed_add, nothing, Covers, or_false]
      exact held

/-- A device is opened in a new stream. -/
theorem opened (devices : before.Devices (claims + {.operation starting .nothing})) (ext : Extends before after)
    (canvases : ∀ canvas track, after.media.onended? canvas = some (.canvas track) → before.media.onended? canvas = some (.canvas track))
    (microphone : after.stream = before.stream) (camera : after.localVideoStream = before.localVideoStream)
    (inside : before.media.streams.length < after.media.streams.length)
    {kind : TrackKind} (described : after.Describes (.opened kind before.media.streams.length track))
    (opened : ∀ other, after.media.holdsDevice other = true → before.media.holdsDevice other = true ∨ other = track) :
    after.Devices (claims + {.operation starting (.opened kind before.media.streams.length track)}) := by
  have old := (claims_nothing rfl).mp devices
  constructor
  · rw [microphone]
    exact fun stream current => Nat.lt_of_lt_of_le (old.stream stream current) ext.length
  · rw [camera]
    exact fun stream current => Nat.lt_of_lt_of_le (old.localVideoStream stream current) ext.length
  · rw [microphone, camera]
    refine forall_claims_add.mpr ⟨fun claim listed stream own => ?_, fun stream own => ?_⟩
    · obtain ⟨inside, others⟩ := old.new claim listed stream own
      exact ⟨Nat.lt_of_lt_of_le inside ext.length, others⟩
    · obtain rfl := Option.some.inj own
      exact ⟨inside, fun current => Nat.lt_irrefl _ (old.stream _ current), fun current => Nat.lt_irrefl _ (old.localVideoStream _ current)⟩
  · have own : Multiset.filterMap Claim.stream? {.operation starting (.opened kind before.media.streams.length track)} =
        {before.media.streams.length} := rfl
    rw [Multiset.filterMap_add, own]
    refine Multiset.nodup_add.mpr ⟨old.apart, Multiset.nodup_singleton _, Multiset.disjoint_singleton.mpr fun listed => ?_⟩
    obtain ⟨claim, held, own⟩ := (Multiset.mem_filterMap _ _).mp listed
    exact Nat.lt_irrefl _ (old.new claim held _ own).1
  · refine forall_claims_add.mpr ⟨fun claim listed => ?_, described⟩
    exact ext.describes (fun stream own => (old.new claim listed stream own).1) (old.described claim listed)
  · intro canvas track shown
    obtain ⟨stream, kept, listed, untouched⟩ := old.canvases canvas track (canvases canvas track shown)
    refine ⟨stream, ext.streams kept, ext.listed listed, ?_, ?_, forall_claims_add.mpr ⟨untouched.unclaimed, fun own => ?_⟩⟩
    · rw [microphone]
      exact untouched.microphone
    · rw [camera]
      exact untouched.camera
    · have last := Option.some.inj own
      exact Nat.lt_irrefl _ (last ▸ Media.stream_lt listed)
  · intro other on
    rcases opened other on with already | rfl
    · rcases old.held other already with stoppable | ⟨claim, listed, covers⟩
      · exact .inl (ext.stoppable stoppable)
      · exact .inr (claimed_add.mpr (.inl ⟨claim, listed, ext.covers microphone covers⟩))
    · exact .inr (claimed_add.mpr (.inr rfl))

/-- The stream of an operation is that of no other. -/
theorem sole (devices : client.Devices (claims + {.operation starting hold})) (own : hold.stream? = some stream) :
    (claims.filterMap Claim.stream?).Nodup ∧ ∀ claim ∈ claims, claim.stream? ≠ some stream := by
  have claimed : Multiset.filterMap Claim.stream? {Claim.operation starting hold} = {stream} :=
    Multiset.filterMap_cons_some _ _ 0 own
  have apart := devices.apart
  rw [Multiset.filterMap_add, claimed] at apart
  obtain ⟨old, -, disjoint⟩ := Multiset.nodup_add.mp apart
  exact ⟨old, fun claim listed own =>
    Multiset.disjoint_singleton.mp disjoint ((Multiset.mem_filterMap _ _).mpr ⟨claim, listed, own⟩)⟩

/-- The stream of an operation becomes the one with the microphone. What was in the old one is left to `cleanup`. -/
theorem setStream (devices : client.Devices (claims + {.operation starting hold})) {kind : TrackKind}
    (own : hold = .opened kind stream track) (audio : kind = .audio)
    (left : ∀ other, client.media.holdsDevice other = true → client.Covers other .microphone →
      client.Stoppable other ∨ other = track) :
    CallsClient.Devices { client with stream := some stream } (claims + {.operation starting .microphone}) := by
  subst own audio
  have new := forall_claims_add.mp devices.new
  have described := forall_claims_add.mp devices.described
  obtain ⟨apart, others⟩ := devices.sole rfl
  constructor
  · rintro current ⟨⟩
    exact (new.2 stream rfl).1
  · exact devices.localVideoStream
  · refine forall_claims_add.mpr ⟨fun claim listed other own => ?_, fun _ own => by cases own⟩
    obtain ⟨inside, -, camera⟩ := new.1 claim listed other own
    exact ⟨inside, fun same => others claim listed (own.trans same.symm), camera⟩
  · have empty : Multiset.filterMap Claim.stream? {.operation starting .microphone} = 0 := Multiset.filterMap_cons_none _ _ rfl
    rw [Multiset.filterMap_add, empty, add_zero]
    exact apart
  · refine forall_claims_add.mpr ⟨fun claim listed => ?_, trivial⟩
    have describes := described.1 claim listed
    cases kind : claim.hold with
    | nothing | microphone => trivial
    | opened | filed | known =>
      rw [kind] at describes
      exact describes
  · intro canvas shown is
    obtain ⟨other, kept, listed, untouched⟩ := devices.canvases canvas shown is
    have unclaimed := forall_claims_add.mp untouched.unclaimed
    exact ⟨other, kept, listed, fun same => unclaimed.2 same, untouched.camera,
      forall_claims_add.mpr ⟨unclaimed.1, fun own => by cases own⟩⟩
  · intro other on
    have own : CallsClient.Claimed { client with stream := some stream } (claims + {.operation starting .microphone}) track := by
      refine claimed_add.mpr (.inr ⟨stream, rfl, Media.mem_getTracksOf.mpr ⟨?_, described.2.2⟩⟩)
      rw [described.2.1]
      exact List.mem_singleton_self _
    rcases devices.held other on with stoppable | claimed
    · exact .inl stoppable
    · rcases claimed_add.mp claimed with ⟨claim, listed, covers⟩ | rfl
      · cases kind : claim.hold with
        | nothing | filed | known =>
          rw [kind] at covers
          exact absurd covers id
        | opened =>
          rw [kind] at covers
          exact .inr (claimed_add.mpr (.inl ⟨claim, listed, by rw [kind]; exact covers⟩))
        | microphone =>
          rw [kind] at covers
          exact (left other on covers).imp_right fun same => by rw [same]; exact own
      · exact .inr own

/-- The stream of an operation becomes the one with the camera. -/
theorem setLocalVideoStream (devices : client.Devices (claims + {.operation starting hold})) (own : hold.stream? = some stream)
    (left : ∀ track, client.media.holdsDevice track = true → client.Covers track hold → client.Stoppable track) :
    CallsClient.Devices { client with localVideoStream := some stream } (claims + {.operation starting .nothing}) := by
  have new := forall_claims_add.mp devices.new
  obtain ⟨apart, others⟩ := devices.sole own
  refine (claims_nothing rfl).mpr ⟨devices.stream, ?_, ?_, apart, (forall_claims_add.mp devices.described).1, ?_, ?_⟩
  · rintro current ⟨⟩
    exact (new.2 stream own).1
  · intro claim listed other own
    obtain ⟨inside, microphone, -⟩ := new.1 claim listed other own
    exact ⟨inside, microphone, fun same => others claim listed (own.trans same.symm)⟩
  · intro canvas shown is
    obtain ⟨other, kept, listed, untouched⟩ := devices.canvases canvas shown is
    have unclaimed := forall_claims_add.mp untouched.unclaimed
    exact ⟨other, kept, listed, untouched.microphone, fun same => unclaimed.2 (own.trans same), unclaimed.1⟩
  · intro track on
    rcases devices.held track on with stoppable | claimed
    · exact .inl stoppable
    · rcases claimed_add.mp claimed with others | covers
      · exact .inr others
      · exact .inl (left track on covers)

theorem clearLocalVideoStream (devices : client.Devices claims) : { client with localVideoStream := none }.Devices claims where
  stream := devices.stream
  localVideoStream _ current := by cases current
  new claim listed stream own := by
    obtain ⟨inside, microphone, -⟩ := devices.new claim listed stream own
    exact ⟨inside, microphone, fun current => by cases current⟩
  apart := devices.apart
  described := devices.described
  canvases canvas track shown := by
    obtain ⟨stream, kept, listed, untouched⟩ := devices.canvases canvas track shown
    exact ⟨stream, kept, listed, untouched.microphone, fun current => (by cases current), untouched.unclaimed⟩
  held := devices.held

end Devices

/-- One track of the stream may take the place of another. -/
structure Swappable (client : CallsClient) (claims : Claims) (stream : Nat) : Prop where
  opened : ∀ claim ∈ claims, ∀ kind track, claim.hold ≠ .opened kind stream track
  canvases : ∀ canvas track, client.media.onended? canvas = some (.canvas track) →
    ∃ other ∈ client.streams, other ≠ stream ∧ canvas ∈ client.media.getTracks other ∧ client.Untouched claims other

namespace Devices

variable {stream track : Nat}

theorem swappable_stream (devices : client.Devices claims) (current : client.stream = some stream) :
    client.Swappable claims stream where
  opened claim listed kind track is :=
    (devices.new claim listed stream (congrArg Hold.stream? is)).2.1 current
  canvases canvas track shown := by
    obtain ⟨other, kept, listed, untouched⟩ := devices.canvases canvas track shown
    exact ⟨other, kept, fun same => untouched.microphone (same ▸ current), listed, untouched⟩

theorem swappable_localVideoStream (devices : client.Devices claims) (current : client.localVideoStream = some stream) :
    client.Swappable claims stream where
  opened claim listed kind track is :=
    (devices.new claim listed stream (congrArg Hold.stream? is)).2.2 current
  canvases canvas track shown := by
    obtain ⟨other, kept, listed, untouched⟩ := devices.canvases canvas track shown
    exact ⟨other, kept, fun same => untouched.camera (same ▸ current), listed, untouched⟩

theorem swappable_filed {stopped : Option Nat} (devices : client.Devices (claims + {.operation starting (.filed stream stopped)})) :
    client.Swappable (claims + {.operation starting (.filed stream stopped)}) stream where
  opened := forall_claims_add.mpr ⟨fun claim listed kind track is => (devices.sole rfl).2 claim listed (congrArg Hold.stream? is),
    fun kind track is => by cases is⟩
  canvases canvas track shown := by
    obtain ⟨other, kept, listed, untouched⟩ := devices.canvases canvas track shown
    exact ⟨other, kept, fun same => (forall_claims_add.mp untouched.unclaimed).2 (congrArg some same.symm), listed, untouched⟩

/-- The track that is taken out is off, or there is a canvas in front of it. -/
theorem swap (devices : client.Devices claims) (swappable : client.Swappable claims stream) {old new : Nat}
    (covered : client.media.holdsDevice old = true → ∃ canvas, client.media.onended? canvas = some (.canvas old)) :
    CallsClient.Devices { client with media := client.media.swapTrack stream old new } claims := by
  have length : (client.media.swapTrack stream old new).streams.length = client.media.streams.length := by
    simp [Media.swapTrack, Media.addTrack, Media.removeTrack]
  have stoppable (track : Nat) (on : client.media.holdsDevice track = true) (stoppable : client.Stoppable track) :
      CallsClient.Stoppable { client with media := client.media.swapTrack stream old new } track := by
    rcases stoppable with ⟨other, kept, listed⟩ | shown
    · by_cases same : track = old
      · subst same
        obtain ⟨canvas, shown⟩ := covered on
        exact .inr ⟨canvas, shown⟩
      · exact .inl ⟨other, kept, Media.mem_getTracks_swapTrack listed same⟩
    · exact .inr shown
  constructor
  · rw [length]
    exact devices.stream
  · rw [length]
    exact devices.localVideoStream
  · rw [length]
    exact devices.new
  · exact devices.apart
  · intro claim listed
    have describes := devices.described claim listed
    have unopened := swappable.opened claim listed
    cases kind : claim.hold with
    | nothing | microphone => trivial
    | filed | known =>
      rw [kind] at describes
      exact describes
    | opened sort other track =>
      rw [kind] at describes unopened
      have different : other ≠ stream := fun same => unopened sort track (by rw [same])
      exact ⟨(Media.getTracks_swapTrack_of_ne different).trans describes.1, describes.2⟩
  · intro canvas track shown
    obtain ⟨other, kept, different, listed, untouched⟩ := swappable.canvases canvas track shown
    refine ⟨other, kept, ?_, untouched.microphone, untouched.camera, untouched.unclaimed⟩
    rw [Media.getTracks_swapTrack_of_ne different]
    exact listed
  · intro track on
    rcases devices.held track on with left | ⟨claim, listed, covers⟩
    · exact .inl (stoppable track on left)
    · cases kind : claim.hold with
      | nothing | filed | known =>
        rw [kind] at covers
        exact absurd covers id
      | opened =>
        rw [kind] at covers
        exact .inr ⟨claim, listed, by rw [kind]; exact covers⟩
      | microphone =>
        rw [kind] at covers
        obtain ⟨current, is, audio⟩ := covers
        by_cases same : track = old
        · subst same
          obtain ⟨canvas, shown⟩ := covered on
          exact .inl (.inr ⟨canvas, shown⟩)
        · obtain ⟨inside, heard⟩ := Media.mem_getTracksOf.mp audio
          refine .inr ⟨claim, listed, ?_⟩
          rw [kind]
          exact ⟨current, is, Media.mem_getTracksOf.mpr ⟨Media.mem_getTracks_swapTrack inside same, heard⟩⟩

/-- A stream that comes next is nobody's. -/
theorem untouched_next (devices : client.Devices claims) : client.Untouched claims client.media.streams.length where
  microphone current := Nat.lt_irrefl _ (devices.stream _ current)
  camera current := Nat.lt_irrefl _ (devices.localVideoStream _ current)
  unclaimed claim held own := Nat.lt_irrefl _ (devices.new claim held _ own).1

end Devices

/-- A canvas that shows the camera, in a stream of its own. -/
def showOnCanvas (client : CallsClient) (camera : Nat) : CallsClient :=
  { client.openTrack { kind := .video, captures := false, onended := some (.canvas camera) } with
    streams := client.streams ++ [client.media.streams.length] }

section
variable {stream camera canvas track : Nat}

theorem showOnCanvas_extends (client : CallsClient) (camera : Nat) : Extends client (client.showOnCanvas camera) :=
  (Extends.openTrack client _).trans (.of_eq rfl (List.subset_append_left _ _))

theorem showOnCanvas_shows (client : CallsClient) (camera : Nat) :
    (client.showOnCanvas camera).media.onended? client.media.tracks.length = some (.canvas camera) :=
  Media.onended?_newTrack.trans (if_pos rfl)

theorem shown_of_showOnCanvas (shown : (client.showOnCanvas camera).media.onended? canvas = some (.canvas track)) :
    canvas = client.media.tracks.length ∨ client.media.onended? canvas = some (.canvas track) := by
  replace shown := Media.onended?_newTrack.symm.trans shown
  split at shown
  · next last => exact .inl last
  · exact .inr shown

theorem holds_of_showOnCanvas (on : (client.showOnCanvas camera).media.holdsDevice track = true) :
    client.media.holdsDevice track = true := by
  replace on := Media.holdsDevice_newTrack.symm.trans on
  split at on
  · simp at on
  · exact on

theorem showOnCanvas_listed (client : CallsClient) (camera : Nat) :
    client.media.tracks.length ∈ (client.showOnCanvas camera).media.getTracks client.media.streams.length := by
  have own : (client.showOnCanvas camera).media.getTracks client.media.streams.length = [client.media.tracks.length] :=
    Media.getTracks_newStream.trans (if_pos rfl)
  rw [own]
  exact List.mem_singleton_self _

theorem Devices.showOnCanvas (devices : client.Devices claims) (camera : Nat) : (client.showOnCanvas camera).Devices claims := by
  have ext := showOnCanvas_extends client camera
  constructor
  · exact fun stream current => Nat.lt_of_lt_of_le (devices.stream stream current) ext.length
  · exact fun stream current => Nat.lt_of_lt_of_le (devices.localVideoStream stream current) ext.length
  · intro claim held stream own
    obtain ⟨inside, others⟩ := devices.new claim held stream own
    exact ⟨Nat.lt_of_lt_of_le inside ext.length, others⟩
  · exact devices.apart
  · exact fun claim held => ext.describes (fun stream own => (devices.new claim held stream own).1) (devices.described claim held)
  · intro canvas track shown
    rcases shown_of_showOnCanvas shown with rfl | old
    · have next := devices.untouched_next
      exact ⟨_, List.mem_append_right _ (List.mem_singleton_self _), showOnCanvas_listed client camera,
        next.microphone, next.camera, next.unclaimed⟩
    · obtain ⟨stream, kept, inside, untouched⟩ := devices.canvases canvas track old
      exact ⟨stream, List.mem_append_left _ kept, ext.listed inside, untouched.microphone, untouched.camera, untouched.unclaimed⟩
  · intro track on
    rcases devices.held track (holds_of_showOnCanvas on) with left | ⟨claim, held, covers⟩
    · exact .inl (ext.stoppable left)
    · exact .inr ⟨claim, held, ext.covers rfl covers⟩

theorem Swappable.showOnCanvas (swappable : client.Swappable claims stream) (devices : client.Devices claims)
    (inside : stream < client.media.streams.length) (camera : Nat) : (client.showOnCanvas camera).Swappable claims stream where
  opened := swappable.opened
  canvases canvas track shown := by
    rcases shown_of_showOnCanvas shown with rfl | old
    · have next := devices.untouched_next
      exact ⟨_, List.mem_append_right _ (List.mem_singleton_self _), Nat.ne_of_gt inside, showOnCanvas_listed client camera,
        next.microphone, next.camera, next.unclaimed⟩
    · obtain ⟨other, kept, different, listed, untouched⟩ := swappable.canvases canvas track old
      exact ⟨other, List.mem_append_left _ kept, different, (showOnCanvas_extends client camera).listed listed,
        untouched.microphone, untouched.camera, untouched.unclaimed⟩

end

/-! ### Both -/

namespace DevicesKept

variable {claim : Claim}

theorem grows (kept : client.DevicesKept claims) (unchanged : after.flags = client.flags) (grows : Grows client after)
    (released : after.closed = true → after.initializing = 0 → ∀ track, after.media.holdsDevice track = true →
      client.media.holdsDevice track = true) : after.DevicesKept claims where
  phases := kept.phases.congr unchanged
  devices := kept.devices.grows grows
  released closed through track := by
    simp only [flags, Prod.mk.injEq] at unchanged
    obtain ⟨-, -, same, -, count, -⟩ := unchanged
    by_contra on
    rw [Bool.not_eq_false] at on
    have off := kept.released (same.symm.trans closed) (count.symm.trans through) track
    rw [released closed through track on] at off
    cases off

theorem alike (kept : client.DevicesKept claims) (same : after.flags = client.flags ∧ after.media = client.media ∧
    after.streams = client.streams ∧ after.stream = client.stream ∧ after.localVideoStream = client.localVideoStream) :
    after.DevicesKept claims :=
  kept.grows same.1 (.of_eq same.2) fun _ _ _ on => by
    rw [← same.2.1]
    exact on

theorem stopTrack (kept : client.DevicesKept claims) (track : Nat) : (client.stopTrack track).DevicesKept claims :=
  kept.grows rfl (.stopTrack client track) fun _ _ _ on => (Media.holdsDevice_stop.mp on).2

theorem setEnabled (kept : client.DevicesKept claims) (enabled : Bool) (track : Nat) :
    (client.setEnabled enabled track).DevicesKept claims :=
  kept.grows rfl (.setEnabled client enabled track) fun _ _ _ on => Media.holdsDevice_setEnabled.symm.trans on

theorem push (kept : client.DevicesKept claims) (stream : Nat) :
    DevicesKept { client with streams := client.streams ++ [stream] } claims :=
  kept.grows rfl (.push client stream) fun _ _ _ on => on

theorem clearLocalVideoStream (kept : client.DevicesKept claims) :
    DevicesKept { client with localVideoStream := none } claims :=
  ⟨kept.phases.congr rfl, kept.devices.clearLocalVideoStream, kept.released⟩

theorem acquire (kept : client.DevicesKept claims) (peer : client.peer = true) :
    client.DevicesKept (claims + {.operation false .nothing}) :=
  ⟨kept.phases.acquire peer, (Devices.claims_nothing rfl).mpr kept.devices, kept.released⟩

theorem drop (kept : client.DevicesKept (claims + {.operation false .nothing})) : client.DevicesKept claims :=
  ⟨kept.phases.drop, (Devices.claims_nothing rfl).mp kept.devices, kept.released⟩

theorem rehold (kept : client.DevicesKept (claims + {.operation starting hold})) (describes : client.Describes other)
    (same : other.stream? = none ∨ other.stream? = hold.stream?)
    (lost : ∀ track, client.media.holdsDevice track = true → client.Covers track hold →
      client.Stoppable track ∨ client.Covers track other) : client.DevicesKept (claims + {.operation starting other}) :=
  ⟨kept.phases.rehold, kept.devices.rehold describes same lost, kept.released⟩

/-- An operation remembers a track. -/
theorem know (kept : client.DevicesKept claims) (peer : client.peer = true) {track : Nat} (known : client.media.kindOf? track ≠ none) :
    client.DevicesKept (claims + {.operation false (.known track)}) := by
  have describes : client.Describes (.known track) := known
  exact (kept.acquire peer).rehold describes (.inl rfl) fun _ _ covers => absurd covers id

/-- The operation is through. It answers for nothing that is on. -/
theorem finish (kept : client.DevicesKept (claims + {.operation false hold})) (lost : ∀ track, ¬client.Covers track hold) :
    client.DevicesKept claims := by
  have describes : client.Describes .nothing := trivial
  exact (kept.rehold describes (.inl rfl) fun track _ covers => absurd covers (lost track)).drop

/-- While the operation is in flight, the client is not through. -/
theorem of_operation (phases : client.Phases (claims + {.operation starting hold}))
    (devices : client.Devices (claims + {.operation starting hold})) : client.DevicesKept (claims + {.operation starting hold}) :=
  ⟨phases, devices, fun closed through => absurd through (phases.active closed)⟩

theorem swap (kept : client.DevicesKept claims) {stream : Nat} (swappable : client.Swappable claims stream) {old new : Nat}
    (covered : client.media.holdsDevice old = true → ∃ canvas, client.media.onended? canvas = some (.canvas old)) :
    DevicesKept { client with media := client.media.swapTrack stream old new } claims :=
  ⟨kept.phases.congr rfl, kept.devices.swap swappable covered, kept.released⟩

theorem showOnCanvas (kept : client.DevicesKept claims) (camera : Nat) : (client.showOnCanvas camera).DevicesKept claims where
  phases := kept.phases.congr rfl
  devices := kept.devices.showOnCanvas camera
  released closed through track := by
    by_contra on
    have off := kept.released closed through track
    rw [holds_of_showOnCanvas (Bool.not_eq_false _ ▸ on)] at off
    cases off

end DevicesKept

end CallsClient

end Calls.Webapp
