import Mathlib.Data.Set.Basic

/-! Media tracks and the streams that group them. A track is live until it is stopped or its source
ends; several streams may share it. -/

set_option autoImplicit false

inductive TrackKind where
  | audio
  | video
  deriving DecidableEq

/-- A track with the handler of its end. One that captures keeps a device of the user open while it is live. -/
structure MediaTrack (η : Type) where
  kind : TrackKind
  captures : Bool
  deviceId : String := ""
  live : Bool := true
  enabled : Bool := true
  onended : Option η := none
  deriving DecidableEq

/-- All tracks and streams, each under its place in the list. -/
structure Media (η : Type) where
  tracks : List (MediaTrack η) := []
  streams : List (List Nat) := []
  deriving DecidableEq

namespace Media

variable {η : Type} (media : Media η)

def getTracks (stream : Nat) : List Nat := media.streams[stream]?.getD []

def getTracksOf (kind : TrackKind) (stream : Nat) : List Nat :=
  (media.getTracks stream).filter fun track => (media.tracks[track]?.map MediaTrack.kind) = some kind

/-- Whether the track keeps a device open. -/
def holdsDevice (track : Nat) : Bool := media.tracks[track]?.any fun row => row.captures ∧ row.live

def onended? (track : Nat) : Option η := media.tracks[track]?.bind MediaTrack.onended

def isEnabled (track : Nat) : Bool := media.tracks[track]?.any MediaTrack.enabled

def newTrack (track : MediaTrack η) : Media η := { media with tracks := media.tracks ++ [track] }

def newStream (tracks : List Nat) : Media η := { media with streams := media.streams ++ [tracks] }

def stop (track : Nat) : Media η :=
  { media with tracks := media.tracks.modify track fun row => { row with live := false } }

def setEnabled (enabled : Bool) (track : Nat) : Media η :=
  { media with tracks := media.tracks.modify track fun row => { row with enabled } }

def setOnended (handler : η) (track : Nat) : Media η :=
  { media with tracks := media.tracks.modify track fun row => { row with onended := some handler } }

def removeTrack (stream track : Nat) : Media η :=
  { media with streams := media.streams.modify stream fun tracks => tracks.filter (· ≠ track) }

def addTrack (stream track : Nat) : Media η :=
  { media with streams := media.streams.modify stream fun tracks => if track ∈ tracks then tracks else tracks ++ [track] }

end Media

namespace Media

variable {η : Type} {media : Media η} {stream other track given : Nat}

def kindOf? (media : Media η) (track : Nat) : Option TrackKind := media.tracks[track]?.map MediaTrack.kind

theorem mem_getTracksOf {kind : TrackKind} :
    track ∈ media.getTracksOf kind stream ↔ track ∈ media.getTracks stream ∧ media.kindOf? track = some kind := by
  rw [getTracksOf, List.mem_filter, decide_eq_true_iff]
  exact Iff.rfl

theorem stream_lt (listed : track ∈ media.getTracks stream) : stream < media.streams.length := by
  by_contra outside
  rw [getTracks, List.getElem?_eq_none (Nat.not_lt.mp outside)] at listed
  cases listed

theorem kindOf?_of_le (outside : media.tracks.length ≤ track) : media.kindOf? track = none := by
  rw [kindOf?, List.getElem?_eq_none outside]
  rfl

theorem onended?_of_le (outside : media.tracks.length ≤ track) : media.onended? track = none := by
  rw [onended?, List.getElem?_eq_none outside]
  rfl

/-! ### Stopping and enabling -/

section
variable {change : MediaTrack η → MediaTrack η}

theorem modify_holdsDevice (same : ∀ row, (change row).captures = row.captures ∧ (change row).live = row.live) :
    { media with tracks := media.tracks.modify given change }.holdsDevice track = media.holdsDevice track := by
  simp only [holdsDevice, List.getElem?_modify]
  cases media.tracks[track]? with
  | none => rfl
  | some row =>
    by_cases here : given = track
    · simp [here, (same row).1, (same row).2]
    · simp [here]

theorem modify_onended? (same : ∀ row, (change row).onended = row.onended) :
    { media with tracks := media.tracks.modify given change }.onended? track = media.onended? track := by
  simp only [onended?, List.getElem?_modify]
  cases media.tracks[track]? with
  | none => rfl
  | some row =>
    by_cases here : given = track
    · simp [here, same row]
    · simp [here]

theorem modify_kindOf? (same : ∀ row, (change row).kind = row.kind) :
    { media with tracks := media.tracks.modify given change }.kindOf? track = media.kindOf? track := by
  simp only [kindOf?, List.getElem?_modify]
  cases media.tracks[track]? with
  | none => rfl
  | some row =>
    by_cases here : given = track
    · simp [here, same row]
    · simp [here]

end

theorem holdsDevice_stop : (media.stop given).holdsDevice track = true ↔ track ≠ given ∧ media.holdsDevice track = true := by
  simp only [holdsDevice, stop, List.getElem?_modify]
  cases media.tracks[track]? with
  | none => simp
  | some row =>
    by_cases here : given = track
    · simp [here]
    · simp [here, Ne.symm here]

@[simp] theorem onended?_stop : (media.stop given).onended? track = media.onended? track := modify_onended? fun _ => rfl

@[simp] theorem kindOf?_stop : (media.stop given).kindOf? track = media.kindOf? track := modify_kindOf? fun _ => rfl

@[simp] theorem getTracks_stop : (media.stop given).getTracks stream = media.getTracks stream := rfl

@[simp] theorem holdsDevice_setEnabled {enabled : Bool} :
    (media.setEnabled enabled given).holdsDevice track = media.holdsDevice track := modify_holdsDevice fun _ => ⟨rfl, rfl⟩

@[simp] theorem onended?_setEnabled {enabled : Bool} :
    (media.setEnabled enabled given).onended? track = media.onended? track := modify_onended? fun _ => rfl

@[simp] theorem kindOf?_setEnabled {enabled : Bool} :
    (media.setEnabled enabled given).kindOf? track = media.kindOf? track := modify_kindOf? fun _ => rfl

@[simp] theorem getTracks_setEnabled {enabled : Bool} :
    (media.setEnabled enabled given).getTracks stream = media.getTracks stream := rfl

@[simp] theorem holdsDevice_setOnended {handler : η} :
    (media.setOnended handler given).holdsDevice track = media.holdsDevice track := modify_holdsDevice fun _ => ⟨rfl, rfl⟩

@[simp] theorem kindOf?_setOnended {handler : η} :
    (media.setOnended handler given).kindOf? track = media.kindOf? track := modify_kindOf? fun _ => rfl

@[simp] theorem getTracks_setOnended {handler : η} :
    (media.setOnended handler given).getTracks stream = media.getTracks stream := rfl

theorem onended?_setOnended_of_ne {handler : η} (different : track ≠ given) :
    (media.setOnended handler given).onended? track = media.onended? track := by
  simp [onended?, setOnended, Ne.symm different]

theorem onended?_setOnended {handler : η} {found : η} (handled : (media.setOnended handler given).onended? track = some found) :
    (track = given ∧ found = handler) ∨ media.onended? track = some found := by
  simp only [onended?, setOnended, List.getElem?_modify] at handled ⊢
  cases row : media.tracks[track]? with
  | none => simp [row] at handled
  | some row' =>
    by_cases here : given = track
    · simp [row, here] at handled
      exact .inl ⟨here.symm, handled.symm⟩
    · simp [row, here] at handled
      exact .inr handled

/-! ### New tracks and streams -/

theorem getElem?_concat {α : Type} {rows : List α} {row : α} {place : Nat} :
    (rows ++ [row])[place]? = if place = rows.length then some row else rows[place]? := by
  rw [List.getElem?_append]
  split
  · next inside => rw [if_neg (Nat.ne_of_lt inside)]
  · next outside =>
    split
    · next last => simp [last]
    · next further =>
      rw [List.getElem?_eq_none (Nat.not_lt.mp outside), List.getElem?_eq_none]
      simp only [List.length_cons, List.length_nil]
      omega

theorem holdsDevice_newTrack {row : MediaTrack η} : (media.newTrack row).holdsDevice track =
    if track = media.tracks.length then decide (row.captures ∧ row.live) else media.holdsDevice track := by
  simp only [holdsDevice, newTrack, getElem?_concat]
  split <;> rfl

theorem onended?_newTrack {row : MediaTrack η} : (media.newTrack row).onended? track =
    if track = media.tracks.length then row.onended else media.onended? track := by
  simp only [onended?, newTrack, getElem?_concat]
  split <;> rfl

theorem kindOf?_newTrack {row : MediaTrack η} : (media.newTrack row).kindOf? track =
    if track = media.tracks.length then some row.kind else media.kindOf? track := by
  simp only [kindOf?, newTrack, getElem?_concat]
  split <;> rfl

theorem onended?_of_newTrack {row : MediaTrack η} (plain : row.onended = none) {handler : η}
    (handled : (media.newTrack row).onended? track = some handler) : media.onended? track = some handler := by
  rw [onended?_newTrack] at handled
  split at handled
  · cases plain.symm.trans handled
  · exact handled

theorem holdsDevice_of_newTrack {row : MediaTrack η} (on : (media.newTrack row).holdsDevice track = true) :
    media.holdsDevice track = true ∨ track = media.tracks.length := by
  rw [holdsDevice_newTrack] at on
  split at on
  · next last => exact .inr last
  · exact .inl on

@[simp] theorem getTracks_newTrack {row : MediaTrack η} : (media.newTrack row).getTracks stream = media.getTracks stream := rfl

@[simp] theorem holdsDevice_newStream {tracks : List Nat} : (media.newStream tracks).holdsDevice track = media.holdsDevice track := rfl

@[simp] theorem onended?_newStream {tracks : List Nat} : (media.newStream tracks).onended? track = media.onended? track := rfl

@[simp] theorem kindOf?_newStream {tracks : List Nat} : (media.newStream tracks).kindOf? track = media.kindOf? track := rfl

theorem getTracks_newStream {tracks : List Nat} : (media.newStream tracks).getTracks stream =
    if stream = media.streams.length then tracks else media.getTracks stream := by
  simp only [getTracks, newStream, getElem?_concat]
  split <;> rfl

/-! ### One track in the place of another -/

/-- `stream.removeTrack(old)` and `stream.addTrack(new)`. -/
def swapTrack (media : Media η) (stream old new : Nat) : Media η := (media.removeTrack stream old).addTrack stream new

@[simp] theorem holdsDevice_swapTrack {old new : Nat} :
    (media.swapTrack given old new).holdsDevice track = media.holdsDevice track := rfl

@[simp] theorem onended?_swapTrack {old new : Nat} :
    (media.swapTrack given old new).onended? track = media.onended? track := rfl

@[simp] theorem kindOf?_swapTrack {old new : Nat} : (media.swapTrack given old new).kindOf? track = media.kindOf? track := rfl

theorem getTracks_swapTrack_of_ne {old new : Nat} (different : stream ≠ given) :
    (media.swapTrack given old new).getTracks stream = media.getTracks stream := by
  simp [swapTrack, getTracks, addTrack, removeTrack, Ne.symm different]

theorem getTracks_swapTrack_self {old new : Nat} (inside : given < media.streams.length) :
    (media.swapTrack given old new).getTracks given =
      if new ∈ (media.getTracks given).filter (· ≠ old) then (media.getTracks given).filter (· ≠ old)
      else (media.getTracks given).filter (· ≠ old) ++ [new] := by
  simp [swapTrack, getTracks, addTrack, removeTrack, inside]

theorem mem_getTracks_swapTrack {old new : Nat} (listed : track ∈ media.getTracks stream) (different : track ≠ old) :
    track ∈ (media.swapTrack given old new).getTracks stream := by
  by_cases here : stream = given
  · subst here
    have kept : track ∈ (media.getTracks stream).filter (· ≠ old) := List.mem_filter.mpr ⟨listed, decide_eq_true different⟩
    rw [getTracks_swapTrack_self (stream_lt listed)]
    split
    · exact kept
    · exact List.mem_append_left _ kept
  · rw [getTracks_swapTrack_of_ne here]
    exact listed

theorem of_mem_getTracks_swapTrack {old new : Nat} (listed : track ∈ (media.swapTrack given old new).getTracks stream) :
    (stream = given ∧ track = new) ∨ track ∈ media.getTracks stream := by
  by_cases here : stream = given
  · subst here
    have inside : stream < media.streams.length := by simpa [swapTrack, addTrack, removeTrack] using stream_lt listed
    rw [getTracks_swapTrack_self inside] at listed
    split at listed
    · exact .inr (List.mem_filter.mp listed).1
    · rcases List.mem_append.mp listed with kept | added
      · exact .inr (List.mem_filter.mp kept).1
      · exact .inl ⟨rfl, List.mem_singleton.mp added⟩
  · rw [getTracks_swapTrack_of_ne here] at listed
    exact .inr listed

/-! ### What is heard -/

/-- No track of a microphone or of a screen's sound that there is becomes enabled. -/
structure NoLouder (before after : Media η) : Prop where
  kinds : ∀ track kind, before.kindOf? track = some kind → after.kindOf? track = some kind
  enabled : ∀ track, before.kindOf? track = some .audio → after.isEnabled track = true → before.isEnabled track = true

namespace NoLouder

theorem refl (media : Media η) : media.NoLouder media := ⟨fun _ _ => id, fun _ _ => id⟩

theorem trans {first second third : Media η} (left : first.NoLouder second) (right : second.NoLouder third) : first.NoLouder third where
  kinds track kind is := right.kinds track kind (left.kinds track kind is)
  enabled track audio on := left.enabled track audio (right.enabled track (left.kinds track .audio audio) on)

theorem modify {change : MediaTrack η → MediaTrack η} (kinds : ∀ row, (change row).kind = row.kind)
    (enabled : ∀ row, media.tracks[given]? = some row → row.kind = .audio → (change row).enabled = true → row.enabled = true) :
    media.NoLouder { media with tracks := media.tracks.modify given change } where
  kinds track kind is := (modify_kindOf? kinds).trans is
  enabled track audio on := by
    obtain ⟨row, found, is⟩ := Option.map_eq_some_iff.mp audio
    simp only [isEnabled, List.getElem?_modify, found, Option.any_some] at on ⊢
    by_cases here : given = track
    · subst here
      exact enabled row found is (by simpa using on)
    · simpa [here] using on

theorem stop (media : Media η) (track : Nat) : media.NoLouder (media.stop track) := modify (fun _ => rfl) fun _ _ _ => id

theorem setOnended (media : Media η) (handler : η) (track : Nat) : media.NoLouder (media.setOnended handler track) :=
  modify (fun _ => rfl) fun _ _ _ => id

theorem mute (media : Media η) (track : Nat) : media.NoLouder (media.setEnabled false track) :=
  modify (fun _ => rfl) fun _ _ _ on => by cases on

theorem setEnabled_video (enabled : Bool) (video : media.kindOf? track = some .video) :
    media.NoLouder (media.setEnabled enabled track) := by
  refine modify (fun _ => rfl) fun row found audio _ => ?_
  rw [kindOf?, found, Option.map_some, audio] at video
  cases video

theorem newTrack (media : Media η) (row : MediaTrack η) : media.NoLouder (media.newTrack row) := by
  have inside {track : Nat} {kind : TrackKind} (is : media.kindOf? track = some kind) : track ≠ media.tracks.length := by
    rintro rfl
    rw [kindOf?_of_le (Nat.le_refl _)] at is
    cases is
  constructor
  · intro track kind is
    rw [kindOf?_newTrack, if_neg (inside is)]
    exact is
  · intro track audio on
    rw [isEnabled, Media.newTrack, getElem?_concat, if_neg (inside audio)] at on
    exact on

theorem newStream (media : Media η) (tracks : List Nat) : media.NoLouder (media.newStream tracks) := ⟨fun _ _ => id, fun _ _ => id⟩

theorem swapTrack (media : Media η) (stream old new : Nat) : media.NoLouder (media.swapTrack stream old new) :=
  ⟨fun _ _ => id, fun _ _ => id⟩

end NoLouder

theorem isEnabled_setEnabled_false : (media.setEnabled false track).isEnabled track = false := by
  simp only [isEnabled, setEnabled, List.getElem?_modify]
  cases media.tracks[track]? <;> simp

theorem isEnabled_of_setEnabled {enabled : Bool} (on : (media.setEnabled enabled given).isEnabled given = true) : enabled = true := by
  cases enabled with
  | true => rfl
  | false => cases isEnabled_setEnabled_false.symm.trans on

end Media
