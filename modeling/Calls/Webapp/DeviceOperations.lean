import Calls.Webapp.DeviceClaims

/-! How the client opens its devices. Each of its functions keeps account of them, whatever the others
do while it awaits an answer. -/

set_option autoImplicit false

namespace Calls.Webapp

/-- The answer to the request is part of opening a device. -/
def ClientRequest.acquires : ClientRequest → Bool
  | .videoCodec => false
  | .devices during => decide (during ≠ .nothing)
  | .userMedia _ _ _ => true
  | .displayMedia => true
  | .peer _ => false

namespace CallsClient

/-- An answer that can come: a screen is shared only where none is. A microphone comes only where `cleanup`
stops the one it takes the place of. And a client that is closed is not refused a device. -/
def Expects (client : CallsClient) : ClientRequest → ClientAnswer → Prop
  | .displayMedia, .granted _ _ => client.localScreenTrack = none
  | .userMedia .initAudio _ _, .granted _ _ =>
    ∀ track, client.media.holdsDevice track = true → client.Covers track .microphone → client.Stoppable track
  | .userMedia _ _ _, .rejected => client.closed = false
  | _, _ => True

end CallsClient

/-- Devices are accounted for by the operations in flight. -/
def deviceRules : Accounting CallsClient ClientRequest ClientAnswer Claims where
  inv := CallsClient.DevicesKept
  may request claims := ∀ claim ∈ claims, claim ≠ .entering → request.acquires = true
  ready request answer client := request.fits answer = true ∧ client.Expects request answer

namespace CallsClient

variable {client : CallsClient} {others held : Claims} {throws : Prop}

/-- The fields that no device depends on. -/
def Alike (before after : CallsClient) : Prop :=
  after.flags = before.flags ∧ after.media = before.media ∧ after.streams = before.streams ∧
    after.stream = before.stream ∧ after.localVideoStream = before.localVideoStream

/-! ### What leaves the devices as they are -/

section
variable {α : Type}

theorem keeps_alike {change : CallsClient → CallsClient} (same : ∀ client, Alike client (change client)) :
    (Async.modify change : ClientAsync Unit).Keeps deviceRules held throws :=
  .modify fun client _ kept => DevicesKept.alike kept (same client)

theorem may_nothing (request : ClientRequest) : deviceRules.may request 0 :=
  fun _ listed => absurd listed (Multiset.notMem_zero _)

theorem keeps_emit (event : ClientEvent) : (Async.modify (emit event) : ClientAsync Unit).Keeps deviceRules held throws :=
  keeps_alike fun _ => ⟨rfl, rfl, rfl, rfl, rfl⟩

theorem keeps_send (message : ClientSent) : (Async.modify (send message) : ClientAsync Unit).Keeps deviceRules held throws :=
  keeps_alike fun _ => ⟨rfl, rfl, rfl, rfl, rfl⟩

theorem keeps_setEnabled (enabled : Bool) (track : Nat) :
    (Async.modify (setEnabled enabled track) : ClientAsync Unit).Keeps deviceRules held throws :=
  .modify fun _ _ kept => DevicesKept.setEnabled kept enabled track

theorem keeps_stopTrack (track : Nat) : (Async.modify (stopTrack track) : ClientAsync Unit).Keeps deviceRules held throws :=
  .modify fun _ _ kept => DevicesKept.stopTrack kept track

theorem askPeer_keeps (call : PeerCall) : (askPeer call).Keeps deviceRules held True := by
  apply Async.Keeps.get.bind
  intro client
  split
  · exact keeps_alike fun _ => ⟨rfl, rfl, rfl, rfl, rfl⟩
  · exact .throw trivial

theorem awaitPeer_keeps (call : PeerCall) : (awaitPeer call).Keeps deviceRules 0 True := by
  apply (askPeer_keeps call).bind
  intro _
  apply (Async.Keeps.await (may_nothing _)).bind
  intro answer
  split
  · exact .pure
  · exact .throw trivial

theorem sendOnSocket_keeps (message : ClientSent) : (sendOnSocket message).Keeps deviceRules held True := by
  apply Async.Keeps.get.bind
  intro client
  split
  · exact keeps_send message
  · exact .throw trivial

theorem firstTrack_keeps (kind : TrackKind) (stream : Nat) : (firstTrack kind stream).Keeps deviceRules held True := by
  apply Async.Keeps.get.bind
  intro client
  split
  · exact .throw trivial
  · exact .pure

theorem removeScreen_keeps (screenTrack : Nat) (screenAudioTrack : Option Nat) :
    (removeScreen screenTrack screenAudioTrack).Keeps deviceRules 0 True := by
  apply Async.Keeps.bind
  · apply Async.Keeps.tryCatch
    · apply (awaitPeer_keeps _).bind
      intro _
      split
      · exact awaitPeer_keeps _
      · exact .pure
    · exact fun _ => .pure
  · exact fun _ => sendOnSocket_keeps _

/-! ### Tracks that end -/

theorem dispatchEnded_keeps (track : Nat) : (dispatchEnded track).Keeps deviceRules held throws := by
  apply Async.Keeps.get.bind
  intro client
  split
  · exact .pure
  · exact keeps_stopTrack _
  · next audio _ =>
    apply Async.Keeps.bind
    · apply Async.Keeps.modify
      intro client claims kept
      cases audio with
      | none => exact DevicesKept.alike kept ⟨rfl, rfl, rfl, rfl, rfl⟩
      | some audio => exact DevicesKept.alike (DevicesKept.stopTrack kept audio) ⟨rfl, rfl, rfl, rfl, rfl⟩
    · intro _
      apply Async.Keeps.get.bind
      intro client
      split
      · exact .fork fun _ _ kept => (removeScreen_keeps track audio).toProgram kept
      · exact .pure

theorem stopAndEnd_keeps (track : Nat) : (stopAndEnd track).Keeps deviceRules held throws :=
  (keeps_stopTrack track).bind fun _ => dispatchEnded_keeps track

/-- What follows the end of a track. -/
theorem stopAndEnd_before {α : Type} {track : Nat} {more : Claims} {after : Unit → ClientAsync α}
    {post : Except ClientError α → CallsClient → Claims → Prop} (kept : (client.stopTrack track).DevicesKept (others + held + more))
    (follows : ∀ client others, client.DevicesKept (others + held + more) → (after ()).Meets deviceRules post client others) :
    (stopAndEnd track >>= after).Meets deviceRules post client others := by
  apply Async.meets_bind
  apply Async.meets_modify_bind
  have ends : (dispatchEnded track).Keeps deviceRules (held + more) False := dispatchEnded_keeps track
  apply (ends.within kept).imp
  rintro result client others ⟨returned, kept⟩
  obtain ⟨_, rfl⟩ := returned.resolve_left id
  exact follows client others kept

theorem stopTracks_keeps (tracks : List Nat) : (stopTracks tracks).Keeps deviceRules held throws := by
  induction tracks with
  | nil => exact .pure
  | cons track tracks ih => exact (stopAndEnd_keeps track).bind fun _ => ih

theorem updateDevices_keeps {during : During} (may : deviceRules.may (.devices during) held) :
    (updateDevices during).Keeps deviceRules held throws := .call may

theorem videoDeviceToInit_keeps (deviceId : Option String) : (videoDeviceToInit deviceId).Keeps deviceRules held throws := by
  apply Async.Keeps.get.bind
  intro client
  split
  · exact .pure
  · exact .pure
  · split
    · exact .pure
    · split
      · refine .bind (keeps_alike ?_) fun _ => .pure
        exact fun _ => ⟨rfl, rfl, rfl, rfl, rfl⟩
      · refine .bind (keeps_alike ?_) fun _ => .pure
        exact fun _ => ⟨rfl, rfl, rfl, rfl, rfl⟩

end

/-! ### Devices that are opened -/

theorem openTrack_granted {claims : Claims} {starting : Bool} (kind : TrackKind) (deviceId : String)
    (kept : client.DevicesKept (claims + {.operation starting .nothing})) :
    (client.openTrack { kind, captures := true, deviceId }).DevicesKept
      (claims + {.operation starting (.opened kind client.media.streams.length client.media.tracks.length)}) := by
  let row : MediaTrack EndedHandler := { kind, captures := true, deviceId }
  have ext : Extends client (client.openTrack row) := .openTrack client row
  refine .of_operation (kept.phases.rehold.congr rfl) (kept.devices.opened ext ?_ rfl rfl ?_ ?_ ?_)
  · exact fun _ _ shown => Media.onended?_of_newTrack rfl shown
  · simp [openTrack, Media.newStream, Media.newTrack]
  · refine ⟨Media.getTracks_newStream.trans (if_pos rfl), Media.kindOf?_newTrack.trans ?_⟩
    rw [if_pos rfl]
  · exact fun _ on => Media.holdsDevice_of_newTrack on

/-- What was covered by the stream of the microphone before a device was opened. -/
theorem covers_of_openTrack {row : MediaTrack EndedHandler} {other : Nat} (devices : client.Devices held)
    (different : other ≠ client.media.tracks.length) (covers : (client.openTrack row).Covers other .microphone) :
    client.Covers other .microphone := by
  obtain ⟨stream, current, audio⟩ := covers
  obtain ⟨listed, heard⟩ := Media.mem_getTracksOf.mp audio
  have listed := (Media.getTracks_newStream.trans (if_neg (Nat.ne_of_lt (devices.stream stream current)))) ▸ listed
  have heard := (Media.kindOf?_newTrack.trans (if_neg different)) ▸ heard
  exact ⟨stream, current, Media.mem_getTracksOf.mpr ⟨listed, heard⟩⟩

theorem getUserMedia_meets {starting : Bool} {kind : TrackKind} {purpose : MediaPurpose} {deviceId : Option String}
    {during : During} (kept : client.DevicesKept (others + held + {.operation starting .nothing})) :
    (getUserMedia kind purpose deviceId during).Meets deviceRules (fun result client others =>
      match result with
      | .ok stream => ∃ track, client.DevicesKept (others + held + {.operation starting (.opened kind stream track)}) ∧
          (purpose = .initAudio → ∀ other, client.media.holdsDevice other = true →
            client.Covers other .microphone → client.Stoppable other ∨ other = track)
      | .error _ => client.closed = false ∧ client.DevicesKept (others + held + {.operation starting .nothing})) client others := by
  apply Async.meets_bind
  refine Async.meets_await (held + {.operation starting .nothing}) (fun _ _ _ => rfl) ?_ (add_assoc others _ _ ▸ kept)
  intro answer client others expected kept
  rw [← add_assoc] at kept
  obtain ⟨fits, expects⟩ := expected
  cases answer with
  | granted deviceId withAudio =>
    apply Async.meets_bind
    apply Async.meets_get
    apply Async.meets_bind
    apply Async.meets_modify
    apply Async.meets_pure
    refine ⟨client.media.tracks.length, openTrack_granted kind deviceId kept, ?_⟩
    rintro rfl other on covers
    by_cases last : other = client.media.tracks.length
    · exact .inr last
    · have already : client.media.holdsDevice other = true := (Media.holdsDevice_newTrack.trans (if_neg last)).symm.trans on
      have stoppable := expects other already (covers_of_openTrack kept.devices last covers)
      exact .inl ((Extends.openTrack client _).stoppable stoppable)
  | rejected => 
    apply Async.meets_throw
    cases purpose <;> exact ⟨expects, kept⟩
  | codec | devices | done => cases fits

/-- How an operation ends that opens devices. It does not fail once the client is closed. -/
def EndsWith {α : Type} (claims : Claims) (result : Except ClientError α) (client : CallsClient) : Prop :=
  (client.closed = false ∨ ∃ a, result = .ok a) ∧ client.DevicesKept claims

theorem firstTrack_meets {kind : TrackKind} {stream track : Nat} {rest : List Nat}
    {post : Except ClientError Nat → CallsClient → Claims → Prop} (first : client.media.getTracksOf kind stream = track :: rest)
    (met : post (.ok track) client others) : (firstTrack kind stream).Meets deviceRules post client others := by
  apply Async.meets_bind
  apply Async.meets_get
  simp only [first]
  exact Async.meets_pure met

theorem getTracksOf_single {kind : TrackKind} {stream track : Nat} (single : client.media.getTracks stream = [track])
    (sort : client.media.kindOf? track = some kind) : client.media.getTracksOf kind stream = [track] := by
  have same : (client.media.tracks[track]?.map MediaTrack.kind) = some kind := sort
  rw [Media.getTracksOf, single, List.filter_singleton, decide_eq_true same]
  rfl

/-- A stream that is new and has one track. -/
theorem DevicesKept.described {claims : Claims} {starting : Bool} {hold : Hold}
    (kept : client.DevicesKept (claims + {.operation starting hold})) : client.Describes hold :=
  (forall_claims_add.mp kept.devices.described).2

theorem may_userMedia (purpose : MediaPurpose) (deviceId : Option String) (during : During) (claims : Claims) :
    deviceRules.may (.userMedia purpose deviceId during) claims := fun _ _ _ => rfl

theorem may_devices {during : During} (acquires : during ≠ .nothing) (claims : Claims) : deviceRules.may (.devices during) claims :=
  fun _ _ _ => decide_eq_true acquires

/-- `initAudio` and `initVideo` tell a missing device from a missing permission. -/
theorem catch_meets {body : ClientAsync Unit} {claims : Claims} {missing : CallsClient → Prop} [DecidablePred missing]
    {err other : ClientError}
    (meets : body.Meets deviceRules (fun result client others => EndsWith (others + claims) result client) client others) :
    (body.tryCatch fun _ => do
      let client ← Async.get
      if missing client then Async.throw err else Async.throw other).Meets deviceRules
        (fun result client others => EndsWith (others + claims) result client) client others := by
  apply Async.meets_tryCatch
  apply meets.imp
  intro result client others ended
  cases result with
  | ok => exact ended
  | error failed =>
    have opened : client.closed = false := ended.1.resolve_right fun ⟨_, same⟩ => by cases same
    apply Async.meets_get_bind
    split
    · exact Async.meets_throw ⟨.inl opened, ended.2⟩
    · exact Async.meets_throw ⟨.inl opened, ended.2⟩

/-- The operation of a client that is not closed may fail. -/
theorem endsWith_acquiring {α : Type} {claims : Claims} {result : Except ClientError α} {hold : Hold}
    (kept : client.DevicesKept (claims + {.operation false hold})) : EndsWith (claims + {.operation false hold}) result client :=
  ⟨.inl kept.phases.open_of_operation, kept⟩

theorem DevicesKept.setLocalVideoStream {claims : Claims} {starting : Bool} {hold : Hold} {stream : Nat}
    (kept : client.DevicesKept (claims + {.operation starting hold})) (own : hold.stream? = some stream)
    (left : ∀ track, client.media.holdsDevice track = true → client.Covers track hold → client.Stoppable track) :
    DevicesKept { client with localVideoStream := some stream } (claims + {.operation starting .nothing}) :=
  .of_operation (kept.phases.rehold.congr rfl) (kept.devices.setLocalVideoStream own left)

/-- A new camera becomes the one of the client. -/
theorem setLocalVideoStream_kept {claims : Claims} {starting : Bool} {kind : TrackKind} {stream track : Nat}
    (kept : client.DevicesKept (claims + {.operation starting (.opened kind stream track)})) :
    DevicesKept { client with localVideoStream := some stream, streams := client.streams ++ [stream] }
      (claims + {.operation starting .nothing}) := by
  apply (kept.push stream).setLocalVideoStream rfl
  rintro other - rfl
  refine .inl ⟨stream, List.mem_append_right _ (List.mem_singleton_self _), ?_⟩
  have listed : track ∈ client.media.getTracks stream := kept.described.1 ▸ List.mem_singleton_self _
  exact listed

/-- A new track is stopped again. -/
theorem stopTrack_kept {claims : Claims} {starting : Bool} {kind : TrackKind} {stream track : Nat}
    (kept : client.DevicesKept (claims + {.operation starting (.opened kind stream track)})) :
    (client.stopTrack track).DevicesKept (claims + {.operation starting .nothing}) := by
  have describes : (client.stopTrack track).Describes .nothing := trivial
  apply (kept.stopTrack track).rehold describes (.inl rfl)
  rintro other on rfl
  exact absurd rfl (Media.holdsDevice_stop.mp on).1

theorem initVideo_meets {starting startVideo : Bool} {deviceId : Option String} (start : starting = true → startVideo = false)
    (kept : client.DevicesKept (others + held + {.operation starting .nothing})) :
    (initVideo startVideo deviceId).Meets deviceRules (fun result client others =>
      EndsWith (others + (held + {.operation starting .nothing})) result client) client others := by
  apply (videoDeviceToInit_keeps deviceId).before kept
  intro deviceId client others kept
  apply catch_meets
  simp only [← add_assoc]
  apply Async.meets_bind
  apply (getUserMedia_meets kept).imp
  intro result client others granted
  cases result with
  | error err => exact ⟨.inl granted.1, granted.2⟩
  | ok stream =>
    obtain ⟨track, kept, -⟩ := granted
    apply (updateDevices_keeps (may_devices (by decide) _)).before kept
    intro _ client others kept
    cases startVideo with
    | true =>
      obtain rfl : starting = false := Bool.eq_false_iff.mpr fun is => by cases start is
      simp only [if_true]
      apply Async.meets_modify_bind
      have rest : (do
          let track ← firstTrack .video stream
          Async.modify (setEnabled false track)
          Async.modify (emit .initvideo) : ClientAsync Unit).Keeps deviceRules (held + {.operation false .nothing}) True :=
        (firstTrack_keeps .video stream).bind fun track => (keeps_setEnabled false track).bind fun _ => keeps_emit .initvideo
      apply (rest.within (setLocalVideoStream_kept kept)).imp
      exact fun _ _ _ ended => endsWith_acquiring ended.2
    | false =>
      simp only [Bool.false_eq_true, if_false]
      apply Async.meets_bind
      apply firstTrack_meets (getTracksOf_single kept.described.1 kept.described.2)
      apply stopAndEnd_before (stopTrack_kept kept)
      intro client others kept
      apply ((keeps_emit .initvideo).within kept).imp
      exact fun _ _ _ ended => ⟨.inr (ended.1.resolve_left id), ended.2⟩

/-- A new microphone becomes the one of the client. -/
theorem setStream_kept {claims : Claims} {starting : Bool} {stream track : Nat}
    (kept : client.DevicesKept (claims + {.operation starting (.opened .audio stream track)}))
    (left : ∀ other, client.media.holdsDevice other = true → client.Covers other .microphone →
      client.Stoppable other ∨ other = track) :
    DevicesKept { client with stream := some stream } (claims + {.operation starting .microphone}) :=
  .of_operation (kept.phases.rehold.congr rfl) (kept.devices.setStream rfl rfl left)

/-- Nothing of the microphone is on that `cleanup` does not stop. -/
theorem DevicesKept.letGo {claims : Claims} {starting : Bool}
    (kept : client.DevicesKept (claims + {.operation starting .microphone}))
    (left : ∀ other, client.media.holdsDevice other = true → client.Covers other .microphone → client.Stoppable other) :
    client.DevicesKept (claims + {.operation starting .nothing}) := by
  have describes : client.Describes .nothing := trivial
  exact kept.rehold describes (.inl rfl) fun other on covers => .inl (left other on covers)

/-- There is a microphone in the stream. -/
def HasMicrophone (client : CallsClient) : Prop :=
  ∃ stream track rest, client.stream = some stream ∧ client.media.getTracksOf .audio stream = track :: rest

theorem keepAudio_meets {starting : Bool} (has : starting = true → client.HasMicrophone)
    (kept : client.DevicesKept (others + held + {.operation starting .microphone})) :
    keepAudio.Meets deviceRules (fun result client others =>
      EndsWith (others + (held + {.operation starting .nothing})) result client) client others := by
  simp only [← add_assoc]
  have acquiring : ¬client.HasMicrophone → starting = false := fun none => Bool.eq_false_iff.mpr fun is => none (has is)
  apply Async.meets_get_bind
  cases current : client.stream with
  | none =>
    obtain rfl := acquiring fun ⟨_, _, _, found, _⟩ => by cases current.symm.trans found
    apply Async.meets_throw
    apply endsWith_acquiring
    apply kept.letGo
    rintro other - ⟨stream, found, -⟩
    cases current.symm.trans found
  | some stream =>
    cases tracks : client.media.getTracksOf .audio stream with
    | nil =>
      have nothing : ∀ other, ¬client.Covers other .microphone := by
        rintro other ⟨found, is, listed⟩
        obtain rfl := Option.some.inj (current.symm.trans is)
        rw [tracks] at listed
        cases listed
      obtain rfl := acquiring fun ⟨_, track, rest, found, first⟩ => by
        obtain rfl := Option.some.inj (current.symm.trans found)
        cases tracks.symm.trans first
      apply Async.meets_bind
      apply Async.meets_get_bind
      simp only [tracks]
      apply Async.meets_throw
      exact endsWith_acquiring (kept.letGo fun other _ covers => absurd covers (nothing other))
    | cons track rest =>
      apply Async.meets_bind
      apply firstTrack_meets tracks
      have pushed : DevicesKept { client with audioTrack := some track, streams := client.streams ++ [stream] }
          (others + held + {.operation starting .nothing}) := by
        apply DevicesKept.letGo
        · exact (kept.push stream).alike ⟨rfl, rfl, rfl, rfl, rfl⟩
        · rintro other - ⟨found, is, listed⟩
          obtain rfl := Option.some.inj (current.symm.trans is)
          exact .inl ⟨stream, List.mem_append_right _ (List.mem_singleton_self _), (Media.mem_getTracksOf.mp listed).1⟩
      apply Async.meets_modify_bind
      have rest : (do
          Async.modify (setEnabled false track)
          Async.modify (emit .initaudio) : ClientAsync Unit).Keeps deviceRules (held + {.operation starting .nothing}) False :=
        (keeps_setEnabled false track).bind fun _ => keeps_emit .initaudio
      apply (rest.within pushed).imp
      exact fun _ _ _ ended => ⟨.inr (ended.1.resolve_left id), ended.2⟩

theorem initSelectedAudio_meets {starting : Bool} {during : During}
    (kept : client.DevicesKept (others + held + {.operation starting .nothing})) :
    (initSelectedAudio during).Meets deviceRules (fun result client others =>
      match result with
      | .ok _ => client.HasMicrophone ∧ client.DevicesKept (others + held + {.operation starting .microphone})
      | .error _ => client.closed = false ∧ client.DevicesKept (others + held + {.operation starting .nothing})) client others := by
  apply Async.meets_get_bind
  apply Async.meets_modify_bind
  apply Async.meets_bind
  refine (getUserMedia_meets (kept.alike ?_)).imp ?_
  · exact ⟨rfl, rfl, rfl, rfl, rfl⟩
  intro result client others granted
  cases result with
  | error err => exact granted
  | ok stream =>
    obtain ⟨track, kept, left⟩ := granted
    apply Async.meets_modify
    exact ⟨⟨stream, track, [], rfl, getTracksOf_single kept.described.1 kept.described.2⟩, setStream_kept kept (left rfl)⟩

theorem initAudio_meets {starting : Bool} {deviceId : Option String} {during : During} (start : starting = true → deviceId = none)
    (kept : client.DevicesKept (others + held + {.operation starting .nothing})) :
    (initAudio deviceId during).Meets deviceRules (fun result client others =>
      EndsWith (others + (held + {.operation starting .nothing})) result client) client others := by
  have acquires : during.orAudio ≠ .nothing := by cases during <;> decide
  apply catch_meets
  apply Async.meets_bind
  apply (getUserMedia_meets kept).imp
  intro result client others granted
  cases result with
  | error err => exact ⟨.inl granted.1, (add_assoc others held _) ▸ granted.2⟩
  | ok stream =>
    obtain ⟨track, kept, left⟩ := granted
    have described := kept.described
    apply Async.meets_modify_bind
    have current := setStream_kept kept (left rfl)
    cases deviceId with
    | none =>
      have single := getTracksOf_single described.1 described.2
      have stopped : (stopTrack track { client with stream := some stream }).DevicesKept (others + held + {.operation starting .nothing}) := by
        apply (current.stopTrack track).letGo
        rintro other on ⟨found, is, listed⟩
        obtain rfl := Option.some.inj is
        have same : other ∈ client.media.getTracksOf .audio stream :=
          Media.mem_getTracksOf.mpr ((Media.mem_getTracksOf.mp listed).imp_right Media.kindOf?_stop.symm.trans)
        rw [single] at same
        exact absurd (List.mem_singleton.mp same) (Media.holdsDevice_stop.mp on).1
      simp only [if_true]
      apply Async.meets_get_bind
      apply Async.meets_bind
      rw [single]
      apply stopAndEnd_before stopped
      intro client others kept
      apply Async.meets_pure
      apply (updateDevices_keeps (may_devices acquires _)).before kept
      intro _ client others kept
      apply Async.meets_bind
      apply (initSelectedAudio_meets kept).imp
      intro result client others granted
      cases result with
      | error err => exact ⟨.inl granted.1, (add_assoc others held _) ▸ granted.2⟩
      | ok => exact keepAudio_meets (fun _ => granted.1) granted.2
    | some deviceId =>
      obtain rfl : starting = false := Bool.eq_false_iff.mpr fun is => by cases start is
      simp only [reduceCtorEq, if_false]
      apply (updateDevices_keeps (may_devices acquires _)).before current
      intro _ client others kept
      exact keepAudio_meets (fun is => by cases is) kept

/-! ### Another microphone -/

/-- A new stream is left to `cleanup`. -/
theorem push_kept {claims : Claims} {starting : Bool} {kind : TrackKind} {stream track : Nat}
    (kept : client.DevicesKept (claims + {.operation starting (.opened kind stream track)})) :
    DevicesKept { client with streams := client.streams ++ [stream] } (claims + {.operation starting .nothing}) := by
  have describes : CallsClient.Describes { client with streams := client.streams ++ [stream] } .nothing := trivial
  apply (kept.push stream).rehold describes (.inl rfl)
  rintro other - rfl
  refine .inl (.inl ⟨stream, List.mem_append_right _ (List.mem_singleton_self _), ?_⟩)
  rw [kept.described.1]
  exact List.mem_singleton_self _

theorem replaceAudioTrack_meets {oldTrack newStream newTrack : Nat} {isEnabled : Bool}
    (kept : client.DevicesKept (others + held + {.operation false (.opened .audio newStream newTrack)})) :
    (replaceAudioTrack oldTrack isEnabled newStream).Meets deviceRules (fun _ client others =>
      client.DevicesKept (others + held)) client others := by
  apply Async.meets_modify_bind
  apply Async.meets_bind
  apply (firstTrack_keeps .audio newStream _ _ (push_kept kept).drop).imp
  rintro result client others ⟨-, kept⟩
  cases result with
  | error err => exact kept
  | ok newTrack =>
    apply Async.meets_modify_bind
    apply Async.meets_get_bind
    have stopped := DevicesKept.stopTrack kept oldTrack
    split
    · exact Async.meets_throw stopped
    · next stream current =>
      apply Async.meets_modify_bind
      have swapped : DevicesKept { client.stopTrack oldTrack with
          media := (client.stopTrack oldTrack).media.swapTrack stream oldTrack newTrack } (others + held) :=
        stopped.swap (stopped.devices.swappable_stream current) fun on => absurd rfl (Media.holdsDevice_stop.mp on).1
      have rest : (do
          if isEnabled then askPeer (.replaceTrack (some oldTrack) (some newTrack))
          else Async.modify fun client => { client with voiceTrackAdded := false }
          Async.modify fun client => { client with audioTrack := some newTrack } : ClientAsync Unit).Keeps deviceRules held True := by
        have last : (Async.modify fun client => { client with audioTrack := some newTrack } : ClientAsync Unit).Keeps
            deviceRules held True := keeps_alike fun _ => ⟨rfl, rfl, rfl, rfl, rfl⟩
        cases isEnabled with
        | true => exact (askPeer_keeps _).bind fun _ => last
        | false =>
          apply Async.Keeps.bind
          · exact keeps_alike fun _ => ⟨rfl, rfl, rfl, rfl, rfl⟩
          · exact fun _ => last
      refine (rest _ _ ?_).imp ?_
      · exact swapped.setEnabled isEnabled newTrack
      · exact fun _ _ _ ended => ended.2

theorem setAudioInputDevice_keeps (device : MediaDevice) (store : Bool) (during : During) :
    (setAudioInputDevice device store during).Keeps deviceRules held True := by
  intro client others kept
  apply Async.meets_get_bind
  split
  · exact Async.meets_pure ⟨.inl trivial, kept⟩
  · next connected =>
    apply Async.meets_modify_bind
    apply Async.meets_modify_bind
    have acquired : DevicesKept (emit .devicechange { client with
        defaultAudioInput := if store then some device.stored else client.defaultAudioInput
        currentAudioInputDevice := some device }) (others + held + {.operation false .nothing}) :=
      DevicesKept.alike (DevicesKept.acquire kept (Bool.not_eq_false _ ▸ connected)) ⟨rfl, rfl, rfl, rfl, rfl⟩
    split
    · apply Async.meets_bind
      apply (getUserMedia_meets acquired).imp
      intro result client others granted
      cases result with
      | error err => exact ⟨.inl trivial, granted.2.drop⟩
      | ok newStream =>
        obtain ⟨newTrack, granted, -⟩ := granted
        apply (replaceAudioTrack_meets granted).imp
        exact fun _ _ _ kept => ⟨.inl trivial, kept⟩
    · apply (initAudio_meets (fun is => by cases is) acquired).imp
      rintro result client others ⟨-, ended⟩
      rw [← add_assoc] at ended
      exact ⟨.inl trivial, ended.drop⟩

theorem setAudioOutputDevice_keeps (device : MediaDevice) (store : Bool) :
    (setAudioOutputDevice device store).Keeps deviceRules held throws := by
  apply Async.Keeps.get.bind
  intro client
  split
  · exact .pure
  · exact keeps_alike fun _ => ⟨rfl, rfl, rfl, rfl, rfl⟩

theorem setAudioDevice_keeps (kind : DeviceKind) (device : MediaDevice) (during : During) :
    (setAudioDevice kind device during).Keeps deviceRules held True := by
  unfold setAudioDevice
  split
  · exact setAudioInputDevice_keeps device false during
  · exact setAudioOutputDevice_keeps device false

theorem handleAudioDeviceFallback_keeps (kind : DeviceKind) (during : During) :
    (handleAudioDeviceFallback kind during).Keeps deviceRules held True := by
  have switches (device : MediaDevice) : (do
      setAudioDevice kind device during
      Async.modify (emit (.devicefallback device)) : ClientAsync Unit).Keeps deviceRules held True :=
    (setAudioDevice_keeps kind device during).bind fun _ => keeps_emit _
  apply Async.Keeps.get.bind
  intro client
  dsimp only
  generalize (if kind = .audioinput then client.audioInputs else client.audioOutputs) = devices
  generalize (if kind = .audioinput then client.currentAudioInputDevice else client.currentAudioOutputDevice) = current
  generalize storedDevice? _ devices = stored
  split
  · exact switches _
  · cases stored with
    | none => exact .pure
    | some selected =>
      dsimp only
      split
      · exact .pure
      · exact switches selected

theorem devicesEnumerated_keeps (during : During) (answer : ClientAnswer) :
    (devicesEnumerated during answer).Keeps deviceRules held throws := by
  have falls (kind : DeviceKind) (current : CallsClient → Option MediaDevice) (next : ClientAsync Unit)
      (keeps : next.Keeps deviceRules held True) : (do
        let client ← Async.get
        if (current client).isSome then handleAudioDeviceFallback kind during else pure ()
        next : ClientAsync Unit).Keeps deviceRules held True := by
    apply Async.Keeps.get.bind
    intro client
    split
    · exact (handleAudioDeviceFallback_keeps kind during).bind fun _ => keeps
    · exact keeps
  apply Async.Keeps.tryCatch
  · split
    · apply Async.Keeps.bind
      · exact keeps_alike fun _ => ⟨rfl, rfl, rfl, rfl, rfl⟩
      · intro _
        apply falls .audioinput currentAudioInputDevice
        apply falls .audiooutput currentAudioOutputDevice
        exact keeps_emit _
    · exact .throw trivial
  · exact fun _ => .pure

theorem updateDevicesFrom_givesBack : AsyncProcedure.GivesBack deviceRules updateDevicesFrom := by
  intro request answer next held may goesOn client others expected kept
  cases request with
  | devices during =>
    have keeps : (devicesEnumerated during answer).Keeps deviceRules held True := devicesEnumerated_keeps during answer
    apply keeps client others kept
    exact fun _ client others ended => goesOn (.devices []) client others ⟨rfl, trivial⟩ ended.2
  | videoCodec | userMedia | displayMedia | peer => exact goesOn answer client others expected kept

/-! ### Another camera -/

theorem initBgBackgroundTrack_meets {claims : Claims} {stream : Nat}
    {post : Except ClientError Nat → CallsClient → Claims → Prop} (kept : client.DevicesKept claims)
    (swappable : client.Swappable claims stream) (failed : post (.error .native) client others)
    (met : ∀ track after, after.DevicesKept claims → post (.ok track) after others) :
    (initBgBackgroundTrack stream).Meets deviceRules post client others := by
  apply Async.meets_bind
  apply Async.meets_get_bind
  split
  · exact Async.meets_throw failed
  · next camera rest tracks =>
    have listed : camera ∈ client.media.getTracksOf .video stream := by simp [tracks]
    have inside := Media.stream_lt (Media.mem_getTracksOf.mp listed).1
    apply Async.meets_pure
    apply Async.meets_get_bind
    split
    · exact Async.meets_pure (met _ _ kept)
    · apply Async.meets_modify_bind
      apply Async.meets_modify_bind
      apply Async.meets_pure
      apply met
      have shown := kept.showOnCanvas camera
      have swapped : DevicesKept { client.showOnCanvas camera with
          media := (client.showOnCanvas camera).media.swapTrack stream camera client.media.tracks.length } claims :=
        shown.swap (swappable.showOnCanvas kept.devices inside camera) fun _ => ⟨_, showOnCanvas_shows client camera⟩
      exact swapped.alike ⟨rfl, rfl, rfl, rfl, rfl⟩

theorem blurred_meets {claims : Claims} {stream track : Nat}
    {post : Except ClientError Nat → CallsClient → Claims → Prop} (kept : client.DevicesKept claims)
    (swappable : client.Swappable claims stream) (failed : post (.error .native) client others)
    (met : ∀ track after, after.DevicesKept claims → post (.ok track) after others) :
    (blurred stream track).Meets deviceRules post client others := by
  apply Async.meets_get_bind
  split
  · exact initBgBackgroundTrack_meets kept swappable failed met
  · exact Async.meets_pure (met _ _ kept)

theorem replaceVideoTrack_meets {videoTrack newStream newTrack : Nat} {isEnabled oldSegmenter : Bool}
    (kept : client.DevicesKept (others + (held + {.operation false (.known videoTrack)}) +
      {.operation false (.opened .video newStream newTrack)})) :
    (replaceVideoTrack videoTrack isEnabled oldSegmenter newStream).Meets deviceRules (fun _ client others =>
      client.DevicesKept (others + held)) client others := by
  have ends {client : CallsClient} {others : Claims} {hold : Hold} (nothing : ∀ track, ¬client.Covers track hold)
      (kept : client.DevicesKept (others + (held + {.operation false (.known videoTrack)}) + {.operation false hold})) :
      client.DevicesKept (others + held) := by
    have through := kept.finish nothing
    rw [← add_assoc] at through
    exact through.finish fun _ => id
  apply Async.meets_modify_bind
  have filed : DevicesKept { client with streams := client.streams ++ [newStream] }
      (others + (held + {.operation false (.known videoTrack)}) + {.operation false (.filed newStream none)}) := by
    have member : newStream ∈ client.streams ++ [newStream] := List.mem_append_right _ (List.mem_singleton_self _)
    have describes : CallsClient.Describes { client with streams := client.streams ++ [newStream] } (.filed newStream none) :=
      ⟨member, fun _ is => by cases is⟩
    apply (kept.push newStream).rehold describes (.inr rfl)
    rintro other - rfl
    refine .inl (.inl ⟨newStream, member, ?_⟩)
    rw [kept.described.1]
    exact List.mem_singleton_self _
  apply Async.meets_bind
  apply ((firstTrack_keeps .video newStream).within filed).imp
  rintro result client others ⟨-, kept⟩
  cases result with
  | error err => exact ends (fun _ => id) kept
  | ok newTrack =>
    apply Async.meets_bind
    apply blurred_meets kept (DevicesKept.devices kept).swappable_filed (ends (fun _ => id) kept)
    intro newTrack client kept
    have known : client.media.kindOf? videoTrack ≠ none := by
      have described := (forall_claims_add.mp kept.devices.described).1
      rw [← add_assoc] at described
      exact (forall_claims_add.mp described).2
    have stopped : (client.stopTrack videoTrack).DevicesKept
        (others + (held + {.operation false (.known videoTrack)}) + {.operation false (.filed newStream (some videoTrack))}) := by
      have describes : (client.stopTrack videoTrack).Describes (.filed newStream (some videoTrack)) := by
        refine ⟨kept.described.1, fun track is => ?_⟩
        obtain rfl := Option.some.inj is
        refine ⟨Media.kindOf?_stop.symm ▸ known, Bool.eq_false_iff.mpr fun on => ?_⟩
        exact absurd rfl (Media.holdsDevice_stop.mp on).1
      exact (kept.stopTrack videoTrack).rehold describes (.inr rfl) fun _ _ covers => absurd covers id
    apply stopAndEnd_before stopped
    intro client others kept
    apply Async.meets_modify_bind
    apply Async.meets_get_bind
    split
    · exact Async.meets_throw (ends (fun _ => id) (kept.alike ⟨rfl, rfl, rfl, rfl, rfl⟩))
    · next stream current =>
      have off := (kept.described.2 videoTrack rfl).2
      have swapped : DevicesKept { client with media := client.media.swapTrack stream videoTrack newTrack }
          (others + (held + {.operation false (.known videoTrack)}) + {.operation false (.filed newStream (some videoTrack))}) :=
        kept.swap (kept.devices.swappable_localVideoStream current) fun on => absurd (off.symm.trans on) Bool.false_ne_true
      have shown : DevicesKept { client with
          media := (client.media.swapTrack stream videoTrack newTrack).setEnabled isEnabled newTrack
          localVideoStream := some newStream } (others + held) :=
        ends (fun _ => id) ((swapped.setEnabled isEnabled newTrack).setLocalVideoStream rfl fun _ _ covers => absurd covers id)
      have rest : (do
          if isEnabled then do
            askPeer (.replaceTrack (some videoTrack) (some newTrack))
            Async.modify fun client => { client with videoSenderTrackID := some newTrack }.emit (.localVideoStream newStream)
          else Async.modify fun client => { client with videoTrackAdded := false } : ClientAsync Unit).Keeps deviceRules held True := by
        cases isEnabled with
        | true =>
          apply (askPeer_keeps _).bind
          intro _
          exact keeps_alike fun _ => ⟨rfl, rfl, rfl, rfl, rfl⟩
        | false => exact keeps_alike fun _ => ⟨rfl, rfl, rfl, rfl, rfl⟩
      apply Async.meets_modify_bind
      refine (rest _ _ ?_).imp fun _ _ _ ended => ended.2
      exact shown.alike ⟨rfl, rfl, rfl, rfl, rfl⟩

theorem setVideoInputDevice_keeps (device : MediaDevice) : (setVideoInputDevice device).Keeps deviceRules held True := by
  intro client others kept
  apply Async.meets_get_bind
  split
  · exact Async.meets_pure ⟨.inl trivial, kept⟩
  · next connected =>
    apply Async.meets_modify_bind
    have peer : client.peer = true := Bool.not_eq_false _ ▸ connected
    have alike : DevicesKept (emit .devicechange { client with
        defaultVideoInput := some device.stored
        currentVideoInputDevice := some device }) (others + held) := DevicesKept.alike kept ⟨rfl, rfl, rfl, rfl, rfl⟩
    split
    · apply (initVideo_meets (fun _ => rfl) (alike.acquire peer)).imp
      rintro result client others ⟨-, ended⟩
      rw [← add_assoc] at ended
      exact ⟨.inl trivial, ended.drop⟩
    · next stream _ =>
      apply Async.meets_bind
      apply Async.meets_get_bind
      split
      · exact Async.meets_throw ⟨.inl trivial, alike⟩
      · next videoTrack rest tracks =>
        have first : client.media.getTracksOf .video stream = videoTrack :: rest := tracks
        have listed : videoTrack ∈ client.media.getTracksOf .video stream := by simp [first]
        have known : client.media.kindOf? videoTrack ≠ none := by simp [(Media.mem_getTracksOf.mp listed).2]
        have acquired : DevicesKept (emit .devicechange { client with
            defaultVideoInput := some device.stored
            currentVideoInputDevice := some device })
            (others + (held + {.operation false (.known videoTrack)}) + {.operation false .nothing}) := by
          rw [← add_assoc]
          exact (alike.know peer known).acquire peer
        apply Async.meets_pure
        apply Async.meets_bind
        apply (getUserMedia_meets acquired).imp
        intro result client others granted
        cases result with
        | error err =>
          have through := granted.2.drop
          rw [← add_assoc] at through
          exact ⟨.inl trivial, through.finish fun _ => id⟩
        | ok newStream =>
          obtain ⟨newTrack, granted, -⟩ := granted
          apply (replaceVideoTrack_meets granted).imp
          exact fun _ _ _ kept => ⟨.inl trivial, kept⟩

/-! ### Sound -/

theorem mute_keeps : mute.Keeps deviceRules held True := by
  apply Async.Keeps.get.bind
  intro client
  split
  · next audioTrack _ _ _ _ =>
    apply (askPeer_keeps _).bind
    intro _
    apply (keeps_setEnabled false audioTrack).bind
    intro _
    apply (keeps_emit .mute).bind
    intro _
    split
    · exact keeps_send .mute
    · exact .pure
  · exact .pure

theorem enableAudioTrack_keeps : enableAudioTrack.Keeps deviceRules 0 True := by
  apply Async.Keeps.get.bind
  intro client
  split
  · exact .throw trivial
  · exact keeps_setEnabled true _

theorem enableVoice_keeps : enableVoice.Keeps deviceRules 0 True := by
  apply Async.Keeps.get.bind
  intro client
  split
  · exact .pure
  · split
    · exact (askPeer_keeps _).bind fun _ => enableAudioTrack_keeps
    · split
      · apply (awaitPeer_keeps _).bind
        intro _
        apply Async.Keeps.bind
        · exact keeps_alike fun _ => ⟨rfl, rfl, rfl, rfl, rfl⟩
        · exact fun _ => enableAudioTrack_keeps
      · exact enableAudioTrack_keeps

theorem announceUnmuted_keeps : announceUnmuted.Keeps deviceRules held throws := by
  apply (keeps_emit .unmute).bind
  intro _
  apply Async.Keeps.get.bind
  intro client
  split
  · exact keeps_send .unmute
  · exact .pure

/-- An acquisition of a device whose failure is announced. -/
theorem attempt_meets {computation : ClientAsync Unit} (kept : client.DevicesKept (others + 0)) (peer : client.peer = true)
    (meets : ∀ client others, client.DevicesKept (others + 0 + {.operation false .nothing}) →
      computation.Meets deviceRules (fun result client others => EndsWith (others + (0 + {.operation false .nothing})) result client)
        client others) :
    (Async.tryCatch (do
      computation
      pure true) fun err => do
        Async.modify (emit (.error err))
        pure false : ClientAsync Bool).Meets deviceRules (fun result client others =>
          (∃ started, result = .ok started) ∧ client.DevicesKept (others + 0)) client others := by
  apply Async.meets_tryCatch
  apply Async.meets_bind
  apply (meets client others (kept.acquire peer)).imp
  rintro result client others ⟨-, ended⟩
  rw [← add_assoc] at ended
  cases result with
  | ok => exact Async.meets_pure ⟨⟨true, rfl⟩, ended.drop⟩
  | error err =>
    apply Async.meets_modify_bind
    exact Async.meets_pure ⟨⟨false, rfl⟩, ended.drop.alike ⟨rfl, rfl, rfl, rfl, rfl⟩⟩

theorem unmute_keeps : unmute.Keeps deviceRules 0 True := by
  intro client others kept
  have voice : (do
      enableVoice
      announceUnmuted : ClientAsync Unit).Keeps deviceRules 0 True := enableVoice_keeps.bind fun _ => announceUnmuted_keeps
  apply Async.meets_get_bind
  split
  · exact Async.meets_pure ⟨.inl trivial, kept⟩
  · next connected =>
    split
    · exact voice client others kept
    · apply Async.meets_bind
      apply (attempt_meets kept (Bool.not_eq_false _ ▸ connected) fun _ _ => initAudio_meets fun is => by cases is).imp
      rintro _ client others ⟨⟨started, rfl⟩, kept⟩
      dsimp only
      split
      · exact voice client others kept
      · exact Async.meets_pure ⟨.inl trivial, kept⟩

/-! ### Screen and camera -/

theorem setScreenStream_meets {screenTrack : Nat} {audio : Option Nat}
    (ready : client.ws = true ∧ client.peer = true ∧ client.localScreenTrack = none)
    (kept : DevicesKept { client with
      localScreenTrack := some screenTrack
      media := (client.media.newStream (screenTrack :: audio.toList)).setOnended (.screen audio) screenTrack
      streams := client.streams ++ [client.media.streams.length] } (others + 0)) :
    (setScreenStream screenTrack audio).Meets deviceRules (fun _ client others => client.DevicesKept (others + 0)) client others := by
  have rest (stream : Nat) : (do
      Async.modify (emit (.localScreenStream stream))
      Async.modify (send (.screenOn stream))
      awaitPeer (.addStream stream)
      let client ← Async.get
      if client.config.enableAV1 ∧ client.av1Codec then awaitPeer (.addTrack screenTrack) else pure () : ClientAsync Unit).Keeps
        deviceRules 0 True := by
    apply (keeps_emit _).bind
    intro _
    apply (keeps_send _).bind
    intro _
    apply (awaitPeer_keeps _).bind
    intro _
    apply Async.Keeps.get.bind
    intro client
    split
    · exact awaitPeer_keeps _
    · exact .pure
  obtain ⟨ws, peer, free⟩ := ready
  apply Async.meets_get_bind
  rw [if_neg (by simp [ws, peer, free])]
  apply Async.meets_modify_bind
  apply (rest _ _ _ kept).imp
  exact fun _ _ _ ended => ended.2

/-- What `getDisplayMedia` has opened is shared. -/
theorem setScreenStream_of_opened {mid : CallsClient} {audio : Option Nat}
    (ready : client.ws = true ∧ client.peer = true ∧ client.localScreenTrack = none) (kept : client.DevicesKept (others + 0))
    (ext : Extends client mid)
    (canvases : ∀ canvas track, mid.media.onended? canvas = some (.canvas track) → client.media.onended? canvas = some (.canvas track))
    (same : mid.flags = client.flags ∧ mid.stream = client.stream ∧ mid.localVideoStream = client.localVideoStream)
    (free : mid.localScreenTrack = client.localScreenTrack) (plain : mid.media.onended? client.media.tracks.length = none)
    (opened : ∀ track, mid.media.holdsDevice track = true → client.media.holdsDevice track = true ∨
      track ∈ client.media.tracks.length :: audio.toList) :
    (setScreenStream client.media.tracks.length audio).Meets deviceRules (fun result client others =>
      (True ∨ ∃ a, result = .ok a) ∧ client.DevicesKept (others + 0)) mid others := by
  have unchanged := same.1
  simp only [flags, Prod.mk.injEq] at unchanged
  obtain ⟨ws, peer, closed, -⟩ := unchanged
  apply (setScreenStream_meets ⟨ws.trans ready.1, peer.trans ready.2.1, free.trans ready.2.2⟩ ?_).imp
  · exact fun _ _ _ kept => ⟨.inl trivial, kept⟩
  · refine kept.grows ?_ (.shareScreen ext canvases same.2 plain opened) ?_
    · exact same.1
    intro is
    rw [closed.trans (kept.phases.connected ready.2.1).2] at is
    cases is

theorem shareScreen_keeps : shareScreen.Keeps deviceRules 0 True := by
  intro client others kept
  apply Async.meets_get_bind
  split
  · exact Async.meets_pure ⟨.inl trivial, kept⟩
  · next connected =>
    have peer : client.peer = true := by
      cases is : client.peer
      · exact absurd (.inr is) connected
      · rfl
    have acquired : client.DevicesKept (others + {.operation false .nothing}) := DevicesKept.acquire (add_zero others ▸ kept) peer
    apply Async.meets_bind
    apply Async.meets_await ({.operation false .nothing} : Claims) (fun _ _ _ => rfl) ?_ acquired
    intro answer client others expected kept
    have through : client.DevicesKept (others + 0) := by
      rw [add_zero]
      exact DevicesKept.drop kept
    have peer : client.peer = true := kept.phases.acquiring .nothing (by simp)
    cases answer with
    | granted deviceId withAudio =>
      have ready : client.ws = true ∧ client.peer = true ∧ client.localScreenTrack = none :=
        ⟨(kept.phases.connected peer).1, peer, expected.2⟩
      let screen : MediaTrack EndedHandler := { kind := .video, captures := true, deviceId }
      let audio : MediaTrack EndedHandler := { kind := .audio, captures := true }
      have opens : Extends client (client.openTrack screen) := .openTrack client screen
      have plain : (client.openTrack screen).media.onended? client.media.tracks.length = none :=
        Media.onended?_newTrack.trans (if_pos rfl)
      apply Async.meets_get_bind
      apply Async.meets_modify_bind
      cases withAudio with
      | true =>
        have last : (client.openTrack screen).media.tracks.length = client.media.tracks.length + 1 := by
          simp [openTrack, Media.newTrack, Media.newStream]
        apply Async.meets_modify_bind
        refine setScreenStream_of_opened ready through (opens.trans (.newTrack _ audio)) ?_ ⟨rfl, rfl, rfl⟩ rfl ?_ ?_
        · exact fun _ _ shown => Media.onended?_of_newTrack rfl (Media.onended?_of_newTrack rfl shown)
        · have different : client.media.tracks.length ≠ (client.openTrack screen).media.tracks.length := by
            rw [last]
            exact Nat.ne_of_lt (Nat.lt_succ_self _)
          exact (Media.onended?_newTrack.trans (if_neg different)).trans plain
        · intro track on
          rcases Media.holdsDevice_of_newTrack on with screened | heard
          · rcases Media.holdsDevice_of_newTrack screened with old | rfl
            · exact .inl old
            · exact .inr List.mem_cons_self
          · exact .inr (by simp [heard.trans last])
      | false =>
        refine setScreenStream_of_opened ready through opens ?_ ⟨rfl, rfl, rfl⟩ rfl plain ?_
        · exact fun _ _ shown => Media.onended?_of_newTrack rfl shown
        · exact fun track on => (Media.holdsDevice_of_newTrack on).imp_right fun last => by simp [last]
    | codec | devices | done | rejected => exact Async.meets_pure ⟨.inl trivial, through⟩

theorem unshareScreen_keeps : unshareScreen.Keeps deviceRules held throws := by
  apply Async.Keeps.get.bind
  intro client
  split
  · apply (stopAndEnd_keeps _).bind
    intro _
    exact keeps_alike fun _ => ⟨rfl, rfl, rfl, rfl, rfl⟩
  · exact .pure

theorem sendVideo_keeps (localVideoTrack : Nat) : (sendVideo localVideoTrack).Keeps deviceRules 0 True := by
  have last : (Async.modify fun client => { client with videoSenderTrackID := some localVideoTrack } : ClientAsync Unit).Keeps
      deviceRules 0 True := keeps_alike fun _ => ⟨rfl, rfl, rfl, rfl, rfl⟩
  have added : (do
      Async.modify fun client => { client with videoTrackAdded := true }
      Async.modify fun client => { client with videoSenderTrackID := some localVideoTrack } : ClientAsync Unit).Keeps
        deviceRules 0 True := by
    apply Async.Keeps.bind
    · exact keeps_alike fun _ => ⟨rfl, rfl, rfl, rfl, rfl⟩
    · exact fun _ => last
  apply Async.Keeps.get.bind
  intro client
  split
  · exact (awaitPeer_keeps _).bind fun _ => last
  · apply (awaitPeer_keeps _).bind
    intro _
    apply Async.Keeps.get.bind
    intro client
    split
    · exact (awaitPeer_keeps _).bind fun _ => added
    · exact added

theorem stopVideo_keeps : stopVideo.Keeps deviceRules held True := by
  apply Async.Keeps.get.bind
  intro client
  split
  · apply (askPeer_keeps _).bind
    intro _
    apply Async.Keeps.bind
    · exact keeps_alike fun _ => ⟨rfl, rfl, rfl, rfl, rfl⟩
    intro _
    apply (stopTracks_keeps _).bind
    intro _
    apply Async.Keeps.bind
    · exact .modify fun _ _ kept => DevicesKept.clearLocalVideoStream kept
    · exact fun _ => (keeps_emit _).bind fun _ => keeps_send _
  · exact .pure

/-- A camera that is there, or that is opened. -/
theorem announceVideo_keeps : announceVideo.Keeps deviceRules 0 True := by
  apply Async.Keeps.get.bind
  intro client
  split
  · exact .throw trivial
  · exact (keeps_emit _).bind fun _ => (sendOnSocket_keeps _).bind fun _ => keeps_emit _

theorem showVideo_keeps (started : Bool) : (showVideo started).Keeps deviceRules 0 True := by
  intro client others kept
  apply Async.meets_get_bind
  split
  · next stream current =>
    apply Async.meets_bind
    apply Async.meets_get_bind
    split
    · exact Async.meets_throw ⟨.inl trivial, kept⟩
    · next camera _ _ =>
      apply Async.meets_pure
      apply Async.meets_modify_bind
      have enabled := kept.setEnabled true camera
      have swappable : (client.setEnabled true camera).Swappable (others + 0) stream :=
        enabled.devices.swappable_localVideoStream current
      apply Async.meets_bind
      apply blurred_meets enabled swappable
      · exact ⟨.inl trivial, enabled⟩
      · intro track client kept
        exact ((sendVideo_keeps track).bind fun _ => announceVideo_keeps) client others kept
  · exact Async.meets_pure ⟨.inl trivial, kept⟩

theorem startVideo_keeps : startVideo.Keeps deviceRules 0 True := by
  intro client others kept
  apply Async.meets_get_bind
  split
  · exact Async.meets_pure ⟨.inl trivial, kept⟩
  · next connected =>
    have peer : client.peer = true := by
      cases is : client.peer
      · exact absurd (.inr (.inl is)) connected
      · rfl
    split
    · exact showVideo_keeps true client others kept
    · apply Async.meets_bind
      apply (attempt_meets kept peer fun _ _ => initVideo_meets fun is => by cases is).imp
      rintro _ client others ⟨⟨started, rfl⟩, kept⟩
      exact showVideo_keeps started client others kept

theorem setBlurSettings_keeps (blurEnabled : Bool) : (setBlurSettings blurEnabled).Keeps deviceRules held True := by
  apply Async.Keeps.get.bind
  intro client
  split
  · exact .pure
  · split
    · exact .pure
    · split
      · exact .pure
      · exact setVideoInputDevice_keeps _

end CallsClient

end Calls.Webapp
