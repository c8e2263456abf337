import Calls.Webapp.VoiceClaims

/-! The functions of the client, one after the other: none turns the microphone on but `unmute`, and a
microphone that takes the place of another one is on if that one was. -/

set_option autoImplicit false

namespace Calls.Webapp

def voiceRules : Accounting CallsClient ClientRequest ClientAnswer VoiceClaims where
  inv := CallsClient.Voice
  may request held := request.switches = false → .on ∉ held
  ready request answer _ := request.fits answer = true

namespace CallsClient

variable {client : CallsClient} {others held : VoiceClaims} {throws : Prop} {track stream : Nat}

theorem plain_zero : VoiceClaim.on ∉ (0 : VoiceClaims) := Multiset.notMem_zero _

theorem plain_add {claim : VoiceClaim} (plain : .on ∉ held) (other : claim ≠ .on) : .on ∉ held + {claim} := by
  rw [Multiset.mem_add, Multiset.mem_singleton]
  exact fun either => either.elim plain fun is => other is.symm

/-! ### What is not heard -/

theorem quiet_keeps {change : CallsClient → CallsClient} (quiet : ∀ client, Quiet client (change client)) :
    (Async.modify change : ClientAsync Unit).Keeps voiceRules held throws :=
  .modify fun client _ kept => Voice.quiet kept (quiet client)

theorem same_keeps {change : CallsClient → CallsClient} (same : ∀ client, (change client).media = client.media ∧
    (change client).audioTrack = client.audioTrack ∧ (change client).sent = client.sent ∧ (change client).closed = client.closed ∧
    (change client).ws = client.ws ∧ (change client).peer = client.peer) :
    (Async.modify change : ClientAsync Unit).Keeps voiceRules held throws := quiet_keeps fun client => .of_eq (same client)

theorem emit_voice (event : ClientEvent) : (Async.modify (emit event) : ClientAsync Unit).Keeps voiceRules held throws :=
  same_keeps fun _ => ⟨rfl, rfl, rfl, rfl, rfl, rfl⟩

theorem send_voice {message : ClientSent} (other : message.isVoice = false) :
    (Async.modify (send message) : ClientAsync Unit).Keeps voiceRules held throws := quiet_keeps fun _ => .send other

theorem mute_voice (track : Nat) : (Async.modify (setEnabled false track) : ClientAsync Unit).Keeps voiceRules held throws :=
  quiet_keeps fun client => .ofMedia (.mute client.media track) ⟨rfl, rfl, rfl, rfl, rfl⟩

theorem stopTrack_voice (track : Nat) : (Async.modify (stopTrack track) : ClientAsync Unit).Keeps voiceRules held throws :=
  quiet_keeps fun client => .stopTrack client track

theorem await_voice (request : ClientRequest) (plain : .on ∉ held) : (Async.await request : ClientAsync ClientAnswer).Keeps voiceRules held throws :=
  .await fun _ => plain

theorem askPeer_voice (call : PeerCall) : (askPeer call).Keeps voiceRules held True := by
  apply Async.Keeps.get.bind
  intro client
  split
  · exact same_keeps fun _ => ⟨rfl, rfl, rfl, rfl, rfl, rfl⟩
  · exact .throw trivial

theorem awaitPeer_voice (call : PeerCall) (plain : .on ∉ held) : (awaitPeer call).Keeps voiceRules held True := by
  apply (askPeer_voice call).bind
  intro _
  apply (await_voice _ plain).bind
  intro answer
  split
  · exact .pure
  · exact .throw trivial

theorem sendOnSocket_voice {message : ClientSent} (other : message.isVoice = false) : (sendOnSocket message).Keeps voiceRules held True := by
  apply Async.Keeps.get.bind
  intro client
  split
  · exact send_voice other
  · exact .throw trivial

theorem firstTrack_voice (kind : TrackKind) (stream : Nat) : (firstTrack kind stream).Keeps voiceRules held True := by
  apply Async.Keeps.get.bind
  intro client
  split
  · exact .throw trivial
  · exact .pure

theorem removeScreen_voice (screenTrack : Nat) (screenAudioTrack : Option Nat) :
    (removeScreen screenTrack screenAudioTrack).Keeps voiceRules 0 True := by
  apply Async.Keeps.bind
  · apply Async.Keeps.tryCatch
    · apply (awaitPeer_voice _ plain_zero).bind
      intro _
      split
      · exact awaitPeer_voice _ plain_zero
      · exact .pure
    · exact fun _ => .pure
  · exact fun _ => sendOnSocket_voice rfl

theorem dispatchEnded_voice (track : Nat) : (dispatchEnded track).Keeps voiceRules held throws := by
  apply Async.Keeps.get.bind
  intro client
  split
  · exact .pure
  · exact stopTrack_voice _
  · next audio _ =>
    apply Async.Keeps.bind
    · apply quiet_keeps
      intro client
      cases audio with
      | none => exact .of_eq ⟨rfl, rfl, rfl, rfl, rfl, rfl⟩
      | some audio => exact .ofMedia (.stop client.media audio) ⟨rfl, rfl, rfl, rfl, rfl⟩
    · intro _
      apply Async.Keeps.get.bind
      intro client
      split
      · exact .fork fun _ _ kept => (removeScreen_voice track audio).toProgram kept
      · exact .pure

theorem stopAndEnd_voice (track : Nat) : (stopAndEnd track).Keeps voiceRules held throws :=
  (stopTrack_voice track).bind fun _ => dispatchEnded_voice track

theorem stopTracks_voice (tracks : List Nat) : (stopTracks tracks).Keeps voiceRules held throws := by
  induction tracks with
  | nil => exact .pure
  | cons track tracks ih => exact (stopAndEnd_voice track).bind fun _ => ih

theorem stopStreams_voice (streams : List Nat) : (stopStreams streams).Keeps voiceRules held throws := by
  induction streams with
  | nil => exact .pure
  | cons stream streams ih => exact Async.Keeps.get.bind fun client => (stopTracks_voice _).bind fun _ => ih

theorem cleanup_voice : cleanup.Keeps voiceRules held throws := Async.Keeps.get.bind fun client => stopStreams_voice client.streams

theorem updateDevices_voice (during : During) (plain : .on ∉ held) : (updateDevices during).Keeps voiceRules held throws :=
  .call fun _ => plain

theorem videoDeviceToInit_voice (deviceId : Option String) : (videoDeviceToInit deviceId).Keeps voiceRules held throws := by
  apply Async.Keeps.get.bind
  intro client
  split
  · exact .pure
  · exact .pure
  · split
    · exact .pure
    · split
      · refine .bind (same_keeps ?_) fun _ => .pure
        exact fun _ => ⟨rfl, rfl, rfl, rfl, rfl, rfl⟩
      · refine .bind (same_keeps ?_) fun _ => .pure
        exact fun _ => ⟨rfl, rfl, rfl, rfl, rfl, rfl⟩

/-! ### New tracks -/

theorem Quiet.openTrack (client : CallsClient) (row : MediaTrack EndedHandler) : client.Quiet (client.openTrack row) :=
  .ofMedia ((Media.NoLouder.newTrack _ row).trans (.newStream _ _)) ⟨rfl, rfl, rfl, rfl, rfl⟩

theorem getUserMedia_voice (kind : TrackKind) (purpose : MediaPurpose) (deviceId : Option String) (during : During)
    (plain : purpose ≠ .switchAudio → .on ∉ held) : (getUserMedia kind purpose deviceId during).Keeps voiceRules held True := by
  apply Async.Keeps.bind
  · apply Async.Keeps.await
    intro other
    exact plain fun is => by rw [is] at other; cases other
  · intro answer
    split
    · exact Async.Keeps.get.bind fun client => (quiet_keeps fun client => .openTrack client _).bind fun _ => .pure
    · exact .throw trivial

theorem catch_voice {body : ClientAsync Unit} {missing : CallsClient → Prop} [DecidablePred missing] {err other : ClientError}
    (keeps : body.Keeps voiceRules held True) : (body.tryCatch fun _ => do
      let client ← Async.get
      if missing client then Async.throw err else Async.throw other).Keeps voiceRules held True := by
  apply keeps.tryCatch
  intro _
  apply Async.Keeps.get.bind
  intro client
  split
  · exact .throw trivial
  · exact .throw trivial

theorem initVideo_voice (startVideo : Bool) (deviceId : Option String) (plain : .on ∉ held) :
    (initVideo startVideo deviceId).Keeps voiceRules held True := by
  apply (videoDeviceToInit_voice deviceId).bind
  intro deviceId
  apply catch_voice
  apply (getUserMedia_voice .video .initVideo deviceId .video fun _ => plain).bind
  intro stream
  apply (updateDevices_voice _ plain).bind
  intro _
  split
  · apply Async.Keeps.bind
    · exact same_keeps fun _ => ⟨rfl, rfl, rfl, rfl, rfl, rfl⟩
    · exact fun _ => (firstTrack_voice .video stream).bind fun track => (mute_voice track).bind fun _ => emit_voice .initvideo
  · exact (firstTrack_voice .video stream).bind fun track => (stopAndEnd_voice track).bind fun _ => emit_voice .initvideo

/-- A microphone that is new is off. -/
theorem keepAudio_voice : keepAudio.Keeps voiceRules held True := by
  apply Async.Keeps.get.bind
  intro client
  split
  · exact .throw trivial
  · next stream _ =>
    intro client others kept
    apply Async.meets_bind
    apply Async.meets_get_bind
    split
    · exact Async.meets_throw ⟨.inl trivial, kept⟩
    · next track rest first =>
      apply Async.meets_pure
      apply Async.meets_modify_bind
      apply Async.meets_modify_bind
      have audio : client.media.kindOf? track = some .audio := by
        have listed : track ∈ client.media.getTracksOf .audio stream := first ▸ List.mem_cons_self
        exact (Media.mem_getTracksOf.mp listed).2
      have off : (setEnabled false track { client with audioTrack := some track, streams := client.streams ++ [stream] }).Voice
          (others + held) := by
        have quiet : client.Quiet (setEnabled false track { client with streams := client.streams ++ [stream] }) :=
          .ofMedia (.mute client.media track) ⟨rfl, rfl, rfl, rfl, rfl⟩
        refine (Voice.quiet kept quiet).setAudioTrack (Media.kindOf?_setEnabled.trans audio) fun _ on => ?_
        cases Media.isEnabled_setEnabled_false.symm.trans on
      have keeps : (Async.modify (emit .initaudio) : ClientAsync Unit).Keeps voiceRules held True := emit_voice .initaudio
      exact keeps _ _ off

theorem initSelectedAudio_voice (during : During) (plain : .on ∉ held) : (initSelectedAudio during).Keeps voiceRules held True := by
  apply Async.Keeps.get.bind
  intro client
  apply Async.Keeps.bind
  · exact same_keeps fun _ => ⟨rfl, rfl, rfl, rfl, rfl, rfl⟩
  · intro _
    apply (getUserMedia_voice .audio .initAudio _ during fun _ => plain).bind
    exact fun stream => same_keeps fun _ => ⟨rfl, rfl, rfl, rfl, rfl, rfl⟩

theorem initAudio_voice (deviceId : Option String) (during : During) (plain : .on ∉ held) :
    (initAudio deviceId during).Keeps voiceRules held True := by
  apply catch_voice
  apply (getUserMedia_voice .audio .initAudio deviceId _ fun _ => plain).bind
  intro stream
  apply Async.Keeps.bind
  · exact same_keeps fun _ => ⟨rfl, rfl, rfl, rfl, rfl, rfl⟩
  · intro _
    split
    · apply Async.Keeps.get.bind
      intro client
      apply (stopTracks_voice _).bind
      intro _
      apply (updateDevices_voice _ plain).bind
      exact fun _ => (initSelectedAudio_voice _ plain).bind fun _ => keepAudio_voice
    · exact (updateDevices_voice _ plain).bind fun _ => keepAudio_voice

/-! ### Another microphone -/

/-- The new microphone is on if the old one was when it was asked for. -/
theorem replaceAudioTrack_voice {oldTrack newStream : Nat} {isEnabled : Bool} (kept : client.Voice (others + held))
    (on : isEnabled = true → client.Grants .on) :
    (replaceAudioTrack oldTrack isEnabled newStream).Meets voiceRules (fun _ client others => client.Voice (others + held)) client others := by
  apply Async.meets_modify_bind
  replace kept : Voice { client with streams := client.streams ++ [newStream] } (others + held) :=
    kept.quiet (.of_eq ⟨rfl, rfl, rfl, rfl, rfl, rfl⟩)
  replace on : isEnabled = true → Grants { client with streams := client.streams ++ [newStream] } .on := on
  generalize { client with streams := client.streams ++ [newStream] } = client at kept on
  apply Async.meets_bind
  apply Async.meets_get_bind
  split
  · exact Async.meets_throw kept
  · next newTrack rest first =>
    apply Async.meets_pure
    apply Async.meets_modify_bind
    apply Async.meets_get_bind
    have audio : client.media.kindOf? newTrack = some .audio := by
      have listed : newTrack ∈ client.media.getTracksOf .audio newStream := first ▸ List.mem_cons_self
      exact (Media.mem_getTracksOf.mp listed).2
    split
    · apply Async.meets_throw
      apply Voice.quiet kept
      exact .ofMedia (.stop client.media oldTrack) ⟨rfl, rfl, rfl, rfl, rfl⟩
    · next stream current =>
      apply Async.meets_modify_bind
      have swapped : ({ client.stopTrack oldTrack with
          media := ((client.stopTrack oldTrack).media.swapTrack stream oldTrack newTrack) }).Voice (others + held) := by
        apply Voice.quiet kept
        exact .ofMedia ((Media.NoLouder.stop client.media oldTrack).trans (.swapTrack _ _ _ _)) ⟨rfl, rfl, rfl, rfl, rfl⟩
      have switched := swapped.setEnabled isEnabled on newTrack
      have replaced (after : CallsClient) (kept : after.Voice (others + held)) (audio : after.media.kindOf? newTrack = some .audio)
          (on : after.closed = false → after.media.isEnabled newTrack = true → after.said = some .unmute) :
          (Async.modify fun client => { client with audioTrack := some newTrack } : ClientAsync Unit).Meets voiceRules
            (fun _ client others => client.Voice (others + held)) after others :=
        Async.meets_modify (kept.setAudioTrack audio on)
      have sound : Media.kindOf? (Media.setEnabled (((client.stopTrack oldTrack).media.removeTrack stream oldTrack).addTrack stream newTrack)
          isEnabled newTrack) newTrack = some .audio :=
        Media.kindOf?_setEnabled.trans (Media.kindOf?_swapTrack.trans (Media.kindOf?_stop.trans audio))
      cases isEnabled with
      | true =>
        apply Async.meets_bind
        apply Async.meets_get_bind
        split
        · apply Async.meets_modify
          apply replaced
          · exact switched.quiet (.of_eq ⟨rfl, rfl, rfl, rfl, rfl, rfl⟩)
          · exact sound
          · exact fun opened _ => on rfl opened
        · exact Async.meets_throw switched
      | false =>
        apply Async.meets_modify_bind
        apply replaced
        · exact switched.quiet (.of_eq ⟨rfl, rfl, rfl, rfl, rfl, rfl⟩)
        · exact sound
        · intro _ enabled
          cases Media.isEnabled_setEnabled_false.symm.trans enabled

theorem setAudioInputDevice_voice (device : MediaDevice) (store : Bool) (during : During) (plain : .on ∉ held) :
    (setAudioInputDevice device store during).Keeps voiceRules held True := by
  intro client others kept
  apply Async.meets_get_bind
  split
  · exact Async.meets_pure ⟨.inl trivial, kept⟩
  · apply Async.meets_modify_bind
    apply Async.meets_modify_bind
    replace kept : Voice (emit .devicechange { client with
        defaultAudioInput := if store then some device.stored else client.defaultAudioInput
        currentAudioInputDevice := some device }) (others + held) := Voice.quiet kept (.of_eq ⟨rfl, rfl, rfl, rfl, rfl, rfl⟩)
    split
    · next oldTrack _ current _ =>
      have replaces (more : VoiceClaims) (plain : MediaPurpose.switchAudio ≠ .switchAudio → .on ∉ held + more)
          (granted : ∀ claim ∈ more, Grants (emit .devicechange { client with
            defaultAudioInput := if store then some device.stored else client.defaultAudioInput
            currentAudioInputDevice := some device }) claim)
          (on : client.media.isEnabled oldTrack = true → .on ∈ more) : (do
            let newStream ← getUserMedia .audio .switchAudio (some device.deviceId) during
            replaceAudioTrack oldTrack (client.media.isEnabled oldTrack) newStream : ClientAsync Unit).Meets voiceRules
              (fun result client others => (True ∨ ∃ a, result = .ok a) ∧ client.Voice (others + held)) (emit .devicechange { client with
                defaultAudioInput := if store then some device.stored else client.defaultAudioInput
                currentAudioInputDevice := some device }) others := by
        have holds := voice_add.mpr ⟨kept, granted⟩
        rw [add_assoc] at holds
        apply (getUserMedia_voice .audio .switchAudio _ during plain).andThen holds
        · intro _ _ client others kept
          replace kept : client.Voice (others + (held + more)) := kept
          rw [← add_assoc] at kept
          exact ⟨.inl trivial, (voice_add.mp kept).1⟩
        · intro newStream client others kept
          replace kept : client.Voice (others + (held + more)) := kept
          rw [← add_assoc] at kept
          obtain ⟨kept, granted⟩ := voice_add.mp kept
          apply (replaceAudioTrack_voice kept fun is => granted _ (on is)).imp
          exact fun _ _ _ kept => ⟨.inl trivial, kept⟩
      cases enabled : client.media.isEnabled oldTrack with
      | true =>
        rw [enabled] at replaces
        refine replaces {.on} (fun is => absurd rfl is) (fun claim listed => ?_) fun _ => Multiset.mem_singleton.mpr rfl
        rw [Multiset.mem_singleton.mp listed]
        exact fun opened => kept.on opened oldTrack current enabled
      | false =>
        rw [enabled] at replaces
        refine replaces 0 (fun is => absurd rfl is) (fun claim listed => ?_) fun is => by cases is
        exact absurd listed (Multiset.notMem_zero _)
    · exact initAudio_voice (some device.deviceId) during plain _ _ kept

theorem setAudioOutputDevice_voice (device : MediaDevice) (store : Bool) : (setAudioOutputDevice device store).Keeps voiceRules held True := by
  apply Async.Keeps.get.bind
  intro client
  split
  · exact .pure
  · exact same_keeps fun _ => ⟨rfl, rfl, rfl, rfl, rfl, rfl⟩

theorem setAudioDevice_voice (kind : DeviceKind) (device : MediaDevice) (during : During) (plain : .on ∉ held) :
    (setAudioDevice kind device during).Keeps voiceRules held True := by
  unfold setAudioDevice
  split
  · exact setAudioInputDevice_voice device false during plain
  · exact setAudioOutputDevice_voice device false

theorem handleAudioDeviceFallback_voice (kind : DeviceKind) (during : During) (plain : .on ∉ held) :
    (handleAudioDeviceFallback kind during).Keeps voiceRules held True := by
  have switches (device : MediaDevice) : (do
      setAudioDevice kind device during
      Async.modify (emit (.devicefallback device)) : ClientAsync Unit).Keeps voiceRules held True :=
    (setAudioDevice_voice kind device during plain).bind fun _ => emit_voice _
  apply Async.Keeps.get.bind
  intro client
  dsimp only
  generalize (if kind = .audioinput then client.audioInputs else client.audioOutputs) = devices
  generalize (if kind = .audioinput then client.currentAudioInputDevice else client.currentAudioOutputDevice) = current
  generalize storedDevice? _ devices = stored
  split
  · exact switches _
  · cases stored with
    | none => exact .pure
    | some selected =>
      dsimp only
      split
      · exact .pure
      · exact switches selected

theorem devicesEnumerated_voice (during : During) (answer : ClientAnswer) (plain : .on ∉ held) :
    (devicesEnumerated during answer).Keeps voiceRules held False := by
  refine .tryCatch ?_ fun _ => .pure
  split
  · apply Async.Keeps.bind
    · exact same_keeps fun _ => ⟨rfl, rfl, rfl, rfl, rfl, rfl⟩
    · intro _
      apply Async.Keeps.get.bind
      intro client
      have second : (do
          let client ← Async.get
          if client.currentAudioOutputDevice.isSome then handleAudioDeviceFallback .audiooutput during else pure ()
          Async.modify (emit .devicechange) : ClientAsync Unit).Keeps voiceRules held True := by
        apply Async.Keeps.get.bind
        intro client
        split
        · exact (handleAudioDeviceFallback_voice _ _ plain).bind fun _ => emit_voice _
        · exact emit_voice _
      split
      · exact (handleAudioDeviceFallback_voice _ _ plain).bind fun _ => second
      · exact second
  · exact .throw trivial

/-- The programs that await the devices hold no more than before. -/
theorem updateDevicesFrom_voice : AsyncProcedure.GivesBack voiceRules updateDevicesFrom := by
  intro request answer next held may goesOn client others ready kept
  cases request with
  | devices during =>
    apply devicesEnumerated_voice during answer (may rfl) client others kept
    intro _ client others ended
    exact goesOn answer client others ready ended.2
  | videoCodec | userMedia | displayMedia | peer => exact goesOn answer client others ready kept

/-! ### Cameras and screens -/

/-- What is returned is a track of a camera or of a canvas. -/
def VideoTrack (held : VoiceClaims) (result : Except ClientError Nat) (client : CallsClient) (others : VoiceClaims) : Prop :=
  client.Voice (others + held) ∧ ∀ track, result = .ok track → client.media.kindOf? track = some .video

theorem firstTrack_video (kept : client.Voice (others + held)) :
    (firstTrack .video stream).Meets voiceRules (VideoTrack held) client others := by
  apply Async.meets_get_bind
  split
  · exact Async.meets_throw ⟨kept, fun _ is => by cases is⟩
  · next track rest first =>
    refine Async.meets_pure ⟨kept, fun other is => ?_⟩
    have listed : track ∈ client.media.getTracksOf .video stream := first ▸ List.mem_cons_self
    rw [← Except.ok.inj is]
    exact (Media.mem_getTracksOf.mp listed).2

theorem initBgBackgroundTrack_video (kept : client.Voice (others + held)) :
    (initBgBackgroundTrack stream).Meets voiceRules (VideoTrack held) client others := by
  apply Async.meets_bind
  apply (firstTrack_video kept).imp
  rintro result client others ⟨kept, video⟩
  cases result with
  | error err => exact ⟨kept, fun _ is => by cases is⟩
  | ok localVideoTrack =>
    apply Async.meets_get_bind
    split
    · exact Async.meets_pure ⟨kept, fun track is => Except.ok.inj is ▸ video localVideoTrack rfl⟩
    · apply Async.meets_modify_bind
      apply Async.meets_modify_bind
      apply Async.meets_pure
      have opened := kept.quiet (.openTrack client { kind := .video, captures := false, onended := some (.canvas localVideoTrack) })
      refine ⟨opened.quiet (.ofMedia (.swapTrack _ _ _ _) ⟨rfl, rfl, rfl, rfl, rfl⟩), fun track is => ?_⟩
      rw [← Except.ok.inj is]
      exact Media.kindOf?_swapTrack.trans (Media.kindOf?_newTrack.trans (if_pos rfl))

theorem blurred_video (kept : client.Voice (others + held)) (video : client.media.kindOf? track = some .video) :
    (blurred stream track).Meets voiceRules (VideoTrack held) client others := by
  apply Async.meets_get_bind
  split
  · exact initBgBackgroundTrack_video kept
  · exact Async.meets_pure ⟨kept, fun other is => Except.ok.inj is ▸ video⟩

theorem replaceVideoTrack_voice (videoTrack : Nat) (isEnabled oldSegmenter : Bool) (newStream : Nat) :
    (replaceVideoTrack videoTrack isEnabled oldSegmenter newStream).Keeps voiceRules held True := by
  have told (newTrack : Nat) : (do
      if isEnabled then do
        askPeer (.replaceTrack (some videoTrack) (some newTrack))
        Async.modify fun client => { client with videoSenderTrackID := some newTrack }.emit (.localVideoStream newStream)
      else Async.modify fun client => { client with videoTrackAdded := false } : ClientAsync Unit).Keeps voiceRules held True := by
    split
    · apply (askPeer_voice _).bind
      exact fun _ => same_keeps fun _ => ⟨rfl, rfl, rfl, rfl, rfl, rfl⟩
    · exact same_keeps fun _ => ⟨rfl, rfl, rfl, rfl, rfl, rfl⟩
  intro client others kept
  apply Async.meets_modify_bind
  replace kept : Voice { client with streams := client.streams ++ [newStream] } (others + held) :=
    Voice.quiet kept (.of_eq ⟨rfl, rfl, rfl, rfl, rfl, rfl⟩)
  apply Async.meets_bind
  apply (firstTrack_video kept).imp
  rintro result client others ⟨kept, video⟩
  cases result with
  | error err => exact ⟨.inl trivial, kept⟩
  | ok newTrack =>
    apply Async.meets_bind
    apply (blurred_video kept (video newTrack rfl)).imp
    rintro result client others ⟨kept, video⟩
    cases result with
    | error err => exact ⟨.inl trivial, kept⟩
    | ok newTrack =>
      have holds : client.Voice (others + held + {.video newTrack}) := voice_claim.mpr ⟨kept, video newTrack rfl⟩
      rw [add_assoc] at holds
      apply (stopAndEnd_voice videoTrack).andThen holds False.elim
      intro _ client others holds
      replace holds : client.Voice (others + (held + {.video newTrack})) := holds
      rw [← add_assoc] at holds
      obtain ⟨kept, video⟩ := voice_claim.mp holds
      apply Async.meets_modify_bind
      replace kept : Voice { client with
          segmenter := if oldSegmenter ∧ client.bgBlurData.blurBackground = false then false else client.segmenter } (others + held) :=
        kept.quiet (.of_eq ⟨rfl, rfl, rfl, rfl, rfl, rfl⟩)
      apply Async.meets_get_bind
      split
      · exact Async.meets_throw ⟨.inl trivial, kept⟩
      · next stream _ =>
        apply Async.meets_modify_bind
        apply told newTrack
        apply Voice.quiet kept
        have swapped : client.media.NoLouder (client.media.swapTrack stream videoTrack newTrack) := .swapTrack _ _ _ _
        have sight : (client.media.swapTrack stream videoTrack newTrack).kindOf? newTrack = some .video := Media.kindOf?_swapTrack.trans video
        exact .ofMedia (swapped.trans (.setEnabled_video isEnabled sight)) ⟨rfl, rfl, rfl, rfl, rfl⟩

theorem setVideoInputDevice_voice (device : MediaDevice) (plain : .on ∉ held) : (setVideoInputDevice device).Keeps voiceRules held True := by
  apply Async.Keeps.get.bind
  intro client
  split
  · exact .pure
  · apply Async.Keeps.bind
    · exact same_keeps fun _ => ⟨rfl, rfl, rfl, rfl, rfl, rfl⟩
    · intro _
      split
      · exact initVideo_voice false _ plain
      · apply (firstTrack_voice .video _).bind
        intro videoTrack
        apply (getUserMedia_voice .video .switchVideo _ .video fun _ => plain).bind
        exact fun newStream => replaceVideoTrack_voice videoTrack _ _ newStream

theorem setScreenStream_voice (screenTrack : Nat) (screenAudioTrack : Option Nat) (plain : .on ∉ held) :
    (setScreenStream screenTrack screenAudioTrack).Keeps voiceRules held True := by
  apply Async.Keeps.get.bind
  intro client
  split
  · exact .pure
  · apply Async.Keeps.bind
    · apply quiet_keeps
      intro client
      exact .ofMedia ((Media.NoLouder.newStream client.media _).trans (.setOnended _ _ _)) ⟨rfl, rfl, rfl, rfl, rfl⟩
    · intro _
      apply (emit_voice _).bind
      intro _
      apply (send_voice rfl).bind
      intro _
      apply (awaitPeer_voice _ plain).bind
      intro _
      apply Async.Keeps.get.bind
      intro client
      split
      · exact awaitPeer_voice _ plain
      · exact .pure

theorem shareScreen_voice (plain : .on ∉ held) : shareScreen.Keeps voiceRules held True := by
  apply Async.Keeps.get.bind
  intro client
  split
  · exact .pure
  · apply (await_voice _ plain).bind
    intro answer
    split
    · apply Async.Keeps.get.bind
      intro client
      apply Async.Keeps.bind
      · exact quiet_keeps fun client => .openTrack client _
      · intro _
        split
        · apply Async.Keeps.bind
          · exact quiet_keeps fun client => .ofMedia (.newTrack client.media _) ⟨rfl, rfl, rfl, rfl, rfl⟩
          · exact fun _ => setScreenStream_voice _ _ plain
        · exact setScreenStream_voice _ _ plain
    · exact .pure

theorem unshareScreen_voice : unshareScreen.Keeps voiceRules held True := by
  apply Async.Keeps.get.bind
  intro client
  split
  · apply (stopAndEnd_voice _).bind
    exact fun _ => same_keeps fun _ => ⟨rfl, rfl, rfl, rfl, rfl, rfl⟩
  · exact .pure

theorem sendVideo_voice (localVideoTrack : Nat) (plain : .on ∉ held) : (sendVideo localVideoTrack).Keeps voiceRules held True := by
  have last : (Async.modify fun client => { client with videoSenderTrackID := some localVideoTrack } : ClientAsync Unit).Keeps
      voiceRules held True := same_keeps fun _ => ⟨rfl, rfl, rfl, rfl, rfl, rfl⟩
  have added : (Async.modify fun client => { client with videoTrackAdded := true } : ClientAsync Unit).Keeps voiceRules held True :=
    same_keeps fun _ => ⟨rfl, rfl, rfl, rfl, rfl, rfl⟩
  apply Async.Keeps.get.bind
  intro client
  split
  · exact (awaitPeer_voice _ plain).bind fun _ => last
  · apply (awaitPeer_voice _ plain).bind
    intro _
    apply Async.Keeps.get.bind
    intro client
    split
    · exact (awaitPeer_voice _ plain).bind fun _ => added.bind fun _ => last
    · exact added.bind fun _ => last

theorem announceVideo_voice : announceVideo.Keeps voiceRules held True := by
  apply Async.Keeps.get.bind
  intro client
  split
  · exact .throw trivial
  · exact (emit_voice _).bind fun _ => (sendOnSocket_voice rfl).bind fun _ => emit_voice _

theorem showVideo_voice (started : Bool) (plain : .on ∉ held) : (showVideo started).Keeps voiceRules held True := by
  intro client others kept
  apply Async.meets_get_bind
  split
  · next stream _ =>
    apply Async.meets_bind
    apply (firstTrack_video kept).imp
    rintro result client others ⟨kept, video⟩
    cases result with
    | error err => exact ⟨.inl trivial, kept⟩
    | ok localVideoTrack =>
      have sight := video localVideoTrack rfl
      apply Async.meets_modify_bind
      replace kept : (client.setEnabled true localVideoTrack).Voice (others + held) :=
        kept.quiet (.ofMedia (.setEnabled_video true sight) ⟨rfl, rfl, rfl, rfl, rfl⟩)
      apply Async.meets_bind
      apply (blurred_video kept (Media.kindOf?_setEnabled.trans sight)).imp
      rintro result client others ⟨kept, -⟩
      cases result with
      | error err => exact ⟨.inl trivial, kept⟩
      | ok localVideoTrack => exact ((sendVideo_voice localVideoTrack plain).bind fun _ => announceVideo_voice) client others kept
  · exact Async.meets_pure ⟨.inl trivial, kept⟩

/-- An acquisition of a device whose failure is announced. -/
theorem attempt_voice {computation : ClientAsync Unit} (keeps : computation.Keeps voiceRules held True) :
    (Async.tryCatch (do
      computation
      pure true) fun err => do
        Async.modify (emit (.error err))
        pure false : ClientAsync Bool).Keeps voiceRules held False := by
  apply Async.Keeps.tryCatch
  · exact keeps.bind fun _ => .pure
  · exact fun _ => (emit_voice _).bind fun _ => .pure

theorem startVideo_voice (plain : .on ∉ held) : startVideo.Keeps voiceRules held True := by
  apply Async.Keeps.get.bind
  intro client
  split
  · exact .pure
  · split
    · exact showVideo_voice true plain
    · exact (attempt_voice (initVideo_voice true none plain)).imp.bind fun started => showVideo_voice started plain

theorem stopVideo_voice : stopVideo.Keeps voiceRules held True := by
  apply Async.Keeps.get.bind
  intro client
  split
  · apply (askPeer_voice _).bind
    intro _
    apply Async.Keeps.bind
    · exact same_keeps fun _ => ⟨rfl, rfl, rfl, rfl, rfl, rfl⟩
    · intro _
      apply (stopTracks_voice _).bind
      intro _
      apply Async.Keeps.bind
      · exact same_keeps fun _ => ⟨rfl, rfl, rfl, rfl, rfl, rfl⟩
      · exact fun _ => (emit_voice _).bind fun _ => send_voice rfl
  · exact .pure

theorem setBlurSettings_voice (blurEnabled : Bool) (plain : .on ∉ held) : (setBlurSettings blurEnabled).Keeps voiceRules held True := by
  apply Async.Keeps.get.bind
  intro client
  split
  · exact .pure
  · split
    · exact .pure
    · split
      · exact .pure
      · exact setVideoInputDevice_voice _ plain

end CallsClient

end Calls.Webapp
