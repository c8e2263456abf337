import Calls.Webapp.VoiceOperations

/-! The microphone in all runs of the client: it is on only while the server has been told so. -/

set_option autoImplicit false

namespace Calls.Webapp

namespace CallsClient

variable {client : CallsClient} {others held claims : VoiceClaims} {throws : Prop}

/-! ### Muting and unmuting -/

/-- Nothing new is heard once the user is muted, if no new microphone is on its way. -/
theorem mute_meets (kept : client.Voice others) (plain : .on ∉ others) :
    CallsClient.mute.Meets voiceRules (fun _ client others => client.Voice others) client others := by
  apply Async.meets_get_bind
  split
  · next track _ connected current _ =>
    apply Async.meets_bind
    apply Async.meets_get_bind
    rw [if_pos connected]
    apply Async.meets_modify
    apply Async.meets_modify_bind
    apply Async.meets_modify_bind
    have muted : Voice (emit .mute (setEnabled false track { client with
        peerCalls := client.peerCalls ++ [.replaceTrack (some track) none] })) others :=
      kept.quiet (.ofMedia (.mute client.media track) ⟨rfl, rfl, rfl, rfl, rfl⟩)
    split
    · apply Async.meets_modify
      refine ⟨fun _ other is on => ?_, muted.heard, muted.online, fun claim listed => ?_⟩
      · obtain rfl := Option.some.inj (current.symm.trans is)
        cases Media.isEnabled_setEnabled_false.symm.trans on
      · have granted := muted.granted claim listed
        cases claim with
        | online | video | closed => exact granted
        | on => exact absurd listed plain
    · exact Async.meets_pure muted
  · exact Async.meets_pure kept

/-- Before the server is told that the microphone is on. -/
structure Unspoken (client : CallsClient) (claims : VoiceClaims) : Prop where
  socket : client.closed = false → client.ws = true
  heard : ∀ track, client.audioTrack = some track → client.media.kindOf? track = some .audio
  granted : ∀ claim ∈ claims, client.Grants claim

theorem Voice.unspoken (kept : client.Voice (claims + {.online})) : client.Unspoken claims := by
  obtain ⟨kept, online⟩ := voice_claim.mp kept
  exact ⟨online, kept.heard, kept.granted⟩

theorem announceUnmuted_meets (unspoken : client.Unspoken (others + held)) :
    announceUnmuted.Meets voiceRules (fun result client others => (True ∨ ∃ a, result = .ok a) ∧ client.Voice (others + held)) client others := by
  apply Async.meets_modify_bind
  apply Async.meets_get_bind
  have granted {after : CallsClient} (media : after.media = client.media) (closed : after.closed = client.closed)
      (ws : after.ws = client.ws) (said : after.closed = false → after.said = some .unmute) :
      ∀ claim ∈ others + held, after.Grants claim := by
    intro claim listed
    have before := unspoken.granted claim listed
    cases claim with
    | online => exact fun opened => ws.trans (before (closed.symm.trans opened))
    | on => exact said
    | video track => exact (congrArg (Media.kindOf? · track) media).trans before
    | closed => exact closed.trans before
  split
  · next connected =>
    apply Async.meets_modify
    have told : (send .unmute (emit .unmute client)).said = some .unmute := said_send_voice rfl
    exact ⟨.inl trivial, fun _ _ _ _ => told, unspoken.heard, fun _ _ => connected, granted rfl rfl rfl fun _ => told⟩
  · next offline =>
    have closed : client.closed = true := by
      by_contra opened
      exact offline (unspoken.socket (Bool.not_eq_true _ ▸ opened))
    have never (opened : client.closed = false) : False := by cases opened.symm.trans closed
    exact Async.meets_pure ⟨.inl trivial, fun opened => (never opened).elim, unspoken.heard, fun opened => (never opened).elim,
      granted rfl rfl rfl fun opened => (never opened).elim⟩

/-- What is left to be said where the microphone was turned on. -/
def Enabled (held : VoiceClaims) (result : Except ClientError Unit) (client : CallsClient) (others : VoiceClaims) : Prop :=
  (result = .ok () → client.Unspoken (others + held)) ∧ ∀ err, result = .error err → client.Voice (others + held)

theorem enabled_ok (unspoken : client.Unspoken (others + held)) : Enabled held (.ok ()) client others :=
  ⟨fun _ => unspoken, fun _ is => by cases is⟩

theorem enabled_error {err : ClientError} (kept : client.Voice (others + held)) : Enabled held (.error err) client others :=
  ⟨fun is => (by cases is), fun _ _ => kept⟩

theorem Voice.dropOnline (kept : client.Voice (others + (held + {.online}))) :
    client.Voice (others + held) ∧ client.Unspoken (others + held) := by
  rw [← add_assoc] at kept
  exact ⟨(voice_claim.mp kept).1, kept.unspoken⟩

theorem enableAudioTrack_meets (kept : client.Voice (others + (held + {.online}))) :
    enableAudioTrack.Meets voiceRules (Enabled held) client others := by
  obtain ⟨kept, unspoken⟩ := kept.dropOnline
  apply Async.meets_get_bind
  split
  · exact Async.meets_throw (enabled_error kept)
  · next track current =>
    apply Async.meets_modify
    apply enabled_ok
    refine ⟨unspoken.socket, fun other is => Media.kindOf?_setEnabled.trans (unspoken.heard other is), fun claim listed => ?_⟩
    have granted := unspoken.granted claim listed
    cases claim with
    | online | on | closed => exact granted
    | video other => exact Media.kindOf?_setEnabled.trans granted

theorem enableVoice_meets (plain : .on ∉ held) (kept : client.Voice (others + (held + {.online}))) :
    enableVoice.Meets voiceRules (Enabled held) client others := by
  have plain : .on ∉ held + {.online} := plain_add plain (by decide)
  apply Async.meets_get_bind
  split
  · exact Async.meets_pure (enabled_ok kept.dropOnline.2)
  · split
    · apply (askPeer_voice _).andThen kept
      · exact fun _ _ _ _ kept => enabled_error (Voice.dropOnline kept).1
      · exact fun _ _ _ => enableAudioTrack_meets
    · split
      · apply (awaitPeer_voice _ plain).andThen kept
        · exact fun _ _ _ _ kept => enabled_error (Voice.dropOnline kept).1
        · intro _ client others kept
          apply Async.meets_modify_bind
          apply enableAudioTrack_meets
          exact Voice.quiet kept (.of_eq ⟨rfl, rfl, rfl, rfl, rfl, rfl⟩)
      · exact enableAudioTrack_meets kept

/-- The microphone is turned on, and the server is told before anything else happens. -/
theorem speak_meets (plain : .on ∉ held) (kept : client.Voice (others + (held + {.online}))) :
    (do
      enableVoice
      announceUnmuted : ClientAsync Unit).Meets voiceRules (fun result client others =>
        (True ∨ ∃ a, result = .ok a) ∧ client.Voice (others + held)) client others := by
  apply Async.meets_bind
  apply (enableVoice_meets plain kept).imp
  rintro result client others ⟨spoken, failed⟩
  cases result with
  | ok _ => exact announceUnmuted_meets (spoken rfl)
  | error err => exact ⟨.inl trivial, failed err rfl⟩

theorem unmute_voice (plain : .on ∉ held) : unmute.Keeps voiceRules held True := by
  intro client others kept
  apply Async.meets_get_bind
  split
  · exact Async.meets_pure ⟨.inl trivial, kept⟩
  · next connected =>
    have online : client.Grants .online := fun opened => Voice.online kept opened (Bool.not_eq_false _ ▸ connected)
    have holds : client.Voice (others + held + {.online}) := voice_claim.mpr ⟨kept, online⟩
    rw [add_assoc] at holds
    split
    · exact speak_meets plain holds
    · have plain' : .on ∉ held + {.online} := plain_add plain (by decide)
      apply (attempt_voice (initAudio_voice none .nothing plain')).andThen holds False.elim
      intro started client others holds
      split
      · exact speak_meets plain holds
      · exact Async.meets_pure ⟨.inl trivial, (Voice.dropOnline holds).1⟩

/-! ### The start and the end of the client -/

theorem disconnect_voice : CallsClient.disconnect.Keeps voiceRules held True := by
  intro client others kept
  apply Async.meets_get_bind
  split
  · exact Async.meets_pure ⟨.inl trivial, kept⟩
  · apply Async.meets_modify_bind
    have closed : Voice { client with closed := true, peer := false } (others + held + {.closed}) := by
      refine voice_claim.mpr ⟨⟨fun opened => (by cases opened), kept.heard, fun opened => (by cases opened), fun claim listed => ?_⟩, rfl⟩
      have granted := kept.granted claim listed
      cases claim with
      | online | on => exact fun opened => by cases opened
      | video track => exact granted
      | closed => rfl
    rw [add_assoc] at closed
    apply cleanup_voice.andThen closed False.elim
    intro _ client others closed
    replace closed : client.Voice (others + (held + {.closed})) := closed
    rw [← add_assoc] at closed
    obtain ⟨kept, closed⟩ := voice_claim.mp closed
    have never (opened : client.closed = false) : False := by cases opened.symm.trans closed
    have left : Voice (if client.ws then { client with ws := false }.send .leave else client) (others + held) := by
      split
      · refine ⟨fun opened => (never opened).elim, kept.heard, fun opened => (never opened).elim, fun claim listed => ?_⟩
        have granted := kept.granted claim listed
        cases claim with
        | online | on => exact fun opened => (never opened).elim
        | video | closed => exact granted
      · exact kept
    apply Async.meets_modify_bind
    have closes : (Async.modify (emit .close) : ClientAsync Unit).Keeps voiceRules held True := emit_voice .close
    exact closes _ _ left

theorem initializersDone_voice (failure : Option ClientError) : (initializersDone failure).Keeps voiceRules held True := by
  cases failure with
  | none =>
    apply Async.Keeps.get.bind
    intro client
    split
    · exact cleanup_voice
    · exact quiet_keeps fun client => ⟨.refl _, rfl, rfl, rfl, fun _ => rfl, id⟩
  | some err => exact quiet_keeps fun client => ⟨.refl _, rfl, rfl, rfl, fun _ => rfl, id⟩

theorem initializerDone_voice (result : Except ClientError Unit) : (initializerDone result).Keeps voiceRules held True := by
  apply Async.Keeps.bind
  · exact same_keeps fun _ => ⟨rfl, rfl, rfl, rfl, rfl, rfl⟩
  · intro _
    apply Async.Keeps.get.bind
    intro client
    split
    · exact .pure
    · split
      · exact initializersDone_voice none
      · exact .pure
    · apply Async.Keeps.bind
      · exact same_keeps fun _ => ⟨rfl, rfl, rfl, rfl, rfl, rfl⟩
      · exact fun _ => initializersDone_voice _

theorem initializer_voice {computation : ClientAsync Unit} (keeps : computation.Keeps voiceRules 0 True) (kept : client.Voice claims) :
    (initializer computation).Accounts voiceRules client claims := by
  apply keeps client claims ((add_zero claims).symm ▸ kept)
  intro result client others ended
  exact (initializerDone_voice result).toProgram (add_zero others ▸ ended.2)

theorem startInitializers_voice (plain : .on ∉ held) : startInitializers.Keeps voiceRules held True := by
  apply Async.Keeps.get.bind
  intro client
  split
  · exact .throw trivial
  · apply (updateDevices_voice _ plain).bind
    intro _
    apply Async.Keeps.get.bind
    intro client
    apply Async.Keeps.bind
    · exact same_keeps fun _ => ⟨rfl, rfl, rfl, rfl, rfl, rfl⟩
    · intro _
      apply Async.Keeps.bind
      · exact .fork fun _ _ => initializer_voice (initAudio_voice none .nothing plain_zero)
      · intro _
        split
        · exact .fork fun _ _ => initializer_voice (initVideo_voice false none plain_zero)
        · exact .pure

theorem init_voice (plain : .on ∉ held) : CallsClient.init.Keeps voiceRules held True := by
  apply Async.Keeps.get.bind
  intro client
  apply Async.Keeps.bind
  · exact same_keeps fun _ => ⟨rfl, rfl, rfl, rfl, rfl, rfl⟩
  · intro _
    split
    · apply (await_voice _ plain).bind
      intro answer
      split
      · apply Async.Keeps.bind
        · exact same_keeps fun _ => ⟨rfl, rfl, rfl, rfl, rfl, rfl⟩
        · exact fun _ => startInitializers_voice plain
      · exact .pure
    · exact startInitializers_voice plain

/-! ### All runs -/

theorem sendIfConnected_voice {event : Option ClientEvent} {message : ClientSent} (other : message.isVoice = false) :
    (sendIfConnected event message).Keeps voiceRules held True := by
  apply quiet_keeps
  intro client
  cases event with
  | none =>
    dsimp only
    split
    · exact .send other
    · exact .of_eq ⟨rfl, rfl, rfl, rfl, rfl, rfl⟩
  | some event =>
    have emits : client.Quiet (client.emit event) := .of_eq ⟨rfl, rfl, rfl, rfl, rfl, rfl⟩
    dsimp only
    split
    · exact emits.trans (.send other)
    · exact emits

theorem Quiet.addRemoteStream (client : CallsClient) (kinds : List TrackKind) : client.Quiet (client.addRemoteStream kinds) := by
  have tracks (media : Media EndedHandler) :
      media.NoLouder (kinds.foldl (fun media kind => media.newTrack { kind, captures := false }) media) := by
    induction kinds generalizing media with
    | nil => exact .refl media
    | cons kind kinds ih => exact (Media.NoLouder.newTrack media _).trans (ih _)
  exact .ofMedia ((tracks client.media).trans (.newStream _ _)) ⟨rfl, rfl, rfl, rfl, rfl⟩

/-- Whatever is called, the microphone is on only while the server has been told so. -/
theorem handle_voice {call : ClientCall} (kept : client.Voice others) (taken : client.takes call = true)
    (mutes : call = .mute → .on ∉ others) : (handle call).toProgram.Accounts voiceRules client others := by
  cases call with
  | init => exact (init_voice plain_zero).toProgram kept
  | setAudioInputDevice device => exact (setAudioInputDevice_voice device true .nothing plain_zero).toProgram kept
  | setAudioOutputDevice device =>
    have keeps : (setAudioOutputDevice device true).Keeps voiceRules 0 True := setAudioOutputDevice_voice device true
    exact keeps.toProgram kept
  | setVideoInputDevice device => exact (setVideoInputDevice_voice device plain_zero).toProgram kept
  | mute => exact (mute_meets kept (mutes rfl)).toProgram
  | unmute => exact (unmute_voice plain_zero).toProgram kept
  | shareScreen => exact (shareScreen_voice plain_zero).toProgram kept
  | unshareScreen =>
    have keeps : unshareScreen.Keeps voiceRules 0 True := unshareScreen_voice
    exact keeps.toProgram kept
  | startVideo => exact (startVideo_voice plain_zero).toProgram kept
  | stopVideo =>
    have keeps : stopVideo.Keeps voiceRules 0 True := stopVideo_voice
    exact keeps.toProgram kept
  | raiseHand =>
    have keeps : (sendIfConnected (some .raiseHand) .raiseHand).Keeps voiceRules 0 True := sendIfConnected_voice rfl
    exact keeps.toProgram kept
  | unraiseHand =>
    have keeps : (sendIfConnected (some .lowerHand) .unraiseHand).Keeps voiceRules 0 True := sendIfConnected_voice rfl
    exact keeps.toProgram kept
  | setBlurSettings blurEnabled => exact (setBlurSettings_voice blurEnabled plain_zero).toProgram kept
  | sendUserReaction =>
    have keeps : (sendIfConnected none .react).Keeps voiceRules 0 True := sendIfConnected_voice rfl
    exact keeps.toProgram kept
  | disconnect =>
    have keeps : CallsClient.disconnect.Keeps voiceRules 0 True := disconnect_voice
    exact keeps.toProgram kept
  | destroy => exact Voice.quiet kept (.of_eq ⟨rfl, rfl, rfl, rfl, rfl, rfl⟩)
  | setBgBlurData data => exact Voice.quiet kept (.of_eq ⟨rfl, rfl, rfl, rfl, rfl, rfl⟩)
  | devicechange =>
    have keeps : (updateDevices .nothing).Keeps voiceRules 0 True := updateDevices_voice _ plain_zero
    exact keeps.toProgram kept
  | joined =>
    have online : client.ws = true := (Bool.and_eq_true_iff.mp taken).2
    apply Async.Meets.toProgram
    apply Async.meets_modify
    split
    · exact kept
    · refine ⟨kept.on, kept.heard, fun _ _ => online, fun claim listed => ?_⟩
      have granted := kept.granted claim listed
      cases claim <;> exact granted
  | remoteStream kinds => exact Voice.quiet kept (.addRemoteStream client kinds)
  | trackEnded track =>
    have keeps : (stopAndEnd track).Keeps voiceRules 0 True := stopAndEnd_voice track
    exact keeps.toProgram kept

end CallsClient

/-- The user does not mute while another microphone is on its way. -/
def MutesApart (client : CallsClientState) : CallsClientStep → Prop
  | .call .mute => ∀ task ∈ client.tasks, task.request.switches = false
  | _ => True

instance (client : CallsClientState) (step : CallsClientStep) : Decidable (MutesApart client step) := by
  unfold MutesApart
  split <;> infer_instance

theorem plain_heldBy {held : List (AsyncTask CallsClient ClientRequest ClientAnswer × VoiceClaims)}
    (holds : ∀ entry ∈ held, entry.1.Holds voiceRules entry.2) (apart : ∀ entry ∈ held, entry.1.request.switches = false) :
    .on ∉ heldBy held := by
  induction held with
  | nil => exact Multiset.notMem_zero _
  | cons entry held ih =>
    rw [List.forall_mem_cons] at holds apart
    rw [heldBy_cons, Multiset.mem_add, not_or]
    exact ⟨holds.1.may apart.1, ih holds.2 apart.2⟩

theorem voice_initial (config : CallsClientConfig) : CallsClient.Voice { config } 0 where
  on _ _ is := by cases is
  heard _ is := by cases is
  online _ is := by cases is
  granted _ listed := absurd listed (Multiset.notMem_zero _)

theorem voice_accounted {config : CallsClientConfig} {client : CallsClientState}
    (reached : ((callsClient config).restrict MutesApart).Reachable client) : client.Accounted voiceRules := by
  refine System.Reachable.invariant_of_allowed ?_ ?_ reached
  · rintro _ rfl
    exact ⟨[], ⟨rfl, fun _ listed => by cases listed⟩, voice_initial config⟩
  · intro client step after accounted apart taken
    cases step with
    | call call =>
      simp only [callsClient, callsClientNext?] at taken
      split at taken
      · next takes =>
        obtain rfl := Option.some.inj taken
        obtain ⟨held, holdings, kept⟩ := accounted
        apply AsyncState.accounted_start CallsClient.updateDevicesFrom_voice holdings
        apply CallsClient.handle_voice kept takes
        rintro rfl
        apply plain_heldBy holdings.holds
        intro entry listed
        apply apart
        rw [← holdings.listed]
        exact List.mem_map_of_mem listed
      · cases taken
    | answer place answer =>
      simp only [callsClient, callsClientNext?] at taken
      split at taken
      · next fits =>
        apply accounted.resolve CallsClient.updateDevicesFrom_voice ?_ taken
        intro task found
        rw [found] at fits
        exact fits
      · cases taken

/-- Alice joins and speaks, and changes to her headset. -/
def aliceSpeaks : List CallsClientStep :=
  let microphone : MediaDevice := { deviceId := "microphone", label := "Microphone", kind := .audioinput }
  let headset : MediaDevice := { deviceId := "headset", label := "Headset", kind := .audioinput }
  let devices : ClientAnswer := .devices [microphone, headset]
  [.call .init, .answer 0 devices, .answer 0 (.granted "microphone" false), .answer 0 devices,
    .answer 0 (.granted "microphone" false), .call .joined, .call .unmute, .answer 0 .done, .call (.setAudioInputDevice headset)]

/-- If she mutes before the headset is there, it is on all the same. -/
theorem microphone_left_on : ∃ client,
    (callsClient { enableVideo := false }).run? ⟨{ config := { enableVideo := false } }, []⟩
      (aliceSpeaks ++ [.call .mute, .answer 0 (.granted "headset" false)]) = some client ∧
      client.state.audioTrack = some 2 ∧ client.state.media.isEnabled 2 = true ∧ client.state.said = some .mute := by
  have computed : ((callsClient { enableVideo := false }).run? ⟨{ config := { enableVideo := false } }, []⟩
      (aliceSpeaks ++ [.call .mute, .answer 0 (.granted "headset" false)])).map
        (fun client => (client.state.audioTrack, client.state.media.isEnabled 2, client.state.said)) = some (some 2, true, some .mute) := by
    decide +kernel
  obtain ⟨client, ran, shape⟩ := Option.map_eq_some_iff.mp computed
  simp only [Prod.mk.injEq] at shape
  exact ⟨client, ran, shape⟩

end Calls.Webapp
