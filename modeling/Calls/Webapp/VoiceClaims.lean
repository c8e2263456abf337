import Mathlib.Algebra.Order.Group.Multiset
import Calls.Webapp.CallsClient

/-! When the microphone is on: what the server was told last, and what leaves both as they are. -/

set_option autoImplicit false

namespace Calls.Webapp

/-- What an operation in flight relies on. -/
inductive VoiceClaim where
  /-- There was a socket. -/
  | online
  /-- The microphone was on when a new one was asked for. -/
  | on
  /-- The track is one of a camera, a canvas or a screen. -/
  | video (track : Nat)
  | closed
  deriving DecidableEq

abbrev VoiceClaims := Multiset VoiceClaim

def ClientSent.isVoice : ClientSent → Bool
  | .mute | .unmute => true
  | _ => false

/-- A new microphone is to take the place of the one in use. -/
def ClientRequest.switches : ClientRequest → Bool
  | .userMedia .switchAudio _ _ => true
  | _ => false

namespace CallsClient

/-- Whether the server was last told that the user is muted, or that he is not. -/
def said (client : CallsClient) : Option ClientSent := (client.sent.filter (·.isVoice)).getLast?

def Grants (client : CallsClient) : VoiceClaim → Prop
  | .online => client.closed = false → client.ws = true
  | .on => client.closed = false → client.said = some .unmute
  | .video track => client.media.kindOf? track = some .video
  | .closed => client.closed = true

structure Voice (client : CallsClient) (claims : VoiceClaims) : Prop where
  on : client.closed = false → ∀ track, client.audioTrack = some track → client.media.isEnabled track = true →
    client.said = some .unmute
  heard : ∀ track, client.audioTrack = some track → client.media.kindOf? track = some .audio
  online : client.closed = false → client.peer = true → client.ws = true
  granted : ∀ claim ∈ claims, client.Grants claim

/-- The microphone is not turned on, and nothing is said about it. -/
structure Quiet (before after : CallsClient) : Prop where
  media : before.media.NoLouder after.media
  audioTrack : after.audioTrack = before.audioTrack
  said : after.said = before.said
  closed : after.closed = before.closed
  ws : before.ws = true → after.ws = true
  peer : after.peer = true → before.peer = true

variable {client after : CallsClient} {claims more : VoiceClaims} {claim : VoiceClaim}

theorem said_send {message : ClientSent} (other : message.isVoice = false) : (client.send message).said = client.said := by
  simp [said, send, other]

theorem said_send_voice {message : ClientSent} (voice : message.isVoice = true) : (client.send message).said = some message := by
  simp [said, send, voice]

theorem Quiet.grants (quiet : client.Quiet after) (granted : client.Grants claim) : after.Grants claim := by
  cases claim with
  | online => exact fun opened => quiet.ws (granted (quiet.closed.symm.trans opened))
  | on => exact fun opened => quiet.said.trans (granted (quiet.closed.symm.trans opened))
  | video track => exact quiet.media.kinds track .video granted
  | closed => exact quiet.closed.trans granted

theorem Voice.quiet (kept : client.Voice claims) (quiet : client.Quiet after) : after.Voice claims where
  on opened track current on := by
    have before := quiet.audioTrack.symm.trans current
    rw [quiet.said]
    exact kept.on (quiet.closed.symm.trans opened) track before (quiet.media.enabled track (kept.heard track before) on)
  heard track current := quiet.media.kinds track .audio (kept.heard track (quiet.audioTrack.symm.trans current))
  online opened connected := quiet.ws (kept.online (quiet.closed.symm.trans opened) (quiet.peer connected))
  granted claim listed := quiet.grants (kept.granted claim listed)

theorem voice_add : client.Voice (claims + more) ↔ client.Voice claims ∧ ∀ claim ∈ more, client.Grants claim := by
  constructor
  · intro kept
    refine ⟨⟨kept.on, kept.heard, kept.online, fun claim listed => ?_⟩, fun claim listed => ?_⟩
    · exact kept.granted claim (Multiset.mem_add.mpr (.inl listed))
    · exact kept.granted claim (Multiset.mem_add.mpr (.inr listed))
  · rintro ⟨kept, granted⟩
    refine ⟨kept.on, kept.heard, kept.online, fun claim listed => ?_⟩
    exact (Multiset.mem_add.mp listed).elim (kept.granted claim) (granted claim)

theorem voice_claim : client.Voice (claims + {claim}) ↔ client.Voice claims ∧ client.Grants claim := by
  rw [voice_add]
  simp

/-! ### Changes that are not heard -/

/-- The fields that the voice does not depend on. -/
theorem Quiet.of_eq (same : after.media = client.media ∧ after.audioTrack = client.audioTrack ∧ after.sent = client.sent ∧
    after.closed = client.closed ∧ after.ws = client.ws ∧ after.peer = client.peer) : client.Quiet after where
  media := same.1 ▸ .refl _
  audioTrack := same.2.1
  said := congrArg (fun sent => (sent.filter (·.isVoice)).getLast?) same.2.2.1
  closed := same.2.2.2.1
  ws := same.2.2.2.2.1 ▸ id
  peer := same.2.2.2.2.2 ▸ id

theorem Quiet.ofMedia (media : client.media.NoLouder after.media) (same : after.audioTrack = client.audioTrack ∧
    after.sent = client.sent ∧ after.closed = client.closed ∧ after.ws = client.ws ∧ after.peer = client.peer) :
    client.Quiet after where
  media := media
  audioTrack := same.1
  said := congrArg (fun sent => (sent.filter (·.isVoice)).getLast?) same.2.1
  closed := same.2.2.1
  ws := same.2.2.2.1 ▸ id
  peer := same.2.2.2.2 ▸ id

theorem Quiet.send {message : ClientSent} (other : message.isVoice = false) : client.Quiet (client.send message) :=
  ⟨.refl _, rfl, said_send other, rfl, id, id⟩

theorem Quiet.stopTrack (client : CallsClient) (track : Nat) : client.Quiet (client.stopTrack track) :=
  .ofMedia (.stop _ track) ⟨rfl, rfl, rfl, rfl, rfl⟩

theorem Quiet.trans {last : CallsClient} (left : client.Quiet after) (right : after.Quiet last) : client.Quiet last where
  media := left.media.trans right.media
  audioTrack := right.audioTrack.trans left.audioTrack
  said := right.said.trans left.said
  closed := right.closed.trans left.closed
  ws online := right.ws (left.ws online)
  peer connected := left.peer (right.peer connected)

theorem Voice.setEnabled (kept : client.Voice claims) (enabled : Bool) (on : enabled = true → client.Grants .on) (track : Nat) :
    (client.setEnabled enabled track).Voice claims := by
  cases enabled with
  | false => exact kept.quiet (.ofMedia (.mute client.media track) ⟨rfl, rfl, rfl, rfl, rfl⟩)
  | true =>
    refine ⟨fun opened _ _ _ => on rfl opened, fun other current => ?_, kept.online, fun claim listed => ?_⟩
    · exact Media.kindOf?_setEnabled.trans (kept.heard other current)
    · have granted := kept.granted claim listed
      cases claim with
      | online | on | closed => exact granted
      | video other => exact Media.kindOf?_setEnabled.trans granted

/-- Another track is that of the microphone from now on. -/
theorem Voice.setAudioTrack {track : Nat} (kept : client.Voice claims) (audio : client.media.kindOf? track = some .audio)
    (on : client.closed = false → client.media.isEnabled track = true → client.said = some .unmute) :
    Voice { client with audioTrack := some track } claims where
  on opened other current enabled := by
    cases Option.some.inj current
    exact on opened enabled
  heard other current := by
    cases Option.some.inj current
    exact audio
  online := kept.online
  granted claim listed := by
    have granted := kept.granted claim listed
    cases claim <;> exact granted

end CallsClient

end Calls.Webapp
