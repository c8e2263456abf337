import Calls.Library.MediaStreams
import Calls.Library.System
import Calls.Library.Tasks

/-! The calls client: how it opens the microphone, the camera and the screen, and how it lets go of
them. Its functions await answers of the browser and of the RTC connection; in between the user, the
devices and the server go on. -/

set_option autoImplicit false

namespace Calls.Webapp

inductive DeviceKind where
  | audioinput
  | audiooutput
  | videoinput
  deriving DecidableEq

structure MediaDevice where
  deviceId : String
  label : String
  kind : DeviceKind
  deriving DecidableEq

/-- A device as it was stored. Of one stored by an older version only the id is known. -/
structure StoredDevice where
  deviceId : String
  label : Option String := none
  deriving DecidableEq

def MediaDevice.stored (device : MediaDevice) : StoredDevice := { deviceId := device.deviceId, label := some device.label }

structure BgBlurData where
  blurBackground : Bool := false
  blurIntensity : Int := 0
  deriving DecidableEq

structure CallsClientConfig where
  enableVideo : Bool
  enableAV1 : Bool := false
  simulcast : Bool := false
  isSecureContext : Bool := true
  deriving DecidableEq

inductive ClientError where
  | audioInputPermissions
  | audioInputMissing
  | videoInputPermissions
  | videoInputMissing
  | insecureContext
  /-- What the browser or the RTC connection throws, or a property read of null. -/
  | native
  deriving DecidableEq

/-- What the client does when a track of its ends: behind the track of a canvas there is the camera,
beside that of a screen there may be its audio. -/
inductive EndedHandler where
  | canvas (camera : Nat)
  | screen (audio : Option Nat)
  deriving DecidableEq

inductive ClientEvent where
  | devicechange
  | devicefallback (device : MediaDevice)
  | initaudio
  | initvideo
  | localScreenStream (stream : Nat)
  | localVideoStream (stream : Nat)
  | mute
  | unmute
  | raiseHand
  | lowerHand
  | videoOn
  | videoOff
  | error (err : ClientError)
  | close
  deriving DecidableEq

inductive ClientSent where
  | mute
  | unmute
  | screenOn (screenStreamID : Nat)
  | screenOff
  | videoOn (videoStreamID : Nat)
  | videoOff
  | raiseHand
  | unraiseHand
  | react
  | leave
  deriving DecidableEq

/-- What the client asks of the RTC connection. -/
inductive PeerCall where
  | addTrack (track : Nat)
  | addStream (stream : Nat)
  | removeTrack (track : Nat)
  | replaceTrack (old : Option Nat) (track : Option Nat)
  deriving DecidableEq

structure CallsClient where
  config : CallsClientConfig
  media : Media EndedHandler := {}
  /-- Whether the socket, respectively the RTC connection, is there. -/
  ws : Bool := false
  peer : Bool := false
  localScreenTrack : Option Nat := none
  localVideoStream : Option Nat := none
  currentAudioInputDevice : Option MediaDevice := none
  currentAudioOutputDevice : Option MediaDevice := none
  currentVideoInputDevice : Option MediaDevice := none
  voiceTrackAdded : Bool := false
  videoTrackAdded : Bool := false
  videoSenderTrackID : Option Nat := none
  streams : List Nat := []
  stream : Option Nat := none
  audioInputs : List MediaDevice := []
  audioOutputs : List MediaDevice := []
  videoDevices : List MediaDevice := []
  audioTrack : Option Nat := none
  closed : Bool := false
  av1Codec : Bool := false
  segmenter : Bool := false
  /-- Whether `init` was called, and whether the client listens to the devices. -/
  initialized : Bool := false
  listening : Bool := false
  /-- How many of the initializers are not through, and whether one has failed. -/
  initializing : Nat := 0
  initializerFailed : Bool := false
  defaultAudioInput : Option StoredDevice := none
  defaultAudioOutput : Option StoredDevice := none
  defaultVideoInput : Option StoredDevice := none
  bgBlurData : BgBlurData := {}
  emitted : List ClientEvent := []
  sent : List ClientSent := []
  peerCalls : List PeerCall := []
  deriving DecidableEq

/-- Which acquisition of a device a request is part of. -/
inductive During where
  | nothing
  | audio
  | video
  deriving DecidableEq

/-- An acquisition of the microphone that begins here, or is part of another one. -/
def During.orAudio : During → During
  | .nothing => .audio
  | during => during

/-- What a device is asked for. -/
inductive MediaPurpose where
  | initAudio
  | switchAudio
  | initVideo
  | switchVideo
  deriving DecidableEq

inductive ClientRequest where
  | videoCodec
  | devices (during : During)
  | userMedia (purpose : MediaPurpose) (deviceId : Option String) (during : During)
  | displayMedia
  | peer (call : PeerCall)
  deriving DecidableEq

inductive ClientAnswer where
  | codec (supported : Bool)
  | devices (devices : List MediaDevice)
  /-- A device with the given id is open; a screen may come with its audio. -/
  | granted (deviceId : String) (withAudio : Bool)
  | done
  | rejected
  deriving DecidableEq

def ClientRequest.fits : ClientRequest → ClientAnswer → Bool
  | .videoCodec, .codec _ => true
  | .devices _, .devices _ => true
  | .userMedia _ _ _, .granted _ _ => true
  | .displayMedia, .granted _ _ => true
  | .peer _, .done => true
  | .videoCodec, .rejected => false
  | _, .rejected => true
  | _, _ => false

abbrev ClientProgram := AsyncProgram CallsClient ClientRequest ClientAnswer

abbrev ClientAsync (α : Type) := Async CallsClient ClientRequest ClientAnswer ClientError α

namespace CallsClient

def emit (event : ClientEvent) (client : CallsClient) : CallsClient := { client with emitted := client.emitted ++ [event] }

def send (message : ClientSent) (client : CallsClient) : CallsClient := { client with sent := client.sent ++ [message] }

def stopTrack (track : Nat) (client : CallsClient) : CallsClient := { client with media := client.media.stop track }

def setEnabled (enabled : Bool) (track : Nat) (client : CallsClient) : CallsClient :=
  { client with media := client.media.setEnabled enabled track }

/-- A new stream with one new track. -/
def openTrack (track : MediaTrack EndedHandler) (client : CallsClient) : CallsClient :=
  { client with media := (client.media.newTrack track).newStream [client.media.tracks.length] }

/-- The stored device that is still there, by its id or its label; of several the one with its id. -/
def storedDevice? (stored : Option StoredDevice) (devices : List MediaDevice) : Option MediaDevice :=
  stored.bind fun selected =>
    if selected.deviceId = "" then none
    else
      match devices.filter fun device => device.deviceId = selected.deviceId ∨ some device.label = selected.label with
      | [] => none
      | [device] => some device
      | several => several.find? fun device => device.deviceId = selected.deviceId

/-- The stored camera that is still there, by its id or its label, if it is the only one or the only one with its id. -/
def storedVideoDevice? (stored : Option StoredDevice) (devices : List MediaDevice) : Option MediaDevice :=
  stored.bind fun selected =>
    if selected.deviceId = "" then none
    else
      match devices.filter fun device => device.deviceId = selected.deviceId ∨ some device.label = selected.label with
      | [] => none
      | [device] => some device
      | several =>
        match several.filter fun device => device.deviceId = selected.deviceId with
        | [device] => some device
        | _ => none

/-! ### What the functions are made of -/

def askPeer (call : PeerCall) : ClientAsync Unit := do
  let client ← Async.get
  if client.peer then Async.modify fun client => { client with peerCalls := client.peerCalls ++ [call] }
  else Async.throw .native

/-- Ask the RTC connection and await its answer. -/
def awaitPeer (call : PeerCall) : ClientAsync Unit := do
  askPeer call
  match ← Async.await (.peer call) with
  | .done => pure ()
  | _ => Async.throw .native

/-- `this.ws.send`, which throws without a socket. -/
def sendOnSocket (message : ClientSent) : ClientAsync Unit := do
  let client ← Async.get
  if client.ws then Async.modify (send message) else Async.throw .native

/-- The first track of a kind in a stream; reading on without one throws. -/
def firstTrack (kind : TrackKind) (stream : Nat) : ClientAsync Nat := do
  let client ← Async.get
  match client.media.getTracksOf kind stream with
  | [] => Async.throw .native
  | track :: _ => pure track

/-- `getUserMedia`: a new stream with one track, of the device if one is given. -/
def getUserMedia (kind : TrackKind) (purpose : MediaPurpose) (deviceId : Option String) (during : During) :
    ClientAsync Nat := do
  match ← Async.await (.userMedia purpose deviceId during) with
  | .granted deviceId _ => do
    let client ← Async.get
    Async.modify (openTrack { kind, captures := true, deviceId })
    pure client.media.streams.length
  | _ => Async.throw .native

/-- What follows the end of a screen: its tracks are taken from the RTC connection. -/
def removeScreen (screenTrack : Nat) (screenAudioTrack : Option Nat) : ClientAsync Unit := do
  Async.tryCatch (do
    awaitPeer (.removeTrack screenTrack)
    match screenAudioTrack with
    | some track => awaitPeer (.removeTrack track)
    | none => pure ()) fun _ => pure ()
  sendOnSocket .screenOff

/-- `track.dispatchEvent(new Event('ended'))`. -/
def dispatchEnded (track : Nat) : ClientAsync Unit := do
  let client ← Async.get
  match client.media.onended? track with
  | none => pure ()
  | some (.canvas camera) => Async.modify (stopTrack camera)
  | some (.screen audio) => do
    Async.modify fun client =>
      { (match audio with | some track => client.stopTrack track | none => client) with localScreenTrack := none }
    let client ← Async.get
    if client.ws ∧ client.peer then Async.fork (removeScreen track audio).toProgram else pure ()

def stopAndEnd (track : Nat) : ClientAsync Unit := do
  Async.modify (stopTrack track)
  dispatchEnded track

def stopTracks : List Nat → ClientAsync Unit
  | [] => pure ()
  | track :: tracks => do
    stopAndEnd track
    stopTracks tracks

def stopStreams : List Nat → ClientAsync Unit
  | [] => pure ()
  | stream :: streams => do
    let client ← Async.get
    stopTracks (client.media.getTracks stream)
    stopStreams streams

def cleanup : ClientAsync Unit := do
  let client ← Async.get
  stopStreams client.streams

/-! ### The devices -/

def updateDevices (during : During) : ClientAsync Unit := Async.call (.devices during)

/-- The camera that `initVideo` asks for. -/
def videoDeviceToInit (deviceId : Option String) : ClientAsync (Option String) := do
  let client ← Async.get
  match deviceId, client.currentVideoInputDevice with
  | some deviceId, _ => pure (some deviceId)
  | none, some device => pure (some device.deviceId)
  | none, none =>
    if (client.defaultVideoInput.any fun stored => stored.deviceId ≠ "") = false then pure none
    else
      match storedVideoDevice? client.defaultVideoInput client.videoDevices with
      | some device => do
        Async.modify fun client => { client with currentVideoInputDevice := some device }
        pure (some device.deviceId)
      | none => do
        Async.modify fun client => { client with defaultVideoInput := none }
        pure none

def initVideo (startVideo : Bool) (deviceId : Option String) : ClientAsync Unit := do
  let deviceId ← videoDeviceToInit deviceId
  Async.tryCatch (do
    let stream ← getUserMedia .video .initVideo deviceId .video
    -- Some browsers leave the labels of the devices out until permission is granted.
    updateDevices .video
    if startVideo then do
      Async.modify fun client => { client with localVideoStream := some stream, streams := client.streams ++ [stream] }
      let track ← firstTrack .video stream
      Async.modify (setEnabled false track)
    else do
      let track ← firstTrack .video stream
      stopAndEnd track
    Async.modify (emit .initvideo)) fun _ => do
      let client ← Async.get
      if client.videoDevices = [] then Async.throw .videoInputMissing else Async.throw .videoInputPermissions

/-- What `initAudio` does once permission is granted, where no device was given: it tries the stored one again. -/
def initSelectedAudio (during : During) : ClientAsync Unit := do
  let client ← Async.get
  let selected := storedDevice? client.defaultAudioInput client.audioInputs
  Async.modify fun client =>
    { client with
      currentAudioInputDevice := selected <|> client.currentAudioInputDevice
      currentAudioOutputDevice := storedDevice? client.defaultAudioOutput client.audioOutputs <|> client.currentAudioOutputDevice }
  let stream ← getUserMedia .audio .initAudio (selected.map MediaDevice.deviceId) during
  Async.modify fun client => { client with stream := some stream }

/-- The end of `initAudio`: the stream that is there by then is the one with the microphone. -/
def keepAudio : ClientAsync Unit := do
  let client ← Async.get
  match client.stream with
  | none => Async.throw .native
  | some stream => do
    let track ← firstTrack .audio stream
    Async.modify fun client => { client with audioTrack := some track, streams := client.streams ++ [stream] }
    Async.modify (setEnabled false track)
    Async.modify (emit .initaudio)

def initAudio (deviceId : Option String) (during : During) : ClientAsync Unit :=
  let during := during.orAudio
  Async.tryCatch (do
    let stream ← getUserMedia .audio .initAudio deviceId during
    Async.modify fun client => { client with stream := some stream }
    if deviceId = none then do
      let client ← Async.get
      stopTracks (client.media.getTracksOf .audio stream)
      updateDevices during
      initSelectedAudio during
    else updateDevices during
    keepAudio) fun _ => do
      let client ← Async.get
      if client.audioInputs = [] then Async.throw .audioInputMissing else Async.throw .audioInputPermissions

/-- The new track takes the place of the old one. -/
def replaceAudioTrack (oldTrack : Nat) (isEnabled : Bool) (newStream : Nat) : ClientAsync Unit := do
  Async.modify fun client => { client with streams := client.streams ++ [newStream] }
  let newTrack ← firstTrack .audio newStream
  Async.modify (stopTrack oldTrack)
  let client ← Async.get
  match client.stream with
  | none => Async.throw .native
  | some stream => do
    Async.modify fun client =>
      { client with media := ((client.media.removeTrack stream oldTrack).addTrack stream newTrack).setEnabled isEnabled newTrack }
    if isEnabled then askPeer (.replaceTrack (some oldTrack) (some newTrack))
    else Async.modify fun client => { client with voiceTrackAdded := false }
    Async.modify fun client => { client with audioTrack := some newTrack }

def setAudioInputDevice (device : MediaDevice) (store : Bool) (during : During) : ClientAsync Unit := do
  let client ← Async.get
  if client.peer = false then pure ()
  else do
    Async.modify fun client =>
      { client with
        defaultAudioInput := if store then some device.stored else client.defaultAudioInput
        currentAudioInputDevice := some device }
    Async.modify (emit .devicechange)
    match client.audioTrack, client.stream with
    | some oldTrack, some _ => do
      let newStream ← getUserMedia .audio .switchAudio (some device.deviceId) during
      replaceAudioTrack oldTrack (client.media.isEnabled oldTrack) newStream
    | _, _ => initAudio (some device.deviceId) during

def setAudioOutputDevice (device : MediaDevice) (store : Bool) : ClientAsync Unit := do
  let client ← Async.get
  if client.peer = false then pure ()
  else
    Async.modify fun client =>
      { client with
        defaultAudioOutput := if store then some device.stored else client.defaultAudioOutput
        currentAudioOutputDevice := some device }.emit .devicechange

def setAudioDevice (kind : DeviceKind) (device : MediaDevice) (during : During) : ClientAsync Unit :=
  if kind = .audioinput then setAudioInputDevice device false during else setAudioOutputDevice device false

/-- Fall back to the default device where the current one is gone, or go back to the selected one. -/
def handleAudioDeviceFallback (kind : DeviceKind) (during : During) : ClientAsync Unit := do
  let client ← Async.get
  let currentDevice := if kind = .audioinput then client.currentAudioInputDevice else client.currentAudioOutputDevice
  let devices := if kind = .audioinput then client.audioInputs else client.audioOutputs
  let stored := if kind = .audioinput then client.defaultAudioInput else client.defaultAudioOutput
  match devices.any (fun device => currentDevice.map MediaDevice.deviceId = some device.deviceId), devices with
  | false, device :: _ => do
    setAudioDevice kind device during
    Async.modify (emit (.devicefallback device))
  | _, _ =>
    match storedDevice? stored devices with
    | none => pure ()
    | some selected =>
      if some selected.label = currentDevice.map MediaDevice.label then pure ()
      else do
        setAudioDevice kind selected during
        Async.modify (emit (.devicefallback selected))

/-- `updateDevices` from where the devices are enumerated. -/
def devicesEnumerated (during : During) (answer : ClientAnswer) : ClientAsync Unit :=
  Async.tryCatch (do
    match answer with
    | .devices devices => do
      Async.modify fun client =>
        { client with
          audioInputs := devices.filter fun device => device.kind = .audioinput
          audioOutputs := devices.filter fun device => device.kind = .audiooutput
          videoDevices :=
            if client.config.enableVideo then devices.filter fun device => device.kind = .videoinput else client.videoDevices }
      let client ← Async.get
      if client.currentAudioInputDevice.isSome then handleAudioDeviceFallback .audioinput during else pure ()
      let client ← Async.get
      if client.currentAudioOutputDevice.isSome then handleAudioDeviceFallback .audiooutput during else pure ()
      Async.modify (emit .devicechange)
    | _ => Async.throw .native) fun _ => pure ()

/-- The procedure that the programs call. -/
def updateDevicesFrom : AsyncProcedure CallsClient ClientRequest ClientAnswer
  | .devices during, answer, next => devicesEnumerated during answer fun _ => next
  | _, _, next => next

/-! ### The calls of the user and of the server -/

/-- The track of a canvas that shows the camera with its background blurred takes the place of the camera's. -/
def initBgBackgroundTrack (stream : Nat) : ClientAsync Nat := do
  let localVideoTrack ← firstTrack .video stream
  let client ← Async.get
  if client.segmenter then pure localVideoTrack
  else do
    let outTrack := client.media.tracks.length
    let outStream := client.media.streams.length
    Async.modify (openTrack { kind := .video, captures := false, onended := some (.canvas localVideoTrack) })
    Async.modify fun client =>
      { client with
        streams := client.streams ++ [outStream]
        media := (client.media.removeTrack stream localVideoTrack).addTrack stream outTrack
        segmenter := true }
    pure outTrack

/-- The track to show of a stream of the camera. -/
def blurred (stream track : Nat) : ClientAsync Nat := do
  let client ← Async.get
  if client.bgBlurData.blurBackground ∧ 0 < client.bgBlurData.blurIntensity then initBgBackgroundTrack stream else pure track

/-- The new track takes the place of the old one, and the new stream that of the old one. -/
def replaceVideoTrack (videoTrack : Nat) (isEnabled oldSegmenter : Bool) (newStream : Nat) : ClientAsync Unit := do
  Async.modify fun client => { client with streams := client.streams ++ [newStream] }
  let newTrack ← firstTrack .video newStream
  let newTrack ← blurred newStream newTrack
  stopAndEnd videoTrack
  Async.modify fun client =>
    { client with segmenter := if oldSegmenter ∧ client.bgBlurData.blurBackground = false then false else client.segmenter }
  let client ← Async.get
  match client.localVideoStream with
  | none => Async.throw .native
  | some stream => do
    Async.modify fun client =>
      { client with
        media := ((client.media.removeTrack stream videoTrack).addTrack stream newTrack).setEnabled isEnabled newTrack
        localVideoStream := some newStream }
    if isEnabled then do
      askPeer (.replaceTrack (some videoTrack) (some newTrack))
      Async.modify fun client => { client with videoSenderTrackID := some newTrack }.emit (.localVideoStream newStream)
    else Async.modify fun client => { client with videoTrackAdded := false }

def setVideoInputDevice (device : MediaDevice) : ClientAsync Unit := do
  let client ← Async.get
  if client.peer = false then pure ()
  else do
    Async.modify fun client =>
      { client with defaultVideoInput := some device.stored, currentVideoInputDevice := some device }.emit .devicechange
    match client.localVideoStream with
    | none => initVideo false (some device.deviceId)
    | some stream => do
      let videoTrack ← firstTrack .video stream
      let newStream ← getUserMedia .video .switchVideo (some device.deviceId) .video
      replaceVideoTrack videoTrack (client.media.isEnabled videoTrack) client.segmenter newStream

def mute : ClientAsync Unit := do
  let client ← Async.get
  match client.peer, client.audioTrack, client.stream with
  | true, some audioTrack, some _ => do
    askPeer (.replaceTrack (some audioTrack) none)
    Async.modify (setEnabled false audioTrack)
    Async.modify (emit .mute)
    if client.ws then Async.modify (send .mute) else pure ()
  | _, _, _ => pure ()

def enableAudioTrack : ClientAsync Unit := do
  let client ← Async.get
  match client.audioTrack with
  | none => Async.throw .native
  | some audioTrack => Async.modify (setEnabled true audioTrack)

/-- Sending on the microphone's track, if there is one. -/
def enableVoice : ClientAsync Unit := do
  let client ← Async.get
  match client.audioTrack with
  | none => pure ()
  | some audioTrack => do
    if client.voiceTrackAdded then askPeer (.replaceTrack (some audioTrack) (some audioTrack))
    else if client.stream.isSome then do
      awaitPeer (.addTrack audioTrack)
      Async.modify fun client => { client with voiceTrackAdded := true }
    else pure ()
    enableAudioTrack

def announceUnmuted : ClientAsync Unit := do
  Async.modify (emit .unmute)
  let client ← Async.get
  if client.ws then Async.modify (send .unmute) else pure ()

def unmute : ClientAsync Unit := do
  let client ← Async.get
  if client.peer = false then pure ()
  else if client.audioTrack.isSome then do
    enableVoice
    announceUnmuted
  else do
    let started ← Async.tryCatch (do
      initAudio none .nothing
      pure true) fun err => do
        Async.modify (emit (.error err))
        pure false
    if started then do
      enableVoice
      announceUnmuted
    else pure ()

/-- The screen is shared from here on, unless one is shared already. -/
def setScreenStream (screenTrack : Nat) (screenAudioTrack : Option Nat) : ClientAsync Unit := do
  let client ← Async.get
  if client.ws = false ∨ client.peer = false ∨ client.localScreenTrack.isSome then pure ()
  else do
    let screenStream := client.media.streams.length
    Async.modify fun client =>
      { client with
        localScreenTrack := some screenTrack
        media := (client.media.newStream (screenTrack :: screenAudioTrack.toList)).setOnended (.screen screenAudioTrack) screenTrack
        streams := client.streams ++ [screenStream] }
    Async.modify (emit (.localScreenStream screenStream))
    Async.modify (send (.screenOn screenStream))
    awaitPeer (.addStream screenStream)
    let client ← Async.get
    if client.config.enableAV1 ∧ client.av1Codec then awaitPeer (.addTrack screenTrack) else pure ()

/-- `getDisplayMedia` opens the screen, and its audio where that is shared too. -/
def shareScreen : ClientAsync Unit := do
  let client ← Async.get
  if client.ws = false ∨ client.peer = false then pure ()
  else
    match ← Async.await .displayMedia with
    | .granted deviceId withAudio => do
      let client ← Async.get
      let screenTrack := client.media.tracks.length
      Async.modify (openTrack { kind := .video, captures := true, deviceId })
      if withAudio then do
        Async.modify fun client => { client with media := client.media.newTrack { kind := .audio, captures := true } }
        setScreenStream screenTrack (some (screenTrack + 1))
      else setScreenStream screenTrack none
    | _ => pure ()

def unshareScreen : ClientAsync Unit := do
  let client ← Async.get
  match client.ws, client.localScreenTrack with
  | true, some track => do
    stopAndEnd track
    Async.modify fun client => { client with localScreenTrack := none }
  | _, _ => pure ()

/-- Sending the track of the camera. -/
def sendVideo (localVideoTrack : Nat) : ClientAsync Unit := do
  let client ← Async.get
  if client.videoTrackAdded then awaitPeer (.replaceTrack client.videoSenderTrackID (some localVideoTrack))
  else do
    awaitPeer (.addTrack localVideoTrack)
    let client ← Async.get
    if client.config.enableAV1 ∧ client.av1Codec then awaitPeer (.addTrack localVideoTrack) else pure ()
    Async.modify fun client => { client with videoTrackAdded := true }
  Async.modify fun client => { client with videoSenderTrackID := some localVideoTrack }

def announceVideo : ClientAsync Unit := do
  let client ← Async.get
  match client.localVideoStream with
  | none => Async.throw .native
  | some stream => do
    Async.modify (emit (.localVideoStream stream))
    sendOnSocket (.videoOn stream)
    Async.modify (emit .videoOn)

/-- The end of `startVideo`, once it has a camera. -/
def showVideo (started : Bool) : ClientAsync Unit := do
  let client ← Async.get
  match started, client.localVideoStream with
  | true, some stream => do
    let localVideoTrack ← firstTrack .video stream
    Async.modify (setEnabled true localVideoTrack)
    let localVideoTrack ← blurred stream localVideoTrack
    sendVideo localVideoTrack
    announceVideo
  | _, _ => pure ()

def startVideo : ClientAsync Unit := do
  let client ← Async.get
  if client.ws = false ∨ client.peer = false ∨ client.config.enableVideo = false then pure ()
  else do
    let started ←
      if client.localVideoStream.isSome then pure true
      else
        Async.tryCatch (do
          initVideo true none
          pure true) fun err => do
            Async.modify (emit (.error err))
            pure false
    showVideo started

def stopVideo : ClientAsync Unit := do
  let client ← Async.get
  match client.ws, client.peer, client.localVideoStream with
  | true, true, some stream => do
    askPeer (.replaceTrack client.videoSenderTrackID none)
    Async.modify fun client => { client with segmenter := false }
    stopTracks (client.media.getTracksOf .video stream)
    Async.modify fun client => { client with localVideoStream := none }
    Async.modify (emit .videoOff)
    Async.modify (send .videoOff)
  | _, _, _ => pure ()

/-- The camera in use: the current device, else that of the track. -/
def videoDevice? (stream : Nat) (client : CallsClient) : Option MediaDevice :=
  match client.currentVideoInputDevice with
  | some device => some device
  | none =>
    match ((client.media.getTracksOf .video stream).head?.bind (client.media.tracks[·]?)).map MediaTrack.deviceId with
    | none | some "" => none
    | some deviceId => some { deviceId, label := "", kind := .videoinput }

def setBlurSettings (blurEnabled : Bool) : ClientAsync Unit := do
  let client ← Async.get
  match client.localVideoStream with
  | none => pure ()
  | some stream =>
    -- With a segmenter already there only its intensity changes.
    if blurEnabled = client.segmenter then pure ()
    else
      match client.videoDevice? stream with
      | none => pure ()
      | some device => setVideoInputDevice device

def disconnect : ClientAsync Unit := do
  let client ← Async.get
  if client.closed then pure ()
  else do
    Async.modify fun client => { client with closed := true, peer := false }
    cleanup
    Async.modify fun client => if client.ws then { client with ws := false }.send .leave else client
    Async.modify (emit .close)

/-! ### The start of the client -/

/-- What `init` does once all initializers are through, or the first of them has failed. -/
def initializersDone (failure : Option ClientError) : ClientAsync Unit := do
  match failure with
  | none => do
    let client ← Async.get
    if client.closed then cleanup else Async.modify fun client => { client with ws := true }
  | some err => Async.modify fun client => { client.emit (.error err) with ws := true }

/-- The end of one of the initializers, which `Promise.all` awaits. -/
def initializerDone (result : Except ClientError Unit) : ClientAsync Unit := do
  Async.modify fun client => { client with initializing := client.initializing - 1 }
  let client ← Async.get
  match client.initializerFailed, result with
  | true, _ => pure ()
  | false, .ok () => if client.initializing = 0 then initializersDone none else pure ()
  | false, .error err => do
    Async.modify fun client => { client with initializerFailed := true }
    initializersDone (some err)

/-- One of the initializers, as a program of its own. -/
def initializer (computation : ClientAsync Unit) : ClientProgram :=
  computation fun result => (initializerDone result).toProgram

def startInitializers : ClientAsync Unit := do
  let client ← Async.get
  if client.config.isSecureContext = false then Async.throw .insecureContext
  else do
    updateDevices .nothing
    let client ← Async.get
    Async.modify fun current =>
      { current with listening := true, initializing := if client.config.enableVideo then 2 else 1 }
    Async.fork (initializer (initAudio none .nothing))
    if client.config.enableVideo then Async.fork (initializer (initVideo false none)) else pure ()

def init : ClientAsync Unit := do
  let client ← Async.get
  Async.modify fun client => { client with initialized := true }
  if client.config.enableAV1 ∧ client.config.simulcast = false then do
    match ← Async.await .videoCodec with
    | .codec supported => do
      Async.modify fun client => { client with av1Codec := supported }
      startInitializers
    | _ => pure ()
  else startInitializers

/-! ### The client among its events -/

inductive ClientCall where
  | init
  | setAudioInputDevice (device : MediaDevice)
  | setAudioOutputDevice (device : MediaDevice)
  | setVideoInputDevice (device : MediaDevice)
  | mute
  | unmute
  | shareScreen
  | unshareScreen
  | startVideo
  | stopVideo
  | raiseHand
  | unraiseHand
  | setBlurSettings (blurEnabled : Bool)
  | sendUserReaction
  /-- Of the user, or because the page, the socket or the RTC connection is lost. -/
  | disconnect
  | destroy
  /-- The user stores other settings for the background. -/
  | setBgBlurData (data : BgBlurData)
  | devicechange
  /-- The server acknowledges that the client has joined. -/
  | joined
  | remoteStream (kinds : List TrackKind)
  /-- A device is unplugged, or the user stops sharing in the browser. -/
  | trackEnded (track : Nat)
  deriving DecidableEq

/-- The remote tracks of a stream that the server sends, which capture nothing here. -/
def addRemoteStream (kinds : List TrackKind) (client : CallsClient) : CallsClient :=
  let tracks := kinds.foldl (fun media kind => media.newTrack { kind, captures := false }) client.media
  { client with
    media := tracks.newStream (List.range' client.media.tracks.length kinds.length)
    streams := client.streams ++ [tracks.streams.length] }

def sendIfConnected (event : Option ClientEvent) (message : ClientSent) : ClientAsync Unit :=
  Async.modify fun client =>
    let client := match event with | some event => client.emit event | none => client
    if client.ws then client.send message else client

def handle : ClientCall → ClientAsync Unit
  | .init => init
  | .setAudioInputDevice device => setAudioInputDevice device true .nothing
  | .setAudioOutputDevice device => setAudioOutputDevice device true
  | .setVideoInputDevice device => setVideoInputDevice device
  | .mute => mute
  | .unmute => unmute
  | .shareScreen => shareScreen
  | .unshareScreen => unshareScreen
  | .startVideo => startVideo
  | .stopVideo => stopVideo
  | .raiseHand => sendIfConnected (some .raiseHand) .raiseHand
  | .unraiseHand => sendIfConnected (some .lowerHand) .unraiseHand
  | .setBlurSettings blurEnabled => setBlurSettings blurEnabled
  | .sendUserReaction => sendIfConnected none .react
  | .disconnect => disconnect
  | .destroy => Async.modify fun client => { client with listening := false, segmenter := false }
  | .setBgBlurData data => Async.modify fun client => { client with bgBlurData := data }
  | .devicechange => updateDevices .nothing
  | .joined => Async.modify fun client => if client.closed then client else { client with peer := true }
  | .remoteStream kinds => Async.modify (addRemoteStream kinds)
  | .trackEnded track => stopAndEnd track

end CallsClient

/-- A step of the client: something is called, or an answer comes. -/
inductive CallsClientStep where
  | call (call : CallsClient.ClientCall)
  | answer (place : Nat) (answer : ClientAnswer)
  deriving DecidableEq

abbrev CallsClientState := AsyncState CallsClient ClientRequest ClientAnswer

namespace CallsClient

/-- Where a call can come: `init` comes first and once, and events only from what is there to send them. -/
def takes (client : CallsClient) : ClientCall → Bool
  | .init => !client.initialized
  | .devicechange => client.initialized && client.listening
  | .joined => client.initialized && client.ws
  | .remoteStream _ => client.initialized && client.peer
  | _ => client.initialized

end CallsClient

def callsClientNext? (client : CallsClientState) : CallsClientStep → Option CallsClientState
  | .call call =>
    if client.state.takes call then some (client.start CallsClient.updateDevicesFrom (CallsClient.handle call).toProgram)
    else none
  | .answer place answer =>
    if client.tasks[place]?.any fun task => task.request.fits answer then
      client.resolve? CallsClient.updateDevicesFrom place answer
    else none

def callsClient (config : CallsClientConfig) : System CallsClientState CallsClientStep where
  init client := client = ⟨{ config }, []⟩
  next? := callsClientNext?

end Calls.Webapp
