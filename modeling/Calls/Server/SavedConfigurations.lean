import Calls.Server.EnvOverrides
import Calls.Library.Addresses
import Calls.Library.Fields

/-! Configurations that are saved: what is checked before, and what the settings that the server stores are
loaded as. -/

set_option autoImplicit false

namespace Calls

/-! ### Texts without spaces -/

theorem toNat_le_of_isAddressChar {c : Char} (isChar : Address.isAddressChar c = true) : c.toNat ≤ 'f'.toNat := by
  have value : c.toNat = c.val.toNat := rfl
  simp only [Address.isAddressChar, Json.isHex, Char.isDigit, Char.le_def, UInt32.le_iff_toNat_le, decide_eq_true_eq,
    Bool.and_eq_true] at isChar
  rcases isChar with (⟨-, digit⟩ | ⟨-, lower⟩ | ⟨-, upper⟩) | rfl | rfl
  · exact Nat.le_trans digit (by decide)
  · exact lower
  · exact Nat.le_trans upper (by decide)
  · decide
  · decide

theorem not_isSpaceRune_of_isAddressChar {c : Char} (isChar : Address.isAddressChar c = true) : isSpaceRune c = false := by
  have small := toNat_le_of_isAddressChar isChar
  have space : ∀ other : Char, c = other → Address.isAddressChar other = true := by
    rintro other rfl
    exact isChar
  have low : ¬( '\u2000' ≤ c) := by
    intro large
    have bound : 0x2000 ≤ c.toNat := UInt32.le_iff_toNat_le.mp (Char.le_def.mp large)
    exact absurd (Nat.le_trans bound small) (by decide)
  simp only [isSpaceRune, low, false_and, or_false, decide_eq_false_iff_not]
  intro member
  simp only [List.mem_cons, List.not_mem_nil, or_false] at member
  rcases member with h | h | h | h | h | h | h | h | h | h | h | h | h | h <;> exact absurd (space _ h) (by decide)

theorem trimSpace_of_none {text : String} (none : ∀ c ∈ text.toList, isSpaceRune c = false) : trimSpace text = text := by
  have kept : ∀ chars : List Char, (∀ c ∈ chars, isSpaceRune c = false) → chars.dropWhile isSpaceRune = chars := by
    rintro (_ | ⟨c, chars⟩) noSpace
    · rfl
    · rw [List.dropWhile_cons_of_neg]
      simp [noSpace c List.mem_cons_self]
  unfold trimSpace
  rw [kept _ none, kept _ (fun c member => none c (List.mem_reverse.mp member)), List.reverse_reverse, String.ofList_toList]

theorem trimSpace_of_isIP {text : String} (valid : text ≠ "" → Address.isIP text = true) : trimSpace text = text := by
  by_cases empty : text = ""
  · rw [empty]
    rfl
  · exact trimSpace_of_none fun c member => not_isSpaceRune_of_isAddressChar (Address.addressChar_of_isIP (valid empty) member)

/-! ### Settings -/

/-- A value of a settings map. A number that is written with a fraction or an exponent is for no field, and
neither is a list or a map. -/
inductive SettingValue where
  | null
  | bool (b : Bool)
  | integer (n : Int)
  | fraction (text : String)
  | string (text : String)
  | structured
  /-- A value that cannot be marshalled. -/
  | unsupported
  deriving DecidableEq

/-- A settings map, with its keys in the order in which they are marshalled. -/
structure SavedSettings where
  entries : List (String × SettingValue)
  sorted : entries.Pairwise fun one other => one.1 < other.1

namespace SavedSettings

def get (settings : SavedSettings) (key : String) : Option SettingValue := settings.entries.lookup key

theorem get_eq_some_iff {settings : SavedSettings} {key : String} {value : SettingValue} :
    settings.get key = some value ↔ (key, value) ∈ settings.entries := by
  obtain ⟨entries, sorted⟩ := settings
  unfold get
  dsimp only
  induction sorted with
  | nil => simp
  | @cons entry entries less _ ih =>
    obtain ⟨name, first⟩ := entry
    rw [List.lookup_cons, List.mem_cons, Prod.mk.injEq]
    by_cases same : key = name
    · subst same
      have absent : (key, value) ∉ entries := fun member => String.lt_irrefl key (less _ member)
      simp [absent, eq_comm]
    · simp [same, beq_eq_false_iff_ne.mpr same, ih]

end SavedSettings

/-- The fields of a configuration, those of its client part among them. -/
inductive Setting where
  | ICEHostOverride
  | ICEHostPortOverride
  | UDPServerAddress
  | TCPServerAddress
  | UDPServerPort
  | TCPServerPort
  | RTCDServiceURL
  | TURNStaticAuthSecret
  | TURNCredentialsExpirationMinutes
  | ServerSideTURN
  | JobServiceURL
  | RecordingQuality
  | EnableIPv6
  | EnableRinging
  | TranscriberModelSize
  | TranscribeAPI
  | TranscribeAPIAzureSpeechKey
  | TranscribeAPIAzureSpeechRegion
  | TranscriberNumThreads
  | EnableLiveCaptions
  | LiveCaptionsModelSize
  | LiveCaptionsNumTranscribers
  | LiveCaptionsNumThreadsPerTranscriber
  | LiveCaptionsLanguage
  | ICEServers
  | ICEServersConfigs
  | AllowEnableCalls
  | DefaultEnabled
  | MaxCallParticipants
  | NeedsTURNCredentials
  | AllowScreenSharing
  | EnableRecordings
  | EnableTranscriptions
  | MaxRecordingDuration
  | EnableSimulcast
  | SkuShortName
  | HostControlsAllowed
  | EnableAV1
  | GroupCallsAllowed
  | EnableDCSignaling
  | EnableVideo
  deriving DecidableEq

/-- The type of a field. Those of numbers and booleans are pointers. -/
inductive SettingKind where
  | int
  | bool
  | flag
  | text
  | iceServers
  | iceServersConfigs

namespace Setting

@[reducible] def kind : Setting → SettingKind
  | ICEHostPortOverride | UDPServerPort | TCPServerPort | TURNCredentialsExpirationMinutes | TranscriberNumThreads
  | LiveCaptionsNumTranscribers | LiveCaptionsNumThreadsPerTranscriber | MaxCallParticipants | MaxRecordingDuration => .int
  | ServerSideTURN | EnableIPv6 | EnableRinging | EnableLiveCaptions | AllowEnableCalls | DefaultEnabled | NeedsTURNCredentials
  | AllowScreenSharing | EnableRecordings | EnableTranscriptions | EnableSimulcast | EnableAV1 | EnableDCSignaling | EnableVideo => .bool
  | HostControlsAllowed | GroupCallsAllowed => .flag
  | ICEHostOverride | UDPServerAddress | TCPServerAddress | RTCDServiceURL | TURNStaticAuthSecret | JobServiceURL | RecordingQuality
  | TranscriberModelSize | TranscribeAPI | TranscribeAPIAzureSpeechKey | TranscribeAPIAzureSpeechRegion | LiveCaptionsModelSize
  | LiveCaptionsLanguage | SkuShortName => .text
  | ICEServers => .iceServers
  | ICEServersConfigs => .iceServersConfigs

/-- The names of the fields in JSON. -/
def named : List (String × Setting) :=
  [("ICEHostOverride", ICEHostOverride), ("ICEHostPortOverride", ICEHostPortOverride), ("UDPServerAddress", UDPServerAddress),
    ("TCPServerAddress", TCPServerAddress), ("UDPServerPort", UDPServerPort), ("TCPServerPort", TCPServerPort),
    ("RTCDServiceURL", RTCDServiceURL), ("TURNStaticAuthSecret", TURNStaticAuthSecret),
    ("TURNCredentialsExpirationMinutes", TURNCredentialsExpirationMinutes), ("ServerSideTURN", ServerSideTURN),
    ("JobServiceURL", JobServiceURL), ("RecordingQuality", RecordingQuality), ("EnableIPv6", EnableIPv6), ("EnableRinging", EnableRinging),
    ("TranscriberModelSize", TranscriberModelSize), ("TranscribeAPI", TranscribeAPI),
    ("TranscribeAPIAzureSpeechKey", TranscribeAPIAzureSpeechKey), ("TranscribeAPIAzureSpeechRegion", TranscribeAPIAzureSpeechRegion),
    ("TranscriberNumThreads", TranscriberNumThreads), ("EnableLiveCaptions", EnableLiveCaptions),
    ("LiveCaptionsModelSize", LiveCaptionsModelSize), ("LiveCaptionsNumTranscribers", LiveCaptionsNumTranscribers),
    ("LiveCaptionsNumThreadsPerTranscriber", LiveCaptionsNumThreadsPerTranscriber), ("LiveCaptionsLanguage", LiveCaptionsLanguage),
    ("ICEServers", ICEServers), ("ICEServersConfigs", ICEServersConfigs), ("AllowEnableCalls", AllowEnableCalls),
    ("DefaultEnabled", DefaultEnabled), ("MaxCallParticipants", MaxCallParticipants), ("NeedsTURNCredentials", NeedsTURNCredentials),
    ("AllowScreenSharing", AllowScreenSharing), ("EnableRecordings", EnableRecordings), ("EnableTranscriptions", EnableTranscriptions),
    ("MaxRecordingDuration", MaxRecordingDuration), ("EnableSimulcast", EnableSimulcast), ("sku_short_name", SkuShortName),
    ("HostControlsAllowed", HostControlsAllowed), ("EnableAV1", EnableAV1), ("GroupCallsAllowed", GroupCallsAllowed),
    ("EnableDCSignaling", EnableDCSignaling), ("EnableVideo", EnableVideo)]

/-- Two letters outside of ASCII are folded to letters of the names. -/
def foldRune (c : Char) : Char := if c = '\u017f' then 'S' else if c = '\u212a' then 'K' else c.toUpper

def foldName (name : String) : List Char := name.toList.map foldRune

/-- The field that a key names, in any case of its letters. -/
def ofKey (key : String) : Option Setting := (named.find? fun entry => foldName entry.1 = foldName key).map Prod.snd

/-- What `plugin.json` marks as secret. -/
def isSecret : Setting → Bool
  | ICEServersConfigs | TURNStaticAuthSecret => true
  | _ => false

end Setting

def isSecretKey (key : String) : Bool := (Setting.ofKey key).any Setting.isSecret

/-! ### Configurations -/

/-- What is used of other packages. -/
structure ConfigPackages where
  /-- `model.FakeSetting`. -/
  fakeSetting : String
  ICEServersConfigs : Type
  /-- `json.Unmarshal` of the text that the setting holds. -/
  unmarshalConfigs : String → Option ICEServersConfigs
  modelSizeIsValid : String → Bool
  transcribeAPIIsValid : String → Bool
  numThreadsDefault : Int
  modelSizeDefault : String
  transcribeAPIDefault : String
  liveCaptionsModelSizeDefault : String
  liveCaptionsNumTranscribersDefault : Int
  liveCaptionsNumThreadsPerTranscriberDefault : Int
  liveCaptionsLanguageDefault : String

variable (packages : ConfigPackages)

namespace SettingKind

@[reducible] def Value : SettingKind → Type
  | int => Option Int
  | bool => Option Bool
  | flag => Bool
  | text => String
  | iceServers => Option (List String)
  | iceServersConfigs => Option packages.ICEServersConfigs

def zero : (kind : SettingKind) → kind.Value packages
  | int => none
  | bool => none
  | flag => false
  | text => ""
  | iceServers => none
  | iceServersConfigs => none

/-- What is unmarshalled into a field that holds a value. -/
def unmarshal : (kind : SettingKind) → SettingValue → kind.Value packages → Option (kind.Value packages)
  | int, .null, _ => some none
  | int, .integer n, _ => if -2 ^ 63 ≤ n ∧ n < 2 ^ 63 then some (some n) else none
  | bool, .null, _ => some none
  | bool, .bool b, _ => some (some b)
  | flag, .null, field => some field
  | flag, .bool b, _ => some b
  | text, .null, field => some field
  | text, .string s, _ => some s
  | iceServers, .string s, _ => some (some (if s = "" then [] else (trimSpace s).splitOn ","))
  | iceServersConfigs, .string s, field => if s = "" then some field else (packages.unmarshalConfigs s).map some
  | _, _, _ => none

end SettingKind

abbrev Config : Type := (setting : Setting) → setting.kind.Value packages

namespace Config

def zero : Config packages := fun setting => setting.kind.zero packages

def unmarshal (config : Config packages) (entries : List (String × SettingValue)) : Option (Config packages) :=
  Fields.readAll Setting.ofKey (fun setting => setting.kind.unmarshal packages) config entries

def defaultRecDurationMinutes : Int := 60
def minRecDurationMinutes : Int := 15
def maxRecDurationMinutes : Int := 180
def minAllowedPort : Int := 80
def maxAllowedPort : Int := 49151

variable {packages}

def setDefaults (c : Config packages) : Config packages
  | .UDPServerPort => c .UDPServerPort <|> some 8443
  | .TCPServerPort => c .TCPServerPort <|> some 8443
  | .AllowEnableCalls => some true
  | .DefaultEnabled => c .DefaultEnabled <|> some false
  | .MaxCallParticipants => c .MaxCallParticipants <|> some 0
  | .TURNCredentialsExpirationMinutes => c .TURNCredentialsExpirationMinutes <|> some 240
  | .ServerSideTURN => c .ServerSideTURN <|> some false
  | .AllowScreenSharing => c .AllowScreenSharing <|> some true
  | .EnableRecordings => c .EnableRecordings <|> some false
  | .EnableTranscriptions => c .EnableTranscriptions <|> some false
  | .TranscriberNumThreads => c .TranscriberNumThreads <|> some packages.numThreadsDefault
  | .MaxRecordingDuration => c .MaxRecordingDuration <|> some defaultRecDurationMinutes
  | .RecordingQuality => if c .RecordingQuality = "" then "medium" else c .RecordingQuality
  | .EnableSimulcast => c .EnableSimulcast <|> some false
  | .EnableIPv6 => c .EnableIPv6 <|> some false
  | .EnableRinging => c .EnableRinging <|> some false
  | .TranscriberModelSize => if c .TranscriberModelSize = "" then packages.modelSizeDefault else c .TranscriberModelSize
  | .TranscribeAPI => if c .TranscribeAPI = "" then packages.transcribeAPIDefault else c .TranscribeAPI
  | .EnableLiveCaptions => c .EnableLiveCaptions <|> some false
  | .LiveCaptionsModelSize =>
    if c .LiveCaptionsModelSize = "" then packages.liveCaptionsModelSizeDefault else c .LiveCaptionsModelSize
  | .LiveCaptionsNumTranscribers => c .LiveCaptionsNumTranscribers <|> some packages.liveCaptionsNumTranscribersDefault
  | .LiveCaptionsNumThreadsPerTranscriber =>
    c .LiveCaptionsNumThreadsPerTranscriber <|> some packages.liveCaptionsNumThreadsPerTranscriberDefault
  | .LiveCaptionsLanguage => if c .LiveCaptionsLanguage = "" then packages.liveCaptionsLanguageDefault else c .LiveCaptionsLanguage
  | .EnableAV1 => c .EnableAV1 <|> some false
  | .EnableDCSignaling => c .EnableDCSignaling <|> some false
  | .EnableVideo => c .EnableVideo <|> some false
  | setting => c setting

def recordingsEnabled (c : Config packages) : Prop := c .EnableRecordings = some true

def transcriptionsEnabled (c : Config packages) : Prop := c.recordingsEnabled ∧ c .EnableTranscriptions = some true

def liveCaptionsEnabled (c : Config packages) : Prop :=
  c.recordingsEnabled ∧ c.transcriptionsEnabled ∧ c .EnableLiveCaptions = some true

instance (c : Config packages) : Decidable c.recordingsEnabled := inferInstanceAs (Decidable (_ = _))
instance (c : Config packages) : Decidable c.transcriptionsEnabled := inferInstanceAs (Decidable (_ ∧ _))
instance (c : Config packages) : Decidable c.liveCaptionsEnabled := inferInstanceAs (Decidable (_ ∧ _))

/-- The qualities that there is a configuration of the recorder for. -/
def recorderBaseConfigs : List String := ["low", "medium", "high"]

def errorIf (wrong : Prop) [Decidable wrong] (message : String) : Except String Unit := if wrong then .error message else .ok ()

def isDisallowedPort (port : Int) : Bool := port < minAllowedPort ∨ port > maxAllowedPort

/-- The check of a port. -/
def portError (name : String) (port : Option Int) : String :=
  name ++ " is not valid: " ++ toString (port.getD 0) ++ " is not in allowed range [" ++ toString minAllowedPort ++ ", " ++
    toString maxAllowedPort ++ "]"

def isValid (c : Config packages) : Except String Unit := do
  errorIf (c .UDPServerAddress ≠ "" ∧ Address.isIP (c .UDPServerAddress) = false) "UDPServerAddress parsing failed"
  errorIf (c .TCPServerAddress ≠ "" ∧ Address.isIP (c .TCPServerAddress) = false) "TCPServerAddress parsing failed"
  errorIf (c .UDPServerPort = none) "UDPServerPort should not be nil"
  errorIf (c .TCPServerPort = none) "TCPServerPort should not be nil"
  errorIf ((c .UDPServerPort).any isDisallowedPort) (portError "UDPServerPort" (c .UDPServerPort))
  errorIf ((c .TCPServerPort).any isDisallowedPort) (portError "TCPServerPort" (c .TCPServerPort))
  errorIf (c .MaxCallParticipants = none ∨ (c .MaxCallParticipants).any (· < 0)) "MaxCallParticipants is not valid"
  errorIf ((c .TURNCredentialsExpirationMinutes).any (· < 0)) "TURNCredentialsExpirationMinutes is not valid"
  errorIf (c .MaxRecordingDuration = none ∨
      (c .MaxRecordingDuration).any fun minutes => minutes < minRecDurationMinutes ∨ minutes > maxRecDurationMinutes)
    ("MaxRecordingDuration is not valid: range should be [" ++ toString minRecDurationMinutes ++ ", " ++
      toString maxRecDurationMinutes ++ "]")
  errorIf (c .RecordingQuality ∉ recorderBaseConfigs) "RecordingQuality is not valid"
  errorIf (c.transcriptionsEnabled ∧ packages.modelSizeIsValid (c .TranscriberModelSize) = false) "TranscriberModelSize is not valid"
  errorIf (c.transcriptionsEnabled ∧ packages.transcribeAPIIsValid (c .TranscribeAPI) = false) "TranscribeAPI is not valid"
  errorIf (c.transcriptionsEnabled ∧ (c .TranscriberNumThreads = none ∨ (c .TranscriberNumThreads).any (· ≤ 0)))
    "TranscriberNumThreads is not valid: should be greater than 0"
  errorIf ((c .ICEHostPortOverride).any fun port => port ≠ 0 ∧ isDisallowedPort port)
    (portError "ICEHostPortOverride" (c .ICEHostPortOverride))
  errorIf (c.liveCaptionsEnabled ∧ packages.modelSizeIsValid (c .LiveCaptionsModelSize) = false) "LiveCaptionsModelSize is not valid"
  errorIf (c.liveCaptionsEnabled ∧ (c .LiveCaptionsNumTranscribers = none ∨ (c .LiveCaptionsNumTranscribers).any (· ≤ 0)))
    "LiveCaptionsNumTranscribers is not valid: should be greater than 0"
  errorIf (c.liveCaptionsEnabled ∧
      (c .LiveCaptionsNumThreadsPerTranscriber = none ∨ (c .LiveCaptionsNumThreadsPerTranscriber).any (· ≤ 0)))
    "LiveCaptionsNumThreadsPerTranscriber is not valid: should be greater than 0"
  errorIf (c.liveCaptionsEnabled ∧ c .LiveCaptionsLanguage ≠ "" ∧ (c .LiveCaptionsLanguage).utf8ByteSize ≠ 2)
    "LiveCaptionsLanguage is not valid: should be a 2-letter ISO 639 set 1 language code, or blank for default"

/-- The overrides where no variable of the environment is set and the installation is not on Cloud. -/
def setOverrides (c : Config packages) : Config packages
  | .AllowEnableCalls => some true
  | .ICEHostOverride => trimSpace (c .ICEHostOverride)
  | .UDPServerAddress => trimSpace (c .UDPServerAddress)
  | .TCPServerAddress => trimSpace (c .TCPServerAddress)
  | .RTCDServiceURL => trimSpace (c .RTCDServiceURL)
  | .JobServiceURL => trimSpace (c .JobServiceURL)
  | setting => c setting

/-- The defaults that `plugin.json` gives. -/
def manifestDefaults : Config packages
  | .UDPServerPort => some 8443
  | .TCPServerPort => some 8443
  | .MaxCallParticipants => some 0
  | .ICEServersConfigs =>
    packages.unmarshalConfigs "[\x7b\"urls\":[\"stun:stun.global.calls.mattermost.com:3478\"]\x7d]"
  | .TURNCredentialsExpirationMinutes => some 240
  | .ServerSideTURN => some false
  | .AllowScreenSharing => some true
  | .EnableSimulcast => some false
  | .EnableRecordings => some false
  | .MaxRecordingDuration => some 60
  | .RecordingQuality => "medium"
  | .EnableTranscriptions => some false
  | .TranscribeAPI => "whisper.cpp"
  | .TranscriberModelSize => "base"
  | .TranscriberNumThreads => some 2
  | .EnableLiveCaptions => some false
  | .LiveCaptionsModelSize => "tiny"
  | .LiveCaptionsNumTranscribers => some 1
  | .LiveCaptionsNumThreadsPerTranscriber => some 2
  | .LiveCaptionsLanguage => "en"
  | .EnableIPv6 => some false
  | .EnableRinging => some false
  | .EnableAV1 => some false
  | .EnableDCSignaling => some false
  | .EnableVideo => some false
  | setting => zero packages setting

end Config

/-! ### Saving and loading -/

/-- Why a configuration is not saved. The library's own text follows that of the first two. -/
inductive SaveError where
  | marshal
  | unmarshal
  | invalid (message : String)
  deriving DecidableEq

/-- The text that goes before what the library or the check says. -/
def SaveError.message : SaveError → String
  | marshal => "failed to marshal config data: "
  | unmarshal => "failed to unmarshal config data: "
  | invalid message => message

namespace SavedSettings

/-- The settings that are looked at before they are saved. -/
def forValidation (settings : SavedSettings) : List (String × SettingValue) :=
  settings.entries.filter fun entry => entry.2 ≠ .string packages.fakeSetting

def Marshals (settings : SavedSettings) : Prop := ∀ entry ∈ settings.entries, entry.2 ≠ .unsupported

instance (settings : SavedSettings) : Decidable settings.Marshals := inferInstanceAs (Decidable (∀ entry ∈ settings.entries, _))

/-- A configuration can be loaded from the settings. -/
def Load (settings : SavedSettings) : Prop :=
  settings.Marshals ∧ (Config.manifestDefaults.unmarshal packages settings.entries).isSome

/-- A key is skipped because its value is hidden. -/
def Hides (settings : SavedSettings) (key : String) : Prop := settings.get key = some (.string packages.fakeSetting)

end SavedSettings

def configurationWillBeSaved (newCfg : Option SavedSettings) : Except SaveError Unit :=
  match newCfg with
  | none => .ok ()
  | some configData =>
    let configDataForValidation := configData.forValidation packages
    if ∃ entry ∈ configDataForValidation, entry.2 = .unsupported then .error .marshal
    else
      match (Config.zero packages).unmarshal packages configDataForValidation with
      | none => .error .unmarshal
      -- Setting defaults prevents errors where a setting is new.
      | some cfg => cfg.setDefaults.isValid.mapError .invalid

/-- What the server does with the settings of a plugin. -/
structure ConfigServer where
  /-- Whether the hidden value of a key is replaced by the one that is stored. -/
  restores : String → Bool
  loadPluginConfiguration : SavedSettings → Except String (Config packages)

variable {packages}

namespace ConfigServer

variable (server : ConfigServer packages)

/-- What becomes of an entry when the settings are stored. -/
def storedEntry (current : SavedSettings) (entry : String × SettingValue) : Option (String × SettingValue) :=
  if entry.2 = .string packages.fakeSetting ∧ server.restores entry.1 then (current.get entry.1).map fun value => (entry.1, value)
  else some entry

theorem storedEntry_key {server : ConfigServer packages} {current : SavedSettings} {entry stored : String × SettingValue}
    (isStored : server.storedEntry current entry = some stored) : stored.1 = entry.1 := by
  unfold storedEntry at isStored
  split at isStored
  · obtain ⟨value, -, rfl⟩ := Option.map_eq_some_iff.mp isStored
    rfl
  · cases isStored
    rfl

/-- The settings that are stored in place of the current ones. -/
def stored (current settings : SavedSettings) : SavedSettings where
  entries := settings.entries.filterMap (server.storedEntry current)
  sorted := by
    refine settings.sorted.filterMap _ ?_
    intro one other less stored isStored stored' isStored'
    rwa [storedEntry_key isStored, storedEntry_key isStored']

/-- Hidden values of secret settings, and no others, are restored. The settings are unmarshalled over the defaults. -/
structure Documented : Prop where
  restores_iff : ∀ key, server.restores key = true ↔ isSecretKey key = true
  loads : ∀ settings config, settings.Marshals → Config.manifestDefaults.unmarshal packages settings.entries = some config →
    server.loadPluginConfiguration settings = .ok config

/-- Where the configuration is not the first and there are no overrides by the environment or for Cloud. -/
def loadConfig (settings : SavedSettings) : Except String (Config packages) :=
  match server.loadPluginConfiguration settings with
  | .error message => .error ("loadConfig: failed to load plugin configuration: " ++ message)
  | .ok cfg =>
    match cfg.setDefaults.setOverrides.isValid with
    | .error message => .error ("setConfiguration: configuration is not valid: " ++ message)
    | .ok () => .ok cfg.setDefaults.setOverrides

/-- What is stored is loaded as a valid configuration, and each hidden value is restored. -/
def LoadsSaved (current settings : SavedSettings) : Prop :=
  (∀ key, settings.Hides packages key → server.restores key = true) ∧
    ∃ config, server.loadConfig (server.stored current settings) = .ok config ∧ config.isValid = .ok ()

end ConfigServer

/-! ### What is read over other values -/

/-- What is read is the same over every value, or it leaves every value. -/
theorem SettingKind.unmarshal_cases {kind : SettingKind} {value : SettingValue} {field next : kind.Value packages}
    (read : kind.unmarshal packages value field = some next) :
    (∀ other, kind.unmarshal packages value other = some next) ∨
      next = field ∧ ∀ other, kind.unmarshal packages value other = some other := by
  cases kind <;> cases value <;> simp_all [unmarshal]
  case iceServersConfigs.string text =>
    by_cases empty : text = "" <;> simp_all

theorem uniform_unmarshal : Fields.Uniform fun setting : Setting => setting.kind.unmarshal packages := by
  intro setting value field other read
  obtain ⟨next, read⟩ := Option.isSome_iff_exists.mp read
  rcases SettingKind.unmarshal_cases read with same | ⟨-, kept⟩
  · exact Option.isSome_iff_exists.mpr ⟨next, same other⟩
  · exact Option.isSome_iff_exists.mpr ⟨other, kept other⟩

namespace Config

theorem unmarshal_isSome_iff {config : Config packages} {entries : List (String × SettingValue)} :
    (config.unmarshal packages entries).isSome ↔
      ∀ entry ∈ entries, Fields.Readable Setting.ofKey (fun setting => setting.kind.unmarshal packages) entry :=
  Fields.readAll_isSome_iff uniform_unmarshal

/-- A field that was read over nothing, and the same field read over the defaults of `plugin.json`. -/
def Defaulted (setting : Setting) (checked loaded : setting.kind.Value packages) : Prop :=
  loaded = checked ∨ checked = setting.kind.zero packages ∧ loaded = manifestDefaults setting

theorem Defaulted.unmarshal {setting : Setting} {value : SettingValue} {checked loaded checked' loaded' : setting.kind.Value packages}
    (defaulted : Defaulted setting checked loaded) (readChecked : setting.kind.unmarshal packages value checked = some checked')
    (readLoaded : setting.kind.unmarshal packages value loaded = some loaded') : Defaulted setting checked' loaded' := by
  rcases SettingKind.unmarshal_cases readChecked with same | ⟨rfl, kept⟩
  · rw [same] at readLoaded
    exact .inl (Option.some.inj readLoaded).symm
  · rw [kept] at readLoaded
    cases readLoaded
    exact defaulted

/-- The defaults of the settings of transcriptions are given twice. -/
def isTranscriberSetting : Setting → Bool
  | .TranscriberModelSize | .TranscribeAPI | .TranscriberNumThreads | .LiveCaptionsModelSize | .LiveCaptionsNumTranscribers
  | .LiveCaptionsNumThreadsPerTranscriber | .LiveCaptionsLanguage => true
  | _ => false

theorem setDefaults_congr {config other : Config packages} {setting : Setting} (same : config setting = other setting) :
    config.setDefaults setting = other.setDefaults setting := by
  cases setting <;> simp only [setDefaults, same]

/-- With its defaults, a field is as it was checked, or it has the default that `plugin.json` gives. -/
theorem Defaulted.setDefaults {checked loaded : Config packages} {setting : Setting} (notSecret : setting.isSecret = false)
    (defaulted : Defaulted setting (checked setting) (loaded setting)) :
    loaded.setDefaults setting = checked.setDefaults setting ∨
      isTranscriberSetting setting = true ∧ loaded.setDefaults setting = manifestDefaults setting := by
  rcases defaulted with same | ⟨isZero, isDefault⟩
  · exact .inl (setDefaults_congr same)
  · cases setting
    all_goals
      first
      | (cases notSecret; done)
      | exact .inr ⟨rfl, by simp [Config.setDefaults, isDefault, manifestDefaults]⟩
      | exact .inl (by simp [Config.setDefaults, isZero, isDefault, manifestDefaults, zero, SettingKind.zero, defaultRecDurationMinutes])

/-! ### What is valid -/

structure Valid (c : Config packages) : Prop where
  udpAddress : c .UDPServerAddress ≠ "" → Address.isIP (c .UDPServerAddress) = true
  tcpAddress : c .TCPServerAddress ≠ "" → Address.isIP (c .TCPServerAddress) = true
  udpPort : ∃ port, c .UDPServerPort = some port ∧ isDisallowedPort port = false
  tcpPort : ∃ port, c .TCPServerPort = some port ∧ isDisallowedPort port = false
  participants : ∃ n, c .MaxCallParticipants = some n ∧ 0 ≤ n
  expiration : ∀ minutes, c .TURNCredentialsExpirationMinutes = some minutes → 0 ≤ minutes
  duration : ∃ minutes, c .MaxRecordingDuration = some minutes ∧ minRecDurationMinutes ≤ minutes ∧ minutes ≤ maxRecDurationMinutes
  quality : c .RecordingQuality ∈ recorderBaseConfigs
  modelSize : c.transcriptionsEnabled → packages.modelSizeIsValid (c .TranscriberModelSize) = true
  api : c.transcriptionsEnabled → packages.transcribeAPIIsValid (c .TranscribeAPI) = true
  threads : c.transcriptionsEnabled → ∃ n, c .TranscriberNumThreads = some n ∧ 0 < n
  hostPort : ∀ port, c .ICEHostPortOverride = some port → port ≠ 0 → isDisallowedPort port = false
  captionsModelSize : c.liveCaptionsEnabled → packages.modelSizeIsValid (c .LiveCaptionsModelSize) = true
  transcribers : c.liveCaptionsEnabled → ∃ n, c .LiveCaptionsNumTranscribers = some n ∧ 0 < n
  captionsThreads : c.liveCaptionsEnabled → ∃ n, c .LiveCaptionsNumThreadsPerTranscriber = some n ∧ 0 < n
  language : c.liveCaptionsEnabled → c .LiveCaptionsLanguage ≠ "" → (c .LiveCaptionsLanguage).utf8ByteSize = 2

theorem errorIf_bind_eq_ok {wrong : Prop} [Decidable wrong] {message : String} {next : Unit → Except String Unit} :
    (errorIf wrong message >>= next) = .ok () ↔ ¬wrong ∧ next () = .ok () := by
  unfold errorIf
  by_cases isWrong : wrong
  · rw [if_pos isWrong]
    simp [isWrong, bind, Except.bind]
  · rw [if_neg isWrong]
    simp [isWrong, bind, Except.bind]

theorem errorIf_eq_ok {wrong : Prop} [Decidable wrong] {message : String} : errorIf wrong message = .ok () ↔ ¬wrong := by
  unfold errorIf
  split <;> simp [*]

theorem present_iff {α : Type} {pointer : Option α} {wrong : α → Bool} :
    ¬(pointer = none ∨ pointer.any wrong = true) ↔ ∃ value, pointer = some value ∧ wrong value = false := by
  cases pointer <;> simp

theorem passes_iff {α : Type} {pointer : Option α} {wrong : α → Bool} :
    ¬pointer.any wrong = true ↔ ∀ value, pointer = some value → wrong value = false := by
  cases pointer <;> simp

theorem isValid_eq_ok_iff {c : Config packages} : c.isValid = .ok () ↔ c.Valid := by
  simp only [isValid, errorIf_bind_eq_ok, errorIf_eq_ok, not_and, Bool.not_eq_false]
  constructor
  · rintro ⟨udpAddress, tcpAddress, udpPresent, tcpPresent, udpPort, tcpPort, participants, expiration, duration, quality,
      modelSize, api, threads, hostPort, captionsModelSize, transcribers, captionsThreads, language⟩
    refine
      { udpAddress, tcpAddress, modelSize, api, captionsModelSize
        udpPort := present_iff.mp (not_or.mpr ⟨udpPresent, udpPort⟩)
        tcpPort := present_iff.mp (not_or.mpr ⟨tcpPresent, tcpPort⟩)
        participants := by simpa using present_iff.mp participants
        expiration := by simpa using passes_iff.mp expiration
        duration := by simpa using present_iff.mp duration
        quality := not_not.mp quality
        threads := fun enabled => by simpa using present_iff.mp (threads enabled)
        hostPort := by simpa using passes_iff.mp hostPort
        transcribers := fun enabled => by simpa using present_iff.mp (transcribers enabled)
        captionsThreads := fun enabled => by simpa using present_iff.mp (captionsThreads enabled)
        language := fun enabled notEmpty => not_not.mp (language enabled notEmpty) }
  · intro valid
    refine ⟨valid.udpAddress, valid.tcpAddress,
      (not_or.mp (present_iff.mpr valid.udpPort)).1, (not_or.mp (present_iff.mpr valid.tcpPort)).1,
      (not_or.mp (present_iff.mpr valid.udpPort)).2, (not_or.mp (present_iff.mpr valid.tcpPort)).2,
      present_iff.mpr (by simpa using valid.participants), passes_iff.mpr (by simpa using valid.expiration),
      present_iff.mpr (by simpa using valid.duration), not_not.mpr valid.quality, valid.modelSize, valid.api,
      fun enabled => present_iff.mpr (by simpa using valid.threads enabled), passes_iff.mpr (by simpa using valid.hostPort),
      valid.captionsModelSize, fun enabled => present_iff.mpr (by simpa using valid.transcribers enabled),
      fun enabled => present_iff.mpr (by simpa using valid.captionsThreads enabled),
      fun enabled notEmpty => not_not.mpr (valid.language enabled notEmpty)⟩

/-- The defaults that `plugin.json` gives for transcriptions are choices that it offers. -/
structure OffersValid (packages : ConfigPackages) : Prop where
  base : packages.modelSizeIsValid "base" = true
  tiny : packages.modelSizeIsValid "tiny" = true
  whisper : packages.transcribeAPIIsValid "whisper.cpp" = true

/-- A configuration that is loaded is as the one that was checked, apart from secrets and the defaults that are given twice. -/
def LoadedAs (checked loaded : Config packages) : Prop := ∀ setting : Setting, setting.isSecret = false →
  loaded setting = checked setting ∨ isTranscriberSetting setting = true ∧ loaded setting = manifestDefaults setting

theorem LoadedAs.eq {checked loaded : Config packages} (loadedAs : LoadedAs checked loaded) (setting : Setting)
    (notSecret : setting.isSecret = false) (notTranscriber : isTranscriberSetting setting = false) :
    loaded setting = checked setting := by
  rcases loadedAs setting notSecret with same | ⟨transcriber, -⟩
  · exact same
  · rw [notTranscriber] at transcriber
    cases transcriber

/-- What is true of the field that was checked and of the default is true of the field that is loaded. -/
theorem LoadedAs.holds {checked loaded : Config packages} (loadedAs : LoadedAs checked loaded) (setting : Setting)
    (notSecret : setting.isSecret = false) (P : setting.kind.Value packages → Prop) (wasChecked : P (checked setting))
    (offered : P (manifestDefaults setting)) : P (loaded setting) := by
  rcases loadedAs setting notSecret with same | ⟨-, isDefault⟩
  · rwa [same]
  · rwa [isDefault]

theorem LoadedAs.valid {checked loaded : Config packages} (offers : OffersValid packages) (loadedAs : LoadedAs checked loaded)
    (valid : checked.Valid) : loaded.Valid := by
  have same : ∀ setting : Setting, setting.isSecret = false → isTranscriberSetting setting = false →
      checked setting = loaded setting :=
    fun setting notSecret notTranscriber => (loadedAs.eq setting notSecret notTranscriber).symm
  have recordings := same .EnableRecordings rfl rfl
  have transcribes : loaded.transcriptionsEnabled → checked.transcriptionsEnabled :=
    fun enabled => ⟨recordings.trans enabled.1, (same .EnableTranscriptions rfl rfl).trans enabled.2⟩
  have hasCaptions : loaded.liveCaptionsEnabled → checked.liveCaptionsEnabled :=
    fun enabled => ⟨recordings.trans enabled.1, transcribes enabled.2.1, (same .EnableLiveCaptions rfl rfl).trans enabled.2.2⟩
  exact
    { udpAddress := by rw [← same .UDPServerAddress rfl rfl]; exact valid.udpAddress
      tcpAddress := by rw [← same .TCPServerAddress rfl rfl]; exact valid.tcpAddress
      udpPort := by rw [← same .UDPServerPort rfl rfl]; exact valid.udpPort
      tcpPort := by rw [← same .TCPServerPort rfl rfl]; exact valid.tcpPort
      participants := by rw [← same .MaxCallParticipants rfl rfl]; exact valid.participants
      expiration := by rw [← same .TURNCredentialsExpirationMinutes rfl rfl]; exact valid.expiration
      duration := by rw [← same .MaxRecordingDuration rfl rfl]; exact valid.duration
      quality := by rw [← same .RecordingQuality rfl rfl]; exact valid.quality
      hostPort := by rw [← same .ICEHostPortOverride rfl rfl]; exact valid.hostPort
      modelSize := fun enabled => loadedAs.holds .TranscriberModelSize rfl (fun size => packages.modelSizeIsValid size = true)
        (valid.modelSize (transcribes enabled)) offers.base
      api := fun enabled => loadedAs.holds .TranscribeAPI rfl (fun api => packages.transcribeAPIIsValid api = true)
        (valid.api (transcribes enabled)) offers.whisper
      threads := fun enabled => loadedAs.holds .TranscriberNumThreads rfl (fun threads => ∃ n, threads = some n ∧ 0 < n)
        (valid.threads (transcribes enabled)) ⟨2, rfl, by decide⟩
      captionsModelSize := fun enabled => loadedAs.holds .LiveCaptionsModelSize rfl (fun size => packages.modelSizeIsValid size = true)
        (valid.captionsModelSize (hasCaptions enabled)) offers.tiny
      transcribers := fun enabled => loadedAs.holds .LiveCaptionsNumTranscribers rfl (fun number => ∃ n, number = some n ∧ 0 < n)
        (valid.transcribers (hasCaptions enabled)) ⟨1, rfl, by decide⟩
      captionsThreads := fun enabled => loadedAs.holds .LiveCaptionsNumThreadsPerTranscriber rfl
        (fun threads => ∃ n, threads = some n ∧ 0 < n) (valid.captionsThreads (hasCaptions enabled)) ⟨2, rfl, by decide⟩
      language := fun enabled => loadedAs.holds .LiveCaptionsLanguage rfl (fun language => language ≠ "" → language.utf8ByteSize = 2)
        (valid.language (hasCaptions enabled)) fun _ => rfl }

/-- The spaces around an address are not part of what was checked. -/
theorem Valid.setOverrides {c : Config packages} (valid : c.Valid) : c.setOverrides.Valid :=
  { valid with
    udpAddress := by
      rw [show c.setOverrides .UDPServerAddress = c .UDPServerAddress from trimSpace_of_isIP valid.udpAddress]
      exact valid.udpAddress
    tcpAddress := by
      rw [show c.setOverrides .TCPServerAddress = c .TCPServerAddress from trimSpace_of_isIP valid.tcpAddress]
      exact valid.tcpAddress }

end Config

/-! ### Saved settings that are loaded -/

section
variable {server : ConfigServer packages} {current settings : SavedSettings}

theorem configurationWillBeSaved_eq_ok_iff : configurationWillBeSaved packages (some settings) = .ok () ↔
    (∀ entry ∈ settings.forValidation packages, entry.2 ≠ .unsupported) ∧
      ∃ checked, (Config.zero packages).unmarshal packages (settings.forValidation packages) = some checked ∧
        checked.setDefaults.Valid := by
  unfold configurationWillBeSaved
  dsimp only
  by_cases marshals : ∃ entry ∈ settings.forValidation packages, entry.2 = .unsupported
  · obtain ⟨entry, member, isUnsupported⟩ := marshals
    rw [if_pos ⟨entry, member, isUnsupported⟩]
    exact iff_of_false (fun saved => nomatch saved) fun valid => valid.1 entry member isUnsupported
  · rw [if_neg marshals]
    have supported : ∀ entry ∈ settings.forValidation packages, entry.2 ≠ .unsupported :=
      fun entry member isUnsupported => marshals ⟨entry, member, isUnsupported⟩
    cases (Config.zero packages).unmarshal packages (settings.forValidation packages) with
    | none => simp
    | some checked =>
      rw [and_iff_right supported]
      dsimp only
      constructor
      · intro saved
        refine ⟨checked, rfl, Config.isValid_eq_ok_iff.mp ?_⟩
        cases isValid : checked.setDefaults.isValid with
        | error message =>
          rw [isValid] at saved
          cases saved
        | ok => rfl
      · rintro ⟨other, same, valid⟩
        cases same
        rw [Config.isValid_eq_ok_iff.mpr valid]
        rfl

theorem storedEntry_of_not_hidden {entry : String × SettingValue} (shown : entry.2 ≠ .string packages.fakeSetting) :
    server.storedEntry current entry = some entry := if_neg fun hidden => shown hidden.1

theorem storedEntry_of_secret (documented : server.Documented) {entry stored : String × SettingValue}
    (hidden : entry.2 = .string packages.fakeSetting) (secret : isSecretKey entry.1 = true)
    (isStored : server.storedEntry current entry = some stored) : stored ∈ current.entries := by
  rw [ConfigServer.storedEntry, if_pos ⟨hidden, (documented.restores_iff _).mpr secret⟩] at isStored
  obtain ⟨value, isCurrent, rfl⟩ := Option.map_eq_some_iff.mp isStored
  exact SavedSettings.get_eq_some_iff.mp isCurrent

theorem isSecretKey_of_hidden (onlySecret : ∀ key, settings.Hides packages key → isSecretKey key = true)
    {entry : String × SettingValue} (member : entry ∈ settings.entries) (hidden : entry.2 = .string packages.fakeSetting) :
    isSecretKey entry.1 = true :=
  onlySecret entry.1 (SavedSettings.get_eq_some_iff.mpr (hidden ▸ member))

/-- Where only secret values are hidden, the entries of another field are stored as they are checked. -/
theorem filter_stored (onlySecret : ∀ key, settings.Hides packages key → isSecretKey key = true) {setting : Setting}
    (notSecret : setting.isSecret = false) :
    (settings.forValidation packages).filter (fun entry => Setting.ofKey entry.1 = some setting) =
      (server.stored current settings).entries.filter fun entry => Setting.ofKey entry.1 = some setting := by
  unfold SavedSettings.forValidation ConfigServer.stored
  rw [List.filter_filter, ← List.filterMap_eq_filter, List.filter_filterMap]
  refine List.filterMap_congr fun entry member => ?_
  by_cases hidden : entry.2 = .string packages.fakeSetting
  · have secret := isSecretKey_of_hidden onlySecret member hidden
    have other : Setting.ofKey entry.1 ≠ some setting := by
      intro same
      rw [isSecretKey, same, Option.any_some, notSecret] at secret
      cases secret
    rw [Option.guard_eq_none_iff.mpr (by simp [hidden]), eq_comm, Option.filter_eq_none_iff]
    intro stored isStored
    simp [ConfigServer.storedEntry_key isStored, other]
  · rw [storedEntry_of_not_hidden hidden]
    simp [Option.guard, Option.filter, hidden]

theorem readable_stored (documented : server.Documented) (onlySecret : ∀ key, settings.Hides packages key → isSecretKey key = true)
    {readable : String × SettingValue → Prop} (isChecked : ∀ entry ∈ settings.forValidation packages, readable entry)
    (isCurrent : ∀ entry ∈ current.entries, readable entry) :
    ∀ entry ∈ (server.stored current settings).entries, readable entry := by
  intro stored isStored
  obtain ⟨entry, member, isStored⟩ := List.mem_filterMap.mp isStored
  by_cases hidden : entry.2 = .string packages.fakeSetting
  · exact isCurrent stored (storedEntry_of_secret documented hidden (isSecretKey_of_hidden onlySecret member hidden) isStored)
  · rw [storedEntry_of_not_hidden hidden] at isStored
    cases isStored
    exact isChecked stored (List.mem_filter.mpr ⟨member, decide_eq_true hidden⟩)

theorem exists_loadedAs (documented : server.Documented) (onlySecret : ∀ key, settings.Hides packages key → isSecretKey key = true)
    (currentLoad : current.Load packages) (supported : ∀ entry ∈ settings.forValidation packages, entry.2 ≠ .unsupported)
    {checked : Config packages}
    (isChecked : (Config.zero packages).unmarshal packages (settings.forValidation packages) = some checked) :
    ∃ loaded, server.loadPluginConfiguration (server.stored current settings) = .ok loaded ∧
      checked.setDefaults.LoadedAs loaded.setDefaults := by
  have readable := readable_stored documented onlySecret
    (Config.unmarshal_isSome_iff.mp (Option.isSome_iff_exists.mpr ⟨checked, isChecked⟩))
    (Config.unmarshal_isSome_iff.mp currentLoad.2)
  obtain ⟨loaded, isLoaded⟩ := Option.isSome_iff_exists.mp (Config.unmarshal_isSome_iff.mpr readable)
  refine ⟨loaded, documented.loads _ _ (readable_stored documented onlySecret supported currentLoad.1) isLoaded, ?_⟩
  intro setting notSecret
  refine Config.Defaulted.setDefaults notSecret ?_
  have readChecked := Fields.readField_of_readAll setting isChecked
  have readLoaded := Fields.readField_of_readAll setting isLoaded
  exact Fields.readField_rel setting (Config.Defaulted setting) (fun _ _ _ _ _ defaulted => defaulted.unmarshal)
    (filter_stored onlySecret notSecret) (.inr ⟨rfl, rfl⟩) readChecked readLoaded

/-- Settings that are accepted are stored such that they are loaded again exactly if none but secret ones are hidden. -/
theorem loadsSaved_iff (offers : Config.OffersValid packages) (documented : server.Documented)
    (currentLoad : current.Load packages) (accepted : configurationWillBeSaved packages (some settings) = .ok ()) :
    server.LoadsSaved current settings ↔ ∀ key, settings.Hides packages key → isSecretKey key = true := by
  constructor
  · rintro ⟨restored, -⟩ key hidden
    exact (documented.restores_iff key).mp (restored key hidden)
  · intro onlySecret
    refine ⟨fun key hidden => (documented.restores_iff key).mpr (onlySecret key hidden), ?_⟩
    obtain ⟨supported, checked, isChecked, valid⟩ := configurationWillBeSaved_eq_ok_iff.mp accepted
    obtain ⟨loaded, isLoaded, loadedAs⟩ := exists_loadedAs documented onlySecret currentLoad supported isChecked
    have isValid := Config.isValid_eq_ok_iff.mpr (loadedAs.valid offers valid).setOverrides
    refine ⟨loaded.setDefaults.setOverrides, ?_, isValid⟩
    rw [ConfigServer.loadConfig, isLoaded]
    dsimp only
    rw [isValid]

end

/-! ### A setting that is hidden and not secret -/

def offeredPackages : ConfigPackages where
  fakeSetting := "********************************"
  ICEServersConfigs := String
  unmarshalConfigs text := if text.startsWith "[" then some text else none
  modelSizeIsValid size := size ∈ ["tiny", "base", "small"]
  transcribeAPIIsValid api := api ∈ ["whisper.cpp", "azure"]
  numThreadsDefault := 2
  modelSizeDefault := "base"
  transcribeAPIDefault := "whisper.cpp"
  liveCaptionsModelSizeDefault := "tiny"
  liveCaptionsNumTranscribersDefault := 1
  liveCaptionsNumThreadsPerTranscriberDefault := 2
  liveCaptionsLanguageDefault := "en"

/-- A server that restores the hidden values of some keys. -/
def serverRestoring (restores : String → Bool) : ConfigServer offeredPackages where
  restores
  loadPluginConfiguration settings :=
    match Config.manifestDefaults.unmarshal offeredPackages settings.entries with
    | some config => .ok config
    | none => .error "json: cannot unmarshal"

theorem documented_serverRestoring : (serverRestoring isSecretKey).Documented where
  restores_iff _ := Iff.rfl
  loads settings config _ read := by
    rw [serverRestoring]
    dsimp only
    rw [read]

theorem offersValid_offeredPackages : Config.OffersValid offeredPackages := ⟨by decide, by decide, by decide⟩

def hiddenSetting : SettingValue := .string offeredPackages.fakeSetting

def currentSecret : SavedSettings := ⟨[("turnstaticauthsecret", .string "secret")], by decide⟩

def hiddenSecret : SavedSettings := ⟨[("turnstaticauthsecret", hiddenSetting), ("udpserverport", .integer 8444)], by decide⟩

theorem loadsSaved_hiddenSecret : (serverRestoring isSecretKey).LoadsSaved currentSecret hiddenSecret := by
  refine (loadsSaved_iff offersValid_offeredPackages documented_serverRestoring ⟨?_, ?_⟩ ?_).mpr ?_
  · decide +kernel
  · decide +kernel
  · decide +kernel
  · intro key hidden
    have member := SavedSettings.get_eq_some_iff.mp hidden
    simp only [hiddenSecret, List.mem_cons, Prod.mk.injEq, List.not_mem_nil, or_false] at member
    rcases member with ⟨rfl, -⟩ | ⟨-, other⟩
    · decide +kernel
    · cases other

/-- A size that is not offered, which is not looked at while there are no transcriptions. -/
def currentModelSize : SavedSettings := ⟨[("transcribermodelsize", .string "huge")], by decide⟩

def hiddenModelSize : SavedSettings :=
  ⟨[("enablerecordings", .bool true), ("enabletranscriptions", .bool true), ("transcribermodelsize", hiddenSetting)], by decide⟩

theorem not_loadsSaved_of_error {server : ConfigServer packages} {current settings : SavedSettings}
    (fails : (server.loadConfig (server.stored current settings)).isOk = false) : ¬server.LoadsSaved current settings := by
  rintro ⟨-, config, loads, -⟩
  rw [loads] at fails
  cases fails

/-- Settings that are accepted cannot be loaded, whether the server restores what is hidden or stores it. -/
theorem not_loadsSaved_hiddenModelSize : currentModelSize.Load offeredPackages ∧
    configurationWillBeSaved offeredPackages (some hiddenModelSize) = .ok () ∧
      ¬(serverRestoring isSecretKey).LoadsSaved currentModelSize hiddenModelSize ∧
        ¬(serverRestoring fun _ => true).LoadsSaved currentModelSize hiddenModelSize := by
  refine ⟨⟨?_, ?_⟩, ?_, not_loadsSaved_of_error ?_, not_loadsSaved_of_error ?_⟩
  · decide
  · decide +kernel
  · decide +kernel
  · decide +kernel
  · decide +kernel

end Calls
