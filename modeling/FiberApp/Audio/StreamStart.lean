import FiberApp.Audio.AudioOptions

/-! The start of a stream in `webrtc_voe_dev.cc`, as far as it sets up the echo canceller
and the echo state machine from the properties of the two devices. -/

set_option autoImplicit false

namespace FiberApp.Audio

/-- The order of the enumerations is that of their values. -/
def EsMode.value : EsMode → Nat
  | .monitor => 0
  | .automatic => 1
  | .enabled => 2

def EsSuppression.value : EsSuppression → Nat
  | .low => 0
  | .moderate => 1
  | .halfDuplex => 2

def EcDelayMode.value : EcDelayMode → Nat
  | .reportedLatency => 0
  | .staticLatency => 1
  | .algorithmicLatency => 2

/-- A property map, in the order of its iteration. -/
abbrev DeviceProps := List (String × Int32)

/-- The properties that have to do with the echo. -/
inductive EchoProperty
  | aecEnabled
  | aecTailLengthMs
  | aecMode
  | aecDelayMode
  | aecStaticDelay
  | audioDelayOffsetMs
  | esmMode
  | esmLevel
  | delayEstimatorEnabled
  | aecNlpDelayFilter
  | bjnAecTailLengthMs
  | bjnEsmMode
  | bjnEsmLevel
  deriving DecidableEq, Repr

/-- The name a loop over a map compares with. -/
def echoProperties : List (String × EchoProperty) :=
  [("aec_enabled", .aecEnabled),
    ("aec_tail_length_ms", .aecTailLengthMs),
    ("aec_mode", .aecMode),
    ("aec_delay_mode", .aecDelayMode),
    ("aec_static_delay", .aecStaticDelay),
    ("audio_delay_offset_ms", .audioDelayOffsetMs),
    ("esm_mode", .esmMode),
    ("esm_level", .esmLevel),
    ("delay_estimator_enabled", .delayEstimatorEnabled),
    ("aec_nlp_delay_filter", .aecNlpDelayFilter),
    ("bjn_aec_tail_length_ms", .bjnAecTailLengthMs),
    ("bjn_esm_mode", .bjnEsmMode),
    ("bjn_esm_level", .bjnEsmLevel)]

/-- The part of `webrtc_audio_dsp_config` the echo canceller is set up from, with the two
local flags beside it. The sums of delays are taken to fit an `int`. -/
structure DspConfig where
  micAecDisabled : Bool
  spkrAecDisabled : Bool
  aecTailLengthMs : Int
  bjnAecTailLengthMs : Int
  aecMode : EcMode
  aecmMode : AecmMode
  esmMode : EsMode
  esmLevel : EsSuppression
  audioDelayOffsetMs : Int
  delayEstimatorEnabled : Bool
  aecNlpDelayFilter : Bool
  aecDelayMode : EcDelayMode
  aecStaticDelay : Int16
  bjnEsmMode : EsMode
  bjnEsmLevel : EsSuppression
  deriving DecidableEq, Repr

/-- The parts of the stream and of the features a start reads. -/
structure StartSettings where
  capture : Bool
  playback : Bool
  cphInstance : Bool
  enableCustomAec : Bool
  enableCustomAecExternal : Bool
  aecDelayLogging : Bool
  aecModifiedBuffer : Bool
  deriving DecidableEq, Repr

namespace DspConfig

def initial : DspConfig where
  micAecDisabled := false
  spkrAecDisabled := false
  aecTailLengthMs := 50
  bjnAecTailLengthMs := 200
  aecMode := .conference
  aecmMode := .loudSpeakerphone
  esmMode := .monitor
  esmLevel := .low
  audioDelayOffsetMs := 0
  delayEstimatorEnabled := false
  aecNlpDelayFilter := false
  aecDelayMode := .reportedLatency
  aecStaticDelay := 60
  bjnEsmMode := .monitor
  bjnEsmLevel := .low

/-- Both loops raise the modes and levels of the echo state machine. -/
def raiseEsmMode (current : EsMode) (value : Int32) : EsMode :=
  if (mapEsmMode value).value > current.value then mapEsmMode value else current

def raiseEsmLevel (current : EsSuppression) (value : Int32) : EsSuppression :=
  if (mapEsmLevel value).value > current.value then mapEsmLevel value else current

def mapEcDelayMode (value : Int32) : EcDelayMode :=
  match value.toInt with
  | 0 => .reportedLatency
  | 1 => .staticLatency
  | 2 => .algorithmicLatency
  | _ => .reportedLatency

def raiseEcDelayMode (current : EcDelayMode) (value : Int32) : EcDelayMode :=
  if (mapEcDelayMode value).value > current.value then mapEcDelayMode value else current

/-- Value 5 leaves the mode alone without the custom canceller. -/
def micAecMode (settings : StartSettings) (current : EcMode) (value : Int32) : EcMode :=
  match value.toInt with
  | 0 => .aec
  | 1 => .conference
  | 2 => .aecm
  | 5 => if settings.enableCustomAec then .bjn else current
  | _ => .conference

def micProperty (settings : StartSettings) (config : DspConfig) (property : String × Int32) :
    DspConfig :=
  let value := property.2
  match echoProperties.lookup property.1 with
  | none => config
  | some .aecEnabled => { config with micAecDisabled := decide (value = 0) }
  | some .aecTailLengthMs => { config with aecTailLengthMs := min 120 (max 20 value.toInt) }
  | some .aecMode => { config with aecMode := micAecMode settings config.aecMode value }
  | some .aecDelayMode => { config with aecDelayMode := mapEcDelayMode value }
  | some .aecStaticDelay => { config with aecStaticDelay := value.toInt16 }
  | some .audioDelayOffsetMs => { config with audioDelayOffsetMs := value.toInt }
  | some .esmMode => { config with esmMode := raiseEsmMode config.esmMode value }
  | some .esmLevel => { config with esmLevel := raiseEsmLevel config.esmLevel value }
  | some .delayEstimatorEnabled => { config with delayEstimatorEnabled := decide (0 < value) }
  | some .aecNlpDelayFilter =>
      { config with aecNlpDelayFilter := config.aecNlpDelayFilter || decide (value ≠ 0) }
  | some .bjnAecTailLengthMs => { config with bjnAecTailLengthMs := value.toInt }
  | some .bjnEsmMode => { config with bjnEsmMode := raiseEsmMode config.bjnEsmMode value }
  | some .bjnEsmLevel => { config with bjnEsmLevel := raiseEsmLevel config.bjnEsmLevel value }

/-- The speaker has no mode of the canceller. -/
def spkrProperty (config : DspConfig) (property : String × Int32) : DspConfig :=
  let value := property.2
  match echoProperties.lookup property.1 with
  | none => config
  | some .aecEnabled => { config with spkrAecDisabled := decide (value = 0) }
  | some .aecTailLengthMs =>
      -- Should use the larger of two taillengths defined.
      { config with aecTailLengthMs := min (max config.aecTailLengthMs value.toInt) 120 }
  | some .aecMode => config
  | some .aecDelayMode =>
      { config with aecDelayMode := raiseEcDelayMode config.aecDelayMode value }
  | some .aecStaticDelay => { config with aecStaticDelay := value.toInt16 }
  | some .audioDelayOffsetMs =>
      { config with audioDelayOffsetMs := config.audioDelayOffsetMs + value.toInt }
  | some .esmMode => { config with esmMode := raiseEsmMode config.esmMode value }
  | some .esmLevel => { config with esmLevel := raiseEsmLevel config.esmLevel value }
  | some .delayEstimatorEnabled =>
      { config with
        delayEstimatorEnabled := config.delayEstimatorEnabled || decide (0 < value) }
  | some .aecNlpDelayFilter =>
      { config with aecNlpDelayFilter := config.aecNlpDelayFilter || decide (value ≠ 0) }
  | some .bjnAecTailLengthMs => { config with bjnAecTailLengthMs := value.toInt }
  | some .bjnEsmMode => { config with bjnEsmMode := raiseEsmMode config.bjnEsmMode value }
  | some .bjnEsmLevel => { config with bjnEsmLevel := raiseEsmLevel config.bjnEsmLevel value }

def readMic (settings : StartSettings) (micProps : DeviceProps) (config : DspConfig) :
    DspConfig :=
  if settings.capture then micProps.foldl (micProperty settings) config else config

def readSpkr (settings : StartSettings) (spkProps : DeviceProps) (config : DspConfig) :
    DspConfig :=
  if settings.playback then spkProps.foldl spkrProperty config else config

def aecEnabled (config : DspConfig) : Bool := !(config.spkrAecDisabled && config.micAecDisabled)

/-- The custom canceller takes the place of any but the mobile one. -/
def selectAecMode (settings : StartSettings) (config : DspConfig) : EcMode :=
  if config.aecEnabled && config.aecMode ≠ .aecm &&
      (settings.enableCustomAecExternal && settings.enableCustomAec) then .bjn
  else config.aecMode

end DspConfig

/-- The calls of a start on the engine, up to the delay offset. -/
inductive StartCall
  | setChannelOutputVolumeScaling
  | enableHighPassFilter
  | setAecmMode (mode : AecmMode) (enableCng : Bool)
  | setEcStatus (enable : Bool) (mode : EcMode)
  | setEcMetricsStatus
  | setEcTailLengthMs (tailMs : Int)
  | setEcDelayMode (mode : EcDelayMode) (delayMs : Int16)
  | setEcNlpDelayFiltering (enable : Bool)
  | enableDriftCompensation
  | setEcDelayLogging
  | setEcModifiedBufferLogic
  | setEsmDelayEstimatorStatus (enable : Bool)
  | setEsmStatus (enable : Bool)
  | setEsmMode (mode : EsMode)
  | setEsmLevel (level : EsSuppression)
  | setDelayOffsetMs (offset : Int)
  deriving DecidableEq, Repr

/-- A call whose failure ends the start, or one whose failure is at most logged. -/
inductive Planned
  | required (call : StartCall)
  | optional (call : StartCall)
  deriving DecidableEq, Repr

def Planned.call : Planned → StartCall
  | .required call => call
  | .optional call => call

/-- The calls that are made, in order. -/
def perform (fails : StartCall → Bool) : List Planned → List StartCall
  | [] => []
  | .optional call :: rest => call :: perform fails rest
  | .required call :: rest => call :: (if fails call then [] else perform fails rest)

namespace DspConfig

/-- The set-up of the canceller; `mode` is the mode selected. -/
def planAec (settings : StartSettings) (config : DspConfig) (mode : EcMode) : List Planned :=
  if config.aecEnabled && config.aecMode = .aecm then
    [.required (.setAecmMode config.aecmMode true),
      .required (.setEcStatus config.aecEnabled config.aecMode)]
  else if config.aecEnabled then
    [.required (.setEcStatus config.aecEnabled mode), .required .setEcMetricsStatus] ++
    (if mode = .bjn then
      [.optional (.setEcTailLengthMs config.bjnAecTailLengthMs),
        .optional (.setEcDelayMode config.aecDelayMode config.aecStaticDelay)]
    else [.optional (.setEcTailLengthMs config.aecTailLengthMs)]) ++
    [.optional (.setEcNlpDelayFiltering config.aecNlpDelayFilter),
      .optional .enableDriftCompensation] ++
    (if settings.aecDelayLogging then [.optional .setEcDelayLogging] else []) ++
    (if settings.aecModifiedBuffer then [.optional .setEcModifiedBufferLogic] else [])
  else []

def planEsm (config : DspConfig) (mode : EcMode) : List Planned :=
  [.required (.setEsmDelayEstimatorStatus config.delayEstimatorEnabled),
    .required (.setEsmStatus true),
    .required (.setEsmMode (if mode = .bjn then config.bjnEsmMode else config.esmMode)),
    .required (.setEsmLevel (if mode = .bjn then config.bjnEsmLevel else config.esmLevel)),
    .optional (.setDelayOffsetMs config.audioDelayOffsetMs)]

def plan (settings : StartSettings) (config : DspConfig) : List Planned :=
  let mode := config.selectAecMode settings
  [.required .setChannelOutputVolumeScaling, .required .enableHighPassFilter] ++
    config.planAec settings mode ++ config.planEsm mode

end DspConfig

/-- The configuration a start ends up with. -/
def startConfig (settings : StartSettings) (micProps spkProps : DeviceProps) : DspConfig :=
  (DspConfig.initial.readMic settings micProps).readSpkr settings spkProps

/-- `webrtc_voe_stream_start`; without a configuration parser a direction returns early. -/
def webrtcVoeStreamStart (settings : StartSettings) (fails : StartCall → Bool)
    (micProps spkProps : DeviceProps) : List StartCall :=
  if (settings.capture || settings.playback) && !settings.cphInstance then []
  else perform fails ((startConfig settings micProps spkProps).plan settings)

end FiberApp.Audio
