import Mathlib.Data.List.Basic

/-! The audio options of `webrtc_voe_dev.cc`: the table of their names, the handler
of each option, and the entry point that looks a name up in the table. -/

set_option autoImplicit false

namespace FiberApp.Audio

inductive EcMode
  | unchanged | aec | conference | aecm | bjn
  deriving DecidableEq, Repr

inductive AecmMode
  | quietEarpieceOrHeadset | earpiece | loudEarpiece | speakerphone | loudSpeakerphone
  deriving DecidableEq, Repr

inductive NsMode
  | unchanged | highSuppression
  deriving DecidableEq, Repr

inductive KeynoiseSuppLevel
  | low | moderate | high | automatic
  deriving DecidableEq, Repr

inductive AgcMode
  | unchanged | adaptiveAnalog | fixedDigital
  deriving DecidableEq, Repr

inductive EsMode
  | monitor | automatic | enabled
  deriving DecidableEq, Repr

inductive EsSuppression
  | low | moderate | halfDuplex
  deriving DecidableEq, Repr

inductive ComfortNoiseMode
  | off | static | adaptive
  deriving DecidableEq, Repr

inductive EcDelayMode
  | reportedLatency | staticLatency | algorithmicLatency
  deriving DecidableEq, Repr

structure AgcConfig where
  targetLeveldBOv : UInt16
  digitalCompressionGaindB : UInt16
  limiterEnable : Bool
  deriving DecidableEq, Repr

/-- The calls of the handlers that change something: on the audio processing, the
volume and the video sync of the engine, and the device change on the stream. -/
inductive EngineCall
  | startDebugRecording
  | stopDebugRecording
  | setEcStatus (enable : Bool) (mode : EcMode)
  | setEcTailLengthMs (tailMs : Int32)
  | setAecmMode (mode : AecmMode) (enableCng : Bool)
  | setNsStatus (enable : Bool) (mode : NsMode)
  | setTypingDetectionStatus (enable : Bool)
  | enableKeyNoiseSupp (enable : Bool) (level : KeynoiseSuppLevel)
  | setTypingDetectionParameters
      (timeWindow costPerTyping reportingThreshold penaltyDecay typeEventDelay : Int32)
  | setAgcStatus (enable : Bool) (mode : AgcMode)
  | setAgcConfig (config : AgcConfig)
  | setDelayOffsetMs (offset : Int32)
  | setEsmStatus (enable : Bool)
  | setEsmMode (mode : EsMode)
  | setEsmLevel (level : EsSuppression)
  | setCngMode (mode : ComfortNoiseMode)
  | setBjnRemoteMuteStatus (muted : Bool)
  | setOutputMute (channel : Int32) (enable : Bool)
  | setEcNlpDelayFiltering (enable : Bool)
  | setExtraPlayoutDelay (channel delayMs : Int32)
  | setEcDelayMode (mode : EcDelayMode) (delayMs : Int16)
  | setMicAnimationState (state : Int32)
  | fastChangeDevices (dir : UInt32) (recId playId : Int32)
  deriving DecidableEq, Repr

/-- What the engine answers during one call of a handler. -/
structure EngineReplies where
  ecEnabled : Bool
  esmEnabled : Bool
  fails : EngineCall → Bool

/-- The parts of `webrtc_voe_audio_stream` the handlers use, and their calls so far. -/
structure VoeStream where
  chan : Int32
  dir : UInt32
  recId : Int32
  playId : Int32
  typingDetectionEnabled : Bool
  calls : List EngineCall
  deriving DecidableEq, Repr

inductive PjStatus
  | success
  | ebug
  | eaudInvcap
  deriving DecidableEq, Repr

namespace VoeStream

/-- Calls whose result the handler does not look at. -/
def perform (calls : List EngineCall) (stream : VoeStream) : PjStatus × VoeStream :=
  (.success, { stream with calls := stream.calls ++ calls })

/-- The first call that fails ends the handler. -/
def attempt (replies : EngineReplies) : List EngineCall → VoeStream → PjStatus × VoeStream
  | [], stream => (.success, stream)
  | call :: rest, stream =>
      let stream := { stream with calls := stream.calls ++ [call] }
      if replies.fails call then (.ebug, stream) else stream.attempt replies rest

end VoeStream

def mapEsmMode (level : Int32) : EsMode :=
  match level.toInt with
  | 0 => .monitor
  | 1 => .automatic
  | 2 => .enabled
  | _ => .monitor

def mapEsmLevel (level : Int32) : EsSuppression :=
  match level.toInt with
  | 0 => .low
  | 1 => .moderate
  | 2 => .halfDuplex
  | _ => .moderate

section

variable (replies : EngineReplies) (stream : VoeStream) (value : Int32)

def webrtcVoeAudioDebug : PjStatus × VoeStream :=
  stream.perform [if 0 < value then .startDebugRecording else .stopDebugRecording]

def webrtcVoeAudioAec : PjStatus × VoeStream :=
  stream.attempt replies
    [if 0 < value then .setEcStatus true .aec else .setEcStatus false .unchanged]

def webrtcVoeAudioAecMs : PjStatus × VoeStream :=
  let tailLength := max (min value 120) 20
  stream.perform (if replies.ecEnabled then [.setEcTailLengthMs tailLength] else [])

def webrtcVoeAudioAecPlotting : PjStatus × VoeStream := (.success, stream)

def webrtcVoeAudioAecLevel : PjStatus × VoeStream := (.success, stream)

def webrtcVoeAudioAecMode : PjStatus × VoeStream :=
  let mode :=
    match value.toInt with
    | 0 => EcMode.aec
    | 1 => .conference
    | 2 => .aecm
    | 5 => .bjn
    | _ => .conference
  stream.perform [.setAecmMode .speakerphone true, .setEcStatus true mode]

def webrtcVoeAudioAecmMode : PjStatus × VoeStream :=
  let mode :=
    match value.toInt with
    | 0 => AecmMode.quietEarpieceOrHeadset
    | 1 => .earpiece
    | 2 => .loudEarpiece
    | 3 => .speakerphone
    | 4 => .loudSpeakerphone
    | _ => .loudSpeakerphone
  stream.perform [.setEcStatus true .aecm, .setAecmMode mode true]

def webrtcVoeAudioNs : PjStatus × VoeStream :=
  stream.attempt replies
    [if 0 < value then .setNsStatus true .highSuppression else .setNsStatus false .unchanged]

/-- The mode is chosen and not handed to the engine. -/
def webrtcVoeAudioNsLevel : PjStatus × VoeStream := (.success, stream)

def webrtcVoeAudioKeyNoise : PjStatus × VoeStream :=
  stream.perform
    (if 0 < value then
      [.setTypingDetectionStatus stream.typingDetectionEnabled,
        .enableKeyNoiseSupp stream.typingDetectionEnabled .moderate,
        .setTypingDetectionParameters 5 40 1 2 1]
    else [.setTypingDetectionStatus false, .enableKeyNoiseSupp false .moderate])

def webrtcVoeAudioKeyMode : PjStatus × VoeStream :=
  let level :=
    match value.toInt with
    | 0 => KeynoiseSuppLevel.low
    | 1 => .moderate
    | 2 => .high
    | 3 => .automatic
    | _ => .high
  stream.perform [.enableKeyNoiseSupp stream.typingDetectionEnabled level]

/-- The build outside Mac OS X. -/
def webrtcVoeAudioAgc : PjStatus × VoeStream :=
  stream.attempt replies
    (if 0 < value then [.setAgcStatus true .adaptiveAnalog, .setAgcConfig ⟨6, 9, true⟩]
    else [.setAgcStatus false .adaptiveAnalog])

def webrtcVoeAudioAgcConstGain : PjStatus × VoeStream :=
  stream.attempt replies
    [.setAgcStatus true .fixedDigital, .setAgcConfig ⟨0, value.toUInt32.toUInt16, true⟩]

def webrtcVoeAudioAgcMaxGain : PjStatus × VoeStream :=
  stream.attempt replies [.setAgcConfig ⟨value.toUInt32.toUInt16, 9, true⟩]

def webrtcVoeAudioDelayMs : PjStatus × VoeStream := stream.perform [.setDelayOffsetMs value]

def webrtcVoeAudioEsm : PjStatus × VoeStream := stream.perform [.setEsmStatus (0 < value)]

def webrtcVoeAudioEsmMode : PjStatus × VoeStream :=
  stream.attempt replies (if replies.esmEnabled then [.setEsmMode (mapEsmMode value)] else [])

def webrtcVoeAudioEsmLevel : PjStatus × VoeStream :=
  stream.attempt replies (if replies.esmEnabled then [.setEsmLevel (mapEsmLevel value)] else [])

def webrtcVoeAudioCngMode : PjStatus × VoeStream :=
  let mode :=
    match value.toInt with
    | 1 => ComfortNoiseMode.static
    | 2 => .adaptive
    | _ => .off
  stream.perform [.setCngMode mode]

def webrtcVoeAudioDnmMute : PjStatus × VoeStream :=
  stream.perform [.setBjnRemoteMuteStatus (0 < value)]

def webrtcVoeAudioSpkMute : PjStatus × VoeStream :=
  stream.perform [.setOutputMute stream.chan (value ≠ 0)]

def webrtcVoeAudioSetTypingDetection : PjStatus × VoeStream :=
  (.success, { stream with typingDetectionEnabled := value ≠ 0 })

def webrtcVoeAudioAecNlpFiltering : PjStatus × VoeStream :=
  stream.perform (if replies.ecEnabled then [.setEcNlpDelayFiltering (0 < value)] else [])

def webrtcVoeAudioExtraDelay : PjStatus × VoeStream :=
  stream.perform [.setExtraPlayoutDelay stream.chan value]

def webrtcVoeAudioAecDelayMode : PjStatus × VoeStream :=
  let mode :=
    match value.toInt with
    | 0 => EcDelayMode.reportedLatency
    | 1 => .staticLatency
    | 2 => .algorithmicLatency
    | _ => .reportedLatency
  stream.perform [.setEcDelayMode mode 40]

def webrtcVoeAudioAecDelayMs : PjStatus × VoeStream :=
  stream.perform [.setEcDelayMode .staticLatency value.toInt16]

def webrtcVoeAudioMicAnimationState : PjStatus × VoeStream :=
  stream.perform [.setMicAnimationState value]

def webrtcVoeAudioResetDriver : PjStatus × VoeStream :=
  stream.perform [.fastChangeDevices stream.dir stream.recId stream.playId]

end

/-- `audio_options`; `debug` has the value zero. -/
inductive AudioOption
  | debug
  | aec
  | aecMs
  | aecPlotting
  | aecLevel
  | aecMode
  | aecmMode
  | ns
  | nsLevel
  | keyNoise
  | keyMode
  | agc
  | agcConstGain
  | agcMaxGain
  | delayMs
  | esm
  | esmMode
  | esmLevel
  | dnmMute
  | spkMute
  | cngMode
  | typingDetection
  | aecNlpFiltering
  | extraDelay
  | aecDelayMode
  | aecDelayMs
  | micAnimationState
  | resetDriver
  deriving DecidableEq, Repr

/-- A `std::map` from names to options. -/
abbrev OptionsMap := List (String × AudioOption)

def audioOptionsMap : OptionsMap :=
  [("debug", .debug),
    ("aec", .aec),
    ("aec_ms", .aecMs),
    ("aec_plotting", .aecPlotting),
    ("aec_level", .aecLevel),
    ("aec_mode", .aecMode),
    ("aecm_mode", .aecmMode),
    ("ns", .ns),
    ("ns_level", .nsLevel),
    ("key_noise", .keyNoise),
    ("key_mode", .keyMode),
    ("agc", .agc),
    ("agc_const_gain", .agcConstGain),
    ("agc_max_gain", .agcMaxGain),
    ("delay_ms", .delayMs),
    ("esm", .esm),
    ("esm_mode", .esmMode),
    ("esm_level", .esmLevel),
    ("dnm_mute", .dnmMute),
    ("spk_mute", .spkMute),
    ("cng_mode", .cngMode),
    ("typing_detection", .typingDetection),
    ("nlp_delay_filter", .aecNlpFiltering),
    ("extra_delay", .extraDelay),
    ("aec_delay_mode", .aecDelayMode),
    ("aec_delay_ms", .aecDelayMs),
    ("set_animation_state", .micAnimationState),
    ("reset_driver", .resetDriver)]

/-- `operator[]`: a name that is not in the map enters it with the value zero. -/
def OptionsMap.index (map : OptionsMap) (name : String) : AudioOption × OptionsMap :=
  match map.lookup name with
  | some option => (option, map)
  | none => (.debug, (name, .debug) :: map)

structure ConfigState where
  map : OptionsMap
  stream : VoeStream
  deriving DecidableEq, Repr

structure ConfigCall where
  cap : String
  value : Int32
  replies : EngineReplies

def handle (option : AudioOption) (replies : EngineReplies) (stream : VoeStream)
    (value : Int32) : PjStatus × VoeStream :=
  match option with
  | .debug => webrtcVoeAudioDebug stream value
  | .aec => webrtcVoeAudioAec replies stream value
  | .aecMs => webrtcVoeAudioAecMs replies stream value
  | .aecPlotting => webrtcVoeAudioAecPlotting stream
  | .aecLevel => webrtcVoeAudioAecLevel stream
  | .aecMode => webrtcVoeAudioAecMode stream value
  | .aecmMode => webrtcVoeAudioAecmMode stream value
  | .ns => webrtcVoeAudioNs replies stream value
  | .nsLevel => webrtcVoeAudioNsLevel stream
  | .keyNoise => webrtcVoeAudioKeyNoise stream value
  | .keyMode => webrtcVoeAudioKeyMode stream value
  | .agc => webrtcVoeAudioAgc replies stream value
  | .agcConstGain => webrtcVoeAudioAgcConstGain replies stream value
  | .agcMaxGain => webrtcVoeAudioAgcMaxGain replies stream value
  | .delayMs => webrtcVoeAudioDelayMs stream value
  | .esm => webrtcVoeAudioEsm stream value
  | .esmMode => webrtcVoeAudioEsmMode replies stream value
  | .esmLevel => webrtcVoeAudioEsmLevel replies stream value
  | .dnmMute => webrtcVoeAudioDnmMute stream value
  | .spkMute => webrtcVoeAudioSpkMute stream value
  | .cngMode => webrtcVoeAudioCngMode stream value
  | .typingDetection => webrtcVoeAudioSetTypingDetection stream value
  | .aecNlpFiltering => webrtcVoeAudioAecNlpFiltering replies stream value
  | .extraDelay => webrtcVoeAudioExtraDelay stream value
  | .aecDelayMode => webrtcVoeAudioAecDelayMode stream value
  | .aecDelayMs => webrtcVoeAudioAecDelayMs stream value
  | .micAnimationState => webrtcVoeAudioMicAnimationState stream value
  | .resetDriver => webrtcVoeAudioResetDriver stream

/-- `webrtc_voe_stream_set_config_cap`. The `PJMEDIA_EAUD_INVCAP` after the switch is not
reached: the switch has a case for every option. -/
def setConfigCap (state : ConfigState) (call : ConfigCall) : PjStatus × ConfigState :=
  let (option, map) := state.map.index call.cap
  let (status, stream) := handle option call.replies state.stream call.value
  (status, ⟨map, stream⟩)

/-- The loop over the options of `PJMEDIA_AUD_DEV_CAP_CONFIG_OPTIONS`, which drops the
results. -/
def setConfigOptions (state : ConfigState) (options : List ConfigCall) :
    PjStatus × ConfigState :=
  (.success, options.foldl (fun state call => (setConfigCap state call).2) state)

end FiberApp.Audio
