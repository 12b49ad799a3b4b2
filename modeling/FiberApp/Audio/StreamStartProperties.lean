import FiberApp.Audio.StreamStart
import Mathlib.Order.Lattice
import Mathlib.Tactic.Common

/-! What the speaker's properties do to the canceller a start sets up: they raise what the
microphone's properties chose, but for the tail length of the custom canceller. -/

set_option autoImplicit false

namespace FiberApp.Audio

/-- The settings compared between two starts. -/
inductive EchoSetting
  | tailLength
  | delayMode
  | esmMode
  | esmLevel
  deriving DecidableEq, Repr

/-- The setting a call programs, with its value. -/
def StartCall.programs : StartCall → Option (EchoSetting × Int)
  | .setEcTailLengthMs tailMs => some (.tailLength, tailMs)
  | .setEcDelayMode mode _ => some (.delayMode, mode.value)
  | .setEsmMode mode => some (.esmMode, mode.value)
  | .setEsmLevel level => some (.esmLevel, level.value)
  | _ => none

def Programs (calls : List StartCall) (setting : EchoSetting) (value : Int) : Prop :=
  ∃ call ∈ calls, call.programs = some (setting, value)

/-! The calls that are made are those planned, as long as none fails that must not. -/

theorem mem_plan_of_mem_perform {fails : StartCall → Bool} {planned : List Planned}
    {call : StartCall} (made : call ∈ perform fails planned) :
    call ∈ planned.map Planned.call := by
  induction planned with
  | nil => exact made
  | cons first rest ih =>
      rw [List.map_cons, List.mem_cons]
      cases first with
      | optional other =>
          rw [perform, List.mem_cons] at made
          exact made.imp_right ih
      | required other =>
          rw [perform, List.mem_cons] at made
          rcases made with same | later
          · exact .inl same
          · split at later
            · cases later
            · exact .inr (ih later)

theorem perform_of_no_failure {fails : StartCall → Bool} (works : ∀ call, fails call = false)
    (planned : List Planned) : perform fails planned = planned.map Planned.call := by
  induction planned with
  | nil => rfl
  | cons first rest ih =>
      cases first with
      | optional call => rw [perform, ih, List.map_cons, Planned.call]
      | required call =>
          rw [perform, works, List.map_cons, Planned.call, ih]
          rfl

namespace DspConfig

/-- What a plan programs. -/
def programmed (settings : StartSettings) (config : DspConfig) : EchoSetting → Option Int
  | .tailLength =>
      if config.aecEnabled = true ∧ config.aecMode ≠ .aecm then
        if config.selectAecMode settings = .bjn then some config.bjnAecTailLengthMs
        else some config.aecTailLengthMs
      else none
  | .delayMode =>
      if config.aecEnabled = true ∧ config.aecMode ≠ .aecm ∧
          config.selectAecMode settings = .bjn then some config.aecDelayMode.value
      else none
  | .esmMode =>
      if config.selectAecMode settings = .bjn then some config.bjnEsmMode.value
      else some config.esmMode.value
  | .esmLevel =>
      if config.selectAecMode settings = .bjn then some config.bjnEsmLevel.value
      else some config.esmLevel.value

/-- The settings that the set-up of the canceller programs. -/
def programmedAec (config : DspConfig) (mode : EcMode) : List (EchoSetting × Int) :=
  if config.aecEnabled = true ∧ config.aecMode ≠ .aecm then
    if mode = .bjn then
      [(.tailLength, config.bjnAecTailLengthMs), (.delayMode, config.aecDelayMode.value)]
    else [(.tailLength, config.aecTailLengthMs)]
  else []

theorem programs_planAec (settings : StartSettings) (config : DspConfig) (mode : EcMode) :
    ((config.planAec settings mode).map Planned.call).filterMap StartCall.programs =
      config.programmedAec mode := by
  rw [planAec, programmedAec]
  cases enabled : config.aecEnabled with
  | false => simp
  | true =>
      by_cases mobile : config.aecMode = .aecm
      · simp [mobile, Planned.call, StartCall.programs]
      · by_cases custom : mode = .bjn <;>
          cases settings.aecDelayLogging <;> cases settings.aecModifiedBuffer <;>
            simp only [mobile, custom, decide_false, Bool.and_false, Bool.false_eq_true, if_true,
              if_false, ne_eq, not_false_eq_true, and_self] <;>
            rfl

theorem programs_planEsm (config : DspConfig) (mode : EcMode) :
    ((config.planEsm mode).map Planned.call).filterMap StartCall.programs =
      [(.esmMode, ((if mode = .bjn then config.bjnEsmMode else config.esmMode).value : Int)),
        (.esmLevel,
          ((if mode = .bjn then config.bjnEsmLevel else config.esmLevel).value : Int))] := by
  rfl

theorem programs_plan_iff (settings : StartSettings) (config : DspConfig)
    (setting : EchoSetting) (value : Int) :
    Programs ((config.plan settings).map Planned.call) setting value ↔
      config.programmed settings setting = some value := by
  rw [Programs, ← List.mem_filterMap, plan, List.map_append, List.map_append,
    List.filterMap_append, List.filterMap_append, programs_planAec, programs_planEsm]
  have leading : ([.required .setChannelOutputVolumeScaling, .required .enableHighPassFilter].map
      Planned.call).filterMap StartCall.programs = [] := rfl
  rw [leading, List.nil_append, List.mem_append, programmedAec]
  by_cases canceller : config.aecEnabled = true ∧ config.aecMode ≠ .aecm <;>
    by_cases custom : config.selectAecMode settings = .bjn <;>
      cases setting <;> simp [programmed, canceller, custom] <;> exact eq_comm

/-! What the properties of a device do to the configuration. -/

theorem le_raiseEsmMode (current : EsMode) (value : Int32) :
    current.value ≤ (raiseEsmMode current value).value := by
  unfold raiseEsmMode
  split
  case isTrue higher => exact Nat.le_of_lt higher
  case isFalse => exact Nat.le_refl _

theorem le_raiseEsmLevel (current : EsSuppression) (value : Int32) :
    current.value ≤ (raiseEsmLevel current value).value := by
  unfold raiseEsmLevel
  split
  case isTrue higher => exact Nat.le_of_lt higher
  case isFalse => exact Nat.le_refl _

theorem le_raiseEcDelayMode (current : EcDelayMode) (value : Int32) :
    current.value ≤ (raiseEcDelayMode current value).value := by
  unfold raiseEcDelayMode
  split
  case isTrue higher => exact Nat.le_of_lt higher
  case isFalse => exact Nat.le_refl _

/-- The range of the clamp. -/
def TailInRange (config : DspConfig) : Prop :=
  20 ≤ config.aecTailLengthMs ∧ config.aecTailLengthMs ≤ 120

theorem initial_tailInRange : initial.TailInRange := ⟨by decide, by decide⟩

theorem micProperty_tailInRange (settings : StartSettings) {config : DspConfig}
    (inRange : config.TailInRange) (property : String × Int32) :
    (micProperty settings config property).TailInRange := by
  have clamped : 20 ≤ min 120 (max 20 property.2.toInt) := le_min (by decide) (le_max_left _ _)
  unfold micProperty
  cases echoProperties.lookup property.1 with
  | none => exact inRange
  | some known =>
      cases known with
      | aecTailLengthMs => exact ⟨clamped, min_le_left _ _⟩
      | _ => exact inRange

/-- The second configuration has the same canceller as the first one, and at least its
settings, the tail length of the custom canceller apart. -/
structure Raises (base config : DspConfig) : Prop where
  micAecDisabled : config.micAecDisabled = base.micAecDisabled
  aecMode : config.aecMode = base.aecMode
  tailLength : base.aecTailLengthMs ≤ config.aecTailLengthMs
  delayMode : base.aecDelayMode.value ≤ config.aecDelayMode.value
  esmMode : base.esmMode.value ≤ config.esmMode.value
  esmLevel : base.esmLevel.value ≤ config.esmLevel.value
  bjnEsmMode : base.bjnEsmMode.value ≤ config.bjnEsmMode.value
  bjnEsmLevel : base.bjnEsmLevel.value ≤ config.bjnEsmLevel.value

theorem Raises.refl (config : DspConfig) : config.Raises config where
  micAecDisabled := rfl
  aecMode := rfl
  tailLength := le_refl _
  delayMode := le_refl _
  esmMode := le_refl _
  esmLevel := le_refl _
  bjnEsmMode := le_refl _
  bjnEsmLevel := le_refl _

theorem Raises.trans {base config other : DspConfig} (first : base.Raises config)
    (second : config.Raises other) : base.Raises other where
  micAecDisabled := second.micAecDisabled.trans first.micAecDisabled
  aecMode := second.aecMode.trans first.aecMode
  tailLength := le_trans first.tailLength second.tailLength
  delayMode := le_trans first.delayMode second.delayMode
  esmMode := le_trans first.esmMode second.esmMode
  esmLevel := le_trans first.esmLevel second.esmLevel
  bjnEsmMode := le_trans first.bjnEsmMode second.bjnEsmMode
  bjnEsmLevel := le_trans first.bjnEsmLevel second.bjnEsmLevel

theorem spkrProperty_tailInRange {config : DspConfig} (inRange : config.TailInRange)
    (property : String × Int32) : (spkrProperty config property).TailInRange := by
  have raised : 20 ≤ min (max config.aecTailLengthMs property.2.toInt) 120 :=
    le_min (le_trans inRange.1 (le_max_left _ _)) (by decide)
  unfold spkrProperty
  cases echoProperties.lookup property.1 with
  | none => exact inRange
  | some known =>
      cases known with
      | aecTailLengthMs => exact ⟨raised, min_le_right _ _⟩
      | _ => exact inRange

/-- A property of the speaker raises one setting and leaves the others. -/
theorem raises_spkrProperty {config : DspConfig} (inRange : config.TailInRange)
    (property : String × Int32) : config.Raises (spkrProperty config property) := by
  have longer :
      config.aecTailLengthMs ≤ min (max config.aecTailLengthMs property.2.toInt) 120 :=
    le_min (le_max_left _ _) inRange.2
  have same := Raises.refl config
  unfold spkrProperty
  cases echoProperties.lookup property.1 with
  | none => exact same
  | some known =>
      cases known with
      | aecTailLengthMs => exact { same with tailLength := longer }
      | aecDelayMode => exact { same with delayMode := le_raiseEcDelayMode _ _ }
      | esmMode => exact { same with esmMode := le_raiseEsmMode _ _ }
      | esmLevel => exact { same with esmLevel := le_raiseEsmLevel _ _ }
      | bjnEsmMode => exact { same with bjnEsmMode := le_raiseEsmMode _ _ }
      | bjnEsmLevel => exact { same with bjnEsmLevel := le_raiseEsmLevel _ _ }
      | _ => exact { same with }

theorem foldl_micProperty_tailInRange (settings : StartSettings) (micProps : DeviceProps)
    {config : DspConfig} (inRange : config.TailInRange) :
    (micProps.foldl (micProperty settings) config).TailInRange := by
  induction micProps generalizing config with
  | nil => exact inRange
  | cons property rest ih => exact ih (micProperty_tailInRange settings inRange property)

theorem foldl_spkrProperty (spkProps : DeviceProps) {config : DspConfig}
    (inRange : config.TailInRange) :
    (spkProps.foldl spkrProperty config).TailInRange ∧
      config.Raises (spkProps.foldl spkrProperty config) := by
  induction spkProps generalizing config with
  | nil => exact ⟨inRange, .refl config⟩
  | cons property rest ih =>
      obtain ⟨stays, raises⟩ := ih (spkrProperty_tailInRange inRange property)
      exact ⟨stays, (raises_spkrProperty inRange property).trans raises⟩

theorem readMic_tailInRange (settings : StartSettings) (micProps : DeviceProps) :
    (initial.readMic settings micProps).TailInRange := by
  unfold readMic
  split
  · exact foldl_micProperty_tailInRange settings micProps initial_tailInRange
  · exact initial_tailInRange

theorem readSpkr_spec (settings : StartSettings) (spkProps : DeviceProps) {config : DspConfig}
    (inRange : config.TailInRange) :
    (config.readSpkr settings spkProps).TailInRange ∧
      config.Raises (config.readSpkr settings spkProps) := by
  unfold readSpkr
  split
  · exact foldl_spkrProperty spkProps inRange
  · exact ⟨inRange, .refl config⟩

/-- Only the speaker's own property disables the canceller on its side. -/
theorem readMic_spkrAecDisabled (settings : StartSettings) (micProps : DeviceProps) :
    (initial.readMic settings micProps).spkrAecDisabled = false := by
  have kept : ∀ config : DspConfig, config.spkrAecDisabled = false →
      (micProps.foldl (micProperty settings) config).spkrAecDisabled = false := by
    induction micProps with
    | nil => exact fun _ enabled => enabled
    | cons property rest ih =>
        intro config enabled
        apply ih
        unfold micProperty
        cases echoProperties.lookup property.1 with
        | none => exact enabled
        | some known => cases known <;> exact enabled
  unfold readMic
  split
  · exact kept initial rfl
  · rfl

theorem Raises.selectAecMode_eq {base config : DspConfig} (raises : base.Raises config)
    (settings : StartSettings) (enabled : config.aecEnabled = base.aecEnabled) :
    config.selectAecMode settings = base.selectAecMode settings := by
  rw [selectAecMode, selectAecMode, enabled, raises.aecMode]

/-- Whether a setting of two starts can be compared. -/
def Comparable (settings : StartSettings) (base config : DspConfig) : EchoSetting → Prop
  | .tailLength => config.selectAecMode settings ≠ .bjn
  | .delayMode => True
  | .esmMode => config.selectAecMode settings = base.selectAecMode settings
  | .esmLevel => config.selectAecMode settings = base.selectAecMode settings

theorem programmed_tailLength {settings : StartSettings} {config : DspConfig} {value : Int}
    (programs : config.programmed settings .tailLength = some value) :
    config.aecEnabled = true ∧
      (config.selectAecMode settings ≠ .bjn → value = config.aecTailLengthMs) := by
  rw [programmed] at programs
  split at programs
  case isTrue canceller =>
    refine ⟨canceller.1, fun plain => ?_⟩
    rw [if_neg plain] at programs
    exact (Option.some.inj programs).symm
  case isFalse => cases programs

theorem programmed_delayMode {settings : StartSettings} {config : DspConfig} {value : Int}
    (programs : config.programmed settings .delayMode = some value) :
    value = config.aecDelayMode.value := by
  rw [programmed] at programs
  split at programs
  case isTrue => exact (Option.some.inj programs).symm
  case isFalse => cases programs

theorem Raises.programmed_le {settings : StartSettings} {base config : DspConfig}
    (raises : base.Raises config) {setting : EchoSetting}
    (comparable : Comparable settings base config setting) {value baseValue : Int}
    (programs : config.programmed settings setting = some value)
    (basePrograms : base.programmed settings setting = some baseValue) : baseValue ≤ value := by
  cases setting with
  | tailLength =>
      obtain ⟨enabled, plain⟩ := programmed_tailLength programs
      obtain ⟨baseEnabled, basePlain⟩ := programmed_tailLength basePrograms
      have same := raises.selectAecMode_eq settings (enabled.trans baseEnabled.symm)
      rw [plain comparable, basePlain (same ▸ comparable)]
      exact raises.tailLength
  | delayMode =>
      rw [programmed_delayMode programs, programmed_delayMode basePrograms]
      exact Int.ofNat_le.mpr raises.delayMode
  | esmMode =>
      have same : config.selectAecMode settings = base.selectAecMode settings := comparable
      simp only [programmed, same] at programs basePrograms
      split at programs
      case isTrue custom =>
        rw [if_pos custom] at basePrograms
        cases programs
        cases basePrograms
        exact Int.ofNat_le.mpr raises.bjnEsmMode
      case isFalse plain =>
        rw [if_neg plain] at basePrograms
        cases programs
        cases basePrograms
        exact Int.ofNat_le.mpr raises.esmMode
  | esmLevel =>
      have same : config.selectAecMode settings = base.selectAecMode settings := comparable
      simp only [programmed, same] at programs basePrograms
      split at programs
      case isTrue custom =>
        rw [if_pos custom] at basePrograms
        cases programs
        cases basePrograms
        exact Int.ofNat_le.mpr raises.bjnEsmLevel
      case isFalse plain =>
        rw [if_neg plain] at basePrograms
        cases programs
        cases basePrograms
        exact Int.ofNat_le.mpr raises.esmLevel

/-- With the same canceller on, both program the same settings. -/
theorem Raises.programmed_isSome {settings : StartSettings} {base config : DspConfig}
    (raises : base.Raises config) (enabled : config.aecEnabled = true)
    (baseEnabled : base.aecEnabled = true) {setting : EchoSetting} {baseValue : Int}
    (basePrograms : base.programmed settings setting = some baseValue) :
    ∃ value, config.programmed settings setting = some value := by
  have same := raises.selectAecMode_eq settings (enabled.trans baseEnabled.symm)
  rw [← Option.isSome_iff_exists]
  have known : (base.programmed settings setting).isSome := by rw [basePrograms]; rfl
  cases setting <;>
    simp only [programmed, same, enabled, baseEnabled, raises.aecMode] at known ⊢ <;>
    split_ifs at known ⊢ <;> first | rfl | exact known

end DspConfig

/-! Two starts of one stream. -/

theorem programmed_of_programs {settings : StartSettings} {fails : StartCall → Bool}
    {micProps spkProps : DeviceProps} {setting : EchoSetting} {value : Int}
    (programs : Programs (webrtcVoeStreamStart settings fails micProps spkProps) setting value) :
    (startConfig settings micProps spkProps).programmed settings setting = some value := by
  rw [← DspConfig.programs_plan_iff]
  obtain ⟨call, made, sets⟩ := programs
  unfold webrtcVoeStreamStart at made
  split at made
  · cases made
  · exact ⟨call, mem_plan_of_mem_perform made, sets⟩

theorem startConfig_raises (settings : StartSettings) (micProps spkProps : DeviceProps) :
    (startConfig settings micProps []).Raises (startConfig settings micProps spkProps) := by
  have plain : startConfig settings micProps [] =
      DspConfig.initial.readMic settings micProps := by
    rw [startConfig, DspConfig.readSpkr]
    split <;> rfl
  rw [plain]
  exact (DspConfig.readSpkr_spec settings spkProps
    (DspConfig.readMic_tailInRange settings micProps)).2

theorem startConfig_tailInRange (settings : StartSettings) (micProps spkProps : DeviceProps) :
    (startConfig settings micProps spkProps).TailInRange :=
  (DspConfig.readSpkr_spec settings spkProps
    (DspConfig.readMic_tailInRange settings micProps)).1

theorem aecEnabled_without_spkr (settings : StartSettings) (micProps : DeviceProps) :
    (startConfig settings micProps []).aecEnabled = true := by
  have enabled : (startConfig settings micProps []).spkrAecDisabled = false := by
    rw [startConfig, DspConfig.readSpkr]
    split <;> exact DspConfig.readMic_spkrAecDisabled settings micProps
  rw [DspConfig.aecEnabled, enabled]
  rfl

/-- What the speaker's properties add to the microphone's never lowers a setting that both
starts program, the tail length of the custom canceller apart and, where only the start
without them selects the custom canceller, the echo state machine. Any other canceller's
tail length is in the range of the clamp. Unless both devices disable the canceller, the
mode selected and the settings programmed are the same. -/
theorem spkrProps_strengthen (settings : StartSettings) (fails baseFails : StartCall → Bool)
    (micProps spkProps : DeviceProps) :
    (∀ setting value baseValue,
      DspConfig.Comparable settings (startConfig settings micProps [])
        (startConfig settings micProps spkProps) setting →
      Programs (webrtcVoeStreamStart settings fails micProps spkProps) setting value →
      Programs (webrtcVoeStreamStart settings baseFails micProps []) setting baseValue →
        baseValue ≤ value) ∧
    ((startConfig settings micProps spkProps).selectAecMode settings ≠ .bjn → ∀ value,
      Programs (webrtcVoeStreamStart settings fails micProps spkProps) .tailLength value →
        20 ≤ value ∧ value ≤ 120) ∧
    ((startConfig settings micProps spkProps).aecEnabled = true →
      (startConfig settings micProps spkProps).selectAecMode settings =
        (startConfig settings micProps []).selectAecMode settings ∧
      ((∀ call, fails call = false) → ∀ setting baseValue,
        Programs (webrtcVoeStreamStart settings baseFails micProps []) setting baseValue →
        ∃ value,
          Programs (webrtcVoeStreamStart settings fails micProps spkProps) setting value)) := by
  have raises := startConfig_raises settings micProps spkProps
  refine ⟨?_, ?_, ?_⟩
  · intro setting value baseValue comparable programs basePrograms
    exact raises.programmed_le comparable (programmed_of_programs programs)
      (programmed_of_programs basePrograms)
  · intro plain value programs
    have programmed := (DspConfig.programmed_tailLength (programmed_of_programs programs)).2 plain
    rw [programmed]
    exact startConfig_tailInRange settings micProps spkProps
  · intro enabled
    have baseEnabled := aecEnabled_without_spkr settings micProps
    refine ⟨raises.selectAecMode_eq settings (enabled.trans baseEnabled.symm), ?_⟩
    intro works setting baseValue basePrograms
    obtain ⟨value, programmed⟩ := raises.programmed_isSome enabled baseEnabled
      (programmed_of_programs basePrograms)
    refine ⟨value, ?_⟩
    unfold webrtcVoeStreamStart at basePrograms ⊢
    split at basePrograms
    · obtain ⟨call, made, -⟩ := basePrograms
      cases made
    case isFalse parser =>
      rw [if_neg parser, perform_of_no_failure works]
      exact (DspConfig.programs_plan_iff settings _ setting value).mpr programmed

/-- With the custom canceller, two empty maps program its default tail length. -/
theorem tailLength_of_custom_canceller :
    ¬ ∀ (settings : StartSettings) (fails : StartCall → Bool) (micProps spkProps : DeviceProps),
      (∀ setting value baseValue,
        Programs (webrtcVoeStreamStart settings fails micProps spkProps) setting value →
        Programs (webrtcVoeStreamStart settings fails micProps []) setting baseValue →
          baseValue ≤ value) ∧
      ∀ value,
        Programs (webrtcVoeStreamStart settings fails micProps spkProps) .tailLength value →
          20 ≤ value ∧ value ≤ 120 := by
  intro strengthens
  have range := (strengthens ⟨true, true, true, true, true, false, false⟩ (fun _ => false) [] []).2
  have default := range 200 ⟨.setEcTailLengthMs 200, by decide, rfl⟩
  exact absurd default.2 (by decide)

end FiberApp.Audio
