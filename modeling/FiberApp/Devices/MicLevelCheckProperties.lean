import FiberApp.Foundation.Execution
import FiberApp.Devices.AudioSelectionProperties

/-! The level check of the automatic microphone against the user's selections,
over every order of selections, checks, samples and device changes. -/

set_option autoImplicit false

namespace FiberApp.Devices

open Foundation

/-- The manager with whether the user's last selection has a microphone other
than the Automatic one, and how many fallbacks were posted since. -/
structure AudioRun where
  manager : AudioManager
  manualMic : Bool
  fallbacks : Nat

inductive AudioStep
  | select (platform : AudioPlatform) (selectedDevices : LocalMediaInfo)
  | initMedia (platform : AudioPlatform)
  | levelCheck (platform : AudioPlatform)
  | level (micLvl : Nat)
  | devices (changes : DeviceChanges)

namespace AudioRun

def start (changes : DeviceChanges) (selectedDeviceOptions : LocalMediaInfo) : AudioRun :=
  ⟨⟨changes, .clear, ⟨defaultSoundLevel, 0, 0, 0⟩, selectedDeviceOptions, []⟩, false, 0⟩

/-- The user's selections and those the level check has posted are handled in
any order, as are the pending checks. -/
def step (state : AudioRun) : AudioStep → Option AudioRun
  | .select platform selectedDevices => some
      { manager := state.manager.handleInitMedia platform selectedDevices
        manualMic := selectedDevices.microphoneId != automaticDeviceGuid
        fallbacks := 0 }
  | .initMedia platform =>
      match state.manager.initMedia with
      | [] => none
      | selectedDevices :: rest => some { state with
          manager := { state.manager with initMedia := rest }.handleInitMedia platform
            selectedDevices }
  | .levelCheck platform =>
      match state.manager.check.pending with
      | 0 => none
      | pending + 1 =>
          let manager := AudioManager.handleAutoMicLevelCheck platform { state.manager with
            check := { state.manager.check with pending := pending } }
          some { state with
            manager := manager
            fallbacks := state.fallbacks +
              (manager.initMedia.length - state.manager.initMedia.length) }
  | .level micLvl => some { state with
      manager := { state.manager with check := { state.manager.check with micLvl := micLvl } } }
  | .devices changes => some { state with
      manager := { state.manager with changes := changes } }

/-- The checks have not overridden the user: no fallback after a selection with
another microphone, and at most one after a selection with the Automatic one. -/
def Lawful (state : AudioRun) : Prop :=
  if state.manualMic then state.fallbacks = 0 else state.fallbacks ≤ 1

instance (state : AudioRun) : Decidable state.Lawful :=
  inferInstanceAs (Decidable (if state.manualMic then state.fallbacks = 0
    else state.fallbacks ≤ 1))

/-- They will not override him either while the microphone stays silent. -/
def Respected (state : AudioRun) : Prop :=
  ∀ platform : AudioPlatform, platform.inputSignalMeter = some 0 →
    ∀ checks, Throughout step Lawful state (List.replicate checks (.levelCheck platform))

/-- A selection does not meet a pending check, unless it starts none of its own
or, with a microphone other than the Automatic one, a level was determined and
the count goes on; and no fallback restarts the count of a check that is pending
beside such a microphone. -/
def Undisturbed (state : AudioRun) : AudioStep → Prop
  | .select platform selectedDevices =>
      state.manager.check.pending = 0 ∨
        if selectedDevices.microphoneId = automaticDeviceGuid then
          state.manager.startsCheck platform selectedDevices = false
        else
          state.manager.check.levelDetermined ≠ 0 ∧
            state.manager.restartsCount platform selectedDevices = false
  | .initMedia platform =>
      state.manualMic = true → state.manager.check.pending = 0 ∨
        ∀ selectedDevices ∈ state.manager.initMedia.head?,
          AudioManager.restartsCount platform selectedDevices { state.manager with
            initMedia := state.manager.initMedia.tail } = false
  | _ => True

/-- The check that is pending can post the one fallback there may be, if any. -/
structure Tame (state : AudioRun) : Prop where
  single : state.fallbacks + state.manager.check.pending ≤ 1
  manual : state.manualMic = true → state.fallbacks = 0 ∧
    (state.manager.check.pending = 0 ∨ state.manager.check.levelDetermined ≠ 0)
  posted : ∀ selectedDevices ∈ state.manager.initMedia,
    selectedDevices.microphoneId ≠ automaticDeviceGuid

theorem tame_start (changes : DeviceChanges) (selectedDeviceOptions : LocalMediaInfo) :
    (start changes selectedDeviceOptions).Tame where
  single := Nat.zero_le 1
  manual manualMic := Bool.noConfusion manualMic
  posted _ member := nomatch member

theorem Tame.lawful {state : AudioRun} (tame : state.Tame) : state.Lawful := by
  have single := tame.single
  rw [Lawful]
  split
  · rename_i manualMic
    exact (tame.manual manualMic).1
  · omega

section LevelCheck

variable {state : AudioRun} {pending : Nat}

theorem step_sample (platform : AudioPlatform)
    (waiting : state.manager.check.pending = pending + 1)
    (counting : state.manager.check.autoLevelCheckCount ≠ 0) :
    ∃ micLvl, micLvl = platform.inputSignalMeter.getD state.manager.check.micLvl ∧
      state.step (.levelCheck platform) = some { state with
        manager := { state.manager with
          check := ⟨micLvl, state.manager.check.autoLevelCheckCount - 1,
            if micLvl ≠ 0 then state.manager.check.levelDetermined + 1
            else state.manager.check.levelDetermined, pending + 1⟩ } } := by
  refine ⟨_, rfl, ?_⟩
  simp only [step, waiting, AudioManager.handleAutoMicLevelCheck, counting, ne_eq,
    not_false_eq_true, ↓reduceIte, Nat.sub_self, Nat.add_zero]
  rfl

theorem step_determined (platform : AudioPlatform)
    (waiting : state.manager.check.pending = pending + 1)
    (counted : state.manager.check.autoLevelCheckCount = 0)
    (determined : state.manager.check.levelDetermined ≠ 0) :
    state.step (.levelCheck platform) = some { state with
      manager := { state.manager with
        check := { state.manager.check with pending := pending } } } := by
  simp only [step, waiting, AudioManager.handleAutoMicLevelCheck, counted, determined, ne_eq,
    not_true_eq_false, not_false_eq_true, ↓reduceIte, Nat.sub_self, Nat.add_zero]

theorem step_fallback (platform : AudioPlatform)
    (waiting : state.manager.check.pending = pending + 1)
    (counted : state.manager.check.autoLevelCheckCount = 0)
    (silent : state.manager.check.levelDetermined = 0) :
    state.step (.levelCheck platform) = some { state with
      manager := { state.manager with
        check := { state.manager.check with pending := pending }
        initMedia := state.manager.initMedia ++ [state.manager.fallbackDevices platform] }
      fallbacks := state.fallbacks + 1 } := by
  simp only [step, waiting, AudioManager.handleAutoMicLevelCheck, counted, silent, ne_eq,
    not_true_eq_false, ↓reduceIte, List.length_append, List.length_singleton,
    Nat.add_sub_cancel_left]
  rfl

end LevelCheck

theorem Tame.levelCheck {state next : AudioRun} (tame : state.Tame) {platform : AudioPlatform}
    (taken : state.step (.levelCheck platform) = some next) : next.Tame := by
  obtain ⟨single, manual, posted⟩ := tame
  cases waiting : state.manager.check.pending with
  | zero => simp [step, waiting] at taken
  | succ pending =>
      rw [waiting] at single manual
      by_cases counted : state.manager.check.autoLevelCheckCount = 0
      · by_cases silent : state.manager.check.levelDetermined = 0
        · rw [step_fallback platform waiting counted silent] at taken
          cases taken
          refine ⟨by simp only; omega, fun manualMic => ?_, ?_⟩
          · obtain ⟨-, none | determined⟩ := manual manualMic
            · omega
            · exact absurd silent determined
          · intro selectedDevices member
            rcases List.mem_append.mp member with earlier | added
            · exact posted selectedDevices earlier
            · rw [List.mem_singleton.mp added]
              exact platform.defaultCapDevice_ne_automatic
        · rw [step_determined platform waiting counted silent] at taken
          cases taken
          exact ⟨by simp only; omega, fun manualMic => ⟨(manual manualMic).1, .inr silent⟩,
            posted⟩
      · obtain ⟨micLvl, -, sampled⟩ := step_sample platform waiting counted
        rw [sampled] at taken
        cases taken
        refine ⟨single, fun manualMic => ⟨(manual manualMic).1, .inr ?_⟩, posted⟩
        obtain ⟨-, none | determined⟩ := manual manualMic
        · omega
        · simp only
          split
          · omega
          · exact determined

theorem Tame.select {state : AudioRun} (tame : state.Tame) {platform : AudioPlatform}
    {selectedDevices : LocalMediaInfo}
    (undisturbed : state.Undisturbed (.select platform selectedDevices)) :
    Tame ⟨state.manager.handleInitMedia platform selectedDevices,
      selectedDevices.microphoneId != automaticDeviceGuid, 0⟩ := by
  obtain ⟨single, -, posted⟩ := tame
  by_cases automatic : selectedDevices.microphoneId = automaticDeviceGuid
  · obtain ⟨initMedia, starts, keeps⟩ :=
      AudioManager.handleInitMedia_automatic platform automatic state.manager
    simp only [Undisturbed, automatic, ↓reduceIte] at undisturbed
    refine ⟨?_, fun manualMic => by simp [automatic] at manualMic, by rw [initMedia]; exact posted⟩
    simp only
    cases started : state.manager.startsCheck platform selectedDevices with
    | true =>
        obtain ⟨pending, -⟩ := starts started
        rcases undisturbed with none | idle
        · omega
        · rw [started] at idle
          cases idle
    | false =>
        rcases keeps started with none | same
        · omega
        · omega
  · obtain ⟨initMedia, pending, level⟩ :=
      AudioManager.handleInitMedia_manual platform automatic state.manager
    simp only [Undisturbed, automatic, ↓reduceIte] at undisturbed
    refine ⟨by simp only; omega, fun _ => ⟨rfl, ?_⟩, by rw [initMedia]; exact posted⟩
    rcases undisturbed with none | ⟨determined, continues⟩
    · exact .inl (pending.trans none)
    · rw [continues] at level
      exact .inr (level ▸ determined)

theorem Tame.initMedia {state next : AudioRun} (tame : state.Tame) {platform : AudioPlatform}
    (undisturbed : state.Undisturbed (.initMedia platform))
    (taken : state.step (.initMedia platform) = some next) : next.Tame := by
  obtain ⟨single, manual, posted⟩ := tame
  cases queue : state.manager.initMedia with
  | nil => simp [step, queue] at taken
  | cons selectedDevices rest =>
      simp only [step, queue, Option.some.injEq] at taken
      subst taken
      rw [queue] at posted
      obtain ⟨genuine, others⟩ := List.forall_mem_cons.mp posted
      obtain ⟨initMedia, pending, level⟩ := AudioManager.handleInitMedia_manual platform genuine
        { state.manager with initMedia := rest }
      simp only [Undisturbed, queue, List.head?_cons, List.tail_cons, Option.mem_some_iff,
        forall_eq'] at undisturbed
      refine ⟨by simp only [pending]; exact single, fun manualMic => ?_,
        by rw [initMedia]; exact others⟩
      obtain ⟨none, idle⟩ := manual manualMic
      refine ⟨none, ?_⟩
      simp only [pending]
      rcases undisturbed manualMic with empty | continues
      · exact .inl empty
      · rw [continues] at level
        exact idle.imp id fun determined => level ▸ determined

theorem Tame.step {state next : AudioRun} {label : AudioStep} (tame : state.Tame)
    (undisturbed : state.Undisturbed label) (taken : state.step label = some next) :
    next.Tame := by
  cases label with
  | select platform selectedDevices =>
      cases taken
      exact tame.select undisturbed
  | initMedia platform => exact tame.initMedia undisturbed taken
  | levelCheck platform => exact tame.levelCheck taken
  | level micLvl =>
      cases taken
      exact ⟨tame.single, tame.manual, tame.posted⟩
  | devices changes =>
      cases taken
      exact ⟨tame.single, tame.manual, tame.posted⟩

theorem guarded_replicate (platform : AudioPlatform) (checks : Nat) (state : AudioRun) :
    Guarded step Undisturbed state (List.replicate checks (.levelCheck platform)) := by
  induction checks generalizing state with
  | zero => trivial
  | succ checks ih => exact ⟨trivial, fun next _ => ih next⟩

theorem throughout_lawful {state : AudioRun} (tame : state.Tame) {steps : List AudioStep}
    (undisturbed : Guarded step Undisturbed state steps) :
    Throughout step Lawful state steps := by
  apply throughout_of_guarded Tame _ _ tame undisturbed
  · intro state tame
    exact tame.lawful
  · intro state label next tame undisturbed taken
    exact tame.step undisturbed taken

theorem Tame.respected {state : AudioRun} (tame : state.Tame) : state.Respected :=
  fun platform _ checks => throughout_lawful tame (guarded_replicate platform checks state)

theorem execute_silent {platform : AudioPlatform} (silent : platform.inputSignalMeter = some 0)
    (count : Nat) {state : AudioRun} {pending : Nat}
    (waiting : state.manager.check.pending = pending + 1)
    (counting : state.manager.check.autoLevelCheckCount = count)
    (none : state.manager.check.levelDetermined = 0) :
    ∃ final, execute step state (List.replicate (count + 1) (.levelCheck platform)) =
        some final ∧
      final.manualMic = state.manualMic ∧ final.fallbacks = state.fallbacks + 1 ∧
      final.manager.check.pending = pending ∧
      final.manager.check.autoLevelCheckCount = 0 ∧
      final.manager.check.levelDetermined = 0 := by
  induction count generalizing state with
  | zero =>
      refine ⟨_, execute_cons_eq_some.mpr ⟨_, step_fallback platform waiting counting none, rfl⟩,
        rfl, rfl, rfl, counting, none⟩
  | succ count ih =>
      obtain ⟨micLvl, sample, taken⟩ :=
        step_sample platform waiting (by rw [counting]; exact Nat.succ_ne_zero count)
      rw [silent, Option.getD_some] at sample
      subst sample
      generalize sampled : AudioRun.mk _ _ _ = next at taken
      have remaining : next.manager.check.autoLevelCheckCount = count := by
        rw [← sampled, counting]
        rfl
      obtain ⟨final, executed, manualMic, fallbacks, rest⟩ :=
        ih (by rw [← sampled]) remaining (by rw [← sampled]; exact none)
      refine ⟨final, execute_cons_eq_some.mpr ⟨next, taken, executed⟩, ?_, ?_, rest⟩
      · rw [manualMic, ← sampled]
      · rw [fallbacks, ← sampled]

theorem not_respected_of_manual {state : AudioRun} (manualMic : state.manualMic = true)
    {pending : Nat} (waiting : state.manager.check.pending = pending + 1)
    (none : state.manager.check.levelDetermined = 0) (platform : AudioPlatform) :
    ¬ state.Respected := by
  intro respected
  have silent : ({ platform with inputSignalMeter := some 0 } : AudioPlatform).inputSignalMeter =
    some 0 := rfl
  obtain ⟨final, executed, same, fallbacks, -⟩ := execute_silent silent _ waiting rfl none
  have lawful := (respected _ silent _).reached executed
  rw [Lawful, if_pos (same.trans manualMic), fallbacks] at lawful
  exact Nat.succ_ne_zero _ lawful

theorem not_respected_of_two {state : AudioRun} {pending : Nat}
    (waiting : state.manager.check.pending = pending + 2)
    (none : state.manager.check.levelDetermined = 0) (platform : AudioPlatform) :
    ¬ state.Respected := by
  intro respected
  have silent : ({ platform with inputSignalMeter := some 0 } : AudioPlatform).inputSignalMeter =
    some 0 := rfl
  obtain ⟨middle, first, -, fallback, stillWaiting, counted, stillNone⟩ :=
    execute_silent silent _ waiting rfl none
  obtain ⟨final, second, -, fallbacks, -⟩ :=
    execute_silent silent 0 stillWaiting counted stillNone
  have executed := execute_append.mpr ⟨middle, first, second⟩
  rw [List.replicate_append_replicate] at executed
  have lawful := (respected _ silent _).reached executed
  rw [fallback] at fallbacks
  rw [Lawful, fallbacks] at lawful
  split at lawful
  · exact Nat.succ_ne_zero _ lawful
  · omega

theorem Tame.exact {state : AudioRun} (tame : state.Tame) {label : AudioStep}
    (disturbed : ¬ state.Undisturbed label) :
    ∃ next, state.step label = some next ∧ ¬ next.Respected := by
  obtain ⟨single, manual, posted⟩ := tame
  cases label with
  | select platform selectedDevices =>
      refine ⟨_, rfl, ?_⟩
      simp only [Undisturbed, not_or] at disturbed
      obtain ⟨waiting, disturbed⟩ := disturbed
      obtain ⟨pending, waiting⟩ := Nat.exists_eq_succ_of_ne_zero waiting
      by_cases automatic : selectedDevices.microphoneId = automaticDeviceGuid
      · rw [if_pos automatic, Bool.not_eq_false] at disturbed
        obtain ⟨-, starts, -⟩ :=
          AudioManager.handleInitMedia_automatic platform automatic state.manager
        obtain ⟨started, none⟩ := starts disturbed
        exact not_respected_of_two (started.trans (by rw [waiting])) none platform
      · rw [if_neg automatic] at disturbed
        obtain ⟨-, kept, level⟩ :=
          AudioManager.handleInitMedia_manual platform automatic state.manager
        refine not_respected_of_manual ?_ (kept.trans waiting) ?_ platform
        · simp only [bne_iff_ne, ne_eq, automatic, not_false_eq_true]
        · rw [level]
          split
          · rfl
          · rename_i continues
            by_contra determined
            exact disturbed ⟨determined, Bool.not_eq_true _ ▸ continues⟩
  | initMedia platform =>
      simp only [Undisturbed, Classical.not_imp, not_or, not_forall, Bool.not_eq_false]
        at disturbed
      obtain ⟨manualMic, waiting, selectedDevices, head, restarts⟩ := disturbed
      obtain ⟨pending, waiting⟩ := Nat.exists_eq_succ_of_ne_zero waiting
      cases queue : state.manager.initMedia with
      | nil => simp [queue] at head
      | cons first rest =>
          simp only [queue, List.head?_cons, Option.mem_some_iff] at head
          subst head
          simp only [queue, List.tail_cons] at restarts
          rw [queue] at posted
          obtain ⟨-, kept, level⟩ := AudioManager.handleInitMedia_manual platform
            (posted first List.mem_cons_self) { state.manager with initMedia := rest }
          have taken : state.step (.initMedia platform) = some { state with
              manager := AudioManager.handleInitMedia platform first { state.manager with
                initMedia := rest } } := by
            simp only [AudioRun.step, queue]
          refine ⟨_, taken, ?_⟩
          rw [restarts] at level
          exact not_respected_of_manual manualMic (kept.trans waiting) level platform
  | levelCheck platform => exact absurd trivial disturbed
  | level micLvl => exact absurd trivial disturbed
  | devices changes => exact absurd trivial disturbed

/-- In every undisturbed run the checks respect the user; and the undisturbed
runs are those in which they do so after every step, however long the
microphone stays silent from there on. -/
theorem levelChecks_respect_user (changes : DeviceChanges)
    (selectedDeviceOptions : LocalMediaInfo) (steps : List AudioStep) :
    (Guarded step Undisturbed (start changes selectedDeviceOptions) steps →
      Throughout step Lawful (start changes selectedDeviceOptions) steps) ∧
    (Throughout step Respected (start changes selectedDeviceOptions) steps ↔
      Guarded step Undisturbed (start changes selectedDeviceOptions) steps) := by
  have tame := tame_start changes selectedDeviceOptions
  refine ⟨throughout_lawful tame, throughout_iff_guarded Tame ?_ ?_ ?_ tame⟩
  · intro state tame
    exact tame.respected
  · intro state label next tame undisturbed taken
    exact tame.step undisturbed taken
  · intro state label tame disturbed
    exact tame.exact disturbed

def arrayMicrophone : Device := ⟨"Microphone Array", "array", true⟩

def headsetMicrophone : Device := ⟨"Headset", "headset", false⟩

def laptopSpeakers : Device := ⟨"Speakers", "speakers", true⟩

def silentLaptop : AudioPlatform where
  features := ⟨false, false, false⟩
  hardwareIdsWin _ _ ids := (false, ids)
  isBlacklisted _ _ _ := false
  isUsbDeviceInThnMap _ := false
  isDeviceBuiltIn devices id := devices.any fun device => device.id == id && device.builtIn
  defaultCapDevice := arrayMicrophone
  defaultCapCommDevice := arrayMicrophone
  defaultPlayDevice := laptopSpeakers
  defaultPlayCommDevice := laptopSpeakers
  inputSignalMeter := some 0
  changeDevices _ selectedDevices := selectedDevices
  defaultCapDevice_ne_automatic := by decide

def laptopDevices : DeviceChanges :=
  .getPlatformDevices (platformLists ⟨[arrayMicrophone, headsetMicrophone], [laptopSpeakers], []⟩)

def automaticSelection : LocalMediaInfo :=
  ⟨automaticDeviceName, automaticDeviceGuid, automaticDeviceName, automaticDeviceGuid, .auto,
    .auto⟩

def headsetSelection : LocalMediaInfo :=
  ⟨"Headset", "headset", "Speakers", "speakers", .auto, .auto⟩

/-- The user selects Automatic and then the headset before the check is over;
and he selects Automatic twice within one check. -/
theorem levelChecks_override_user :
    ¬ Throughout step Lawful (start laptopDevices automaticSelection)
        (.select silentLaptop automaticSelection :: .select silentLaptop headsetSelection ::
          List.replicate 21 (.levelCheck silentLaptop)) ∧
      ¬ Throughout step Lawful (start laptopDevices automaticSelection)
        (.select silentLaptop automaticSelection :: .select silentLaptop automaticSelection ::
          List.replicate 22 (.levelCheck silentLaptop)) := by
  have overridden : ∀ {steps : List AudioStep} {manualMic : Bool} {fallbacks : Nat},
      (execute step (start laptopDevices automaticSelection) steps).map
          (fun final => (final.manualMic, final.fallbacks)) = some (manualMic, fallbacks) →
        (¬ if manualMic then fallbacks = 0 else fallbacks ≤ 1) →
          ¬ Throughout step Lawful (start laptopDevices automaticSelection) steps := by
    intro steps manualMic fallbacks executed unlawful lawful
    obtain ⟨final, reached, same⟩ := Option.map_eq_some_iff.mp executed
    cases same
    exact unlawful (lawful.reached reached)
  constructor
  · exact @overridden _ true 1 (by decide +kernel) (by decide)
  · exact @overridden _ false 2 (by decide +kernel) (by decide)

end AudioRun

end FiberApp.Devices
