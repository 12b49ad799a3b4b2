import FiberApp.CoreAudio.DefaultDevices
import FiberApp.Foundation.Execution

/-! A refresh of the default devices reports only that it could not start. What fails later
leaves a device as it was, in a refresh that is reported as done. -/

set_option autoImplicit false

namespace FiberApp.CoreAudio

open Devices Foundation

namespace EndpointAnswers

/-- Whether the device is built in, where the queries that decide it succeed. -/
def reportedBuiltIn (answers : EndpointAnswers) : Option Bool :=
  match answers.enumeratorName with
  | none => none
  | some ifaceName =>
      if ifaceName = "USB" ∨ ifaceName = "usb" then some false
      else answers.formFactor.map fun formFactor => decide (formFactor ≠ digitalAudioDisplayDevice)

/-- The operating system reports a jack by describing one at the end of the chain. -/
def reportedJack (answers : EndpointAnswers) : Bool := answers.jack = ⟨true, true, true, true, true⟩

/-- The device the operating system reports; `none` when one of its queries fails. An
endpoint without a jack is no failure. -/
def reported (answers : EndpointAnswers) : Option DefaultDevice :=
  if answers.defaultEndpoint && answers.propertyStore then
    match answers.friendlyName, answers.id, answers.reportedBuiltIn with
    | some name, some guid, some builtIn =>
        some ⟨⟨name, guid, builtIn⟩, answers.reportedJack⟩
    | _, _, _ => none
  else none

theorem isBuiltInDevice_of_reported {answers : EndpointAnswers} {builtIn : Bool}
    (reports : answers.reportedBuiltIn = some builtIn) : answers.isBuiltInDevice = builtIn := by
  unfold reportedBuiltIn at reports
  cases enumerator : answers.enumeratorName with
  | none =>
      rw [enumerator] at reports
      cases reports
  | some ifaceName =>
      simp only [enumerator] at reports
      simp only [isBuiltInDevice, enumerator, Option.getD_some]
      split
      case isTrue usb =>
        rw [if_pos usb] at reports
        exact Option.some.inj reports
      case isFalse other =>
        rw [if_neg other] at reports
        cases form : answers.formFactor with
        | none =>
            rw [form] at reports
            cases reports
        | some formFactor =>
            rw [form] at reports
            cases reports
            simp

theorem getJackAvailability_eq_reportedJack (answers : EndpointAnswers) :
    answers.getJackAvailability = answers.reportedJack := by
  rw [Bool.eq_iff_iff]
  simp only [getJackAvailability, reportedJack, Bool.and_eq_true, decide_eq_true_eq,
    JackAnswers.ext_iff, and_assoc]

/-- A device that is reported replaces the stored one. -/
theorem getDefaultDevice_of_reported {answers : EndpointAnswers} {device : DefaultDevice}
    (reports : answers.reported = some device) (out : DefaultDevice) :
    answers.getDefaultDevice out = some (true, device) := by
  unfold reported at reports
  split at reports
  case isTrue opened =>
    rw [Bool.and_eq_true] at opened
    obtain ⟨endpoint, store⟩ := opened
    cases name : answers.friendlyName with
    | none => simp [name] at reports
    | some friendlyName =>
        cases guid : answers.id with
        | none => simp [guid] at reports
        | some id =>
            cases builtIn : answers.reportedBuiltIn with
            | none => simp [builtIn] at reports
            | some flag =>
                simp only [name, guid, builtIn, Option.some.injEq] at reports
                rw [getDefaultDevice, if_pos endpoint]
                simp only [cricketDeviceFromImmDevice, store, name, guid,
                  isBuiltInDevice_of_reported builtIn,
                  getJackAvailability_eq_reportedJack, Bool.not_true, Bool.false_eq_true, if_false,
                  reports]
  case isFalse => cases reports

end EndpointAnswers

/-- The refresh gets to the two default devices. -/
def RefreshAnswers.Started (answers : RefreshAnswers) : Prop :=
  answers.createInstance = true ∧ answers.enumAudioEndpoints = true

/-- The operating system reports both default devices. -/
def RefreshAnswers.Reported (answers : RefreshAnswers) : Prop :=
  answers.communications.reported ≠ none ∧ answers.console.reported ≠ none

namespace DefaultDevices

@[simp] theorem commDevice_store (devices : DefaultDevices) (input : Bool)
    (comm console : DefaultDevice) :
    (devices.store input comm console).commDevice input = comm := by
  cases input <;> rfl

@[simp] theorem consoleDevice_store (devices : DefaultDevices) (input : Bool)
    (comm console : DefaultDevice) :
    (devices.store input comm console).consoleDevice input = console := by
  cases input <;> rfl

theorem getCoreAudioDefaultDevices_of_started {answers : RefreshAnswers}
    (started : answers.Started) (input : Bool) (devices : DefaultDevices) :
    devices.getCoreAudioDefaultDevices input answers = (do
      let (_, comm) ← answers.communications.getDefaultDevice (devices.commDevice input)
      let (_, console) ← answers.console.getDefaultDevice (devices.consoleDevice input)
      some (true, devices.store input comm console)) := by
  rw [getCoreAudioDefaultDevices, if_pos]
  rw [started.1, started.2]
  rfl

theorem getCoreAudioDefaultDevices_of_not_started {answers : RefreshAnswers}
    (stuck : ¬ answers.Started) (input : Bool) (devices : DefaultDevices) :
    devices.getCoreAudioDefaultDevices input answers = some (false, devices) := by
  rw [getCoreAudioDefaultDevices, if_neg]
  rw [Bool.and_eq_true]
  exact stuck

/-- A refresh that starts never says that something failed. -/
theorem result_of_started {answers : RefreshAnswers} (started : answers.Started) {input : Bool}
    {devices next : DefaultDevices} {result : Bool}
    (returned : devices.getCoreAudioDefaultDevices input answers = some (result, next)) :
    result = true := by
  rw [getCoreAudioDefaultDevices_of_started started] at returned
  cases comm : answers.communications.getDefaultDevice (devices.commDevice input) with
  | none =>
      rw [comm] at returned
      cases returned
  | some commAnswer =>
      cases console : answers.console.getDefaultDevice (devices.consoleDevice input) with
      | none =>
          rw [comm, console] at returned
          cases returned
      | some consoleAnswer =>
          rw [comm, console] at returned
          cases returned
          rfl

theorem getCoreAudioDefaultDevices_of_reported {answers : RefreshAnswers}
    (started : answers.Started) {comm console : DefaultDevice}
    (commReported : answers.communications.reported = some comm)
    (consoleReported : answers.console.reported = some console) (input : Bool)
    (devices : DefaultDevices) :
    devices.getCoreAudioDefaultDevices input answers =
      some (true, devices.store input comm console) := by
  rw [getCoreAudioDefaultDevices_of_started started,
    EndpointAnswers.getDefaultDevice_of_reported commReported,
    EndpointAnswers.getDefaultDevice_of_reported consoleReported]
  rfl

/-- The call returns, and if it returns true the stored devices of the direction are the
ones reported during the call. -/
def StoresReported (devices : DefaultDevices) (input : Bool) (answers : RefreshAnswers) : Prop :=
  ∃ result next, devices.getCoreAudioDefaultDevices input answers = some (result, next) ∧
    (result = true →
      answers.communications.reported = some (next.commDevice input) ∧
        answers.console.reported = some (next.consoleDevice input))

/-- The device an automatic selection starts from was reported during the call. -/
def StartsFromReported (devices : DefaultDevices) (input : Bool) (answers : RefreshAnswers) :
    Prop :=
  ∃ next device, devices.automaticDevice input answers = some (next, device) ∧
    answers.Started ∧ answers.communications.reported = some device

/-- What a call promises. -/
def Current (devices : DefaultDevices) : Call → Prop
  | .refresh input answers => devices.StoresReported input answers
  | .automatic input answers =>
      devices.StoresReported input answers ∧ devices.StartsFromReported input answers

/-- The refresh does not start or both devices are reported; an automatic selection needs
both. -/
def Call.Answered : Call → Prop
  | .refresh _ answers => answers.Started → answers.Reported
  | .automatic _ answers => answers.Started ∧ answers.Reported

theorem storesReported_iff (devices : DefaultDevices) (input : Bool) (answers : RefreshAnswers) :
    devices.StoresReported input answers ↔ (answers.Started → answers.Reported) := by
  constructor
  · intro stores started
    obtain ⟨result, next, returned, current⟩ := stores
    obtain ⟨comm, console⟩ := current (result_of_started started returned)
    exact ⟨by rw [comm]; simp, by rw [console]; simp⟩
  · intro answered
    by_cases started : answers.Started
    · obtain ⟨commKnown, consoleKnown⟩ := answered started
      obtain ⟨comm, commReported⟩ := Option.ne_none_iff_exists'.mp commKnown
      obtain ⟨console, consoleReported⟩ := Option.ne_none_iff_exists'.mp consoleKnown
      refine ⟨true, _, getCoreAudioDefaultDevices_of_reported started commReported
        consoleReported input devices, fun _ => ?_⟩
      rw [commDevice_store, consoleDevice_store]
      exact ⟨commReported, consoleReported⟩
    · refine ⟨false, devices, getCoreAudioDefaultDevices_of_not_started started input devices, ?_⟩
      intro failed
      cases failed

theorem startsFromReported_of_answered {answers : RefreshAnswers} (started : answers.Started)
    (reported : answers.Reported) (devices : DefaultDevices) (input : Bool) :
    devices.StartsFromReported input answers := by
  obtain ⟨commKnown, consoleKnown⟩ := reported
  obtain ⟨comm, commReported⟩ := Option.ne_none_iff_exists'.mp commKnown
  obtain ⟨console, consoleReported⟩ := Option.ne_none_iff_exists'.mp consoleKnown
  refine ⟨devices.store input comm console, comm, ?_, started, commReported⟩
  simp only [automaticDevice, getDefaultAudioDevices,
    getCoreAudioDefaultDevices_of_reported started commReported consoleReported, commDevice_store]

theorem current_iff_answered (devices : DefaultDevices) (call : Call) :
    devices.Current call ↔ call.Answered := by
  cases call with
  | refresh input answers => exact devices.storesReported_iff input answers
  | automatic input answers =>
      rw [Current, storesReported_iff, Call.Answered]
      constructor
      · intro current
        obtain ⟨answered, next, device, returned, started, reported⟩ := current
        exact ⟨started, answered started⟩
      · intro answered
        obtain ⟨started, reported⟩ := answered
        exact ⟨fun _ => reported, startsFromReported_of_answered started reported devices input⟩

theorem Current.steps {devices : DefaultDevices} {call : Call} (current : devices.Current call) :
    ∃ next, devices.step call = some next := by
  have stores : devices.StoresReported call.input call.answers := by
    cases call with
    | refresh input answers => exact current
    | automatic input answers => exact current.1
  obtain ⟨result, next, returned, -⟩ := stores
  exact ⟨next, by rw [step, returned]⟩

/-- Whatever devices were stored before, all calls keep their promise exactly if each
refresh that starts gets both devices reported, and each automatic selection's does. -/
theorem guarded_current_iff (devices : DefaultDevices) (calls : List Call) :
    Guarded step Current devices calls ↔ ∀ call ∈ calls, call.Answered := by
  induction calls generalizing devices with
  | nil => simp [Guarded]
  | cons call rest ih =>
      rw [List.forall_mem_cons, ← current_iff_answered devices call]
      constructor
      · intro guarded
        obtain ⟨current, after⟩ := guarded
        obtain ⟨next, taken⟩ := current.steps
        exact ⟨current, (ih next).mp (after next taken)⟩
      · intro answered
        exact ⟨answered.1, fun next _ => (ih next).mpr answered.2⟩

/-- The last microphone is unplugged, so there is no default endpoint to report. -/
def noMicrophone : RefreshAnswers where
  createInstance := true
  enumAudioEndpoints := true
  communications := ⟨false, false, none, none, none, none, ⟨false, false, false, false, false⟩⟩
  console := ⟨false, false, none, none, none, none, ⟨false, false, false, false, false⟩⟩

theorem not_guarded_current :
    ¬ ∀ (devices : DefaultDevices) (calls : List Call), Guarded step Current devices calls := by
  intro current
  let headset : DefaultDevice := ⟨⟨"Headset", "{0.0.1}.{58e7a8dc}", false⟩, true⟩
  obtain ⟨⟨result, next, returned, stored⟩, -⟩ := current ⟨headset, headset, headset, headset⟩
    [.refresh true noMicrophone]
  have started : noMicrophone.Started := ⟨rfl, rfl⟩
  have reported := (stored (result_of_started started returned)).1
  exact absurd reported (by simp [noMicrophone, EndpointAnswers.reported])

end DefaultDevices

end FiberApp.CoreAudio
