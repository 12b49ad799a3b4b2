import FiberApp.CoreAudio.ListenerRegistrationProperties

/-! A request in the error state attaches its own endpoint to the default device and the
other one to the device remembered for it, which may be the one that is missing. -/

set_option autoImplicit false

namespace FiberApp.CoreAudio

/-- The devices the system has: the ones it finds by their guids, and the defaults. -/
structure AudioDevices where
  available : String → Bool
  defaultSpeaker : EndpointId
  defaultMic : EndpointId

/-- Every call succeeds but the one that looks a device up that is not available. -/
def AudioDevices.endpointCalls (devices : AudioDevices) (default : EndpointId) (guid : String) :
    EndpointCalls :=
  ⟨some default, true, devices.available guid, true, true⟩

inductive ListenerEvent
  | attachWatcher (calls : AttachCalls) (speakerGUID micGUID : String)
  | terminate
  | request (request : ChangeRequest)
  deriving DecidableEq

namespace AudioDeviceListener

def handle (listener : AudioDeviceListener) : ListenerEvent → AudioDeviceListener
  | .attachWatcher calls speakerGUID micGUID =>
      (listener.attachWatcher calls speakerGUID micGUID).1
  | .terminate => listener.terminate
  | .request request => (listener.process request).1

def afterHistory (history : List ListenerEvent) : AudioDeviceListener :=
  history.foldl handle initial

/-- The answers to the calls of a request while the system has these devices. -/
def answers (listener : AudioDeviceListener) (devices : AudioDevices) : AttachCalls :=
  ⟨true, true, devices.endpointCalls devices.defaultSpeaker listener.speaker.guid,
    ⟨true, true, true, true⟩, devices.endpointCalls devices.defaultMic listener.mic.guid⟩

def changeIn (listener : AudioDeviceListener) (devices : AudioDevices) (kind : EndpointKind)
    (guid : String) : AudioDeviceListener :=
  (listener.process ⟨kind, guid, listener.answers devices⟩).1

/-- The listener has left its error state with both endpoints attached. -/
structure Recovered (listener : AudioDeviceListener) : Prop where
  noError : listener.errorState = false
  speaker : ∃ guid, listener.speaker.AttachedTo guid
  mic : ∃ guid, listener.mic.AttachedTo guid

theorem attachWatcher_recovered_iff (calls : AttachCalls) (speakerGUID micGUID : String)
    (listener : AudioDeviceListener) :
    (listener.attachWatcher calls speakerGUID micGUID).1.Recovered ↔
      calls.attaches speakerGUID micGUID = true := by
  rw [← attachWatcher_snd calls speakerGUID micGUID listener]
  constructor
  · intro recovered
    by_contra failed
    have error := attachWatcher_failed (Bool.eq_false_iff.mpr failed)
    rw [recovered.noError] at error
    cases error
  · intro attached
    have listening := (attachWatcher_attached attached).1
    exact ⟨listening.noError, ⟨_, listening.speaker⟩, ⟨_, listening.mic⟩⟩

theorem endpointCalls_finds (devices : AudioDevices) (default : EndpointId) (guid : String) :
    (devices.endpointCalls default guid).finds guid = true ↔
      guid = "" ∨ devices.available guid = true := by
  unfold EndpointCalls.finds AudioDevices.endpointCalls
  split_ifs with empty
  · simp [empty]
  · simp [empty]

/-- After any history that leaves the error state set, one request recovers the listener
exactly if the guid remembered for the other endpoint is empty or names a device that is
available. -/
theorem changeIn_recovered_iff (history : List ListenerEvent) (devices : AudioDevices)
    (kind : EndpointKind) (guid : String) (error : (afterHistory history).errorState = true) :
    ((afterHistory history).changeIn devices kind guid).Recovered ↔
      ((afterHistory history).endpointOf kind.other).guid = "" ∨
        devices.available ((afterHistory history).endpointOf kind.other).guid = true := by
  generalize afterHistory history = listener at error
  rw [changeIn, process_eq, if_pos error]
  cases kind with
  | mic =>
      have found := endpointCalls_finds devices devices.defaultSpeaker listener.speaker.guid
      simp only [reattach, attachWatcher_recovered_iff, EndpointKind.other, endpointOf]
      rw [← found]
      simp only [AttachCalls.attaches, answers, EndpointCalls.activates, SessionCalls.registers,
        AudioDevices.endpointCalls, Bool.and_true, Bool.true_and, Bool.and_eq_true,
        and_iff_left_iff_imp]
      exact fun _ => rfl
  | speaker =>
      have found := endpointCalls_finds devices devices.defaultMic listener.mic.guid
      simp only [reattach, attachWatcher_recovered_iff, EndpointKind.other, endpointOf]
      rw [← found]
      simp only [AttachCalls.attaches, answers, EndpointCalls.activates, SessionCalls.registers,
        AudioDevices.endpointCalls, Bool.and_true, Bool.true_and, Bool.and_eq_true,
        and_iff_right_iff_imp]
      exact fun _ => rfl

theorem speakers_ne_empty : "speakers" ≠ "" := by decide

theorem array_ne_empty : "array" ≠ "" := by decide

/-- Only the two default devices are left. -/
def defaultsOnly : AudioDevices where
  available guid := guid == "speakers" || guid == "array"
  defaultSpeaker := ⟨"speakers", speakers_ne_empty⟩
  defaultMic := ⟨"array", array_ne_empty⟩

/-- The change to a microphone that has just been unplugged. -/
def unpluggedRequest : ChangeRequest :=
  ⟨.mic, "headset", { workingCalls with
    mic := { workingCalls.mic with getDevice := false } }⟩

/-- A microphone request recovers, since the speaker is still there. -/
theorem changeIn_recovered_mic :
    ((afterHistory [.attachWatcher workingCalls "" "", .request unpluggedRequest]).changeIn
      defaultsOnly .mic "array").Recovered :=
  (changeIn_recovered_iff [.attachWatcher workingCalls "" "", .request unpluggedRequest]
    defaultsOnly .mic "array" (by decide)).mpr (by decide)

/-- A speaker request goes for the unplugged microphone again. -/
theorem changeIn_recovered_unplugged :
    ¬ ∀ history devices kind guid, (afterHistory history).errorState = true →
      devices.available devices.defaultSpeaker.val = true →
      devices.available devices.defaultMic.val = true → devices.available guid = true →
      ((afterHistory history).changeIn devices kind guid).Recovered := by
  intro recovers
  have recovered := recovers [.attachWatcher workingCalls "" "", .request unpluggedRequest]
    defaultsOnly .speaker "speakers" (by decide) (by decide) (by decide) (by decide)
  have noError := recovered.noError
  revert noError
  decide

end AudioDeviceListener

end FiberApp.CoreAudio
