import FiberApp.Foundation.Execution
import FiberApp.CoreAudio.ListenerRegistrationProperties
import FiberApp.CoreAudio.Win32DeviceWatcher

/-! Which audio-change mechanism is registered while a `Win32DeviceWatcher` runs, and what
is left of it once it stopped: over every sequence of its operations, with arbitrary
outcomes of the system calls. -/

set_option autoImplicit false

namespace FiberApp.CoreAudio

open Foundation

namespace GuidRequest

/-- The guids that handling the request attaches with, the speaker's first. -/
def guids (listener : AudioDeviceListener) : GuidRequest → String × String
  | .speaker guid => (if listener.errorState then "" else guid, listener.mic.guid)
  | .mic guid => (listener.speaker.guid, if listener.errorState then "" else guid)

def changes (listener : AudioDeviceListener) : GuidRequest → Bool
  | .speaker guid => listener.errorState || decide (guid ≠ "" ∧ guid ≠ listener.speaker.guid)
  | .mic guid => listener.errorState || decide (guid ≠ "" ∧ guid ≠ listener.mic.guid)

end GuidRequest

theorem processRequest_eq (calls : AttachCalls) (listener : AudioDeviceListener)
    (request : GuidRequest) :
    ListenerObject.processRequest calls listener request =
      if request.changes listener then
        listener.attachWatcher calls (request.guids listener).1 (request.guids listener).2
      else (listener, true) := by
  cases request with
  | speaker guid =>
      cases error : listener.errorState <;>
        simp [ListenerObject.processRequest, AudioDeviceListener.processSpeakerChange,
          GuidRequest.changes, GuidRequest.guids, error]
  | mic guid =>
      cases error : listener.errorState <;>
        simp [ListenerObject.processRequest, AudioDeviceListener.processMicChange,
          GuidRequest.changes, GuidRequest.guids, error]

theorem processRequest_listening_iff {listener : AudioDeviceListener}
    (listening : listener.Listening) (calls : AttachCalls) (request : GuidRequest) :
    (ListenerObject.processRequest calls listener request).1.Listening ↔
      (request.changes listener = true →
        calls.attaches (request.guids listener).1 (request.guids listener).2 = true) := by
  rw [processRequest_eq]
  split_ifs with changes
  · simp [changes, AudioDeviceListener.attachWatcher_listening_iff]
  · simp [changes, listening]

theorem processRequest_silent_iff {listener : AudioDeviceListener}
    (silent : listener.Silent) (calls : AttachCalls) (request : GuidRequest) :
    (ListenerObject.processRequest calls listener request).1.Silent ↔
      (request.changes listener = true → calls.registersNothing = true) := by
  rw [processRequest_eq]
  split_ifs with changes
  · simp [changes, silent.tracked.attachWatcher_silent_iff]
  · simp [changes, silent]

theorem processRequest_tracked {listener : AudioDeviceListener} (tracked : listener.Tracked)
    (calls : AttachCalls) (request : GuidRequest) :
    (ListenerObject.processRequest calls listener request).1.Tracked := by
  rw [processRequest_eq]
  split_ifs
  · exact tracked.attachWatcher calls _ _
  · exact tracked

theorem ListenerObject.handleRequest_eq_some
    {calls : AttachCalls} {object after : ListenerObject} :
    object.handleRequest calls = some after ↔
    ∃ request rest, object.requests = request :: rest ∧ after = { object with
      listener := (ListenerObject.processRequest calls object.listener request).1
      requests := rest } := by
  unfold ListenerObject.handleRequest
  cases object.requests with
  | nil => simp
  | cons request rest => simp [eq_comm]

namespace ListenerObject

theorem handleRequests_id (late : List AttachCalls) (object : ListenerObject) :
    (object.handleRequests late).id = object.id := by
  induction late generalizing object with
  | nil => rfl
  | cons calls rest ih =>
      rw [handleRequests]
      split
      · rfl
      · rename_i after handled
        obtain ⟨request, requests, _, rfl⟩ := handleRequest_eq_some.mp handled
        exact ih _

/-- The calls of the last of the handled requests that attaches the listener again. -/
def lastAttach : List AttachCalls → ListenerObject → Option AttachCalls
  | [], _ => none
  | calls :: rest, object =>
      match object.requests with
      | [] => none
      | request :: requests =>
          (lastAttach rest { object with
            listener := (processRequest calls object.listener request).1
            requests := requests }).or
          (if request.changes object.listener then some calls else none)

/-- The last attach decides what is registered. -/
theorem handleRequests_silent_iff {object : ListenerObject}
    (tracked : object.listener.Tracked) (handled : List AttachCalls) :
    (object.handleRequests handled).listener.Silent ↔
      match object.lastAttach handled with
      | none => object.listener.Silent
      | some calls => calls.registersNothing = true := by
  induction handled generalizing object with
  | nil => rfl
  | cons calls rest ih =>
      rw [handleRequests, handleRequest, lastAttach]
      cases object.requests with
      | nil => rfl
      | cons request requests =>
          let after : ListenerObject := { object with
            listener := (processRequest calls object.listener request).1
            requests := requests }
          have last := @ih after (processRequest_tracked tracked calls request)
          change (after.handleRequests rest).listener.Silent ↔
            match (after.lastAttach rest).or
              (if request.changes object.listener then some calls else none) with
            | none => object.listener.Silent
            | some calls => calls.registersNothing = true
          cases later : after.lastAttach rest with
          | some calls =>
              rw [later] at last
              exact last
          | none =>
              rw [later] at last
              refine last.trans ?_
              simp only [after, processRequest_eq, Option.none_or]
              split_ifs
              · exact tracked.attachWatcher_silent_iff calls _ _
              · rfl

/-- The calls of the last attach after the destructor's `Terminate`. -/
def lateAttach (early late : List AttachCalls) (object : ListenerObject) :
    Option AttachCalls :=
  (object.terminate.handleRequests early).terminate.lastAttach late

theorem handleRequests_tracked {object : ListenerObject} (tracked : object.listener.Tracked)
    (handled : List AttachCalls) : (object.handleRequests handled).listener.Tracked := by
  induction handled generalizing object with
  | nil => exact tracked
  | cons calls rest ih =>
      rw [handleRequests]
      split
      · exact tracked
      · rename_i after taken
        obtain ⟨request, requests, _, rfl⟩ := handleRequest_eq_some.mp taken
        exact ih (processRequest_tracked tracked calls request)

theorem terminateAndDelete_silent_iff {object : ListenerObject}
    (tracked : object.listener.Tracked) (early late : List AttachCalls) :
    (object.terminateAndDelete early late).listener.Silent ↔
      ∀ calls ∈ object.lateAttach early late, calls.registersNothing = true := by
  have silent : (object.terminate.handleRequests early).terminate.listener.Silent :=
    (handleRequests_tracked tracked.terminate.tracked early).terminate
  refine (handleRequests_silent_iff silent.tracked late).trans ?_
  rw [lateAttach]
  cases (object.terminate.handleRequests early).terminate.lastAttach late with
  | none => simp [silent]
  | some calls => simp

end ListenerObject

/-- The deleted objects are those with an identity below the bound, each once, and they
left no notification registered. -/
structure Accounted (deleted : List ListenerObject) (bound : Nat) : Prop where
  once : (deleted.map (·.id)).Nodup
  every : ∀ id, id ∈ deleted.map (·.id) ↔ id < bound
  silent : ∀ object ∈ deleted, object.listener.Silent

theorem Accounted.cons {deleted : List ListenerObject} {object : ListenerObject}
    (accounted : Accounted deleted object.id) (silent : object.listener.Silent) :
    Accounted (object :: deleted) (object.id + 1) where
  once := by
    rw [List.map_cons, List.nodup_cons, accounted.every]
    exact ⟨Nat.lt_irrefl _, accounted.once⟩
  every id := by
    rw [List.map_cons, List.mem_cons, accounted.every]
    omega
  silent other member := by
    rcases List.mem_cons.mp member with rfl | old
    · exact silent
    · exact accounted.silent other old

namespace Win32DeviceWatcher

def live (watcher : Win32DeviceWatcher) : List ListenerObject :=
  watcher.audioListener.toList ++ watcher.leaked

/-- The attached listener is the mechanism that is registered. -/
structure ListenerMechanism (watcher : Win32DeviceWatcher) : Prop where
  attached : ∃ object, watcher.audioListener = some object ∧ object.listener.Listening
  alone : ∀ object ∈ watcher.leaked, object.listener.Silent
  window : watcher.audioRegistrations = 0

/-- The window notification is the mechanism that is registered. -/
structure WindowMechanism (watcher : Win32DeviceWatcher) : Prop where
  registered : watcher.audioRegistrations = 1
  silent : ∀ object ∈ watcher.live, object.listener.Silent

structure Released (watcher : Win32DeviceWatcher) : Prop where
  audio : watcher.audioRegistrations = 0
  video : watcher.videoRegistrations = 0
  live : watcher.live = []
  deleted : Accounted watcher.deleted watcher.allocated

structure OneMechanism (watcher : Win32DeviceWatcher) : Prop where
  running : watcher.active = true → watcher.ListenerMechanism ∨ watcher.WindowMechanism
  ended : watcher.active = false → watcher.Released

/-- A disabled `Start` that succeeds finds the flag clear. An enabled one whose listener
does not attach registers both notifications, and the listener failed before its first
registration. -/
def StartGuard (watcher : Win32DeviceWatcher) (outcomes : StartOutcomes) : Prop :=
  watcher.window = false ∧ (outcomes.createWindow = true →
    if watcher.audioListenerEnabled then
      (watcher.deviceEnumeratorSupported || watcher.version.hasDeviceEnumerator) = true →
      outcomes.allocateListener = true → outcomes.attach.attaches "" "" = false →
        outcomes.registerAudio = true ∧ outcomes.registerVideo = true ∧
          outcomes.attach.registersNothing = true
    else watcher.deviceEnumeratorSupported = true → outcomes.registerVideo = false)

/-- The oldest request changes nothing, or attaches the listener that is in use, or
registers nothing for one that is not. -/
def RequestGuard (watcher : Win32DeviceWatcher) (calls : AttachCalls) : Prop :=
  ∀ object, watcher.audioListener = some object → ∀ request, object.requests.head? = some request →
    request.changes object.listener = true →
      if watcher.deviceEnumeratorSupported then
        calls.attaches (request.guids object.listener).1 (request.guids object.listener).2 = true
      else calls.registersNothing = true

/-- The flag names the mechanism in use, and the last attach after the destructor's
`Terminate` registers nothing. -/
def StopGuard (watcher : Win32DeviceWatcher) (early late : List AttachCalls) : Prop :=
  ∀ object, watcher.audioListener = some object →
    watcher.deviceEnumeratorSupported = true ∧
      ∀ calls ∈ object.lateAttach early late, calls.registersNothing = true

def guard (watcher : Win32DeviceWatcher) : WatcherOperation → Prop
  | .start outcomes => watcher.StartGuard outcomes
  | .stop early late => watcher.StopGuard early late
  | .handleRequest calls => watcher.RequestGuard calls
  | .enableAudioNotifyMechanism _ | .post _ | .handleLeaked _ _ => True

/-- Nothing is registered and no listener is alive. -/
structure Idle (watcher : Win32DeviceWatcher) : Prop where
  window : watcher.window = false
  active : watcher.active = false
  audioNotify : watcher.audioNotify = false
  videoNotify : watcher.videoNotify = false
  audio : watcher.audioRegistrations = 0
  video : watcher.videoRegistrations = 0
  audioListener : watcher.audioListener = none
  leaked : watcher.leaked = []
  accounted : Accounted watcher.deleted watcher.allocated

structure RunsListener (watcher : Win32DeviceWatcher) (object : ListenerObject) : Prop where
  window : watcher.window = true
  active : watcher.active = true
  supported : watcher.deviceEnumeratorSupported = true
  audioNotify : watcher.audioNotify = false
  videoNotify : watcher.videoNotify = true
  audio : watcher.audioRegistrations = 0
  video : watcher.videoRegistrations = 1
  audioListener : watcher.audioListener = some object
  leaked : watcher.leaked = []
  listening : object.listener.Listening
  tracked : object.listener.Tracked
  accounted : Accounted watcher.deleted object.id
  allocated : watcher.allocated = object.id + 1

/-- The listener that could not be attached may still be pointed to. -/
structure RunsWindow (watcher : Win32DeviceWatcher) : Prop where
  window : watcher.window = true
  active : watcher.active = true
  unsupported : watcher.deviceEnumeratorSupported = false
  audioNotify : watcher.audioNotify = true
  videoNotify : watcher.videoNotify = true
  audio : watcher.audioRegistrations = 1
  video : watcher.videoRegistrations = 1
  leaked : watcher.leaked = []
  silent : ∀ object, watcher.audioListener = some object → object.listener.Silent
  accounted : watcher.audioListener = none → Accounted watcher.deleted watcher.allocated

inductive Invariant (watcher : Win32DeviceWatcher) : Prop
  | idle (idle : watcher.Idle)
  | listener (object : ListenerObject) (runs : watcher.RunsListener object)
  | window (runs : watcher.RunsWindow)

theorem Idle.released {watcher : Win32DeviceWatcher} (idle : watcher.Idle) :
    watcher.Released where
  audio := idle.audio
  video := idle.video
  live := by simp [live, idle.audioListener, idle.leaked]
  deleted := idle.accounted

theorem Invariant.oneMechanism {watcher : Win32DeviceWatcher} (invariant : watcher.Invariant) :
    watcher.OneMechanism := by
  cases invariant with
  | idle idle =>
      refine ⟨fun active => ?_, fun _ => idle.released⟩
      rw [idle.active] at active
      cases active
  | listener object runs =>
      refine ⟨fun _ => .inl ⟨⟨object, runs.audioListener, runs.listening⟩, ?_, runs.audio⟩, ?_⟩
      · simp [runs.leaked]
      · simp [runs.active]
  | window runs =>
      refine ⟨fun _ => .inr ⟨runs.audio, ?_⟩, ?_⟩
      · simpa [live, runs.leaked] using runs.silent
      · simp [runs.active]

theorem initial_invariant (version : WindowsVersion) : (initial version).Invariant :=
  .idle ⟨rfl, rfl, rfl, rfl, rfl, rfl, rfl, rfl, by simp [initial], by simp [initial],
    by simp [initial]⟩

/-- What `Stop` has to find: its flag names the mechanism that is registered. -/
structure Releasable (watcher : Win32DeviceWatcher) : Prop where
  audio : watcher.audioRegistrations = watcher.audioNotify.toNat
  video : watcher.videoRegistrations = watcher.videoNotify.toNat
  leaked : watcher.leaked = []
  supported : watcher.deviceEnumeratorSupported = true → watcher.audioNotify = false
  unsupported : watcher.deviceEnumeratorSupported = false → watcher.audioListener = none
  held : ∀ object, watcher.audioListener = some object → object.listener.Tracked ∧
    Accounted watcher.deleted object.id ∧ watcher.allocated = object.id + 1
  accounted : watcher.audioListener = none → Accounted watcher.deleted watcher.allocated

theorem Releasable.stop {watcher : Win32DeviceWatcher} (releasable : watcher.Releasable)
    {early late : List AttachCalls} (guarded : watcher.StopGuard early late) :
    (watcher.stop early late).Idle := by
  have audio := releasable.audio
  have video := releasable.video
  cases supported : watcher.deviceEnumeratorSupported with
  | false =>
      have unused := releasable.unsupported supported
      have accounted := releasable.accounted unused
      refine ⟨rfl, rfl, rfl, ?_, ?_, ?_, rfl, ?_, ?_⟩
      all_goals simp [Win32DeviceWatcher.stop, unregisterVideo, unregisterAudio, pointTo,
        supported, unused, audio, video, releasable.leaked, accounted]
  | true =>
      have silent := releasable.supported supported
      cases pointed : watcher.audioListener with
      | none =>
          have accounted := releasable.accounted pointed
          refine ⟨rfl, rfl, rfl, ?_, ?_, ?_, rfl, ?_, ?_⟩
          all_goals simp [Win32DeviceWatcher.stop, unregisterVideo, deleteListener, pointTo,
            supported, pointed, audio, video, silent, releasable.leaked, accounted]
      | some object =>
          obtain ⟨tracked, accounted, allocated⟩ := releasable.held object pointed
          have same : (object.terminateAndDelete early late).id = object.id :=
            (ListenerObject.handleRequests_id _ _).trans (ListenerObject.handleRequests_id _ _)
          have quiet := (ListenerObject.terminateAndDelete_silent_iff tracked early late).mpr
            (guarded object pointed).2
          have deleted : Accounted (object.terminateAndDelete early late :: watcher.deleted)
              (object.id + 1) :=
            same ▸ Accounted.cons (same.symm ▸ accounted) quiet
          refine ⟨rfl, rfl, rfl, ?_, ?_, ?_, rfl, ?_, ?_⟩
          all_goals simp [Win32DeviceWatcher.stop, unregisterVideo, deleteListener, pointTo,
            supported, pointed, audio, video, silent, releasable.leaked, allocated, deleted]

/-- A `Stop` during which no request is handled. -/
theorem Releasable.stop_nil {watcher : Win32DeviceWatcher} (releasable : watcher.Releasable) :
    (watcher.stop [] []).Idle := by
  refine releasable.stop fun object pointed => ⟨?_, fun calls late => by cases late⟩
  by_contra clear
  rw [releasable.unsupported (Bool.eq_false_iff.mpr clear)] at pointed
  cases pointed

/-- With the flag clear, `Stop` forgets the listener it points to. -/
theorem stop_lost {watcher : Win32DeviceWatcher} {object : ListenerObject}
    (unsupported : watcher.deviceEnumeratorSupported = false)
    (pointed : watcher.audioListener = some object) (early late : List AttachCalls) :
    ¬ (watcher.stop early late).OneMechanism := by
  intro law
  have empty := (law.ended rfl).live
  simp [live, stop, unregisterVideo, unregisterAudio, pointTo, unsupported, pointed] at empty

theorem Idle.releasable {watcher : Win32DeviceWatcher} (idle : watcher.Idle) :
    watcher.Releasable where
  audio := by simp [idle.audio, idle.audioNotify]
  video := by simp [idle.video, idle.videoNotify]
  leaked := idle.leaked
  supported _ := idle.audioNotify
  unsupported _ := idle.audioListener
  held object pointed := by simp [idle.audioListener] at pointed
  accounted _ := idle.accounted

theorem RunsListener.releasable {watcher : Win32DeviceWatcher} {object : ListenerObject}
    (runs : watcher.RunsListener object) : watcher.Releasable where
  audio := by simp [runs.audio, runs.audioNotify]
  video := by simp [runs.video, runs.videoNotify]
  leaked := runs.leaked
  supported _ := runs.audioNotify
  unsupported clear := by simp [runs.supported] at clear
  held other pointed := by
    obtain rfl : object = other := Option.some.inj (runs.audioListener.symm.trans pointed)
    exact ⟨runs.tracked, runs.accounted, runs.allocated⟩
  accounted unused := by simp [runs.audioListener] at unused

theorem RunsWindow.releasable {watcher : Win32DeviceWatcher} (runs : watcher.RunsWindow)
    (unused : watcher.audioListener = none) : watcher.Releasable where
  audio := by simp [runs.audio, runs.audioNotify]
  video := by simp [runs.video, runs.videoNotify]
  leaked := runs.leaked
  supported held := by simp [runs.unsupported] at held
  unsupported _ := unused
  held object pointed := by simp [unused] at pointed
  accounted := runs.accounted

theorem stop_invariant {watcher : Win32DeviceWatcher} (invariant : watcher.Invariant)
    {early late : List AttachCalls} (guarded : watcher.StopGuard early late) :
    (watcher.stop early late).Invariant := by
  cases invariant with
  | idle idle => exact .idle (idle.releasable.stop guarded)
  | listener object runs => exact .idle (runs.releasable.stop guarded)
  | window runs =>
      refine .idle ((runs.releasable ?_).stop guarded)
      by_contra pointed
      obtain ⟨object, pointed⟩ := Option.ne_none_iff_exists'.mp pointed
      have supported := (guarded object pointed).1
      rw [runs.unsupported] at supported
      cases supported

/-- A late attach that registers something leaves it behind. -/
theorem RunsListener.stop_lost {watcher : Win32DeviceWatcher} {object : ListenerObject}
    (runs : watcher.RunsListener object) {early late : List AttachCalls}
    (refused : ¬ watcher.StopGuard early late) : ¬ (watcher.stop early late).OneMechanism := by
  intro law
  have silent := (law.ended rfl).deleted.silent (object.terminateAndDelete early late) (by
    simp [stop, unregisterVideo, deleteListener, pointTo, runs.supported, runs.audioListener])
  refine refused fun other pointed => ⟨runs.supported, ?_⟩
  obtain rfl : object = other := Option.some.inj (runs.audioListener.symm.trans pointed)
  exact (ListenerObject.terminateAndDelete_silent_iff runs.tracked early late).mp silent

theorem stop_exact {watcher : Win32DeviceWatcher} (invariant : watcher.Invariant)
    {early late : List AttachCalls} (refused : ¬ watcher.StopGuard early late) :
    ¬ (watcher.stop early late).OneMechanism := by
  cases invariant with
  | idle idle =>
      refine absurd (fun object pointed => ?_) refused
      rw [idle.audioListener] at pointed
      cases pointed
  | listener object runs => exact runs.stop_lost refused
  | window runs =>
      cases pointed : watcher.audioListener with
      | none =>
          refine absurd (fun object held => ?_) refused
          rw [pointed] at held
          cases held
      | some object => exact Win32DeviceWatcher.stop_lost runs.unsupported pointed early late

/-- The end of `Start`, with what it records about its result. -/
def finishStart (outcomes : StartOutcomes) (watcher : Win32DeviceWatcher) :
    Win32DeviceWatcher :=
  { (watcher.registerNotifications outcomes).2 with
    active := (watcher.registerNotifications outcomes).1 }

theorem finishStart_supported (outcomes : StartOutcomes) {watcher : Win32DeviceWatcher}
    (supported : watcher.deviceEnumeratorSupported = true) :
    watcher.finishStart outcomes =
      if outcomes.registerVideo then { watcher.registerVideo true with active := true }
      else (watcher.registerVideo false).stop [] [] := by
  cases registered : outcomes.registerVideo with
  | false =>
      simp [finishStart, registerNotifications, supported, registered, registerVideo]
      rfl
  | true => simp [finishStart, registerNotifications, supported, registered, registerVideo]

theorem finishStart_unsupported (outcomes : StartOutcomes) {watcher : Win32DeviceWatcher}
    (unsupported : watcher.deviceEnumeratorSupported = false) :
    watcher.finishStart outcomes =
      if outcomes.registerAudio then
        if outcomes.registerVideo then
          { (watcher.registerAudio true).registerVideo true with active := true }
        else ((watcher.registerAudio true).registerVideo false).stop [] []
      else (watcher.registerAudio false).stop [] [] := by
  cases audio : outcomes.registerAudio <;> cases video : outcomes.registerVideo <;>
    simp [finishStart, registerNotifications, unsupported, audio, video, registerVideo,
      registerAudio] <;> rfl

/-- The state in which `Start` turns to its registrations. -/
structure Starting (watcher : Win32DeviceWatcher) : Prop where
  window : watcher.window = true
  audioNotify : watcher.audioNotify = false
  videoNotify : watcher.videoNotify = false
  audio : watcher.audioRegistrations = 0
  video : watcher.videoRegistrations = 0
  leaked : watcher.leaked = []

theorem Starting.finish_window {watcher : Win32DeviceWatcher} (starting : watcher.Starting)
    (outcomes : StartOutcomes) (unsupported : watcher.deviceEnumeratorSupported = false)
    (unused : watcher.audioListener = none)
    (accounted : Accounted watcher.deleted watcher.allocated) :
    (watcher.finishStart outcomes).Invariant := by
  have window := starting.window
  have audio := starting.audio
  have video := starting.video
  have leaked := starting.leaked
  rw [finishStart_unsupported outcomes unsupported]
  split_ifs
  · refine .window ⟨window, rfl, unsupported, rfl, rfl, ?_, ?_, leaked, ?_, fun _ => accounted⟩
    all_goals simp [registerAudio, registerVideo, audio, video, unused]
  · refine .idle (Releasable.stop_nil ⟨?_, ?_, leaked, ?_, fun _ => unused, ?_, fun _ => accounted⟩)
    all_goals simp [registerAudio, registerVideo, audio, video, unused, unsupported]
  · refine .idle (Releasable.stop_nil ⟨?_, ?_, leaked, ?_, fun _ => unused, ?_, fun _ => accounted⟩)
    all_goals simp [registerAudio, audio, video, starting.videoNotify, unused]

theorem Starting.finish_listener {watcher : Win32DeviceWatcher} (starting : watcher.Starting)
    (outcomes : StartOutcomes) (supported : watcher.deviceEnumeratorSupported = true)
    {object : ListenerObject} (pointed : watcher.audioListener = some object)
    (listening : object.listener.Listening) (tracked : object.listener.Tracked)
    (accounted : Accounted watcher.deleted object.id)
    (allocated : watcher.allocated = object.id + 1) :
    (watcher.finishStart outcomes).Invariant := by
  rw [finishStart_supported outcomes supported]
  split_ifs
  · refine .listener object ⟨starting.window, rfl, supported, starting.audioNotify, rfl,
      starting.audio, ?_, pointed, starting.leaked, listening, tracked, accounted, allocated⟩
    simp [registerVideo, starting.video]
  · refine .idle (Releasable.stop_nil ⟨?_, ?_, starting.leaked, fun _ => starting.audioNotify, ?_,
      ?_, ?_⟩)
    · simp [registerVideo, starting.audio, starting.audioNotify]
    · simp [registerVideo, starting.video]
    · simp [registerVideo, supported]
    · intro other held
      obtain rfl : object = other := Option.some.inj (pointed.symm.trans held)
      exact ⟨tracked, accounted, allocated⟩
    · simp [registerVideo, pointed]

/-- The flag of an earlier run is still set, and there is no listener. -/
theorem Starting.finish_stale {watcher : Win32DeviceWatcher} (starting : watcher.Starting)
    (outcomes : StartOutcomes) (supported : watcher.deviceEnumeratorSupported = true)
    (unused : watcher.audioListener = none)
    (accounted : Accounted watcher.deleted watcher.allocated) :
    (outcomes.registerVideo = false → (watcher.finishStart outcomes).Invariant) ∧
      (outcomes.registerVideo = true → ¬ (watcher.finishStart outcomes).OneMechanism) := by
  rw [finishStart_supported outcomes supported]
  constructor
  · intro failed
    rw [failed]
    refine .idle (Releasable.stop_nil ⟨?_, ?_, starting.leaked, fun _ => starting.audioNotify,
      fun _ => unused, ?_, fun _ => accounted⟩)
    · simp [registerVideo, starting.audio, starting.audioNotify]
    · simp [registerVideo, starting.video]
    · simp [registerVideo, unused]
  · intro registered law
    rw [if_pos registered] at law
    rcases law.running rfl with ⟨⟨object, pointed, _⟩, _, _⟩ | ⟨window, _⟩
    · simp [registerVideo, unused] at pointed
    · simp [registerVideo, starting.audio] at window

/-- The listener did not attach, and the watcher falls back to its window. -/
theorem Starting.finish_fallback {watcher : Win32DeviceWatcher} (starting : watcher.Starting)
    (outcomes : StartOutcomes) (unsupported : watcher.deviceEnumeratorSupported = false)
    {object : ListenerObject} (pointed : watcher.audioListener = some object) :
    (outcomes.registerAudio = true ∧ outcomes.registerVideo = true ∧ object.listener.Silent →
        (watcher.finishStart outcomes).Invariant) ∧
      (¬ (outcomes.registerAudio = true ∧ outcomes.registerVideo = true ∧
          object.listener.Silent) → ¬ (watcher.finishStart outcomes).OneMechanism) := by
  rw [finishStart_unsupported outcomes unsupported]
  constructor
  · rintro ⟨audio, video, silent⟩
    rw [if_pos audio, if_pos video]
    refine .window ⟨starting.window, rfl, unsupported, rfl, rfl, ?_, ?_, starting.leaked, ?_, ?_⟩
    · simp [registerAudio, registerVideo, starting.audio]
    · simp [registerAudio, registerVideo, starting.video]
    · intro other held
      obtain rfl : object = other := Option.some.inj (pointed.symm.trans held)
      exact silent
    · simp [registerAudio, registerVideo, pointed]
  · intro refused
    split_ifs with audio video
    · intro law
      rcases law.running rfl with ⟨_, _, window⟩ | ⟨_, silent⟩
      · simp [registerAudio, registerVideo, starting.audio] at window
      · refine refused ⟨audio, video, silent object ?_⟩
        simp [live, registerAudio, registerVideo, pointed]
    · refine @stop_lost _ object ?_ ?_ [] []
      · exact unsupported
      · exact pointed
    · refine @stop_lost _ object ?_ ?_ [] []
      · exact unsupported
      · exact pointed

/-- The listener of a `Start`, after its attempt to attach. -/
def startedListener (outcomes : StartOutcomes) (watcher : Win32DeviceWatcher) :
    ListenerObject :=
  ⟨watcher.allocated, (AudioDeviceListener.initial.attachWatcher outcomes.attach "" "").1, []⟩

theorem attachListener_eq (outcomes : StartOutcomes) (watcher : Win32DeviceWatcher)
    (unused : watcher.audioListener = none) :
    watcher.attachListener outcomes =
      if watcher.deviceEnumeratorSupported || watcher.version.hasDeviceEnumerator then
        if outcomes.allocateListener then
          { watcher with
            deviceEnumeratorSupported := outcomes.attach.attaches "" ""
            audioListener := some (watcher.startedListener outcomes)
            allocated := watcher.allocated + 1 }
        else { watcher with deviceEnumeratorSupported := false }
      else watcher := by
  have attached := AudioDeviceListener.attachWatcher_snd outcomes.attach "" "" .initial
  obtain ⟨version, window, audioNotify, videoNotify, supported, enabled, listener, audio, video,
    leaked, allocated, deleted, active⟩ := watcher
  cases unused
  cases enumerator : version.hasDeviceEnumerator <;> cases supported <;>
    cases allocates : outcomes.allocateListener <;>
    cases attaches : outcomes.attach.attaches "" "" <;>
    simp [attachListener, pointTo, startedListener, attached, enumerator, allocates, attaches]

theorem Idle.starting {watcher : Win32DeviceWatcher} (idle : watcher.Idle) :
    Starting { watcher with window := true } :=
  ⟨rfl, idle.audioNotify, idle.videoNotify, idle.audio, idle.video, idle.leaked⟩

/-- `Start` after its window was created. -/
def startInWindow (outcomes : StartOutcomes) (watcher : Win32DeviceWatcher) :
    Win32DeviceWatcher :=
  finishStart outcomes (if watcher.audioListenerEnabled then
    attachListener outcomes { watcher with window := true } else { watcher with window := true })

theorem step_start_refused {outcomes : StartOutcomes} {watcher : Win32DeviceWatcher}
    (refused : (watcher.window || !outcomes.createWindow) = true) :
    watcher.step (.start outcomes) = some { watcher with active := false } := by
  simp only [step, start, if_pos refused]

theorem step_start_created {outcomes : StartOutcomes} {watcher : Win32DeviceWatcher}
    (absent : watcher.window = false) (created : outcomes.createWindow = true) :
    watcher.step (.start outcomes) = some (watcher.startInWindow outcomes) := by
  simp only [step, start, absent, created, Bool.not_true, Bool.or_self, Bool.false_eq_true,
    if_false]
  rfl

/-- An enabled `Start`. Which listener it leaves decides how it goes on. -/
theorem Idle.startInWindow_enabled {watcher : Win32DeviceWatcher} (idle : watcher.Idle)
    (outcomes : StartOutcomes) (enabled : watcher.audioListenerEnabled = true) :
    let admitted := (watcher.deviceEnumeratorSupported || watcher.version.hasDeviceEnumerator)
        = true → outcomes.allocateListener = true → outcomes.attach.attaches "" "" = false →
      outcomes.registerAudio = true ∧ outcomes.registerVideo = true ∧
        outcomes.attach.registersNothing = true
    (admitted → (watcher.startInWindow outcomes).Invariant) ∧
      (¬ admitted → ¬ (watcher.startInWindow outcomes).OneMechanism) := by
  intro admitted
  have starting := idle.starting
  have shape := attachListener_eq outcomes { watcher with window := true } idle.audioListener
  rw [startInWindow, if_pos enabled, shape]
  by_cases supported :
      (watcher.deviceEnumeratorSupported || watcher.version.hasDeviceEnumerator) = true
  · rw [if_pos supported]
    by_cases allocates : outcomes.allocateListener = true
    · rw [if_pos allocates]
      have after : Starting { watcher with
          window := true
          deviceEnumeratorSupported := outcomes.attach.attaches "" ""
          audioListener := some (watcher.startedListener outcomes)
          allocated := watcher.allocated + 1 } :=
        ⟨rfl, starting.audioNotify, starting.videoNotify, starting.audio, starting.video,
          starting.leaked⟩
      cases attaches : outcomes.attach.attaches "" "" with
      | true =>
          have listening := (AudioDeviceListener.attachWatcher_listening_iff outcomes.attach
            "" "" .initial).mpr attaches
          have kept := after.finish_listener outcomes attaches rfl listening
            (AudioDeviceListener.initial_tracked.attachWatcher outcomes.attach "" "")
            idle.accounted rfl
          rw [attaches] at kept
          refine ⟨fun _ => kept, fun refused => absurd (fun _ _ failed => ?_) refused⟩
          rw [attaches] at failed
          cases failed
      | false =>
          have silent := AudioDeviceListener.initial_tracked.attachWatcher_silent_iff
            outcomes.attach "" ""
          have fallback := after.finish_fallback outcomes attaches rfl
          rw [attaches] at fallback
          refine ⟨fun accepted => fallback.1 ?_, fun refused => fallback.2 fun accepted => ?_⟩
          · obtain ⟨audio, video, nothing⟩ := accepted supported allocates attaches
            exact ⟨audio, video, silent.mpr nothing⟩
          · obtain ⟨audio, video, quiet⟩ := accepted
            exact refused fun _ _ _ => ⟨audio, video, silent.mp quiet⟩
    · rw [if_neg allocates]
      have after : Starting { watcher with window := true, deviceEnumeratorSupported := false } :=
        ⟨rfl, starting.audioNotify, starting.videoNotify, starting.audio, starting.video,
          starting.leaked⟩
      exact ⟨fun _ => after.finish_window outcomes rfl idle.audioListener idle.accounted,
        fun refused => absurd (fun _ allocated => absurd allocated allocates) refused⟩
  · rw [if_neg supported]
    have unsupported := (Bool.or_eq_false_iff.mp (Bool.eq_false_iff.mpr supported)).1
    exact ⟨fun _ => starting.finish_window outcomes unsupported idle.audioListener
      idle.accounted, fun refused => absurd (fun held => absurd held supported) refused⟩

theorem Idle.startInWindow_disabled {watcher : Win32DeviceWatcher} (idle : watcher.Idle)
    (outcomes : StartOutcomes) (disabled : watcher.audioListenerEnabled = false) :
    let admitted := watcher.deviceEnumeratorSupported = true → outcomes.registerVideo = false
    (admitted → (watcher.startInWindow outcomes).Invariant) ∧
      (¬ admitted → ¬ (watcher.startInWindow outcomes).OneMechanism) := by
  intro admitted
  have starting := idle.starting
  rw [startInWindow, if_neg (Bool.eq_false_iff.mp disabled)]
  by_cases supported : watcher.deviceEnumeratorSupported = true
  · have stale := starting.finish_stale outcomes supported idle.audioListener idle.accounted
    refine ⟨fun accepted => stale.1 (accepted supported), fun refused => stale.2 ?_⟩
    by_contra failed
    exact refused fun _ => Bool.eq_false_iff.mpr failed
  · exact ⟨fun _ => starting.finish_window outcomes (Bool.eq_false_iff.mpr supported)
      idle.audioListener idle.accounted,
      fun refused => absurd (fun held => absurd held supported) refused⟩

/-- `Create` refuses a second window, and the failed `Start` leaves the first in place. -/
theorem Invariant.idle_of_window {watcher : Win32DeviceWatcher} (invariant : watcher.Invariant)
    (absent : watcher.window = false) : watcher.Idle := by
  cases invariant with
  | idle idle => exact idle
  | listener object runs => simp [runs.window] at absent
  | window runs => simp [runs.window] at absent

theorem Invariant.registered_of_window {watcher : Win32DeviceWatcher}
    (invariant : watcher.Invariant) (present : watcher.window = true) :
    watcher.videoRegistrations = 1 := by
  cases invariant with
  | idle idle => simp [idle.window] at present
  | listener object runs => exact runs.video
  | window runs => exact runs.video

theorem start_spec {watcher : Win32DeviceWatcher} (invariant : watcher.Invariant)
    (outcomes : StartOutcomes) :
    ∃ next, watcher.step (.start outcomes) = some next ∧
      (watcher.StartGuard outcomes → next.Invariant) ∧
      (¬ watcher.StartGuard outcomes → ¬ next.OneMechanism) := by
  by_cases present : watcher.window = true
  · refine ⟨_, step_start_refused (by simp [present]), fun guarded => ?_, fun _ law => ?_⟩
    · simp [StartGuard, present] at guarded
    · have released := (law.ended rfl).video
      simp [invariant.registered_of_window present] at released
  · have absent := Bool.eq_false_iff.mpr present
    have idle := invariant.idle_of_window absent
    by_cases created : outcomes.createWindow = true
    · refine ⟨_, step_start_created absent created, ?_⟩
      by_cases enabled : watcher.audioListenerEnabled = true
      · obtain ⟨kept, lost⟩ := idle.startInWindow_enabled outcomes enabled
        simp only [StartGuard, if_pos enabled]
        exact ⟨fun guarded => kept (guarded.2 created),
          fun refused => lost fun admitted => refused ⟨absent, fun _ => admitted⟩⟩
      · obtain ⟨kept, lost⟩ := idle.startInWindow_disabled outcomes
          (Bool.eq_false_iff.mpr enabled)
        simp only [StartGuard, if_neg enabled]
        exact ⟨fun guarded => kept (guarded.2 created),
          fun refused => lost fun admitted => refused ⟨absent, fun _ => admitted⟩⟩
    · have unchanged : { watcher with active := false } = watcher := by rw [← idle.active]
      refine ⟨watcher, unchanged ▸ step_start_refused (by simp [created]),
        fun _ => .idle idle, fun refused => ?_⟩
      exact absurd ⟨absent, fun made => absurd made created⟩ refused

theorem step_handleRequest {watcher : Win32DeviceWatcher} {object : ListenerObject}
    (pointed : watcher.audioListener = some object) (calls : AttachCalls) :
    watcher.step (.handleRequest calls) =
      (object.handleRequest calls).map
        fun after => { watcher with audioListener := some after } := by
  cases handled : object.handleRequest calls <;> simp [step, pointed, handled]

theorem RunsListener.replace {watcher : Win32DeviceWatcher} {object after : ListenerObject}
    (runs : watcher.RunsListener object) (same : after.id = object.id)
    (listening : after.listener.Listening) (tracked : after.listener.Tracked) :
    RunsListener { watcher with audioListener := some after } after :=
  ⟨runs.window, runs.active, runs.supported, runs.audioNotify, runs.videoNotify, runs.audio,
    runs.video, rfl, runs.leaked, listening, tracked, same ▸ runs.accounted,
    same ▸ runs.allocated⟩

theorem RunsWindow.replace {watcher : Win32DeviceWatcher} (runs : watcher.RunsWindow)
    {after : ListenerObject} (silent : after.listener.Silent) :
    RunsWindow { watcher with audioListener := some after } :=
  ⟨runs.window, runs.active, runs.unsupported, runs.audioNotify, runs.videoNotify, runs.audio,
    runs.video, runs.leaked, fun _ held => Option.some.inj held ▸ silent, by simp⟩

theorem RunsListener.lost {watcher : Win32DeviceWatcher} {object after : ListenerObject}
    (runs : watcher.RunsListener object) (lost : ¬ after.listener.Listening) :
    ¬ OneMechanism { watcher with audioListener := some after } := by
  intro law
  rcases law.running runs.active with ⟨⟨other, pointed, listening⟩, _, _⟩ | ⟨window, _⟩
  · cases pointed
    exact lost listening
  · simp [runs.audio] at window

theorem RunsWindow.lost {watcher : Win32DeviceWatcher} (runs : watcher.RunsWindow)
    {after : ListenerObject} (lost : ¬ after.listener.Silent) :
    ¬ OneMechanism { watcher with audioListener := some after } := by
  intro law
  rcases law.running runs.active with ⟨_, _, window⟩ | ⟨_, silent⟩
  · simp [runs.audio] at window
  · exact lost (silent after (by simp [live]))

theorem handleRequest_spec {watcher next : Win32DeviceWatcher} (invariant : watcher.Invariant)
    {calls : AttachCalls} (handled : watcher.step (.handleRequest calls) = some next) :
    (watcher.RequestGuard calls → next.Invariant) ∧
      (¬ watcher.RequestGuard calls → ¬ next.OneMechanism) := by
  cases pointed : watcher.audioListener with
  | none => simp [step, pointed] at handled
  | some object =>
      rw [step_handleRequest pointed, Option.map_eq_some_iff] at handled
      obtain ⟨after, handled, rfl⟩ := handled
      obtain ⟨request, rest, queued, rfl⟩ := ListenerObject.handleRequest_eq_some.mp handled
      have guarded : watcher.RequestGuard calls ↔ (request.changes object.listener = true →
          if watcher.deviceEnumeratorSupported then
            calls.attaches (request.guids object.listener).1
              (request.guids object.listener).2 = true
          else calls.registersNothing = true) := by
        simp only [RequestGuard, pointed, queued, Option.some.injEq, forall_eq', List.head?_cons]
      cases invariant with
      | idle idle => simp [idle.audioListener] at pointed
      | listener used runs =>
          obtain rfl : used = object := Option.some.inj (runs.audioListener.symm.trans pointed)
          rw [if_pos runs.supported,
            ← processRequest_listening_iff runs.listening calls request] at guarded
          rw [guarded]
          exact ⟨fun listening => .listener _ (runs.replace rfl listening
            (processRequest_tracked runs.tracked calls request)), fun lost => runs.lost lost⟩
      | window runs =>
          rw [if_neg (Bool.eq_false_iff.mp runs.unsupported),
            ← processRequest_silent_iff (runs.silent object pointed) calls request] at guarded
          rw [guarded]
          exact ⟨fun silent => .window (runs.replace silent), fun lost => runs.lost lost⟩

theorem handleRequest_stuck {watcher : Win32DeviceWatcher} {calls : AttachCalls}
    (stuck : watcher.step (.handleRequest calls) = none) : watcher.RequestGuard calls := by
  intro object pointed request oldest
  rw [step_handleRequest pointed] at stuck
  cases queued : object.requests with
  | nil => simp [queued] at oldest
  | cons first rest => simp [ListenerObject.handleRequest, queued] at stuck

theorem Invariant.leaked {watcher : Win32DeviceWatcher} (invariant : watcher.Invariant) :
    watcher.leaked = [] := by
  cases invariant with
  | idle idle => exact idle.leaked
  | listener object runs => exact runs.leaked
  | window runs => exact runs.leaked

theorem enable_invariant {watcher : Win32DeviceWatcher} (invariant : watcher.Invariant)
    (enable : Bool) : Invariant { watcher with audioListenerEnabled := enable } := by
  cases invariant with
  | idle idle =>
      obtain ⟨window, active, audioNotify, videoNotify, audio, video, unused, leaked,
        accounted⟩ := idle
      exact .idle ⟨window, active, audioNotify, videoNotify, audio, video, unused, leaked,
        accounted⟩
  | listener object runs =>
      obtain ⟨window, active, supported, audioNotify, videoNotify, audio, video, pointed, leaked,
        listening, tracked, accounted, allocated⟩ := runs
      exact .listener object ⟨window, active, supported, audioNotify, videoNotify, audio, video,
        pointed, leaked, listening, tracked, accounted, allocated⟩
  | window runs =>
      obtain ⟨window, active, unsupported, audioNotify, videoNotify, audio, video, leaked, silent,
        accounted⟩ := runs
      exact .window ⟨window, active, unsupported, audioNotify, videoNotify, audio, video, leaked,
        silent, accounted⟩

theorem post_invariant {watcher : Win32DeviceWatcher} (invariant : watcher.Invariant)
    (request : GuidRequest) : (watcher.post request).2.Invariant := by
  unfold post
  cases pointed : watcher.audioListener with
  | none => exact invariant
  | some object =>
      cases invariant with
      | idle idle => simp [idle.audioListener] at pointed
      | listener used runs =>
          obtain rfl : used = object := Option.some.inj (runs.audioListener.symm.trans pointed)
          exact .listener _ (runs.replace rfl runs.listening runs.tracked)
      | window runs => exact .window (runs.replace (runs.silent object pointed))

theorem step_invariant {watcher next : Win32DeviceWatcher} {operation : WatcherOperation}
    (invariant : watcher.Invariant) (guarded : watcher.guard operation)
    (taken : watcher.step operation = some next) : next.Invariant := by
  cases operation with
  | enableAudioNotifyMechanism enable =>
      cases taken
      exact enable_invariant invariant enable
  | start outcomes =>
      obtain ⟨reached, started, kept, _⟩ := start_spec invariant outcomes
      cases started.symm.trans taken
      exact kept guarded
  | stop early late =>
      cases taken
      exact stop_invariant invariant guarded
  | post request =>
      cases taken
      exact post_invariant invariant request
  | handleRequest calls => exact (handleRequest_spec invariant taken).1 guarded
  | handleLeaked index calls => simp [step, invariant.leaked] at taken

theorem step_exact {watcher : Win32DeviceWatcher} {operation : WatcherOperation}
    (invariant : watcher.Invariant) (refused : ¬ watcher.guard operation) :
    ∃ next, watcher.step operation = some next ∧ ¬ next.OneMechanism := by
  cases operation with
  | enableAudioNotifyMechanism enable => exact absurd trivial refused
  | start outcomes =>
      obtain ⟨next, started, _, lost⟩ := start_spec invariant outcomes
      exact ⟨next, started, lost refused⟩
  | stop early late => exact ⟨watcher.stop early late, rfl, stop_exact invariant refused⟩
  | post request => exact absurd trivial refused
  | handleRequest calls =>
      cases taken : watcher.step (.handleRequest calls) with
      | none => exact absurd (handleRequest_stuck taken) refused
      | some next => exact ⟨next, rfl, (handleRequest_spec invariant taken).2 refused⟩
  | handleLeaked index calls => exact absurd trivial refused

theorem oneMechanism_iff (version : WindowsVersion) (operations : List WatcherOperation) :
    Throughout step OneMechanism (initial version) operations ↔
      Guarded step guard (initial version) operations :=
  throughout_iff_guarded Invariant (fun _ invariant => invariant.oneMechanism)
    (fun _ _ _ invariant guarded taken => step_invariant invariant guarded taken)
    (fun _ _ invariant refused => step_exact invariant refused) (initial_invariant version)

def windowsSeven : WindowsVersion := ⟨6, 1⟩

/-- The microphone cannot be looked up; everything else succeeds. -/
def withoutMicrophone : StartOutcomes where
  createWindow := true
  allocateListener := true
  attach := { AudioDeviceListener.workingCalls with
    mic := ⟨none, false, false, false, false⟩ }
  registerAudio := true
  registerVideo := true

theorem oneMechanism_withoutMicrophone :
    ¬ ∀ version operations, Throughout step OneMechanism (initial version) operations := by
  intro holds
  have law := (holds windowsSeven [.enableAudioNotifyMechanism true,
    .start withoutMicrophone]).reached rfl
  rcases law.running rfl with ⟨_, _, window⟩ | ⟨_, silent⟩
  · cases window
  · -- The device-change notification stays registered.
    have endPoint := (silent _ (.head _)).endPoint
    cases endPoint

end Win32DeviceWatcher

end FiberApp.CoreAudio
