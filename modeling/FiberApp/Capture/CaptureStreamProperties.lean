import FiberApp.Capture.CaptureStream
import FiberApp.Foundation.Execution
import Mathlib.Data.List.Perm.Basic

/-! What the capture streams own over a whole run: nothing is freed twice or too early, and
which calls lose an object. -/

set_option autoImplicit false

namespace FiberApp.Capture

open FiberApp.Foundation

namespace CaptureStream

/-- The objects a stream owns from its creation to its end. -/
def lasting (stream : CaptureStream) : List Nat :=
  stream.pool :: stream.videoCapture.object :: stream.frameScaler.toList

def owned (stream : CaptureStream) : List Nat := stream.lasting ++ stream.captureDataCb.toList

/-- The callback a start replaces. -/
def lostByStart (stream : CaptureStream) : List Nat :=
  if stream.videoCapture.captureStarted then [] else stream.captureDataCb.toList

def lostByDestroy (stream : CaptureStream) : List Nat :=
  stream.frameScaler.toList ++
    if stream.capturing ∧ stream.videoCapture.captureStarted then []
    else stream.captureDataCb.toList

/-- The module delivers its frames to the callback of its stream, if to any. -/
structure Wired (stream : CaptureStream) : Prop where
  window : stream.windowAvailable = true
  registered : stream.videoCapture.dataCallback = stream.captureDataCb

end CaptureStream

namespace CaptureStreams

open CaptureStream

def held (system : CaptureStreams) : List Nat := system.streams.flatMap owned

/-- The objects that no stream points to any more after the call, and that it did not delete. -/
def lostBy (system : CaptureStreams) : StreamCall → List Nat
  | .create _ true => []
  | .create true false => [system.ledger.allocated + 1, system.ledger.allocated]
  | .create false false => [system.ledger.allocated]
  | .start position _ => (system.streams[position]?.map lostByStart).getD []
  | .destroy position _ => (system.streams[position]?.map lostByDestroy).getD []
  | _ => []

/-- Every object is held by one stream, deleted or lost. -/
structure Sound (system : CaptureStreams) (lost : List Nat) : Prop where
  balanced : system.ledger.Balanced (system.held ++ lost)
  wired : ∀ stream ∈ system.streams, stream.Wired

section Streams

variable {ledger : Ledger} {stream : CaptureStream} {rest : List Nat}

/-- A change of one stream that keeps it wired and drops some of its objects. -/
structure Accounts (ledger : Ledger) (stream : CaptureStream) (changed : Ledger × CaptureStream)
    (lost : List Nat) : Prop where
  balanced : ∀ rest, ledger.Balanced (stream.owned ++ rest) →
    changed.1.Balanced (changed.2.owned ++ (lost ++ rest))
  wired : changed.2.Wired

theorem Accounts.of_eq {next : CaptureStream} (wired : next.Wired)
    (same : next.owned = stream.owned) : Accounts ledger stream (ledger, next) [] where
  balanced rest balanced := by
    show ledger.Balanced (next.owned ++ rest)
    rwa [same]
  wired := wired

theorem webrtcCapStreamStart_accounts (wired : stream.Wired) (succeeded : Bool) :
    Accounts ledger stream (webrtcCapStreamStart ledger stream succeeded) stream.lostByStart := by
  cases started : stream.videoCapture.captureStarted with
  | true =>
      have nothing : stream.lostByStart = [] := by simp [lostByStart, started]
      have same : webrtcCapStreamStart ledger stream succeeded =
          (ledger, { stream with capturing := true }) := by
        simp [webrtcCapStreamStart, startCapturer, wired.window, started]
      rw [nothing, same]
      exact .of_eq ⟨wired.window, wired.registered⟩ rfl
  | false =>
      have replaced : stream.lostByStart = stream.captureDataCb.toList := by
        simp [lostByStart, started]
      simp only [webrtcCapStreamStart, startCapturer, wired.window, started, replaced, if_true,
        Bool.false_eq_true, if_false]
      refine ⟨fun rest balanced => balanced.allocate.of_perm ?_, rfl, rfl⟩
      -- The new callback stands where the replaced one stood.
      show (stream.lasting ++ [ledger.allocate.1] ++ (stream.captureDataCb.toList ++ rest)).Perm _
      simp [owned]

theorem stopCapturer_accounts (wired : stream.Wired) (stopped : Bool) :
    Accounts ledger stream (stopCapturer ledger stream stopped) [] := by
  unfold stopCapturer
  by_cases started : stream.videoCapture.captureStarted
  · rw [if_pos started]
    refine ⟨fun rest balanced => ?_, wired.window, rfl⟩
    cases callback : stream.captureDataCb with
    | none => simpa [owned, lasting, callback] using balanced
    | some object =>
        have taken : ledger.Balanced (object :: (stream.lasting ++ rest)) := by
          refine balanced.of_perm ?_
          simpa [owned, callback] using List.perm_middle.symm
        simpa [owned, lasting, callback] using taken.delete
  · rw [if_neg started]
    exact .of_eq wired rfl

theorem webrtcCapStreamStop_accounts (wired : stream.Wired) (stopped : Bool) :
    Accounts ledger stream (webrtcCapStreamStop ledger stream stopped) [] := by
  have stopping : Accounts ledger stream (stopCapturer ledger stream stopped) [] :=
    stopCapturer_accounts wired stopped
  exact ⟨stopping.balanced, stopping.wired.window, stopping.wired.registered⟩

theorem setOutputWindow_accounts (wired : stream.Wired) (succeeded : Bool) :
    Accounts ledger stream (setOutputWindow ledger stream succeeded) [] := by
  rw [setOutputWindow, if_pos wired.window]
  exact .of_eq wired rfl

theorem reports_accounts (wired : stream.Wired) (captureStarted : Bool) :
    Accounts ledger stream (ledger, { stream with
      videoCapture := { stream.videoCapture with captureStarted := captureStarted } }) [] :=
  .of_eq ⟨wired.window, wired.registered⟩ rfl

/-- Deleting the module and the pool leaves the scaler and the callback. -/
theorem balanced_delete_lasting (balanced : ledger.Balanced (stream.owned ++ rest)) :
    ((ledger.delete stream.videoCapture.object).delete stream.pool).Balanced
      (stream.frameScaler.toList ++ stream.captureDataCb.toList ++ rest) := by
  have swapped : ledger.Balanced (stream.videoCapture.object :: stream.pool ::
      (stream.frameScaler.toList ++ stream.captureDataCb.toList ++ rest)) :=
    balanced.of_perm (List.Perm.swap _ _ _)
  exact swapped.delete.delete

theorem webrtcCapStreamDestroy_balanced (wired : stream.Wired) (stopped : Bool)
    (balanced : ledger.Balanced (stream.owned ++ rest)) :
    (webrtcCapStreamDestroy ledger stream stopped).Balanced (stream.lostByDestroy ++ rest) := by
  by_cases capturing : stream.capturing
  · have stopping := (webrtcCapStreamStop_accounts wired stopped).balanced rest balanced
    have deleted := balanced_delete_lasting stopping
    by_cases started : stream.videoCapture.captureStarted
    · simpa [webrtcCapStreamDestroy, webrtcCapStreamStop, stopCapturer, lostByDestroy, capturing,
        started] using deleted
    · simpa [webrtcCapStreamDestroy, webrtcCapStreamStop, stopCapturer, lostByDestroy, capturing,
        started] using deleted
  · simpa [webrtcCapStreamDestroy, lostByDestroy, capturing] using
      balanced_delete_lasting balanced

end Streams

variable {system next : CaptureStreams} {lost : List Nat} {position : Nat}
  {stream : CaptureStream}

theorem held_perm (here : system.streams[position]? = some stream) :
    system.held.Perm (stream.owned ++ (system.streams.eraseIdx position).flatMap owned) := by
  obtain ⟨short, rfl⟩ := List.getElem?_eq_some_iff.mp here
  exact (List.getElem_cons_eraseIdx_perm short).symm.flatMap_right owned

theorem replace_held_perm (here : system.streams[position]? = some stream)
    (changed : Ledger × CaptureStream) :
    (system.replace position changed).held.Perm
      (changed.2.owned ++ (system.streams.eraseIdx position).flatMap owned) := by
  obtain ⟨short, -⟩ := List.getElem?_eq_some_iff.mp here
  exact (List.set_perm_cons_eraseIdx short changed.2).flatMap_right owned

theorem Sound.wiredAt (sound : Sound system lost)
    (here : system.streams[position]? = some stream) : stream.Wired :=
  sound.wired stream (List.mem_of_getElem? here)

theorem Sound.balancedAt (sound : Sound system lost)
    (here : system.streams[position]? = some stream) :
    system.ledger.Balanced
      (stream.owned ++ ((system.streams.eraseIdx position).flatMap owned ++ lost)) := by
  rw [← List.append_assoc]
  exact sound.balanced.of_perm ((held_perm here).symm.append_right lost)

theorem Sound.replace (sound : Sound system lost)
    (here : system.streams[position]? = some stream) {changed : Ledger × CaptureStream}
    {dropped : List Nat} (accounts : Accounts system.ledger stream changed dropped) :
    Sound (system.replace position changed) (dropped ++ lost) where
  balanced := by
    refine (accounts.balanced _ (sound.balancedAt here)).of_perm ?_
    refine ((replace_held_perm here changed).append_right _).trans ?_
    rw [List.append_assoc]
    exact (List.perm_append_comm_assoc _ _ _).append_left _
  wired other member := by
    rcases List.mem_or_eq_of_mem_set member with kept | rfl
    · exact sound.wired other kept
    · exact accounts.wired

theorem Sound.destroy (sound : Sound system lost)
    (here : system.streams[position]? = some stream) (stopped : Bool) :
    Sound ⟨webrtcCapStreamDestroy system.ledger stream stopped, system.streams.eraseIdx position⟩
      (stream.lostByDestroy ++ lost) where
  balanced := by
    refine (webrtcCapStreamDestroy_balanced (sound.wiredAt here) stopped
      (sound.balancedAt here)).of_perm ?_
    exact List.perm_append_comm_assoc _ _ _
  wired other member := sound.wired other (List.mem_of_mem_eraseIdx member)

theorem held_append_perm (streams : List CaptureStream) (created : CaptureStream) :
    ((streams ++ [created]).flatMap owned ++ lost).Perm
      (created.owned ++ (streams.flatMap owned ++ lost)) := by
  rw [List.flatMap_append, List.flatMap_singleton, List.append_assoc]
  exact List.perm_append_comm_assoc _ _ _

theorem Sound.create (sound : Sound system lost) (screenSharing created : Bool) :
    Sound (system.webrtcCapFactoryCreateStream screenSharing created)
      (system.lostBy (.create screenSharing created) ++ lost) := by
  have pooled := sound.balanced.allocate
  cases created with
  | false =>
      refine ⟨?_, sound.wired⟩
      cases screenSharing with
      | false => exact pooled.of_perm (List.perm_append_comm_assoc _ _ _)
      | true => exact pooled.allocate.of_perm (List.perm_append_comm_assoc _ _ _)
  | true =>
      refine ⟨?_, fun other member => ?_⟩
      · cases screenSharing with
        | false =>
            exact pooled.allocate.of_perm ((held_append_perm _ _).trans (List.Perm.swap _ _ _))
        | true =>
            -- The stream lists its pool first, which is the oldest of its three objects.
            have scaled := pooled.allocate.allocate
            exact scaled.of_perm ((held_append_perm _ _).trans
              ((List.Perm.swap _ _ _).trans ((List.Perm.swap _ _ _).cons _)))
      · rcases List.mem_append.mp member with old | new
        · exact sound.wired other old
        · obtain rfl := List.mem_singleton.mp new
          exact ⟨rfl, rfl⟩

/-- What a call loses, and nothing else, is neither held nor deleted after it. -/
theorem Sound.kept {call : StreamCall} (sound : Sound system lost)
    (taken : system.step call = some next) : Sound next (system.lostBy call ++ lost) := by
  cases call with
  | create screenSharing created =>
      cases taken
      exact sound.create screenSharing created
  | start position succeeded =>
      obtain ⟨stream, here, rfl⟩ := Option.map_eq_some_iff.mp taken
      have replaced := sound.replace here
        (webrtcCapStreamStart_accounts (sound.wiredAt here) succeeded)
      simpa [lostBy, here] using replaced
  | stop position stopped =>
      obtain ⟨stream, here, rfl⟩ := Option.map_eq_some_iff.mp taken
      exact sound.replace here (webrtcCapStreamStop_accounts (sound.wiredAt here) stopped)
  | destroy position stopped =>
      obtain ⟨stream, here, rfl⟩ := Option.map_eq_some_iff.mp taken
      simpa [lostBy, here] using sound.destroy here stopped
  | setOutputWindow position succeeded =>
      obtain ⟨stream, here, rfl⟩ := Option.map_eq_some_iff.mp taken
      exact sound.replace here (setOutputWindow_accounts (sound.wiredAt here) succeeded)
  | reports position captureStarted =>
      obtain ⟨stream, here, rfl⟩ := Option.map_eq_some_iff.mp taken
      exact sound.replace here (reports_accounts (sound.wiredAt here) captureStarted)

theorem sound_initial : Sound initial [] where
  balanced := Ledger.balanced_opened
  wired _ member := absurd member List.not_mem_nil

/-- The calls after which every object can still be reached. -/
def GivesBack (system : CaptureStreams) : StreamCall → Prop
  | .create _ created => created = true
  | .start position _ => ∀ stream, system.streams[position]? = some stream →
      stream.videoCapture.captureStarted = false → stream.captureDataCb = none
  | .destroy position _ => ∀ stream, system.streams[position]? = some stream →
      stream.frameScaler = none ∧ (stream.captureDataCb = none ∨
        stream.capturing ∧ stream.videoCapture.captureStarted)
  | _ => True

theorem lostByStart_eq_nil_iff : stream.lostByStart = [] ↔
    (stream.videoCapture.captureStarted = false → stream.captureDataCb = none) := by
  cases started : stream.videoCapture.captureStarted <;> simp [lostByStart, started]

theorem lostByDestroy_eq_nil_iff : stream.lostByDestroy = [] ↔
    stream.frameScaler = none ∧ (stream.captureDataCb = none ∨
      stream.capturing ∧ stream.videoCapture.captureStarted) := by
  rw [lostByDestroy, List.append_eq_nil_iff, Option.toList_eq_nil_iff]
  by_cases stops : stream.capturing ∧ stream.videoCapture.captureStarted
  · simp [stops]
  · simp [stops]

theorem lostBy_eq_nil_iff (system : CaptureStreams) (call : StreamCall) :
    system.lostBy call = [] ↔ system.GivesBack call := by
  cases call with
  | create screenSharing created =>
      cases created <;> cases screenSharing <;> simp [lostBy, GivesBack]
  | start position succeeded =>
      cases here : system.streams[position]? with
      | none => simp [lostBy, GivesBack, here]
      | some stream => simp [lostBy, GivesBack, here, lostByStart_eq_nil_iff]
  | destroy position stopped =>
      cases here : system.streams[position]? with
      | none => simp [lostBy, GivesBack, here]
      | some stream => simp [lostBy, GivesBack, here, lostByDestroy_eq_nil_iff]
  | stop position stopped => simp [lostBy, GivesBack]
  | setOutputWindow position succeeded => simp [lostBy, GivesBack]
  | reports position captureStarted => simp [lostBy, GivesBack]

/-- What a run loses stays lost, so it has lost nothing just when no call of it did. -/
theorem Sound.reached {system final : CaptureStreams} {lost : List Nat}
    {calls : List StreamCall} (sound : Sound system lost)
    (executed : execute step system calls = some final) :
    ∃ dropped, Sound final (dropped ++ lost) ∧
      (dropped = [] ↔ Guarded step GivesBack system calls) := by
  induction calls generalizing system lost with
  | nil =>
      cases executed
      exact ⟨[], sound, by simp [Guarded]⟩
  | cons call rest ih =>
      obtain ⟨next, taken, finished⟩ := execute_cons_eq_some.mp executed
      obtain ⟨dropped, reached, nothing⟩ := ih (sound.kept taken) finished
      refine ⟨dropped ++ system.lostBy call, ?_, ?_⟩
      · rwa [List.append_assoc]
      · rw [guarded_cons_of_some taken, ← lostBy_eq_nil_iff, ← nothing,
          List.append_eq_nil_iff, and_comm]

/-- At the end of a run every object is held by a stream or deleted, if and only if each call
of the run gave back what it replaced. -/
theorem nothing_lost_iff {calls : List StreamCall} {final : CaptureStreams}
    (executed : execute step initial calls = some final) :
    final.ledger.Balanced final.held ↔ Guarded step GivesBack initial calls := by
  obtain ⟨dropped, sound, nothing⟩ := sound_initial.reached executed
  rw [List.append_nil] at sound
  rw [← nothing]
  constructor
  · intro balanced
    have all := sound.balanced.length
    have owned := balanced.length
    rw [List.length_append] at all
    exact List.eq_nil_of_length_eq_zero (by omega)
  · rintro rfl
    simpa using sound.balanced

/-- A camera is started, stopped and started again, and destroyed while it captures. -/
def captureTwice : List StreamCall :=
  [.create false true, .start 0 true, .stop 0 true, .start 0 true, .destroy 0 true]

theorem nothing_lost_iff_captureTwice : Guarded step GivesBack initial captureTwice := by
  have executed : execute step initial captureTwice = some ⟨⟨4, [0, 1, 3, 2]⟩, []⟩ := rfl
  refine (nothing_lost_iff executed).mp ?_
  unfold Ledger.Balanced
  decide

/-- Once all streams are destroyed, every object was deleted exactly once under the same
condition. -/
theorem destroyed_streams_deletedOnce_iff {calls : List StreamCall} {final : CaptureStreams}
    (executed : execute step initial calls = some final) (destroyed : final.streams = []) :
    final.ledger.DeletedOnce ↔ Guarded step GivesBack initial calls := by
  have nothing : final.held = [] := by rw [held, destroyed, List.flatMap_nil]
  obtain ⟨dropped, sound, lossless⟩ := sound_initial.reached executed
  have balanced := sound.balanced
  rw [nothing, List.append_nil, List.nil_append] at balanced
  rw [← lossless]
  constructor
  · intro once
    have counted := balanced.length
    have all := once.allocated_le_length
    exact List.eq_nil_of_length_eq_zero (by omega)
  · rintro rfl
    exact balanced.deletedOnce

/-- The device refuses to start, and its callback outlives the stream. -/
def refusedStart : List StreamCall := [.create false true, .start 0 false, .destroy 0 true]

theorem destroyed_streams_deletedOnce_iff_refusedStart :
    ¬ Guarded step GivesBack initial refusedStart := by
  have executed : execute step initial refusedStart = some ⟨⟨3, [0, 1]⟩, []⟩ := rfl
  rw [← destroyed_streams_deletedOnce_iff executed rfl]
  unfold Ledger.DeletedOnce
  decide

/-- No object is freed twice or while a stream points to it, no two streams share one, and a
module delivers its frames to the callback of its own stream. -/
structure Intact (system : CaptureStreams) : Prop where
  once : system.ledger.deleted.Nodup
  alive : ∀ object ∈ system.held,
    object < system.ledger.allocated ∧ object ∉ system.ledger.deleted
  apart : system.held.Nodup
  registered : ∀ stream ∈ system.streams,
    stream.videoCapture.dataCallback = stream.captureDataCb

theorem Sound.intact (sound : Sound system lost) : Intact system := by
  have distinct := sound.balanced.nodup
  rw [List.append_assoc, List.nodup_append] at distinct
  obtain ⟨apart, others, disjoint⟩ := distinct
  refine ⟨(List.nodup_append.mp others).2.1, fun object member => ⟨?_, fun deleted => ?_⟩, apart,
    fun stream member => (sound.wired stream member).registered⟩
  · exact sound.balanced.lt_allocated (List.mem_append_left lost member)
  · exact disjoint object member object (List.mem_append_right lost deleted) rfl

theorem streams_intact (calls : List StreamCall) :
    Throughout step Intact initial calls := by
  refine throughout_of_preserved (fun system => ∃ lost, Sound system lost) ?_ ?_
    ⟨[], sound_initial⟩
  · rintro system ⟨lost, sound⟩
    exact sound.intact
  · rintro system call next ⟨lost, sound⟩ taken
    exact ⟨_, sound.kept taken⟩

end CaptureStreams

end FiberApp.Capture
