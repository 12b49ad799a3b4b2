import FiberApp.CoreAudio.AudioDeviceListener
import FiberApp.CoreAudio.VolumeStats

/-! A volume query through the interfaces the listener holds, and the posted query
that waits for its answer. -/

set_option autoImplicit false

namespace FiberApp.CoreAudio

/-- The reads a query makes; it makes none through an interface pointer that is null. -/
def VolumeReads.through (reads : VolumeReads) (attached : AudioDeviceListener) :
    VolumeReads where
  getSimpleAudioVolume := attached.session.sessionManager && reads.getSimpleAudioVolume
  sessionVolume := reads.sessionVolume
  sessionMute := reads.sessionMute
  systemVolume := attached.speaker.endPointVolume && reads.systemVolume
  systemMute := reads.systemMute
  micVolume := attached.mic.endPointVolume && reads.micVolume
  micMute := reads.micMute

structure VolumeUpdateInfo where
  volStats : VolumeStats
  result : Bool
  deriving DecidableEq

namespace VolumeListener

/-- The dispatcher's part of `MSG_GET_VOLUME_STATS_TIMEOUT`. -/
def handleGetVolumeStats (current : VolumeStats) (reads : VolumeReads)
    (listener : VolumeListener) : VolumeListener × VolumeUpdateInfo :=
  let (listener, volStats, result) := listener.getCurrentVolStats current reads
  (listener, ⟨volStats, result⟩)

/-- `ready` tells whether the dispatcher answers before the timeout; it makes the query
in either case. -/
def postGetCurrentVolStats (ready : Bool) (current : VolumeStats) (reads : VolumeReads)
    (volStats : VolumeStats) (listener : VolumeListener) :
    VolumeListener × VolumeStats × Bool :=
  let (listener, volumeUpdateInfo) := listener.handleGetVolumeStats current reads
  if ready then
    if volumeUpdateInfo.result then (listener, volumeUpdateInfo.volStats, true)
    else (listener, volStats, false)
  else (listener, volStats, false)

end VolumeListener

end FiberApp.CoreAudio
