import FiberApp.Foundation.Execution
import FiberApp.Render.BjnRenderDev
import FiberApp.Render.BjnRenderDevProperties
import FiberApp.Bandwidth.DuplicatePacketChecker
import FiberApp.Bandwidth.DuplicatePacketCheckerProperties
import FiberApp.Network.WinNetworkMonitor
import FiberApp.Network.WinNetworkMonitorProperties
import FiberApp.Devices.DeviceChanges
import FiberApp.Devices.DeviceChangesProperties
import FiberApp.Devices.AutomaticEntryProperties
import FiberApp.Devices.ReconciliationProperties
import FiberApp.Foundation.TextSearch
import FiberApp.Helpers.BjnHelpers
import FiberApp.Helpers.BjnHelpersProperties
import FiberApp.CoreAudio.AudioDeviceListener
import FiberApp.CoreAudio.AudioDeviceListenerProperties
import FiberApp.CoreAudio.VolumeStats
import FiberApp.CoreAudio.VolumeStatsProperties
import FiberApp.Codec.BaseVideoCodec
import FiberApp.Codec.BaseVideoCodecProperties
import FiberApp.Devices.AudioHardware
import FiberApp.Devices.AudioSelection
import FiberApp.Devices.MicLevelCheckProperties
import FiberApp.Foundation.Generations
import FiberApp.Bandwidth.OverlappedHistogram
import FiberApp.Bandwidth.OverlappedHistogramProperties
import FiberApp.Bandwidth.SharedPtr
import FiberApp.Bandwidth.SharedPtrProperties
import FiberApp.Devices.ScreenSharing
import FiberApp.Devices.ScreenSharingProperties
import FiberApp.Audio.AudioOptions
import FiberApp.Audio.AudioOptionsProperties
import FiberApp.Audio.MicLevelRestore
import FiberApp.Audio.MicLevelRestoreProperties
import FiberApp.Audio.LevelMonitor
import FiberApp.Audio.LevelMonitorProperties
import FiberApp.Render.WindowRouting
import FiberApp.Render.WindowRoutingProperties
import FiberApp.Devices.HardwareId
import FiberApp.Devices.HardwareIdProperties
import FiberApp.CoreAudio.ListenerRegistrationProperties
import FiberApp.CoreAudio.Win32DeviceWatcher
import FiberApp.CoreAudio.Win32DeviceWatcherProperties
import FiberApp.Render.WinBjnRenderBuffer
import FiberApp.Render.DxVideoRenderer
import FiberApp.Render.D3DVideoRenderer
import FiberApp.Render.WinBjnRenderBufferProperties
import FiberApp.Render.D3DVideoRendererProperties
import FiberApp.Render.RenderLockProperties
import FiberApp.Foundation.CircularBuffer
import FiberApp.Helpers.MovingAverage
import FiberApp.Helpers.MovingAverageProperties
import FiberApp.Devices.PreferredDeviceProperties
import FiberApp.Foundation.Repetition
import FiberApp.Devices.ReconciliationPassProperties
import FiberApp.Devices.AutomaticMicProperties
import FiberApp.CoreAudio.ErrorRecoveryProperties
import FiberApp.CoreAudio.VolumeQuery
import FiberApp.CoreAudio.VolumeQueryProperties
import FiberApp.Devices.LabelFrameProperties
import FiberApp.Devices.MatchingDeviceProperties
import FiberApp.Devices.AutomaticLabelProperties
import FiberApp.Devices.HardwareDetails
import FiberApp.Devices.HardwareDetailsProperties
import FiberApp.Foundation.Registrations
import FiberApp.CoreAudio.ListenerPointers
import FiberApp.CoreAudio.ListenerPointersProperties
import FiberApp.CoreAudio.ListenerSimulationProperties
import FiberApp.Capture.SupportedCapabilityProperties
import FiberApp.Capture.FormatTableProperties
import FiberApp.Capture.IncomingFrame
import FiberApp.Capture.IncomingFrameProperties
import FiberApp.Foundation.Preference
import FiberApp.Capture.WebrtcCaptureDev
import FiberApp.Audio.AudioEngine
import FiberApp.Audio.AudioEngineProperties
import FiberApp.Cpu.CpuMonitor
import FiberApp.Cpu.MachineModelProperties
import FiberApp.Cpu.CpuParamsProperties
import FiberApp.Foundation.OrderedMap
import FiberApp.Foundation.TiedSort
import FiberApp.Foundation.StridedCopy
import FiberApp.Render.SurfaceUpload
import FiberApp.Render.SurfaceUploadProperties
import FiberApp.Devices.UsbOnThunderbolt
import FiberApp.Devices.UsbOnThunderboltProperties
import FiberApp.Audio.FaultyDevice
import FiberApp.Audio.FaultyDeviceProperties
import FiberApp.Foundation.SeparatedText
import FiberApp.Calls.CallUri
import FiberApp.Calls.UriText
import FiberApp.Calls.CallUriProperties
import FiberApp.Bandwidth.CircularBuffer
import FiberApp.Bandwidth.CircularBufferProperties
import FiberApp.Bandwidth.RtpUtil
import FiberApp.Bandwidth.RtpUtilProperties
import FiberApp.Bandwidth.RtpStatsUtil
import FiberApp.Bandwidth.WindowedCorrelationProperties
import FiberApp.Bandwidth.WindowedVarianceProperties
import FiberApp.Devices.HardwareIdFormsProperties
import FiberApp.Devices.HardwareIdBoundsProperties
import FiberApp.CoreAudio.DefaultDevices
import FiberApp.CoreAudio.DefaultDevicesProperties
import FiberApp.Audio.StreamStart
import FiberApp.Audio.StreamStartProperties
import FiberApp.Foundation.Ownership
import FiberApp.Render.WinBjnRenderer
import FiberApp.Render.WinBjnRendererProperties
import FiberApp.Render.SizedRenderBuffer
import FiberApp.Render.SizedRenderBufferProperties
import FiberApp.Render.SizedRenderBufferRefinement
import FiberApp.Bandwidth.CheckedAccessProperties
import FiberApp.Foundation.OrderStatistics
import FiberApp.Bandwidth.HistogramQueries
import FiberApp.Bandwidth.HistogramQueriesProperties
import FiberApp.Bandwidth.HistogramBinsProperties
import FiberApp.Helpers.ResizeProperties
import FiberApp.Bandwidth.StateMachine
import FiberApp.Bandwidth.StateMachineProperties
import FiberApp.Devices.HexDeviceId
import FiberApp.Devices.HexDeviceIdProperties
import FiberApp.Foundation.Extremes
import FiberApp.Bandwidth.RunningWindowedAverage
import FiberApp.Bandwidth.RunningExtremesProperties
import FiberApp.Foundation.IntegerType
import FiberApp.Bandwidth.WindowedAverage
import FiberApp.Bandwidth.WindowedAverageProperties
import FiberApp.Foundation.PriorityQueue
import FiberApp.Messaging.MessageQueue
import FiberApp.Messaging.MessageQueueProperties
import FiberApp.Messaging.MessageQueueTimingProperties
import FiberApp.Messaging.ThreadSend
import FiberApp.Messaging.ThreadSendProperties
import FiberApp.Messaging.ThreadProgressProperties
import FiberApp.Foundation.WrappedCopy
import FiberApp.Logging.FifoBuffer
import FiberApp.Logging.FifoBufferProperties
import FiberApp.Logging.BJNLogger
import FiberApp.Logging.BJNLoggerProperties
import FiberApp.Logging.LogMessage
import FiberApp.Foundation.Locks
import FiberApp.Messaging.HandlerPurge
import FiberApp.Messaging.HandlerPurgeProperties
import FiberApp.Sigslot.ConnectionProperties
import FiberApp.Sigslot.EmissionProperties
import FiberApp.Capture.CaptureStream
import FiberApp.Capture.CaptureStreamProperties
import FiberApp.Messaging.SignalThread
import FiberApp.Messaging.SignalThreadProperties
import FiberApp.Encoding.StringEncode
import FiberApp.Encoding.StringEncodeProperties
