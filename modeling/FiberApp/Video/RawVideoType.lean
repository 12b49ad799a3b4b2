/-! `RawVideoType` of WebRTC's `common_types.h`, which capturing and rendering share. -/

set_option autoImplicit false

namespace FiberApp

inductive RawVideoType
  | i420
  | yv12
  | yuy2
  | uyvy
  | iyuv
  | argb
  | rgb24
  | rgb565
  | argb4444
  | argb1555
  | mjpeg
  | nv12
  | nv21
  | bgra
  | unknown
  deriving DecidableEq, Repr

end FiberApp
