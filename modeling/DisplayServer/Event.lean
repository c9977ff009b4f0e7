import DisplayServer.Geometry
import DisplayServer.Handle
import DisplayServer.PixelFormat
import DisplayServer.Serial

/-! # Events

An event is what the server has to tell a client. Events are queued per connection, in the order in
which they arise, until somebody takes them.
-/

namespace DisplayServer

/-- Something to tell a client. -/
inductive Event where
  /-- A format is supported, said to a fresh binding of the shared-memory capability. -/
  | format (binding : BindingId) (format : PixelFormat)
  /-- The server no longer reads from a buffer. -/
  | bufferReleased (buffer : BufferId)
  /-- A toplevel is asked to take a size, to be acknowledged with a serial. -/
  | configure (windowSurface : WindowSurfaceId) (toplevel : ToplevelId) (size : Size)
      (serial : Serial)
  | frameDone (callback : CallbackId) (time : UInt32)
  /-- The contents of a buffer could not be read. -/
  | bufferAccessFailed (buffer : BufferId)
deriving DecidableEq, Repr

end DisplayServer
