/-! # What the server logs

Operations return what they log as data, oldest first. Each message has a fixed text and a level.
-/

namespace DisplayServer

/-- How much a message matters. -/
inductive LogLevel where
  | warn
  | info
  | debug
deriving DecidableEq, Repr

/-- The name of a level. -/
def LogLevel.name : LogLevel → String
  | warn => "warn"
  | info => "info"
  | debug => "debug"

/-- The messages, each with its fixed wording. -/
inductive LogMessage where
  /-- The server is ready. -/
  | serverInitialized
  /-- A configured format has no known pixel size and is left out. -/
  | formatIgnored
  | clientConnected
  | clientDisconnected
  | capabilityBound
  /-- The descriptor offered for a pool is no regular file. -/
  | descriptorRejected
  | poolCreated
  | poolDestroyed
  | poolResizeFailed
  /-- A read was started while another one was in progress. -/
  | nestedReadRefused
  /-- A read touched memory that the client had taken away. -/
  | faultCaught
  /-- The memory of a buffer could not be read. -/
  | badMapping
  /-- The attached buffer was destroyed before the commit. -/
  | attachedBufferDied
  | surfaceDestroyed
  | windowSurfaceCreated
  | windowSurfaceDestroyed
  | toplevelCreated
  | toplevelDestroyed
  /-- A client acknowledged a serial later than the last one sent. -/
  | unknownAcknowledgement
  /-- A client acknowledged a serial older than one it acknowledged before. -/
  | lateAcknowledgement
  | metadataSubscribed
  | broadcastSubscribed
  /-- A broadcast subscriber stopped listening. -/
  | broadcastUnsubscribed
  /-- The contents of a committed buffer could not be copied. -/
  | snapshotFailed
  | globalCreated
  | clientInitialized
  /-- A pool lost its protocol object and its last buffer. -/
  | poolReleased
  | popupDismissed
  /-- A format cannot be announced on the wire. -/
  | formatNotOnWire
  /-- A global of this interface could not be bound. -/
  | bindFailed (interface : String)
  | surfaceRequestIgnored
  | foreignBufferIgnored
  | bufferFromDeadPool
  | windowSurfaceFailed
  | windowGeometryIgnored
  | acknowledgementFailed
  | toplevelRequestFailed
deriving DecidableEq, Repr

namespace LogMessage

/-- The level of a message. -/
def level : LogMessage → LogLevel
  | serverInitialized => .info
  | formatIgnored | badMapping | unknownAcknowledgement | bindFailed _ | surfaceRequestIgnored
  | foreignBufferIgnored | bufferFromDeadPool | windowSurfaceFailed | windowGeometryIgnored
  | acknowledgementFailed | toplevelRequestFailed => .warn
  | _ => .debug

/-- The text of a message. -/
def text : LogMessage → String
  | serverInitialized => "Server state initialized"
  | formatIgnored => "Ignoring shm format of unknown pixel size"
  | clientConnected => "Client connected"
  | clientDisconnected => "Client disconnected"
  | capabilityBound => "Capability bound"
  | descriptorRejected => "Rejecting shm pool fd that is not a regular file"
  | poolCreated => "Shm pool created"
  | poolDestroyed => "Shm pool destroyed"
  | poolResizeFailed => "SHM pool resize failed"
  | nestedReadRefused => "Refusing nested access to shm pool"
  | faultCaught => "SIGBUS caught on access on shm pool"
  | badMapping => "Client provided a bad shm mapping"
  | attachedBufferDied => "Attached buffer died before commit"
  | surfaceDestroyed => "Surface destroyed"
  | windowSurfaceCreated => "Window surface created"
  | windowSurfaceDestroyed => "Window surface destroyed"
  | toplevelCreated => "Toplevel created"
  | toplevelDestroyed => "Toplevel destroyed"
  | unknownAcknowledgement => "Client acknowledged a configure that was never sent"
  | lateAcknowledgement => "Out of order configure acknowledgement"
  | metadataSubscribed => "Metadata subscriber registered"
  | broadcastSubscribed => "Broadcast subscriber registered"
  | broadcastUnsubscribed => "Broadcast subscriber went away"
  | snapshotFailed => "Could not snapshot committed buffer"
  | globalCreated => "Creating global"
  | clientInitialized => "Client initialized"
  | poolReleased => "Pool released"
  | popupDismissed => "Popups are not supported, dismissing"
  | formatNotOnWire => "Format has no wire representation"
  | bindFailed interface => "Failed to bind " ++ interface
  | surfaceRequestIgnored => "Ignoring failed surface request"
  | foreignBufferIgnored => "Ignoring attach of a buffer not created through wl_shm"
  | bufferFromDeadPool => "Buffer requested from a dead pool"
  | windowSurfaceFailed => "Failed to create xdg_surface"
  | windowGeometryIgnored => "Ignoring window geometry"
  | acknowledgementFailed => "Failed to acknowledge configure"
  | toplevelRequestFailed => "Toplevel request failed"

/-- A message with its level in front. -/
def line (message : LogMessage) : String :=
  message.level.name ++ ": " ++ message.text

end LogMessage

end DisplayServer
