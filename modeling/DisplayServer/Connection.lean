import DisplayServer.Capability
import DisplayServer.Event
import DisplayServer.Window

/-! # Connections

A connection owns the objects of one client, in one arena per kind, and the queue of events for that
client. All handles of a connection are drawn from one counter.
-/

namespace DisplayServer

/-- One client and everything it owns. -/
structure Connection where
  /-- The connection that the handles of all these objects name. -/
  id : ConnectionId
  bindings : Arena BindingId Binding := .empty
  pools : Arena PoolId Pool := .empty
  buffers : Arena BufferId Buffer := .empty
  surfaces : Arena SurfaceId Surface := .empty
  windowSurfaces : Arena WindowSurfaceId WindowSurface := .empty
  toplevels : Arena ToplevelId Toplevel := .empty
  /-- The events that nobody took yet, oldest first. -/
  events : List Event := []
  /-- The index to draw next. -/
  nextIndex : UInt32 := 0
deriving Repr

namespace Connection

/-- Draws a handle for a new object. -/
def draw (client : Connection) (kind : ObjectKind) : Handle kind × Connection :=
  (⟨client.id, client.nextIndex⟩, { client with nextIndex := client.nextIndex + 1 })

def emit (client : Connection) (events : List Event) : Connection :=
  { client with events := client.events ++ events }

/-- Binds a capability. A binding of the shared-memory capability is told every supported format. -/
def bind (client : Connection) (kind : CapabilityKind) (version : UInt32)
    (formats : List PixelFormat) : BindingId × Connection :=
  let (id, client) := client.draw .binding
  let client := { client with bindings := client.bindings.insert id { kind, version } }
  match kind with
  | .sharedMemory => (id, client.emit (formats.map (.format id)))
  | .compositor | .windowShell => (id, client)

/-- Forgets a binding; what was created through it stays. -/
def unbind (client : Connection) (id : BindingId) : Connection :=
  { client with bindings := client.bindings.erase id }

end Connection

end DisplayServer
