import DisplayServer.Arena

/-! # Handles

Clients never hold objects, they hold handles: the connection an object belongs to, and an index
that the connection drew for it. A handle whose object is gone stops resolving. All kinds of objects
of a connection draw from one counter, so two live objects of a connection never share an index.
-/

namespace DisplayServer

/-- A client connection, numbered by the server in the order of arrival. -/
structure ConnectionId where
  /-- The number of the connection. -/
  number : UInt32
deriving DecidableEq, Repr

namespace ConnectionId

/-- The text of a connection. -/
def text (id : ConnectionId) : String := "connection#" ++ toString id.number

end ConnectionId

/-- The kinds of objects that a connection owns. -/
inductive ObjectKind where
  /-- A capability bound by the client. -/
  | binding
  /-- A shared-memory pool. -/
  | pool
  /-- A buffer carved out of a pool. -/
  | buffer
  /-- A surface. -/
  | surface
  /-- The window object of a surface. -/
  | windowSurface
  /-- The toplevel of a window surface. -/
  | toplevel
  /-- A one-shot frame callback. -/
  | callback
deriving DecidableEq, Repr

/-- The word that handles of a kind are written with. -/
def ObjectKind.label : ObjectKind → String
  | binding => "InstanceId"
  | pool => "PoolId"
  | buffer => "BufferId"
  | surface => "SurfaceId"
  | windowSurface => "WindowSurfaceId"
  | toplevel => "ToplevelId"
  | callback => "CallbackId"

/-- A handle to an object of one kind. -/
structure Handle (kind : ObjectKind) where
  /-- The connection that owns the object. -/
  connection : ConnectionId
  /-- The index drawn for the object. -/
  index : UInt32
deriving DecidableEq, Repr

namespace Handle

variable {kind : ObjectKind}

/-- The text of a handle: its kind, its connection and its index. -/
def text (handle : Handle kind) : String :=
  kind.label ++ "@" ++ toString handle.connection.number ++ "#" ++ toString handle.index

/-- The order of handles: by connection, then by index. -/
def le (first second : Handle kind) : Bool :=
  decide (first.connection.number < second.connection.number) ||
    (decide (first.connection = second.connection) && decide (first.index ≤ second.index))

end Handle

/-- A handle to a bound capability. -/
abbrev BindingId := Handle .binding
/-- A handle to a shared-memory pool. -/
abbrev PoolId := Handle .pool
/-- A handle to a buffer. -/
abbrev BufferId := Handle .buffer
/-- A handle to a surface. -/
abbrev SurfaceId := Handle .surface
/-- A handle to a window surface. -/
abbrev WindowSurfaceId := Handle .windowSurface
/-- A handle to a toplevel. -/
abbrev ToplevelId := Handle .toplevel
/-- A handle to a frame callback. -/
abbrev CallbackId := Handle .callback

end DisplayServer
