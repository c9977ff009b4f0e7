import DisplayServer.Server.Windows
import DisplayServer.Wire.Argument
import DisplayServer.Wire.Interface

/-! # The frontend

The frontend puts the server behind a wire. A client creates *objects* on the wire, each with an
interface and a version, and makes requests of them; most objects stand for something on the server,
which is their `Resource`. What the server has to tell a client goes back through the object that is
concerned, so the frontend keeps, for each thing that events speak of, the object to tell
(`formatListeners`, `buffers`, `callbacks`, `toplevels`).

Objects and the things they stand for do not live equally long. A pool stays on the server as long
as its object or an object of one of its buffers does (`PoolRefs`).
-/

namespace DisplayServer

open Wire

/-- The number of a client of the frontend, in the order of arrival. -/
abbrev ClientId := Nat

/-- The name of an object: its client and its place among the objects of that client. -/
structure ObjectId where
  /-- The client that created the object. -/
  client : ClientId
  index : ObjectIndex
deriving DecidableEq, Repr

/-- What an object stands for. -/
inductive Resource where
  | compositor
  | sharedMemory
  | windowShell
  | surface (surface : SurfaceId)
  | region
  | pool (pool : PoolId)
  /-- A buffer, with the pool it was carved out of. -/
  | buffer (buffer : BufferId) (pool : PoolId)
  | callback
  | positioner
  /-- A window surface, with the object through which it was created. -/
  | windowSurface (windowSurface : WindowSurfaceId) (shell : ObjectIndex)
  | toplevel (toplevel : ToplevelId)
  | popup
  /-- Nothing: the request that should have created it did not. -/
  | inert (interface : Interface)
deriving DecidableEq, Repr

namespace Resource

/-- The interface of an object that stands for something. -/
def interface : Resource → Interface
  | compositor => .compositor
  | sharedMemory => .sharedMemory
  | windowShell => .windowShell
  | surface _ => .surface
  | region => .region
  | pool _ => .pool
  | buffer _ _ => .buffer
  | callback => .callback
  | positioner => .positioner
  | windowSurface _ _ => .windowSurface
  | toplevel _ => .toplevel
  | popup => .popup
  | inert interface => interface

/-- The object that a bound capability becomes. -/
def ofCapability : CapabilityKind → Resource
  | .compositor => compositor
  | .sharedMemory => sharedMemory
  | .windowShell => windowShell

end Resource

/-- An object on the wire. -/
structure ProtocolObject where
  resource : Resource
  /-- Its version, that of the object it was created through. -/
  version : UInt32
  /-- Whether it was not destroyed yet. -/
  isAlive : Bool := true
deriving DecidableEq, Repr

/-- A client on the wire. -/
structure Client where
  /-- Its connection to the server; a client that the frontend did not accept itself has none. -/
  connection : Option ConnectionId
  /-- All objects it ever created, oldest first. -/
  objects : List ProtocolObject := []
  /-- Its seat. Those who are cleared away together go in the order of their seats. -/
  seat : Nat
  /-- Whether it is still to be served. A client that is not is about to be cleared away. -/
  isConnected : Bool := true
deriving DecidableEq, Repr

/-- What keeps a pool on the server. -/
structure PoolRefs where
  /-- Whether the object of the pool is alive. -/
  hasObject : Bool := true
  /-- The number of its buffers whose objects are alive. -/
  buffers : Nat := 0
deriving DecidableEq, Repr

/-- The objects through which a toplevel is configured. -/
structure ToplevelObjects where
  toplevel : ObjectId
  windowSurface : ObjectId
deriving DecidableEq, Repr

/-- The server with its clients on the wire. -/
structure Frontend where
  server : Server
  /-- The clients, oldest first. -/
  clients : Arena ClientId Client := .empty
  nextClient : ClientId := 0
  /-- The connections whose clients went away and which the server still holds. -/
  departed : List ConnectionId := []
  /-- The binding behind each object of a capability. -/
  bindings : Arena ObjectId BindingId := .empty
  /-- The object to tell the formats of a binding. -/
  formatListeners : Arena BindingId ObjectId := .empty
  pools : Arena PoolId PoolRefs := .empty
  buffers : Arena BufferId ObjectId := .empty
  /-- The object of each frame callback that may still fire. -/
  callbacks : Arena CallbackId ObjectId := .empty
  toplevels : Arena ToplevelId ToplevelObjects := .empty
deriving Repr

namespace Frontend

/-- Puts a fresh server behind the wire, with one global for each capability. -/
def start (config : Config) : Outcome Frontend Unit :=
  let started := Server.start config
  { answer := ()
    state := { server := started.state }
    log := started.log ++ Capability.advertised.map fun _ => .globalCreated }

/-- An object, dead or alive, of a client that was not cleared away. -/
def object? (frontend : Frontend) (id : ObjectId) : Option ProtocolObject := do
  (← frontend.clients.get? id.client).objects[id.index]?

def isAlive (frontend : Frontend) (id : ObjectId) : Bool :=
  (frontend.object? id).any ProtocolObject.isAlive

def isConnected (frontend : Frontend) (client : ClientId) : Bool :=
  (frontend.clients.get? client).any Client.isConnected

/-- The lowest seat that no client holds. -/
def freeSeat (frontend : Frontend) : Nat :=
  let taken := frontend.clients.values.map Client.seat
  ((List.range taken.length).find? fun seat => !taken.contains seat).getD taken.length

def modifyClient (frontend : Frontend) (client : ClientId) (change : Client → Client) :
    Frontend :=
  { frontend with clients := frontend.clients.modify client change }

def modifyObject (frontend : Frontend) (id : ObjectId)
    (change : ProtocolObject → ProtocolObject) : Frontend :=
  frontend.modifyClient id.client fun client =>
    { client with objects := client.objects.modify id.index change }

/-- Drops every entry that speaks of something of a connection. -/
def purge (frontend : Frontend) (connection : ConnectionId) : Frontend :=
  { frontend with
    bindings := frontend.bindings.filter fun _ binding => decide (binding.connection ≠ connection)
    formatListeners :=
      frontend.formatListeners.filter fun binding _ => decide (binding.connection ≠ connection)
    pools := frontend.pools.filter fun pool _ => decide (pool.connection ≠ connection)
    buffers := frontend.buffers.filter fun buffer _ => decide (buffer.connection ≠ connection)
    callbacks :=
      frontend.callbacks.filter fun callback _ => decide (callback.connection ≠ connection)
    toplevels :=
      frontend.toplevels.filter fun toplevel _ => decide (toplevel.connection ≠ connection) }

end Frontend

end DisplayServer
