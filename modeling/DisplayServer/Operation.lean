import DisplayServer.Server.Windows

/-! # Operations

Everything that can be done to a server is an `Operation`. `Server.step` carries one out and
`Server.run` a sequence of them, each in the surroundings that it finds: between two operations the
clients may change the files behind their memory as they like. A state is `Server.Reachable` if some
run from a fresh server leads to it.
-/

namespace DisplayServer

/-- Something that can be done to a server. -/
inductive Operation where
  | connect
  | disconnect (connection : ConnectionId)
  | takeEvents (connection : ConnectionId)
  | drainEvents
  | bind (connection : ConnectionId) (name : String) (version : UInt32)
  | unbind (binding : BindingId)
  | createPool (connection : ConnectionId) (descriptor : Descriptor) (size : Int32)
  | resizePool (pool : PoolId) (size : Int32)
  | createBuffer (pool : PoolId) (geometry : BufferGeometry)
  | destroyPool (pool : PoolId)
  | destroyBuffer (buffer : BufferId)
  | readBuffer (buffer : BufferId)
  | peekBuffer (buffer : BufferId) (positions : List Nat)
  | snapshot (buffer : BufferId)
  | createSurface (connection : ConnectionId) (version : UInt32)
  | attach (surface : SurfaceId) (attachment : Attachment) (offset : Point)
  | setOffset (surface : SurfaceId) (offset : Point)
  | addDamage (surface : SurfaceId) (damage : Damage)
  | setScale (surface : SurfaceId) (scale : Int32)
  | setTransform (surface : SurfaceId) (transform : Transform)
  | frame (surface : SurfaceId)
  | commit (surface : SurfaceId)
  | present (surface : SurfaceId) (time : UInt32)
  | presentAll (time : UInt32)
  | giveRole (surface : SurfaceId) (role : Role)
  | destroySurface (surface : SurfaceId)
  | getWindowSurface (surface : SurfaceId)
  | getToplevel (windowSurface : WindowSurfaceId)
  | sendConfigure (toplevel : ToplevelId) (size : Size)
  | ackConfigure (windowSurface : WindowSurfaceId) (serial : Serial)
  | setWindowGeometry (windowSurface : WindowSurfaceId) (rect : Rectangle)
  | setTitle (toplevel : ToplevelId) (title : String)
  | setAppId (toplevel : ToplevelId) (appId : String)
  | destroyWindowSurface (windowSurface : WindowSurfaceId)
  | destroyToplevel (toplevel : ToplevelId)
  | subscribeMetadata
  | subscribeBroadcast
  | unsubscribe (subscriber : SubscriberId)
  | nextMetadata (subscriber : SubscriberId)
  | nextSnapshot (subscriber : SubscriberId)
  | receiveMetadata (subscriber : SubscriberId)
  | receiveBroadcast (subscriber : SubscriberId)
deriving Repr

/-- Why an operation failed. -/
inductive Failure where
  | bind (cause : BindError)
  | pool (cause : PoolError)
  | read (cause : ReadError)
  | surface (cause : SurfaceError)
  | window (cause : WindowError)
deriving DecidableEq, Repr

def Failure.message : Failure → String
  | bind cause => cause.message
  | pool cause => cause.message
  | read cause => cause.message
  | surface cause => cause.message
  | window cause => cause.message

/-- What an operation answers. -/
inductive Answer where
  | done
  | connection (id : ConnectionId)
  | handle {kind : ObjectKind} (id : Handle kind)
  | serial (serial : Serial)
  | bytes (bytes : Bytes)
  | peeked (bytes : List (Option UInt8))
  | snapshot (snapshot : Snapshot)
  | callbacks (discarded : List CallbackId)
  | events (events : List Event)
  | allEvents (events : List (ConnectionId × Event))
  | subscriber (id : SubscriberId)
  | metadata (received : List Metadata)
  | snapshots (received : List Snapshot)
  | failed (cause : Failure)
deriving Repr

namespace Answer

def ofAttempt {α ε : Type} (failure : ε → Failure) (success : α → Answer) :
    Except ε α → Answer
  | .ok answer => success answer
  | .error cause => failed (failure cause)

end Answer

namespace Server

/-- Carries out an operation. -/
def step (server : Server) (host : Host) : Operation → Outcome Server Answer
  | .connect => server.connect.map .connection
  | .disconnect connection => (server.disconnect connection).map fun _ => .done
  | .takeEvents connection =>
    let (events, state) := server.takeEvents connection
    { answer := .events events, state }
  | .drainEvents =>
    let (events, state) := server.drainEvents
    { answer := .allEvents events, state }
  | .bind connection name version =>
    (server.bind connection name version).map (.ofAttempt .bind .handle)
  | .unbind binding => { answer := .done, state := server.unbind binding }
  | .createPool connection descriptor size =>
    (server.createPool host connection descriptor size).map (.ofAttempt .pool .handle)
  | .resizePool pool size =>
    (server.resizePool host pool size).map (.ofAttempt .pool fun _ => .done)
  | .createBuffer pool geometry =>
    (server.createBuffer pool geometry).map (.ofAttempt .pool .handle)
  | .destroyPool pool => (server.destroyPool pool).map fun _ => .done
  | .destroyBuffer buffer => { answer := .done, state := server.destroyBuffer buffer }
  | .readBuffer buffer => (server.readBuffer host buffer).map (.ofAttempt .read .bytes)
  | .peekBuffer buffer positions =>
    (server.peekBuffer host buffer positions).map (.ofAttempt .read .peeked)
  | .snapshot buffer => (server.snapshot host buffer).map (.ofAttempt .read .snapshot)
  | .createSurface connection version =>
    (server.createSurface connection version).map (.ofAttempt .surface .handle)
  | .attach surface attachment offset =>
    (server.attach surface attachment offset).map (.ofAttempt .surface fun _ => .done)
  | .setOffset surface offset =>
    (server.setOffset surface offset).map (.ofAttempt .surface fun _ => .done)
  | .addDamage surface damage =>
    (server.addDamage surface damage).map (.ofAttempt .surface fun _ => .done)
  | .setScale surface scale =>
    (server.setScale surface scale).map (.ofAttempt .surface fun _ => .done)
  | .setTransform surface transform =>
    (server.setTransform surface transform).map (.ofAttempt .surface fun _ => .done)
  | .frame surface => (server.frame surface).map (.ofAttempt .surface .handle)
  | .commit surface => (server.commit host surface).map (.ofAttempt .surface fun _ => .done)
  | .present surface time => (server.present surface time).map (.ofAttempt .surface fun _ => .done)
  | .presentAll time => { answer := .done, state := server.presentAll time }
  | .giveRole surface role =>
    (server.giveRole surface role).map (.ofAttempt .surface fun _ => .done)
  | .destroySurface surface => (server.destroySurface surface).map .callbacks
  | .getWindowSurface surface =>
    (server.getWindowSurface surface).map (.ofAttempt .window .handle)
  | .getToplevel windowSurface =>
    (server.getToplevel windowSurface).map (.ofAttempt .window .handle)
  | .sendConfigure toplevel size =>
    (server.sendConfigure toplevel size).map (.ofAttempt .window .serial)
  | .ackConfigure windowSurface serial =>
    (server.ackConfigure windowSurface serial).map (.ofAttempt .window fun _ => .done)
  | .setWindowGeometry windowSurface rect =>
    (server.setWindowGeometry windowSurface rect).map (.ofAttempt .window fun _ => .done)
  | .setTitle toplevel title =>
    (server.setTitle toplevel title).map (.ofAttempt .window fun _ => .done)
  | .setAppId toplevel appId =>
    (server.setAppId toplevel appId).map (.ofAttempt .window fun _ => .done)
  | .destroyWindowSurface windowSurface =>
    (server.destroyWindowSurface windowSurface).map fun _ => .done
  | .destroyToplevel toplevel => (server.destroyToplevel toplevel).map fun _ => .done
  | .subscribeMetadata => server.subscribeMetadata.map .subscriber
  | .subscribeBroadcast => server.subscribeBroadcast.map .subscriber
  | .unsubscribe subscriber => { answer := .done, state := server.unsubscribe subscriber }
  | .nextMetadata subscriber =>
    let (received, state) := server.nextMetadata subscriber
    { answer := .metadata received.toList, state }
  | .nextSnapshot subscriber =>
    let (received, state) := server.nextSnapshot subscriber
    { answer := .snapshots received.toList, state }
  | .receiveMetadata subscriber =>
    let (received, state) := server.receiveMetadata subscriber
    { answer := .metadata received, state }
  | .receiveBroadcast subscriber =>
    let (received, state) := server.receiveBroadcast subscriber
    { answer := .snapshots received, state }

/-- The state that an operation leaves behind. -/
def next (server : Server) (host : Host) (operation : Operation) : Server :=
  (server.step host operation).state

/-- The state that a sequence of operations leaves behind. -/
def run (server : Server) (operations : List (Host × Operation)) : Server :=
  operations.foldl (fun server (host, operation) => server.next host operation) server

/-- The states that a server started with some configuration can get into. -/
inductive Reachable (config : Config) : Server → Prop where
  /-- A fresh server. -/
  | start : Reachable config (Server.start config).state
  /-- One more operation, in any surroundings. -/
  | step {server : Server} (host : Host) (operation : Operation) :
      Reachable config server → Reachable config (server.next host operation)

end Server

end DisplayServer
