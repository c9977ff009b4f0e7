import DisplayServer.Server.Pools

/-! # Surfaces on the server

The requests of clients on their surfaces. A commit that makes a surface show another live buffer
publishes that buffer (`Server.publish`), after the state of the surface has changed; whether its
contents can be read makes no difference to the commit.
-/

namespace DisplayServer.Server

def surface? (server : Server) (id : SurfaceId) : Option Surface := do
  (← server.connection? id.connection).surfaces.get? id

/-- Creates a surface through a capability of some version. -/
def createSurface (server : Server) (connection : ConnectionId) (version : UInt32) :
    Outcome Server (Except SurfaceError SurfaceId) :=
  .ofAttempt server [] <|
    server.onConnection connection .dead fun client => .ok (client.addSurface version)

/-- Carries out a request that only touches the pending state of a surface, or its role. -/
def onSurface (server : Server) (id : SurfaceId)
    (change : Surface → Except SurfaceError Surface) :
    Outcome Server (Except SurfaceError Unit) :=
  .ofAttempt server [] <|
    server.onConnection id.connection .dead fun client => do
      return ((), ← client.request id change)

/-- Attaches a buffer, or none. -/
def attach (server : Server) (id : SurfaceId) (attachment : Attachment) (offset : Point) :
    Outcome Server (Except SurfaceError Unit) :=
  .ofAttempt server [] <|
    server.onConnection id.connection .dead fun client => do
      return ((), ← client.attach id attachment offset)

def setOffset (server : Server) (id : SurfaceId) (offset : Point) :
    Outcome Server (Except SurfaceError Unit) :=
  server.onSurface id fun surface => .ok (surface.setOffset offset)

def addDamage (server : Server) (id : SurfaceId) (damage : Damage) :
    Outcome Server (Except SurfaceError Unit) :=
  server.onSurface id fun surface => .ok (surface.addDamage damage)

def setScale (server : Server) (id : SurfaceId) (scale : Int32) :
    Outcome Server (Except SurfaceError Unit) :=
  server.onSurface id fun surface =>
    if scale.toInt < 1 then .error (.invalidScale scale) else .ok (surface.setScale scale)

def setTransform (server : Server) (id : SurfaceId) (transform : Transform) :
    Outcome Server (Except SurfaceError Unit) :=
  server.onSurface id fun surface => .ok (surface.setTransform transform)

def giveRole (server : Server) (id : SurfaceId) (role : Role) :
    Outcome Server (Except SurfaceError Unit) :=
  server.onSurface id fun surface => surface.assumeRole role

/-- Asks to be told of the next presentation of a surface. -/
def frame (server : Server) (id : SurfaceId) : Outcome Server (Except SurfaceError CallbackId) :=
  match server.connection? id.connection with
  | none => .refuse server .dead
  | some client =>
    let (answer, client) := client.addCallback id
    { answer, state := server.putBack client }

/-- The metadata of a live buffer that a surface shows. -/
def metadata? (server : Server) (surface : SurfaceId) (id : BufferId) : Option Metadata := do
  let (buffer, mapping) ← (← server.connection? id.connection).memoryOf? id
  return { surface, buffer := id, geometry := buffer.geometry, file := mapping.file }

/-- Sends a copy of the contents of a buffer to the broadcast subscribers. -/
def publishContents (server : Server) (host : Host) (id : BufferId) : Outcome Server Unit :=
  if server.publisher.wantsContents then
    let read := server.snapshot host id
    match read.answer with
    | .error _ => { answer := (), state := read.state, log := read.log ++ [.snapshotFailed] }
    | .ok snapshot =>
      let sent := read.state.publisher.publishSnapshot snapshot
      { answer := ()
        state := { read.state with publisher := sent.state }
        log := read.log ++ sent.log }
  else { answer := (), state := server }

/-- Publishes a buffer that a surface newly shows. -/
def publish (server : Server) (host : Host) (surface : SurfaceId) (id : BufferId) :
    Outcome Server Unit :=
  match server.metadata? surface id with
  | none => { answer := (), state := server }
  | some metadata =>
    { server with publisher := server.publisher.publishMetadata metadata }.publishContents host id

/-- Makes the pending state of a surface current. -/
def commit (server : Server) (host : Host) (id : SurfaceId) :
    Outcome Server (Except SurfaceError Unit) :=
  match server.connection? id.connection with
  | none => .refuse server .dead
  | some client =>
    match client.commit? id with
    | none => .refuse server .dead
    | some commit =>
      let server := server.putBack commit.client
      match commit.published with
      | none => { answer := .ok (), state := server, log := commit.log }
      | some buffer =>
        let published := server.publish host id buffer
        { answer := .ok (), state := published.state, log := commit.log ++ published.log }

/-- A surface was presented. -/
def present (server : Server) (id : SurfaceId) (time : UInt32) :
    Outcome Server (Except SurfaceError Unit) :=
  .ofAttempt server [] <|
    server.onConnection id.connection .dead fun client =>
      match client.present? id time with
      | none => .error .dead
      | some client => .ok ((), client)

/-- All surfaces that show a buffer were presented. -/
def presentAll (server : Server) (time : UInt32) : Server :=
  { server with connections := server.connections.mapValues fun _ client => client.presentAll time }

/-- Destroys a surface; the answer is the frame callbacks that will never fire. -/
def destroySurface (server : Server) (id : SurfaceId) : Outcome Server (List CallbackId) :=
  match server.connection? id.connection with
  | none => { answer := [], state := server }
  | some client =>
    match client.destroySurface? id with
    | none => { answer := [], state := server }
    | some (callbacks, client) =>
      let server := server.putBack client
      { answer := callbacks
        state := { server with publisher := server.publisher.forget id }
        log := [.surfaceDestroyed] }

end DisplayServer.Server
