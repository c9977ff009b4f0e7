import DisplayServer.Server

/-! # Client memory on the server

Pools and buffers are created, resized and destroyed here, and their contents are read. A read is
guarded. It is refused while another read is in progress, as a fault could not be told from one of
the other; a fault replaces the memory of that pool by zeros; and whatever kept the read from
succeeding is told to the client of the buffer (`Server.withContents`).
-/

namespace DisplayServer

/-- Why the contents of a buffer cannot be read. -/
inductive ReadError where
  | dead
  /-- Its memory is not there. -/
  | badMapping
deriving DecidableEq, Repr

def ReadError.message : ReadError → String
  | dead => "the buffer is no longer alive"
  | badMapping => "the buffer memory could not be read"

namespace Server

/-- Creates a pool over the memory behind a descriptor. -/
def createPool (server : Server) (host : Host) (connection : ConnectionId)
    (descriptor : Descriptor) (size : Int32) : Outcome Server (Except PoolError PoolId) :=
  match server.connection? connection, descriptor with
  | none, _ => .refuse server .dead
  | some _, .special =>
    { answer := .error .invalidDescriptor, state := server, log := [.descriptorRejected] }
  | some client, .regular file mode =>
    if size.toInt ≤ 0 then .refuse server (.invalidSize size)
    else
      match Mapping.establish? host.files file mode size.toInt.toNat with
      | none => .refuse server .mappingFailed
      | some mapping =>
        let (id, client) := client.addPool mapping
        { answer := .ok id, state := server.putBack client, log := [.poolCreated] }

/-- Grows a pool. Its file is mapped afresh; if that fails the pool stays as it was. -/
def resizePool (server : Server) (host : Host) (id : PoolId) (size : Int32) :
    Outcome Server (Except PoolError Unit) :=
  match server.connection? id.connection with
  | none => .refuse server .dead
  | some client =>
    match client.pools.get? id with
    | none => .refuse server .dead
    | some pool =>
      if size.toInt ≤ 0 ∨ size.toInt ≤ pool.length then
        .refuse server (.invalidResize pool.length size)
      else
        match Mapping.establish? host.files pool.mapping.file .readWrite size.toInt.toNat with
        | none =>
          { answer := .error .mappingFailed, state := server, log := [.poolResizeFailed] }
        | some mapping =>
          { answer := .ok (), state := server.putBack (client.setMapping id mapping) }

/-- Carves a buffer out of a pool. -/
def createBuffer (server : Server) (pool : PoolId) (geometry : BufferGeometry) :
    Outcome Server (Except PoolError BufferId) :=
  .ofAttempt server [] <|
    server.onConnection pool.connection .dead fun client =>
      match client.pools.get? pool with
      | none => .error .dead
      | some owner => do
        geometry.check owner.length server.formats
        return client.addBuffer pool geometry

/-- Destroys a pool and its buffers. -/
def destroyPool (server : Server) (id : PoolId) : Outcome Server Unit :=
  match server.connection? id.connection with
  | none => { answer := (), state := server }
  | some client =>
    if client.pools.contains id then
      { answer := (), state := server.putBack (client.destroyPool id), log := [.poolDestroyed] }
    else { answer := (), state := server }

def destroyBuffer (server : Server) (id : BufferId) : Server :=
  match server.connection? id.connection with
  | none => server
  | some client => server.putBack (client.destroyBuffer id)

def pool? (server : Server) (id : PoolId) : Option Pool := do
  (← server.connection? id.connection).pools.get? id

def buffer? (server : Server) (id : BufferId) : Option Buffer := do
  (← server.connection? id.connection).buffers.get? id

/-- A read fails: the client of the buffer is told. -/
def failRead {α : Type} (server : Server) (client : Connection) (buffer : BufferId)
    (log : List LogMessage) : Outcome Server (Except ReadError α) :=
  { answer := .error .badMapping
    state := server.putBack (client.emit [.bufferAccessFailed buffer])
    log := log ++ [.badMapping] }

/-- Reads the contents of a buffer. The reader touches as much of the buffer as `reading` says, and
makes `read` of the contents. -/
def withContents {α : Type} (server : Server) (host : Host) (id : BufferId) (reading : Reading)
    (read : BufferGeometry → Span → α) : Outcome Server (Except ReadError α) :=
  match server.connection? id.connection with
  | none => .refuse server .dead
  | some client =>
    match client.memoryOf? id with
    | none => .refuse server .dead
    | some (buffer, mapping) =>
      let geometry := buffer.geometry
      let start := geometry.offset.toInt.toNat
      if host.isReading then server.failRead client id [.nestedReadRefused]
      else if mapping.length < start + geometry.size then server.failRead client id []
      else if mapping.faults host.files start geometry.size reading then
        server.failRead (client.setMapping buffer.pool mapping.nullify) id [.faultCaught]
      else
        { answer := .ok (read geometry (mapping.span host.files start geometry.size))
          state := server }

/-- All bytes of a buffer. -/
def readBuffer (server : Server) (host : Host) (id : BufferId) :
    Outcome Server (Except ReadError Bytes) :=
  server.withContents host id .whole fun _ contents => contents.bytes

/-- Some bytes of a buffer; there are none past its end. -/
def peekBuffer (server : Server) (host : Host) (id : BufferId) (positions : List Nat) :
    Outcome Server (Except ReadError (List (Option UInt8))) :=
  server.withContents host id (.positions positions) fun _ contents =>
    positions.map contents.get?

/-- A copy of the contents of a buffer. -/
def snapshot (server : Server) (host : Host) (id : BufferId) :
    Outcome Server (Except ReadError Snapshot) :=
  server.withContents host id .whole fun geometry contents =>
    Snapshot.ofContents geometry contents.bytes

/-- Two servers, the second of which is read from inside a read on the first. -/
structure NestedRead where
  /-- What the outer read answered: its bytes, and what the inner read answered meanwhile. -/
  answer : Except ReadError (Bytes × Except ReadError Bytes)
  outer : Server
  inner : Server
  log : List LogMessage
deriving Repr

/-- Reads a buffer, and from inside that read a buffer of another server. The inner read happens as
soon as the outer one has begun, whatever becomes of that one. -/
def readNested (outer inner : Server) (host : Host) (outerId innerId : BufferId) : NestedRead :=
  let whole := outer.readBuffer host outerId
  match whole.answer with
  | .error .dead => { answer := .error .dead, outer := whole.state, inner, log := whole.log }
  | result =>
    if host.isReading then
      { answer := .error .badMapping, outer := whole.state, inner, log := whole.log }
    else
      let nested := inner.readBuffer { host with isReading := true } innerId
      { answer := result.map fun bytes => (bytes, nested.answer)
        outer := whole.state
        inner := nested.state
        log := nested.log ++ whole.log }

end Server

end DisplayServer
