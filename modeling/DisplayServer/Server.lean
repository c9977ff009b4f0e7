import DisplayServer.Connection.Pools
import DisplayServer.Connection.Windows
import DisplayServer.Publisher

/-! # The server

The server holds the connections of all clients, the supported pixel formats and what is published.
It is the only one to change them: every operation of a client is a function on the server, given
handles. An operation finds the connection that a handle names, works on it, and puts it back
(`Server.onConnection`).
-/

namespace DisplayServer

/-- What a server is started with. -/
structure Config where
  /-- The formats to support beside the two that every server supports. -/
  formats : List PixelFormat := []
  /-- The size suggested to a fresh toplevel. -/
  defaultWindowSize : Size := ⟨800, 600⟩
deriving DecidableEq, Repr

/-- The state of the server. -/
structure Server where
  config : Config
  /-- The supported formats, in the order of advertisement. -/
  formats : List PixelFormat
  /-- The live connections, oldest first. -/
  connections : Arena ConnectionId Connection := .empty
  nextConnection : UInt32 := 0
  publisher : Publisher := {}
deriving Repr

namespace Server

/-- Adds a configured format to the supported ones, with a warning if its pixel size is unknown. A
format that is supported already is skipped. -/
def supportFormat (supported : List PixelFormat) (format : PixelFormat) :
    List PixelFormat × List LogMessage :=
  if format ∈ supported then (supported, [])
  else if format.bytesPerPixel?.isNone then (supported, [.formatIgnored])
  else (supported ++ [format], [])

/-- Adds configured formats to the supported ones, in their order. -/
def supportFormats (supported : List PixelFormat) :
    List PixelFormat → List PixelFormat × List LogMessage
  | [] => (supported, [])
  | format :: rest =>
    let (supported, log) := supportFormat supported format
    let (supported, later) := supportFormats supported rest
    (supported, log ++ later)

def start (config : Config) : Outcome Server Unit :=
  let (formats, log) := supportFormats [.argb8888, .xrgb8888] config.formats
  { answer := (), state := { config, formats }, log := log ++ [.serverInitialized] }

def connection? (server : Server) (id : ConnectionId) : Option Connection :=
  server.connections.get? id

def isConnected (server : Server) (id : ConnectionId) : Bool :=
  server.connections.contains id

/-- Puts a connection back after work on it. -/
def putBack (server : Server) (client : Connection) : Server :=
  { server with connections := server.connections.modify client.id fun _ => client }

/-- Runs an operation on a live connection and puts the connection back; fails with `dead` if the
connection is gone. -/
def onConnection {α ε : Type} (server : Server) (id : ConnectionId) (dead : ε)
    (operation : Connection → Except ε (α × Connection)) : Except ε (α × Server) :=
  match server.connection? id with
  | none => .error dead
  | some client => do
    let (answer, client) ← operation client
    return (answer, server.putBack client)

/-- Accepts a client. -/
def connect (server : Server) : Outcome Server ConnectionId :=
  let id : ConnectionId := ⟨server.nextConnection⟩
  { answer := id
    state :=
      { server with
        connections := server.connections.insert id { id }
        nextConnection := server.nextConnection + 1 }
    log := [.clientConnected] }

/-- Drops a connection and everything it owns. What its surfaces published is forgotten. -/
def disconnect (server : Server) (id : ConnectionId) : Outcome Server Unit :=
  match server.connection? id with
  | none => { answer := (), state := server }
  | some client =>
    { answer := ()
      state :=
        { server with
          connections := server.connections.erase id
          publisher := client.surfaces.keys.foldl Publisher.forget server.publisher }
      log := [.clientDisconnected] }

/-- Takes the events queued for a connection. -/
def takeEvents (server : Server) (id : ConnectionId) : List Event × Server :=
  match server.connection? id with
  | none => ([], server)
  | some client => (client.events, server.putBack { client with events := [] })

/-- Takes the events queued for all connections, connection by connection. -/
def drainEvents (server : Server) : List (ConnectionId × Event) × Server :=
  (server.connections.entries.flatMap fun entry => entry.2.events.map fun event => (entry.1, event),
    { server with
      connections := server.connections.mapValues fun _ client => { client with events := [] } })

/-- Binds a capability by its name. -/
def bind (server : Server) (connection : ConnectionId) (name : String) (version : UInt32) :
    Outcome Server (Except BindError BindingId) :=
  match Capability.ofName? name with
  | none => .refuse server (.unknownCapability name)
  | some capability =>
    if version = 0 ∨ capability.version < version then
      .refuse server (.unsupportedVersion capability.name version capability.version)
    else
      .ofAttempt server [.capabilityBound] <|
        server.onConnection connection .dead fun client =>
          .ok (client.bind capability.kind version server.formats)

def unbind (server : Server) (id : BindingId) : Server :=
  match server.connection? id.connection with
  | none => server
  | some client => server.putBack (client.unbind id)

def binding? (server : Server) (id : BindingId) : Option Binding := do
  (← server.connection? id.connection).bindings.get? id

def subscribeMetadata (server : Server) : Outcome Server SubscriberId :=
  let (id, publisher) := server.publisher.subscribeMetadata
  { answer := id, state := { server with publisher }, log := [.metadataSubscribed] }

def subscribeBroadcast (server : Server) : Outcome Server SubscriberId :=
  let (id, publisher) := server.publisher.subscribeBroadcast
  { answer := id, state := { server with publisher }, log := [.broadcastSubscribed] }

def unsubscribe (server : Server) (id : SubscriberId) : Server :=
  { server with publisher := server.publisher.unsubscribe id }

def nextMetadata (server : Server) (id : SubscriberId) : Option Metadata × Server :=
  let (received, publisher) := server.publisher.nextMetadata id
  (received, { server with publisher })

def nextSnapshot (server : Server) (id : SubscriberId) : Option Snapshot × Server :=
  let (received, publisher) := server.publisher.nextSnapshot id
  (received, { server with publisher })

def receiveMetadata (server : Server) (id : SubscriberId) : List Metadata × Server :=
  let (received, publisher) := server.publisher.receiveMetadata id
  (received, { server with publisher })

def receiveBroadcast (server : Server) (id : SubscriberId) : List Snapshot × Server :=
  let (received, publisher) := server.publisher.receiveBroadcast id
  (received, { server with publisher })

end Server

def BindError.message : BindError → String
  | unknownCapability name => "unknown capability `" ++ name ++ "`"
  | unsupportedVersion name requested max =>
    "`" ++ name ++ "` requested in version " ++ toString requested ++
      ", supported versions are 1 to " ++ toString max
  | dead => deadText

end DisplayServer
