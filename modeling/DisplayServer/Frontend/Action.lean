import DisplayServer.Frontend.Globals
import DisplayServer.Frontend.Pools
import DisplayServer.Frontend.Surfaces
import DisplayServer.Frontend.Windows

/-! # What happens to the frontend

Everything that happens to the frontend is an `Action`. Most come over the wire from the clients;
the owner of the frontend has two of its own. `Frontend.step` takes a turn for one: it carries the
action out, clears away the clients that are not served any more, and disconnects them from the
server. Clients are cleared away only when something is heard on the wire. Those that an action of
the owner drops keep their seats and their objects until then, and by then the server has forgotten
them, so there is nothing left that their objects could let go of.

A request is checked before anything is done: a message must be able to carry it, the object must be
alive, its version must have the request, and the objects among the arguments must be alive and of
the right interface (`Frontend.check`). The object that a request creates is there before the
request is carried out, and gets its meaning from it.
-/

namespace DisplayServer

open Wire

/-- Something that happens to the frontend. -/
inductive Action where
  /-- A client connects; the frontend may have accepted it itself, or not. -/
  | connect (isManaged : Bool)
  | close (client : ClientId)
  | bindGlobal (client : ClientId) (name : String) (version : UInt32)
  /-- A client makes a request of one of its objects. -/
  | request (client : ClientId) (object : ObjectIndex) (name : String) (arguments : List Argument)
  /-- The owner presented all surfaces. -/
  | present (time : UInt32)
  /-- The owner has the events delivered that wait on the server. -/
  | flush
deriving Repr

namespace Action

/-- The client that an action comes from; a client that connects is not there yet. -/
def client? : Action → Option ClientId
  | close client | bindGlobal client _ _ | request client _ _ _ => some client
  | connect _ | present _ | flush => none

end Action

namespace Frontend

/-- Whether an action comes to nothing, as it comes from a client that is not served. -/
def ignores (frontend : Frontend) (action : Action) : Bool :=
  action.client?.any fun client => !frontend.isConnected client

/-- Whether an action is heard on the wire. A client that is not served any more is heard, though
ignored, until it is cleared away. -/
def hears (frontend : Frontend) : Action → Bool
  | .connect _ => true
  | .close client | .bindGlobal client _ _ | .request client _ _ _ =>
    frontend.clients.contains client
  | .present _ | .flush => false

/-- Whether an argument may stand where a request expects one of some kind. -/
def accepts (frontend : Frontend) (client : ClientId) : ArgumentKind → Argument → Bool
  | .object interface, .object index | .objectOrNone interface, .object index =>
    (frontend.object? ⟨client, index⟩).any fun object =>
      object.isAlive && decide (object.resource.interface = interface)
  | .objectOrNone _, .none => true
  | .integer, .integer _ | .word, .word _ | .text, .text _ | .descriptor, .descriptor _ => true
  | .newObject _, .newObject => true
  | _, _ => false

/-- Checks a request of a live object, and finds its signature. -/
def check (frontend : Frontend) (client : ClientId) (object : ProtocolObject) (name : String)
    (arguments : List Argument) : Except Violation Signature :=
  match object.resource.interface.signature? name with
  | none => .error .invalidRequest
  | some signature =>
    if object.version < signature.since then .error .invalidRequest
    else if signature.arguments.length = arguments.length ∧
        (signature.arguments.zip arguments).all (fun pair => frontend.accepts client pair.1 pair.2)
    then .ok signature
    else .error .invalidObject

end Frontend

namespace Turn

/-- A client connects. A client that the frontend accepts itself gets a connection to the server.
All globals are advertised to it. -/
def connect (turn : Turn) (isManaged : Bool) : Turn :=
  let id := turn.frontend.nextClient
  let enter (turn : Turn) (connection : Option ConnectionId) : Turn :=
    turn.modify fun frontend =>
      { frontend with
        clients := frontend.clients.insert id { connection, seat := frontend.freeSeat }
        nextClient := id + 1 }
  let turn :=
    if isManaged then
      let outcome := turn.frontend.server.connect
      (enter (turn.absorb outcome) (some outcome.answer)).note .clientInitialized
    else enter turn none
  Capability.advertised.foldl
    (fun turn capability => turn.say id .registry (.global capability.name capability.version)) turn

/-- Carries out a checked request of an object. `created` is the object that the request creates, if
it creates one. -/
def carryOut (turn : Turn) (host : Host) (id created : ObjectId) (object : ProtocolObject)
    (request : Request) : Turn :=
  match object.resource, request with
  | .compositor, .createSurface => turn.createSurface id created object.version
  | .compositor, .createRegion => turn.establish created .region
  | .sharedMemory, .createPool descriptor size => turn.createPool host id created descriptor size
  | .windowShell, .createPositioner => turn.establish created .positioner
  | .windowShell, .getWindowSurface surface => turn.createWindowSurface id created surface
  | .surface surface, request => turn.onSurface host id created surface request
  | .pool pool, request => turn.onPool host id created pool request
  | .windowSurface windowSurface shell, request =>
    turn.onWindowSurface id created windowSurface shell request
  | .toplevel toplevel, request => turn.onToplevel toplevel request
  | _, _ => turn

/-- A client makes a request of a live object. -/
def requestLive (turn : Turn) (host : Host) (id : ObjectId) (next : ObjectIndex)
    (object : ProtocolObject) (name : String) (arguments : List Argument) : Turn :=
  match turn.frontend.check id.client object name arguments with
  | .error violation => turn.violate id.client violation
  | .ok signature =>
    let turn :=
      match signature.created? with
      | some interface =>
        turn.addObject id.client { resource := .inert interface, version := object.version }
      | none => turn
    let turn := turn.carryOut host id ⟨id.client, next⟩ object
      (.ofArguments object.resource.interface name arguments)
    if signature.isDestructor then turn.destroy id else turn

/-- A client makes a request of an object. A client that uses a dead object, or whose request no
message can carry, is dropped without a word. -/
def request (turn : Turn) (host : Host) (id : ObjectId) (name : String)
    (arguments : List Argument) : Turn :=
  match turn.frontend.clients.get? id.client with
  | none => turn
  | some client =>
    match client.objects[id.index]? with
    | none => turn
    | some object =>
      if object.isAlive ∧ Argument.fitMessage arguments then
        turn.requestLive host id client.objects.length object name arguments
      else turn.drop id.client

def act (turn : Turn) (host : Host) : Action → Turn
  | .connect isManaged => turn.connect isManaged
  | .close client => turn.drop client
  | .bindGlobal client name version => turn.bindGlobal client name version
  | .request client object name arguments => turn.request host ⟨client, object⟩ name arguments
  | .present time => turn.present time
  | .flush => turn.flush

end Turn

namespace Frontend

def step (frontend : Frontend) (host : Host) (action : Action) : Turn :=
  let turn : Turn := { frontend }
  let turn := if frontend.ignores action then turn else turn.act host action
  (if frontend.hears action then turn.clearDropped else turn).reap

/-- The states that a frontend started with some configuration can get into. -/
inductive Reachable (config : Config) : Frontend → Prop where
  /-- A fresh frontend. -/
  | start : Reachable config (Frontend.start config).state
  /-- One more action, in any surroundings. -/
  | step {frontend : Frontend} (host : Host) (action : Action) :
      Reachable config frontend → Reachable config (frontend.step host action).frontend

end Frontend

end DisplayServer
