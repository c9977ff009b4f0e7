import DisplayServer.Frontend
import DisplayServer.Wire.Message

/-! # Turns

A turn is the frontend at work on one thing that happened. Besides the frontend itself it gathers
what is said to the clients, what the owner of the frontend is told, and what is logged, each oldest
first.

Nothing reaches a client that is no longer served, or through an object that is dead. A client that
does something wrong is told so, once, and is not served from then on (`Turn.postError`,
`Turn.violate`). Its connection departs with the end of the turn.
-/

namespace DisplayServer

open Wire

/-- What a message to a client comes from. -/
inductive Source where
  /-- The display, which is there for every client. -/
  | display
  /-- The registry of globals. -/
  | registry
  | object (index : ObjectIndex)
deriving DecidableEq, Repr

/-- A message on its way to a client. -/
structure Delivery where
  client : ClientId
  /-- What the message comes from. -/
  source : Source
  message : Message
deriving DecidableEq, Repr

/-- Something that the owner of the frontend is told. -/
inductive Notice where
  | commit (surface : SurfaceId)
  | newToplevel (toplevel : ToplevelId)
deriving DecidableEq, Repr

/-- The frontend at work. -/
structure Turn where
  /-- The frontend as it is by now. -/
  frontend : Frontend
  /-- What was said to the clients, oldest first. -/
  sent : List Delivery := []
  /-- What the owner of the frontend was told, oldest first. -/
  notices : List Notice := []
  log : List LogMessage := []
  /-- The place of the object that was created, if there is one. -/
  created : Option ObjectIndex := none
deriving Repr

namespace Turn

def modify (turn : Turn) (change : Frontend → Frontend) : Turn :=
  { turn with frontend := change turn.frontend }

def note (turn : Turn) (message : LogMessage) : Turn :=
  { turn with log := turn.log ++ [message] }

/-- Tells the owner of the frontend something. -/
def notify (turn : Turn) (notice : Notice) : Turn :=
  { turn with notices := turn.notices ++ [notice] }

/-- Takes over the state and the log of something that the server did. -/
def absorb {α : Type} (turn : Turn) (outcome : Outcome Server α) : Turn :=
  { turn with
    frontend := { turn.frontend with server := outcome.state }
    log := turn.log ++ outcome.log }

/-- Says something to a client that is served. -/
def say (turn : Turn) (client : ClientId) (source : Source) (message : Message) : Turn :=
  if turn.frontend.isConnected client then
    { turn with sent := turn.sent ++ [{ client, source, message }] }
  else turn

/-- Says something to a client through a live object. -/
def send (turn : Turn) (id : ObjectId) (message : Message) : Turn :=
  if turn.frontend.isAlive id then turn.say id.client (.object id.index) message else turn

/-- Stops serving a client. Its connection departs. -/
def drop (turn : Turn) (id : ClientId) : Turn :=
  match turn.frontend.clients.get? id with
  | none => turn
  | some client =>
    let turn := turn.modify fun frontend =>
      frontend.modifyClient id fun client => { client with isConnected := false }
    match client.connection with
    | none => turn
    | some connection =>
      (turn.modify fun frontend =>
        { frontend with departed := frontend.departed ++ [connection] }).note .clientDisconnected

/-- An object did something wrong. -/
def postError (turn : Turn) (id : ObjectId) (code : ErrorCode) (text : String) : Turn :=
  (turn.send id (.error code text)).drop id.client

/-- A client broke the rules of the wire. -/
def violate (turn : Turn) (client : ClientId) (violation : Violation) : Turn :=
  (turn.say client .display (.violation violation)).drop client

/-- Adds an object to a client. -/
def addObject (turn : Turn) (client : ClientId) (object : ProtocolObject) : Turn :=
  { turn with
    frontend := turn.frontend.modifyClient client fun client =>
      { client with objects := client.objects ++ [object] }
    created := (turn.frontend.clients.get? client).map fun client => client.objects.length }

/-- Settles what an object stands for. -/
def establish (turn : Turn) (id : ObjectId) (resource : Resource) : Turn :=
  turn.modify fun frontend => frontend.modifyObject id fun object => { object with resource }

/-- An object ceases to be alive. -/
def expire (turn : Turn) (id : ObjectId) : Turn :=
  turn.modify fun frontend =>
    frontend.modifyObject id fun object => { object with isAlive := false }

end Turn

end DisplayServer
