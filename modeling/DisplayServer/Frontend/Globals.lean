import DisplayServer.Frontend.Delivery

/-! # Globals

Each capability of the server is a global, which a client binds as an object. A client that the
frontend did not accept itself gets the object and, with it, an error.
-/

namespace DisplayServer.Turn

open Wire

/-- The binding behind a fresh object of a capability. A binding of the shared-memory capability is
told the formats right away. -/
def bound (turn : Turn) (id : ObjectId) (kind : CapabilityKind) (binding : BindingId) : Turn :=
  let turn := turn.modify fun frontend =>
    { frontend with bindings := frontend.bindings.insert id binding }
  match kind with
  | .sharedMemory =>
    (turn.modify fun frontend =>
      { frontend with formatListeners := frontend.formatListeners.insert binding id }).flush
  | .compositor | .windowShell => turn

/-- Binds a capability on the server for a fresh object. -/
def bindCapability (turn : Turn) (id : ObjectId) (capability : Capability) (version : UInt32)
    (connection : Option ConnectionId) : Turn :=
  match connection with
  | none => turn.postError id .unmanagedClient "client is not managed by this server"
  | some connection =>
    let outcome := turn.frontend.server.bind connection capability.name version
    let turn := turn.absorb outcome
    match outcome.answer with
    | .ok binding => turn.bound id capability.kind binding
    | .error _ => turn.note (.bindFailed capability.name)

/-- A client binds a global. It must be advertised, and in that version. -/
def bindGlobal (turn : Turn) (client : ClientId) (name : String) (version : UInt32) : Turn :=
  match turn.frontend.clients.get? client with
  | none => turn
  | some state =>
    match Capability.ofName? name with
    | none => turn.violate client .invalidObject
    | some capability =>
      if version = 0 ∨ capability.version < version then turn.violate client .invalidObject
      else
        (turn.addObject client
          { resource := .ofCapability capability.kind, version }).bindCapability
            ⟨client, state.objects.length⟩ capability version state.connection

end DisplayServer.Turn
