import DisplayServer.Frontend.Turn

/-! # Teardown

Destroying an object lets go of what it stands for (`Turn.release`), whoever destroys it: its
client, by a request, or the frontend, when it clears away a client that is not served any more
(`Turn.clearAway`). What a client leaves behind on the server goes with its connection
(`Turn.reap`); an object that is destroyed after that has nothing to let go of.
-/

namespace DisplayServer.Turn

open Wire

/-- The object of a capability is gone: so is its binding. -/
def unbind (turn : Turn) (id : ObjectId) : Turn :=
  match turn.frontend.bindings.get? id with
  | none => turn
  | some binding =>
    turn.modify fun frontend =>
      { frontend with
        bindings := frontend.bindings.erase id
        formatListeners := frontend.formatListeners.erase binding
        server := frontend.server.unbind binding }

/-- Changes what keeps a pool. A pool that nothing keeps is destroyed. -/
def updatePool (turn : Turn) (pool : PoolId) (change : PoolRefs → PoolRefs) : Turn :=
  match turn.frontend.pools.get? pool with
  | none => turn
  | some refs =>
    let refs := change refs
    if refs.hasObject = false ∧ refs.buffers = 0 then
      let turn := turn.modify fun frontend => { frontend with pools := frontend.pools.erase pool }
      (turn.absorb (turn.frontend.server.destroyPool pool)).note .poolReleased
    else turn.modify fun frontend => { frontend with pools := frontend.pools.insert pool refs }

/-- The object of a pool is gone; the pool stays as long as it has buffers. -/
def releasePool (turn : Turn) (pool : PoolId) : Turn :=
  turn.updatePool pool fun refs => { refs with hasObject := false }

/-- The object of a buffer is gone, and so is the buffer. -/
def releaseBuffer (turn : Turn) (buffer : BufferId) (pool : PoolId) : Turn :=
  (turn.modify fun frontend =>
    { frontend with
      buffers := frontend.buffers.erase buffer
      server := frontend.server.destroyBuffer buffer }).updatePool pool fun refs =>
        { refs with buffers := refs.buffers - 1 }

/-- The object of a surface is gone, and so is the surface. Its callbacks will not fire. -/
def releaseSurface (turn : Turn) (surface : SurfaceId) : Turn :=
  let outcome := turn.frontend.server.destroySurface surface
  (turn.absorb outcome).modify fun frontend =>
    { frontend with callbacks := outcome.answer.foldl Arena.erase frontend.callbacks }

/-- The object of a toplevel is gone, and so is the toplevel. -/
def releaseToplevel (turn : Turn) (toplevel : ToplevelId) : Turn :=
  let turn := turn.modify fun frontend =>
    { frontend with toplevels := frontend.toplevels.erase toplevel }
  turn.absorb (turn.frontend.server.destroyToplevel toplevel)

/-- Lets go of what an object stood for. -/
def release (turn : Turn) (id : ObjectId) : Resource → Turn
  | .compositor | .sharedMemory | .windowShell => turn.unbind id
  | .surface surface => turn.releaseSurface surface
  | .pool pool => turn.releasePool pool
  | .buffer buffer pool => turn.releaseBuffer buffer pool
  | .windowSurface windowSurface _ =>
    turn.absorb (turn.frontend.server.destroyWindowSurface windowSurface)
  | .toplevel toplevel => turn.releaseToplevel toplevel
  | .region | .callback | .positioner | .popup | .inert _ => turn

/-- Destroys an object, unless it is dead already. -/
def destroy (turn : Turn) (id : ObjectId) : Turn :=
  match turn.frontend.object? id with
  | none => turn
  | some object =>
    if object.isAlive then (turn.expire id).release id object.resource else turn

/-- Destroys all objects of a client, oldest first, and forgets the client. -/
def clearAway (turn : Turn) (id : ClientId) : Turn :=
  match turn.frontend.clients.get? id with
  | none => turn
  | some client =>
    ((List.range client.objects.length).foldl (fun turn index => turn.destroy ⟨id, index⟩) turn)
      |>.modify fun frontend => { frontend with clients := frontend.clients.erase id }

/-- Clears away the clients that are not served any more, seat by seat. -/
def clearDropped (turn : Turn) : Turn :=
  let dropped := turn.frontend.clients.entries.filter fun entry => !entry.2.isConnected
  (dropped.mergeSort fun first second => decide (first.2.seat ≤ second.2.seat)).foldl
    (fun turn entry => turn.clearAway entry.1) turn

/-- Disconnects the departed from the server and drops all entries that speak of them. -/
def reap (turn : Turn) : Turn :=
  let departed := turn.frontend.departed
  let turn := departed.foldl
    (fun turn connection => turn.absorb (turn.frontend.server.disconnect connection)) turn
  turn.modify fun frontend => { departed.foldl Frontend.purge frontend with departed := [] }

end DisplayServer.Turn
