import DisplayServer.Connection
import DisplayServer.Outcome

/-! # The surfaces of a connection

A surface refers to at most two buffers: the one attached since its last commit and the one it
shows. The operations here keep the counts of those references in the buffers, and hand a buffer
back to the client when the last surface that shows it commits something else.
-/

namespace DisplayServer.Connection

def modifySurface (client : Connection) (id : SurfaceId) (change : Surface → Surface) :
    Connection :=
  { client with surfaces := client.surfaces.modify id change }

def modifyBuffer (client : Connection) (id : BufferId) (change : Buffer → Buffer) : Connection :=
  { client with buffers := client.buffers.modify id change }

/-- Creates a surface through a capability of some version. -/
def addSurface (client : Connection) (version : UInt32) : SurfaceId × Connection :=
  let (id, client) := client.draw .surface
  (id, { client with surfaces := client.surfaces.insert id { version } })

/-- Carries out a request that only touches the pending state of a surface. -/
def request (client : Connection) (id : SurfaceId)
    (change : Surface → Except SurfaceError Surface) : Except SurfaceError Connection :=
  match client.surfaces.get? id with
  | none => .error .dead
  | some surface => do
    let surface ← change surface
    return client.modifySurface id fun _ => surface

/-- Gives up the claim of an attachment on its buffer. -/
def withdraw (client : Connection) : Option Attachment → Connection
  | some (.buffer buffer) => client.modifyBuffer buffer Buffer.dropPending
  | some .removed | none => client

/-- Records the claim of an attachment on its buffer. -/
def claim (client : Connection) : Attachment → Connection
  | .buffer buffer => client.modifyBuffer buffer Buffer.addPending
  | .removed => client

/-- Whether a buffer may be attached to a surface: it is live and of the same client. -/
def mayAttach (client : Connection) (surface : SurfaceId) : Attachment → Bool
  | .removed => true
  | .buffer buffer =>
    decide (buffer.connection = surface.connection) && client.buffers.contains buffer

/-- Attaches a buffer, or none, to the pending state of a surface. The attachment that it replaces
gives up its claim. -/
def attach (client : Connection) (id : SurfaceId) (attachment : Attachment) (offset : Point) :
    Except SurfaceError Connection :=
  match client.surfaces.get? id with
  | none => .error .dead
  | some surface =>
    if surface.attachesWithOffset = false ∧ offset ≠ .zero then
      .error (.invalidOffset offset.x offset.y)
    else
      match attachment, client.mayAttach id attachment with
      | .buffer buffer, false => .error (.invalidBuffer buffer)
      | _, _ =>
        .ok (((client.withdraw surface.pending.attachment).claim attachment).modifySurface id
          fun surface => surface.attach attachment offset)

/-- Asks to be told of the next presentation of a surface. The handle is drawn before the surface is
looked up, and stays drawn when there is none. -/
def addCallback (client : Connection) (id : SurfaceId) :
    Except SurfaceError CallbackId × Connection :=
  let (callback, client) := client.draw .callback
  match client.surfaces.get? id with
  | none => (.error .dead, client)
  | some _ => (.ok callback, client.modifySurface id fun surface => surface.addCallback callback)

/-- The buffer that an attachment makes current: none if it has died since. -/
def resolve (client : Connection) : Attachment → Option BufferId
  | .removed => none
  | .buffer buffer => if client.buffers.contains buffer then some buffer else none

/-- A surface stops showing a buffer. When no surface shows it any more, it is handed back. -/
def retire (client : Connection) : Option BufferId → Connection
  | none => client
  | some id =>
    match client.buffers.get? id with
    | none => client
    | some buffer =>
      if buffer.dropCurrent.currentRefs = 0 then
        (client.modifyBuffer id fun buffer => buffer.dropCurrent.release).emit [.bufferReleased id]
      else client.modifyBuffer id Buffer.dropCurrent

/-- A surface starts to show a buffer. -/
def adopt (client : Connection) : Option BufferId → Connection
  | none => client
  | some id => client.modifyBuffer id Buffer.addCurrent

/-- The dimensions of a live buffer, zero for none. -/
def dimensionsOf (client : Connection) (buffer : Option BufferId) : Size :=
  match buffer.bind client.buffers.get? with
  | some buffer => buffer.geometry.dimensions
  | none => .zero

/-- What a commit did. -/
structure Commit where
  client : Connection
  /-- The buffer that the surface newly shows, if it changed to one. -/
  published : Option BufferId := none
  log : List LogMessage := []
deriving Repr

/-- Makes an attachment current on a surface. -/
def commitAttachment (client : Connection) (id : SurfaceId) (surface : Surface)
    (attachment : Attachment) : Commit :=
  let new := client.resolve attachment
  let old := surface.current.buffer
  let withdrawn := client.withdraw (some attachment)
  let swapped := if old = new then withdrawn else (withdrawn.retire old).adopt new
  let content := surface.current.showBuffer new (client.dimensionsOf new)
  { client := swapped.modifySurface id fun surface => surface.promote content
    published := if old = new then none else new
    log := if attachment ≠ .removed ∧ new = none then [.attachedBufferDied] else [] }

/-- Makes the pending state of a surface current. -/
def commit? (client : Connection) (id : SurfaceId) : Option Commit :=
  (client.surfaces.get? id).map fun surface =>
    match surface.pending.attachment with
    | some attachment => client.commitAttachment id surface attachment
    | none => { client := client.modifySurface id fun surface => surface.promote surface.current }

def present? (client : Connection) (id : SurfaceId) (time : UInt32) : Option Connection :=
  (client.surfaces.get? id).map fun surface =>
    (client.modifySurface id Surface.presented).emit
      (surface.callbacks.map fun callback => .frameDone callback time)

/-- All surfaces that show a buffer were presented. -/
def presentAll (client : Connection) (time : UInt32) : Connection :=
  let shown (surface : Surface) : Bool := surface.current.buffer.isSome
  let fired (surface : Surface) : List Event :=
    if shown surface then surface.callbacks.map fun callback => .frameDone callback time else []
  { client with
    surfaces := client.surfaces.mapValues fun _ surface =>
      if shown surface then surface.presented else surface
    events := client.events ++ client.surfaces.values.flatMap fired }

/-- Removes a window surface and its toplevel. -/
def removeWindow (client : Connection) (id : WindowSurfaceId) : Connection :=
  match client.windowSurfaces.get? id with
  | none => client
  | some window =>
    { client with
      windowSurfaces := client.windowSurfaces.erase id
      toplevels := match window.toplevel with
        | some toplevel => client.toplevels.erase toplevel
        | none => client.toplevels }

/-- Destroys a surface along with its window objects. Its claims on buffers are dropped, and nothing
is handed back. The frame callbacks that will never fire are the answer. -/
def destroySurface? (client : Connection) (id : SurfaceId) :
    Option (List CallbackId × Connection) :=
  (client.surfaces.get? id).map fun surface =>
    let client := { client with surfaces := client.surfaces.erase id }
    let client := client.withdraw surface.pending.attachment
    let client := match surface.current.buffer with
      | some buffer => client.modifyBuffer buffer Buffer.dropCurrent
      | none => client
    let client := match surface.windowSurface with
      | some window => client.removeWindow window
      | none => client
    (surface.waitingCallbacks, client)

/-- Whether a surface has a buffer, or is about to get one. -/
def surfaceStatus (client : Connection) (surface : Surface) : SurfaceStatus :=
  match surface.pending.attachment with
  | some (.buffer _) => .hasPendingBuffer
  | some .removed | none =>
    if surface.current.buffer.any client.buffers.contains then .hasCommittedBuffer else .unattached

end DisplayServer.Connection
