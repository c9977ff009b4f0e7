import DisplayServer.Frontend.Teardown
import DisplayServer.Text.Hexadecimal
import DisplayServer.Wire.Format
import DisplayServer.Wire.Request

/-! # Requests on shared memory

Pools are created through the shared-memory capability, and buffers through pools. A client is
disconnected for memory that cannot be used and for a buffer that does not fit.
-/

namespace DisplayServer.Turn

open Wire

def createPool (turn : Turn) (host : Host) (id created : ObjectId) (descriptor : Descriptor)
    (size : Int32) : Turn :=
  match (turn.frontend.clients.get? id.client).bind Client.connection with
  | none => turn
  | some connection =>
    let outcome := turn.frontend.server.createPool host connection descriptor size
    let turn := turn.absorb outcome
    match outcome.answer with
    | .ok pool =>
      (turn.modify fun frontend =>
        { frontend with pools := frontend.pools.insert pool {} }).establish created (.pool pool)
    | .error (.invalidSize size) =>
      turn.postError id .invalidStride ("invalid wl_shm_pool size " ++ toString size)
    | .error cause =>
      turn.postError id .invalidDescriptor ("Failed to create pool: " ++ cause.message)

/-- The object of a new buffer, which its pool now counts. -/
def enterBuffer (turn : Turn) (created : ObjectId) (pool : PoolId) (buffer : BufferId) : Turn :=
  ((turn.establish created (.buffer buffer pool)).modify fun frontend =>
    { frontend with buffers := frontend.buffers.insert buffer created }).updatePool pool fun refs =>
      { refs with buffers := refs.buffers + 1 }

/-- Creates a buffer of a known format. -/
def createBuffer (turn : Turn) (id created : ObjectId) (pool : PoolId)
    (geometry : BufferGeometry) : Turn :=
  let outcome := turn.frontend.server.createBuffer pool geometry
  let turn := turn.absorb outcome
  match outcome.answer with
  | .ok buffer => turn.enterBuffer created pool buffer
  | .error (.unsupportedFormat format) =>
    turn.postError id .invalidFormat ("format " ++ format.name ++ " not supported")
  | .error .dead => turn.note .bufferFromDeadPool
  | .error cause => turn.postError id .invalidStride cause.message

def resizePool (turn : Turn) (host : Host) (id : ObjectId) (pool : PoolId) (size : Int32) : Turn :=
  let outcome := turn.frontend.server.resizePool host pool size
  let turn := turn.absorb outcome
  match outcome.answer with
  | .ok () => turn
  | .error cause => turn.postError id .invalidDescriptor cause.message

/-- Carries out a request on a pool. -/
def onPool (turn : Turn) (host : Host) (id created : ObjectId) (pool : PoolId) : Request → Turn
  | .createBuffer offset width height stride number =>
    match formatOf number with
    | .known format =>
      turn.createBuffer id created pool { offset, width, height, stride, format }
    | .foreign name => turn.postError id .invalidFormat ("format " ++ name ++ " not supported")
    | .unknown =>
      turn.postError id .invalidFormat ("unknown format " ++ Text.hex number)
  | .resizePool size => turn.resizePool host id pool size
  | _ => turn

end DisplayServer.Turn
