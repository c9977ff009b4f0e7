import DisplayServer.Geometry
import DisplayServer.Handle
import DisplayServer.Memory
import DisplayServer.PixelFormat

/-! # Pools and buffers

A pool is client memory, and a buffer is an image in a pool. The geometry of a buffer is checked
once, against the pool it is carved out of (`BufferGeometry.check`), and never changes; pools only
grow, so it stays within bounds. A buffer counts the surfaces that refer to it, which is all its
state (`Buffer.state`) is made of.
-/

namespace DisplayServer

/-- Where and how an image lies in its pool. -/
structure BufferGeometry where
  /-- The position of the first byte. -/
  offset : Int32
  width : Int32
  height : Int32
  /-- The distance of two rows in bytes. -/
  stride : Int32
  format : PixelFormat
deriving DecidableEq, Repr

/-- Why a pool or a buffer is refused. -/
inductive PoolError where
  /-- The descriptor is no regular file. -/
  | invalidDescriptor
  /-- A pool has at least one byte. -/
  | invalidSize (size : Int32)
  /-- A pool only grows. -/
  | invalidResize (current : Nat) (requested : Int32)
  /-- The memory could not be mapped. -/
  | mappingFailed
  /-- The buffer starts outside of the pool. -/
  | invalidOffset (offset : Int32)
  /-- A buffer has at least one pixel. -/
  | invalidDimensions (width height : Int32)
  /-- A row of pixels does not fit into the stride. -/
  | invalidStride (stride width : Int32) (format : PixelFormat)
  /-- The buffer ends outside of the pool. -/
  | outOfBounds (offset : Int32) (size : Int) (poolLength : Nat)
  /-- The server does not support the format. -/
  | unsupportedFormat (format : PixelFormat)
  /-- The connection, pool or buffer is gone. -/
  | dead
deriving DecidableEq, Repr

/-- What is said of an object that is gone. -/
def deadText : String := "This resource has been destroyed and can no longer be used."

def PoolError.message : PoolError → String
  | invalidDescriptor => "file descriptor cannot back a shm pool"
  | invalidSize size => "invalid pool size " ++ toString size
  | invalidResize current requested =>
    "pool cannot be resized from " ++ toString current ++ " to " ++ toString requested ++ " bytes"
  | mappingFailed => "failed to map pool memory"
  | invalidOffset offset => "invalid buffer offset " ++ toString offset
  | invalidDimensions width height =>
    "invalid buffer dimensions " ++ toString width ++ "x" ++ toString height
  | invalidStride stride width format =>
    "stride " ++ toString stride ++ " too small for width " ++ toString width ++ " in " ++
      format.name
  | outOfBounds offset size poolLength =>
    "buffer of " ++ toString size ++ " bytes at offset " ++ toString offset ++
      " exceeds pool of " ++ toString poolLength ++ " bytes"
  | unsupportedFormat format => "format " ++ format.name ++ " is not supported"
  | dead => deadText

namespace BufferGeometry

/-- The number of bytes from the first byte of the first row to the end of the last one, as an
unsigned 64-bit product. -/
def size (geometry : BufferGeometry) : Nat :=
  (geometry.height.toInt * geometry.stride.toInt % 18446744073709551616).toNat

/-- The size in bytes of a pixel, or 1 where it is not known. -/
def pixelSize (geometry : BufferGeometry) : Nat :=
  geometry.format.bytesPerPixel?.getD 1

def dimensions (geometry : BufferGeometry) : Size :=
  ⟨geometry.width, geometry.height⟩

/-- Checks a geometry against the length of a pool and the supported formats; the first condition
that fails is the one reported. -/
def check (geometry : BufferGeometry) (poolLength : Nat) (supported : List PixelFormat) :
    Except PoolError Unit :=
  let offset := geometry.offset.toInt
  let extent := geometry.height.toInt * geometry.stride.toInt
  if offset < 0 ∨ (poolLength : Int) ≤ offset then
    .error (.invalidOffset geometry.offset)
  else if geometry.width.toInt ≤ 0 ∨ geometry.height.toInt ≤ 0 then
    .error (.invalidDimensions geometry.width geometry.height)
  else if geometry.stride.toInt < geometry.width.toInt * geometry.pixelSize then
    .error (.invalidStride geometry.stride geometry.width geometry.format)
  else if (poolLength : Int) < offset + extent then
    .error (.outOfBounds geometry.offset extent poolLength)
  else if geometry.format ∉ supported then
    .error (.unsupportedFormat geometry.format)
  else .ok ()

end BufferGeometry

/-- Where a buffer is in its cycle between client and server. -/
inductive BufferState where
  /-- No surface refers to it. -/
  | free
  /-- Some surface will show it at its next commit. -/
  | attached
  /-- Some surface shows it. -/
  | current
  /-- The server is done with it, and the client may reuse it. -/
  | released
deriving DecidableEq, Repr

def BufferState.name : BufferState → String
  | free => "free"
  | attached => "attached"
  | current => "current"
  | released => "released"

/-- A buffer carved out of a pool. Its counters have no bound here; as long as handles last, they
stay below the largest number of 32 bits (`Server.refs_lt_size`). -/
structure Buffer where
  pool : PoolId
  geometry : BufferGeometry
  /-- The number of surfaces that will show the buffer at their next commit. -/
  pendingRefs : Nat := 0
  /-- The number of surfaces that show the buffer. -/
  currentRefs : Nat := 0
  /-- Whether the buffer was handed back since it was last shown. -/
  isReleased : Bool := false
deriving DecidableEq, Repr

namespace Buffer

def state (buffer : Buffer) : BufferState :=
  if 0 < buffer.currentRefs then .current
  else if 0 < buffer.pendingRefs then .attached
  else if buffer.isReleased then .released
  else .free

/-- One more surface will show the buffer. -/
def addPending (buffer : Buffer) : Buffer :=
  { buffer with pendingRefs := buffer.pendingRefs + 1 }

/-- One surface less will show the buffer. -/
def dropPending (buffer : Buffer) : Buffer :=
  { buffer with pendingRefs := buffer.pendingRefs - 1 }

/-- One more surface shows the buffer. -/
def addCurrent (buffer : Buffer) : Buffer :=
  { buffer with currentRefs := buffer.currentRefs + 1, isReleased := false }

/-- One surface less shows the buffer. -/
def dropCurrent (buffer : Buffer) : Buffer :=
  { buffer with currentRefs := buffer.currentRefs - 1 }

/-- Hands the buffer back to its client. -/
def release (buffer : Buffer) : Buffer :=
  { buffer with isReleased := true }

end Buffer

/-- Client memory that buffers are carved out of. -/
structure Pool where
  mapping : Mapping
  /-- The live buffers of the pool, oldest first. -/
  buffers : List BufferId := []
deriving DecidableEq, Repr

namespace Pool

def length (pool : Pool) : Nat := pool.mapping.length

/-- Lists a buffer, once. -/
def enlist (pool : Pool) (id : BufferId) : Pool :=
  if id ∈ pool.buffers then pool else { pool with buffers := pool.buffers ++ [id] }

/-- Strikes a buffer off the list. -/
def strike (pool : Pool) (id : BufferId) : Pool :=
  { pool with buffers := pool.buffers.filter (· ≠ id) }

end Pool

end DisplayServer
