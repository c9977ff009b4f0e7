import DisplayServer.Buffer
import DisplayServer.Frame

/-! # Buffer snapshots

A snapshot is a copy of the contents of a buffer. Its payload form is six words, the width, the
height, the tag of the kind of buffer, the format, the length of the data and the stride, followed
by the data. `toPayload` writes it and `ofPayload` reads it.
-/

namespace DisplayServer

/-- What kind of storage backs a buffer. -/
inductive BufferKind where
  | sharedMemory
deriving DecidableEq, Repr

namespace BufferKind

def tag : BufferKind → UInt32
  | sharedMemory => 1

def ofTag? (tag : UInt32) : Option BufferKind :=
  if tag = 1 then some sharedMemory else none

end BufferKind

/-- A copy of the contents of a buffer. -/
structure Snapshot where
  width : Int32
  height : Int32
  /-- What backed the buffer. -/
  kind : BufferKind := .sharedMemory
  format : PixelFormat
  /-- The declared length of the data. -/
  size : UInt32
  /-- The distance of two rows in bytes. -/
  stride : Int32
  data : Bytes
deriving DecidableEq, Repr

namespace Snapshot

/-- The length of the words in front of the data. -/
def fieldsLength : Nat := 24

/-- The snapshot of a buffer with some contents. -/
def ofContents (geometry : BufferGeometry) (contents : Bytes) : Snapshot where
  width := geometry.width
  height := geometry.height
  format := geometry.format
  size := UInt32.ofNat contents.length
  stride := geometry.stride
  data := contents

def toPayload (snapshot : Snapshot) : Bytes :=
  Bytes.word snapshot.width.toUInt32 ++ Bytes.word snapshot.height.toUInt32 ++
    Bytes.word snapshot.kind.tag ++ Bytes.word snapshot.format.code ++
    Bytes.word snapshot.size ++ Bytes.word snapshot.stride.toUInt32 ++ snapshot.data

def ofPayload (payload : Bytes) : Except Frame.FrameError Snapshot :=
  if payload.length < fieldsLength then .error (.truncated fieldsLength payload.length)
  else
    match BufferKind.ofTag? (payload.wordAt 8) with
    | none => .error (.unknownKind (payload.wordAt 8))
    | some kind =>
      match PixelFormat.ofCode? (payload.wordAt 12) with
      | none => .error (.unknownFormat (payload.wordAt 12))
      | some format =>
        let size := payload.wordAt 16
        let data := payload.drop fieldsLength
        if data.length ≠ size.toNat then .error (.lengthMismatch size.toNat data.length)
        else
          .ok
            { width := ⟨payload.wordAt 0⟩
              height := ⟨payload.wordAt 4⟩
              kind, format, size
              stride := ⟨payload.wordAt 20⟩
              data }

def toFrame (snapshot : Snapshot) : Bytes :=
  Frame.encode Frame.snapshotType snapshot.toPayload

def ofFrame (frame : Bytes) : Except Frame.FrameError (Frame.Header × Snapshot) := do
  let (header, payload) ← Frame.decode frame
  return (header, ← ofPayload payload)

end Snapshot

end DisplayServer
