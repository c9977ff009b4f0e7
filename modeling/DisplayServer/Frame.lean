import DisplayServer.Bytes
import DisplayServer.Text.Hexadecimal

/-! # Frames

A frame is a header of four little-endian words, the magic number, the type of the payload, its
length and the sum of its bytes, followed by the payload. `encode` writes a frame; `decode` reads
one and checks, in this order, that the header is complete, that the magic number is right, that the
length is the declared one and that the bytes sum up.
-/

namespace DisplayServer.Frame

/-- The word that starts every frame. -/
def magicNumber : UInt32 := 0x54455353

/-- The type of a frame that carries a buffer snapshot. -/
def snapshotType : UInt32 := 1

def headerLength : Nat := 16

/-- The header of a frame. -/
structure Header where
  /-- `magicNumber` in a valid frame. -/
  magic : UInt32
  /-- What kind of payload follows. -/
  type : UInt32
  /-- The length of the payload in bytes. -/
  size : UInt32
  /-- The sum of the bytes of the payload, modulo 2^32. -/
  checksum : UInt32
deriving DecidableEq, Repr

/-- Why bytes are not a frame, or a payload not a snapshot. -/
inductive FrameError where
  /-- Fewer bytes than the fixed part takes. -/
  | truncated (needed got : Nat)
  /-- The frame starts with another word. -/
  | badMagic (found : UInt32)
  /-- The declared length is not the one carried. -/
  | lengthMismatch (declared actual : Nat)
  /-- The declared sum is not that of the payload. -/
  | checksumMismatch (expected actual : UInt32)
  /-- No kind of buffer has this tag. -/
  | unknownKind (tag : UInt32)
  /-- No pixel format has this code. -/
  | unknownFormat (code : UInt32)
deriving DecidableEq, Repr

def FrameError.message : FrameError → String
  | truncated needed got =>
    "frame truncated: need " ++ toString needed ++ " bytes, got " ++ toString got
  | badMagic found => "bad frame magic " ++ Text.hexPadded found
  | lengthMismatch declared actual =>
    "frame declares " ++ toString declared ++ " payload bytes, carries " ++ toString actual
  | checksumMismatch expected actual =>
    "checksum mismatch: header says " ++ Text.hexPadded expected ++ ", payload sums to " ++
      Text.hexPadded actual
  | unknownKind tag => "unknown buffer kind " ++ toString tag
  | unknownFormat code => "unknown pixel format " ++ Text.hexPadded code

namespace Header

def toBytes (header : Header) : Bytes :=
  Bytes.word header.magic ++ Bytes.word header.type ++ Bytes.word header.size ++
    Bytes.word header.checksum

/-- The header at the front of some bytes; its magic number is checked. -/
def parse (bytes : Bytes) : Except FrameError Header :=
  if bytes.length < headerLength then .error (.truncated headerLength bytes.length)
  else
    let header : Header :=
      ⟨bytes.wordAt 0, bytes.wordAt 4, bytes.wordAt 8, bytes.wordAt 12⟩
    if header.magic = magicNumber then .ok header else .error (.badMagic header.magic)

end Header

/-- Wraps a payload into a frame of some type. -/
def encode (type : UInt32) (payload : Bytes) : Bytes :=
  Header.toBytes ⟨magicNumber, type, UInt32.ofNat payload.length, Bytes.checksum payload⟩ ++ payload

/-- Splits a frame into its header and its payload. -/
def decode (frame : Bytes) : Except FrameError (Header × Bytes) := do
  let header ← Header.parse frame
  let payload := frame.drop headerLength
  if payload.length ≠ header.size.toNat then
    .error (.lengthMismatch header.size.toNat payload.length)
  else if Bytes.checksum payload ≠ header.checksum then
    .error (.checksumMismatch header.checksum (Bytes.checksum payload))
  else .ok (header, payload)

end DisplayServer.Frame
