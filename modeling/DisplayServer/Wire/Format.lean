import DisplayServer.PixelFormat

/-! # Pixel formats on the wire

On the wire a format is a number: 0 and 1 for the two formats that every server supports, and the
four-character code for all others. The protocol names some formats that the server does not know.
-/

namespace DisplayServer.Wire

/-- The formats that only the protocol knows, by their codes. -/
def foreignFormats : List (UInt32 × String) :=
  [(fourCC 'X' 'R' '4' '8', "Xrgb16161616"), (fourCC 'X' 'B' '4' '8', "Xbgr16161616"),
   (fourCC 'A' 'R' '4' '8', "Argb16161616"), (fourCC 'A' 'B' '4' '8', "Abgr16161616"),
   (fourCC 'C' '1' ' ' ' ', "C1"), (fourCC 'C' '2' ' ' ' ', "C2"), (fourCC 'C' '4' ' ' ' ', "C4"),
   (fourCC 'D' '1' ' ' ' ', "D1"), (fourCC 'D' '2' ' ' ' ', "D2"), (fourCC 'D' '4' ' ' ' ', "D4"),
   (fourCC 'D' '8' ' ' ' ', "D8"), (fourCC 'R' '1' ' ' ' ', "R1"), (fourCC 'R' '2' ' ' ' ', "R2"),
   (fourCC 'R' '4' ' ' ' ', "R4"), (fourCC 'R' '1' '0' ' ', "R10"),
   (fourCC 'R' '1' '2' ' ', "R12"), (fourCC 'A' 'V' 'U' 'Y', "Avuy8888"),
   (fourCC 'X' 'V' 'U' 'Y', "Xvuy8888"), (fourCC 'P' '0' '3' '0', "P030"),
   (fourCC 'R' 'G' '4' '8', "Rgb161616"), (fourCC 'B' 'G' '4' '8', "Bgr161616"),
   (fourCC 'R' ' ' ' ' 'H', "R16f"), (fourCC 'G' 'R' ' ' 'H', "Gr1616f"),
   (fourCC 'B' 'G' 'R' 'H', "Bgr161616f"), (fourCC 'R' ' ' ' ' 'F', "R32f"),
   (fourCC 'G' 'R' ' ' 'F', "Gr3232f"), (fourCC 'B' 'G' 'R' 'F', "Bgr323232f"),
   (fourCC 'A' 'B' '8' 'F', "Abgr32323232f"), (fourCC 'N' 'V' '2' '0', "Nv20"),
   (fourCC 'N' 'V' '3' '0', "Nv30"), (fourCC 'S' '0' '1' '0', "S010"),
   (fourCC 'S' '2' '1' '0', "S210"), (fourCC 'S' '4' '1' '0', "S410"),
   (fourCC 'S' '0' '1' '2', "S012"), (fourCC 'S' '2' '1' '2', "S212"),
   (fourCC 'S' '4' '1' '2', "S412"), (fourCC 'S' '0' '1' '6', "S016"),
   (fourCC 'S' '2' '1' '6', "S216"), (fourCC 'S' '4' '1' '6', "S416"),
   (fourCC 'X' 'Y' '3' '0', "Xvuy2101010"), (fourCC 'P' '2' '3' '0', "P230"),
   (fourCC 'T' '4' '3' '0', "T430"), (fourCC 'G' 'R' 'E' 'Y', "Y8"),
   (fourCC 'Y' 'P' 'A' '4', "Xyyy2101010")]

/-- What a number on the wire stands for. -/
inductive WireFormat where
  /-- A format that the server knows. -/
  | known (format : PixelFormat)
  /-- A format that only the protocol knows, by its name. -/
  | foreign (name : String)
  | unknown
deriving DecidableEq, Repr

/-- The codes that stand for no format on the wire, though the server recognizes them. -/
def codesNotOnWire : List UInt32 :=
  [PixelFormat.argb8888.code, PixelFormat.xrgb8888.code, PixelFormat.bigEndian]

/-- The format of a number on the wire. -/
def formatOf (value : UInt32) : WireFormat :=
  if value = 0 then .known .argb8888
  else if value = 1 then .known .xrgb8888
  else if value ∈ codesNotOnWire then .unknown
  else
    match PixelFormat.ofCode? value with
    | some format => .known format
    | none =>
      match foreignFormats.lookup value with
      | some name => .foreign name
      | none => .unknown

/-- The number of a format on the wire, if it has one. -/
def numberOf? (format : PixelFormat) : Option UInt32 :=
  if format = .argb8888 then some 0
  else if format = .xrgb8888 then some 1
  else if format.code = PixelFormat.bigEndian then none
  else some format.code

end DisplayServer.Wire
