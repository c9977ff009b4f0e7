/-! # Pixel formats

A pixel format is named by a four-character code: four bytes read as a little-endian word. Only a
fixed set of codes is recognized, and for some of them, the packed formats, the size of a pixel is
known.
-/

namespace DisplayServer

/-- The word of four ASCII characters, the first in the lowest byte. -/
def fourCC (first second third fourth : Char) : UInt32 :=
  UInt32.ofNat (first.toNat + 256 * second.toNat + 65536 * third.toNat + 16777216 * fourth.toNat)

namespace PixelFormat

/-- The packed formats of one byte a pixel. -/
def packedOne : List UInt32 :=
  [fourCC 'C' '8' ' ' ' ', fourCC 'R' '8' ' ' ' ', fourCC 'R' 'G' 'B' '8', fourCC 'B' 'G' 'R' '8']

def packedTwo : List UInt32 :=
  [fourCC 'R' 'G' '1' '6', fourCC 'B' 'G' '1' '6', fourCC 'R' '1' '6' ' ', fourCC 'G' 'R' '8' '8',
   fourCC 'R' 'G' '8' '8', fourCC 'A' 'R' '1' '2', fourCC 'X' 'R' '1' '2', fourCC 'A' 'B' '1' '2',
   fourCC 'X' 'B' '1' '2', fourCC 'A' 'R' '1' '5', fourCC 'X' 'R' '1' '5', fourCC 'A' 'B' '1' '5',
   fourCC 'X' 'B' '1' '5']

def packedThree : List UInt32 :=
  [fourCC 'R' 'G' '2' '4', fourCC 'B' 'G' '2' '4']

def packedFour : List UInt32 :=
  [fourCC 'A' 'R' '2' '4', fourCC 'X' 'R' '2' '4', fourCC 'A' 'B' '2' '4', fourCC 'X' 'B' '2' '4',
   fourCC 'R' 'A' '2' '4', fourCC 'R' 'X' '2' '4', fourCC 'B' 'A' '2' '4', fourCC 'B' 'X' '2' '4',
   fourCC 'A' 'R' '3' '0', fourCC 'X' 'R' '3' '0', fourCC 'A' 'B' '3' '0', fourCC 'X' 'B' '3' '0']

def packedEight : List UInt32 :=
  [fourCC 'A' 'B' '4' 'H', fourCC 'X' 'B' '4' 'H']

/-- The formats whose pixels have no size of their own here: planar, subsampled, rare. -/
def unsized : List UInt32 :=
  [fourCC 'A' 'R' '4' 'H', fourCC 'A' 'B' '1' '0', fourCC 'A' 'Y' 'U' 'V', fourCC 'B' '5' 'A' '8',
   fourCC 'B' '8' 'A' '8', fourCC 'B' 'A' '3' '0', fourCC 'B' 'A' '1' '2', fourCC 'B' 'A' '1' '5',
   fourCC 'B' 'X' '3' '0', fourCC 'B' 'X' '1' '2', fourCC 'B' 'X' '1' '5', fourCC 'B' 'X' 'A' '8',
   fourCC 'G' 'R' '3' '2', fourCC 'N' 'V' '1' '2', fourCC 'N' 'V' '1' '5', fourCC 'N' 'V' '1' '6',
   fourCC 'N' 'V' '2' '1', fourCC 'N' 'V' '2' '4', fourCC 'N' 'V' '4' '2', fourCC 'N' 'V' '6' '1',
   fourCC 'P' '0' '1' '0', fourCC 'P' '0' '1' '2', fourCC 'P' '0' '1' '6', fourCC 'P' '2' '1' '0',
   fourCC 'Q' '4' '0' '1', fourCC 'Q' '4' '1' '0', fourCC 'R' 'G' '3' '2', fourCC 'R' '5' 'A' '8',
   fourCC 'R' '8' 'A' '8', fourCC 'R' 'A' '3' '0', fourCC 'R' 'A' '1' '2', fourCC 'R' 'A' '1' '5',
   fourCC 'R' 'X' '3' '0', fourCC 'R' 'X' '1' '2', fourCC 'R' 'X' '1' '5', fourCC 'R' 'X' 'A' '8',
   fourCC 'U' 'Y' 'V' 'Y', fourCC 'V' 'U' '3' '0', fourCC 'V' 'U' '2' '4', fourCC 'V' 'Y' 'U' 'Y',
   fourCC 'X' '0' 'L' '0', fourCC 'X' '0' 'L' '2', fourCC 'X' 'B' 'A' '8', fourCC 'X' 'R' '4' 'H',
   fourCC 'X' 'R' 'A' '8', fourCC 'X' 'V' '3' '6', fourCC 'X' 'V' '4' '8', fourCC 'X' 'V' '3' '0',
   fourCC 'X' 'Y' 'U' 'V', fourCC 'Y' '0' 'L' '0', fourCC 'Y' '0' 'L' '2', fourCC 'Y' '2' '1' '0',
   fourCC 'Y' '2' '1' '2', fourCC 'Y' '2' '1' '6', fourCC 'Y' '4' '1' '0', fourCC 'Y' '4' '1' '2',
   fourCC 'Y' '4' '1' '6', fourCC 'Y' 'U' 'V' '9', fourCC 'Y' 'U' '1' '1', fourCC 'Y' 'U' '1' '2',
   fourCC 'Y' 'U' '1' '0', fourCC 'Y' 'U' '0' '8', fourCC 'Y' 'U' '1' '6', fourCC 'Y' 'U' '2' '4',
   fourCC 'Y' 'U' 'Y' 'V', fourCC 'Y' 'V' 'U' '9', fourCC 'Y' 'V' '1' '1', fourCC 'Y' 'V' '1' '2',
   fourCC 'Y' 'V' '1' '6', fourCC 'Y' 'V' '2' '4', fourCC 'Y' 'V' 'Y' 'U']

/-- The word that marks a big-endian format; it has no text. -/
def bigEndian : UInt32 := 0x80000000

def recognizedCodes : List UInt32 :=
  packedOne ++ packedTwo ++ packedThree ++ packedFour ++ packedEight ++ unsized ++ [bigEndian]

/-- The size in bytes of a pixel of the format with this code, where it is known. -/
def pixelSize? (code : UInt32) : Option Nat :=
  if code ∈ packedOne then some 1
  else if code ∈ packedTwo then some 2
  else if code ∈ packedThree then some 3
  else if code ∈ packedFour then some 4
  else if code ∈ packedEight then some 8
  else none

/-- Whether a byte is an ASCII letter or digit. -/
def isLetterOrDigit (byte : Nat) : Bool :=
  (Char.ofNat byte).isAlphanum && decide (byte < 128)

/-- The characters of the last two bytes of a code: two ASCII characters, NUL shown as a space, or
one character written in two bytes. -/
def tailChars? (third fourth : Nat) : Option (List Char) :=
  let shown (byte : Nat) : Char := if byte = 0 then ' ' else Char.ofNat byte
  if third < 128 ∧ fourth < 128 then some [shown third, shown fourth]
  else if 194 ≤ third ∧ third < 224 ∧ 128 ≤ fourth ∧ fourth < 192 then
    some [Char.ofNat ((third - 192) * 64 + (fourth - 128))]
  else none

/-- The text of a code. A code has one if its bytes are well-formed text that starts with two ASCII
letters or digits. -/
def codeText? (code : UInt32) : Option String :=
  let byte (place : Nat) : Nat := (code.toNat >>> (8 * place)) % 256
  if isLetterOrDigit (byte 0) && isLetterOrDigit (byte 1) then
    (tailChars? (byte 2) (byte 3)).map fun rest =>
      String.ofList (Char.ofNat (byte 0) :: Char.ofNat (byte 1) :: rest)
  else none

/-- What is said of a code that is not recognized: its text, if it has one, and its number. -/
def unrecognizedText (code : UInt32) : String :=
  match codeText? code with
  | some text => "UnrecognizedFourcc(" ++ text ++ ", " ++ toString code ++ ")"
  | none => "UnrecognizedFourcc(" ++ toString code ++ ")"

end PixelFormat

/-- A recognized pixel format. -/
structure PixelFormat where
  code : UInt32
  recognized : code ∈ PixelFormat.recognizedCodes
deriving DecidableEq, Repr

namespace PixelFormat

/-- The format with a code, if the code is recognized. -/
def ofCode? (code : UInt32) : Option PixelFormat :=
  if recognized : code ∈ recognizedCodes then some ⟨code, recognized⟩ else none

/-- Eight bits each of alpha, red, green and blue; every server supports it. -/
def argb8888 : PixelFormat := ⟨fourCC 'A' 'R' '2' '4', by decide⟩

/-- Eight unused bits and eight bits each of red, green and blue; every server supports it. -/
def xrgb8888 : PixelFormat := ⟨fourCC 'X' 'R' '2' '4', by decide⟩

/-- The size of a pixel in bytes, known for packed formats only. -/
def bytesPerPixel? (format : PixelFormat) : Option Nat := pixelSize? format.code

/-- The four characters of a format. -/
def name (format : PixelFormat) : String := (codeText? format.code).getD ""

/-- A code is recognized exactly when some format has it. -/
theorem ofCode?_code (format : PixelFormat) : ofCode? format.code = some format := by
  simp [ofCode?, format.recognized]

/-- A format that is found by a code has this code. -/
theorem code_of_ofCode? {code : UInt32} {format : PixelFormat}
    (found : ofCode? code = some format) :
    format.code = code := by
  simp only [ofCode?] at found
  split at found
  · cases found; rfl
  · cases found

end PixelFormat

end DisplayServer
