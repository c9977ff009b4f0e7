import DisplayServer.Arena
import DisplayServer.Bytes

/-! # Files that back client memory

A file has a length and a byte at every position in front of it, 0 where nothing was ever written.
It is kept as its length and the stretches that were written, so a file may be long and hold little.
The view of a file is `BackingFile.byteAt` together with `BackingFile.length`; the lemmas say what
writing and cutting do to it.
-/

namespace DisplayServer

/-- Bytes that were written to a file in one piece. -/
structure Stretch where
  /-- The position of the first byte. -/
  start : Nat
  bytes : Array UInt8
deriving DecidableEq, Repr

namespace Stretch

/-- The byte at a position of the file, if the stretch covers it. -/
def byte? (stretch : Stretch) (position : Nat) : Option UInt8 :=
  if stretch.start ≤ position then stretch.bytes[position - stretch.start]? else none

/-- Drops what does not lie in front of an end. -/
def cut (stretch : Stretch) (fileEnd : Nat) : Stretch :=
  { stretch with bytes := stretch.bytes.extract 0 (fileEnd - stretch.start) }

/-- Cutting leaves the bytes in front of the end. -/
theorem byte?_cut (stretch : Stretch) (fileEnd position : Nat) :
    (stretch.cut fileEnd).byte? position =
      if position < fileEnd then stretch.byte? position else none := by
  simp only [byte?, cut, Array.getElem?_extract, Nat.sub_zero, Nat.zero_add]
  grind

end Stretch

/-- A file that backs client memory. -/
structure BackingFile where
  length : Nat := 0
  /-- What was written, latest first. -/
  stretches : List Stretch := []
  /-- A sealed file keeps its mappings and refuses new ones. -/
  isSealed : Bool := false
  /-- Nothing is written past the end. -/
  byte?_past_end : ∀ stretch ∈ stretches, ∀ position, length ≤ position →
    stretch.byte? position = none := by simp
deriving DecidableEq, Repr

namespace BackingFile

/-- A file with the given contents. -/
def ofBytes (bytes : Bytes) : BackingFile where
  length := bytes.length
  stretches := [{ start := 0, bytes := bytes.toArray }]
  byte?_past_end := by simp +contextual [Stretch.byte?]

/-- The byte at a position. There is a 0 where nothing was written and past the end. -/
def byteAt (file : BackingFile) (position : Nat) : UInt8 :=
  (file.stretches.findSome? fun stretch => stretch.byte? position).getD 0

/-- Cuts the file to a length, or extends it with zeros. -/
def truncate (file : BackingFile) (length : Nat) : BackingFile where
  length
  stretches := file.stretches.map fun stretch => stretch.cut length
  isSealed := file.isSealed
  byte?_past_end := by
    intro stretch written position past
    obtain ⟨whole, _, rfl⟩ := List.mem_map.mp written
    rw [Stretch.byte?_cut, if_neg (Nat.not_lt.mpr past)]

/-- Writes bytes at a position, and extends the file where they do not fit. Where there are no bytes
to write, nothing happens. -/
def write (file : BackingFile) (position : Nat) (bytes : Bytes) : BackingFile :=
  if bytes.isEmpty then file
  else
    { length := max file.length (position + bytes.length)
      stretches := { start := position, bytes := bytes.toArray } :: file.stretches
      isSealed := file.isSealed
      byte?_past_end := by
        intro stretch written other past
        rcases List.mem_cons.mp written with rfl | earlier
        · simp only [Stretch.byte?, List.getElem?_toArray]
          split
          · exact List.getElem?_eq_none (by omega)
          · rfl
        · exact file.byte?_past_end stretch earlier other (by omega) }

/-- Refuses all further mappings. -/
def close (file : BackingFile) : BackingFile :=
  { file with isSealed := true }

/-- There are only zeros past the end. -/
theorem byteAt_of_length_le (file : BackingFile) (position : Nat) (past : file.length ≤ position) :
    file.byteAt position = 0 := by
  have nothing : (file.stretches.findSome? fun stretch => stretch.byte? position) = none :=
    List.findSome?_eq_none_iff.mpr fun stretch written =>
      file.byte?_past_end stretch written position past
  simp [byteAt, nothing]

/-- A file shows the contents that it was made with. -/
theorem byteAt_ofBytes (bytes : Bytes) (position : Nat) :
    (ofBytes bytes).byteAt position = bytes.getD position 0 := by
  simp only [byteAt, ofBytes, List.findSome?_singleton, Stretch.byte?, Nat.zero_le, if_true,
    Nat.sub_zero, List.getElem?_toArray, List.getD_eq_getElem?_getD]

/-- What is cut off is lost, and an extension holds zeros. -/
theorem byteAt_truncate (file : BackingFile) (length position : Nat) :
    (file.truncate length).byteAt position =
      if position < length then file.byteAt position else 0 := by
  simp only [byteAt, truncate, List.findSome?_map, Function.comp_def, Stretch.byte?_cut]
  split
  · rfl
  · rw [List.findSome?_eq_none_iff.mpr fun _ _ => rfl]
    rfl

/-- Written bytes show where they were written, and all other bytes stay. -/
theorem byteAt_write (file : BackingFile) (start : Nat) (bytes : Bytes) (position : Nat) :
    (file.write start bytes).byteAt position =
      if start ≤ position then (bytes[position - start]?).getD (file.byteAt position)
      else file.byteAt position := by
  simp only [write]
  split
  · rename_i empty
    simp [List.isEmpty_iff.mp empty]
  · simp only [byteAt, List.findSome?_cons, Stretch.byte?, List.getElem?_toArray]
    by_cases behind : start ≤ position
    · cases bytes[position - start]? <;> simp [behind]
    · simp [behind]

end BackingFile

end DisplayServer
