import DisplayServer.BackingFile

/-! # Client memory

A client shares memory by handing over a descriptor of a file, of which the server maps as many
bytes as the client says. Mappings are shared: what the client writes to the file, and how it cuts
the file, shows through them. Memory comes in pages. A byte on a page that lies wholly past the end
of its file cannot be read, the read *faults*; on the last page of the file, bytes past its end read
as 0. After a fault the whole mapping is replaced by zeros (`Mapping.nullify`), and the file no
longer shows.
-/

namespace DisplayServer

/-- The name of a file that backs client memory. -/
abbrev FileId := Nat

/-- The files that back client memory. -/
abbrev Files := Arena FileId BackingFile

namespace Files

/-- The length of a file; a file that is not there is empty. -/
def length (files : Files) (file : FileId) : Nat :=
  ((files.get? file).map BackingFile.length).getD 0

/-- The byte at a position of a file. -/
def byteAt (files : Files) (file : FileId) (position : Nat) : UInt8 :=
  ((files.get? file).map fun backing => backing.byteAt position).getD 0

/-- Whether a file accepts new mappings. -/
def acceptsMappings (files : Files) (file : FileId) : Bool :=
  match files.get? file with
  | some backing => !backing.isSealed
  | none => false

end Files

/-- What may be done through a descriptor of a regular file. -/
inductive AccessMode where
  | readWrite
  | readOnly
  | writeOnly
  /-- The descriptor names the file and opens nothing. -/
  | pathOnly
deriving DecidableEq, Repr

/-- A descriptor that a client hands over. -/
inductive Descriptor where
  /-- A regular file. -/
  | regular (file : FileId) (mode : AccessMode)
  /-- Something else: a socket, a pipe, a device, a directory. -/
  | special
deriving DecidableEq, Repr

/-- What a range of memory shows. -/
structure Span where
  length : Nat
  byte : Nat → UInt8

namespace Span

/-- All bytes of a range. -/
def bytes (span : Span) : Bytes :=
  List.ofFn fun position : Fin span.length => span.byte position

/-- The byte at a position, if the range is that long. -/
def get? (span : Span) (position : Nat) : Option UInt8 :=
  if position < span.length then some (span.byte position) else none

/-- A range shows as many bytes as it is long. -/
theorem length_bytes (span : Span) : span.bytes.length = span.length :=
  List.length_ofFn

/-- A single byte is that of the whole. -/
theorem get?_eq (span : Span) (position : Nat) :
    span.get? position = span.bytes[position]? := by
  simp only [get?, bytes, List.getElem?_ofFn, dite_eq_ite]

end Span

/-- What a reader touches of a range of memory. -/
inductive Reading where
  /-- Every byte. -/
  | whole
  /-- The bytes at some positions of the range; there are none past its end. -/
  | positions (positions : List Nat)
deriving DecidableEq, Repr

namespace Reading

/-- Whether a reader of a range of some length touches a position of it. -/
def Touches (reading : Reading) (length position : Nat) : Prop :=
  position < length ∧
    match reading with
    | whole => True
    | positions listed => position ∈ listed

/-- Whether a reader of a range of some length touches a position that is not in front of a line. -/
def crosses (reading : Reading) (length line : Nat) : Bool :=
  match reading with
  | whole => decide (line < length)
  | positions listed => listed.any fun position => decide (line ≤ position ∧ position < length)

/-- A reader crosses a line exactly when it touches a position past it. -/
theorem crosses_iff (reading : Reading) (length line : Nat) :
    reading.crosses length line = true ↔
      ∃ position, line ≤ position ∧ reading.Touches length position := by
  cases reading with
  | whole =>
    simp only [crosses, Touches, decide_eq_true_eq, and_true]
    exact ⟨fun short => ⟨line, Nat.le_refl _, short⟩,
      fun ⟨_, past, inside⟩ => Nat.lt_of_le_of_lt past inside⟩
  | positions listed =>
    simp only [crosses, Touches, List.any_eq_true, decide_eq_true_eq]
    exact ⟨fun ⟨position, listed, past, inside⟩ => ⟨position, past, inside, listed⟩,
      fun ⟨position, past, inside, listed⟩ => ⟨position, listed, past, inside⟩⟩

end Reading

/-- A mapping of the front of a file. -/
structure Mapping where
  file : FileId
  /-- The number of mapped bytes. -/
  length : Nat
  /-- Whether the mapping was replaced by zeros. -/
  isNullified : Bool := false
deriving DecidableEq, Repr

def pageSize : Nat := 4096

namespace Mapping

/-- Maps the front of a file, for reading and writing, unless the file refuses. -/
def establish? (files : Files) (file : FileId) (mode : AccessMode) (length : Nat) :
    Option Mapping :=
  if mode = .readWrite ∧ files.acceptsMappings file then some { file, length } else none

/-- Replaces the mapping by zeros. -/
def nullify (mapping : Mapping) : Mapping :=
  { mapping with isNullified := true }

/-- The end of the last page that holds a byte of a file of some length. -/
def lastPageEnd (length : Nat) : Nat :=
  (length + pageSize - 1) / pageSize * pageSize

/-- The first position of a mapping that faults, if any position of it can. -/
def faultLine? (files : Files) (mapping : Mapping) : Option Nat :=
  if mapping.isNullified then none else some (lastPageEnd (files.length mapping.file))

/-- Whether reading a range of the mapping faults. -/
def faults (files : Files) (mapping : Mapping) (start length : Nat) (reading : Reading) : Bool :=
  match faultLine? files mapping with
  | none => false
  | some line => reading.crosses length (line - start)

/-- What a range of the mapping shows: the bytes of the file, zeros past its end, and zeros all over
after a fault. -/
def span (files : Files) (mapping : Mapping) (start length : Nat) : Span where
  length
  byte offset :=
    if mapping.isNullified then 0 else files.byteAt mapping.file (start + offset)

end Mapping

/-- What an operation finds around the server. -/
structure Host where
  /-- The files of the clients, as they are right now. -/
  files : Files
  /-- Whether client memory is being read already, by a read that this operation runs inside of. -/
  isReading : Bool := false
deriving Repr

end DisplayServer
