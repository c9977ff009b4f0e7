import DisplayServer.Memory

/-! # Arguments of requests

A request travels as one message: a header, and one argument after the other. Not everything that a
client can ask for fits into a message. A text ends at its first NUL, so it has none inside, and a
message has a greatest length (`Argument.fitMessage`).
-/

namespace DisplayServer.Wire

/-- The place of an object among those that its client created, oldest first. -/
abbrev ObjectIndex := Nat

/-- An argument of a request. -/
inductive Argument where
  | integer (value : Int32)
  | word (value : UInt32)
  | text (value : String)
  | descriptor (descriptor : Descriptor)
  | newObject
  | object (object : ObjectIndex)
  | none
deriving DecidableEq, Repr

namespace Argument

/-- The length of a word. -/
def wordLength : Nat := 4

/-- The length of the header of a message: the object that is concerned, and the request. -/
def headerLength : Nat := 2 * wordLength

/-- The greatest length of a message. -/
def messageLimit : Nat := 4096

/-- The length of an argument in a message. A text is led by its length and ended by a NUL, and
takes whole words; a descriptor travels beside the message. -/
def length : Argument → Nat
  | text value => wordLength + (value.utf8ByteSize + wordLength) / wordLength * wordLength
  | descriptor _ => 0
  | integer _ | word _ | newObject | object _ | none => wordLength

/-- Whether an argument can be written down: a text must not hold a NUL. -/
def isWritable : Argument → Bool
  | text value => !value.toList.contains '\x00'
  | integer _ | word _ | descriptor _ | newObject | object _ | none => true

/-- The number of bytes that some arguments take together. -/
def totalLength : List Argument → Nat
  | [] => 0
  | argument :: rest => argument.length + totalLength rest

/-- Whether a message can carry some arguments. -/
def fitMessage (arguments : List Argument) : Bool :=
  arguments.all isWritable && decide (headerLength + totalLength arguments ≤ messageLimit)

end Argument

end DisplayServer.Wire
