import DisplayServer.Geometry

/-! # Messages

What the server says to its clients on the wire. An error is the last thing that a client is told.
-/

namespace DisplayServer.Wire

/-- What an object did wrong. The numbers are those of the interface of the object. -/
inductive ErrorCode where
  /-- The client does not belong to the server. -/
  | unmanagedClient
  | connectionGone
  | invalidFormat
  | invalidStride
  | invalidDescriptor
  | invalidScale
  | invalidTransform
  | invalidOffset
  /-- The surface has another role. -/
  | role
  | notConstructed
  | alreadyConstructed
deriving DecidableEq, Repr

def ErrorCode.number : ErrorCode → UInt32
  | unmanagedClient | connectionGone | invalidFormat | invalidScale | role => 0
  | invalidStride | invalidTransform | notConstructed => 1
  | invalidDescriptor | alreadyConstructed => 2
  | invalidOffset => 3

/-- How a client broke the rules of the wire itself. -/
inductive Violation where
  /-- An object is not there, or not of the kind it has to be. -/
  | invalidObject
  /-- The object has no such request. -/
  | invalidRequest
deriving DecidableEq, Repr

def Violation.number : Violation → UInt32
  | invalidObject => 0
  | invalidRequest => 1

/-- Something that the server says to a client. -/
inductive Message where
  /-- A capability is advertised. -/
  | global (name : String) (version : UInt32)
  /-- The object did something wrong. -/
  | error (code : ErrorCode) (text : String)
  | violation (violation : Violation)
  /-- A pixel format is supported. -/
  | format (number : UInt32)
  /-- The buffer may be reused. -/
  | release
  /-- The callback fired. -/
  | done (time : UInt32)
  /-- The toplevel is to take a size. -/
  | configureToplevel (size : Size)
  /-- What the window was asked for is to be acknowledged. -/
  | configureSurface (serial : UInt32)
  /-- The popup was dismissed. -/
  | popupDone
deriving DecidableEq, Repr

end DisplayServer.Wire
