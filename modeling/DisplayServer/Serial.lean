/-! # Configure serials

Serials are 32-bit words that wrap. Two of them are ordered by the shorter way around the circle, so
that a serial drawn right after the wrap is still newer than those before it; two serials exactly
half the circle apart keep their numeric order. A counter never draws 0, which clients may use for
"no serial".
-/

namespace DisplayServer

/-- A serial that a client acknowledges a configuration with. -/
structure Serial where
  value : UInt32
deriving DecidableEq, Repr

namespace Serial

def numericOrder (a b : UInt32) : Ordering :=
  if a < b then .lt else if a = b then .eq else .gt

/-- The order of two serials on the circle, by the distance forward from `b` to `a`. -/
def order (a b : Serial) : Ordering :=
  let ahead := a.value - b.value
  if ahead = 0 then .eq
  else if ahead < 0x80000000 then .gt
  else if ahead = 0x80000000 then numericOrder a.value b.value
  else .lt

/-- Whether `a` was drawn together with `b` or after it. -/
def isNoOlderThan (a b : Serial) : Bool :=
  order a b != .lt

end Serial

/-- The source of the serials of one configure sequence. -/
structure SerialCounter where
  /-- The word to draw next; 0 stands for 1. -/
  next : UInt32 := 1
deriving DecidableEq, Repr

namespace SerialCounter

def draw (counter : SerialCounter) : Serial × SerialCounter :=
  let value := if counter.next = 0 then 1 else counter.next
  (⟨value⟩, ⟨value + 1⟩)

/-- The next `count` serials of a counter. -/
def take (counter : SerialCounter) : (count : Nat) → List Serial
  | 0 => []
  | count + 1 =>
    let (serial, rest) := counter.draw
    serial :: rest.take count

end SerialCounter

end DisplayServer
