/-! # Points, sizes, rectangles and transforms

Coordinates and extents are 32-bit integers, as clients send them. The far edges of a rectangle are
computed with a saturating sum (`Rectangle.contains`); `Rectangle.Covers` is the membership the
rectangle stands for, in unbounded integers.
-/

namespace DisplayServer

/-- A position, in surface coordinates. -/
structure Point where
  /-- Horizontal coordinate. -/
  x : Int32
  /-- Vertical coordinate. -/
  y : Int32
deriving DecidableEq, Repr

/-- The origin. -/
def Point.zero : Point := ⟨0, 0⟩

/-- The extent of something flat. -/
structure Size where
  /-- Width. -/
  w : Int32
  /-- Height. -/
  h : Int32
deriving DecidableEq, Repr

namespace Size

/-- No extent at all. -/
def zero : Size := ⟨0, 0⟩

/-- A size is positive when both dimensions are. -/
def isPositive (size : Size) : Bool :=
  decide (0 < size.w) && decide (0 < size.h)

end Size

/-- A rectangle, given by its top-left corner and its extent. -/
structure Rectangle where
  /-- The top-left corner. -/
  loc : Point
  /-- The extent. -/
  size : Size
deriving DecidableEq, Repr

/-- The sum of two 32-bit integers, held at the nearest bound where it would leave the range. -/
def saturatingAdd (a b : Int32) : Int32 :=
  Int32.ofInt (max (-2147483648) (min 2147483647 (a.toInt + b.toInt)))

namespace Rectangle

/-- The rectangle at `(x, y)` of extent `w` by `h`. -/
def ofEdges (x y w h : Int32) : Rectangle := ⟨⟨x, y⟩, ⟨w, h⟩⟩

/-- Whether a point lies inside. The near edges belong to the rectangle, the far edges do not; a far
edge beyond the coordinate range is held at its bound. -/
def contains (rect : Rectangle) (point : Point) : Bool :=
  decide (rect.loc.x ≤ point.x) && decide (point.x < saturatingAdd rect.loc.x rect.size.w) &&
    decide (rect.loc.y ≤ point.y) && decide (point.y < saturatingAdd rect.loc.y rect.size.h)

/-- Exact membership, in unbounded integers. -/
def Covers (rect : Rectangle) (point : Point) : Prop :=
  rect.loc.x.toInt ≤ point.x.toInt ∧ point.x.toInt < rect.loc.x.toInt + rect.size.w.toInt ∧
    rect.loc.y.toInt ≤ point.y.toInt ∧ point.y.toInt < rect.loc.y.toInt + rect.size.h.toInt

/-- The text of a rectangle in diagnostics, with the names of its parts. -/
def diagnostic (rect : Rectangle) : String :=
  let x := toString rect.loc.x
  let y := toString rect.loc.y
  let w := toString rect.size.w
  let h := toString rect.size.h
  "Rectangle \x7b loc: Point \x7b x: " ++ x ++ ", y: " ++ y ++ " \x7d, size: Size \x7b w: " ++ w ++
    ", h: " ++ h ++ " \x7d \x7d"

end Rectangle

/-- The eight ways to turn and flip a plane. -/
inductive Transform where
  | normal
  | rotated90
  | rotated180
  | rotated270
  | flipped
  | flipped90
  | flipped180
  | flipped270
deriving DecidableEq, Repr

namespace Transform

/-- All transforms, in the order of their numbers on the wire. -/
def all : List Transform :=
  [normal, rotated90, rotated180, rotated270, flipped, flipped90, flipped180, flipped270]

/-- The transform of a wire number, if the number stands for one. -/
def ofWire? (value : Int) : Option Transform :=
  if value < 0 then none else all[value.toNat]?

/-- The name of a transform. -/
def name : Transform → String
  | normal => "normal"
  | rotated90 => "90"
  | rotated180 => "180"
  | rotated270 => "270"
  | flipped => "flipped"
  | flipped90 => "flipped90"
  | flipped180 => "flipped180"
  | flipped270 => "flipped270"

/-- The transform of a name. -/
def ofName? (text : String) : Option Transform :=
  all.find? fun transform => transform.name == text

end Transform

end DisplayServer
