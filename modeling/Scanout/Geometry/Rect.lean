import Scanout.Arithmetic.Checked

/-!
# Sizes and rectangles

A rectangle is given by two corners. Its extents are differences of coordinates, so they can fail
to be words; emptiness looks at the height only where the width is positive.
-/

namespace Scanout

structure Size where
  width : UInt32
  height : UInt32
  deriving DecidableEq, Repr, Inhabited

namespace Size

def isEmpty (s : Size) : Bool := s.width == 0 || s.height == 0

def text (s : Size) : String := s!"{s.width}x{s.height}"

def fieldText (s : Size) : String :=
  s!"Size \x7b width: {s.width}, height: {s.height} \x7d"

end Size

/-- The pixels from `(x0, y0)` up to and without `(x1, y1)`. -/
structure Rect where
  x0 : Int32
  y0 : Int32
  x1 : Int32
  y1 : Int32
  deriving DecidableEq, Repr, Inhabited

namespace Rect

def width (r : Rect) : Except ArithmeticFault Int32 := Checked.sub r.x1 r.x0

def height (r : Rect) : Except ArithmeticFault Int32 := Checked.sub r.y1 r.y0

def isEmpty (r : Rect) : Except ArithmeticFault Bool := do
  if (← r.width) ≤ 0 then return true
  return (← r.height) ≤ 0

def fieldText (r : Rect) : String :=
  s!"Rect \x7b x0: {r.x0}, y0: {r.y0}, x1: {r.x1}, y1: {r.y1} \x7d"

end Rect

end Scanout
