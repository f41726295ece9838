import Scanout.Geometry.Rect

/-!
# Placing a rectangle on the display

The player positions video in the coordinates of its own surface, which may be smaller than the
display. The surface is scaled by one factor, the smaller ratio of the two axes, and centred, and
the rectangle goes with it. All of this is double precision; corners round half away from zero and
saturate at the ends of the coordinate range.
-/

namespace Scanout

namespace Placement

/-- The whole number nearest to a double, away from zero at a half. What is infinite lies beyond
every coordinate, and what is no number counts as zero. -/
def nearest (x : Float) : Int :=
  match x.toModel.unpack with
  | .finite sign mantissa exponent _ =>
    -- `⌊mantissa * 2 ^ exponent + 1 / 2⌋`; one of the shifts by the exponent is by nothing.
    let below := (-exponent).toNat
    sign.apply ↑((mantissa <<< (exponent.toNat + 1) + 1 <<< below) >>> (below + 1))
  | .infinity sign => sign.apply 2147483648
  | .zero _ | .notANumber => 0

def coordinate (ratio offset : Float) (v : Int32) : Int32 :=
  .ofIntClamp (nearest (.ofInt v.toInt * ratio + offset))

/-- What is left of `display` beside a surface of `source` scaled by `ratio`, on one side. -/
def margin (ratio : Float) (display source : UInt32) : Float :=
  (display.toFloat - ratio * source.toFloat) / 2.0

end Placement

/-- `logical`, given on a surface of size `source`, in the pixels of `display`. An empty surface
leaves it as it is. -/
def computeDestination (display source : Size) (logical : Rect) : Rect :=
  if source.isEmpty then logical
  else
    let across := display.width.toFloat / source.width.toFloat
    let down := display.height.toFloat / source.height.toFloat
    let ratio := if down < across then down else across
    let left := Placement.margin ratio display.width source.width
    let top := Placement.margin ratio display.height source.height
    { x0 := Placement.coordinate ratio left logical.x0
      y0 := Placement.coordinate ratio top logical.y0
      x1 := Placement.coordinate ratio left logical.x1
      y1 := Placement.coordinate ratio top logical.y1 }

end Scanout
