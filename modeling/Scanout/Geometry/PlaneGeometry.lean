import Scanout.Geometry.Alignment

/-!
# Plane coordinates

What the display controller is told about a plane: the part of the framebuffer that is read, in
16.16 fixed point, and the pixels of the display it is shown on.
-/

namespace Scanout

structure PlaneGeometry where
  srcX : UInt32
  srcY : UInt32
  srcW : UInt32
  srcH : UInt32
  crtcX : Int32
  crtcY : Int32
  crtcW : UInt32
  crtcH : UInt32
  deriving DecidableEq, Repr

namespace PlaneGeometry

/-- `v` in 16.16 fixed point, for `v` of at most sixteen bits. -/
def fixedPoint (src : Rect) (v : Int32) : Except PresentError UInt32 :=
  if v.toUInt32.toNat * 65536 < 4294967296 then .ok (v.toUInt32 * 65536)
  else .error (.sourceTooLarge src)

def checkSource (src : Rect) : Except Fault Unit := do
  if (← Fault.ofArithmetic src.isEmpty) || src.x0 < 0 || src.y0 < 0 then
    .error (.refused (.badSource src))

def checkDestination (dst : Rect) : Except Fault Unit := do
  if ← Fault.ofArithmetic dst.isEmpty then .error (.refused (.badDestination dst))

/-- Shows `src` of a framebuffer at `dst` on the display, moved to the grid of `align`. -/
def ofRects (src dst : Rect) (align : Alignment) : Except Fault PlaneGeometry := do
  checkSource src
  checkDestination dst
  let srcX ← Fault.ofRefusal (fixedPoint src src.x0)
  let srcY ← Fault.ofRefusal (fixedPoint src src.y0)
  let srcW ← Fault.ofRefusal (fixedPoint src (← Fault.ofArithmetic src.width))
  let srcH ← Fault.ofRefusal (fixedPoint src (← Fault.ofArithmetic src.height))
  let crtcX ← Fault.ofArithmetic (align.alignOrigin dst.x0)
  let crtcY ← Fault.ofArithmetic (align.alignOrigin dst.y0)
  let crtcW ← Fault.ofArithmetic (align.alignExtent (← Fault.ofArithmetic dst.width).toUInt32)
  let crtcH ← Fault.ofArithmetic (align.alignExtent (← Fault.ofArithmetic dst.height).toUInt32)
  return { srcX, srcY, srcW, srcH, crtcX, crtcY, crtcW, crtcH }

end PlaneGeometry

end Scanout
