import Scanout.Error

/-!
# Alignment of a plane

A plane scaler places its picture on a grid. Origins go down and extents go up to the next grid
line, so the aligned picture covers the asked one.
-/

namespace Scanout

structure Alignment where
  /-- Origins are multiples of this. -/
  origin : UInt32
  /-- Extents are multiples of this. -/
  extent : UInt32
  deriving DecidableEq, Repr

namespace Alignment

instance : Inhabited Alignment := ⟨⟨2, 2⟩⟩

def isPowerOfTwo (v : UInt32) : Bool := v != 0 && v &&& (v - 1) == 0

/-- The policy of two powers of two; of two other numbers the origin is reported. -/
def ofGrid (origin extent : UInt32) : Except PresentError Alignment :=
  if !isPowerOfTwo origin then .error (.notPowerOfTwo .origin origin)
  else if !isPowerOfTwo extent then .error (.notPowerOfTwo .extent extent)
  else .ok ⟨origin, extent⟩

/-- `v` rounded down to the grid of origins, whose step is read as a signed word. -/
def alignOrigin (a : Alignment) (v : Int32) : Except ArithmeticFault Int32 := do
  let step := a.origin.toInt32
  Checked.mul (← Checked.div v step) step

/-- `v` rounded up to the grid of extents. -/
def alignExtent (a : Alignment) (v : UInt32) : Except ArithmeticFault UInt32 := do
  Checked.umul (← Checked.ceilDiv v a.extent) a.extent

end Alignment

end Scanout
