/-!
# Checked 32-bit arithmetic

Coordinates are signed and extents unsigned 32-bit words. An operation whose exact result does not
fit is a fault and has no value, so every result below is the exact integer.
-/

namespace Scanout

inductive ArithmeticFault where
  | addition
  | subtraction
  | multiplication
  | division
  | divisionByZero
  | shift
  deriving DecidableEq, Repr

def ArithmeticFault.message : ArithmeticFault → String
  | .addition => "attempt to add with overflow"
  | .subtraction => "attempt to subtract with overflow"
  | .multiplication => "attempt to multiply with overflow"
  | .division => "attempt to divide with overflow"
  | .divisionByZero => "attempt to divide by zero"
  | .shift => "attempt to shift left with overflow"

namespace Checked

/-- The word of value `v`, or `fault` if `v` is outside `-2^31 ≤ v < 2^31`. -/
def int32 (fault : ArithmeticFault) (v : Int) : Except ArithmeticFault Int32 :=
  if -2147483648 ≤ v ∧ v < 2147483648 then .ok (Int32.ofInt v) else .error fault

/-- The word of value `v`, or `fault` if `v` is not below `2^32`. -/
def uint32 (fault : ArithmeticFault) (v : Nat) : Except ArithmeticFault UInt32 :=
  if v < 4294967296 then .ok (UInt32.ofNat v) else .error fault

def sub (a b : Int32) : Except ArithmeticFault Int32 :=
  int32 .subtraction (a.toInt - b.toInt)

def mul (a b : Int32) : Except ArithmeticFault Int32 :=
  int32 .multiplication (a.toInt * b.toInt)

/-- Quotient with the remainder in `0 ≤ r < |b|`. -/
def div (a b : Int32) : Except ArithmeticFault Int32 :=
  if b = 0 then .error .divisionByZero else int32 .division (a.toInt / b.toInt)

def ceilDiv (a b : UInt32) : Except ArithmeticFault UInt32 :=
  if b = 0 then .error .divisionByZero
  else uint32 .division ((a.toNat + b.toNat - 1) / b.toNat)

def umul (a b : UInt32) : Except ArithmeticFault UInt32 :=
  uint32 .multiplication (a.toNat * b.toNat)

end Checked

end Scanout
