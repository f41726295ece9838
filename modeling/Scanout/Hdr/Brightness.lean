import Scanout.Frame.Color

/-!
# Brightness as a 16-bit count

A brightness is an IEEE 754 single. The two counts of the metadata are the brightness in cd/m² and
in units of 0.0001 cd/m². The multiplication of the latter is rounded to a single as well, and both
round to the nearest count with halves away from zero. Counts below the range are its lowest, above
it its highest, and what is not a number counts as zero.
-/

namespace Scanout

namespace Luminance

/-- `mantissa * 2 ^ exponent`, for a number that is not negative, or what stands beyond. -/
inductive Magnitude where
  | finite (mantissa : Nat) (exponent : Int)
  | infinite
  deriving DecidableEq, Repr

/-- What the bits stand for; nothing for negative numbers and for what is not a number, which all
count as zero. -/
def magnitude? (l : Luminance) : Option Magnitude :=
  let word := l.bits.toNat
  let exponent : Nat := word / Nat.pow 2 23 % Nat.pow 2 8
  let fraction : Nat := word % Nat.pow 2 23
  if word / Nat.pow 2 31 = 1 then none
  else if exponent = 255 then
    if fraction = 0 then some .infinite else none
  else if exponent = 0 then some (.finite fraction (-149))
  else some (.finite (Nat.pow 2 23 + fraction) ((exponent : Int) - 150))

/-- The quotient rounded to the nearest number, a half to the even neighbour. -/
def divToEven (n d : Nat) : Nat :=
  let q := n / d
  let twice := 2 * (n % d)
  if twice < d ∨ (twice = d ∧ q % 2 = 0) then q else q + 1

def roundSingle (m : Nat) : Nat :=
  let spare := Nat.pow 2 (m.log2 - 23)
  divToEven m spare * spare

/-- `m * 2 ^ e` rounded to the nearest number, a half upwards. -/
def roundHalfUp (m : Nat) (e : Int) : Nat :=
  match e with
  | .ofNat shift => m * Nat.pow 2 shift
  | .negSucc shift => (2 * m + Nat.pow 2 (shift + 1)) / Nat.pow 2 (shift + 2)

/-- The count of `scale`-ths of a cd/m². -/
def count (scale : Nat) (l : Luminance) : UInt16 :=
  match l.magnitude? with
  | none => 0
  | some .infinite => 65535
  | some (.finite m e) => UInt16.ofNat (min (roundHalfUp (roundSingle (m * scale)) e) 65535)

def whole (l : Luminance) : UInt16 := l.count 1

def tenThousandths (l : Luminance) : UInt16 := l.count 10000

end Luminance

end Scanout
