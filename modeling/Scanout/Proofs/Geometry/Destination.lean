import Mathlib.Data.Rat.Floor
import Mathlib.Tactic.Ring
import Scanout.Geometry.Destination

/-!
# Where a rectangle comes to stand on the display

The corners of a rectangle are scaled and shifted in double precision, so what can be said of them is
said of the doubles: by which formula each comes about, and that the coordinate is the exact value of
the double, rounded.
-/

namespace Scanout.Placement

open Float.Model UnpackedFloat

/-- A double as a coordinate: its value is rounded to the nearest whole number, away from zero at a
half, and kept within the range of coordinates. -/
def RoundsTo (x : Float) (c : Int32) : Prop :=
  match x.toModel.unpack with
  | .notANumber | .zero _ => c.toInt = 0
  | .infinity .negative => c.toInt = -2 ^ 31
  | .infinity .positive => c.toInt = 2 ^ 31 - 1
  | .finite sign mantissa exponent _ =>
    c.toInt = max (-2 ^ 31) (min (2 ^ 31 - 1) (sign.apply ⌊(mantissa : ℚ) * 2 ^ exponent + 1 / 2⌋))

theorem toInt_ofIntClamp (i : Int) :
    (Int32.ofIntClamp i).toInt = max (-2 ^ 31) (min (2 ^ 31 - 1) i) := by
  have least : Int32.minValue.toInt = -2 ^ 31 := by decide
  have greatest : Int32.maxValue.toInt = 2 ^ 31 - 1 := by decide
  unfold Int32.ofIntClamp
  split
  · split
    · rw [Int32.toInt_ofIntLE]
      omega
    · omega
  · omega

theorem two_zpow_eq_div (e : Int) : (2 : ℚ) ^ e = 2 ^ e.toNat / 2 ^ (-e).toNat := by
  obtain ⟨n, rfl | rfl⟩ := e.eq_nat_or_neg
  · simp
  · simp

/-- Adding a half before the division by a power of two rounds what is not negative. -/
theorem half_up_eq_floor (mantissa : Nat) (e : Int) :
    (((mantissa <<< (e.toNat + 1) + 1 <<< (-e).toNat) >>> ((-e).toNat + 1) : Nat) : Int)
      = ⌊(mantissa : ℚ) * 2 ^ e + 1 / 2⌋ := by
  rw [Nat.shiftLeft_eq, Nat.shiftLeft_eq, Nat.shiftRight_eq_div_pow]
  have value : (mantissa : ℚ) * 2 ^ e + 1 / 2
      = ((mantissa * 2 ^ (e.toNat + 1) + 1 * 2 ^ (-e).toNat : Nat) : ℚ)
        / ((2 ^ ((-e).toNat + 1) : Nat) : ℚ) := by
    rw [two_zpow_eq_div]
    push_cast
    field_simp
    ring
  rw [value, Rat.floor_natCast_div_natCast, Int.natCast_div]

theorem coordinate_roundsTo (ratio offset : Float) (v : Int32) :
    RoundsTo (.ofInt v.toInt * ratio + offset) (coordinate ratio offset v) := by
  unfold RoundsTo coordinate nearest
  generalize Float.ofInt v.toInt * ratio + offset = x
  cases x.toModel.unpack with
  | notANumber | zero => rfl
  | infinity sign => cases sign <;> rfl
  | finite sign mantissa exponent =>
    dsimp only
    rw [toInt_ofIntClamp, half_up_eq_floor]

/-- A rectangle that is given on a surface, as it stands on a display. The surface is scaled by the
smaller ratio of the two, and what the display has beside it is halved. -/
structure Scaled (display surface : Size) (given placed : Rect) : Prop where
  empty : surface.width = 0 ∨ surface.height = 0 → placed = given
  corners : surface.width ≠ 0 → surface.height ≠ 0 → ∃ across down ratio left top : Float,
    across = display.width.toFloat / surface.width.toFloat ∧
    down = display.height.toFloat / surface.height.toFloat ∧
    ratio = (if down < across then down else across) ∧
    left = (display.width.toFloat - ratio * surface.width.toFloat) / 2 ∧
    top = (display.height.toFloat - ratio * surface.height.toFloat) / 2 ∧
    RoundsTo (.ofInt given.x0.toInt * ratio + left) placed.x0 ∧
    RoundsTo (.ofInt given.y0.toInt * ratio + top) placed.y0 ∧
    RoundsTo (.ofInt given.x1.toInt * ratio + left) placed.x1 ∧
    RoundsTo (.ofInt given.y1.toInt * ratio + top) placed.y1

theorem isEmpty_iff (size : Size) : size.isEmpty = true ↔ size.width = 0 ∨ size.height = 0 := by
  simp [Size.isEmpty]

theorem computeDestination_scaled (display surface : Size) (given : Rect) :
    Scaled display surface given (computeDestination display surface given) := by
  constructor
  · intro empty
    rw [computeDestination, if_pos ((isEmpty_iff surface).mpr empty)]
  · intro wide high
    have nonempty : ¬surface.isEmpty = true := fun empty =>
      ((isEmpty_iff surface).mp empty).elim wide high
    rw [computeDestination, if_neg nonempty]
    exact ⟨_, _, _, _, _, rfl, rfl, rfl, rfl, rfl, coordinate_roundsTo _ _ _,
      coordinate_roundsTo _ _ _, coordinate_roundsTo _ _ _, coordinate_roundsTo _ _ _⟩

/-- The surface is scaled by three halves: halves go away from zero, and the last corner saturates. -/
example : computeDestination ⟨1920, 1080⟩ ⟨1280, 720⟩ ⟨3, -15, 200, 2147483647⟩
    = ⟨5, -23, 300, 2147483647⟩ := by
  decide

end Scanout.Placement
