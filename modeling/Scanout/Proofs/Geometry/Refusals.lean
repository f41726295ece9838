import Mathlib.Tactic.SplitIfs
import Scanout.Frame.Descriptor
import Scanout.Geometry.PlaneGeometry

/-!
# Why a frame is refused before it reaches the device

The checks on rectangles and layouts end in one of two ways that no device has a part in: an
arithmetic fault, or an error of a kind that tells the caller of an unusable frame.
-/

namespace Scanout

def Fault.kind? : Fault → Option ErrorKind
  | .refused error => some error.kind
  | .arithmetic _ | .unreadableVersion _ => none

/-- A fault that the checks of a frame can end in. -/
inductive Fault.FromCheck : Fault → Prop where
  | arithmetic (fault : ArithmeticFault) : FromCheck (.arithmetic fault)
  | invalidFrame {error : PresentError} (kind : error.kind = .invalidFrame) :
      FromCheck (.refused error)
  | unsupported {error : PresentError} (kind : error.kind = .unsupported) :
      FromCheck (.refused error)

theorem Fault.FromCheck.kind?_ne {fault : Fault} (checked : fault.FromCheck) :
    fault.kind? ≠ some .importing ∧ fault.kind? ≠ some .commit := by
  cases checked with
  | arithmetic => exact ⟨nofun, nofun⟩
  | invalidFrame kind => simp [kind?, kind]
  | unsupported kind => simp [kind?, kind]

/-- A fault that the checks of rectangles can end in. -/
inductive Fault.FromPlacement : Fault → Prop where
  | arithmetic (fault : ArithmeticFault) : FromPlacement (.arithmetic fault)
  | invalidFrame {error : PresentError} (kind : error.kind = .invalidFrame) :
      FromPlacement (.refused error)

theorem Fault.FromPlacement.fromCheck {fault : Fault} (checked : fault.FromPlacement) :
    fault.FromCheck := by
  cases checked with
  | arithmetic fault => exact .arithmetic fault
  | invalidFrame kind => exact .invalidFrame kind

/-- A computation that fails only as the check of a rectangle does. -/
def Checks {α : Type} (result : Except Fault α) : Prop :=
  ∀ fault, result = .error fault → fault.FromPlacement

namespace Checks

variable {α β : Type}

theorem pure (a : α) : Checks (Except.ok a) := nofun

theorem bind {first : Except Fault α} {next : α → Except Fault β} (checks : Checks first)
    (later : ∀ a, Checks (next a)) : Checks (first >>= next) := by
  intro fault failed
  cases first with
  | error e =>
    cases failed
    exact checks _ rfl
  | ok a => exact later a fault failed

theorem ofArithmetic (result : Except ArithmeticFault α) : Checks (Fault.ofArithmetic result) := by
  intro fault failed
  cases result with
  | error e =>
    cases failed
    exact .arithmetic e
  | ok a => cases failed

theorem fixedPoint (src : Rect) (v : Int32) :
    Checks (Fault.ofRefusal (PlaneGeometry.fixedPoint src v)) := by
  intro fault failed
  unfold PlaneGeometry.fixedPoint at failed
  split at failed
  · cases failed
  · cases failed
    exact .invalidFrame rfl

theorem checkSource (src : Rect) : Checks (PlaneGeometry.checkSource src) := by
  refine bind (ofArithmetic src.isEmpty) fun empty fault failed => ?_
  split at failed
  · cases failed
    exact .invalidFrame rfl
  · cases failed

theorem checkDestination (dst : Rect) : Checks (PlaneGeometry.checkDestination dst) := by
  refine bind (ofArithmetic dst.isEmpty) fun empty fault failed => ?_
  split at failed
  · cases failed
    exact .invalidFrame rfl
  · cases failed

theorem ofRects (src dst : Rect) (align : Alignment) :
    Checks (PlaneGeometry.ofRects src dst align) := by
  refine bind (checkSource src) fun _ => bind (checkDestination dst) fun _ => ?_
  refine bind (fixedPoint src _) fun srcX => bind (fixedPoint src _) fun srcY => ?_
  refine bind (ofArithmetic _) fun _ => bind (fixedPoint src _) fun srcW => ?_
  refine bind (ofArithmetic _) fun _ => bind (fixedPoint src _) fun srcH => ?_
  refine bind (ofArithmetic _) fun crtcX => bind (ofArithmetic _) fun crtcY => ?_
  refine bind (ofArithmetic _) fun _ => bind (ofArithmetic _) fun crtcW => ?_
  refine bind (ofArithmetic _) fun _ => bind (ofArithmetic _) fun crtcH => ?_
  exact pure _

end Checks

theorem FrameDescriptor.scanoutFormat_error {d : FrameDescriptor} {e : PresentError}
    (failed : d.scanoutFormat = .error e) : e.kind = .unsupported := by
  unfold scanoutFormat at failed
  split at failed
  · cases failed
  · split_ifs at failed
    cases failed
    rfl

end Scanout
